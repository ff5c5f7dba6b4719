import SimpleRtsp.Rtsp.HeaderValue

/-!
# Digest headers

A request with a digest header is rendered from its fields, and `find_authorization` looks for every
field by the name alone. The name may stand in an earlier key or value: `Leads` says what is read
then, from the first field that mentions the name. `recovers_iff` says that all five fields come
back exactly if the name of each of them leads to its value and no byte 0 ends the text before the
line does.
-/

namespace SimpleRtsp

open CString

/-- No quote and no end of a line. -/
def Plain (s : List UInt8) : Prop := ∀ b ∈ s, b ≠ 0x22 ∧ b ≠ 0x0D ∧ b ≠ 0x0A

instance : DecidablePred Plain := fun s =>
  List.decidableBAll (fun b => b ≠ 0x22 ∧ b ≠ 0x0D ∧ b ≠ 0x0A) s

/-- A field `key="value"`, with blanks in front of it. -/
structure Field where
  blanks : Nat
  key : List UInt8
  value : List UInt8
  key_plain : Plain key
  value_plain : Plain value

namespace Field

def text (f : Field) : List UInt8 :=
  List.replicate f.blanks 0x20 ++ f.key ++ str "=\"" ++ f.value ++ str "\""

def others : List Field → List UInt8
  | [] => []
  | f :: rest => str "," ++ f.text ++ others rest

def listText : List Field → List UInt8
  | [] => []
  | f :: rest => f.text ++ others rest

/-- What stands between the value of a field and the value of the next one, without the quotes. -/
def separator (next : Field) : List UInt8 :=
  str "," ++ List.replicate next.blanks 0x20 ++ next.key ++ str "="

end Field

/-- A request with one digest header. The lines in front of it do not contain its key. -/
structure DigestRequest where
  before : List (List UInt8)
  fields : List Field
  eol : List UInt8
  after : List UInt8
  ends : eol = str "\r\n" ∨ eol = str "\n"
  before_free : ∀ line ∈ before, ¬ authorizationKey <:+: line
  distinct : (fields.map Field.key).Nodup
  complete : ∀ name ∈ fieldNames, str name ∈ fields.map Field.key

namespace DigestRequest

def value (r : DigestRequest) : List UInt8 := str "Digest " ++ Field.listText r.fields

def request (r : DigestRequest) : List UInt8 :=
  r.before.flatMap (· ++ str "\n") ++ authorizationKey ++ r.value ++ r.eol ++ r.after

/-- Every field has the value that was rendered for its key. -/
def Recovers (r : DigestRequest) : Prop :=
  ∃ info, findAuthorization (cstr r.request) = .ok (some info) ∧
    ∀ p ∈ info.entries, ∀ f ∈ r.fields, f.key = str p.1 → p.2 = some f.value

/-- No byte 0, which ends a C string, stands in front of the end of the header line. -/
structure NulFree (r : DigestRequest) : Prop where
  before : ∀ line ∈ r.before, 0 ∉ line
  value : 0 ∉ r.value

end DigestRequest

/-- The first of the fields that mentions `key` leads to `value`. -/
inductive Leads (key value : List UInt8) : List Field → Prop
  /-- its own key ends with `key`, like the one that is looked for -/
  | keyEnd {f : Field} {rest : List Field} : strstr f.key key = some key → value = f.value →
      Leads key value (f :: rest)
  /-- its own key goes on behind `key` -/
  | inKey {f : Field} {rest : List Field} {behind : List UInt8} :
      strstr f.key key = some (key ++ behind) → behind ≠ [] →
      value = (behind ++ str "=").drop 2 → Leads key value (f :: rest)
  /-- `key` stands in its value -/
  | inValue {f : Field} {rest : List Field} {behind : List UInt8} : strstr f.key key = none →
      strstr f.value key = some (key ++ behind) → 2 ≤ behind.length → value = behind.drop 2 →
      Leads key value (f :: rest)
  /-- `key` stands at the end of its value, or one character in front of it -/
  | valueEnd {f next : Field} {rest : List Field} {behind : List UInt8} :
      strstr f.key key = none → strstr f.value key = some (key ++ behind) → behind.length < 2 →
      value = next.separator.drop (1 - behind.length) → Leads key value (f :: next :: rest)
  /-- it does not mention `key` -/
  | later {f : Field} {rest : List Field} : strstr f.key key = none → strstr f.value key = none →
      Leads key value rest → Leads key value (f :: rest)

/-! ## The value of the header -/

def Unbroken (s : List UInt8) : Prop := 0x0D ∉ s ∧ 0x0A ∉ s

instance : DecidablePred Unbroken := fun s =>
  inferInstanceAs (Decidable (0x0D ∉ s ∧ 0x0A ∉ s))

theorem Unbroken.append {s t : List UInt8} (hs : Unbroken s) (ht : Unbroken t) :
    Unbroken (s ++ t) := by
  unfold Unbroken at hs ht ⊢
  simp [hs, ht]

theorem Plain.unbroken {s : List UInt8} (h : Plain s) : Unbroken s :=
  ⟨fun hmem => (h _ hmem).2.1 rfl, fun hmem => (h _ hmem).2.2 rfl⟩

theorem Unbroken.lineText {front rest : List UInt8} (h : Unbroken front) (hend : 0x0A ∈ rest) :
    ∃ extra, lineText (front ++ rest) = some (front ++ extra) := by
  have htake : ∀ c, c ∉ front →
      (front ++ rest).takeWhile (· ≠ c) = front ++ rest.takeWhile (· ≠ c) := by
    intro c hc
    apply List.takeWhile_append_of_pos
    intro b hb
    simpa using fun hbc : b = c => hc (hbc ▸ hb)
  rw [SimpleRtsp.lineText, htake _ h.1, htake _ h.2, if_pos (List.mem_append_right front hend)]
  split_ifs
  · exact ⟨_, rfl⟩
  · exact ⟨_, rfl⟩

namespace Field

theorem unbroken_text (f : Field) : Unbroken f.text := by
  have hblanks : Unbroken (List.replicate f.blanks 0x20) := by
    unfold Unbroken
    simp [List.mem_replicate]
  unfold text
  apply Unbroken.append _ (by decide)
  apply Unbroken.append _ f.value_plain.unbroken
  apply Unbroken.append _ (by decide)
  exact hblanks.append f.key_plain.unbroken

theorem unbroken_others (fields : List Field) : Unbroken (others fields) := by
  induction fields with
  | nil => exact ⟨List.not_mem_nil, List.not_mem_nil⟩
  | cons f rest ih =>
    have hcomma : Unbroken (str ",") := by decide
    exact (hcomma.append f.unbroken_text).append ih

theorem unbroken_listText (fields : List Field) : Unbroken (listText fields) := by
  cases fields with
  | nil => exact ⟨List.not_mem_nil, List.not_mem_nil⟩
  | cons f rest => exact f.unbroken_text.append (unbroken_others rest)

end Field

namespace DigestRequest

variable (r : DigestRequest)

theorem unbroken_value : Unbroken r.value := by
  have hscheme : Unbroken (str "Digest ") := by decide
  exact hscheme.append (Field.unbroken_listText r.fields)

theorem mem_eol : 0x0A ∈ r.eol := by
  obtain h | h := r.ends <;> rw [h] <;> decide

theorem headerValue_request : ∃ extra, headerValue r.request = some (r.value ++ extra) := by
  have hsplit : r.request = r.before.flatMap (· ++ str "\n") ++
      (authorizationKey ++ (r.value ++ (r.eol ++ r.after))) := by
    simp [request]
  have hne : authorizationKey ≠ [] := by decide
  rw [headerValue, hsplit, strstr_lines r.before_free, strstr_self hne, Option.bind_some,
    List.drop_left]
  exact r.unbroken_value.lineText (List.mem_append_left _ r.mem_eol)

end DigestRequest

namespace DigestRequest

variable (r : DigestRequest)

theorem strstr_cstr_lines {lines : List (List UInt8)}
    (h : ∀ line ∈ lines, ¬ authorizationKey <:+: line) (s : List UInt8) :
    strstr (cstr (lines.flatMap (· ++ str "\n") ++ s)) authorizationKey =
      if ∀ line ∈ lines, 0 ∉ line then strstr (cstr s) authorizationKey else none := by
  induction lines with
  | nil => rfl
  | cons line rest ih =>
    obtain ⟨hline, hrest⟩ := List.forall_mem_cons.mp h
    have hsplit : (line :: rest).flatMap (· ++ str "\n") ++ s =
        line ++ 0x0A :: (rest.flatMap (· ++ str "\n") ++ s) := by
      simp [str]
    rw [hsplit]
    by_cases hnul : 0 ∈ line
    · have hinside : ¬ authorizationKey <:+: cstr line :=
        fun hinside => hline (hinside.trans (List.takeWhile_prefix _).isInfix)
      rw [cstr_of_mem hnul, strstr_absent hinside, if_neg]
      exact fun hall => hall line List.mem_cons_self hnul
    · have hcstr : cstr (0x0A :: (rest.flatMap (· ++ str "\n") ++ s)) =
          0x0A :: cstr (rest.flatMap (· ++ str "\n") ++ s) := rfl
      rw [cstr_append hnul, hcstr, strstr_split (by decide), strstr_absent hline,
        Option.map_none, Option.none_or, ih hrest]
      simp [hnul]

theorem headerValue_cstr (hfree : r.NulFree) :
    ∃ extra, headerValue (cstr r.request) = some (r.value ++ extra) := by
  let cut : DigestRequest := { r with after := cstr r.after }
  have hsplit : r.request = (r.before.flatMap (· ++ str "\n") ++ authorizationKey ++ r.value ++
      r.eol) ++ r.after := by
    simp [request]
  have hnul : 0 ∉ r.before.flatMap (· ++ str "\n") ++ authorizationKey ++ r.value ++ r.eol := by
    have hnewline : (0 : UInt8) ∉ str "\n" := by decide
    have hkey : (0 : UInt8) ∉ authorizationKey := by decide
    have heol : 0 ∉ r.eol := by
      obtain h | h := r.ends <;> rw [h] <;> decide
    have hvalue := hfree.value
    have hbefore : 0 ∉ r.before.flatMap (· ++ str "\n") := by
      rw [List.mem_flatMap]
      rintro ⟨line, hline, hmem⟩
      obtain hmem | hmem := List.mem_append.mp hmem
      · exact hfree.before line hline hmem
      · exact hnewline hmem
    simp only [List.mem_append]
    tauto
  have hcut : cstr r.request = cut.request := by
    rw [hsplit, cstr_append hnul]
    simp [request, cut, value]
  rw [hcut]
  exact cut.headerValue_request

theorem headerValue_nul (h : ¬ r.NulFree) : headerValue (cstr r.request) = none := by
  have hsplit : r.request = r.before.flatMap (· ++ str "\n") ++
      (authorizationKey ++ (r.value ++ (r.eol ++ r.after))) := by
    simp [request]
  rw [headerValue, hsplit, strstr_cstr_lines r.before_free]
  by_cases hbefore : ∀ line ∈ r.before, 0 ∉ line
  · have hvalue : 0 ∈ r.value := by
      by_contra hvalue
      exact h ⟨hbefore, hvalue⟩
    have hline : Unbroken (cstr r.value) :=
      ⟨fun hmem => r.unbroken_value.1 ((List.takeWhile_prefix _).subset hmem),
        fun hmem => r.unbroken_value.2 ((List.takeWhile_prefix _).subset hmem)⟩
    rw [if_pos hbefore, cstr_append (by decide), cstr_of_mem hvalue, strstr_self (by decide),
      Option.bind_some, List.drop_left, lineText, if_neg hline.1, if_neg hline.2]
  · rw [if_neg hbefore, Option.bind_none]

end DigestRequest

/-! ## One key -/

/-- A key without the characters that stand between the keys and values of a header. -/
structure KeyLike (key : List UInt8) : Prop where
  ne_nil : key ≠ []
  blank : 0x20 ∉ key
  equals : 0x3D ∉ key
  quote : 0x22 ∉ key
  comma : 0x2C ∉ key

theorem keyLike_name {name : String} (h : name ∈ fieldNames) : KeyLike (str name) := by
  have hall : ∀ name ∈ fieldNames, str name ≠ [] ∧ 0x20 ∉ str name ∧ 0x3D ∉ str name ∧
      0x22 ∉ str name ∧ 0x2C ∉ str name := by decide
  obtain ⟨hne, hblank, hequals, hquote, hcomma⟩ := hall name h
  exact ⟨hne, hblank, hequals, hquote, hcomma⟩

theorem quotes_iff {s key text rest value : List UInt8} {c₁ c₂ : UInt8}
    (h : strstr s key = some (key ++ c₁ :: c₂ :: (text ++ 0x22 :: rest))) (htext : 0x22 ∉ text) :
    Quotes s key value ↔ value = text := by
  constructor
  · rintro ⟨c₁', c₂', rest', h', hvalue⟩
    rw [h, Option.some_inj, List.append_right_inj] at h'
    have hquoted : text ++ 0x22 :: rest = value ++ 0x22 :: rest' :=
      (List.cons.inj (List.cons.inj h').2).2
    have htake := congrArg (List.takeWhile (· ≠ 0x22)) hquoted
    rw [takeWhile_append_cons htext, takeWhile_append_cons hvalue] at htake
    exact htake.symm
  · intro hvalue
    subst hvalue
    exact ⟨c₁, c₂, rest, h, htext⟩

variable {key : List UInt8}

theorem KeyLike.strstr_text (hkey : KeyLike key) (f : Field) (behind : List UInt8) :
    strstr (f.text ++ behind) key =
      ((strstr f.key key).map (· ++ 0x3D :: 0x22 :: (f.value ++ 0x22 :: behind))).or
        (((strstr f.value key).map (· ++ 0x22 :: behind)).or (strstr behind key)) := by
  have htext : f.text ++ behind = List.replicate f.blanks 0x20 ++
      (f.key ++ 0x3D :: ([] ++ 0x22 :: (f.value ++ 0x22 :: behind))) := by
    simp [Field.text, str]
  rw [htext, strstr_replicate hkey.ne_nil hkey.blank, strstr_split hkey.equals,
    strstr_split hkey.quote [], strstr_split hkey.quote, strstr_nil hkey.ne_nil]
  rfl

theorem KeyLike.strstr_others (hkey : KeyLike key) (f : Field) (rest : List Field)
    (extra : List UInt8) : strstr (Field.others (f :: rest) ++ extra) key =
      strstr (Field.listText (f :: rest) ++ extra) key := by
  have hsplit := strstr_split hkey.comma [] (Field.listText (f :: rest) ++ extra)
  rw [strstr_nil hkey.ne_nil, Option.map_none, Option.none_or] at hsplit
  rw [← hsplit]
  simp [Field.others, Field.listText, str]

section

variable {f next : Field} {rest : List Field} {value behind : List UInt8}

theorem leads_of_key (hfound : strstr f.key key = some (key ++ behind)) :
    Leads key value (f :: rest) ↔ behind = [] ∧ value = f.value ∨
      behind ≠ [] ∧ value = (behind ++ str "=").drop 2 := by
  constructor
  · intro h
    cases h with
    | keyEnd hfound' hvalue =>
      rw [hfound, Option.some_inj, List.append_right_eq_self] at hfound'
      exact Or.inl ⟨hfound', hvalue⟩
    | inKey hfound' hne hvalue =>
      rw [hfound, Option.some_inj, List.append_right_inj] at hfound'
      subst hfound'
      exact Or.inr ⟨hne, hvalue⟩
    | inValue hnone => exact absurd (hfound.symm.trans hnone) (by simp)
    | valueEnd hnone => exact absurd (hfound.symm.trans hnone) (by simp)
    | later hnone => exact absurd (hfound.symm.trans hnone) (by simp)
  · rintro (⟨hnil, hvalue⟩ | ⟨hne, hvalue⟩)
    · rw [hnil, List.append_nil] at hfound
      exact .keyEnd hfound hvalue
    · exact .inKey hfound hne hvalue

theorem leads_of_value (hnone : strstr f.key key = none)
    (hfound : strstr f.value key = some (key ++ behind)) :
    Leads key value (f :: next :: rest) ↔ 2 ≤ behind.length ∧ value = behind.drop 2 ∨
      behind.length < 2 ∧ value = next.separator.drop (1 - behind.length) := by
  constructor
  · intro h
    cases h with
    | keyEnd hfound' => exact absurd (hnone.symm.trans hfound') (by simp)
    | inKey hfound' => exact absurd (hnone.symm.trans hfound') (by simp)
    | inValue _ hfound' htwo hvalue =>
      rw [hfound, Option.some_inj, List.append_right_inj] at hfound'
      subst hfound'
      exact Or.inl ⟨htwo, hvalue⟩
    | valueEnd _ hfound' hlt hvalue =>
      rw [hfound, Option.some_inj, List.append_right_inj] at hfound'
      subst hfound'
      exact Or.inr ⟨hlt, hvalue⟩
    | later _ hnone' => exact absurd (hfound.symm.trans hnone') (by simp)
  · rintro (⟨htwo, hvalue⟩ | ⟨hlt, hvalue⟩)
    · exact .inValue hnone hfound htwo hvalue
    · exact .valueEnd hnone hfound hlt hvalue

theorem leads_of_none (hkey : strstr f.key key = none) (hvalue : strstr f.value key = none) :
    Leads key value (f :: rest) ↔ Leads key value rest := by
  constructor
  · intro h
    cases h with
    | keyEnd hfound => exact absurd (hkey.symm.trans hfound) (by simp)
    | inKey hfound => exact absurd (hkey.symm.trans hfound) (by simp)
    | inValue _ hfound => exact absurd (hvalue.symm.trans hfound) (by simp)
    | valueEnd _ hfound => exact absurd (hvalue.symm.trans hfound) (by simp)
    | later _ _ h => exact h
  · exact .later hkey hvalue

theorem leads_own {front : List Field} (h : ∀ g ∈ front, ¬ f.key <:+: g.key ∧ ¬ f.key <:+: g.value)
    (hne : f.key ≠ []) : Leads f.key f.value (front ++ f :: rest) := by
  induction front with
  | nil =>
    have hself := strstr_self hne []
    rw [List.append_nil] at hself
    exact .keyEnd hself rfl
  | cons g front ih =>
    obtain ⟨hkey, hvalue⟩ := h g List.mem_cons_self
    exact .later (strstr_absent hkey) (strstr_absent hvalue)
      (ih fun g' hg' => h g' (List.mem_cons_of_mem g hg'))

variable {source after : List UInt8}

theorem quotes_of_key (hk : strstr f.key key = some (key ++ behind))
    (hfind : strstr source key =
      some (key ++ behind ++ 0x3D :: 0x22 :: (f.value ++ 0x22 :: after))) :
    Quotes source key value ↔ behind = [] ∧ value = f.value ∨
      behind ≠ [] ∧ value = (behind ++ str "=").drop 2 := by
  cases behind with
  | nil =>
    rw [List.append_nil] at hfind
    rw [quotes_iff hfind fun hquote => (f.value_plain _ hquote).1 rfl]
    simp
  | cons c₁ behind =>
    obtain ⟨c₂, text, htext⟩ : ∃ c₂ text, behind ++ str "=" = c₂ :: text :=
      List.exists_cons_of_ne_nil (by simp [str])
    have hquote : 0x22 ∉ text := by
      intro hquote
      have hmem : 0x22 ∈ behind ++ str "=" := htext ▸ List.mem_cons_of_mem c₂ hquote
      obtain hmem | hmem := List.mem_append.mp hmem
      · have hmemKey : 0x22 ∈ f.key := (strstr_eq_some hk).1.subset (by simp [hmem])
        exact (f.key_plain _ hmemKey).1 rfl
      · exact absurd hmem (by decide)
    have hdrop : (c₁ :: behind ++ str "=").drop 2 = text := by
      rw [List.cons_append, htext]
      rfl
    have hsplit : ∀ s : List UInt8,
        key ++ c₁ :: behind ++ 0x3D :: s = key ++ c₁ :: c₂ :: (text ++ s) := by
      intro s
      have hequals : behind ++ 0x3D :: s = behind ++ str "=" ++ s := by simp [str]
      rw [List.append_assoc, List.cons_append, hequals, htext, List.cons_append]
    rw [hsplit] at hfind
    rw [quotes_iff hfind hquote, hdrop]
    simp

theorem Field.separator_plain (next : Field) : 0x22 ∉ next.separator := by
  unfold separator
  simp only [List.mem_append, not_or]
  refine ⟨⟨⟨by decide, ?_⟩, fun hmem => (next.key_plain _ hmem).1 rfl⟩, by decide⟩
  intro hmem
  exact absurd (List.eq_of_mem_replicate hmem) (by decide)

theorem quotes_of_value (hv : strstr f.value key = some (key ++ behind))
    (hfind : strstr source key =
      some (key ++ behind ++ 0x22 :: (next.separator ++ 0x22 :: after))) :
    Quotes source key value ↔ 2 ≤ behind.length ∧ value = behind.drop 2 ∨
      behind.length < 2 ∧ value = next.separator.drop (1 - behind.length) := by
  have hseparator := next.separator_plain
  obtain _ | ⟨c₁, _ | ⟨c₂, behind⟩⟩ := behind
  · -- the quote and the comma are skipped
    have hcomma : next.separator = 0x2C :: next.separator.drop 1 := by
      simp [Field.separator, str]
    have hquote : 0x22 ∉ next.separator.drop 1 :=
      fun hquote => hseparator (List.mem_of_mem_drop hquote)
    rw [List.append_nil, hcomma, List.cons_append] at hfind
    rw [quotes_iff hfind hquote]
    simp
  · rw [List.append_assoc, List.cons_append, List.nil_append] at hfind
    rw [quotes_iff hfind hseparator]
    simp
  · have hquote : 0x22 ∉ behind := by
      intro hquote
      have hmem : 0x22 ∈ f.value := (strstr_eq_some hv).1.subset (by simp [hquote])
      exact (f.value_plain _ hmem).1 rfl
    rw [List.append_assoc, List.cons_append, List.cons_append] at hfind
    rw [quotes_iff hfind hquote]
    simp

end

theorem Field.others_separator (next : Field) (rest : List Field) (extra : List UInt8) :
    others (next :: rest) ++ extra =
      next.separator ++ 0x22 :: (next.value ++ 0x22 :: (others rest ++ extra)) := by
  simp [others, text, separator, str]

theorem quotes_listText (hkey : KeyLike key) {value : List UInt8} (extra : List UInt8)
    {fields : List Field} (hmem : key ∈ fields.map Field.key) :
    Quotes (Field.listText fields ++ extra) key value ↔ Leads key value fields := by
  induction fields with
  | nil => exact absurd hmem List.not_mem_nil
  | cons f rest ih =>
    have hfind := hkey.strstr_text f (Field.others rest ++ extra)
    rw [← List.append_assoc] at hfind
    cases hk : strstr f.key key with
    | some found =>
      obtain ⟨behind, rfl⟩ := (strstr_eq_some hk).2
      rw [hk, Option.map_some, Option.some_or] at hfind
      rw [leads_of_key hk]
      exact quotes_of_key hk hfind
    | none =>
      -- the field of the key is one of the others
      have hne : key ≠ f.key := by
        intro heq
        have hself := strstr_self hkey.ne_nil []
        rw [List.append_nil] at hself
        rw [← heq, hself] at hk
        exact absurd hk (by simp)
      have hmem' : key ∈ rest.map Field.key := (List.mem_cons.mp hmem).resolve_left hne
      obtain _ | ⟨next, rest⟩ := rest
      · exact absurd hmem' List.not_mem_nil
      cases hv : strstr f.value key with
      | some found =>
        obtain ⟨behind, rfl⟩ := (strstr_eq_some hv).2
        rw [hk, hv, Option.map_none, Option.none_or, Option.map_some, Option.some_or,
          Field.others_separator] at hfind
        rw [leads_of_value hk hv]
        exact quotes_of_value hv hfind
      | none =>
        rw [hk, hv, Option.map_none, Option.none_or, Option.map_none, Option.none_or,
          hkey.strstr_others] at hfind
        rw [leads_of_none hk hv, ← ih hmem']
        unfold Quotes
        rw [← hfind]
        rfl

namespace DigestRequest

variable (r : DigestRequest)

theorem strstr_value {name : String} (hname : name ∈ fieldNames) (extra : List UInt8) :
    strstr (r.value ++ extra) (str name) =
      strstr (Field.listText r.fields ++ extra) (str name) := by
  have hscheme : ∀ name ∈ fieldNames, strstr (str "Digest") (str name) = none := by decide
  have hsplit := strstr_split (keyLike_name hname).blank (str "Digest")
    (Field.listText r.fields ++ extra)
  rw [hscheme name hname, Option.map_none, Option.none_or] at hsplit
  exact hsplit

theorem extractValue_iff {name : String} (hname : name ∈ fieldNames) (extra value : List UInt8) :
    extractValue (r.value ++ extra) name = .ok (some value) ↔
      Leads (str name) value r.fields := by
  rw [extractValue_some_iff, Quotes, r.strstr_value hname]
  exact quotes_listText (keyLike_name hname) extra (r.complete name hname)

theorem Recovers.nulFree {r : DigestRequest} (h : r.Recovers) : r.NulFree := by
  by_contra hnul
  obtain ⟨info, hinfo, -⟩ := h
  rw [findAuthorization_none (r.headerValue_nul hnul)] at hinfo
  cases hinfo

theorem Recovers.leads {r : DigestRequest} (h : r.Recovers) {name : String}
    (hname : name ∈ fieldNames) {f : Field} (hf : f ∈ r.fields) (hkey : f.key = str name) :
    Leads (str name) f.value r.fields := by
  have hfree := h.nulFree
  obtain ⟨info, hinfo, hfields⟩ := h
  obtain ⟨extra, hvalue⟩ := r.headerValue_cstr hfree
  rw [findAuthorization_some hvalue] at hinfo
  obtain ⟨info', hread, hsome⟩ := bind_eq_ok.mp hinfo
  obtain rfl : info' = info := Option.some.inj (Except.ok.inj hsome)
  rw [← info'.entries_names] at hname
  obtain ⟨p, hp, rfl⟩ := List.mem_map.mp hname
  have hextract := AuthorizationInfo.read_eq_ok.mp hread p hp
  rw [hfields p hp f hf hkey] at hextract
  exact (r.extractValue_iff hname extra f.value).mp hextract

theorem recovers_of_leads (hfree : r.NulFree) (h : ∀ name ∈ fieldNames, ∀ f ∈ r.fields,
    f.key = str name → Leads (str name) f.value r.fields) : r.Recovers := by
  obtain ⟨extra, hvalue⟩ := r.headerValue_cstr hfree
  have hextract : ∀ name ∈ fieldNames, ∀ f ∈ r.fields, f.key = str name →
      extractValue (r.value ++ extra) name = .ok (some f.value) :=
    fun name hname f hf hkey =>
      (r.extractValue_iff hname extra f.value).mpr (h name hname f hf hkey)
  obtain ⟨info, hread⟩ : ∃ info, AuthorizationInfo.read (r.value ++ extra) = .ok info := by
    apply AuthorizationInfo.exists_read
    intro name hname
    obtain ⟨f, hf, hkey⟩ := List.mem_map.mp (r.complete name hname)
    exact ⟨_, hextract name hname f hf hkey⟩
  refine ⟨info, ?_, fun p hp f hf hkey => ?_⟩
  · rw [findAuthorization_some hvalue, hread]
    rfl
  · have hname : p.1 ∈ fieldNames := info.entries_names ▸ List.mem_map_of_mem hp
    have hentry := AuthorizationInfo.read_eq_ok.mp hread p hp
    rw [hextract p.1 hname f hf hkey] at hentry
    exact (Except.ok.inj hentry).symm

/-- **All fields are recovered exactly if** no byte 0 is in front of the end of the header line and
the name of each field leads to its value. -/
theorem recovers_iff : r.Recovers ↔ r.NulFree ∧
    ∀ name ∈ fieldNames, ∀ f ∈ r.fields, f.key = str name → Leads (str name) f.value r.fields :=
  ⟨fun h => ⟨h.nulFree, fun _ hname _ hf hkey => h.leads hname hf hkey⟩,
    fun h => r.recovers_of_leads h.1 h.2⟩

/-- All fields are recovered if none of them is mentioned in front of its place. -/
theorem recovers_of_unmentioned (hfree : r.NulFree) (h : ∀ front f rest,
    r.fields = front ++ f :: rest → ∀ g ∈ front, ¬ f.key <:+: g.key ∧ ¬ f.key <:+: g.value) :
    r.Recovers := by
  apply r.recovers_of_leads hfree
  intro name hname f hf hkey
  obtain ⟨front, rest, hfields⟩ := List.append_of_mem hf
  rw [hfields, ← hkey]
  exact leads_own (h front f rest hfields) (hkey ▸ (keyLike_name hname).ne_nil)

/-- A header of a client that sends its `cnonce` in front of the `nonce`. -/
def cnonceFirst : DigestRequest where
  before := [str "DESCRIBE rtsp://10.0.0.1/a.mp4 RTSP/1.0\r", str "CSeq: 2\r"]
  fields :=
    [⟨0, str "username", str "admin", by decide, by decide⟩,
      ⟨1, str "realm", str "simple-rtsp-server", by decide, by decide⟩,
      ⟨1, str "cnonce", str "0a4f113b", by decide, by decide⟩,
      ⟨1, str "nonce", str "dcd98b71", by decide, by decide⟩,
      ⟨1, str "uri", str "rtsp://10.0.0.1/a.mp4", by decide, by decide⟩,
      ⟨1, str "response", str "6629fae4", by decide, by decide⟩]
  eol := str "\r\n"
  after := str "\r\n"
  ends := Or.inl rfl
  before_free := by decide
  distinct := by decide
  complete := by decide

/-- The `nonce` that is found is the `cnonce`. -/
theorem not_recovers : ¬ ∀ r : DigestRequest, r.Recovers := by
  intro hall
  have hname : "nonce" ∈ fieldNames := by decide
  have hmem : ⟨1, str "nonce", str "dcd98b71", by decide, by decide⟩ ∈ cnonceFirst.fields := by
    simp [cnonceFirst]
  have hleads := (hall cnonceFirst).leads hname hmem rfl
  have hfound : strstr (str "cnonce") (str "nonce") = some (str "nonce" ++ []) := by decide
  simp only [cnonceFirst] at hleads
  rw [leads_of_none (by decide) (by decide), leads_of_none (by decide) (by decide),
    leads_of_key hfound] at hleads
  exact absurd hleads (by decide)

end DigestRequest

end SimpleRtsp

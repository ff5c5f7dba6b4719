import Mathlib.Data.List.TakeWhile
import SimpleRtsp.Rtsp.Digest

/-!
# What `find_authorization` extracts

`find_authorization` cuts the value out of the authorization line (`headerValue`) and looks in it
for every field by its name alone. `Quotes` is what it finds of one field: the text up to a quote,
two characters behind the first place where the name stands.
-/

namespace SimpleRtsp

open CString

/-- What stands in front of the first CR or, if there is none, in front of the first LF. -/
def lineText (s : List UInt8) : Option (List UInt8) :=
  if 0x0D ∈ s then some (s.takeWhile (· ≠ 0x0D))
  else if 0x0A ∈ s then some (s.takeWhile (· ≠ 0x0A))
  else none

/-- The text behind `Authorization: `. -/
def headerValue (request : List UInt8) : Option (List UInt8) :=
  (strstr request authorizationKey).bind fun found => lineText (found.drop authorizationKey.length)

def fieldNames : List String := ["username", "realm", "nonce", "uri", "response"]

namespace AuthorizationInfo

def entries (info : AuthorizationInfo) : List (String × Option (List UInt8)) :=
  [("username", info.username), ("realm", info.realm), ("nonce", info.nonce), ("uri", info.uri),
    ("response", info.response)]

theorem entries_names (info : AuthorizationInfo) : info.entries.map Prod.fst = fieldNames := rfl

def read (authValue : List UInt8) : Except Fault AuthorizationInfo := do
  let username ← extractValue authValue "username"
  let realm ← extractValue authValue "realm"
  let nonce ← extractValue authValue "nonce"
  let uri ← extractValue authValue "uri"
  let response ← extractValue authValue "response"
  pure ⟨username, realm, nonce, uri, response⟩

variable {authValue : List UInt8}

theorem read_eq_ok {info : AuthorizationInfo} : read authValue = .ok info ↔
    ∀ p ∈ info.entries, extractValue authValue p.1 = .ok p.2 := by
  simp only [entries, List.forall_mem_cons, List.not_mem_nil, false_imp_iff, implies_true,
    and_true]
  constructor
  · intro h
    obtain ⟨username, husername, h⟩ := bind_eq_ok.mp h
    obtain ⟨realm, hrealm, h⟩ := bind_eq_ok.mp h
    obtain ⟨nonce, hnonce, h⟩ := bind_eq_ok.mp h
    obtain ⟨uri, huri, h⟩ := bind_eq_ok.mp h
    obtain ⟨response, hresponse, h⟩ := bind_eq_ok.mp h
    rw [← Except.ok.inj h]
    exact ⟨husername, hrealm, hnonce, huri, hresponse⟩
  · rintro ⟨husername, hrealm, hnonce, huri, hresponse⟩
    rw [read, husername, ok_bind, hrealm, ok_bind, hnonce, ok_bind, huri, ok_bind, hresponse,
      ok_bind]
    rfl

theorem exists_read (h : ∀ name ∈ fieldNames, ∃ value, extractValue authValue name = .ok value) :
    ∃ info, read authValue = .ok info := by
  simp only [fieldNames, List.forall_mem_cons, List.not_mem_nil, false_imp_iff, implies_true,
    and_true] at h
  obtain ⟨⟨username, husername⟩, ⟨realm, hrealm⟩, ⟨nonce, hnonce⟩, ⟨uri, huri⟩, response,
    hresponse⟩ := h
  refine ⟨⟨username, realm, nonce, uri, response⟩, read_eq_ok.mpr ?_⟩
  simp [entries, husername, hrealm, hnonce, huri, hresponse]

end AuthorizationInfo

theorem lineText_eq (s : List UInt8) : lineText s =
    ((strchr s 0x0D).or (strchr s 0x0A)).map fun rest => s.take (s.length - rest.length) := by
  have hfound : ∀ c, c ∈ s → ∃ rest, strchr s c = some rest := by
    intro c hc
    apply Option.ne_none_iff_exists'.mp
    intro hnone
    exact strchr_eq_none.mp hnone hc
  rw [lineText]
  split_ifs with hcr hlf
  · obtain ⟨rest, hrest⟩ := hfound _ hcr
    rw [hrest, Option.some_or, Option.map_some, take_strchr hrest]
  · obtain ⟨rest, hrest⟩ := hfound _ hlf
    rw [strchr_eq_none.mpr hcr, hrest, Option.none_or, Option.map_some, take_strchr hrest]
  · rw [strchr_eq_none.mpr hcr, strchr_eq_none.mpr hlf]
    rfl

theorem findAuthorization_none {request : List UInt8} (h : headerValue request = none) :
    findAuthorization request = .ok none := by
  unfold findAuthorization
  cases hfound : strstr request (str "Authorization: ") with
  | none => rfl
  | some found =>
    have hline : headerValue request = lineText (found.drop authorizationKey.length) := by
      rw [headerValue, authorizationKey, hfound]
      rfl
    rw [hline, lineText_eq, Option.map_eq_none_iff] at h
    dsimp only
    have hend : (strchr (found.drop (str "Authorization: ").length) 0x0D).or
        (strchr (found.drop (str "Authorization: ").length) 0x0A) = none := h
    rw [hend]

theorem findAuthorization_some {request v : List UInt8} (h : headerValue request = some v) :
    findAuthorization request = AuthorizationInfo.read v >>= fun info => pure (some info) := by
  unfold findAuthorization
  cases hfound : strstr request (str "Authorization: ") with
  | none =>
    rw [headerValue, authorizationKey, hfound] at h
    exact absurd h (by simp)
  | some found =>
    have hline : headerValue request = lineText (found.drop authorizationKey.length) := by
      rw [headerValue, authorizationKey, hfound]
      rfl
    rw [hline, lineText_eq, Option.map_eq_some_iff] at h
    obtain ⟨authEnd, hend, rfl⟩ := h
    have hend : (strchr (found.drop (str "Authorization: ").length) 0x0D).or
        (strchr (found.drop (str "Authorization: ").length) 0x0A) = some authEnd := hend
    dsimp only
    rw [hend]
    simp only [AuthorizationInfo.read, bind_assoc]
    rfl

theorem strstr_lines {lines : List (List UInt8)}
    (h : ∀ line ∈ lines, ¬ authorizationKey <:+: line) (s : List UInt8) :
    strstr (lines.flatMap (· ++ str "\n") ++ s) authorizationKey = strstr s authorizationKey := by
  induction lines with
  | nil => rfl
  | cons line rest ih =>
    have hline := strstr_absent (h line List.mem_cons_self)
    have hsplit := strstr_split (by decide : 0x0A ∉ authorizationKey) line
      (rest.flatMap (· ++ str "\n") ++ s)
    rw [hline, Option.map_none, Option.none_or,
      ih fun line hmem => h line (List.mem_cons_of_mem _ hmem)] at hsplit
    rw [← hsplit, List.flatMap_cons]
    simp [str]

/-! ## One field -/

/-- Behind the first `key` in `s` stand two characters, `value` and a quote. -/
def Quotes (s key value : List UInt8) : Prop :=
  ∃ c₁ c₂ rest, strstr s key = some (key ++ c₁ :: c₂ :: (value ++ 0x22 :: rest)) ∧ 0x22 ∉ value

/-- Two characters stand behind the first `key` in `s`, if there is one. -/
def Skips (s key : List UInt8) : Prop :=
  ∀ behind, strstr s key = some (key ++ behind) → 2 ≤ behind.length

variable {s : List UInt8} {key : String}

theorem extractValue_none (h : strstr s (str key) = none) : extractValue s key = .ok none := by
  rw [extractValue, h]

theorem extractValue_found {behind : List UInt8}
    (h : strstr s (str key) = some (str key ++ behind)) :
    extractValue s key =
      if 2 ≤ behind.length then
        .ok ((strchr (behind.drop 2) 0x22).map fun _ => (behind.drop 2).takeWhile (· ≠ 0x22))
      else .error .authValue := by
  have hlength : (str key).length + 2 ≤ (str key ++ behind).length ↔ 2 ≤ behind.length := by
    rw [List.length_append]
    omega
  have hdrop : (str key ++ behind).drop ((str key).length + 2) = behind.drop 2 := by
    rw [List.drop_append, List.drop_eq_nil_of_le (by omega), List.nil_append,
      Nat.add_sub_cancel_left]
  rw [extractValue, h]
  dsimp only
  rw [hdrop, if_congr hlength rfl rfl]
  cases hquote : strchr (behind.drop 2) 0x22 with
  | none => rfl
  | some rest =>
    dsimp only
    rw [take_strchr hquote]
    rfl

theorem exists_behind {found k : List UInt8} (h : strstr s k = some found) :
    ∃ behind, strstr s k = some (k ++ behind) := by
  obtain ⟨behind, rfl⟩ := (strstr_eq_some h).2
  exact ⟨behind, h⟩

theorem extractValue_ok_iff : (∃ value, extractValue s key = .ok value) ↔ Skips s (str key) := by
  cases hs : strstr s (str key) with
  | none =>
    have hskips : Skips s (str key) := by
      intro behind hbehind
      exact absurd (hs.symm.trans hbehind) (by simp)
    exact iff_of_true ⟨none, extractValue_none hs⟩ hskips
  | some found =>
    obtain ⟨behind, hbehind⟩ := exists_behind hs
    have hskips : Skips s (str key) ↔ 2 ≤ behind.length := by
      constructor
      · intro h
        exact h behind hbehind
      · intro h behind' hbehind'
        rw [hbehind, Option.some_inj, List.append_right_inj] at hbehind'
        exact hbehind' ▸ h
    rw [extractValue_found hbehind, hskips]
    split_ifs with h <;> simp [h]

theorem extractValue_some_iff {value : List UInt8} :
    extractValue s key = .ok (some value) ↔ Quotes s (str key) value := by
  constructor
  · intro h
    cases hs : strstr s (str key) with
    | none =>
      rw [extractValue_none hs] at h
      exact absurd h (by simp)
    | some found =>
      obtain ⟨behind, hbehind⟩ := exists_behind hs
      rw [extractValue_found hbehind] at h
      split_ifs at h with htwo
      injection h with h
      obtain ⟨quote, hquote, rfl⟩ := Option.map_eq_some_iff.mp h
      obtain ⟨rest, -, hrest⟩ := strchr_eq_some hquote
      obtain ⟨c₁, c₂, hchars⟩ : ∃ c₁ c₂, behind = c₁ :: c₂ :: behind.drop 2 := by
        obtain _ | ⟨c₁, _ | ⟨c₂, behind⟩⟩ := behind
        · simp at htwo
        · simp at htwo
        · exact ⟨c₁, c₂, rfl⟩
      refine ⟨c₁, c₂, rest, ?_, fun hmem => ?_⟩
      · rw [hbehind, ← hrest, ← hchars]
      · have hne := List.mem_takeWhile_imp hmem
        simp at hne
  · rintro ⟨c₁, c₂, rest, hfound, hvalue⟩
    rw [extractValue_found hfound, if_pos (by simp)]
    have hquote : strchr (value ++ 0x22 :: rest) 0x22 = some (0x22 :: rest) := by
      rw [strchr_append hvalue, strchr_cons, if_pos rfl]
    have hdrop : (c₁ :: c₂ :: (value ++ 0x22 :: rest)).drop 2 = value ++ 0x22 :: rest := rfl
    rw [hdrop, hquote, Option.map_some, takeWhile_append_cons hvalue]

/-- More text behind does not change what is found. -/
theorem extractValue_append {value : List UInt8} (h : extractValue s key = .ok (some value))
    (extra : List UInt8) : extractValue (s ++ extra) key = .ok (some value) := by
  obtain ⟨c₁, c₂, rest, hfound, hvalue⟩ := extractValue_some_iff.mp h
  refine extractValue_some_iff.mpr ⟨c₁, c₂, rest ++ extra, ?_, hvalue⟩
  rw [strstr_append_some hfound]
  simp

/-! ## The authorization step -/

/-- The response in a header value is the digest of the method and of the URI next to it. -/
def DigestFor (conn : Conn) (method uri v : List UInt8) : Prop :=
  extractValue v "uri" = .ok (some uri) ∧
    extractValue v "response" = .ok (some (digest conn.md5 conn.nonce method uri))

theorem authorize_gives {conn : Conn} (hauth : conn.auth = 1) {msg method : List UInt8}
    (hmethod : Guarded method) :
    Gives (fun a => (a = .missing ↔ headerValue (cstr msg) = none) ∧
        (a = .passed → ∃ v uri, headerValue (cstr msg) = some v ∧ DigestFor conn method uri v))
      (authorize conn.auth conn.md5 conn.nonce (msg ++ [0]) method) := by
  rw [authorize, hauth, if_pos (guarded_methods hmethod), cstr_append_nul]
  cases hvalue : headerValue (cstr msg) with
  | none =>
    rw [findAuthorization_none hvalue]
    exact .ok ⟨iff_of_true rfl rfl, fun h => Authorized.noConfusion h⟩
  | some v =>
    rw [findAuthorization_some hvalue]
    cases hread : AuthorizationInfo.read v with
    | error fault => exact .error fault
    | ok info =>
      change Gives _ (authorizationVerify conn.md5 USER PASSWORD realm conn.nonce info.uri method
        info.response >>= _)
      refine .bind (authorizationVerify_gives conn.md5 conn.nonce method info.uri info.response) ?_
      intro ret hret
      refine .ok ?_
      split_ifs with hneg
      · simp
      · obtain ⟨uri, huri, hresponse⟩ := hret hneg
        have hentries := AuthorizationInfo.read_eq_ok.mp hread
        simp only [AuthorizationInfo.entries, List.forall_mem_cons, huri, hresponse] at hentries
        simp only [reduceCtorEq, false_iff, not_false_eq_true, true_and]
        exact fun _ => ⟨v, uri, rfl, hentries.2.2.2.1, hentries.2.2.2.2.1⟩

end SimpleRtsp

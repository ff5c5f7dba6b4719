import SimpleRtsp.Lib.Fallible
import SimpleRtsp.Rtsp.Connection

/-!
# Where the parsing is safe

A message is a sequence of lines, each with its newline (`lines`; what stands behind the last
newline is none). `getLineFromBuf` is safe where there is a line of at most 398 bytes, and a loop
over the lines where there is such a line that it looks for, and none before it is longer
(`Finds`). `WellFormed` puts the conditions of the steps together, and `handleRequest_safe_iff`
says that exactly these requests are parsed without an access outside the buffers.
-/

namespace SimpleRtsp

open CString

/-- The faults of the parsing: an access outside `recv_buf`, `line`, `method`, `url` or `version`,
or a loop that does not end. -/
def Fault.Parsing : Fault → Prop
  | .recvBuf | .line | .method | .url | .version | .endless => True
  | _ => False

/-- The parsing stays inside its buffers. -/
abbrev ParsesSafely {α : Type} (x : Except Fault α) : Prop := Avoids Fault.Parsing x

def lines : List UInt8 → List (List UInt8)
  | [] => []
  | b :: buf =>
    if b = 0x0A then [] :: lines buf
    else
      match lines buf with
      | [] => []
      | l :: ls => (b :: l) :: ls

/-- `line` as it holds the line `l`. -/
def asLine (l : List UInt8) : List UInt8 := l ++ [0x0A]

/-- One of the lines is `found`, and up to this one all fit in `line`. -/
def Finds (found : List UInt8 → Bool) (ls : List (List UInt8)) : Prop :=
  ∃ before l after, ls = before ++ l :: after ∧ found (asLine l) = true ∧
    ∀ k ∈ before ++ [l], k.length ≤ 398

/-- The words of the request line fit in their arrays. -/
structure WordsFit (args : List Arg) : Prop where
  method : ∀ s, args[0]? = some (.string s) → s.length < 40
  url : ∀ s, args[1]? = some (.string s) → s.length < 100
  version : ∀ s, args[2]? = some (.string s) → s.length < 40

def words (l : List UInt8) : List Arg := sscanf (cstr (asLine l)) "%s %s %s\r\n"

/-- The first `CSeq:` line has a number. -/
def HasNumber (ls : List (List UInt8)) : Prop :=
  ∃ l, ls.find? (fun l => isCSeq (asLine l)) = some l ∧
    (oneInt (sscanf (cstr (asLine l)) "CSeq: %d\r\n")).isSome

/-- A request that is parsed safely. -/
structure WellFormed (conn : Conn) (msg : List UInt8) : Prop where
  fits : msg.length < BUF_MAX_SIZE
  lines : ∃ first rest, lines msg = first :: rest ∧ first.length ≤ 398 ∧ WordsFit (words first) ∧
    ∀ r, threeWords (words first) = some r →
      Finds isCSeq rest ∧
      (HasNumber rest → r.method = str "SETUP" → 0x2F ∈ r.url →
        authorize conn.auth conn.md5 conn.nonce (msg ++ [0]) r.method = .ok .passed →
        Finds isAvp rest)

/-! ## Lines -/

theorem lines_cons_ne {b : UInt8} (hb : b ≠ 0x0A) (buf : List UInt8) :
    lines (b :: buf) = match lines buf with
      | [] => []
      | l :: ls => (b :: l) :: ls := by
  rw [lines, if_neg hb]

theorem lines_append_cons {l : List UInt8} (hl : 0x0A ∉ l) (rest : List UInt8) :
    lines (l ++ 0x0A :: rest) = l :: lines rest := by
  induction l with
  | nil => rfl
  | cons b l ih =>
    obtain ⟨hb, hl⟩ := List.ne_and_not_mem_of_not_mem_cons hl
    rw [List.cons_append, lines_cons_ne hb.symm, ih hl]

theorem lines_terminated (msg : List UInt8) : lines (msg ++ [0]) = lines msg := by
  induction msg with
  | nil => rfl
  | cons b msg ih =>
    rw [List.cons_append, lines, lines, ih]

theorem length_lines_le (buf : List UInt8) : (lines buf).length ≤ buf.length := by
  induction buf with
  | nil => exact Nat.le_refl 0
  | cons b buf ih =>
    rw [lines]
    split_ifs
    · simpa using ih
    · split
      · simp
      · rename_i hls
        rw [hls] at ih
        simpa using Nat.le_succ_of_le ih

/-! ## `getLineFromBuf` -/

theorem copyLine_none {buf : List UInt8} (h : lines buf = []) (line : List UInt8) :
    ¬ ParsesSafely (copyLine line buf) := by
  induction buf generalizing line with
  | nil => simp [copyLine, Fault.Parsing]
  | cons b buf ih =>
    have hb : b ≠ 0x0A := by
      rintro rfl
      simp [lines] at h
    rw [lines_cons_ne hb] at h
    have hnone : lines buf = [] := by
      split at h
      · assumption
      · cases h
    rw [copyLine, if_neg hb]
    split_ifs
    · exact ih hnone _
    · simp [Fault.Parsing]

theorem copyLine_long {buf l : List UInt8} {ls : List (List UInt8)} (h : lines buf = l :: ls)
    {line : List UInt8} (hlong : 398 < line.length + l.length) :
    ¬ ParsesSafely (copyLine line buf) := by
  induction buf generalizing line l with
  | nil => cases h
  | cons b buf ih =>
    by_cases hb : b = 0x0A
    · rw [lines, if_pos hb] at h
      cases h
      rw [copyLine, if_pos hb, if_neg (by simpa using hlong)]
      simp [Fault.Parsing]
    · rw [lines_cons_ne hb] at h
      split at h
      · cases h
      · rename_i hls
        cases h
        rw [copyLine, if_neg hb]
        split_ifs
        · exact ih hls (by simp at hlong ⊢; omega)
        · simp [Fault.Parsing]

theorem copyLine_fits {buf l : List UInt8} {ls : List (List UInt8)} (h : lines buf = l :: ls)
    (line : List UInt8) (hfits : line.length + l.length ≤ 398) :
    ∃ rest, copyLine line buf = .ok (line ++ asLine l, rest) ∧ lines rest = ls := by
  induction buf generalizing line l with
  | nil => cases h
  | cons b buf ih =>
    by_cases hb : b = 0x0A
    · rw [lines, if_pos hb] at h
      cases h
      refine ⟨buf, ?_, rfl⟩
      rw [copyLine, if_pos hb, if_pos (by simpa using hfits)]
      rfl
    · rw [lines_cons_ne hb] at h
      split at h
      · cases h
      · rename_i l' _ hls
        cases h
        simp only [List.length_cons] at hfits
        obtain ⟨rest, hcopy, hrest⟩ := ih hls (line ++ [b]) (by simp; omega)
        refine ⟨rest, ?_, hrest⟩
        rw [copyLine, if_neg hb, if_pos (by omega), hcopy]
        simp [asLine]

theorem getLineFromBuf_safe_iff (buf : List UInt8) :
    ParsesSafely (getLineFromBuf buf) ↔ ∃ l ls, lines buf = l :: ls ∧ l.length ≤ 398 := by
  constructor
  · intro hsafe
    cases hls : lines buf with
    | nil => exact absurd hsafe (copyLine_none hls [])
    | cons l ls =>
      refine ⟨l, ls, rfl, Nat.not_lt.mp fun hlong => ?_⟩
      exact copyLine_long hls (by simpa using hlong) hsafe
  · rintro ⟨l, ls, hls, hfits⟩
    obtain ⟨rest, hcopy, -⟩ := copyLine_fits hls [] (by simpa using hfits)
    rw [getLineFromBuf, hcopy]
    exact .ok _

theorem getLineFromBuf_fits {buf l : List UInt8} {ls : List (List UInt8)} (h : lines buf = l :: ls)
    (hfits : l.length ≤ 398) :
    ∃ rest, getLineFromBuf buf = .ok (asLine l, rest) ∧ lines rest = ls :=
  copyLine_fits h [] (by simpa using hfits)

/-! ## The loops over the lines -/

theorem not_finds_nil (found : List UInt8 → Bool) : ¬ Finds found [] := by
  rintro ⟨before, l, after, h, -⟩
  cases before <;> cases h

theorem finds_cons (found : List UInt8 → Bool) (l : List UInt8) (ls : List (List UInt8)) :
    Finds found (l :: ls) ↔ l.length ≤ 398 ∧ (found (asLine l) = true ∨ Finds found ls) := by
  constructor
  · rintro ⟨before, l', after, h, hfound, hfit⟩
    cases before with
    | nil =>
      cases h
      exact ⟨hfit _ (by simp), Or.inl hfound⟩
    | cons k before =>
      cases h
      exact ⟨hfit _ (by simp), Or.inr ⟨before, l', after, rfl, hfound, fun k hk =>
        hfit k (List.mem_cons_of_mem _ hk)⟩⟩
  · rintro ⟨hl, hfound | ⟨before, l', after, rfl, hfound, hfit⟩⟩
    · exact ⟨[], l, ls, rfl, hfound, by simpa using hl⟩
    · refine ⟨l :: before, l', after, rfl, hfound, fun k hk => ?_⟩
      obtain rfl | hk := List.mem_cons.mp hk
      · exact hl
      · exact hfit k hk

theorem untilLine_lost {found : List UInt8 → Bool} {buf : List UInt8}
    (h : ¬ Finds found (lines buf)) (fuel : Nat) : ¬ ParsesSafely (untilLine found fuel buf) := by
  induction fuel generalizing buf with
  | zero => simp [untilLine, Fault.Parsing]
  | succ fuel ih =>
    rw [untilLine]
    intro hsafe
    obtain ⟨hline, hrest⟩ := (Avoids.bind_iff _ _).mp hsafe
    obtain ⟨l, ls, hls, hfits⟩ := (getLineFromBuf_safe_iff buf).mp hline
    obtain ⟨rest, hget, hlines⟩ := getLineFromBuf_fits hls hfits
    rw [hls, finds_cons] at h
    have hmiss : ¬ found (asLine l) = true := fun hfound => h ⟨hfits, Or.inl hfound⟩
    have hlost : ¬ Finds found (lines rest) := fun hfinds => h ⟨hfits, Or.inr (hlines ▸ hfinds)⟩
    have hnext := hrest _ hget
    dsimp only at hnext
    rw [if_neg hmiss] at hnext
    exact ih hlost hnext

theorem untilLine_finds {found : List UInt8 → Bool} {buf : List UInt8} {fuel : Nat}
    (h : Finds found (lines buf)) (hfuel : (lines buf).length < fuel) :
    ∃ l rest, (lines buf).find? (fun l => found (asLine l)) = some l ∧
      untilLine found fuel buf = .ok (asLine l, rest) := by
  induction fuel generalizing buf with
  | zero => cases hfuel
  | succ fuel ih =>
    cases hls : lines buf with
    | nil => exact absurd (hls ▸ h) (not_finds_nil found)
    | cons l ls =>
      rw [hls, finds_cons] at h
      obtain ⟨hfits, hfinds⟩ := h
      obtain ⟨rest, hget, hlines⟩ := getLineFromBuf_fits hls hfits
      rw [untilLine, hget]
      by_cases hfound : found (asLine l) = true
      · refine ⟨l, rest, ?_, ?_⟩
        · simp [hfound]
        · exact if_pos hfound
      · have hlength : (lines rest).length < fuel := by
          rw [hls] at hfuel
          rw [hlines]
          exact Nat.succ_lt_succ_iff.mp hfuel
        obtain ⟨l', rest', hfind, huntil⟩ :=
          ih (hlines ▸ hfinds.resolve_left hfound) hlength
        refine ⟨l', rest', ?_, ?_⟩
        · rw [← hfind, hlines]
          simp [hfound]
        · exact (if_neg hfound).trans huntil

theorem untilLine_safe_iff (found : List UInt8 → Bool) (buf : List UInt8) :
    ParsesSafely (untilLine found (buf.length + 1) buf) ↔ Finds found (lines buf) := by
  constructor
  · exact fun hsafe => not_not.mp fun hlost => untilLine_lost hlost _ hsafe
  · intro hfinds
    obtain ⟨l, rest, -, huntil⟩ :=
      untilLine_finds hfinds (Nat.lt_succ_of_le (length_lines_le buf))
    rw [huntil]
    exact .ok _

/-! ## The steps -/

theorem terminate_safe_iff (msg : List UInt8) :
    ParsesSafely (terminate msg) ↔ msg.length < BUF_MAX_SIZE := by
  rw [terminate]
  split_ifs with h <;> simp [h, Fault.Parsing]

theorem store_safe {fault : Fault} (hfault : ¬ fault.Parsing) (size : Nat) (s : List UInt8) :
    ParsesSafely (store fault size s) := by
  rw [store]
  split_ifs
  · exact .ok _
  · exact (Avoids.error_iff _).mpr hfault

theorem storeWord_fits {size : Nat} {arg : Option Arg}
    (h : ∀ s, arg = some (.string s) → s.length < size) (fault : Fault) :
    storeWord fault size arg = .ok () := by
  rcases arg with _ | n | s
  · rfl
  · rfl
  · rw [storeWord, store, if_pos (h s rfl)]
    rfl

theorem storeWord_safe (fault : Fault) (hfault : fault.Parsing) {size : Nat} {arg : Option Arg}
    (h : ParsesSafely (storeWord fault size arg)) (s : List UInt8) (hs : arg = some (.string s)) :
    s.length < size := by
  subst hs
  by_contra hlong
  rw [storeWord, store, if_neg hlong] at h
  exact h fault rfl hfault

theorem parseRequestLine_fits {l : List UInt8} (h : WordsFit (words l)) :
    parseRequestLine (asLine l) = .ok (threeWords (words l)) := by
  obtain ⟨hmethod, hurl, hversion⟩ := h
  rw [words] at hmethod hurl hversion
  rw [parseRequestLine]
  simp only [storeWord_fits hmethod, storeWord_fits hurl, storeWord_fits hversion]
  rfl

theorem parseRequestLine_safe_iff (l : List UInt8) :
    ParsesSafely (parseRequestLine (asLine l)) ↔ WordsFit (words l) := by
  constructor
  · intro hsafe
    rw [parseRequestLine] at hsafe
    obtain ⟨hmethod, hsafe⟩ := (Avoids.bind_iff _ _).mp hsafe
    have hmethod := storeWord_safe .method trivial hmethod
    obtain ⟨hurl, hsafe⟩ := (Avoids.bind_iff _ _).mp (hsafe () (storeWord_fits hmethod _))
    have hurl := storeWord_safe .url trivial hurl
    obtain ⟨hversion, -⟩ := (Avoids.bind_iff _ _).mp (hsafe () (storeWord_fits hurl _))
    exact ⟨hmethod, hurl, storeWord_safe .version trivial hversion⟩
  · intro hfits
    rw [parseRequestLine_fits hfits]
    exact .ok _

theorem parseCSeq_safe_iff (buf : List UInt8) :
    ParsesSafely (parseCSeq buf) ↔ Finds isCSeq (lines buf) := by
  rw [parseCSeq, ← untilLine_safe_iff]
  exact ⟨fun hsafe => ((Avoids.bind_iff _ _).mp hsafe).1, fun hsafe => hsafe.bind fun _ => .pure _⟩

theorem parseCSeq_finds {buf : List UInt8} (h : Finds isCSeq (lines buf)) :
    ∃ cseq, parseCSeq buf = .ok cseq ∧ (cseq.isSome ↔ HasNumber (lines buf)) := by
  obtain ⟨l, rest, hfind, huntil⟩ := untilLine_finds h (Nat.lt_succ_of_le (length_lines_le buf))
  refine ⟨oneInt (sscanf (cstr (asLine l)) "CSeq: %d\r\n"), ?_, fun hsome => ⟨l, hfind, hsome⟩, ?_⟩
  · rw [parseCSeq, huntil]
    rfl
  · rintro ⟨l', hfind', hsome⟩
    rw [hfind] at hfind'
    cases hfind'
    exact hsome

theorem startsWith_trans {line : List UInt8} {key key' : String} (h : startsWith line key = true)
    (hkey : str key' <+: str key) : startsWith line key' = true :=
  List.isPrefixOf_iff_prefix.mpr (hkey.trans (List.isPrefixOf_iff_prefix.mp h))

theorem isTransport_eq : (fun line => isTcp line || isUdp line || isAvp line) = isAvp := by
  funext line
  cases havp : isAvp line with
  | true => simp
  | false =>
    have htcp : isTcp line = false := by
      by_contra htcp
      rw [isAvp, startsWith_trans (Bool.eq_true_of_not_eq_false htcp) (by decide)] at havp
      cases havp
    have hudp : isUdp line = false := by
      by_contra hudp
      rw [isAvp, startsWith_trans (Bool.eq_true_of_not_eq_false hudp) (by decide)] at havp
      cases havp
    simp [htcp, hudp]

theorem findTransport_safe_iff (buf : List UInt8) :
    ParsesSafely (findTransport buf) ↔ Finds isAvp (lines buf) := by
  rw [findTransport, isTransport_eq, ← untilLine_safe_iff]
  exact ⟨fun hsafe => ((Avoids.bind_iff _ _).mp hsafe).1, fun hsafe => hsafe.bind fun _ => .pure _⟩

/-! ## What is not parsing -/

theorem extractValue_safe (source : List UInt8) (key : String) :
    ParsesSafely (extractValue source key) := by
  rw [extractValue]
  split
  · exact .ok _
  · split_ifs
    · dsimp only
      split <;> exact .ok _
    · exact (Avoids.error_iff _).mpr id

theorem findAuthorization_safe (request : List UInt8) :
    ParsesSafely (findAuthorization request) := by
  rw [findAuthorization]
  split
  · exact .ok _
  · dsimp only
    split
    · exact .ok _
    · iterate 5 refine (extractValue_safe _ _).bind fun _ => ?_
      exact .pure _

theorem authorizationVerify_safe (md5 : List UInt8 → List UInt8)
    (username password realm nonce method : List UInt8) (uri response : Option (List UInt8)) :
    ParsesSafely (authorizationVerify md5 username password realm nonce uri method response) := by
  have hfield : ∀ field : Option (List UInt8),
      ParsesSafely (field.elim (.error .nullPointer) .ok : Except Fault (List UInt8)) := by
    rintro (_ | s)
    · exact (Avoids.error_iff _).mpr id
    · exact .ok _
  refine (store_safe id _ _).bind fun _ => (hfield uri).bind fun _ => ?_
  refine (store_safe id _ _).bind fun _ => (store_safe id _ _).bind fun _ => ?_
  exact (hfield response).bind fun _ => .pure _

theorem authorize_safe (auth : Int) (md5 : List UInt8 → List UInt8)
    (nonce recvBuf method : List UInt8) :
    ParsesSafely (authorize auth md5 nonce recvBuf method) := by
  rw [authorize]
  split_ifs
  · refine (findAuthorization_safe _).bind fun info => ?_
    split
    · exact .pure _
    · exact (authorizationVerify_safe _ _ _ _ _ _ _ _).bind fun _ => .pure _
  · exact .ok _

theorem findFile_safe (t : Thread) (url : List UInt8) : ParsesSafely (t.findFile url) := by
  rw [Thread.findFile]
  split
  · exact (Avoids.error_iff _).mpr id
  · exact (store_safe id _ _).bind fun _ => .pure _

theorem handleOptions_safe (w : World) (t : Thread) (r : Request) :
    ParsesSafely (handleOptions w t r) := by
  refine (findFile_safe t r.url).bind fun t' => ?_
  split_ifs <;> exact .pure _

theorem describeFile_safe (t : Thread) (url : List UInt8) : ParsesSafely (t.describeFile url) := by
  rw [Thread.describeFile]
  split_ifs
  · exact findFile_safe t url
  · exact .ok _

theorem readLocalIp_safe (size : Nat) (url ip : List UInt8) :
    ParsesSafely (readLocalIp size url ip) := by
  rw [readLocalIp]
  split
  · exact store_safe id _ _
  · exact .ok _

theorem handleDescribe_safe (w : World) (t : Thread) (r : Request) :
    ParsesSafely (handleDescribe w t r) := by
  refine (describeFile_safe t r.url).bind fun t' => ?_
  split_ifs
  · exact .pure _
  · refine (readLocalIp_safe _ _ _).bind fun localIp => ?_
    split <;> exact .pure _

theorem handleSetup_safe (conn : Conn) (w : World) (t : Thread) (track0 : Bool) (r : Request) :
    ParsesSafely (handleSetup conn w t track0 r) := by
  have hip := readLocalIp_safe 40 r.url t.localIp
  rw [handleSetup]
  by_cases hudp : t.tureOfRtpTcp = 0
  · rw [if_pos hudp]
    exact hip.bind fun _ => .pure _
  rw [if_neg hudp]
  by_cases htcp : t.tureOfRtpTcp = 1
  · rw [if_pos htcp]
    exact hip.bind fun _ => .pure _
  · rw [if_neg htcp]
    exact .pure _

theorem handlePlay_safe (conn : Conn) (w : World) (t : Thread) (r : Request) :
    ParsesSafely (handlePlay conn w t r) :=
  (store_safe id _ _).bind fun _ => .pure _

/-! ## The whole turn -/

theorem strrchr_eq_none {s : List UInt8} {c : UInt8} : strrchr s c = none ↔ c ∉ s := by
  induction s with
  | nil => simp [strrchr]
  | cons b s ih =>
    rw [strrchr, Option.or_eq_none_iff, ih]
    by_cases hb : b = c
    · simp [hb]
    · simp [hb, Ne.symm hb]

theorem setupTransport_safe_iff (t : Thread) (r : Request) :
    ParsesSafely (setupTransport t r) ↔ (0x2F ∈ r.url → Finds isAvp (lines r.bufTmp)) := by
  rw [setupTransport, ← findTransport_safe_iff]
  split
  · rename_i hslash
    rw [strrchr_eq_none] at hslash
    simp [hslash, Fault.Parsing]
  · rename_i p hslash
    have hmem : 0x2F ∈ r.url := by
      by_contra hno
      rw [strrchr_eq_none.mpr hno] at hslash
      cases hslash
    constructor
    · intro hsafe _
      exact ((Avoids.bind_iff _ _).mp hsafe).1
    · intro hsafe
      exact (hsafe hmem).bind fun _ => .pure _

theorem respond_safe_iff (conn : Conn) (w : World) (t : Thread) (r : Request) :
    ParsesSafely (respond conn w t r) ↔
      (r.method = str "SETUP" → 0x2F ∈ r.url → Finds isAvp (lines r.bufTmp)) := by
  rw [respond]
  split_ifs with hsetup
  · rw [← setupTransport_safe_iff t r]
    constructor
    · intro hsafe _
      exact ((Avoids.bind_iff _ _).mp hsafe).1
    · intro hsafe
      exact (hsafe hsetup).bind fun p => handleSetup_safe conn w p.1 p.2 r
  · simp [hsetup, handleOptions_safe w t r]
  · simp [hsetup, handleDescribe_safe w t r]
  · simp [hsetup, handlePlay_safe conn w t r]
  · simp [hsetup]

theorem serve_safe_iff (conn : Conn) (w : World) (t : Thread) (r : Request) :
    ParsesSafely (serve conn w t r) ↔
      (r.method = str "SETUP" → 0x2F ∈ r.url →
        authorize conn.auth conn.md5 conn.nonce r.recvBuf r.method = .ok .passed →
        Finds isAvp (lines r.bufTmp)) := by
  constructor
  · intro hsafe hsetup hslash hauth
    have hrespond := ((Avoids.bind_iff _ _).mp hsafe).2 _ hauth
    exact (respond_safe_iff conn w t r).mp hrespond hsetup hslash
  · intro h
    refine (Avoids.bind_iff _ _).mpr ⟨authorize_safe _ _ _ _ _, fun authorized hauth => ?_⟩
    cases authorized with
    | missing => exact .pure _
    | rejected => exact .pure _
    | passed => exact (respond_safe_iff conn w t r).mpr fun hsetup hslash => h hsetup hslash hauth

theorem parseRequest_begin {msg first : List UInt8} {rest : List (List UInt8)}
    (hfits : msg.length < BUF_MAX_SIZE) (hlines : lines msg = first :: rest)
    (hfirst : first.length ≤ 398) :
    ∃ bufTmp, lines bufTmp = rest ∧ parseRequest msg = (do
      match ← parseRequestLine (asLine first) with
      | none => pure none
      | some requestLine =>
        match ← parseCSeq bufTmp with
        | none => pure none
        | some cseq =>
          pure (some ⟨msg ++ [0], requestLine.method, requestLine.url, cseq, bufTmp⟩)) := by
  rw [← lines_terminated] at hlines
  obtain ⟨bufTmp, hget, hrest⟩ := getLineFromBuf_fits hlines hfirst
  refine ⟨bufTmp, hrest, ?_⟩
  rw [parseRequest, terminate, if_pos hfits]
  change (getLineFromBuf (msg ++ [0]) >>= _) = _
  rw [hget]
  rfl

theorem parseRequest_first {msg : List UInt8} (h : ParsesSafely (parseRequest msg)) :
    msg.length < BUF_MAX_SIZE ∧ ∃ first rest, lines msg = first :: rest ∧ first.length ≤ 398 := by
  obtain ⟨hterminate, h⟩ := (Avoids.bind_iff _ _).mp h
  have hfits := (terminate_safe_iff msg).mp hterminate
  obtain ⟨hget, -⟩ := (Avoids.bind_iff _ _).mp (h (msg ++ [0]) (if_pos hfits))
  have hfirst := (getLineFromBuf_safe_iff _).mp hget
  rw [lines_terminated] at hfirst
  exact ⟨hfits, hfirst⟩

/-- **Exactly the well-formed requests are parsed safely.** -/
theorem handleRequest_safe_iff (conn : Conn) (w : World) (t : Thread) (msg : List UInt8) :
    ParsesSafely (handleRequest conn w t msg) ↔ WellFormed conn msg := by
  constructor
  · intro hsafe
    obtain ⟨hparse, hserve⟩ := (Avoids.bind_iff _ _).mp hsafe
    obtain ⟨hfits, first, rest, hlines, hfirst⟩ := parseRequest_first hparse
    obtain ⟨bufTmp, rfl, hbegin⟩ := parseRequest_begin hfits hlines hfirst
    rw [hbegin] at hparse
    obtain ⟨hline, hcseq⟩ := (Avoids.bind_iff _ _).mp hparse
    have hwords := (parseRequestLine_safe_iff first).mp hline
    refine ⟨hfits, first, _, hlines, hfirst, hwords, fun r hr => ?_⟩
    have hthree := parseRequestLine_fits hwords
    rw [hr] at hthree
    have hfinds := (parseCSeq_safe_iff bufTmp).mp ((Avoids.bind_iff _ _).mp (hcseq _ hthree)).1
    refine ⟨hfinds, fun hnumber => ?_⟩
    obtain ⟨cseq, hread, hsome⟩ := parseCSeq_finds hfinds
    obtain ⟨n, rfl⟩ := Option.isSome_iff_exists.mp (hsome.mpr hnumber)
    have hrequest : parseRequest msg = .ok (some ⟨msg ++ [0], r.method, r.url, n, bufTmp⟩) := by
      rw [hbegin, hthree]
      change (parseCSeq bufTmp >>= _) = _
      rw [hread]
      rfl
    exact (serve_safe_iff conn w t _).mp (hserve _ hrequest)
  · rintro ⟨hfits, first, rest, hlines, hfirst, hwords, hthree⟩
    obtain ⟨bufTmp, rfl, hbegin⟩ := parseRequest_begin hfits hlines hfirst
    rw [parseRequestLine_fits hwords] at hbegin
    cases hr : threeWords (words first) with
    | none =>
      rw [hr] at hbegin
      exact (Avoids.ok_bind_iff hbegin _).mpr (.pure _)
    | some r =>
      obtain ⟨hfinds, htransport⟩ := hthree r hr
      obtain ⟨cseq, hread, hsome⟩ := parseCSeq_finds hfinds
      rw [hr] at hbegin
      change _ = (parseCSeq bufTmp >>= _) at hbegin
      rw [hread] at hbegin
      cases cseq with
      | none => exact (Avoids.ok_bind_iff hbegin _).mpr (.pure _)
      | some n =>
        refine (Avoids.ok_bind_iff hbegin _).mpr ?_
        exact (serve_safe_iff conn w t _).mpr (htransport (hsome.mp rfl))

def noCSeq : List UInt8 := str "OPTIONS rtsp://10.0.0.1/a.mp4 RTSP/1.0\r\n\r\n"

/-- A request without a `CSeq:` line is read beyond its end. -/
theorem noCSeq_unsafe :
    ¬ ∀ (conn : Conn) (w : World) (t : Thread) (msg : List UInt8), 1 ≤ msg.length →
      msg.length ≤ BUF_MAX_SIZE → ParsesSafely (handleRequest conn w t msg) := by
  intro hsafe
  have hbeyond : handleRequest openConn easyWorld (.init [] []) noCSeq = .error .recvBuf := rfl
  exact hsafe openConn easyWorld (.init [] []) noCSeq (by decide) (by decide) _ hbeyond trivial

end SimpleRtsp

import SimpleRtsp.Rtsp.HeaderValue
import SimpleRtsp.Rtsp.Parsing

/-!
# What the digest protects

On a connection with authorization, a DESCRIBE, a SETUP or a PLAY should have an effect only if one
of its header lines is an authorization line with the digest of its method and the nonce of the
connection, and without such a line it should be answered 401 and change nothing (`Protected`).
`find_authorization` looks for no line but for the first `Authorization: ` in the message, and that
may stand in the URL, in a `Proxy-Authorization:` line or behind the header. As long as it stands
where it should (`KeyInPlace`), the connection is protected (`protected_of_inPlace`).
-/

namespace SimpleRtsp

open CString

/-! ## Header lines -/

/-- The lines behind the request line, up to the empty one. The end of the message ends a line. -/
def headerLines (msg : List UInt8) : List (List UInt8) :=
  (lines (cstr msg ++ [0x0A])).tail.takeWhile fun l => l ≠ [] ∧ l ≠ [0x0D]

def authorizationLines (msg : List UInt8) : List (List UInt8) :=
  (headerLines msg).filter fun l => authorizationKey <+: l

def CarriesAuthorization (msg : List UInt8) : Prop := authorizationLines msg ≠ []

instance : DecidablePred CarriesAuthorization := fun _ => inferInstanceAs (Decidable (_ ≠ _))

/-- What stands in an authorization line behind its key. -/
def lineValue (l : List UInt8) : List UInt8 :=
  (l.drop authorizationKey.length).takeWhile (· ≠ 0x0D)

/-- The authorization lines have the two fields that are needed. -/
def HasFields (msg : List UInt8) : Prop := ∀ l ∈ authorizationLines msg, ∃ uri response,
  extractValue (lineValue l) "uri" = .ok (some uri) ∧
    extractValue (lineValue l) "response" = .ok (some response)

/-- An authorization line has the digest of this method and URI. -/
def AuthorizedFor (conn : Conn) (method uri msg : List UInt8) : Prop :=
  ∃ l ∈ authorizationLines msg, DigestFor conn method uri (lineValue l)

/-- A request that needs authorization and carries none. -/
def Unauthorized (msg : List UInt8) : Prop :=
  ∃ r, Asks msg r ∧ Guarded r.method ∧ ¬ CarriesAuthorization msg

instance : DecidablePred Unauthorized := fun msg =>
  decidable_of_iff ((asked msg).any fun r => Guarded r.method ∧ ¬ CarriesAuthorization msg) <| by
    simp [Unauthorized, Option.any_eq_true, asked_eq_some]

/-- One request that needs authorization, whatever the variables and the world are. -/
structure TurnProtected (conn : Conn) (msg : List UInt8) (r : Request) : Prop where
  /-- without the digest there is a 401, or the connection ends -/
  acts : (∃ uri, AuthorizedFor conn r.method uri msg) ∨
    ∃ x, (∀ w t, handleRequest conn w t msg = x) ∧ ∀ o, x = .ok o →
      o = .unauthorized (handleCmdUnauthorized r.cseq realm conn.nonce) ∨ o = .closed none
  missing : ¬ CarriesAuthorization msg → ∀ w t, handleRequest conn w t msg =
    .ok (.unauthorized (handleCmdUnauthorized r.cseq realm conn.nonce))

/-- A connection as it should be: every request is protected, and without the unauthorized ones the
connection is the same. -/
structure Protected (conn : Conn) (t : Thread) (requests : List (World × List UInt8)) : Prop where
  turn : ∀ request ∈ requests, ∀ r, Asks request.2 r → Guarded r.method →
    TurnProtected conn request.2 r
  deleted : doClientThd conn t (requests.filter fun request => ¬ Unauthorized request.2) =
    (doClientThd conn t requests).map fun turns => turns.filter fun turn => ¬ Unauthorized turn.1

/-- The first line that mentions the key. -/
def firstMention (msg : List UInt8) : Option (List UInt8) :=
  (lines (cstr msg ++ [0x0A])).find? fun l => authorizationKey <:+: l

/-- If the key is mentioned at all, the first time is in an authorization line. -/
def KeyInPlace (msg : List UInt8) : Prop := ∀ l ∈ firstMention msg, l ∈ authorizationLines msg

/-! ## What is found in the lines -/

theorem newline_not_mem_lines (buf : List UInt8) : ∀ l ∈ lines buf, 0x0A ∉ l := by
  induction buf with
  | nil => exact fun l hl => absurd hl List.not_mem_nil
  | cons b buf ih =>
    by_cases hb : b = 0x0A
    · rw [lines, if_pos hb]
      exact List.forall_mem_cons.mpr ⟨List.not_mem_nil, ih⟩
    · rw [lines_cons_ne hb]
      cases hrest : lines buf with
      | nil => exact fun l hl => absurd hl List.not_mem_nil
      | cons l ls =>
        rw [hrest] at ih
        obtain ⟨hl, hls⟩ := List.forall_mem_cons.mp ih
        refine List.forall_mem_cons.mpr ⟨?_, hls⟩
        rw [List.mem_cons, not_or]
        exact ⟨Ne.symm hb, hl⟩

theorem flatMap_lines (text : List UInt8) :
    (lines (text ++ [0x0A])).flatMap (· ++ str "\n") = text ++ [0x0A] := by
  induction text with
  | nil => rfl
  | cons b text ih =>
    rw [List.cons_append]
    by_cases hb : b = 0x0A
    · rw [lines, if_pos hb, List.flatMap_cons, ih, hb]
      rfl
    · rw [lines_cons_ne hb]
      cases hrest : lines (text ++ [0x0A]) with
      | nil =>
        rw [hrest] at ih
        exact absurd ih.symm (by simp)
      | cons l ls =>
        rw [hrest, List.flatMap_cons] at ih
        rw [List.flatMap_cons, ← ih]
        rfl

theorem strstr_newline (text : List UInt8) : strstr (text ++ [0x0A]) authorizationKey =
    (strstr text authorizationKey).map (· ++ [0x0A]) := by
  rw [strstr_split (by decide), strstr_nil (by decide), Option.or_none]

theorem headerValue_unmentioned {msg : List UInt8} (h : firstMention msg = none) :
    headerValue (cstr msg) = none := by
  have hfree : ∀ l ∈ lines (cstr msg ++ [0x0A]), ¬ authorizationKey <:+: l := by
    simpa [firstMention, List.find?_eq_none] using h
  have hnone := strstr_lines hfree []
  rw [List.append_nil, flatMap_lines, strstr_nil (by decide), strstr_newline,
    Option.map_eq_none_iff] at hnone
  rw [headerValue, hnone, Option.bind_none]

theorem lineText_append {front rest v : List UInt8} (hfront : 0x0A ∉ front)
    (hrest : rest = [] ∨ ∃ rest', rest = 0x0A :: rest') (h : lineText (front ++ rest) = some v) :
    ∃ extra, v = front.takeWhile (· ≠ 0x0D) ++ extra := by
  rw [lineText] at h
  split_ifs at h with hcr hlf
  · rw [List.takeWhile_append] at h
    split_ifs at h with hall
    · have hwhole : front.takeWhile (· ≠ 0x0D) = front :=
        (List.takeWhile_prefix _).eq_of_length hall
      exact ⟨_, by rw [hwhole, ← Option.some.inj h]⟩
    · exact ⟨[], by rw [← Option.some.inj h, List.append_nil]⟩
  · have hwhole : front.takeWhile (· ≠ 0x0D) = front := by
      rw [List.takeWhile_eq_self_iff]
      intro b hb
      simpa using fun hbc : b = 0x0D => hcr (hbc ▸ List.mem_append_left rest hb)
    obtain rfl | ⟨rest', rfl⟩ := hrest
    · rw [List.append_nil] at hlf
      exact absurd hlf hfront
    · rw [takeWhile_append_cons hfront] at h
      exact ⟨[], by rw [hwhole, ← Option.some.inj h, List.append_nil]⟩

theorem headerValue_mention {msg l v : List UInt8} (h : firstMention msg = some l)
    (hkey : authorizationKey <+: l) (hvalue : headerValue (cstr msg) = some v) :
    ∃ extra, v = lineValue l ++ extra := by
  obtain ⟨-, before, after, hlines, hbefore⟩ := List.find?_eq_some_iff_append.mp h
  have hfree : ∀ k ∈ before, ¬ authorizationKey <:+: k := by simpa using hbefore
  have hnewline : 0x0A ∉ l := newline_not_mem_lines _ l (by rw [hlines]; simp)
  obtain ⟨value, rfl⟩ := hkey
  have htext : str "\n" = [0x0A] := rfl
  have hfound := strstr_newline (cstr msg)
  rw [← flatMap_lines, hlines, List.flatMap_append, strstr_lines hfree, List.flatMap_cons,
    List.append_assoc, List.append_assoc, strstr_self (by decide), htext] at hfound
  obtain ⟨found, hstrstr, heq⟩ := Option.map_eq_some_iff.mp hfound.symm
  -- what is found is the line and what stands behind it, without the newline at the end
  obtain ⟨rest, rfl, hrest⟩ : ∃ rest, found = authorizationKey ++ (value ++ rest) ∧
      (rest = [] ∨ ∃ rest', rest = 0x0A :: rest') := by
    obtain hnil | ⟨others, last, hothers⟩ := List.eq_nil_or_concat (after.flatMap (· ++ [0x0A]))
    · rw [hnil, List.append_nil, ← List.append_assoc, List.append_left_inj] at heq
      exact ⟨[], by rw [heq, List.append_nil], Or.inl rfl⟩
    · rw [hothers] at heq
      have hsplit : found ++ [0x0A] =
          (authorizationKey ++ (value ++ 0x0A :: others)) ++ [last] := by
        rw [heq]
        simp
      exact ⟨_, (List.append_inj' hsplit rfl).1, Or.inr ⟨others, rfl⟩⟩
  rw [headerValue, hstrstr, Option.bind_some, List.drop_left] at hvalue
  rw [lineValue, List.drop_left]
  exact lineText_append (fun hmem => hnewline (List.mem_append_right _ hmem)) hrest hvalue

theorem mem_authorizationLines {msg l : List UInt8} (h : l ∈ authorizationLines msg) :
    l ∈ lines (cstr msg ++ [0x0A]) ∧ authorizationKey <+: l := by
  obtain ⟨hl, hkey⟩ := List.mem_filter.mp h
  exact ⟨List.mem_of_mem_tail ((List.takeWhile_prefix _).subset hl), by simpa using hkey⟩

/-- With the key in its place, the server finds an authorization line if there is one. -/
theorem KeyInPlace.value {msg v : List UInt8} (h : KeyInPlace msg)
    (hvalue : headerValue (cstr msg) = some v) :
    ∃ l ∈ authorizationLines msg, ∃ extra, v = lineValue l ++ extra := by
  cases hfirst : firstMention msg with
  | none =>
    rw [headerValue_unmentioned hfirst] at hvalue
    cases hvalue
  | some l =>
    have hl := h l hfirst
    exact ⟨l, hl, headerValue_mention hfirst (mem_authorizationLines hl).2 hvalue⟩

theorem KeyInPlace.missing {msg : List UInt8} (h : KeyInPlace msg)
    (hnot : ¬ CarriesAuthorization msg) : headerValue (cstr msg) = none := by
  apply headerValue_unmentioned
  rw [Option.eq_none_iff_forall_not_mem]
  intro l hl
  exact hnot (List.ne_nil_of_mem (h l hl))

/-! ## One request -/

theorem handleRequest_asks {conn : Conn} {w : World} {t : Thread} {msg : List UInt8} {r : Request}
    (h : Asks msg r) : handleRequest conn w t msg = serve conn w t r := by
  rw [handleRequest, h, ok_bind]

theorem turnProtected_of_inPlace {conn : Conn} (hauth : conn.auth = 1) {msg : List UInt8}
    (hplace : KeyInPlace msg) (hfields : HasFields msg) {r : Request} (hasks : Asks msg r)
    (hmethod : Guarded r.method) : TurnProtected conn msg r := by
  have hbuf : r.recvBuf = msg ++ [0] := parseRequest_recvBuf msg _ hasks r rfl
  have hgives := @authorize_gives conn hauth msg r.method hmethod
  cases hresult : authorize conn.auth conn.md5 conn.nonce (msg ++ [0]) r.method with
  | error fault =>
    have hturn : ∀ w t, handleRequest conn w t msg = .error fault := by
      intro w t
      rw [handleRequest_asks hasks, serve, hbuf, hresult]
      rfl
    refine ⟨Or.inr ⟨_, hturn, fun o ho => by cases ho⟩, fun hnot => ?_⟩
    have hnone := findAuthorization_none (hplace.missing hnot)
    rw [authorize, hauth, if_pos (guarded_methods hmethod), cstr_append_nul, hnone] at hresult
    cases hresult
  | ok a =>
    obtain ⟨hmissing, hpassed⟩ := hgives a hresult
    cases a with
    | missing =>
      have hturn : ∀ w t, handleRequest conn w t msg =
          .ok (.unauthorized (handleCmdUnauthorized r.cseq realm conn.nonce)) := by
        intro w t
        rw [handleRequest_asks hasks, serve, hbuf, hresult]
        rfl
      exact ⟨Or.inr ⟨_, hturn, fun o ho => Or.inl (Except.ok.inj ho).symm⟩, fun _ => hturn⟩
    | rejected =>
      have hturn : ∀ w t, handleRequest conn w t msg = .ok (.closed none) := by
        intro w t
        rw [handleRequest_asks hasks, serve, hbuf, hresult]
        rfl
      refine ⟨Or.inr ⟨_, hturn, fun o ho => Or.inr (Except.ok.inj ho).symm⟩, fun hnot => ?_⟩
      exact Authorized.noConfusion (hmissing.mpr (hplace.missing hnot))
    | passed =>
      obtain ⟨v, uri, hvalue, huri, hresponse⟩ := hpassed rfl
      obtain ⟨l, hl, extra, rfl⟩ := hplace.value hvalue
      obtain ⟨uri', response, huri', hresponse'⟩ := hfields l hl
      -- the fields that are read are those of the line
      rw [extractValue_append huri' extra] at huri
      rw [extractValue_append hresponse' extra] at hresponse
      refine ⟨Or.inl ⟨uri, l, hl, huri'.trans huri, hresponse'.trans hresponse⟩, fun hnot => ?_⟩
      exact absurd (List.ne_nil_of_mem hl) hnot

/-! ## Whole connections -/

/-- The unauthorized requests of a run leave no trace. -/
theorem doClientThd_filter {conn : Conn} (t : Thread) (requests : List (World × List UInt8))
    (h : ∀ request ∈ requests, ∀ r, Asks request.2 r → Guarded r.method →
      TurnProtected conn request.2 r) :
    doClientThd conn t (requests.filter fun request => ¬ Unauthorized request.2) =
      (doClientThd conn t requests).map fun turns =>
        turns.filter fun turn => ¬ Unauthorized turn.1 := by
  induction requests generalizing t with
  | nil => rfl
  | cons request rest ih =>
    obtain ⟨w, msg⟩ := request
    obtain ⟨hfirst, hrest⟩ := List.forall_mem_cons.mp h
    by_cases hmissing : Unauthorized msg
    · -- the variables are the same for the next request
      obtain ⟨r, hasks, hmethod, hnot⟩ := hmissing
      have hturn := (hfirst r hasks hmethod).missing hnot w t
      have hmissing : Unauthorized msg := ⟨r, hasks, hmethod, hnot⟩
      rw [List.filter_cons, if_neg (by simpa using hmissing), doClientThd, hturn, ok_bind,
        ih t hrest]
      dsimp only [Outcome.next]
      cases doClientThd conn t rest with
      | error fault => rfl
      | ok later =>
        simp [Except.map, hmissing]
    · rw [List.filter_cons, if_pos (by simpa using hmissing), doClientThd, doClientThd]
      cases handleRequest conn w t msg with
      | error fault => rfl
      | ok o =>
        rw [ok_bind, ok_bind]
        cases o.next t with
        | none => simp [Except.map, pure, Except.pure, hmissing]
        | some t' =>
          dsimp only
          rw [ih t' hrest]
          cases doClientThd conn t' rest with
          | error fault => rfl
          | ok later => simp [Except.map, hmissing]

/-- **What the digest protects.** In a run in which the key is mentioned first in an authorization
line, a DESCRIBE, SETUP or PLAY has an effect only with the digest in such a line, without one it is
answered 401, and without these requests all other turns are the same. -/
theorem protected_of_inPlace {conn : Conn} (hauth : conn.auth = 1) (t : Thread)
    (requests : List (World × List UInt8)) (hfields : ∀ request ∈ requests, HasFields request.2)
    (hplace : ∀ request ∈ requests, ∀ r, Asks request.2 r → Guarded r.method →
      KeyInPlace request.2) : Protected conn t requests := by
  have hturn : ∀ request ∈ requests, ∀ r, Asks request.2 r → Guarded r.method →
      TurnProtected conn request.2 r := by
    intro request hmem r hasks hmethod
    exact turnProtected_of_inPlace hauth (hplace request hmem r hasks hmethod)
      (hfields request hmem) hasks hmethod
  exact ⟨hturn, doClientThd_filter t requests hturn⟩

def urlA : List UInt8 := str "rtsp://10.0.0.1/a.mp4"

/-- The line with the digest for `urlA`, and its end. -/
def describeLine : List UInt8 := authorizationLine digestConn (str "DESCRIBE") urlA

/-- A player asks without the digest and then with it. -/
def describeTwice : List (World × List UInt8) :=
  [(easyWorld, describeText []), (easyWorld, describeText describeLine)]

set_option maxRecDepth 4096 in
theorem protected_describeTwice :
    (describeTwice.map fun request => decide (Unauthorized request.2)) = [true, false] ∧
      Protected digestConn (.init [] []) describeTwice := by
  have hfirst : firstMention (describeText []) = none := by decide +kernel
  have hnone : authorizationLines (describeText []) = [] := by decide +kernel
  have hsecond : firstMention (describeText describeLine) = some describeLine.dropLast := by
    decide +kernel
  have hone : authorizationLines (describeText describeLine) = [describeLine.dropLast] := by
    decide +kernel
  refine ⟨by decide +kernel, protected_of_inPlace rfl _ _ ?_ ?_⟩
  · refine List.forall_mem_cons.mpr ⟨?_, List.forall_mem_singleton.mpr ?_⟩
    · intro l hl
      rw [hnone] at hl
      exact absurd hl List.not_mem_nil
    · intro l hl
      rw [hone] at hl
      obtain rfl := List.mem_singleton.mp hl
      exact ⟨urlA, digest id (str "5f") (str "DESCRIBE") urlA, rfl, rfl⟩
  · refine List.forall_mem_cons.mpr ⟨?_, List.forall_mem_singleton.mpr ?_⟩
    · intro r _ _ l hl
      rw [hfirst] at hl
      exact absurd hl (Option.not_mem_none l)
    · intro r _ _ l hl
      rw [hsecond] at hl
      rw [hone, ← Option.some.inj hl]
      exact List.mem_singleton_self _

/-- The same line for a proxy. -/
def describeProxy : List UInt8 := describeText (str "Proxy-" ++ describeLine)

set_option maxRecDepth 4096 in
/-- A client is told about the file that sends no authorization line. -/
theorem not_protected_describeProxy :
    (∃ t, handleRequest digestConn easyWorld (.init [] []) describeProxy =
      .ok (.replied t (handleCmdDescribe 1 urlA []) none)) ∧
    ¬ ∀ (conn : Conn) (t : Thread) (requests : List (World × List UInt8)), conn.auth = 1 →
      (∀ request ∈ requests, HasFields request.2) → Protected conn t requests := by
  have hnone : authorizationLines describeProxy = [] := by decide +kernel
  obtain ⟨r, hasks, hmethod⟩ : ∃ r, Asks describeProxy r ∧ Guarded r.method :=
    ⟨⟨describeProxy ++ [0], str "DESCRIBE", urlA, 1, _⟩, rfl, Or.inl rfl⟩
  obtain ⟨t, hturn⟩ : ∃ t, handleRequest digestConn easyWorld (.init [] []) describeProxy =
      .ok (.replied t (handleCmdDescribe 1 urlA []) none) := ⟨_, rfl⟩
  refine ⟨⟨t, hturn⟩, fun hall => ?_⟩
  have hprotected := hall digestConn (.init [] []) [(easyWorld, describeProxy)] rfl (by
    intro request hmem l hl
    rw [List.mem_singleton.mp hmem, hnone] at hl
    exact absurd hl List.not_mem_nil)
  have hmissing := (hprotected.turn _ (List.mem_singleton_self _) r hasks hmethod).missing
    (fun hcarries => hcarries hnone) easyWorld (.init [] [])
  rw [hturn] at hmissing
  cases hmissing

end SimpleRtsp

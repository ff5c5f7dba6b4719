import SimpleRtsp.Rtsp.Protected

/-!
# What the digest does not bind

The URI that is hashed is read from the header, the URL that is acted on from the request line, and
nothing compares them. So whether a request is accepted depends on its URL no more than on the rest
of its text (`authorize_passed_iff`), and the value of a header binds the URL only if it does not
pass or no request for another URL can carry it (`bindsUrl_iff`).
-/

namespace SimpleRtsp

open CString

/-! ## Requests that share a header value -/

def requestText (method url headers : List UInt8) : List UInt8 :=
  method ++ 0x20 :: (url ++ 0x20 :: (str "RTSP/1.0" ++ 0x0D :: 0x0A :: headers))

/-- A URL that fits in its array. -/
structure IsUrl (url : List UInt8) : Prop where
  nonempty : url ≠ []
  word : IsWord url
  nul : 0 ∉ url
  fits : url.length < 100

structure Accepts (conn : Conn) (msg : List UInt8) (r : Request) : Prop where
  asks : Asks msg r
  passed : authorize conn.auth conn.md5 conn.nonce r.recvBuf r.method = .ok .passed

theorem Accepts.handleRequest {conn : Conn} {msg : List UInt8} {r : Request}
    (h : Accepts conn msg r) (w : World) (t : Thread) :
    handleRequest conn w t msg = respond conn w t r := by
  have hserve : serve conn w t r = respond conn w t r := by
    rw [serve, h.passed]
    rfl
  rw [SimpleRtsp.handleRequest, h.asks, ← hserve]
  rfl

/-- Whatever request with this method carries this header value: if it is accepted, the URI that is
hashed is its URL. -/
def BindsUrl (conn : Conn) (method v : List UInt8) : Prop :=
  ∀ msg r uri, Accepts conn msg r → r.method = method → headerValue (cstr msg) = some v →
    extractValue v "uri" = .ok (some uri) → uri = r.url

def Passes (conn : Conn) (method v : List UInt8) : Prop :=
  ∃ info ret, AuthorizationInfo.read v = .ok info ∧
    authorizationVerify conn.md5 USER PASSWORD realm conn.nonce info.uri method info.response =
      .ok ret ∧ 0 ≤ ret

/-- A request with this method and another URL than the one in the value can carry the value. -/
inductive CarriedElsewhere (method v : List UInt8) : Prop
  /-- there is room for a request line and a number -/
  | room : 0 ∉ v → 0x0D ∉ v → v.length + 47 < BUF_MAX_SIZE → CarriedElsewhere method v
  /-- the value nearly fills the receive buffer, and there is a request around it all the same -/
  | full {msg : List UInt8} {r : Request} : BUF_MAX_SIZE ≤ v.length + 47 → Asks msg r →
      r.method = method → headerValue (cstr msg) = some v →
      extractValue v "uri" ≠ .ok (some r.url) → CarriedElsewhere method v

/-! ## The request line -/

theorem Guarded.isUrl {method : List UInt8} (h : Guarded method) : IsUrl method := by
  rcases h with rfl | rfl | rfl
  · exact ⟨by decide, by decide, by decide, by decide⟩
  · exact ⟨by decide, by decide, by decide, by decide⟩
  · exact ⟨by decide, by decide, by decide, by decide⟩

theorem Guarded.length_le {method : List UInt8} (h : Guarded method) : method.length ≤ 8 := by
  rcases h with rfl | rfl | rfl <;> decide

theorem copyLine_append (line l rest : List UInt8) (hl : 0x0A ∉ l)
    (hfits : line.length + l.length ≤ 398) :
    copyLine line (l ++ 0x0A :: rest) = .ok (line ++ asLine l, rest) := by
  induction l generalizing line with
  | nil =>
    rw [List.nil_append, copyLine, if_pos rfl, if_pos (by simpa using hfits)]
    rfl
  | cons b l ih =>
    rw [List.mem_cons, not_or] at hl
    simp only [List.length_cons] at hfits
    rw [List.cons_append, copyLine, if_neg (Ne.symm hl.1), if_pos (by omega),
      ih (line ++ [b]) hl.2 (by simp; omega), asLine, asLine]
    simp

variable {method url headers : List UInt8}

/-- The first line of the text, without its newline. -/
def requestLine (method url : List UInt8) : List UInt8 :=
  method ++ 0x20 :: (url ++ 0x20 :: (str "RTSP/1.0" ++ [0x0D]))

theorem requestText_eq (method url headers : List UInt8) :
    requestText method url headers = requestLine method url ++ 0x0A :: headers := by
  simp [requestText, requestLine]

theorem words_requestLine_of_word (hm : IsUrl method) (hurl : IsUrl url) :
    words (requestLine method url) = [.string method, .string url, .string (str "RTSP/1.0")] := by
  have hspace : isspace 0x20 = true := by decide
  have hversion : IsWord (str "RTSP/1.0") := by decide
  have hline : asLine (requestLine method url) =
      method ++ 0x20 :: (url ++ 0x20 :: (str "RTSP/1.0" ++ 0x0D :: [0x0A])) := by
    simp [asLine, requestLine]
  have hnul : 0 ∉ asLine (requestLine method url) := by
    rw [hline]
    simp only [List.mem_append, List.mem_cons, not_or]
    exact ⟨hm.nul, by decide, hurl.nul, by decide, by decide, by decide, by decide,
      List.not_mem_nil⟩
  have hformat : directives (str "%s %s %s\r\n") =
      [.word, .space, .word, .space, .word, .space, .space] := rfl
  rw [words, cstr_eq_self hnul, sscanf, hformat, hline, scan_word hm.word hm.nonempty hspace,
    scan_space hurl.word hurl.nonempty hspace, scan_word hurl.word hurl.nonempty hspace,
    scan_space hversion (by decide) hspace, scan_word hversion (by decide) (by decide)]
  rfl

theorem parseRequest_text_of_word (hm : IsUrl method) (hshort : method.length < 40)
    (hurl : IsUrl url) (hroom : (requestText method url headers).length < BUF_MAX_SIZE) :
    parseRequest (requestText method url headers) = (parseCSeq (headers ++ [0])).map
      (Option.map fun cseq =>
        ⟨requestText method url headers ++ [0], method, url, cseq, headers ++ [0]⟩) := by
  have hfits : (requestLine method url).length ≤ 398 := by
    have hversion : (str "RTSP/1.0").length = 8 := rfl
    have := hm.fits
    have := hurl.fits
    simp only [requestLine, List.length_append, List.length_cons, List.length_nil, hversion]
    omega
  have hnewline : 0x0A ∉ requestLine method url := by
    have hword : ∀ w, IsWord w → 0x0A ∉ w := fun w hw hmem =>
      absurd (hw 0x0A hmem) (by decide)
    simp only [requestLine, List.mem_append, List.mem_cons, not_or]
    exact ⟨hword _ hm.word, by decide, hword _ hurl.word, by decide, by decide, by decide,
      List.not_mem_nil⟩
  have hcopy : getLineFromBuf (requestText method url headers ++ [0]) =
      .ok (asLine (requestLine method url), headers ++ [0]) := by
    rw [requestText_eq, List.append_assoc]
    exact copyLine_append [] _ _ hnewline (by simpa using hfits)
  have hwords := words_requestLine_of_word hm hurl
  have hline : parseRequestLine (asLine (requestLine method url)) =
      .ok (some ⟨method, url, str "RTSP/1.0"⟩) := by
    rw [parseRequestLine_fits, hwords]
    · rfl
    · rw [hwords]
      constructor
      · rintro s ⟨⟩
        exact hshort
      · rintro s ⟨⟩
        exact hurl.fits
      · rintro s ⟨⟩
        decide
  simp only [parseRequest, terminate, if_pos hroom, bind, Except.bind, hcopy, hline]
  cases parseCSeq (headers ++ [0]) with
  | error fault => rfl
  | ok cseq => cases cseq <;> rfl

theorem parseRequest_text (hmethod : Guarded method) (hurl : IsUrl url)
    (hroom : (requestText method url headers).length < BUF_MAX_SIZE) :
    parseRequest (requestText method url headers) = (parseCSeq (headers ++ [0])).map
      (Option.map fun cseq =>
        ⟨requestText method url headers ++ [0], method, url, cseq, headers ++ [0]⟩) :=
  parseRequest_text_of_word hmethod.isUrl (hmethod.length_le.trans_lt (by decide)) hurl hroom

/-! ## The authorization line -/

/-- The key without its space. -/
def authorizationWord : List UInt8 := str "Authorization:"

theorem authorizationWord_word : IsWord authorizationWord := by decide

theorem authorizationKey_eq : authorizationKey = authorizationWord ++ [0x20] := rfl

theorem cstr_requestText (hmethod : Guarded method) (hurl : IsUrl url) :
    cstr (requestText method url headers) = requestText method url (cstr headers) := by
  have hnul : 0 ∉ requestLine method url ++ [0x0A] := by
    simp only [requestLine, List.mem_append, List.mem_cons, not_or]
    exact ⟨⟨hmethod.isUrl.nul, by decide, hurl.nul, by decide, by decide, by decide,
      List.not_mem_nil⟩, by decide, List.not_mem_nil⟩
  have hsplit : ∀ tail, requestText method url tail =
      (requestLine method url ++ [0x0A]) ++ tail := fun tail => by
    simp [requestText_eq]
  rw [hsplit, hsplit, cstr_append hnul]

/-- The key is not in the request line, unless the URL ends with its word. -/
theorem strstr_requestText (hmethod : Guarded method) (hurl : IsUrl url)
    (hend : ¬ authorizationWord <:+ url) (tail : List UInt8) :
    strstr (requestText method url tail) authorizationKey = strstr tail authorizationKey := by
  have hword := authorizationWord_word
  have hspace : isspace 0x20 = true := by decide
  have hshort : ∀ w : List UInt8, w.length ≤ 8 → ¬ authorizationWord <:+ w := by
    intro w hw hsuffix
    have hlen : authorizationWord.length = 14 := rfl
    have := hsuffix.length_le
    omega
  have hversion : IsWord (str "RTSP/1.0") := by decide
  rw [authorizationKey_eq, requestText,
    strstr_word hmethod.isUrl.word hword hspace hspace (hshort _ hmethod.length_le),
    strstr_word hurl.word hword hspace hspace hend,
    strstr_word hversion hword hspace (by decide) (hshort _ (by decide))]
  have hnil : IsWord [] := fun b hb => absurd hb List.not_mem_nil
  exact strstr_word hnil hword hspace (by decide) (hshort _ (by decide)) tail

theorem findAuthorization_requestText (hmethod : Guarded method) (hurl : IsUrl url)
    (hend : ¬ authorizationWord <:+ url) :
    findAuthorization (cstr (requestText method url headers)) =
      findAuthorization (cstr headers) := by
  have hfound : strstr (cstr (requestText method url headers)) (str "Authorization: ") =
      strstr (cstr headers) (str "Authorization: ") := by
    rw [cstr_requestText hmethod hurl]
    exact strstr_requestText hmethod hurl hend _
  rw [findAuthorization, findAuthorization, hfound]

/-! ## Acceptance -/

theorem length_requestText (method url headers : List UInt8) :
    (requestText method url headers).length = method.length + url.length + headers.length + 12 := by
  have hversion : (str "RTSP/1.0").length = 8 := rfl
  simp only [requestText, List.length_append, List.length_cons, hversion]
  omega

theorem isUrl_singleton {b : UInt8} (hspace : isspace b = false) (hnul : b ≠ 0) : IsUrl [b] where
  nonempty := List.cons_ne_nil b []
  word c hc := by rwa [List.mem_singleton.mp hc]
  nul := by simpa using Ne.symm hnul
  fits := by simp

theorem authorize_passed_iff {conn : Conn} (hauth : conn.auth = 1) (hmethod : Guarded method)
    {msg v : List UInt8} (hvalue : headerValue (cstr msg) = some v) :
    authorize conn.auth conn.md5 conn.nonce (msg ++ [0]) method = .ok .passed ↔
      Passes conn method v := by
  rw [authorize, hauth, if_pos (guarded_methods hmethod), cstr_append_nul,
    findAuthorization_some hvalue]
  constructor
  · intro h
    obtain ⟨found, hfound, h⟩ := bind_eq_ok.mp h
    obtain ⟨info, hread, hinfo⟩ := bind_eq_ok.mp hfound
    obtain rfl : some info = found := Except.ok.inj hinfo
    obtain ⟨ret, hret, hpassed⟩ := bind_eq_ok.mp h
    refine ⟨info, ret, hread, hret, ?_⟩
    by_contra hneg
    rw [if_pos (not_le.mp hneg)] at hpassed
    cases hpassed
  · rintro ⟨info, ret, hread, hret, hpos⟩
    rw [hread, ok_bind, pure_bind]
    dsimp only
    rw [hret, ok_bind, if_neg (not_lt.mpr hpos)]
    rfl

theorem Asks.accepts_iff {conn : Conn} (hauth : conn.auth = 1) {msg v : List UInt8} {r : Request}
    (hasks : Asks msg r) (hmethod : Guarded r.method) (hvalue : headerValue (cstr msg) = some v) :
    Accepts conn msg r ↔ Passes conn r.method v := by
  have hbuf : r.recvBuf = msg ++ [0] := parseRequest_recvBuf msg _ hasks r rfl
  rw [← authorize_passed_iff hauth hmethod hvalue, ← hbuf]
  exact ⟨fun h => h.passed, fun h => ⟨hasks, h⟩⟩

theorem Passes.uri {conn : Conn} {v : List UInt8} (h : Passes conn method v) :
    ∃ uri, extractValue v "uri" = .ok (some uri) := by
  obtain ⟨info, ret, hread, hret, hpos⟩ := h
  obtain ⟨uri, huri, -⟩ := authorizationVerify_gives conn.md5 conn.nonce method info.uri
    info.response ret hret (not_lt.mpr hpos)
  have hentries := AuthorizationInfo.read_eq_ok.mp hread
  simp only [AuthorizationInfo.entries, List.forall_mem_cons, huri] at hentries
  exact ⟨uri, hentries.2.2.2.1⟩

theorem headerValue_chars {msg v : List UInt8} (h : headerValue (cstr msg) = some v) :
    0 ∉ v ∧ 0x0D ∉ v := by
  obtain ⟨found, hfound, hline⟩ := Option.bind_eq_some_iff.mp h
  have hsub : ∀ b ∈ found.drop authorizationKey.length, b ≠ 0 := by
    intro b hb
    have hmem := (strstr_eq_some hfound).1.subset (List.mem_of_mem_drop hb)
    simpa using List.mem_takeWhile_imp hmem
  rw [lineText] at hline
  split_ifs at hline with hcr hlf
  · obtain rfl := Option.some.inj hline
    refine ⟨fun hmem => hsub 0 ((List.takeWhile_prefix _).subset hmem) rfl, fun hmem => ?_⟩
    simpa using List.mem_takeWhile_imp hmem
  · obtain rfl := Option.some.inj hline
    exact ⟨fun hmem => hsub 0 ((List.takeWhile_prefix _).subset hmem) rfl,
      fun hmem => hcr ((List.takeWhile_prefix _).subset hmem)⟩

/-! ## A request around a value -/

/-- A number, and a line with the value. -/
def headersOf (v : List UInt8) : List UInt8 :=
  str "CSeq: 1\r\n" ++ (authorizationKey ++ (v ++ str "\r\n"))

theorem parseCSeq_headersOf (v : List UInt8) : parseCSeq (headersOf v ++ [0]) = .ok (some 1) := by
  have hcopy : getLineFromBuf (headersOf v ++ [0]) = .ok (asLine (str "CSeq: 1\r"),
      authorizationKey ++ (v ++ str "\r\n") ++ [0]) :=
    copyLine_append [] (str "CSeq: 1\r") _ (by decide) (by decide)
  rw [parseCSeq, untilLine, hcopy, ok_bind]
  rfl

theorem headerValue_headersOf {v : List UInt8} (hmethod : Guarded method) (hurl : IsUrl url)
    (hend : ¬ authorizationWord <:+ url) (hnul : 0 ∉ v) (hcr : 0x0D ∉ v) :
    headerValue (cstr (requestText method url (headersOf v))) = some v := by
  have hheaders : 0 ∉ headersOf v := by
    have hnumber : (0 : UInt8) ∉ str "CSeq: 1\r\n" := by decide
    have hkey : (0 : UInt8) ∉ authorizationKey := by decide
    have hcrlf : (0 : UInt8) ∉ str "\r\n" := by decide
    simp only [headersOf, List.mem_append]
    tauto
  have hnumber : headersOf v =
      str "CSeq: 1\r" ++ 0x0A :: (authorizationKey ++ (v ++ str "\r\n")) := rfl
  have hnone : strstr (str "CSeq: 1\r") authorizationKey = none := by decide
  have hline : lineText (v ++ str "\r\n") = some v := by
    rw [lineText, if_pos (List.mem_append_right _ (by decide))]
    exact congrArg some (takeWhile_append_cons hcr [0x0A])
  rw [headerValue, cstr_requestText hmethod hurl, strstr_requestText hmethod hurl hend,
    cstr_eq_self hheaders, hnumber, strstr_split (by decide), hnone, Option.map_none,
    Option.none_or, strstr_self (by decide), Option.bind_some, List.drop_left, hline]

/-- **When the digest binds the URL.** It does exactly for values that do not pass and for those
that no request for another URL can carry. -/
theorem bindsUrl_iff {conn : Conn} (hauth : conn.auth = 1) (hmethod : Guarded method)
    (v : List UInt8) :
    BindsUrl conn method v ↔ ¬ (Passes conn method v ∧ CarriedElsewhere method v) := by
  constructor
  · rintro hbinds ⟨hpasses, helsewhere⟩
    obtain ⟨uri, huri⟩ := hpasses.uri
    cases helsewhere with
    | room hnul hcr hroom =>
      -- the same value is accepted with two different URLs
      have hboth : ∀ b : UInt8, isspace b = false → b ≠ 0 → uri = [b] := by
        intro b hspace hb
        have hurl := isUrl_singleton hspace hb
        have hend : ¬ authorizationWord <:+ [b] := by
          intro hsuffix
          have hle := hsuffix.length_le
          rw [List.length_singleton] at hle
          exact absurd hle (by decide)
        have hlength : (requestText method [b] (headersOf v)).length < BUF_MAX_SIZE := by
          have hshort := hmethod.length_le
          have htexts : (str "CSeq: 1\r\n").length = 9 ∧ authorizationKey.length = 15 ∧
              (str "\r\n").length = 2 := by
            decide
          simp only [length_requestText, headersOf, List.length_append, List.length_singleton,
            htexts]
          omega
        have hasks : Asks (requestText method [b] (headersOf v))
            ⟨requestText method [b] (headersOf v) ++ [0], method, [b], 1, headersOf v ++ [0]⟩ := by
          rw [Asks, parseRequest_text hmethod hurl hlength, parseCSeq_headersOf]
          rfl
        have hvalue := headerValue_headersOf hmethod hurl hend hnul hcr
        exact hbinds _ _ uri ((hasks.accepts_iff hauth hmethod hvalue).mpr hpasses) rfl hvalue huri
      have hslash := hboth 0x2F (by decide) (by decide)
      have hstar := hboth 0x2A (by decide) (by decide)
      rw [hslash] at hstar
      exact absurd hstar (by decide)
    | full _ hasks heq hvalue hother =>
      subst heq
      have haccepts := (hasks.accepts_iff hauth hmethod hvalue).mpr hpasses
      obtain rfl := hbinds _ _ uri haccepts rfl hvalue huri
      exact hother huri
  · intro hnot msg r uri haccepts heq hvalue huri
    subst heq
    have hpasses := (haccepts.asks.accepts_iff hauth hmethod hvalue).mp haccepts
    obtain ⟨hnul, hcr⟩ := headerValue_chars hvalue
    by_contra hne
    refine hnot ⟨hpasses, ?_⟩
    by_cases hroom : v.length + 47 < BUF_MAX_SIZE
    · exact .room hnul hcr hroom
    · refine .full (not_lt.mp hroom) haccepts.asks rfl hvalue fun hown => hne ?_
      exact Option.some.inj (Except.ok.inj (huri.symm.trans hown))

def urlB : List UInt8 := str "rtsp://10.0.0.1/b.mp4"

def headersA : List UInt8 := headersOf (lineValue describeLine)

/-- A value with a response that is no digest. -/
def wrongValue : List UInt8 := str "Digest uri=\"rtsp://10.0.0.1/a.mp4\", response=\"5f\""

set_option maxRecDepth 4096 in
theorem bindsUrl_wrongValue : BindsUrl digestConn (str "DESCRIBE") wrongValue := by
  refine (bindsUrl_iff rfl (Or.inl rfl) _).mpr ?_
  rintro ⟨⟨info, ret, hread, hret, hpos⟩, -⟩
  have hinfo : AuthorizationInfo.read wrongValue =
      .ok ⟨none, none, none, some urlA, some (str "5f")⟩ := rfl
  obtain rfl := Except.ok.inj (hinfo.symm.trans hread)
  have hrejected : authorizationVerify digestConn.md5 USER PASSWORD realm digestConn.nonce
      (some urlA) (str "DESCRIBE") (some (str "5f")) = .ok (-1) := rfl
  obtain rfl := Except.ok.inj (hrejected.symm.trans hret)
  exact absurd hpos (by decide)

set_option maxRecDepth 4096 in
/-- With the digest for `urlA` a client is told about `urlB`. -/
theorem describe_urlB : Function.Injective digestConn.md5 ∧
    extractValue (lineValue describeLine) "uri" = .ok (some urlA) ∧
    (∃ t, handleRequest digestConn easyWorld (.init [] [])
      (requestText (str "DESCRIBE") urlB headersA) =
        .ok (.replied t (handleCmdDescribe 1 urlB []) none) ∧ t.pathTmp = str "mp4path/b.mp4") ∧
    ¬ BindsUrl digestConn (str "DESCRIBE") (lineValue describeLine) := by
  have huri : extractValue (lineValue describeLine) "uri" = .ok (some urlA) := rfl
  refine ⟨Function.injective_id, huri, ⟨_, rfl, rfl⟩, fun hbinds => ?_⟩
  have hurl : IsUrl urlB := ⟨by decide, by decide, by decide, by decide⟩
  have hparse : Asks (requestText (str "DESCRIBE") urlB headersA)
      ⟨requestText (str "DESCRIBE") urlB headersA ++ [0], str "DESCRIBE", urlB, 1,
        headersA ++ [0]⟩ := rfl
  have hvalue : headerValue (cstr (requestText (str "DESCRIBE") urlB headersA)) =
      some (lineValue describeLine) :=
    headerValue_headersOf (Or.inl rfl) hurl (by decide) (by decide) (by decide)
  have heq := hbinds _ _ urlA ⟨hparse, rfl⟩ rfl hvalue huri
  exact absurd heq (by decide)

end SimpleRtsp

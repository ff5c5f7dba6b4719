import SimpleRtsp.Rtsp.HostAddress
import SimpleRtsp.Rtsp.Player

/-!
# Playing a file

A player asks for the methods and for a description, is challenged, asks again with the digest, sets
up tracks over TCP and starts to play. `Player.messages` are its requests, those behind the 401 made
from what the 401 says, and `handshake_produced` says that the connection gives every reply that the
player waits for and calls `addClient` once, for the file of the URL and the channels of the player.
-/

namespace SimpleRtsp

open CString

/-! ## Paths -/

theorem strrchr_append {c : UInt8} {rest : List UInt8} (h : c ∉ rest) (front : List UInt8) :
    strrchr (front ++ c :: rest) c = some (c :: rest) := by
  induction front with
  | nil =>
    rw [List.nil_append, strrchr, strrchr_eq_none.mpr h, Option.none_or, if_pos rfl]
  | cons b front ih =>
    rw [List.cons_append, strrchr, ih, Option.some_or]

theorem baseName_append {rest : List UInt8} (h : 0x2F ∉ rest) (front : List UInt8) :
    baseName (front ++ 0x2F :: rest) = rest :=
  (strrchr_tail (strrchr_append h front)).symm

/-- The last part of the URL of a track. -/
def trackName (track0 : Bool) : List UInt8 := if track0 then str "track0" else str "track1"

def trackUrlOf (url : List UInt8) (track0 : Bool) : List UInt8 := url ++ 0x2F :: trackName track0

/-! ## Players -/

/-- A header line of a player: it fits, and it is not one that the server looks for. -/
structure IsOther (h : List UInt8) : Prop where
  header : IsHeader h
  authorization : ¬ authorizationKey <:+: h
  transport : isAvp (asLine (h ++ [0x0D])) = false

/-- A player with a URL that the server can take apart. -/
structure Player where
  url : RtspUrl
  /-- the number of its first request -/
  cseq : Nat
  /-- its other header lines, in front of the authorization and behind it -/
  before : List (List UInt8)
  after : List (List UInt8)
  /-- the tracks that it sets up and their channels -/
  setups : List (Bool × Nat)
  userinfo : url.userinfo = none
  port : url.port ≠ none
  host_short : url.host.length < 40
  url_word : IsWord url.text
  url_nul : 0 ∉ url.text
  url_quote : 0x22 ∉ url.text
  url_fits : url.text.length < 93
  url_free : ¬ str "response" <:+: url.text
  url_end : ¬ authorizationWord <:+ url.text
  name_file : 0x2F ∉ url.name
  others : ∀ h ∈ before ++ after, IsOther h
  channels : ∀ s ∈ setups, s.2 ≤ 254
  numbers : cseq + setups.length + 4 < 2 ^ 31
  room : (headersText (before ++ after)).length + 2000 < BUF_MAX_SIZE

namespace Player

variable (p : Player)

def request (method url : List UInt8) (n : Nat) (authorization transport : List (List UInt8)) :
    List UInt8 :=
  requestText method url
    (headersText (cseqLine n :: (p.before ++ authorization ++ p.after ++ transport)))

/-- The authorization line, with what the challenge says. -/
def answer (md5 : List UInt8 → List UInt8) (reply method uri : List UInt8) : List (List UInt8) :=
  (challenge reply).toList.map fun (realm, nonce) =>
    credentials realm nonce uri (rfcResponse md5 USER PASSWORD realm nonce method uri)

/-- The SETUPs, numbered from `n` on. -/
def setupMessages (md5 : List UInt8 → List UInt8) (reply : List UInt8) :
    List (Bool × Nat) → Nat → List (List UInt8)
  | [], _ => []
  | (track0, a) :: setups, n =>
    p.request (str "SETUP") (trackUrlOf p.url.text track0) n
        (answer md5 reply (str "SETUP") (trackUrlOf p.url.text track0)) [tcpTransport a (a + 1)] ::
      setupMessages md5 reply setups (n + 1)

/-- The requests of the player, if `reply` is the reply to the second. -/
def messages (md5 : List UInt8 → List UInt8) (reply : List UInt8) : List (List UInt8) :=
  p.request (str "OPTIONS") p.url.text p.cseq [] [] ::
    p.request (str "DESCRIBE") p.url.text (p.cseq + 1) [] [] ::
    p.request (str "DESCRIBE") p.url.text (p.cseq + 2)
      (answer md5 reply (str "DESCRIBE") p.url.text) [] ::
    (p.setupMessages md5 reply p.setups (p.cseq + 3) ++
      [p.request (str "PLAY") p.url.text (p.cseq + 3 + p.setups.length)
        (answer md5 reply (str "PLAY") p.url.text) []])

def setupReplies (conn : Conn) : List (Bool × Nat) → Nat → List (List UInt8)
  | [], _ => []
  | (_, a) :: setups, n =>
    handleCmdSetupTcp n p.url.host conn.clientIp a conn.sessionId ::
      setupReplies conn setups (n + 1)

def replies (conn : Conn) (sdp : List UInt8) : List (List UInt8) :=
  handleCmdOptions p.cseq ::
    handleCmdUnauthorized (p.cseq + 1 : Nat) realm conn.nonce ::
    handleCmdDescribe (p.cseq + 2 : Nat) p.url.text sdp ::
    (p.setupReplies conn p.setups (p.cseq + 3) ++
      [handleCmdPlay (p.cseq + 3 + p.setups.length : Nat) conn.sessionId])

/-- The channel of the last SETUP for a track, and `old` if there is none. -/
def lastChannel (track0 : Bool) (old : Int) (setups : List (Bool × Nat)) : Int :=
  ((setups.filter fun s => s.1 = track0).getLast?.map fun s => (s.2 : Int)).getD old

/-- The call that starts the file. -/
def call (conn : Conn) : AddArgs where
  pathFilename := fileOf p.url.text
  clientSockFd := conn.clientSockFd
  sig0 := lastChannel true (-1) p.setups
  sig2 := lastChannel false (-1) p.setups
  tureOfTcp := 1
  clientIp := conn.clientIp
  clientRtpPort := -1
  clientRtpPort1 := -1
  serverUdpSocketRtp := -1
  serverUdpSocketRtcp := -1
  serverUdpSocketRtp1 := -1
  serverUdpSocketRtcp1 := -1

/-! ## The URLs -/

theorem length_trackName (track0 : Bool) : (trackName track0).length = 6 := by
  cases track0 <;> rfl

theorem url_text : ∃ front, p.url.text = front ++ 0x2F :: p.url.name := by
  rw [RtspUrl.text, RtspUrl.rest, p.userinfo]
  exact ⟨_, (List.append_assoc _ _ _).symm⟩

theorem baseName_url : baseName p.url.text = p.url.name := by
  obtain ⟨front, hfront⟩ := p.url_text
  rw [hfront, baseName_append p.name_file]

theorem slash_not_mem_trackName (track0 : Bool) : 0x2F ∉ trackName track0 := by
  cases track0 <;> decide

theorem isUrl_url : IsUrl p.url.text where
  nonempty := by simp [RtspUrl.text, str]
  word := p.url_word
  nul := p.url_nul
  fits := p.url_fits.trans (by decide)

theorem isUrl_track (track0 : Bool) : IsUrl (trackUrlOf p.url.text track0) where
  nonempty := by simp [trackUrlOf]
  word b hb := by
    have htrack : IsWord (0x2F :: trackName track0) := by cases track0 <;> decide
    obtain hb | hb := List.mem_append.mp hb
    · exact p.url_word b hb
    · exact htrack b hb
  nul := by
    have htrack : 0 ∉ 0x2F :: trackName track0 := by cases track0 <;> decide
    rw [trackUrlOf, List.mem_append, not_or]
    exact ⟨p.url_nul, htrack⟩
  fits := by
    have hurl := p.url_fits
    rw [trackUrlOf, List.length_append, List.length_cons, length_trackName]
    omega

/-- The URL of a track is a URL with the same host. -/
def trackRtspUrl (track0 : Bool) : RtspUrl :=
  { p.url with name := p.url.name ++ 0x2F :: trackName track0 }

theorem text_trackRtspUrl (track0 : Bool) :
    (p.trackRtspUrl track0).text = trackUrlOf p.url.text track0 := by
  simp [trackRtspUrl, RtspUrl.text, RtspUrl.rest, trackUrlOf]

theorem extractsHost : p.url.ExtractsHost :=
  p.url.extractsHost_iff.mpr ⟨Or.inl ⟨p.userinfo, p.port⟩, p.host_short⟩

theorem extractsHost_track (track0 : Bool) : (p.trackRtspUrl track0).ExtractsHost :=
  (p.trackRtspUrl track0).extractsHost_iff.mpr ⟨Or.inl ⟨p.userinfo, p.port⟩, p.host_short⟩

/-- What a URL of the player has to be to be the URI of a digest. -/
structure IsUri (uri : List UInt8) : Prop where
  isUrl : IsUrl uri
  quote : 0x22 ∉ uri
  free : ¬ str "response" <:+: uri
  ends : ¬ authorizationWord <:+ uri

theorem isUri_url : IsUri p.url.text := ⟨p.isUrl_url, p.url_quote, p.url_free, p.url_end⟩

theorem isUri_track (track0 : Bool) : IsUri (trackUrlOf p.url.text track0) where
  isUrl := p.isUrl_track track0
  quote := by
    have htrack : 0x22 ∉ 0x2F :: trackName track0 := by cases track0 <;> decide
    rw [trackUrlOf, List.mem_append, not_or]
    exact ⟨p.url_quote, htrack⟩
  free := by
    have htrack : strstr (trackName track0) (str "response") = none := by cases track0 <;> decide
    have hsplit := strstr_split (by decide : 0x2F ∉ str "response") p.url.text (trackName track0)
    rw [strstr_absent p.url_free, htrack, Option.map_none, Option.none_or] at hsplit
    rintro ⟨s, t, hst⟩
    refine strstr_eq_none hsplit ⟨s, ?_⟩ (List.prefix_append (str "response") t)
    rw [← List.append_assoc, hst, trackUrlOf]
  ends := by
    rintro hsuffix
    have hlast := hsuffix.getLast (by decide)
    have htrack : (trackUrlOf p.url.text track0).getLast (by simp [trackUrlOf]) =
        if track0 then 0x30 else 0x31 := by
      cases track0 <;> simp [trackUrlOf, trackName, str]
    rw [htrack] at hlast
    cases track0 <;> exact absurd hlast (by decide)

theorem IsUri.plain {uri : List UInt8} (h : IsUri uri) : Plain uri := by
  intro b hb
  have hword := h.isUrl.word b hb
  refine ⟨fun hquote => h.quote (hquote ▸ hb), ?_, ?_⟩ <;> rintro rfl <;> cases hword

/-! ## What the server reads -/

def headerLines (authorization transport : List (List UInt8)) : List (List UInt8) :=
  p.before ++ authorization ++ p.after ++ transport

def parsed (method url : List UInt8) (n : Nat) (authorization transport : List (List UInt8)) :
    Request where
  recvBuf := p.request method url n authorization transport ++ [0]
  method := method
  url := url
  cseq := n
  bufTmp := headersText (cseqLine n :: p.headerLines authorization transport) ++ [0]

/-- At most one header line. -/
structure AtMostOne (headers : List (List UInt8)) : Prop where
  length_le : headers.length ≤ 1
  header : ∀ h ∈ headers, IsHeader h

theorem AtMostOne.nil : AtMostOne [] := ⟨Nat.zero_le 1, fun _ hmem => absurd hmem List.not_mem_nil⟩

theorem AtMostOne.singleton {h : List UInt8} (hh : IsHeader h) : AtMostOne [h] where
  length_le := Nat.le_refl 1
  header _ hmem := by rwa [List.mem_singleton.mp hmem]

theorem AtMostOne.length_headersText {headers : List (List UInt8)} (h : AtMostOne headers) :
    (headersText headers).length ≤ 401 := by
  obtain _ | ⟨l, _ | ⟨l', rest⟩⟩ := headers
  · decide
  · have hfits := (h.header l List.mem_cons_self).fits
    have hnil : (headersText []).length = 2 := rfl
    rw [length_headersText_cons, hnil]
    omega
  · exact absurd h.length_le (by simp)

variable {p} {method url : List UInt8} {n : Nat} {authorization transport : List (List UInt8)}

theorem length_headerLines (hauthorization : AtMostOne authorization)
    (htransport : AtMostOne transport) :
    (headersText (p.headerLines authorization transport)).length + 1200 < BUF_MAX_SIZE := by
  have h₁ := length_headersText_append (p.before ++ authorization ++ p.after) transport
  have h₂ := length_headersText_append (p.before ++ authorization) p.after
  have h₃ := length_headersText_append p.before authorization
  have h₄ := length_headersText_append p.before p.after
  have h₅ := hauthorization.length_headersText
  have h₆ := htransport.length_headersText
  have hroom := p.room
  rw [headerLines]
  omega

theorem parseRequest_request (hmethod : IsUrl method) (hshort : method.length < 40)
    (hurl : IsUrl url) (hn : n < 2 ^ 31) (hauthorization : AtMostOne authorization)
    (htransport : AtMostOne transport) :
    Asks (p.request method url n authorization transport)
      (p.parsed method url n authorization transport) := by
  have hroom : (p.request method url n authorization transport).length < BUF_MAX_SIZE := by
    have hlines := length_headerLines (p := p) hauthorization htransport
    have hcseq := (isHeader_cseqLine hn).fits
    have hfits := hurl.fits
    rw [headerLines] at hlines
    rw [request, length_requestText, length_headersText_cons]
    omega
  rw [Asks, request, parseRequest_text_of_word hmethod hshort hurl hroom,
    parseCSeq_headersText hn]
  rfl

theorem isHeader_of_mem (hauthorization : AtMostOne authorization)
    (htransport : AtMostOne transport) {h : List UInt8}
    (hmem : h ∈ p.headerLines authorization transport) : IsHeader h := by
  have hothers := p.others
  simp only [headerLines, List.mem_append, or_assoc] at hmem hothers
  obtain hmem | hmem | hmem | hmem := hmem
  · exact (hothers h (Or.inl hmem)).header
  · exact hauthorization.header h hmem
  · exact (hothers h (Or.inr hmem)).header
  · exact htransport.header h hmem

theorem not_infix_cseqLine (n : Nat) : ¬ authorizationKey <:+: cseqLine n := by
  intro hinside
  have hkey : (0x41 : UInt8) ∈ authorizationKey := by decide
  have hname : (0x41 : UInt8) ∉ str "CSeq: " := by decide
  obtain hmem | hmem := List.mem_append.mp (List.IsInfix.subset hinside hkey)
  · exact hname hmem
  · exact absurd (isNumeral_decimal n _ hmem) (by decide)

theorem authorize_unanswered {conn : Conn} (hauth : conn.auth = 1) (hmethod : Guarded method)
    (huri : IsUri url) (hn : n < 2 ^ 31) :
    authorize conn.auth conn.md5 conn.nonce (p.parsed method url n [] []).recvBuf method =
      .ok .missing := by
  have hlines : ∀ l ∈ (cseqLine n :: p.headerLines [] []).map (· ++ [0x0D]),
      ¬ authorizationKey <:+: l := by
    intro l hl
    obtain ⟨h, hh, rfl⟩ := List.mem_map.mp hl
    apply not_infix_cr
    obtain rfl | hh := List.mem_cons.mp hh
    · exact not_infix_cseqLine n
    · have hmem : h ∈ p.before ++ p.after := by simpa [headerLines] using hh
      exact (p.others h hmem).authorization
  have hnul : 0 ∉ headersText (cseqLine n :: p.headerLines [] []) := by
    apply nul_not_mem_headersText
    intro l hl
    obtain rfl | hl := List.mem_cons.mp hl
    · exact (isHeader_cseqLine hn).nul
    · exact (isHeader_of_mem .nil .nil hl).nul
  have hnone : strstr (headersText (cseqLine n :: p.headerLines [] [])) authorizationKey =
      none := by
    have hsplit := strstr_lines hlines crlf
    have hcrlf : strstr crlf authorizationKey = none := by decide
    rw [hcrlf, List.flatMap_map] at hsplit
    rw [← hsplit, headersText]
    congr 3
    funext l
    simp [crlf, str]
  have hfind : findAuthorization (headersText (cseqLine n :: p.headerLines [] [])) = .ok none := by
    have hkey : strstr (headersText (cseqLine n :: p.headerLines [] [])) (str "Authorization: ") =
        none := hnone
    rw [findAuthorization, hkey]
  have hbuf : (p.parsed method url n [] []).recvBuf =
      requestText method url (headersText (cseqLine n :: p.headerLines [] [])) ++ [0] := rfl
  rw [hbuf, authorize, hauth, if_pos (guarded_methods hmethod), cstr_append_nul,
    findAuthorization_requestText hmethod huri.isUrl huri.ends, cstr_eq_self hnul, hfind]
  rfl

/-- A connection with authorization and a nonce as `generate_nonce` makes it. -/
structure Digesting (conn : Conn) : Prop where
  auth : conn.auth = 1
  length_md5 : ∀ s, (conn.md5 s).length = 16
  nonce : ∃ combined, conn.nonce = hex (conn.md5 combined)

variable {conn : Conn}

theorem answer_eq (h : Digesting conn) (cseq : Nat) (method uri : List UInt8) :
    answer conn.md5 (handleCmdUnauthorized cseq realm conn.nonce) method uri =
      [credentials realm conn.nonce uri
        (rfcResponse conn.md5 USER PASSWORD realm conn.nonce method uri)] := by
  obtain ⟨combined, hnonce⟩ := h.nonce
  have hquote : 0x22 ∉ conn.nonce := by
    rw [hnonce]
    exact fun hmem => (plain_hex _ _ hmem).1 rfl
  rw [answer, challenge_unauthorized cseq hquote]
  rfl

theorem atMostOne_answer (h : Digesting conn) (cseq : Nat) (method : List UInt8) {uri : List UInt8}
    (huri : IsUri uri) :
    AtMostOne (answer conn.md5 (handleCmdUnauthorized cseq realm conn.nonce) method uri) := by
  rw [answer_eq h]
  obtain ⟨combined, hnonce⟩ := h.nonce
  have hresponse : Unbroken (rfcResponse conn.md5 USER PASSWORD realm conn.nonce method uri) :=
    (plain_hex _).unbroken
  rw [hnonce] at hresponse ⊢
  exact .singleton (isHeader_credentials _ (h.length_md5 combined) huri.plain.unbroken
    huri.isUrl.nul huri.isUrl.fits hresponse (nul_not_mem_hex _)
    (length_rfcResponse h.length_md5 ..).le)

theorem authorize_answered (h : Digesting conn) (cseq : Nat) (hmethod : Guarded method)
    (huri : IsUri url) (hn : n < 2 ^ 31) (htransport : AtMostOne transport) :
    authorize conn.auth conn.md5 conn.nonce
        (p.parsed method url n
          (answer conn.md5 (handleCmdUnauthorized cseq realm conn.nonce) method url)
          transport).recvBuf method = .ok .passed := by
  have hanswer := atMostOne_answer h cseq method huri
  obtain ⟨combined, hnonce⟩ := h.nonce
  let l : Login :=
    { before := cseqLine n :: p.before
      after := p.after ++ transport
      hashed := conn.md5 combined
      uri := url
      response := rfcResponse conn.md5 USER PASSWORD realm conn.nonce method url
      before_free := by
        intro line hline
        obtain rfl | hline := List.mem_cons.mp hline
        · exact not_infix_cseqLine n
        · exact (p.others line (List.mem_append_left _ hline)).authorization
      uri_plain := huri.plain
      uri_free := huri.free
      response_plain := plain_hex _ }
  have hheaders : l.headers = cseqLine n :: p.headerLines
      (answer conn.md5 (handleCmdUnauthorized cseq realm conn.nonce) method url) transport := by
    rw [answer_eq h, Login.headers, hnonce]
    simp [l, headerLines, hnonce]
  have hnul : 0 ∉ headersText l.headers := by
    rw [hheaders]
    apply nul_not_mem_headersText
    intro line hline
    obtain rfl | hline := List.mem_cons.mp hline
    · exact (isHeader_cseqLine hn).nul
    · exact (isHeader_of_mem hanswer htransport hline).nul
  have hfits : (colon method l.uri).length < 256 := by
    have hle := hmethod.length_le
    have hurl := huri.isUrl.fits
    have huriEq : l.uri = url := rfl
    rw [length_colon, huriEq]
    omega
  have hlogin := authorize_login h.auth h.length_md5 l hnonce rfl hmethod huri.isUrl huri.ends
    hfits hnul
  have hresponse : l.response =
      rfcResponse conn.md5 USER PASSWORD realm (hex l.hashed) method l.uri :=
    congrArg (fun nonce => rfcResponse conn.md5 USER PASSWORD realm nonce method url) hnonce
  rw [if_pos hresponse, hheaders] at hlogin
  exact hlogin

/-! ## The turns -/

/-- The variables when the file of the URL is found, with these channels. -/
def ready (p : Player) (localIp : List UInt8) (sig0 sig1 sig2 sig3 : Int) : Thread :=
  { Thread.init p.url.name localIp with
    pathTmp := fileOf p.url.text
    findflag := 1
    sig0 := sig0
    sig1 := sig1
    sig2 := sig2
    sig3 := sig3 }

/-- The files and the description are there. -/
structure Offers (w : World) (url : RtspUrl) (sdp : List UInt8) : Prop where
  opens : w.opens (fileOf url.text) = true
  describes : w.generateSDP (fileOf url.text) url.host = some sdp

variable {w : World} {sdp : List UInt8}

theorem fileOf_url (p : Player) : fileOf p.url.text = mp4Dir ++ p.url.name := by
  rw [fileOf, p.baseName_url]

theorem length_fileOf (p : Player) : (fileOf p.url.text).length < 100 := by
  obtain ⟨front, hfront⟩ := p.url_text
  have hfits := p.url_fits
  have hscheme : (str "rtsp://").length = 7 := rfl
  have hdir : mp4Dir.length = 8 := rfl
  have htext : p.url.text.length =
      7 + (p.url.host.length + (p.url.port.elim 0 fun port => port.length + 1)) +
        (p.url.name.length + 1) := by
    rw [RtspUrl.text, RtspUrl.rest, p.userinfo]
    cases p.url.port <;> simp [hscheme] <;> omega
  rw [fileOf_url, List.length_append, hdir]
  omega

theorem handleRequest_options (h : Offers w p.url sdp) (conn : Conn) (filename localIp : List UInt8)
    {n : Nat} (hn : n < 2 ^ 31) :
    handleRequest conn w (.init filename localIp) (p.request (str "OPTIONS") p.url.text n [] []) =
      .ok (.replied (p.ready localIp (-1) (-1) (-1) (-1)) (handleCmdOptions n) none) := by
  have haccepts : Accepts conn (p.request (str "OPTIONS") p.url.text n [] [])
      (p.parsed (str "OPTIONS") p.url.text n [] []) := by
    have hmethod : IsUrl (str "OPTIONS") := ⟨by decide, by decide, by decide, by decide⟩
    refine ⟨parseRequest_request hmethod (by decide) p.isUrl_url hn .nil .nil, ?_⟩
    have hnot : ¬ (conn.auth = 1 ∧ (str "OPTIONS" = str "SETUP" ∨ str "OPTIONS" = str "DESCRIBE" ∨
        str "OPTIONS" = str "PLAY")) :=
      fun hguarded => absurd hguarded.2 (by decide)
    exact if_neg hnot
  have hfind : (Thread.init filename localIp).findFile p.url.text =
      .ok { Thread.init p.url.name localIp with pathTmp := fileOf p.url.text } := by
    obtain ⟨front, hfront⟩ := p.url_text
    have hfits := p.length_fileOf
    rw [fileOf_url] at hfits ⊢
    rw [Thread.findFile, hfront, strrchr_append p.name_file]
    dsimp only
    have hstore : store .pathTmp 100 ((Thread.init filename localIp).pathTmp ++ p.url.name) =
        .ok (mp4Dir ++ p.url.name) := if_pos hfits
    rw [List.tail_cons, hstore]
    rfl
  have hrespond : respond conn w (.init filename localIp)
      (p.parsed (str "OPTIONS") p.url.text n [] []) =
      handleOptions w (.init filename localIp) (p.parsed (str "OPTIONS") p.url.text n [] []) := rfl
  have hurl : (p.parsed (str "OPTIONS") p.url.text n [] []).url = p.url.text := rfl
  rw [haccepts.handleRequest, hrespond, handleOptions, hurl, hfind, ok_bind]
  dsimp only
  rw [if_pos h.opens]
  rfl

theorem handleRequest_challenged (h : Digesting conn) (w : World) (t : Thread) {n : Nat}
    (hn : n < 2 ^ 31) :
    handleRequest conn w t (p.request (str "DESCRIBE") p.url.text n [] []) =
      .ok (.unauthorized (handleCmdUnauthorized n realm conn.nonce)) := by
  have hguarded : Guarded (str "DESCRIBE") := Or.inl rfl
  have hasks := parseRequest_request (p := p) hguarded.isUrl (by decide) p.isUrl_url hn .nil .nil
  have hmissing := authorize_unanswered (p := p) h.auth hguarded p.isUri_url hn
  rw [handleRequest, hasks, ok_bind]
  dsimp only
  have hmethod : (p.parsed (str "DESCRIBE") p.url.text n [] []).method = str "DESCRIBE" := rfl
  rw [serve, hmethod, hmissing, ok_bind]
  rfl

/-- The request of the player with the answer to the challenge. -/
def answered (p : Player) (conn : Conn) (cseq : Nat) (method uri : List UInt8) (n : Nat)
    (transport : List (List UInt8)) : List UInt8 :=
  p.request method uri n
    (answer conn.md5 (handleCmdUnauthorized cseq realm conn.nonce) method uri) transport

theorem accepts_answered (h : Digesting conn) (cseq : Nat) (hmethod : Guarded method)
    (huri : IsUri url) (hn : n < 2 ^ 31) (htransport : AtMostOne transport) :
    Accepts conn (p.answered conn cseq method url n transport)
      (p.parsed method url n
        (answer conn.md5 (handleCmdUnauthorized cseq realm conn.nonce) method url) transport) where
  asks := parseRequest_request hmethod.isUrl (hmethod.length_le.trans_lt (by decide)) huri.isUrl hn
    (atMostOne_answer h cseq method huri) htransport
  passed := authorize_answered h cseq hmethod huri hn htransport

theorem handleDescribe_found {t : Thread} {r : Request} {ip : List UInt8} (hflag : t.findflag = 1)
    (hip : readLocalIp 100 r.url w.localIp = .ok ip)
    (hsdp : w.generateSDP t.pathTmp ip = some sdp) :
    handleDescribe w t r = .ok (.replied t (handleCmdDescribe r.cseq r.url sdp) none) := by
  have hfile : t.describeFile r.url = .ok t := if_neg (by omega)
  have hsame : { t with findflag := 1 } = t := by
    cases t
    cases hflag
    rfl
  rw [handleDescribe, hfile, ok_bind, if_neg (by omega), hip, ok_bind, hsdp, hsame]
  rfl

theorem handleRequest_describe (h : Digesting conn) (hw : Offers w p.url sdp) (cseq : Nat)
    (localIp : List UInt8) (sig0 sig1 sig2 sig3 : Int) (hn : n < 2 ^ 31) :
    handleRequest conn w (p.ready localIp sig0 sig1 sig2 sig3)
        (p.answered conn cseq (str "DESCRIBE") p.url.text n []) =
      .ok (.replied (p.ready localIp sig0 sig1 sig2 sig3)
        (handleCmdDescribe n p.url.text sdp) none) := by
  have haccepts := accepts_answered (p := p) h cseq (Or.inl rfl) p.isUri_url hn .nil
  rw [haccepts.handleRequest]
  exact handleDescribe_found rfl (p.extractsHost.describe w.localIp) hw.describes

/-! ## A SETUP -/

theorem isHeader_tcpTransport {a : Nat} (ha : a ≤ 254) : IsHeader (tcpTransport a (a + 1)) where
  unbroken := by
    have hfirst := unbroken_decimal a
    have hsecond := unbroken_decimal (a + 1)
    unfold tcpTransport
    repeat apply Unbroken.append
    all_goals first | assumption | decide
  nul := by
    have hfirst := nul_not_mem_decimal a
    have hsecond := nul_not_mem_decimal (a + 1)
    simp only [tcpTransport, List.mem_append, not_or]
    and_intros <;> first | assumption | decide
  fits := by
    have hfirst : (decimal a).length ≤ 3 := length_decimal_le (by decide) (by omega)
    have hsecond : (decimal (a + 1 : Nat)).length ≤ 3 := length_decimal_le (by decide) (by omega)
    have htexts : (str "Transport: ").length = 11 ∧
        (str "RTP/AVP/TCP;unicast;interleaved=").length = 32 ∧ (str "-").length = 1 := by
      decide
    simp only [tcpTransport, List.length_append, htexts]
    omega

theorem isAvp_tcpTransport (a : Nat) : isAvp (asLine (tcpTransport a (a + 1) ++ [0x0D])) = true :=
  startsWith_trans (isTcp_tcpTransport a (a + 1) [0x0D]) (by decide)

theorem findTransport_request (hn : n < 2 ^ 31) (hauthorization : AtMostOne authorization)
    (hother : ∀ l ∈ authorization, isAvp (asLine (l ++ [0x0D])) = false) {a : Nat} (ha : a ≤ 254) :
    findTransport (headersText
        (cseqLine n :: p.headerLines authorization [tcpTransport a (a + 1)]) ++ [0]) =
      .ok (asLine (tcpTransport a (a + 1) ++ [0x0D])) := by
  let front := cseqLine n :: (p.before ++ authorization ++ p.after)
  have hsplit : cseqLine n :: p.headerLines authorization [tcpTransport a (a + 1)] =
      front ++ [tcpTransport a (a + 1)] := rfl
  have hheaders : ∀ l ∈ front ++ [tcpTransport a (a + 1)], IsHeader l := by
    rw [← hsplit]
    intro l hl
    obtain rfl | hl := List.mem_cons.mp hl
    · exact isHeader_cseqLine hn
    · exact isHeader_of_mem hauthorization (.singleton (isHeader_tcpTransport ha)) hl
  have hfront : ∀ l ∈ front, isAvp (asLine (l ++ [0x0D])) = false := by
    intro l hl
    have hothers := p.others
    simp only [front, List.mem_cons, List.mem_append, or_assoc] at hl hothers
    obtain rfl | hl | hl | hl := hl
    · rfl
    · exact (hothers l (Or.inl hl)).transport
    · exact hother l hl
    · exact (hothers l (Or.inr hl)).transport
  have hlines : lines (headersText (front ++ [tcpTransport a (a + 1)]) ++ [0]) =
      front.map (· ++ [0x0D]) ++ (tcpTransport a (a + 1) ++ [0x0D]) :: [[0x0D]] := by
    rw [lines_headersText fun l hl => (hheaders l hl).unbroken.2]
    simp
  have hfinds : Finds isAvp (lines (headersText (front ++ [tcpTransport a (a + 1)]) ++ [0])) := by
    refine ⟨_, _, _, hlines, isAvp_tcpTransport a, fun k hk => ?_⟩
    have hk : ∃ l ∈ front ++ [tcpTransport a (a + 1)], k = l ++ [0x0D] := by
      simpa [eq_comm, or_and_right, exists_or] using hk
    obtain ⟨l, hl, rfl⟩ := hk
    have hfits := (hheaders l hl).fits
    simp
    omega
  obtain ⟨l, rest, hfind, huntil⟩ :=
    untilLine_finds hfinds (Nat.lt_succ_of_le (length_lines_le _))
  have hnone : (front.map (· ++ [0x0D])).find? (fun l => isAvp (asLine l)) = none := by
    rw [List.find?_eq_none]
    intro l hl
    obtain ⟨h, hh, rfl⟩ := List.mem_map.mp hl
    rw [hfront h hh]
    decide
  rw [hlines, List.find?_append, hnone, Option.none_or, List.find?_cons,
    isAvp_tcpTransport] at hfind
  obtain rfl := Option.some.inj hfind
  rw [hsplit, findTransport, isTransport_eq, huntil]
  rfl

/-- The variables behind a SETUP for a track and channel `a`. -/
def setTrack (t : Thread) (host : List UInt8) (track0 : Bool) (a : Nat) : Thread :=
  { t.setSig track0 [.int a, .int (a + 1 : Nat)] with localIp := host }

theorem isAvp_credentials (nonce uri response : List UInt8) :
    isAvp (asLine (credentials realm nonce uri response ++ [0x0D])) = false := rfl

theorem handleRequest_setup (h : Digesting conn) (w : World) (cseq : Nat) {t : Thread}
    (htcp : t.tureOfRtpTcp = 1) (track0 : Bool) {a : Nat} (ha : a ≤ 254) (hn : n < 2 ^ 31) :
    handleRequest conn w t (p.answered conn cseq (str "SETUP") (trackUrlOf p.url.text track0) n
        [tcpTransport a (a + 1)]) =
      .ok (.replied (setTrack t p.url.host track0 a)
        (handleCmdSetupTcp n p.url.host conn.clientIp a conn.sessionId) none) := by
  have huri := p.isUri_track track0
  have htransport : AtMostOne [tcpTransport a (a + 1)] := .singleton (isHeader_tcpTransport ha)
  have haccepts := accepts_answered (p := p) h cseq (Or.inr (Or.inl rfl) : Guarded (str "SETUP"))
    huri hn htransport
  have hanswer := atMostOne_answer h cseq (str "SETUP") huri
  have hline := findTransport_request (p := p) hn hanswer (by
    intro l hl
    rw [answer_eq h] at hl
    obtain rfl := List.mem_singleton.mp hl
    exact isAvp_credentials _ _ _) ha
  have htrack : (str "track0").isPrefixOf (trackName track0) = track0 := by cases track0 <;> rfl
  have hsetup : setupTransport t (p.parsed (str "SETUP") (trackUrlOf p.url.text track0) n
      (answer conn.md5 (handleCmdUnauthorized cseq realm conn.nonce) (str "SETUP")
        (trackUrlOf p.url.text track0)) [tcpTransport a (a + 1)]) =
      .ok (t.setSig track0 [.int a, .int (a + 1 : Nat)], track0) := by
    have hread := sscanf_tcpTransport (a := a) (b := a + 1) (by omega) (by omega)
      (List.mem_pair.mpr (Or.inr rfl) : str "\r" ∈ [[], str "\r"])
    have htcpLine := isTcp_tcpTransport a (a + 1) (str "\r")
    have hsame : { t.setSig track0 [.int a, .int (a + 1 : Nat)] with tureOfRtpTcp := 1 } =
        t.setSig track0 [.int a, .int (a + 1 : Nat)] := by
      cases t
      cases htcp
      cases track0 <;> rfl
    have hparse : t.parseTransport track0 (asLine (tcpTransport a (a + 1) ++ str "\r")) =
        t.setSig track0 [.int a, .int (a + 1 : Nat)] := by
      rw [Thread.parseTransport, if_pos htcpLine, hread, hsame]
    rw [setupTransport]
    have hfound : strrchr (trackUrlOf p.url.text track0) 0x2F = some (0x2F :: trackName track0) :=
      strrchr_append (slash_not_mem_trackName track0) _
    dsimp only [parsed]
    rw [hfound]
    dsimp only [List.tail_cons]
    rw [hline, ok_bind, htrack]
    exact congrArg (fun t => Except.ok (t, track0)) hparse
  have hreply := (p.extractsHost_track track0).setup t.localIp
  rw [text_trackRtspUrl] at hreply
  have hrespond : respond conn w t (p.parsed (str "SETUP") (trackUrlOf p.url.text track0) n
      (answer conn.md5 (handleCmdUnauthorized cseq realm conn.nonce) (str "SETUP")
        (trackUrlOf p.url.text track0)) [tcpTransport a (a + 1)]) =
      setupTransport t _ >>= fun x => handleSetup conn w x.1 x.2 _ := rfl
  have hsig0 : (if track0 then (t.setSig track0 [.int a, .int (a + 1 : Nat)]).sig0
      else (t.setSig track0 [.int a, .int (a + 1 : Nat)]).sig2) = (a : Int) := by
    cases track0 <;> rfl
  have hmode : (t.setSig track0 [.int a, .int (a + 1 : Nat)]).tureOfRtpTcp = 1 := by
    cases track0 <;> exact htcp
  have hip : (t.setSig track0 [.int a, .int (a + 1 : Nat)]).localIp = t.localIp := by
    cases track0 <;> rfl
  rw [haccepts.handleRequest, hrespond, hsetup, ok_bind]
  dsimp only
  rw [handleSetup, if_neg (by omega), if_pos hmode, hip]
  dsimp only [parsed]
  rw [hreply, ok_bind, hsig0]
  rfl

/-! ## The whole exchange -/

theorem lastChannel_cons (track0 : Bool) (old : Int) (s : Bool × Nat) (setups : List (Bool × Nat)) :
    lastChannel track0 old (s :: setups) =
      lastChannel track0 (if s.1 = track0 then (s.2 : Int) else old) setups := by
  rw [lastChannel, lastChannel, List.filter_cons]
  by_cases htrack : s.1 = track0
  · rw [if_pos (by simpa using htrack), if_pos htrack, List.getLast?_cons]
    cases (setups.filter fun s => s.1 = track0).getLast? <;> rfl
  · rw [if_neg (by simpa using htrack), if_neg htrack]

theorem foldl_setTrack (host : List UInt8) (setups : List (Bool × Nat)) (t : Thread) :
    ∃ localIp sig1 sig3, setups.foldl (fun t s => setTrack t host s.1 s.2) t =
      { t with
        localIp := localIp
        sig0 := lastChannel true t.sig0 setups
        sig1 := sig1
        sig2 := lastChannel false t.sig2 setups
        sig3 := sig3 } := by
  induction setups generalizing t with
  | nil => exact ⟨t.localIp, t.sig1, t.sig3, rfl⟩
  | cons s setups ih =>
    obtain ⟨localIp, sig1, sig3, hfold⟩ := ih (setTrack t host s.1 s.2)
    refine ⟨localIp, sig1, sig3, ?_⟩
    rw [List.foldl_cons, hfold, lastChannel_cons, lastChannel_cons]
    cases s.1 <;> rfl

theorem handleRequest_play (h : Digesting conn) (w : World) (cseq : Nat) (hn : n < 2 ^ 31)
    (localIp sig1 sig3) : ∃ ret, handleRequest conn w
        { p.ready localIp (lastChannel true (-1) p.setups) sig1 (lastChannel false (-1) p.setups)
          sig3 with localIp := localIp }
        (p.answered conn cseq (str "PLAY") p.url.text n []) =
      .ok (.played (handleCmdPlay n conn.sessionId) (p.call conn) ret) := by
  have haccepts := accepts_answered (p := p) h cseq (Or.inr (Or.inr rfl) : Guarded (str "PLAY"))
    p.isUri_url hn .nil
  have hstore : store .path 100 (mp4Dir ++ p.url.name) = .ok (fileOf p.url.text) := by
    have hfits := p.length_fileOf
    rw [fileOf_url] at hfits ⊢
    exact if_pos hfits
  refine ⟨w.addClient (p.call conn), ?_⟩
  rw [haccepts.handleRequest]
  change (store .path 100 (mp4Dir ++ p.url.name) >>= _) = _
  rw [hstore, ok_bind]
  rfl

theorem produced_cons {t t' : Thread} {msg reply : List UInt8} {rest : List (List UInt8)}
    {o : Outcome} {later : List (List UInt8) × List AddArgs}
    (ho : handleRequest conn w t msg = .ok o) (hreply : o.reply = some reply)
    (hcall : o.call = none) (hnext : o.next t = some t')
    (hlater : produced conn w t' rest = .ok later) :
    produced conn w t (msg :: rest) = .ok (reply :: later.1, later.2) := by
  obtain ⟨turns, hturns, rfl⟩ := map_eq_ok.mp hlater
  refine map_eq_ok.mpr ⟨(msg, o) :: turns, ?_, ?_⟩
  · exact doClientThd_cons.mpr ⟨o, turns, ho, rfl, Or.inr ⟨t', hnext, hturns⟩⟩
  · simp [hreply, hcall]

theorem produced_setups (h : Digesting conn) (w : World) (cseq : Nat) {rest : List (List UInt8)}
    {later : List (List UInt8) × List AddArgs} {setups : List (Bool × Nat)}
    (hchannels : ∀ s ∈ setups, s.2 ≤ 254) (hn : n + setups.length < 2 ^ 31) {t : Thread}
    (htcp : t.tureOfRtpTcp = 1)
    (hlater : produced conn w (setups.foldl (fun t s => setTrack t p.url.host s.1 s.2) t) rest =
      .ok later) :
    produced conn w t (p.setupMessages conn.md5 (handleCmdUnauthorized cseq realm conn.nonce)
        setups n ++ rest) = .ok (p.setupReplies conn setups n ++ later.1, later.2) := by
  induction setups generalizing t n with
  | nil => exact hlater
  | cons s setups ih =>
    obtain ⟨track0, a⟩ := s
    rw [List.length_cons] at hn
    have hfirst := handleRequest_setup (p := p) h w cseq htcp track0
      (hchannels (track0, a) List.mem_cons_self) (by omega : n < 2 ^ 31)
    have hmode : (setTrack t p.url.host track0 a).tureOfRtpTcp = 1 := by
      cases track0 <;> exact htcp
    have hrest := ih (n := n + 1) (fun s hs => hchannels s (List.mem_cons_of_mem _ hs)) (by omega)
      hmode hlater
    exact produced_cons hfirst rfl rfl rfl hrest

/-- **The whole exchange.** A player that knows the password gets all its replies, and the file of
its URL is started once, over TCP and with its channels. -/
theorem handshake_produced (p : Player) {conn : Conn} (h : Digesting conn) {w : World}
    {sdp : List UInt8} (hw : Offers w p.url sdp) (filename localIp : List UInt8) :
    ∃ reply, (p.replies conn sdp)[1]? = some reply ∧
      produced conn w (.init filename localIp) (p.messages conn.md5 reply) =
        .ok (p.replies conn sdp, [p.call conn]) := by
  have hnumbers := p.numbers
  refine ⟨_, rfl, ?_⟩
  have hoptions := handleRequest_options hw conn filename localIp (n := p.cseq) (by omega)
  have hchallenged := handleRequest_challenged (p := p) h w (p.ready localIp (-1) (-1) (-1) (-1))
    (n := p.cseq + 1) (by omega)
  have hdescribe := handleRequest_describe h hw (p.cseq + 1) localIp (-1) (-1) (-1) (-1)
    (n := p.cseq + 2) (by omega)
  have hplay : produced conn w
      (p.setups.foldl (fun t s => setTrack t p.url.host s.1 s.2)
        (p.ready localIp (-1) (-1) (-1) (-1)))
      [p.answered conn (p.cseq + 1) (str "PLAY") p.url.text (p.cseq + 3 + p.setups.length) []] =
      .ok ([handleCmdPlay (p.cseq + 3 + p.setups.length : Nat) conn.sessionId],
        [p.call conn]) := by
    obtain ⟨localIp', sig1, sig3, hfold⟩ := foldl_setTrack p.url.host p.setups
      (p.ready localIp (-1) (-1) (-1) (-1))
    obtain ⟨ret, hret⟩ := handleRequest_play (p := p) h w (p.cseq + 1)
      (n := p.cseq + 3 + p.setups.length) (by omega) localIp' sig1 sig3
    rw [hfold]
    refine map_eq_ok.mpr ⟨[(_, _)], doClientThd_cons.mpr ⟨_, [], hret, rfl, Or.inl ⟨rfl, rfl⟩⟩, rfl⟩
  have hsetups := produced_setups (p := p) h w (p.cseq + 1) p.channels (n := p.cseq + 3)
    (by omega) (t := p.ready localIp (-1) (-1) (-1) (-1)) rfl hplay
  exact produced_cons hoptions rfl rfl rfl (produced_cons hchallenged rfl rfl rfl
    (produced_cons hdescribe rfl rfl rfl hsetups))

def md5Conn : Conn :=
  { openConn with
    auth := 1
    md5 := Md5.md5
    nonce := hex (Md5.md5 (str "1700000042")) }

theorem digesting_md5Conn : Digesting md5Conn := ⟨rfl, Md5.length_md5, _, rfl⟩

/-- A player that sets up both tracks. -/
def bothTracks : Player where
  url :=
    { userUrl with
      userinfo := none
      userinfo_text := fun _ h => absurd h (Option.not_mem_none _) }
  cseq := 1
  before := []
  after := [str "User-Agent: player"]
  setups := [(true, 0), (false, 2)]
  userinfo := rfl
  port := by decide
  host_short := by decide
  url_word := by decide
  url_nul := by decide
  url_quote := by decide
  url_fits := by decide
  url_free := by decide
  url_end := by decide
  name_file := by decide
  others := by
    intro h hmem
    obtain rfl := List.mem_singleton.mp hmem
    exact ⟨⟨by decide, by decide, by decide⟩, by decide, by decide⟩
  channels := by decide
  numbers := by decide
  room := by decide

theorem handshake_bothTracks : ∃ reply, (bothTracks.replies md5Conn [])[1]? = some reply ∧
    produced md5Conn easyWorld (.init [] []) (bothTracks.messages md5Conn.md5 reply) =
      .ok (bothTracks.replies md5Conn [], [bothTracks.call md5Conn]) :=
  handshake_produced bothTracks digesting_md5Conn ⟨rfl, rfl⟩ [] []

end Player

end SimpleRtsp

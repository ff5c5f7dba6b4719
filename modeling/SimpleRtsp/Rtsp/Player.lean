import SimpleRtsp.Md5.Update
import SimpleRtsp.Rtsp.Channels
import SimpleRtsp.Rtsp.DigestHeader
import SimpleRtsp.Rtsp.SafeAuthorization
import SimpleRtsp.Rtsp.Segments

/-!
# A player that knows the password

A request that is answered 401 is sent again with a digest: the player reads realm and nonce from
the reply (`quoted_unauthorized`), computes the response as RFC 2617 says and puts it with the other
fields in an `Authorization:` line. `authorize_login` is the server's side: with MD5 as `md5.c` has
it, such a request passes if its response is that digest, and is rejected otherwise.
-/

namespace SimpleRtsp

open CString

/-! ## Header lines -/

/-- Header lines and the empty line behind them. -/
def headersText (headers : List (List UInt8)) : List UInt8 := headers.flatMap (· ++ crlf) ++ crlf

def cseqLine (n : Nat) : List UInt8 := str "CSeq: " ++ decimal n

/-- A line that fits in `line` with its line end. -/
structure IsHeader (h : List UInt8) : Prop where
  unbroken : Unbroken h
  nul : 0 ∉ h
  fits : h.length ≤ 397

theorem headersText_cons (h : List UInt8) (headers : List (List UInt8)) :
    headersText (h :: headers) = (h ++ [0x0D]) ++ 0x0A :: headersText headers := by
  simp [headersText, crlf, str]

theorem length_headersText_cons (h : List UInt8) (headers : List (List UInt8)) :
    (headersText (h :: headers)).length = h.length + 2 + (headersText headers).length := by
  rw [headersText_cons]
  simp
  omega

theorem lines_headersText {headers : List (List UInt8)} (h : ∀ l ∈ headers, 0x0A ∉ l) :
    lines (headersText headers ++ [0]) = headers.map (· ++ [0x0D]) ++ [[0x0D]] := by
  rw [lines_terminated]
  induction headers with
  | nil => rfl
  | cons l headers ih =>
    obtain ⟨hl, hrest⟩ := List.forall_mem_cons.mp h
    have hline : 0x0A ∉ l ++ [0x0D] := by simpa using hl
    rw [headersText_cons, lines_append_cons hline, ih hrest]
    rfl

theorem length_headersText_append (headers headers' : List (List UInt8)) :
    (headersText (headers ++ headers')).length + 2 =
      (headersText headers).length + (headersText headers').length := by
  have hcrlf : crlf.length = 2 := rfl
  simp only [headersText, List.flatMap_append, List.length_append, hcrlf]
  omega

theorem nul_not_mem_headersText {headers : List (List UInt8)} (h : ∀ l ∈ headers, 0 ∉ l) :
    0 ∉ headersText headers := by
  induction headers with
  | nil => decide
  | cons l headers ih =>
    obtain ⟨hl, hrest⟩ := List.forall_mem_cons.mp h
    rw [headersText_cons]
    simp [hl, ih hrest]

theorem unbroken_decimal (n : Nat) : Unbroken (decimal n) := by
  constructor <;> intro hmem <;> exact absurd (isNumeral_decimal n _ hmem) (by decide)

theorem length_decimal_le {w n : Nat} (hw : 0 < w) (hn : n < 10 ^ w) : (decimal n).length ≤ w := by
  rw [decimal_natCast, List.length_map]
  exact (Nat.length_toDigits_le_iff (by decide) hw).mpr hn

theorem isHeader_cseqLine {n : Nat} (hn : n < 2 ^ 31) : IsHeader (cseqLine n) where
  unbroken := Unbroken.append (by decide) (unbroken_decimal n)
  nul := by
    have hkey : (0 : UInt8) ∉ str "CSeq: " := by decide
    have hnumber := nul_not_mem_decimal n
    rw [cseqLine, List.mem_append]
    tauto
  fits := by
    have hkey : (str "CSeq: ").length = 6 := rfl
    have hnumber : (decimal n).length ≤ 10 :=
      length_decimal_le (by decide) (hn.trans (by decide))
    rw [cseqLine, List.length_append, hkey]
    omega

/-! ## What the server reads of a request -/

theorem sscanf_cseqLine {n : Nat} (hn : n < 2 ^ 31) :
    sscanf (cstr (asLine (cseqLine n ++ [0x0D]))) "CSeq: %d\r\n" = [.int n] := by
  have hformat : directives (str "CSeq: %d\r\n") =
      (str "CSeq:").map .char ++ [.space, .int, .space, .space] := rfl
  have hnul : 0 ∉ asLine (cseqLine n ++ [0x0D]) := by
    have hline := (isHeader_cseqLine hn).nul
    simpa [asLine] using hline
  have hline : asLine (cseqLine n ++ [0x0D]) =
      str "CSeq:" ++ 0x20 :: (decimal n ++ [0x0D, 0x0A]) := by
    simp [asLine, cseqLine, str]
  have hword : IsWord (decimal n) :=
    fun b hb => not_isspace_of_isdigit (isNumeral_decimal n b hb)
  rw [cstr_eq_self hnul, sscanf, hformat, hline, scan_literal,
    scan_space hword (decimal_ne_nil n) (by decide), scan, scanInt_decimal hn (by rintro _ ⟨⟩; rfl)]
  rfl

theorem parseCSeq_headersText {n : Nat} (hn : n < 2 ^ 31) (headers : List (List UInt8)) :
    parseCSeq (headersText (cseqLine n :: headers) ++ [0]) = .ok (some n) := by
  have hheader := isHeader_cseqLine hn
  have hnewline : 0x0A ∉ cseqLine n ++ [0x0D] := by simpa using hheader.unbroken.2
  have hcopy : getLineFromBuf (headersText (cseqLine n :: headers) ++ [0]) =
      .ok (asLine (cseqLine n ++ [0x0D]), headersText headers ++ [0]) := by
    have hfits := hheader.fits
    rw [headersText_cons, List.append_assoc]
    exact copyLine_append [] _ _ hnewline (by simp; omega)
  have hfound : isCSeq (asLine (cseqLine n ++ [0x0D])) = true := by
    rw [isCSeq, startsWith, List.isPrefixOf_iff_prefix]
    exact ⟨0x20 :: (decimal n ++ [0x0D, 0x0A]), by simp [asLine, cseqLine, str]⟩
  rw [parseCSeq, untilLine, hcopy, ok_bind]
  dsimp only
  rw [if_pos hfound, pure_bind, sscanf_cseqLine hn]
  rfl

/-! ## The challenge -/

/-- What a player reads between the quotes behind `key=`. -/
def quoted (reply : List UInt8) (key : String) : Option (List UInt8) :=
  (strstr reply (str key ++ str "=\"")).map fun found =>
    (found.drop (str key ++ str "=\"").length).takeWhile (· ≠ 0x22)

def challenge (reply : List UInt8) : Option (List UInt8 × List UInt8) :=
  (quoted reply "realm").bind fun realm => (quoted reply "nonce").map fun nonce => (realm, nonce)

theorem quoted_of_strstr {reply value rest : List UInt8} {key : String}
    (h : strstr reply (str key ++ str "=\"") =
      some (str key ++ str "=\"" ++ (value ++ 0x22 :: rest))) (hvalue : 0x22 ∉ value) :
    quoted reply key = some value := by
  rw [quoted, h, Option.map_some, List.drop_left, takeWhile_append_cons hvalue]

theorem quote_not_mem_head (cseq : Nat) :
    0x22 ∉ replyHead "RTSP/1.0 401 Unauthorized" cseq ++ str "WWW-Authenticate: Digest" := by
  have hnumber : 0x22 ∉ decimal cseq := by
    intro hmem
    exact absurd (isNumeral_decimal cseq _ hmem) (by decide)
  have hstatus : (0x22 : UInt8) ∉ str "RTSP/1.0 401 Unauthorized" := by decide
  have hkey : (0x22 : UInt8) ∉ str "\r\nCSeq: " := by decide
  have hend : (0x22 : UInt8) ∉ str "\r\n" := by decide
  have hdigest : (0x22 : UInt8) ∉ str "WWW-Authenticate: Digest" := by decide
  simp only [replyHead, List.mem_append]
  tauto

theorem strstr_unauthorized (cseq : Nat) (nonce : List UInt8) {key : List UInt8}
    (hquote : 0x22 ∈ key) (hblank : 0x20 ∉ key) :
    strstr (handleCmdUnauthorized cseq realm nonce) key =
      strstr (str "realm=\"" ++ realm ++ str "\", nonce=\"" ++ nonce ++ str "\"\r\n\r\n") key := by
  have hsplit : handleCmdUnauthorized cseq realm nonce =
      (replyHead "RTSP/1.0 401 Unauthorized" cseq ++ str "WWW-Authenticate: Digest") ++
        0x20 :: (str "realm=\"" ++ realm ++ str "\", nonce=\"" ++ nonce ++ str "\"\r\n\r\n") := by
    simp [handleCmdUnauthorized, str]
  have habsent : ¬ key <:+:
      replyHead "RTSP/1.0 401 Unauthorized" cseq ++ str "WWW-Authenticate: Digest" :=
    fun hinside => quote_not_mem_head cseq (List.IsInfix.subset hinside hquote)
  rw [hsplit, strstr_split hblank, strstr_absent habsent, Option.map_none, Option.none_or]

theorem challenge_unauthorized (cseq : Nat) {nonce : List UInt8} (hnonce : 0x22 ∉ nonce) :
    challenge (handleCmdUnauthorized cseq realm nonce) = some (realm, nonce) := by
  have hrealm : quoted (handleCmdUnauthorized cseq realm nonce) "realm" = some realm := by
    refine @quoted_of_strstr _ _ (str ", nonce=\"" ++ nonce ++ str "\"\r\n\r\n") _ ?_ (by decide)
    rw [strstr_unauthorized cseq nonce (by decide) (by decide)]
    have hself := @strstr_self (str "realm" ++ str "=\"") (by decide)
      (realm ++ 0x22 :: (str ", nonce=\"" ++ nonce ++ str "\"\r\n\r\n"))
    rw [← hself]
    simp [str]
  have hnonce' : quoted (handleCmdUnauthorized cseq realm nonce) "nonce" = some nonce := by
    refine @quoted_of_strstr _ _ (str "\r\n\r\n") _ ?_ hnonce
    rw [strstr_unauthorized cseq nonce (by decide) (by decide)]
    have hsplit : str "realm=\"" ++ realm ++ str "\", nonce=\"" ++ nonce ++ str "\"\r\n\r\n" =
        (str "realm=\"" ++ realm ++ str "\",") ++
          0x20 :: (str "nonce" ++ str "=\"" ++ (nonce ++ 0x22 :: str "\r\n\r\n")) := by
      simp [str]
    have hnone : strstr (str "realm=\"" ++ realm ++ str "\",") (str "nonce" ++ str "=\"") =
        none := by
      decide
    rw [hsplit, strstr_split (by decide), hnone, Option.map_none, Option.none_or]
    exact strstr_self (by decide) _
  rw [challenge, hrealm, hnonce']
  rfl

/-! ## The answer to the challenge -/

/-- The response of RFC 2617. -/
def rfcResponse (md5 : List UInt8 → List UInt8) (username password realm nonce method
    uri : List UInt8) : List UInt8 :=
  hex (md5 (colon (hex (md5 (colon username (colon realm password))))
    (colon nonce (hex (md5 (colon method uri))))))

/-- The line with the answer. -/
def credentials (realm nonce uri response : List UInt8) : List UInt8 :=
  authorizationKey ++ str "Digest username=\"" ++ USER ++ str "\", realm=\"" ++ realm ++
    str "\", nonce=\"" ++ nonce ++ str "\", uri=\"" ++ uri ++ str "\", response=\"" ++ response ++
    str "\""

theorem hex_forall {P : UInt8 → Prop} (h : ∀ n < 16, P (hexDigit n)) (digest : List UInt8) :
    ∀ b ∈ hex digest, P b := by
  intro b hb
  obtain ⟨byte, -, hmem⟩ := List.mem_flatMap.mp hb
  have hlt := byte.toNat_lt
  obtain rfl | hmem := List.mem_cons.mp hmem
  · exact h _ (by omega)
  · obtain rfl := List.mem_singleton.mp hmem
    exact h _ (by omega)

theorem plain_hex (digest : List UInt8) : Plain (hex digest) := hex_forall (by decide) digest

theorem nul_not_mem_hex (digest : List UInt8) : 0 ∉ hex digest :=
  fun hmem => @hex_forall (· ≠ 0) (by decide) digest 0 hmem rfl

theorem not_infix_hex {key : List UInt8} (h : 0x72 ∈ key) (digest : List UInt8) :
    ¬ key <:+: hex digest := fun hinside =>
  @hex_forall (· ≠ 0x72) (by decide) digest 0x72 (List.IsInfix.subset hinside h) rfl

theorem not_infix_cr {line : List UInt8} (h : ¬ authorizationKey <:+: line) :
    ¬ authorizationKey <:+: line ++ [0x0D] := by
  rintro ⟨s, t, hst⟩
  have hnone := strstr_split (by decide : 0x0D ∉ authorizationKey) line []
  rw [strstr_absent h, strstr_nil (by decide)] at hnone
  refine strstr_eq_none hnone ⟨s, ?_⟩ (List.prefix_append authorizationKey t)
  rw [← hst, List.append_assoc]

theorem plain_username : Plain (str "username") := by decide

theorem plain_realm : Plain (str "realm") := by decide

theorem plain_nonce : Plain (str "nonce") := by decide

theorem plain_uri : Plain (str "uri") := by decide

theorem plain_response : Plain (str "response") := by decide

theorem crlf_eol : str "\r\n" = str "\r\n" ∨ str "\r\n" = str "\n" := Or.inl rfl

/-- Header lines with the credentials among them. -/
structure Login where
  before : List (List UInt8)
  after : List (List UInt8)
  /-- what the nonce is the digest of -/
  hashed : List UInt8
  uri : List UInt8
  response : List UInt8
  before_free : ∀ l ∈ before, ¬ authorizationKey <:+: l
  uri_plain : Plain uri
  uri_free : ¬ str "response" <:+: uri
  response_plain : Plain response

namespace Login

variable (l : Login)

def headers : List (List UInt8) :=
  l.before ++ credentials realm (hex l.hashed) l.uri l.response :: l.after

def fields : List Field :=
  [⟨0, str "username", USER, plain_username, by decide⟩,
    ⟨1, str "realm", realm, plain_realm, by decide⟩,
    ⟨1, str "nonce", hex l.hashed, plain_nonce, plain_hex _⟩,
    ⟨1, str "uri", l.uri, plain_uri, l.uri_plain⟩,
    ⟨1, str "response", l.response, plain_response, l.response_plain⟩]

/-- The headers as a digest header between other lines. -/
def digestRequest : DigestRequest where
  before := l.before.map (· ++ [0x0D])
  fields := l.fields
  eol := str "\r\n"
  after := headersText l.after
  ends := crlf_eol
  before_free := by
    intro line hline
    obtain ⟨front, hfront, rfl⟩ := List.mem_map.mp hline
    exact not_infix_cr (l.before_free front hfront)
  distinct := by
    have hnames : l.fields.map Field.key = fieldNames.map str := rfl
    rw [hnames]
    decide
  complete name hname := by
    have hnames : l.fields.map Field.key = fieldNames.map str := rfl
    rw [hnames]
    exact List.mem_map_of_mem hname

theorem request_digestRequest : l.digestRequest.request = headersText l.headers := by
  have hbefore : (l.before.map (· ++ [0x0D])).flatMap (· ++ str "\n") =
      l.before.flatMap (· ++ crlf) := by
    rw [List.flatMap_map]
    congr 1
    funext line
    simp [crlf, str]
  rw [DigestRequest.request, digestRequest]
  dsimp only
  rw [hbefore]
  simp [headersText, headers, credentials, DigestRequest.value, fields, Field.listText,
    Field.others, Field.text, crlf, str]

theorem fields_unmentioned :
    l.fields.Pairwise fun g f => ¬ f.key <:+: g.key ∧ ¬ f.key <:+: g.value := by
  have hnonce : ∀ key, 0x72 ∈ key → ¬ key <:+: hex l.hashed := fun key hkey => not_infix_hex hkey _
  simp only [fields, List.pairwise_cons, List.forall_mem_cons, List.not_mem_nil, false_imp_iff,
    implies_true, and_true, List.Pairwise.nil]
  and_intros
  all_goals first | decide | exact l.uri_free | exact hnonce _ (by decide)

theorem nulFree (hnul : 0 ∉ headersText l.headers) : l.digestRequest.NulFree := by
  rw [← request_digestRequest, DigestRequest.request] at hnul
  simp only [List.mem_append, List.mem_flatMap, not_or, not_exists, not_and] at hnul
  obtain ⟨⟨⟨⟨hbefore, -⟩, hvalue⟩, -⟩, -⟩ := hnul
  exact ⟨fun line hline => (hbefore line hline).1, hvalue⟩

theorem recovers (hnul : 0 ∉ headersText l.headers) : l.digestRequest.Recovers := by
  apply DigestRequest.recovers_of_unmentioned _ (l.nulFree hnul)
  intro front f rest hfields g hg
  have hpairs : l.digestRequest.fields.Pairwise fun g f =>
    ¬ f.key <:+: g.key ∧ ¬ f.key <:+: g.value := l.fields_unmentioned
  rw [hfields] at hpairs
  exact (List.pairwise_append.mp hpairs).2.2 g hg f List.mem_cons_self

theorem findAuthorization_headers (hnul : 0 ∉ headersText l.headers) :
    findAuthorization (headersText l.headers) =
      .ok (some ⟨some USER, some realm, some (hex l.hashed), some l.uri, some l.response⟩) := by
  obtain ⟨info, hfind, hfields⟩ := l.recovers hnul
  rw [request_digestRequest, cstr_eq_self hnul] at hfind
  have hvalue : ∀ p ∈ info.entries, ∀ f ∈ l.fields, f.key = str p.1 → p.2 = some f.value := hfields
  simp only [AuthorizationInfo.entries, List.forall_mem_cons, List.not_mem_nil, false_imp_iff,
    implies_true, and_true] at hvalue
  obtain ⟨husername, hrealm, hnonce, huri, hresponse⟩ := hvalue
  obtain ⟨username, realm', nonce, uri, response⟩ := info
  simp only [fields, List.forall_mem_cons, List.not_mem_nil, false_imp_iff, implies_true,
    and_true] at husername hrealm hnonce huri hresponse
  obtain rfl := husername.1 trivial
  obtain rfl := hrealm.2.1 trivial
  obtain rfl := hnonce.2.2.1 trivial
  obtain rfl := huri.2.2.2.1 trivial
  obtain rfl := hresponse.2.2.2.2 trivial
  exact hfind

end Login

theorem isHeader_credentials (digest : List UInt8) {uri response : List UInt8}
    (hdigest : digest.length = 16) (huri : Unbroken uri) (huriNul : 0 ∉ uri)
    (huriFits : uri.length < 100) (hresponse : Unbroken response) (hresponseNul : 0 ∉ response)
    (hresponseFits : response.length ≤ 32) :
    IsHeader (credentials realm (hex digest) uri response) where
  unbroken := by
    have hhex := (plain_hex digest).unbroken
    unfold credentials
    repeat apply Unbroken.append
    all_goals first | assumption | decide
  nul := by
    have hhex := nul_not_mem_hex digest
    simp only [credentials, List.mem_append, not_or]
    and_intros <;> first | assumption | decide
  fits := by
    have hhex := length_hex digest
    have htexts : authorizationKey.length = 15 ∧ (str "Digest username=\"").length = 17 ∧
        USER.length = 5 ∧ (str "\", realm=\"").length = 10 ∧ realm.length = 18 ∧
        (str "\", nonce=\"").length = 10 ∧ (str "\", uri=\"").length = 8 ∧
        (str "\", response=\"").length = 13 ∧ (str "\"").length = 1 := by
      decide
    simp only [credentials, List.length_append, htexts]
    omega

theorem length_rfcResponse {md5 : List UInt8 → List UInt8} (hmd5 : ∀ s, (md5 s).length = 16)
    (username password realm nonce method uri : List UInt8) :
    (rfcResponse md5 username password realm nonce method uri).length = 32 := by
  rw [rfcResponse, length_hex, hmd5]

/-- **The server's side of a login.** With the header lines of a login, a request passes if its
response is the one of RFC 2617 for its method and its URI, and is rejected otherwise. -/
theorem authorize_login {conn : Conn} (hauth : conn.auth = 1)
    (hmd5 : ∀ s, (conn.md5 s).length = 16) {combined : List UInt8} (l : Login)
    (hnonce : conn.nonce = hex (conn.md5 combined)) (hhashed : l.hashed = conn.md5 combined)
    {method url : List UInt8} (hmethod : Guarded method) (hurl : IsUrl url)
    (hend : ¬ authorizationWord <:+ url) (hfits : (colon method l.uri).length < 256)
    (hnul : 0 ∉ headersText l.headers) :
    authorize conn.auth conn.md5 conn.nonce (requestText method url (headersText l.headers) ++ [0])
        method =
      .ok (if l.response = rfcResponse conn.md5 USER PASSWORD realm (hex l.hashed) method l.uri
        then .passed else .rejected) := by
  have hfind : findAuthorization (cstr (requestText method url (headersText l.headers))) =
      .ok (some ⟨some USER, some realm, some (hex l.hashed), some l.uri, some l.response⟩) := by
    rw [findAuthorization_requestText hmethod hurl hend, cstr_eq_self hnul]
    exact l.findAuthorization_headers hnul
  have hresponse : digest conn.md5 (hex (conn.md5 combined)) method l.uri =
      rfcResponse conn.md5 USER PASSWORD realm (hex l.hashed) method l.uri := by
    rw [hhashed]
    rfl
  rw [authorize, hauth, if_pos (guarded_methods hmethod), cstr_append_nul, hfind, ok_bind]
  dsimp only
  rw [hnonce, authorizationVerify_eq hmd5 combined _ hfits, ok_bind, hresponse]
  by_cases heq : l.response = rfcResponse conn.md5 USER PASSWORD realm (hex l.hashed) method l.uri
  · rw [if_pos heq.symm, if_pos heq]
    rfl
  · rw [if_neg (Ne.symm heq), if_neg heq]
    rfl

end SimpleRtsp

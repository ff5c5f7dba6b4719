import Mathlib.Data.List.Forall2
import SimpleRtsp.Lib.Framing
import SimpleRtsp.Lib.MessageStream
import SimpleRtsp.Lib.Scan
import SimpleRtsp.Rtsp.Paths
import SimpleRtsp.Rtsp.Sdp
import SimpleRtsp.Rtsp.Segments

/-!
# What a client reads

The replies of a connection are written one behind the other, and behind the reply to PLAY the
interleaved frames. A client that knows only the bytes reads lines up to an empty one, then as many
bytes as `Content-length` says, and takes a `$` where a reply would begin for the first frame.
`read_reach`: in every run it gets one reply for every request, in order, with the number of the
request and the status and the body that fit what was done, and behind them the frames.
-/

namespace SimpleRtsp

open CString MessageStream

/-! ## A client -/

/-- The number behind `key` in a line. -/
def numberBehind (key l : List UInt8) : Option Int :=
  if key.isPrefixOf l then (scanInt (l.drop key.length)).map Prod.fst else none

namespace Client

def status (head : List (List UInt8)) : Option Int :=
  head.head?.bind (numberBehind (str "RTSP/1.0 "))

def cseq (head : List (List UInt8)) : Option Int := head.findSome? (numberBehind (str "CSeq: "))

def contentLength (head : List (List UInt8)) : Nat :=
  ((head.findSome? (numberBehind (str "Content-length: "))).getD 0).toNat

/-- The replies on a connection and the frames behind them; none in the middle of one. -/
def read (stream : List UInt8) : Option (List Message × List (UInt8 × List UInt8)) :=
  let r := (Reader.start []).read contentLength 0x24 stream
  match r.place with
  | .head [] [] => some (r.done, [])
  | .data bytes => (Framing.split 0x24 bytes).map (r.done, ·)
  | _ => none

end Client

abbrev Legible (m : Message) : Prop := m.Readable Client.contentLength 0x24

/-- The status and the body that fit what came of a request. -/
inductive Reports (w : World) (r : Request) : Outcome → Int → List UInt8 → Prop where
  | unauthorized {reply : List UInt8} : Reports w r (.unauthorized reply) 401 []
  | missing {reply path : List UInt8} : w.opens path = false →
      Reports w r (.closed (some reply)) 404 []
  | broken {reply path ip : List UInt8} : w.generateSDP path ip = none →
      Reports w r (.closed (some reply)) 500 []
  | described {t : Thread} {reply path ip sdp : List UInt8} {sockets : Option RtpSockets} :
      r.method = str "DESCRIBE" → w.generateSDP path ip = some sdp →
      Reports w r (.replied t reply sockets) 200 sdp
  | replied {t : Thread} {reply : List UInt8} {sockets : Option RtpSockets} :
      r.method = str "OPTIONS" ∨ r.method = str "SETUP" →
      Reports w r (.replied t reply sockets) 200 []
  | played {reply : List UInt8} {a : AddArgs} {ret : Int} : r.method = str "PLAY" →
      Reports w r (.played reply a ret) 200 []

/-- The message is the answer to a request and says what came of it. -/
def Handled.AnsweredBy (turn : Handled) (m : Message) : Prop :=
  ∃ r code, Asks turn.msg r ∧ Client.cseq m.head = some r.cseq ∧
    Client.status m.head = some code ∧ Reports turn.w r turn.outcome code m.body

/-- All requests are answered, but for a last one at which the connection is closed. -/
def Served.AnsweredBy (s : Served) (ms : List Message) : Prop :=
  ∃ answered, List.Forall₂ Handled.AnsweredBy answered ms ∧
    (s.turns = answered ∨ s.thread = none ∧
      ∃ w msg, s.turns = answered ++ [⟨w, msg, .closed none⟩])

/-- The bytes that the requests were answered with. -/
def Served.sent (s : Served) : List UInt8 :=
  (s.turns.filterMap fun turn => turn.outcome.reply).flatten

/-- The texts of the connection are texts of one line. -/
structure Conn.OneLine (conn : Conn) : Prop where
  nonce : 0x0A ∉ conn.nonce
  sessionId : 0x0A ∉ conn.sessionId
  clientIp : 0x0A ∉ conn.clientIp

/-- A description fits the array that it is written to. -/
def SdpFits (_ : Served) (label : World × List UInt8) : Prop :=
  ∀ path ip sdp, label.1.generateSDP path ip = some sdp → sdp.length < 1024

/-! ## The replies as messages -/

def replyMessage (status : String) (cseq : Int) (headers : List (List UInt8))
    (body : List UInt8) : Message :=
  ⟨str status :: (str "CSeq: " ++ decimal cseq) :: headers, body⟩

theorem text_replyMessage (status : String) (cseq : Int) (headers : List (List UInt8))
    (body : List UInt8) : (replyMessage status cseq headers body).text =
      replyHead status cseq ++ headers.flatMap line ++ (str "\r\n" ++ body) := by
  have hend : str "\r\nCSeq: " = [0x0D, 0x0A] ++ str "CSeq: " := rfl
  have hempty : str "\r\n" = [0x0D, 0x0A] := rfl
  rw [replyMessage, Message.text, headText, replyHead, hend, hempty, List.flatMap_cons,
    List.flatMap_cons, line, line, line]
  simp only [List.append_assoc, List.nil_append]

/-- A status line of the server. -/
structure IsStatus (status : String) (code : Int) : Prop where
  code : numberBehind (str "RTSP/1.0 ") (str status) = some code
  number : numberBehind (str "CSeq: ") (str status) = none
  length : numberBehind (str "Content-length: ") (str status) = none
  first : ∃ rest, str status = 0x52 :: rest
  newline : 0x0A ∉ str status

theorem isStatus_ok : IsStatus "RTSP/1.0 200 OK" 200 :=
  ⟨by decide, rfl, rfl, ⟨_, rfl⟩, by decide⟩

theorem isStatus_unauthorized : IsStatus "RTSP/1.0 401 Unauthorized" 401 :=
  ⟨by decide, rfl, rfl, ⟨_, rfl⟩, by decide⟩

theorem isStatus_notFound : IsStatus "RTSP/1.0 404 NOT FOUND" 404 :=
  ⟨by decide, rfl, rfl, ⟨_, rfl⟩, by decide⟩

theorem isStatus_serverError : IsStatus "RTSP/1.0 500 SERVER ERROR" 500 :=
  ⟨by decide, rfl, rfl, ⟨_, rfl⟩, by decide⟩

variable {status : String} {code cseq : Int} {headers : List (List UInt8)} {body : List UInt8}

/-- The header lines say how long the body is. -/
structure Announces (headers : List (List UInt8)) (body : List UInt8) : Prop where
  lines : ∀ l ∈ headers, l ≠ [] ∧ 0x0A ∉ l
  length : (headers.findSome? (numberBehind (str "Content-length: "))).getD 0 = (body.length : Int)

theorem legible_replyMessage (hstatus : IsStatus status code) (hheaders : Announces headers body) :
    Legible (replyMessage status cseq headers body) where
  lines := by
    obtain ⟨rest, hfirst⟩ := hstatus.first
    have hne : str status ≠ [] := by simp [hfirst]
    have hnumber : 0x0A ∉ str "CSeq: " ++ decimal cseq := by
      rw [List.mem_append, not_or]
      exact ⟨by decide, not_mem_decimal cseq⟩
    rw [replyMessage, List.forall_mem_cons, List.forall_mem_cons]
    exact ⟨⟨hne, hstatus.newline⟩, ⟨by simp [str], hnumber⟩, hheaders.lines⟩
  first := by
    intro b hb
    obtain ⟨rest, hfirst⟩ := hstatus.first
    rw [replyMessage, Message.text, headText, List.flatMap_cons, line, hfirst] at hb
    obtain rfl := Option.some.inj hb
    decide
  body := by
    have hnumber : numberBehind (str "Content-length: ") (str "CSeq: " ++ decimal cseq) = none :=
      rfl
    rw [replyMessage, Client.contentLength, List.findSome?_cons, hstatus.length,
      List.findSome?_cons, hnumber]
    dsimp only
    rw [hheaders.length]
    rfl

theorem cseq_replyMessage (hstatus : IsStatus status code) (hcseq : IsInt cseq) :
    Client.cseq (replyMessage status cseq headers body).head = some cseq := by
  have hkey : (str "CSeq: ").isPrefixOf (str "CSeq: " ++ decimal cseq) :=
    List.isPrefixOf_iff_prefix.mpr (List.prefix_append _ _)
  have hscan := @scanInt_print cseq hcseq [] (by simp)
  rw [List.append_nil] at hscan
  have hnumber : numberBehind (str "CSeq: ") (str "CSeq: " ++ decimal cseq) = some cseq := by
    rw [numberBehind, if_pos hkey, List.drop_left, hscan]
    rfl
  rw [replyMessage, Client.cseq, List.findSome?_cons, hstatus.number, List.findSome?_cons, hnumber]

/-! ## What comes of a request -/

/-- A reply says what came of the request, and no text of several lines is kept. -/
structure Outcome.Told (w : World) (r : Request) (t : Thread) (o : Outcome) : Prop where
  reply : ∀ reply ∈ o.reply, ∃ m code, reply = m.text ∧ Legible m ∧
    Client.cseq m.head = some r.cseq ∧ Client.status m.head = some code ∧ Reports w r o code m.body
  silent : o.reply = none → o = .closed none
  next : ∀ t' ∈ o.next t, 0x0A ∉ t'.localIp

variable {conn : Conn} {w : World} {r : Request} {t : Thread}

theorem Outcome.Told.of_message {o : Outcome}
    (ho : o.reply = some (replyMessage status r.cseq headers body).text)
    (hstatus : IsStatus status code) (hcseq : IsInt r.cseq) (hheaders : Announces headers body)
    (hreports : Reports w r o code body) (hnext : ∀ t' ∈ o.next t, 0x0A ∉ t'.localIp) :
    o.Told w r t where
  reply := by
    intro reply hreply
    rw [ho] at hreply
    obtain rfl := Option.some.inj hreply
    exact ⟨_, code, rfl, legible_replyMessage hstatus hheaders, cseq_replyMessage hstatus hcseq,
      hstatus.code, hreports⟩
  silent := by
    intro hnone
    rw [ho] at hnone
    cases hnone
  next := hnext

theorem Outcome.Told.of_closed : (Outcome.closed none).Told w r t :=
  ⟨fun _ hreply => absurd hreply (Option.not_mem_none _), fun _ => rfl,
    fun _ hnext => absurd hnext (Option.not_mem_none _)⟩

theorem Announces.of_lines (hlines : ∀ l ∈ headers, l ≠ [] ∧ 0x0A ∉ l)
    (hnone : headers.findSome? (numberBehind (str "Content-length: ")) = none) :
    Announces headers [] := ⟨hlines, by rw [hnone]; rfl⟩

theorem announces_nil : Announces [] [] := .of_lines (by simp) rfl

theorem text_404 (cseq : Int) :
    handleCmd404 cseq = (replyMessage "RTSP/1.0 404 NOT FOUND" cseq [] []).text := by
  rw [text_replyMessage, handleCmd404, List.flatMap_nil, List.append_nil, List.append_nil]

theorem text_500 (cseq : Int) :
    handleCmd500 cseq = (replyMessage "RTSP/1.0 500 SERVER ERROR" cseq [] []).text := by
  rw [text_replyMessage, handleCmd500, List.flatMap_nil, List.append_nil, List.append_nil]

theorem told_404 {path : List UInt8} (hcseq : IsInt r.cseq) (hmissing : w.opens path = false) :
    (Outcome.closed (some (handleCmd404 r.cseq))).Told w r t :=
  .of_message (congrArg some (text_404 r.cseq)) isStatus_notFound hcseq announces_nil
    (.missing hmissing) fun _ hnext => absurd hnext (Option.not_mem_none _)

theorem told_500 {path ip : List UInt8} (hcseq : IsInt r.cseq)
    (hbroken : w.generateSDP path ip = none) :
    (Outcome.closed (some (handleCmd500 r.cseq))).Told w r t :=
  .of_message (congrArg some (text_500 r.cseq)) isStatus_serverError hcseq announces_nil
    (.broken hbroken) fun _ hnext => absurd hnext (Option.not_mem_none _)

theorem told_unauthorized (hconn : conn.OneLine) (hcseq : IsInt r.cseq) (hip : 0x0A ∉ t.localIp) :
    (Outcome.unauthorized (handleCmdUnauthorized r.cseq realm conn.nonce)).Told w r t := by
  let header := str "WWW-Authenticate: Digest realm=\"" ++ realm ++ str "\", nonce=\"" ++
    conn.nonce ++ str "\""
  have htext : handleCmdUnauthorized r.cseq realm conn.nonce =
      (replyMessage "RTSP/1.0 401 Unauthorized" r.cseq [header] []).text := by
    have hend : str "\"\r\n\r\n" = str "\"" ++ [0x0D, 0x0A] ++ str "\r\n" := rfl
    rw [text_replyMessage, handleCmdUnauthorized, hend, List.flatMap_singleton, line,
      List.append_nil]
    simp only [header, List.append_assoc]
  have hheaders : Announces [header] [] := by
    refine .of_lines (List.forall_mem_singleton.mpr ⟨by simp [header, str], ?_⟩) rfl
    have hnonce := hconn.nonce
    simp only [header, List.mem_append, not_or]
    and_intros <;> first | assumption | decide
  refine .of_message (congrArg some htext) isStatus_unauthorized hcseq hheaders .unauthorized ?_
  intro t' hnext
  obtain rfl := Option.some.inj hnext
  exact hip

theorem handleOptions_told (hcseq : IsInt r.cseq) (hmethod : r.method = str "OPTIONS")
    (hip : 0x0A ∉ t.localIp) : Gives (Outcome.Told w r t) (handleOptions w t r) := by
  refine .bind (findFile_gives t r.url) ?_
  rintro _ rfl
  dsimp only
  split_ifs with hopens
  · refine .ok ?_
    have htext : handleCmdOptions r.cseq = (replyMessage "RTSP/1.0 200 OK" r.cseq
        [str "Public: OPTIONS, DESCRIBE, SETUP, PLAY"] []).text := by
      rw [text_replyMessage, handleCmdOptions, List.append_assoc]
      rfl
    have hheaders : Announces [str "Public: OPTIONS, DESCRIBE, SETUP, PLAY"] [] :=
      .of_lines (by decide) rfl
    refine .of_message (congrArg some htext) isStatus_ok hcseq hheaders
      (.replied (Or.inl hmethod)) ?_
    intro t' hnext
    obtain rfl := Option.some.inj hnext
    exact hip
  · exact .ok (told_404 hcseq (by simpa using hopens))

theorem findSome?_numberBehind {key : List UInt8} {n : Nat} (hn : n < 2 ^ 31)
    (before : List (List UInt8)) (hbefore : before.findSome? (numberBehind key) = none) :
    (before ++ [key ++ decimal n]).findSome? (numberBehind key) = some (n : Int) := by
  have hkey : key.isPrefixOf (key ++ decimal n) :=
    List.isPrefixOf_iff_prefix.mpr (List.prefix_append _ _)
  have hscan := @scanInt_decimal n hn [] (by simp)
  rw [List.append_nil] at hscan
  have hnumber : numberBehind key (key ++ decimal n) = some (n : Int) := by
    rw [numberBehind, if_pos hkey, List.drop_left, hscan]
    rfl
  rw [List.findSome?_append, hbefore, Option.none_or, List.findSome?_singleton, hnumber]

theorem handleDescribe_told (hcseq : IsInt r.cseq) (hurl : 0x0A ∉ r.url)
    (hmethod : r.method = str "DESCRIBE") (hip : 0x0A ∉ t.localIp)
    (hsdp : ∀ path ip sdp, w.generateSDP path ip = some sdp → sdp.length < 1024) :
    Gives (Outcome.Told w r t) (handleDescribe w t r) := by
  have hsame : Gives (fun t' => t'.localIp = t.localIp) (t.describeFile r.url) := by
    rw [Thread.describeFile]
    split_ifs
    · exact (findFile_gives t r.url).mono fun _ ht => ht ▸ rfl
    · exact .ok rfl
  refine .bind hsame ?_
  intro t' ht'
  split_ifs with hmissing
  · exact .ok (told_404 hcseq (by simpa using hmissing.2))
  · refine .bind_any fun localIp => ?_
    split
    · rename_i hbroken
      exact .ok (told_500 hcseq hbroken)
    · rename_i sdp hdescribed
      let before := [str "Content-Base: " ++ r.url, str "Content-type: application/sdp"]
      let length := str "Content-length: " ++ decimal sdp.length
      have htext : handleCmdDescribe r.cseq r.url sdp =
          (replyMessage "RTSP/1.0 200 OK" r.cseq (before ++ [length]) sdp).text := by
        have htype : str "\r\nContent-type: application/sdp\r\nContent-length: " =
            [0x0D, 0x0A] ++ (str "Content-type: application/sdp" ++ ([0x0D, 0x0A] ++
              str "Content-length: ")) := rfl
        have hend : str "\r\n\r\n" = [0x0D, 0x0A] ++ str "\r\n" := rfl
        rw [text_replyMessage, handleCmdDescribe, htype, hend, List.flatMap_append,
          List.flatMap_singleton, List.flatMap_cons, List.flatMap_singleton, line, line, line]
        simp only [length, List.append_assoc]
      have hheaders : Announces (before ++ [length]) sdp := by
        have hshort : sdp.length < 2 ^ 31 := (hsdp _ _ _ hdescribed).trans (by decide)
        refine ⟨?_, by rw [findSome?_numberBehind hshort before rfl]; rfl⟩
        have hnumber := not_mem_decimal sdp.length
        simp only [before, length, List.cons_append, List.nil_append, List.forall_mem_cons,
          List.mem_append, not_or]
        and_intros <;> first | assumption | decide | simp [str]
      refine .ok (.of_message (congrArg some htext) isStatus_ok hcseq hheaders
        (.described hmethod hdescribed) ?_)
      intro t'' hnext
      obtain rfl := Option.some.inj hnext
      exact fun hmem => hip (ht' ▸ hmem)

theorem announces_setup {transport session : List UInt8} (htransport : 0x0A ∉ transport)
    (hsession : 0x0A ∉ session) :
    Announces [str "Transport: " ++ transport, str "Session: " ++ session] [] := by
  refine .of_lines ?_ rfl
  simp only [List.forall_mem_cons, List.mem_append, not_or]
  and_intros <;> first | assumption | decide | simp [str]

theorem newline_not_mem_pair (n : Int) : 0x0A ∉ pair n := by
  have hfirst := not_mem_decimal n
  have hsecond := not_mem_decimal (n + 1)
  rw [pair, List.mem_append, List.mem_append, not_or, not_or]
  exact ⟨⟨hfirst, by decide⟩, hsecond⟩

theorem newline_not_mem_udp (clientRtpPort serverRtpPort : Int) :
    0x0A ∉ str "RTP/AVP;unicast;client_port=" ++ pair clientRtpPort ++ str ";server_port=" ++
      pair serverRtpPort := by
  have hclient := newline_not_mem_pair clientRtpPort
  have hserver := newline_not_mem_pair serverRtpPort
  simp only [List.mem_append, not_or]
  and_intros <;> first | assumption | decide

theorem newline_not_mem_tcp {clientIp localIp : List UInt8} (hclientIp : 0x0A ∉ clientIp)
    (hlocalIp : 0x0A ∉ localIp) (sig0 : Int) :
    0x0A ∉ str "RTP/AVP/TCP;unicast;destination=" ++ clientIp ++ str ";source=" ++ localIp ++
      str ";interleaved=" ++ pair sig0 := by
  have hpair := newline_not_mem_pair sig0
  simp only [List.mem_append, not_or]
  and_intros <;> first | assumption | decide

theorem text_setupTcp (cseq : Int) (localIp clientIp : List UInt8) (sig0 : Int)
    (session : List UInt8) : handleCmdSetupTcp cseq localIp clientIp sig0 session =
      (replyMessage "RTSP/1.0 200 OK" cseq [str "Transport: " ++
          (str "RTP/AVP/TCP;unicast;destination=" ++ clientIp ++ str ";source=" ++ localIp ++
            str ";interleaved=" ++ pair sig0), str "Session: " ++ session] []).text := by
  have htransport : str "Transport: RTP/AVP/TCP;unicast;destination=" =
      str "Transport: " ++ str "RTP/AVP/TCP;unicast;destination=" := rfl
  have hsession : str "\r\nSession: " = [0x0D, 0x0A] ++ str "Session: " := rfl
  have hend : str "\r\n\r\n" = [0x0D, 0x0A] ++ str "\r\n" := rfl
  rw [text_replyMessage, handleCmdSetupTcp, htransport, hsession, hend, List.flatMap_cons,
    List.flatMap_singleton, line, line]
  simp only [List.append_assoc, List.append_nil]

theorem text_setupUdp (cseq clientRtpPort serverRtpPort : Int) (session : List UInt8) :
    handleCmdSetupUdp cseq clientRtpPort serverRtpPort session =
      (replyMessage "RTSP/1.0 200 OK" cseq [str "Transport: " ++
          (str "RTP/AVP;unicast;client_port=" ++ pair clientRtpPort ++ str ";server_port=" ++
            pair serverRtpPort), str "Session: " ++ session] []).text := by
  have htransport : str "Transport: RTP/AVP;unicast;client_port=" =
      str "Transport: " ++ str "RTP/AVP;unicast;client_port=" := rfl
  have hsession : str "\r\nSession: " = [0x0D, 0x0A] ++ str "Session: " := rfl
  have hend : str "\r\n\r\n" = [0x0D, 0x0A] ++ str "\r\n" := rfl
  rw [text_replyMessage, handleCmdSetupUdp, htransport, hsession, hend, List.flatMap_cons,
    List.flatMap_singleton, line, line]
  simp only [List.append_assoc, List.append_nil]

theorem handleSetup_told (hconn : conn.OneLine) (hcseq : IsInt r.cseq) (hurl : 0x0A ∉ r.url)
    (hmethod : r.method = str "SETUP") {t' : Thread} (hip : 0x0A ∉ t'.localIp) (track0 : Bool) :
    Gives (Outcome.Told w r t) (handleSetup conn w t' track0 r) := by
  have hread : Gives (fun localIp => 0x0A ∉ localIp) (readLocalIp 40 r.url t'.localIp) := by
    refine (readLocalIp_gives 40 r.url t'.localIp).mono ?_
    rintro _ rfl
    rw [hostOf]
    split
    · rename_i s args hscan
      have hmem : Arg.string s ∈ sscanf r.url "rtsp://%[^:]:" := hscan ▸ List.mem_cons_self
      exact fun hnewline => hurl (subset_of_mem_scan hmem hnewline)
    · exact hip
  rw [handleSetup]
  by_cases hudp : t'.tureOfRtpTcp = 0
  · rw [if_pos hudp]
    refine .bind hread fun localIp hlocalIp => .ok ?_
    refine .of_message (congrArg some (text_setupUdp _ _ _ _)) isStatus_ok hcseq
      (announces_setup (newline_not_mem_udp _ _) hconn.sessionId) (.replied (Or.inr hmethod)) ?_
    intro t'' hnext
    obtain rfl := Option.some.inj hnext
    cases track0 <;> exact hlocalIp
  · rw [if_neg hudp]
    by_cases htcp : t'.tureOfRtpTcp = 1
    · rw [if_pos htcp]
      refine .bind hread fun localIp hlocalIp => .ok ?_
      refine .of_message (congrArg some (text_setupTcp _ _ _ _ _)) isStatus_ok hcseq
        (announces_setup (newline_not_mem_tcp hconn.clientIp hlocalIp _) hconn.sessionId)
        (.replied (Or.inr hmethod)) ?_
      intro t'' hnext
      obtain rfl := Option.some.inj hnext
      exact hlocalIp
    · rw [if_neg htcp]
      exact .ok .of_closed

theorem handlePlay_told (hconn : conn.OneLine) (hcseq : IsInt r.cseq)
    (hmethod : r.method = str "PLAY") : Gives (Outcome.Told w r t) (handlePlay conn w t r) := by
  refine .bind_any fun path => .ok ?_
  let headers := [str "Range: npt=0.000-", str "Session: " ++ conn.sessionId ++ str "; timeout=60"]
  have htext : handleCmdPlay r.cseq conn.sessionId =
      (replyMessage "RTSP/1.0 200 OK" r.cseq headers []).text := by
    have hrange : str "Range: npt=0.000-\r\nSession: " =
        str "Range: npt=0.000-" ++ ([0x0D, 0x0A] ++ str "Session: ") := rfl
    have hend : str "; timeout=60\r\n\r\n" =
        str "; timeout=60" ++ ([0x0D, 0x0A] ++ str "\r\n") := rfl
    rw [text_replyMessage, handleCmdPlay, hrange, hend, List.flatMap_cons, List.flatMap_singleton,
      line, line]
    simp only [List.append_assoc, List.append_nil]
  have hheaders : Announces headers [] := by
    refine .of_lines ?_ rfl
    have hsession := hconn.sessionId
    simp only [headers, List.forall_mem_cons, List.mem_append, not_or]
    and_intros <;> first | assumption | decide | simp [str]
  exact .of_message (congrArg some htext) isStatus_ok hcseq hheaders (.played hmethod)
    fun _ hnext => absurd hnext (Option.not_mem_none _)

/-! ## A turn -/

theorem parseRequestLine_gives (line : List UInt8) :
    Gives (fun requestLine => ∀ l ∈ requestLine, 0x0A ∉ l.url) (parseRequestLine line) := by
  rw [parseRequestLine]
  refine .bind_any fun _ => .bind_any fun _ => .bind_any fun _ => .ok ?_
  intro l hl
  have hmem : Arg.string l.url ∈ sscanf (cstr line) "%s %s %s\r\n" := by
    rw [Option.mem_def] at hl
    unfold threeWords at hl
    split at hl
    · rename_i method url version hargs
      obtain rfl := Option.some.inj hl
      rw [hargs]
      simp
    · cases hl
  have hwordly : Wordly (directives (str "%s %s %s\r\n")) := by
    intro stop hstop
    have hformat : directives (str "%s %s %s\r\n") =
        [.word, .space, .word, .space, .word, .space, .space] := rfl
    rw [hformat] at hstop
    simp at hstop
  have hword : IsWord l.url := isWord_of_mem_scan hwordly hmem
  intro hnewline
  exact absurd (hword _ hnewline) (by decide)

theorem parseCSeq_gives (buf : List UInt8) :
    Gives (fun cseq => ∀ n ∈ cseq, IsInt n) (parseCSeq buf) := by
  rw [parseCSeq]
  refine .bind_any fun x => .ok ?_
  intro n hn
  have hmem : Arg.int n ∈ sscanf (cstr x.1) "CSeq: %d\r\n" := by
    rw [Option.mem_def] at hn
    unfold oneInt at hn
    split at hn
    · rename_i hargs
      obtain rfl := Option.some.inj hn
      rw [hargs]
      exact List.mem_singleton_self _
    · cases hn
  exact isInt_of_mem_scan hmem

theorem Asks.plain {msg : List UInt8} (h : Asks msg r) : 0x0A ∉ r.url ∧ IsInt r.cseq := by
  rw [Asks, parseRequest] at h
  obtain ⟨recvBuf, -, h⟩ := bind_eq_ok.mp h
  obtain ⟨⟨line, bufPtr⟩, -, h⟩ := bind_eq_ok.mp h
  obtain ⟨requestLine, hline, h⟩ := bind_eq_ok.mp h
  cases requestLine with
  | none => cases h
  | some requestLine =>
    obtain ⟨cseq, hcseq, h⟩ := bind_eq_ok.mp h
    cases cseq with
    | none => cases h
    | some cseq =>
      cases h
      exact ⟨parseRequestLine_gives line _ hline requestLine rfl,
        parseCSeq_gives bufPtr _ hcseq cseq rfl⟩

theorem setupTransport_localIp (t : Thread) (r : Request) :
    Gives (fun x => x.1.localIp = t.localIp) (setupTransport t r) := by
  rw [setupTransport]
  split
  · exact .error _
  · refine .bind_any fun line => .ok ?_
    dsimp only
    rw [Thread.parseTransport]
    split_ifs
    · cases (str "track0").isPrefixOf _ <;> rfl
    · rw [Thread.setClientPorts]
      split_ifs <;> rfl
    · rw [Thread.setClientPorts]
      split_ifs <;> rfl

theorem respond_told (hconn : conn.OneLine) (hcseq : IsInt r.cseq) (hurl : 0x0A ∉ r.url)
    (hip : 0x0A ∉ t.localIp)
    (hsdp : ∀ path ip sdp, w.generateSDP path ip = some sdp → sdp.length < 1024) :
    Gives (Outcome.Told w r t) (respond conn w t r) := by
  rw [respond]
  split_ifs with hsetup hoptions hdescribe hplay
  · refine .bind (setupTransport_localIp t r) ?_
    rintro ⟨t', track0⟩ ht'
    exact handleSetup_told hconn hcseq hurl hsetup (fun hmem => hip (ht' ▸ hmem)) track0
  · exact handleOptions_told hcseq hoptions hip
  · exact handleDescribe_told hcseq hurl hdescribe hip hsdp
  · exact handlePlay_told hconn hcseq hplay
  · exact .ok .of_closed

/-- A turn is silent, or it tells what came of a request. -/
theorem handleRequest_told (hconn : conn.OneLine) (hip : 0x0A ∉ t.localIp)
    (hsdp : ∀ path ip sdp, w.generateSDP path ip = some sdp → sdp.length < 1024)
    (msg : List UInt8) : Gives (fun o => o = .closed none ∨ ∃ r, Asks msg r ∧ o.Told w r t)
      (handleRequest conn w t msg) := by
  intro o ho
  rw [handleRequest] at ho
  obtain ⟨r, hparse, ho⟩ := bind_eq_ok.mp ho
  cases r with
  | none => exact Or.inl (Except.ok.inj ho).symm
  | some r =>
    obtain ⟨hurl, hcseq⟩ := Asks.plain hparse
    refine Or.inr ⟨r, hparse, ?_⟩
    have hserve : Gives (Outcome.Told w r t) (serve conn w t r) := by
      rw [serve]
      refine .bind_any fun authorized => ?_
      cases authorized with
      | missing => exact .ok (told_unauthorized hconn hcseq hip)
      | rejected => exact .ok .of_closed
      | passed => exact respond_told hconn hcseq hurl hip hsdp
    exact hserve o ho

/-! ## A run -/

structure Served.Told (s : Served) (ms : List Message) : Prop where
  legible : ∀ m ∈ ms, Legible m
  sent : s.sent = ms.flatMap Message.text
  answered : s.AnsweredBy ms
  localIp : ∀ t ∈ s.thread, 0x0A ∉ t.localIp

theorem told_start (filename : List UInt8) {localIp : List UInt8} (hip : 0x0A ∉ localIp) :
    (Served.start filename localIp).Told [] where
  legible := by simp
  sent := rfl
  answered := ⟨[], .nil, Or.inl rfl⟩
  localIp := by
    intro t ht
    obtain rfl := Option.some.inj ht
    exact hip

theorem sent_append (thread thread' : Option Thread) (turns : List Handled) (turn : Handled) :
    (Served.mk thread (turns ++ [turn])).sent =
      (Served.mk thread' turns).sent ++ turn.outcome.reply.getD [] := by
  rw [Served.sent, Served.sent, List.filterMap_append, List.flatten_append]
  cases hreply : turn.outcome.reply with
  | none => simp [hreply]
  | some reply => simp [hreply]

theorem Served.Told.step {s s' : Served} {ms : List Message} (h : s.Told ms)
    (hconn : conn.OneLine) {label : World × List UInt8} (hsdp : SdpFits s label)
    (hstep : Served.step conn s label = some s') : ∃ ms', s'.Told ms' := by
  obtain ⟨w, msg⟩ := label
  obtain ⟨t, o, ht, ho, rfl⟩ := Served.step_eq_some hstep
  have hall : ∃ answered, List.Forall₂ Handled.AnsweredBy answered ms ∧ s.turns = answered := by
    obtain ⟨answered, hanswered, hturns | ⟨hclosed, -⟩⟩ := h.answered
    · exact ⟨answered, hanswered, hturns⟩
    · rw [hclosed] at ht
      cases ht
  obtain ⟨answered, hanswered, hturns⟩ := hall
  have hsilent : o = .closed none → ∃ ms', (Served.mk (o.next t)
      (s.turns ++ [⟨w, msg, o⟩])).Told ms' := by
    rintro rfl
    refine ⟨ms, h.legible, ?_, ⟨answered, hanswered, Or.inr ⟨rfl, w, msg, by rw [hturns]⟩⟩, ?_⟩
    · rw [sent_append _ s.thread, ← h.sent]
      exact List.append_nil _
    · exact fun t' hnext => absurd hnext (Option.not_mem_none _)
  obtain hclosed | ⟨r, hasks, htold⟩ := handleRequest_told hconn (h.localIp t ht) hsdp msg o ho
  · exact hsilent hclosed
  · cases hreply : o.reply with
    | none => exact hsilent (htold.silent hreply)
    | some reply =>
      obtain ⟨m, code, rfl, hlegible, hcseq, hstatus, hreports⟩ := htold.reply reply hreply
      refine ⟨ms ++ [m], ?_, ?_, ⟨s.turns ++ [⟨w, msg, o⟩], ?_, Or.inl rfl⟩, htold.next⟩
      · rw [List.forall_mem_append, List.forall_mem_singleton]
        exact ⟨h.legible, hlegible⟩
      · rw [sent_append _ s.thread, List.flatMap_append, List.flatMap_singleton, ← h.sent]
        dsimp only
        rw [hreply]
        rfl
      · rw [hturns]
        exact List.rel_append hanswered (.cons ⟨r, code, hasks, hcseq, hstatus, hreports⟩ .nil)

/-- **What a client reads.** The bytes of a connection are the answers to its requests, one for each
and in order, and behind them the frames; and whenever the client looks, it has read the first of
the answers. -/
theorem read_reach (hconn : conn.OneLine) (filename : List UInt8) {localIp : List UInt8}
    (hip : 0x0A ∉ localIp) {s : Served}
    (h : Reach (Served.step conn) SdpFits (.start filename localIp) s) {data : List UInt8}
    {fs : List (UInt8 × List UInt8)} (hdata : Framing.split 0x24 data = some fs) :
    ∃ ms, s.AnsweredBy ms ∧ Client.read (s.sent ++ data) = some (ms, fs) ∧
      ∀ seen, seen <+: s.sent ++ data →
        ((Reader.start []).read Client.contentLength 0x24 seen).done <+: ms := by
  have htold : ∃ ms, s.Told ms :=
    @Reach.invariant _ _ _ _ _ _ (fun s => ∃ ms, s.Told ms) h ⟨[], told_start filename hip⟩
      fun _ _ _ ⟨_, hinv⟩ hsdp hstep => hinv.step hconn hsdp hstep
  obtain ⟨ms, htold⟩ := htold
  have hread : (Reader.start []).read Client.contentLength 0x24 (s.sent ++ data) =
      (Reader.start ms).read Client.contentLength 0x24 data := by
    rw [Reader.read_append, htold.sent, Reader.read_messages htold.legible, List.nil_append]
  have hdone : (Reader.start ms).read Client.contentLength 0x24 data =
      if data = [] then Reader.start ms else ⟨ms, .data data⟩ := by
    obtain ⟨rfl, -⟩ | ⟨rest, rfl⟩ := Framing.eq_cons_of_split hdata
    · rfl
    · rw [if_neg (List.cons_ne_nil _ _), Reader.read_data]
  refine ⟨ms, htold.answered, ?_, ?_⟩
  · rw [Client.read, hread, hdone]
    obtain ⟨rfl, rfl⟩ | ⟨rest, rfl⟩ := Framing.eq_cons_of_split hdata
    · rfl
    · rw [if_neg (List.cons_ne_nil _ _)]
      dsimp only
      rw [hdata]
      rfl
  · rintro seen ⟨rest, hseen⟩
    have hlater := @Reader.done_prefix Client.contentLength 0x24
      ((Reader.start []).read Client.contentLength 0x24 seen) rest
    rw [← Reader.read_append, hseen, hread, hdone] at hlater
    split_ifs at hlater <;> exact hlater

def sdpWorld : World := { easyWorld with describes := fun _ _ _ => some (str "v=0\r\n") }

theorem sdpFits_sdpWorld (s : Served) (msg : List UInt8) : SdpFits s (sdpWorld, msg) := by
  intro path ip sdp hsdp
  obtain rfl := Option.some.inj hsdp
  decide

theorem oneLine_openConn : openConn.OneLine := ⟨by decide, by decide, by decide⟩

set_option maxRecDepth 2048 in
/-- A description, PLAY, and a frame. -/
theorem read_described : ∃ s, runs (Served.step openConn) (.start [] [])
      [(sdpWorld, plainText (str "DESCRIBE") urlA), (sdpWorld, plainText (str "PLAY") urlA)] =
        some s ∧
    ∃ ms, s.AnsweredBy ms ∧
      Client.read (s.sent ++ [0x24, 0, 0, 2, 7, 8]) = some (ms, [(0, [7, 8])]) ∧
      ∀ seen, seen <+: s.sent ++ [0x24, 0, 0, 2, 7, 8] →
        ((Reader.start []).read Client.contentLength 0x24 seen).done <+: ms := by
  refine ⟨_, rfl, read_reach oneLine_openConn [] (by decide) (.of_runs_forall
    [(sdpWorld, plainText (str "DESCRIBE") urlA), (sdpWorld, plainText (str "PLAY") urlA)] ?_ rfl)
    (by decide)⟩
  intro label hmem s
  rcases List.mem_pair.mp hmem with rfl | rfl <;> exact sdpFits_sdpWorld s _

end SimpleRtsp

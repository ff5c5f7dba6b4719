import SimpleRtsp.Rtsp.Parsing

/-!
# RTP over UDP

What a client that asks for RTP over UDP should get (`UdpServed`): every SETUP the UDP reply, with
the ports it asked for and the ports of the sockets that were bound for its track, and the PLAY an
`addClient` in UDP mode with these ports and sockets. `doClientThd` begins in TCP mode and never
leaves it (`doClientThd_tcp`), so a client is served that way only if it never asks
(`udpServed_iff`).
-/

namespace SimpleRtsp

open CString

/-! ## What was asked -/

/-- The line `Transport: <profile>;unicast;client_port=a-b`. -/
def udpTransport (profile : String) (a b : Nat) : List UInt8 :=
  str "Transport: " ++ str profile ++ str ";unicast;client_port=" ++ decimal a ++ str "-" ++
    decimal b

/-- The `Transport:` line of the request asks for RTP over UDP, to the ports `a` and `b`. -/
def AsksUdp (r : Request) (a b : Nat) : Prop :=
  ∃ line, (lines r.bufTmp).find? (fun l => isAvp (asLine l)) = some line ∧
    ∃ profile ∈ ["RTP/AVP", "RTP/AVP/UDP"], ∃ cr ∈ [[], str "\r"],
      line = udpTransport profile a b ++ cr

def Request.IsSetup (r : Request) : Prop := r.method = str "SETUP"

def Request.track0 (r : Request) : Option Bool :=
  (strrchr r.url 0x2F).map fun p => (str "track0").isPrefixOf p.tail

/-! ## What was done -/

/-- The UDP reply with the client's ports `a` and `b` and the server's ports `p` and `p + 1`. -/
def udpReply (cseq : Int) (a b p : Nat) (session : List UInt8) : List UInt8 :=
  replyHead "RTSP/1.0 200 OK" cseq ++ str "Transport: RTP/AVP;unicast;client_port=" ++ decimal a ++
    str "-" ++ decimal b ++ str ";server_port=" ++ pair p ++ str "\r\nSession: " ++ session ++
    str "\r\n\r\n"

/-- A SETUP to the ports `a` and `b` got the UDP reply, with the ports of these sockets. -/
def Outcome.SetUp (conn : Conn) (r : Request) (a b : Nat) (sockets : RtpSockets) (o : Outcome) :
    Prop :=
  ∃ t p, sockets.port1 = some p ∧
    o = .replied t (udpReply r.cseq a b p conn.sessionId) (some sockets)

theorem Outcome.not_setUp (conn : Conn) (r : Request) (a b : Nat) (sockets : RtpSockets)
    (t : Thread) (reply : List UInt8) :
    ¬ (Outcome.replied t reply none).SetUp conn r a b sockets := by
  rintro ⟨t', p, -, h⟩
  injection h with _ _ hsockets
  cases hsockets

/-- The client is added in UDP mode, with this port and these sockets for a track. -/
def AddArgs.PlaysUdp (args : AddArgs) (track0 : Bool) (a : Nat) (sockets : RtpSockets) : Prop :=
  args.tureOfTcp ≠ 1 ∧
    if track0 then args.clientRtpPort = a ∧ args.serverUdpSocketRtp = sockets.fd1 ∧
      some args.serverUdpSocketRtcp = sockets.fd2
    else args.clientRtpPort1 = a ∧ args.serverUdpSocketRtp1 = sockets.fd1 ∧
      some args.serverUdpSocketRtcp1 = sockets.fd2

/-- Everything that was asked over UDP is served over UDP. -/
structure UdpServed (conn : Conn) (turns : List (List UInt8 × Outcome)) : Prop where
  setup : ∀ msg o, (msg, o) ∈ turns → ∀ r a b, Asks msg r → r.IsSetup → AsksUdp r a b →
    ∃ sockets, o.SetUp conn r a b sockets
  /-- the PLAY is for the last SETUP of each track -/
  play : ∀ before msg o between played after,
    turns = before ++ (msg, o) :: between ++ played :: after →
    ∀ r a b, Asks msg r → r.IsSetup → AsksUdp r a b →
    (∀ msg' o' r', (msg', o') ∈ between → Asks msg' r' → r'.IsSetup → r'.track0 ≠ r.track0) →
    ∀ reply args ret, played.2 = .played reply args ret →
    ∃ sockets track0, o.SetUp conn r a b sockets ∧ r.track0 = some track0 ∧
      args.PlaysUdp track0 a sockets

/-- A request is accepted: it gets a reply, and a client that plays is added. -/
def Outcome.Accepted : Outcome → Prop
  | .replied _ _ _ => True
  | .played _ _ ret => 0 ≤ ret
  | _ => False

/-- A connection whose requests are all accepted and whose SETUPs all ask for RTP over UDP. -/
structure UdpRun (conn : Conn) (turns : List (List UInt8 × Outcome)) : Prop where
  run : ∃ filename localIp requests,
    doClientThd conn (.init filename localIp) requests = .ok turns
  accepted : ∀ msg o, (msg, o) ∈ turns → o.Accepted
  udp : ∀ msg o r, (msg, o) ∈ turns → Asks msg r → r.IsSetup → ∃ a b, AsksUdp r a b

/-! ## TCP mode -/

/-- What a turn comes to in TCP mode: no sockets are created, and a player is added in TCP mode. -/
def Outcome.InTcp : Outcome → Prop
  | .replied t _ sockets => t.tureOfRtpTcp = 1 ∧ sockets = none
  | .played _ args _ => args.tureOfTcp = 1
  | _ => True

variable {t : Thread}

theorem parseTransport_tcp (h : t.tureOfRtpTcp = 1) (track0 : Bool) (line : List UInt8) :
    (t.parseTransport track0 line).tureOfRtpTcp = 1 := by
  simp only [Thread.parseTransport, Thread.setClientPorts]
  split_ifs <;> first | rfl | exact h

theorem setupTransport_tcp (h : t.tureOfRtpTcp = 1) (r : Request) :
    Gives (fun p => p.1.tureOfRtpTcp = 1) (setupTransport t r) := by
  rw [setupTransport]
  split
  · exact .error _
  · exact .bind_any fun line => .ok (parseTransport_tcp h _ line)

theorem findFile_tcp (h : t.tureOfRtpTcp = 1) (url : List UInt8) :
    Gives (fun t' => t'.tureOfRtpTcp = 1) (t.findFile url) := by
  rw [Thread.findFile]
  split
  · exact .error _
  · exact .bind_any fun _ => .ok h

theorem describeFile_tcp (h : t.tureOfRtpTcp = 1) (url : List UInt8) :
    Gives (fun t' => t'.tureOfRtpTcp = 1) (t.describeFile url) := by
  rw [Thread.describeFile]
  split_ifs
  · exact findFile_tcp h url
  · exact .ok h

theorem handleOptions_tcp (h : t.tureOfRtpTcp = 1) (w : World) (r : Request) :
    Gives Outcome.InTcp (handleOptions w t r) := by
  refine (findFile_tcp h r.url).bind fun t' ht' => ?_
  split_ifs
  · exact .ok ⟨ht', rfl⟩
  · exact .ok trivial

theorem handleDescribe_tcp (h : t.tureOfRtpTcp = 1) (w : World) (r : Request) :
    Gives Outcome.InTcp (handleDescribe w t r) := by
  refine (describeFile_tcp h r.url).bind fun t' ht' => ?_
  split_ifs
  · exact .ok trivial
  · refine .bind_any fun localIp => ?_
    split
    · exact .ok trivial
    · exact .ok ⟨ht', rfl⟩

theorem handleSetup_tcp (h : t.tureOfRtpTcp = 1) (conn : Conn) (w : World) (track0 : Bool)
    (r : Request) : Gives Outcome.InTcp (handleSetup conn w t track0 r) := by
  rw [handleSetup, if_neg (by omega), if_pos h]
  exact .bind_any fun _ => .ok ⟨h, rfl⟩

theorem respond_tcp (h : t.tureOfRtpTcp = 1) (conn : Conn) (w : World) (r : Request) :
    Gives Outcome.InTcp (respond conn w t r) := by
  rw [respond]
  split_ifs
  · exact (setupTransport_tcp h r).bind fun p hp => handleSetup_tcp hp conn w p.2 r
  · exact handleOptions_tcp h w r
  · exact handleDescribe_tcp h w r
  · exact .bind_any fun _ => .ok h
  · exact .ok trivial

theorem handleRequest_tcp (h : t.tureOfRtpTcp = 1) (conn : Conn) (w : World) (msg : List UInt8) :
    Gives Outcome.InTcp (handleRequest conn w t msg) := by
  refine .bind_any fun r => ?_
  split
  · exact .ok trivial
  · refine .bind_any fun authorized => ?_
    split
    · exact .ok trivial
    · exact .ok trivial
    · exact respond_tcp h conn w _

theorem Outcome.InTcp.next {o : Outcome} (h : o.InTcp) (ht : t.tureOfRtpTcp = 1) {t' : Thread}
    (hnext : o.next t = some t') : t'.tureOfRtpTcp = 1 := by
  cases o with
  | closed reply => cases hnext
  | unauthorized reply => cases hnext; exact ht
  | replied t₁ reply sockets => cases hnext; exact h.1
  | played reply args ret => cases hnext

/-- **The mode never changes.** Every turn of a connection is in TCP mode. -/
theorem doClientThd_tcp (h : t.tureOfRtpTcp = 1) (conn : Conn)
    (requests : List (World × List UInt8)) :
    Gives (fun turns => ∀ msg o, (msg, o) ∈ turns → o.InTcp) (doClientThd conn t requests) := by
  induction requests generalizing t with
  | nil => exact .ok (by simp)
  | cons request rest ih =>
    obtain ⟨w, msg⟩ := request
    refine (handleRequest_tcp h conn w msg).bind fun o ho => ?_
    split
    · exact .ok (by simpa using ho)
    · rename_i t' hnext
      refine .map fun later hlater msg' o' hmem => ?_
      obtain heq | hmem := List.mem_cons.mp hmem
      · cases heq
        exact ho
      · exact ih (ho.next h hnext) later hlater msg' o' hmem

/-- **RTP over UDP is never set up.** A connection whose SETUPs all ask for RTP over UDP is served
as it asks if and only if there is no SETUP in it. -/
theorem udpServed_iff (conn : Conn) (turns : List (List UInt8 × Outcome)) (h : UdpRun conn turns) :
    UdpServed conn turns ↔ ∀ msg o r, (msg, o) ∈ turns → Asks msg r → ¬ r.IsSetup := by
  obtain ⟨filename, localIp, requests, hrun⟩ := h.run
  have htcp := doClientThd_tcp (t := .init filename localIp) rfl conn requests turns hrun
  constructor
  · intro hserved msg o r hmem hasks hsetup
    obtain ⟨a, b, hudp⟩ := h.udp msg o r hmem hasks hsetup
    obtain ⟨sockets, t, p, -, rfl⟩ := hserved.setup msg o hmem r a b hasks hsetup hudp
    cases (htcp msg _ hmem).2
  · intro hnone
    constructor
    · intro msg o hmem r a b hasks hsetup
      exact absurd hsetup (hnone msg o r hmem hasks)
    · rintro before msg o between played after rfl r a b hasks hsetup
      exact absurd hsetup (hnone msg o r (by simp) hasks)

def optionsRequest : List UInt8 :=
  str "OPTIONS rtsp://10.0.0.1:8554/a.mp4 RTSP/1.0\r\nCSeq: 1\r\n\r\n"

theorem udpServed_options :
    ∃ turns, UdpRun openConn turns ∧ turns.length = 1 ∧ UdpServed openConn turns := by
  let t : Thread := { Thread.init [] [] with
    findflag := 1, pathTmp := str "mp4path/a.mp4", filename := str "a.mp4" }
  let turns := [(optionsRequest, Outcome.replied t (handleCmdOptions 1) none)]
  have hrun : doClientThd openConn (.init [] []) [(easyWorld, optionsRequest)] = .ok turns := rfl
  let r : Request :=
    { recvBuf := optionsRequest ++ [0]
      method := str "OPTIONS"
      url := str "rtsp://10.0.0.1:8554/a.mp4"
      cseq := 1
      bufTmp := (optionsRequest ++ [0]).drop 45 }
  have hoptions : Asks optionsRequest r := rfl
  have hnone : ∀ msg o r, (msg, o) ∈ turns → Asks msg r → ¬ r.IsSetup := by
    intro msg o r' hmem hasks
    obtain ⟨rfl, -⟩ := Prod.mk.inj (List.mem_singleton.mp hmem)
    cases hoptions.symm.trans hasks
    change str "OPTIONS" ≠ str "SETUP"
    decide
  have hudp : UdpRun openConn turns := by
    refine ⟨⟨_, _, _, hrun⟩, fun msg o hmem => ?_, fun msg o r hmem hasks hsetup =>
      absurd hsetup (hnone msg o r hmem hasks)⟩
    obtain ⟨-, rfl⟩ := Prod.mk.inj (List.mem_singleton.mp hmem)
    trivial
  exact ⟨turns, hudp, rfl, (udpServed_iff openConn turns hudp).mpr hnone⟩

def udpRequest : List UInt8 :=
  str "SETUP rtsp://10.0.0.1:8554/a.mp4/track0 RTSP/1.0\r\nCSeq: 2\r\n" ++
    str "Transport: RTP/AVP;unicast;client_port=5000-5001\r\n\r\n"

set_option maxRecDepth 2048 in
/-- One SETUP, and it gets the TCP reply. -/
theorem udpRequest_tcpReply :
    ∃ turns, UdpRun openConn turns ∧ ¬ UdpServed openConn turns ∧
      ∃ t, turns = [(udpRequest, .replied t
        (handleCmdSetupTcp 2 (str "10.0.0.1") (str "10.0.0.2") (-1) openConn.sessionId) none)] := by
  let t : Thread := { Thread.init [] (str "10.0.0.1") with
    clientRtpPort := 5000, clientRtcpPort := 5001 }
  let turns := [(udpRequest, Outcome.replied t
    (handleCmdSetupTcp 2 (str "10.0.0.1") (str "10.0.0.2") (-1) openConn.sessionId) none)]
  have hrun : doClientThd openConn (.init [] []) [(easyWorld, udpRequest)] = .ok turns := rfl
  let r : Request :=
    { recvBuf := udpRequest ++ [0]
      method := str "SETUP"
      url := str "rtsp://10.0.0.1:8554/a.mp4/track0"
      cseq := 2
      bufTmp := (udpRequest ++ [0]).drop 50 }
  have hasks : Asks udpRequest r := rfl
  have hports : AsksUdp r 5000 5001 :=
    ⟨str "Transport: RTP/AVP;unicast;client_port=5000-5001\r", by decide +kernel, "RTP/AVP",
      by simp, str "\r", by simp, by decide +kernel⟩
  refine ⟨turns, ⟨⟨_, _, _, hrun⟩, fun msg o hmem => ?_, fun msg o r' hmem hasks' _ => ?_⟩,
    fun hserved => ?_, t, rfl⟩
  · obtain ⟨-, rfl⟩ := Prod.mk.inj (List.mem_singleton.mp hmem)
    trivial
  · obtain ⟨rfl, -⟩ := Prod.mk.inj (List.mem_singleton.mp hmem)
    cases hasks.symm.trans hasks'
    exact ⟨5000, 5001, hports⟩
  · obtain ⟨sockets, hsetUp⟩ :=
      hserved.setup udpRequest _ (List.mem_singleton.mpr rfl) r 5000 5001 hasks rfl hports
    exact Outcome.not_setUp _ _ _ _ _ _ _ hsetUp

end SimpleRtsp

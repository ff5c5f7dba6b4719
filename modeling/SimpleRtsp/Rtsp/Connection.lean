import SimpleRtsp.Rtsp.Authorization
import SimpleRtsp.Rtsp.Reply
import SimpleRtsp.Session.Client

/-!
# A connection

`doClientThd` serves the requests of one connection. `Thread` holds the variables that live from one
request to the next, `Conn` what is fixed for the connection, and `World` how the file system, the
sockets and `addClient` answer during one request. `handleRequest` is one turn of its loop.
-/

namespace SimpleRtsp

open CString

structure Conn where
  auth : Int
  md5 : List UInt8 → List UInt8
  nonce : List UInt8
  sessionId : List UInt8
  clientSockFd : Int
  clientIp : List UInt8

/-! ## `create_rtp_sockets` -/

/-- The results of `socket` and of `bind` for every port, for the two sockets. -/
structure SocketWorld where
  socket1 : Int
  socket2 : Int
  bind1 : Nat → Bool
  bind2 : Nat → Bool

/-- What `create_rtp_sockets` stored, and what it returned. -/
structure RtpSockets where
  fd1 : Int
  fd2 : Option Int
  port1 : Option Nat
  ret : Int

/-- The ports that the loop tries, `for (port = 1024; port <= 65535; port += 2)`. -/
def tryPorts (w : SocketWorld) : Nat → Nat → Option Nat
  | 0, _ => none
  | n + 1, port =>
    if w.bind1 port ∧ w.bind2 (port + 1) then some port else tryPorts w n (port + 2)

/-- `create_rtp_sockets`; it stores `port1` and `port1 + 1`. -/
def createRtpSockets (w : SocketWorld) : RtpSockets :=
  if w.socket1 < 0 then ⟨w.socket1, none, none, -1⟩
  else if w.socket2 < 0 then ⟨w.socket1, some w.socket2, none, -1⟩
  else
    match tryPorts w ((65535 - 1024) / 2 + 1) 1024 with
    | none => ⟨w.socket1, some w.socket2, none, -1⟩
    | some port => ⟨w.socket1, some w.socket2, some port, 0⟩

/-! ## The variables of `doClientThd` -/

structure World where
  /-- `open(path, O_RDONLY)` succeeds -/
  opens : List UInt8 → Bool
  /-- what `generateSDP` writes at a time for a path and an address, none if it fails -/
  describes : Int → List UInt8 → List UInt8 → Option (List UInt8)
  /-- `time(NULL)` -/
  time : Int
  /-- what the array `localIp` of a DESCRIBE happens to hold -/
  localIp : List UInt8
  sockets : SocketWorld
  addClient : AddArgs → Int

/-- `generateSDP(path, localIp, ..)` in this request. -/
def World.generateSDP (w : World) (path localIp : List UInt8) : Option (List UInt8) :=
  w.describes w.time path localIp

structure Thread where
  sig0 : Int
  sig1 : Int
  sig2 : Int
  sig3 : Int
  tureOfRtpTcp : Int
  clientRtpPort : Int
  clientRtcpPort : Int
  clientRtpPort1 : Int
  clientRtcpPort1 : Int
  serverRtpPort : Int
  serverRtpPort1 : Int
  serverUdpSocketRtpFd : Int
  serverUdpSocketRtcpFd : Int
  serverUdpSocketRtp1Fd : Int
  serverUdpSocketRtcp1Fd : Int
  findflag : Int
  path : List UInt8
  pathTmp : List UInt8
  filename : List UInt8
  localIp : List UInt8

def mp4Dir : List UInt8 := str "mp4path/"

namespace Thread

/-- The variables before the first request; `filename` and `local_ip` are not initialised. -/
def init (filename localIp : List UInt8) : Thread where
  sig0 := -1
  sig1 := -1
  sig2 := -1
  sig3 := -1
  tureOfRtpTcp := 1
  clientRtpPort := -1
  clientRtcpPort := -1
  clientRtpPort1 := -1
  clientRtcpPort1 := -1
  serverRtpPort := -1
  serverRtpPort1 := -1
  serverUdpSocketRtpFd := -1
  serverUdpSocketRtcpFd := -1
  serverUdpSocketRtp1Fd := -1
  serverUdpSocketRtcp1Fd := -1
  findflag := 0
  path := mp4Dir
  pathTmp := mp4Dir
  filename := filename
  localIp := localIp

/-- The variable that a `%d` is stored in. -/
def intArg (args : List Arg) (i : Nat) (old : Int) : Int :=
  match args[i]? with
  | some (.int n) => n
  | _ => old

/-- The `client_port=%d-%d` of a track. -/
def setClientPorts (track0 : Bool) (args : List Arg) (t : Thread) : Thread :=
  if track0 then
    { t with
      clientRtpPort := intArg args 0 t.clientRtpPort
      clientRtcpPort := intArg args 1 t.clientRtcpPort }
  else
    { t with
      clientRtpPort1 := intArg args 0 t.clientRtpPort1
      clientRtcpPort1 := intArg args 1 t.clientRtcpPort1 }

/-- The `interleaved=%d-%d` of a track. -/
def setSig (track0 : Bool) (args : List Arg) (t : Thread) : Thread :=
  if track0 then { t with sig0 := intArg args 0 t.sig0, sig1 := intArg args 1 t.sig1 }
  else { t with sig2 := intArg args 0 t.sig2, sig3 := intArg args 1 t.sig3 }

/-- What the loop over the lines of a SETUP does with the line it stops at. -/
def parseTransport (track0 : Bool) (line : List UInt8) (t : Thread) : Thread :=
  if isTcp line then
    { t.setSig track0
        (sscanf (cstr line) "Transport: RTP/AVP/TCP;unicast;interleaved=%d-%d\r\n") with
      tureOfRtpTcp := 1 }
  else if isUdp line then
    t.setClientPorts track0
      (sscanf (cstr line) "Transport: RTP/AVP/UDP;unicast;client_port=%d-%d\r\n")
  else
    t.setClientPorts track0
      (sscanf (cstr line) "Transport: RTP/AVP;unicast;client_port=%d-%d\r\n")

/-- The file that `url` names, behind what `path_tmp` holds. -/
def findFile (url : List UInt8) (t : Thread) : Except Fault Thread :=
  match strrchr url 0x2F with
  | none => .error .nullPointer
  | some p => do
    let pathTmp ← store .pathTmp 100 (t.pathTmp ++ p.tail)
    pure { t with filename := p.tail, pathTmp := pathTmp }

/-- The file of a DESCRIBE: the one found before, or the one that its URL names. -/
def describeFile (url : List UInt8) (t : Thread) : Except Fault Thread :=
  if t.findflag = 0 then t.findFile url else .ok t

/-- `create_rtp_sockets` for a track; both ports go to the same variable. -/
def bindSockets (track0 : Bool) (sockets : RtpSockets) (t : Thread) : Thread :=
  let port2 (old : Int) : Int := sockets.port1.elim old fun port => port + 1
  if track0 then
    { t with
      serverUdpSocketRtpFd := sockets.fd1
      serverUdpSocketRtcpFd := sockets.fd2.getD t.serverUdpSocketRtcpFd
      serverRtpPort := port2 t.serverRtpPort }
  else
    { t with
      serverUdpSocketRtp1Fd := sockets.fd1
      serverUdpSocketRtcp1Fd := sockets.fd2.getD t.serverUdpSocketRtcp1Fd
      serverRtpPort1 := port2 t.serverRtpPort1 }

end Thread

/-! ## One request -/

structure Request where
  recvBuf : List UInt8
  method : List UInt8
  url : List UInt8
  cseq : Int
  /-- the text behind the request line -/
  bufTmp : List UInt8

/-- The request line and the `CSeq:` line; none for a parse error. -/
def parseRequest (msg : List UInt8) : Except Fault (Option Request) := do
  let recvBuf ← terminate msg
  let (line, bufPtr) ← getLineFromBuf recvBuf
  match ← parseRequestLine line with
  | none => pure none
  | some requestLine =>
    match ← parseCSeq bufPtr with
    | none => pure none
    | some cseq => pure (some ⟨recvBuf, requestLine.method, requestLine.url, cseq, bufPtr⟩)

/-- The message is this request. -/
def Asks (msg : List UInt8) (r : Request) : Prop := parseRequest msg = .ok (some r)

theorem Asks.unique {msg : List UInt8} {r r' : Request} (h : Asks msg r) (h' : Asks msg r') :
    r = r' :=
  Option.some.inj (Except.ok.inj (h.symm.trans h'))

/-- How a turn of the loop ends. -/
inductive Outcome where
  /-- `goto out` -/
  | closed (reply : Option (List UInt8))
  /-- the reply 401; nothing changes -/
  | unauthorized (reply : List UInt8)
  /-- a reply, and the sockets that were created for it -/
  | replied (t : Thread) (reply : List UInt8) (sockets : Option RtpSockets)
  /-- PLAY: the call of `addClient` and its result -/
  | played (reply : List UInt8) (a : AddArgs) (ret : Int)

/-- The part of a SETUP before its reply: the variables, and whether it is for `track0`. -/
def setupTransport (t : Thread) (r : Request) : Except Fault (Thread × Bool) :=
  match strrchr r.url 0x2F with
  | none => .error .nullPointer
  | some p => do
    let track0 := (str "track0").isPrefixOf p.tail
    let line ← findTransport r.bufTmp
    pure (t.parseTransport track0 line, track0)

/-- `sscanf(url, "rtsp://%[^:]:", ip)` into an array of this size. -/
def readLocalIp (size : Nat) (url ip : List UInt8) : Except Fault (List UInt8) :=
  match sscanf url "rtsp://%[^:]:" with
  | .string s :: _ => store .localIp size s
  | _ => .ok ip

def handleOptions (w : World) (t : Thread) (r : Request) : Except Fault Outcome := do
  let t ← t.findFile r.url
  if w.opens t.pathTmp then
    pure (.replied { t with findflag := 1 } (handleCmdOptions r.cseq) none)
  else pure (.closed (some (handleCmd404 r.cseq)))

def handleDescribe (w : World) (t : Thread) (r : Request) : Except Fault Outcome := do
  let t' ← t.describeFile r.url
  if t.findflag = 0 ∧ ! w.opens t'.pathTmp then pure (.closed (some (handleCmd404 r.cseq)))
  else
    let localIp ← readLocalIp 100 r.url w.localIp
    match w.generateSDP t'.pathTmp localIp with
    | none => pure (.closed (some (handleCmd500 r.cseq)))
    | some sdp =>
      pure (.replied { t' with findflag := 1 } (handleCmdDescribe r.cseq r.url sdp) none)

def handleSetup (conn : Conn) (w : World) (t : Thread) (track0 : Bool) (r : Request) :
    Except Fault Outcome := do
  if t.tureOfRtpTcp = 0 then
    let localIp ← readLocalIp 40 r.url t.localIp
    let sockets := createRtpSockets w.sockets
    let t := { t with localIp := localIp }.bindSockets track0 sockets
    pure (.replied t
      (handleCmdSetupUdp r.cseq (if track0 then t.clientRtpPort else t.clientRtpPort1)
        (if track0 then t.serverRtpPort else t.serverRtpPort1) conn.sessionId) (some sockets))
  else if t.tureOfRtpTcp = 1 then
    let localIp ← readLocalIp 40 r.url t.localIp
    let t := { t with localIp := localIp }
    pure (.replied t
      (handleCmdSetupTcp r.cseq localIp conn.clientIp (if track0 then t.sig0 else t.sig2)
        conn.sessionId) none)
  else pure (.closed none)

def handlePlay (conn : Conn) (w : World) (t : Thread) (r : Request) : Except Fault Outcome := do
  let path ← store .path 100 (t.path ++ t.filename)
  let a : AddArgs :=
    { pathFilename := path
      clientSockFd := conn.clientSockFd
      sig0 := t.sig0
      sig2 := t.sig2
      tureOfTcp := t.tureOfRtpTcp
      clientIp := conn.clientIp
      clientRtpPort := t.clientRtpPort
      clientRtpPort1 := t.clientRtpPort1
      serverUdpSocketRtp := t.serverUdpSocketRtpFd
      serverUdpSocketRtcp := t.serverUdpSocketRtcpFd
      serverUdpSocketRtp1 := t.serverUdpSocketRtp1Fd
      serverUdpSocketRtcp1 := t.serverUdpSocketRtcp1Fd }
  pure (.played (handleCmdPlay r.cseq conn.sessionId) a (w.addClient a))

/-- The branches on the method. -/
def respond (conn : Conn) (w : World) (t : Thread) (r : Request) : Except Fault Outcome :=
  if r.method = str "SETUP" then do
    let (t, track0) ← setupTransport t r
    handleSetup conn w t track0 r
  else if r.method = str "OPTIONS" then handleOptions w t r
  else if r.method = str "DESCRIBE" then handleDescribe w t r
  else if r.method = str "PLAY" then handlePlay conn w t r
  else .ok (.closed none)

def serve (conn : Conn) (w : World) (t : Thread) (r : Request) : Except Fault Outcome := do
  match ← authorize conn.auth conn.md5 conn.nonce r.recvBuf r.method with
  | .missing => pure (.unauthorized (handleCmdUnauthorized r.cseq realm conn.nonce))
  | .rejected => pure (.closed none)
  | .passed => respond conn w t r

/-- One turn of the loop of `doClientThd`. -/
def handleRequest (conn : Conn) (w : World) (t : Thread) (msg : List UInt8) :
    Except Fault Outcome := do
  match ← parseRequest msg with
  | none => pure (.closed none)
  | some r => serve conn w t r

/-! ## A whole connection -/

/-- The variables for the next request, if the loop goes on. -/
def Outcome.next (t : Thread) : Outcome → Option Thread
  | .closed _ => none
  | .unauthorized _ => some t
  | .replied t _ _ => some t
  | .played _ _ _ => none

/-- `doClientThd` on the messages that arrive, each with the answers of the world: what it did with
every message that it handled. -/
def doClientThd (conn : Conn) : Thread → List (World × List UInt8) →
    Except Fault (List (List UInt8 × Outcome))
  | _, [] => .ok []
  | t, (w, msg) :: rest => do
    let outcome ← handleRequest conn w t msg
    match outcome.next t with
    | none => pure [(msg, outcome)]
    | some t => (doClientThd conn t rest).map ((msg, outcome) :: ·)

/-! ## Values for concrete runs -/

/-- A connection without authorization. -/
def openConn : Conn where
  auth := 0
  md5 := id
  nonce := []
  sessionId := str "17000042"
  clientSockFd := 7
  clientIp := str "10.0.0.2"

/-- Every file exists, every port is free, and `addClient` succeeds. -/
def easyWorld : World where
  opens _ := true
  describes _ _ _ := some []
  time := 0
  localIp := []
  sockets := ⟨8, 9, fun _ => true, fun _ => true⟩
  addClient _ := 1

end SimpleRtsp

import SimpleRtsp.Rtp.Audio
import SimpleRtsp.Session.Queue

/-!
# One client of a session

`Clientinfo` is `clientinfo_st`; pointers to client structures are indices into the session's
array and `session` is an address. The functions are those that work on one client: `initClient`,
`clearClient`, the block with which `addClient` and `addSession` set up a slot (`setClient`), the
enqueue `sendData`, and the two halves of an `epollLoop` turn, `dequeue` under the locks and
`transmit` without them. Whatever the program reads that it did not write is an argument: memory
from `malloc`, the results of the sockets, uninitialised locals.
-/

namespace SimpleRtsp

/-! ## The media -/

/-- `enum VIDEO_e`. -/
inductive VideoE where
  | h264
  | h265
  | none
  deriving DecidableEq, Repr

/-- `enum AUDIO_e`. -/
inductive AudioE where
  | aac
  | pcma
  | none
  deriving DecidableEq, Repr

/-- The fields of `mediainfo_st` a callback reads; `frame` is the NAL unit behind its start code. -/
structure Mediainfo where
  videoStreamIndex : Int
  audioStreamIndex : Int
  nowStreamIndex : Int
  frame : List UInt8
  bufferAudio : List UInt8

namespace Mediainfo

def nowStreamIsVideo (m : Mediainfo) : Bool := m.nowStreamIndex == m.videoStreamIndex

def nowStreamIsAudio (m : Mediainfo) : Bool := m.nowStreamIndex == m.audioStreamIndex

/-- Empty when the function returns -1 and leaves `ptr_len` at 0. -/
def getVideoNALUWithoutStartCode (m : Mediainfo) : List UInt8 :=
  if m.nowStreamIndex = m.audioStreamIndex then [] else m.frame

def getAudioWithoutADTS (m : Mediainfo) : List UInt8 :=
  if m.nowStreamIndex = m.videoStreamIndex then [] else m.bufferAudio

end Mediainfo

/-- What the media thread hands to its callback: a packet of one of the two streams it looks for,
which are different streams of the file, and no larger than a cell of a queue. -/
structure Delivery extends Mediainfo where
  found : toMediainfo.nowStreamIsVideo ∨ toMediainfo.nowStreamIsAudio
  apart : videoStreamIndex ≠ audioStreamIndex
  frame_fits : frame.length ≤ 2 * 1024 * 1024
  audio_fits : bufferAudio.length ≤ 2 * 1024 * 1024

def Delivery.type (m : Delivery) : MediaE :=
  if m.nowStreamIsVideo then .video else .audio

/-- The frame a delivery is about. -/
def Delivery.mediaFrame (m : Delivery) : MediaFrame :=
  match m.type with
  | .video => ⟨.video, m.frame⟩
  | .audio => ⟨.audio, m.bufferAudio⟩

/-! ## The structure -/

/-- `enum TRANSPORT_e`; the field is -1 in a free slot. -/
inductive TransportE where
  | rtpOverTcp
  | rtpOverUdp
  deriving DecidableEq, Repr

def RING_BUFFER_MAX : Nat := 32
def EPOLLOUT : BitVec 32 := 4

/-- `struct clientinfo_st`. `send_call_back` is NULL or `sendData`; the field stands for the two
that are always set together, `send_call_back` and its argument `arg`. -/
structure Clientinfo where
  sd : Int
  udpSdRtp : Int
  udpSdRtcp : Int
  udpSdRtp1 : Int
  udpSdRtcp1 : Int
  clientIp : List UInt8
  clientRtpPort : Int
  clientRtpPort1 : Int
  transport : Option TransportE
  sig0 : Int
  sig2 : Int
  playflag : Int
  sendCallBack : Option Nat
  events : BitVec 32
  session : Option Nat
  rtpPacket : Option RtpPacket
  rtpPacket1 : Option RtpPacket
  tcpHeader : Option RtpTcpHeader
  video : MediaQueue
  audio : MediaQueue

/-- `packet_list` and its counters, or those with `_1`. -/
def Clientinfo.queue (c : Clientinfo) : MediaE → MediaQueue
  | .video => c.video
  | .audio => c.audio

def Clientinfo.setQueue (c : Clientinfo) (type : MediaE) (queue : MediaQueue) : Clientinfo :=
  match type with
  | .video => { c with video := queue }
  | .audio => { c with audio := queue }

def initClient : Clientinfo where
  sd := -1
  udpSdRtp := -1
  udpSdRtcp := -1
  udpSdRtp1 := -1
  udpSdRtcp1 := -1
  clientIp := []
  clientRtpPort := -1
  clientRtpPort1 := -1
  transport := none
  sig0 := -1
  sig2 := -1
  playflag := -1
  sendCallBack := none
  events := -1
  session := none
  rtpPacket := none
  rtpPacket1 := none
  tcpHeader := none
  video := .null
  audio := .null

/-- `if (fd > 0) { close(fd); fd = -1; }`. -/
def closeFd (fd : Int) : Int := if fd > 0 then -1 else fd

/-- Everything but `session` goes back to what `initClient` set, descriptors only if positive. -/
def clearClient (c : Clientinfo) : Clientinfo :=
  { initClient with
    sd := closeFd c.sd
    udpSdRtp := closeFd c.udpSdRtp
    udpSdRtcp := closeFd c.udpSdRtcp
    udpSdRtp1 := closeFd c.udpSdRtp1
    udpSdRtcp1 := closeFd c.udpSdRtcp1
    session := c.session }

/-! ## Setting up a slot -/

/-- The arguments of `addClient`. -/
structure AddArgs where
  pathFilename : List UInt8
  clientSockFd : Int
  sig0 : Int
  sig2 : Int
  tureOfTcp : Int
  clientIp : List UInt8
  clientRtpPort : Int
  clientRtpPort1 : Int
  serverUdpSocketRtp : Int
  serverUdpSocketRtcp : Int
  serverUdpSocketRtp1 : Int
  serverUdpSocketRtcp1 : Int

/-- What the memory behind the five `malloc`s happens to hold. -/
structure Fresh where
  rtpPacket : RtpPacket
  rtpPacket1 : RtpPacket
  tcpHeader : RtpTcpHeader
  packetList : Nat → MediaPacket
  packetList1 : Nat → MediaPacket

def setTransport (a : AddArgs) (c : Clientinfo) : Clientinfo :=
  if a.tureOfTcp = 1 then
    { c with transport := some .rtpOverTcp, sig0 := a.sig0, sig2 := a.sig2 }
  else
    { c with
      transport := some .rtpOverUdp
      clientIp := a.clientIp
      udpSdRtp := a.serverUdpSocketRtp
      udpSdRtcp := a.serverUdpSocketRtcp
      udpSdRtp1 := a.serverUdpSocketRtp1
      udpSdRtcp1 := a.serverUdpSocketRtcp1
      clientRtpPort := a.clientRtpPort
      clientRtpPort1 := a.clientRtpPort1 }

def audioPayloadType (type : AudioE) : UInt8 :=
  if type = .aac then RTP_PAYLOAD_TYPE_AAC else RTP_PAYLOAD_TYPE_PCMA

/-- The buffers of a client. -/
def setBuffers (audioType : AudioE) (mem : Fresh) (c : Clientinfo) : Clientinfo :=
  { c with
    rtpPacket := some (rtpHeaderInit mem.rtpPacket 0 0 0 RTP_VESION RTP_PAYLOAD_TYPE_H26X 0 0 0
      0x88923423)
    rtpPacket1 := some (rtpHeaderInit mem.rtpPacket1 0 0 0 RTP_VESION (audioPayloadType audioType)
      0 0 0 0x88923423)
    tcpHeader := some mem.tcpHeader
    video := { c.video with
      packetList := some mem.packetList, packetListSize := RING_BUFFER_MAX / 4 }
    audio := { c.audio with
      packetList := some mem.packetList1, packetListSize := RING_BUFFER_MAX / 4 } }

/-- What `eventAdd` does to the client structure in `slot`. -/
def eventAdd (slot : Nat) (c : Clientinfo) : Clientinfo :=
  if c.sd < 0 then c
  else
    { c with
      sendCallBack := some slot
      events :=
        if c.transport = some .rtpOverTcp ∨ c.udpSdRtp ≠ -1 ∨ c.udpSdRtp1 ≠ -1 then EPOLLOUT
        else c.events }

/-- The block with which `addClient` and `addSession` fill `slot`. -/
def setClient (a : AddArgs) (audioType : AudioE) (mem : Fresh) (slot : Nat) (c : Clientinfo) :
    Clientinfo :=
  let c := setTransport a { c with sd := a.clientSockFd }
  let c := eventAdd slot (setBuffers audioType mem c)
  { c with playflag := 1 }

/-! ## The enqueue -/

def increaseClientList (type : MediaE) (fresh : Nat → MediaPacket) (c : Clientinfo) : Clientinfo :=
  c.setQueue type ((c.queue type).increase fresh)

/-- A NAL unit goes to the video queue of a client that asked for video. -/
def putVideo (m : Mediainfo) (c : Clientinfo) : Clientinfo :=
  if m.nowStreamIsVideo ∧ (c.sig0 ≠ -1 ∨ c.clientRtpPort ≠ -1) then
    c.setQueue .video (c.video.put ⟨.video, m.getVideoNALUWithoutStartCode⟩)
  else c

/-- An audio frame goes to the audio queue over UDP, to the video queue over TCP. -/
def putAudio (m : Mediainfo) (c : Clientinfo) : Clientinfo :=
  if m.nowStreamIsAudio ∧ (c.sig2 ≠ -1 ∨ c.clientRtpPort1 ≠ -1) then
    if c.clientRtpPort1 ≠ -1 then
      c.setQueue .audio (c.audio.put ⟨.audio, m.getAudioWithoutADTS⟩)
    else if c.sig2 ≠ -1 then
      c.setQueue .video (c.video.put ⟨.audio, m.getAudioWithoutADTS⟩)
    else c
  else c

def sendData (m : Mediainfo) (fresh : MediaE → Nat → MediaPacket) (c : Clientinfo) : Clientinfo :=
  let c := increaseClientList .video (fresh .video) c
  let c := increaseClientList .audio (fresh .audio) c
  putAudio m (putVideo m c)

/-! ## A turn of `epollLoop` -/

/-- The queue an event on `fd` is served from. -/
def Clientinfo.queueOf (c : Clientinfo) (fd : Int) : Option MediaE :=
  if fd = c.sd ∧ (c.sig0 ≠ -1 ∨ c.sig2 ≠ -1) then some .video
  else if fd = c.udpSdRtp then some .video
  else if fd = c.udpSdRtp1 then some .audio
  else none

/-- The part under the locks: the node to send for an event on `fd`, if there is one. `node` is the
uninitialised local. -/
def dequeue (c : Clientinfo) (fd : Int) (node : MediaPacket) :
    Option (MediaPacket × Clientinfo) := do
  let type ← c.queueOf fd
  let (node, queue) ← (c.queue type).take node
  return (node, c.setQueue type queue)

/-- What sending a node depends on besides the client. -/
structure SendEnv where
  tv : Timeval
  videoType : VideoE
  audioType : AudioE
  sampleRate : UInt32
  /-- what the uninitialised `ret`s hold -/
  ret₀ : Int
  /-- the `recv` on the RTSP socket after a UDP send returns 0 -/
  hungUp : Bool

/-- The packetiser for a node, if there is one. -/
def packetiser (env : SendEnv) (node : MediaPacket) : Option (SendArgs → SendM Int) :=
  match node.type with
  | .video =>
    match env.videoType with
    | .h264 => some fun a => rtpSendH264Frame env.tv a node.data node.size
    | .h265 => some fun a => rtpSendH265Frame env.tv a node.data node.size
    | .none => none
  | .audio =>
    match env.audioType with
    | .aac => some fun a => rtpSendAACFrame env.tv a node.data node.size env.sampleRate env.ret₀
    | .pcma => some fun a => rtpSendPCMAFrame env.tv a node.data node.size env.sampleRate env.ret₀
    | .none => none

/-- The descriptor, channel and address a node goes to: over TCP if the event was on `sd`. -/
def sendArgs (c : Clientinfo) (tcp : Bool) (type : MediaE) : SendArgs :=
  match tcp, type with
  | true, .video => ⟨c.sd, c.sig0, none, -1⟩
  | true, .audio => ⟨c.sd, c.sig2, none, -1⟩
  | false, .video => ⟨c.udpSdRtp, -1, some c.clientIp, c.clientRtpPort⟩
  | false, .audio => ⟨c.udpSdRtp1, -1, some c.clientIp, c.clientRtpPort1⟩

def Clientinfo.packet (c : Clientinfo) : MediaE → Option RtpPacket
  | .video => c.rtpPacket
  | .audio => c.rtpPacket1

/-- The client after a packetiser has worked on its buffers. -/
def Clientinfo.putBack (c : Clientinfo) (tcp : Bool) (type : MediaE) (t : Tx) : Clientinfo :=
  let c := if tcp then { c with tcpHeader := t.tcpHeader } else c
  match type with
  | .video => { c with rtpPacket := some t.rtpPacket }
  | .audio => { c with rtpPacket1 := some t.rtpPacket }

/-- The call of a packetiser; without packet buffer the program would crash. -/
def sendNode (env : SendEnv) (c : Clientinfo) (tcp : Bool) (node : MediaPacket) (w : Wire) :
    Option (Int × Clientinfo × Wire) :=
  match packetiser env node with
  | none => some (env.ret₀, c, w)
  | some send =>
    (c.packet node.type).map fun packet =>
      let (ret, t) := send (sendArgs c tcp node.type)
        ⟨if tcp then c.tcpHeader else none, packet, w⟩
      (ret.getD (-1), c.putBack tcp node.type t, t.wire)

/-- The part without locks: send the node, and over UDP look whether the RTSP socket is closed. The
client goes offline if the result is not positive. -/
def transmit (env : SendEnv) (c : Clientinfo) (fd : Int) (node : MediaPacket) (w : Wire) :
    Option (Int × Clientinfo × Wire) :=
  let tcp := fd == c.sd
  (sendNode env c tcp node w).map fun (ret, c, w) => (if !tcp && env.hungUp then -1 else ret, c, w)

/-- What an event did to a client, before it is cleared if it goes offline: the stream it was sent
something of, with the socket calls. -/
structure Turn where
  client : Clientinfo
  sent : Option (MediaE × List SendCall)
  offline : Bool

/-- A turn of `epollLoop`: an event on `fd`. `node` is the uninitialised local and `result`
answers the socket calls. -/
def turn (c : Clientinfo) (fd : Int) (node : MediaPacket) (env : SendEnv)
    (result : Nat → Nat → Int) : Option Turn :=
  if c.events &&& EPOLLOUT = 0 then some ⟨c, none, false⟩
  else
    match dequeue c fd node with
    | none => some ⟨c, none, false⟩
    | some (node, c) =>
      if node.size = 0 then some ⟨c, none, false⟩
      else
        (transmit env c fd node ⟨result, []⟩).map fun (ret, c, w) =>
          ⟨c, some (node.type, w.calls), ret ≤ 0⟩

/-! ## What the functions change -/

@[simp] theorem setTransport_sd (a : AddArgs) (c : Clientinfo) : (setTransport a c).sd = c.sd := by
  rw [setTransport]
  split_ifs <;> rfl

@[simp] theorem setTransport_queue (a : AddArgs) (c : Clientinfo) (type : MediaE) :
    (setTransport a c).queue type = c.queue type := by
  rw [setTransport]
  split_ifs <;> cases type <;> rfl

@[simp] theorem eventAdd_sd (slot : Nat) (c : Clientinfo) : (eventAdd slot c).sd = c.sd := by
  rw [eventAdd]
  split_ifs <;> rfl

@[simp] theorem eventAdd_queue (slot : Nat) (c : Clientinfo) (type : MediaE) :
    (eventAdd slot c).queue type = c.queue type := by
  rw [eventAdd]
  split_ifs <;> cases type <;> rfl

@[simp] theorem eventAdd_packet (slot : Nat) (c : Clientinfo) (type : MediaE) :
    (eventAdd slot c).packet type = c.packet type := by
  rw [eventAdd]
  split_ifs <;> cases type <;> rfl

theorem eventAdd_sendCallBack (slot : Nat) (c : Clientinfo) (hsd : 0 ≤ c.sd) :
    (eventAdd slot c).sendCallBack = some slot := by
  rw [eventAdd, if_neg (by omega)]

/-- `c'` is `c` with other queues. -/
def Clientinfo.Requeued (c c' : Clientinfo) : Prop :=
  ∃ video audio, c' = { c with video := video, audio := audio }

namespace Clientinfo.Requeued

theorem refl (c : Clientinfo) : c.Requeued c := ⟨_, _, rfl⟩

theorem trans {c c' c'' : Clientinfo} (h : c.Requeued c') (h' : c'.Requeued c'') :
    c.Requeued c'' := by
  obtain ⟨video, audio, rfl⟩ := h
  obtain ⟨video', audio', rfl⟩ := h'
  exact ⟨_, _, rfl⟩

theorem setQueue (c : Clientinfo) (type : MediaE) (queue : MediaQueue) :
    c.Requeued (c.setQueue type queue) := by
  cases type <;> exact ⟨_, _, rfl⟩

theorem putVideo (m : Mediainfo) (c : Clientinfo) : c.Requeued (putVideo m c) := by
  rw [SimpleRtsp.putVideo]
  split_ifs
  · exact setQueue _ _ _
  · exact refl c

theorem putAudio (m : Mediainfo) (c : Clientinfo) : c.Requeued (putAudio m c) := by
  rw [SimpleRtsp.putAudio]
  split_ifs
  · exact setQueue _ _ _
  · exact setQueue _ _ _
  · exact refl c
  · exact refl c

theorem sendData (m : Mediainfo) (fresh : MediaE → Nat → MediaPacket) (c : Clientinfo) :
    c.Requeued (sendData m fresh c) :=
  (setQueue _ _ _).trans ((setQueue _ _ _).trans ((putVideo m _).trans (putAudio m _)))

theorem dequeue {c c' : Clientinfo} {fd : Int} {node node' : MediaPacket}
    (h : dequeue c fd node = some (node', c')) : c.Requeued c' := by
  simp only [SimpleRtsp.dequeue, Option.bind_eq_bind, Option.bind_eq_some_iff] at h
  obtain ⟨type, -, ⟨node₁, queue⟩, -, h⟩ := h
  cases h
  exact setQueue _ _ _

end Clientinfo.Requeued

/-- `c'` is `c` with other packet buffers and interleaved header. -/
def Clientinfo.Rebuffered (c c' : Clientinfo) : Prop :=
  ∃ packet packet1 header,
    c' = { c with rtpPacket := packet, rtpPacket1 := packet1, tcpHeader := header }

theorem Clientinfo.Rebuffered.transmit {env : SendEnv} {c c' : Clientinfo} {fd ret : Int}
    {node : MediaPacket} {w w' : Wire} (h : transmit env c fd node w = some (ret, c', w')) :
    c.Rebuffered c' := by
  obtain ⟨⟨ret₁, c₁, w₁⟩, hsent, h⟩ := Option.map_eq_some_iff.mp h
  cases h
  rw [sendNode] at hsent
  split at hsent
  · cases hsent
    exact ⟨_, _, _, rfl⟩
  · obtain ⟨packet, -, hsent⟩ := Option.map_eq_some_iff.mp hsent
    cases hsent
    cases node.type <;> simp only [Clientinfo.putBack] <;> split_ifs <;> exact ⟨_, _, _, rfl⟩

end SimpleRtsp

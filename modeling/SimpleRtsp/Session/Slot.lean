import SimpleRtsp.Session.Client

/-!
# Idle and playing slots

Outside the locks a slot of a session is in one of two conditions: `Idle`, as `initClient` and
`clearClient` leave it, or `Playing`, as `setClient` leaves it. `sendData`, `dequeue` and `transmit`
keep a slot playing, and what the first two do to its queues is `sendData_queue` and
`dequeue_queue`.
-/

namespace SimpleRtsp

/-- The test of `mediaCallBack`. -/
def Clientinfo.callable (c : Clientinfo) : Bool :=
  c.sd != -1 && c.sendCallBack.isSome && c.playflag == 1

structure Clientinfo.Idle (c : Clientinfo) : Prop where
  playflag : c.playflag = -1
  sendCallBack : c.sendCallBack = none
  clientRtpPort : c.clientRtpPort = -1
  clientRtpPort1 : c.clientRtpPort1 = -1
  video : c.video = .null
  audio : c.audio = .null

structure Clientinfo.Playing (slot : Nat) (c : Clientinfo) : Prop where
  sd : 0 ≤ c.sd
  playflag : c.playflag = 1
  sendCallBack : c.sendCallBack = some slot
  valid : ∀ type, (c.queue type).Valid
  packet : ∀ type, (c.packet type).isSome

theorem Clientinfo.Playing.callable {slot : Nat} {c : Clientinfo} (h : c.Playing slot) :
    c.callable := by
  have hsd : c.sd ≠ -1 := by have := h.sd; omega
  simp [Clientinfo.callable, h.playflag, h.sendCallBack, hsd]

theorem Clientinfo.Idle.not_callable {c : Clientinfo} (h : c.Idle) : c.callable = false := by
  simp [Clientinfo.callable, h.sendCallBack]

theorem Clientinfo.Idle.dequeue {c : Clientinfo} (h : c.Idle) (fd : Int) (node : MediaPacket) :
    dequeue c fd node = none := by
  have hqueue : ∀ type, c.queue type = .null := by
    intro type
    cases type
    · exact h.video
    · exact h.audio
  rw [SimpleRtsp.dequeue]
  cases c.queueOf fd <;> simp [hqueue]

theorem Clientinfo.Idle.rebuffered {c c' : Clientinfo} (h : c.Idle) (hc : c.Rebuffered c') :
    c'.Idle := by
  obtain ⟨packet, packet1, header, rfl⟩ := hc
  exact ⟨h.playflag, h.sendCallBack, h.clientRtpPort, h.clientRtpPort1, h.video, h.audio⟩

theorem idle_initClient (session : Option Nat) :
    ({ initClient with session := session } : Clientinfo).Idle :=
  ⟨rfl, rfl, rfl, rfl, rfl, rfl⟩

theorem idle_clearClient (c : Clientinfo) : (clearClient c).Idle := ⟨rfl, rfl, rfl, rfl, rfl, rfl⟩

/-! ## Setting up a slot -/

theorem queue_setClient {c : Clientinfo} (hidle : c.Idle) (a : AddArgs) (audioType : AudioE)
    (mem : Fresh) (slot : Nat) (type : MediaE) :
    ∃ cells, (setClient a audioType mem slot c).queue type =
      .alloc cells (RING_BUFFER_MAX / 4) := by
  let c' : Clientinfo := setTransport a { c with sd := a.clientSockFd }
  have hvideo : c'.video = .null := (setTransport_queue a _ .video).trans hidle.video
  have haudio : c'.audio = .null := (setTransport_queue a _ .audio).trans hidle.audio
  have hkeep : (setClient a audioType mem slot c).queue type =
      (setBuffers audioType mem c').queue type := by
    rw [← eventAdd_queue slot (setBuffers audioType mem c')]
    cases type <;> rfl
  rw [hkeep]
  cases type with
  | video => exact ⟨mem.packetList, by simp only [setBuffers, Clientinfo.queue, hvideo]; rfl⟩
  | audio => exact ⟨mem.packetList1, by simp only [setBuffers, Clientinfo.queue, haudio]; rfl⟩

theorem playing_setClient {c : Clientinfo} (hidle : c.Idle) (a : AddArgs) (hsd : 0 ≤ a.clientSockFd)
    (audioType : AudioE) (mem : Fresh) (slot : Nat) :
    (setClient a audioType mem slot c).Playing slot := by
  let c' := setBuffers audioType mem (setTransport a { c with sd := a.clientSockFd })
  have hsd' : c'.sd = a.clientSockFd := setTransport_sd a { c with sd := a.clientSockFd }
  refine ⟨?_, rfl, eventAdd_sendCallBack slot c' (by omega), ?_, ?_⟩
  · change 0 ≤ (eventAdd slot c').sd
    rwa [eventAdd_sd, hsd']
  · intro type
    obtain ⟨cells, hqueue⟩ := queue_setClient hidle a audioType mem slot type
    rw [hqueue]
    exact MediaQueue.valid_alloc cells _ (by decide)
  · intro type
    have hkeep : (setClient a audioType mem slot c).packet type = c'.packet type := by
      rw [← eventAdd_packet slot c']
      cases type <;> rfl
    rw [hkeep]
    cases type <;> rfl

/-! ## The queues of a playing slot -/

/-- The queue a client's frames of the given type go to; `none` if it did not ask for them. -/
def Clientinfo.route (c : Clientinfo) : MediaE → Option MediaE
  | .video => if c.sig0 ≠ -1 ∨ c.clientRtpPort ≠ -1 then some .video else none
  | .audio =>
    if c.clientRtpPort1 ≠ -1 then some .audio else if c.sig2 ≠ -1 then some .video else none

/-- The frame a client gets in one of its queues when `m` is delivered to it. -/
def Clientinfo.share (c : Clientinfo) (m : Delivery) (type : MediaE) : List MediaFrame :=
  if c.route m.type = some type then [m.mediaFrame] else []

theorem Clientinfo.queue_setQueue (c : Clientinfo) (type type' : MediaE) (queue : MediaQueue) :
    (c.setQueue type queue).queue type' = if type' = type then queue else c.queue type' := by
  cases type <;> cases type' <;> rfl

theorem Delivery.cases (m : Delivery) :
    (m.nowStreamIsVideo = true ∧ m.nowStreamIsAudio = false ∧
      m.mediaFrame = ⟨m.type, m.getVideoNALUWithoutStartCode⟩ ∧ m.type = .video) ∨
    (m.nowStreamIsVideo = false ∧ m.nowStreamIsAudio = true ∧
      m.mediaFrame = ⟨m.type, m.getAudioWithoutADTS⟩ ∧ m.type = .audio) := by
  have happart := m.apart
  by_cases hvideo : m.nowStreamIsVideo = true
  · have hnow : m.nowStreamIndex = m.videoStreamIndex := by
      simpa [Mediainfo.nowStreamIsVideo] using hvideo
    have htype : m.type = .video := if_pos hvideo
    refine Or.inl ⟨hvideo, ?_, ?_, htype⟩
    · simp [Mediainfo.nowStreamIsAudio, hnow, happart]
    · simp [Delivery.mediaFrame, htype, Mediainfo.getVideoNALUWithoutStartCode, hnow, happart]
  · have haudio := m.found.resolve_left hvideo
    have hnow : m.nowStreamIndex = m.audioStreamIndex := by
      simpa [Mediainfo.nowStreamIsAudio] using haudio
    have htype : m.type = .audio := if_neg hvideo
    refine Or.inr ⟨by simpa using hvideo, haudio, ?_, htype⟩
    simp [Delivery.mediaFrame, htype, Mediainfo.getAudioWithoutADTS, hnow, happart.symm]

theorem putAudio_putVideo (m : Delivery) (c : Clientinfo) :
    putAudio m.toMediainfo (putVideo m.toMediainfo c) =
      match c.route m.type with
      | none => c
      | some type => c.setQueue type ((c.queue type).put m.mediaFrame) := by
  obtain ⟨hvideo, haudio, hframe, htype⟩ | ⟨hvideo, haudio, hframe, htype⟩ := m.cases
  · rw [putAudio, if_neg (by simp [haudio]), putVideo, hframe, htype, Clientinfo.route]
    by_cases hasked : c.sig0 ≠ -1 ∨ c.clientRtpPort ≠ -1
    · rw [if_pos ⟨hvideo, hasked⟩, if_pos hasked]
      rfl
    · rw [if_neg fun h => hasked h.2, if_neg hasked]
  · rw [putVideo, if_neg (by simp [hvideo]), putAudio, hframe, htype, Clientinfo.route]
    by_cases hport : c.clientRtpPort1 ≠ -1
    · rw [if_pos ⟨haudio, Or.inr hport⟩, if_pos hport, if_pos hport]
      rfl
    · by_cases hsig : c.sig2 ≠ -1
      · rw [if_pos ⟨haudio, Or.inl hsig⟩, if_neg hport, if_pos hsig, if_neg hport, if_pos hsig]
        rfl
      · rw [if_neg fun h => h.2.elim hsig hport, if_neg hport, if_neg hsig]

/-- **The enqueue.** A client gets its share of a delivery at the end of its queues. -/
theorem sendData_queue (m : Delivery) (fresh : MediaE → Nat → MediaPacket) {c : Clientinfo}
    (hvalid : ∀ type, (c.queue type).Valid) (type : MediaE) :
    ((sendData m.toMediainfo fresh c).queue type).Valid ∧
      ((sendData m.toMediainfo fresh c).queue type).waiting =
        (c.queue type).waiting ++ c.share m type := by
  let c' := increaseClientList .audio (fresh .audio) (increaseClientList .video (fresh .video) c)
  have hqueue : ∀ type, c'.queue type = (c.queue type).increase (fresh type) := by
    intro type
    cases type <;> rfl
  have hroute : ∀ type, c'.route type = c.route type := by
    intro type
    cases type <;> rfl
  obtain ⟨hgrown, hsame, hroom⟩ := (hvalid type).increase (fresh type)
  rw [← hqueue] at hgrown hsame hroom
  change ((putAudio m.toMediainfo (putVideo m.toMediainfo c')).queue type).Valid ∧
    ((putAudio m.toMediainfo (putVideo m.toMediainfo c')).queue type).waiting = _
  rw [putAudio_putVideo, hroute, Clientinfo.share, ← hsame]
  split
  · rename_i hnone
    simp [hnone, hgrown]
  · rename_i type' hsome
    rw [hsome, Clientinfo.queue_setQueue]
    by_cases htype : type = type'
    · subst htype
      rw [if_pos rfl, if_pos rfl]
      exact hgrown.put hroom m.mediaFrame
    · rw [if_neg htype, if_neg (by simpa using Ne.symm htype), List.append_nil]
      exact ⟨hgrown, rfl⟩

/-- **The dequeue.** An event takes the first frame of the queue it is served from, if there is one,
and leaves the other queue alone. -/
theorem dequeue_queue {c : Clientinfo} (hvalid : ∀ type, (c.queue type).Valid) (fd : Int)
    (node : MediaPacket) :
    match dequeue c fd node with
    | some (node', c') => (∀ type, (c'.queue type).Valid) ∧
        ∀ type, (c.queue type).waiting =
          (if c.queueOf fd = some type then [node'.frame] else []) ++ (c'.queue type).waiting
    | none => ∀ type, c.queueOf fd = some type → (c.queue type).waiting = [] := by
  rw [dequeue]
  cases hof : c.queueOf fd with
  | none => simp
  | some type =>
    have htake := (hvalid type).take node
    cases hres : (c.queue type).take node with
    | none =>
      rw [hres] at htake
      simpa [hres] using htake
    | some r =>
      rw [hres] at htake
      obtain ⟨hvalid', hwaiting⟩ := htake
      simp only [hres, Option.bind_eq_bind, Option.bind_some, pure, Clientinfo.queue_setQueue]
      constructor
      · intro type'
        split_ifs
        · exact hvalid'
        · exact hvalid type'
      · intro type'
        by_cases htype : type' = type
        · subst htype
          simpa using hwaiting
        · rw [if_neg htype, if_neg (by simpa using Ne.symm htype), List.nil_append]

/-! ## A playing slot goes on playing -/

theorem transmit_packet {env : SendEnv} {c c' : Clientinfo} {fd ret : Int} {node : MediaPacket}
    {w w' : Wire} (h : transmit env c fd node w = some (ret, c', w')) (type : MediaE)
    (hpacket : (c.packet type).isSome) : (c'.packet type).isSome := by
  obtain ⟨⟨ret₁, c₁, w₁⟩, hsent, h⟩ := Option.map_eq_some_iff.mp h
  cases h
  rw [sendNode] at hsent
  split at hsent
  · cases hsent
    exact hpacket
  · obtain ⟨packet, -, hsent⟩ := Option.map_eq_some_iff.mp hsent
    cases hsent
    cases node.type <;> cases type <;> simp only [Clientinfo.putBack, Clientinfo.packet] <;>
      split_ifs <;> first | rfl | exact hpacket

theorem transmit_isSome (env : SendEnv) {c : Clientinfo} (fd : Int) (node : MediaPacket) (w : Wire)
    (hpacket : ∀ type, (c.packet type).isSome) : (transmit env c fd node w).isSome := by
  rw [transmit, Option.isSome_map, sendNode]
  split
  · rfl
  · rw [Option.isSome_map]
    exact hpacket node.type

namespace Clientinfo.Playing

variable {slot : Nat} {c c' : Clientinfo}

theorem requeued (h : c.Playing slot) (hc : c.Requeued c')
    (hvalid : ∀ type, (c'.queue type).Valid) : c'.Playing slot := by
  obtain ⟨video, audio, rfl⟩ := hc
  refine ⟨h.sd, h.playflag, h.sendCallBack, hvalid, fun type => ?_⟩
  cases type
  · exact h.packet .video
  · exact h.packet .audio

theorem sendData (h : c.Playing slot) (m : Delivery) (fresh : MediaE → Nat → MediaPacket) :
    (sendData m.toMediainfo fresh c).Playing slot :=
  h.requeued (Requeued.sendData _ _ _) fun type => (sendData_queue m fresh h.valid type).1

theorem dequeue (h : c.Playing slot) {fd : Int} {node node' : MediaPacket}
    (hc : dequeue c fd node = some (node', c')) : c'.Playing slot := by
  have hqueue := dequeue_queue h.valid fd node
  rw [hc] at hqueue
  exact h.requeued (Requeued.dequeue hc) hqueue.1

theorem transmit (h : c.Playing slot) {env : SendEnv} {fd ret : Int} {node : MediaPacket}
    {w w' : Wire} (hc : transmit env c fd node w = some (ret, c', w')) : c'.Playing slot := by
  have hpacket : ∀ type, (c'.packet type).isSome := fun type =>
    transmit_packet hc type (h.packet type)
  obtain ⟨packet, packet1, header, rfl⟩ := Rebuffered.transmit hc
  refine ⟨h.sd, h.playflag, h.sendCallBack, fun type => ?_, hpacket⟩
  cases type
  · exact h.valid .video
  · exact h.valid .audio

theorem turn (h : c.Playing slot) {fd : Int} {node : MediaPacket} {env : SendEnv}
    {result : Nat → Nat → Int} {t : Turn} (ht : turn c fd node env result = some t) :
    t.client.Playing slot := by
  rw [SimpleRtsp.turn] at ht
  split_ifs at ht with hmask
  · cases ht
    exact h
  · split at ht
    · cases ht
      exact h
    · rename_i hdequeue
      split_ifs at ht with hsize
      · cases ht
        exact h.dequeue hdequeue
      · obtain ⟨⟨ret, c', w⟩, htransmit, rfl⟩ := Option.map_eq_some_iff.mp ht
        exact (h.dequeue hdequeue).transmit htransmit

end Clientinfo.Playing

/-- An event on an idle slot, left over from an earlier client, does nothing. -/
theorem Clientinfo.Idle.turn {c : Clientinfo} (h : c.Idle) (fd : Int) (node : MediaPacket)
    (env : SendEnv) (result : Nat → Nat → Int) :
    turn c fd node env result = some ⟨c, none, false⟩ := by
  rw [SimpleRtsp.turn, h.dequeue]
  split_ifs <;> rfl

/-! ## Values for concrete runs -/

/-- A player that asks for both streams of `/a` over TCP, through the socket `sd`. -/
def tcpPlayer (sd : Int) : AddArgs where
  pathFilename := [0x2F, 0x61]
  clientSockFd := sd
  sig0 := 0
  sig2 := 2
  tureOfTcp := 1
  clientIp := []
  clientRtpPort := -1
  clientRtpPort1 := -1
  serverUdpSocketRtp := -1
  serverUdpSocketRtcp := -1
  serverUdpSocketRtp1 := -1
  serverUdpSocketRtcp1 := -1

/-- A player that asks for both streams of `/a` over UDP. -/
def udpPlayer : AddArgs where
  pathFilename := [0x2F, 0x61]
  clientSockFd := 3
  sig0 := -1
  sig2 := -1
  tureOfTcp := 0
  clientIp := [0x3A, 0x3A, 0x31]
  clientRtpPort := 5000
  clientRtpPort1 := 5002
  serverUdpSocketRtp := 4
  serverUdpSocketRtcp := 5
  serverUdpSocketRtp1 := 6
  serverUdpSocketRtcp1 := 7

def zeroPacket : MediaPacket := ⟨fun _ => 0, 0, .video⟩

def zeroFresh : Fresh where
  rtpPacket := ⟨⟨0, 0, 0, 0, 0, 0, 0, 0, 0⟩, fun _ => 0⟩
  rtpPacket1 := ⟨⟨0, 0, 0, 0, 0, 0, 0, 0, 0⟩, fun _ => 0⟩
  tcpHeader := ⟨0, 0, 0⟩
  packetList _ := zeroPacket
  packetList1 _ := zeroPacket

/-- H.264 and AAC, sent at time 0. -/
def zeroEnv : SendEnv := ⟨⟨0, 0⟩, .h264, .aac, 44100, 0, false⟩

def nalDelivery (b : UInt8) : Delivery where
  videoStreamIndex := 0
  audioStreamIndex := 1
  nowStreamIndex := 0
  frame := [b]
  bufferAudio := []
  found := Or.inl rfl
  apart := by decide
  frame_fits := by simp
  audio_fits := by simp

/-- An audio frame of one byte. -/
def audioDelivery : Delivery where
  videoStreamIndex := 0
  audioStreamIndex := 1
  nowStreamIndex := 1
  frame := []
  bufferAudio := [0xD5]
  found := Or.inr rfl
  apart := by decide
  frame_fits := by simp
  audio_fits := by simp

end SimpleRtsp

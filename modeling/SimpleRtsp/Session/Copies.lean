import SimpleRtsp.Media.AnnexB
import SimpleRtsp.Rtp.Footprint
import SimpleRtsp.Session.Concurrent

/-!
# The copies from a file to a packet

A frame is copied from the demuxed packet into a cell of a client's queue, from there into the local
`node` of `epollLoop` and from there into the RTP packet. No size is looked at on the way: the
cells and `node` have `MEDIA_DATA_SIZE` bytes, the packets `VIDEO_DATA_MAX_SIZE`. `Copy` is a block
that is written, `sendDataCopies` and `dequeueCopies` are the blocks of the two functions, and
`Flow` are the steps of a server whose media threads demux packets of any size. All copies stay
inside their destinations in every run whose steps meet `Conc.Fits` (`staysInside_reachable`).
-/

namespace SimpleRtsp

/-! ## Destinations -/

def MEDIA_DATA_SIZE : Nat := 2 * 1024 * 1024

/-- The size of the memory behind `rtp_packet` and `rtp_packet_1`. -/
def VIDEO_DATA_MAX_SIZE : Nat := 4 * 1024 * 1024

/-- How much of it is payload. -/
def RTP_PAYLOAD_MAX : Nat := VIDEO_DATA_MAX_SIZE - RTP_HEADER_SIZE

/-- A block that is written to. -/
inductive Copy where
  /-- `memmove` of `n` elements to `packet_list + first` in a list of `cells` elements -/
  | move (first : Nat) (n : Int) (cells : Nat)
  /-- `memcpy` of `len` bytes to `packet_list[index].data` in a list of `cells` elements -/
  | enqueue (index cells : Nat) (len : Int)
  /-- `memcpy` of `len` bytes to `node.data` -/
  | dequeue (len : Int)
  deriving DecidableEq, Repr

def Copy.Inside : Copy → Prop
  | .move first n cells => 0 ≤ n ∧ first + n ≤ cells
  | .enqueue index cells len => index < cells ∧ 0 ≤ len ∧ len ≤ MEDIA_DATA_SIZE
  | .dequeue len => 0 ≤ len ∧ len ≤ MEDIA_DATA_SIZE

/-! ## What the media threads demux -/

/-- A callback of the parsing loop over a packet of the video stream. -/
structure VideoCall where
  before : MediainfoSt
  between : before.Between
  pkt : AVPacket
  turns : Nat
  media : MediainfoSt
  made : media ∈ ((before.receive pkt).parseLoop turns).1

/-- A callback for a packet of the audio stream. -/
structure AudioCall where
  videoStreamIndex : Int
  audioStreamIndex : Int
  apart : videoStreamIndex ≠ audioStreamIndex
  bytes : List UInt8

/-- A callback for a demuxed packet of any size. -/
inductive Demuxed where
  | video (call : VideoCall)
  | audio (call : AudioCall)

namespace Demuxed

/-- The frames a callback sees; of the stream it is not made for it looks at nothing. -/
def info : Demuxed → Mediainfo
  | .video call => call.media.view []
  | .audio call =>
    ⟨call.videoStreamIndex, call.audioStreamIndex, call.audioStreamIndex, [], call.bytes⟩

/-- `ptr_len` behind `getVideoNALUWithoutStartCode` and behind `getAudioWithoutADTS`: 0 if the
function returns -1. -/
def ptrLen : Demuxed → MediaE → Int
  | .video call, .video => (call.media.exposed.map Slice.len).getD 0
  | .video _, .audio => 0
  | .audio _, .video => 0
  | .audio call, .audio => call.bytes.length

end Demuxed

/-! ## The copies of `sendData` and `epollLoop` -/

/-- The `memmove` of `increaseClientList`. -/
def MediaQueue.growth (q : MediaQueue) : List Copy :=
  if q.packetNum ≥ q.packetListSize then
    [.move (q.posList + 4) ((q.packetListSize : Int) - q.posList) (q.packetListSize + 4)]
  else []

/-- The `memcpy` of an enqueue. -/
def MediaQueue.putCopy (q : MediaQueue) (len : Int) : Copy :=
  .enqueue q.posLastPacket q.packetListSize len

/-- The `memcpy` of a dequeue. -/
def MediaQueue.takeCopies (q : MediaQueue) : List Copy :=
  if q.packetNum > 0 ∧ q.posList < q.packetListSize then
    match q.packetList with
    | none => []
    | some cells => [.dequeue (cells q.posList).size]
  else []

def putVideoCopies (m : Mediainfo) (ptrLen : MediaE → Int) (c : Clientinfo) : List Copy :=
  if m.nowStreamIsVideo ∧ (c.sig0 ≠ -1 ∨ c.clientRtpPort ≠ -1) then
    [c.video.putCopy (ptrLen .video)]
  else []

def putAudioCopies (m : Mediainfo) (ptrLen : MediaE → Int) (c : Clientinfo) : List Copy :=
  if m.nowStreamIsAudio ∧ (c.sig2 ≠ -1 ∨ c.clientRtpPort1 ≠ -1) then
    if c.clientRtpPort1 ≠ -1 then [c.audio.putCopy (ptrLen .audio)]
    else if c.sig2 ≠ -1 then [c.video.putCopy (ptrLen .audio)]
    else []
  else []

def sendDataCopies (m : Mediainfo) (ptrLen : MediaE → Int) (fresh : MediaE → Nat → MediaPacket)
    (c : Clientinfo) : List Copy :=
  let c₁ := increaseClientList .video (fresh .video) c
  let c₂ := increaseClientList .audio (fresh .audio) c₁
  c.video.growth ++ c₁.audio.growth ++ putVideoCopies m ptrLen c₂ ++
    putAudioCopies m ptrLen (putVideo m c₂)

def dequeueCopies (c : Clientinfo) (fd : Int) : List Copy :=
  match c.queueOf fd with
  | none => []
  | some type => (c.queue type).takeCopies

/-- The copies of one turn of the loop in `mediaCallBack`. -/
def Session.callSlotCopies (d : Demuxed) (fresh : Nat → MediaE → Nat → MediaPacket) (s : Session)
    (i : Nat) : List Copy :=
  let c := s.clientinfo i
  match c.sendCallBack with
  | none => []
  | some arg =>
    if c.sd ≠ -1 ∧ c.playflag = 1 then
      sendDataCopies d.info d.ptrLen (fresh arg) (s.clientinfo arg)
    else []

/-- The copies of `mediaCallBack`: those of turn `i` in the session that the turns before left. -/
def Session.callBackCopies (d : Demuxed) (fresh : Nat → MediaE → Nat → MediaPacket) (s : Session) :
    List Copy :=
  (List.range s.count.toNat).flatMap fun i =>
    ((List.range i).foldl (callSlot d.info fresh) (s, [])).1.callSlotCopies d fresh i

namespace Conc

/-- A step of the server: a callback for whatever was demuxed, or a step that is no callback. -/
inductive Flow where
  | call (addr : Nat) (d : Demuxed) (fresh : Nat → MediaE → Nat → MediaPacket)
  | other (l : Label)

def flow (c : Conc) : Flow → Option Conc
  | .call addr d fresh =>
    (c.server.heap addr).map fun s =>
      { c with server := c.server.setSession addr (s.mediaCallBack d.info fresh).1 }
  | .other (.callback _ _ _) => none
  | .other l => c.step l

/-- The copies between queues and `node` in a step. -/
def copies (c : Conc) : Flow → List Copy
  | .call addr d fresh =>
    match c.server.heap addr with
    | none => []
    | some s => s.callBackCopies d fresh
  | .other (.event addr j fd _) =>
    match c.server.heap addr with
    | none => []
    | some s =>
      if (s.clientinfo j).events &&& EPOLLOUT = 0 then [] else dequeueCopies (s.clientinfo j) fd
  | .other _ => []

/-- All copies of a step lie in their destinations, and the packetiser that is called writes no
further than the RTP packet goes. -/
structure StaysInside (c : Conc) (l : Flow) : Prop where
  copies : ∀ k ∈ c.copies l, k.Inside
  packet : ∀ env result addr j fd node s send p, l = .other (.transmit env result) →
    c.epoll = .sending addr j fd node → c.server.heap addr = some s →
    packetiser env node = some send → (s.clientinfo j).packet node.type = some p →
    let tcp := fd == (s.clientinfo j).sd
    WritesBelow RTP_PAYLOAD_MAX (send (sendArgs (s.clientinfo j) tcp node.type))
      ⟨if tcp then (s.clientinfo j).tcpHeader else none, p, ⟨result, []⟩⟩

end Conc

/-! ## What fits -/

/-- No NAL unit of the packet is longer than `limit` behind its start code. -/
def AVPacket.UnitsFit (pkt : AVPacket) (limit : Nat) : Prop :=
  ∀ pos q, pos < pkt.size → startCode34 pkt.data.mem pos →
    NextCode pkt (pos + (codeAt pkt.data.mem pos).bytes.length) q →
    q ≤ pos + (codeAt pkt.data.mem pos).bytes.length + limit

def Demuxed.Fits : Demuxed → Prop
  | .video call => call.pkt.Begins ∧ call.pkt.UnitsFit MEDIA_DATA_SIZE
  | .audio call => call.bytes.length ≤ MEDIA_DATA_SIZE

/-- There is a zero byte in the payload that no video packet reaches. -/
def RtpPacket.Terminated (p : RtpPacket) : Prop :=
  ∃ z, FRAGMENT_MAX ≤ z ∧ z < RTP_PAYLOAD_MAX ∧ p.payload z = 0

/-- What is demuxed fits into a cell, and `malloc` finds a zero byte for the `strlen` of the video
packetisers. -/
def Conc.Fits (_ : Conc) : Conc.Flow → Prop
  | .call _ d _ => d.Fits
  | .other (.lookup _ _ _ mem) => mem.rtpPacket.Terminated
  | .other (.addSession _ _ _ mem) => mem.rtpPacket.Terminated
  | .other _ => True

theorem VideoCall.exposed_le (call : VideoCall) (h : (Demuxed.video call).Fits) :
    ∃ s, call.media.exposed = some s ∧ 0 ≤ s.len ∧ s.len ≤ MEDIA_DATA_SIZE := by
  obtain ⟨hbegins, hfit⟩ := h
  obtain ⟨hpos, hcode⟩ := call.pkt.begins_iff.mp hbegins
  have hat := call.between.ready.receive call.pkt hpos
  refine At.forall_calls
    (p := fun m => ∃ s, m.exposed = some s ∧ 0 ≤ s.len ∧ s.len ≤ MEDIA_DATA_SIZE) ?_ hat
    (fun _ => hcode) call.turns call.media call.made
  intro pos m hat hlt hcode
  obtain ⟨q, hq, hexposed⟩ := hat.exposed hlt hcode
  have hstart := hq.le
  have hend := hfit pos q hlt hcode hq
  refine ⟨_, hexposed, ?_, ?_⟩ <;> dsimp only <;> omega

theorem Demuxed.Fits.delivery {d : Demuxed} (h : d.Fits) :
    ∃ m : Delivery, m.toMediainfo = d.info ∧ d.ptrLen m.type = m.mediaFrame.bytes.length := by
  cases d with
  | video call =>
    obtain ⟨s, hexposed, hnonneg, hle⟩ := call.exposed_le h
    obtain ⟨hvideo, haudio, hnow⟩ := MediainfoSt.parseLoop_streams _ _ _ call.made
    have hsame : call.media.nowStreamIndex = call.media.videoStreamIndex := hnow.trans hvideo.symm
    have hbytes : (call.media.view []).frame = s.bytes := by
      rw [MediainfoSt.view, hexposed]
      rfl
    have hlen : ((s.bytes.length : Nat) : Int) = s.len := by
      rw [Slice.bytes, Mem.length_read, Int.toNat_of_nonneg hnonneg]
    let m : Delivery :=
      { call.media.view [] with
        found := Or.inl (by simp [Mediainfo.nowStreamIsVideo, MediainfoSt.view, hsame])
        apart := by
          rw [MediainfoSt.view, hvideo, haudio]
          exact call.between.ready.apart
        frame_fits := by
          rw [hbytes]
          unfold MEDIA_DATA_SIZE at hle
          omega
        audio_fits := by simp [MediainfoSt.view] }
    have hm : m.type = .video := by
      simp [m, Delivery.type, Mediainfo.nowStreamIsVideo, MediainfoSt.view, hsame]
    refine ⟨m, rfl, ?_⟩
    rw [Delivery.mediaFrame, hm, Demuxed.ptrLen, hexposed]
    change s.len = ((call.media.view []).frame.length : Int)
    rw [hbytes, hlen]
  | audio call =>
    have htype : ¬ call.audioStreamIndex = call.videoStreamIndex := call.apart.symm
    let m : Delivery :=
      { videoStreamIndex := call.videoStreamIndex
        audioStreamIndex := call.audioStreamIndex
        nowStreamIndex := call.audioStreamIndex
        frame := []
        bufferAudio := call.bytes
        found := Or.inr (by simp [Mediainfo.nowStreamIsAudio])
        apart := call.apart
        frame_fits := by simp
        audio_fits := h }
    have hm : m.type = .audio := by
      simp [m, Delivery.type, Mediainfo.nowStreamIsVideo, htype]
    refine ⟨m, rfl, ?_⟩
    rw [Delivery.mediaFrame, hm]
    rfl

theorem Delivery.mediaFrame_fits (m : Delivery) :
    m.mediaFrame.bytes.length ≤ MEDIA_DATA_SIZE := by
  rw [Delivery.mediaFrame]
  split
  · exact m.frame_fits
  · exact m.audio_fits

/-! ## The copies of a client -/

namespace MediaQueue

variable {q : MediaQueue}

theorem Valid.growth (h : q.Valid) : ∀ k ∈ q.growth, k.Inside := by
  have hpos := h.posList_lt
  unfold MediaQueue.growth
  split_ifs
  · intro k hk
    rw [List.mem_singleton.mp hk]
    constructor <;> push_cast <;> omega
  · simp

theorem Valid.putCopy (h : q.Valid) {n : Nat} (hn : n ≤ MEDIA_DATA_SIZE) :
    (q.putCopy n).Inside :=
  ⟨h.posLastPacket_lt, Int.natCast_nonneg n, Int.ofNat_le.mpr hn⟩

/-- An enqueue writes the block of its copy and nothing else. -/
theorem put_frame {f : MediaFrame} {cells cells' : Nat → MediaPacket}
    (h : q.packetList = some cells) (h' : (q.put f).packetList = some cells') :
    (∀ i, i ≠ q.posLastPacket → cells' i = cells i) ∧
      ∀ k, f.bytes.length ≤ k →
        (cells' q.posLastPacket).data k = (cells q.posLastPacket).data k := by
  rw [put, h] at h'
  obtain rfl := Option.some.inj h'
  constructor
  · intro i hi
    exact Function.update_of_ne hi _ _
  · intro k hk
    dsimp only
    rw [Function.update_self]
    exact Mem.write_of_le _ 0 k f.bytes (by omega)

/-- So does a dequeue: behind the frame, `node` keeps its bytes. -/
theorem take_frame {q' : MediaQueue} {node node' : MediaPacket}
    (h : q.take node = some (node', q')) : ∀ k, node'.size ≤ k → node'.data k = node.data k := by
  obtain ⟨-, h⟩ := Option.ite_none_right_eq_some.mp h
  obtain ⟨cells, -, h⟩ := Option.map_eq_some_iff.mp h
  obtain ⟨rfl, -⟩ := Prod.mk.inj h
  intro k hk
  exact Mem.write_of_le _ 0 k _ (by simpa [MediaPacket.store] using hk)

theorem head_mem_waiting {cells : Nat → MediaPacket} (hlist : q.packetList = some cells)
    (hnum : 0 < q.packetNum) (hpos : q.posList < q.packetListSize) :
    (cells q.posList).frame ∈ q.waiting := by
  rw [waiting, hlist]
  refine List.mem_map.mpr ⟨0, List.mem_range.mpr hnum, ?_⟩
  rw [Nat.add_zero, Nat.mod_eq_of_lt hpos]

theorem takeCopies_inside (h : ∀ f ∈ q.waiting, f.bytes.length ≤ MEDIA_DATA_SIZE) :
    ∀ k ∈ q.takeCopies, k.Inside := by
  unfold takeCopies
  split_ifs with htest
  · split
    · simp
    · rename_i cells hlist
      intro k hk
      have hhead := h _ (head_mem_waiting hlist htest.1 htest.2)
      rw [MediaPacket.frame, Mem.length_read] at hhead
      rw [List.mem_singleton.mp hk]
      exact ⟨Int.natCast_nonneg _, Int.ofNat_le.mpr hhead⟩
  · simp

end MediaQueue

/-- **The copies of `sendData`** into the queues of a client that plays. -/
theorem sendDataCopies_inside {d : Demuxed} (hfits : d.Fits) (fresh : MediaE → Nat → MediaPacket)
    {c : Clientinfo} (hvalid : ∀ type, (c.queue type).Valid) :
    ∀ k ∈ sendDataCopies d.info d.ptrLen fresh c, k.Inside := by
  obtain ⟨m, hm, hlen⟩ := hfits.delivery
  have hfit := m.mediaFrame_fits
  let c₂ := increaseClientList .audio (fresh .audio) (increaseClientList .video (fresh .video) c)
  have hgrown : ∀ type, (c₂.queue type).Valid := by
    intro type
    cases type
    · exact ((hvalid .video).increase _).1
    · exact ((hvalid .audio).increase _).1
  have hput : ∀ type, ((c₂.queue type).putCopy (d.ptrLen m.type)).Inside := by
    intro type
    rw [hlen]
    exact (hgrown type).putCopy hfit
  have hvideo : ∀ k ∈ putVideoCopies m.toMediainfo d.ptrLen c₂, k.Inside := by
    unfold putVideoCopies
    split_ifs with htest
    · have htype : m.type = .video := if_pos htest.1
      intro k hk
      rw [List.mem_singleton.mp hk, ← htype]
      exact hput .video
    · simp
  have haudio : ∀ k ∈ putAudioCopies m.toMediainfo d.ptrLen (putVideo m.toMediainfo c₂),
      k.Inside := by
    obtain ⟨-, hnone, -⟩ | ⟨hnone, -, -, htype⟩ := m.cases
    · rw [putAudioCopies, if_neg (by simp [hnone])]
      simp
    · rw [putVideo, if_neg (by simp [hnone]), putAudioCopies, ← htype]
      split_ifs
      · exact List.forall_mem_singleton.mpr (hput .audio)
      · exact List.forall_mem_singleton.mpr (hput .video)
      · simp
      · simp
  intro k hk
  rw [sendDataCopies, ← hm] at hk
  simp only [List.mem_append] at hk
  obtain ((hk | hk) | hk) | hk := hk
  · exact (hvalid .video).growth k hk
  · exact (hvalid .audio).growth k hk
  · exact hvideo k hk
  · exact haudio k hk

/-- What a client holds fits: the frames in its queues, and the packet of its video stream. -/
structure Clientinfo.Bounded (c : Clientinfo) : Prop where
  waiting : ∀ type, ∀ f ∈ (c.queue type).waiting, f.bytes.length ≤ MEDIA_DATA_SIZE
  packet : ∀ p ∈ c.rtpPacket, p.Terminated

theorem packetiser_video_keeps {env : SendEnv} {node : MediaPacket} {send : SendArgs → SendM Int}
    (hsend : packetiser env node = some send) (htype : node.type = .video) {z : Nat}
    (hz : FRAGMENT_MAX ≤ z) (a : SendArgs) : (send a).Keeps (Tx.SameFromZero z) := by
  unfold packetiser at hsend
  rw [htype] at hsend
  dsimp only at hsend
  split at hsend <;> cases hsend
  · exact H26x.rtpSendFrame_keeps (fun _ _ => by simp [H26x.h264]) hz _ a _ _
  · exact H26x.rtpSendFrame_keeps (fun _ _ => by simp [H26x.h265]) hz _ a _ _

theorem packetiser_audio_keeps {env : SendEnv} {node : MediaPacket} {send : SendArgs → SendM Int}
    (hsend : packetiser env node = some send) (htype : node.type = .audio) (a : SendArgs) :
    ∃ n ≤ 4 + node.size, (send a).Keeps (Tx.SameFrom n) := by
  unfold packetiser at hsend
  rw [htype] at hsend
  dsimp only at hsend
  split at hsend <;> cases hsend
  · exact ⟨_, by simp [Audio.aacAu], Audio.rtpSendFrame_keeps Audio.aacAu _ a _ _ _ _⟩
  · exact ⟨_, by simp, Audio.rtpSendFrame_keeps (fun _ => []) _ a _ _ _ _⟩

/-- **The packetisers** stay inside the RTP packet. -/
theorem packetiser_writesBelow {env : SendEnv} {node : MediaPacket} {send : SendArgs → SendM Int}
    (hsend : packetiser env node = some send) (hsize : node.size ≤ MEDIA_DATA_SIZE) (a : SendArgs)
    {t : Tx} (hzero : node.type = .video → t.rtpPacket.Terminated) :
    WritesBelow RTP_PAYLOAD_MAX (send a) t := by
  cases htype : node.type with
  | video =>
    obtain ⟨z, hz, hlt, hbyte⟩ := hzero htype
    exact .of_zero (packetiser_video_keeps hsend htype hz a) hlt hbyte
  | audio =>
    obtain ⟨n, hn, hkeeps⟩ := packetiser_audio_keeps hsend htype a
    refine .of_sameFrom hkeeps ?_ t
    unfold MEDIA_DATA_SIZE at hsize
    unfold RTP_PAYLOAD_MAX VIDEO_DATA_MAX_SIZE RTP_HEADER_SIZE
    omega

theorem Clientinfo.putBack_rtpPacket (c : Clientinfo) (tcp : Bool) (type : MediaE) (t : Tx) :
    (c.putBack tcp type t).rtpPacket =
      match type with
      | .video => some t.rtpPacket
      | .audio => c.rtpPacket := by
  cases type
  · rfl
  · rw [putBack]
    split_ifs <;> rfl

namespace Clientinfo.Bounded

variable {c c' : Clientinfo}

theorem of_idle (h : c.Idle) (hpacket : c.rtpPacket = none) : c.Bounded where
  waiting type f hf := by
    cases type
    · rw [Clientinfo.queue, h.video] at hf
      exact absurd hf List.not_mem_nil
    · rw [Clientinfo.queue, h.audio] at hf
      exact absurd hf List.not_mem_nil
  packet p hp := by
    rw [hpacket] at hp
    exact absurd hp (by simp)

theorem setClient (hidle : c.Idle) (a : AddArgs) (audioType : AudioE) {mem : Fresh}
    (hmem : mem.rtpPacket.Terminated) (slot : Nat) :
    (setClient a audioType mem slot c).Bounded where
  waiting type f hf := by
    obtain ⟨cells, hqueue⟩ := queue_setClient hidle a audioType mem slot type
    rw [hqueue] at hf
    exact absurd hf List.not_mem_nil
  packet p hp := by
    have hset := eventAdd_packet slot (setBuffers audioType mem
      (setTransport a { c with sd := a.clientSockFd })) .video
    obtain rfl := Option.some.inj (hset.symm.trans hp)
    exact hmem

theorem sendData (h : c.Bounded) (hvalid : ∀ type, (c.queue type).Valid) (m : Delivery)
    (fresh : MediaE → Nat → MediaPacket) : (sendData m.toMediainfo fresh c).Bounded where
  waiting type f hf := by
    rw [(sendData_queue m fresh hvalid type).2, share, List.mem_append] at hf
    rcases hf with hf | hf
    · exact h.waiting type f hf
    · split_ifs at hf
      · rw [List.mem_singleton.mp hf]
        exact m.mediaFrame_fits
      · exact absurd hf List.not_mem_nil
  packet := by
    obtain ⟨video, audio, hc⟩ := Requeued.sendData m.toMediainfo fresh c
    rw [hc]
    exact h.packet

theorem dequeue (h : c.Bounded) (hvalid : ∀ type, (c.queue type).Valid) {fd : Int}
    {node node' : MediaPacket} (hdequeue : dequeue c fd node = some (node', c')) :
    c'.Bounded ∧ node'.size ≤ MEDIA_DATA_SIZE := by
  have hqueue := dequeue_queue hvalid fd node
  rw [hdequeue] at hqueue
  obtain ⟨video, audio, hc⟩ := Requeued.dequeue hdequeue
  refine ⟨⟨fun type f hf => h.waiting type f ?_, by rw [hc]; exact h.packet⟩, ?_⟩
  · rw [hqueue.2 type]
    exact List.mem_append_right _ hf
  · have htaken : ∃ type, c.queueOf fd = some type := by
      rw [SimpleRtsp.dequeue] at hdequeue
      cases hof : c.queueOf fd with
      | none => simp [hof] at hdequeue
      | some type => exact ⟨type, rfl⟩
    obtain ⟨type, htype⟩ := htaken
    have hnode := h.waiting type node'.frame (by rw [hqueue.2 type, if_pos htype]; simp)
    rwa [MediaPacket.frame, Mem.length_read] at hnode

/-- The zero byte of the video packet outlasts what is sent. -/
theorem transmit (h : c.Bounded) {env : SendEnv} {fd ret : Int} {node : MediaPacket} {w w' : Wire}
    (htransmit : transmit env c fd node w = some (ret, c', w')) : c'.Bounded where
  waiting type f hf := by
    obtain ⟨packet, packet1, header, rfl⟩ := Rebuffered.transmit htransmit
    apply h.waiting type f
    cases type <;> exact hf
  packet p hp := by
    obtain ⟨⟨ret₁, c₁, w₁⟩, hsent, hret⟩ := Option.map_eq_some_iff.mp htransmit
    cases hret
    rw [sendNode] at hsent
    split at hsent
    · cases hsent
      exact h.packet p hp
    · rename_i send hsend
      obtain ⟨packet, hpacket, hsent⟩ := Option.map_eq_some_iff.mp hsent
      cases hsent
      rw [putBack_rtpPacket] at hp
      cases htype : node.type with
      | video =>
        rw [htype] at hp hpacket
        obtain ⟨z, hz, hlt, hbyte⟩ := h.packet packet hpacket
        obtain rfl := Option.some.inj hp
        refine ⟨z, hz, hlt, ?_⟩
        exact (packetiser_video_keeps hsend htype hz _ _ hbyte z (Nat.le_refl z)).trans hbyte
      | audio =>
        rw [htype] at hp
        exact h.packet p hp

end Clientinfo.Bounded

/-! ## Runs -/

theorem Session.Ok.callBackCopies {s : Session} (h : s.Ok) {d : Demuxed} (hfits : d.Fits)
    (fresh : Nat → MediaE → Nat → MediaPacket) : ∀ k ∈ s.callBackCopies d fresh, k.Inside := by
  intro k hk
  obtain ⟨i, hi, hk⟩ := List.mem_flatMap.mp hk
  have hi := List.mem_range.mp hi
  have hcount := h.count_le
  have hlt : i < CLIENTMAX := by omega
  rw [scan_eq h d.info fresh i hlt.le] at hk
  have hsame : (s.served d.info fresh i).clientinfo i = s.clientinfo i := if_neg (by omega)
  rw [callSlotCopies, hsame] at hk
  split at hk
  · exact absurd hk List.not_mem_nil
  · rename_i arg harg
    split_ifs at hk with htest
    · have hcallable : (s.clientinfo i).callable := by
        simp [Clientinfo.callable, harg, htest]
      have hplaying := h.playing hlt hcallable
      obtain rfl := Option.some.inj (harg.symm.trans hplaying.sendCallBack)
      rw [hsame] at hk
      exact sendDataCopies_inside hfits _ hplaying.valid k hk
    · exact absurd hk List.not_mem_nil

namespace Session

def Bounded (s : Session) : Prop := ∀ j, (s.clientinfo j).Bounded

theorem Bounded.setSlot {s : Session} (h : s.Bounded) (j : Nat) {c : Clientinfo} (hc : c.Bounded) :
    (s.setSlot j c).Bounded := by
  intro i
  by_cases hij : i = j
  · subst hij
    rwa [setSlot_self]
  · rw [setSlot_of_ne s c hij]
    exact h i

theorem bounded_create (addr : Nat) (a : AddArgs) (audioType : AudioE) {mem : Fresh}
    (hmem : mem.rtpPacket.Terminated) (pos : Nat) : (create addr a audioType mem pos).Bounded := by
  intro j
  by_cases hj : j = 0
  · subst hj
    exact .setClient (idle_initClient _) a audioType hmem 0
  · rw [create_clientinfo addr a audioType mem pos hj]
    exact .of_idle (idle_initClient _) rfl

theorem Bounded.join {s s' : Session} (h : s.Bounded) (hok : s.Ok) {j : Nat} {a : AddArgs}
    {audioType : AudioE} {mem : Fresh} (hmem : mem.rtpPacket.Terminated)
    (hjoin : s.join a audioType mem = some (j, s')) : s'.Bounded := by
  obtain ⟨hlt, hfree, rfl⟩ := join_some hjoin
  exact h.setSlot j (.setClient (hok.idle hlt hfree) a audioType hmem j)

theorem Bounded.served {s : Session} (h : s.Bounded) (hok : s.Ok) (m : Delivery)
    (fresh : Nat → MediaE → Nat → MediaPacket) :
    (s.mediaCallBack m.toMediainfo fresh).1.Bounded := by
  rw [mediaCallBack_eq hok]
  intro j
  have hcount := hok.count_le
  simp only [Session.served]
  split_ifs with htest
  · exact (h j).sendData (hok.playing (by omega) htest.2).valid m (fresh j)
  · exact h j

theorem Bounded.offline {s : Session} (h : s.Bounded) (j : Nat) : (s.offline j).Bounded :=
  h.setSlot j (.of_idle (idle_clearClient _) rfl)

end Session

def sliceUnit (n : Nat) : NalUnit where
  bytes := List.replicate n 0x65
  clean := by
    intro hpart
    have hzero := List.eq_of_mem_replicate (hpart.subset (List.mem_cons_self (a := (0 : UInt8))))
    exact absurd hzero (by decide)
  closed := by
    intro hlast
    have hzero := List.eq_of_mem_replicate (List.mem_of_getLast? hlast)
    exact absurd hzero (by decide)

theorem length_sliceUnit (n : Nat) : (sliceUnit n).bytes.length = n := List.length_replicate

theorem AVPacket.UnitsFit.of_size {pkt : AVPacket} {limit : Nat} (h : pkt.size ≤ limit) :
    pkt.UnitsFit limit := by
  intro pos q _ _ hq
  have hend := hq.size
  omega

namespace Conc

/-- The invariant: sessions are in order, what they hold fits, and so does the node under way. -/
structure Bounded (c : Conc) : Prop where
  sound : c.Sound
  sessions : ∀ addr s, c.server.heap addr = some s → s.Bounded
  node : ∀ addr j fd node, c.epoll = .sending addr j fd node → node.size ≤ MEDIA_DATA_SIZE

theorem bounded_init : init.Bounded where
  sound := sound_init
  sessions _ _ h := by cases h
  node _ _ _ _ h := by cases h

theorem Bounded.sessions_setSession {c : Conc} (h : c.Bounded) {addr : Nat} {s' : Session}
    (hs' : s'.Bounded) (addr' : Nat) (s : Session)
    (hs : (c.server.setSession addr s').heap addr' = some s) : s.Bounded := by
  rw [Server.setSession_heap] at hs
  split_ifs at hs
  · obtain rfl := Option.some.inj hs
    exact hs'
  · exact h.sessions addr' s hs

theorem moves_of_flow {c c' : Conc} {l : Flow} (hfits : c.Fits l) (hstep : c.flow l = some c') :
    ∃ l', Moves c l' c' ∧ c.Fits (.other l') := by
  cases l with
  | call addr d fresh =>
    obtain ⟨m, hm, -⟩ := Demuxed.Fits.delivery hfits
    obtain ⟨s, hs, rfl⟩ := Option.map_eq_some_iff.mp hstep
    rw [← hm]
    exact ⟨.callback addr m fresh, .served hs, trivial⟩
  | other l =>
    refine ⟨l, moves_of_step ?_, hfits⟩
    cases l with
    | callback => exact absurd hstep (by simp [flow])
    | _ => exact hstep

theorem Bounded.moves {c c' : Conc} {l : Label} (h : c.Bounded) (hfits : c.Fits (.other l))
    (hmoves : Moves c l c') : c'.Bounded := by
  have hsound := h.sound.moves hmoves
  cases hmoves with
  | @joined id a audioType mem addr j s s' hsd hs hjoin hlookup =>
    have hok := h.sound.sessions addr s hs
    exact ⟨hsound, h.sessions_setSession ((h.sessions addr s hs).join hok hfits hjoin), h.node⟩
  | full => exact ⟨hsound, h.sessions, h.node⟩
  | missing => exact ⟨hsound, h.sessions, h.node⟩
  | @created id addr a audioType mem pos hcall hfree hpos =>
    refine ⟨hsound, fun addr' s hs => ?_, h.node⟩
    change (c.server.addSession addr pos a audioType mem).heap addr' = some s at hs
    rw [Server.addSession_heap] at hs
    split_ifs at hs
    · obtain rfl := Option.some.inj hs
      exact Session.bounded_create addr a audioType hfits pos
    · exact h.sessions addr' s hs
  | counted => exact ⟨hsound, h.sessions, h.node⟩
  | @served addr s m fresh hs =>
    have hok := h.sound.sessions addr s hs
    exact ⟨hsound, h.sessions_setSession ((h.sessions addr s hs).served hok m fresh), h.node⟩
  | quiet => exact h
  | @taken addr j fd node node' s client hs hj hdequeue =>
    have hplaying := (h.sound.sessions addr s hs).playing_of_dequeue hj hdequeue
    have hbounded := h.sessions addr s hs
    obtain ⟨hclient, hsize⟩ := (hbounded j).dequeue hplaying.valid hdequeue
    refine ⟨hsound, h.sessions_setSession (hbounded.setSlot j hclient), ?_⟩
    intro addr' j' fd' node₁ hepoll
    dsimp only at hepoll
    split_ifs at hepoll
    obtain ⟨-, -, -, rfl⟩ := Epoll.sending.inj hepoll
    exact hsize
  | @sent env result addr j fd ret node s client w hepoll hs htransmit =>
    have hbounded := h.sessions addr s hs
    have hclient := (hbounded j).transmit htransmit
    refine ⟨hsound, h.sessions_setSession (hbounded.setSlot j hclient), ?_⟩
    intro addr' j' fd' node₁ hepoll
    dsimp only at hepoll
    split_ifs at hepoll
  | @cleared addr j failed s hepoll hs =>
    refine ⟨hsound, h.sessions_setSession ((h.sessions addr s hs).offline j), ?_⟩
    intro _ _ _ _ hepoll
    cases hepoll
  | summed =>
    refine ⟨hsound, h.sessions, ?_⟩
    intro _ _ _ _ hepoll
    dsimp only at hepoll
    split_ifs at hepoll
  | stopped => exact ⟨hsound, h.sessions, fun _ _ _ _ hepoll => by cases hepoll⟩
  | gone => exact ⟨hsound, h.sessions, fun _ _ _ _ hepoll => by cases hepoll⟩
  | @deleted addr pos addr' hepoll harr =>
    refine ⟨hsound, fun addr₁ s hs => ?_, fun _ _ _ _ hepoll => by cases hepoll⟩
    dsimp only at hs
    rw [Server.delSession_heap] at hs
    split_ifs at hs
    exact h.sessions addr₁ s hs
  | unsummed => exact ⟨hsound, h.sessions, fun _ _ _ _ hepoll => by cases hepoll⟩

theorem Bounded.staysInside {c : Conc} (h : c.Bounded) {l : Flow} (hfits : c.Fits l) :
    c.StaysInside l where
  copies k hk := by
    cases l with
    | call addr d fresh =>
      rw [copies] at hk
      split at hk
      · exact absurd hk List.not_mem_nil
      · rename_i s hs
        exact (h.sound.sessions addr s hs).callBackCopies hfits fresh k hk
    | other l =>
      cases l with
      | event addr j fd node =>
        rw [copies] at hk
        split at hk
        · exact absurd hk List.not_mem_nil
        · rename_i s hs
          split_ifs at hk
          · exact absurd hk List.not_mem_nil
          · rw [dequeueCopies] at hk
            split at hk
            · exact absurd hk List.not_mem_nil
            · rename_i type _
              exact MediaQueue.takeCopies_inside ((h.sessions addr s hs j).waiting type) k hk
      | _ => exact absurd hk List.not_mem_nil
  packet env result addr j fd node s send p _ hepoll hs hsend hp := by
    refine packetiser_writesBelow hsend (h.node addr j fd node hepoll) _ fun htype => ?_
    rw [htype] at hp
    exact (h.sessions addr s hs j).packet p hp

theorem exists_videoCall (u : NalUnit) (hpos : 0 < u.bytes.length) :
    ∃ call : VideoCall, call.pkt = packetOf (annexB [(.four, u)]) ∧
      (Demuxed.video call).ptrLen .video = u.bytes.length ∧
      (Demuxed.video call).info.nowStreamIsVideo = true ∧
      (Demuxed.video call).info.nowStreamIsAudio = false := by
  let pkt := packetOf (annexB [(.four, u)])
  have hbytes : pkt.bytes = annexB [(.four, u)] := bytes_packetOf _
  have hbegins : pkt.Begins := Or.inr ⟨u.bytes, by rw [hbytes]; simp [annexB]⟩
  obtain ⟨hsize, hcode⟩ := pkt.begins_iff.mp hbegins
  obtain ⟨n, -, hscanned⟩ :=
    (between_newMedia.ready.receive pkt hsize).parseLoop (Nat.zero_le _) fun _ => hcode
  have hunits : ((newMedia.receive pkt).parseLoop n).1.map MediainfoSt.nalu =
      [(StartCode.four, u)].map fun u => some u.2.bytes :=
    scanned_exposed hscanned hbytes (Nat.zero_add _)
  obtain ⟨media, hcalls⟩ : ∃ media, ((newMedia.receive pkt).parseLoop n).1 = [media] := by
    have hlen := congrArg List.length hunits
    simp only [List.length_map, List.length_singleton] at hlen
    exact List.length_eq_one_iff.mp hlen
  let call : VideoCall := ⟨newMedia, between_newMedia, pkt, n, media, by rw [hcalls]; simp⟩
  obtain ⟨hvideo, haudio, hnow⟩ := MediainfoSt.parseLoop_streams _ _ _ call.made
  have hstream : call.media.nowStreamIndex = call.media.videoStreamIndex := hnow.trans hvideo.symm
  have hother : call.media.nowStreamIndex ≠ call.media.audioStreamIndex := by
    rw [hstream, hvideo, haudio]
    exact between_newMedia.ready.apart
  refine ⟨call, rfl, ?_, ?_, ?_⟩
  · rw [hcalls] at hunits
    obtain ⟨s, hs, hslice⟩ := Option.map_eq_some_iff.mp (List.cons.inj hunits).1
    have hlen : s.len.toNat = u.bytes.length := by
      rw [← hslice, Slice.bytes, Mem.length_read]
    have hptr : (Demuxed.video call).ptrLen .video = s.len := by
      rw [Demuxed.ptrLen, hs]
      rfl
    omega
  · simp [Demuxed.info, Mediainfo.nowStreamIsVideo, MediainfoSt.view, hstream]
  · simp [Demuxed.info, Mediainfo.nowStreamIsAudio, MediainfoSt.view, hother]

theorem zeroFresh_terminated : zeroFresh.rtpPacket.Terminated :=
  ⟨FRAGMENT_MAX, Nat.le_refl _, by decide, rfl⟩

theorem reach_firstClient : ∃ c, Reach flow Fits init c ∧
    c.server.heap 1 = some (Session.create 1 (tcpPlayer 7) .aac zeroFresh 0) := by
  have hlookup : init.server.search (tcpPlayer 7).pathFilename (List.range FILEMAX) FILEMAX =
      (none, 0) := by
    decide +kernel
  have hfirst : init.flow (.other (.lookup 1 (tcpPlayer 7) .aac zeroFresh)) =
      some (init.setCall 1 (.creating (tcpPlayer 7) 0)) := by
    simp only [flow, step, stepLookup, Server.lookup, hlookup]
    rfl
  have hlooked : Reach flow Fits init _ :=
    .next (.other (.lookup 1 (tcpPlayer 7) .aac zeroFresh)) .start zeroFresh_terminated hfirst
  exact ⟨_, .next (.other (.addSession 1 1 .aac zeroFresh)) hlooked zeroFresh_terminated rfl, rfl⟩

theorem copies_firstClient {c : Conc}
    (hs : c.server.heap 1 = some (Session.create 1 (tcpPlayer 7) .aac zeroFresh 0)) {d : Demuxed}
    (hvideo : d.info.nowStreamIsVideo = true) (haudio : d.info.nowStreamIsAudio = false)
    (fresh : Nat → MediaE → Nat → MediaPacket) :
    c.copies (.call 1 d fresh) = [.enqueue 0 8 (d.ptrLen .video)] := by
  let client := setClient (tcpPlayer 7) .aac zeroFresh 0 { initClient with session := some 1 }
  let c₂ := increaseClientList .audio (fresh 0 .audio)
    (increaseClientList .video (fresh 0 .video) client)
  have hput : putVideoCopies d.info d.ptrLen c₂ = [.enqueue 0 8 (d.ptrLen .video)] :=
    if_pos ⟨hvideo, Or.inl (show (0 : Int) ≠ -1 by decide)⟩
  have hnone : putAudioCopies d.info d.ptrLen (putVideo d.info c₂) = [] := by
    rw [putAudioCopies, if_neg (by simp [haudio])]
  have hsend : sendDataCopies d.info d.ptrLen (fresh 0) client =
      [.enqueue 0 8 (d.ptrLen .video)] := by
    change [] ++ [] ++ putVideoCopies d.info d.ptrLen c₂ ++
      putAudioCopies d.info d.ptrLen (putVideo d.info c₂) = _
    rw [hput, hnone]
    rfl
  rw [copies, hs]
  change [0].flatMap _ = _
  rw [List.flatMap_singleton]
  exact hsend

/-- **The copies.** In every run in which what is demuxed fits into a cell, every copy of every step
lies in its destination. -/
theorem staysInside_reachable (c : Conc) (h : Reach flow Fits init c) (l : Flow)
    (hfits : c.Fits l) : c.StaysInside l := by
  have hbounded : c.Bounded := h.invariant bounded_init fun c l c' hinv hfits hstep => by
    obtain ⟨l', hmoves, hfits'⟩ := moves_of_flow hfits hstep
    exact hinv.moves hfits' hmoves
  exact hbounded.staysInside hfits

theorem staysInside_oneByte : ∃ c d, Reach flow Fits init c ∧
    c.copies (.call 1 d fun _ _ _ => zeroPacket) = [.enqueue 0 8 1] ∧
    c.StaysInside (.call 1 d fun _ _ _ => zeroPacket) := by
  obtain ⟨c, hreach, hs⟩ := reach_firstClient
  obtain ⟨call, hpkt, hlen, hvideo, haudio⟩ := exists_videoCall (sliceUnit 1) (by decide)
  have hfits : (Demuxed.video call).Fits := by
    refine ⟨?_, .of_size ?_⟩
    · rw [hpkt]
      exact Or.inr (by decide)
    · rw [hpkt]
      decide
  refine ⟨c, .video call, hreach, ?_, staysInside_reachable c hreach (.call 1 _ _) hfits⟩
  rw [copies_firstClient hs hvideo haudio, hlen]
  rfl

/-- A NAL unit that is one byte longer than a cell. -/
theorem not_staysInside_2097153 : ∃ c call, Reach flow anyStep init c ∧
    call.pkt = packetOf (annexB [(.four, sliceUnit 2097153)]) ∧
    (c.flow (.call 1 (.video call) fun _ _ _ => zeroPacket)).isSome ∧
    ¬ c.StaysInside (.call 1 (.video call) fun _ _ _ => zeroPacket) := by
  obtain ⟨n, hn⟩ : ∃ n, n = 2097153 := ⟨_, rfl⟩
  rw [← hn]
  obtain ⟨c, hreach, hs⟩ := reach_firstClient
  obtain ⟨call, hpkt, hlen, hvideo, haudio⟩ :=
    exists_videoCall (sliceUnit n) (by rw [length_sliceUnit]; omega)
  rw [length_sliceUnit] at hlen
  refine ⟨c, call, hreach.mono fun _ _ _ => trivial, hpkt, ?_, fun hinside => ?_⟩
  · rw [flow, hs]
    rfl
  · have hcopy := hinside.copies (.enqueue 0 8 n) (by
      rw [copies_firstClient hs hvideo haudio, hlen]
      exact List.mem_singleton_self _)
    have hle := Int.ofNat_le.mp hcopy.2.2
    unfold MEDIA_DATA_SIZE at hle
    omega

end Conc

end SimpleRtsp

import Mathlib.Data.List.Forall2
import SimpleRtsp.Rtp.Depacketize
import SimpleRtsp.Session.Interleave

/-!
# What a client over TCP receives

The callbacks of the media thread hand frames to a client over TCP, the epoll thread sends them, and
at the other end of the connection a receiver splits the bytes by the interleaved headers, sorts the
packets by their channels and puts the frames together. `received_reach` follows a frame all the
way: at any time, what the receiver has is the frames that were handed out, in their order and
without a gap, up to those that still wait in the queue. An audio frame arrives as it was, and so
does a NAL unit of one packet; a longer NAL unit has one or two bytes of the queue's memory behind
it (`Survives`).
-/

namespace SimpleRtsp

open StreamState (channel)

/-! ## Several NAL units -/

theorem Reassembly.run_append_done (sort : List UInt8 → Piece) (before : List (List UInt8))
    (ps : List (List UInt8)) (r : Reassembly) :
    Reassembly.run sort { r with done := before ++ r.done } ps =
      (Reassembly.run sort r ps).map fun r' => { r' with done := before ++ r'.done } := by
  induction ps generalizing r with
  | nil => rfl
  | cons p ps ih =>
    have hstep : ∀ piece, Reassembly.step { r with done := before ++ r.done } piece =
        (r.step piece).map fun r' => { r' with done := before ++ r'.done } := by
      intro piece
      obtain ⟨done, current⟩ := r
      cases piece with
      | single nal => cases current <;> simp [Reassembly.step]
      | fragment first last header data =>
        cases first <;> cases last <;> cases current <;> simp [Reassembly.step]
      | other => rfl
    rw [Reassembly.run, Reassembly.run, hstep]
    cases r.step (sort p) with
    | none => rfl
    | some r' => exact ih r'

theorem Reassembly.run_append (sort : List UInt8 → Piece) (ps qs : List (List UInt8))
    (r : Reassembly) : Reassembly.run sort r (ps ++ qs) =
      (Reassembly.run sort r ps).bind fun r' => Reassembly.run sort r' qs := by
  induction ps generalizing r with
  | nil => rfl
  | cons p ps ih =>
    rw [List.cons_append, Reassembly.run, Reassembly.run]
    cases r.step (sort p) with
    | none => rfl
    | some r' => exact ih r'

theorem depacketize_append {sort : List UInt8 → Piece} {ps qs nals nals' : List (List UInt8)}
    (hps : depacketize sort ps = some nals) (hqs : depacketize sort qs = some nals') :
    depacketize sort (ps ++ qs) = some (nals ++ nals') := by
  have hrun : ∀ {ps nals}, depacketize sort ps = some nals →
      Reassembly.run sort ⟨[], none⟩ ps = some ⟨nals, none⟩ := by
    intro ps nals h
    rw [depacketize] at h
    split at h
    · rename_i hrun
      rw [hrun, Option.some.inj h]
    · cases h
  have hbehind := Reassembly.run_append_done sort nals qs ⟨[], none⟩
  rw [List.append_nil] at hbehind
  rw [depacketize, Reassembly.run_append, hrun hps, Option.bind_some, hbehind, hrun hqs]
  rfl

theorem depacketize_flatMap {α : Type} {sort : List UInt8 → Piece} {f : α → List (List UInt8)}
    {g : α → List UInt8} {l : List α} (h : ∀ x ∈ l, depacketize sort (f x) = some [g x]) :
    depacketize sort (l.flatMap f) = some (l.map g) := by
  induction l with
  | nil => rfl
  | cons x l ih =>
    obtain ⟨hx, hrest⟩ := List.forall_mem_cons.mp h
    exact depacketize_append hx (ih hrest)

/-! ## The two codecs of a connection -/

structure Codecs where
  video : VideoE
  audio : AudioE

namespace Codecs

variable (codecs : Codecs)

/-- How a receiver sorts the video payloads. -/
def sort : List UInt8 → Piece :=
  match codecs.video with
  | .h264 => rfc6184
  | _ => rfc7798

/-- How the server fragments. -/
def format : H26x.FuFormat :=
  match codecs.video with
  | .h264 => H26x.h264
  | _ => H26x.h265

/-- A frame that the packetiser of its stream can carry. -/
structure Carries (f : MediaFrame) : Prop where
  size : f.bytes.length ≤ 2 * 1024 * 1024
  video : f.type = .video → codecs.video ≠ .none
  single : f.type = .video → f.bytes ≠ [] → f.bytes.length ≤ PTK_RTP_TCP_MAX →
    codecs.sort f.bytes = .single f.bytes
  audio : f.type = .audio → codecs.audio ≠ .none
  aac : f.type = .audio → codecs.audio = .aac → f.bytes.length ≤ 8191
  pcma : f.type = .audio → codecs.audio = .pcma → f.bytes.length ≤ 65523

/-- What becomes of a NAL unit. -/
def Survives (nal unit : List UInt8) : Prop :=
  if nal.length ≤ PTK_RTP_TCP_MAX then unit = nal
  else ∃ behind, behind.length = codecs.format.pos ∧ unit = nal ++ behind

def audioData (packet : List UInt8) : List UInt8 :=
  match codecs.audio with
  | .aac => auData packet
  | _ => packet.drop RTP_HEADER_SIZE

end Codecs

/-! ## The receiver -/

/-- What a receiver has made of the bytes of a connection. -/
structure Received where
  nals : List (List UInt8)
  audio : List (List UInt8)

def onChannel (a : AddArgs) (type : MediaE) (packets : List (UInt8 × List UInt8)) :
    List (List UInt8) :=
  (packets.filter fun p => p.1 = UInt8.ofInt (channel a type)).map Prod.snd

/-- The receiver; none if it is out of step or a train is broken. -/
def receive (codecs : Codecs) (a : AddArgs) (stream : List UInt8) : Option Received :=
  (Framing.split 0x24 stream).bind fun packets =>
    (depacketize codecs.sort
        ((onChannel a .video packets).map (List.drop RTP_HEADER_SIZE))).map fun nals =>
      ⟨nals, (onChannel a .audio packets).map codecs.audioData⟩

/-! ## Runs -/

/-- A client over TCP, and the frames that were handed out for it. -/
structure Relay where
  stream : StreamState
  handed : List MediaFrame

inductive RelayLabel where
  | callback (m : Delivery) (fresh : MediaE → Nat → MediaPacket)
  | event (node : MediaPacket) (env : SendEnv)

namespace Relay

def start (slot : Nat) (c : Clientinfo) (a : AddArgs) (audioType : AudioE) (mem : Fresh) : Relay :=
  ⟨.start slot c a audioType mem, []⟩

/-- The steps of the client. Every send writes all its bytes. -/
def step (a : AddArgs) (s : Relay) : RelayLabel → Option Relay
  | .callback m fresh =>
    (s.stream.step a.clientSockFd (.callback m fresh)).map fun stream =>
      { stream := stream
        handed :=
          if s.stream.client.callable ∧ channel a m.type ≠ -1 then s.handed ++ [m.mediaFrame]
          else s.handed }
  | .event node env =>
    (s.stream.step a.clientSockFd (.event node env fun _ n => n)).map fun stream =>
      { s with stream := stream }

/-- The frames can be carried, and the codecs of the file do not change. -/
def Allowed (codecs : Codecs) (_ : Relay) : RelayLabel → Prop
  | .callback m _ => codecs.Carries m.mediaFrame
  | .event _ env => env.videoType = codecs.video ∧ env.audioType = codecs.audio

def bytes (s : Relay) : List UInt8 := (s.stream.allCalls.map (·.buf)).flatten

def waiting (s : Relay) : List MediaFrame := (s.stream.client.queue .video).waiting

/-- The data of the frames of a stream; an empty frame is not sent. -/
def dataOf (type : MediaE) (frames : List MediaFrame) : List (List UInt8) :=
  (frames.filter fun f => f.type = type ∧ f.bytes ≠ []).map (·.bytes)

end Relay

/-! ## One turn -/

variable {codecs : Codecs} {slot : Nat} {a : AddArgs} {audioType : AudioE}

theorem transmit_pos {c c' : Clientinfo} (h : TcpReady a c) {env : SendEnv} {node : MediaPacket}
    (hsend : Sendable a env node) {payloadType : UInt8} {n : Nat}
    (hof : ∀ p ∈ c.packet node.type, p.rtpHeader.Of payloadType n) {ret : Int} {w : Wire}
    (htransmit : transmit env c c.sd node ⟨fun _ n => n, []⟩ = some (ret, c', w)) : 0 < ret := by
  obtain ⟨send, hsome⟩ := Option.isSome_iff_exists.mp hsend.codec
  obtain ⟨packet, hpacket⟩ := Option.isSome_iff_exists.mp (h.packet node.type)
  let args := sendArgs c true node.type
  let t : Tx := ⟨c.tcpHeader, packet, ⟨fun _ n => n, []⟩⟩
  have htcp : t.overTcp args := by
    simp [Tx.overTcp, t, h.header, args, h.sig, hsend.channel]
  have hmeets := packetiser_meets hsome args htcp (hof packet hpacket)
  rw [transmit, beq_self_eq_true, sendNode, hsome] at htransmit
  simp only [hpacket, Option.map_some, if_true] at htransmit
  change some ((if false then -1 else ((send args) t).1.getD (-1)),
    c.putBack true node.type ((send args) t).2, ((send args) t).2.wire) = _ at htransmit
  rw [EarlyM.Meets] at hmeets
  split at hmeets
  · rename_i ret₁ t' hrun
    rw [hrun] at htransmit
    cases htransmit
    exact hmeets.1
  · -- no call is refused
    rename_i t' hrun
    obtain ⟨ps, -, hcut⟩ := hmeets
    rcases hcut.why with ⟨k, m, hm, hret⟩ | ⟨hnot, -⟩
    · simp only [t] at hret
      omega
    · rw [htcp] at hnot
      cases hnot

theorem StreamState.Live.queueOf {s : StreamState} (h : s.Live slot a audioType)
    {node node' : MediaPacket} {c : Clientinfo}
    (hdequeue : dequeue s.client a.clientSockFd node = some (node', c)) :
    s.client.queueOf a.clientSockFd = some .video ∧ channel a node'.type ≠ -1 := by
  have hqueue := dequeue_queue h.playing.valid a.clientSockFd node
  rw [hdequeue] at hqueue
  obtain ⟨type, hof⟩ : ∃ type, s.client.queueOf a.clientSockFd = some type := by
    simp only [dequeue, Option.bind_eq_bind, Option.bind_eq_some_iff] at hdequeue
    exact ⟨_, hdequeue.choose_spec.1⟩
  have hsig : channel a node'.type ≠ -1 := by
    refine h.asked type node'.frame ?_
    rw [hqueue.2 type, if_pos hof]
    exact List.mem_append_left _ (List.mem_singleton_self _)
  refine ⟨?_, hsig⟩
  have hasked : s.client.sig0 ≠ -1 ∨ s.client.sig2 ≠ -1 := by
    have hvideo : s.client.sig0 = channel a .video := h.args .video
    have haudio : s.client.sig2 = channel a .audio := h.args .audio
    rw [hvideo, haudio]
    cases htype : node'.type <;> rw [htype] at hsig
    · exact Or.inl hsig
    · exact Or.inr hsig
  exact if_pos ⟨h.sd.symm, hasked⟩

/-- What a turn does with the frames that wait: it takes none, it drops an empty one, or it sends
the first. -/
structure Relays (a : AddArgs) (env : SendEnv) (c : Clientinfo) (t : Turn)
    (frames : List MediaFrame) : Prop where
  online : t.offline = false
  waiting : (c.queue .video).waiting = frames ++ (t.client.queue .video).waiting
  sent : t.sent = none ∧ (∀ f ∈ frames, f.bytes = []) ∨
    ∃ node calls, frames = [node.frame] ∧ node.frame.bytes ≠ [] ∧
      t.sent = some (node.type, calls) ∧ Sendable a env node ∧ SentNode.Sent a ⟨env, node, calls⟩

theorem Codecs.Carries.sendable {env : SendEnv} {node : MediaPacket}
    (h : codecs.Carries node.frame) (hvideo : env.videoType = codecs.video)
    (haudio : env.audioType = codecs.audio) (hsig : channel a node.type ≠ -1)
    (hsize : node.size ≠ 0) : Sendable a env node where
  size := by
    have hle := h.size
    rw [MediaPacket.frame, Mem.length_read] at hle
    exact ⟨Nat.pos_of_ne_zero hsize, hle⟩
  channel := hsig
  codec := by
    rw [packetiser]
    cases htype : node.type with
    | video =>
      have hne := h.video htype
      rw [← hvideo] at hne
      cases hcodec : env.videoType <;> first | rfl | exact absurd hcodec hne
    | audio =>
      have hne := h.audio htype
      rw [← haudio] at hne
      cases hcodec : env.audioType <;> first | rfl | exact absurd hcodec hne

theorem StreamState.Live.relays {s : StreamState} (h : s.Live slot a audioType)
    (hcarries : ∀ f ∈ (s.client.queue .video).waiting, codecs.Carries f) {node : MediaPacket}
    {env : SendEnv} (hvideo : env.videoType = codecs.video) (haudio : env.audioType = codecs.audio)
    {t : Turn} (hturn : turn s.client a.clientSockFd node env (fun _ n => n) = some t) :
    ∃ frames, Relays a env s.client t frames := by
  rw [turn] at hturn
  split_ifs at hturn with hmask
  · cases hturn
    exact ⟨[], rfl, rfl, Or.inl ⟨rfl, by simp⟩⟩
  · split at hturn
    · cases hturn
      exact ⟨[], rfl, rfl, Or.inl ⟨rfl, by simp⟩⟩
    · rename_i node' c hdequeue
      have hqueue := dequeue_queue h.playing.valid a.clientSockFd node
      rw [hdequeue] at hqueue
      obtain ⟨hof, hsig⟩ := h.queueOf hdequeue
      have hwaiting : (s.client.queue .video).waiting =
          [node'.frame] ++ (c.queue .video).waiting := by
        rw [hqueue.2 .video, if_pos hof]
      have hcarry : codecs.Carries node'.frame :=
        hcarries _ (hwaiting ▸ List.mem_append_left _ (List.mem_singleton_self _))
      split_ifs at hturn with hsize
      · -- an empty frame
        cases hturn
        refine ⟨[node'.frame], rfl, hwaiting, Or.inl ⟨rfl, ?_⟩⟩
        rintro f hf
        obtain rfl := List.mem_singleton.mp hf
        rw [MediaPacket.frame, hsize]
        rfl
      · obtain ⟨⟨ret, c', w⟩, htransmit, rfl⟩ := Option.map_eq_some_iff.mp hturn
        have hasked : ∀ type, ∀ f ∈ (c.queue type).waiting, channel a f.type ≠ -1 := by
          intro type f hf
          refine h.asked type f ?_
          rw [hqueue.2 type]
          exact List.mem_append_right _ hf
        have htaken := h.requeued (.dequeue hdequeue) (h.playing.dequeue hdequeue) hasked
        have hready : TcpReady a c := ⟨htaken.header, htaken.playing.packet, htaken.args⟩
        have hsend := hcarry.sendable hvideo haudio hsig hsize
        obtain ⟨ps, -, hofs, -⟩ := htaken.stream node'.type
        have hsd : c.sd = a.clientSockFd := htaken.sd
        rw [← hsd] at htransmit
        have hpos := transmit_pos hready hsend hofs htransmit
        obtain ⟨ret', c'', w', htransmit', -, hsent⟩ := transmit_sent hready hsend
        rw [htransmit] at htransmit'
        cases htransmit'
        have hkept : (c'.queue .video).waiting = (c.queue .video).waiting := by
          obtain ⟨packet, packet1, header, rfl⟩ := Clientinfo.Rebuffered.transmit htransmit
          rfl
        refine ⟨[node'.frame], by simpa using hpos, ?_, Or.inr
          ⟨node', w.calls, rfl, ?_, rfl, hsend, hsent⟩⟩
        · rw [hwaiting]
          exact congrArg _ hkept.symm
        · intro hempty
          have hlength := congrArg List.length hempty
          rw [MediaPacket.frame, Mem.length_read] at hlength
          exact hsize hlength

/-! ## What was sent -/

structure OnItsWay (codecs : Codecs) (a : AddArgs) (e : SentNode) : Prop where
  sent : e.Sent a
  sendable : Sendable a e.env e.node
  video : e.env.videoType = codecs.video
  audio : e.env.audioType = codecs.audio
  carries : codecs.Carries e.node.frame
  nonempty : e.node.frame.bytes ≠ []

theorem OnItsWay.audioFits {e : SentNode} (h : OnItsWay codecs a e) :
    AudioFits e.env e.node := by
  intro htype
  have haac := h.carries.aac htype
  have hpcma := h.carries.pcma htype
  rw [MediaPacket.frame, Mem.length_read] at haac hpcma
  rw [h.audio]
  exact ⟨haac, hpcma⟩

theorem split_nodes {nodes : List SentNode} (h : ∀ e ∈ nodes, OnItsWay codecs a e) :
    Framing.split 0x24 (nodes.flatMap SentNode.stream) =
      some (nodes.flatMap (SentNode.packets a)) :=
  ((inStep_iff (fun e he => (h e he).sent) fun e he => (h e he).sendable.codec).mpr
    fun e he => (h e he).audioFits).split

theorem onChannel_nodes (hdistinct : UInt8.ofInt a.sig0 ≠ UInt8.ofInt a.sig2) (type : MediaE)
    (nodes : List SentNode) : onChannel a type (nodes.flatMap (SentNode.packets a)) =
      (nodes.filter fun e => e.node.type = type).flatMap fun e => rtpPackets e.calls := by
  have hchannel : ∀ type', UInt8.ofInt (channel a type') = UInt8.ofInt (channel a type) ↔
      type' = type := by
    intro type'
    cases type <;> cases type' <;> simp [channel, hdistinct, Ne.symm hdistinct]
  induction nodes with
  | nil => rfl
  | cons e nodes ih =>
    rw [onChannel] at ih ⊢
    rw [List.flatMap_cons, List.filter_append, List.map_append, ih, List.filter_cons]
    by_cases htype : e.node.type = type
    · have hall : (e.packets a).filter (fun p => p.1 = UInt8.ofInt (channel a type)) =
          e.packets a := by
        rw [List.filter_eq_self]
        intro p hp
        obtain ⟨packet, -, rfl⟩ := List.mem_map.mp hp
        simpa using (hchannel _).mpr htype
      rw [hall, if_pos (by simpa using htype), List.flatMap_cons, SentNode.packets, List.map_map]
      simp
    · have hnone : (e.packets a).filter (fun p => p.1 = UInt8.ofInt (channel a type)) = [] := by
        rw [List.filter_eq_nil_iff]
        intro p hp
        obtain ⟨packet, -, rfl⟩ := List.mem_map.mp hp
        simpa using fun heq => htype ((hchannel _).mp heq)
      rw [hnone, if_neg (by simpa using htype)]
      rfl

/-- The NAL unit that the receiver makes of a video node. -/
def unitOf (codecs : Codecs) (node : MediaPacket) : List UInt8 :=
  if node.size ≤ PTK_RTP_TCP_MAX then node.frame.bytes
  else node.data.read 0 (codecs.format.pos + node.size)

theorem survives_unitOf (node : MediaPacket) :
    codecs.Survives node.frame.bytes (unitOf codecs node) := by
  have hlength : node.frame.bytes.length = node.size := Mem.length_read _ _ _
  rw [Codecs.Survives, unitOf, hlength]
  split_ifs with hshort
  · rfl
  · refine ⟨node.data.read node.size codecs.format.pos, Mem.length_read _ _ _, ?_⟩
    rw [Nat.add_comm, Mem.read_add, Nat.zero_add]
    rfl

theorem payloads_sent {e : SentNode} (h : e.Sent a) :
    (rtpPackets e.calls).map (List.drop RTP_HEADER_SIZE) =
      (payloads e.env e.node).map Prod.snd := by
  obtain ⟨header, hcalls⟩ := h
  rw [rtpPackets_sent hcalls, List.map_map, ← map_payload_stamp header]
  refine List.map_congr_left fun p _ => ?_
  exact List.drop_left' (by simp)

theorem OnItsWay.depacketize {e : SentNode} (h : OnItsWay codecs a e)
    (htype : e.node.type = .video) :
    depacketize codecs.sort ((rtpPackets e.calls).map (List.drop RTP_HEADER_SIZE)) =
      some [unitOf codecs e.node] := by
  have hcodec : codecs.video ≠ .none := h.carries.video htype
  have hfragments : payloads e.env e.node =
      H26x.fragments codecs.format e.node.data e.node.size := by
    rw [payloads, htype, h.video, Codecs.format]
    cases hvideo : codecs.video with
    | h264 => rfl
    | h265 => rfl
    | none => exact absurd hvideo hcodec
  have hread : codecs.format.ReadBy codecs.sort := by
    rw [Codecs.format, Codecs.sort]
    cases hvideo : codecs.video with
    | h264 => exact H26x.h264_readBy
    | h265 => exact H26x.h265_readBy
    | none => exact absurd hvideo hcodec
  have hlength : e.node.frame.bytes.length = e.node.size := Mem.length_read _ _ _
  rw [payloads_sent h.sent, hfragments, unitOf]
  split_ifs with hshort
  · exact (H26x.depacketize_short _ _ _ hshort).mpr
      (h.carries.single htype h.nonempty (hlength.trans_le hshort))
  · exact H26x.depacketize_long hread _ _ (by omega)

theorem OnItsWay.audioData {e : SentNode} (h : OnItsWay codecs a e)
    (htype : e.node.type = .audio) :
    (rtpPackets e.calls).map codecs.audioData = [e.node.frame.bytes] := by
  obtain ⟨header, hcalls⟩ := h.sent
  have hcodec := h.carries.audio htype
  rw [rtpPackets_sent hcalls, payloads, htype, h.audio]
  cases haudio : codecs.audio with
  | aac =>
    have hdata : codecs.audioData = auData := by
      funext packet
      rw [Codecs.audioData, haudio]
    rw [hdata]
    rfl
  | pcma =>
    have hdata : codecs.audioData = List.drop RTP_HEADER_SIZE := by
      funext packet
      rw [Codecs.audioData, haudio]
    rw [hdata]
    rfl
  | none => exact absurd haudio hcodec

theorem receive_nodes (hdistinct : UInt8.ofInt a.sig0 ≠ UInt8.ofInt a.sig2)
    {nodes : List SentNode} (h : ∀ e ∈ nodes, OnItsWay codecs a e) :
    receive codecs a (nodes.flatMap SentNode.stream) = some
      ⟨(nodes.filter fun e => e.node.type = .video).map fun e => unitOf codecs e.node,
        (nodes.filter fun e => e.node.type = .audio).map fun e => e.node.frame.bytes⟩ := by
  have hvideo : depacketize codecs.sort
      (((nodes.filter fun e => e.node.type = .video).flatMap fun e => rtpPackets e.calls).map
        (List.drop RTP_HEADER_SIZE)) =
      some ((nodes.filter fun e => e.node.type = .video).map fun e => unitOf codecs e.node) := by
    rw [List.map_flatMap]
    apply depacketize_flatMap
    intro e he
    obtain ⟨hmem, htype⟩ := List.mem_filter.mp he
    exact (h e hmem).depacketize (by simpa using htype)
  have haudio : ((nodes.filter fun e => e.node.type = .audio).flatMap
      fun e => rtpPackets e.calls).map codecs.audioData =
      (nodes.filter fun e => e.node.type = .audio).map fun e => e.node.frame.bytes := by
    rw [List.map_flatMap, ← List.flatMap_singleton' (List.map _ _), List.flatMap_map]
    apply List.flatMap_congr
    intro e he
    obtain ⟨hmem, htype⟩ := List.mem_filter.mp he
    exact (h e hmem).audioData (by simpa using htype)
  rw [receive, split_nodes h, Option.bind_some, onChannel_nodes hdistinct,
    onChannel_nodes hdistinct, hvideo, haudio]
  rfl

/-! ## All the way -/

namespace Relay

/-- The nodes that were sent and the frames that wait are the frames that were handed out. -/
structure Ok (codecs : Codecs) (slot : Nat) (a : AddArgs) (audioType : AudioE) (s : Relay)
    (nodes : List SentNode) (sent : List MediaFrame) : Prop where
  live : s.stream.Live slot a audioType
  log : s.stream.log = nodes.map fun e => (e.node.type, e.calls)
  onItsWay : ∀ e ∈ nodes, OnItsWay codecs a e
  handed : s.handed = sent ++ s.waiting
  sent : sent.filter (fun f => f.bytes ≠ []) = nodes.map fun e => e.node.frame
  waiting : ∀ f ∈ s.waiting, codecs.Carries f

theorem ok_start (codecs : Codecs) (slot : Nat) {c : Clientinfo} (hidle : c.Idle)
    (htcp : a.tureOfTcp = 1) (hsd : 0 ≤ a.clientSockFd) (audioType : AudioE) (mem : Fresh) :
    (start slot c a audioType mem).Ok codecs slot a audioType [] [] := by
  obtain ⟨cells, hqueue⟩ := queue_setClient hidle a audioType mem slot .video
  have hempty : (start slot c a audioType mem).waiting = [] := by
    change ((setClient a audioType mem slot c).queue .video).waiting = []
    rw [hqueue]
    rfl
  refine ⟨StreamState.live_start slot hidle htcp hsd audioType mem, rfl, by simp, ?_, rfl, ?_⟩
  · rw [hempty]
    rfl
  · rw [hempty]
    simp

theorem Ok.step {s s' : Relay} {nodes : List SentNode} {sent : List MediaFrame}
    (h : s.Ok codecs slot a audioType nodes sent) {l : RelayLabel} (hl : Allowed codecs s l)
    (hstep : s.step a l = some s') :
    ∃ nodes' sent', s'.Ok codecs slot a audioType nodes' sent' := by
  cases l with
  | callback m fresh =>
    have hcallable := h.live.playing.callable
    rw [Relay.step] at hstep
    obtain ⟨stream, hstream, rfl⟩ := Option.map_eq_some_iff.mp hstep
    rw [StreamState.step, if_pos hcallable] at hstream
    obtain rfl := Option.some.inj hstream
    have hwaiting := (sendData_queue m fresh h.live.playing.valid .video).2
    have hshare : s.stream.client.share m .video =
        if s.stream.client.callable ∧ channel a m.type ≠ -1 then [m.mediaFrame] else [] := by
      have hvideo : s.stream.client.sig0 = channel a .video := h.live.args .video
      have haudio : s.stream.client.sig2 = channel a .audio := h.live.args .audio
      rw [Clientinfo.share]
      cases m.type <;> simp [Clientinfo.route, h.live.ports, hcallable, hvideo, haudio]
    rw [hshare] at hwaiting
    refine ⟨nodes, sent, h.live.callback m fresh, h.log, h.onItsWay, ?_, h.sent, ?_⟩
    · change (if _ then _ else _) = sent ++ ((sendData m.toMediainfo fresh s.stream.client).queue
        .video).waiting
      rw [hwaiting, ← List.append_assoc]
      split_ifs
      · rw [h.handed]
        rfl
      · rw [List.append_nil]
        exact h.handed
    · intro f hf
      change f ∈ ((sendData m.toMediainfo fresh s.stream.client).queue .video).waiting at hf
      rw [hwaiting] at hf
      obtain hf | hf := List.mem_append.mp hf
      · exact h.waiting f hf
      · split_ifs at hf
        · obtain rfl := List.mem_singleton.mp hf
          exact hl
        · cases hf
  | event node env =>
    rw [Relay.step] at hstep
    obtain ⟨stream, hstream, rfl⟩ := Option.map_eq_some_iff.mp hstep
    obtain ⟨t, hturn, rfl⟩ := Option.map_eq_some_iff.mp hstream
    obtain ⟨frames, hrelays⟩ := h.live.relays h.waiting hl.1 hl.2 hturn
    have hlive := (h.live.event hturn).2 hrelays.online
    have hqueue : s.waiting = frames ++ (t.client.queue .video).waiting := hrelays.waiting
    have hcarries : ∀ f ∈ frames ++ (t.client.queue .video).waiting, codecs.Carries f :=
      hqueue ▸ h.waiting
    have hoffline : (if t.offline then clearClient t.client else t.client) = t.client := by
      rw [hrelays.online]
      rfl
    have hhanded : s.handed = (sent ++ frames) ++ (t.client.queue .video).waiting := by
      rw [h.handed, hqueue, List.append_assoc]
    have hrest : ∀ f ∈ (t.client.queue .video).waiting, codecs.Carries f :=
      fun f hf => hcarries f (List.mem_append_right _ hf)
    rw [hoffline]
    obtain ⟨hsent, hempty⟩ | ⟨node', calls, rfl, hne, hsent, hsendable, hcalls⟩ := hrelays.sent
    · refine ⟨nodes, sent ++ frames, hlive, ?_, h.onItsWay, hhanded, ?_, hrest⟩
      · rw [hsent]
        simpa using h.log
      · rw [List.filter_append, h.sent, List.filter_eq_nil_iff.mpr, List.append_nil]
        intro f hf
        simpa using hempty f hf
    · refine ⟨nodes ++ [⟨env, node', calls⟩], sent ++ [node'.frame], hlive, ?_, ?_, hhanded, ?_,
        hrest⟩
      · rw [hsent]
        simp [h.log]
      · intro e he
        obtain he | he := List.mem_append.mp he
        · exact h.onItsWay e he
        · obtain rfl := List.mem_singleton.mp he
          exact ⟨hcalls, hsendable, hl.1, hl.2,
            hcarries _ (List.mem_append_left _ (List.mem_singleton_self _)), hne⟩
      · rw [List.filter_append, h.sent, List.map_append]
        simp [hne]

/-- Some of the frames that were handed out are sent, and the others wait. -/
def InOrder (codecs : Codecs) (slot : Nat) (a : AddArgs) (audioType : AudioE) (s : Relay) : Prop :=
  ∃ nodes sent, s.Ok codecs slot a audioType nodes sent

theorem InOrder.step {s s' : Relay} (h : s.InOrder codecs slot a audioType) {l : RelayLabel}
    (hl : Allowed codecs s l) (hstep : s.step a l = some s') :
    s'.InOrder codecs slot a audioType := by
  obtain ⟨nodes, sent, hok⟩ := h
  exact hok.step hl hstep

theorem dataOf_sent {nodes : List SentNode} {sent : List MediaFrame}
    (h : sent.filter (fun f => f.bytes ≠ []) = nodes.map fun e => e.node.frame) (type : MediaE) :
    dataOf type sent =
      (nodes.filter fun e => e.node.type = type).map fun e => e.node.frame.bytes := by
  have hsplit : (sent.filter fun f => f.type = type ∧ f.bytes ≠ []) =
      (sent.filter fun f => f.bytes ≠ []).filter fun f => f.type = type := by
    rw [List.filter_filter]
    apply List.filter_congr
    simp
  rw [dataOf, hsplit, h, List.filter_map, List.map_map]
  rfl

theorem InOrder.received {s : Relay} (h : s.InOrder codecs slot a audioType)
    (hdistinct : UInt8.ofInt a.sig0 ≠ UInt8.ofInt a.sig2) :
    ∃ sent r, s.handed = sent ++ s.waiting ∧ receive codecs a s.bytes = some r ∧
      List.Forall₂ codecs.Survives (dataOf .video sent) r.nals ∧ r.audio = dataOf .audio sent := by
  obtain ⟨nodes, sent, hok⟩ := h
  have hbytes : s.bytes = nodes.flatMap SentNode.stream := by
    rw [bytes, StreamState.allCalls, hok.log, List.flatMap_map, List.map_flatMap,
      List.flatten_eq_flatMap, List.flatMap_assoc]
    apply List.flatMap_congr
    intro e _
    rw [SentNode.stream, List.flatten_eq_flatMap]
  have hreceive := receive_nodes hdistinct hok.onItsWay
  rw [← hbytes] at hreceive
  refine ⟨sent, _, hok.handed, hreceive, ?_, ?_⟩
  · rw [dataOf_sent hok.sent]
    dsimp only
    rw [List.forall₂_map_left_iff, List.forall₂_map_right_iff, List.forall₂_same]
    exact fun e _ => survives_unitOf e.node
  · rw [dataOf_sent hok.sent]

theorem inOrder_start (codecs : Codecs) (slot : Nat) {c : Clientinfo} (hidle : c.Idle)
    (htcp : a.tureOfTcp = 1) (hsd : 0 ≤ a.clientSockFd) (audioType : AudioE) (mem : Fresh) :
    (start slot c a audioType mem).InOrder codecs slot a audioType :=
  ⟨[], [], ok_start codecs slot hidle htcp hsd audioType mem⟩

/-- **All the way.** However the callbacks and the events of the socket follow each other, the
receiver of a client over TCP has the frames that were handed out for it, in their order and without
a gap, up to those that still wait. -/
theorem received_reach (slot : Nat) {c : Clientinfo} (hidle : c.Idle) {a : AddArgs}
    (htcp : a.tureOfTcp = 1) (hsd : 0 ≤ a.clientSockFd)
    (hdistinct : UInt8.ofInt a.sig0 ≠ UInt8.ofInt a.sig2) (audioType : AudioE) (mem : Fresh)
    (codecs : Codecs) {s : Relay}
    (h : Reach (step a) (Allowed codecs) (start slot c a audioType mem) s) :
    ∃ sent r, s.handed = sent ++ s.waiting ∧ receive codecs a s.bytes = some r ∧
      List.Forall₂ codecs.Survives (dataOf .video sent) r.nals ∧ r.audio = dataOf .audio sent := by
  have hinOrder : s.InOrder codecs slot a audioType :=
    h.invariant (inOrder_start codecs slot hidle htcp hsd audioType mem)
      fun _ _ _ hinv hl hstep => hinv.step hl hstep
  exact hinOrder.received hdistinct

/-- Two NAL units for a player, the first of which is sent. -/
def oneOfTwo : List RelayLabel :=
  [.callback (nalDelivery 0x65) fun _ _ => zeroPacket,
    .callback (nalDelivery 0x41) fun _ _ => zeroPacket, .event zeroPacket zeroEnv]

theorem carries_nalDelivery {b : UInt8} (h : rfc6184 [b] = .single [b]) :
    Codecs.Carries ⟨.h264, .aac⟩ (nalDelivery b).mediaFrame where
  size := show 1 ≤ 2 * 1024 * 1024 by decide
  video _ := by decide
  single _ _ _ := h
  audio htype := MediaE.noConfusion (htype : MediaE.video = .audio)
  aac htype := MediaE.noConfusion (htype : MediaE.video = .audio)
  pcma htype := MediaE.noConfusion (htype : MediaE.video = .audio)

theorem received_oneOfTwo : ∃ s, runs (step (tcpPlayer 7))
      (start 0 initClient (tcpPlayer 7) .aac zeroFresh) oneOfTwo = some s ∧
    ∃ sent r, s.handed = sent ++ s.waiting ∧
      receive ⟨.h264, .aac⟩ (tcpPlayer 7) s.bytes = some r ∧
      List.Forall₂ (Codecs.Survives ⟨.h264, .aac⟩) (dataOf .video sent) r.nals ∧
      r.audio = dataOf .audio sent := by
  refine ⟨_, rfl, received_reach 0 (idle_initClient none) rfl (by decide) (by decide) .aac zeroFresh
    ⟨.h264, .aac⟩ (.of_runs_forall oneOfTwo ?_ rfl)⟩
  simp only [oneOfTwo, List.forall_mem_cons, List.not_mem_nil, false_imp_iff, implies_true,
    and_true]
  exact ⟨fun _ => carries_nalDelivery (by decide), fun _ => carries_nalDelivery (by decide),
    fun _ => ⟨rfl, rfl⟩⟩

end Relay

end SimpleRtsp

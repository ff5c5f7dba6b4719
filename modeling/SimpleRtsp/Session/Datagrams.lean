import Mathlib.Data.List.Forall2
import SimpleRtsp.Rtp.Trains
import SimpleRtsp.Session.Hosted
import SimpleRtsp.Session.Receiver

/-!
# What a client over UDP receives

Over UDP each stream has a queue and a socket of its own, and the network may lose a datagram,
double it, or bring it late. `arrived_reach` follows the frames: from the start of a client on, and
whatever its sockets answer, the datagrams of a stream are the packets of the frames that were
handed out, in their order, up to the frames that still wait. So a receiver that goes by the
sequence numbers (`Codecs.putTogether`) gets the frames whose packets arrive in one piece, and never
a unit made of different frames, as long as no datagram arrives 65536 numbers away from the one
before it.
-/

namespace SimpleRtsp

open StreamState (payloadType)

/-! ## The receiver -/

/-- As many datagrams as a frame is sent in. -/
def frameCount (type : MediaE) (f : MediaFrame) : Nat :=
  match type with
  | .video => packetCount f.bytes.length
  | .audio => 1

namespace Codecs

variable (codecs : Codecs)

/-- A payload of a stream as a part of a frame. -/
def part (type : MediaE) (payload : List UInt8) : Option (Arrivals.Part (List UInt8)) :=
  match type with
  | .video => (codecs.sort payload).part
  | .audio =>
    match codecs.audio with
    | .aac => some ⟨true, true, payload.drop 4⟩
    | _ => some ⟨true, true, payload⟩

def packet (type : MediaE) (datagram : List UInt8) : Option (Nat × Arrivals.Part (List UInt8)) :=
  (codecs.part type (rtpPayload datagram)).map fun part => (rtpSeq datagram, part)

/-- What a receiver makes of the datagrams of a stream, in the order they arrive in. -/
def putTogether (type : MediaE) (datagrams : List (List UInt8)) : List (List UInt8) :=
  (Arrivals.Collector.collect 65536 (datagrams.filterMap (codecs.packet type))).done.map
    List.flatten

/-- A frame that a receiver of its stream can read. -/
structure Understands (f : MediaFrame) : Prop where
  video : f.type = .video → codecs.video ≠ .none
  single : f.type = .video → f.bytes ≠ [] → f.bytes.length ≤ PTK_RTP_TCP_MAX →
    codecs.sort f.bytes = .single f.bytes
  audio : f.type = .audio → codecs.audio ≠ .none

/-- What becomes of a frame of a stream. -/
def Arrives (type : MediaE) (f : MediaFrame) (unit : List UInt8) : Prop :=
  match type with
  | .video => codecs.Survives f.bytes unit
  | .audio => unit = f.bytes

/-! ## The train of a node -/

def payloads (type : MediaE) (node : MediaPacket) : List (List UInt8) :=
  match type with
  | .video => (H26x.fragments codecs.format node.data node.size).map Prod.snd
  | .audio =>
    match codecs.audio with
    | .aac => [Audio.aacAu node.size ++ node.frame.bytes]
    | _ => [node.frame.bytes]

def train (type : MediaE) (node : MediaPacket) : List (List UInt8) :=
  match type with
  | .video => H26x.train codecs.format codecs.sort node.data node.size
  | .audio => [node.frame.bytes]

end Codecs

variable {codecs : Codecs} {type : MediaE} {node : MediaPacket}

theorem Codecs.readBy (h : codecs.video ≠ .none) : codecs.format.ReadBy codecs.sort := by
  rw [Codecs.format, Codecs.sort]
  cases hvideo : codecs.video with
  | h264 => exact H26x.h264_readBy
  | h265 => exact H26x.h265_readBy
  | none => exact absurd hvideo h

theorem MediaPacket.length_frame (node : MediaPacket) : node.frame.bytes.length = node.size :=
  Mem.length_read _ _ _

theorem Codecs.Understands.single_read (h : codecs.Understands node.frame)
    (htype : node.type = .video) (hsize : node.size ≠ 0) (hshort : node.size ≤ PTK_RTP_TCP_MAX) :
    codecs.sort (node.data.read 0 node.size) = .single (node.data.read 0 node.size) := by
  refine h.single htype (fun hempty => hsize ?_) ?_
  · rw [← node.length_frame, hempty]
    rfl
  · rwa [node.length_frame]

theorem length_train (node : MediaPacket) :
    (codecs.train type node).length = frameCount type node.frame := by
  cases type with
  | video => rw [Codecs.train, H26x.length_train, frameCount, node.length_frame]
  | audio => rfl

theorem frameCount_pos (type : MediaE) (f : MediaFrame) : 0 < frameCount type f := by
  cases type with
  | video => exact H26x.packetCount_pos _
  | audio => exact Nat.one_pos

theorem map_part (h : codecs.Understands node.frame) (htype : node.type = type)
    (hsize : node.size ≠ 0) : (codecs.payloads type node).map (codecs.part type) =
      (Arrivals.parts (codecs.train type node)).map some := by
  subst htype
  cases htype : node.type with
  | video =>
    rw [Codecs.payloads, List.map_map]
    exact H26x.map_part (Codecs.readBy (h.video htype)) node.data node.size
      (h.single_read htype hsize)
  | audio =>
    rw [Codecs.payloads, Codecs.train]
    unfold Codecs.part
    cases codecs.audio <;> rfl

theorem arrives_train (h : codecs.Understands node.frame) (htype : node.type = type)
    (hsize : node.size ≠ 0) :
    codecs.Arrives type node.frame (codecs.train type node).flatten := by
  subst htype
  cases htype : node.type with
  | video =>
    rw [Codecs.Arrives, Codecs.train, H26x.flatten_train (Codecs.readBy (h.video htype)) _ _
      (h.single_read htype hsize)]
    exact survives_unitOf node
  | audio =>
    rw [Codecs.Arrives, Codecs.train]
    simp

/-! ## One node -/

theorem packetiser_stamps {env : SendEnv} {send : SendArgs → SendM Int}
    (hsend : packetiser env node = some send) (a : SendArgs) {t : Tx} (ht : t.overTcp a ∨ t.Ready) :
    (send a).Meets t
      (fun _ t' => ∃ timestamp, ({ t.header with timestamp := timestamp } : RtpHeader).After
          t'.header (SimpleRtsp.payloads env node).length ∧
        Emits a t t' (stamp { t.header with timestamp := timestamp }
          (SimpleRtsp.payloads env node)))
      (fun t' => ∃ timestamp, Cut a t t' (stamp { t.header with timestamp := timestamp }
        (SimpleRtsp.payloads env node))) := by
  have hvideo : ∀ fmt, (H26x.rtpSendFrame fmt env.tv a node.data node.size).Meets t
      (fun _ t' => ∃ timestamp, ({ t.header with timestamp := timestamp } : RtpHeader).After
          t'.header (H26x.fragments fmt node.data node.size).length ∧
        Emits a t t' (stamp { t.header with timestamp := timestamp }
          (H26x.fragments fmt node.data node.size)))
      (fun t' => ∃ timestamp, Cut a t t' (stamp { t.header with timestamp := timestamp }
        (H26x.fragments fmt node.data node.size))) := fun fmt =>
    (H26x.rtpSendFrame_meets fmt env.tv a node.data node.size t).mono (fun _ _ h => ⟨_, h.2⟩)
      fun _ h => ⟨_, h⟩
  have haudio : ∀ au, (Audio.rtpSendFrame au env.tv a node.data node.size env.sampleRate
      env.ret₀).Meets t
      (fun _ t' => ∃ timestamp, ({ t.header with timestamp := timestamp } : RtpHeader).After
          t'.header 1 ∧ Emits a t t' (stamp { t.header with timestamp := timestamp }
            [(1, au node.size ++ node.data.read 0 node.size)]))
      (fun t' => ∃ timestamp, Cut a t t' (stamp { t.header with timestamp := timestamp }
        [(1, au node.size ++ node.data.read 0 node.size)])) := fun au =>
    (Audio.rtpSendFrame_meets au env.tv a node.data node.size env.sampleRate env.ret₀ t ht).mono
      (fun _ _ h => ⟨_, h.2⟩) fun _ h => ⟨_, h⟩
  cases htype : node.type with
  | video =>
    cases hcodec : env.videoType <;> simp only [packetiser, htype, hcodec] at hsend <;>
      cases hsend <;> simp only [SimpleRtsp.payloads, htype, hcodec]
    · exact hvideo H26x.h264
    · exact hvideo H26x.h265
  | audio =>
    cases hcodec : env.audioType <;> simp only [packetiser, htype, hcodec] at hsend <;>
      cases hsend <;> simp only [SimpleRtsp.payloads, htype, hcodec]
    · exact haudio Audio.aacAu
    · exact haudio fun _ => []

theorem packetiser_isSome {env : SendEnv} (h : codecs.Understands node.frame)
    (hvideo : env.videoType = codecs.video) (haudio : env.audioType = codecs.audio) :
    ∃ send, packetiser env node = some send := by
  rw [packetiser]
  cases htype : node.type with
  | video =>
    have hne := h.video htype
    rw [← hvideo] at hne
    cases hcodec : env.videoType with
    | h264 => exact ⟨_, rfl⟩
    | h265 => exact ⟨_, rfl⟩
    | none => exact absurd hcodec hne
  | audio =>
    have hne := h.audio htype
    rw [← haudio] at hne
    cases hcodec : env.audioType with
    | aac => exact ⟨_, rfl⟩
    | pcma => exact ⟨_, rfl⟩
    | none => exact absurd hcodec hne

theorem payloads_eq {env : SendEnv} (h : codecs.Understands node.frame)
    (hvideo : env.videoType = codecs.video) (haudio : env.audioType = codecs.audio) :
    (SimpleRtsp.payloads env node).map Prod.snd = codecs.payloads node.type node := by
  rw [SimpleRtsp.payloads]
  cases htype : node.type with
  | video =>
    rw [hvideo, Codecs.payloads, Codecs.format]
    cases hcodec : codecs.video with
    | h264 => rfl
    | h265 => rfl
    | none => exact absurd hcodec (h.video htype)
  | audio =>
    rw [haudio, Codecs.payloads]
    cases hcodec : codecs.audio with
    | aac => rfl
    | pcma => rfl
    | none => exact absurd hcodec (h.audio htype)

theorem flatMap_bufs_udp (a : SendArgs) (ps : List Packet) :
    ps.flatMap (Packet.bufs a false) = ps.map Packet.wire :=
  (List.map_eq_flatMap ..).symm

/-- **Sending a node over UDP**: its packets are the datagrams, or the client goes offline behind
the first ones. -/
theorem transmit_udp {env : SendEnv} {c c' : Clientinfo} {fd ret : Int}
    {result : Nat → Nat → Int} {w : Wire}
    (h : transmit env c fd node ⟨result, []⟩ = some (ret, c', w)) (hudp : (fd == c.sd) = false)
    (hnode : codecs.Understands node.frame) (hvideo : env.videoType = codecs.video)
    (haudio : env.audioType = codecs.audio) {payloadType : UInt8} {n : Nat}
    (hof : ∀ p ∈ c.packet node.type, p.rtpHeader.Of payloadType n) :
    (∀ type, type ≠ node.type → c'.packet type = c.packet type) ∧
      ∃ ps, Numbered payloadType n ps ∧ ps.map Packet.payload = codecs.payloads node.type node ∧
        ((∀ p ∈ c'.packet node.type, p.rtpHeader.Of payloadType (n + ps.length)) ∧
            accepted w.calls = ps.map Packet.wire ∨
          ret ≤ 0 ∧ accepted w.calls <+: ps.map Packet.wire) := by
  obtain ⟨send, hsend⟩ := packetiser_isSome hnode hvideo haudio
  obtain ⟨⟨ret₁, c₁, w₁⟩, hsent, hret⟩ := Option.map_eq_some_iff.mp h
  rw [hudp] at hsent hret
  rw [sendNode, hsend] at hsent
  obtain ⟨packet, hpacket, hsent⟩ := Option.map_eq_some_iff.mp hsent
  let a := sendArgs c false node.type
  let t : Tx := ⟨none, packet, ⟨result, []⟩⟩
  have hover : t.overTcp a = false := rfl
  have hmeets := packetiser_stamps hsend a (t := t) (Or.inr (by simp [Tx.Ready, t]))
  have hother : ∀ (t' : Tx) type, type ≠ node.type →
      (c.putBack false node.type t').packet type = c.packet type := by
    intro t' type htype
    cases type <;> cases hnode : node.type <;> first | rfl | exact absurd hnode.symm htype
  have hself : ∀ t' : Tx, (c.putBack false node.type t').packet node.type = some t'.rtpPacket := by
    intro t'
    cases node.type <;> rfl
  have hcalls : ∀ t' : Tx, t.callsTo t' = t'.wire.calls := fun _ => rfl
  have hstamped : ∀ timestamp, (stamp ({ t.header with timestamp := timestamp } : RtpHeader)
      (SimpleRtsp.payloads env node)).map Packet.payload = codecs.payloads node.type node :=
    fun timestamp => (map_payload_stamp _ _).trans (payloads_eq hnode hvideo haudio)
  have hnumbered := fun timestamp =>
    stamp_numbered ((hof packet hpacket).timestamp timestamp) (SimpleRtsp.payloads env node)
  change ((send a t).1.getD (-1), c.putBack false node.type (send a t).2, (send a t).2.wire) = _
    at hsent
  rw [EarlyM.Meets] at hmeets
  split at hmeets
  · rename_i ret₂ t' hrun
    obtain ⟨timestamp, hafter, hemits⟩ := hmeets
    rw [hrun] at hsent
    cases hsent
    cases hret
    refine ⟨hother t', _, hnumbered timestamp, hstamped timestamp, Or.inl ⟨?_, ?_⟩⟩
    · rw [hself]
      rintro p ⟨⟩
      rw [length_stamp]
      exact ((hof packet hpacket).timestamp timestamp).after hafter
    · have hall := hemits.calls.2
      rwa [hcalls, hover, flatMap_bufs_udp] at hall
  · rename_i t' hrun
    obtain ⟨timestamp, hcut⟩ := hmeets
    rw [hrun] at hsent
    cases hsent
    refine ⟨?_, _, hnumbered timestamp, hstamped timestamp, Or.inr ⟨?_, ?_⟩⟩
    · cases hret
      exact hother t'
    · rw [← (Prod.mk.inj hret).1]
      split_ifs <;> simp
    · have hall := hcut.calls.2
      rw [hcalls, hover, flatMap_bufs_udp] at hall
      cases hret
      exact hall

/-! ## Runs -/

/-- A client over UDP, and the frames that were handed out for it. -/
structure UdpRelay where
  stream : StreamState
  handed : List MediaFrame

inductive UdpLabel where
  | callback (m : Delivery) (fresh : MediaE → Nat → MediaPacket)
  | event (fd : Int) (node : MediaPacket) (env : SendEnv) (result : Nat → Nat → Int)

namespace UdpRelay

def start (slot : Nat) (c : Clientinfo) (a : AddArgs) (audioType : AudioE) (mem : Fresh) :
    UdpRelay :=
  ⟨.start slot c a audioType mem, []⟩

/-- The steps of the client: callbacks, and events on any descriptor. -/
def step (s : UdpRelay) : UdpLabel → Option UdpRelay
  | .callback m fresh =>
    (s.stream.step 0 (.callback m fresh)).map fun stream =>
      { stream := stream
        handed :=
          if s.stream.client.callable ∧ (s.stream.client.route m.type).isSome then
            s.handed ++ [m.mediaFrame]
          else s.handed }
  | .event fd node env result =>
    (s.stream.step fd (.event node env result)).map fun stream => { s with stream := stream }

/-- The frames can be read, the codecs of the file do not change, and an event has a descriptor. -/
def Allowed (codecs : Codecs) (_ : UdpRelay) : UdpLabel → Prop
  | .callback m _ => codecs.Understands m.mediaFrame
  | .event fd _ env _ => 0 ≤ fd ∧ env.videoType = codecs.video ∧ env.audioType = codecs.audio

def datagrams (s : UdpRelay) (type : MediaE) : List (List UInt8) := accepted (s.stream.calls type)

def ofType (type : MediaE) (frames : List MediaFrame) : List MediaFrame :=
  frames.filter fun f => f.type = type

/-- An empty frame is not sent. -/
def nonempty (frames : List MediaFrame) : List MediaFrame := frames.filter fun f => f.bytes ≠ []

/-- The packets of the first frames of a stream, up to those in `rest`. -/
structure Sends (codecs : Codecs) (payloadType : UInt8) (type : MediaE)
    (handed sent rest : List MediaFrame) (ps : List Packet) : Prop where
  handed : ofType type handed = sent ++ rest
  numbered : Numbered payloadType 0 ps
  nodes : ∃ nodes : List MediaPacket, nonempty sent = nodes.map (·.frame) ∧
    (∀ n ∈ nodes, n.type = type ∧ codecs.Understands n.frame) ∧
    ps.map Packet.payload = nodes.flatMap (codecs.payloads type)

/-- The datagrams are the first packets of the frames, which lie in the memory of `nodes`: they are
numbered from 0, and each has the next payload. -/
structure InSequence (codecs : Codecs) (type : MediaE) (frames : List MediaFrame)
    (datagrams : List (List UInt8)) : Prop where
  seq : ∀ k datagram, datagrams[k]? = some datagram → rtpSeq datagram = k % 65536
  payloads : ∃ nodes : List MediaPacket, nodes.map (·.frame) = frames ∧
    (∀ n ∈ nodes, n.type = type) ∧
    datagrams.map rtpPayload <+: nodes.flatMap (codecs.payloads type)

/-- A client that plays. -/
structure Live (codecs : Codecs) (slot : Nat) (a : AddArgs) (audioType : AudioE) (s : UdpRelay) :
    Prop where
  playing : s.stream.client.Playing slot
  hosted : a.Hosted s.stream.client
  waiting : ∀ type, ∀ f ∈ (s.stream.client.queue type).waiting, codecs.Understands f
  stream : ∀ type, ∃ sent ps, Sends codecs (payloadType audioType type) type s.handed sent
      (s.stream.client.queue type).waiting ps ∧
    (∀ p ∈ s.stream.client.packet type,
      p.rtpHeader.Of (payloadType audioType type) ps.length) ∧
    s.datagrams type = ps.map Packet.wire

/-- What holds whether the client still plays or not. -/
def Good (codecs : Codecs) (audioType : AudioE) (s : UdpRelay) : Prop :=
  ∀ type, ∃ sent rest ps, Sends codecs (payloadType audioType type) type s.handed sent rest ps ∧
    s.datagrams type <+: ps.map Packet.wire

variable {codecs : Codecs} {slot : Nat} {a : AddArgs} {audioType : AudioE} {s s' : UdpRelay}

theorem Live.good (h : s.Live codecs slot a audioType) : s.Good codecs audioType := by
  intro type
  obtain ⟨sent, ps, hsends, -, hdatagrams⟩ := h.stream type
  exact ⟨sent, _, ps, hsends, hdatagrams ▸ List.prefix_refl _⟩

theorem live_start (codecs : Codecs) (slot : Nat) {c : Clientinfo} (hidle : c.Idle)
    (hclear : c.Clear) (hsd : 0 ≤ a.clientSockFd) (audioType : AudioE) (mem : Fresh) :
    (start slot c a audioType mem).Live codecs slot a audioType := by
  have hempty : ∀ type,
      ((start slot c a audioType mem).stream.client.queue type).waiting = [] := by
    intro type
    obtain ⟨cells, hqueue⟩ := queue_setClient hidle a audioType mem slot type
    change ((setClient a audioType mem slot c).queue type).waiting = []
    rw [hqueue]
    rfl
  refine ⟨playing_setClient hidle a hsd audioType mem slot,
    hosted_setClient hidle hclear a audioType mem slot, fun type f hf => ?_, fun type => ?_⟩
  · rw [hempty] at hf
    cases hf
  · refine ⟨[], [], ⟨?_, trivial, [], rfl, by simp, rfl⟩, fun p hp => ?_, rfl⟩
    · rw [hempty]
      rfl
    · have hpacket : (start slot c a audioType mem).stream.client.packet type =
          (setBuffers audioType mem c).packet type :=
        eventAdd_packet slot
          (setBuffers audioType mem (setTransport a { c with sd := a.clientSockFd })) type
      rw [hpacket] at hp
      cases type <;> cases hp <;> exact rtpHeaderInit_of _ _

theorem route_udp (hudp : a.tureOfTcp ≠ 1) {type type' : MediaE}
    (h : a.host.route type = some type') : type = type' := by
  obtain ⟨⟨-, hsig2⟩, -⟩ := AddArgs.host_udp hudp
  cases type with
  | video =>
    rw [Clientinfo.route] at h
    split_ifs at h
    exact Option.some.inj h
  | audio =>
    rw [Clientinfo.route, hsig2] at h
    split_ifs at h
    · exact Option.some.inj h
    · contradiction

theorem Live.callback (hudp : a.tureOfTcp ≠ 1) (h : s.Live codecs slot a audioType)
    {m : Delivery} {fresh : MediaE → Nat → MediaPacket} (hm : codecs.Understands m.mediaFrame)
    (hstep : s.step (.callback m fresh) = some s') : s'.Live codecs slot a audioType := by
  have hcallable := h.playing.callable
  rw [UdpRelay.step] at hstep
  obtain ⟨stream, hstream, rfl⟩ := Option.map_eq_some_iff.mp hstep
  rw [StreamState.step, if_pos hcallable] at hstream
  obtain rfl := Option.some.inj hstream
  have hqueue := fun type => (sendData_queue m fresh h.playing.valid type).2
  have hshare : ∀ type, s.stream.client.share m type = ofType type
      (if s.stream.client.callable ∧ (s.stream.client.route m.type).isSome then [m.mediaFrame]
        else []) := by
    intro type
    rw [Clientinfo.share, h.hosted.route]
    cases hroute : a.host.route m.type with
    | none => simp [ofType]
    | some type' =>
      obtain rfl := route_udp hudp hroute
      by_cases htype : m.type = type
      · simp [ofType, hcallable, htype, m.mediaFrame_type]
      · simp [ofType, hcallable, htype, m.mediaFrame_type]
  refine ⟨h.playing.sendData m fresh, h.hosted.sendData h.playing.valid m fresh,
    fun type f hf => ?_, fun type => ?_⟩
  · rw [hqueue] at hf
    obtain hf | hf := List.mem_append.mp hf
    · exact h.waiting type f hf
    · rw [Clientinfo.share] at hf
      split_ifs at hf
      · obtain rfl := List.mem_singleton.mp hf
        exact hm
      · cases hf
  · obtain ⟨sent, ps, hsends, hof, hdatagrams⟩ := h.stream type
    refine ⟨sent, ps, ⟨?_, hsends.numbered, hsends.nodes⟩, ?_, hdatagrams⟩
    · rw [hqueue, ← List.append_assoc, ← hsends.handed, hshare]
      dsimp only
      split_ifs
      · exact List.filter_append ..
      · rw [ofType, ofType, List.filter_nil, List.append_nil]
    · rw [StreamState.packet_requeued (.sendData _ _ _)]
      exact hof

theorem nonempty_append (frames frames' : List MediaFrame) :
    nonempty (frames ++ frames') = nonempty frames ++ nonempty frames' := List.filter_append ..

namespace Sends

variable {payloadType : UInt8} {type : MediaE} {handed sent rest : List MediaFrame}
  {ps ps' : List Packet}

theorem drop {f : MediaFrame} (h : Sends codecs payloadType type handed sent (f :: rest) ps)
    (hempty : f.bytes = []) : Sends codecs payloadType type handed (sent ++ [f]) rest ps where
  handed := by rw [h.handed, List.append_assoc, List.singleton_append]
  numbered := h.numbered
  nodes := by
    have hnone : nonempty [f] = [] := by simp [nonempty, hempty]
    rw [nonempty_append, hnone, List.append_nil]
    exact h.nodes

theorem send {node : MediaPacket}
    (h : Sends codecs payloadType type handed sent (node.frame :: rest) ps) (hsize : node.size ≠ 0)
    (htype : node.type = type) (hnode : codecs.Understands node.frame)
    (hps : Numbered payloadType ps.length ps')
    (hpayloads : ps'.map Packet.payload = codecs.payloads type node) :
    Sends codecs payloadType type handed (sent ++ [node.frame]) rest (ps ++ ps') where
  handed := by rw [h.handed, List.append_assoc, List.singleton_append]
  numbered := h.numbered.append (by rwa [Nat.zero_add])
  nodes := by
    obtain ⟨nodes, hframes, hall, hsent⟩ := h.nodes
    refine ⟨nodes ++ [node], ?_, ?_, ?_⟩
    · have hne : node.frame.bytes ≠ [] := by
        rw [← List.length_pos_iff, node.length_frame]
        omega
      have hself : nonempty [node.frame] = [node.frame] := by simp [nonempty, hne]
      rw [nonempty_append, hframes, hself, List.map_append]
      rfl
    · intro n hn
      obtain hn | hn := List.mem_append.mp hn
      · exact hall n hn
      · obtain rfl := List.mem_singleton.mp hn
        exact ⟨htype, hnode⟩
    · rw [List.map_append, List.flatMap_append, hsent, hpayloads, List.flatMap_singleton]

end Sends

theorem Live.taken (hudp : a.tureOfTcp ≠ 1) (h : s.Live codecs slot a audioType) {fd : Int}
    {node node' : MediaPacket} {c : Clientinfo}
    (hdequeue : dequeue s.stream.client fd node = some (node', c)) :
    (s.stream.client.queue node'.type).waiting =
        node'.frame :: (c.queue node'.type).waiting ∧
      ∀ type, type ≠ node'.type →
        (s.stream.client.queue type).waiting = (c.queue type).waiting := by
  have hqueue := dequeue_queue h.playing.valid fd node
  rw [hdequeue] at hqueue
  obtain ⟨type, hof⟩ : ∃ type, s.stream.client.queueOf fd = some type := by
    simp only [dequeue, Option.bind_eq_bind, Option.bind_eq_some_iff] at hdequeue
    exact ⟨_, hdequeue.choose_spec.1⟩
  have hmem : node'.frame ∈ (s.stream.client.queue type).waiting := by
    rw [hqueue.2 type, if_pos hof]
    exact List.mem_append_left _ (List.mem_singleton_self _)
  obtain rfl : node'.type = type := route_udp hudp (h.hosted.frames type _ hmem)
  refine ⟨?_, fun type htype => ?_⟩
  · rw [hqueue.2, if_pos hof]
    rfl
  · rw [hqueue.2 type, hof, if_neg (by simpa using Ne.symm htype), List.nil_append]

theorem Live.understood (h : s.Live codecs slot a audioType) {c : Clientinfo}
    (hsuffix : ∀ type, (c.queue type).waiting <:+ (s.stream.client.queue type).waiting) :
    ∀ type, ∀ f ∈ (c.queue type).waiting, codecs.Understands f :=
  fun type f hf => h.waiting type f ((hsuffix type).subset hf)

theorem Live.suffix (hudp : a.tureOfTcp ≠ 1) (h : s.Live codecs slot a audioType) {fd : Int}
    {node node' : MediaPacket} {c : Clientinfo}
    (hdequeue : dequeue s.stream.client fd node = some (node', c)) (type : MediaE) :
    (c.queue type).waiting <:+ (s.stream.client.queue type).waiting := by
  obtain ⟨hself, hothers⟩ := h.taken hudp hdequeue
  by_cases htype : type = node'.type
  · rw [htype, hself]
    exact List.suffix_cons _ _
  · rw [hothers type htype]

theorem Live.skip (hudp : a.tureOfTcp ≠ 1) (h : s.Live codecs slot a audioType) {fd : Int}
    {node node' : MediaPacket} {c : Clientinfo}
    (hdequeue : dequeue s.stream.client fd node = some (node', c)) (hsize : node'.size = 0) :
    Live codecs slot a audioType ⟨⟨c, s.stream.log⟩, s.handed⟩ := by
  obtain ⟨hself, hothers⟩ := h.taken hudp hdequeue
  refine ⟨h.playing.dequeue hdequeue, (h.hosted.dequeue h.playing.valid hdequeue).1,
    h.understood (h.suffix hudp hdequeue), fun type => ?_⟩
  obtain ⟨sent, ps, hsends, hof, hdatagrams⟩ := h.stream type
  rw [← StreamState.packet_requeued (Clientinfo.Requeued.dequeue hdequeue)] at hof
  by_cases htype : type = node'.type
  · subst htype
    rw [hself] at hsends
    refine ⟨_, ps, hsends.drop ?_, hof, hdatagrams⟩
    rw [← List.length_eq_zero_iff, node'.length_frame, hsize]
  · rw [hothers type htype] at hsends
    exact ⟨sent, ps, hsends, hof, hdatagrams⟩

/-- A frame is sent, or the client is given up in the middle of it. -/
theorem Live.transmit (hudp : a.tureOfTcp ≠ 1) (hopened : a.Opened)
    (h : s.Live codecs slot a audioType) {fd : Int} {node node' : MediaPacket} {env : SendEnv}
    {c c' : Clientinfo} {ret : Int} {w : Wire} {result : Nat → Nat → Int} (hfd : 0 ≤ fd)
    (hvideo : env.videoType = codecs.video) (haudio : env.audioType = codecs.audio)
    (hdequeue : dequeue s.stream.client fd node = some (node', c)) (hsize : node'.size ≠ 0)
    (htransmit : transmit env c fd node' ⟨result, []⟩ = some (ret, c', w)) :
    (∀ client, Good codecs audioType
        ⟨⟨client, s.stream.log ++ [(node'.type, w.calls)]⟩, s.handed⟩) ∧
      (0 < ret → Live codecs slot a audioType
        ⟨⟨c', s.stream.log ++ [(node'.type, w.calls)]⟩, s.handed⟩) := by
  obtain ⟨hself, hothers⟩ := h.taken hudp hdequeue
  obtain ⟨hhosted, htakes⟩ := h.hosted.dequeue h.playing.valid hdequeue
  have hrequeued := Clientinfo.Requeued.dequeue hdequeue
  have hnode : codecs.Understands node'.frame :=
    h.waiting node'.type _ (hself ▸ List.mem_cons_self)
  have hfar : (fd == c.sd) = false := by
    rw [(hhosted.dest hopened htakes hfd).1]
    exact beq_false_of_ne hudp
  obtain ⟨sent, ps, hsends, hof, hdatagrams⟩ := h.stream node'.type
  rw [← StreamState.packet_requeued hrequeued] at hof
  obtain ⟨hpacket, qs, hqs, hpayloads, hcases⟩ :=
    transmit_udp htransmit hfar hnode hvideo haudio hof
  rw [hself] at hsends
  have hsends' := hsends.send hsize rfl hnode hqs hpayloads
  have hother : ∀ type, type ≠ node'.type → ∃ sent ps,
      Sends codecs (payloadType audioType type) type s.handed sent (c.queue type).waiting ps ∧
      (∀ p ∈ c'.packet type, p.rtpHeader.Of (payloadType audioType type) ps.length) ∧
      accepted (StreamState.calls ⟨c', s.stream.log ++ [(node'.type, w.calls)]⟩ type) =
        ps.map Packet.wire := by
    intro type htype
    obtain ⟨sent, ps, hsends, hof, hdatagrams⟩ := h.stream type
    rw [hothers type htype] at hsends
    rw [← StreamState.packet_requeued hrequeued, ← hpacket type htype] at hof
    refine ⟨sent, ps, hsends, hof, ?_⟩
    rw [StreamState.calls_append, if_neg (Ne.symm htype), List.append_nil]
    exact hdatagrams
  have hcalls : accepted (StreamState.calls ⟨c', s.stream.log ++ [(node'.type, w.calls)]⟩
      node'.type) = ps.map Packet.wire ++ accepted w.calls := by
    rw [StreamState.calls_append, if_pos rfl, accepted_append]
    exact congrArg (· ++ _) hdatagrams
  obtain ⟨hof', hall⟩ | ⟨hneg, hcut⟩ := hcases
  · rw [hall, ← List.map_append] at hcalls
    have hkept := (Clientinfo.Rebuffered.transmit htransmit).endpoints.2
    have hlive : Live codecs slot a audioType
        ⟨⟨c', s.stream.log ++ [(node'.type, w.calls)]⟩, s.handed⟩ := by
      refine ⟨(h.playing.dequeue hdequeue).transmit htransmit, hhosted.transmit htransmit,
        h.understood fun type => ?_, fun type => ?_⟩
      · dsimp only
        rw [hkept]
        exact h.suffix hudp hdequeue type
      · dsimp only
        rw [hkept]
        by_cases htype : type = node'.type
        · subst htype
          refine ⟨_, _, hsends', ?_, hcalls⟩
          rwa [List.length_append]
        · exact hother type htype
    exact ⟨fun _ => hlive.good, fun _ => hlive⟩
  · refine ⟨fun client type => ?_, fun honline => ?_⟩
    · by_cases htype : type = node'.type
      · subst htype
        rw [← List.prefix_append_right_inj (ps.map Packet.wire), ← hcalls,
          ← List.map_append] at hcut
        exact ⟨_, _, _, hsends', hcut⟩
      · obtain ⟨sent, ps, hsends, -, hdatagrams⟩ := hother type htype
        exact ⟨sent, _, ps, hsends, hdatagrams ▸ List.prefix_refl _⟩
    · omega

theorem Live.event (hudp : a.tureOfTcp ≠ 1) (hopened : a.Opened)
    (h : s.Live codecs slot a audioType) {fd : Int} {node : MediaPacket} {env : SendEnv}
    {result : Nat → Nat → Int} (hfd : 0 ≤ fd) (hvideo : env.videoType = codecs.video)
    (haudio : env.audioType = codecs.audio) {t : Turn}
    (hturn : turn s.stream.client fd node env result = some t) :
    (∀ client, Good codecs audioType ⟨⟨client, s.stream.log ++ t.sent.toList⟩, s.handed⟩) ∧
      (t.offline = false → Live codecs slot a audioType
        ⟨⟨t.client, s.stream.log ++ t.sent.toList⟩, s.handed⟩) := by
  have hquiet : ∀ {c : Clientinfo}, Live codecs slot a audioType ⟨⟨c, s.stream.log⟩, s.handed⟩ →
      (∀ client, Good codecs audioType ⟨⟨client, s.stream.log ++ []⟩, s.handed⟩) ∧
        (false = false → Live codecs slot a audioType ⟨⟨c, s.stream.log ++ []⟩, s.handed⟩) := by
    intro c hc
    rw [List.append_nil]
    exact ⟨fun _ => hc.good, fun _ => hc⟩
  rw [turn] at hturn
  split_ifs at hturn with hmask
  · cases hturn
    exact hquiet h
  · split at hturn
    · cases hturn
      exact hquiet h
    · rename_i node' c hdequeue
      split_ifs at hturn with hsize
      · cases hturn
        exact hquiet (h.skip hudp hdequeue hsize)
      · obtain ⟨⟨ret, c', w⟩, htransmit, rfl⟩ := Option.map_eq_some_iff.mp hturn
        obtain ⟨hgood, hnext⟩ :=
          h.transmit hudp hopened hfd hvideo haudio hdequeue hsize htransmit
        refine ⟨hgood, fun honline => hnext ?_⟩
        simp only [decide_eq_false_iff_not] at honline
        omega

/-- In every state the client plays, or it is gone and its slot idle. -/
def Ok (codecs : Codecs) (slot : Nat) (a : AddArgs) (audioType : AudioE) (s : UdpRelay) : Prop :=
  s.Live codecs slot a audioType ∨ s.stream.client.Idle ∧ s.Good codecs audioType

theorem Ok.step (hudp : a.tureOfTcp ≠ 1) (hopened : a.Opened) (h : s.Ok codecs slot a audioType)
    {l : UdpLabel} (hl : Allowed codecs s l) (hstep : s.step l = some s') :
    s'.Ok codecs slot a audioType := by
  cases l with
  | callback m fresh =>
    rcases h with hlive | ⟨hidle, hgood⟩
    · exact Or.inl (hlive.callback hudp hl hstep)
    · have hnot : ¬ s.stream.client.callable := by simp [hidle.not_callable]
      rw [UdpRelay.step, StreamState.step, if_neg hnot, if_neg fun hcall => hnot hcall.1] at hstep
      cases hstep
      exact Or.inr ⟨hidle, hgood⟩
  | event fd node env result =>
    obtain ⟨stream, hstream, rfl⟩ := Option.map_eq_some_iff.mp hstep
    obtain ⟨t, hturn, rfl⟩ := Option.map_eq_some_iff.mp hstream
    rcases h with hlive | ⟨hidle, hgood⟩
    · obtain ⟨hgood, hnext⟩ := hlive.event hudp hopened hl.1 hl.2.1 hl.2.2 hturn
      cases hoffline : t.offline with
      | true => exact Or.inr ⟨idle_clearClient _, hgood _⟩
      | false => exact Or.inl (hnext hoffline)
    · rw [hidle.turn] at hturn
      cases hturn
      refine Or.inr ⟨hidle, ?_⟩
      simp only [Option.toList_none, List.append_nil]
      exact hgood

/-! ## The network -/

def Delivers (codecs : Codecs) (type : MediaE) (frames : List MediaFrame)
    (units : List (List UInt8)) : Prop :=
  List.Forall₂ (codecs.Arrives type) frames units

theorem rtpSeq_numbered {payloadType : UInt8} {ps : List Packet} (h : Numbered payloadType 0 ps)
    {k : Nat} {p : Packet} (hp : ps[k]? = some p) : rtpSeq p.wire = k % 65536 := by
  have hof := h.getElem? hp
  rw [Nat.zero_add] at hof
  rw [Packet.rtpSeq_wire, hof.seq]
  simp

theorem length_payloads (h : codecs.Understands node.frame) (htype : node.type = type)
    (hsize : node.size ≠ 0) :
    (codecs.payloads type node).length = frameCount type node.frame := by
  have hparts := congrArg List.length (map_part h htype hsize)
  rw [List.length_map, List.length_map, Arrivals.parts, List.length_mapIdx] at hparts
  rw [hparts, length_train]

theorem packet_wire {payloadType : UInt8} {type : MediaE} {nodes : List MediaPacket}
    {ps : List Packet} (hnumbered : Numbered payloadType 0 ps)
    (hnodes : ∀ n ∈ nodes, n.type = type ∧ codecs.Understands n.frame ∧ n.size ≠ 0)
    (hpayloads : ps.map Packet.payload = nodes.flatMap (codecs.payloads type)) {k : Nat}
    {p : Packet} (hp : ps[k]? = some p) : codecs.packet type p.wire =
      (Arrivals.packets 65536 (codecs.train type) nodes)[k]? := by
  have hparts : ps.map (fun p => codecs.part type p.payload) =
      (nodes.flatMap fun n => Arrivals.parts (codecs.train type n)).map some := by
    have hmap : ps.map (fun p => codecs.part type p.payload) =
        (ps.map Packet.payload).map (codecs.part type) := by
      rw [List.map_map]
      rfl
    rw [hmap, hpayloads, List.map_flatMap, List.map_flatMap]
    apply List.flatMap_congr
    intro n hn
    obtain ⟨htype, hnode, hsize⟩ := hnodes n hn
    exact map_part hnode htype hsize
  have hpart := congrArg (fun l => l[k]?) hparts
  rw [List.getElem?_map, hp, Option.map_some, List.getElem?_map] at hpart
  obtain ⟨part, hget, hsome⟩ := Option.map_eq_some_iff.mp hpart.symm
  rw [Codecs.packet, Packet.rtpPayload_wire, ← hsome, rtpSeq_numbered hnumbered hp,
    Arrivals.packets, List.getElem?_mapIdx, hget]

theorem length_packets {type : MediaE} {nodes : List MediaPacket} {ps : List Packet}
    (hnodes : ∀ n ∈ nodes, n.type = type ∧ codecs.Understands n.frame ∧ n.size ≠ 0)
    (hpayloads : ps.map Packet.payload = nodes.flatMap (codecs.payloads type)) :
    (Arrivals.packets 65536 (codecs.train type) nodes).length = ps.length := by
  have hcount := congrArg List.length hpayloads
  rw [List.length_map] at hcount
  rw [Arrivals.packets, List.length_mapIdx, hcount, List.length_flatMap, List.length_flatMap]
  congr 1
  apply List.map_congr_left
  intro n hn
  obtain ⟨htype, hnode, hsize⟩ := hnodes n hn
  rw [Arrivals.parts, List.length_mapIdx, length_train, length_payloads hnode htype hsize]

theorem exists_packet {ps : List Packet} {datagrams : List (List UInt8)}
    (hdatagrams : datagrams <+: ps.map Packet.wire) {k : Nat} (hk : k < datagrams.length) :
    ∃ p, datagrams[k]? = some p.wire ∧ ps[k]? = some p := by
  obtain ⟨behind, hbehind⟩ := hdatagrams
  have hget : (ps.map Packet.wire)[k]? = datagrams[k]? := by
    rw [← hbehind, List.getElem?_append_left hk]
  rw [List.getElem?_map, List.getElem?_eq_getElem hk] at hget
  obtain ⟨p, hp, hwire⟩ := Option.map_eq_some_iff.mp hget
  exact ⟨p, by rw [List.getElem?_eq_getElem hk, hwire], hp⟩

theorem Sends.sentNodes {payloadType : UInt8} {type : MediaE} {handed sent rest : List MediaFrame}
    {ps : List Packet} (h : Sends codecs payloadType type handed sent rest ps) :
    ∃ nodes : List MediaPacket, nonempty sent = nodes.map (·.frame) ∧
      (∀ n ∈ nodes, n.type = type ∧ codecs.Understands n.frame ∧ n.size ≠ 0) ∧
      ps.map Packet.payload = nodes.flatMap (codecs.payloads type) := by
  obtain ⟨nodes, hframes, hall, hpayloads⟩ := h.nodes
  refine ⟨nodes, hframes, fun n hn => ⟨(hall n hn).1, (hall n hn).2, fun hzero => ?_⟩, hpayloads⟩
  have hmem : n.frame ∈ nonempty sent := hframes ▸ List.mem_map_of_mem hn
  have hne := (List.mem_filter.mp hmem).2
  simp only [decide_eq_true_eq] at hne
  exact hne (by rw [← List.length_eq_zero_iff, n.length_frame, hzero])

theorem Sends.inSequence {payloadType : UInt8} {type : MediaE} {handed sent rest : List MediaFrame}
    {ps : List Packet} (h : Sends codecs payloadType type handed sent rest ps)
    {datagrams : List (List UInt8)} (hdatagrams : datagrams <+: ps.map Packet.wire) :
    InSequence codecs type (nonempty sent) datagrams := by
  obtain ⟨nodes, hframes, hall, hpayloads⟩ := h.nodes
  refine ⟨fun k datagram hk => ?_, nodes, hframes.symm, fun n hn => (hall n hn).1, ?_⟩
  · obtain ⟨hlt, -⟩ := List.getElem?_eq_some_iff.mp hk
    obtain ⟨p, hwire, hp⟩ := exists_packet hdatagrams hlt
    obtain rfl := Option.some.inj (hk.symm.trans hwire)
    exact rtpSeq_numbered h.numbered hp
  · have hread := hdatagrams.map rtpPayload
    rw [List.map_map] at hread
    have hpayload : ps.map (rtpPayload ∘ Packet.wire) = ps.map Packet.payload :=
      List.map_congr_left fun p _ => p.rtpPayload_wire
    rwa [hpayload, hpayloads] at hread

theorem Sends.length {payloadType : UInt8} {type : MediaE} {handed sent rest : List MediaFrame}
    {ps : List Packet} (h : Sends codecs payloadType type handed sent rest ps) :
    ps.length = ((nonempty sent).map (frameCount type)).sum := by
  obtain ⟨nodes, hframes, hnodes, hpayloads⟩ := h.sentNodes
  have hcount := congrArg List.length hpayloads
  rw [List.length_map, List.length_flatMap] at hcount
  rw [hcount, hframes, List.map_map]
  congr 1
  apply List.map_congr_left
  intro n hn
  obtain ⟨htype, hnode, hsize⟩ := hnodes n hn
  exact length_payloads hnode htype hsize

theorem Sends.delivers {payloadType : UInt8} {type : MediaE} {handed sent rest : List MediaFrame}
    {ps : List Packet} (h : Sends codecs payloadType type handed sent rest ps)
    {datagrams : List (List UInt8)} (hdatagrams : datagrams <+: ps.map Packet.wire)
    {arrivals : List Nat} (harrivals : ∀ k ∈ arrivals, k < datagrams.length)
    (hclose : Arrivals.Close 65536 arrivals) :
    Delivers codecs type (Arrivals.completed (frameCount type) (nonempty sent) arrivals)
      (codecs.putTogether type (arrivals.filterMap fun k => datagrams[k]?)) := by
  obtain ⟨nodes, hframes, hnodes, hpayloads⟩ := h.sentNodes
  have hpacket : ∀ k ∈ arrivals, ∃ p, datagrams[k]? = some p.wire ∧ ps[k]? = some p :=
    fun k hk => exists_packet hdatagrams (harrivals k hk)
  have hread : (arrivals.filterMap fun k => datagrams[k]?).filterMap (codecs.packet type) =
      arrivals.filterMap fun k =>
        (Arrivals.packets 65536 (codecs.train type) nodes)[k]? := by
    rw [List.filterMap_filterMap]
    apply List.filterMap_congr
    intro k hk
    obtain ⟨p, hwire, hp⟩ := hpacket k hk
    rw [hwire]
    exact packet_wire h.numbered hnodes hpayloads hp
  have hdone : (Arrivals.Collector.collect 65536 (arrivals.filterMap fun k =>
      (Arrivals.packets 65536 (codecs.train type) nodes)[k]?)).done =
      (Arrivals.completed (fun n => (codecs.train type n).length) nodes arrivals).map
        (codecs.train type) := by
    refine Arrivals.done_collect (fun n _ => ?_) (fun k hk => ?_) hclose
    · rw [← List.length_pos_iff, length_train]
      exact frameCount_pos _ _
    · obtain ⟨p, -, hp⟩ := hpacket k hk
      rw [length_packets hnodes hpayloads]
      exact (List.getElem?_eq_some_iff.mp hp).1
  have hcount : (fun n => (codecs.train type n).length) =
      fun n : MediaPacket => frameCount type n.frame := funext length_train
  rw [Codecs.putTogether, hread, hdone, hframes, Arrivals.completed_map, hcount, Delivers,
    List.map_map, List.forall₂_map_left_iff, List.forall₂_map_right_iff, List.forall₂_same]
  intro n hn
  obtain ⟨htype, hnode, hsize⟩ := hnodes n (Arrivals.mem_of_mem_completed hn)
  exact arrives_train hnode htype hsize

/-- **What is sent, and what arrives.** However the callbacks and the events follow each other and
whatever the sockets answer: the frames that were handed out are some that were sent and some that
were not, and the datagrams are the packets of the former in sequence. As long as the client plays,
they are all of them, and the other frames are those that wait. If some datagrams of the stream
arrive, in any order and any number of times, a receiver makes of them the frames whose packets
arrive in one piece; and if they arrive in order, it makes of them the frames all of whose packets
arrive. -/
theorem arrived_reach (slot : Nat) {c : Clientinfo} (hidle : c.Idle) (hclear : c.Clear)
    {a : AddArgs} (hudp : a.tureOfTcp ≠ 1) (hopened : a.Opened) (hsd : 0 ≤ a.clientSockFd)
    (audioType : AudioE) (mem : Fresh) (codecs : Codecs) {s : UdpRelay}
    (h : Reach step (Allowed codecs) (start slot c a audioType mem) s) (type : MediaE) :
    ∃ sent rest, ofType type s.handed = sent ++ rest ∧
      (s.stream.client.callable → rest = (s.stream.client.queue type).waiting ∧
        (s.datagrams type).length = ((nonempty sent).map (frameCount type)).sum) ∧
      InSequence codecs type (nonempty sent) (s.datagrams type) ∧
      ∀ arrivals : List Nat, (∀ k ∈ arrivals, k < (s.datagrams type).length) →
        Arrivals.Close 65536 arrivals →
        let units := codecs.putTogether type (arrivals.filterMap fun k => (s.datagrams type)[k]?)
        Delivers codecs type (Arrivals.completed (frameCount type) (nonempty sent) arrivals)
            units ∧
          (arrivals.Pairwise (· < ·) → Delivers codecs type
            (Arrivals.arrived (frameCount type) (nonempty sent) arrivals) units) := by
  have hok : s.Ok codecs slot a audioType :=
    h.invariant (Or.inl (live_start codecs slot hidle hclear hsd audioType mem))
      fun _ _ _ hok hl hstep => hok.step hudp hopened hl hstep
  obtain ⟨sent, rest, ps, hsends, hdatagrams, hplays⟩ : ∃ sent rest ps,
      Sends codecs (payloadType audioType type) type s.handed sent rest ps ∧
      s.datagrams type <+: ps.map Packet.wire ∧
      (s.stream.client.callable → rest = (s.stream.client.queue type).waiting ∧
        s.datagrams type = ps.map Packet.wire) := by
    rcases hok with hlive | ⟨hgone, hgood⟩
    · obtain ⟨sent, ps, hsends, -, hdatagrams⟩ := hlive.stream type
      exact ⟨sent, _, ps, hsends, hdatagrams ▸ List.prefix_refl _, fun _ => ⟨rfl, hdatagrams⟩⟩
    · obtain ⟨sent, rest, ps, hsends, hdatagrams⟩ := hgood type
      exact ⟨sent, rest, ps, hsends, hdatagrams, fun hcall => by
        rw [hgone.not_callable] at hcall
        cases hcall⟩
  refine ⟨sent, rest, hsends.handed, fun hcall => ?_, hsends.inSequence hdatagrams,
    fun arrivals harrivals hclose => ?_⟩
  · obtain ⟨hrest, hall⟩ := hplays hcall
    refine ⟨hrest, ?_⟩
    rw [hall, List.length_map]
    exact hsends.length
  · have hdelivers := hsends.delivers hdatagrams harrivals hclose
    refine ⟨hdelivers, fun hsorted => ?_⟩
    rwa [Arrivals.completed_of_sorted (fun f _ => frameCount_pos type f) hsorted] at hdelivers

/-- Two NAL units for a player over UDP, and both are sent. -/
def twoSent : List UdpLabel :=
  [.callback (nalDelivery 0x65) fun _ _ => zeroPacket,
    .callback (nalDelivery 0x41) fun _ _ => zeroPacket,
    .event 4 zeroPacket zeroEnv fun _ n => n, .event 4 zeroPacket zeroEnv fun _ n => n]

theorem understands_nalDelivery {b : UInt8} (h : rfc6184 [b] = .single [b]) :
    Codecs.Understands ⟨.h264, .aac⟩ (nalDelivery b).mediaFrame where
  video _ := by decide
  single _ _ _ := h
  audio htype := MediaE.noConfusion (htype : MediaE.video = .audio)

/-- The first datagram is lost. -/
theorem arrived_twoSent : ∃ s,
    runs step (start 0 initClient udpPlayer .aac zeroFresh) twoSent = some s ∧
    (s.datagrams .video).length = 2 ∧
    ∃ sent rest, ofType .video s.handed = sent ++ rest ∧
      (s.stream.client.callable → rest = (s.stream.client.queue .video).waiting ∧
        (s.datagrams .video).length = ((nonempty sent).map (frameCount .video)).sum) ∧
      InSequence ⟨.h264, .aac⟩ .video (nonempty sent) (s.datagrams .video) ∧
      ∀ arrivals : List Nat, (∀ k ∈ arrivals, k < (s.datagrams .video).length) →
        Arrivals.Close 65536 arrivals →
        let units := Codecs.putTogether ⟨.h264, .aac⟩ .video
          (arrivals.filterMap fun k => (s.datagrams .video)[k]?)
        Delivers ⟨.h264, .aac⟩ .video
            (Arrivals.completed (frameCount .video) (nonempty sent) arrivals) units ∧
          (arrivals.Pairwise (· < ·) → Delivers ⟨.h264, .aac⟩ .video
            (Arrivals.arrived (frameCount .video) (nonempty sent) arrivals) units) := by
  have hopened : udpPlayer.Opened := ⟨Or.inr ⟨by decide, by decide⟩, Or.inr ⟨by decide, by decide⟩⟩
  refine ⟨_, rfl, rfl, arrived_reach 0 (idle_initClient none) (clear_initClient none) (by decide)
    hopened (by decide) .aac zeroFresh ⟨.h264, .aac⟩ (.of_runs_forall twoSent ?_ rfl) .video⟩
  simp only [twoSent, List.forall_mem_cons, List.not_mem_nil, false_imp_iff, implies_true,
    and_true]
  exact ⟨fun _ => understands_nalDelivery (by decide), fun _ => understands_nalDelivery (by decide),
    fun _ => ⟨by decide, rfl, rfl⟩, fun _ => ⟨by decide, rfl, rfl⟩⟩

end UdpRelay

end SimpleRtsp

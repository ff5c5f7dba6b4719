import SimpleRtsp.Lib.Framing
import SimpleRtsp.Session.Stream

/-!
# Both streams on one TCP connection

Over TCP the packets of both streams share the RTSP connection, each behind an interleaved header
with its channel and its length. A receiver that splits the byte stream by these headers is in step
with the server (`InStep`) if it recovers the packets with their channels and the size in every AU
header is right. No length is checked before it is cut to the 16 bits of the interleaved header or
the 13 bits of the AU header; the video packetisers split what is too long, the audio packetisers do
not. So the receiver stays in step exactly if no audio frame is too long (`sendAll_inStep_iff`).
-/

namespace SimpleRtsp

open StreamState (channel)

/-! ## The packets of a node -/

/-- The payloads a node is sent as, with their markers. -/
def payloads (env : SendEnv) (node : MediaPacket) : List (BitVec 1 × List UInt8) :=
  match node.type with
  | .video =>
    match env.videoType with
    | .h264 => H26x.fragments H26x.h264 node.data node.size
    | .h265 => H26x.fragments H26x.h265 node.data node.size
    | .none => []
  | .audio =>
    match env.audioType with
    | .aac => [(1, Audio.aacAu node.size ++ node.data.read 0 node.size)]
    | .pcma => [(1, node.data.read 0 node.size)]
    | .none => []

theorem packetiser_emits {env : SendEnv} {node : MediaPacket} {send : SendArgs → SendM Int}
    (hsend : packetiser env node = some send) (a : SendArgs) {t : Tx} (htcp : t.overTcp a) :
    (send a).Meets t (fun _ t' => ∃ h, Emits a t t' (stamp h (payloads env node)))
      (fun t' => ∃ ps, Cut a t t' ps) := by
  have hvideo : ∀ fmt, (H26x.rtpSendFrame fmt env.tv a node.data node.size).Meets t
      (fun _ t' => ∃ h, Emits a t t' (stamp h (H26x.fragments fmt node.data node.size)))
      (fun t' => ∃ ps, Cut a t t' ps) := fun fmt =>
    (H26x.rtpSendFrame_meets fmt env.tv a node.data node.size t).mono
      (fun _ _ h => ⟨_, h.2.2⟩) fun _ h => ⟨_, h⟩
  have haudio : ∀ au, (Audio.rtpSendFrame au env.tv a node.data node.size env.sampleRate
      env.ret₀).Meets t
      (fun _ t' => ∃ h, Emits a t t' (stamp h [(1, au node.size ++ node.data.read 0 node.size)]))
      (fun t' => ∃ ps, Cut a t t' ps) := fun au =>
    (Audio.rtpSendFrame_meets au env.tv a node.data node.size env.sampleRate env.ret₀ t
      (Or.inl htcp)).mono (fun _ _ h => ⟨_, h.2.2⟩) fun _ h => ⟨_, h⟩
  cases htype : node.type with
  | video =>
    cases hcodec : env.videoType <;> simp only [packetiser, htype, hcodec] at hsend <;>
      cases hsend <;> simp only [payloads, htype, hcodec]
    · exact hvideo H26x.h264
    · exact hvideo H26x.h265
  | audio =>
    cases hcodec : env.audioType <;> simp only [packetiser, htype, hcodec] at hsend <;>
      cases hsend <;> simp only [payloads, htype, hcodec]
    · exact haudio Audio.aacAu
    · exact haudio fun _ => []

/-! ## Sending nodes -/

/-- A node that was sent, and the socket calls it took. -/
structure SentNode where
  env : SendEnv
  node : MediaPacket
  calls : List SendCall

/-- The nodes are sent to a TCP client one after another, and every send writes all its bytes. -/
def sendAll : Clientinfo → List (SendEnv × MediaPacket) → Option (List SentNode)
  | _, [] => some []
  | c, (env, node) :: rest =>
    (transmit env c c.sd node ⟨fun _ n => n, []⟩).bind fun (_, c, w) =>
      (sendAll c rest).map (⟨env, node, w.calls⟩ :: ·)

/-- The RTP packets among the buffers; an interleaved header is shorter than any of them. -/
def rtpPackets (calls : List SendCall) : List (List UInt8) :=
  (calls.map (·.buf)).filter fun buf => RTP_HEADER_SIZE ≤ buf.length

def SentNode.stream (e : SentNode) : List UInt8 := (e.calls.map (·.buf)).flatten

/-- The RTP packets of a node, with the channel byte of its stream. -/
def SentNode.packets (a : AddArgs) (e : SentNode) : List (UInt8 × List UInt8) :=
  (rtpPackets e.calls).map fun p => (UInt8.ofInt (channel a e.node.type), p)

/-- The 13-bit size in the AU header of an RTP packet. -/
def auSize (packet : List UInt8) : Nat :=
  ((packet.getD 14 0).toNat * 256 + (packet.getD 15 0).toNat) / 8

def auData (packet : List UInt8) : List UInt8 := packet.drop 16

/-- The receiver recovers what was sent. -/
structure InStep (a : AddArgs) (log : List SentNode) : Prop where
  split : Framing.split 0x24 (log.flatMap SentNode.stream) = some (log.flatMap (SentNode.packets a))
  auSize : ∀ e ∈ log, e.node.type = .audio → e.env.audioType = .aac →
    ∀ p ∈ rtpPackets e.calls, auSize p = (auData p).length

/-- A node that `epollLoop` sends to the client: at least one byte, at most what a `MediaPacket_st`
holds, of a stream that the client asked for and in one of the four codecs. -/
structure Sendable (a : AddArgs) (env : SendEnv) (node : MediaPacket) : Prop where
  size : 1 ≤ node.size ∧ node.size ≤ 2 * 1024 * 1024
  channel : channel a node.type ≠ -1
  codec : (packetiser env node).isSome

/-- An audio frame that fits in one packet. -/
def AudioFits (env : SendEnv) (node : MediaPacket) : Prop :=
  node.type = .audio →
    (env.audioType = .aac → node.size ≤ 8191) ∧ (env.audioType = .pcma → node.size ≤ 65523)

/-! ## What sending a node does -/

/-- The calls for a node: each packet behind its interleaved header. -/
def SentNode.Sent (a : AddArgs) (e : SentNode) : Prop :=
  ∃ h, e.calls.map (·.buf) = (stamp h (payloads e.env e.node)).flatMap fun p =>
    [interleaved (UInt8.ofInt (channel a e.node.type)) p.wire.length, p.wire]

/-- A TCP client that can be sent to. -/
structure TcpReady (a : AddArgs) (c : Clientinfo) : Prop where
  header : c.tcpHeader.isSome
  packet : ∀ type, (c.packet type).isSome
  sig : ∀ type, (sendArgs c true type).sig = channel a type

theorem transmit_sent {a : AddArgs} {c : Clientinfo} (h : TcpReady a c) {env : SendEnv}
    {node : MediaPacket} (hsend : Sendable a env node) :
    ∃ ret c' w, transmit env c c.sd node ⟨fun _ n => n, []⟩ = some (ret, c', w) ∧ TcpReady a c' ∧
      SentNode.Sent a ⟨env, node, w.calls⟩ := by
  obtain ⟨send, hsome⟩ := Option.isSome_iff_exists.mp hsend.codec
  obtain ⟨packet, hpacket⟩ := Option.isSome_iff_exists.mp (h.packet node.type)
  let args := sendArgs c true node.type
  let t : Tx := ⟨c.tcpHeader, packet, ⟨fun _ n => n, []⟩⟩
  have htcp : t.overTcp args := by
    simp [Tx.overTcp, t, h.header, args, h.sig, hsend.channel]
  have hmeets := packetiser_emits hsome args htcp
  obtain ⟨⟨ret, c', w⟩, htransmit⟩ : ∃ r, transmit env c c.sd node ⟨fun _ n => n, []⟩ = some r :=
    Option.isSome_iff_exists.mp (transmit_isSome env c.sd node _ h.packet)
  have hbuffers := Clientinfo.Rebuffered.transmit htransmit
  have hpackets := fun type => transmit_packet htransmit type (h.packet type)
  have hsig : ∀ type, (sendArgs c' true type).sig = channel a type := by
    intro type
    rw [StreamState.sendArgs_rebuffered hbuffers, h.sig]
  refine ⟨ret, c', w, htransmit, ?_⟩
  rw [transmit, beq_self_eq_true, sendNode, hsome] at htransmit
  simp only [hpacket, Option.map_some, if_true] at htransmit
  change some ((if false then -1 else ((send args) t).1.getD (-1)),
    c.putBack true node.type ((send args) t).2, ((send args) t).2.wire) = _ at htransmit
  rw [EarlyM.Meets] at hmeets
  split at hmeets
  · rename_i ret₁ t' hrun
    obtain ⟨header, hemits⟩ := hmeets
    rw [hrun] at htransmit
    cases htransmit
    refine ⟨⟨?_, hpackets, hsig⟩, header, ?_⟩
    · have hput : (c.putBack true node.type t').tcpHeader = t'.tcpHeader := by
        cases node.type <;> rfl
      rw [hput, hemits.tcp]
      exact h.header
    · obtain ⟨hall, hbufs⟩ := hemits.calls
      rw [accepted_of_pos hall, htcp] at hbufs
      have hcalls : t.callsTo t' = t'.wire.calls := rfl
      rw [hcalls] at hbufs
      rw [hbufs, ← h.sig]
      rfl
  · -- no call is refused
    rename_i t' hrun
    obtain ⟨ps, hcut⟩ := hmeets
    rcases hcut.why with ⟨k, n, hn, hret⟩ | ⟨hnot, -⟩
    · simp only [t] at hret
      omega
    · rw [htcp] at hnot
      cases hnot

theorem sendAll_sent {a : AddArgs} {c : Clientinfo} (h : TcpReady a c)
    {nodes : List (SendEnv × MediaPacket)} (hsend : ∀ n ∈ nodes, Sendable a n.1 n.2) :
    ∃ log, sendAll c nodes = some log ∧ log.map (fun e => (e.env, e.node)) = nodes ∧
      ∀ e ∈ log, e.Sent a := by
  induction nodes generalizing c with
  | nil => exact ⟨[], rfl, rfl, by simp⟩
  | cons n rest ih =>
    obtain ⟨env, node⟩ := n
    obtain ⟨hfirst, hrest⟩ := List.forall_mem_cons.mp hsend
    obtain ⟨ret, c', w, htransmit, hready, hsent⟩ := transmit_sent h hfirst
    obtain ⟨log, hlog, hnodes, hall⟩ := ih hready hrest
    refine ⟨⟨env, node, w.calls⟩ :: log, ?_, ?_, ?_⟩
    · rw [sendAll, htransmit, Option.bind_some]
      dsimp only
      rw [hlog]
      rfl
    · rw [List.map_cons, hnodes]
    · exact List.forall_mem_cons.mpr ⟨hsent, hall⟩

/-! ## What the receiver sees -/

theorem interleaved_eq (channel : UInt8) (len : Nat) :
    interleaved channel len = Framing.header 0x24 channel len := by
  have hhigh : (UInt16.ofNat len >>> 8).toUInt8.toNat = len / 256 % 256 := by
    simp [Nat.shiftRight_eq_div_pow]
    omega
  have hlow : (UInt16.ofNat len).toUInt8.toNat = len % 256 := by
    simp
  exact Framing.header_of_bytes hhigh hlow

theorem rtpPackets_sent {a : AddArgs} {e : SentNode} {h : RtpHeader}
    (hcalls : e.calls.map (·.buf) = (stamp h (payloads e.env e.node)).flatMap fun p =>
      [interleaved (UInt8.ofInt (channel a e.node.type)) p.wire.length, p.wire]) :
    rtpPackets e.calls = (stamp h (payloads e.env e.node)).map Packet.wire := by
  rw [rtpPackets, hcalls]
  exact filter_bufs ⟨0, channel a e.node.type, none, -1⟩ true _

theorem SentNode.Sent.stream {a : AddArgs} {e : SentNode} (h : e.Sent a) :
    e.stream = (e.packets a).flatMap (Framing.frame 0x24) := by
  obtain ⟨header, hcalls⟩ := h
  rw [SentNode.packets, rtpPackets_sent hcalls, SentNode.stream, List.map_map, List.flatMap_map,
    hcalls, List.flatten_eq_flatMap, List.flatMap_assoc]
  apply List.flatMap_congr
  intro p _
  simp [Framing.frame, interleaved_eq]

theorem length_fullFragments_le (fmt : H26x.FuFormat) (frame : Mem) (pktNum remain : Nat)
    (hfu : ∀ flag, (fmt.fu frame flag).length ≤ 3) (todo i pos : Nat) :
    ∀ p ∈ H26x.fullFragments fmt frame pktNum remain todo i pos, p.2.length ≤ 1403 := by
  induction todo generalizing i pos with
  | zero => simp [H26x.fullFragments]
  | succ todo ih =>
    refine List.forall_mem_cons.mpr ⟨?_, ih (i + 1) (pos + PTK_RTP_TCP_MAX)⟩
    have := hfu (H26x.fullMark pktNum remain i).2
    simp only [List.length_append, Mem.length_read, PTK_RTP_TCP_MAX]
    omega

theorem length_fragments_le (fmt : H26x.FuFormat) (frame : Mem) (frameSize : Nat)
    (hfu : ∀ flag, (fmt.fu frame flag).length ≤ 3) :
    ∀ p ∈ H26x.fragments fmt frame frameSize, p.2.length ≤ 1403 := by
  intro p hp
  rw [H26x.fragments] at hp
  split_ifs at hp with hsize
  · obtain rfl := List.mem_singleton.mp hp
    rw [Mem.length_read]
    exact hsize.trans (by decide)
  · rcases List.mem_append.mp hp with hp | hp
    · exact length_fullFragments_le fmt frame _ _ hfu _ _ _ p hp
    · split_ifs at hp
      · obtain rfl := List.mem_singleton.mp hp
        have hlast := Nat.mod_lt frameSize (show 0 < PTK_RTP_TCP_MAX by decide)
        have := hfu 0x40
        simp only [List.length_append, Mem.length_read, PTK_RTP_TCP_MAX] at hlast ⊢
        omega
      · cases hp

/-- The size in the AU header is cut to 13 bits. -/
theorem auSize_wire (h : RtpHeader) (size : Nat) (data : List UInt8) :
    auSize (Packet.wire ⟨h, Audio.aacAu size ++ data⟩) = size % 8192 := by
  have hhigh : (size &&& 0x1FE0) >>> 5 = size / 32 % 256 := by
    rw [Nat.shiftRight_and_distrib, Nat.shiftRight_eq_div_pow]
    exact Nat.and_two_pow_sub_one_eq_mod (size / 32) 8
  have hlow : size &&& 0x1F = size % 32 := Nat.and_two_pow_sub_one_eq_mod size 5
  have hbytes : auSize (Packet.wire ⟨h, Audio.aacAu size ++ data⟩) =
      ((UInt8.ofNat ((size &&& 0x1FE0) >>> 5)).toNat * 256 +
        (UInt8.ofNat ((size &&& 0x1F) <<< 3)).toNat) / 8 := rfl
  rw [hbytes, hhigh, hlow, Nat.shiftLeft_eq, UInt8.toNat_ofNat', UInt8.toNat_ofNat']
  omega

theorem auData_wire (h : RtpHeader) (size : Nat) (data : List UInt8) :
    auData (Packet.wire ⟨h, Audio.aacAu size ++ data⟩) = data := rfl

theorem SentNode.Sent.inStep_iff {a : AddArgs} {e : SentNode} (h : e.Sent a)
    (hcodec : (packetiser e.env e.node).isSome) :
    ((∀ f ∈ e.packets a, f.2.length < 65536) ∧ (e.node.type = .audio → e.env.audioType = .aac →
      ∀ p ∈ rtpPackets e.calls, auSize p = (auData p).length)) ↔ AudioFits e.env e.node := by
  obtain ⟨header, hcalls⟩ := h
  rw [SentNode.packets, rtpPackets_sent hcalls, AudioFits]
  cases htype : e.node.type with
  | video =>
    have hshort : ∀ p ∈ payloads e.env e.node, p.2.length ≤ 1403 := by
      rw [payloads, htype]
      cases e.env.videoType
      · exact length_fragments_le _ _ _ fun _ => by simp [H26x.h264]
      · exact length_fragments_le _ _ _ fun _ => by simp [H26x.h265]
      · simp
    constructor
    · rintro - ⟨⟩
    · intro _
      refine ⟨?_, fun h => MediaE.noConfusion h⟩
      simp only [List.mem_map, forall_exists_index, and_imp]
      rintro f _ packet hpacket rfl rfl
      have hmem : packet.payload ∈ (payloads e.env e.node).map Prod.snd := by
        rw [← map_payload_stamp header]
        exact List.mem_map_of_mem hpacket
      obtain ⟨p, hp, hpayload⟩ := List.mem_map.mp hmem
      have := hshort p hp
      rw [Packet.length_wire, ← hpayload, RTP_HEADER_SIZE]
      omega
  | audio =>
    cases haudio : e.env.audioType with
    | aac =>
      have hpackets : stamp header (payloads e.env e.node) = [⟨{ header with marker := 1 },
          Audio.aacAu e.node.size ++ e.node.data.read 0 e.node.size⟩] := by
        rw [payloads, htype, haudio]
        rfl
      rw [hpackets]
      simp only [List.map_cons, List.map_nil, List.forall_mem_singleton, auSize_wire, auData_wire,
        Packet.length_wire, List.length_append, Mem.length_read, RTP_HEADER_SIZE, forall_const]
      have hheader : (Audio.aacAu e.node.size).length = 4 := rfl
      constructor
      · rintro ⟨-, hsize⟩
        exact ⟨by omega, fun h => AudioE.noConfusion h⟩
      · rintro ⟨hfits, -⟩
        omega
    | pcma =>
      have hpackets : stamp header (payloads e.env e.node) = [⟨{ header with marker := 1 },
          e.node.data.read 0 e.node.size⟩] := by
        rw [payloads, htype, haudio]
        rfl
      rw [hpackets]
      simp only [List.map_cons, List.map_nil, List.forall_mem_singleton, Packet.length_wire,
        Mem.length_read, RTP_HEADER_SIZE, forall_const]
      constructor
      · rintro ⟨hlen, -⟩
        exact ⟨fun h => AudioE.noConfusion h, by omega⟩
      · rintro ⟨-, hfits⟩
        exact ⟨by omega, fun h => AudioE.noConfusion h⟩
    | none =>
      rw [packetiser, htype, haudio] at hcodec
      cases hcodec

/-! ## Staying in step -/

theorem tcpReady_setClient (slot : Nat) {c : Clientinfo} (hidle : c.Idle) {a : AddArgs}
    (htcp : a.tureOfTcp = 1) (hsd : 0 ≤ a.clientSockFd) (audioType : AudioE) (mem : Fresh) :
    TcpReady a (setClient a audioType mem slot c) := by
  have hlive := StreamState.live_start slot hidle htcp hsd audioType mem
  exact ⟨hlive.header, hlive.playing.packet, hlive.args⟩

theorem inStep_iff {a : AddArgs} {log : List SentNode} (hsent : ∀ e ∈ log, e.Sent a)
    (hcodec : ∀ e ∈ log, (packetiser e.env e.node).isSome) :
    InStep a log ↔ ∀ e ∈ log, AudioFits e.env e.node := by
  have hstream : log.flatMap SentNode.stream =
      (log.flatMap (SentNode.packets a)).flatMap (Framing.frame 0x24) := by
    rw [List.flatMap_assoc]
    exact List.flatMap_congr fun e he => (hsent e he).stream
  have hsplit : Framing.split 0x24 (log.flatMap SentNode.stream) =
      some (log.flatMap (SentNode.packets a)) ↔
      ∀ e ∈ log, ∀ f ∈ e.packets a, f.2.length < 65536 := by
    rw [hstream, Framing.split_frames_iff, List.forall_mem_flatMap]
  constructor
  · intro h e he
    exact ((hsent e he).inStep_iff (hcodec e he)).mp ⟨hsplit.mp h.split e he, h.auSize e he⟩
  · intro hfits
    have hboth := fun e he => ((hsent e he).inStep_iff (hcodec e he)).mpr (hfits e he)
    exact ⟨hsplit.mpr fun e he => (hboth e he).1, fun e he => (hboth e he).2⟩

/-- **The interleaved stream.** A client over TCP can be sent every sequence of nodes, and it stays
in step exactly if no audio frame is too long for one packet. -/
theorem sendAll_inStep_iff (slot : Nat) {c : Clientinfo} (hidle : c.Idle) {a : AddArgs}
    (htcp : a.tureOfTcp = 1) (hsd : 0 ≤ a.clientSockFd) (audioType : AudioE) (mem : Fresh)
    {nodes : List (SendEnv × MediaPacket)} (hsend : ∀ n ∈ nodes, Sendable a n.1 n.2) :
    ∃ log, sendAll (setClient a audioType mem slot c) nodes = some log ∧
      (InStep a log ↔ ∀ n ∈ nodes, AudioFits n.1 n.2) := by
  obtain ⟨log, hlog, rfl, hsent⟩ :=
    sendAll_sent (tcpReady_setClient slot hidle htcp hsd audioType mem) hsend
  refine ⟨log, hlog, ?_⟩
  simp only [List.forall_mem_map] at hsend ⊢
  exact inStep_iff hsent fun e he => (hsend e he).codec

/-- A NAL unit and an audio frame of the given size, both of zeros. -/
def zeroNodes (audioSize : Nat) : List (SendEnv × MediaPacket) :=
  [(zeroEnv, ⟨fun _ => 0, 1, .video⟩), (zeroEnv, ⟨fun _ => 0, audioSize, .audio⟩)]

theorem sendable_zeroNodes (audioSize : Nat) (hsize : 1 ≤ audioSize ∧ audioSize ≤ 8192) :
    ∀ n ∈ zeroNodes audioSize, Sendable (tcpPlayer 7) n.1 n.2 := by
  rw [zeroNodes, List.forall_mem_cons, List.forall_mem_singleton]
  constructor
  · exact ⟨by decide, by decide, rfl⟩
  · have hchannel : channel (tcpPlayer 7) .audio ≠ -1 := by decide
    exact ⟨⟨hsize.1, hsize.2.trans (by decide)⟩, hchannel, rfl⟩

theorem sendAll_inStep_one :
    ∃ log, sendAll (setClient (tcpPlayer 7) .aac zeroFresh 0 initClient) (zeroNodes 1) = some log ∧
      (InStep (tcpPlayer 7) log ↔ ∀ n ∈ zeroNodes 1, AudioFits n.1 n.2) :=
  sendAll_inStep_iff 0 (idle_initClient none) rfl (by decide) .aac zeroFresh
    (sendable_zeroNodes 1 (by decide))

/-- An AAC frame of 8192 bytes: the AU header says 0. -/
theorem sendAll_not_inStep :
    ∃ log, sendAll (setClient (tcpPlayer 7) .aac zeroFresh 0 initClient) (zeroNodes 8192) =
      some log ∧ ¬ InStep (tcpPlayer 7) log := by
  have hnodes := sendable_zeroNodes 8192 (by decide)
  obtain ⟨log, hlog, hmap, hsent⟩ := sendAll_sent
    (tcpReady_setClient 0 (idle_initClient none) rfl (by decide) .aac zeroFresh) hnodes
  refine ⟨log, hlog, fun hstep => ?_⟩
  have hfits := (inStep_iff hsent fun e he => ?_).mp hstep
  · have hlast : (zeroEnv, ⟨fun _ => 0, 8192, .audio⟩) ∈ log.map fun e => (e.env, e.node) := by
      rw [hmap]
      exact List.mem_cons_of_mem _ (List.mem_singleton_self _)
    obtain ⟨e, he, heq⟩ := List.mem_map.mp hlast
    obtain ⟨henv, hnode⟩ := Prod.mk.inj heq
    have haudio := hfits e he
    rw [henv, hnode] at haudio
    exact absurd ((haudio rfl).1 rfl) (by decide)
  · exact (hnodes (e.env, e.node) (hmap ▸ List.mem_map_of_mem he)).codec

end SimpleRtsp

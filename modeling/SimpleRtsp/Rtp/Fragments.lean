import SimpleRtsp.Rtp.Numbering
import SimpleRtsp.Rtp.SamePackets

/-!
# The fragments of a NAL unit

What the packets of one NAL unit say about themselves, read from their bytes: the start and the end
flag and the marker, the numbers and the timestamp, and what the headers of the fragments keep of
the header of the NAL unit. A long NAL unit has at least two fragments, and `markAt` is what the
`k`-th of them is marked with, whether the last one is a full fragment or the remainder
(`getElem?_fragments`). Where the fragments' data come from is no part of this.
-/

namespace SimpleRtsp

/-! ## The bytes of a packet -/

def rtpMarker (packet : List UInt8) : UInt8 := packet.getD 1 0 >>> 7

def rtpTimestamp (packet : List UInt8) : List UInt8 := (packet.drop 4).take 4

def rtpPayload (packet : List UInt8) : List UInt8 := packet.drop RTP_HEADER_SIZE

/-- How the packets of a fragmented NAL unit are laid out. -/
structure FuLayout where
  /-- the type in the header of a NAL unit or of a packet -/
  type : List UInt8 → UInt8
  /-- the other bits of that header -/
  others : List UInt8 → List UInt8
  /-- the type of a packet with a fragment -/
  packetType : UInt8
  /-- where the FU header is -/
  pos : Nat
  /-- the bits of the FU header that are a type -/
  mask : UInt8

/-- FU-A: the other bits are F and NRI. -/
def layout6184 : FuLayout where
  type bytes := bytes.getD 0 0 &&& 0x1F
  others bytes := [bytes.getD 0 0 &&& 0xE0]
  packetType := 28
  pos := 1
  mask := 0x1F

/-- FU: the other bits are F, the layer and the temporal id. -/
def layout7798 : FuLayout where
  type bytes := (bytes.getD 0 0 >>> 1) &&& (0x3F : UInt8)
  others bytes := [bytes.getD 0 0 &&& (0x81 : UInt8), bytes.getD 1 0]
  packetType := 49
  pos := 2
  mask := 0x3F

namespace FuLayout

variable (layout : FuLayout)

def header (packet : List UInt8) : UInt8 := (rtpPayload packet).getD layout.pos 0

def Starts (packet : List UInt8) : Prop := layout.header packet &&& 0x80 ≠ 0

def Ends (packet : List UInt8) : Prop := layout.header packet &&& 0x40 ≠ 0

def data (packet : List UInt8) : List UInt8 := (rtpPayload packet).drop (layout.pos + 1)

/-- The packets are the fragments of the NAL unit. -/
structure Fragmented (nal : List UInt8) (packets : List (List UInt8)) : Prop where
  several : 2 ≤ packets.length
  fragment : ∀ p ∈ packets, layout.type (rtpPayload p) = layout.packetType
  starts : ∀ k p, packets[k]? = some p → (layout.Starts p ↔ k = 0)
  ends : ∀ k p, packets[k]? = some p → (layout.Ends p ↔ k + 1 = packets.length)
  marker : ∀ k p, packets[k]? = some p → (rtpMarker p = 1 ↔ k + 1 = packets.length)
  notBoth : ∀ p ∈ packets, ¬ (layout.Starts p ∧ layout.Ends p)
  timestamp : ∀ p ∈ packets, ∀ q ∈ packets, rtpTimestamp p = rtpTimestamp q
  seq : ∀ first k p, packets[0]? = some first → packets[k]? = some p →
    rtpSeq p = (rtpSeq first + k) % 65536
  type : ∀ p ∈ packets, layout.header p &&& layout.mask = layout.type nal
  others : ∀ p ∈ packets, layout.others (rtpPayload p) = layout.others nal
  full : ∀ k p, packets[k]? = some p → k + 1 < packets.length →
    (layout.data p).length = PTK_RTP_TCP_MAX

/-- The packets of a NAL unit, whatever its length. -/
def Packetized (nal : List UInt8) (packets : List (List UInt8)) : Prop :=
  if nal.length ≤ PTK_RTP_TCP_MAX then
    ∃ p, packets = [p] ∧ rtpMarker p = 1 ∧ rtpPayload p = nal
  else layout.Fragmented nal packets

theorem Fragmented.of_packetized {layout : FuLayout} {nal : List UInt8}
    {packets : List (List UInt8)} (h : layout.Packetized nal packets)
    (hlong : PTK_RTP_TCP_MAX < nal.length) : layout.Fragmented nal packets := by
  rwa [Packetized, if_neg (by omega)] at h

end FuLayout

/-! ## Reading a packet -/

theorem marker_byte (marker : BitVec 1) (payloadType : BitVec 7) :
    UInt8.ofBitVec (marker ++ payloadType : BitVec 8) >>> 7 = 1 ↔ marker = 1 := by
  revert marker payloadType
  decide

namespace Packet

variable (p : Packet)

theorem rtpMarker_wire : rtpMarker p.wire = 1 ↔ p.header.marker = 1 :=
  marker_byte p.header.marker p.header.payloadType

theorem rtpSeq_wire : rtpSeq p.wire = p.header.seq.toNat := by
  simp only [rtpSeq, Packet.wire, RtpHeader.bytes, RtpHeader.toNetwork, bytes16_htons]
  exact seq_bytes p.header.seq

theorem rtpTimestamp_wire : rtpTimestamp p.wire = bytes32 (htonl p.header.timestamp) := rfl

theorem rtpPayload_wire : rtpPayload p.wire = p.payload := List.drop_left' rfl

end Packet

theorem getElem?_stamp (h : RtpHeader) (ps : List (BitVec 1 × List UInt8)) (k : Nat) :
    (stamp h ps)[k]? = ps[k]?.map fun p =>
      ⟨{ h with marker := p.1, seq := h.seq + UInt16.ofNat k }, p.2⟩ := by
  induction ps generalizing h k with
  | nil => rfl
  | cons p ps ih =>
    cases k with
    | zero => simp [stamp]
    | succ k =>
      rw [stamp, List.getElem?_cons_succ, List.getElem?_cons_succ, ih]
      simp [UInt16.add_assoc, UInt16.add_comm]

namespace H26x

/-! ## The layout of a format -/

structure FuFormat.LaidOut (fmt : FuFormat) (layout : FuLayout) : Prop where
  length : ∀ frame flag, (fmt.fu frame flag).length = layout.pos + 1
  type : ∀ frame flag data, layout.type (fmt.fu frame flag ++ data) = layout.packetType
  others : ∀ frame flag data rest,
    layout.others (fmt.fu frame flag ++ data) = layout.others (frame 0 :: frame 1 :: rest)
  header : ∀ frame flag data rest, ∃ b, b &&& 0xC0 = 0 ∧
    (fmt.fu frame flag ++ data).getD layout.pos 0 = b ||| flag ∧
    (IsFlag flag → (b ||| flag) &&& layout.mask = layout.type (frame 0 :: frame 1 :: rest))

theorem h264_others (b : UInt8) : (b &&& 0xE0 ||| 28) &&& 0xE0 = b &&& 0xE0 := by
  apply UInt8.toBitVec_inj.1
  ext i hi
  interval_cases i <;> simp

theorem h264_laidOut : h264.LaidOut layout6184 where
  length _ _ := rfl
  type frame _ _ := h264_indicator (frame 0)
  others frame _ _ _ := congrArg (fun b => [b]) (h264_others (frame 0))
  header frame flag data rest := by
    refine ⟨frame 0 &&& 0x1F, ?_, rfl, fun hflag => ?_⟩
    · rw [UInt8.and_assoc, show (0x1F : UInt8) &&& 0xC0 = 0 from rfl, UInt8.and_zero]
    · show (frame 0 &&& 0x1F ||| flag) &&& 0x1F = frame 0 &&& 0x1F
      rcases hflag with rfl | rfl | rfl <;> apply UInt8.toBitVec_inj.1 <;> ext i hi <;>
        interval_cases i <;> simp

theorem h265_others (b : UInt8) :
    ((b &&& (0x81 : UInt8)) ||| ((49 : UInt8) <<< 1)) &&& (0x81 : UInt8) = b &&& 0x81 := by
  apply UInt8.toBitVec_inj.1
  ext i hi
  interval_cases i <;> simp

theorem h265_laidOut : h265.LaidOut layout7798 where
  length _ _ := rfl
  type frame _ _ := h265_type (frame 0)
  others frame _ _ _ := congrArg (fun b => [b, frame 1]) (h265_others (frame 0))
  header frame flag data rest := by
    refine ⟨(frame 0 &&& (0x7E : UInt8)) >>> 1, ?_, rfl, fun hflag => ?_⟩
    · apply UInt8.toBitVec_inj.1
      ext i hi
      interval_cases i <;> simp
    · show (((frame 0 &&& (0x7E : UInt8)) >>> 1) ||| flag) &&& (0x3F : UInt8) =
        (frame 0 >>> 1) &&& (0x3F : UInt8)
      rcases hflag with rfl | rfl | rfl <;> apply UInt8.toBitVec_inj.1 <;> ext i hi <;>
        interval_cases i <;> simp

/-! ## The marks of the fragments -/

/-- Marker and flag of the `k`-th of `n` fragments. -/
def markAt (n k : Nat) : BitVec 1 × UInt8 :=
  if k = 0 then (0, 0x80) else if k + 1 = n then (1, 0x40) else (0, 0)

theorem isFlag_markAt (n k : Nat) : IsFlag (markAt n k).2 := by
  unfold markAt IsFlag
  split_ifs <;> simp

theorem markAt_start (n k : Nat) : (markAt n k).2 = 0x80 ↔ k = 0 := by
  unfold markAt
  split_ifs with hfirst hlast
  · simp [hfirst]
  · simp [hfirst]
  · simp [hfirst]

theorem markAt_end {n : Nat} (hn : 2 ≤ n) (k : Nat) : (markAt n k).2 = 0x40 ↔ k + 1 = n := by
  unfold markAt
  split_ifs with hfirst hlast
  · exact iff_of_false (by decide) (by omega)
  · simp [hlast]
  · simp [hlast]

theorem markAt_marker {n : Nat} (hn : 2 ≤ n) (k : Nat) : (markAt n k).1 = 1 ↔ k + 1 = n := by
  unfold markAt
  split_ifs with hfirst hlast
  · exact iff_of_false (by decide) (by omega)
  · simp [hlast]
  · simp [hlast]

theorem getElem?_fullFragments (fmt : FuFormat) (frame : Mem) (pktNum remain : Nat) {todo k : Nat}
    (hk : k < todo) (i pos : Nat) :
    (fullFragments fmt frame pktNum remain todo i pos)[k]? =
      some ((fullMark pktNum remain (i + k)).1, fmt.fu frame (fullMark pktNum remain (i + k)).2 ++
        frame.read (pos + k * PTK_RTP_TCP_MAX) PTK_RTP_TCP_MAX) := by
  induction todo generalizing k i pos with
  | zero => omega
  | succ todo ih =>
    cases k with
    | zero => simp [fullFragments]
    | succ k =>
      rw [fullFragments, List.getElem?_cons_succ, ih (by omega), Nat.succ_mul,
        show i + 1 + k = i + (k + 1) by omega,
        show pos + PTK_RTP_TCP_MAX + k * PTK_RTP_TCP_MAX =
          pos + (k * PTK_RTP_TCP_MAX + PTK_RTP_TCP_MAX) by omega]

theorem length_fragments (fmt : FuFormat) (frame : Mem) {frameSize : Nat}
    (hlong : PTK_RTP_TCP_MAX < frameSize) : (fragments fmt frame frameSize).length =
      frameSize / PTK_RTP_TCP_MAX + if frameSize % PTK_RTP_TCP_MAX > 0 then 1 else 0 := by
  rw [fragments, if_neg (by omega)]
  dsimp only
  rw [List.length_append, length_fullFragments]
  split_ifs <;> rfl

theorem two_le_length_fragments (fmt : FuFormat) (frame : Mem) {frameSize : Nat}
    (hlong : PTK_RTP_TCP_MAX < frameSize) : 2 ≤ (fragments fmt frame frameSize).length := by
  rw [length_fragments fmt frame hlong]
  unfold PTK_RTP_TCP_MAX at *
  split_ifs <;> omega

theorem getElem?_fragments (fmt : FuFormat) (frame : Mem) {frameSize : Nat}
    (hlong : PTK_RTP_TCP_MAX < frameSize) {n : Nat}
    (hn : n = (fragments fmt frame frameSize).length) {k : Nat} {m : BitVec 1 × List UInt8}
    (h : (fragments fmt frame frameSize)[k]? = some m) :
    ∃ data, m = ((markAt n k).1, fmt.fu frame (markAt n k).2 ++ data) ∧
      (k + 1 < n → data.length = PTK_RTP_TCP_MAX) := by
  have hpktNum : 0 < frameSize / PTK_RTP_TCP_MAX := Nat.div_pos (by omega) (by decide)
  have hk : k < n := by
    rw [hn]
    exact (List.getElem?_eq_some_iff.mp h).1
  rw [length_fragments fmt frame hlong] at hn
  rw [fragments, if_neg (by omega)] at h
  dsimp only at h
  set pktNum := frameSize / PTK_RTP_TCP_MAX
  set remain := frameSize % PTK_RTP_TCP_MAX
  by_cases hfull : k < pktNum
  · have hmark : fullMark pktNum remain (0 + k) = markAt n k := by
      rw [Nat.zero_add, fullMark, markAt]
      refine if_congr Iff.rfl rfl (if_congr ?_ rfl rfl)
      split_ifs at hn <;> omega
    rw [List.getElem?_append_left (by rwa [length_fullFragments]),
      getElem?_fullFragments fmt frame pktNum remain hfull, hmark] at h
    exact ⟨_, (Option.some.inj h).symm, fun _ => Mem.length_read _ _ _⟩
  · -- the remainder is behind the full fragments
    have hremain : remain > 0 := by
      by_contra hnone
      rw [if_neg hnone] at hn
      omega
    rw [if_pos hremain] at hn
    obtain rfl : k = pktNum := by omega
    have hmark : markAt n pktNum = (1, 0x40) := by
      rw [markAt, if_neg (by omega), if_pos (by omega)]
    rw [List.getElem?_append_right (by rw [length_fullFragments]), length_fullFragments,
      Nat.sub_self, if_pos hremain] at h
    rw [hmark]
    exact ⟨_, (Option.some.inj h).symm, fun hlt => by omega⟩

/-! ## The packets -/

variable {fmt : FuFormat} {layout : FuLayout} {h : RtpHeader} {frame : Mem} {frameSize n k : Nat}
  {p : List UInt8}

/-- The bytes of a packet are those of the `k`-th of `n` fragments. -/
def IsFragment (fmt : FuFormat) (frame : Mem) (h : RtpHeader) (n k : Nat) (p : List UInt8) : Prop :=
  ∃ data, p = Packet.wire ⟨{ h with marker := (markAt n k).1, seq := h.seq + UInt16.ofNat k },
    fmt.fu frame (markAt n k).2 ++ data⟩ ∧ (k + 1 < n → data.length = PTK_RTP_TCP_MAX)

theorem isFragment_of_getElem? (hlong : PTK_RTP_TCP_MAX < frameSize)
    (hn : n = (fragments fmt frame frameSize).length)
    (hp : ((stamp h (fragments fmt frame frameSize)).map Packet.wire)[k]? = some p) :
    IsFragment fmt frame h n k p := by
  rw [List.getElem?_map, getElem?_stamp, Option.map_map] at hp
  obtain ⟨m, hm, rfl⟩ := Option.map_eq_some_iff.mp hp
  obtain ⟨data, rfl, hdata⟩ := getElem?_fragments fmt frame hlong hn hm
  exact ⟨data, rfl, hdata⟩

namespace IsFragment

theorem marker (hp : IsFragment fmt frame h n k p) (hn : 2 ≤ n) :
    rtpMarker p = 1 ↔ k + 1 = n := by
  obtain ⟨data, rfl, -⟩ := hp
  rw [Packet.rtpMarker_wire]
  exact markAt_marker hn k

theorem timestamp (hp : IsFragment fmt frame h n k p) :
    rtpTimestamp p = bytes32 (htonl h.timestamp) := by
  obtain ⟨data, rfl, -⟩ := hp
  exact Packet.rtpTimestamp_wire _

theorem seq (hp : IsFragment fmt frame h n k p) : rtpSeq p = (h.seq.toNat + k) % 65536 := by
  obtain ⟨data, rfl, -⟩ := hp
  rw [Packet.rtpSeq_wire]
  simp

theorem fragment (hlaid : fmt.LaidOut layout) (hp : IsFragment fmt frame h n k p) :
    layout.type (rtpPayload p) = layout.packetType := by
  obtain ⟨data, rfl, -⟩ := hp
  rw [Packet.rtpPayload_wire]
  exact hlaid.type frame _ data

theorem others (hlaid : fmt.LaidOut layout) (hp : IsFragment fmt frame h n k p)
    (rest : List UInt8) :
    layout.others (rtpPayload p) = layout.others (frame 0 :: frame 1 :: rest) := by
  obtain ⟨data, rfl, -⟩ := hp
  rw [Packet.rtpPayload_wire]
  exact hlaid.others frame _ data rest

theorem data (hlaid : fmt.LaidOut layout) (hp : IsFragment fmt frame h n k p) (hk : k + 1 < n) :
    (layout.data p).length = PTK_RTP_TCP_MAX := by
  obtain ⟨data, rfl, hdata⟩ := hp
  rw [FuLayout.data, Packet.rtpPayload_wire, List.drop_left' (hlaid.length frame _)]
  exact hdata hk

theorem header (hlaid : fmt.LaidOut layout) (hp : IsFragment fmt frame h n k p)
    (rest : List UInt8) : (layout.Starts p ↔ (markAt n k).2 = 0x80) ∧
      (layout.Ends p ↔ (markAt n k).2 = 0x40) ∧
      layout.header p &&& layout.mask = layout.type (frame 0 :: frame 1 :: rest) := by
  obtain ⟨data, rfl, -⟩ := hp
  obtain ⟨b, hb, hheader, htype⟩ := hlaid.header frame (markAt n k).2 data rest
  obtain ⟨hfirst, hlast⟩ := flag_bits b (markAt n k).2 hb (isFlag_markAt n k)
  unfold FuLayout.Starts FuLayout.Ends FuLayout.header
  rw [Packet.rtpPayload_wire, hheader, ← bne_iff_ne, ← bne_iff_ne, hfirst, hlast]
  exact ⟨beq_iff_eq, beq_iff_eq, htype (isFlag_markAt n k)⟩

end IsFragment

theorem fragmented (hlaid : fmt.LaidOut layout) (hlong : PTK_RTP_TCP_MAX < frameSize)
    (h : RtpHeader) : layout.Fragmented (frame.read 0 frameSize)
      ((stamp h (fragments fmt frame frameSize)).map Packet.wire) := by
  have hlength : ((stamp h (fragments fmt frame frameSize)).map Packet.wire).length =
      (fragments fmt frame frameSize).length := by simp
  have htwo := two_le_length_fragments fmt frame hlong
  have hnal : ∃ rest, frame.read 0 frameSize = frame 0 :: frame 1 :: rest := by
    obtain ⟨m, rfl⟩ : ∃ m, frameSize = 1 + (1 + m) := ⟨frameSize - 2, by
      unfold PTK_RTP_TCP_MAX at hlong
      omega⟩
    rw [Mem.read_cons, Mem.read_cons]
    exact ⟨_, rfl⟩
  obtain ⟨rest, hnal⟩ := hnal
  have hat {k : Nat} {p : List UInt8}
      (hp : ((stamp h (fragments fmt frame frameSize)).map Packet.wire)[k]? = some p) :=
    isFragment_of_getElem? hlong rfl hp
  have hmem {p : List UInt8} (hp : p ∈ (stamp h (fragments fmt frame frameSize)).map Packet.wire) :
      ∃ k, IsFragment fmt frame h (fragments fmt frame frameSize).length k p := by
    obtain ⟨k, hk⟩ := List.mem_iff_getElem?.mp hp
    exact ⟨k, hat hk⟩
  rw [hnal]
  constructor
  case several => rwa [hlength]
  case fragment =>
    intro p hp
    obtain ⟨k, hfragment⟩ := hmem hp
    exact hfragment.fragment hlaid
  case starts =>
    intro k p hp
    rw [((hat hp).header hlaid rest).1, markAt_start]
  case ends =>
    intro k p hp
    rw [((hat hp).header hlaid rest).2.1, markAt_end htwo, hlength]
  case marker =>
    intro k p hp
    rw [(hat hp).marker htwo, hlength]
  case notBoth =>
    rintro p hp ⟨hstarts, hends⟩
    obtain ⟨k, hfragment⟩ := hmem hp
    obtain ⟨hfirst, hlast, -⟩ := hfragment.header hlaid rest
    exact absurd ((hfirst.mp hstarts).symm.trans (hlast.mp hends)) (by decide)
  case timestamp =>
    intro p hp q hq
    obtain ⟨k, hfragment⟩ := hmem hp
    obtain ⟨l, hother⟩ := hmem hq
    rw [hfragment.timestamp, hother.timestamp]
  case seq =>
    intro first k p hfirst hp
    rw [(hat hfirst).seq, (hat hp).seq]
    omega
  case type =>
    intro p hp
    obtain ⟨k, hfragment⟩ := hmem hp
    exact (hfragment.header hlaid rest).2.2
  case others =>
    intro p hp
    obtain ⟨k, hfragment⟩ := hmem hp
    exact hfragment.others hlaid rest
  case full =>
    intro k p hp hk
    rw [hlength] at hk
    exact (hat hp).data hlaid hk

theorem packetized (hlaid : fmt.LaidOut layout) (h : RtpHeader) (frame : Mem) (frameSize : Nat) :
    layout.Packetized (frame.read 0 frameSize)
      ((stamp h (fragments fmt frame frameSize)).map Packet.wire) := by
  rw [FuLayout.Packetized, Mem.length_read]
  split_ifs with hsize
  · rw [fragments, if_pos hsize]
    exact ⟨_, rfl, (Packet.rtpMarker_wire _).mpr rfl, Packet.rtpPayload_wire _⟩
  · exact fragmented hlaid (by omega) h

theorem rtpSendFrame_packetized (hlaid : fmt.LaidOut layout) (tv : Timeval) (a : SendArgs)
    (frame : Mem) (frameSize : Nat) (t : Tx) (hroute : t.Routed a)
    (hsent : AllSent t (rtpSendFrame fmt tv a frame frameSize t).2) :
    layout.Packetized (frame.read 0 frameSize)
      (emitted t (rtpSendFrame fmt tv a frame frameSize t).2) := by
  have hmeets := rtpSendFrame_meets fmt tv a frame frameSize t
  cases hresult : (rtpSendFrame fmt tv a frame frameSize t).1 with
  | none =>
    obtain ⟨c, hc, hret⟩ := (routes_video fmt tv frame frameSize).refused hroute hresult
    have hpos := hsent c hc
    omega
  | some ret =>
    obtain ⟨-, -, hemits⟩ := hmeets.result hresult
    rw [hemits.emitted]
    exact packetized hlaid _ frame frameSize

end H26x

/-- **The fragments of a NAL unit**, from either packetiser. -/
theorem rtpSendH26xFrame_packetized (tv : Timeval) (a : SendArgs) (frame : Mem) (frameSize : Nat)
    (t : Tx) (hroute : t.Routed a) :
    (AllSent t (rtpSendH264Frame tv a frame frameSize t).2 →
      layout6184.Packetized (frame.read 0 frameSize)
        (emitted t (rtpSendH264Frame tv a frame frameSize t).2)) ∧
    (AllSent t (rtpSendH265Frame tv a frame frameSize t).2 →
      layout7798.Packetized (frame.read 0 frameSize)
        (emitted t (rtpSendH265Frame tv a frame frameSize t).2)) :=
  ⟨H26x.rtpSendFrame_packetized H26x.h264_laidOut tv a frame frameSize t hroute,
    H26x.rtpSendFrame_packetized H26x.h265_laidOut tv a frame frameSize t hroute⟩

theorem openTx_allSent (tv : Timeval) (frame : Mem) (frameSize : Nat) :
    AllSent openTx (rtpSendH264Frame tv tcpClient frame frameSize openTx).2 ∧
      AllSent openTx (rtpSendH265Frame tv tcpClient frame frameSize openTx).2 := by
  have hall : ∀ fmt,
      AllSent openTx (H26x.rtpSendFrame fmt tv tcpClient frame frameSize openTx).2 := by
    intro fmt
    obtain ⟨ret, t', hrun, hemits⟩ := H26x.rtpSendFrame_emits fmt tv tcpClient frame frameSize
      openTx (fun _ _ => rfl) (Or.inl rfl)
    rw [hrun]
    exact hemits.calls.1
  exact ⟨hall H26x.h264, hall H26x.h265⟩

/-- An IDR slice of 2800 bytes, whose last fragment is a full one. -/
theorem rtpSendH26xFrame_packetized_2800 :
    layout6184.Fragmented (Mem.read (fun _ => 0x65) 0 2800) (emitted openTx
      (rtpSendH264Frame ⟨0, 0⟩ tcpClient (fun _ => 0x65) 2800 openTx).2) ∧
    layout7798.Fragmented (Mem.read (fun _ => 0x65) 0 2800) (emitted openTx
      (rtpSendH265Frame ⟨0, 0⟩ tcpClient (fun _ => 0x65) 2800 openTx).2) := by
  -- the length stays a variable, so that nothing is evaluated
  obtain ⟨frameSize, hsize⟩ : ∃ frameSize, frameSize = 2800 := ⟨2800, rfl⟩
  rw [← hsize]
  have hlong : PTK_RTP_TCP_MAX < (Mem.read (fun _ => 0x65) 0 frameSize).length := by
    rw [Mem.length_read, hsize]
    decide
  obtain ⟨hsent264, hsent265⟩ := openTx_allSent ⟨0, 0⟩ (fun _ => 0x65) frameSize
  obtain ⟨h264, h265⟩ := rtpSendH26xFrame_packetized ⟨0, 0⟩ tcpClient (fun _ => 0x65) frameSize
    openTx (Or.inl rfl)
  exact ⟨.of_packetized (h264 hsent264) hlong, .of_packetized (h265 hsent265) hlong⟩

end SimpleRtsp

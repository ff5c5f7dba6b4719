import SimpleRtsp.Rtp.Audio

/-!
# One stream of packets

Every frame of a stream is sent from the same header buffer. `RtpHeader.Of` is what the buffer
holds between two frames: version, payload type and SSRC as `rtpHeaderInit` set them, and the
number of packets so far. `stamp_numbered` carries it through a frame, and `onWire_of` says what
it means for the bytes of a packet. `Carries` describes the accepted socket calls of a stream over
TCP: packets with their interleaved headers, numbered from 0, and at most one interleaved header
without its packet.
-/

namespace SimpleRtsp

/-! ## The bytes of a packet -/

/-- The fields of the fixed RTP header in the bytes of a packet. -/
def rtpVersion (packet : List UInt8) : UInt8 := packet.getD 0 0 >>> 6

def rtpPayloadType (packet : List UInt8) : UInt8 := packet.getD 1 0 &&& 0x7F

def rtpSeq (packet : List UInt8) : Nat := (packet.getD 2 0).toNat * 256 + (packet.getD 3 0).toNat

def rtpSsrc (packet : List UInt8) : List UInt8 := (packet.drop 8).take 4

/-- The packet carries version 2, the payload type, the SSRC and the sequence number of the `k`-th
packet of a stream. -/
structure OnWire (payloadType : UInt8) (k : Nat) (packet : List UInt8) : Prop where
  version : rtpVersion packet = RTP_VESION
  payloadType : rtpPayloadType packet = payloadType
  seq : rtpSeq packet = k % 65536
  ssrc : rtpSsrc packet = [0x88, 0x92, 0x34, 0x23]

structure RtpHeader.Of (payloadType : UInt8) (k : Nat) (h : RtpHeader) : Prop where
  version : h.version = RTP_VESION.toBitVec.setWidth 2
  payloadType : h.payloadType = payloadType.toBitVec.setWidth 7
  seq : h.seq = UInt16.ofNat k
  ssrc : h.ssrc = 0x88923423

theorem rtpHeaderInit_of (p : RtpPacket) (payloadType : UInt8) :
    (rtpHeaderInit p 0 0 0 RTP_VESION payloadType 0 0 0 0x88923423).rtpHeader.Of payloadType 0 :=
  ⟨rfl, rfl, rfl, rfl⟩

theorem version_byte (padding extension : BitVec 1) (csrcLen : BitVec 4) :
    UInt8.ofBitVec
      (RTP_VESION.toBitVec.setWidth 2 ++ padding ++ extension ++ csrcLen : BitVec 8) >>> 6 =
        RTP_VESION := by
  revert padding extension csrcLen
  decide

theorem payloadType_byte (marker : BitVec 1) (payloadType : UInt8) :
    UInt8.ofBitVec (marker ++ payloadType.toBitVec.setWidth 7 : BitVec 8) &&& 0x7F =
      payloadType &&& 0x7F := by
  have hlow : ∀ i < 7, (marker ++ payloadType.toBitVec.setWidth 7 : BitVec (1 + 7)).getLsbD i =
      (payloadType.toBitVec.setWidth 7).getLsbD i := by
    intro i hi
    rw [BitVec.getLsbD_append, if_pos hi]
  apply UInt8.toBitVec_inj.1
  ext i hi
  interval_cases i <;> simp [← BitVec.getLsbD_eq_getElem, hlow]

theorem seq_bytes (seq : UInt16) :
    (seq >>> 8).toUInt8.toNat * 256 + seq.toUInt8.toNat = seq.toNat := by
  have hlt := seq.toNat_lt
  simp [Nat.shiftRight_eq_div_pow]
  omega

theorem onWire_of {payloadType : UInt8} (htype : payloadType &&& 0x7F = payloadType) {k : Nat}
    {p : Packet} (h : p.header.Of payloadType k) : OnWire payloadType k p.wire where
  version := by
    simp only [rtpVersion, Packet.wire, RtpHeader.bytes, RtpHeader.toNetwork, h.version]
    exact version_byte _ _ _
  payloadType := by
    simp only [rtpPayloadType, Packet.wire, RtpHeader.bytes, RtpHeader.toNetwork, h.payloadType]
    exact (payloadType_byte _ _).trans htype
  seq := by
    simp only [rtpSeq, Packet.wire, RtpHeader.bytes, RtpHeader.toNetwork, bytes16_htons, h.seq]
    refine (seq_bytes _).trans ?_
    simp
  ssrc := by
    simp only [rtpSsrc, Packet.wire, RtpHeader.bytes, RtpHeader.toNetwork, bytes16_htons,
      bytes32_htonl, h.ssrc]
    rfl

/-! ## Numbering -/

def Numbered (payloadType : UInt8) : Nat → List Packet → Prop
  | _, [] => True
  | n, p :: rest => p.header.Of payloadType n ∧ Numbered payloadType (n + 1) rest

theorem Numbered.append {payloadType : UInt8} {n : Nat} {ps qs : List Packet}
    (h : Numbered payloadType n ps) (h' : Numbered payloadType (n + ps.length) qs) :
    Numbered payloadType n (ps ++ qs) := by
  induction ps generalizing n with
  | nil => exact h'
  | cons p rest ih =>
    refine ⟨h.1, ih h.2 ?_⟩
    rwa [List.length_cons, Nat.add_comm rest.length, ← Nat.add_assoc] at h'

theorem Numbered.take {payloadType : UInt8} {n : Nat} {ps : List Packet}
    (h : Numbered payloadType n ps) (i : Nat) : Numbered payloadType n (ps.take i) := by
  induction ps generalizing n i with
  | nil => rwa [List.take_nil]
  | cons p rest ih =>
    cases i with
    | zero => trivial
    | succ i => exact ⟨h.1, ih h.2 i⟩

theorem Numbered.getElem? {payloadType : UInt8} {n : Nat} {ps : List Packet}
    (h : Numbered payloadType n ps) {k : Nat} {p : Packet} (hp : ps[k]? = some p) :
    p.header.Of payloadType (n + k) := by
  induction ps generalizing n k with
  | nil => cases hp
  | cons q rest ih =>
    cases k with
    | zero =>
      obtain rfl : q = p := by simpa using hp
      exact h.1
    | succ k =>
      rw [List.getElem?_cons_succ] at hp
      rw [Nat.add_comm k, ← Nat.add_assoc]
      exact ih h.2 hp

theorem stamp_numbered {payloadType : UInt8} {n : Nat} {h : RtpHeader} (hof : h.Of payloadType n)
    (payloads : List (BitVec 1 × List UInt8)) : Numbered payloadType n (stamp h payloads) := by
  induction payloads generalizing n h with
  | nil => trivial
  | cons p rest ih =>
    refine ⟨⟨hof.version, hof.payloadType, hof.seq, hof.ssrc⟩, ih ⟨hof.version, hof.payloadType, ?_,
      hof.ssrc⟩⟩
    simp [hof.seq]

theorem RtpHeader.Of.after {payloadType : UInt8} {n m : Nat} {h h' : RtpHeader}
    (hof : h.Of payloadType n) (hafter : h.After h' m) : h'.Of payloadType (n + m) := by
  rw [RtpHeader.After] at hafter
  rw [hafter]
  refine ⟨hof.version, hof.payloadType, ?_, hof.ssrc⟩
  simp [hof.seq]

theorem RtpHeader.Of.timestamp {payloadType : UInt8} {n : Nat} {h : RtpHeader}
    (hof : h.Of payloadType n) (timestamp : UInt32) :
    ({ h with timestamp := timestamp } : RtpHeader).Of payloadType n :=
  ⟨hof.version, hof.payloadType, hof.seq, hof.ssrc⟩

@[simp] theorem length_stamp (h : RtpHeader) (payloads : List (BitVec 1 × List UInt8)) :
    (stamp h payloads).length = payloads.length := by
  rw [← List.length_map Packet.payload, map_payload_stamp, List.length_map]

/-! ## A stream over TCP -/

/-- The buffers of a stream on `channel`: packets numbered from 0, each behind its interleaved
header, and at the end perhaps a header whose packet was refused. -/
structure Carries (channel payloadType : UInt8) (bufs : List (List UInt8)) : Prop where
  out : ∃ packets rest : List (List UInt8),
    bufs = (packets.flatMap fun p => [interleaved channel p.length, p]) ++ rest ∧
    (rest = [] ∨ ∃ len, rest = [interleaved channel len]) ∧
    ∀ k p, packets[k]? = some p → OnWire payloadType k p

theorem prefix_bufs (a : SendArgs) {ps : List Packet} {bufs : List (List UInt8)}
    (h : bufs <+: ps.flatMap (Packet.bufs a true)) :
    ∃ i rest, bufs = (ps.take i).flatMap (Packet.bufs a true) ++ rest ∧
      (rest = [] ∨ ∃ len, rest = [interleaved (UInt8.ofInt a.sig) len]) := by
  induction ps generalizing bufs with
  | nil => exact ⟨0, [], by simpa using h, Or.inl rfl⟩
  | cons p ps ih =>
    have hcons : (p :: ps).flatMap (Packet.bufs a true) =
        interleaved (UInt8.ofInt a.sig) p.wire.length :: p.wire ::
          ps.flatMap (Packet.bufs a true) := rfl
    rw [hcons] at h
    match bufs, h with
    | [], _ => exact ⟨0, [], rfl, Or.inl rfl⟩
    | [header], h =>
      obtain ⟨rfl, -⟩ := List.cons_prefix_cons.mp h
      exact ⟨0, _, rfl, Or.inr ⟨_, rfl⟩⟩
    | header :: packet :: bufs, h =>
      obtain ⟨hheader, h⟩ := List.cons_prefix_cons.mp h
      obtain ⟨hpacket, h⟩ := List.cons_prefix_cons.mp h
      obtain ⟨i, rest, hbufs, hrest⟩ := ih h
      exact ⟨i + 1, rest, by rw [hheader, hpacket, hbufs]; rfl, hrest⟩

theorem carries_of_prefix {payloadType : UInt8} (htype : payloadType &&& 0x7F = payloadType)
    (a : SendArgs) {ps : List Packet} (hps : Numbered payloadType 0 ps) {bufs : List (List UInt8)}
    (h : bufs <+: ps.flatMap (Packet.bufs a true)) :
    Carries (UInt8.ofInt a.sig) payloadType bufs := by
  obtain ⟨i, rest, rfl, hrest⟩ := prefix_bufs a h
  refine ⟨(ps.take i).map Packet.wire, rest, ?_, hrest, fun k p hp => ?_⟩
  · rw [List.flatMap_map]
    rfl
  · rw [List.getElem?_map] at hp
    obtain ⟨packet, hpacket, rfl⟩ := Option.map_eq_some_iff.mp hp
    have hof := (hps.take i).getElem? hpacket
    rw [Nat.zero_add] at hof
    exact onWire_of htype hof

end SimpleRtsp

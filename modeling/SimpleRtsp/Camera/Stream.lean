import SimpleRtsp.Lib.Framing
import SimpleRtsp.Rtp.Numbering

/-!
# The stream of the camera server

The camera server sends each packet of its encoder, a whole picture, as one RTP packet, framed on
the RTSP connection by its length in two bytes. What a receiver gets that splits the stream by these
lengths is what the encoder made exactly if every length fits in them (`recovered_iff`); a larger
picture is not sent in fragments, as the file server does, but leaves the receiver out of step.
-/

namespace SimpleRtsp

namespace Camera

/-! ## The sender -/

/-- The `static` variables of `send_rtp_packet`. -/
structure Counters where
  sequenceNumber : UInt16
  timestamp : UInt32
  deriving DecidableEq, Repr

def Counters.init : Counters := ⟨0, 0⟩

/-- `send_rtp_over_tcp`: what it writes. -/
def sendRtpOverTcp (rtpData : List UInt8) : List UInt8 :=
  [0x24, 0, UInt8.ofNat ((rtpData.length >>> 8) &&& 0xFF), UInt8.ofNat (rtpData.length &&& 0xFF)] ++
    rtpData

def rtpPacket (c : Counters) (data : List UInt8) : List UInt8 :=
  ([0x80, 96, (c.sequenceNumber >>> 8).toUInt8, c.sequenceNumber.toUInt8,
    (c.timestamp >>> 24).toUInt8, (c.timestamp >>> 16).toUInt8, (c.timestamp >>> 8).toUInt8,
    c.timestamp.toUInt8, 0, 0, 0, 0] : List UInt8) ++ data

/-- `send_rtp_packet`: the new counters and what is written. -/
def sendRtpPacket (c : Counters) (data : List UInt8) : Counters × List UInt8 :=
  (⟨c.sequenceNumber + 1, c.timestamp + 90000 / 30⟩, sendRtpOverTcp (rtpPacket c data))

/-- The stream of the packets of the encoder, one after the other. -/
def sendAll (c : Counters) : List (List UInt8) → List UInt8
  | [] => []
  | data :: rest =>
    let (c', written) := sendRtpPacket c data
    written ++ sendAll c' rest

/-! ## The receiver -/

def rtpTime (packet : List UInt8) : Nat :=
  (packet.getD 4 0).toNat * 16777216 + (packet.getD 5 0).toNat * 65536 +
    (packet.getD 6 0).toNat * 256 + (packet.getD 7 0).toNat

/-- The RTP packet of the `k`-th packet of the encoder, on channel 0. -/
structure Carried (c : Counters) (k : Nat) (data : List UInt8) (f : UInt8 × List UInt8) : Prop where
  channel : f.1 = 0
  header : RTP_HEADER_SIZE ≤ f.2.length
  payload : f.2.drop RTP_HEADER_SIZE = data
  seq : rtpSeq f.2 = (c.sequenceNumber.toNat + k) % 65536
  time : rtpTime f.2 = (c.timestamp.toNat + 3000 * k) % 2 ^ 32

/-- A receiver recovers the packets of the encoder from the stream. -/
def Recovered (c : Counters) (packets : List (List UInt8)) (stream : List UInt8) : Prop :=
  ∃ frames, Framing.split 0x24 stream = some frames ∧ frames.length = packets.length ∧
    ∀ k data f, packets[k]? = some data → frames[k]? = some f → Carried c k data f

/-! ## The frames that are sent -/

/-- The frames, each with the counters as they are then. -/
def frames (c : Counters) : List (List UInt8) → List (UInt8 × List UInt8)
  | [] => []
  | data :: rest => (0, rtpPacket c data) :: frames (sendRtpPacket c data).1 rest

theorem sendRtpOverTcp_eq (rtpData : List UInt8) :
    sendRtpOverTcp rtpData = Framing.frame 0x24 (0, rtpData) := by
  have hhigh : (UInt8.ofNat ((rtpData.length >>> 8) &&& 0xFF)).toNat =
      rtpData.length / 256 % 256 := by
    rw [UInt8.toNat_ofNat', Nat.shiftRight_eq_div_pow, show 0xFF = 2 ^ 8 - 1 from rfl,
      Nat.and_two_pow_sub_one_eq_mod, Nat.mod_mod]
  have hlow : (UInt8.ofNat (rtpData.length &&& 0xFF)).toNat = rtpData.length % 256 := by
    rw [UInt8.toNat_ofNat', show 0xFF = 2 ^ 8 - 1 from rfl, Nat.and_two_pow_sub_one_eq_mod,
      Nat.mod_mod]
  rw [sendRtpOverTcp, Framing.header_of_bytes hhigh hlow]
  rfl

theorem sendAll_eq (c : Counters) (packets : List (List UInt8)) :
    sendAll c packets = (frames c packets).flatMap (Framing.frame 0x24) := by
  induction packets generalizing c with
  | nil => rfl
  | cons data rest ih =>
    rw [sendAll, frames, List.flatMap_cons, ← ih, ← sendRtpOverTcp_eq]
    rfl

theorem length_frames (c : Counters) (packets : List (List UInt8)) :
    (frames c packets).length = packets.length := by
  induction packets generalizing c with
  | nil => rfl
  | cons data rest ih => rw [frames, List.length_cons, List.length_cons, ih]

theorem length_rtpPacket (c : Counters) (data : List UInt8) :
    (rtpPacket c data).length = data.length + 12 := by
  simp [rtpPacket]

theorem time_bytes (timestamp : UInt32) :
    (timestamp >>> 24).toUInt8.toNat * 16777216 + (timestamp >>> 16).toUInt8.toNat * 65536 +
      (timestamp >>> 8).toUInt8.toNat * 256 + timestamp.toUInt8.toNat = timestamp.toNat := by
  have hlt := timestamp.toNat_lt
  simp [Nat.shiftRight_eq_div_pow]
  omega

theorem carried_zero (c : Counters) (data : List UInt8) :
    Carried c 0 data (0, rtpPacket c data) where
  channel := rfl
  header := by
    rw [length_rtpPacket, RTP_HEADER_SIZE]
    omega
  payload := rfl
  seq := by
    have hlt := c.sequenceNumber.toNat_lt
    rw [Nat.add_zero, Nat.mod_eq_of_lt hlt]
    exact seq_bytes c.sequenceNumber
  time := by
    have hlt := c.timestamp.toNat_lt
    rw [Nat.mul_zero, Nat.add_zero, Nat.mod_eq_of_lt hlt]
    exact time_bytes c.timestamp

theorem Carried.succ {c : Counters} {k : Nat} {data data' : List UInt8} {f : UInt8 × List UInt8}
    (h : Carried (sendRtpPacket c data').1 k data f) : Carried c (k + 1) data f where
  channel := h.channel
  header := h.header
  payload := h.payload
  seq := by
    have hnext : (sendRtpPacket c data').1.sequenceNumber.toNat =
        (c.sequenceNumber.toNat + 1) % 65536 := UInt16.toNat_add ..
    rw [h.seq, hnext]
    omega
  time := by
    have hnext : (sendRtpPacket c data').1.timestamp.toNat =
        (c.timestamp.toNat + 3000) % 2 ^ 32 := UInt32.toNat_add ..
    rw [h.time, hnext]
    omega

theorem carried_frames (c : Counters) (packets : List (List UInt8)) (k : Nat) (data : List UInt8)
    (f : UInt8 × List UInt8) (hdata : packets[k]? = some data)
    (hf : (frames c packets)[k]? = some f) : Carried c k data f := by
  induction packets generalizing c k with
  | nil => cases hdata
  | cons first rest ih =>
    cases k with
    | zero =>
      obtain rfl := Option.some.inj hdata
      obtain rfl := Option.some.inj hf
      exact carried_zero c first
    | succ k =>
      rw [List.getElem?_cons_succ] at hdata
      rw [frames, List.getElem?_cons_succ] at hf
      exact (ih _ k hdata hf).succ

theorem forall_frames (c : Counters) (packets : List (List UInt8)) :
    (∀ f ∈ frames c packets, f.2.length < 65536) ↔
      ∀ data ∈ packets, data.length + RTP_HEADER_SIZE < 65536 := by
  induction packets generalizing c with
  | nil => simp [frames]
  | cons data rest ih =>
    rw [frames, List.forall_mem_cons, List.forall_mem_cons, ih]
    dsimp only
    rw [length_rtpPacket, RTP_HEADER_SIZE]

theorem Recovered.fits {c : Counters} {packets : List (List UInt8)} {stream : List UInt8}
    (h : Recovered c packets stream) :
    ∀ data ∈ packets, data.length + RTP_HEADER_SIZE < 65536 := by
  obtain ⟨frames, hsplit, hlength, hcarried⟩ := h
  intro data hdata
  obtain ⟨k, hk⟩ := List.mem_iff_getElem?.mp hdata
  have hlt : k < frames.length := by
    rw [hlength]
    exact (List.getElem?_eq_some_iff.mp hk).1
  have hframe := hcarried k data frames[k] hk (List.getElem?_eq_getElem hlt)
  have hfits := Framing.length_lt_of_split hsplit frames[k] (List.getElem_mem hlt)
  have hpayload := congrArg List.length hframe.payload
  have hheader := hframe.header
  rw [List.length_drop] at hpayload
  omega

/-- **The receiver of the camera server** recovers the packets of the encoder exactly if each of
them fits in the length field with its RTP header. -/
theorem recovered_iff (c : Counters) (packets : List (List UInt8)) :
    Recovered c packets (sendAll c packets) ↔
      ∀ data ∈ packets, data.length + RTP_HEADER_SIZE < 65536 := by
  constructor
  · exact Recovered.fits
  · intro hfits
    have hsplit : Framing.split 0x24 (sendAll c packets) = some (frames c packets) := by
      rw [sendAll_eq, Framing.split_frames_iff, forall_frames]
      exact hfits
    exact ⟨_, hsplit, length_frames c packets, carried_frames c packets⟩

/-- A picture of 65524 bytes has the length 0. -/
theorem not_recovered_65524 :
    ¬ Recovered .init [List.replicate 65524 0] (sendAll .init [List.replicate 65524 0]) := by
  intro h
  have hfits := h.fits _ (List.mem_singleton.mpr rfl)
  rw [List.length_replicate] at hfits
  exact absurd hfits (by decide)

end Camera

end SimpleRtsp

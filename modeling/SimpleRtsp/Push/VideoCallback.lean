import SimpleRtsp.Lib.Framing
import SimpleRtsp.Rtp.Packet

/-!
# The callback of the video encoder

`VideoenCodeCallback` gets the packets of an encoded picture from `RTPPAY_Process`, each behind its
size in four bytes, and writes the interleaved header over every size before it passes the buffer
on. It finds the next size by the one it is about to overwrite. The invariant of the loop (`At`) is
a buffer in two parts: the frames of the packets behind it and the records of the packets in front
of it, with the pointer in between.
-/

namespace SimpleRtsp

namespace Push

/-! ## The code -/

def STREAM_TYPE_VIDEO : UInt8 := 1

/-- `RTPPAY_PROCESS_PARAM`; the pointers are what they give access to. -/
structure ProcessParam where
  pInData : Mem
  dwInDataLen : UInt32
  byStreamType : UInt8
  dwTimeStampSec : UInt32
  dwTimeStampUsec : UInt32
  pOutData : Mem
  dwOutDataLen : UInt32
  dwPacketNum : UInt32

/-- What the callback passes to `RTPPAY_Process`. -/
def processParam (pData : Mem) (nDatalen : Int32) : ProcessParam where
  pInData := pData
  dwInDataLen := nDatalen.toUInt32
  byStreamType := STREAM_TYPE_VIDEO
  dwTimeStampSec := 0
  dwTimeStampUsec := 0
  pOutData := fun _ => 0
  dwOutDataLen := 0
  dwPacketNum := 0

structure RealSteam where
  nChan : Int32
  nStreamType : Int32
  pData : Mem
  nLen : Int32

/-- The variables of the loop; `pOutData` is the distance from `process_param.pOutData`. -/
structure Walk where
  mem : Mem
  pOutData : Nat
  sumsize : Int32

/-- `*(int * )p` on a little-endian host. -/
def loadInt (m : Mem) (off : Nat) : UInt32 :=
  UInt32.ofNat ((m off).toNat + (m (off + 1)).toNat * 256 + (m (off + 2)).toNat * 65536 +
    (m (off + 3)).toNat * 16777216)

/-- One turn of the loop, which reads and writes four bytes at `pOut_data`; none if they are not
inside the `len` bytes of the buffer. -/
def turn (len : Nat) (w : Walk) : Option Walk :=
  if w.pOutData + 4 ≤ len then
    let currentRtppacketSize := htonl (loadInt w.mem w.pOutData)
    some
      { mem := w.mem.write w.pOutData
          [0x24, 0, (currentRtppacketSize >>> 8).toUInt8, (currentRtppacketSize &&& 0xff).toUInt8]
        sumsize := w.sumsize + (currentRtppacketSize + 4).toInt32
        pOutData := w.pOutData + (currentRtppacketSize + 4).toNat }
  else none

/-- The loop after `i` turns. -/
def walk (len : Nat) : Nat → Walk → Option Walk
  | 0, w => some w
  | i + 1, w => (walk len i w).bind (turn len)

/-- The variables before the loop. -/
def ProcessParam.walk₀ (param : ProcessParam) : Walk := ⟨param.pOutData, 0, 0⟩

/-- `VideoenCodeCallback`, where `process` is `RTPPAY_Process` with the handle; none if the loop
leaves the buffer. -/
def videoenCodeCallback (process : ProcessParam → ProcessParam) (nChan : Int32) (pData : Mem)
    (nDatalen : Int32) : Option RealSteam :=
  let param := process (processParam pData nDatalen)
  (walk param.dwOutDataLen.toNat param.dwPacketNum.toNat param.walk₀).map fun w =>
    ⟨nChan, 0, w.mem, param.dwOutDataLen.toInt32⟩

/-! ## The format and what is made of it -/

/-- The size of a packet in network order, and the packet. -/
def record (p : List UInt8) : List UInt8 :=
  [UInt8.ofNat (p.length / 16777216), UInt8.ofNat (p.length / 65536), UInt8.ofNat (p.length / 256),
    UInt8.ofNat p.length] ++ p

def place (packets : List (List UInt8)) (i : Nat) : Nat := ((packets.take i).flatMap record).length

/-- `RTPPAY_Process` leaves these packets, in the format of its header. -/
structure Leaves (packets : List (List UInt8)) (param : ProcessParam) : Prop where
  dwPacketNum : param.dwPacketNum.toNat = packets.length
  dwOutDataLen : param.dwOutDataLen.toNat = (packets.flatMap record).length
  pOutData : param.pOutData.read 0 param.dwOutDataLen.toNat = packets.flatMap record
  small : ∀ p ∈ packets, p.length < 65536

def frame (p : List UInt8) : List UInt8 := Framing.frame 0x24 (0, p)

/-- The loop puts the interleaved headers in the place of the sizes. -/
structure Interleaves (packets : List (List UInt8)) (param : ProcessParam) (steam : RealSteam) :
    Prop where
  /-- the `int` that counts the turns does not overflow -/
  counter : param.dwPacketNum.toNat < 2 ^ 31
  /-- the turns are at the records, one after the other -/
  visits : ∀ i < packets.length, ∃ w,
    walk param.dwOutDataLen.toNat i param.walk₀ = some w ∧ w.pOutData = place packets i ∧
      w.pOutData + 4 ≤ param.dwOutDataLen.toNat
  keeps : ∀ j, (∀ i < packets.length, j < place packets i ∨ place packets i + 4 ≤ j) →
    steam.pData j = param.pOutData j
  splits : Framing.split 0x24 (steam.pData.read 0 param.dwOutDataLen.toNat) =
    some (packets.map fun p => (0, p))

/-! ## The sizes -/

theorem length_record (p : List UInt8) : (record p).length = p.length + 4 := by
  simp [record]

theorem toNat_size {n : Nat} (hn : n < 65536) : (UInt32.ofNat n).toNat = n :=
  UInt32.toNat_ofNat_of_lt (hn.trans (by decide))

theorem record_eq (p : List UInt8) (hp : p.length < 65536) :
    record p = bytes32 (htonl (UInt32.ofNat p.length)) ++ p := by
  rw [record, bytes32_htonl]
  congr 1
  simp only [List.cons.injEq, and_true]
  refine ⟨?_, ?_, ?_, ?_⟩ <;> apply UInt8.toNat_inj.mp <;>
    simp [toNat_size hp, Nat.shiftRight_eq_div_pow]

theorem loadInt_eq {m : Mem} {off : Nat} {x : UInt32} (h : m.read off 4 = bytes32 x) :
    loadInt m off = x := by
  have hbytes : [m off, m (off + 1), m (off + 2), m (off + 3)] = bytes32 x := h
  have hx := x.toNat_lt
  rw [bytes32] at hbytes
  simp only [List.cons.injEq, and_true] at hbytes
  obtain ⟨h₀, h₁, h₂, h₃⟩ := hbytes
  apply UInt32.toNat_inj.mp
  rw [loadInt, h₀, h₁, h₂, h₃, UInt32.toNat_ofNat']
  simp [Nat.shiftRight_eq_div_pow]
  omega

theorem header_eq {n : Nat} (hn : n < 65536) :
    ([0x24, 0, (UInt32.ofNat n >>> 8).toUInt8, (UInt32.ofNat n &&& 0xff).toUInt8] : List UInt8) =
      Framing.header 0x24 0 n := by
  have hhigh : (UInt32.ofNat n >>> 8).toUInt8.toNat = n / 256 % 256 := by
    simp [toNat_size hn, Nat.shiftRight_eq_div_pow]
  have hlow : (UInt32.ofNat n &&& 0xff).toUInt8.toNat = n % 256 := by
    rw [UInt32.toNat_toUInt8, UInt32.toNat_and, toNat_size hn,
      show (0xff : UInt32).toNat = 2 ^ 8 - 1 from rfl, Nat.and_two_pow_sub_one_eq_mod, Nat.mod_mod]
  exact Framing.header_of_bytes hhigh hlow

/-! ## One turn -/

theorem place_succ {packets : List (List UInt8)} {i : Nat} (hi : i < packets.length) :
    place packets (i + 1) = place packets i + (packets[i].length + 4) := by
  rw [place, place, List.take_succ_eq_append_getElem hi, List.flatMap_append, List.length_append,
    List.flatMap_singleton, length_record]

theorem four_mul_le_place {packets : List (List UInt8)} {i : Nat} (hi : i ≤ packets.length) :
    4 * i ≤ place packets i := by
  induction i with
  | zero => exact Nat.zero_le _
  | succ i ih =>
    have hfirst := ih (by omega)
    rw [place_succ hi]
    omega

theorem length_frames (packets : List (List UInt8)) (i : Nat) :
    ((packets.take i).flatMap frame).length = place packets i := by
  rw [place, List.length_flatMap, List.length_flatMap]
  have hlength : ∀ p : List UInt8, (frame p).length = (record p).length := by
    intro p
    rw [length_record]
    exact Framing.length_frame 0x24 (0, p)
  simp only [hlength]

/-- After `i` turns: the pointer is at the `i`-th record, in front of it are the frames of the
packets, behind it their records, and only sizes have changed. -/
structure At (packets : List (List UInt8)) (param : ProcessParam) (i : Nat) (w : Walk) : Prop where
  pOutData : w.pOutData = place packets i
  bytes : w.mem.read 0 param.dwOutDataLen.toNat =
    (packets.take i).flatMap frame ++ (packets.drop i).flatMap record
  keeps : ∀ j, (∀ k < i, j < place packets k ∨ place packets k + 4 ≤ j) →
    w.mem j = param.pOutData j

variable {packets : List (List UInt8)} {param : ProcessParam}

theorem Leaves.counter (h : Leaves packets param) : param.dwPacketNum.toNat < 2 ^ 31 := by
  have hplace := four_mul_le_place (Nat.le_refl packets.length)
  have hlen := param.dwOutDataLen.toNat_lt
  rw [place, List.take_length, ← h.dwOutDataLen] at hplace
  rw [h.dwPacketNum]
  omega

theorem At.start (h : Leaves packets param) : At packets param 0 param.walk₀ where
  pOutData := rfl
  bytes := h.pOutData
  keeps := fun _ _ => rfl

theorem At.split (h : Leaves packets param) {i : Nat} (hi : i < packets.length) {w : Walk}
    (hat : At packets param i w) : w.mem.read 0 param.dwOutDataLen.toNat =
      (packets.take i).flatMap frame ++ bytes32 (htonl (UInt32.ofNat packets[i].length)) ++
        (packets[i] ++ (packets.drop (i + 1)).flatMap record) := by
  rw [hat.bytes, List.drop_eq_getElem_cons hi, List.flatMap_cons,
    record_eq _ (h.small _ (List.getElem_mem hi)), List.append_assoc, List.append_assoc]

theorem At.inside (h : Leaves packets param) {i : Nat} (hi : i < packets.length) {w : Walk}
    (hat : At packets param i w) : w.pOutData + 4 ≤ param.dwOutDataLen.toNat := by
  have hlength := congrArg List.length (hat.split h hi)
  have hfour : (bytes32 (htonl (UInt32.ofNat packets[i].length))).length = 4 := rfl
  rw [Mem.length_read, List.length_append, List.length_append, length_frames,
    ← hat.pOutData] at hlength
  omega

theorem At.size (h : Leaves packets param) {i : Nat} (hi : i < packets.length) {w : Walk}
    (hat : At packets param i w) :
    htonl (loadInt w.mem w.pOutData) = UInt32.ofNat packets[i].length := by
  have hread := (Mem.read_split (hat.split h hi)).2.1
  rw [length_frames, ← hat.pOutData] at hread
  rw [loadInt_eq hread, htonl_htonl]

theorem At.next (h : Leaves packets param) {i : Nat} (hi : i < packets.length) {w : Walk}
    (hat : At packets param i w) :
    ∃ w', turn param.dwOutDataLen.toNat w = some w' ∧ At packets param (i + 1) w' := by
  have hsmall : packets[i].length < 65536 := h.small _ (List.getElem_mem hi)
  refine ⟨_, if_pos (hat.inside h hi), ?_⟩
  rw [hat.size h hi, header_eq hsmall]
  constructor
  case pOutData =>
    have hsize : (UInt32.ofNat packets[i].length + 4).toNat = packets[i].length + 4 := by
      rw [UInt32.toNat_add, toNat_size hsmall, show (4 : UInt32).toNat = 4 from rfl]
      omega
    dsimp only
    rw [hsize, hat.pOutData, place_succ hi]
  case bytes =>
    have hlength : (Framing.header 0x24 0 packets[i].length).length =
        (bytes32 (htonl (UInt32.ofNat packets[i].length))).length := rfl
    have hwrite := Mem.read_write_middle (hat.split h hi) hlength
    rw [length_frames, ← hat.pOutData] at hwrite
    rw [hwrite, List.take_succ_eq_append_getElem hi, List.flatMap_append, List.flatMap_singleton,
      frame, Framing.frame, List.append_assoc, List.append_assoc, List.append_assoc]
  case keeps =>
    intro j hj
    rw [← hat.keeps j fun k hk => hj k (by omega)]
    have hlength : (Framing.header 0x24 0 packets[i].length).length = 4 := rfl
    rcases hj i (by omega) with hbelow | habove
    · exact Mem.write_of_lt _ _ _ _ (by rw [hat.pOutData]; exact hbelow)
    · exact Mem.write_of_le _ _ _ _ (by rw [hat.pOutData, hlength]; exact habove)

theorem At.walk (h : Leaves packets param) {i : Nat} (hi : i ≤ packets.length) :
    ∃ w, walk param.dwOutDataLen.toNat i param.walk₀ = some w ∧ At packets param i w := by
  induction i with
  | zero => exact ⟨_, rfl, At.start h⟩
  | succ i ih =>
    obtain ⟨w, hw, hat⟩ := ih (by omega)
    obtain ⟨w', hturn, hnext⟩ := hat.next h hi
    refine ⟨w', ?_, hnext⟩
    rw [Push.walk, hw, Option.bind_some, hturn]

/-- **The interleaved headers.** For all packets that `RTPPAY_Process` may leave, the callback
writes them over the sizes, and what it passes on splits into these packets. -/
theorem videoenCodeCallback_interleaves (process : ProcessParam → ProcessParam) (nChan : Int32)
    (pData : Mem) (nDatalen : Int32) (packets : List (List UInt8))
    (h : Leaves packets (process (processParam pData nDatalen))) :
    ∃ steam, videoenCodeCallback process nChan pData nDatalen = some steam ∧
      Interleaves packets (process (processParam pData nDatalen)) steam := by
  obtain ⟨w, hw, hat⟩ := At.walk h (Nat.le_refl packets.length)
  refine ⟨⟨nChan, 0, w.mem, (process (processParam pData nDatalen)).dwOutDataLen.toInt32⟩, ?_,
    h.counter, ?visits, hat.keeps, ?splits⟩
  · rw [videoenCodeCallback, h.dwPacketNum, hw, Option.map_some]
  case visits =>
    intro i hi
    obtain ⟨w', hw', hat'⟩ := At.walk h hi.le
    exact ⟨w', hw', hat'.pOutData, hat'.inside h hi⟩
  case splits =>
    have hframes : w.mem.read 0 (process (processParam pData nDatalen)).dwOutDataLen.toNat =
        (packets.map fun p => (0, p)).flatMap (Framing.frame 0x24) := by
      rw [hat.bytes, List.take_length, List.drop_length, List.flatMap_nil, List.append_nil,
        List.flatMap_map]
      rfl
    rw [hframes, Framing.split_frames_iff]
    intro f hf
    obtain ⟨p, hp, rfl⟩ := List.mem_map.mp hf
    exact h.small p hp

/-- A `RTPPAY_Process` that leaves two packets. -/
def twoPackets (param : ProcessParam) : ProcessParam :=
  { param with
    pOutData := fun i => ([0, 0, 0, 1, 7, 0, 0, 0, 2, 8, 9] : List UInt8).getD i 0
    dwOutDataLen := 11
    dwPacketNum := 2 }

theorem videoenCodeCallback_twoPackets :
    ∃ steam, videoenCodeCallback twoPackets 0 (fun _ => 0) 0 = some steam ∧
      Interleaves [[7], [8, 9]] (twoPackets (processParam (fun _ => 0) 0)) steam :=
  videoenCodeCallback_interleaves twoPackets 0 (fun _ => 0) 0 [[7], [8, 9]]
    ⟨by decide, by decide, by decide, by decide⟩

end Push

end SimpleRtsp

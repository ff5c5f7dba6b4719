import SimpleRtsp.Media.Nalu

/-!
# Packets in Annex B format

A packet in Annex B format is a sequence of NAL units, each behind a start code of three or four
bytes. If a packet begins with a start code, the loop of `parseMp4SendDataThd` cuts it into slices,
from one start code to the next (`parseLoop_slices`): `Scanned` says where it cuts, `scanned_slices`
that the slices cover the packet, and `scanned_exposed` that the NAL units come back. If a packet
does not begin with a start code, the loop does not end or makes a callback without a NAL unit
(`handlesPacket_iff`).
-/

namespace SimpleRtsp

/-! ## Start codes -/

inductive StartCode where
  | three
  | four
  deriving DecidableEq, Repr

def StartCode.bytes : StartCode → List UInt8
  | .three => [0, 0, 1]
  | .four => [0, 0, 0, 1]

/-- A start code of four bytes contains one of three. -/
def NoStartCode (bytes : List UInt8) : Prop := ¬ StartCode.three.bytes <:+: bytes

/-- A NAL unit as an encoder makes it. -/
structure NalUnit where
  bytes : List UInt8
  clean : NoStartCode bytes
  closed : bytes.getLast? ≠ some 0

/-- NAL units behind start codes. -/
def annexB (units : List (StartCode × NalUnit)) : List UInt8 :=
  units.flatMap fun u => u.1.bytes ++ u.2.bytes

def AVPacket.Begins (pkt : AVPacket) : Prop :=
  StartCode.three.bytes <+: pkt.bytes ∨ StartCode.four.bytes <+: pkt.bytes

theorem startCode3_iff (buf : Mem) (off : Nat) :
    startCode3 buf off = true ↔ buf.read off 3 = StartCode.three.bytes := by
  simp [startCode3, Mem.read, List.range_succ, StartCode.bytes, and_assoc]

theorem startCode4_iff (buf : Mem) (off : Nat) :
    startCode4 buf off = true ↔ buf.read off 4 = StartCode.four.bytes := by
  simp [startCode4, Mem.read, List.range_succ, StartCode.bytes, and_assoc]

/-- The start code at a position, if there is one. -/
def codeAt (buf : Mem) (pos : Nat) : StartCode := if startCode3 buf pos then .three else .four

theorem codeAt_bytes {buf : Mem} {pos : Nat} (h : startCode34 buf pos) :
    buf.read pos (codeAt buf pos).bytes.length = (codeAt buf pos).bytes := by
  rw [codeAt]
  split_ifs with hthree
  · exact (startCode3_iff buf pos).mp hthree
  · have hfour : startCode4 buf pos := by simpa [startCode34, hthree] using h
    exact (startCode4_iff buf pos).mp hfour

theorem codeAt_length (buf : Mem) (pos : Nat) :
    (codeAt buf pos).bytes.length = if startCode3 buf pos then 3 else 4 := by
  rw [codeAt]
  split_ifs <;> rfl

theorem AVPacket.codeAt_le (pkt : AVPacket) {pos : Nat} (hpos : pos ≤ pkt.size)
    (h : startCode34 pkt.data.mem pos) :
    pos + (codeAt pkt.data.mem pos).bytes.length ≤ pkt.size := by
  have hzero : ∀ i, pkt.size ≤ i → i < pkt.size + 4 → pkt.data.mem i ≠ 1 := by
    intro i hle hlt
    obtain ⟨k, rfl⟩ := Nat.exists_eq_add_of_le hle
    rw [pkt.padded k (by omega)]
    decide
  rw [codeAt_length]
  split_ifs with hthree
  · have hone : pkt.data.mem (pos + 2) = 1 := by
      simp only [startCode3, Bool.and_eq_true, beq_iff_eq] at hthree
      exact hthree.2
    by_contra hle
    exact hzero (pos + 2) (by omega) (by omega) hone
  · have hone : pkt.data.mem (pos + 3) = 1 := by
      simp only [startCode34, hthree, startCode4, Bool.false_or, Bool.and_eq_true,
        beq_iff_eq] at h
      exact h.2
    by_contra hle
    exact hzero (pos + 3) (by omega) (by omega) hone

theorem infix_read {buf : Mem} {off n : Nat} (h : StartCode.three.bytes <:+: buf.read off n) :
    ∃ i, off ≤ i ∧ i + 3 ≤ off + n ∧ startCode3 buf i := by
  obtain ⟨front, back, hread⟩ := h
  have hlen := congrArg List.length hread
  simp only [List.length_append, Mem.length_read, StartCode.bytes, List.length_cons,
    List.length_nil] at hlen
  refine ⟨off + front.length, Nat.le_add_right _ _, by omega, ?_⟩
  rw [startCode3_iff]
  have hsplit : buf.read off n = buf.read off front.length ++
      (buf.read (off + front.length) 3 ++ buf.read (off + front.length + 3) back.length) := by
    rw [← Mem.read_add, ← Mem.read_add]
    congr 1
    omega
  rw [hsplit, List.append_assoc] at hread
  have hrest := List.append_inj_right hread.symm (by simp)
  exact List.append_inj_left hrest (by simp [StartCode.bytes])

/-! ## Where the next unit begins -/

/-- From `tmp` on, `q` is the first start code of the packet, or its end. -/
structure NextCode (pkt : AVPacket) (tmp q : Nat) : Prop where
  le : tmp ≤ q
  size : q ≤ pkt.size
  none : ∀ i, tmp ≤ i → i < q → startCode34 pkt.data.mem i = false
  code : q < pkt.size → startCode34 pkt.data.mem q

theorem NextCode.unique {pkt : AVPacket} {tmp q q' : Nat} (h : NextCode pkt tmp q)
    (h' : NextCode pkt tmp q') : q = q' := by
  rcases Nat.lt_trichotomy q q' with hlt | heq | hlt
  · have hcode := h.code (hlt.trans_le h'.size)
    rw [h'.none q h.le hlt] at hcode
    cases hcode
  · exact heq
  · have hcode := h'.code (hlt.trans_le h.size)
    rw [h.none q' h'.le hlt] at hcode
    cases hcode

/-- The loop of `getNALUFromBuf` stops at the next start code, though it may look at a position
behind the packet. -/
theorem naluSize_spec (pkt : AVPacket) (buf : BufSt) (hbuf : buf.buf = pkt.data)
    (hsize : buf.bufSize = pkt.size) (startCode : Nat) (hcode : 3 ≤ startCode ∧ startCode ≤ 4)
    (hle : buf.pos + startCode ≤ pkt.size) :
    ∃ q, NextCode pkt (buf.pos + startCode) q ∧ naluSize buf startCode = q - buf.pos := by
  rw [naluSize, hbuf, hsize]
  cases hfind : (List.range' (buf.pos + startCode) (pkt.size - buf.pos - 3)).find?
      (startCode34 pkt.data.mem) with
  | some tmp =>
    obtain ⟨htmp, hmem, hfirst⟩ := List.find?_range'_eq_some.mp hfind
    rw [List.mem_range'_1] at hmem
    have hin := pkt.codeAt_le (by omega) htmp
    refine ⟨tmp, ⟨hmem.1, by omega, fun i hi hlt => ?_, fun _ => htmp⟩, rfl⟩
    simpa using hfirst i hi hlt
  | none =>
    have hnone := List.find?_range'_eq_none.mp hfind
    refine ⟨pkt.size, ⟨hle, Nat.le_refl _, fun i hi hlt => ?_, fun h => absurd h (by omega)⟩, rfl⟩
    simpa using hnone i hi (by omega)

/-! ## One turn of the loop -/

/-- The loop is at position `pos` of the packet. -/
structure At (pkt : AVPacket) (pos : Nat) (m : MediainfoSt) : Prop where
  buffer : m.buffer = ⟨pkt.data, pkt.size, if pkt.size ≤ pos then .write else .read, pos⟩
  frame : m.frame.stat = .write
  now : m.nowStreamIndex ≠ m.audioStreamIndex

theorem At.praseFrame {pkt : AVPacket} {pos : Nat} {m : MediainfoSt} (h : At pkt pos m)
    (hpos : pos < pkt.size) (hcode : startCode34 pkt.data.mem pos) :
    ∃ q, NextCode pkt (pos + (codeAt pkt.data.mem pos).bytes.length) q ∧ praseFrame m =
      { m with
        buffer := ⟨pkt.data, pkt.size, if pkt.size ≤ q then .write else .read, q⟩
        frame := ⟨⟨pkt.data, pos⟩, (q - pos : Nat), (codeAt pkt.data.mem pos).bytes.length,
          .read⟩ } := by
  have hbuffer : m.buffer = ⟨pkt.data, pkt.size, .read, pos⟩ := by
    rw [h.buffer, if_neg (by omega)]
  have hlen := codeAt_length pkt.data.mem pos
  obtain ⟨q, hq, hsize⟩ := naluSize_spec pkt ⟨pkt.data, pkt.size, .read, pos⟩ rfl rfl
    (if startCode3 pkt.data.mem pos then 3 else 4) (by split_ifs <;> omega)
    (hlen ▸ pkt.codeAt_le hpos.le hcode)
  rw [← hlen] at hq
  have hle : pos ≤ q := (Nat.le_add_right _ _).trans hq.le
  refine ⟨q, hq, ?_⟩
  have hget : getNALUFromBuf m.frame.frame m.buffer = (((q - pos : Nat) : Int), ⟨pkt.data, pos⟩,
      ⟨pkt.data, pkt.size, if pkt.size ≤ q then .write else .read, q⟩) := by
    rw [hbuffer, getNALUFromBuf]
    simp only [hcode, hsize, Nat.add_sub_cancel' hle, if_neg (Nat.not_le.mpr hpos)]
    rfl
  have hready : ¬ (m.frame.stat = .read ∨ m.buffer.stat = .write) := by
    simp [h.frame, hbuffer]
  rw [SimpleRtsp.praseFrame, if_neg hready, hget]
  have hnonneg : ¬ ((q - pos : Nat) : Int) < 0 := by omega
  simp only [hnonneg, if_false, hlen, Nat.cast_ite, Nat.cast_ofNat]

theorem At.turn {pkt : AVPacket} {pos q : Nat} {m : MediainfoSt} (h : At pkt pos m)
    {frame : FrameSt} (hprase : SimpleRtsp.praseFrame m =
      { m with
        buffer := ⟨pkt.data, pkt.size, if pkt.size ≤ q then .write else .read, q⟩
        frame := frame }) :
    At pkt q m.turn := by
  rw [MediainfoSt.turn, hprase]
  exact ⟨rfl, rfl, h.now⟩

/-! ## The whole packet -/

/-- The callbacks for a packet from `pos` on: one at each start code. -/
inductive Scanned (pkt : AVPacket) : Nat → List MediainfoSt → Prop
  | nil : Scanned pkt pkt.size []
  | cons {pos q : Nat} {m : MediainfoSt} {calls : List MediainfoSt} : pos < pkt.size →
      startCode34 pkt.data.mem pos →
      NextCode pkt (pos + (codeAt pkt.data.mem pos).bytes.length) q →
      m.frame = ⟨⟨pkt.data, pos⟩, (q - pos : Nat), (codeAt pkt.data.mem pos).bytes.length, .read⟩ →
      m.nowStreamIndex ≠ m.audioStreamIndex → Scanned pkt q calls → Scanned pkt pos (m :: calls)

/-- **The loop.** From a start code on it comes to the end of the packet. -/
theorem At.parseLoop {pkt : AVPacket} {pos : Nat} {m : MediainfoSt} (h : At pkt pos m)
    (hpos : pos ≤ pkt.size) (hcode : pos < pkt.size → startCode34 pkt.data.mem pos) :
    ∃ n, m.Over n ∧ Scanned pkt pos (MediainfoSt.parseLoop n m).1 := by
  induction hleft : pkt.size - pos using Nat.strong_induction_on generalizing pos m with
  | _ left ih =>
    by_cases hend : pkt.size ≤ pos
    · obtain rfl : pos = pkt.size := Nat.le_antisymm hpos hend
      refine ⟨0, ?_, .nil⟩
      change m.buffer.stat ≠ .read
      rw [h.buffer, if_pos (Nat.le_refl _)]
      exact fun h => BufFrameE.noConfusion h
    · have hlt : pos < pkt.size := Nat.lt_of_not_le hend
      obtain ⟨q, hq, hprase⟩ := h.praseFrame hlt (hcode hlt)
      have hstep : pos < q := by
        have := hq.le
        rw [codeAt_length] at this
        split_ifs at this <;> omega
      obtain ⟨n, hover, hrest⟩ := ih (pkt.size - q) (by omega) (h.turn hprase) hq.size hq.code rfl
      have hread : m.buffer.stat = .read := by rw [h.buffer, if_neg hend]
      refine ⟨n + 1, ?_, ?_⟩
      · rwa [MediainfoSt.Over, MediainfoSt.parseLoop, if_pos hread]
      · rw [MediainfoSt.parseLoop, if_pos hread]
        apply Scanned.cons hlt (hcode hlt) hq _ _ hrest
        · rw [hprase]
        · rw [hprase]
          exact h.now

def FrameSt.bytes (f : FrameSt) : List UInt8 := f.frame.block.mem.read f.frame.off f.frameSize.toNat

/-- The frames follow one another in the packet from `pos` to its end, and each is a start code and
bytes without another one. -/
inductive Slices (pkt : AVPacket) : Nat → List FrameSt → Prop
  | nil : Slices pkt pkt.size []
  | cons {pos : Nat} {f : FrameSt} {frames : List FrameSt} (code : StartCode) (nalu : List UInt8) :
      f.frame = ⟨pkt.data, pos⟩ → f.frameSize = (code.bytes ++ nalu).length →
      f.bytes = code.bytes ++ nalu → f.startCode = code.bytes.length → NoStartCode nalu →
      Slices pkt (pos + (code.bytes ++ nalu).length) frames → Slices pkt pos (f :: frames)

theorem NextCode.clean {pkt : AVPacket} {tmp q : Nat} (h : NextCode pkt tmp q) :
    NoStartCode (pkt.data.mem.read tmp (q - tmp)) := by
  intro hinside
  obtain ⟨i, hle, hlt, hcode⟩ := infix_read hinside
  have hnone := h.none i hle (by omega)
  rw [startCode34, hcode] at hnone
  cases hnone

theorem scanned_slices {pkt : AVPacket} {pos : Nat} {calls : List MediainfoSt}
    (h : Scanned pkt pos calls) : Slices pkt pos (calls.map MediainfoSt.frame) := by
  induction h with
  | nil => exact .nil
  | @cons pos q m calls hpos hcode hq hframe hnow hrest ih =>
    let code := codeAt pkt.data.mem pos
    let nalu := pkt.data.mem.read (pos + code.bytes.length) (q - (pos + code.bytes.length))
    have hle : pos + code.bytes.length ≤ q := hq.le
    have hlen : (code.bytes ++ nalu).length = q - pos := by
      rw [List.length_append, Mem.length_read]
      omega
    have hbytes : pkt.data.mem.read pos (q - pos) = code.bytes ++ nalu := by
      have hread := codeAt_bytes hcode
      rw [← hlen, List.length_append, Mem.length_read, Mem.read_add, hread]
    have hnext : pos + (code.bytes ++ nalu).length = q := by omega
    rw [List.map_cons]
    apply Slices.cons code nalu
    · rw [hframe]
    · rw [hframe, hlen]
    · rw [hframe, FrameSt.bytes, Int.toNat_natCast, hbytes]
    · rw [hframe]
    · exact hq.clean
    · rw [hnext]
      exact ih

/-! ## The NAL units come back -/

theorem NalUnit.no_startCode34 {buf : Mem} {off : Nat} (u : NalUnit)
    (hread : buf.read off u.bytes.length = u.bytes) (i : Nat) (hle : off ≤ i)
    (hlt : i < off + u.bytes.length) : startCode34 buf i = false := by
  -- the last byte is not zero, so a code that begins inside ends inside
  have hclosed : buf (off + u.bytes.length - 1) ≠ 0 := by
    intro hzero
    apply u.closed
    obtain ⟨n, hn⟩ : ∃ n, u.bytes.length = n + 1 := ⟨u.bytes.length - 1, by omega⟩
    rw [← hread, hn, Mem.read_add, Mem.read_one, List.getLast?_concat, ← hzero, hn]
    congr 2
  have hthree : ∀ j, off ≤ j → j < off + u.bytes.length → startCode3 buf j = false := by
    intro j hj hjlt
    rw [Bool.eq_false_iff]
    intro hcode
    by_cases hin : j + 3 ≤ off + u.bytes.length
    · apply u.clean
      rw [← (startCode3_iff buf j).mp hcode, ← hread]
      exact buf.read_infix hj hin
    · simp only [startCode3, Bool.and_eq_true, beq_iff_eq] at hcode
      obtain hlast | hlast : off + u.bytes.length - 1 = j ∨ off + u.bytes.length - 1 = j + 1 := by
        omega
      · exact hclosed (hlast ▸ hcode.1.1)
      · exact hclosed (hlast ▸ hcode.1.2)
  rw [startCode34, hthree i hle hlt, Bool.false_or, Bool.eq_false_iff]
  intro hcode
  simp only [startCode4, Bool.and_eq_true, beq_iff_eq] at hcode
  by_cases hlast : i + 1 < off + u.bytes.length
  · have hnone := hthree (i + 1) (by omega) hlast
    rw [startCode3] at hnone
    simp [hcode] at hnone
  · have hi : off + u.bytes.length - 1 = i := by omega
    exact hclosed (hi ▸ hcode.1.1.1)

theorem annexB_cons (code : StartCode) (u : NalUnit) (units : List (StartCode × NalUnit)) :
    annexB ((code, u) :: units) = code.bytes ++ (u.bytes ++ annexB units) := by
  simp [annexB]

theorem startCode34_of_read {buf : Mem} {pos : Nat} {code : StartCode}
    (hread : buf.read pos code.bytes.length = code.bytes) :
    startCode34 buf pos ∧ codeAt buf pos = code := by
  cases code with
  | three =>
    have hthree := (startCode3_iff buf pos).mpr hread
    simp [startCode34, codeAt, hthree]
  | four =>
    have hfour := (startCode4_iff buf pos).mpr hread
    have hthree : startCode3 buf pos = false := by
      simp only [startCode4, Bool.and_eq_true, beq_iff_eq] at hfour
      simp [startCode3, hfour]
    simp [startCode34, codeAt, hfour, hthree]

theorem read_eq_append {buf : Mem} {pos n : Nat} {front back : List UInt8}
    (hread : buf.read pos n = front ++ back) : buf.read pos front.length = front ∧
      buf.read (pos + front.length) back.length = back := by
  have hlen := congrArg List.length hread
  rw [Mem.length_read, List.length_append] at hlen
  rw [hlen, Mem.read_add] at hread
  exact List.append_inj hread (Mem.length_read _ _ _)

/-- What a callback exposes, as bytes. -/
def MediainfoSt.nalu (m : MediainfoSt) : Option (List UInt8) := m.exposed.map Slice.bytes

/-- A unit and the start code in front of it, at a position of the packet; behind it the rest
begins. -/
structure UnitAt (pkt : AVPacket) (pos : Nat) (code : StartCode) (u : NalUnit)
    (units : List (StartCode × NalUnit)) : Prop where
  starts : startCode34 pkt.data.mem pos
  found : codeAt pkt.data.mem pos = code
  next : NextCode pkt (pos + code.bytes.length) (pos + code.bytes.length + u.bytes.length)
  nalu : pkt.data.mem.read (pos + code.bytes.length) u.bytes.length = u.bytes
  rest : pkt.data.mem.read (pos + code.bytes.length + u.bytes.length) (annexB units).length =
    annexB units

theorem unitAt_of_read {pkt : AVPacket} {pos : Nat} {code : StartCode} {u : NalUnit}
    {units : List (StartCode × NalUnit)}
    (hread : pkt.data.mem.read pos (annexB ((code, u) :: units)).length =
      annexB ((code, u) :: units))
    (hsize : pos + (annexB ((code, u) :: units)).length = pkt.size) :
    UnitAt pkt pos code u units := by
  rw [annexB_cons] at hread hsize
  obtain ⟨hcode, hrest⟩ := read_eq_append hread
  obtain ⟨hnalu, hunits⟩ := read_eq_append hrest
  obtain ⟨hstart, hat⟩ := startCode34_of_read hcode
  simp only [List.length_append] at hsize
  refine ⟨hstart, hat, ⟨Nat.le_add_right _ _, by omega, u.no_startCode34 hnalu, fun hlt => ?_⟩,
    hnalu, hunits⟩
  cases units with
  | nil => simp [annexB] at hsize; omega
  | cons next units =>
    rw [annexB_cons] at hunits
    exact (startCode34_of_read (read_eq_append hunits).1).1

theorem UnitAt.nalu_eq {pkt : AVPacket} {pos : Nat} {code : StartCode} {u : NalUnit}
    {units : List (StartCode × NalUnit)} (h : UnitAt pkt pos code u units) {m : MediainfoSt}
    (hnow : m.nowStreamIndex ≠ m.audioStreamIndex)
    (hframe : m.frame = ⟨⟨pkt.data, pos⟩,
      (pos + code.bytes.length + u.bytes.length - pos : Nat), code.bytes.length, .read⟩) :
    m.nalu = some u.bytes := by
  have hoff : ((pos : Int) + code.bytes.length).toNat = pos + code.bytes.length := by omega
  have hlen : (((pos + code.bytes.length + u.bytes.length - pos : Nat) : Int) -
      code.bytes.length).toNat = u.bytes.length := by omega
  rw [MediainfoSt.nalu, MediainfoSt.exposed, MediainfoSt.getVideoNALUWithoutStartCode,
    if_neg hnow, hframe, Option.map_some, Slice.bytes]
  dsimp only
  rw [hoff, hlen, h.nalu]

theorem scanned_exposed {pkt : AVPacket} {pos : Nat} {calls : List MediainfoSt}
    (h : Scanned pkt pos calls) {units : List (StartCode × NalUnit)}
    (hread : pkt.data.mem.read pos (annexB units).length = annexB units)
    (hsize : pos + (annexB units).length = pkt.size) :
    calls.map MediainfoSt.nalu = units.map fun u => some u.2.bytes := by
  induction units generalizing pos calls with
  | nil =>
    cases h with
    | nil => rfl
    | cons hpos => simp [annexB] at hsize; omega
  | cons u units ih =>
    obtain ⟨code, u⟩ := u
    have hunit := unitAt_of_read hread hsize
    rw [annexB_cons] at hsize
    simp only [List.length_append] at hsize
    cases h with
    | nil =>
      have := (codeAt_length pkt.data.mem pkt.size)
      rw [hunit.found] at this
      split_ifs at this <;> omega
    | @cons _ q m calls hpos _ hq hframe hnow hscanned =>
      rw [hunit.found] at hq hframe
      obtain rfl := hq.unique hunit.next
      rw [List.map_cons, List.map_cons, ih hscanned hunit.rest (by omega)]
      congr 1
      exact hunit.nalu_eq hnow hframe

theorem At.unit {pkt : AVPacket} {pos : Nat} {m : MediainfoSt} (h : At pkt pos m) {code : StartCode}
    {u : NalUnit} {units : List (StartCode × NalUnit)} (hunit : UnitAt pkt pos code u units)
    (hpos : pos < pkt.size) : (SimpleRtsp.praseFrame m).nalu = some u.bytes ∧
      At pkt (pos + code.bytes.length + u.bytes.length) m.turn := by
  obtain ⟨q, hq, hprase⟩ := h.praseFrame hpos hunit.starts
  rw [hunit.found] at hq hprase
  obtain rfl := hq.unique hunit.next
  refine ⟨hunit.nalu_eq ?_ ?_, h.turn hprase⟩
  · rw [hprase]
    exact h.now
  · rw [hprase]

/-! ## Every packet -/

theorem AVPacket.begins_iff (pkt : AVPacket) :
    pkt.Begins ↔ 0 < pkt.size ∧ startCode34 pkt.data.mem 0 := by
  have hbegin_iff : ∀ code : StartCode, code.bytes <+: pkt.bytes ↔
      code.bytes.length ≤ pkt.size ∧ pkt.data.mem.read 0 code.bytes.length = code.bytes := by
    intro code
    constructor
    · rintro ⟨rest, hrest⟩
      have hlen := congrArg List.length hrest
      rw [List.length_append, AVPacket.bytes, Mem.length_read] at hlen
      exact ⟨by omega, (read_eq_append hrest.symm).1⟩
    · rintro ⟨hle, hread⟩
      obtain ⟨n, hn⟩ := Nat.exists_eq_add_of_le hle
      rw [AVPacket.bytes, hn, Mem.read_add, hread]
      exact List.prefix_append _ _
  constructor
  · rintro (h | h)
    · obtain ⟨hle, hread⟩ := (hbegin_iff .three).mp h
      exact ⟨Nat.lt_of_lt_of_le (by decide) hle, (startCode34_of_read hread).1⟩
    · obtain ⟨hle, hread⟩ := (hbegin_iff .four).mp h
      exact ⟨Nat.lt_of_lt_of_le (by decide) hle, (startCode34_of_read hread).1⟩
  · rintro ⟨hpos, hcode⟩
    have hbegin := (hbegin_iff _).mpr
      ⟨by simpa using pkt.codeAt_le hpos.le hcode, codeAt_bytes hcode⟩
    cases hat : codeAt pkt.data.mem 0 with
    | three => exact Or.inl (hat ▸ hbegin)
    | four => exact Or.inr (hat ▸ hbegin)

namespace MediainfoSt

structure Ready (m : MediainfoSt) : Prop where
  apart : m.videoStreamIndex ≠ m.audioStreamIndex
  frame : m.frame.stat = .write

theorem praseFrame_streams (m : MediainfoSt) :
    (praseFrame m).videoStreamIndex = m.videoStreamIndex ∧
      (praseFrame m).audioStreamIndex = m.audioStreamIndex ∧
      (praseFrame m).nowStreamIndex = m.nowStreamIndex := by
  rw [praseFrame]
  split_ifs
  · exact ⟨rfl, rfl, rfl⟩
  · dsimp only
    split_ifs <;> exact ⟨rfl, rfl, rfl⟩

theorem parseLoop_streams (m : MediainfoSt) (n : Nat) :
    ∀ call ∈ (m.parseLoop n).1, call.videoStreamIndex = m.videoStreamIndex ∧
      call.audioStreamIndex = m.audioStreamIndex ∧ call.nowStreamIndex = m.nowStreamIndex := by
  induction n generalizing m with
  | zero => simp [parseLoop]
  | succ n ih =>
    rw [parseLoop]
    split_ifs
    · refine List.forall_mem_cons.mpr ⟨m.praseFrame_streams, fun call hcall => ?_⟩
      obtain ⟨hvideo, haudio, hnow⟩ := ih m.turn call hcall
      obtain ⟨hvideo', haudio', hnow'⟩ := m.praseFrame_streams
      exact ⟨hvideo.trans hvideo', haudio.trans haudio', hnow.trans hnow'⟩
    · simp

theorem Ready.turn {m : MediainfoSt} (h : m.Ready) : m.turn.Ready := by
  obtain ⟨hvideo, haudio, -⟩ := m.praseFrame_streams
  exact ⟨by rw [MediainfoSt.turn, hvideo, haudio]; exact h.apart, rfl⟩

theorem Ready.parseLoop {m : MediainfoSt} (h : m.Ready) (n : Nat) : (m.parseLoop n).2.Ready := by
  induction n generalizing m with
  | zero => exact h
  | succ n ih =>
    rw [MediainfoSt.parseLoop]
    split_ifs
    · exact ih h.turn
    · exact h

theorem Between.ready {m : MediainfoSt} (h : m.Between) : m.Ready := by
  induction h with
  | creatMedia _ hapart hframe => exact ⟨hapart, hframe⟩
  | @parsed m n pkt _ _ ih =>
    have hreceive : (m.receive pkt).Ready := ⟨ih.apart, ih.frame⟩
    exact hreceive.parseLoop n

theorem Ready.receive {m : MediainfoSt} (h : m.Ready) (pkt : AVPacket) (hsize : 0 < pkt.size) :
    At pkt 0 (m.receive pkt) where
  buffer := by rw [MediainfoSt.receive, if_neg (by omega)]
  frame := h.frame
  now := h.apart

end MediainfoSt

/-- **Packets with a start code.** The loop ends, the frames it makes callbacks for are the packet
cut at the start codes, and if the packet is a sequence of NAL units, the callbacks get to see these
NAL units. -/
theorem parseLoop_slices {m : MediainfoSt} (h : m.Between) {pkt : AVPacket} (hbegins : pkt.Begins) :
    ∃ n calls, (m.receive pkt).Over n ∧ ((m.receive pkt).parseLoop n).1 = calls ∧
      Slices pkt 0 (calls.map MediainfoSt.frame) ∧
      ∀ units : List (StartCode × NalUnit), pkt.bytes = annexB units →
        calls.map MediainfoSt.nalu = units.map fun u => some u.2.bytes := by
  obtain ⟨hpos, hcode⟩ := pkt.begins_iff.mp hbegins
  obtain ⟨n, hover, hscanned⟩ := (h.ready.receive pkt hpos).parseLoop (Nat.zero_le _) fun _ => hcode
  refine ⟨n, _, hover, rfl, scanned_slices hscanned, fun units hunits => ?_⟩
  have hsize : (annexB units).length = pkt.size := by
    rw [← hunits, AVPacket.bytes, Mem.length_read]
  apply scanned_exposed hscanned
  · rw [hsize]
    exact hunits
  · rw [hsize, Nat.zero_add]

def packetOf (bytes : List UInt8) : AVPacket where
  data := ⟨1, fun i => bytes.getD i 0⟩
  size := bytes.length
  padded _ _ := List.getD_eq_default _ _ (Nat.le_add_right _ _)

theorem bytes_packetOf (bytes : List UInt8) : (packetOf bytes).bytes = bytes := by
  unfold AVPacket.bytes
  refine List.ext_getElem (Mem.length_read _ _ _) fun i hi hi' => ?_
  rw [Mem.getElem_read, Nat.zero_add]
  exact List.getD_eq_getElem _ _ hi'

/-- A file with video in stream 0 and audio in stream 1 is opened. -/
def newMedia : MediainfoSt where
  videoStreamIndex := 0
  audioStreamIndex := 1
  nowStreamIndex := 0
  buffer := ⟨⟨0, fun _ => 0⟩, 0, .write, 0⟩
  frame := ⟨⟨⟨0, fun _ => 0⟩, 0⟩, 0, 0, .write⟩

theorem between_newMedia : newMedia.Between := .creatMedia (by decide) (by decide) rfl

/-- Three units: the second one is empty. -/
def threeUnits : List (StartCode × NalUnit) :=
  [(.three, ⟨[0x65, 0, 0, 3], by unfold NoStartCode; decide, by decide⟩),
    (.four, ⟨[], by unfold NoStartCode; decide, by decide⟩),
    (.four, ⟨[0x41], by unfold NoStartCode; decide, by decide⟩)]

theorem parseLoop_slices_threeUnits :
    ∃ n calls, (newMedia.receive (packetOf (annexB threeUnits))).Over n ∧
      ((newMedia.receive (packetOf (annexB threeUnits))).parseLoop n).1 = calls ∧
      Slices (packetOf (annexB threeUnits)) 0 (calls.map MediainfoSt.frame) ∧
      calls.map MediainfoSt.nalu = [some [0x65, 0, 0, 3], some [], some [0x41]] := by
  have hbegins : (packetOf (annexB threeUnits)).Begins := Or.inl (by decide)
  obtain ⟨n, calls, hover, hcalls, hslices, hunits⟩ := parseLoop_slices between_newMedia hbegins
  exact ⟨n, calls, hover, hcalls, hslices, hunits threeUnits (by decide)⟩

/-! ## Every other packet -/

structure Slice.Inside (s : Slice) (pkt : AVPacket) : Prop where
  block : s.block = pkt.data
  off : 0 ≤ s.off
  len : 0 ≤ s.len
  fits : s.off + s.len ≤ pkt.size

/-- The loop ends, a callback exposes bytes of the packet, and none is made, so that nothing is
queued, when `praseFrame` finds no NAL unit and so leaves the frame writable. -/
structure HandlesPacket (m : MediainfoSt) (pkt : AVPacket) : Prop where
  ends : ∃ n, (m.receive pkt).Over n
  inside : ∀ n, ∀ call ∈ ((m.receive pkt).parseLoop n).1, ∀ s ∈ call.exposed, s.Inside pkt
  found : ∀ n, ∀ call ∈ ((m.receive pkt).parseLoop n).1, call.frame.stat = .read

theorem At.forall_calls {pkt : AVPacket} {p : MediainfoSt → Prop}
    (hp : ∀ pos m, At pkt pos m → pos < pkt.size → startCode34 pkt.data.mem pos →
      p (SimpleRtsp.praseFrame m))
    {pos : Nat} {m : MediainfoSt} (h : At pkt pos m)
    (hcode : pos < pkt.size → startCode34 pkt.data.mem pos) (n : Nat) :
    ∀ call ∈ (m.parseLoop n).1, p call := by
  induction n generalizing pos m with
  | zero => simp [MediainfoSt.parseLoop]
  | succ n ih =>
    rw [MediainfoSt.parseLoop]
    split_ifs with hread
    · have hlt : pos < pkt.size := by
        by_contra hend
        rw [h.buffer, if_pos (by omega)] at hread
        cases hread
      obtain ⟨q, hq, hprase⟩ := h.praseFrame hlt (hcode hlt)
      exact List.forall_mem_cons.mpr ⟨hp pos m h hlt (hcode hlt), ih (h.turn hprase) hq.code⟩
    · simp

theorem At.exposed {pkt : AVPacket} {pos : Nat} {m : MediainfoSt} (h : At pkt pos m)
    (hpos : pos < pkt.size) (hcode : startCode34 pkt.data.mem pos) :
    ∃ q, NextCode pkt (pos + (codeAt pkt.data.mem pos).bytes.length) q ∧
      (SimpleRtsp.praseFrame m).exposed = some ⟨pkt.data,
        pos + (codeAt pkt.data.mem pos).bytes.length,
        (q - pos : Nat) - (codeAt pkt.data.mem pos).bytes.length⟩ := by
  obtain ⟨q, hq, hprase⟩ := h.praseFrame hpos hcode
  refine ⟨q, hq, ?_⟩
  rw [hprase, MediainfoSt.exposed, MediainfoSt.getVideoNALUWithoutStartCode, if_neg h.now]

theorem At.calls {pkt : AVPacket} {pos : Nat} {m : MediainfoSt} (h : At pkt pos m)
    (hcode : pos < pkt.size → startCode34 pkt.data.mem pos) (n : Nat) :
    ∀ call ∈ (m.parseLoop n).1,
      (∀ s ∈ call.exposed, s.Inside pkt) ∧ call.frame.stat = .read := by
  refine At.forall_calls (fun pos m h hpos hcode => ?_) h hcode n
  constructor
  · intro s hs
    obtain ⟨q, hq, hexposed⟩ := h.exposed hpos hcode
    rw [hexposed] at hs
    obtain rfl := Option.mem_some.mp hs
    have hle := hq.le
    have hsize := hq.size
    refine ⟨rfl, ?_, ?_, ?_⟩ <;> dsimp only <;> omega
  · obtain ⟨q, -, hprase⟩ := h.praseFrame hpos hcode
    rw [hprase]

theorem At.stuck {pkt : AVPacket} {pos : Nat} {m : MediainfoSt} (h : At pkt pos m)
    (hpos : pos < pkt.size) (hcode : startCode34 pkt.data.mem pos = false) : At pkt pos m.turn := by
  have hbuffer : m.buffer = ⟨pkt.data, pkt.size, .read, pos⟩ := by
    rw [h.buffer, if_neg (by omega)]
  have hready : ¬ (m.frame.stat = .read ∨ m.buffer.stat = .write) := by
    simp [h.frame, hbuffer]
  have hget : getNALUFromBuf m.frame.frame m.buffer = (-1, m.frame.frame, m.buffer) := by
    rw [hbuffer, getNALUFromBuf, if_neg (by dsimp only; omega), hcode]
    rfl
  rw [MediainfoSt.turn, SimpleRtsp.praseFrame, if_neg hready, hget]
  exact ⟨h.buffer, rfl, h.now⟩

theorem At.never_over {pkt : AVPacket} {pos : Nat} {m : MediainfoSt} (h : At pkt pos m)
    (hpos : pos < pkt.size) (hcode : startCode34 pkt.data.mem pos = false) (n : Nat) :
    ¬ m.Over n := by
  have hread : ∀ {m}, At pkt pos m → m.buffer.stat = .read := by
    intro m h
    rw [h.buffer, if_neg (by omega)]
  induction n generalizing m with
  | zero => exact fun hover => hover (hread h)
  | succ n ih =>
    have hrest := ih (h.stuck hpos hcode)
    rwa [MediainfoSt.Over, MediainfoSt.parseLoop, if_pos (hread h)]

theorem MediainfoSt.Ready.empty {m : MediainfoSt} (h : m.Ready) (pkt : AVPacket)
    (hsize : pkt.size = 0) :
    ∃ call ∈ ((m.receive pkt).parseLoop 1).1, call.frame.stat = .write := by
  refine ⟨praseFrame (m.receive pkt), List.mem_singleton_self _, ?_⟩
  have hready : ¬ ((m.receive pkt).frame.stat = .read ∨ (m.receive pkt).buffer.stat = .write) := by
    simp [MediainfoSt.receive, h.frame]
  have hend : (m.receive pkt).buffer.bufSize ≤ (m.receive pkt).buffer.pos := hsize.le
  rw [praseFrame, if_neg hready, getNALUFromBuf, if_pos hend]
  exact h.frame

/-- **Every packet.** The loop parses a packet safely exactly if it begins with a start code. -/
theorem handlesPacket_iff {m : MediainfoSt} (h : m.Between) (pkt : AVPacket) :
    HandlesPacket m pkt ↔ pkt.Begins := by
  constructor
  · intro hsafe
    rw [pkt.begins_iff]
    have hpos : 0 < pkt.size := by
      by_contra hempty
      obtain ⟨call, hcall, hwrite⟩ := h.ready.empty pkt (by omega)
      rw [hsafe.found 1 call hcall] at hwrite
      cases hwrite
    refine ⟨hpos, ?_⟩
    by_contra hcode
    obtain ⟨n, hover⟩ := hsafe.ends
    exact (h.ready.receive pkt hpos).never_over hpos (by simpa using hcode) n hover
  · intro hbegins
    obtain ⟨hpos, hcode⟩ := pkt.begins_iff.mp hbegins
    have hat := h.ready.receive pkt hpos
    obtain ⟨n, hover, -⟩ := hat.parseLoop (Nat.zero_le _) fun _ => hcode
    have hcalls := hat.calls fun _ => hcode
    exact ⟨⟨n, hover⟩, fun n call hcall => (hcalls n call hcall).1, fun n call hcall =>
      (hcalls n call hcall).2⟩

theorem handlesPacket_threeUnits : HandlesPacket newMedia (packetOf (annexB threeUnits)) ↔
    (packetOf (annexB threeUnits)).Begins :=
  handlesPacket_iff between_newMedia _

/-- One byte that is no start code: the loop never ends. -/
theorem parseLoop_endless : newMedia.Between ∧
    (∀ n, ¬ (newMedia.receive (packetOf [0x65])).Over n) ∧
    ¬ HandlesPacket newMedia (packetOf [0x65]) := by
  have hat := between_newMedia.ready.receive (packetOf [0x65]) (by decide)
  have hendless := hat.never_over (by decide) (by decide)
  refine ⟨between_newMedia, hendless, fun hsafe => ?_⟩
  obtain ⟨n, hover⟩ := hsafe.ends
  exact hendless n hover

end SimpleRtsp

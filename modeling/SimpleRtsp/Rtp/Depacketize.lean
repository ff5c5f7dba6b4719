import SimpleRtsp.Rtp.H26x

/-!
# What a receiver makes of the video packets

A receiver sorts every RTP payload into a NAL unit of its own or a fragment (`rfc6184`, `rfc7798`)
and puts trains of fragments together (`depacketize`). Nothing here looks at how the server
fragments.

The server's fragment trains are well formed, but they start copying behind the NAL unit's header
and still copy as many bytes as the whole unit has: `depacketize_long` is what comes out, the NAL
unit and the `fmt.pos` bytes of memory behind it. So a NAL unit survives exactly when it fits one
packet and its type is one that may travel unfragmented.
-/

namespace SimpleRtsp

/-- What one RTP payload is to a receiver. -/
inductive Piece where
  | single (nal : List UInt8)
  | fragment (first last : Bool) (header data : List UInt8)
  | other
  deriving DecidableEq, Repr

/-- RFC 6184: types 1 to 23 are single NAL units, 28 is FU-A; the NAL unit's header is rebuilt from
F and NRI of the indicator and the type in the FU header. -/
def rfc6184 : List UInt8 → Piece
  | [] => .other
  | indicator :: rest =>
    let type := indicator &&& 0x1F
    if 1 ≤ type ∧ type ≤ 23 then .single (indicator :: rest)
    else if type = 28 then
      match rest with
      | [] => .other
      | fu :: data => .fragment (fu &&& 0x80 != 0) (fu &&& 0x40 != 0)
          [(indicator &&& 0xE0) ||| (fu &&& 0x1F)] data
    else .other

/-- RFC 7798: 48 and 50 are packets of other kinds, 49 is an FU, every other type a single NAL unit;
the two header bytes are rebuilt from the payload header and the type in the FU header. -/
def rfc7798 : List UInt8 → Piece
  | b₀ :: b₁ :: rest =>
    let type := (b₀ >>> 1) &&& (0x3F : UInt8)
    if type = 49 then
      match rest with
      | [] => .other
      | fu :: data => .fragment (fu &&& 0x80 != 0) (fu &&& 0x40 != 0)
          [(b₀ &&& (0x81 : UInt8)) ||| ((fu &&& (0x3F : UInt8)) <<< 1), b₁] data
    else if type = 48 ∨ type = 50 then .other
    else .single (b₀ :: b₁ :: rest)
  | _ => .other

/-- The NAL units completed so far and the one being put together. -/
structure Reassembly where
  done : List (List UInt8)
  current : Option (List UInt8)
  deriving DecidableEq, Repr

/-- One payload; `none` when a fragment does not fit the train it arrives in. -/
def Reassembly.step (r : Reassembly) : Piece → Option Reassembly
  | .single nal => if r.current.isNone then some { r with done := r.done ++ [nal] } else none
  | .fragment true false header data =>
    if r.current.isNone then some { r with current := some (header ++ data) } else none
  | .fragment false last _ data =>
    match r.current with
    | none => none
    | some nal =>
      if last then some ⟨r.done ++ [nal ++ data], none⟩ else some ⟨r.done, some (nal ++ data)⟩
  | .fragment true true _ _ => none
  | .other => none

def Reassembly.run (sort : List UInt8 → Piece) :
    Reassembly → List (List UInt8) → Option Reassembly
  | r, [] => some r
  | r, p :: rest => (r.step (sort p)).bind fun r' => Reassembly.run sort r' rest

/-- The NAL units a sequence of payloads stands for. -/
def depacketize (sort : List UInt8 → Piece) (payloads : List (List UInt8)) :
    Option (List (List UInt8)) :=
  match Reassembly.run sort ⟨[], none⟩ payloads with
  | some ⟨done, none⟩ => some done
  | _ => none

namespace H26x

/-- The flags a fragment carries: start, end, or neither. -/
def IsFlag (flag : UInt8) : Prop := flag = 0x80 ∨ flag = 0x40 ∨ flag = 0

/-- A receiver reads a format's fragments as they are meant: the flags are the two top bits and the
header bytes are those of the NAL unit. -/
def FuFormat.ReadBy (fmt : FuFormat) (sort : List UInt8 → Piece) : Prop :=
  ∀ frame data flag, IsFlag flag → sort (fmt.fu frame flag ++ data) =
    .fragment (flag == 0x80) (flag == 0x40) (frame.read 0 fmt.pos) data

theorem flag_bits (b flag : UInt8) (hb : b &&& 0xC0 = 0) (hflag : IsFlag flag) :
    ((b ||| flag) &&& 0x80 != 0) = (flag == 0x80) ∧
      ((b ||| flag) &&& 0x40 != 0) = (flag == 0x40) := by
  have hmask : ∀ m, m = 0xC0 &&& m → (b ||| flag) &&& m = flag &&& m := by
    intro m hm
    have hdistrib : (b ||| flag) &&& m = b &&& m ||| flag &&& m := by
      apply UInt8.toBitVec_inj.1
      ext i hi
      simp [Bool.and_or_distrib_right]
    have hzero : b &&& m = 0 := by
      rw [hm, ← UInt8.and_assoc, hb, UInt8.zero_and]
    rw [hdistrib, hzero, UInt8.zero_or]
  rw [hmask 0x80 rfl, hmask 0x40 rfl]
  rcases hflag with rfl | rfl | rfl <;> decide

theorem h264_indicator (b : UInt8) : (b &&& 0xE0 ||| 28) &&& 0x1F = 28 := by
  apply UInt8.toBitVec_inj.1
  ext i hi
  interval_cases i <;> simp

theorem h264_header (b flag : UInt8) (hflag : IsFlag flag) :
    (b &&& 0xE0 ||| 28) &&& 0xE0 ||| (b &&& 0x1F ||| flag) &&& 0x1F = b := by
  rcases hflag with rfl | rfl | rfl <;> apply UInt8.toBitVec_inj.1 <;> ext i hi <;>
    interval_cases i <;> simp

theorem h264_readBy : h264.ReadBy rfc6184 := by
  intro frame data flag hflag
  have hb : frame 0 &&& 0x1F &&& 0xC0 = 0 := by
    rw [UInt8.and_assoc, show (0x1F : UInt8) &&& 0xC0 = 0 from rfl, UInt8.and_zero]
  obtain ⟨hfirst, hlast⟩ := flag_bits _ flag hb hflag
  simp only [h264, rfc6184, List.cons_append, List.nil_append, h264_indicator, Mem.read_one,
    hfirst, hlast, h264_header _ _ hflag]
  rw [if_neg (by decide), if_pos trivial]

theorem h265_type (b : UInt8) :
    ((b &&& (0x81 : UInt8)) ||| ((49 : UInt8) <<< 1)) >>> 1 &&& (0x3F : UInt8) = 49 := by
  apply UInt8.toBitVec_inj.1
  ext i hi
  interval_cases i <;> simp

theorem h265_header (b flag : UInt8) (hflag : IsFlag flag) :
    (((b &&& (0x81 : UInt8)) ||| ((49 : UInt8) <<< 1)) &&& (0x81 : UInt8)) |||
      (((((b &&& (0x7E : UInt8)) >>> 1) ||| flag) &&& (0x3F : UInt8)) <<< 1) = b := by
  rcases hflag with rfl | rfl | rfl <;> apply UInt8.toBitVec_inj.1 <;> ext i hi <;>
    interval_cases i <;> simp

theorem h265_readBy : h265.ReadBy rfc7798 := by
  intro frame data flag hflag
  have hb : ((frame 0 &&& (0x7E : UInt8)) >>> 1) &&& 0xC0 = 0 := by
    apply UInt8.toBitVec_inj.1
    ext i hi
    interval_cases i <;> simp
  obtain ⟨hfirst, hlast⟩ := flag_bits _ flag hb hflag
  simp only [h265, rfc7798, List.cons_append, List.nil_append, h265_type, if_true,
    hfirst, hlast, h265_header _ _ hflag]
  rfl

/-- The remainder fragment of a frame whose full fragments end at offset `pos`. -/
def remainder (fmt : FuFormat) (frame : Mem) (remain pos : Nat) : List (List UInt8) :=
  if remain > 0 then [fmt.fu frame 0x40 ++ frame.read pos remain] else []

/-- Inside a train: from the `i`-th fragment on, the rest of the train completes the NAL unit. By
induction on the full fragments still to come; the end flag is on the last of them or on the
remainder. -/
theorem run_train {fmt : FuFormat} {sort : List UInt8 → Piece} (hread : fmt.ReadBy sort)
    (frame : Mem) (pktNum remain : Nat) :
    ∀ (todo i pos : Nat) (done : List (List UInt8)) (nal : List UInt8),
      0 < i → i + todo = pktNum → 0 < todo + remain →
      Reassembly.run sort ⟨done, some nal⟩
        ((fullFragments fmt frame pktNum remain todo i pos).map Prod.snd ++
          remainder fmt frame remain (pos + todo * PTK_RTP_TCP_MAX)) =
      some ⟨done ++ [nal ++ frame.read pos (todo * PTK_RTP_TCP_MAX + remain)], none⟩ := by
  intro todo
  induction todo with
  | zero =>
    intro i pos done nal _ _ hremain
    have hsort := hread frame (frame.read pos remain) 0x40 (Or.inr (Or.inl rfl))
    simp [fullFragments, remainder, show 0 < remain by omega, Reassembly.run, hsort,
      Reassembly.step]
  | succ todo ih =>
    intro i pos done nal hi hsum _
    simp only [fullFragments, List.map_cons, List.cons_append, Reassembly.run]
    by_cases hlast : remain = 0 ∧ i = pktNum - 1
    · -- the last full fragment ends the train
      obtain ⟨rfl, hi'⟩ := hlast
      obtain rfl : todo = 0 := by omega
      have hmark : fullMark pktNum 0 i = (1, 0x40) := by
        rw [fullMark, if_neg (by omega), if_pos ⟨rfl, hi'⟩]
      rw [hmark, hread frame _ 0x40 (Or.inr (Or.inl rfl))]
      simp [fullFragments, remainder, Reassembly.run, Reassembly.step]
    · have hmark : fullMark pktNum remain i = (0, 0) := by
        rw [fullMark, if_neg (by omega), if_neg hlast]
      rw [hmark, hread frame _ 0 (Or.inr (Or.inr rfl))]
      have hrest := ih (i + 1) (pos + PTK_RTP_TCP_MAX) done (nal ++ frame.read pos PTK_RTP_TCP_MAX)
        (by omega) (by omega) (by omega)
      rw [show pos + PTK_RTP_TCP_MAX + todo * PTK_RTP_TCP_MAX =
        pos + (todo + 1) * PTK_RTP_TCP_MAX by rw [Nat.succ_mul]; omega] at hrest
      have hstep : Reassembly.step ⟨done, some nal⟩
          (.fragment ((0 : UInt8) == 0x80) ((0 : UInt8) == 0x40) (frame.read 0 fmt.pos)
            (frame.read pos PTK_RTP_TCP_MAX)) =
          some ⟨done, some (nal ++ frame.read pos PTK_RTP_TCP_MAX)⟩ := rfl
      rw [hstep, Option.bind_some, hrest, List.append_assoc, ← Mem.read_add,
        show PTK_RTP_TCP_MAX + (todo * PTK_RTP_TCP_MAX + remain) =
          (todo + 1) * PTK_RTP_TCP_MAX + remain by rw [Nat.succ_mul]; omega]

/-- **A long NAL unit.** The train of a frame of more than `PTK_RTP_TCP_MAX` bytes is read as the
frame and the `fmt.pos` bytes of memory behind it. -/
theorem depacketize_long {fmt : FuFormat} {sort : List UInt8 → Piece} (hread : fmt.ReadBy sort)
    (frame : Mem) (frameSize : Nat) (hsize : PTK_RTP_TCP_MAX < frameSize) :
    depacketize sort ((fragments fmt frame frameSize).map Prod.snd) =
      some [frame.read 0 (fmt.pos + frameSize)] := by
  rw [fragments, if_neg (by omega)]
  dsimp only
  set pktNum := frameSize / PTK_RTP_TCP_MAX with hpktNum
  set remain := frameSize % PTK_RTP_TCP_MAX with hremain
  have hsplit : pktNum * PTK_RTP_TCP_MAX + remain = frameSize := by
    rw [hpktNum, hremain, Nat.mul_comm]
    exact Nat.div_add_mod frameSize PTK_RTP_TCP_MAX
  have hpos : 0 < pktNum := Nat.div_pos (by omega) (by decide)
  have hPTK : 0 < PTK_RTP_TCP_MAX := by decide
  obtain ⟨todo, htodo⟩ : ∃ todo, pktNum = todo + 1 := ⟨pktNum - 1, by omega⟩
  have hrest : 0 < todo + remain := by
    by_contra hzero
    have : todo = 0 := by omega
    rw [htodo, this, Nat.zero_add, Nat.one_mul] at hsplit
    omega
  -- the first fragment opens the train
  have hfirst : sort (fmt.fu frame (fullMark pktNum remain 0).2 ++
      frame.read fmt.pos PTK_RTP_TCP_MAX) =
      .fragment true false (frame.read 0 fmt.pos) (frame.read fmt.pos PTK_RTP_TCP_MAX) :=
    hread frame _ 0x80 (Or.inl rfl)
  have htrain := run_train hread frame pktNum remain todo 1 (fmt.pos + PTK_RTP_TCP_MAX) []
    (frame.read 0 fmt.pos ++ frame.read fmt.pos PTK_RTP_TCP_MAX) (by omega) (by omega) hrest
  have hall : (frame.read 0 fmt.pos ++ frame.read fmt.pos PTK_RTP_TCP_MAX) ++
      frame.read (fmt.pos + PTK_RTP_TCP_MAX) (todo * PTK_RTP_TCP_MAX + remain) =
      frame.read 0 (fmt.pos + frameSize) := by
    rw [Mem.read_append, Mem.read_append, ← hsplit, htodo, Nat.succ_mul]
    congr 1
    omega
  have hpayloads : (fullFragments fmt frame pktNum remain pktNum 0 fmt.pos ++
      if remain > 0 then
        [(1, fmt.fu frame 0x40 ++ frame.read (fmt.pos + pktNum * PTK_RTP_TCP_MAX) remain)]
      else []).map Prod.snd =
      (fmt.fu frame (fullMark pktNum remain 0).2 ++ frame.read fmt.pos PTK_RTP_TCP_MAX) ::
        ((fullFragments fmt frame pktNum remain todo 1 (fmt.pos + PTK_RTP_TCP_MAX)).map Prod.snd ++
          remainder fmt frame remain (fmt.pos + PTK_RTP_TCP_MAX + todo * PTK_RTP_TCP_MAX)) := by
    rw [show fmt.pos + PTK_RTP_TCP_MAX + todo * PTK_RTP_TCP_MAX =
      fmt.pos + pktNum * PTK_RTP_TCP_MAX by rw [htodo, Nat.succ_mul]; omega]
    nth_rewrite 2 [htodo]
    unfold remainder
    split_ifs <;> simp [fullFragments]
  rw [hpayloads, depacketize, Reassembly.run, hfirst]
  simp only [Reassembly.step, Option.isNone_none, if_true, Option.bind_some]
  rw [htrain, hall]
  rfl

theorem depacketize_short (fmt : FuFormat) {sort : List UInt8 → Piece} (frame : Mem)
    (frameSize : Nat) (hsize : frameSize ≤ PTK_RTP_TCP_MAX) :
    depacketize sort ((fragments fmt frame frameSize).map Prod.snd) =
      some [frame.read 0 frameSize] ↔
        sort (frame.read 0 frameSize) = .single (frame.read 0 frameSize) := by
  rw [fragments, if_pos hsize]
  simp only [List.map_cons, List.map_nil, depacketize, Reassembly.run]
  cases hsort : sort (frame.read 0 frameSize) with
  | single nal => simp [Reassembly.step]
  | fragment first last header data => cases first <;> cases last <;> simp [Reassembly.step]
  | other => simp [Reassembly.step]

/-! ## The packetisers -/

theorem rtpSendFrame_emits (fmt : FuFormat) (tv : Timeval) (a : SendArgs) (frame : Mem)
    (frameSize : Nat) (t : Tx) (haccept : ∀ k n, t.wire.result k n = n)
    (htransport : t.overTcp a ∨ a.hasAddr) :
    ∃ ret t', rtpSendFrame fmt tv a frame frameSize t = (some ret, t') ∧
      Emits a t t' (stamp { t.header with timestamp := getTimestamp tv }
        (fragments fmt frame frameSize)) := by
  have hmeets := rtpSendFrame_meets fmt tv a frame frameSize t
  rw [EarlyM.Meets] at hmeets
  split at hmeets
  · exact ⟨_, _, by assumption, hmeets.2.2⟩
  · exfalso
    rcases hmeets.why with ⟨k, n, hn, hret⟩ | ⟨htcp, haddr⟩
    · rw [haccept] at hret
      omega
    · simp [htcp, haddr] at htransport

/-- A sender's packets, put together by a receiver, are exactly the NAL unit `nal`. -/
def GivesBack (send : SendM Int) (sort : List UInt8 → Piece) (nal : List UInt8) (t : Tx) : Prop :=
  ∃ ret t', send t = (some ret, t') ∧
    depacketize sort ((emitted t t').map (List.drop RTP_HEADER_SIZE)) = some [nal]

theorem givesBack_iff_fragments (fmt : FuFormat) (sort : List UInt8 → Piece) (tv : Timeval)
    (a : SendArgs) (frame : Mem) (frameSize : Nat) (nal : List UInt8) (t : Tx)
    (haccept : ∀ k n, t.wire.result k n = n) (htransport : t.overTcp a ∨ a.hasAddr) :
    GivesBack (rtpSendFrame fmt tv a frame frameSize) sort nal t ↔
      depacketize sort ((fragments fmt frame frameSize).map Prod.snd) = some [nal] := by
  obtain ⟨ret, t', hrun, hemits⟩ :=
    rtpSendFrame_emits fmt tv a frame frameSize t haccept htransport
  have hpayloads : (emitted t t').map (List.drop RTP_HEADER_SIZE) =
      (fragments fmt frame frameSize).map Prod.snd := by
    rw [hemits.emitted, List.map_map, ← map_payload_stamp]
    refine List.map_congr_left fun p _ => ?_
    exact List.drop_left' (by simp)
  constructor
  · rintro ⟨ret', t'', hrun', hback⟩
    rw [hrun] at hrun'
    cases hrun'
    rwa [hpayloads] at hback
  · intro hback
    exact ⟨ret, t', hrun, by rwa [hpayloads]⟩

theorem givesBack_iff {fmt : FuFormat} {sort : List UInt8 → Piece} (hread : fmt.ReadBy sort)
    (hpos : 0 < fmt.pos) (tv : Timeval) (a : SendArgs) (frame : Mem) (frameSize : Nat) (t : Tx)
    (haccept : ∀ k n, t.wire.result k n = n) (htransport : t.overTcp a ∨ a.hasAddr) :
    GivesBack (rtpSendFrame fmt tv a frame frameSize) sort (frame.read 0 frameSize) t ↔
      frameSize ≤ PTK_RTP_TCP_MAX ∧
        sort (frame.read 0 frameSize) = .single (frame.read 0 frameSize) := by
  rw [givesBack_iff_fragments fmt sort tv a frame frameSize _ t haccept htransport]
  by_cases hsize : frameSize ≤ PTK_RTP_TCP_MAX
  · rw [depacketize_short fmt frame frameSize hsize]
    exact ⟨fun h => ⟨hsize, h⟩, fun h => h.2⟩
  · rw [depacketize_long hread frame frameSize (by omega)]
    constructor
    · intro h
      have hlen := congrArg (fun l : Option (List (List UInt8)) => (l.getD []).map List.length) h
      simp at hlen
      omega
    · intro h
      exact absurd h.1 hsize

theorem rfc6184_read (frame : Mem) (n : Nat) (hn : 1 ≤ n) :
    rfc6184 (frame.read 0 n) = .single (frame.read 0 n) ↔
      1 ≤ frame 0 &&& 0x1F ∧ frame 0 &&& 0x1F ≤ 23 := by
  obtain ⟨m, rfl⟩ : ∃ m, n = 1 + m := ⟨n - 1, by omega⟩
  rw [Mem.read_cons]
  simp only [rfc6184]
  split_ifs with htype hfu
  · simp [htype]
  · constructor
    · intro h
      split at h <;> cases h
    · intro h
      exact absurd h htype
  · constructor
    · intro h
      cases h
    · intro h
      exact absurd h htype

theorem rfc7798_read (frame : Mem) (n : Nat) (hn : 2 ≤ n) :
    rfc7798 (frame.read 0 n) = .single (frame.read 0 n) ↔
      (frame 0 >>> 1) &&& (0x3F : UInt8) ∉ ([48, 49, 50] : List UInt8) := by
  obtain ⟨m, rfl⟩ : ∃ m, n = 1 + (1 + m) := ⟨n - 2, by omega⟩
  rw [Mem.read_cons, Mem.read_cons]
  simp only [rfc7798]
  split_ifs with hfu hother
  · constructor
    · intro h
      split at h <;> cases h
    · intro h
      exact absurd (by simp [hfu]) h
  · constructor
    · intro h
      cases h
    · intro h
      rcases hother with hother | hother
      · exact absurd (by simp [hother]) h
      · exact absurd (by simp [hother]) h
  · simp [hfu, not_or.mp hother]

end H26x

/-! ## The two codecs -/

/-- A client over TCP on channel 0 whose socket takes everything it is given. -/
def tcpClient : SendArgs := ⟨7, 0, none, -1⟩

def openTx : Tx where
  tcpHeader := some ⟨0x24, 0, 0⟩
  rtpPacket := rtpHeaderInit ⟨⟨0, 0, 0, 0, 0, 0, 0, 0, 0⟩, fun _ => 0⟩ 0 0 0 RTP_VESION
    RTP_PAYLOAD_TYPE_H26X 0 0 0 0x88923423
  wire := ⟨fun _ n => n, []⟩

/-- **H.264.** The packets give the NAL unit back exactly if it fits one packet and may travel
unfragmented. -/
theorem rtpSendH264Frame_givesBack_iff (tv : Timeval) (a : SendArgs) (frame : Mem) (frameSize : Nat)
    (t : Tx) (hsize : 1 ≤ frameSize) (haccept : ∀ k n, t.wire.result k n = n)
    (htransport : t.overTcp a ∨ a.hasAddr) :
    H26x.GivesBack (rtpSendH264Frame tv a frame frameSize) rfc6184 (frame.read 0 frameSize) t ↔
      frameSize ≤ PTK_RTP_TCP_MAX ∧ 1 ≤ frame 0 &&& 0x1F ∧ frame 0 &&& 0x1F ≤ 23 := by
  rw [← H26x.rfc6184_read frame frameSize hsize]
  exact H26x.givesBack_iff H26x.h264_readBy (by decide) tv a frame frameSize t haccept htransport

theorem rtpSendH264Frame_givesBack_1400 :
    H26x.GivesBack (rtpSendH264Frame ⟨0, 0⟩ tcpClient (fun _ => 0x65) 1400) rfc6184
      (Mem.read (fun _ => 0x65) 0 1400) openTx :=
  (rtpSendH264Frame_givesBack_iff ⟨0, 0⟩ tcpClient (fun _ => 0x65) 1400 openTx (by decide)
    (fun _ _ => rfl) (Or.inl rfl)).mpr (by decide)

/-- One byte more and the receiver gets one byte too many. -/
theorem rtpSendH264Frame_1401 :
    ¬ H26x.GivesBack (rtpSendH264Frame ⟨0, 0⟩ tcpClient (fun _ => 0x65) 1401) rfc6184
      (Mem.read (fun _ => 0x65) 0 1401) openTx := by
  intro h
  have hfits := (H26x.givesBack_iff H26x.h264_readBy (by decide) _ _ _ _ _ (fun _ _ => rfl)
    (Or.inl rfl)).mp h
  exact absurd hfits.1 (by decide)

/-- **H.265.** The packets give the NAL unit back exactly if it fits one packet and may travel
unfragmented. -/
theorem rtpSendH265Frame_givesBack_iff (tv : Timeval) (a : SendArgs) (frame : Mem) (frameSize : Nat)
    (t : Tx) (hsize : 2 ≤ frameSize) (haccept : ∀ k n, t.wire.result k n = n)
    (htransport : t.overTcp a ∨ a.hasAddr) :
    H26x.GivesBack (rtpSendH265Frame tv a frame frameSize) rfc7798 (frame.read 0 frameSize) t ↔
      frameSize ≤ PTK_RTP_TCP_MAX ∧
        (frame 0 >>> 1) &&& (0x3F : UInt8) ∉ ([48, 49, 50] : List UInt8) := by
  rw [← H26x.rfc7798_read frame frameSize hsize]
  exact H26x.givesBack_iff H26x.h265_readBy (by decide) tv a frame frameSize t haccept htransport

theorem rtpSendH265Frame_givesBack_1400 :
    H26x.GivesBack (rtpSendH265Frame ⟨0, 0⟩ tcpClient (fun _ => 0x26) 1400) rfc7798
      (Mem.read (fun _ => 0x26) 0 1400) openTx :=
  (rtpSendH265Frame_givesBack_iff ⟨0, 0⟩ tcpClient (fun _ => 0x26) 1400 openTx (by decide)
    (fun _ _ => rfl) (Or.inl rfl)).mpr (by decide)

/-- One byte more and the receiver gets two bytes too many. -/
theorem rtpSendH265Frame_1401 :
    ¬ H26x.GivesBack (rtpSendH265Frame ⟨0, 0⟩ tcpClient (fun _ => 0x26) 1401) rfc7798
      (Mem.read (fun _ => 0x26) 0 1401) openTx := by
  intro h
  have hfits := (H26x.givesBack_iff H26x.h265_readBy (by decide) _ _ _ _ _ (fun _ _ => rfl)
    (Or.inl rfl)).mp h
  exact absurd hfits.1 (by decide)

end SimpleRtsp

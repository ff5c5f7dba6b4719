import SimpleRtsp.Rtp.Send

/-!
# The video packetisers

`rtpSendH264Frame` and `rtpSendH265Frame` are the same program over two fragment formats
(`FuFormat`): a NAL unit of at most `PTK_RTP_TCP_MAX` bytes goes as one packet, a longer one as
`frame_size / PTK_RTP_TCP_MAX` full fragments and one for the remainder. `fragments` is the list of
payloads this amounts to, and `rtpSendFrame_meets` says that the packetiser sends exactly these,
consecutively numbered and under one timestamp, or is cut short at a refused call. The callers pass
the array of a local `MediaPacket_st`, so the test for a NULL frame has no counterpart here.
-/

namespace SimpleRtsp

/-- `struct timeval`, what `gettimeofday` fills in. -/
structure Timeval where
  tvSec : Int
  tvUsec : Int
  deriving DecidableEq, Repr

namespace H26x

/-- `getTimestamp` of the video packetisers: 64-bit `long` arithmetic cut to 32 bits. -/
def getTimestamp (tv : Timeval) : UInt32 :=
  UInt32.ofInt ((tv.tvSec * 1000 + (tv.tvUsec + 500).tdiv 1000) * 90)

/-- What differs between the two codecs' fragmentation units: where the fragment data start in the
NAL unit, and the bytes in front of them, the last of which carries the start and end flags. -/
structure FuFormat where
  pos : Nat
  fu : Mem → UInt8 → List UInt8

/-- FU indicator and FU header of RFC 6184. -/
def h264 : FuFormat where
  pos := 1
  fu frame flag := [(frame 0 &&& 0xE0) ||| 28, (frame 0 &&& 0x1F) ||| flag]

/-- Payload header and FU header of RFC 7798. -/
def h265 : FuFormat where
  pos := 2
  fu frame flag :=
    [(frame 0 &&& (0x81 : UInt8)) ||| ((49 : UInt8) <<< 1), frame 1,
      ((frame 0 &&& (0x7E : UInt8)) >>> 1) ||| flag]

/-- Marker and flag of the `i`-th full fragment. -/
def fullMark (pktNum remainPktSize i : Nat) : BitVec 1 × UInt8 :=
  if i = 0 then (0, 0x80)
  else if remainPktSize = 0 ∧ i = pktNum - 1 then (1, 0x40)
  else (0, 0)

/-- The loop over the full fragments, `todo` of them still to go. -/
def sendFull (fmt : FuFormat) (a : SendArgs) (frame : Mem) (pktNum remainPktSize : Nat) :
    (todo i pos : Nat) → (sendBytes : Int) → SendM (Nat × Int)
  | 0, _, pos, sendBytes => pure (pos, sendBytes)
  | todo + 1, i, pos, sendBytes => do
    modifyPayload Mem.clearString
    let mark := fullMark pktNum remainPktSize i
    modifyHeader fun h => { h with marker := mark.1 }
    let ret ← sendRtp a (fmt.fu frame mark.2) (frame.read pos PTK_RTP_TCP_MAX)
    sendFull fmt a frame pktNum remainPktSize todo (i + 1) (pos + PTK_RTP_TCP_MAX) (sendBytes + ret)

/-- The body the two video packetisers share. -/
def rtpSendFrame (fmt : FuFormat) (tv : Timeval) (a : SendArgs) (frame : Mem) (frameSize : Nat) :
    SendM Int := do
  modifyHeader fun h => { h with marker := 0 }
  modifyPayload Mem.clearString
  modifyHeader fun h => { h with timestamp := getTimestamp tv }
  modifyTcpHeader fun h => { h with magic := 0x24, rtpLen16 := 0 }
  if frameSize ≤ PTK_RTP_TCP_MAX then
    modifyHeader fun h => { h with marker := 1 }
    sendRtp a [] (frame.read 0 frameSize)
  else
    let pktNum := frameSize / PTK_RTP_TCP_MAX
    let remainPktSize := frameSize % PTK_RTP_TCP_MAX
    let (pos, sendBytes) ← sendFull fmt a frame pktNum remainPktSize pktNum 0 fmt.pos 0
    if remainPktSize > 0 then
      modifyPayload Mem.clearString
      modifyHeader fun h => { h with marker := 1 }
      let ret ← sendRtp a (fmt.fu frame 0x40) (frame.read pos remainPktSize)
      return sendBytes + ret
    else
      return sendBytes

end H26x

def rtpSendH264Frame : Timeval → SendArgs → Mem → Nat → SendM Int := H26x.rtpSendFrame H26x.h264

def rtpSendH265Frame : Timeval → SendArgs → Mem → Nat → SendM Int := H26x.rtpSendFrame H26x.h265

/-! ## The packets of a frame -/

/-- Number payloads from the header `h` on, each with its own marker. -/
def stamp (h : RtpHeader) : List (BitVec 1 × List UInt8) → List Packet
  | [] => []
  | (marker, payload) :: rest =>
    ⟨{ h with marker := marker }, payload⟩ :: stamp { h with seq := h.seq + 1 } rest

/-- The header after `n` packets: the marker is whatever the last one left. -/
def RtpHeader.After (h h' : RtpHeader) (n : Nat) : Prop :=
  h' = { h with marker := h'.marker, seq := h.seq + UInt16.ofNat n }

theorem RtpHeader.After.zero (h : RtpHeader) (marker : BitVec 1) :
    h.After { h with marker := marker } 0 := by
  simp [RtpHeader.After]

theorem RtpHeader.After.trans {h h' h'' : RtpHeader} {m n : Nat} (hm : h.After h' m)
    (hn : h'.After h'' n) : h.After h'' (m + n) := by
  rw [RtpHeader.After] at *
  rw [hn, hm]
  simp [UInt16.add_assoc]

theorem stamp_marker (h : RtpHeader) (marker : BitVec 1) (ps : List (BitVec 1 × List UInt8)) :
    stamp { h with marker := marker } ps = stamp h ps := by
  induction ps generalizing h with
  | nil => rfl
  | cons p rest ih => exact congrArg (_ :: ·) (ih { h with seq := h.seq + 1 })

theorem stamp_append (h : RtpHeader) (ps qs : List (BitVec 1 × List UInt8)) :
    stamp h (ps ++ qs) =
      stamp h ps ++ stamp { h with seq := h.seq + UInt16.ofNat ps.length } qs := by
  induction ps generalizing h with
  | nil => simp [stamp]
  | cons p rest ih =>
    simp only [stamp, List.cons_append, ih, List.length_cons]
    simp [UInt16.add_assoc, UInt16.add_comm]

theorem stamp_after {h h' : RtpHeader} {n : Nat} (hn : h.After h' n)
    (ps : List (BitVec 1 × List UInt8)) :
    stamp h' ps = stamp { h with seq := h.seq + UInt16.ofNat n } ps := by
  rw [hn, ← stamp_marker { h with seq := h.seq + UInt16.ofNat n } h'.marker]

@[simp] theorem map_payload_stamp (h : RtpHeader) (ps : List (BitVec 1 × List UInt8)) :
    (stamp h ps).map Packet.payload = ps.map Prod.snd := by
  induction ps generalizing h with
  | nil => rfl
  | cons p rest ih => simp [stamp, ih]

namespace H26x

/-- The payloads of the full fragments, `todo` of them, from fragment `i` and offset `pos` on. -/
def fullFragments (fmt : FuFormat) (frame : Mem) (pktNum remainPktSize : Nat) :
    (todo i pos : Nat) → List (BitVec 1 × List UInt8)
  | 0, _, _ => []
  | todo + 1, i, pos =>
    let mark := fullMark pktNum remainPktSize i
    (mark.1, fmt.fu frame mark.2 ++ frame.read pos PTK_RTP_TCP_MAX) ::
      fullFragments fmt frame pktNum remainPktSize todo (i + 1) (pos + PTK_RTP_TCP_MAX)

/-- The payloads of a frame with their markers. -/
def fragments (fmt : FuFormat) (frame : Mem) (frameSize : Nat) : List (BitVec 1 × List UInt8) :=
  if frameSize ≤ PTK_RTP_TCP_MAX then [(1, frame.read 0 frameSize)]
  else
    let pktNum := frameSize / PTK_RTP_TCP_MAX
    let remainPktSize := frameSize % PTK_RTP_TCP_MAX
    fullFragments fmt frame pktNum remainPktSize pktNum 0 fmt.pos ++
      if remainPktSize > 0 then
        [(1, fmt.fu frame 0x40 ++ frame.read (fmt.pos + pktNum * PTK_RTP_TCP_MAX) remainPktSize)]
      else []

@[simp] theorem length_fullFragments (fmt : FuFormat) (frame : Mem) (pktNum remainPktSize todo i
    pos : Nat) : (fullFragments fmt frame pktNum remainPktSize todo i pos).length = todo := by
  induction todo generalizing i pos with
  | zero => rfl
  | succ todo ih => simp [fullFragments, ih]

theorem sendFull_meets (fmt : FuFormat) (a : SendArgs) (frame : Mem) (pktNum remainPktSize : Nat) :
    ∀ (todo i pos : Nat) (sendBytes : Int) (t : Tx), t.Ready →
      (sendFull fmt a frame pktNum remainPktSize todo i pos sendBytes).Meets t
        (fun r t' => r.1 = pos + todo * PTK_RTP_TCP_MAX ∧ sendBytes + todo ≤ r.2 ∧
          t.header.After t'.header todo ∧
          Emits a t t' (stamp t.header (fullFragments fmt frame pktNum remainPktSize todo i pos)))
        (fun t' => Cut a t t'
          (stamp t.header (fullFragments fmt frame pktNum remainPktSize todo i pos))) := by
  intro todo
  induction todo with
  | zero =>
    intro i pos sendBytes t ht
    exact EarlyM.Meets.pure ⟨by simp, by simp, RtpHeader.After.zero t.header t.header.marker,
      Made.refl rfl rfl ht⟩
  | succ todo ih =>
    intro i pos sendBytes t ht
    let mark := fullMark pktNum remainPktSize i
    let t₀ : Tx := { t with
      rtpPacket := ⟨{ t.header with marker := mark.1 }, t.rtpPacket.payload.clearString⟩ }
    have hmark : Made t t₀ [] := Made.refl rfl rfl ht
    refine EarlyM.Meets.modify_bind (EarlyM.Meets.modify_bind (EarlyM.Meets.bind
      ((sendRtp_meets a _ _ t₀ ht).mono (fun _ _ h => h) fun t' h => ?_) ?_))
    · exact (Cut.of_made hmark h).append _
    · rintro ret t₁ ⟨hret, hheader, hsent⟩
      have hfirst : Emits a t t₁ [⟨{ t.header with marker := mark.1 }, _⟩] :=
        Emits.of_made hmark hsent
      have hafter : t.header.After t₁.header 1 := by
        rw [hheader]
        simp [RtpHeader.After, t₀, Tx.header]
      have hrest : stamp t₁.header (fullFragments fmt frame pktNum remainPktSize todo (i + 1)
          (pos + PTK_RTP_TCP_MAX)) = stamp { t.header with seq := t.header.seq + 1 }
            (fullFragments fmt frame pktNum remainPktSize todo (i + 1) (pos + PTK_RTP_TCP_MAX)) :=
        stamp_after hafter _
      refine (ih (i + 1) (pos + PTK_RTP_TCP_MAX) (sendBytes + ret) t₁ hsent.ready).mono ?_ ?_
      · rintro r t₂ ⟨hpos, hbytes, hheader₂, hsent₂⟩
        rw [hrest] at hsent₂
        refine ⟨by rw [hpos, Nat.succ_mul]; omega, by push_cast; omega, ?_, hfirst.trans hsent₂⟩
        rw [Nat.add_comm todo 1]
        exact hafter.trans hheader₂
      · intro t₂ hcut
        rw [hrest] at hcut
        exact hfirst.cut hcut

/-- **What a video packetiser sends.** Every payload of the frame, consecutively numbered from the
header's sequence number and under one timestamp, and a positive result; or an early return at the
first refused call. -/
theorem rtpSendFrame_meets (fmt : FuFormat) (tv : Timeval) (a : SendArgs) (frame : Mem)
    (frameSize : Nat) (t : Tx) :
    (rtpSendFrame fmt tv a frame frameSize).Meets t
      (fun ret t' => 0 < ret ∧
        { t.header with timestamp := getTimestamp tv }.After t'.header
          (fragments fmt frame frameSize).length ∧
        Emits a t t' (stamp { t.header with timestamp := getTimestamp tv }
          (fragments fmt frame frameSize)))
      (fun t' => Cut a t t' (stamp { t.header with timestamp := getTimestamp tv }
        (fragments fmt frame frameSize))) := by
  let h : RtpHeader := { t.header with timestamp := getTimestamp tv }
  let t₀ : Tx :=
    { tcpHeader := t.tcpHeader.map fun h => { h with magic := 0x24, rtpLen16 := 0 }
      rtpPacket := ⟨{ h with marker := 0 }, t.rtpPacket.payload.clearString⟩
      wire := t.wire }
  have hready : t₀.Ready := by
    simp [Tx.Ready, t₀]
  have hstart : Made t t₀ [] := Made.refl rfl (by simp [t₀]) hready
  unfold rtpSendFrame fragments
  refine EarlyM.Meets.modify_bind (EarlyM.Meets.modify_bind (EarlyM.Meets.modify_bind
    (EarlyM.Meets.modify_bind ?_)))
  change EarlyM.Meets _ t₀ _ _
  by_cases hsize : frameSize ≤ PTK_RTP_TCP_MAX
  · -- one packet
    rw [if_pos hsize, if_pos hsize]
    let t₁ : Tx := { t₀ with rtpPacket := ⟨{ h with marker := 1 }, t₀.rtpPacket.payload⟩ }
    have hmark : Made t t₁ [] := hstart.of_wire rfl rfl hready
    refine EarlyM.Meets.modify_bind ((sendRtp_meets a [] (frame.read 0 frameSize) t₁
      hready).mono ?_ ?_)
    · rintro ret t₂ ⟨hret, hheader, hsent⟩
      refine ⟨hret, ?_, Emits.of_made hmark hsent⟩
      rw [hheader]
      simp [RtpHeader.After, t₁, Tx.header, h]
    · exact fun t₂ hcut => Cut.of_made hmark hcut
  · -- full fragments, then a remainder if there is one
    rw [if_neg hsize, if_neg hsize]
    dsimp only
    set pktNum := frameSize / PTK_RTP_TCP_MAX
    set remain := frameSize % PTK_RTP_TCP_MAX
    have hpktNum : 0 < pktNum := Nat.div_pos (by omega) (by decide)
    have hfull : stamp t₀.header (fullFragments fmt frame pktNum remain pktNum 0 fmt.pos) =
        stamp h (fullFragments fmt frame pktNum remain pktNum 0 fmt.pos) := stamp_marker h 0 _
    refine EarlyM.Meets.bind ((sendFull_meets fmt a frame _ _ _ 0 fmt.pos 0 t₀ hready).mono
      (fun _ _ h => h) fun t₁ hcut => ?_) ?_
    · rw [stamp_append, ← hfull]
      exact (Cut.of_made hstart hcut).append _
    · rintro ⟨pos, sendBytes⟩ t₁ ⟨hpos, hbytes, hheader, hsent⟩
      dsimp only at hpos hbytes ⊢
      rw [hfull] at hsent
      have hafter : h.After t₁.header pktNum := by
        simpa using (RtpHeader.After.zero h 0).trans hheader
      split_ifs with hremain
      · let t₂ : Tx := { t₁ with
          rtpPacket := ⟨{ t₁.header with marker := 1 }, t₁.rtpPacket.payload.clearString⟩ }
        have hmark : Made t₁ t₂ [] := Made.refl rfl rfl hsent.ready
        have hlast : stamp { h with seq := h.seq + UInt16.ofNat pktNum }
            [(1, fmt.fu frame 0x40 ++ frame.read (fmt.pos + pktNum * PTK_RTP_TCP_MAX) remain)] =
            [⟨t₂.header, fmt.fu frame 0x40 ++ frame.read pos remain⟩] := by
          rw [← stamp_after hafter, hpos]
          rfl
        rw [stamp_append, length_fullFragments, hlast]
        have hall := Emits.of_made hstart hsent
        refine EarlyM.Meets.modify_bind (EarlyM.Meets.modify_bind (EarlyM.Meets.bind
          ((sendRtp_meets a _ _ t₂ hsent.ready).mono (fun _ _ h => h) fun t₃ hcut => ?_) ?_))
        · exact hall.cut (Cut.of_made hmark hcut)
        · rintro ret t₃ ⟨hret, hheader₃, hsent₃⟩
          refine EarlyM.Meets.pure ⟨by omega, ?_, hall.trans (Emits.of_made hmark hsent₃)⟩
          rw [List.length_append, length_fullFragments]
          refine hafter.trans ?_
          rw [hheader₃]
          simp [RtpHeader.After, t₂, Tx.header]
      · refine EarlyM.Meets.pure ⟨by omega, by simpa using hafter, ?_⟩
        rw [List.append_nil]
        exact Emits.of_made hstart hsent

end H26x

end SimpleRtsp

import SimpleRtsp.Rtp.Audio

/-!
# The footprint of a packetiser

A packetiser works on the buffer `rtp_packet` of a client, of which it is only told the address.
`WritesBelow n` says that it stays inside the first `n` payload bytes, by what it must not do:
whatever the memory behind them holds is still there afterwards. An audio packetiser writes the AU
header and the frame (`Audio.rtpSendFrame_keeps`). A video packetiser writes at most
`FRAGMENT_MAX` bytes, but it also clears the last packet with `memset(payload, 0,
strlen(payload))`, which stays inside as long as a zero byte stops it (`H26x.rtpSendFrame_keeps`).
-/

namespace SimpleRtsp

/-- From payload byte `n` on nothing is changed. -/
def Tx.SameFrom (n : Nat) (t t' : Tx) : Prop :=
  ∀ i, n ≤ i → t'.rtpPacket.payload i = t.rtpPacket.payload i

/-- If payload byte `z` is zero, nothing is changed from there on. -/
def Tx.SameFromZero (z : Nat) (t t' : Tx) : Prop :=
  t.rtpPacket.payload z = 0 → t.SameFrom z t'

namespace Tx

theorem SameFrom.refl (n : Nat) (t : Tx) : t.SameFrom n t := fun _ _ => rfl

theorem SameFrom.trans {n : Nat} (t t' t'' : Tx) (h : t.SameFrom n t') (h' : t'.SameFrom n t'') :
    t.SameFrom n t'' := fun i hi => (h' i hi).trans (h i hi)

theorem SameFromZero.refl (z : Nat) (t : Tx) : t.SameFromZero z t := fun _ => SameFrom.refl z t

theorem SameFromZero.trans {z : Nat} (t t' t'' : Tx) (h : t.SameFromZero z t')
    (h' : t'.SameFromZero z t'') : t.SameFromZero z t'' := by
  intro hzero
  have hfirst := h hzero
  refine SameFrom.trans t t' t'' hfirst (h' ?_)
  rw [hfirst z (Nat.le_refl z)]
  exact hzero

theorem SameFrom.zero {n z : Nat} (hle : n ≤ z) (t t' : Tx) (h : t.SameFrom n t') :
    t.SameFromZero z t' := fun _ i hi => h i (by omega)

end Tx

/-! ## The parts of a packetiser -/

theorem modifyHeader_keeps (n : Nat) (f : RtpHeader → RtpHeader) :
    (modifyHeader f).Keeps (Tx.SameFrom n) :=
  EarlyM.Keeps.modify fun _ _ _ => rfl

theorem modifyTcpHeader_keeps (n : Nat) (f : RtpTcpHeader → RtpTcpHeader) :
    (modifyTcpHeader f).Keeps (Tx.SameFrom n) :=
  EarlyM.Keeps.modify fun _ _ _ => rfl

theorem modifyPayload_write_keeps {n off : Nat} {bytes : List UInt8}
    (hfit : off + bytes.length ≤ n) :
    (modifyPayload fun p => p.write off bytes).Keeps (Tx.SameFrom n) := by
  apply EarlyM.Keeps.modify
  intro t i hi
  exact Mem.write_of_le _ off i bytes (by omega)

theorem modifyPayload_clearString_keeps (z : Nat) :
    (modifyPayload Mem.clearString).Keeps (Tx.SameFromZero z) := by
  apply EarlyM.Keeps.modify
  intro t hzero i hi
  exact Mem.clearString_of_le _ hzero hi

theorem sendOrReturn_keeps (n : Nat) (sd : Int) (buf : List UInt8)
    (addr : Option (List UInt8 × Int)) : (sendOrReturn sd buf addr).Keeps (Tx.SameFrom n) :=
  fun _ _ _ => rfl

theorem sendInterleaved_keeps (n : Nat) (a : SendArgs) (len : Nat) :
    (sendInterleaved a len).Keeps (Tx.SameFrom n) := by
  unfold sendInterleaved
  refine .bind Tx.SameFrom.trans (modifyTcpHeader_keeps n _) fun _ => .get_bind fun _ => ?_
  exact sendOrReturn_keeps n _ _ _

theorem sendTcpHeader_keeps (n : Nat) (a : SendArgs) (len : Nat) :
    (sendTcpHeader a len).Keeps (Tx.SameFrom n) := by
  unfold sendTcpHeader
  refine .get_bind fun t => ?_
  split_ifs
  · exact .bind Tx.SameFrom.trans (sendInterleaved_keeps n a len) fun _ =>
      modifyTcpHeader_keeps n _
  · exact .pure (Tx.SameFrom.refl n) ()

theorem sendPacket_keeps (n : Nat) (a : SendArgs) (len : Nat) :
    (sendPacket a len).Keeps (Tx.SameFrom n) := by
  unfold sendPacket
  refine .get_bind fun t => ?_
  split_ifs
  · exact sendOrReturn_keeps n _ _ _
  · exact sendOrReturn_keeps n _ _ _
  · exact .fail (Tx.SameFrom.refl n)

theorem sendRtp_keeps {n : Nat} (a : SendArgs) {front body : List UInt8}
    (hfit : front.length + body.length ≤ n) : (sendRtp a front body).Keeps (Tx.SameFrom n) := by
  unfold sendRtp
  refine .bind Tx.SameFrom.trans (modifyPayload_write_keeps (by omega)) fun _ => ?_
  refine .bind Tx.SameFrom.trans (sendTcpHeader_keeps n a _) fun _ => ?_
  refine .bind Tx.SameFrom.trans (modifyHeader_keeps n _) fun _ => ?_
  refine .bind Tx.SameFrom.trans (modifyPayload_write_keeps hfit) fun _ => ?_
  refine .bind Tx.SameFrom.trans (sendPacket_keeps n a _) fun ret => ?_
  refine .bind Tx.SameFrom.trans (modifyHeader_keeps n _) fun _ => ?_
  exact .bind Tx.SameFrom.trans (modifyHeader_keeps n _) fun _ => .pure (Tx.SameFrom.refl n) ret

/-! ## The packetisers -/

/-- The longest payload of a video packet: three bytes in front of a full fragment. -/
def FRAGMENT_MAX : Nat := 3 + PTK_RTP_TCP_MAX

namespace H26x

variable {fmt : FuFormat} {z : Nat}

theorem sendFragment_keeps (hfu : ∀ frame flag, (fmt.fu frame flag).length ≤ 3)
    (hz : FRAGMENT_MAX ≤ z) (a : SendArgs) (frame : Mem) (flag : UInt8) (pos : Nat) {size : Nat}
    (hsize : size ≤ PTK_RTP_TCP_MAX) :
    (sendRtp a (fmt.fu frame flag) (frame.read pos size)).Keeps (Tx.SameFromZero z) := by
  have hlen := hfu frame flag
  refine (sendRtp_keeps a ?_).mono (Tx.SameFrom.zero hz)
  rw [Mem.length_read, FRAGMENT_MAX]
  omega

theorem header_keeps (z : Nat) (f : RtpHeader → RtpHeader) :
    (modifyHeader f).Keeps (Tx.SameFromZero z) :=
  (modifyHeader_keeps z f).mono (Tx.SameFrom.zero (Nat.le_refl z))

theorem sendFull_keeps (hfu : ∀ frame flag, (fmt.fu frame flag).length ≤ 3)
    (hz : FRAGMENT_MAX ≤ z) (a : SendArgs) (frame : Mem) (pktNum remainPktSize : Nat) :
    ∀ (todo i pos : Nat) (sendBytes : Int),
      (sendFull fmt a frame pktNum remainPktSize todo i pos sendBytes).Keeps
        (Tx.SameFromZero z) := by
  intro todo
  induction todo with
  | zero => exact fun _ pos sendBytes => .pure (Tx.SameFromZero.refl z) (pos, sendBytes)
  | succ todo ih =>
    intro i pos sendBytes
    refine .bind Tx.SameFromZero.trans (modifyPayload_clearString_keeps z) fun _ => ?_
    refine .bind Tx.SameFromZero.trans (header_keeps z _) fun _ => ?_
    refine .bind Tx.SameFromZero.trans ?_ fun ret => ih (i + 1) _ _
    exact sendFragment_keeps hfu hz a frame _ pos (Nat.le_refl _)

/-- **The video packetisers** leave the payload alone from a zero byte on that lies behind the
longest packet. -/
theorem rtpSendFrame_keeps (hfu : ∀ frame flag, (fmt.fu frame flag).length ≤ 3)
    (hz : FRAGMENT_MAX ≤ z) (tv : Timeval) (a : SendArgs) (frame : Mem) (frameSize : Nat) :
    (rtpSendFrame fmt tv a frame frameSize).Keeps (Tx.SameFromZero z) := by
  unfold rtpSendFrame
  refine .bind Tx.SameFromZero.trans (header_keeps z _) fun _ => ?_
  refine .bind Tx.SameFromZero.trans (modifyPayload_clearString_keeps z) fun _ => ?_
  refine .bind Tx.SameFromZero.trans (header_keeps z _) fun _ => ?_
  refine .bind Tx.SameFromZero.trans ((modifyTcpHeader_keeps z _).mono
    (Tx.SameFrom.zero (Nat.le_refl z))) fun _ => ?_
  split_ifs with hsingle
  · refine .bind Tx.SameFromZero.trans (header_keeps z _) fun _ => ?_
    refine (sendRtp_keeps a ?_).mono (Tx.SameFrom.zero hz)
    rw [Mem.length_read, FRAGMENT_MAX, List.length_nil]
    omega
  · refine .bind Tx.SameFromZero.trans (sendFull_keeps hfu hz a frame _ _ _ _ _ _) ?_
    rintro ⟨pos, sendBytes⟩
    dsimp only
    split_ifs
    · refine .bind Tx.SameFromZero.trans (modifyPayload_clearString_keeps z) fun _ => ?_
      refine .bind Tx.SameFromZero.trans (header_keeps z _) fun _ => ?_
      refine .bind Tx.SameFromZero.trans ?_ fun ret => .pure (Tx.SameFromZero.refl z) _
      exact sendFragment_keeps hfu hz a frame _ pos (Nat.mod_lt _ (by decide)).le
    · exact .pure (Tx.SameFromZero.refl z) sendBytes

end H26x

theorem Audio.rtpSendFrame_keeps (au : Nat → List UInt8) (tv : Timeval) (a : SendArgs) (data : Mem)
    (size : Nat) (sampleRate : UInt32) (ret₀ : Int) :
    (Audio.rtpSendFrame au tv a data size sampleRate ret₀).Keeps
      (Tx.SameFrom ((au size).length + size)) := by
  unfold Audio.rtpSendFrame
  have hheader : ∀ len, (Audio.sendHeader a len ret₀).Keeps
      (Tx.SameFrom ((au size).length + size)) := by
    intro len
    unfold Audio.sendHeader
    refine .get_bind fun t => ?_
    split_ifs
    · exact .bind Tx.SameFrom.trans (modifyTcpHeader_keeps _ _) fun _ =>
        sendInterleaved_keeps _ a len
    · exact .pure (Tx.SameFrom.refl _) ret₀
    · exact .fail (Tx.SameFrom.refl _)
  refine .bind Tx.SameFrom.trans (hheader _) fun sendBytes => ?_
  refine .bind Tx.SameFrom.trans (modifyHeader_keeps _ _) fun _ => ?_
  refine .bind Tx.SameFrom.trans (modifyHeader_keeps _ _) fun _ => ?_
  refine .bind Tx.SameFrom.trans (modifyHeader_keeps _ _) fun _ => ?_
  refine .bind Tx.SameFrom.trans (modifyPayload_write_keeps (by omega)) fun _ => ?_
  refine .bind Tx.SameFrom.trans (modifyPayload_write_keeps (by rw [Mem.length_read])) fun _ => ?_
  refine .bind Tx.SameFrom.trans (sendPacket_keeps _ a _) fun ret => ?_
  refine .bind Tx.SameFrom.trans (modifyHeader_keeps _ _) fun _ => ?_
  exact .bind Tx.SameFrom.trans (modifyHeader_keeps _ _) fun _ => .pure (Tx.SameFrom.refl _) _

/-! ## What lies behind a buffer -/

/-- Whatever memory lies behind the first `n` payload bytes, `send` leaves it alone. -/
def WritesBelow (n : Nat) (send : SendM Int) (t : Tx) : Prop :=
  ∀ payload : Mem, (∀ i < n, payload i = t.rtpPacket.payload i) →
    let t' : Tx := { t with rtpPacket := { t.rtpPacket with payload := payload } }
    t'.SameFrom n (send t').2

namespace WritesBelow

variable {n : Nat} {send : SendM Int}

theorem of_sameFrom {m : Nat} (h : send.Keeps (Tx.SameFrom m)) (hle : m ≤ n) (t : Tx) :
    WritesBelow n send t :=
  fun _ _ i hi => h _ i (by omega)

theorem of_zero {z : Nat} (h : send.Keeps (Tx.SameFromZero z)) (hlt : z < n) {t : Tx}
    (hzero : t.rtpPacket.payload z = 0) : WritesBelow n send t := by
  intro payload hsame t' i hi
  apply h t' _ i (by omega)
  rw [← hzero]
  exact hsame z hlt

end WritesBelow

end SimpleRtsp

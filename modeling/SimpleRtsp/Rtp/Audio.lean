import SimpleRtsp.Rtp.H26x

/-!
# The audio packetisers

`rtpSendAACFrame` and `rtpSendPCMAFrame` send one packet per frame and differ only in the four AU
header bytes that AAC puts in front of the data. Unlike the video packetisers they refuse a call
without transport at once, and over UDP they add the uninitialised `ret` to the result.
-/

namespace SimpleRtsp

namespace Audio

/-- `getTimestamp` of the audio packetisers. -/
def getTimestamp (tv : Timeval) (sampleRate : UInt32) : UInt32 :=
  UInt32.ofInt (((tv.tvSec * 1000 + (tv.tvUsec + 500).tdiv 1000) * sampleRate.toNat).tdiv 1000)

/-- The first block: over TCP the interleaved header for `len` bytes, over UDP nothing but the
uninitialised local `ret₀`, and without a transport the early return. -/
def sendHeader (a : SendArgs) (len : Nat) (ret₀ : Int) : SendM Int := do
  let t ← EarlyM.get
  if t.overTcp a then
    modifyTcpHeader fun h => { h with magic := 0x24 }
    sendInterleaved a len
  else if a.hasAddr then
    pure ret₀
  else
    EarlyM.fail

/-- The body the two audio packetisers share: `au` is what stands in front of the `size` bytes of
data. -/
def rtpSendFrame (au : Nat → List UInt8) (tv : Timeval) (a : SendArgs) (data : Mem) (size : Nat)
    (sampleRate : UInt32) (ret₀ : Int) : SendM Int := do
  let sendBytes ← sendHeader a (RTP_HEADER_SIZE + (au size).length + size) ret₀
  modifyHeader fun h => { h with timestamp := getTimestamp tv sampleRate }
  modifyHeader RtpHeader.toNetwork
  modifyHeader fun h => { h with marker := 1 }
  modifyPayload fun p => p.write 0 (au size)
  modifyPayload fun p => p.write (au size).length (data.read 0 size)
  let ret ← sendPacket a ((au size).length + size)
  modifyHeader RtpHeader.toHost
  modifyHeader fun h => { h with seq := h.seq + 1 }
  return sendBytes + ret

/-- The AU header: its length in bits, then the 13-bit size and three zero bits. -/
def aacAu (size : Nat) : List UInt8 :=
  [0x00, 0x10, UInt8.ofNat ((size &&& 0x1FE0) >>> 5), UInt8.ofNat ((size &&& 0x1F) <<< 3)]

end Audio

def rtpSendAACFrame : Timeval → SendArgs → Mem → Nat → UInt32 → Int → SendM Int :=
  Audio.rtpSendFrame Audio.aacAu

def rtpSendPCMAFrame : Timeval → SendArgs → Mem → Nat → UInt32 → Int → SendM Int :=
  Audio.rtpSendFrame fun _ => []

namespace Audio

theorem sendHeader_meets (a : SendArgs) (len : Nat) (ret₀ : Int) (t : Tx)
    (ht : t.overTcp a ∨ t.Ready) :
    (sendHeader a len ret₀).Meets t
      (fun ret t' => (t.overTcp a → 0 < ret) ∧ t'.rtpPacket = t.rtpPacket ∧
        Made t t' (if t.overTcp a then [interleaved (UInt8.ofInt a.sig) len] else []))
      (fun t' => Stopped a t t'
        (if t.overTcp a then [interleaved (UInt8.ofInt a.sig) len] else [])) := by
  unfold sendHeader
  refine EarlyM.Meets.get_bind ?_
  split_ifs with htcp haddr
  · let t₀ : Tx := { t with tcpHeader := t.tcpHeader.map fun h => { h with magic := 0x24 } }
    have hready : t₀.Ready := by
      simp [Tx.Ready, t₀]
    have hmagic : Made t t₀ [] := Made.refl rfl (by simp [t₀]) hready
    refine EarlyM.Meets.modify_bind ((sendInterleaved_meets a len t₀ hready
      ((hmagic.overTcp a).trans htcp)).mono ?_ ?_)
    · rintro ret t₁ ⟨hret, hpacket, hmade⟩
      exact ⟨fun _ => hret, hpacket, hmagic.trans hmade⟩
    · exact fun _ h => hmagic.stop h
  · exact EarlyM.Meets.pure ⟨fun h => absurd h htcp, rfl,
      Made.refl rfl rfl (ht.resolve_left htcp)⟩
  · exact EarlyM.Meets.fail ⟨⟨[], [], by simp⟩, Or.inr ⟨by simpa using htcp, by simpa using haddr⟩⟩

/-- **What an audio packetiser sends**: one packet, the next in number, or nothing beyond a refused
call. Over TCP the result is positive. -/
theorem rtpSendFrame_meets (au : Nat → List UInt8) (tv : Timeval) (a : SendArgs) (data : Mem)
    (size : Nat) (sampleRate : UInt32) (ret₀ : Int) (t : Tx)
    (ht : t.overTcp a ∨ t.Ready) :
    (rtpSendFrame au tv a data size sampleRate ret₀).Meets t
      (fun ret t' => (t.overTcp a → 0 < ret) ∧
        { t.header with timestamp := getTimestamp tv sampleRate }.After t'.header 1 ∧
        Emits a t t' (stamp { t.header with timestamp := getTimestamp tv sampleRate }
          [(1, au size ++ data.read 0 size)]))
      (fun t' => Cut a t t' (stamp { t.header with timestamp := getTimestamp tv sampleRate }
        [(1, au size ++ data.read 0 size)])) := by
  let h : RtpHeader := { t.header with timestamp := getTimestamp tv sampleRate }
  let packet : Packet := ⟨{ h with marker := 1 }, au size ++ data.read 0 size⟩
  have hlen : RTP_HEADER_SIZE + (au size).length + size = packet.wire.length := by
    simp [packet, Nat.add_assoc]
  have hbufs : (stamp h [(1, au size ++ data.read 0 size)]).flatMap
      (Packet.bufs a (t.overTcp a)) =
      (if t.overTcp a then [interleaved (UInt8.ofInt a.sig) packet.wire.length] else []) ++
        [packet.wire] := by
    simp [stamp, Packet.bufs, packet]
  unfold rtpSendFrame Emits Cut
  rw [hbufs, hlen]
  refine EarlyM.Meets.bind ((sendHeader_meets a _ ret₀ t ht).mono (fun _ _ h => h)
    fun _ h => h.append _) ?_
  rintro sendBytes t₁ ⟨hbytes, hpacket, hheader⟩
  let t₂ : Tx := { t₁ with rtpPacket := ⟨{ h.toNetwork with marker := 1 },
    (t₁.rtpPacket.payload.write 0 (au size)).write (au size).length (data.read 0 size)⟩ }
  have hfilled : Made t t₂ _ := hheader.of_wire rfl rfl hheader.ready
  have hwire : t₂.rtpPacket.bytes ((au size).length + size) = packet.wire := by
    have hread := Mem.read_write_append t₁.rtpPacket.payload (au size) (data.read 0 size)
    rw [Mem.length_read] at hread
    simp only [t₂, RtpPacket.bytes, hread]
    rfl
  refine EarlyM.Meets.modify_bind (EarlyM.Meets.modify_bind (EarlyM.Meets.modify_bind
    (EarlyM.Meets.modify_bind (EarlyM.Meets.modify_bind ?_))))
  have hstate : { t₁ with rtpPacket := ⟨{ ({ t₁.header with
      timestamp := getTimestamp tv sampleRate } : RtpHeader).toNetwork with marker := 1 },
      t₂.rtpPacket.payload⟩ } = t₂ := by
    simp only [t₂, Tx.header, hpacket, h]
  change EarlyM.Meets _ { t₁ with rtpPacket := ⟨{ ({ t₁.header with
      timestamp := getTimestamp tv sampleRate } : RtpHeader).toNetwork with marker := 1 },
      t₂.rtpPacket.payload⟩ } _ _
  rw [hstate]
  refine EarlyM.Meets.bind ((sendPacket_meets a _ t₂ hfilled.ready).mono (fun _ _ h => h)
    fun _ hstop => ?_) ?_
  · rw [hwire] at hstop
    exact hfilled.stop hstop
  · rintro ret t₃ ⟨hret, hpacket₃, hmade⟩
    rw [hwire] at hmade
    refine EarlyM.Meets.modify_bind (EarlyM.Meets.modify_bind (EarlyM.Meets.pure
      ⟨fun htcp => ?_, ?_, (hfilled.trans hmade).of_wire rfl rfl hmade.ready⟩))
    · have := hbytes htcp
      omega
    · simp [RtpHeader.After, Tx.header, hpacket₃, t₂, h, RtpHeader.toHost, RtpHeader.toNetwork]

end Audio

end SimpleRtsp

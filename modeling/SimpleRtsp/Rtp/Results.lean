import Mathlib.Algebra.Order.BigOperators.Group.List
import SimpleRtsp.Rtp.SamePackets

/-!
# What the result of a packetiser says

`epollLoop` drops a client when its packetiser returns no positive value. The value is a sum of what
the calls returned: a call that takes a part of what it is given counts like one that takes it all,
and over UDP an audio packetiser adds what its uninitialised `ret` holds. `tellsCut_iff` is exactly
when the value is positive if and only if every byte of the frame was accepted: without a leftover,
when a call is refused or none is short; with one, when it lies where it does no harm.
-/

namespace SimpleRtsp

/-! ## What was asked and answered -/

namespace Codec

def packets (codec : Codec) (f : Frame) (h : RtpHeader) : List Packet :=
  match codec with
  | .h264 => stamp { h with timestamp := H26x.getTimestamp f.tv }
      (H26x.fragments H26x.h264 f.data f.size)
  | .h265 => stamp { h with timestamp := H26x.getTimestamp f.tv }
      (H26x.fragments H26x.h265 f.data f.size)
  | .aac => stamp { h with timestamp := Audio.getTimestamp f.tv f.sampleRate }
      [(1, Audio.aacAu f.size ++ f.data.read 0 f.size)]
  | .pcma => stamp { h with timestamp := Audio.getTimestamp f.tv f.sampleRate }
      [(1, f.data.read 0 f.size)]

/-- The buffers of a frame: its packets, over TCP with their interleaved headers. -/
def bufs (codec : Codec) (f : Frame) (a : SendArgs) (t : Tx) : List (List UInt8) :=
  (codec.packets f t.header).flatMap (Packet.bufs a (t.overTcp a))

/-- The calls whose results a packetiser adds up, by the number of bytes they are given: for video
not those with an interleaved header. -/
def adds : Codec → Nat → Bool
  | .h264, n | .h265, n => decide (RTP_HEADER_SIZE ≤ n)
  | .aac, _ | .pcma, _ => true

/-- What is there to be added to. -/
def start (codec : Codec) (ret₀ : Int) (tcp : Bool) : Int :=
  match codec with
  | .h264 | .h265 => 0
  | .aac | .pcma => if tcp then 0 else ret₀

/-- The length of the one packet of an audio frame. -/
def packetSize : Codec → Nat → Nat
  | .aac, size => RTP_HEADER_SIZE + (Audio.aacAu size).length + size
  | _, size => RTP_HEADER_SIZE + size

/-- Whether the uninitialised `ret` is added: for audio over UDP. -/
def leftover (codec : Codec) (tcp : Bool) : Bool :=
  match codec with
  | .h264 | .h265 => false
  | .aac | .pcma => !tcp

end Codec

/-- How many bytes the calls for these buffers are given, and what the sockets will answer. -/
def Tx.answers (t : Tx) (bufs : List (List UInt8)) : List (Nat × Int) :=
  bufs.zipIdx.map fun p => (p.1.length, t.wire.result (t.wire.calls.length + p.2) p.1.length)

def total (adds : Nat → Bool) (answers : List (Nat × Int)) : Int :=
  ((answers.filter fun p => adds p.1).map (·.2)).sum

/-- A positive `int` is returned; a sum that is no `int` is no value. -/
def ReturnsPositive (result : Option Int) : Prop := ∃ ret ∈ result, 0 < ret ∧ ret < 2 ^ 31

/-- From `t` to `t'` every byte of the buffers was accepted. -/
def AllAccepted (t t' : Tx) (bufs : List (List UInt8)) : Prop :=
  (t.callsTo t').map (·.buf) = bufs ∧ ∀ c ∈ t.callsTo t', c.ret = c.buf.length

/-- The result of a packetiser tells whether the stream of the client was cut. -/
def TellsCut (codec : Codec) (f : Frame) (ret₀ : Int) (a : SendArgs) (t : Tx) : Prop :=
  ReturnsPositive (codec.send f ret₀ a t).1 ↔
    AllAccepted t (codec.send f ret₀ a t).2 (codec.bufs f a t)

def AnyRefused (answers : List (Nat × Int)) : Prop := ∃ p ∈ answers, p.2 ≤ 0

def Whole (answers : List (Nat × Int)) : Prop := ∀ p ∈ answers, p.2 = p.1

/-- Some answer is another count than what was given. -/
def Short (answers : List (Nat × Int)) : Prop := ∃ p ∈ answers, p.2 ≠ p.1

/-- The answers, and the leftover in `ret` where it is added, with which the result tells. -/
inductive Telling (codec : Codec) (ret₀ : Int) (tcp : Bool) (answers : List (Nat × Int)) : Prop
  | refused : AnyRefused answers → Telling codec ret₀ tcp answers
  /-- nothing is short, and the lengths add up to an `int` -/
  | whole : codec.leftover tcp = false → Whole answers → total codec.adds answers < 2 ^ 31 →
      Telling codec ret₀ tcp answers
  /-- something is short, and what was taken adds up to no `int` all the same -/
  | overflow : codec.leftover tcp = false → Short answers → 2 ^ 31 ≤ total codec.adds answers →
      Telling codec ret₀ tcp answers
  /-- the one call takes its `n` bytes, and the leftover makes of `n` no other `int` than a positive
  one -/
  | leftoverWhole {n : Nat} : codec.leftover tcp = true → answers = [(n, (n : Int))] →
      -(n : Int) < ret₀ → ret₀ < 2 ^ 31 - n → Telling codec ret₀ tcp answers
  /-- the one call takes `r` bytes and not `n`, and the leftover makes of `r` no positive `int` -/
  | leftoverShort {n : Nat} {r : Int} : codec.leftover tcp = true → answers = [(n, r)] → r ≠ n →
      ret₀ ≤ -r ∨ 2 ^ 31 - r ≤ ret₀ → Telling codec ret₀ tcp answers

/-! ## The calls and their answers -/

/-- From `t` to `t'` these calls were made, and answered as the sockets do. -/
structure Answered (t t' : Tx) (made : List SendCall) : Prop where
  calls : t'.wire.calls = t.wire.calls ++ made
  result : t'.wire.result = t.wire.result
  ret : ∀ k c, made[k]? = some c →
    c.ret = t.wire.result (t.wire.calls.length + k) c.buf.length

variable {t t' t'' : Tx} {made made' : List SendCall} {bufs : List (List UInt8)}

theorem Answered.refl (hwire : t'.wire = t.wire) : Answered t t' [] :=
  ⟨by rw [hwire, List.append_nil], by rw [hwire], fun k c hc => by simp at hc⟩

theorem Answered.trans (h : Answered t t' made) (h' : Answered t' t'' made') :
    Answered t t'' (made ++ made') := by
  refine ⟨?_, h'.result.trans h.result, ?_⟩
  · rw [h'.calls, h.calls, List.append_assoc]
  · intro k c hc
    by_cases hk : k < made.length
    · rw [List.getElem?_append_left hk] at hc
      exact h.ret k c hc
    · rw [List.getElem?_append_right (by omega)] at hc
      have hret := h'.ret _ c hc
      rw [h.result, h.calls, List.length_append] at hret
      rw [hret]
      congr 1
      omega

theorem Answered.callsTo (h : Answered t t' made) : t.callsTo t' = made := by
  rw [Tx.callsTo, h.calls, List.drop_left]

theorem getElem?_answers (t : Tx) (bufs : List (List UInt8)) (k : Nat) :
    (t.answers bufs)[k]? = bufs[k]?.map fun buf =>
      (buf.length, t.wire.result (t.wire.calls.length + k) buf.length) := by
  rw [Tx.answers, List.getElem?_map, List.getElem?_zipIdx, Option.map_map, Nat.zero_add]
  rfl

theorem Answered.answers (h : Answered t t' made) :
    made.map (fun c => (c.buf.length, c.ret)) = t.answers (made.map (·.buf)) := by
  apply List.ext_getElem?
  intro k
  rw [getElem?_answers, List.getElem?_map, List.getElem?_map, Option.map_map]
  cases hc : made[k]? with
  | none => rfl
  | some c =>
    rw [Option.map_some, Option.map_some, h.ret k c hc]
    rfl

theorem mem_answers_of_prefix {bufs' : List (List UInt8)} (hinitial : bufs <+: bufs')
    {p : Nat × Int} (hp : p ∈ t.answers bufs) : p ∈ t.answers bufs' := by
  obtain ⟨rest, rfl⟩ := hinitial
  obtain ⟨k, hk⟩ := List.mem_iff_getElem?.mp hp
  rw [getElem?_answers] at hk
  obtain ⟨buf, hbuf, heq⟩ := Option.map_eq_some_iff.mp hk
  have hlt : k < bufs.length := (List.getElem?_eq_some_iff.mp hbuf).1
  apply List.mem_iff_getElem?.mpr
  refine ⟨k, ?_⟩
  rw [getElem?_answers, List.getElem?_append_left hlt, hbuf, ← heq]
  rfl

/-- From `t` to `t'` calls were made whose results add up to `n`. -/
def Adds (adds : Nat → Bool) (t t' : Tx) (n : Int) : Prop :=
  ∃ made, Answered t t' made ∧ total adds (made.map fun c => (c.buf.length, c.ret)) = n

variable {adds : Nat → Bool} {m n : Int}

theorem total_append (adds : Nat → Bool) (answers answers' : List (Nat × Int)) :
    total adds (answers ++ answers') = total adds answers + total adds answers' := by
  simp [total]

theorem Adds.refl (hwire : t'.wire = t.wire) : Adds adds t t' 0 := ⟨[], .refl hwire, rfl⟩

theorem Adds.trans (h : Adds adds t t' m) (h' : Adds adds t' t'' n) : Adds adds t t'' (m + n) := by
  obtain ⟨made, hmade, rfl⟩ := h
  obtain ⟨made', hmade', rfl⟩ := h'
  exact ⟨made ++ made', hmade.trans hmade', by rw [List.map_append, total_append]⟩

/-! ## What a program adds up -/

/-- A program whose result `r` is the sum `n r` of what its calls return. -/
structure Sums {α : Type} (adds : Nat → Bool) (x : SendM α) (n : α → Int) : Prop where
  meets : ∀ t : Tx, x.Meets t (fun r t' => Adds adds t t' (n r)) fun t' => ∃ n, Adds adds t t' n

theorem Adds.before {α : Type} {x : SendM α} {n : α → Int} (h : Adds adds t t' m)
    (hx : x.Meets t' (fun r t'' => Adds adds t' t'' (n r)) fun t'' => ∃ n, Adds adds t' t'' n) :
    x.Meets t' (fun r t'' => Adds adds t t'' (m + n r)) fun t'' => ∃ n, Adds adds t t'' n := by
  apply hx.mono
  · exact fun r t'' h' => h.trans h'
  · rintro t'' ⟨n, h'⟩
    exact ⟨m + n, h.trans h'⟩

namespace Sums

variable {α β : Type} {x : SendM α} {f : α → SendM β} {m : α → Int} {n : β → Int}

theorem pure {r : α} (h : m r = 0) : Sums adds (pure r : SendM α) m := by
  refine ⟨fun t => EarlyM.Meets.pure ?_⟩
  rw [h]
  exact .refl rfl

theorem modify {g : Tx → Tx} (hwire : ∀ t, (g t).wire = t.wire) :
    Sums adds (EarlyM.modify g) fun _ => 0 :=
  ⟨fun t => EarlyM.Meets.modify (.refl (hwire t))⟩

theorem bind (hx : Sums adds x m) (hf : ∀ r, Sums adds (f r) fun s => n s - m r) :
    Sums adds (x >>= f) n := by
  refine ⟨fun t => EarlyM.Meets.bind (hx.meets t) fun r t' h => ?_⟩
  apply (h.before ((hf r).meets t')).mono
  · intro s t'' h'
    rwa [add_sub_cancel] at h'
  · exact fun _ h' => h'

theorem bind_zero (hx : Sums adds x fun _ => 0) (hf : ∀ r, Sums adds (f r) n) :
    Sums adds (x >>= f) n := by
  refine hx.bind fun r => ?_
  simp only [sub_zero]
  exact hf r

theorem modifyHeader (g : RtpHeader → RtpHeader) : Sums adds (modifyHeader g) fun _ => 0 :=
  .modify fun _ => rfl

theorem modifyPayload (g : Mem → Mem) : Sums adds (modifyPayload g) fun _ => 0 :=
  .modify fun _ => rfl

theorem modifyTcpHeader (g : RtpTcpHeader → RtpTcpHeader) :
    Sums adds (modifyTcpHeader g) fun _ => 0 :=
  .modify fun _ => rfl

theorem sendOrReturn (sd : Int) (buf : List UInt8) (addr : Option (List UInt8 × Int)) :
    Sums adds (sendOrReturn sd buf addr) fun ret => if adds buf.length then ret else 0 := by
  refine ⟨fun t => ?_⟩
  let ret := t.wire.result t.wire.calls.length buf.length
  let call : SendCall := ⟨sd, buf, addr, ret⟩
  let sent : Tx := { t with wire := { t.wire with calls := t.wire.calls ++ [call] } }
  have hanswered : Answered t sent [call] := by
    refine ⟨rfl, rfl, fun k c hc => ?_⟩
    obtain ⟨hk, rfl⟩ := List.getElem?_eq_some_iff.mp hc
    obtain rfl : k = 0 := by simpa using hk
    rfl
  have hadds : Adds adds t sent (if adds buf.length then ret else 0) := by
    refine ⟨_, hanswered, ?_⟩
    cases hcounts : adds buf.length with
    | true => simp [total, call, hcounts]
    | false => simp [total, call, hcounts]
  unfold EarlyM.Meets SimpleRtsp.sendOrReturn Wire.call
  by_cases hret : t.wire.result t.wire.calls.length buf.length ≤ 0
  · simp only [hret, if_true]
    exact ⟨_, hadds⟩
  · simp only [hret, if_false]
    exact hadds

theorem get_bind {k : Tx → SendM β} (hk : ∀ t, Sums adds (k t) n) :
    Sums adds (EarlyM.get >>= k) n :=
  ⟨fun t => EarlyM.Meets.get_bind ((hk t).meets t)⟩

theorem fail : Sums adds (EarlyM.fail : SendM α) m :=
  ⟨fun _ => EarlyM.Meets.fail ⟨0, .refl rfl⟩⟩

end Sums

/-! ## The packetisers -/

variable {a : SendArgs}

theorem sendInterleaved_adds (adds : Nat → Bool) (len : Nat) (htcp : t.overTcp a) :
    (sendInterleaved a len).Meets t (fun ret t' => Adds adds t t' (if adds 4 then ret else 0))
      fun t' => ∃ n, Adds adds t t' n := by
  obtain ⟨h, hsome⟩ : ∃ h, t.tcpHeader = some h :=
    Option.isSome_iff_exists.mp (Bool.and_eq_true_iff.mp htcp).1
  let filled : RtpTcpHeader := ⟨h.magic, UInt8.ofInt a.sig, htons (UInt16.ofNat len)⟩
  let t₁ : Tx := { t with tcpHeader := some filled }
  have hfill : Adds adds t t₁ 0 := .refl rfl
  unfold sendInterleaved
  refine EarlyM.Meets.modify_bind (EarlyM.Meets.get_bind ?_)
  rw [hsome]
  show (sendOrReturn a.sd filled.bytes none).Meets t₁ _ _
  apply (hfill.before ((Sums.sendOrReturn a.sd filled.bytes none).meets t₁)).mono
  · intro ret t' h'
    rwa [zero_add, RtpTcpHeader.length_bytes] at h'
  · exact fun _ h' => h'

theorem sums_sendPacket (hpacket : ∀ n, adds (RTP_HEADER_SIZE + n) = true) (len : Nat) :
    Sums adds (sendPacket a len) fun ret => ret := by
  have hcall : ∀ (t : Tx) (addr : Option (List UInt8 × Int)),
      Sums adds (sendOrReturn a.sd (t.rtpPacket.bytes len) addr) fun ret => ret := by
    intro t addr
    have hsend : Sums adds (sendOrReturn a.sd (t.rtpPacket.bytes len) addr) _ := .sendOrReturn ..
    simpa only [RtpPacket.length_bytes, hpacket, if_true] using hsend
  unfold sendPacket
  refine .get_bind fun t => ?_
  split_ifs
  · exact hcall t _
  · exact hcall t _
  · exact .fail

section Video

variable (hheader : adds 4 = false) (hpacket : ∀ n, adds (RTP_HEADER_SIZE + n) = true)
include hheader

theorem sums_sendTcpHeader (len : Nat) : Sums adds (sendTcpHeader a len) fun _ => 0 := by
  refine ⟨fun t => ?_⟩
  unfold sendTcpHeader
  refine EarlyM.Meets.get_bind ?_
  split_ifs with htcp
  · refine EarlyM.Meets.bind (sendInterleaved_adds adds len htcp) fun ret t' h => ?_
    rw [hheader, if_neg Bool.false_ne_true] at h
    exact h.before ((Sums.modifyTcpHeader _).meets t')
  · exact (Sums.pure rfl).meets t

include hpacket

theorem sums_sendRtp (front body : List UInt8) :
    Sums adds (sendRtp a front body) fun ret => ret := by
  unfold sendRtp
  refine .bind_zero (.modifyPayload _) fun _ => ?_
  refine .bind_zero (sums_sendTcpHeader hheader _) fun _ => ?_
  refine .bind_zero (.modifyHeader _) fun _ => .bind_zero (.modifyPayload _) fun _ => ?_
  refine .bind (sums_sendPacket hpacket _) fun ret => ?_
  exact .bind_zero (.modifyHeader _) fun _ => .bind_zero (.modifyHeader _) fun _ =>
    .pure (sub_self ret)

/-- The loop over the full fragments, by induction on how many are to go. -/
theorem sums_sendFull (fmt : H26x.FuFormat) (frame : Mem) (pktNum remainPktSize : Nat) :
    ∀ (todo i pos : Nat) (sendBytes : Int),
      Sums adds (H26x.sendFull fmt a frame pktNum remainPktSize todo i pos sendBytes)
        fun r => r.2 - sendBytes := by
  intro todo
  induction todo with
  | zero =>
    intro i pos sendBytes
    exact .pure (sub_self sendBytes)
  | succ todo ih =>
    intro i pos sendBytes
    refine .bind_zero (.modifyPayload _) fun _ => .bind_zero (.modifyHeader _) fun _ => ?_
    refine .bind (sums_sendRtp hheader hpacket _ _) fun ret => ?_
    have hrest := ih (i + 1) (pos + PTK_RTP_TCP_MAX) (sendBytes + ret)
    simpa only [sub_add_eq_sub_sub] using hrest

theorem sums_video (fmt : H26x.FuFormat) (tv : Timeval) (frame : Mem) (frameSize : Nat) :
    Sums adds (H26x.rtpSendFrame fmt tv a frame frameSize) fun ret => ret := by
  unfold H26x.rtpSendFrame
  refine .bind_zero (.modifyHeader _) fun _ => .bind_zero (.modifyPayload _) fun _ => ?_
  refine .bind_zero (.modifyHeader _) fun _ => .bind_zero (.modifyTcpHeader _) fun _ => ?_
  split_ifs
  · exact .bind_zero (.modifyHeader _) fun _ => sums_sendRtp hheader hpacket _ _
  · refine .bind (sums_sendFull hheader hpacket fmt frame _ _ _ _ _ _) fun r => ?_
    dsimp only
    split_ifs
    · refine .bind_zero (.modifyPayload _) fun _ => .bind_zero (.modifyHeader _) fun _ => ?_
      refine .bind (sums_sendRtp hheader hpacket _ _) fun ret => .pure ?_
      omega
    · refine .pure ?_
      omega

end Video

theorem sendHeader_adds (len : Nat) (ret₀ : Int) :
    (Audio.sendHeader a len ret₀).Meets t
      (fun ret t' => Adds (fun _ => true) t t' (ret - if t.overTcp a then 0 else ret₀))
      fun t' => ∃ n, Adds (fun _ => true) t t' n := by
  unfold Audio.sendHeader
  refine EarlyM.Meets.get_bind ?_
  split_ifs with htcp haddr
  · let t₁ : Tx := { t with tcpHeader := t.tcpHeader.map fun h => { h with magic := 0x24 } }
    have hmagic : Adds (fun _ => true) t t₁ 0 := .refl rfl
    have htcp' : t₁.overTcp a := by simpa [Tx.overTcp, t₁] using htcp
    refine EarlyM.Meets.modify_bind ?_
    apply (hmagic.before (sendInterleaved_adds (fun _ => true) len htcp')).mono
    · intro ret t' h
      rwa [if_pos rfl, zero_add, ← sub_zero ret] at h
    · exact fun _ h => h
  · refine EarlyM.Meets.pure ?_
    rw [sub_self]
    exact .refl rfl
  · exact EarlyM.Meets.fail ⟨0, .refl rfl⟩

theorem audio_adds (au : Nat → List UInt8) (tv : Timeval) (data : Mem) (size : Nat)
    (sampleRate : UInt32) (ret₀ : Int) :
    (Audio.rtpSendFrame au tv a data size sampleRate ret₀).Meets t
      (fun ret t' => Adds (fun _ => true) t t' (ret - if t.overTcp a then 0 else ret₀))
      fun t' => ∃ n, Adds (fun _ => true) t t' n := by
  unfold Audio.rtpSendFrame
  refine EarlyM.Meets.bind (sendHeader_adds _ ret₀) fun sendBytes t' h => ?_
  have hrest : Sums (fun _ => true) (do
      modifyHeader fun h => { h with timestamp := Audio.getTimestamp tv sampleRate }
      modifyHeader RtpHeader.toNetwork
      modifyHeader fun h => { h with marker := 1 }
      modifyPayload fun p => p.write 0 (au size)
      modifyPayload fun p => p.write (au size).length (data.read 0 size)
      let ret ← sendPacket a ((au size).length + size)
      modifyHeader RtpHeader.toHost
      modifyHeader fun h => { h with seq := h.seq + 1 }
      return sendBytes + ret) fun s => s - sendBytes := by
    refine .bind_zero (.modifyHeader _) fun _ => .bind_zero (.modifyHeader _) fun _ => ?_
    refine .bind_zero (.modifyHeader _) fun _ => .bind_zero (.modifyPayload _) fun _ => ?_
    refine .bind_zero (.modifyPayload _) fun _ => ?_
    refine .bind (sums_sendPacket (fun _ => rfl) _) fun ret => ?_
    refine .bind_zero (.modifyHeader _) fun _ => .bind_zero (.modifyHeader _) fun _ => .pure ?_
    omega
  apply (h.before (hrest.meets t')).mono
  · intro s t'' h'
    rwa [sub_add_sub_cancel'] at h'
  · exact fun _ h' => h'

namespace Codec

/-- **What a packetiser returns**: the sum of what its calls return and of what was there before. -/
theorem send_adds (codec : Codec) (f : Frame) (ret₀ : Int) (a : SendArgs) (t : Tx) :
    (codec.send f ret₀ a).Meets t
      (fun ret t' => Adds codec.adds t t' (ret - codec.start ret₀ (t.overTcp a)))
      fun t' => ∃ n, Adds codec.adds t t' n := by
  have hlong : ∀ n, decide (RTP_HEADER_SIZE ≤ RTP_HEADER_SIZE + n) = true := by
    intro n
    simp
  have hvideo : ∀ fmt, (H26x.rtpSendFrame fmt f.tv a f.data f.size).Meets t
      (fun ret t' => Adds (fun n => decide (RTP_HEADER_SIZE ≤ n)) t t' (ret - 0))
      fun t' => ∃ n, Adds (fun n => decide (RTP_HEADER_SIZE ≤ n)) t t' n := by
    intro fmt
    simp only [sub_zero]
    exact (sums_video (by decide) hlong fmt f.tv f.data f.size).meets t
  cases codec with
  | h264 => exact hvideo H26x.h264
  | h265 => exact hvideo H26x.h265
  | aac => exact audio_adds Audio.aacAu f.tv f.data f.size f.sampleRate ret₀
  | pcma => exact audio_adds (fun _ => []) f.tv f.data f.size f.sampleRate ret₀

theorem send_packets (codec : Codec) (f : Frame) (ret₀ : Int) (ht : t.overTcp a ∨ t.Ready) :
    (codec.send f ret₀ a).Meets t (fun _ t' => Emits a t t' (codec.packets f t.header))
      fun t' => Cut a t t' (codec.packets f t.header) := by
  have hvideo := fun fmt => (H26x.rtpSendFrame_meets fmt f.tv a f.data f.size t).mono
    (fun _ _ h => h.2.2) fun _ h => h
  have haudio := fun au =>
    (Audio.rtpSendFrame_meets au f.tv a f.data f.size f.sampleRate ret₀ t ht).mono
      (fun _ _ h => h.2.2) fun _ h => h
  cases codec with
  | h264 => exact hvideo H26x.h264
  | h265 => exact hvideo H26x.h265
  | aac => exact haudio Audio.aacAu
  | pcma => exact haudio fun _ => []

end Codec

/-! ## Positive results and accepted bytes -/

theorem AllAccepted.iff_whole (h : Answered t t' made) (hbufs : made.map (·.buf) = bufs) :
    AllAccepted t t' bufs ↔ Whole (t.answers bufs) := by
  rw [AllAccepted, h.callsTo, ← hbufs, ← h.answers]
  constructor
  · rintro ⟨-, hwhole⟩ p hp
    obtain ⟨c, hc, rfl⟩ := List.mem_map.mp hp
    exact hwhole c hc
  · intro hwhole
    exact ⟨rfl, fun c hc => hwhole _ (List.mem_map_of_mem hc)⟩

theorem Tx.OverUdp.ready (h : t.OverUdp a) : t.Ready := by
  intro header hheader
  rw [h.1] at hheader
  exact absurd hheader (by simp)

theorem bufs_ne_nil {codec : Codec} {f : Frame} {buf : List UInt8} (hbuf : buf ∈ codec.bufs f a t) :
    0 < buf.length := by
  obtain ⟨p, -, hmem⟩ := List.mem_flatMap.mp hbuf
  unfold Packet.bufs at hmem
  rcases List.mem_append.mp hmem with hheader | hpacket
  · split_ifs at hheader with htcp
    · rw [List.mem_singleton.mp hheader, length_interleaved]
      omega
    · exact absurd hheader List.not_mem_nil
  · rw [List.mem_singleton.mp hpacket, Packet.length_wire, RTP_HEADER_SIZE]
    omega

theorem early_refused {codec : Codec} {f : Frame} {ret₀ : Int} (ht : t.overTcp a ∨ t.OverUdp a)
    (hearly : (codec.send f ret₀ a t).1 = none) : AnyRefused (t.answers (codec.bufs f a t)) ∧
      ¬ AllAccepted t (codec.send f ret₀ a t).2 (codec.bufs f a t) := by
  have hready : t.overTcp a ∨ t.Ready := ht.imp id Tx.OverUdp.ready
  have hroute : t.Routed a := ht.imp id fun hudp => hudp.2
  obtain ⟨n, made, hmade, -⟩ := (codec.send_adds f ret₀ a t).early hearly
  have hcut : Cut a t _ (codec.packets f t.header) :=
    (codec.send_packets f ret₀ hready).early hearly
  obtain ⟨sent, refused, hcalls, hinitial, -⟩ := hcut.made
  obtain ⟨c, hc, hret⟩ := (codec.routes_send f ret₀ a).refused hroute hearly
  obtain rfl : made = sent ++ refused := List.append_cancel_left (hmade.calls.symm.trans hcalls)
  rw [hmade.callsTo] at hc
  constructor
  · have hanswer : (c.buf.length, c.ret) ∈ t.answers ((sent ++ refused).map (·.buf)) := by
      rw [← hmade.answers]
      exact List.mem_map_of_mem hc
    exact ⟨_, mem_answers_of_prefix hinitial hanswer, hret⟩
  · rintro ⟨-, hwhole⟩
    have hlong := bufs_ne_nil (hinitial.subset (List.mem_map_of_mem hc))
    have hall := hwhole c (by rwa [hmade.callsTo])
    omega

theorem ends_accepted {codec : Codec} {f : Frame} {ret₀ ret : Int}
    (ht : t.overTcp a ∨ t.OverUdp a) (hend : (codec.send f ret₀ a t).1 = some ret) :
    ¬ AnyRefused (t.answers (codec.bufs f a t)) ∧
      ret = codec.start ret₀ (t.overTcp a) + total codec.adds (t.answers (codec.bufs f a t)) ∧
      (AllAccepted t (codec.send f ret₀ a t).2 (codec.bufs f a t) ↔
        Whole (t.answers (codec.bufs f a t))) := by
  have hready : t.overTcp a ∨ t.Ready := ht.imp id Tx.OverUdp.ready
  obtain ⟨made, hmade, hsum⟩ := (codec.send_adds f ret₀ a t).result hend
  obtain ⟨made', hcalls, hbufs, hpos⟩ := ((codec.send_packets f ret₀ hready).result hend).made
  obtain rfl : made = made' := List.append_cancel_left (hmade.calls.symm.trans hcalls)
  have hanswers := hmade.answers
  rw [hbufs] at hanswers
  refine ⟨?_, ?_, AllAccepted.iff_whole hmade hbufs⟩
  · rintro ⟨p, hp, hrefused⟩
    unfold Codec.bufs at hp
    rw [← hanswers] at hp
    obtain ⟨c, hc, rfl⟩ := List.mem_map.mp hp
    exact absurd (hpos c hc) (by omega)
  · unfold Codec.bufs
    rw [← hanswers]
    omega

theorem not_whole {answers : List (Nat × Int)} : ¬ Whole answers ↔ Short answers := by
  simp only [Whole, Short, not_forall, exists_prop]

theorem packets_ne_nil (codec : Codec) (f : Frame) (h : RtpHeader) : codec.packets f h ≠ [] := by
  have hstamp : ∀ (h : RtpHeader) {parts : List (BitVec 1 × List UInt8)}, parts ≠ [] →
      stamp h parts ≠ [] := by
    intro h parts hparts
    obtain ⟨part, rest, rfl⟩ := List.exists_cons_of_ne_nil hparts
    exact List.cons_ne_nil _ _
  have hvideo : ∀ fmt, H26x.fragments fmt f.data f.size ≠ [] := by
    intro fmt
    unfold H26x.fragments
    split_ifs with hone
    · exact List.cons_ne_nil _ _
    all_goals
      have hpos : 0 < f.size / PTK_RTP_TCP_MAX :=
        Nat.div_pos (Nat.le_of_lt (not_le.mp hone)) (by decide)
      intro hnil
      have hlength := congrArg List.length hnil
      simp only [List.length_append, H26x.length_fullFragments, List.length_nil] at hlength
      omega
  cases codec with
  | h264 => exact hstamp _ (hvideo _)
  | h265 => exact hstamp _ (hvideo _)
  | aac => exact List.cons_ne_nil _ _
  | pcma => exact List.cons_ne_nil _ _

theorem adds_packet (codec : Codec) (n : Nat) : codec.adds (RTP_HEADER_SIZE + n) = true := by
  cases codec <;> simp [Codec.adds]

theorem total_pos {codec : Codec} {f : Frame} {a : SendArgs} {t : Tx}
    (h : ¬ AnyRefused (t.answers (codec.bufs f a t))) :
    0 < total codec.adds (t.answers (codec.bufs f a t)) := by
  obtain ⟨p, rest, hpackets⟩ := List.exists_cons_of_ne_nil (packets_ne_nil codec f t.header)
  have hbuf : p.wire ∈ codec.bufs f a t := by
    rw [Codec.bufs, hpackets]
    exact List.mem_flatMap.mpr ⟨p, List.mem_cons_self, List.mem_append_right _ List.mem_cons_self⟩
  obtain ⟨k, hk⟩ := List.mem_iff_getElem?.mp hbuf
  have hanswer : (t.answers (codec.bufs f a t))[k]? = _ := getElem?_answers t _ k
  rw [hk, Option.map_some, Packet.length_wire] at hanswer
  have hmem := List.mem_of_getElem? hanswer
  have hpos : ∀ r ∈ ((t.answers (codec.bufs f a t)).filter fun p => codec.adds p.1).map (·.2),
      0 < r := by
    intro r hr
    obtain ⟨q, hq, rfl⟩ := List.mem_map.mp hr
    by_contra hle
    exact h ⟨q, List.mem_of_mem_filter hq, not_lt.mp hle⟩
  have hcounts := (@List.mem_filter _ (fun q => codec.adds q.1) _ _).mpr
    ⟨hmem, adds_packet codec p.payload.length⟩
  exact List.sum_pos _ hpos (List.ne_nil_of_mem (List.mem_map_of_mem hcounts))

theorem answers_leftover {codec : Codec} {f : Frame} {a : SendArgs} {t : Tx}
    (h : codec.leftover (t.overTcp a) = true) :
    ∃ r, r = t.wire.result t.wire.calls.length (codec.packetSize f.size) ∧
      t.answers (codec.bufs f a t) = [(codec.packetSize f.size, r)] ∧
      total codec.adds (t.answers (codec.bufs f a t)) = r := by
  have hone : ∃ buf, codec.bufs f a t = [buf] ∧ buf.length = codec.packetSize f.size ∧
      ∀ n, codec.adds n = true := by
    cases codec with
    | h264 => cases h
    | h265 => cases h
    | aac =>
      have hudp : t.overTcp a = false := (Bool.not_eq_true' _).mp h
      refine ⟨_, by rw [Codec.bufs, hudp]; rfl, ?_, fun _ => rfl⟩
      rw [Packet.length_wire, List.length_append, Mem.length_read]
      exact (Nat.add_assoc _ _ _).symm
    | pcma =>
      have hudp : t.overTcp a = false := (Bool.not_eq_true' _).mp h
      refine ⟨_, by rw [Codec.bufs, hudp]; rfl, ?_, fun _ => rfl⟩
      rw [Packet.length_wire, Mem.length_read]
      rfl
  obtain ⟨buf, hbuf, hlength, hadds⟩ := hone
  rw [hbuf, ← hlength]
  refine ⟨_, rfl, rfl, ?_⟩
  simp [total, Tx.answers, hadds]

theorem start_eq (codec : Codec) (ret₀ : Int) (tcp : Bool) :
    codec.start ret₀ tcp = if codec.leftover tcp then ret₀ else 0 := by
  cases codec <;> cases tcp <;> rfl

theorem telling_iff {codec : Codec} {ret₀ : Int} {f : Frame} {a : SendArgs} {t : Tx}
    (hpos : ¬ AnyRefused (t.answers (codec.bufs f a t))) :
    Telling codec ret₀ (t.overTcp a) (t.answers (codec.bufs f a t)) ↔
      (Whole (t.answers (codec.bufs f a t)) ↔
        0 < codec.start ret₀ (t.overTcp a) + total codec.adds (t.answers (codec.bufs f a t)) ∧
        codec.start ret₀ (t.overTcp a) + total codec.adds (t.answers (codec.bufs f a t)) <
          2 ^ 31) := by
  rw [start_eq]
  cases hleft : codec.leftover (t.overTcp a) with
  | false =>
    have hsum := total_pos hpos
    rw [if_neg Bool.false_ne_true, zero_add, and_iff_right hsum]
    constructor
    · intro h
      cases h with
      | refused h => exact absurd h hpos
      | whole _ hwhole hfits => exact iff_of_true hwhole hfits
      | overflow _ hshort hlarge =>
        exact iff_of_false (not_whole.mpr hshort) (not_lt.mpr hlarge)
      | leftoverWhole h => cases hleft.symm.trans h
      | leftoverShort h => cases hleft.symm.trans h
    · intro h
      by_cases hwhole : Whole (t.answers (codec.bufs f a t))
      · exact .whole hleft hwhole (h.mp hwhole)
      · exact .overflow hleft (not_whole.mp hwhole) (not_lt.mp (mt h.mpr hwhole))
  | true =>
    obtain ⟨r, -, hanswers, hsum⟩ := answers_leftover (f := f) hleft
    rw [if_pos rfl, hsum, hanswers]
    generalize codec.packetSize f.size = n at hanswers ⊢
    have hwhole : Whole [(n, r)] ↔ r = n := by simp [Whole]
    rw [hwhole]
    constructor
    · intro h
      cases h with
      | refused h => exact absurd h (hanswers ▸ hpos)
      | whole h => cases hleft.symm.trans h
      | overflow h => cases hleft.symm.trans h
      | leftoverWhole _ hone hlow hhigh =>
        cases hone
        exact iff_of_true rfl ⟨by omega, by omega⟩
      | leftoverShort _ hone hne hout =>
        cases hone
        exact iff_of_false hne (by omega)
    · intro h
      by_cases hr : r = n
      · obtain ⟨hlow, hhigh⟩ := h.mp hr
        exact .leftoverWhole hleft (by rw [hr]) (by omega) (by omega)
      · have hout := mt h.mpr hr
        exact .leftoverShort hleft rfl hr (by omega)

/-- **When the result tells.** Without a leftover in `ret`, exactly if a call is refused or none is
short, as long as the sum is an `int`; for audio over UDP exactly if the one call is refused, or the
leftover lies where the sum has the sign that it should have. -/
theorem tellsCut_iff (codec : Codec) (f : Frame) (ret₀ : Int) (a : SendArgs) (t : Tx)
    (ht : t.overTcp a ∨ t.OverUdp a) :
    TellsCut codec f ret₀ a t ↔
      Telling codec ret₀ (t.overTcp a) (t.answers (codec.bufs f a t)) := by
  unfold TellsCut
  cases hresult : (codec.send f ret₀ a t).1 with
  | none =>
    obtain ⟨hrefused, hcut⟩ := early_refused ht hresult
    have hnone : ¬ ReturnsPositive none := by
      rintro ⟨ret, hret, -⟩
      exact absurd hret (by simp)
    exact iff_of_true (iff_of_false hnone hcut) (.refused hrefused)
  | some ret =>
    obtain ⟨hpos, hsum, hwhole⟩ := ends_accepted ht hresult
    have hpositive : ReturnsPositive (some ret) ↔ 0 < ret ∧ ret < 2 ^ 31 := by
      simp [ReturnsPositive]
    rw [telling_iff hpos, hwhole, hpositive, hsum]
    exact Iff.comm

def idrFrame : Frame := ⟨⟨0, 0⟩, fun _ => 0x65, 10, 0⟩

/-- Where the sockets take everything, the result tells. -/
theorem tellsCut_openTx : TellsCut .h264 idrFrame 0 tcpClient openTx := by
  refine (tellsCut_iff .h264 idrFrame 0 tcpClient openTx (Or.inl rfl)).mpr ?_
  refine .whole rfl ?_ (by decide +kernel)
  intro p hp
  obtain ⟨k, hk⟩ := List.mem_iff_getElem?.mp hp
  rw [getElem?_answers] at hk
  obtain ⟨buf, -, rfl⟩ := Option.map_eq_some_iff.mp hk
  rfl

/-- The socket takes the interleaved headers, and one byte of a packet. -/
def shortTx : Tx := { openTx with wire := ⟨fun _ n => if n = 4 then 4 else 1, []⟩ }

/-- With 21 bytes of the packet missing, 1 is returned. -/
theorem not_tellsCut_shortTx : ¬ ∀ (codec : Codec) (f : Frame) (ret₀ : Int) (a : SendArgs) (t : Tx),
    t.overTcp a ∨ t.OverUdp a → TellsCut codec f ret₀ a t := by
  intro h
  have hend : (Codec.h264.send idrFrame 0 tcpClient shortTx).1 = some 1 := rfl
  obtain ⟨-, -, hwhole⟩ := ends_accepted (Or.inl rfl) hend
  have htells := h .h264 idrFrame 0 tcpClient shortTx (Or.inl rfl)
  unfold TellsCut at htells
  rw [hend, hwhole] at htells
  have hanswer : (22, 1) ∈ shortTx.answers (Codec.h264.bufs idrFrame tcpClient shortTx) := by
    decide +kernel
  have hall := htells.mp ⟨1, rfl, by decide, by decide⟩ _ hanswer
  exact absurd hall (by decide)

end SimpleRtsp

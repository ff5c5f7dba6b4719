import SimpleRtsp.Rtp.Depacketize
import SimpleRtsp.Rtp.Transport

/-!
# The packets do not depend on the transport

A packetiser asks at every send whether it is over TCP or over UDP. The packets do not: what a run
to its end does to the header (`Turns`, `Alike`) and the packets it sends (`Sends`) are functions of
the header before it, whatever the arguments are and the sockets answer. This holds of every
packetiser, and of a sequence of frames from one packet buffer, so the two transports see the same
packets (`same_packets`).
-/

namespace SimpleRtsp

inductive Codec where
  | h264
  | h265
  | aac
  | pcma

/-- A frame and what else its packetiser reads: the clock and the sample rate. -/
structure Frame where
  tv : Timeval
  data : Mem
  size : Nat
  sampleRate : UInt32

/-- The packetiser of a codec; `ret₀` is what its uninitialised `ret` holds. -/
def Codec.send (codec : Codec) (f : Frame) (ret₀ : Int) (a : SendArgs) : SendM Int :=
  match codec with
  | .h264 => rtpSendH264Frame f.tv a f.data f.size
  | .h265 => rtpSendH265Frame f.tv a f.data f.size
  | .aac => rtpSendAACFrame f.tv a f.data f.size f.sampleRate ret₀
  | .pcma => rtpSendPCMAFrame f.tv a f.data f.size f.sampleRate ret₀

/-- Frames from one packet buffer, one after the other. -/
def Codec.sendAll (codec : Codec) (a : SendArgs) : List Frame → (Nat → Int) → SendM Unit
  | [], _ => pure ()
  | f :: rest, ret₀ => do
    let _ ← codec.send f (ret₀ 0) a
    codec.sendAll a rest fun k => ret₀ (k + 1)

/-! ## What a program does to the header -/

/-- A run to its end changes the header by `g`. -/
def Turns {α : Type} (g : RtpHeader → RtpHeader) (x : SendM α) : Prop :=
  ∀ t : Tx, x.Meets t (fun _ t' => t'.header = g t.header) fun _ => True

namespace Turns

variable {α β : Type} {f g : RtpHeader → RtpHeader} {x : SendM α} {k : α → SendM β}

theorem pure (r : α) : Turns id (pure r : SendM α) := by
  intro t
  exact EarlyM.Meets.pure rfl

theorem fail : Turns g (EarlyM.fail : SendM α) := by
  intro t
  exact EarlyM.Meets.fail trivial

theorem bind (hx : Turns g x) (hk : ∀ r, Turns f (k r)) : Turns (f ∘ g) (x >>= k) := by
  intro t
  refine EarlyM.Meets.bind (hx t) fun r t' hheader => ?_
  refine (hk r t').mono (fun _ t'' hheader' => ?_) fun _ h => h
  rw [hheader', hheader, Function.comp_apply]

theorem bind_id (hx : Turns id x) (hk : ∀ r, Turns g (k r)) : Turns g (x >>= k) := hx.bind hk

theorem get_bind {k : Tx → SendM β} (hk : ∀ t, Turns g (k t)) : Turns g (EarlyM.get >>= k) := by
  intro t
  exact EarlyM.Meets.get_bind (hk t t)

theorem modifyHeader (g : RtpHeader → RtpHeader) : Turns g (modifyHeader g) := by
  intro t
  exact EarlyM.Meets.modify rfl

theorem modifyPayload (f : Mem → Mem) : Turns id (modifyPayload f) := by
  intro t
  exact EarlyM.Meets.modify rfl

theorem modifyTcpHeader (f : RtpTcpHeader → RtpTcpHeader) : Turns id (modifyTcpHeader f) := by
  intro t
  exact EarlyM.Meets.modify rfl

theorem sendOrReturn (sd : Int) (buf : List UInt8) (addr : Option (List UInt8 × Int)) :
    Turns id (sendOrReturn sd buf addr) := by
  intro t
  unfold EarlyM.Meets SimpleRtsp.sendOrReturn
  dsimp only
  split
  · rename_i hret
    rw [← (Prod.mk.inj hret).2]
    rfl
  · trivial

theorem sendInterleaved (a : SendArgs) (len : Nat) : Turns id (sendInterleaved a len) := by
  unfold SimpleRtsp.sendInterleaved
  refine .bind_id (.modifyTcpHeader _) fun _ => .get_bind fun t => ?_
  apply sendOrReturn

theorem sendTcpHeader (a : SendArgs) (len : Nat) : Turns id (sendTcpHeader a len) := by
  unfold SimpleRtsp.sendTcpHeader
  refine .get_bind fun t => ?_
  split_ifs
  · exact .bind_id (sendInterleaved a len) fun _ => .modifyTcpHeader _
  · exact .pure ()

theorem sendPacket (a : SendArgs) (n : Nat) : Turns id (sendPacket a n) := by
  unfold SimpleRtsp.sendPacket
  refine .get_bind fun t => ?_
  split_ifs
  · apply sendOrReturn
  · apply sendOrReturn
  · exact .fail

theorem sendRtp (a : SendArgs) (front body : List UInt8) :
    Turns (fun h => { h with seq := h.seq + 1 }) (sendRtp a front body) := by
  have hblock : Turns ((fun h => { h with seq := h.seq + 1 }) ∘ RtpHeader.toHost ∘
      RtpHeader.toNetwork) (SimpleRtsp.sendRtp a front body) := by
    unfold SimpleRtsp.sendRtp
    refine .bind_id (.modifyPayload _) fun _ => .bind_id (sendTcpHeader a _) fun _ => ?_
    refine .bind (f := (fun h => { h with seq := h.seq + 1 }) ∘ RtpHeader.toHost)
      (.modifyHeader _) fun _ => .bind_id (.modifyPayload _) fun _ => ?_
    refine .bind_id (sendPacket a _) fun ret => .bind (.modifyHeader _) fun _ => ?_
    exact .bind (f := id) (.modifyHeader _) fun _ => .pure ret
  intro t
  refine (hblock t).mono (fun _ t' hheader => ?_) fun _ h => h
  rw [hheader]
  simp

theorem sendHeader (a : SendArgs) (len : Nat) (ret₀ : Int) :
    Turns id (Audio.sendHeader a len ret₀) := by
  unfold Audio.sendHeader
  refine .get_bind fun t => ?_
  split_ifs
  · exact .bind_id (.modifyTcpHeader _) fun _ => sendInterleaved a len
  · exact .pure ret₀
  · exact .fail

end Turns

/-- The programs of a family do the same to the header. -/
def Alike {ι α : Type} (x : ι → SendM α) : Prop := ∃ g, ∀ i, Turns g (x i)

namespace Alike

variable {ι α β : Type} {g : RtpHeader → RtpHeader} {x : ι → SendM α} {k : ι → α → SendM β}

theorem of (hx : ∀ i, Turns g (x i)) : Alike x := ⟨g, hx⟩

theorem comp {κ : Type} (hx : Alike x) (f : κ → ι) : Alike fun k => x (f k) := by
  obtain ⟨g, hg⟩ := hx
  exact ⟨g, fun k => hg (f k)⟩

theorem bind (hx : Alike x) (hk : Alike fun p : ι × α => k p.1 p.2) :
    Alike fun i => x i >>= k i := by
  obtain ⟨g, hg⟩ := hx
  obtain ⟨g', hg'⟩ := hk
  exact ⟨g' ∘ g, fun i => (hg i).bind fun r => hg' (i, r)⟩

theorem before {x : ι → SendM Unit} {k : ι → Unit → SendM β} (hx : Alike x)
    (hk : Alike fun i => k i ()) : Alike fun i => x i >>= k i :=
  hx.bind (hk.comp Prod.fst)

/-- The loop over the full fragments, by induction on how many are to go. -/
theorem sendFull (fmt : H26x.FuFormat) (frame : Mem) (pktNum remainPktSize todo : Nat) :
    ∀ i : Nat, Alike fun p : SendArgs × Nat × Int =>
      H26x.sendFull fmt p.1 frame pktNum remainPktSize todo i p.2.1 p.2.2 := by
  induction todo with
  | zero =>
    intro i
    exact .of fun p => .pure _
  | succ todo ih =>
    intro i
    unfold H26x.sendFull
    refine .before (.of fun p => .modifyPayload _) (.before (.of fun p => .modifyHeader _) ?_)
    refine .bind (.of fun p => .sendRtp _ _ _) ?_
    exact (ih (i + 1)).comp fun p : (SendArgs × Nat × Int) × Int =>
      (p.1.1, p.1.2.1 + PTK_RTP_TCP_MAX, p.1.2.2 + p.2)

theorem video (fmt : H26x.FuFormat) (tv : Timeval) (frame : Mem) (frameSize : Nat) :
    Alike fun a => H26x.rtpSendFrame fmt tv a frame frameSize := by
  unfold H26x.rtpSendFrame
  refine .before (.of fun p => .modifyHeader _) (.before (.of fun p => .modifyPayload _) ?_)
  refine .before (.of fun p => .modifyHeader _) (.before (.of fun p => .modifyTcpHeader _) ?_)
  split_ifs
  · exact .before (.of fun p => .modifyHeader _) (.of fun p => .sendRtp _ _ _)
  · have hfull := sendFull fmt frame (frameSize / PTK_RTP_TCP_MAX) (frameSize % PTK_RTP_TCP_MAX)
      (frameSize / PTK_RTP_TCP_MAX) 0
    refine .bind (hfull.comp fun a => (a, fmt.pos, 0)) ?_
    dsimp only
    split_ifs
    · refine .before (.of fun p => .modifyPayload _) (.before (.of fun p => .modifyHeader _) ?_)
      exact .bind (.of fun p => .sendRtp _ _ _) (.of fun p => .pure _)
    · exact .of fun p => .pure _

theorem audio (au : Nat → List UInt8) (tv : Timeval) (data : Mem) (size : Nat)
    (sampleRate : UInt32) : Alike fun p : SendArgs × Int =>
      Audio.rtpSendFrame au tv p.1 data size sampleRate p.2 := by
  unfold Audio.rtpSendFrame
  refine .bind (.of fun p => .sendHeader _ _ _) (.before (.of fun p => .modifyHeader _) ?_)
  refine .before (.of fun p => .modifyHeader _) (.before (.of fun p => .modifyHeader _) ?_)
  refine .before (.of fun p => .modifyPayload _) (.before (.of fun p => .modifyPayload _) ?_)
  refine .bind (.of fun p => .sendPacket _ _) (.before (.of fun p => .modifyHeader _) ?_)
  exact .before (.of fun p => .modifyHeader _) (.of fun p => .pure _)

theorem send (codec : Codec) (f : Frame) :
    Alike fun p : Int × SendArgs => codec.send f p.1 p.2 := by
  cases codec with
  | h264 => exact (video H26x.h264 f.tv f.data f.size).comp Prod.snd
  | h265 => exact (video H26x.h265 f.tv f.data f.size).comp Prod.snd
  | aac => exact (audio Audio.aacAu f.tv f.data f.size f.sampleRate).comp Prod.swap
  | pcma => exact (audio (fun _ => []) f.tv f.data f.size f.sampleRate).comp Prod.swap

theorem sendAll (codec : Codec) (frames : List Frame) :
    Alike fun p : SendArgs × (Nat → Int) => codec.sendAll p.1 frames p.2 := by
  induction frames with
  | nil => exact .of fun p => .pure ()
  | cons f rest ih =>
    refine .bind ((send codec f).comp fun p : SendArgs × (Nat → Int) => (p.2 0, p.1)) ?_
    exact ih.comp fun p : (SendArgs × (Nat → Int)) × Int => (p.1.1, fun k => p.1.2 (k + 1))

end Alike

/-! ## The packets of a frame -/

/-- From `t` to `t'` the sockets were given the packets, and what comes next can be sent. -/
structure Given (a : SendArgs) (t t' : Tx) (ps : List Packet) : Prop where
  bufs : t'.wire.calls.map (·.buf) =
    t.wire.calls.map (·.buf) ++ ps.flatMap (Packet.bufs a (t.overTcp a))
  tcp : t'.overTcp a = t.overTcp a
  ready : t'.overTcp a ∨ t'.Ready

theorem Given.of_emits {a : SendArgs} {t t' : Tx} {ps : List Packet} (h : Emits a t t' ps) :
    Given a t t' ps := by
  obtain ⟨made, hcalls, hbufs, -⟩ := h.made
  refine ⟨?_, h.overTcp a, Or.inr h.ready⟩
  rw [hcalls, List.map_append, hbufs]

theorem Given.trans {a : SendArgs} {t t' t'' : Tx} {ps qs : List Packet} (h : Given a t t' ps)
    (h' : Given a t' t'' qs) : Given a t t'' (ps ++ qs) := by
  refine ⟨?_, h'.tcp.trans h.tcp, h'.ready⟩
  rw [h'.bufs, h.bufs, h.tcp, List.append_assoc, List.flatMap_append]

/-- A run to its end sends the packets that `ps` has for the header. -/
def Sends {α : Type} (ps : RtpHeader → List Packet) (a : SendArgs) (x : SendM α) : Prop :=
  ∀ t : Tx, t.overTcp a ∨ t.Ready → x.Meets t (fun _ t' => Given a t t' (ps t.header)) fun _ => True

theorem sends_video (fmt : H26x.FuFormat) (f : Frame) : ∃ ps, ∀ a,
    Sends ps a (H26x.rtpSendFrame fmt f.tv a f.data f.size) := by
  refine ⟨fun h => stamp { h with timestamp := H26x.getTimestamp f.tv }
    (H26x.fragments fmt f.data f.size), fun a t _ => ?_⟩
  refine (H26x.rtpSendFrame_meets fmt f.tv a f.data f.size t).mono (fun _ t' h => ?_)
    fun _ _ => trivial
  exact .of_emits h.2.2

theorem sends_audio (au : Nat → List UInt8) (f : Frame) : ∃ ps, ∀ a ret₀,
    Sends ps a (Audio.rtpSendFrame au f.tv a f.data f.size f.sampleRate ret₀) := by
  refine ⟨fun h => stamp { h with timestamp := Audio.getTimestamp f.tv f.sampleRate }
    [(1, au f.size ++ f.data.read 0 f.size)], fun a ret₀ t ht => ?_⟩
  refine (Audio.rtpSendFrame_meets au f.tv a f.data f.size f.sampleRate ret₀ t ht).mono
    (fun _ t' h => ?_) fun _ _ => trivial
  exact .of_emits h.2.2

namespace Codec

theorem sends (codec : Codec) (f : Frame) : ∃ ps, ∀ a ret₀, Sends ps a (codec.send f ret₀ a) := by
  cases codec with
  | h264 =>
    obtain ⟨ps, hps⟩ := sends_video H26x.h264 f
    exact ⟨ps, fun a _ => hps a⟩
  | h265 =>
    obtain ⟨ps, hps⟩ := sends_video H26x.h265 f
    exact ⟨ps, fun a _ => hps a⟩
  | aac => exact sends_audio Audio.aacAu f
  | pcma => exact sends_audio (fun _ => []) f

/-- By induction on the frames: each starts from the header that the one before it left. -/
theorem sendAll_sends (codec : Codec) (frames : List Frame) :
    ∃ ps, ∀ a ret₀, Sends ps a (codec.sendAll a frames ret₀) := by
  induction frames with
  | nil => exact ⟨fun _ => [], fun a ret₀ t ht => EarlyM.Meets.pure ⟨by simp, rfl, ht⟩⟩
  | cons f rest ih =>
    obtain ⟨first, hfirst⟩ := codec.sends f
    obtain ⟨g, hg⟩ := Alike.send codec f
    obtain ⟨ps, hps⟩ := ih
    refine ⟨fun h => first h ++ ps (g h), fun a ret₀ t ht => ?_⟩
    refine EarlyM.Meets.bind (((hfirst a (ret₀ 0) t ht).and (hg (ret₀ 0, a) t)).mono
      (fun _ _ h => h) fun _ _ => trivial) ?_
    rintro ret t' ⟨hgiven, hheader⟩
    refine (hps a _ t' hgiven.ready).mono (fun _ t'' hrest => ?_) fun _ h => h
    rw [hheader] at hrest
    exact hgiven.trans hrest

theorem routes_send (codec : Codec) (f : Frame) (ret₀ : Int) (a : SendArgs) :
    Routes a (codec.send f ret₀ a) := by
  cases codec with
  | h264 => exact routes_video H26x.h264 f.tv f.data f.size
  | h265 => exact routes_video H26x.h265 f.tv f.data f.size
  | aac => exact routes_audio Audio.aacAu f.tv f.data f.size f.sampleRate ret₀
  | pcma => exact routes_audio (fun _ => []) f.tv f.data f.size f.sampleRate ret₀

theorem routes_sendAll (codec : Codec) (a : SendArgs) (frames : List Frame) (ret₀ : Nat → Int) :
    Routes a (codec.sendAll a frames ret₀) := by
  induction frames generalizing ret₀ with
  | nil => exact .pure ()
  | cons f rest ih => exact .bind (codec.routes_send f _ a) fun _ => ih _

end Codec

/-! ## The two transports -/

/-- The RTP packets of the `send` calls: all but the interleaved headers. -/
def rtpSends (calls : List SendCall) : List (List UInt8) :=
  ((calls.filter (·.addr.isNone)).map (·.buf)).filter (·.length ≠ 4)

def datagrams (calls : List SendCall) : List (List UInt8) :=
  (calls.filter (·.addr.isSome)).map (·.buf)

/-- The packetiser is called for UDP: without an interleaved header, and with an address. -/
def Tx.OverUdp (a : SendArgs) (t : Tx) : Prop := t.tcpHeader = none ∧ a.hasAddr

/-- From `t` to `t'` every call succeeded. -/
def AllSent (t t' : Tx) : Prop := ∀ c ∈ t.callsTo t', 0 < c.ret

instance (t t' : Tx) : Decidable (AllSent t t') :=
  inferInstanceAs (Decidable (∀ c ∈ t.callsTo t', 0 < c.ret))

theorem Tx.OverUdp.not_tcp {a : SendArgs} {t : Tx} (h : t.OverUdp a) : t.overTcp a = false := by
  simp [Tx.overTcp, h.1]

theorem Routes.ends {α : Type} {a : SendArgs} {x : SendM α} {t : Tx} (hx : Routes a x)
    (ht : t.Routed a) (hsent : AllSent t (x t).2) : ∃ r, (x t).1 = some r := by
  rw [← Option.ne_none_iff_exists']
  intro hnone
  obtain ⟨c, hc, hret⟩ := hx.refused ht hnone
  have hpos := hsent c hc
  omega

theorem Given.calls {a : SendArgs} {t t' : Tx} {ps : List Packet} (h : Given a t t' ps)
    (hfollowed : Followed a t t') :
    (t.callsTo t').map (·.buf) = ps.flatMap (Packet.bufs a (t.overTcp a)) ∧
      ∀ c ∈ t.callsTo t', c.addr = a.addr (t.overTcp a) := by
  obtain ⟨made, hcalls, hmade⟩ := hfollowed.calls
  have hbufs := h.bufs
  rw [hcalls, List.map_append] at hbufs
  rw [Tx.callsTo, hcalls, List.drop_left]
  exact ⟨List.append_cancel_left hbufs, fun c hc => (hmade c hc).addr⟩

theorem filter_interleaved (a : SendArgs) (ps : List Packet) :
    (ps.flatMap (Packet.bufs a true)).filter (·.length ≠ 4) = ps.map Packet.wire := by
  induction ps with
  | nil => rfl
  | cons p rest ih =>
    rw [List.flatMap_cons, List.filter_append, ih]
    have hheader : [interleaved (UInt8.ofInt a.sig) p.wire.length].filter (·.length ≠ 4) = [] := rfl
    have hpacket : [p.wire].filter (·.length ≠ 4) = [p.wire] := by
      rw [List.filter_eq_self]
      intro buf hbuf
      rw [List.mem_singleton.mp hbuf, Packet.length_wire, RTP_HEADER_SIZE]
      exact decide_eq_true (by omega)
    rw [Packet.bufs, if_pos rfl, List.filter_append, hheader, hpacket]
    rfl

theorem Given.rtpSends {a : SendArgs} {t t' : Tx} {ps : List Packet} (h : Given a t t' ps)
    (hfollowed : Followed a t t') (htcp : t.overTcp a) :
    rtpSends (t.callsTo t') = ps.map Packet.wire := by
  obtain ⟨hbufs, haddr⟩ := h.calls hfollowed
  have hall : (t.callsTo t').filter (·.addr.isNone) = t.callsTo t' := by
    rw [List.filter_eq_self]
    intro c hc
    simp [haddr c hc, SendArgs.addr, htcp]
  rw [SimpleRtsp.rtpSends, hall, hbufs, htcp, filter_interleaved]

theorem Given.datagrams {a : SendArgs} {t t' : Tx} {ps : List Packet} (h : Given a t t' ps)
    (hfollowed : Followed a t t') (hudp : t.OverUdp a) :
    datagrams (t.callsTo t') = ps.map Packet.wire := by
  obtain ⟨hbufs, haddr⟩ := h.calls hfollowed
  rw [hudp.not_tcp] at hbufs haddr
  have hall : (t.callsTo t').filter (·.addr.isSome) = t.callsTo t' := by
    rw [List.filter_eq_self]
    intro c hc
    simp [haddr c hc, SendArgs.addr]
  rw [SimpleRtsp.datagrams, hall, hbufs]
  exact (List.map_eq_flatMap ..).symm

/-- **TCP and UDP carry the same packets.** If every call succeeds, the packets that a sequence of
frames is sent in over TCP are the datagrams it is sent in over UDP, byte for byte, and the header
is the same afterwards. -/
theorem same_packets (codec : Codec) (frames : List Frame) (ret₀ ret₀' : Nat → Int)
    {a a' : SendArgs} {t u : Tx} (htcp : t.overTcp a) (hudp : u.OverUdp a')
    (hheader : t.header = u.header) (ht : AllSent t (codec.sendAll a frames ret₀ t).2)
    (hu : AllSent u (codec.sendAll a' frames ret₀' u).2) :
    rtpSends (t.callsTo (codec.sendAll a frames ret₀ t).2) =
        datagrams (u.callsTo (codec.sendAll a' frames ret₀' u).2) ∧
      (codec.sendAll a frames ret₀ t).2.header = (codec.sendAll a' frames ret₀' u).2.header := by
  have hroutes := codec.routes_sendAll a frames ret₀
  have hroutes' := codec.routes_sendAll a' frames ret₀'
  obtain ⟨ps, hps⟩ := codec.sendAll_sends frames
  obtain ⟨g, hg⟩ := Alike.sendAll codec frames
  obtain ⟨r, hr⟩ := hroutes.ends (Or.inl htcp) ht
  obtain ⟨r', hr'⟩ := hroutes'.ends (Or.inr hudp.2) hu
  have hready : u.overTcp a' ∨ u.Ready := Or.inr (by simp [Tx.Ready, hudp.1])
  have hgiven := (hps a ret₀ t (Or.inl htcp)).result hr
  have hgiven' := (hps a' ret₀' u hready).result hr'
  have hafter := (hg (a, ret₀) t).result hr
  have hafter' := (hg (a', ret₀') u).result hr'
  refine ⟨?_, ?_⟩
  · rw [hgiven.rtpSends (hroutes.followed t) htcp, hgiven'.datagrams (hroutes'.followed u) hudp,
      hheader]
  · exact hafter.trans ((congrArg g hheader).trans hafter'.symm)

/-- A client over UDP whose socket takes everything it is given. -/
def udpClient : SendArgs := ⟨8, -1, some [], 5000⟩

def openUdp : Tx := { openTx with tcpHeader := none }

def twoFrames : List Frame := [⟨⟨1, 0⟩, fun _ => 0x65, 1500, 0⟩, ⟨⟨2, 0⟩, fun _ => 0x41, 3, 0⟩]

theorem same_packets_two :
    rtpSends (openTx.callsTo (Codec.h264.sendAll tcpClient twoFrames (fun _ => 0) openTx).2) =
        datagrams (openUdp.callsTo
          (Codec.h264.sendAll udpClient twoFrames (fun _ => 0) openUdp).2) ∧
      (Codec.h264.sendAll tcpClient twoFrames (fun _ => 0) openTx).2.header =
        (Codec.h264.sendAll udpClient twoFrames (fun _ => 0) openUdp).2.header :=
  same_packets .h264 twoFrames _ _ rfl ⟨rfl, rfl⟩ rfl (by decide +kernel) (by decide +kernel)

end SimpleRtsp

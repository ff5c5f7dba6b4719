import SimpleRtsp.Rtp.Audio

/-!
# The transport of a packetiser

Before every send a packetiser chooses the transport anew, from its arguments and from whether it
was lent an interleaved header. It makes the same choice every time: all calls go to one descriptor
and one address, an interleaved header names the channel of the arguments, and if the arguments
choose a transport at all (`Tx.Routed`), the packetiser gives up only at a refused call
(`routes_video`, `routes_audio`). So it never gets to the source's `parameter error`, where it
would give up without one.
-/

namespace SimpleRtsp

def Tx.Routed (a : SendArgs) (t : Tx) : Prop := t.overTcp a ∨ a.hasAddr

def SendArgs.addr (a : SendArgs) (tcp : Bool) : Option (List UInt8 × Int) :=
  if tcp then none else some (a.clientIp.getD [], a.clientRtpPort)

/-- A call to the descriptor and the address of the arguments, and on their channel if it sends an
interleaved header. -/
structure SendCall.Follows (a : SendArgs) (tcp : Bool) (c : SendCall) : Prop where
  sd : c.sd = a.sd
  addr : c.addr = a.addr tcp
  channel : c.buf.length < RTP_HEADER_SIZE → tcp ∧ c.buf[1]? = some (UInt8.ofInt a.sig)

/-- The calls from `t` to `t'` follow the arguments. -/
structure Followed (a : SendArgs) (t t' : Tx) : Prop where
  tcp : t'.tcpHeader.isSome = t.tcpHeader.isSome
  calls : ∃ made, t'.wire.calls = t.wire.calls ++ made ∧ ∀ c ∈ made, c.Follows a (t.overTcp a)

def Refused (t t' : Tx) : Prop := ∃ c ∈ t.callsTo t', c.ret ≤ 0

/-- The program's calls follow the arguments, and with a transport it returns early only after a
refused call. -/
structure Routes {α : Type} (a : SendArgs) (x : SendM α) : Prop where
  meets : ∀ t : Tx, x.Meets t (fun _ t' => Followed a t t') fun t' =>
    Followed a t t' ∧ (t.Routed a → Refused t t')

variable {a : SendArgs} {t t' t'' : Tx} {α β : Type} {x : SendM α} {f : α → SendM β}

theorem Followed.overTcp (h : Followed a t t') : t'.overTcp a = t.overTcp a := by
  rw [Tx.overTcp, Tx.overTcp, h.tcp]

theorem Followed.routed (h : Followed a t t') (ht : t.Routed a) : t'.Routed a := by
  rw [Tx.Routed, h.overTcp]
  exact ht

theorem Followed.of_wire (hwire : t'.wire = t.wire)
    (htcp : t'.tcpHeader.isSome = t.tcpHeader.isSome) : Followed a t t' :=
  ⟨htcp, [], by rw [hwire, List.append_nil], fun _ hc => absurd hc List.not_mem_nil⟩

theorem Followed.trans (h : Followed a t t') (h' : Followed a t' t'') : Followed a t t'' := by
  obtain ⟨made, hcalls, hmade⟩ := h.calls
  obtain ⟨made', hcalls', hmade'⟩ := h'.calls
  rw [h.overTcp] at hmade'
  refine ⟨h'.tcp.trans h.tcp, made ++ made', ?_, fun c hc => ?_⟩
  · rw [hcalls', hcalls, List.append_assoc]
  · rcases List.mem_append.mp hc with hc | hc
    · exact hmade c hc
    · exact hmade' c hc

theorem Followed.refused (h : Followed a t t') (h' : Followed a t' t'') (hr : Refused t' t'') :
    Refused t t'' := by
  obtain ⟨made, hcalls, -⟩ := h.calls
  obtain ⟨made', hcalls', -⟩ := h'.calls
  obtain ⟨c, hc, hret⟩ := hr
  refine ⟨c, ?_, hret⟩
  rw [Tx.callsTo, hcalls', List.drop_left] at hc
  rw [Tx.callsTo, hcalls', hcalls, List.append_assoc, List.drop_left]
  exact List.mem_append_right made hc

theorem Followed.before (h : Followed a t t')
    (hx : x.Meets t' (fun _ t'' => Followed a t' t'') fun t'' =>
      Followed a t' t'' ∧ (t'.Routed a → Refused t' t'')) :
    x.Meets t' (fun _ t'' => Followed a t t'') fun t'' =>
      Followed a t t'' ∧ (t.Routed a → Refused t t'') :=
  hx.mono (fun _ _ h' => h.trans h') fun _ h' =>
    ⟨h.trans h'.1, fun ht => h.refused h'.1 (h'.2 (h.routed ht))⟩

theorem Routes.followed (hx : Routes a x) (t : Tx) : Followed a t (x t).2 := by
  have hmeets := hx.meets t
  unfold EarlyM.Meets at hmeets
  split at hmeets
  · rename_i hrun
    rw [hrun]
    exact hmeets
  · rename_i hrun
    rw [hrun]
    exact hmeets.1

theorem Routes.refused (hx : Routes a x) (ht : t.Routed a) (hearly : (x t).1 = none) :
    Refused t (x t).2 := by
  have hmeets := hx.meets t
  unfold EarlyM.Meets at hmeets
  split at hmeets
  · rename_i hrun
    rw [hrun] at hearly
    exact absurd hearly (by simp)
  · rename_i hrun
    rw [hrun]
    exact hmeets.2 ht

/-! ## The rules -/

theorem Routes.pure (r : α) : Routes a (pure r : SendM α) :=
  ⟨fun _ => EarlyM.Meets.pure (Followed.of_wire rfl rfl)⟩

theorem Routes.modify {g : Tx → Tx} (hwire : ∀ t, (g t).wire = t.wire)
    (htcp : ∀ t, (g t).tcpHeader.isSome = t.tcpHeader.isSome) : Routes a (EarlyM.modify g) :=
  ⟨fun t => EarlyM.Meets.modify (Followed.of_wire (hwire t) (htcp t))⟩

theorem Routes.bind (hx : Routes a x) (hf : ∀ r, Routes a (f r)) : Routes a (x >>= f) := by
  refine ⟨fun t => EarlyM.Meets.bind (hx.meets t) fun r t' h => ?_⟩
  exact h.before ((hf r).meets t')

theorem routes_modifyHeader (g : RtpHeader → RtpHeader) : Routes a (modifyHeader g) :=
  .modify (fun _ => rfl) fun _ => rfl

theorem routes_modifyPayload (g : Mem → Mem) : Routes a (modifyPayload g) :=
  .modify (fun _ => rfl) fun _ => rfl

theorem routes_modifyTcpHeader (g : RtpTcpHeader → RtpTcpHeader) : Routes a (modifyTcpHeader g) :=
  .modify (fun _ => rfl) fun _ => by simp

/-! ## The sends -/

theorem sendOrReturn_follows {buf : List UInt8} {addr : Option (List UInt8 × Int)}
    (haddr : addr = a.addr (t.overTcp a))
    (hbuf : buf.length < RTP_HEADER_SIZE →
      t.overTcp a ∧ buf[1]? = some (UInt8.ofInt a.sig)) :
    (sendOrReturn a.sd buf addr).Meets t (fun _ t' => Followed a t t') fun t' =>
      Followed a t t' ∧ (t.Routed a → Refused t t') := by
  let ret := t.wire.result t.wire.calls.length buf.length
  let call : SendCall := ⟨a.sd, buf, addr, ret⟩
  let sent : Tx := { t with wire := { t.wire with calls := t.wire.calls ++ [call] } }
  have hfollowed : Followed a t sent := by
    refine ⟨rfl, [call], rfl, fun c hc => ?_⟩
    obtain rfl := List.mem_singleton.mp hc
    exact ⟨rfl, haddr, hbuf⟩
  unfold EarlyM.Meets sendOrReturn Wire.call
  by_cases hret : t.wire.result t.wire.calls.length buf.length ≤ 0
  · simp only [hret, if_true]
    exact ⟨hfollowed, fun _ => ⟨call, by simp [Tx.callsTo, call, ret], hret⟩⟩
  · simp only [hret, if_false]
    exact hfollowed

theorem sendInterleaved_follows (len : Nat) (htcp : t.overTcp a) :
    (sendInterleaved a len).Meets t (fun _ t' => Followed a t t') fun t' =>
      Followed a t t' ∧ (t.Routed a → Refused t t') := by
  obtain ⟨h, hsome⟩ : ∃ h, t.tcpHeader = some h :=
    Option.isSome_iff_exists.mp (Bool.and_eq_true_iff.mp htcp).1
  let filled : RtpTcpHeader := ⟨h.magic, UInt8.ofInt a.sig, htons (UInt16.ofNat len)⟩
  let t₁ : Tx := { t with tcpHeader := some filled }
  have hfill : Followed a t t₁ := .of_wire rfl (by simp [t₁, hsome])
  unfold sendInterleaved
  refine EarlyM.Meets.modify_bind (EarlyM.Meets.get_bind ?_)
  rw [hsome]
  show (sendOrReturn a.sd filled.bytes none).Meets t₁ _ _
  refine hfill.before (sendOrReturn_follows ?_ fun _ => ⟨?_, rfl⟩)
  · rw [hfill.overTcp, htcp]
    rfl
  · rw [hfill.overTcp]
    exact htcp

theorem routes_sendPacket (n : Nat) : Routes a (sendPacket a n) := by
  refine ⟨fun t => ?_⟩
  have hlong : ¬ (t.rtpPacket.bytes n).length < RTP_HEADER_SIZE := by
    rw [RtpPacket.length_bytes]
    omega
  unfold sendPacket
  refine EarlyM.Meets.get_bind ?_
  split_ifs with htcp haddr
  · exact sendOrReturn_follows (by simp [SendArgs.addr, htcp]) fun h => absurd h hlong
  · exact sendOrReturn_follows (by simp [SendArgs.addr, htcp]) fun h => absurd h hlong
  · refine EarlyM.Meets.fail ⟨.of_wire rfl rfl, fun ht => ?_⟩
    exact absurd ht (by simp [Tx.Routed, htcp, haddr])

theorem routes_sendTcpHeader (len : Nat) : Routes a (sendTcpHeader a len) := by
  refine ⟨fun t => ?_⟩
  unfold sendTcpHeader
  refine EarlyM.Meets.get_bind ?_
  split_ifs with htcp
  · refine EarlyM.Meets.bind (sendInterleaved_follows len htcp) fun _ t₁ h => ?_
    exact h.before ((routes_modifyTcpHeader _).meets t₁)
  · exact (Routes.pure ()).meets t

theorem routes_sendRtp (front body : List UInt8) : Routes a (sendRtp a front body) := by
  unfold sendRtp
  refine .bind (routes_modifyPayload _) fun _ => .bind (routes_sendTcpHeader _) fun _ => ?_
  refine .bind (routes_modifyHeader _) fun _ => .bind (routes_modifyPayload _) fun _ => ?_
  refine .bind (routes_sendPacket _) fun ret => ?_
  exact .bind (routes_modifyHeader _) fun _ => .bind (routes_modifyHeader _) fun _ => .pure ret

/-! ## The packetisers -/

theorem routes_sendFull (fmt : H26x.FuFormat) (frame : Mem) (pktNum remainPktSize : Nat) :
    ∀ (todo i pos : Nat) (sendBytes : Int),
      Routes a (H26x.sendFull fmt a frame pktNum remainPktSize todo i pos sendBytes) := by
  intro todo
  induction todo with
  | zero =>
    intro i pos sendBytes
    exact .pure _
  | succ todo ih =>
    intro i pos sendBytes
    refine .bind (routes_modifyPayload _) fun _ => .bind (routes_modifyHeader _) fun _ => ?_
    exact .bind (routes_sendRtp _ _) fun ret => ih _ _ _

theorem routes_video (fmt : H26x.FuFormat) (tv : Timeval) (frame : Mem) (frameSize : Nat) :
    Routes a (H26x.rtpSendFrame fmt tv a frame frameSize) := by
  unfold H26x.rtpSendFrame
  refine .bind (routes_modifyHeader _) fun _ => .bind (routes_modifyPayload _) fun _ => ?_
  refine .bind (routes_modifyHeader _) fun _ => .bind (routes_modifyTcpHeader _) fun _ => ?_
  split_ifs
  · exact .bind (routes_modifyHeader _) fun _ => routes_sendRtp _ _
  · refine .bind (routes_sendFull fmt frame _ _ _ _ _ _) fun r => ?_
    dsimp only
    split_ifs
    · refine .bind (routes_modifyPayload _) fun _ => .bind (routes_modifyHeader _) fun _ => ?_
      exact .bind (routes_sendRtp _ _) fun ret => .pure _
    · exact .pure _

theorem routes_sendHeader (len : Nat) (ret₀ : Int) : Routes a (Audio.sendHeader a len ret₀) := by
  refine ⟨fun t => ?_⟩
  unfold Audio.sendHeader
  refine EarlyM.Meets.get_bind ?_
  split_ifs with htcp haddr
  · let t₁ : Tx := { t with tcpHeader := t.tcpHeader.map fun h => { h with magic := 0x24 } }
    have hmagic : Followed a t t₁ := .of_wire rfl (by simp [t₁])
    refine EarlyM.Meets.modify_bind (hmagic.before (sendInterleaved_follows len ?_))
    rw [hmagic.overTcp]
    exact htcp
  · exact (Routes.pure ret₀).meets t
  · refine EarlyM.Meets.fail ⟨.of_wire rfl rfl, fun ht => ?_⟩
    exact absurd ht (by simp [Tx.Routed, htcp, haddr])

theorem routes_audio (au : Nat → List UInt8) (tv : Timeval) (data : Mem) (size : Nat)
    (sampleRate : UInt32) (ret₀ : Int) :
    Routes a (Audio.rtpSendFrame au tv a data size sampleRate ret₀) := by
  unfold Audio.rtpSendFrame
  refine .bind (routes_sendHeader _ _) fun sendBytes => .bind (routes_modifyHeader _) fun _ => ?_
  refine .bind (routes_modifyHeader _) fun _ => .bind (routes_modifyHeader _) fun _ => ?_
  refine .bind (routes_modifyPayload _) fun _ => .bind (routes_modifyPayload _) fun _ => ?_
  refine .bind (routes_sendPacket _) fun ret => .bind (routes_modifyHeader _) fun _ => ?_
  exact .bind (routes_modifyHeader _) fun _ => .pure _

end SimpleRtsp

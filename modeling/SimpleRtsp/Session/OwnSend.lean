import SimpleRtsp.Rtp.Results
import SimpleRtsp.Session.Routing

/-!
# The result of a client's own send

`epollLoop` clears a client when `ret` is not positive after its send. A refused call makes it so,
but `ret` can be not positive without one: nothing sets it for a packet that has no packetiser, the
audio packetisers over UDP add to what it holds, and over UDP it becomes -1 when the peer has closed
the RTSP connection. In a `fair` send there is none of that, and then only a refused call makes the
result not positive (`failed_of_fair`).
-/

namespace SimpleRtsp

namespace SendEnv

def codec (env : SendEnv) : MediaE → Option Codec
  | .video =>
    match env.videoType with
    | .h264 => some .h264
    | .h265 => some .h265
    | .none => none
  | .audio =>
    match env.audioType with
    | .aac => some .aac
    | .pcma => some .pcma
    | .none => none

/-- What `ret` holds and the result `r` of a call add up to a positive `int` if `r` is one. -/
def addsUp (env : SendEnv) (r : Int) : Bool :=
  decide (r ≤ 0 ∨ 0 < env.ret₀ + r ∧ env.ret₀ + r < 2 ^ 31)

/-- Nothing but a refused call makes the result of this send not positive. -/
def fair (env : SendEnv) (tcp : Bool) (node : MediaPacket) (result : Nat → Nat → Int) : Bool :=
  (tcp || !env.hungUp) &&
    match env.codec node.type with
    | none => decide (0 < env.ret₀)
    | some codec =>
      !codec.leftover tcp || env.addsUp (result 0 (codec.packetSize node.size))

end SendEnv

theorem packetiser_codec (env : SendEnv) (node : MediaPacket) :
    packetiser env node = (env.codec node.type).map fun codec =>
      codec.send ⟨env.tv, node.data, node.size, env.sampleRate⟩ env.ret₀ := by
  unfold packetiser SendEnv.codec
  cases node.type with
  | video => cases env.videoType <;> rfl
  | audio => cases env.audioType <;> rfl

theorem Refused.failed {t t' : Tx} (h : Refused t t') (hnone : t.wire.calls = []) :
    t'.wire.failed = true := by
  obtain ⟨call, hcall, hret⟩ := h
  rw [Tx.callsTo, hnone] at hcall
  exact List.any_eq_true.mpr ⟨call, hcall, decide_eq_true hret⟩

/-- A packetiser that runs to its end returns a positive value, unless the leftover in `ret`
prevents it. -/
theorem ends_positive {codec : Codec} {f : Frame} {ret₀ ret : Int} {a : SendArgs} {t : Tx}
    (ht : t.overTcp a ∨ t.OverUdp a) (hend : (codec.send f ret₀ a t).1 = some ret)
    (hleftover : codec.leftover (t.overTcp a) = true → ∀ r,
      r = t.wire.result t.wire.calls.length (codec.packetSize f.size) → 0 < r → 0 < ret₀ + r) :
    0 < ret := by
  obtain ⟨haccepted, hsum, -⟩ := ends_accepted ht hend
  have hpos := total_pos haccepted
  rw [start_eq] at hsum
  cases hleft : codec.leftover (t.overTcp a) with
  | false =>
    rw [hleft, if_neg Bool.false_ne_true] at hsum
    omega
  | true =>
    obtain ⟨r, hr, -, htotal⟩ := answers_leftover (f := f) hleft
    rw [hleft, if_pos rfl] at hsum
    have hfits := hleftover hleft r hr (by omega)
    omega

/-- The slots of the server are held by whom some history put there. -/
def Conc.Routed (c : Conc) : Prop := ∃ occupant, Routing.Ok ⟨c, occupant⟩

namespace Conc.Routed

variable {c c' : Conc} {l : Label}

theorem init : Conc.init.Routed := ⟨_, Routing.ok_init⟩

theorem step (h : c.Routed) (hopened : ∀ id a audioType mem, l = .lookup id a audioType mem →
    a.Opened) (hstep : c.step l = some c') : c'.Routed := by
  obtain ⟨occupant, hok⟩ := h
  have hguard : Routing.Opened ⟨c, occupant⟩ l := by
    cases l with
    | lookup id a audioType mem => exact hopened id a audioType mem rfl
    | _ => trivial
  have hnext : Routing.step ⟨c, occupant⟩ l =
      some ⟨c', Routing.occupy occupant (Routing.stores ⟨c, occupant⟩ l)⟩ := by
    rw [Routing.step, hstep, Option.map_some]
  exact ⟨_, hok.step hguard hnext⟩

end Conc.Routed

section Transport

variable {a : AddArgs} {c : Clientinfo} {fd : Int} {type : MediaE} {packet : RtpPacket} {w : Wire}

theorem AddArgs.overTcp_lend (htcp : (fd == c.sd) = (a.tureOfTcp == 1))
    (hrouted : (c.lend fd packet w).Routed (a.dest type)) :
    (c.lend fd packet w).overTcp (a.dest type) = (fd == c.sd) := by
  by_cases hover : a.tureOfTcp = 1
  · have hnone : ¬ (a.dest type).hasAddr := by
      cases type <;> simp [dest, hover, SendArgs.hasAddr]
    rw [hrouted.resolve_right hnone, htcp, hover]
    rfl
  · rw [Clientinfo.lend, htcp, beq_false_of_ne hover]
    rfl

theorem AddArgs.transport_lend (htcp : (fd == c.sd) = (a.tureOfTcp == 1))
    (hrouted : (c.lend fd packet w).Routed (a.dest type)) :
    (c.lend fd packet w).overTcp (a.dest type) ∨ (c.lend fd packet w).OverUdp (a.dest type) := by
  have hover := overTcp_lend htcp hrouted
  cases hsocket : fd == c.sd with
  | true => exact Or.inl (hover.trans hsocket)
  | false =>
    refine Or.inr ⟨?_, hrouted.resolve_left ?_⟩
    · rw [Clientinfo.lend, hsocket]
      rfl
    · rw [hover, hsocket]
      exact Bool.false_ne_true

theorem AddArgs.failed_of_send {codec : Codec} {f : Frame} {ret₀ : Int} {result : Nat → Nat → Int}
    (htcp : (fd == c.sd) = (a.tureOfTcp == 1))
    (hrouted : (c.lend fd packet ⟨result, []⟩).Routed (a.dest type))
    (hfits : codec.leftover (fd == c.sd) = true →
      0 < result 0 (codec.packetSize f.size) → 0 < ret₀ + result 0 (codec.packetSize f.size))
    (hret : (codec.send f ret₀ (a.dest type) (c.lend fd packet ⟨result, []⟩)).1.getD (-1) ≤ 0) :
    (codec.send f ret₀ (a.dest type) (c.lend fd packet ⟨result, []⟩)).2.wire.failed = true := by
  cases hend : (codec.send f ret₀ (a.dest type) (c.lend fd packet ⟨result, []⟩)).1 with
  | none => exact ((codec.routes_send f ret₀ _).refused hrouted hend).failed rfl
  | some ret =>
    have hpositive : 0 < ret := by
      refine ends_positive (transport_lend htcp hrouted) hend fun hleft r hr hpos => ?_
      rw [overTcp_lend htcp hrouted] at hleft
      replace hr : r = result 0 (codec.packetSize f.size) := hr
      subst hr
      exact hfits hleft hpos
    rw [hend, Option.getD_some] at hret
    omega

end Transport

/-- **In a fair send only a refused call makes the result not positive.** -/
theorem Conc.Routed.failed_of_fair {c : Conc} (h : c.Routed) {addr j : Nat} {fd ret : Int}
    {node : MediaPacket} {s : Session} {client : Clientinfo} {w : Wire} {env : SendEnv}
    {result : Nat → Nat → Int} (hepoll : c.epoll = .sending addr j fd node)
    (hs : c.server.heap addr = some s)
    (hfair : env.fair (fd == (s.clientinfo j).sd) node result = true)
    (hsent : transmit env (s.clientinfo j) fd node ⟨result, []⟩ = some (ret, client, w))
    (hret : ret ≤ 0) : w.failed = true := by
  obtain ⟨occupant, hok⟩ := h
  obtain ⟨hj, hplaying⟩ := hok.sound.playing (by rw [hepoll]; rfl) hs
  obtain ⟨hfd, a, ha, htakes⟩ := hok.sending addr j fd node hepoll
  obtain ⟨a', ha', hopened, hhosted⟩ := (hok.slots addr s hs).hosted hj hplaying
  obtain rfl := Option.some.inj (ha.symm.trans ha')
  obtain ⟨htcp, hargs, -, hrouted⟩ := hhosted.dest hopened htakes hfd
  obtain ⟨hhung, hfair⟩ := Bool.and_eq_true_iff.mp hfair
  obtain ⟨⟨ret₁, client₁, w₁⟩, hnode, hpair⟩ := Option.map_eq_some_iff.mp hsent
  obtain ⟨hsame, hpair⟩ := Prod.mk.inj hpair
  obtain rfl := (Prod.mk.inj hpair).2
  have hthere : (!(fd == (s.clientinfo j).sd) && env.hungUp) = false := by
    rcases Bool.or_eq_true_iff.mp hhung with hover | hopen
    · rw [hover]
      rfl
    · rw [(Bool.not_eq_true' _).mp hopen, Bool.and_false]
  rw [hthere] at hsame
  obtain rfl : ret₁ = ret := hsame
  rw [sendNode, packetiser_codec] at hnode
  cases hcodec : env.codec node.type with
  | none =>
    rw [hcodec] at hnode hfair
    obtain ⟨hret₀, -⟩ := Prod.mk.inj (Option.some.inj hnode)
    have hpos := of_decide_eq_true hfair
    omega
  | some codec =>
    rw [hcodec] at hnode hfair
    dsimp only at hfair
    obtain ⟨packet, -, hnode⟩ := Option.map_eq_some_iff.mp hnode
    obtain ⟨hresult, hwire⟩ := Prod.mk.inj hnode
    obtain ⟨-, hwire⟩ := Prod.mk.inj hwire
    rw [hargs] at hresult hwire
    replace hresult : ((codec.send ⟨env.tv, node.data, node.size, env.sampleRate⟩ env.ret₀
      (a.dest node.type) ((s.clientinfo j).lend fd packet ⟨result, []⟩)).1.getD (-1)) = ret₁ :=
      hresult
    rw [← hwire]
    refine AddArgs.failed_of_send htcp (hrouted packet ⟨result, []⟩) (fun hleft hpos => ?_)
      (hresult.trans_le hret)
    rw [hleft, Bool.not_true, Bool.false_or] at hfair
    have hfits := of_decide_eq_true hfair
    exact (hfits.resolve_left (not_le.mpr hpos)).1

end SimpleRtsp

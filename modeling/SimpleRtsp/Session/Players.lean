import SimpleRtsp.Session.Concurrent

/-!
# Who plays after a step

A step of `Conc` adds a player only where it stores a client (`Sound.plays`); the departure of a
client and the deletion of a session take players away. `Firm` are the facts about slots and table
that hold even when a table entry is overwritten: a positive socket belongs to a playing client, and
the table holds existing sessions, each once.
-/

namespace SimpleRtsp

namespace Session

variable {s s' : Session} {i j : Nat}

theorem not_playing_of_idle {c : Clientinfo} (hidle : c.Idle) (slot : Nat) : ¬ c.Playing slot := by
  intro hplaying
  have hcallable := hplaying.callable
  rw [hidle.not_callable] at hcallable
  cases hcallable

theorem Ok.callback_idle (h : s.Ok) (m : Delivery) (fresh : Nat → MediaE → Nat → MediaPacket)
    (hidle : (s.clientinfo j).Idle) :
    (s.mediaCallBack m.toMediainfo fresh).1.clientinfo j = s.clientinfo j := by
  rw [mediaCallBack_eq h]
  refine if_neg fun hserved => ?_
  rw [hidle.not_callable] at hserved
  cases hserved.2

theorem playing_of_callback (h : s.Ok) (hj : j < CLIENTMAX) {m : Delivery}
    {fresh : Nat → MediaE → Nat → MediaPacket}
    (hafter : ((s.mediaCallBack m.toMediainfo fresh).1.clientinfo j).Playing j) :
    (s.clientinfo j).Playing j := by
  rcases h.slots j hj with hplaying | hidle
  · exact hplaying
  · rwa [h.callback_idle m fresh hidle] at hafter

theorem playing_of_setSlot {c : Clientinfo} (hbefore : (s.clientinfo j).Playing j)
    (hafter : ((s.setSlot j c).clientinfo i).Playing i) : (s.clientinfo i).Playing i := by
  by_cases hij : i = j
  · rwa [hij]
  · rwa [setSlot_of_ne s c hij] at hafter

theorem playing_of_offline (hafter : ((s.offline j).clientinfo i).Playing i) :
    i ≠ j ∧ (s.clientinfo i).Playing i := by
  simp only [offline] at hafter
  by_cases hij : i = j
  · subst hij
    rw [setSlot_self] at hafter
    exact absurd hafter (not_playing_of_idle (idle_clearClient _) i)
  · rw [setSlot_of_ne s _ hij] at hafter
    exact ⟨hij, hafter⟩

theorem playing_of_join {a : AddArgs} {audioType : AudioE} {mem : Fresh}
    (hjoin : s.join a audioType mem = some (j, s')) (hafter : (s'.clientinfo i).Playing i) :
    (s.clientinfo i).Playing i ∨ i = j := by
  obtain ⟨-, -, rfl⟩ := join_some hjoin
  by_cases hij : i = j
  · exact Or.inr hij
  · simp only [setSlot_of_ne s _ hij] at hafter
    exact Or.inl hafter

theorem playing_of_create {addr pos : Nat} {a : AddArgs} {audioType : AudioE} {mem : Fresh}
    (hafter : ((create addr a audioType mem pos).clientinfo i).Playing i) : i = 0 := by
  by_contra hi
  rw [create_clientinfo addr a audioType mem pos hi] at hafter
  exact not_playing_of_idle (idle_initClient _) i hafter

/-! ## Positive sockets -/

/-- A positive socket belongs to a playing client. -/
def Sds (s : Session) : Prop :=
  ∀ j < CLIENTMAX, 0 < (s.clientinfo j).sd → (s.clientinfo j).Playing j

theorem Sds.setSlot (h : s.Sds) {c : Clientinfo} (hc : 0 < c.sd → c.Playing j) :
    (s.setSlot j c).Sds := by
  intro i hi hsd
  by_cases hij : i = j
  · subst hij
    rw [setSlot_self] at hsd ⊢
    exact hc hsd
  · rw [setSlot_of_ne s c hij] at hsd ⊢
    exact h i hi hsd

theorem Sds.offline (h : s.Sds) (j : Nat) : (s.offline j).Sds := by
  have hclear : (s.setSlot j (clearClient (s.clientinfo j))).Sds := by
    refine h.setSlot fun hsd => ?_
    have hclosed : (clearClient (s.clientinfo j)).sd = closeFd (s.clientinfo j).sd := rfl
    rw [hclosed, closeFd] at hsd
    split_ifs at hsd
    · omega
    · omega
  exact hclear

theorem Sds.join (h : s.Sds) (hok : s.Ok) {a : AddArgs} {audioType : AudioE} {mem : Fresh}
    (hsd : 0 ≤ a.clientSockFd) (hjoin : s.join a audioType mem = some (j, s')) : s'.Sds := by
  obtain ⟨hj, hfree, rfl⟩ := join_some hjoin
  exact h.setSlot fun _ => playing_setClient (hok.idle hj hfree) a hsd audioType mem j

theorem sds_create (addr : Nat) (a : AddArgs) (hsd : 0 ≤ a.clientSockFd) (audioType : AudioE)
    (mem : Fresh) (pos : Nat) : (create addr a audioType mem pos).Sds := by
  intro j hj hpos
  refine ((ok_create addr a audioType mem pos hsd).slots j hj).resolve_right fun hidle => ?_
  by_cases hzero : j = 0
  · subst hzero
    have hplaying := playing_setClient (idle_initClient (some addr)) a hsd audioType mem 0
    simp only [create, Function.update_self] at hidle
    exact not_playing_of_idle hidle 0 hplaying
  · rw [create_clientinfo addr a audioType mem pos hzero] at hpos
    exact absurd hpos (by simp [initClient])

theorem Sds.callback (h : s.Sds) (hok : s.Ok) (m : Delivery)
    (fresh : Nat → MediaE → Nat → MediaPacket) : (s.mediaCallBack m.toMediainfo fresh).1.Sds := by
  intro j hj hsd
  rcases hok.slots j hj with hplaying | hidle
  · exact (Evolves.callback hok m fresh).playing j hj hplaying
  · rw [hok.callback_idle m fresh hidle] at hsd ⊢
    exact h j hj hsd

end Session

namespace Server

variable {S : Server}

theorem Plays.of_setSession (extra : Nat → Prop) {addr addr' j' : Nat} {s s' : Session}
    (h : (S.setSession addr s').Plays addr' j') (hs : S.heap addr = some s)
    (hback : ∀ j < CLIENTMAX, (s'.clientinfo j).Playing j → (s.clientinfo j).Playing j ∨ extra j) :
    S.Plays addr' j' ∨ addr' = addr ∧ extra j' := by
  obtain ⟨s₁, hs₁, hj, hplaying⟩ := h
  rw [setSession_heap] at hs₁
  split_ifs at hs₁ with haddr
  · obtain rfl := Option.some.inj hs₁
    subst haddr
    rcases hback j' hj hplaying with hplaying | hextra
    · exact Or.inl ⟨s, hs, hj, hplaying⟩
    · exact Or.inr ⟨rfl, hextra⟩
  · exact Or.inl ⟨s₁, hs₁, hj, hplaying⟩

theorem Plays.of_setSession_same {addr addr' j' : Nat} {s s' : Session}
    (h : (S.setSession addr s').Plays addr' j') (hs : S.heap addr = some s)
    (hback : ∀ j < CLIENTMAX, (s'.clientinfo j).Playing j → (s.clientinfo j).Playing j) :
    S.Plays addr' j' :=
  (h.of_setSession (fun _ => False) hs fun j hj hplaying =>
    Or.inl (hback j hj hplaying)).resolve_right And.right

/-- The slot a lookup has stored the client in. -/
def Lookup.slot : Lookup → Option (Nat × Nat)
  | .joined addr j => some (addr, j)
  | .full => none
  | .missing _ => none

end Server

namespace Conc

variable {c c' : Conc} {l : Label}

/-- The slot a step stores a client in. -/
def storesAt (c : Conc) : Label → Option (Nat × Nat)
  | .lookup _ a audioType mem => (c.server.lookup a audioType mem).1.slot
  | .addSession _ addr _ _ => some (addr, 0)
  | _ => none

/-- **Players.** A step adds a player only where it stores a client. -/
theorem Sound.plays (h : c.Sound) (hmoves : Moves c l c') {addr' j' : Nat}
    (hplays : c'.server.Plays addr' j') :
    c.server.Plays addr' j' ∨ c.storesAt l = some (addr', j') := by
  cases hmoves with
  | @joined id a audioType mem addr j s s' hsd hs hjoin hlookup =>
    have hback : c.server.Plays addr' j' ∨ addr' = addr ∧ j' = j := by
      refine Server.Plays.of_setSession (fun i => i = j) hplays hs fun i _ hafter => ?_
      exact Session.playing_of_join hjoin hafter
    have hstores : c.storesAt (.lookup id a audioType mem) = some (addr, j) := by
      change (c.server.lookup a audioType mem).1.slot = some (addr, j)
      rw [hlookup]
      rfl
    rcases hback with hback | ⟨rfl, rfl⟩
    · exact Or.inl hback
    · exact Or.inr hstores
  | @created id addr a audioType mem pos hcall hfree hpos =>
    obtain ⟨s, hs, hj, hplaying⟩ := hplays
    change (c.server.addSession addr pos a audioType mem).heap addr' = some s at hs
    rw [Server.addSession_heap] at hs
    split_ifs at hs with haddr
    · obtain rfl := Option.some.inj hs
      obtain rfl := Session.playing_of_create hplaying
      subst haddr
      exact Or.inr rfl
    · exact Or.inl ⟨s, hs, hj, hplaying⟩
  | @served addr s m fresh hs =>
    exact Or.inl (hplays.of_setSession_same hs fun i hi hafter =>
      Session.playing_of_callback (h.sessions addr s hs) hi hafter)
  | @taken addr j fd node node' s client hs hj hdequeue =>
    have hplaying := (h.sessions addr s hs).playing_of_dequeue hj hdequeue
    exact Or.inl (hplays.of_setSession_same hs fun i _ hafter =>
      Session.playing_of_setSlot hplaying hafter)
  | @sent env result addr j fd ret node s client w hepoll hs htransmit =>
    have hplaying := (h.playing (by rw [hepoll]; rfl) hs).2
    exact Or.inl (hplays.of_setSession_same hs fun i _ hafter =>
      Session.playing_of_setSlot hplaying hafter)
  | @cleared addr j failed s hepoll hs =>
    exact Or.inl (hplays.of_setSession_same hs fun i _ hafter =>
      (Session.playing_of_offline hafter).2)
  | @deleted addr pos addr' hepoll harr =>
    obtain ⟨s, hs, hj, hplaying⟩ := hplays
    dsimp only at hs
    rw [Server.delSession_heap] at hs
    split_ifs at hs
    exact Or.inl ⟨s, hs, hj, hplaying⟩
  | _ => exact Or.inl hplays

/-! ## What holds even when entries are overwritten -/

structure Firm (c : Conc) : Prop where
  sds : ∀ addr s, c.server.heap addr = some s → s.Sds
  entries : ∀ pos addr, c.server.sessionArr pos = some addr → (c.server.heap addr).isSome
  single : ∀ pos pos' addr, c.server.sessionArr pos = some addr →
    c.server.sessionArr pos' = some addr → pos = pos'

theorem firm_init : init.Firm where
  sds _ _ h := by cases h
  entries _ _ h := by cases h
  single _ _ _ h := by cases h

theorem Firm.setSession (h : c.Firm) {addr : Nat} {s' : Session} (hsds : s'.Sds) {c' : Conc}
    (hserver : c'.server = c.server.setSession addr s') : c'.Firm where
  sds addr' s₁ hs₁ := by
    rw [hserver, Server.setSession_heap] at hs₁
    split_ifs at hs₁
    · exact Option.some.inj hs₁ ▸ hsds
    · exact h.sds addr' s₁ hs₁
  entries pos addr' harr := by
    rw [hserver] at harr ⊢
    rw [Server.setSession_heap]
    split_ifs
    · rfl
    · exact h.entries pos addr' harr
  single pos pos' addr' harr harr' := by
    rw [hserver] at harr harr'
    exact h.single pos pos' addr' harr harr'

theorem Firm.of_eq (h : c.Firm) {c' : Conc} (hheap : c'.server.heap = c.server.heap)
    (harr : c'.server.sessionArr = c.server.sessionArr) : c'.Firm := by
  refine ⟨?_, ?_, ?_⟩
  · rw [hheap]
    exact h.sds
  · rw [hheap, harr]
    exact h.entries
  · rw [harr]
    exact h.single

theorem Firm.moves (h : c.Firm) (hsound : c.Sound) (hmoves : Moves c l c') : c'.Firm := by
  cases hmoves with
  | @joined id a audioType mem addr j s s' hsd hs hjoin hlookup =>
    exact h.setSession ((h.sds addr s hs).join (hsound.sessions addr s hs) hsd hjoin) rfl
  | @created id addr a audioType mem pos hcall hfree hpos =>
    have hother : ∀ pos' addr', c.server.sessionArr pos' = some addr' → addr' ≠ addr := by
      rintro pos' addr' harr rfl
      have hsome := h.entries pos' addr' harr
      rw [hfree] at hsome
      cases hsome
    refine ⟨fun addr' s hs => ?_, fun pos' addr' harr => ?_, fun pos₁ pos₂ addr' harr₁ harr₂ => ?_⟩
    · change (c.server.addSession addr pos a audioType mem).heap addr' = some s at hs
      rw [Server.addSession_heap] at hs
      split_ifs at hs
      · exact Option.some.inj hs ▸
          Session.sds_create addr a (hsound.calls id a pos hcall) audioType mem pos
      · exact h.sds addr' s hs
    · change ((c.server.addSession addr pos a audioType mem).heap addr').isSome
      rw [Server.addSession_heap]
      split_ifs with haddr
      · rfl
      · change Function.update c.server.sessionArr pos (some addr) pos' = some addr' at harr
        rw [Function.update_apply] at harr
        split_ifs at harr
        · exact absurd (Option.some.inj harr).symm haddr
        · exact h.entries pos' addr' harr
    · change Function.update c.server.sessionArr pos (some addr) pos₁ = some addr' at harr₁
      change Function.update c.server.sessionArr pos (some addr) pos₂ = some addr' at harr₂
      rw [Function.update_apply] at harr₁ harr₂
      split_ifs at harr₁ harr₂ with h₁ h₂ h₂
      · rw [h₁, h₂]
      · exact absurd (Option.some.inj harr₁).symm (hother pos₂ addr' harr₂)
      · exact absurd (Option.some.inj harr₂).symm (hother pos₁ addr' harr₁)
      · exact h.single pos₁ pos₂ addr' harr₁ harr₂
  | @served addr s m fresh hs =>
    exact h.setSession ((h.sds addr s hs).callback (hsound.sessions addr s hs) m fresh) rfl
  | @taken addr j fd node node' s client hs hj hdequeue =>
    have hplaying := (hsound.sessions addr s hs).playing_of_dequeue hj hdequeue
    exact h.setSession ((h.sds addr s hs).setSlot fun _ => hplaying.dequeue hdequeue) rfl
  | @sent env result addr j fd ret node s client w hepoll hs htransmit =>
    have hplaying := (hsound.playing (by rw [hepoll]; rfl) hs).2
    exact h.setSession ((h.sds addr s hs).setSlot fun _ => hplaying.transmit htransmit) rfl
  | @cleared addr j failed s hepoll hs => exact h.setSession ((h.sds addr s hs).offline j) rfl
  | @deleted addr pos addr' hepoll harr =>
    refine ⟨fun addr₁ s hs => ?_, fun pos' addr₁ harr' => ?_, fun pos₁ pos₂ addr₁ harr₁ harr₂ => ?_⟩
    · dsimp only at hs
      rw [Server.delSession_heap] at hs
      split_ifs at hs
      exact h.sds addr₁ s hs
    · change Function.update c.server.sessionArr pos none pos' = some addr₁ at harr'
      rw [Function.update_apply] at harr'
      split_ifs at harr' with hpos
      dsimp only
      rw [Server.delSession_heap, if_neg]
      · exact h.entries pos' addr₁ harr'
      · rintro rfl
        exact hpos (h.single pos' pos addr₁ harr' harr)
    · change Function.update c.server.sessionArr pos none pos₁ = some addr₁ at harr₁
      change Function.update c.server.sessionArr pos none pos₂ = some addr₁ at harr₂
      rw [Function.update_apply] at harr₁ harr₂
      split_ifs at harr₁ harr₂
      exact h.single pos₁ pos₂ addr₁ harr₁ harr₂
  | _ => exact h.of_eq rfl rfl

/-! ## Calls that have stored their clients -/

/-- The call is past the section that stores its client. -/
def Settled (c : Conc) (id : Nat) : Prop :=
  ∃ call, c.calls id = some call ∧ ∀ a pos, call ≠ .creating a pos

theorem Settled.setCall {id id' : Nat} {call : Call} (h : c.Settled id')
    (hcall : ∀ a pos, call ≠ .creating a pos) : (c.setCall id call).Settled id' := by
  by_cases hid : id' = id
  · exact ⟨call, by rw [setCall_calls, if_pos hid], hcall⟩
  · obtain ⟨call', hcall', hnot⟩ := h
    exact ⟨call', by rw [setCall_calls, if_neg hid, hcall'], hnot⟩

theorem Settled.moves {id' : Nat} (h : c.Settled id') (hmoves : Moves c l c')
    (hfresh : ∀ id a audioType mem, l = .lookup id a audioType mem → c.calls id = none) :
    c'.Settled id' := by
  cases hmoves with
  | joined => exact Settled.setCall h (by simp)
  | full => exact Settled.setCall h (by simp)
  | @missing id a audioType mem pos hsd hnone hfree =>
    obtain ⟨call, hcall, hnot⟩ := h
    refine ⟨call, ?_, hnot⟩
    rw [setCall_calls, if_neg, hcall]
    rintro rfl
    rw [hfresh _ a audioType mem rfl] at hcall
    cases hcall
  | created => exact Settled.setCall h (by simp)
  | counted => exact Settled.setCall h (by simp)
  | _ => exact h

end Conc

/-! ## Where the epoll thread points -/

/-- The session of the client structure the epoll thread points to. -/
def Epoll.session : Epoll → Option Nat
  | .sending addr _ _ _ => some addr
  | .leaving addr _ _ => some addr
  | .left addr _ => some addr
  | _ => none

namespace Conc

variable {c c' : Conc} {l : Label}

theorem Moves.idle (hmoves : Moves c l c') (hevent : ∀ addr j fd node, l ≠ .event addr j fd node)
    (hidle : c.epoll = .idle) : c'.epoll = .idle := by
  cases hmoves with
  | @quiet addr j fd node => exact absurd rfl (hevent addr j fd node)
  | @taken addr j fd node => exact absurd rfl (hevent addr j fd node)
  | sent hepoll => rw [hidle] at hepoll; cases hepoll
  | cleared hepoll => rw [hidle] at hepoll; cases hepoll
  | summed hepoll => rw [hidle] at hepoll; cases hepoll
  | stopped hepoll => rw [hidle] at hepoll; cases hepoll
  | gone => rfl
  | deleted hepoll => rw [hidle] at hepoll; cases hepoll
  | unsummed => rfl
  | _ => exact hidle

theorem Moves.session (hmoves : Moves c l c')
    (hevent : ∀ addr j fd node, l ≠ .event addr j fd node) {addr' : Nat}
    (hsession : c'.epoll.session = some addr') : c.epoll.session = some addr' := by
  cases hmoves with
  | @quiet addr j fd node => exact absurd rfl (hevent addr j fd node)
  | @taken addr j fd node => exact absurd rfl (hevent addr j fd node)
  | sent hepoll =>
    rw [hepoll]
    dsimp only at hsession
    split_ifs at hsession
    · exact hsession
    · cases hsession
  | cleared hepoll => rw [hepoll]; exact hsession
  | summed =>
    dsimp only at hsession
    split_ifs at hsession
    · cases hsession
    · cases hsession
  | stopped => cases hsession
  | gone => cases hsession
  | deleted => cases hsession
  | unsummed => cases hsession
  | _ => exact hsession

theorem Moves.session_event {addr j : Nat} {fd : Int} {node : MediaPacket}
    (hmoves : Moves c (.event addr j fd node) c') {addr' : Nat}
    (hsession : c'.epoll.session = some addr') :
    c.epoll.session = some addr' ∨ addr' = addr := by
  cases hmoves with
  | quiet => exact Or.inl hsession
  | taken =>
    dsimp only at hsession
    split_ifs at hsession
    · cases hsession
    · exact Or.inr (Option.some.inj hsession).symm

end Conc

end SimpleRtsp

import SimpleRtsp.Session.OwnSend

/-!
# Clients torn down with their session

The last client's departure and the deletion of its session are separate critical sections of the
epoll thread. A client that joins in between is cleared with the session, and so is one whose
session's table entry was overwritten; and a send that is not fair can clear the client it was for
without a refused call. `Careful` steps do none of this, and in a run of careful steps no client is
ever torn down or dropped (`never_tornDown`): from the moment a session is without clients until it
is deleted it stays so.
-/

namespace SimpleRtsp

/-- The search of `addClient` found no session, or one that has clients. -/
def Server.inUse (S : Server) : Option Nat × Nat → Bool
  | (none, _) => true
  | (some addr, _) => (S.heap addr).all fun s => s.count != 0

namespace Conc

/-- The entry for which `addSession` is about to be called is NULL. -/
def entryNull (c : Conc) : Option Call → Bool
  | some (.creating _ pos) => (c.server.sessionArr pos).isNone
  | _ => true

/-- The packet that is being sent is sent fairly. -/
def sendFair (c : Conc) (env : SendEnv) (result : Nat → Nat → Int) : Epoll → Bool
  | .sending addr j fd node =>
    (c.server.heap addr).all fun s => env.fair (fd == (s.clientinfo j).sd) node result
  | _ => true

/-- The step is not an `addClient` whose search finds a session without clients, nor an
`addSession` whose table entry is in use, nor a send that is not fair. The calls of `addClient` are
those of `doClientThd`. -/
def careful (c : Conc) : Label → Bool
  | .lookup _ a _ _ =>
    decide a.Opened &&
      c.server.inUse (c.server.search a.pathFilename (List.range FILEMAX) FILEMAX)
  | .addSession id _ _ _ => c.entryNull (c.calls id)
  | .transmit env result => c.sendFair env result c.epoll
  | _ => true

def Careful (c : Conc) (l : Label) : Prop := c.careful l = true

instance (c : Conc) (l : Label) : Decidable (c.Careful l) := inferInstanceAs (Decidable (_ = true))

end Conc

def Server.Empty (S : Server) (addr : Nat) : Prop := ∃ s, S.heap addr = some s ∧ s.count = 0

/-- The epoll thread is about to delete only sessions without clients. -/
def Epoll.Dying (S : Server) : Epoll → Prop
  | .left addr count => count = 0 → S.Empty addr
  | .destroying addr _ => S.Empty addr
  | .deleting addr _ => S.Empty addr
  | _ => True

theorem Epoll.Dying.mono {S S' : Server} {e : Epoll} (h : e.Dying S)
    (hempty : ∀ addr, S.Empty addr → S'.Empty addr) : e.Dying S' := by
  cases e with
  | left addr count => exact fun hcount => hempty addr (h hcount)
  | destroying addr pos => exact hempty addr h
  | deleting addr pos => exact hempty addr h
  | _ => trivial

/-- A client is cleared only after a refused call. -/
def Epoll.Refused : Epoll → Prop
  | .leaving _ _ failed => failed = true
  | _ => True

/-- The client plays, or its own send failed. -/
def Fate.Kept (S : Server) : Fate → Prop
  | .stored addr j => S.Plays addr j
  | .sendFailed => True
  | .dropped => False
  | .tornDown => False

theorem Fate.Kept.mono {S S' : Server} {fate : Fate} (h : fate.Kept S)
    (hplays : ∀ addr j, S.Plays addr j → S'.Plays addr j) : fate.Kept S' := by
  cases fate with
  | stored addr j => exact hplays addr j h
  | sendFailed => trivial
  | dropped => exact h
  | tornDown => exact h

theorem Session.Ok.count_ne_zero {s : Session} (h : s.Ok) {j : Nat} (hj : j < CLIENTMAX)
    (hplaying : (s.clientinfo j).Playing j) : s.count ≠ 0 := by
  have hpos := used_pos (p := fun c : Clientinfo => c.callable) hj hplaying.callable
  rw [h.count]
  omega

theorem Server.Empty.setSession {S : Server} {addr addr' : Nat} {s s' : Session}
    (h : S.Empty addr') (hs : S.heap addr = some s) (hcount : s.count = 0 → s'.count = 0) :
    (S.setSession addr s').Empty addr' := by
  obtain ⟨s₁, hs₁, hzero⟩ := h
  by_cases haddr : addr' = addr
  · subst haddr
    rw [hs] at hs₁
    cases hs₁
    exact ⟨s', by rw [setSession_heap, if_pos rfl], hcount hzero⟩
  · exact ⟨s₁, by rw [setSession_heap, if_neg haddr, hs₁], hzero⟩

namespace Conc

/-- The invariant of careful runs: what is stored plays, what is about to be deleted is empty, who
is about to be cleared had a call refused, and nobody was torn down or dropped. -/
structure Kept (c : Conc) : Prop where
  base : c.Base
  dying : c.epoll.Dying c.server
  refused : c.epoll.Refused
  fates : ∀ id fate, c.fate id = some fate → fate.Kept c.server

theorem kept_init : init.Kept := ⟨base_init, trivial, trivial, nofun⟩

theorem Kept.stored {c : Conc} (h : c.Kept) {id addr j : Nat}
    (hfate : c.fate id = some (.stored addr j)) : c.server.Plays addr j := h.fates id _ hfate

theorem fates_store {c : Conc} {S : Server} (id : Nat) {addr j : Nat} (hplays : S.Plays addr j)
    (hfates : ∀ id fate, c.fate id = some fate → fate.Kept S) (id' : Nat) (fate : Fate)
    (h : (c.store id addr j).fate id' = some fate) : fate.Kept S := by
  have hfate : (c.store id addr j).fate id' =
      if id' = id then some (.stored addr j) else c.fate id' := by
    simp [store, Function.update_apply]
  rw [hfate] at h
  split_ifs at h
  · obtain rfl := Option.some.inj h
    exact hplays
  · exact hfates id' fate h

theorem Careful.joined {c : Conc} {id : Nat} {a : AddArgs} {audioType : AudioE} {mem : Fresh}
    (h : c.Careful (.lookup id a audioType mem)) {addr j : Nat} {S : Server} {s : Session}
    (hlookup : c.server.lookup a audioType mem = (.joined addr j, S))
    (hs : c.server.heap addr = some s) : s.count ≠ 0 := by
  have hinUse := (Bool.and_eq_true_iff.mp h).2
  rw [Server.lookup] at hlookup
  rcases hsearch : c.server.search a.pathFilename (List.range FILEMAX) FILEMAX with ⟨_ | found, pos⟩
  · rw [hsearch] at hlookup
    cases hlookup
  · rw [hsearch] at hinUse hlookup
    rw [Server.enter] at hlookup
    split at hlookup
    · cases hlookup
    · cases hlookup
      simpa [Server.inUse, hs] using hinUse

theorem leave_fate (c : Conc) (addr j : Nat) (failed : Bool) (id : Nat) :
    (c.leave addr j failed).fate id =
      if c.fate id = some (.stored addr j) then some (if failed then .sendFailed else .dropped)
      else c.fate id := rfl

/-- Clearing a slot leaves the clients of all others where they are. -/
theorem Kept.fates_cleared {c : Conc} (h : c.Kept) {addr j : Nat} {s : Session}
    (hs : c.server.heap addr = some s) (id : Nat) (fate : Fate)
    (hfate : (c.leave addr j true).fate id = some fate) :
    fate.Kept (c.server.setSession addr (s.offline j)) := by
  rw [leave_fate] at hfate
  by_cases hthis : c.fate id = some (.stored addr j)
  · rw [if_pos hthis] at hfate
    obtain rfl := Option.some.inj hfate
    trivial
  · rw [if_neg hthis] at hfate
    have hkept := h.fates id fate hfate
    cases fate with
    | stored addr' j' =>
      have hother : ¬ (addr' = addr ∧ j' = j) := by
        rintro ⟨rfl, rfl⟩
        exact hthis hfate
      obtain ⟨s₁, hs₁, hj', hplaying⟩ := hkept
      by_cases haddr : addr' = addr
      · subst haddr
        rw [hs] at hs₁
        cases hs₁
        refine ⟨s.offline j, by rw [Server.setSession_heap, if_pos rfl], hj', ?_⟩
        simp only [Session.offline]
        rwa [Session.setSlot_of_ne s _ fun hsame => hother ⟨rfl, hsame⟩]
      · exact ⟨s₁, by rw [Server.setSession_heap, if_neg haddr, hs₁], hj', hplaying⟩
    | sendFailed => trivial
    | dropped => exact hkept
    | tornDown => exact hkept

theorem Kept.nobody {c : Conc} (h : c.Kept) {addr : Nat} (hempty : c.server.Empty addr)
    (id j : Nat) : c.fate id ≠ some (.stored addr j) := by
  intro hfate
  obtain ⟨s, hs, hzero⟩ := hempty
  obtain ⟨s₁, hs₁, hj, hplaying⟩ := h.stored hfate
  rw [hs] at hs₁
  cases hs₁
  exact (h.base.sessions addr s hs).count_ne_zero hj hplaying hzero

theorem tear_fate {c : Conc} {addr : Nat} (h : ∀ id j, c.fate id ≠ some (.stored addr j)) :
    (c.tear addr).fate = c.fate := by
  funext id
  simp only [tear]
  split
  · rename_i addr₁ j hfate
    rw [if_neg, hfate]
    rintro rfl
    exact h id j hfate
  · rfl

/-- **Careful steps tear nobody down, and drop nobody.** -/
theorem Kept.moves {c c' : Conc} {l : Label} (h : c.Kept) (hrouted : c.Routed)
    (hcareful : c.Careful l) (hmoves : Moves c l c') : c'.Kept := by
  have hbase : c'.Base := by
    refine h.base.moves hmoves fun id a pos hcall hl => ?_
    obtain ⟨addr, audioType, mem, rfl⟩ := hl
    change c.entryNull (c.calls id) = true at hcareful
    rw [hcall] at hcareful
    exact Option.isNone_iff_eq_none.mp hcareful
  have hsetSession : ∀ {addr : Nat} {s s' : Session}, c.server.heap addr = some s →
      s.Evolves s' → ∀ id fate, c.fate id = some fate →
      fate.Kept (c.server.setSession addr s') :=
    fun hs hevolves id fate hfate =>
      (h.fates id fate hfate).mono fun _ _ hplays => hplays.setSession hs hevolves
  cases hmoves with
  | @joined id a audioType mem addr j s s' hsd hs hjoin hlookup =>
    have hevolves := Session.Evolves.join hjoin
    have hplays : (c.server.setSession addr s').Plays addr j := by
      obtain ⟨hj, hfree, rfl⟩ := Session.join_some hjoin
      refine ⟨_, by rw [Server.setSession_heap, if_pos rfl], hj, ?_⟩
      have hidle := (h.base.sessions addr s hs).idle hj hfree
      simpa using playing_setClient hidle a hsd audioType mem j
    refine ⟨hbase, h.dying.mono fun addr' hempty => ?_, h.refused,
      fates_store id hplays (hsetSession hs hevolves)⟩
    exact hempty.setSession hs fun hzero => absurd hzero (hcareful.joined hlookup hs)
  | full => exact ⟨hbase, h.dying, h.refused, h.fates⟩
  | missing _ _ _ => exact ⟨hbase, h.dying, h.refused, h.fates⟩
  | @created id addr a audioType mem pos hcall hfree hpos =>
    have hold : ∀ id fate, c.fate id = some fate →
        fate.Kept (c.server.addSession addr pos a audioType mem) := by
      intro id fate hfate
      refine (h.fates id fate hfate).mono ?_
      rintro addr' j ⟨s, hs, hplays⟩
      exact ⟨s, Server.addSession_heap_of_some hfree hs, hplays⟩
    have hplays : (c.server.addSession addr pos a audioType mem).Plays addr 0 :=
      ⟨_, by rw [Server.addSession_heap, if_pos rfl], by decide,
        playing_setClient (idle_initClient _) a (h.base.calls id a pos hcall) audioType mem 0⟩
    refine ⟨hbase, h.dying.mono ?_, h.refused, fates_store id hplays hold⟩
    rintro addr' ⟨s, hs, hzero⟩
    exact ⟨s, Server.addSession_heap_of_some hfree hs, hzero⟩
  | counted => exact ⟨hbase, h.dying, h.refused, h.fates⟩
  | @served addr s m fresh hs =>
    have hok := h.base.sessions addr s hs
    refine ⟨hbase, h.dying.mono fun addr' hempty => hempty.setSession hs fun hzero => ?_,
      h.refused, hsetSession hs (.callback hok m fresh)⟩
    rw [Session.mediaCallBack_eq hok]
    exact hzero
  | quiet => exact h
  | @taken addr j fd node node' s client hs hj hdequeue =>
    have hplaying := (h.base.sessions addr s hs).playing_of_dequeue hj hdequeue
    refine ⟨hbase, ?_, ?_, hsetSession hs (.setSlot s (hplaying.dequeue hdequeue))⟩
    all_goals
      dsimp only
      split_ifs <;> trivial
  | @sent env result addr j fd ret node s client w hepoll hs htransmit =>
    obtain ⟨s₁, hs₁, hj, hplaying⟩ : c.server.Plays addr j := by
      have := h.base.epoll
      rwa [hepoll] at this
    rw [hs] at hs₁
    cases hs₁
    refine ⟨hbase, ?_, ?_, hsetSession hs (.setSlot s (hplaying.transmit htransmit))⟩
    · dsimp only
      split_ifs <;> trivial
    · have hfair : c.sendFair env result c.epoll = true := hcareful
      rw [hepoll, sendFair, hs, Option.all_some] at hfair
      dsimp only
      split_ifs with hret
      · exact hrouted.failed_of_fair hepoll hs hfair htransmit hret
      · trivial
  | @cleared addr j failed s hepoll hs =>
    have hrefused := h.refused
    rw [hepoll] at hrefused
    obtain rfl : failed = true := hrefused
    refine ⟨hbase, fun hzero => ⟨s.offline j, ?_, hzero⟩, trivial, h.fates_cleared hs⟩
    rw [Server.setSession_heap, if_pos rfl]
  | @summed addr count s hepoll hs =>
    refine ⟨hbase, ?_, ?_, h.fates⟩
    · have hdying := h.dying
      rw [hepoll] at hdying
      dsimp only
      split_ifs with hzero
      · exact hdying hzero
      · trivial
    · dsimp only
      split_ifs <;> trivial
  | @stopped addr pos hepoll =>
    have hdying := h.dying
    rw [hepoll] at hdying
    exact ⟨hbase, hdying, trivial, h.fates⟩
  | gone hepoll harr => exact ⟨hbase, trivial, trivial, h.fates⟩
  | @deleted addr pos addr' hepoll harr =>
    -- the session that is deleted is the one without clients
    obtain rfl : addr = addr' := Option.some.inj ((h.base.deleting hepoll).symm.trans harr)
    have hempty := h.dying
    rw [hepoll] at hempty
    have hnobody := h.nobody hempty
    refine ⟨hbase, trivial, trivial, fun id fate hfate => ?_⟩
    change (c.tear addr).fate id = some fate at hfate
    rw [tear_fate hnobody] at hfate
    have hkept := h.fates id fate hfate
    cases fate with
    | stored addr₁ j =>
      obtain ⟨s₁, hs₁, hplays⟩ := hkept
      refine ⟨s₁, ?_, hplays⟩
      rw [Server.delSession_heap, if_neg, hs₁]
      rintro rfl
      exact hnobody id j hfate
    | sendFailed => trivial
    | dropped => exact hkept
    | tornDown => exact hkept
  | unsummed => exact ⟨hbase, trivial, trivial, h.fates⟩

theorem Careful.opened {c : Conc} {l : Label} (h : c.Careful l) (id : Nat) (a : AddArgs)
    (audioType : AudioE) (mem : Fresh) (hl : l = .lookup id a audioType mem) : a.Opened := by
  subst hl
  exact of_decide_eq_true (Bool.and_eq_true_iff.mp h).1

theorem kept_reach {c : Conc} (h : Reach step Careful init c) : c.Kept ∧ c.Routed := by
  induction h with
  | start => exact ⟨kept_init, Routed.init⟩
  | next l _ hcareful hstep ih =>
    obtain ⟨hkept, hrouted⟩ := ih
    exact ⟨hkept.moves hrouted hcareful (moves_of_step hstep), hrouted.step hcareful.opened hstep⟩

/-- **Nobody is torn down or dropped.** In every run of careful steps a client, once stored in a
session, plays in it until a call of its own send is refused. -/
theorem never_tornDown (c : Conc) (h : Reach step Careful init c) (id : Nat) :
    c.fate id ≠ some .tornDown ∧ c.fate id ≠ some .dropped ∧
      ∀ addr j, c.fate id = some (.stored addr j) → c.server.Plays addr j := by
  obtain ⟨hkept, -⟩ := kept_reach h
  exact ⟨fun hfate => hkept.fates id _ hfate, fun hfate => hkept.fates id _ hfate,
    fun _ _ hfate => hkept.stored hfate⟩

/-- The only player of a session gets a packet and leaves. -/
def leaves (a : AddArgs) (fd : Int) (m : Delivery) (env : SendEnv) (result : Nat → Nat → Int) :
    List Label :=
  [.lookup 1 a .aac zeroFresh, .addSession 1 1 .aac zeroFresh, .count 1,
    .callback 1 m fun _ _ _ => zeroPacket, .event 1 0 fd zeroPacket, .transmit env result, .offline]

/-- A call of its send is refused. -/
def lastLeaves : List Label := leaves (tcpPlayer 7) 7 (nalDelivery 1) zeroEnv fun _ _ => -1

def deletion : List Label := [.sumDown, .destroyMedia, .delSession, .sumSub]

/-- Its session is deleted, then the next one joins. -/
theorem never_tornDown_later :
    ∃ c, Reach step Careful init c ∧ c.fate 1 = some .sendFailed ∧
      (c.fate 2).isSome ∧ c.fate 2 ≠ some .tornDown ∧ c.fate 2 ≠ some .dropped := by
  let labels := lastLeaves ++ deletion ++
    [.lookup 2 (tcpPlayer 8) .aac zeroFresh, .addSession 2 2 .aac zeroFresh]
  have hrun : (runs (fun c l => if Careful c l then step c l else none) init labels).map
      (fun c => (c.fate 1, (c.fate 2).isSome)) = some (some .sendFailed, true) := by
    decide +kernel
  obtain ⟨c, hc, hfate⟩ := Option.map_eq_some_iff.mp hrun
  obtain ⟨hfirst, hsecond⟩ := Prod.mk.inj hfate
  have hreach := Reach.of_runs_guard labels hc
  obtain ⟨htorn, hdropped, -⟩ := never_tornDown c hreach 2
  exact ⟨c, hreach, hfirst, hsecond, htorn, hdropped⟩

/-- The next player joins before the session is deleted; and a player leaves without a refused call:
its audio has no packetiser, it has closed its RTSP connection, or `ret` held a large negative
number. -/
theorem tornDown_between :
    (∃ c, runs step init (lastLeaves ++ [.lookup 2 (tcpPlayer 8) .aac zeroFresh] ++ deletion) =
        some c ∧ c.fate 1 = some .sendFailed ∧ c.fate 2 = some .tornDown) ∧
      (∃ c, runs step init (leaves (tcpPlayer 7) 7 audioDelivery
        { zeroEnv with audioType := .none } fun _ n => n) = some c ∧
        c.fate 1 = some .dropped) ∧
      (∃ c, runs step init (leaves udpPlayer 4 (nalDelivery 1)
        { zeroEnv with hungUp := true } fun _ n => n) = some c ∧ c.fate 1 = some .dropped) ∧
      ∃ c, runs step init (leaves udpPlayer 6 audioDelivery
        { zeroEnv with ret₀ := -1000 } fun _ n => n) = some c ∧ c.fate 1 = some .dropped := by
  have hrun : (runs step init (lastLeaves ++ [.lookup 2 (tcpPlayer 8) .aac zeroFresh] ++
      deletion)).map (fun c => (c.fate 1, c.fate 2)) =
      some (some .sendFailed, some .tornDown) := by
    decide +kernel
  obtain ⟨c, hc, hfate⟩ := Option.map_eq_some_iff.mp hrun
  have hdropped : ∀ labels, (runs step init labels).map (fun c => c.fate 1) =
      some (some .dropped) → ∃ c, runs step init labels = some c ∧ c.fate 1 = some .dropped :=
    fun _ h => Option.map_eq_some_iff.mp h
  refine ⟨⟨c, hc, (Prod.mk.inj hfate).1, (Prod.mk.inj hfate).2⟩, ?_, ?_, ?_⟩
  · exact hdropped _ (by decide +kernel)
  · exact hdropped _ (by decide +kernel)
  · exact hdropped _ (by decide +kernel)

end Conc

end SimpleRtsp

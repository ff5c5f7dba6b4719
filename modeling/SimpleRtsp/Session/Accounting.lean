import Mathlib.Algebra.BigOperators.Group.Finset.Basic
import Mathlib.Algebra.Order.BigOperators.Group.Finset
import SimpleRtsp.Session.Server

/-!
# Clients and counters

Here a whole `addClient` and the whole handling of a client that goes offline are one step each.
Four records have to agree after every step: the `sd` of every slot, the `count` of every session,
the global `sum_client`, and the position of every session in the table. `Consistent` is their
joint invariant and `consistent_reachable` says that it always holds.
-/

namespace SimpleRtsp

namespace Session

/-- What holds of the session at `addr`: `count` is the number of occupied slots, and every slot
belongs to the session. -/
structure Counted (addr : Nat) (s : Session) : Prop where
  count : s.count = used (fun c : Clientinfo => c.sd ≠ -1) s.clientinfo CLIENTMAX
  sds : ∀ j < CLIENTMAX, (s.clientinfo j).sd = -1 ∨ 0 < (s.clientinfo j).sd
  own : ∀ j < CLIENTMAX, (s.clientinfo j).session = some addr

theorem setClient_sd (a : AddArgs) (audioType : AudioE) (mem : Fresh) (slot : Nat)
    (c : Clientinfo) : (setClient a audioType mem slot c).sd = a.clientSockFd := by
  simp [setClient, setBuffers]

theorem setClient_session (a : AddArgs) (audioType : AudioE) (mem : Fresh) (slot : Nat)
    (c : Clientinfo) : (setClient a audioType mem slot c).session = c.session := by
  simp only [setClient, setTransport, setBuffers, eventAdd]
  split_ifs <;> rfl

theorem Counted.setSlot {addr : Nat} {s : Session} (h : s.Counted addr) {j : Nat}
    (hj : j < CLIENTMAX) {c : Clientinfo} (hsd : c.sd = -1 ∨ 0 < c.sd)
    (hown : c.session = (s.clientinfo j).session) {count : Int}
    (hcount : count + (if (s.clientinfo j).sd ≠ -1 then 1 else 0) =
      s.count + if c.sd ≠ -1 then 1 else 0) :
    Counted addr { s.setSlot j c with count := count } where
  count := by
    have hupdate := used_update s.clientinfo hj c (p := fun c : Clientinfo => c.sd ≠ -1)
    rw [h.count] at hcount
    simp only [Session.setSlot]
    split_ifs at hupdate hcount <;> omega
  sds i hi := by
    by_cases hij : i = j
    · subst hij
      simpa using hsd
    · simp only [setSlot_of_ne s c hij]
      exact h.sds i hi
  own i hi := by
    by_cases hij : i = j
    · subst hij
      simp only [setSlot_self]
      exact hown.trans (h.own i hi)
    · simp only [setSlot_of_ne s c hij]
      exact h.own i hi

theorem counted_create (addr : Nat) {a : AddArgs} (hsd : 0 < a.clientSockFd) (audioType : AudioE)
    (mem : Fresh) (pos : Nat) : (create addr a audioType mem pos).Counted addr := by
  let c : Clientinfo := { initClient with session := some addr }
  let s : Session := ⟨a.pathFilename, fun _ => c, 0, pos⟩
  have hempty : s.Counted addr :=
    { count := by
        have hnone : used (fun c : Clientinfo => c.sd ≠ -1) s.clientinfo CLIENTMAX = 0 :=
          used_eq_zero.mpr fun _ _ hsd => hsd rfl
        rw [hnone]
        rfl
      sds := fun _ _ => Or.inl rfl
      own := fun _ _ => rfl }
  refine hempty.setSlot (j := 0) (by decide) ?_ (setClient_session a audioType mem 0 c) ?_
  · rw [setClient_sd]
    exact Or.inr hsd
  · rw [setClient_sd, if_neg (by simp [s, c, initClient]), if_pos (by omega)]
    rfl

theorem Counted.join {addr : Nat} {s s' : Session} (h : s.Counted addr) {a : AddArgs}
    (hsd : 0 < a.clientSockFd) {audioType : AudioE} {mem : Fresh} {j : Nat}
    (hjoin : s.join a audioType mem = some (j, s')) : s'.Counted addr := by
  obtain ⟨hj, hfree, rfl⟩ := join_some hjoin
  refine h.setSlot hj ?_ (setClient_session _ _ _ _ _) ?_
  · rw [setClient_sd]
    exact Or.inr hsd
  · rw [setClient_sd, if_neg (by simp [hfree]), if_pos (by omega)]
    simp

theorem Counted.offline {addr : Nat} {s : Session} (h : s.Counted addr) {j : Nat}
    (hj : j < CLIENTMAX) (hsd : (s.clientinfo j).sd ≠ -1) : (s.offline j).Counted addr := by
  have hclosed : (clearClient (s.clientinfo j)).sd = -1 := if_pos ((h.sds j hj).resolve_left hsd)
  refine h.setSlot hj (Or.inl hclosed) rfl ?_
  rw [hclosed, if_pos hsd]
  simp [Session.setSlot]

theorem Counted.nobody {addr : Nat} {s : Session} (h : s.Counted addr) (hcount : s.count = 0) :
    ∀ j < CLIENTMAX, (s.clientinfo j).sd = -1 := by
  have hused := h.count
  rw [hcount] at hused
  intro j hj
  exact not_not.mp (used_eq_zero.mp (Int.natCast_eq_zero.mp hused.symm) j hj)

end Session

namespace Server

def countAt (S : Server) (i : Nat) : Int :=
  ((S.sessionArr i).bind S.heap).elim 0 Session.count

/-- The rest of `addClient` after its first critical section; `addr` is the address of a new
session, if it needs one. -/
def finish (addr : Nat) (a : AddArgs) (audioType : AudioE) (mem : Fresh) :
    Lookup × Server → Option Server
  | (.joined _ _, S) => some (S.addSum 1)
  | (.full, S) => some S
  | (.missing pos, S) =>
    if pos < FILEMAX ∧ (S.heap addr).isNone then
      some ((S.addSession addr pos a audioType mem).addSum 1)
    else none

/-- `addClient` in one step. -/
def addClient (addr : Nat) (a : AddArgs) (audioType : AudioE) (mem : Fresh) (S : Server) :
    Option Server :=
  finish addr a audioType mem (S.lookup a audioType mem)

/-- The last client of a session is gone: `delSession(clientinfo->session->pos)`. -/
def dropSession (pos : Nat) (S : Server) : Option Server :=
  (S.sessionArr pos).map fun addr =>
    let (clientNum, S) := S.delSession pos addr
    S.addSum (-clientNum)

/-- The client in slot `j` of the session at `addr` goes offline, in one step. -/
def clientOffline (addr j : Nat) (S : Server) : Option Server :=
  match S.heap addr with
  | none => none
  | some s =>
    if j < CLIENTMAX ∧ (s.clientinfo j).sd ≠ -1 then
      let s := s.offline j
      let S := (S.setSession addr s).addSum (-1)
      if s.count = 0 then S.dropSession s.pos else some S
    else none

inductive Label where
  | addClient (addr : Nat) (a : AddArgs) (audioType : AudioE) (mem : Fresh)
  | clientOffline (addr j : Nat)

/-- A client with a positive socket is added, or one goes offline. -/
def step (S : Server) : Label → Option Server
  | .addClient addr a audioType mem =>
    if 0 < a.clientSockFd then S.addClient addr a audioType mem else none
  | .clientOffline addr j => S.clientOffline addr j

/-- The joint invariant of table, sessions, slots and counters. -/
structure Consistent (S : Server) : Prop where
  linked : S.Linked
  sessions : ∀ addr s, S.heap addr = some s → s.Counted addr ∧ 1 ≤ s.count
  names : S.Distinct
  sum : S.sumClient = ∑ i ∈ Finset.range FILEMAX, S.countAt i

theorem consistent_init : init.Consistent where
  linked := linked_init
  sessions := nofun
  names := nofun
  sum := (Finset.sum_eq_zero fun _ _ => rfl).symm

variable {S : Server}

theorem sum_countAt (S S' : Server) {pos : Nat} (hpos : pos < FILEMAX)
    (hother : ∀ i, i ≠ pos → S'.countAt i = S.countAt i) :
    ∑ i ∈ Finset.range FILEMAX, S'.countAt i =
      (∑ i ∈ Finset.range FILEMAX, S.countAt i) - S.countAt pos + S'.countAt pos := by
  have hmem := Finset.mem_range.mpr hpos
  have hrest : ∑ i ∈ (Finset.range FILEMAX).erase pos, S'.countAt i =
      ∑ i ∈ (Finset.range FILEMAX).erase pos, S.countAt i :=
    Finset.sum_congr rfl fun i hi => hother i (Finset.ne_of_mem_erase hi)
  have hafter : ∑ i ∈ Finset.range FILEMAX, S'.countAt i =
      S'.countAt pos + ∑ i ∈ (Finset.range FILEMAX).erase pos, S'.countAt i :=
    (Finset.add_sum_erase _ _ hmem).symm
  have hbefore : ∑ i ∈ Finset.range FILEMAX, S.countAt i =
      S.countAt pos + ∑ i ∈ (Finset.range FILEMAX).erase pos, S.countAt i :=
    (Finset.add_sum_erase _ _ hmem).symm
  omega

theorem Linked.countAt (h : S.Linked) {addr : Nat} {s : Session} (hs : S.heap addr = some s) :
    S.countAt s.pos = s.count := by
  rw [Server.countAt, h.heap addr s hs, Option.bind_some, hs]
  rfl

theorem Linked.countAt_setSession (h : S.Linked) {addr : Nat} {s s' : Session}
    (hs : S.heap addr = some s) (i : Nat) :
    (S.setSession addr s').countAt i = if i = s.pos then s'.count else S.countAt i := by
  unfold Server.countAt
  change ((S.sessionArr i).bind (S.setSession addr s').heap).elim 0 Session.count = _
  by_cases hi : i = s.pos
  · rw [if_pos hi, hi, h.heap addr s hs, Option.bind_some, setSession_heap, if_pos rfl]
    rfl
  · rw [if_neg hi]
    cases harr : S.sessionArr i with
    | none => rfl
    | some addr' =>
      rw [Option.bind_some, Option.bind_some, setSession_heap, if_neg]
      rintro rfl
      obtain ⟨-, s₁, hs₁, hpos⟩ := h.table i _ harr
      rw [hs] at hs₁
      cases hs₁
      exact hi hpos.symm

theorem Consistent.setSession (h : S.Consistent) {addr : Nat} {s s' : Session}
    (hs : S.heap addr = some s) (hpos : s'.pos = s.pos) (hname : s'.filename = s.filename)
    (hcounted : s'.Counted addr) (hcount : 1 ≤ s'.count) :
    ((S.setSession addr s').addSum (s'.count - s.count)).Consistent where
  linked := (h.linked.setSession hs hpos).addSum _
  sessions addr₁ s₁ hs₁ := by
    change (S.setSession addr s').heap addr₁ = some s₁ at hs₁
    rw [setSession_heap] at hs₁
    split_ifs at hs₁ with haddr
    · cases hs₁
      exact haddr ▸ ⟨hcounted, hcount⟩
    · exact h.sessions addr₁ s₁ hs₁
  names := h.names.setSession hs hname
  sum := by
    have harr := h.linked.heap addr s hs
    have hsum := sum_countAt S (S.setSession addr s') (h.linked.table _ _ harr).1 fun i hi => by
      rw [h.linked.countAt_setSession hs, if_neg hi]
    rw [h.linked.countAt_setSession hs, if_pos rfl, h.linked.countAt hs, ← h.sum] at hsum
    change S.sumClient + (s'.count - s.count) = ∑ i ∈ Finset.range FILEMAX,
      (S.setSession addr s').countAt i
    rw [hsum]
    omega

theorem clientNum_eq {addr : Nat} {s : Session} (h : s.Counted addr) : clientNum s = s.count := by
  have hused : used (fun c : Clientinfo => 0 < c.sd) s.clientinfo CLIENTMAX =
      used (fun c : Clientinfo => c.sd ≠ -1) s.clientinfo CLIENTMAX := by
    apply used_congr
    intro j hj
    have hsd := h.sds j hj
    omega
  rw [h.count, clientNum, hused]

theorem Linked.countAt_delSession (h : S.Linked) {addr pos : Nat}
    (harr : S.sessionArr pos = some addr) (i : Nat) :
    (S.delSession pos addr).2.countAt i = if i = pos then 0 else S.countAt i := by
  obtain ⟨-, s, hs, hpos⟩ := h.table pos addr harr
  simp only [Server.countAt, Server.delSession, Function.update_apply]
  split_ifs with hi
  · rfl
  · cases harr' : S.sessionArr i with
    | none => rfl
    | some addr' =>
      rw [Option.bind_some, Option.bind_some, if_neg]
      intro haddr
      obtain ⟨-, s', hs', hpos'⟩ := h.table i _ harr'
      rw [haddr, hs] at hs'
      rw [← Option.some.inj hs', hpos] at hpos'
      exact hi hpos'.symm

theorem dropSession_spec (h : S.Linked) {addr : Nat} {s : Session}
    (hs : S.heap addr = some s) (hcounted : s.Counted addr) (hcount : s.count = 0) {S' : Server}
    (hdrop : S.dropSession s.pos = some S') :
    S'.Linked ∧ (∀ addr', S'.heap addr' = if addr' = addr then none else S.heap addr') ∧
      S'.sumClient = S.sumClient ∧
      ∀ i, S'.countAt i = if i = s.pos then 0 else S.countAt i := by
  have harr := h.heap addr s hs
  rw [dropSession, harr] at hdrop
  cases hdrop
  refine ⟨(h.delSession harr).addSum _, fun addr' => ?_, ?_, fun i => ?_⟩
  · exact delSession_heap s.pos addr addr'
  · have hnum : (S.delSession s.pos addr).1 = 0 := by
      rw [delSession, hs, Option.elim_some, clientNum_eq hcounted, hcount]
    show S.sumClient + -(S.delSession s.pos addr).1 = S.sumClient
    omega
  · exact h.countAt_delSession harr i

theorem Consistent.clientOffline (h : S.Consistent) {addr j : Nat} {S' : Server}
    (hoffline : S.clientOffline addr j = some S') : S'.Consistent := by
  rw [Server.clientOffline] at hoffline
  split at hoffline
  · cases hoffline
  rename_i s hs
  obtain ⟨⟨hj, hsd⟩, hnext⟩ := Option.ite_none_right_eq_some.mp hoffline
  obtain ⟨hcounted, hcount⟩ := h.sessions addr s hs
  have hcounted' := hcounted.offline hj hsd
  obtain ⟨hpos, hname, hminus⟩ := s.offline_frame j
  dsimp only at hnext
  split_ifs at hnext with hlast
  · -- the session goes with its last client
    have hlinked : ((S.setSession addr (s.offline j)).addSum (-1)).Linked :=
      (h.linked.setSession hs hpos).addSum _
    have hs' : ((S.setSession addr (s.offline j)).addSum (-1)).heap addr = some (s.offline j) :=
      (S.setSession_heap addr (s.offline j) addr).trans (if_pos rfl)
    obtain ⟨hlinked', hheap, hsum, hcountAt⟩ :=
      dropSession_spec hlinked hs' hcounted' hlast hnext
    rw [hpos] at hcountAt
    have hheap' : ∀ addr' s', S'.heap addr' = some s' → S.heap addr' = some s' := by
      intro addr' s' hs'
      rw [hheap] at hs'
      split_ifs at hs' with haddr
      simpa [addSum, setSession_heap, haddr] using hs'
    refine ⟨hlinked', fun addr' s' hs' => h.sessions addr' s' (hheap' _ _ hs'),
      fun addr₁ s₁ addr₂ s₂ hs₁ hs₂ => h.names addr₁ s₁ addr₂ s₂ (hheap' _ _ hs₁) (hheap' _ _ hs₂),
      ?_⟩
    have harr := h.linked.heap addr s hs
    have hsum' := sum_countAt S S' (h.linked.table _ _ harr).1 fun i hi => by
      rw [hcountAt, if_neg hi]
      exact (h.linked.countAt_setSession hs i).trans (if_neg hi)
    rw [hcountAt, if_pos rfl, h.linked.countAt hs, ← h.sum] at hsum'
    have hone : s.count = 1 := by
      omega
    rw [hsum, hsum', hone]
    change S.sumClient + -1 = S.sumClient - 1 + 0
    omega
  · cases hnext
    have hnext := h.setSession hs hpos hname hcounted' (by omega)
    rwa [hminus, show s.count - 1 - s.count = -1 by omega] at hnext

theorem Consistent.addSession (h : S.Consistent) {addr pos : Nat} (hfree : S.heap addr = none)
    (hpos : pos < FILEMAX) (hnull : S.sessionArr pos = none) {a : AddArgs}
    (hsd : 0 < a.clientSockFd)
    (hname : ∀ addr' s, S.heap addr' = some s → s.filename ≠ a.pathFilename) (audioType : AudioE)
    (mem : Fresh) : ((S.addSession addr pos a audioType mem).addSum 1).Consistent := by
  let s : Session := .create addr a audioType mem pos
  have hheap : ∀ addr', ((S.addSession addr pos a audioType mem).addSum 1).heap addr' =
      if addr' = addr then some s else S.heap addr' := S.setSession_heap addr s
  refine ⟨(h.linked.addSession hfree hpos hnull a audioType mem).addSum 1, ?_, ?_, ?_⟩
  · intro addr' s' hs'
    rw [hheap] at hs'
    split_ifs at hs' with haddr
    · cases hs'
      exact haddr ▸ ⟨Session.counted_create addr hsd audioType mem pos, le_refl (1 : Int)⟩
    · exact h.sessions addr' s' hs'
  · exact h.names.addSession ⟨hnull, hname⟩ audioType mem
  · have hcountAt : ∀ i, ((S.addSession addr pos a audioType mem).addSum 1).countAt i =
        if i = pos then 1 else S.countAt i := by
      intro i
      simp only [Server.countAt, Server.addSum, Server.addSession, setSession_heap,
        Function.update_apply]
      split_ifs with hi
      · simp [Session.create]
      · cases harr : S.sessionArr i with
        | none => rfl
        | some addr' =>
          obtain ⟨-, s', hs', -⟩ := h.linked.table i addr' harr
          rw [Option.bind_some, Option.bind_some, if_neg]
          rintro rfl
          rw [hfree] at hs'
          cases hs'
    have hsum := sum_countAt S ((S.addSession addr pos a audioType mem).addSum 1) hpos
      fun i hi => by rw [hcountAt, if_neg hi]
    have hzero : S.countAt pos = 0 := by
      rw [Server.countAt, hnull]
      rfl
    rw [hcountAt, if_pos rfl, hzero, ← h.sum] at hsum
    rw [hsum]
    change S.sumClient + 1 = S.sumClient - 0 + 1
    omega

theorem Consistent.addClient (h : S.Consistent) {addr : Nat} {a : AddArgs}
    (hsd : 0 < a.clientSockFd) {audioType : AudioE} {mem : Fresh} {S' : Server}
    (hadd : S.addClient addr a audioType mem = some S') : S'.Consistent := by
  rw [Server.addClient] at hadd
  obtain ⟨addr', j, s, s', hs, hjoin, hr⟩ | hr | ⟨pos, hnone, hnull, hr⟩ :=
    lookup_cases (rfl : S.lookup a audioType mem = _)
  · rw [hr] at hadd
    cases hadd
    obtain ⟨hcounted, hcount⟩ := h.sessions addr' s hs
    obtain ⟨hpos, hname, hplus⟩ := Session.join_frame hjoin
    have hnext := h.setSession hs hpos hname (hcounted.join hsd hjoin) (by omega)
    rwa [hplus, show s.count + 1 - s.count = 1 by omega] at hnext
  · rw [hr] at hadd
    cases hadd
    exact h
  · rw [hr] at hadd
    obtain ⟨⟨hpos, hfree⟩, hnext⟩ := Option.ite_none_right_eq_some.mp hadd
    cases hnext
    exact h.addSession (Option.isNone_iff_eq_none.mp hfree) hpos (hnull hpos) hsd
      (fun _ _ hs => h.linked.filename_ne hnone hs) audioType mem

theorem Consistent.step (h : S.Consistent) {l : Label} {S' : Server}
    (hstep : S.step l = some S') : S'.Consistent := by
  cases l with
  | addClient addr a audioType mem =>
    obtain ⟨hsd, hadd⟩ := Option.ite_none_right_eq_some.mp hstep
    exact h.addClient hsd hadd
  | clientOffline addr j => exact h.clientOffline hstep

/-- **Clients and counters.** In every state reached from the empty server, each session's `count`
is the number of its occupied slots and at least 1, every slot belongs to its session, table and
sessions agree on positions, no two sessions have the same name, and `sum_client` is the sum of
the counts. -/
theorem consistent_reachable (S : Server) (h : Reach step anyStep init S) : S.Consistent :=
  h.invariant consistent_init fun _ _ _ hok _ hstep => hok.step hstep

/-- Two players of one file, the first of which leaves. -/
def firstPlayerLeaves : List Label :=
  [.addClient 1 (tcpPlayer 7) .aac zeroFresh, .addClient 2 (tcpPlayer 8) .aac zeroFresh,
    .clientOffline 1 0]

theorem consistent_firstPlayerLeaves :
    ∃ S, runs step init firstPlayerLeaves = some S ∧ S.sumClient = 1 ∧ S.Consistent := by
  have hsum : (runs step init firstPlayerLeaves).map Server.sumClient = some 1 := by
    decide +kernel
  obtain ⟨S, hS, hsum⟩ := Option.map_eq_some_iff.mp hsum
  exact ⟨S, hS, hsum, consistent_reachable S (.of_runs firstPlayerLeaves hS)⟩

end Server

end SimpleRtsp

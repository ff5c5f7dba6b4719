import SimpleRtsp.Session.Capacity
import SimpleRtsp.Session.Sockets

/-!
# Shutting down

`moduleDel` calls `delSession` for all entries of the table while nothing else runs. `delSession`
reads `session_arr[pos]->media` before it asks whether there is a session, so the loop ends well
exactly if every entry is in use (`deletes_iff`). Where it gets to the end, every step keeps the
table `Consistent`, and so `sum_client` is what is left of the counts: nothing.
-/

namespace SimpleRtsp

/-- The table, the descriptors taken out of epoll and the descriptors closed. -/
structure Removal where
  server : Server
  removed : List Int
  closed : List Int

namespace Removal

/-- The session is torn down: its slots are taken out of epoll and cleared, then it is freed. -/
def tear (R : Removal) (pos addr : Nat) (s : Session) : Removal :=
  let clients := (List.range CLIENTMAX).map s.clientinfo
  let (clientNum, S) := R.server.delSession pos addr
  { server := S.addSum (-clientNum)
    removed := R.removed ++ (clients.filter fun c => 0 < c.sd).flatMap Clientinfo.watches
    closed := R.closed ++ clients.flatMap Clientinfo.closes }

def delSession (R : Removal) (pos : Nat) : Except Outside Removal := do
  -- `session_arr[pos]->media`, before the test for `NULL`
  let addr ← (← R.server.entry pos).elim (.error .session) .ok
  let s ← R.server.session addr
  pure (R.tear pos addr s)

/-- The loop of `moduleDel` over table entries. -/
def delSessions : List Nat → Removal → Except Outside Removal
  | [], R => .ok R
  | pos :: rest, R => do
    let R ← R.delSession pos
    delSessions rest R

end Removal

def Server.moduleDel (S : Server) : Except Outside Removal :=
  Removal.delSessions (List.range FILEMAX) ⟨S, [], []⟩

/-- The sockets of every client of the session are closed, and what epoll watches for it is taken
out. -/
def Removal.Gone (R : Removal) (s : Session) : Prop :=
  ∀ j < CLIENTMAX, (s.clientinfo j).sd ≠ -1 → (s.clientinfo j).sd ∈ R.closed ∧
    (s.clientinfo j).closes ⊆ R.closed ∧ (s.clientinfo j).watches ⊆ R.removed

/-- `moduleDel` gets to its end, and nothing is left of the sessions. -/
def Server.Deletes (S : Server) : Prop :=
  ∃ R, S.moduleDel = .ok R ∧ (∀ i < FILEMAX, R.server.sessionArr i = none) ∧
    (∀ addr s, S.heap addr = some s → R.Gone s) ∧ R.server.sumClient = 0

namespace Server

variable {S : Server}

theorem Consistent.delSession (h : S.Consistent) {pos addr : Nat}
    (harr : S.sessionArr pos = some addr) :
    ((S.delSession pos addr).2.addSum (-(S.delSession pos addr).1)).Consistent := by
  obtain ⟨hlt, s, hs, hpos⟩ := h.linked.table pos addr harr
  let S' : Server := (S.delSession pos addr).2.addSum (-(S.delSession pos addr).1)
  have hheap : ∀ addr' s', S'.heap addr' = some s' → S.heap addr' = some s' := by
    intro addr' s' hs'
    have hs'' : (S.delSession pos addr).2.heap addr' = some s' := hs'
    rw [delSession_heap] at hs''
    split_ifs at hs''
    exact hs''
  have hcountAt : ∀ i, S'.countAt i = if i = pos then 0 else S.countAt i :=
    h.linked.countAt_delSession harr
  refine ⟨(h.linked.delSession harr).addSum _,
    fun addr' s' hs' => h.sessions addr' s' (hheap _ _ hs'),
    fun addr₁ s₁ addr₂ s₂ hs₁ hs₂ => h.names addr₁ s₁ addr₂ s₂ (hheap _ _ hs₁) (hheap _ _ hs₂), ?_⟩
  have hsum := sum_countAt S S' hlt fun i hi => by rw [hcountAt, if_neg hi]
  have hhere : S.countAt pos = s.count := by
    rw [← hpos]
    exact h.linked.countAt hs
  have hnum : (S.delSession pos addr).1 = s.count := by
    rw [Server.delSession, hs, Option.elim_some, clientNum_eq (h.sessions addr s hs).1]
  rw [hcountAt, if_pos rfl, hhere, ← h.sum] at hsum
  show S.sumClient + -(S.delSession pos addr).1 = ∑ i ∈ Finset.range FILEMAX, S'.countAt i
  omega

end Server

namespace Removal

variable {R R' : Removal} {pos : Nat}

theorem Gone.mono {s : Session} (h : R.Gone s) (hremoved : R.removed ⊆ R'.removed)
    (hclosed : R.closed ⊆ R'.closed) : R'.Gone s := by
  intro j hj hsd
  obtain ⟨hmem, hcloses, hwatches⟩ := h j hj hsd
  exact ⟨hclosed hmem, fun fd hfd => hclosed (hcloses hfd), fun fd hfd => hremoved (hwatches hfd)⟩

theorem gone_tear {addr : Nat} {s : Session} (hcounted : s.Counted addr) :
    (R.tear pos addr s).Gone s := by
  intro j hj hsd
  have hpositive : 0 < (s.clientinfo j).sd := (hcounted.sds j hj).resolve_left hsd
  have hmem : s.clientinfo j ∈ (List.range CLIENTMAX).map s.clientinfo :=
    List.mem_map_of_mem (List.mem_range.mpr hj)
  have hcloses : (s.clientinfo j).closes ⊆ (R.tear pos addr s).closed := by
    intro fd hfd
    apply List.mem_append_right
    exact List.mem_flatMap.mpr ⟨s.clientinfo j, hmem, hfd⟩
  refine ⟨hcloses ?_, hcloses, ?_⟩
  · simp [Clientinfo.closes, hpositive]
  · intro fd hfd
    apply List.mem_append_right
    refine List.mem_flatMap.mpr ⟨s.clientinfo j, List.mem_filter.mpr ⟨hmem, ?_⟩, hfd⟩
    exact decide_eq_true hpositive

theorem used_of_delSession (h : R.delSession pos = .ok R') : R.server.sessionArr pos ≠ none ∧
    ∀ i, i ≠ pos → R'.server.sessionArr i = R.server.sessionArr i := by
  obtain ⟨entry, hentry, h⟩ := bind_eq_ok.mp h
  obtain ⟨addr, haddr, h⟩ := bind_eq_ok.mp h
  obtain ⟨s, -, h⟩ := bind_eq_ok.mp h
  constructor
  · intro hnone
    rw [Server.entry, hnone] at hentry
    split_ifs at hentry
    rw [← Except.ok.inj hentry] at haddr
    exact absurd haddr (by simp)
  · intro i hi
    rw [← Except.ok.inj h]
    exact Function.update_of_ne hi _ _

theorem delSession_some (hlinked : R.server.Linked) {addr : Nat} {s : Session}
    (harr : R.server.sessionArr pos = some addr) (hs : R.server.heap addr = some s) :
    R.delSession pos = .ok (R.tear pos addr s) := by
  rw [delSession, Server.entry, if_pos (hlinked.table pos addr harr).1, harr, ok_bind,
    Option.elim_some, ok_bind, Server.session, hs, Option.elim_some, ok_bind]
  rfl

/-! ## The loop -/

theorem used_of_delSessions {l : List Nat} (h : delSessions l R = .ok R') :
    ∀ i ∈ l, R.server.sessionArr i ≠ none := by
  induction l generalizing R with
  | nil => exact fun i hi => absurd hi List.not_mem_nil
  | cons pos rest ih =>
    obtain ⟨R₁, hfirst, h⟩ := bind_eq_ok.mp h
    obtain ⟨hused, hothers⟩ := used_of_delSession hfirst
    intro i hi
    by_cases hpos : i = pos
    · rw [hpos]
      exact hused
    · have hrest : i ∈ rest := (List.mem_cons.mp hi).resolve_left hpos
      rw [← hothers i hpos]
      exact ih h i hrest

/-- What the loop leaves of a table whose entries `l` are in use. -/
structure Deleted (l : List Nat) (R R' : Removal) : Prop where
  consistent : R'.server.Consistent
  none : ∀ i, i ∈ l ∨ R.server.sessionArr i = none → R'.server.sessionArr i = none
  removed : R.removed ⊆ R'.removed
  closed : R.closed ⊆ R'.closed
  gone : ∀ addr s, R.server.heap addr = some s → s.pos ∈ l → R'.Gone s

theorem deleted_nil (h : R.server.Consistent) : Deleted [] R R where
  consistent := h
  none _ hi := hi.resolve_left List.not_mem_nil
  removed _ hfd := hfd
  closed _ hfd := hfd
  gone _ _ _ hpos := absurd hpos List.not_mem_nil

theorem Deleted.cons (h : R.server.Consistent) {addr : Nat} {s : Session}
    (harr : R.server.sessionArr pos = some addr) (hs : R.server.heap addr = some s)
    {rest : List Nat} (hrest : Deleted rest (R.tear pos addr s) R') :
    Deleted (pos :: rest) R R' where
  consistent := hrest.consistent
  none i hi := by
    apply hrest.none
    by_cases hpos : i = pos
    · right
      rw [hpos]
      exact Function.update_self _ _ _
    · refine Or.imp (fun hmem => (List.mem_cons.mp hmem).resolve_left hpos) (fun hnone => ?_) hi
      exact (Function.update_of_ne hpos _ _).trans hnone
  removed := fun _ hfd => hrest.removed (List.mem_append_left _ hfd)
  closed := fun _ hfd => hrest.closed (List.mem_append_left _ hfd)
  gone addr' s' hs' hmem := by
    by_cases haddr : addr' = addr
    · rw [haddr, hs] at hs'
      rw [← Option.some.inj hs']
      exact (gone_tear (h.sessions addr s hs).1).mono hrest.removed hrest.closed
    · -- another session is still there, and its entry is one of the others
      have hheap : (R.tear pos addr s).server.heap addr' = some s' :=
        (Function.update_of_ne haddr _ _).trans hs'
      have hpos : s'.pos ≠ pos := by
        intro hpos
        have harr' := h.linked.heap addr' s' hs'
        rw [hpos, harr] at harr'
        exact haddr (Option.some.inj harr').symm
      exact hrest.gone addr' s' hheap ((List.mem_cons.mp hmem).resolve_left hpos)

theorem delSessions_spec {l : List Nat} (hnodup : l.Nodup) (h : R.server.Consistent)
    (hused : ∀ i ∈ l, R.server.sessionArr i ≠ none) :
    ∃ R', delSessions l R = .ok R' ∧ Deleted l R R' := by
  induction l generalizing R with
  | nil => exact ⟨R, rfl, deleted_nil h⟩
  | cons pos rest ih =>
    obtain ⟨hnotin, hnodup⟩ := List.nodup_cons.mp hnodup
    obtain ⟨addr, harr⟩ := Option.ne_none_iff_exists'.mp (hused pos List.mem_cons_self)
    obtain ⟨-, s, hs, -⟩ := h.linked.table pos addr harr
    have hstep : (R.tear pos addr s).server.Consistent := h.delSession harr
    have husedRest : ∀ i ∈ rest, (R.tear pos addr s).server.sessionArr i ≠ none := by
      intro i hi
      have hpos : i ≠ pos := fun hpos => hnotin (hpos ▸ hi)
      have hentry : (R.tear pos addr s).server.sessionArr i = R.server.sessionArr i :=
        Function.update_of_ne hpos _ _
      rw [hentry]
      exact hused i (List.mem_cons_of_mem pos hi)
    obtain ⟨R', hrun, hdeleted⟩ := ih hnodup hstep husedRest
    refine ⟨R', ?_, hdeleted.cons h harr hs⟩
    rw [delSessions, delSession_some h.linked harr hs, ok_bind]
    exact hrun

end Removal

namespace Server

variable {S : Server}

theorem Deletes.full (h : S.Deletes) : S.Full := by
  obtain ⟨R, hrun, -⟩ := h
  exact fun i hi => Removal.used_of_delSessions hrun i (List.mem_range.mpr hi)

theorem Full.deletes (hfull : S.Full) (h : S.Consistent) : S.Deletes := by
  have hused : ∀ i ∈ List.range FILEMAX, S.sessionArr i ≠ none :=
    fun i hi => hfull i (List.mem_range.mp hi)
  obtain ⟨R, hrun, hdeleted⟩ :=
    Removal.delSessions_spec (R := ⟨S, [], []⟩) List.nodup_range h hused
  have hnone : ∀ i < FILEMAX, R.server.sessionArr i = none :=
    fun i hi => hdeleted.none i (Or.inl (List.mem_range.mpr hi))
  have hgone : ∀ addr s, S.heap addr = some s → R.Gone s := by
    intro addr s hs
    have hlt := (h.linked.table _ _ (h.linked.heap addr s hs)).1
    exact hdeleted.gone addr s hs (List.mem_range.mpr hlt)
  have hsum : R.server.sumClient = 0 := by
    rw [hdeleted.consistent.sum]
    apply Finset.sum_eq_zero
    intro i hi
    rw [Server.countAt, hnone i (Finset.mem_range.mp hi)]
    rfl
  exact ⟨R, hrun, hnone, hgone, hsum⟩

/-- `moduleDel` does its work exactly on a full table. -/
theorem deletes_iff (h : Reach step anyStep init S) : S.Deletes ↔ S.Full :=
  ⟨Deletes.full, fun hfull => hfull.deletes (consistent_reachable S h)⟩

theorem deletes_filled : ∃ S, Reach step anyStep init S ∧ S.Deletes := by
  obtain ⟨S, hreach, hfilled⟩ := filled_reachable (le_refl FILEMAX)
  have hfull : S.Full := fun i hi hnone => by
    rw [(hfilled.used i hi).1] at hnone
    exact absurd hnone (by simp)
  exact ⟨S, hreach, (deletes_iff hreach).mpr hfull⟩

/-- A server that stops before anybody has asked for a file. -/
theorem not_deletes : ¬ ∀ S, Reach step anyStep init S → S.Deletes := by
  intro hall
  have hfull : init.Full := (hall init .start).full
  exact hfull 0 (by decide) rfl

end Server

end SimpleRtsp

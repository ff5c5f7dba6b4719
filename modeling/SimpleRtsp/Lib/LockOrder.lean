import SimpleRtsp.Lib.Transition
import Mathlib.Logic.Function.Basic
import Mathlib.Logic.Relation
import Mathlib.Order.Basic

/-!
# Lock order

Threads that make calls; of a call only its actions on mutexes and on other threads are kept, as a
list. A thread waits for a mutex until the owner unlocks it, and for another thread until that one
exits. Both are a `Res`, which has at most one owner: a running thread owns its own exit.

The resources are ranked. A list of actions is `Nested` behind the resources `held` if it waits
only for what ranks above everything held at that point, and unlocks what it locks; the rules
`Nested.append`, `Nested.flatMap` and `Nested.locked` follow the way calls are written. If every
call is nested, nobody ever waits in a cycle (`acyclic`): along the threads that wait for each other
the ranks of what they wait for increase.
-/

namespace LockOrder

/-- What a thread can wait for. -/
inductive Res (μ τ : Type) where
  | mutex (m : μ)
  | exit (t : τ)
  deriving DecidableEq

inductive Act (μ τ : Type) where
  | init (m : μ)
  | lock (m : μ)
  | unlock (m : μ)
  | create (t : τ)
  | join (t : τ)
  deriving DecidableEq

structure State (μ τ : Type) where
  owner : Res μ τ → Option τ
  /-- what is left of the call a thread is in -/
  todo : τ → List (Act μ τ)

inductive Label (μ τ : Type) where
  | call (t : τ) (acts : List (Act μ τ))
  | act (t : τ)
  /-- a lock call returns without the mutex, which is not initialised or destroyed -/
  | fail (t : τ)
  | exit (t : τ)

variable {μ τ : Type}

/-- What an action may have to wait for. -/
def Act.wants : Act μ τ → Option (Res μ τ)
  | .init _ => none
  | .lock m => some (.mutex m)
  | .unlock _ => none
  | .create _ => none
  | .join t => some (.exit t)

namespace State

/-- What a thread's next action may have to wait for. -/
def wants (s : State μ τ) (t : τ) : Option (Res μ τ) := (s.todo t).head?.bind Act.wants

/-- `t` waits for something `t'` owns. -/
def Waits (s : State μ τ) (t t' : τ) : Prop := ∃ r ∈ s.wants t, s.owner r = some t'

/-- The threads in `running` run, and nobody is in a call. -/
def start (running : τ → Bool) : State μ τ where
  owner
    | .mutex _ => none
    | .exit t => if running t then some t else none
  todo _ := []

end State

variable [DecidableEq μ] [DecidableEq τ]

/-- The owners after an action of thread `t`; `none` if it has to wait. -/
def Act.perform (t : τ) (owner : Res μ τ → Option τ) : Act μ τ → Option (Res μ τ → Option τ)
  | .init m => some (Function.update owner (.mutex m) none)
  | .lock m =>
    if owner (.mutex m) = none then some (Function.update owner (.mutex m) (some t)) else none
  | .unlock m => some (Function.update owner (.mutex m) none)
  | .create t' => some (Function.update owner (.exit t') (some t'))
  | .join t' => if owner (.exit t') = none then some owner else none

namespace State

def stepCall (s : State μ τ) (t : τ) (acts : List (Act μ τ)) : Option (State μ τ) :=
  if s.owner (.exit t) = some t ∧ s.todo t = [] then
    some { s with todo := Function.update s.todo t acts }
  else none

def stepAct (s : State μ τ) (t : τ) : Option (State μ τ) :=
  match s.todo t with
  | [] => none
  | a :: rest =>
    (a.perform t s.owner).map fun owner => ⟨owner, Function.update s.todo t rest⟩

def stepFail (s : State μ τ) (t : τ) : Option (State μ τ) :=
  match s.todo t with
  | .lock _ :: rest => some { s with todo := Function.update s.todo t rest }
  | _ => none

def stepExit (s : State μ τ) (t : τ) : Option (State μ τ) :=
  if s.todo t = [] then some { s with owner := Function.update s.owner (.exit t) none } else none

def step (s : State μ τ) : Label μ τ → Option (State μ τ)
  | .call t acts => s.stepCall t acts
  | .act t => s.stepAct t
  | .fail t => s.stepFail t
  | .exit t => s.stepExit t

/-- Thread `t` makes only the calls in `calls t`. -/
def Follows (calls : τ → List (Act μ τ) → Prop) (_ : State μ τ) : Label μ τ → Prop
  | .call t acts => calls t acts
  | .act _ => True
  | .fail _ => True
  | .exit _ => True

end State

/-! ## Calls that keep to an order -/

/-- What is held after an action, if `held` was before. -/
def Act.hold (held : List (Res μ τ)) : Act μ τ → List (Res μ τ)
  | .init _ => held
  | .lock m => .mutex m :: held
  | .unlock m => held.erase (.mutex m)
  | .create _ => held
  | .join _ => held

variable {ι : Type} [Preorder ι] (rank : Res μ τ → ι)

/-- The actions wait only for what ranks above everything held, and at their end `t` is left with
nothing but its own exit. -/
def Ordered (t : τ) : List (Res μ τ) → List (Act μ τ) → Prop
  | held, [] => ∀ r ∈ held, r = .exit t
  | held, a :: rest =>
    (∀ r ∈ a.wants, ∀ r' ∈ held, rank r' < rank r) ∧ Ordered t (a.hold held) rest

/-- With `held`, the actions keep to the order and unlock what they lock: whatever is in order with
`held` is so behind them. -/
structure Nested (held : List (Res μ τ)) (acts : List (Act μ τ)) : Prop where
  before : ∀ t rest, Ordered rank t held rest → Ordered rank t held (acts ++ rest)

variable {rank} {held : List (Res μ τ)}

theorem Nested.nil : Nested rank held [] := ⟨fun _ _ h => h⟩

theorem Nested.append {acts acts' : List (Act μ τ)} (h : Nested rank held acts)
    (h' : Nested rank held acts') : Nested rank held (acts ++ acts') := by
  refine ⟨fun t rest hrest => ?_⟩
  rw [List.append_assoc]
  exact h.before t _ (h'.before t rest hrest)

theorem Nested.flatMap {α : Type} {l : List α} {f : α → List (Act μ τ)}
    (h : ∀ x ∈ l, Nested rank held (f x)) : Nested rank held (l.flatMap f) := by
  induction l with
  | nil => exact .nil
  | cons x l ih =>
    rw [List.flatMap_cons]
    exact (h x List.mem_cons_self).append (ih fun y hy => h y (List.mem_cons_of_mem x hy))

theorem Nested.init (m : μ) : Nested rank held [.init m] := by
  refine ⟨fun t rest hrest => ?_⟩
  exact ⟨fun r hr => absurd hr (Option.not_mem_none r), hrest⟩

theorem Nested.create (t' : τ) : Nested rank held [.create t'] := by
  refine ⟨fun t rest hrest => ?_⟩
  exact ⟨fun r hr => absurd hr (Option.not_mem_none r), hrest⟩

theorem Nested.join {t' : τ} (hrank : ∀ r ∈ held, rank r < rank (.exit t')) :
    Nested rank held [.join t'] := by
  refine ⟨fun t rest hrest => ⟨fun r hr => ?_, hrest⟩⟩
  obtain rfl := Option.some.inj hr
  exact hrank

/-- **The rule for a critical section.** -/
theorem Nested.locked {m : μ} {acts : List (Act μ τ)}
    (hrank : ∀ r ∈ held, rank r < rank (.mutex m))
    (hacts : Nested rank (.mutex m :: held) acts) :
    Nested rank held (.lock m :: (acts ++ [.unlock m])) := by
  refine ⟨fun t rest hrest => ?_⟩
  rw [List.cons_append, List.append_assoc]
  refine ⟨fun r hr => ?_, hacts.before t _ ⟨fun r hr => ?_, ?_⟩⟩
  · obtain rfl := Option.some.inj hr
    exact hrank
  · exact absurd hr (Option.not_mem_none r)
  · show Ordered rank t ((Res.mutex m :: held).erase (.mutex m)) rest
    rwa [List.erase_cons_head]

/-! ## No cycle -/

/-- All that `t` owns is in a list behind which the rest of its call is in order. -/
def Tidy (rank : Res μ τ → ι) (s : State μ τ) (t : τ) : Prop :=
  ∃ held, .exit t ∈ held ∧ (∀ r, s.owner r = some t → r ∈ held) ∧ Ordered rank t held (s.todo t)

def AllTidy (rank : Res μ τ → ι) (s : State μ τ) : Prop := ∀ t, Tidy rank s t

variable {s s' : State μ τ} {t t' : τ} {owner owner' : Res μ τ → Option τ} {a : Act μ τ}

theorem Act.exit_mem_hold (h : .exit t ∈ held) : .exit t ∈ a.hold held := by
  cases a with
  | init m => exact h
  | lock m => exact List.mem_cons_of_mem _ h
  | unlock m => exact (List.mem_erase_of_ne (by simp)).mpr h
  | create t' => exact h
  | join t' => exact h

theorem Act.perform_self (h : a.perform t owner = some owner') (hexit : .exit t ∈ held)
    (howner : ∀ r, owner r = some t → r ∈ held) :
    ∀ r, owner' r = some t → r ∈ a.hold held := by
  intro r hr
  cases a with
  | init m =>
    obtain rfl := Option.some.inj h
    by_cases hm : r = .mutex m
    · simp [hm] at hr
    · rw [Function.update_of_ne hm] at hr
      exact howner r hr
  | lock m =>
    obtain ⟨-, h⟩ := Option.ite_none_right_eq_some.mp h
    obtain rfl := Option.some.inj h
    by_cases hm : r = .mutex m
    · exact hm ▸ List.mem_cons_self
    · rw [Function.update_of_ne hm] at hr
      exact List.mem_cons_of_mem _ (howner r hr)
  | unlock m =>
    obtain rfl := Option.some.inj h
    by_cases hm : r = .mutex m
    · simp [hm] at hr
    · rw [Function.update_of_ne hm] at hr
      exact (List.mem_erase_of_ne hm).mpr (howner r hr)
  | create t' =>
    obtain rfl := Option.some.inj h
    by_cases ht' : r = .exit t'
    · subst ht'
      rw [Function.update_self] at hr
      obtain rfl := Option.some.inj hr
      exact hexit
    · rw [Function.update_of_ne ht'] at hr
      exact howner r hr
  | join t' =>
    obtain ⟨-, h⟩ := Option.ite_none_right_eq_some.mp h
    obtain rfl := Option.some.inj h
    exact howner r hr

theorem Act.perform_other (h : a.perform t owner = some owner') (ht' : t' ≠ t) {r : Res μ τ}
    (hr : owner' r = some t') : owner r = some t' ∨ r = .exit t' := by
  cases a with
  | init m =>
    obtain rfl := Option.some.inj h
    by_cases hm : r = .mutex m
    · simp [hm] at hr
    · rw [Function.update_of_ne hm] at hr
      exact Or.inl hr
  | lock m =>
    obtain ⟨-, h⟩ := Option.ite_none_right_eq_some.mp h
    obtain rfl := Option.some.inj h
    by_cases hm : r = .mutex m
    · rw [hm, Function.update_self] at hr
      exact absurd (Option.some.inj hr).symm ht'
    · rw [Function.update_of_ne hm] at hr
      exact Or.inl hr
  | unlock m =>
    obtain rfl := Option.some.inj h
    by_cases hm : r = .mutex m
    · simp [hm] at hr
    · rw [Function.update_of_ne hm] at hr
      exact Or.inl hr
  | create t₁ =>
    obtain rfl := Option.some.inj h
    by_cases ht₁ : r = .exit t₁
    · rw [ht₁, Function.update_self] at hr
      obtain rfl := Option.some.inj hr
      exact Or.inr ht₁
    · rw [Function.update_of_ne ht₁] at hr
      exact Or.inl hr
  | join t₁ =>
    obtain ⟨-, h⟩ := Option.ite_none_right_eq_some.mp h
    obtain rfl := Option.some.inj h
    exact Or.inl hr

theorem tidy_start (running : τ → Bool) : AllTidy rank (State.start running : State μ τ) := by
  intro t
  refine ⟨[.exit t], List.mem_singleton_self _, fun r hr => ?_, fun r hr => ?_⟩
  · cases r with
    | mutex m => exact absurd hr (by simp [State.start])
    | exit t' =>
      obtain ⟨-, h⟩ := Option.ite_none_right_eq_some.mp hr
      obtain rfl := Option.some.inj h
      exact List.mem_singleton_self _
  · exact List.mem_singleton.mp hr

theorem Tidy.frame (h : Tidy rank s t') (htodo : s'.todo t' = s.todo t')
    (howner : ∀ r, s'.owner r = some t' → s.owner r = some t' ∨ r = .exit t') :
    Tidy rank s' t' := by
  obtain ⟨held, hexit, hheld, hordered⟩ := h
  refine ⟨held, hexit, fun r hr => ?_, htodo ▸ hordered⟩
  rcases howner r hr with hr | rfl
  · exact hheld r hr
  · exact hexit

theorem Tidy.call {acts : List (Act μ τ)} (h : Tidy rank s t) (htodo : s.todo t = [])
    (hacts : Nested rank [.exit t] acts) :
    Tidy rank { s with todo := Function.update s.todo t acts } t := by
  obtain ⟨held, -, hheld, hordered⟩ := h
  rw [htodo] at hordered
  refine ⟨[.exit t], List.mem_singleton_self _, fun r hr => ?_, ?_⟩
  · exact List.mem_singleton.mpr (hordered r (hheld r hr))
  · have hdone : Ordered rank t [.exit t] [] := fun r hr => List.mem_singleton.mp hr
    simpa only [Function.update_self, List.append_nil] using hacts.before t [] hdone

theorem Tidy.act {rest : List (Act μ τ)} (h : Tidy rank s t) (htodo : s.todo t = a :: rest)
    (hperform : a.perform t s.owner = some owner') :
    Tidy rank ⟨owner', Function.update s.todo t rest⟩ t := by
  obtain ⟨held, hexit, hheld, hordered⟩ := h
  rw [htodo] at hordered
  refine ⟨a.hold held, Act.exit_mem_hold hexit, Act.perform_self hperform hexit hheld, ?_⟩
  show Ordered rank t _ (Function.update s.todo t rest t)
  rw [Function.update_self]
  exact hordered.2

theorem Tidy.fail {m : μ} {rest : List (Act μ τ)} (h : Tidy rank s t)
    (htodo : s.todo t = .lock m :: rest) :
    Tidy rank { s with todo := Function.update s.todo t rest } t := by
  obtain ⟨held, hexit, hheld, hordered⟩ := h
  rw [htodo] at hordered
  refine ⟨.mutex m :: held, List.mem_cons_of_mem _ hexit,
    fun r hr => List.mem_cons_of_mem _ (hheld r hr), ?_⟩
  show Ordered rank t _ (Function.update s.todo t rest t)
  rw [Function.update_self]
  exact hordered.2

theorem AllTidy.step {calls : τ → List (Act μ τ) → Prop}
    (hcalls : ∀ t acts, calls t acts → Nested rank [.exit t] acts) {l : Label μ τ}
    (h : AllTidy rank s) (hl : s.Follows calls l) (hnext : s.step l = some s') :
    AllTidy rank s' := by
  intro t'
  cases l with
  | call t acts =>
    obtain ⟨⟨-, htodo⟩, hnext⟩ := Option.ite_none_right_eq_some.mp hnext
    obtain rfl := Option.some.inj hnext
    by_cases ht' : t' = t
    · exact ht' ▸ (h t).call htodo (hcalls t acts hl)
    · exact (h t').frame (Function.update_of_ne ht' _ _) fun r hr => Or.inl hr
  | act t =>
    simp only [State.step, State.stepAct] at hnext
    cases htodo : s.todo t with
    | nil => simp [htodo] at hnext
    | cons a rest =>
      rw [htodo] at hnext
      obtain ⟨owner', hperform, rfl⟩ := Option.map_eq_some_iff.mp hnext
      by_cases ht' : t' = t
      · exact ht' ▸ (h t).act htodo hperform
      · exact (h t').frame (Function.update_of_ne ht' _ _) fun r hr =>
          Act.perform_other hperform ht' hr
  | fail t =>
    simp only [State.step, State.stepFail] at hnext
    split at hnext
    · rename_i m rest htodo
      obtain rfl := Option.some.inj hnext
      by_cases ht' : t' = t
      · exact ht' ▸ (h t).fail htodo
      · exact (h t').frame (Function.update_of_ne ht' _ _) fun r hr => Or.inl hr
    · exact absurd hnext (by simp)
  | exit t =>
    obtain ⟨-, hnext⟩ := Option.ite_none_right_eq_some.mp hnext
    obtain rfl := Option.some.inj hnext
    refine (h t').frame rfl fun r hr => Or.inl ?_
    by_cases ht : r = .exit t
    · simp [ht] at hr
    · exact (Function.update_of_ne ht _ _).symm.trans hr

/-- The owner of what `t` waits for waits for something of higher rank. -/
theorem Tidy.rank_lt (h : Tidy rank s t') {r r' : Res μ τ} (howner : s.owner r = some t')
    (hwants : r' ∈ s.wants t') : rank r < rank r' := by
  obtain ⟨held, -, hheld, hordered⟩ := h
  rw [State.wants] at hwants
  cases htodo : s.todo t' with
  | nil => simp [htodo] at hwants
  | cons a rest =>
    rw [htodo] at hwants hordered
    exact hordered.1 r' hwants r (hheld r howner)

theorem rank_lt_of_transGen (h : AllTidy rank s)
    (hwaits : Relation.TransGen s.Waits t t') :
    ∀ r ∈ s.wants t, ∀ r' ∈ s.wants t', rank r < rank r' := by
  induction hwaits with
  | single hwait =>
    intro r hr r' hr'
    obtain ⟨r₁, hr₁, howner⟩ := hwait
    obtain rfl := Option.mem_unique hr hr₁
    exact (h _).rank_lt howner hr'
  | tail _ hwait ih =>
    intro r hr r' hr'
    obtain ⟨r₁, hr₁, howner⟩ := hwait
    exact (ih r hr r₁ hr₁).trans ((h _).rank_lt howner hr')

/-- **No cycle.** -/
theorem acyclic {calls : τ → List (Act μ τ) → Prop} {running : τ → Bool}
    (hcalls : ∀ t acts, calls t acts → Nested rank [.exit t] acts)
    (h : Reach State.step (State.Follows calls) (State.start running) s) (t : τ) :
    ¬ Relation.TransGen s.Waits t t := by
  intro hcycle
  have htidy : AllTidy rank s :=
    h.invariant (tidy_start running) fun s l s' hs hl hnext => hs.step hcalls hl hnext
  obtain ⟨r, hr⟩ : ∃ r, r ∈ s.wants t := by
    obtain ⟨t₁, ⟨r, hr, -⟩, -⟩ := Relation.TransGen.head'_iff.mp hcycle
    exact ⟨r, hr⟩
  exact lt_irrefl _ (rank_lt_of_transGen htidy hcycle r hr r hr)

end LockOrder

import Mathlib.Tactic.Common

/-!
# Transition systems

A system is a partial function `step` from a state and a label to the next state. `Reach step
guard s₀` are the states that runs from `s₀` reach by steps whose labels pass `guard` in the state
they are taken in; with the guard `anyStep` these are all reachable states. The rule of a system
is `Reach.invariant`: what holds at the start and survives every guarded step holds throughout.
`runs` executes a list of labels, for looking at single runs; where a rank goes down with certain
steps, a run has few of them (`runs_rank`).
-/

/-- The states reached from `s₀` by steps that pass `guard`. -/
inductive Reach {σ ℓ : Type} (step : σ → ℓ → Option σ) (guard : σ → ℓ → Prop) (s₀ : σ) :
    σ → Prop where
  | start : Reach step guard s₀ s₀
  | next {s s' : σ} (l : ℓ) : Reach step guard s₀ s → guard s l → step s l = some s' →
      Reach step guard s₀ s'

/-- The guard that every step passes. -/
def anyStep {σ ℓ : Type} : σ → ℓ → Prop := fun _ _ => True

def runs {σ ℓ : Type} (step : σ → ℓ → Option σ) : σ → List ℓ → Option σ
  | s, [] => some s
  | s, l :: rest => (step s l).bind fun s' => runs step s' rest

theorem runs_append {σ ℓ : Type} (step : σ → ℓ → Option σ) (s : σ) (labels rest : List ℓ) :
    runs step s (labels ++ rest) = (runs step s labels).bind fun s' => runs step s' rest := by
  induction labels generalizing s with
  | nil => rfl
  | cons l labels ih =>
    rw [List.cons_append, runs, runs, Option.bind_assoc]
    exact Option.bind_congr fun s' _ => ih s'

/-- **Ranks.** If the steps that `counts` tells apart lower a rank and the others do not raise it,
a run has no more of them than its first state ranks. -/
theorem runs_rank {σ ℓ : Type} {step : σ → ℓ → Option σ} {inv : σ → Prop} {rank : σ → Nat}
    {counts : ℓ → Bool} (hstep : ∀ s l s', inv s → step s l = some s' →
      inv s' ∧ rank s' + (if counts l then 1 else 0) ≤ rank s)
    {s s' : σ} (hinv : inv s) (labels : List ℓ) (h : runs step s labels = some s') :
    inv s' ∧ rank s' + labels.countP counts ≤ rank s := by
  induction labels generalizing s with
  | nil =>
    cases h
    exact ⟨hinv, Nat.le_refl _⟩
  | cons l rest ih =>
    obtain ⟨s₁, hfirst, hrest⟩ := Option.bind_eq_some_iff.mp h
    obtain ⟨hinv₁, hle⟩ := hstep s l s₁ hinv hfirst
    obtain ⟨hinv', hle'⟩ := ih hinv₁ hrest
    refine ⟨hinv', ?_⟩
    rw [List.countP_cons]
    omega

namespace Reach

variable {σ ℓ : Type} {step : σ → ℓ → Option σ} {guard : σ → ℓ → Prop} {s₀ s : σ}

/-- **Invariants.** -/
theorem invariant {inv : σ → Prop} (h : Reach step guard s₀ s) (hstart : inv s₀)
    (hstep : ∀ s l s', inv s → guard s l → step s l = some s' → inv s') : inv s := by
  induction h with
  | start => exact hstart
  | next l _ hguard hnext ih => exact hstep _ l _ ih hguard hnext

theorem mono {guard' : σ → ℓ → Prop} (h : Reach step guard s₀ s)
    (hguard : ∀ s l, guard s l → guard' s l) : Reach step guard' s₀ s := by
  induction h with
  | start => exact .start
  | next l _ hpass hnext ih => exact .next l ih (hguard _ _ hpass) hnext

theorem trans {s₁ : σ} (h : Reach step guard s₀ s₁) (h' : Reach step guard s₁ s) :
    Reach step guard s₀ s := by
  induction h' with
  | start => exact h
  | next l _ hguard hnext ih => exact .next l ih hguard hnext

theorem of_runs (labels : List ℓ) (h : runs step s₀ labels = some s) :
    Reach step anyStep s₀ s := by
  induction labels generalizing s₀ with
  | nil => cases h; exact .start
  | cons l rest ih =>
    obtain ⟨s₁, hfirst, hrest⟩ := Option.bind_eq_some_iff.mp h
    exact trans (.next l .start trivial hfirst) (ih hrest)

theorem of_runs_guard [∀ s l, Decidable (guard s l)] (labels : List ℓ)
    (h : runs (fun s l => if guard s l then step s l else none) s₀ labels = some s) :
    Reach step guard s₀ s := by
  induction labels generalizing s₀ with
  | nil => cases h; exact .start
  | cons l rest ih =>
    obtain ⟨s₁, hfirst, hrest⟩ := Option.bind_eq_some_iff.mp h
    obtain ⟨hguard, hstep⟩ := Option.ite_none_right_eq_some.mp hfirst
    exact trans (.next l .start hguard hstep) (ih hrest)

theorem of_runs_forall (labels : List ℓ) (hguard : ∀ l ∈ labels, ∀ s, guard s l)
    (h : runs step s₀ labels = some s) : Reach step guard s₀ s := by
  induction labels generalizing s₀ with
  | nil => cases h; exact .start
  | cons l rest ih =>
    obtain ⟨s₁, hfirst, hrest⟩ := Option.bind_eq_some_iff.mp h
    exact trans (.next l .start (hguard l List.mem_cons_self s₀) hfirst)
      (ih (fun l' hl' => hguard l' (List.mem_cons_of_mem l hl')) hrest)

end Reach

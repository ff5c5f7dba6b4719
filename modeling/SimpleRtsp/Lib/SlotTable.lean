import Mathlib.Data.Nat.Count
import Mathlib.Logic.Function.Basic
import Mathlib.Tactic.Common

/-!
# Counting used slots

A table is a function from indices, its first `n` entries are the slots, and a decidable predicate
says which entries are in use. `used` counts them; `used_update` is how the count changes with one
entry. `used_bounds_iff` is about scanning only as many slots as are in use: this sees all of them
exactly if the used slots come before the free ones.
-/

variable {α : Type} (p : α → Prop) [DecidablePred p]

/-- The number of used slots among the first `n`. -/
def used (f : Nat → α) (n : Nat) : Nat := Nat.count (fun i => p (f i)) n

variable {p}

theorem used_le (f : Nat → α) (n : Nat) : used p f n ≤ n := Nat.count_le _

theorem used_congr {q : α → Prop} [DecidablePred q] {f g : Nat → α} {n : Nat}
    (h : ∀ i < n, p (f i) ↔ q (g i)) : used p f n = used q g n := by
  induction n with
  | zero => rfl
  | succ n ih =>
    simp only [used, Nat.count_succ] at ih ⊢
    rw [ih fun i hi => h i (by omega)]
    simp only [h n (Nat.lt_succ_self n)]

theorem used_update (f : Nat → α) {j n : Nat} (hj : j < n) (x : α) :
    used p (Function.update f j x) n + (if p (f j) then 1 else 0) =
      used p f n + (if p x then 1 else 0) := by
  induction n with
  | zero => omega
  | succ n ih =>
    simp only [used, Nat.count_succ] at ih ⊢
    by_cases hn : j = n
    · subst hn
      have hbelow := used_congr (p := p) (q := p) (f := Function.update f j x) (g := f) (n := j)
        fun i hi => by rw [Function.update_of_ne (by omega)]
      simp only [used] at hbelow
      rw [hbelow, Function.update_self]
      omega
    · rw [Function.update_of_ne (Ne.symm hn)]
      have := ih (by omega)
      omega

theorem used_update_fill (f : Nat → α) {j n : Nat} (hj : j < n) {x : α} (hfree : ¬ p (f j))
    (hx : p x) : used p (Function.update f j x) n = used p f n + 1 := by
  have h := used_update f hj x (p := p)
  rwa [if_neg hfree, if_pos hx] at h

theorem used_update_free (f : Nat → α) {j n : Nat} (hj : j < n) {x : α} (hused : p (f j))
    (hx : ¬ p x) : used p (Function.update f j x) n + 1 = used p f n := by
  have h := used_update f hj x (p := p)
  rwa [if_pos hused, if_neg hx] at h

theorem used_update_same (f : Nat → α) {j n : Nat} (hj : j < n) {x : α} (h : p (f j) ↔ p x) :
    used p (Function.update f j x) n = used p f n := by
  have hupdate := used_update f hj x (p := p)
  simp only [h] at hupdate
  omega

theorem used_eq_zero {f : Nat → α} {n : Nat} : used p f n = 0 ↔ ∀ j < n, ¬ p (f j) :=
  Nat.count_iff_forall_not

theorem used_pos {f : Nat → α} {j n : Nat} (hj : j < n) (hused : p (f j)) : 0 < used p f n :=
  Nat.pos_of_ne_zero fun h => used_eq_zero.mp h j hj hused

theorem lt_used {f : Nat → α} {j n : Nat} (hj : j < n) (hall : ∀ i < j + 1, p (f i)) :
    j < used p f n := by
  have hmono := Nat.count_monotone (fun i => p (f i)) (show j + 1 ≤ n by omega)
  rw [Nat.count_iff_forall.mpr hall] at hmono
  exact hmono

theorem used_bounds_iff (f : Nat → α) (n : Nat) :
    (∀ j < n, p (f j) → j < used p f n) ↔ ∀ i j, i < j → j < n → p (f j) → p (f i) := by
  constructor
  · intro hbound i j hij hj hused
    -- nothing is used from `used p f n` on, so everything before it is
    have hle := used_le (p := p) f n
    obtain ⟨rest, hrest⟩ : ∃ rest, n = used p f n + rest := ⟨n - used p f n, by omega⟩
    have hfull : Nat.count (fun i => p (f i)) (used p f n) = used p f n := by
      have hsplit := Nat.count_add (fun i => p (f i)) (used p f n) rest
      have hnone : Nat.count (fun k => p (f (used p f n + k))) rest = 0 := by
        refine Nat.count_iff_forall_not.mpr fun k hk hp => ?_
        have := hbound _ (by omega) hp
        omega
      rw [← hrest, hnone] at hsplit
      exact hsplit.symm
    have hj' := hbound j hj hused
    exact Nat.count_iff_forall.mp hfull i (by omega)
  · intro hfirst j hj hused
    refine lt_used hj fun i hi => ?_
    obtain hi | rfl := Nat.lt_succ_iff_lt_or_eq.mp hi
    · exact hfirst i j hi hj hused
    · exact hused

theorem used_first {f : Nat → α} {k n : Nat} (hused : used p f n = k)
    (hfront : ∀ i < k, p (f i)) : ∀ i j, i < j → j < n → p (f j) → p (f i) := by
  refine (used_bounds_iff f n).mp fun j hj hpj => ?_
  rw [hused]
  by_contra hle
  have hk : Nat.count (fun i => p (f i)) k = k := Nat.count_iff_forall.mpr hfront
  have hbelow := Nat.count_monotone (fun i => p (f i)) (Nat.not_lt.mp hle)
  have habove := Nat.count_monotone (fun i => p (f i)) (Nat.succ_le_of_lt hj)
  rw [Nat.count_succ, if_pos hpj] at habove
  rw [used] at hused
  omega

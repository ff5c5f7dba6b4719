import Mathlib.Algebra.Order.Round
import Mathlib.Algebra.Order.Monoid.Unbundled.Basic
import Mathlib.Tactic.FieldSimp
import Mathlib.Tactic.Linarith

/-!
# Clocks that are read at rounded times

`Sampling.reading unit rate x` is what a counter of `rate` ticks a second shows at `x` seconds, when
it is read from a time that is rounded to the nearest `1 / unit` of a second and the ticks are cut
to an integer. Such a counter never goes back (`reading_mono`), and between two readings it is off
the ideal count by at most the ticks of `1 / unit` of a second and one more (`reading_deviation`):
each of the two roundings contributes at most half of the former, each cut less than one tick and
both in the same direction.
-/

namespace Sampling

variable {α : Type} [Field α] [LinearOrder α] [IsStrictOrderedRing α] [FloorRing α]

/-- The ticks at `x` seconds. -/
def reading (unit rate x : α) : ℤ := ⌊(round (unit * x) : α) * rate / unit⌋

theorem round_le_round {x y : α} (h : x ≤ y) : round x ≤ round y := by
  rw [round_eq, round_eq]
  exact Int.floor_le_floor (by linarith)

theorem reading_mono {unit rate : α} (hunit : 0 < unit) (hrate : 0 ≤ rate) {x y : α} (h : x ≤ y) :
    reading unit rate x ≤ reading unit rate y := by
  have hround : (round (unit * x) : α) ≤ round (unit * y) :=
    Int.cast_le.mpr (round_le_round (mul_le_mul_of_nonneg_left h hunit.le))
  apply Int.floor_le_floor
  gcongr

theorem abs_floor_sub_floor (x y : α) : |((⌊y⌋ - ⌊x⌋ : ℤ) : α) - (y - x)| ≤ 1 := by
  have hx := Int.floor_le x
  have hx' := (Int.lt_floor_add_one x).le
  have hy := Int.floor_le y
  have hy' := (Int.lt_floor_add_one y).le
  rw [Int.cast_sub, abs_le]
  constructor <;> linarith

theorem abs_round_sub_round (x y : α) : |((round y - round x : ℤ) : α) - (y - x)| ≤ 1 := by
  have hx := abs_le.mp (abs_sub_round x)
  have hy := abs_le.mp (abs_sub_round y)
  rw [Int.cast_sub, abs_le]
  constructor <;> linarith [hx.1, hx.2, hy.1, hy.2]

/-- **Accuracy.** What is counted between two readings is close to the ideal count. -/
theorem reading_deviation {unit rate : α} (hunit : 0 < unit) (hrate : 0 ≤ rate) (x y : α) :
    |((reading unit rate y - reading unit rate x : ℤ) : α) - (y - x) * rate| ≤
      rate / unit + 1 := by
  have hcut := abs_floor_sub_floor ((round (unit * x) : α) * rate / unit)
    ((round (unit * y) : α) * rate / unit)
  have hround : |((round (unit * y) : α) * rate / unit - (round (unit * x) : α) * rate / unit) -
      (y - x) * rate| ≤ rate / unit := by
    have hfactor : ((round (unit * y) : α) * rate / unit - (round (unit * x) : α) * rate / unit) -
        (y - x) * rate =
          (((round (unit * y) - round (unit * x) : ℤ) : α) - (unit * y - unit * x)) *
            (rate / unit) := by
      rw [Int.cast_sub]
      field_simp
    have hnonneg : 0 ≤ rate / unit := div_nonneg hrate hunit.le
    have hone := mul_le_mul_of_nonneg_right (abs_round_sub_round (unit * x) (unit * y)) hnonneg
    rw [one_mul] at hone
    rw [hfactor, abs_mul, abs_of_nonneg hnonneg]
    exact hone
  have hsum := (abs_add_le _ _).trans (add_le_add hcut hround)
  rw [sub_add_sub_cancel, add_comm 1] at hsum
  exact hsum

end Sampling

import Mathlib.Algebra.BigOperators.Group.List.Basic
import Mathlib.Data.List.Induction

/-!
# Streams cut into blocks

Items are collected until `size` of them make a block, and every full block is handed to `step`,
which updates a state. The state and the items still pending depend on the stream only, not on the
pieces it comes in (`absorb_append`); on whole blocks it is a fold (`absorb_flatten`).
-/

namespace BlockStream

variable {σ α : Type*} {size : Nat} {step : σ → List α → σ}

/-- One more item behind the pending ones. -/
def push (size : Nat) (step : σ → List α → σ) (acc : σ × List α) (x : α) : σ × List α :=
  if acc.2.length + 1 < size then (acc.1, acc.2 ++ [x]) else (step acc.1 (acc.2 ++ [x]), [])

/-- The items of a piece, one after another. -/
def absorb (size : Nat) (step : σ → List α → σ) (acc : σ × List α) (xs : List α) : σ × List α :=
  xs.foldl (push size step) acc

@[simp] theorem absorb_nil (acc : σ × List α) : absorb size step acc [] = acc := rfl

theorem absorb_cons (acc : σ × List α) (x : α) (xs : List α) :
    absorb size step acc (x :: xs) = absorb size step (push size step acc x) xs := rfl

theorem absorb_append (acc : σ × List α) (xs ys : List α) :
    absorb size step acc (xs ++ ys) = absorb size step (absorb size step acc xs) ys :=
  List.foldl_append

theorem absorb_short {s : σ} {pending xs : List α} (h : pending.length + xs.length < size) :
    absorb size step (s, pending) xs = (s, pending ++ xs) := by
  induction xs generalizing pending with
  | nil => rw [absorb_nil, List.append_nil]
  | cons x xs ih =>
    rw [List.length_cons] at h
    rw [absorb_cons, push, if_pos (by dsimp only; omega), ih (by simp; omega), List.append_assoc]
    rfl

theorem absorb_fill {s : σ} {pending xs : List α} (hne : xs ≠ [])
    (h : pending.length + xs.length = size) :
    absorb size step (s, pending) xs = (step s (pending ++ xs), []) := by
  obtain ⟨front, last, rfl⟩ := (List.eq_nil_or_concat' xs).resolve_left hne
  rw [List.length_append, List.length_singleton] at h
  have hopen : pending.length + front.length < size := by omega
  rw [absorb_append, absorb_short hopen, absorb_cons, absorb_nil, push,
    if_neg (by rw [List.length_append]; omega), List.append_assoc]

theorem absorb_flatten (hsize : 0 < size) {s : σ} {blocks : List (List α)}
    (h : ∀ b ∈ blocks, b.length = size) :
    absorb size step (s, []) blocks.flatten = (blocks.foldl step s, []) := by
  induction blocks generalizing s with
  | nil => rfl
  | cons b blocks ih =>
    obtain ⟨hb, hrest⟩ := List.forall_mem_cons.mp h
    have hne : b ≠ [] := by
      rintro rfl
      rw [List.length_nil] at hb
      omega
    rw [List.flatten_cons, absorb_append, absorb_fill hne (by simpa using hb), ih hrest]
    rfl

/-- Every stream is whole blocks, folded into the state, and what is pending. -/
theorem absorb_eq (hsize : 0 < size) (s : σ) (xs : List α) :
    ∃ blocks : List (List α), (∀ b ∈ blocks, b.length = size) ∧
      xs = blocks.flatten ++ (absorb size step (s, []) xs).2 ∧
      (absorb size step (s, []) xs).1 = blocks.foldl step s ∧
      (absorb size step (s, []) xs).2.length < size := by
  induction xs using List.reverseRecOn with
  | nil => exact ⟨[], by simp, rfl, rfl, hsize⟩
  | append_singleton xs x ih =>
    obtain ⟨blocks, hlength, hxs, hstate, hlt⟩ := ih
    rw [absorb_append, absorb_cons, absorb_nil, push]
    split_ifs with hopen
    · refine ⟨blocks, hlength, ?_, hstate, ?_⟩
      · rw [← List.append_assoc, ← hxs]
      · rwa [List.length_append]
    · refine ⟨blocks ++ [(absorb size step (s, []) xs).2 ++ [x]], ?_, ?_, ?_, hsize⟩
      · rw [List.forall_mem_append, List.forall_mem_singleton, List.length_append,
          List.length_singleton]
        exact ⟨hlength, by omega⟩
      · rw [List.flatten_append, List.flatten_singleton, List.append_nil, ← List.append_assoc,
          ← hxs]
      · rw [List.foldl_append, ← hstate]
        rfl

theorem length_pending (hsize : 0 < size) (s : σ) (xs : List α) :
    (absorb size step (s, []) xs).2.length = xs.length % size := by
  obtain ⟨blocks, hlength, hxs, -, hlt⟩ := @absorb_eq _ _ size step hsize s xs
  have hblocks : blocks.flatten.length = size * blocks.length := by
    rw [List.length_flatten, List.map_congr_left hlength, List.map_const', List.sum_replicate,
      Nat.nsmul_eq_mul, Nat.mul_comm]
  have htotal := congrArg List.length hxs
  rw [List.length_append, hblocks] at htotal
  rw [htotal, Nat.mul_add_mod, Nat.mod_eq_of_lt hlt]

end BlockStream

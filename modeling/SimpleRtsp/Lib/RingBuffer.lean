import Mathlib.Data.List.Basic
import Mathlib.Logic.Function.Basic
import Mathlib.Tactic.Common

/-!
# Ring buffers

A `RingBuffer` is a block of `size` cells of which `count`, read circularly from `head` on, are in
use. The invariant is part of the type, so `push` asks for a free cell, `pop` for a used one and
`grow` for a full ring. `contents` is the queue a ring stands for, and the three operations are
those of an unbounded queue: `contents_push`, `contents_pop`, `contents_grow`.

`grow` is the in-place enlargement of a full ring: the cells from `head` to the end move up by
`k`, and so does `head`; the free cells appear between the tail, which stays, and the head.
-/

/-- `count` of `size` cells in use, from `head` on. -/
structure RingBuffer (α : Type) where
  cells : Nat → α
  size : Nat
  head : Nat
  count : Nat
  head_lt : head < size
  count_le : count ≤ size

namespace RingBuffer

variable {α : Type}

/-- The cell `i` places behind the head. -/
def index (r : RingBuffer α) (i : Nat) : Nat := (r.head + i) % r.size

/-- Where the next element goes. -/
def tail (r : RingBuffer α) : Nat := r.index r.count

/-- The elements in order. -/
def contents (r : RingBuffer α) : List α := (List.range r.count).map fun i => r.cells (r.index i)

theorem size_pos (r : RingBuffer α) : 0 < r.size := Nat.zero_lt_of_lt r.head_lt

theorem index_lt (r : RingBuffer α) (i : Nat) : r.index i < r.size := Nat.mod_lt _ r.size_pos

@[simp] theorem length_contents (r : RingBuffer α) : r.contents.length = r.count := by
  simp [contents]

/-- Indices within one turn: before the end of the block, or wrapped. -/
theorem index_eq (r : RingBuffer α) (i : Nat) (hi : i < r.size) :
    r.index i = if r.head + i < r.size then r.head + i else r.head + i - r.size := by
  have hhead := r.head_lt
  unfold index
  split_ifs with h
  · exact Nat.mod_eq_of_lt h
  · rw [Nat.mod_eq_sub_mod (by omega), Nat.mod_eq_of_lt (by omega)]

theorem index_zero (r : RingBuffer α) : r.index 0 = r.head := Nat.mod_eq_of_lt r.head_lt

theorem index_ne (r : RingBuffer α) {i j : Nat} (hij : i < j) (hj : j < r.size) :
    r.index i ≠ r.index j := by
  have hhead := r.head_lt
  rw [index_eq r i (by omega), index_eq r j hj]
  split_ifs <;> omega

theorem tail_of_full (r : RingBuffer α) (hfull : r.count = r.size) : r.tail = r.head := by
  rw [tail, index, hfull, Nat.add_mod_right, Nat.mod_eq_of_lt r.head_lt]

def empty (cells : Nat → α) (size : Nat) (hsize : 0 < size) : RingBuffer α where
  cells := cells
  size := size
  head := 0
  count := 0
  head_lt := hsize
  count_le := Nat.zero_le _

/-! ## Push -/

def push (r : RingBuffer α) (x : α) (hroom : r.count < r.size) : RingBuffer α where
  cells := Function.update r.cells r.tail x
  size := r.size
  head := r.head
  count := r.count + 1
  head_lt := r.head_lt
  count_le := hroom

theorem contents_push (r : RingBuffer α) (x : α) (hroom : r.count < r.size) :
    (r.push x hroom).contents = r.contents ++ [x] := by
  have hold : ∀ i ∈ List.range r.count,
      (r.push x hroom).cells ((r.push x hroom).index i) = r.cells (r.index i) := by
    intro i hi
    exact Function.update_of_ne (r.index_ne (List.mem_range.mp hi) hroom) _ _
  have hnew : (r.push x hroom).cells ((r.push x hroom).index r.count) = x :=
    Function.update_self _ _ _
  rw [contents, show (r.push x hroom).count = r.count + 1 from rfl, List.range_succ,
    List.map_append, List.map_congr_left hold, List.map_singleton, hnew, contents]

theorem tail_push (r : RingBuffer α) (x : α) (hroom : r.count < r.size) :
    (r.push x hroom).tail = if r.tail + 1 < r.size then r.tail + 1 else 0 := by
  have htail := r.index_lt r.count
  have hstep : (r.push x hroom).tail = (r.tail + 1) % r.size := by
    change (r.head + (r.count + 1)) % r.size = ((r.head + r.count) % r.size + 1) % r.size
    rw [← Nat.add_assoc, Nat.mod_add_mod]
  rw [hstep]
  split_ifs with h
  · exact Nat.mod_eq_of_lt h
  · rw [show r.tail + 1 = r.size by rw [tail] at *; omega, Nat.mod_self]

/-! ## Pop -/

def pop (r : RingBuffer α) (hsome : 0 < r.count) : RingBuffer α where
  cells := r.cells
  size := r.size
  head := r.index 1
  count := r.count - 1
  head_lt := r.index_lt 1
  count_le := by have := r.count_le; omega

theorem index_pop (r : RingBuffer α) (hsome : 0 < r.count) (i : Nat) :
    (r.pop hsome).index i = r.index (i + 1) := by
  change ((r.head + 1) % r.size + i) % r.size = (r.head + (i + 1)) % r.size
  rw [Nat.mod_add_mod, Nat.add_assoc, Nat.add_comm 1 i]

theorem contents_pop (r : RingBuffer α) (hsome : 0 < r.count) :
    r.contents = r.cells r.head :: (r.pop hsome).contents := by
  obtain ⟨n, hn⟩ : ∃ n, r.count = n + 1 := ⟨r.count - 1, by omega⟩
  have hpop : (r.pop hsome).count = n := by
    simp [pop, hn]
  rw [contents, contents, hpop, hn, List.range_succ_eq_map, List.map_cons, r.index_zero,
    List.map_map]
  refine congrArg _ (List.map_congr_left fun i _ => ?_)
  exact congrArg r.cells (r.index_pop hsome i).symm

theorem tail_pop (r : RingBuffer α) (hsome : 0 < r.count) : (r.pop hsome).tail = r.tail := by
  rw [tail, index_pop, tail, show (r.pop hsome).count + 1 = r.count from Nat.sub_add_cancel hsome]

theorem head_pop (r : RingBuffer α) (hsome : 0 < r.count) :
    (r.pop hsome).head = if r.head + 1 < r.size then r.head + 1 else 0 := by
  have hhead := r.head_lt
  change (r.head + 1) % r.size = _
  split_ifs with h
  · exact Nat.mod_eq_of_lt h
  · rw [show r.head + 1 = r.size by omega, Nat.mod_self]

/-! ## Growth -/

/-- `cells'` is `cells` with a gap of `k` cells opened in front of `head`. -/
structure Opened (cells cells' : Nat → α) (head size k : Nat) : Prop where
  below : ∀ i < head, cells' i = cells i
  above : ∀ i, head ≤ i → i < size → cells' (i + k) = cells i

def grow (r : RingBuffer α) (cells' : Nat → α) (k : Nat) : RingBuffer α where
  cells := cells'
  size := r.size + k
  head := r.head + k
  count := r.count
  head_lt := by have := r.head_lt; omega
  count_le := by have := r.count_le; omega

variable {r : RingBuffer α} {cells' : Nat → α} {k : Nat}

/-- The growth of a full ring keeps every element at its place in the order. -/
theorem contents_grow (hfull : r.count = r.size) (hopen : Opened r.cells cells' r.head r.size k) :
    (r.grow cells' k).contents = r.contents := by
  have hhead := r.head_lt
  refine List.map_congr_left fun i hi => ?_
  have hi : i < r.size := hfull ▸ List.mem_range.mp hi
  change cells' ((r.grow cells' k).index i) = r.cells (r.index i)
  rw [index_eq _ i (show i < r.size + k by omega), index_eq r i hi]
  change cells' (if r.head + k + i < r.size + k then r.head + k + i
    else r.head + k + i - (r.size + k)) = _
  by_cases h : r.head + i < r.size
  · rw [if_pos (by omega), if_pos h, ← hopen.above _ (by omega) h]
    congr 1
    omega
  · rw [if_neg (by omega), if_neg h, ← hopen.below _ (by omega)]
    congr 1
    omega

theorem tail_grow (hfull : r.count = r.size) (hk : 0 < k) : (r.grow cells' k).tail = r.tail := by
  have hhead := r.head_lt
  rw [tail_of_full r hfull, tail, index_eq _ _ (show r.count < r.size + k by omega)]
  change (if r.head + k + r.count < r.size + k then r.head + k + r.count
    else r.head + k + r.count - (r.size + k)) = r.head
  rw [if_neg (by omega)]
  omega

end RingBuffer

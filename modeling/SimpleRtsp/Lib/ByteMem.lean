import Mathlib.Data.List.GetD
import Mathlib.Tactic.Common

/-!
# Byte memory behind a pointer

`Mem` is what a C pointer gives access to: the byte at every offset from it. `Mem.read` reads a run
of bytes, `Mem.write` is `memcpy` into it, and `Mem.clearString` is `memset(p, 0, strlen(p))`. The
rules say what a read sees after a write: the bytes written (`read_write_same`), the old bytes
(`read_write_below`), or both in a row (`read_write_append`).
-/

/-- The byte at every offset from a pointer. -/
abbrev Mem := Nat → UInt8

namespace Mem

def read (m : Mem) (off n : Nat) : List UInt8 :=
  (List.range n).map fun i => m (off + i)

/-- `memcpy(p + off, bytes, length)`. -/
def write (m : Mem) (off : Nat) (bytes : List UInt8) : Mem := fun i =>
  if off ≤ i then bytes.getD (i - off) (m i) else m i

/-- `memset(p, 0, strlen(p))`: every byte before the first zero byte becomes zero. -/
def clearString (m : Mem) : Mem := fun i =>
  if (List.range (i + 1)).all (fun j => m j != 0) then 0 else m i

@[simp] theorem length_read (m : Mem) (off n : Nat) : (m.read off n).length = n := by
  simp [read]

theorem getElem_read (m : Mem) (off n i : Nat) (hi : i < (m.read off n).length) :
    (m.read off n)[i] = m (off + i) := by
  simp [read]

theorem read_congr {m m' : Mem} {off n : Nat} (h : ∀ i, off ≤ i → i < off + n → m i = m' i) :
    m.read off n = m'.read off n := by
  apply List.map_congr_left
  intro i hi
  rw [List.mem_range] at hi
  exact h (off + i) (by omega) (by omega)

theorem read_add (m : Mem) (off a b : Nat) :
    m.read off (a + b) = m.read off a ++ m.read (off + a) b := by
  simp [read, List.range_add, Nat.add_assoc]

theorem read_append (m : Mem) (a b : Nat) : m.read 0 a ++ m.read a b = m.read 0 (a + b) := by
  rw [read_add, Nat.zero_add]

theorem read_one (m : Mem) (off : Nat) : m.read off 1 = [m off] := by
  simp [read, List.range_succ]

theorem read_cons (m : Mem) (off n : Nat) : m.read off (1 + n) = m off :: m.read (off + 1) n := by
  rw [read_add, read_one, List.singleton_append]

theorem read_infix (m : Mem) {off n j k : Nat} (hle : off ≤ j) (hfit : j + k ≤ off + n) :
    m.read j k <:+: m.read off n := by
  obtain ⟨front, rfl⟩ := Nat.exists_eq_add_of_le hle
  obtain ⟨back, hback⟩ := Nat.exists_eq_add_of_le hfit
  obtain rfl : n = front + k + back := by omega
  rw [read_add, read_add]
  exact ⟨m.read off front, m.read (off + (front + k)) back, rfl⟩

theorem write_of_lt (m : Mem) (off i : Nat) (bytes : List UInt8) (hi : i < off) :
    m.write off bytes i = m i := by
  rw [write, if_neg (by omega)]

theorem write_of_le (m : Mem) (off i : Nat) (bytes : List UInt8) (hi : off + bytes.length ≤ i) :
    m.write off bytes i = m i := by
  rw [write, if_pos (by omega), List.getD_eq_default _ _ (by omega)]

theorem clearString_of_le (m : Mem) {z i : Nat} (hz : m z = 0) (hi : z ≤ i) :
    m.clearString i = m i := by
  rw [clearString, if_neg]
  intro hall
  have hbyte := List.all_eq_true.mp hall z (List.mem_range.mpr (by omega))
  simp [hz] at hbyte

theorem write_in (m : Mem) (off i : Nat) (bytes : List UInt8) (hi : i < bytes.length) :
    m.write off bytes (off + i) = bytes[i] := by
  rw [write, if_pos (by omega), Nat.add_sub_cancel_left, List.getD_eq_getElem _ _ hi]

theorem read_write_below (m : Mem) (off n : Nat) (bytes : List UInt8) (hn : n ≤ off) :
    (m.write off bytes).read 0 n = m.read 0 n := by
  refine List.ext_getElem (by simp) fun i hi _ => ?_
  rw [getElem_read, getElem_read]
  exact write_of_lt m off _ bytes (by simp at hi; omega)

theorem read_write_same (m : Mem) (off : Nat) (bytes : List UInt8) :
    (m.write off bytes).read off bytes.length = bytes := by
  refine List.ext_getElem (by simp) fun i _ hi => ?_
  rw [getElem_read]
  exact write_in m off i bytes hi

theorem read_write_above (m : Mem) (off j n : Nat) (bytes : List UInt8)
    (hj : off + bytes.length ≤ j) : (m.write off bytes).read j n = m.read j n :=
  read_congr fun i hi _ => write_of_le m off i bytes (by omega)

theorem read_split {m : Mem} {n : Nat} {front mid back : List UInt8}
    (h : m.read 0 n = front ++ mid ++ back) : m.read 0 front.length = front ∧
      m.read front.length mid.length = mid ∧
      m.read (front.length + mid.length) back.length = back := by
  have hn := congrArg List.length h
  rw [length_read, List.length_append, List.length_append] at hn
  rw [hn, read_add, read_add, Nat.zero_add, Nat.zero_add] at h
  obtain ⟨hrest, hback⟩ := List.append_inj h (by simp)
  obtain ⟨hfront, hmid⟩ := List.append_inj hrest (by simp)
  exact ⟨hfront, hmid, hback⟩

theorem read_write_middle {m : Mem} {n : Nat} {front mid back : List UInt8}
    (h : m.read 0 n = front ++ mid ++ back) {bytes : List UInt8}
    (hlength : bytes.length = mid.length) :
    (m.write front.length bytes).read 0 n = front ++ bytes ++ back := by
  have hn := congrArg List.length h
  rw [length_read, List.length_append, List.length_append, ← hlength] at hn
  obtain ⟨hfront, -, hback⟩ := read_split h
  rw [← hlength] at hback
  rw [hn, read_add, read_add, Nat.zero_add, Nat.zero_add,
    read_write_below _ _ _ _ (Nat.le_refl _), hfront, read_write_same,
    read_write_above _ _ _ _ _ (Nat.le_refl _), hback]

theorem read_write_end (m : Mem) (off : Nat) (bytes : List UInt8) :
    (m.write off bytes).read 0 (off + bytes.length) = m.read 0 off ++ bytes := by
  rw [read_add, read_write_below _ _ _ _ (Nat.le_refl _), Nat.zero_add, read_write_same]

theorem read_write_append (m : Mem) (front bytes : List UInt8) :
    ((m.write 0 front).write front.length bytes).read 0 (front.length + bytes.length) =
      front ++ bytes := by
  rw [read_write_end]
  congr 1
  exact read_write_same m 0 front

end Mem

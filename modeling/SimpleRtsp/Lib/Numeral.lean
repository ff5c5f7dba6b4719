import Mathlib.Data.List.TakeWhile
import Mathlib.Data.Nat.Digits.Lemmas
import SimpleRtsp.Lib.CString

/-!
# Numerals

A numeral is a string of decimal digits. Two numerals of one length that stand for the same number
are the same (`numeral_inj`), so printing a number back gives the text it was read from exactly if
this was a numeral of the same width (`paddedDecimal_atoi_iff`).
-/

namespace CString

def IsNumeral (s : List UInt8) : Prop := ∀ b ∈ s, isdigit b = true

instance : DecidablePred IsNumeral := fun s => List.decidableBAll (fun b => isdigit b = true) s

theorem isdigit_iff (b : UInt8) : isdigit b = true ↔ 0x30 ≤ b.toNat ∧ b.toNat ≤ 0x39 := by
  rw [isdigit, Bool.and_eq_true, decide_eq_true_iff, decide_eq_true_iff, UInt8.le_iff_toNat_le,
    UInt8.le_iff_toNat_le]
  rfl

theorem not_isspace_of_isdigit {b : UInt8} (h : isdigit b = true) : isspace b = false := by
  rw [isdigit_iff] at h
  rw [isspace, Bool.or_eq_false_iff, Bool.and_eq_false_iff, decide_eq_false_iff_not,
    decide_eq_false_iff_not, decide_eq_false_iff_not, UInt8.le_iff_toNat_le,
    UInt8.le_iff_toNat_le, ← UInt8.toNat_inj]
  simp only [UInt8.reduceToNat]
  omega

theorem IsNumeral.append {s t : List UInt8} (hs : IsNumeral s) (ht : IsNumeral t) :
    IsNumeral (s ++ t) := by
  intro b hb
  exact (List.mem_append.mp hb).elim (hs b) (ht b)

theorem isNumeral_decimal (n : Nat) : IsNumeral (decimal n) := by
  intro b hb
  rw [decimal_natCast] at hb
  obtain ⟨c, hc, rfl⟩ := List.mem_map.mp hb
  have hdigit := Char.isDigit_iff_toNat.mp (Nat.isDigit_of_mem_toDigits (by decide) (by decide) hc)
  rw [isdigit_iff, UInt8.toNat_ofNat', Nat.mod_eq_of_lt (Nat.lt_of_le_of_lt hdigit.2 (by decide))]
  exact hdigit

theorem isNumeral_paddedDecimal (w n : Nat) : IsNumeral (paddedDecimal w n) := by
  apply IsNumeral.append _ (isNumeral_decimal n)
  intro b hb
  rw [List.eq_of_mem_replicate hb]
  rfl

theorem decimal_ne_nil (n : Nat) : decimal n ≠ [] := by
  rw [decimal_natCast]
  simp [Nat.toDigits_ne_nil]

/-! ## The number of a numeral -/

/-- The digits of a numeral, the last one first. -/
def digitsOf (s : List UInt8) : List Nat := s.reverse.map fun b => b.toNat - 0x30

theorem numeral_eq_ofDigits (s : List UInt8) : numeral s = Nat.ofDigits 10 (digitsOf s) := by
  rw [numeral, digitsOf, Nat.ofDigits_eq_foldr, List.foldr_map, List.foldl_eq_foldr_reverse]
  apply List.foldr_ext
  intro b _ n
  exact Nat.add_comm ..

theorem IsNumeral.digitsOf_lt {s : List UInt8} (h : IsNumeral s) : ∀ d ∈ digitsOf s, d < 10 := by
  intro d hd
  obtain ⟨b, hb, rfl⟩ := List.mem_map.mp hd
  have hdigit := (isdigit_iff b).mp (h b (List.mem_reverse.mp hb))
  omega

theorem numeral_lt {s : List UInt8} (h : IsNumeral s) : numeral s < 10 ^ s.length := by
  rw [numeral_eq_ofDigits]
  have hlt := Nat.ofDigits_lt_base_pow_length (by decide) h.digitsOf_lt
  rwa [digitsOf, List.length_map, List.length_reverse] at hlt

theorem numeral_inj {s t : List UInt8} (hs : IsNumeral s) (ht : IsNumeral t)
    (hlength : s.length = t.length) (h : numeral s = numeral t) : s = t := by
  rw [numeral_eq_ofDigits, numeral_eq_ofDigits] at h
  have hdigits : digitsOf s = digitsOf t := by
    apply Nat.ofDigits_inj_of_len_eq (by decide) _ hs.digitsOf_lt ht.digitsOf_lt h
    simp [digitsOf, hlength]
  have hmap : s.map (fun b => b.toNat - 0x30) = t.map fun b => b.toNat - 0x30 := by
    rw [digitsOf, digitsOf, List.map_reverse, List.map_reverse] at hdigits
    exact List.reverse_injective hdigits
  apply List.ext_getElem hlength
  intro i his hit
  have hi := congrArg (·[i]?) hmap
  simp only [List.getElem?_map, List.getElem?_eq_getElem his, List.getElem?_eq_getElem hit,
    Option.map_some, Option.some.injEq] at hi
  have hsi := (isdigit_iff _).mp (hs _ (List.getElem_mem his))
  have hti := (isdigit_iff _).mp (ht _ (List.getElem_mem hit))
  apply UInt8.toNat_inj.mp
  omega

/-! ## Reading a numeral -/

theorem IsNumeral.takeWhile {s rest : List UInt8} (h : IsNumeral s)
    (hrest : ∀ b ∈ rest.head?, isdigit b = false) : (s ++ rest).takeWhile isdigit = s := by
  rw [List.takeWhile_append_of_pos h]
  cases rest with
  | nil => simp
  | cons b rest => simp [hrest b rfl]

theorem IsNumeral.dropWhile {s rest : List UInt8} (h : IsNumeral s)
    (hrest : ∀ b ∈ rest.head?, isdigit b = false) : (s ++ rest).dropWhile isdigit = rest := by
  rw [List.dropWhile_append_of_pos h]
  cases rest with
  | nil => simp
  | cons b rest => simp [hrest b rfl]

theorem toInt_natCast {n : Nat} (h : n < 2 ^ 31) : toInt n = n := by
  rw [toInt, min_eq_left (by omega), max_eq_right (by omega)]
  apply Int.bmod_eq_of_le <;> omega

theorem foldl_digits {s : List UInt8} (h : IsNumeral s) (n : Nat) :
    s.foldl (fun (n : Int) b => 10 * n + (b.toNat - 0x30)) n =
      (s.foldl (fun n b => 10 * n + (b.toNat - 0x30)) n : Nat) := by
  induction s generalizing n with
  | nil => rfl
  | cons b s ih =>
    have hb := (isdigit_iff b).mp (h b List.mem_cons_self)
    have hfirst : (10 * n + (b.toNat - 0x30) : Int) = (10 * n + (b.toNat - 0x30) : Nat) := by
      omega
    rw [List.foldl_cons, List.foldl_cons, hfirst]
    exact ih (fun c hc => h c (List.mem_cons_of_mem b hc)) _

theorem isNumeral_takeWhile (s : List UInt8) : IsNumeral (s.takeWhile isdigit) :=
  fun _ hb => List.mem_takeWhile_imp hb

theorem scanInt_eq {s : List UInt8}
    (hhead : ∀ b ∈ s.head?, isspace b = false ∧ b ≠ 0x2D ∧ b ≠ 0x2B) :
    scanInt s = if s.takeWhile isdigit = [] then none
      else some (toInt (numeral (s.takeWhile isdigit)), s.dropWhile isdigit) := by
  cases s with
  | nil => rfl
  | cons b s =>
    obtain ⟨hspace, hminus, hplus⟩ := hhead b rfl
    have hdrop : (b :: s).dropWhile isspace = b :: s := by
      rw [List.dropWhile_cons_of_neg (by simp [hspace])]
    have hsign : (b :: s).head? ≠ some 0x2D := by simpa using hminus
    rw [scanInt, hdrop]
    split
    · rename_i heq
      exact absurd (List.cons.inj heq).1 hminus
    · rename_i heq
      exact absurd (List.cons.inj heq).1 hplus
    · have hvalue := foldl_digits (isNumeral_takeWhile (b :: s)) 0
      rw [if_neg hsign, Int.natCast_zero] at *
      rw [hvalue]
      rfl

theorem scanInt_numeral {s rest : List UInt8} (h : IsNumeral s) (hne : s ≠ [])
    (hrest : ∀ b ∈ rest.head?, isdigit b = false) :
    scanInt (s ++ rest) = some (toInt (numeral s), rest) := by
  rw [scanInt_eq, h.takeWhile hrest, h.dropWhile hrest, if_neg hne]
  intro b hb
  rw [List.head?_append_of_ne_nil _ hne] at hb
  have hdigit := h b (List.mem_of_mem_head? hb)
  refine ⟨not_isspace_of_isdigit hdigit, ?_, ?_⟩ <;> rintro rfl <;> cases hdigit

theorem scanInt_decimal {n : Nat} (hn : n < 2 ^ 31) {rest : List UInt8}
    (hrest : ∀ b ∈ rest.head?, isdigit b = false) :
    scanInt (decimal n ++ rest) = some ((n : Int), rest) := by
  rw [scanInt_numeral (isNumeral_decimal n) (decimal_ne_nil n) hrest, numeral_decimal,
    toInt_natCast hn]

theorem atoi_eq {s : List UInt8}
    (hhead : ∀ b ∈ s.head?, isspace b = false ∧ b ≠ 0x2D ∧ b ≠ 0x2B)
    (hlength : (s.takeWhile isdigit).length ≤ 9) : atoi s = numeral (s.takeWhile isdigit) := by
  have hsmall : numeral (s.takeWhile isdigit) < 2 ^ 31 := by
    calc numeral (s.takeWhile isdigit)
      _ < 10 ^ (s.takeWhile isdigit).length := numeral_lt (isNumeral_takeWhile s)
      _ ≤ 10 ^ 9 := Nat.pow_le_pow_right (by decide) hlength
      _ ≤ 2 ^ 31 := by decide
  rw [atoi, scanInt_eq hhead]
  split_ifs with hnone
  · rw [hnone]
    rfl
  · exact toInt_natCast hsmall

/-- **Printing a number back.** It gives the text that was read exactly if that is a numeral. -/
theorem paddedDecimal_numeral_iff {s : List UInt8} (hne : s ≠ []) :
    paddedDecimal s.length (numeral (s.takeWhile isdigit)) = s ↔ IsNumeral s := by
  constructor
  · intro h
    rw [← h]
    exact isNumeral_paddedDecimal _ _
  · intro h
    rw [List.takeWhile_eq_self_iff.mpr h]
    apply numeral_inj (isNumeral_paddedDecimal _ _) h
    · exact length_paddedDecimal (List.length_pos_iff.mpr hne) (numeral_lt h)
    · exact numeral_paddedDecimal _ _

theorem head?_paddedDecimal {w n : Nat} (hw : 0 < w) (hn : n < 10 ^ w) :
    (paddedDecimal (w + 1) n).head? = some 0x30 := by
  have hlength : (decimal n).length ≤ w := by
    rw [decimal_natCast, List.length_map]
    exact (Nat.length_toDigits_le_iff (by decide) hw).mpr hn
  rw [paddedDecimal, show w + 1 - (decimal n).length = w - (decimal n).length + 1 by omega,
    List.replicate_succ]
  rfl

end CString

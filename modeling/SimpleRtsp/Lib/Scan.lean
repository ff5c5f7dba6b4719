import SimpleRtsp.Lib.Numeral

/-!
# What is scanned

What `sscanf` stores, whatever it scans: a number is one that an `int` holds, a string has only
bytes of the string that was scanned, and one stored for a `%s` is a word. And a number that an
`int` holds is read back from what `%d` prints of it.
-/

namespace CString

/-- A value of an `int`. -/
def IsInt (n : Int) : Prop := -2 ^ 31 ≤ n ∧ n < 2 ^ 31

theorem isInt_toInt (n : Int) : IsInt (toInt n) := by
  rw [toInt, IsInt]
  exact ⟨Int.le_bmod (by decide), Int.bmod_lt (by decide)⟩

theorem toInt_of_isInt {n : Int} (h : IsInt n) : toInt n = n := by
  obtain ⟨hlow, hhigh⟩ := h
  rw [toInt, min_eq_left (by omega), max_eq_right (by omega)]
  apply Int.bmod_eq_of_le <;> omega

/-! ## Numbers -/

theorem decimal_neg {m : Nat} (h : 0 < m) : decimal (-(m : Int)) = 0x2D :: decimal m := by
  rw [decimal_natCast, decimal, if_pos (by omega), Int.natAbs_neg, Int.natAbs_natCast]
  rfl

theorem scanInt_minus (s : List UInt8) : scanInt (0x2D :: s) =
    if s.takeWhile isdigit = [] then none
    else some (toInt (-(s.takeWhile isdigit).foldl
      (fun (n : Int) b => 10 * n + (b.toNat - 0x30)) 0), s.dropWhile isdigit) := rfl

/-- **Printing and reading.** -/
theorem scanInt_print {n : Int} (h : IsInt n) {rest : List UInt8}
    (hrest : ∀ b ∈ rest.head?, isdigit b = false) :
    scanInt (decimal n ++ rest) = some (n, rest) := by
  obtain ⟨m, rfl | rfl⟩ := n.eq_nat_or_neg
  · exact scanInt_decimal (by have := h.2; omega) hrest
  · obtain rfl | hm := Nat.eq_zero_or_pos m
    · exact scanInt_decimal (by decide) hrest
    · have hnumeral := isNumeral_decimal m
      have hvalue := foldl_digits hnumeral 0
      have hnumber : (decimal m).foldl (fun n b => 10 * n + (b.toNat - 0x30)) 0 = m :=
        numeral_decimal m
      rw [hnumber, Int.natCast_zero] at hvalue
      rw [decimal_neg hm, List.cons_append, scanInt_minus, hnumeral.takeWhile hrest,
        hnumeral.dropWhile hrest, if_neg (decimal_ne_nil m), hvalue, toInt_of_isInt h]

theorem isInt_of_scanInt {s rest : List UInt8} {n : Int} (h : scanInt s = some (n, rest)) :
    IsInt n := by
  rw [scanInt] at h
  split_ifs at h <;>
  · obtain ⟨rfl, -⟩ := Prod.mk.inj (Option.some.inj h)
    exact isInt_toInt _

theorem subset_of_scanInt {s rest : List UInt8} {n : Int} (h : scanInt s = some (n, rest)) :
    rest ⊆ s := by
  have hbehind : ∀ {c : UInt8} {digits : List UInt8}, s.dropWhile isspace = c :: digits →
      digits.dropWhile isdigit ⊆ s.dropWhile isspace := by
    intro c digits heq
    rw [heq]
    exact List.Subset.trans (List.dropWhile_suffix _).subset (List.subset_cons_self _ _)
  have hrest : rest ⊆ s.dropWhile isspace := by
    rw [scanInt] at h
    split at h
    · rename_i digits heq
      split_ifs at h <;> exact (Prod.mk.inj (Option.some.inj h)).2 ▸ hbehind heq
    · rename_i digits heq
      split_ifs at h <;> exact (Prod.mk.inj (Option.some.inj h)).2 ▸ hbehind heq
    · split_ifs at h <;>
        exact (Prod.mk.inj (Option.some.inj h)).2 ▸ (List.dropWhile_suffix _).subset
  exact List.Subset.trans hrest (List.dropWhile_suffix _).subset

theorem isInt_of_mem_scan {format : List Directive} {s : List UInt8} {n : Int}
    (h : .int n ∈ scan format s) : IsInt n := by
  fun_induction scan format s with
  | case1 => cases h
  | case2 _ _ ih => exact ih h
  | case3 _ _ _ _ ih => exact ih h
  | case4 => cases h
  | case5 => cases h
  | case6 _ _ _ _ ih =>
    obtain heq | h := List.mem_cons.mp h
    · cases heq
    · exact ih h
  | case7 => cases h
  | case8 _ _ _ _ hscan ih =>
    obtain heq | h := List.mem_cons.mp h
    · cases heq
      exact isInt_of_scanInt hscan
    · exact ih h
  | case9 => cases h
  | case10 _ _ _ _ ih =>
    obtain heq | h := List.mem_cons.mp h
    · cases heq
    · exact ih h

/-! ## Strings -/

theorem subset_of_mem_scan {format : List Directive} {s w : List UInt8}
    (h : .string w ∈ scan format s) : w ⊆ s := by
  fun_induction scan format s with
  | case1 => cases h
  | case2 _ s ih => exact List.Subset.trans (ih h) (List.dropWhile_suffix _).subset
  | case3 _ _ s _ ih => exact List.Subset.trans (ih h) (List.tail_suffix s).subset
  | case4 => cases h
  | case5 => cases h
  | case6 _ s s' _ ih =>
    have hspace : s' ⊆ s := (List.dropWhile_suffix _).subset
    obtain heq | h := List.mem_cons.mp h
    · cases heq
      exact List.Subset.trans (List.takeWhile_prefix _).subset hspace
    · exact List.Subset.trans (List.Subset.trans (ih h) (List.dropWhile_suffix _).subset) hspace
  | case7 => cases h
  | case8 _ _ _ _ hscan ih =>
    obtain heq | h := List.mem_cons.mp h
    · cases heq
    · exact List.Subset.trans (ih h) (subset_of_scanInt hscan)
  | case9 => cases h
  | case10 _ _ _ _ ih =>
    obtain heq | h := List.mem_cons.mp h
    · cases heq
      exact (List.takeWhile_prefix _).subset
    · exact List.Subset.trans (ih h) (List.dropWhile_suffix _).subset

/-- The format has no `%[^c]`. -/
def Wordly (format : List Directive) : Prop := ∀ stop, Directive.upTo stop ∉ format

theorem isWord_of_mem_scan {format : List Directive} (hformat : Wordly format) {s w : List UInt8}
    (h : .string w ∈ scan format s) : IsWord w := by
  have htail : ∀ {d : Directive} {ds : List Directive}, Wordly (d :: ds) → Wordly ds :=
    fun hds stop hmem => hds stop (List.mem_cons_of_mem _ hmem)
  fun_induction scan format s with
  | case1 => cases h
  | case2 _ _ ih => exact ih (htail hformat) h
  | case3 _ _ _ _ ih => exact ih (htail hformat) h
  | case4 => cases h
  | case5 => cases h
  | case6 _ _ _ _ ih =>
    obtain heq | h := List.mem_cons.mp h
    · cases heq
      intro b hb
      simpa using List.mem_takeWhile_imp hb
    · exact ih (htail hformat) h
  | case7 => cases h
  | case8 _ _ _ _ _ ih =>
    obtain heq | h := List.mem_cons.mp h
    · cases heq
    · exact ih (htail hformat) h
  | case9 => cases h
  | case10 => exact absurd List.mem_cons_self (hformat _)

end CString

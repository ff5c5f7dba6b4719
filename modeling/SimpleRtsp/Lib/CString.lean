import Mathlib.Algebra.Group.Nat.Defs
import Mathlib.Data.List.Basic

/-!
# Strings in C

Byte strings as `<string.h>` and `<stdio.h>` see them. `cstr` is what a buffer holds before its
first NUL, a search returns the string from the place it found on, `decimal` is what `%d` prints,
and `sscanf` reads a string by a format: a white space of the format takes any white space, `%s` a
word, `%d` a number, `%[^c]` everything before a `c`, and any other character itself. The result
of `sscanf` is the list of the values it stored, so its length is the number that C's function
returns.
-/

namespace CString

def str (s : String) : List UInt8 := s.toList.map fun c => UInt8.ofNat c.toNat

/-- The string that a buffer holds. -/
def cstr (buffer : List UInt8) : List UInt8 := buffer.takeWhile (· ≠ 0)

def strchr (s : List UInt8) (c : UInt8) : Option (List UInt8) :=
  match s.dropWhile (· ≠ c) with
  | [] => none
  | found => some found

def strrchr : List UInt8 → UInt8 → Option (List UInt8)
  | [], _ => none
  | b :: s, c => (strrchr s c).or (if b = c then some (b :: s) else none)

def strstr : List UInt8 → List UInt8 → Option (List UInt8)
  | [], key => if key = [] then some [] else none
  | b :: s, key => if key.isPrefixOf (b :: s) then some (b :: s) else strstr s key

/-- `%d`. -/
def decimal (n : Int) : List UInt8 :=
  (if n < 0 then [0x2D] else []) ++ (Nat.toDigits 10 n.natAbs).map fun c => UInt8.ofNat c.toNat

/-- `%0wd` of a number that is not negative. -/
def paddedDecimal (w n : Nat) : List UInt8 :=
  List.replicate (w - (decimal n).length) 0x30 ++ decimal n

def isspace (b : UInt8) : Bool := b = 0x20 || (0x09 ≤ b && b ≤ 0x0D)

def isdigit (b : UInt8) : Bool := 0x30 ≤ b && b ≤ 0x39

inductive Directive where
  | space
  | char (b : UInt8)
  | word
  | int
  | upTo (stop : UInt8)

/-- What `sscanf` stores. -/
inductive Arg where
  | int (n : Int)
  | string (s : List UInt8)
  deriving DecidableEq

/-- The directives of a format. -/
def directives : List UInt8 → List Directive
  | 0x25 :: 0x73 :: format => .word :: directives format
  | 0x25 :: 0x64 :: format => .int :: directives format
  | 0x25 :: 0x5B :: 0x5E :: stop :: 0x5D :: format => .upTo stop :: directives format
  | b :: format => (if isspace b then .space else .char b) :: directives format
  | [] => []

/-- A `long` that the C library has read, stored in an `int`. -/
def toInt (n : Int) : Int :=
  (max (-0x8000000000000000) (min n 0x7FFFFFFFFFFFFFFF)).bmod 0x100000000

/-- `%d`: white space, a sign, digits. -/
def scanInt (s : List UInt8) : Option (Int × List UInt8) :=
  let s := s.dropWhile isspace
  let digits := match s with
    | 0x2D :: rest => rest
    | 0x2B :: rest => rest
    | _ => s
  let value : Int := (digits.takeWhile isdigit).foldl (fun n b => 10 * n + (b.toNat - 0x30)) 0
  if digits.takeWhile isdigit = [] then none
  else some (toInt (if s.head? = some 0x2D then -value else value), digits.dropWhile isdigit)

/-- The number at the beginning of a string; 0 if there is none. -/
def atoi (s : List UInt8) : Int := ((scanInt s).map Prod.fst).getD 0

def scan : List Directive → List UInt8 → List Arg
  | [], _ => []
  | .space :: format, s => scan format (s.dropWhile isspace)
  | .char b :: format, s => if s.head? = some b then scan format s.tail else []
  | .word :: format, s =>
    let s := s.dropWhile isspace
    if s.takeWhile (! isspace ·) = [] then []
    else .string (s.takeWhile (! isspace ·)) :: scan format (s.dropWhile (! isspace ·))
  | .int :: format, s =>
    match scanInt s with
    | none => []
    | some (n, rest) => .int n :: scan format rest
  | .upTo stop :: format, s =>
    if s.takeWhile (· ≠ stop) = [] then []
    else .string (s.takeWhile (· ≠ stop)) :: scan format (s.dropWhile (· ≠ stop))

def sscanf (s : List UInt8) (format : String) : List Arg := scan (directives (str format)) s

/-! ## What the searches find -/

theorem cstr_append_nul (s : List UInt8) : cstr (s ++ [0]) = cstr s := by
  induction s with
  | nil => rfl
  | cons b s ih =>
    simp only [cstr, List.cons_append, List.takeWhile_cons] at ih ⊢
    rw [ih]

theorem strchr_cons (b : UInt8) (s : List UInt8) (c : UInt8) :
    strchr (b :: s) c = if b = c then some (b :: s) else strchr s c := by
  rw [strchr, strchr, List.dropWhile_cons]
  by_cases hb : b = c <;> simp [hb]

theorem strchr_eq_none {s : List UInt8} {c : UInt8} : strchr s c = none ↔ c ∉ s := by
  induction s with
  | nil => simp [strchr]
  | cons b s ih =>
    rw [strchr_cons, List.mem_cons, not_or, ← ih]
    by_cases hb : b = c
    · simp [hb]
    · simp [hb, Ne.symm hb]

theorem strstr_eq_some {s key found : List UInt8} (h : strstr s key = some found) :
    found <:+ s ∧ key <+: found := by
  induction s with
  | nil =>
    rw [strstr] at h
    split_ifs at h with hkey
    obtain rfl := Option.some.inj h
    simp [hkey]
  | cons b s ih =>
    rw [strstr] at h
    split_ifs at h with hkey
    · obtain rfl := Option.some.inj h
      exact ⟨List.suffix_refl _, List.isPrefixOf_iff_prefix.mp hkey⟩
    · obtain ⟨hsuffix, hbegins⟩ := ih h
      exact ⟨hsuffix.trans (List.suffix_cons b s), hbegins⟩

theorem strstr_eq_none {s key : List UInt8} (h : strstr s key = none) {l : List UInt8}
    (hl : l <:+ s) : ¬ key <+: l := by
  intro hkey
  induction s with
  | nil =>
    obtain rfl := List.suffix_nil.mp hl
    rw [strstr, if_pos (List.prefix_nil.mp hkey)] at h
    cases h
  | cons b s ih =>
    rw [strstr] at h
    split_ifs at h with hfound
    rcases List.suffix_cons_iff.mp hl with rfl | hl
    · exact hfound (List.isPrefixOf_iff_prefix.mpr hkey)
    · exact ih h hl

theorem cstr_append {s : List UInt8} (h : 0 ∉ s) (t : List UInt8) :
    cstr (s ++ t) = s ++ cstr t := by
  rw [cstr, cstr, List.takeWhile_append_of_pos]
  intro b hb
  simpa using fun hzero : b = 0 => h (hzero ▸ hb)

theorem cstr_of_mem {s : List UInt8} (h : 0 ∈ s) (t : List UInt8) : cstr (s ++ t) = cstr s := by
  obtain ⟨front, rest, hs, hfront⟩ := List.eq_append_cons_of_mem h
  rw [hs, List.append_assoc, cstr_append hfront, cstr_append hfront]
  rfl

theorem cstr_eq_self {s : List UInt8} (h : 0 ∉ s) : cstr s = s := by
  have hcstr := cstr_append h []
  rwa [List.append_nil, show cstr [] = [] from rfl, List.append_nil] at hcstr

theorem strstr_self {key : List UInt8} (hne : key ≠ []) (rest : List UInt8) :
    strstr (key ++ rest) key = some (key ++ rest) := by
  cases key with
  | nil => exact absurd rfl hne
  | cons b key =>
    have hbegins : (b :: key).isPrefixOf (b :: (key ++ rest)) :=
      List.isPrefixOf_iff_prefix.mpr (List.prefix_append (b :: key) rest)
    rw [List.cons_append, strstr, if_pos hbegins]

theorem strstr_append {p s key : List UInt8}
    (h : ∀ l, l ≠ [] → l <:+ p → ¬ key <+: l ++ s) : strstr (p ++ s) key = strstr s key := by
  induction p with
  | nil => rfl
  | cons b p ih =>
    have hfirst : ¬ key.isPrefixOf (b :: (p ++ s)) := by
      rw [List.isPrefixOf_iff_prefix]
      exact h (b :: p) (List.cons_ne_nil b p) (List.suffix_refl _)
    rw [List.cons_append, strstr, if_neg hfirst]
    exact ih fun l hl hsuffix => h l hl (hsuffix.trans (List.suffix_cons b p))

theorem strstr_append_some {p key found : List UInt8} (h : strstr p key = some found)
    (s : List UInt8) : strstr (p ++ s) key = some (found ++ s) := by
  induction p with
  | nil =>
    rw [strstr] at h
    split_ifs at h with hkey
    obtain rfl := Option.some.inj h
    rw [hkey, List.nil_append]
    cases s <;> simp [strstr]
  | cons b p ih =>
    rw [strstr] at h
    rw [List.cons_append, strstr]
    split_ifs at h with hfound
    · obtain rfl := Option.some.inj h
      have hbegins : key <+: b :: (p ++ s) :=
        (List.isPrefixOf_iff_prefix.mp hfound).trans (List.prefix_append _ s)
      rw [if_pos (List.isPrefixOf_iff_prefix.mpr hbegins), List.cons_append]
    · -- the key would have to reach behind the place where it is found
      obtain ⟨hsuffix, hkey⟩ := strstr_eq_some h
      have hlength : key.length ≤ (b :: p).length := by
        have hle := Nat.le_trans hkey.length_le hsuffix.length_le
        simp only [List.length_cons]
        omega
      have hfirst : ¬ key.isPrefixOf (b :: (p ++ s)) := by
        rw [List.isPrefixOf_iff_prefix]
        intro hbegins
        have hshort := List.prefix_of_prefix_length_le hbegins
          (List.prefix_append (b :: p) s) hlength
        exact hfound (List.isPrefixOf_iff_prefix.mpr hshort)
      rw [if_neg hfirst]
      exact ih h

theorem prefix_of_prefix_append_cons {key l s : List UInt8} {c : UInt8} (hc : c ∉ key)
    (h : key <+: l ++ c :: s) : key <+: l := by
  have hfront : l ++ [c] <+: l ++ c :: s := ⟨s, by simp⟩
  obtain hkey | hkey := List.prefix_or_prefix_of_prefix h hfront
  · obtain rfl | hkey := List.prefix_concat_iff.mp hkey
    · exact absurd (by simp) hc
    · exact hkey
  · exact absurd (hkey.subset (by simp)) hc

/-- In two parts with a `c` between them, a key without `c` is found in the first or in the
second. -/
theorem strstr_split {key : List UInt8} {c : UInt8} (hc : c ∉ key) (p s : List UInt8) :
    strstr (p ++ c :: s) key = ((strstr p key).map (· ++ c :: s)).or (strstr s key) := by
  cases hp : strstr p key with
  | some found => exact strstr_append_some hp _
  | none =>
    have hsplit : p ++ c :: s = (p ++ [c]) ++ s := by simp
    rw [Option.map_none, Option.none_or, hsplit]
    apply strstr_append
    intro l hl hsuffix hbegins
    obtain rfl | ⟨l', rfl, hl'⟩ := List.suffix_concat_iff.mp hsuffix
    · exact hl rfl
    · rw [List.append_assoc] at hbegins
      exact strstr_eq_none hp hl' (prefix_of_prefix_append_cons hc hbegins)

theorem strstr_nil {key : List UInt8} (hne : key ≠ []) : strstr [] key = none := by
  rw [strstr, if_neg hne]

theorem strstr_replicate {key : List UInt8} {c : UInt8} (hne : key ≠ []) (hc : c ∉ key) (n : Nat)
    (s : List UInt8) : strstr (List.replicate n c ++ s) key = strstr s key := by
  induction n with
  | zero => rfl
  | succ n ih =>
    have hsplit := strstr_split hc [] (List.replicate n c ++ s)
    rw [List.nil_append, strstr_nil hne, Option.map_none, Option.none_or] at hsplit
    rw [List.replicate_succ, List.cons_append, hsplit, ih]

theorem strstr_absent {s key : List UInt8} (h : ¬ key <:+: s) :
    strstr s key = none := by
  cases hs : strstr s key with
  | none => rfl
  | some found =>
    obtain ⟨hsuffix, hkey⟩ := strstr_eq_some hs
    exact absurd (hkey.isInfix.trans hsuffix.isInfix) h

theorem strchr_append {p : List UInt8} {c : UInt8} (h : c ∉ p) (s : List UInt8) :
    strchr (p ++ s) c = strchr s c := by
  induction p with
  | nil => rfl
  | cons b p ih =>
    obtain ⟨hb, hp⟩ := List.ne_and_not_mem_of_not_mem_cons h
    rw [List.cons_append, strchr_cons, if_neg (Ne.symm hb), ih hp]

theorem takeWhile_append_cons {p : List UInt8} {c : UInt8} (h : c ∉ p) (s : List UInt8) :
    (p ++ c :: s).takeWhile (· ≠ c) = p := by
  rw [List.takeWhile_append_of_pos]
  · simp
  · intro b hb
    simpa using fun hbc : b = c => h (hbc ▸ hb)

theorem append_cons_inj {p p' : List UInt8} {c : UInt8} (hp : c ∉ p) (hp' : c ∉ p')
    {s s' : List UInt8} (h : p ++ c :: s = p' ++ c :: s') : p = p' ∧ s = s' := by
  have hfront := congrArg (List.takeWhile (· ≠ c)) h
  rw [takeWhile_append_cons hp, takeWhile_append_cons hp'] at hfront
  subst hfront
  exact ⟨rfl, (List.cons.inj (List.append_cancel_left h)).2⟩

theorem strchr_eq_some {s found : List UInt8} {c : UInt8} (h : strchr s c = some found) :
    ∃ rest, found = c :: rest ∧ s = s.takeWhile (· ≠ c) ++ c :: rest := by
  induction s with
  | nil => exact absurd h (by simp [strchr])
  | cons b s ih =>
    rw [strchr_cons] at h
    split_ifs at h with hb
    · obtain rfl := Option.some.inj h
      subst hb
      exact ⟨s, rfl, by simp⟩
    · obtain ⟨rest, hfound, hs⟩ := ih h
      refine ⟨rest, hfound, ?_⟩
      rw [List.takeWhile_cons_of_pos (by simpa using hb), List.cons_append, ← hs]

theorem take_strchr {s rest : List UInt8} {c : UInt8} (h : strchr s c = some rest) :
    s.take (s.length - rest.length) = s.takeWhile (· ≠ c) := by
  obtain ⟨rest', rfl, hs⟩ := strchr_eq_some h
  have hlength := congrArg List.length hs
  rw [List.length_append] at hlength
  have hfront : s.length - (c :: rest').length = (s.takeWhile (· ≠ c)).length := by omega
  rw [hfront]
  nth_rewrite 2 [hs]
  rw [List.take_left]

/-! ## Numerals -/

/-- The number that a numeral stands for. -/
def numeral (s : List UInt8) : Nat := s.foldl (fun n b => 10 * n + (b.toNat - 0x30)) 0

theorem decimal_natCast (n : Nat) :
    decimal n = (Nat.toDigits 10 n).map fun c => UInt8.ofNat c.toNat := by
  rw [decimal, if_neg (Int.not_lt.mpr (Int.natCast_nonneg n)), List.nil_append, Int.natAbs_natCast]

theorem numeral_decimal (n : Nat) : numeral (decimal n) = n := by
  have hdigit : ∀ c ∈ Nat.toDigits 10 n, (UInt8.ofNat c.toNat).toNat = c.toNat := by
    intro c hc
    have hc := Char.isDigit_iff_toNat.mp (Nat.isDigit_of_mem_toDigits (by decide) (by decide) hc)
    rw [UInt8.toNat_ofNat']
    exact Nat.mod_eq_of_lt (Nat.lt_of_le_of_lt hc.2 (by decide))
  calc numeral (decimal n)
    _ = Nat.ofDigitChars 10 (Nat.toDigits 10 n) 0 := by
      rw [decimal_natCast, numeral, List.foldl_map, Nat.ofDigitChars_eq_foldl]
      apply List.foldl_ext
      intro m c hc
      rw [hdigit c hc]
      rfl
    _ = n := Nat.ofDigitChars_ten_toDigits

theorem numeral_paddedDecimal (w n : Nat) : numeral (paddedDecimal w n) = n := by
  have hzeros : ∀ k, numeral (List.replicate k 0x30 ++ decimal n) = numeral (decimal n) := by
    intro k
    induction k with
    | zero => rfl
    | succ k ih => exact ih
  rw [paddedDecimal, hzeros, numeral_decimal]

theorem length_paddedDecimal {w n : Nat} (hw : 0 < w) (hn : n < 10 ^ w) :
    (paddedDecimal w n).length = w := by
  have hlength : (decimal n).length ≤ w := by
    rw [decimal_natCast, List.length_map]
    exact (Nat.length_toDigits_le_iff (by decide) hw).mpr hn
  rw [paddedDecimal, List.length_append, List.length_replicate]
  omega

/-! ## Words -/

def IsWord (w : List UInt8) : Prop := ∀ b ∈ w, isspace b = false

instance : DecidablePred IsWord := fun w => List.decidableBAll (fun b => isspace b = false) w

theorem IsWord.suffix {w l : List UInt8} (h : IsWord w) (hl : l <:+ w) : IsWord l :=
  fun b hb => h b (hl.subset hb)

theorem IsWord.takeWhile {w : List UInt8} (h : IsWord w) {c : UInt8} (hc : isspace c)
    (rest : List UInt8) : (w ++ c :: rest).takeWhile (! isspace ·) = w := by
  rw [List.takeWhile_append_of_pos fun b hb => by simp [h b hb]]
  simp [hc]

theorem IsWord.dropWhile {w : List UInt8} (h : IsWord w) {c : UInt8} (hc : isspace c)
    (rest : List UInt8) : (w ++ c :: rest).dropWhile (! isspace ·) = c :: rest := by
  rw [List.dropWhile_append_of_pos fun b hb => by simp [h b hb]]
  simp [hc]

theorem IsWord.dropWhile_isspace {w : List UInt8} (h : IsWord w) (hne : w ≠ [])
    (rest : List UInt8) : (w ++ rest).dropWhile isspace = w ++ rest := by
  cases w with
  | nil => exact absurd rfl hne
  | cons b w => simp [h b List.mem_cons_self]

theorem scan_word {w : List UInt8} (h : IsWord w) (hne : w ≠ []) {c : UInt8} (hc : isspace c)
    (rest : List UInt8) (format : List Directive) :
    scan (.word :: format) (w ++ c :: rest) = .string w :: scan format (c :: rest) := by
  rw [scan, h.dropWhile_isspace hne]
  simp only [h.takeWhile hc, h.dropWhile hc, if_neg hne]

theorem scan_space {w : List UInt8} (h : IsWord w) (hne : w ≠ []) {c : UInt8} (hc : isspace c)
    (rest : List UInt8) (format : List Directive) :
    scan (.space :: format) (c :: (w ++ rest)) = scan format (w ++ rest) := by
  rw [scan, List.dropWhile_cons_of_pos hc, h.dropWhile_isspace hne]

theorem scan_literal (l s : List UInt8) (format : List Directive) :
    scan (l.map .char ++ format) (l ++ s) = scan format s := by
  induction l with
  | nil => rfl
  | cons b l ih =>
    rw [List.map_cons, List.cons_append, List.cons_append, scan, List.head?_cons, if_pos rfl]
    exact ih

theorem scan_upTo {s : List UInt8} {stop : UInt8} (h : s.takeWhile (· ≠ stop) ≠ [])
    (format : List Directive) : scan (.upTo stop :: format) s =
      .string (s.takeWhile (· ≠ stop)) :: scan format (s.dropWhile (· ≠ stop)) := by
  rw [scan, if_neg h]

theorem IsWord.prefix_eq {w key rest : List UInt8} (h : IsWord w) (hkey : IsWord key) {c c' : UInt8}
    (hc : isspace c) (hc' : isspace c') (hbegins : key ++ [c] <+: w ++ c' :: rest) : w = key := by
  obtain ⟨tail, htail⟩ := hbegins
  rw [List.append_assoc] at htail
  have hword := congrArg (List.takeWhile (! isspace ·)) htail
  rw [h.takeWhile hc'] at hword
  exact hword.symm.trans (hkey.takeWhile hc tail)

theorem strstr_word {w key : List UInt8} (h : IsWord w) (hkey : IsWord key) {c c' : UInt8}
    (hc : isspace c) (hc' : isspace c') (hend : ¬ key <:+ w) (rest : List UInt8) :
    strstr (w ++ c' :: rest) (key ++ [c]) = strstr rest (key ++ [c]) := by
  have hsplit : w ++ c' :: rest = (w ++ [c']) ++ rest := by simp
  rw [hsplit]
  apply strstr_append
  intro l hl hsuffix hbegins
  obtain rfl | ⟨w', rfl, hw'⟩ := List.suffix_concat_iff.mp hsuffix
  · exact hl rfl
  · rw [List.append_assoc] at hbegins
    exact hend ((h.suffix hw').prefix_eq hkey hc hc' hbegins ▸ hw')

end CString

import Mathlib.Data.List.Infix
import SimpleRtsp.Lib.Numeral

/-!
# Strings in C++

Byte strings as `<string>` and `<regex>` see them. `find` tells whether a key occurs, `stoi` reads a
number or throws, and `regexSearch` takes the leftmost place where a pattern matches; the pattern
here is a text with a number behind it, `literalNumber`. What such a search returns is said by
`FirstNumeral` about the string alone, and `numbered_iff` is the rule for a program that takes 0
where nothing is found.
-/

namespace CString

/-- `s.find(key) != std::string::npos`. -/
def find (s key : List UInt8) : Bool := (strstr s key).isSome

inductive StdException where
  | invalidArgument
  | outOfRange
  deriving DecidableEq

/-- `std::stoi`: white space, a sign, digits. -/
def stoi (s : List UInt8) : Except StdException Int :=
  let s := s.dropWhile isspace
  let digits := match s with
    | 0x2D :: rest => rest
    | 0x2B :: rest => rest
    | _ => s
  let value : Int := numeral (digits.takeWhile isdigit)
  let signed := if s.head? = some 0x2D then -value else value
  if digits.takeWhile isdigit = [] then .error .invalidArgument
  else if -0x80000000 ≤ signed ∧ signed ≤ 0x7FFFFFFF then .ok signed
  else .error .outOfRange

/-- `std::regex_search`: the leftmost match. -/
def regexSearch {α : Type} (pattern : List UInt8 → Option α) (s : List UInt8) : Option α :=
  s.tails.findSome? pattern

/-- The match of `key(\d+)` at the beginning of a string. -/
def literalNumber (key s : List UInt8) : Option (List UInt8) :=
  if key.isPrefixOf s ∧ (s.drop key.length).takeWhile isdigit ≠ [] then
    some ((s.drop key.length).takeWhile isdigit)
  else none

/-- These are the digits behind the first `key` of the text that has digits behind it. -/
def FirstNumeral (key text digits : List UInt8) : Prop :=
  ∃ front rest, text = front ++ (key ++ (digits ++ rest)) ∧ digits ≠ [] ∧ IsNumeral digits ∧
    (∀ b ∈ rest.head?, isdigit b = false) ∧
    ∀ front' b rest', text = front' ++ (key ++ b :: rest') → isdigit b = true →
      front.length ≤ front'.length

/-- The number behind the first `key` with digits behind it; 0 if there is none. -/
def Numbered (key text : List UInt8) (n : Nat) : Prop :=
  (∃ digits, FirstNumeral key text digits ∧ numeral digits = n) ∨
    (n = 0 ∧ ∀ digits, ¬ FirstNumeral key text digits)

theorem find_iff {s key : List UInt8} : find s key = true ↔ key <:+: s := by
  constructor
  · intro h
    obtain ⟨found, hfound⟩ := Option.isSome_iff_exists.mp h
    obtain ⟨hsuffix, hkey⟩ := strstr_eq_some hfound
    exact hkey.isInfix.trans hsuffix.isInfix
  · intro h
    obtain ⟨l, hkey, hl⟩ := List.infix_iff_prefix_suffix.mp h
    rw [find, Option.isSome_iff_ne_none]
    intro hnone
    exact strstr_eq_none hnone hl hkey

theorem stoi_numeral {s : List UInt8} (h : IsNumeral s) (hne : s ≠ []) :
    stoi s = if numeral s ≤ 0x7FFFFFFF then .ok (numeral s) else .error .outOfRange := by
  obtain ⟨b, s, rfl⟩ := List.exists_cons_of_ne_nil hne
  have hb := h b List.mem_cons_self
  have hdrop : (b :: s).dropWhile isspace = b :: s := by
    rw [List.dropWhile_cons_of_neg (by simp [not_isspace_of_isdigit hb])]
  have hsign : b ≠ 0x2D ∧ b ≠ 0x2B := by
    constructor <;> rintro rfl <;> cases hb
  have hhead : (b :: s).head? ≠ some 0x2D := by simpa using hsign.1
  have htake : (b :: s).takeWhile isdigit = b :: s := List.takeWhile_eq_self_iff.mpr h
  rw [stoi, hdrop]
  split
  · rename_i heq
    exact absurd (List.cons.inj heq).1 hsign.1
  · rename_i heq
    exact absurd (List.cons.inj heq).1 hsign.2
  · rw [htake, if_neg hhead, if_neg hne]
    split_ifs with h₁ h₂ h₂
    · rfl
    · omega
    · omega
    · rfl

/-! ## The leftmost match -/

theorem regexSearch_cons {α : Type} (pattern : List UInt8 → Option α) (b : UInt8)
    (s : List UInt8) :
    regexSearch pattern (b :: s) = (pattern (b :: s)).or (regexSearch pattern s) := by
  rw [regexSearch, List.tails_cons, List.findSome?_cons]
  cases pattern (b :: s) with
  | none => rfl
  | some a => rfl

theorem regexSearch_eq_some {α : Type} {pattern : List UInt8 → Option α} {s : List UInt8} {a : α}
    (h : regexSearch pattern s = some a) :
    ∃ front rest, s = front ++ rest ∧ pattern rest = some a ∧
      ∀ front' rest', s = front' ++ rest' → pattern rest' ≠ none →
        front.length ≤ front'.length := by
  induction s with
  | nil =>
    have hnil : pattern [] = some a := by simpa [regexSearch] using h
    exact ⟨[], [], rfl, hnil, fun _ _ _ _ => Nat.zero_le _⟩
  | cons b s ih =>
    rw [regexSearch_cons] at h
    cases hb : pattern (b :: s) with
    | some a' =>
      rw [hb, Option.some_or] at h
      rw [h] at hb
      exact ⟨[], b :: s, rfl, hb, fun _ _ _ _ => Nat.zero_le _⟩
    | none =>
      rw [hb, Option.none_or] at h
      obtain ⟨front, rest, rfl, hrest, hfirst⟩ := ih h
      refine ⟨b :: front, rest, rfl, hrest, ?_⟩
      intro front' rest' heq hmatch
      cases front' with
      | nil =>
        rw [List.nil_append] at heq
        rw [← heq] at hmatch
        exact absurd hb hmatch
      | cons b' front' =>
        exact Nat.succ_le_succ (hfirst front' rest' (List.cons.inj heq).2 hmatch)

theorem regexSearch_eq_none {α : Type} {pattern : List UInt8 → Option α} {s : List UInt8}
    (h : regexSearch pattern s = none) {front rest : List UInt8} (hs : s = front ++ rest) :
    pattern rest = none := by
  rw [regexSearch, List.findSome?_eq_none_iff] at h
  exact h rest (List.mem_tails _ _ |>.mpr ⟨front, hs.symm⟩)

/-! ## A text with a number behind it -/

theorem literalNumber_append {key digits rest : List UInt8} (hdigits : IsNumeral digits)
    (hne : digits ≠ []) (hrest : ∀ b ∈ rest.head?, isdigit b = false) :
    literalNumber key (key ++ (digits ++ rest)) = some digits := by
  rw [literalNumber, List.drop_left, hdigits.takeWhile hrest, if_pos]
  exact ⟨List.isPrefixOf_iff_prefix.mpr (List.prefix_append _ _), hne⟩

theorem literalNumber_eq_some {key s digits : List UInt8} (h : literalNumber key s = some digits) :
    ∃ rest, s = key ++ (digits ++ rest) ∧ digits ≠ [] ∧ IsNumeral digits ∧
      ∀ b ∈ rest.head?, isdigit b = false := by
  rw [literalNumber] at h
  split_ifs at h with hmatch
  obtain ⟨rest, rfl⟩ := List.isPrefixOf_iff_prefix.mp hmatch.1
  rw [List.drop_left] at h hmatch
  obtain rfl := Option.some.inj h
  refine ⟨rest.dropWhile isdigit, ?_, hmatch.2, isNumeral_takeWhile rest, ?_⟩
  · rw [List.takeWhile_append_dropWhile]
  · intro b hb
    have hnot := List.head?_dropWhile_not isdigit rest
    rw [hb] at hnot
    simpa using hnot

theorem literalNumber_ne_none {key rest : List UInt8} {b : UInt8} (hb : isdigit b = true) :
    literalNumber key (key ++ b :: rest) ≠ none := by
  have hdigits : (b :: rest).takeWhile isdigit ≠ [] := by
    rw [List.takeWhile_cons_of_pos hb]
    exact List.cons_ne_nil _ _
  rw [literalNumber, List.drop_left, if_pos]
  · exact Option.some_ne_none _
  · exact ⟨List.isPrefixOf_iff_prefix.mpr (List.prefix_append _ _), hdigits⟩

theorem firstNumeral_iff {key text digits : List UInt8} :
    FirstNumeral key text digits ↔ regexSearch (literalNumber key) text = some digits := by
  constructor
  · rintro ⟨front, rest, htext, hne, hdigits, hrest, hfirst⟩
    have hmatch := @literalNumber_append key digits rest hdigits hne hrest
    cases hsearch : regexSearch (literalNumber key) text with
    | none =>
      rw [regexSearch_eq_none hsearch htext] at hmatch
      cases hmatch
    | some digits' =>
      obtain ⟨front', rest', htext', hmatch', hfirst'⟩ := regexSearch_eq_some hsearch
      have hle := hfirst' front _ htext (by rw [hmatch]; exact Option.some_ne_none _)
      obtain ⟨back, hback, hne', hdigits', -⟩ := literalNumber_eq_some hmatch'
      obtain ⟨b, tail, rfl⟩ := List.exists_cons_of_ne_nil hne'
      have hle' := hfirst front' b (tail ++ back) (by rw [htext', hback]; rfl)
        (hdigits' b List.mem_cons_self)
      have hsame := List.append_inj_right (htext'.symm.trans htext) (Nat.le_antisymm hle hle')
      rw [hsame, hmatch] at hmatch'
      exact hmatch'.symm
  · intro h
    obtain ⟨front, found, htext, hmatch, hfirst⟩ := regexSearch_eq_some h
    obtain ⟨rest, rfl, hne, hdigits, hrest⟩ := literalNumber_eq_some hmatch
    refine ⟨front, rest, htext, hne, hdigits, hrest, ?_⟩
    intro front' b rest' htext' hb
    exact hfirst front' _ htext' (literalNumber_ne_none hb)

theorem numbered_iff {key text : List UInt8} {n : Nat} : Numbered key text n ↔
    ((regexSearch (literalNumber key) text).map numeral).getD 0 = n := by
  rw [Numbered]
  simp only [firstNumeral_iff]
  cases regexSearch (literalNumber key) text with
  | none => simp [eq_comm]
  | some digits => simp

end CString

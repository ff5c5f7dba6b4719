import Mathlib.Data.List.Basic
import Mathlib.Tactic.Common

/-!
# Frames on a byte stream

A frame is a block of data behind a header of four bytes: a magic byte, a tag and the length of
the data in two bytes, the high one first. `Framing.split` is the receiver: it reads a header,
takes as many bytes as it says, and goes on behind them. The receiver gets back a sequence of
frames exactly if every length fits in its two bytes (`Framing.split_frames_iff`): behind the first
one that does not it is out of step.
-/

namespace Framing

/-- The header of a frame: the two low bytes of the length. -/
def header (magic tag : UInt8) (len : Nat) : List UInt8 :=
  [magic, tag, UInt8.ofNat (len / 256), UInt8.ofNat len]

def frame (magic : UInt8) (f : UInt8 × List UInt8) : List UInt8 :=
  header magic f.1 f.2.length ++ f.2

/-- The receiver, with fuel for one header after another. -/
def splitFuel (magic : UInt8) : Nat → List UInt8 → Option (List (UInt8 × List UInt8))
  | _, [] => some []
  | fuel + 1, m :: tag :: hi :: lo :: rest =>
    if m = magic ∧ hi.toNat * 256 + lo.toNat ≤ rest.length then
      (splitFuel magic fuel (rest.drop (hi.toNat * 256 + lo.toNat))).map
        ((tag, rest.take (hi.toNat * 256 + lo.toNat)) :: ·)
    else none
  | _, _ => none

/-- The frames of a stream; none if it does not end with a frame. -/
def split (magic : UInt8) (stream : List UInt8) : Option (List (UInt8 × List UInt8)) :=
  splitFuel magic stream.length stream

theorem header_of_bytes {magic tag hi lo : UInt8} {len : Nat} (hhi : hi.toNat = len / 256 % 256)
    (hlo : lo.toNat = len % 256) : [magic, tag, hi, lo] = header magic tag len := by
  have hhigh : hi = UInt8.ofNat (len / 256) := by
    apply UInt8.toNat_inj.mp
    rw [hhi, UInt8.toNat_ofNat']
  have hlow : lo = UInt8.ofNat len := by
    apply UInt8.toNat_inj.mp
    rw [hlo, UInt8.toNat_ofNat']
  rw [hhigh, hlow, header]

theorem length_bytes (len : Nat) :
    (UInt8.ofNat (len / 256)).toNat * 256 + (UInt8.ofNat len).toNat = len % 65536 := by
  simp only [UInt8.toNat_ofNat']
  omega

theorem splitFuel_frame (magic : UInt8) (fuel : Nat) (f : UInt8 × List UInt8) (rest : List UInt8) :
    splitFuel magic (fuel + 1) (frame magic f ++ rest) =
      (splitFuel magic fuel ((f.2 ++ rest).drop (f.2.length % 65536))).map
        ((f.1, (f.2 ++ rest).take (f.2.length % 65536)) :: ·) := by
  have hfits : f.2.length % 65536 ≤ (f.2 ++ rest).length := by
    have := Nat.mod_le f.2.length 65536
    rw [List.length_append]
    omega
  change splitFuel magic (fuel + 1) (magic :: f.1 :: _ :: _ :: (f.2 ++ rest)) = _
  rw [splitFuel, length_bytes, if_pos ⟨rfl, hfits⟩]

theorem length_frame (magic : UInt8) (f : UInt8 × List UInt8) :
    (frame magic f).length = f.2.length + 4 := by
  simp [frame, header]

theorem splitFuel_frames_iff (magic : UInt8) (fs : List (UInt8 × List UInt8)) (fuel : Nat)
    (hfuel : fs.length ≤ fuel) :
    splitFuel magic fuel (fs.flatMap (frame magic)) = some fs ↔ ∀ f ∈ fs, f.2.length < 65536 := by
  induction fs generalizing fuel with
  | nil => simp [splitFuel]
  | cons f fs ih =>
    obtain ⟨fuel, rfl⟩ : ∃ n, fuel = n + 1 := ⟨fuel - 1, by simp at hfuel; omega⟩
    rw [List.flatMap_cons, splitFuel_frame, List.forall_mem_cons, ← ih fuel (by simpa using hfuel)]
    by_cases hlen : f.2.length < 65536
    · rw [Nat.mod_eq_of_lt hlen, List.take_left, List.drop_left, Option.map_eq_some_iff]
      simp [hlen]
    · -- the receiver takes less than the frame has
      rw [Option.map_eq_some_iff]
      constructor
      · rintro ⟨_, -, hcons⟩
        have hdata : (f.2 ++ fs.flatMap (frame magic)).take (f.2.length % 65536) = f.2 :=
          congrArg Prod.snd (List.cons.inj hcons).1
        have hlength := congrArg List.length hdata
        rw [List.length_take, List.length_append] at hlength
        omega
      · intro h
        exact absurd h.1 hlen

/-- **Staying in step.** A receiver gets back the frames that were sent exactly if no length is
cut. -/
theorem split_frames_iff (magic : UInt8) (fs : List (UInt8 × List UInt8)) :
    split magic (fs.flatMap (frame magic)) = some fs ↔ ∀ f ∈ fs, f.2.length < 65536 := by
  apply splitFuel_frames_iff
  rw [List.length_flatMap]
  induction fs with
  | nil => exact Nat.le_refl 0
  | cons f fs ih =>
    rw [List.map_cons, List.sum_cons, List.length_cons, length_frame]
    omega

theorem eq_cons_of_split {magic : UInt8} {stream : List UInt8} {fs : List (UInt8 × List UInt8)}
    (h : split magic stream = some fs) :
    stream = [] ∧ fs = [] ∨ ∃ rest, stream = magic :: rest := by
  cases stream with
  | nil => exact Or.inl ⟨rfl, (Option.some.inj h).symm⟩
  | cons m stream =>
    right
    rw [split, List.length_cons] at h
    unfold splitFuel at h
    split at h
    · rename_i heq
      cases heq
    · rename_i heq
      obtain ⟨-, rfl⟩ := List.cons.inj heq
      split_ifs at h with hmagic
      exact ⟨_, by rw [← hmagic.1, heq]⟩
    · cases h

theorem length_lt_of_splitFuel {magic : UInt8} {fuel : Nat} {stream : List UInt8}
    {fs : List (UInt8 × List UInt8)} (h : splitFuel magic fuel stream = some fs) :
    ∀ f ∈ fs, f.2.length < 65536 := by
  fun_induction splitFuel magic fuel stream generalizing fs with
  | case1 =>
    rw [← Option.some.inj h]
    exact fun f hf => absurd hf List.not_mem_nil
  | case2 fuel m tag hi lo rest hfits ih =>
    obtain ⟨tail, htail, rfl⟩ := Option.map_eq_some_iff.mp h
    refine List.forall_mem_cons.mpr ⟨?_, ih htail⟩
    have hhi := hi.toNat_lt
    have hlo := lo.toNat_lt
    show (rest.take (hi.toNat * 256 + lo.toNat)).length < 65536
    rw [List.length_take]
    omega
  | case3 => cases h
  | case4 => cases h

theorem length_lt_of_split {magic : UInt8} {stream : List UInt8}
    {fs : List (UInt8 × List UInt8)} (h : split magic stream = some fs) :
    ∀ f ∈ fs, f.2.length < 65536 := length_lt_of_splitFuel h

end Framing

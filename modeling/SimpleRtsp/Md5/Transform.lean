import Mathlib.Data.Fintype.EquivFin
import Mathlib.Data.Fintype.Prod
import Mathlib.Data.List.GetD
import Mathlib.Tactic.Common
import Mathlib.Tactic.IntervalCases

/-!
# One block of MD5

`MD5Transform` works on four words and the sixteen words of a block in 64 lines, each a use of one
of the macros `FF`, `GG`, `HH` and `II`. A line changes one word by an invertible amount that
depends on the three others, so for every block the 64 lines are a permutation of the states
(`rounds_bijective`).
-/

namespace SimpleRtsp.Md5

/-- The words `a`, `b`, `c` and `d`; `state[0]` to `state[3]` of a context. -/
structure Words where
  a : UInt32
  b : UInt32
  c : UInt32
  d : UInt32
  deriving DecidableEq, Repr

/-- A variable of `MD5Transform`. -/
inductive Reg where
  | a
  | b
  | c
  | d
  deriving DecidableEq, Repr

namespace Words

def get (w : Words) : Reg → UInt32
  | .a => w.a
  | .b => w.b
  | .c => w.c
  | .d => w.d

def set (w : Words) (r : Reg) (v : UInt32) : Words :=
  match r with
  | .a => { w with a := v }
  | .b => { w with b := v }
  | .c => { w with c := v }
  | .d => { w with d := v }

def toList (w : Words) : List UInt32 := [w.a, w.b, w.c, w.d]

theorem ext_get {w w' : Words} (h : ∀ r, w.get r = w'.get r) : w = w' := by
  obtain ⟨a, b, c, d⟩ := w
  obtain ⟨a', b', c', d'⟩ := w'
  obtain rfl : a = a' := h .a
  obtain rfl : b = b' := h .b
  obtain rfl : c = c' := h .c
  obtain rfl : d = d' := h .d
  rfl

instance : Finite Words :=
  Finite.of_injective (fun w : Words => (w.a.toFin, w.b.toFin, w.c.toFin, w.d.toFin)) <| by
    intro w w' h
    obtain ⟨ha, hb, hc, hd⟩ : w.a.toFin = w'.a.toFin ∧ w.b.toFin = w'.b.toFin ∧
        w.c.toFin = w'.c.toFin ∧ w.d.toFin = w'.d.toFin := by
      simpa using h
    exact ext_get fun r => UInt32.toFin_inj.mp (by cases r <;> assumption)

theorem get_set (w : Words) (r r' : Reg) (v : UInt32) :
    (w.set r v).get r' = if r = r' then v else w.get r' := by
  cases r <;> cases r' <;> rfl

@[simp] theorem get_set_same (w : Words) (r : Reg) (v : UInt32) : (w.set r v).get r = v := by
  rw [get_set, if_pos rfl]

theorem get_set_ne (w : Words) {r r' : Reg} (v : UInt32) (h : r ≠ r') :
    (w.set r v).get r' = w.get r' := by
  rw [get_set, if_neg h]

@[simp] theorem set_set (w : Words) (r : Reg) (v v' : UInt32) :
    (w.set r v).set r v' = w.set r v' := by
  cases r <;> rfl

end Words

/-! ## The macros -/

def F (x y z : UInt32) : UInt32 := (x &&& y) ||| (~~~x &&& z)

def G (x y z : UInt32) : UInt32 := (x &&& z) ||| (y &&& ~~~z)

def H (x y z : UInt32) : UInt32 := x ^^^ y ^^^ z

def I (x y z : UInt32) : UInt32 := y ^^^ (x ||| ~~~z)

/-- `ROTATE_LEFT`. -/
def rotateLeft (x : UInt32) (n : Nat) : UInt32 :=
  (x <<< UInt32.ofNat n) ||| (x >>> UInt32.ofNat (32 - n))

/-- A use of a macro: the round function, the variables, the index into `x`, the distance to rotate
by and the constant. -/
structure Line where
  round : UInt32 → UInt32 → UInt32 → UInt32
  a : Reg
  b : Reg
  c : Reg
  d : Reg
  x : Nat
  s : Nat
  ac : UInt32

/-- `a += round(b, c, d) + x + ac; a = ROTATE_LEFT(a, s); a += b;`. -/
def Line.run (x : List UInt32) (w : Words) (l : Line) : Words :=
  let w := w.set l.a
    (w.get l.a + (l.round (w.get l.b) (w.get l.c) (w.get l.d) + x.getD l.x 0 + l.ac))
  let w := w.set l.a (rotateLeft (w.get l.a) l.s)
  w.set l.a (w.get l.a + w.get l.b)

def FF : Reg → Reg → Reg → Reg → Nat → Nat → UInt32 → Line := Line.mk F

def GG : Reg → Reg → Reg → Reg → Nat → Nat → UInt32 → Line := Line.mk G

def HH : Reg → Reg → Reg → Reg → Nat → Nat → UInt32 → Line := Line.mk H

def II : Reg → Reg → Reg → Reg → Nat → Nat → UInt32 → Line := Line.mk I

/-- The lines of `MD5Transform`. -/
def rounds : List Line := [
    FF .a .b .c .d 0 7 0xd76aa478, FF .d .a .b .c 1 12 0xe8c7b756,
    FF .c .d .a .b 2 17 0x242070db, FF .b .c .d .a 3 22 0xc1bdceee,
    FF .a .b .c .d 4 7 0xf57c0faf, FF .d .a .b .c 5 12 0x4787c62a,
    FF .c .d .a .b 6 17 0xa8304613, FF .b .c .d .a 7 22 0xfd469501,
    FF .a .b .c .d 8 7 0x698098d8, FF .d .a .b .c 9 12 0x8b44f7af,
    FF .c .d .a .b 10 17 0xffff5bb1, FF .b .c .d .a 11 22 0x895cd7be,
    FF .a .b .c .d 12 7 0x6b901122, FF .d .a .b .c 13 12 0xfd987193,
    FF .c .d .a .b 14 17 0xa679438e, FF .b .c .d .a 15 22 0x49b40821,
    GG .a .b .c .d 1 5 0xf61e2562, GG .d .a .b .c 6 9 0xc040b340,
    GG .c .d .a .b 11 14 0x265e5a51, GG .b .c .d .a 0 20 0xe9b6c7aa,
    GG .a .b .c .d 5 5 0xd62f105d, GG .d .a .b .c 10 9 0x2441453,
    GG .c .d .a .b 15 14 0xd8a1e681, GG .b .c .d .a 4 20 0xe7d3fbc8,
    GG .a .b .c .d 9 5 0x21e1cde6, GG .d .a .b .c 14 9 0xc33707d6,
    GG .c .d .a .b 3 14 0xf4d50d87, GG .b .c .d .a 8 20 0x455a14ed,
    GG .a .b .c .d 13 5 0xa9e3e905, GG .d .a .b .c 2 9 0xfcefa3f8,
    GG .c .d .a .b 7 14 0x676f02d9, GG .b .c .d .a 12 20 0x8d2a4c8a,
    HH .a .b .c .d 5 4 0xfffa3942, HH .d .a .b .c 8 11 0x8771f681,
    HH .c .d .a .b 11 16 0x6d9d6122, HH .b .c .d .a 14 23 0xfde5380c,
    HH .a .b .c .d 1 4 0xa4beea44, HH .d .a .b .c 4 11 0x4bdecfa9,
    HH .c .d .a .b 7 16 0xf6bb4b60, HH .b .c .d .a 10 23 0xbebfbc70,
    HH .a .b .c .d 13 4 0x289b7ec6, HH .d .a .b .c 0 11 0xeaa127fa,
    HH .c .d .a .b 3 16 0xd4ef3085, HH .b .c .d .a 6 23 0x4881d05,
    HH .a .b .c .d 9 4 0xd9d4d039, HH .d .a .b .c 12 11 0xe6db99e5,
    HH .c .d .a .b 15 16 0x1fa27cf8, HH .b .c .d .a 2 23 0xc4ac5665,
    II .a .b .c .d 0 6 0xf4292244, II .d .a .b .c 7 10 0x432aff97,
    II .c .d .a .b 14 15 0xab9423a7, II .b .c .d .a 5 21 0xfc93a039,
    II .a .b .c .d 12 6 0x655b59c3, II .d .a .b .c 3 10 0x8f0ccc92,
    II .c .d .a .b 10 15 0xffeff47d, II .b .c .d .a 1 21 0x85845dd1,
    II .a .b .c .d 8 6 0x6fa87e4f, II .d .a .b .c 15 10 0xfe2ce6e0,
    II .c .d .a .b 6 15 0xa3014314, II .b .c .d .a 13 21 0x4e0811a1,
    II .a .b .c .d 4 6 0xf7537e82, II .d .a .b .c 11 10 0xbd3af235,
    II .c .d .a .b 2 15 0x2ad7d2bb, II .b .c .d .a 9 21 0xeb86d391]

/-! ## `MD5Encode`, `MD5Decode` and `MD5Transform` -/

/-- `MD5Encode`: the low byte of every word first. -/
def md5Encode (input : List UInt32) : List UInt8 :=
  input.flatMap fun w : UInt32 => [(w &&& 0xFF).toUInt8, ((w >>> 8) &&& 0xFF).toUInt8,
    ((w >>> 16) &&& 0xFF).toUInt8, ((w >>> 24) &&& 0xFF).toUInt8]

/-- `MD5Decode`. -/
def md5Decode : List UInt8 → List UInt32
  | b₀ :: b₁ :: b₂ :: b₃ :: rest =>
    (b₀.toUInt32 ||| (b₁.toUInt32 <<< 8) ||| (b₂.toUInt32 <<< 16) ||| (b₃.toUInt32 <<< 24)) ::
      md5Decode rest
  | _ => []

/-- `MD5Transform` on the words of the state. -/
def md5Transform (state : Words) (block : List UInt8) : Words :=
  let w := rounds.foldl (Line.run (md5Decode block)) state
  ⟨state.a + w.a, state.b + w.b, state.c + w.c, state.d + w.d⟩

@[simp] theorem length_md5Encode (input : List UInt32) :
    (md5Encode input).length = 4 * input.length := by
  induction input with
  | nil => rfl
  | cons w input ih =>
    rw [md5Encode, List.flatMap_cons, List.length_append, ← md5Encode, ih, List.length_cons,
      List.length_cons, List.length_cons, List.length_cons, List.length_cons, List.length_nil]
    omega

theorem toUInt32_byte (w : UInt32) : (w &&& 0xFF).toUInt8.toUInt32 = w &&& 0xFF := by
  apply UInt32.toNat_inj.1
  have hlow : (w &&& 0xFF).toNat = w.toNat % 256 := by
    rw [UInt32.toNat_and]
    exact Nat.and_two_pow_sub_one_eq_mod w.toNat 8
  rw [UInt8.toNat_toUInt32, UInt32.toNat_toUInt8, hlow]
  omega

theorem md5Decode_word (w : UInt32) :
    ((w &&& 0xFF).toUInt8.toUInt32 ||| (((w >>> 8) &&& 0xFF).toUInt8.toUInt32 <<< 8) |||
      (((w >>> 16) &&& 0xFF).toUInt8.toUInt32 <<< 16) |||
      (((w >>> 24) &&& 0xFF).toUInt8.toUInt32 <<< 24)) = w := by
  simp only [toUInt32_byte]
  apply UInt32.toBitVec_inj.1
  ext i hi
  interval_cases i <;> simp

theorem md5Decode_md5Encode (input : List UInt32) : md5Decode (md5Encode input) = input := by
  induction input with
  | nil => rfl
  | cons w input ih =>
    rw [md5Encode, List.flatMap_cons, ← md5Encode]
    simp only [List.cons_append, List.nil_append, md5Decode]
    rw [md5Decode_word, ih]

/-! ## The lines permute the states -/

theorem toBitVec_rotateLeft (x : UInt32) {n : Nat} (hn : n < 32) (hpos : 0 < n) :
    (rotateLeft x n).toBitVec = x.toBitVec.rotateLeft n := by
  rw [BitVec.rotateLeft_def, rotateLeft, UInt32.toBitVec_or, UInt32.toBitVec_shiftLeft,
    UInt32.toBitVec_shiftRight]
  interval_cases n <;> rfl

theorem rotateLeft_injective {n : Nat} (hn : n < 32) (hpos : 0 < n) :
    Function.Injective fun x => rotateLeft x n := by
  intro x y hxy
  have hrotated := congrArg UInt32.toBitVec hxy
  rw [toBitVec_rotateLeft x hn hpos, toBitVec_rotateLeft y hn hpos] at hrotated
  apply UInt32.toBitVec_inj.1
  apply BitVec.eq_of_getLsbD_eq
  intro i hi
  have hbit := congrArg (fun v : BitVec 32 => v.getLsbD ((i + n) % 32)) hrotated
  simp only [BitVec.getLsbD_rotateLeft, Nat.mod_eq_of_lt hn] at hbit
  by_cases hwrap : i + n < 32
  · rw [Nat.mod_eq_of_lt hwrap] at hbit
    simpa [hwrap] using hbit
  · have hmod : (i + n) % 32 = i + n - 32 := by omega
    have hlow : i + n - 32 < n := by omega
    rw [hmod] at hbit
    simpa [hlow, show 32 - n + (i + n - 32) = i by omega] using hbit

/-- The word that a line changes is none of the three that it reads. -/
def Line.Apart (l : Line) : Prop := l.a ≠ l.b ∧ l.a ≠ l.c ∧ l.a ≠ l.d

instance : DecidablePred Line.Apart := fun _ => inferInstanceAs (Decidable (_ ∧ _ ∧ _))

/-- What a line does to its word, which the other three determine. -/
theorem Line.Apart.run_eq {l : Line} (h : l.Apart) (x : List UInt32) (w : Words) :
    l.run x w = w.set l.a (rotateLeft (w.get l.a + (l.round (w.get l.b) (w.get l.c) (w.get l.d) +
      x.getD l.x 0 + l.ac)) l.s + w.get l.b) := by
  rw [Line.run, Words.get_set_same, Words.set_set, Words.get_set_same, Words.set_set,
    Words.get_set_ne _ _ h.1, Words.get_set_ne _ _ h.1]

theorem Line.Apart.run_injective {l : Line} (h : l.Apart) (hs : 0 < l.s ∧ l.s < 32)
    (x : List UInt32) : Function.Injective fun w => l.run x w := by
  intro w w' hrun
  dsimp only at hrun
  rw [h.run_eq, h.run_eq] at hrun
  obtain ⟨hb, hc, hd⟩ := h
  have hget := congrArg Words.get hrun
  have hother : ∀ r, l.a ≠ r → w.get r = w'.get r := by
    intro r hr
    have := congrFun hget r
    rwa [Words.get_set_ne _ _ hr, Words.get_set_ne _ _ hr] at this
  have hself := congrFun hget l.a
  rw [Words.get_set_same, Words.get_set_same, hother l.b hb, hother l.c hc, hother l.d hd] at hself
  have hword : w.get l.a = w'.get l.a := by
    have hrotated := rotateLeft_injective hs.2 hs.1 ((UInt32.add_left_inj _).mp hself)
    exact (UInt32.add_left_inj _).mp hrotated
  apply Words.ext_get
  intro r
  by_cases hr : l.a = r
  · rw [← hr, hword]
  · exact hother r hr

theorem foldl_injective {lines : List Line} (x : List UInt32)
    (h : ∀ l ∈ lines, l.Apart ∧ 0 < l.s ∧ l.s < 32) :
    Function.Injective fun state => lines.foldl (Line.run x) state := by
  induction lines with
  | nil => exact Function.injective_id
  | cons l lines ih =>
    obtain ⟨⟨hapart, hs⟩, hrest⟩ := List.forall_mem_cons.mp h
    exact (ih hrest).comp (hapart.run_injective hs x)

/-- **The rounds.** For every block the 64 lines permute the states. -/
theorem rounds_bijective (block : List UInt8) :
    Function.Bijective fun state => rounds.foldl (Line.run (md5Decode block)) state := by
  refine Finite.injective_iff_bijective.mp (foldl_injective _ ?_)
  decide

end SimpleRtsp.Md5

import Mathlib.Data.Int.ModEq
import Mathlib.Data.Rat.Floor
import SimpleRtsp.Lib.Sampling
import SimpleRtsp.Rtp.Audio

/-!
# The timestamps

`getTimestamp` of the four packetisers is a media clock: the time of day, rounded to milliseconds,
times the clock rate. `H26x.ticks` and `Audio.ticks` are the unbounded values, of which a packet
carries the low 32 bits; they are readings of one clock at 90000 ticks a second, or as many as the
sample rate (`H26x.ticks_eq`, `Audio.ticks_eq`). The code computes them in 64-bit `long`, and the
`getTimestampLong` do so operation by operation, with no result if one overflows.
-/

namespace SimpleRtsp

/-! ## What the code computes -/

/-- The result of an operation on `long`; none if it overflows. -/
def long (n : Int) : Option Int :=
  if -0x8000000000000000 ≤ n ∧ n ≤ 0x7FFFFFFFFFFFFFFF then some n else none

namespace Timeval

/-- A reading of the clock of `gettimeofday`, up to 2^33 seconds. -/
structure Reading (tv : Timeval) : Prop where
  sec_nonneg : 0 ≤ tv.tvSec
  sec_le : tv.tvSec ≤ 2 ^ 33
  usec_nonneg : 0 ≤ tv.tvUsec
  usec_le : tv.tvUsec ≤ 999999

def seconds (tv : Timeval) : ℚ := tv.tvSec + tv.tvUsec / 1000000

/-- `(tv.tv_sec * 1000) + ((tv.tv_usec + 500) / 1000)`. -/
def millis (tv : Timeval) : Int := tv.tvSec * 1000 + (tv.tvUsec + 500).tdiv 1000

/-- The same on `long`. -/
def millisLong (tv : Timeval) : Option Int := do
  let sec ← long (tv.tvSec * 1000)
  let usec ← long (tv.tvUsec + 500)
  long (sec + usec.tdiv 1000)

end Timeval

namespace H26x

/-- The value that `getTimestamp` of the video packetisers cuts to 32 bits. -/
def ticks (tv : Timeval) : Int := tv.millis * 90

def getTimestampLong (tv : Timeval) : Option UInt32 := do
  let ms ← tv.millisLong
  let ts ← long (ms * 90)
  return UInt32.ofInt ts

end H26x

namespace Audio

/-- The value that `getTimestamp` of the audio packetisers cuts to 32 bits. -/
def ticks (sampleRate : UInt32) (tv : Timeval) : Int := (tv.millis * sampleRate.toNat).tdiv 1000

def getTimestampLong (sampleRate : UInt32) (tv : Timeval) : Option UInt32 := do
  let ms ← tv.millisLong
  let ts ← long (ms * sampleRate.toNat)
  return UInt32.ofInt (ts.tdiv 1000)

end Audio

/-! ## Keeping time -/

/-- From the reading `t₁` to the reading `t₂` a media clock of `rate` ticks a second keeps time:
`timestampLong` is its timestamp in the arithmetic of the code, `timestamp` the one a packet
carries, `ticks` the value behind it. -/
structure KeepsTime (rate : Nat) (timestampLong : Timeval → Option UInt32)
    (timestamp : Timeval → UInt32) (ticks : Timeval → Int) (t₁ t₂ : Timeval) : Prop where
  noOverflow : timestampLong t₁ = some (timestamp t₁) ∧ timestampLong t₂ = some (timestamp t₂)
  mono : ticks t₁ ≤ ticks t₂
  wraps : ((timestamp t₂).toNat - (timestamp t₁).toNat : Int) ≡ ticks t₂ - ticks t₁ [ZMOD 2 ^ 32]
  accurate : |((ticks t₂ - ticks t₁ : Int) : ℚ) - (t₂.seconds - t₁.seconds) * rate| ≤
    rate / 1000 + 1

/-! ## No overflow -/

theorem long_eq {n : Int} (h : -0x8000000000000000 ≤ n) (h' : n ≤ 0x7FFFFFFFFFFFFFFF) :
    long n = some n := if_pos ⟨h, h'⟩

namespace Timeval.Reading

variable {tv : Timeval}

theorem tdiv_eq (h : tv.Reading) : (tv.tvUsec + 500).tdiv 1000 = (tv.tvUsec + 500) / 1000 := by
  have hnonneg := h.usec_nonneg
  exact Int.tdiv_eq_ediv_of_nonneg (by omega)

theorem millis_eq (h : tv.Reading) : tv.millis = tv.tvSec * 1000 + (tv.tvUsec + 500) / 1000 := by
  rw [millis, h.tdiv_eq]

theorem millis_nonneg (h : tv.Reading) : 0 ≤ tv.millis := by
  have hsec := h.sec_nonneg
  have husec := h.usec_nonneg
  rw [h.millis_eq]
  omega

theorem millis_le (h : tv.Reading) : tv.millis ≤ 2 ^ 33 * 1000 + 1000 := by
  have hsec := h.sec_le
  have husec := h.usec_le
  rw [h.millis_eq]
  omega

theorem millisLong_eq (h : tv.Reading) : tv.millisLong = some tv.millis := by
  have hnonneg := h.millis_nonneg
  have hle := h.millis_le
  obtain ⟨hsec, hsec', husec, husec'⟩ := h
  have hsum : long (tv.tvSec * 1000 + (tv.tvUsec + 500).tdiv 1000) = some tv.millis :=
    long_eq (n := tv.millis) (by omega) (by omega)
  rw [millisLong, Option.bind_eq_bind, long_eq (by omega) (by omega),
    Option.bind_some, long_eq (by omega) (by omega), Option.bind_some, hsum]

theorem round_seconds (h : tv.Reading) : round (1000 * tv.seconds) = tv.millis := by
  have hshift : 1000 * tv.seconds + 1 / 2 =
      ((tv.tvUsec + 500 + tv.tvSec * 1000 * 1000 : Int) : ℚ) / (1000 : ℕ) := by
    rw [seconds]
    push_cast
    ring
  rw [round_eq, hshift, Rat.floor_intCast_div_natCast, h.millis_eq]
  omega

end Timeval.Reading

theorem H26x.getTimestampLong_eq {tv : Timeval} (h : tv.Reading) :
    getTimestampLong tv = some (getTimestamp tv) := by
  have hnonneg := h.millis_nonneg
  have hle := h.millis_le
  rw [getTimestampLong, Option.bind_eq_bind, h.millisLong_eq, Option.bind_some,
    long_eq (by omega) (by omega)]
  rfl

theorem Audio.getTimestampLong_eq {tv : Timeval} (h : tv.Reading) {sampleRate : UInt32}
    (hrate : sampleRate.toNat ≤ 192000) :
    getTimestampLong sampleRate tv = some (getTimestamp tv sampleRate) := by
  have hnonneg : 0 ≤ tv.millis * sampleRate.toNat :=
    Int.mul_nonneg h.millis_nonneg (Int.natCast_nonneg _)
  have hle : tv.millis * sampleRate.toNat ≤ (2 ^ 33 * 1000 + 1000) * 192000 :=
    Int.mul_le_mul h.millis_le (by omega) (Int.natCast_nonneg _) (by omega)
  rw [getTimestampLong, Option.bind_eq_bind, h.millisLong_eq, Option.bind_some,
    long_eq (by omega) (by omega)]
  rfl

/-! ## One clock -/

theorem H26x.ticks_eq {tv : Timeval} (h : tv.Reading) :
    ticks tv = Sampling.reading 1000 90000 tv.seconds := by
  have hticks : (tv.millis : ℚ) * 90000 / 1000 = (tv.millis * 90 : Int) := by
    push_cast
    ring
  rw [Sampling.reading, h.round_seconds, hticks, Int.floor_intCast]
  rfl

theorem Audio.ticks_eq {tv : Timeval} (h : tv.Reading) (sampleRate : UInt32) :
    ticks sampleRate tv = Sampling.reading 1000 (sampleRate.toNat : ℚ) tv.seconds := by
  have hnonneg : 0 ≤ tv.millis * sampleRate.toNat :=
    Int.mul_nonneg h.millis_nonneg (Int.natCast_nonneg _)
  have hticks : (tv.millis : ℚ) * sampleRate.toNat / 1000 =
      ((tv.millis * sampleRate.toNat : Int) : ℚ) / (1000 : ℕ) := by
    push_cast
    rfl
  rw [Sampling.reading, h.round_seconds, hticks, Rat.floor_intCast_div_natCast, ticks,
    Int.tdiv_eq_ediv_of_nonneg hnonneg]
  rfl

theorem ofInt_sub_ofInt (m n : Int) :
    ((UInt32.ofInt n).toNat - (UInt32.ofInt m).toNat : Int) ≡ n - m [ZMOD 2 ^ 32] := by
  have hlow : ∀ k : Int, ((UInt32.ofInt k).toNat : Int) ≡ k [ZMOD 2 ^ 32] := by
    intro k
    have htoNat : (UInt32.ofInt k).toNat = (k % 2 ^ 32).toNat % 2 ^ 32 := UInt32.toNat_ofNat'
    rw [Int.ModEq, htoNat]
    omega
  exact (hlow n).sub (hlow m)

theorem KeepsTime.of_reading {rate : Nat} {timestampLong : Timeval → Option UInt32}
    {ticks : Timeval → Int}
    (hlong : ∀ t : Timeval, t.Reading → timestampLong t = some (UInt32.ofInt (ticks t)))
    (hticks : ∀ t : Timeval, t.Reading → ticks t = Sampling.reading 1000 (rate : ℚ) t.seconds)
    {t₁ t₂ : Timeval} (h₁ : t₁.Reading) (h₂ : t₂.Reading) (hle : t₁.seconds ≤ t₂.seconds) :
    KeepsTime rate timestampLong (fun t => UInt32.ofInt (ticks t)) ticks t₁ t₂ where
  noOverflow := ⟨hlong t₁ h₁, hlong t₂ h₂⟩
  mono := by
    rw [hticks t₁ h₁, hticks t₂ h₂]
    exact Sampling.reading_mono (by norm_num) (Nat.cast_nonneg rate) hle
  wraps := ofInt_sub_ofInt _ _
  accurate := by
    rw [hticks t₁ h₁, hticks t₂ h₂]
    exact Sampling.reading_deviation (by norm_num) (Nat.cast_nonneg rate) _ _

/-- **The timestamps keep time.** From any reading of the clock to any later one, those of the video
packetisers at 90000 ticks a second, and those of the audio packetisers at the sample rate. -/
theorem getTimestamp_keepsTime (t₁ t₂ : Timeval) (h₁ : t₁.Reading) (h₂ : t₂.Reading)
    (hle : t₁.seconds ≤ t₂.seconds) :
    KeepsTime 90000 H26x.getTimestampLong H26x.getTimestamp H26x.ticks t₁ t₂ ∧
      ∀ sampleRate : UInt32, sampleRate.toNat ≤ 192000 →
        KeepsTime sampleRate.toNat (Audio.getTimestampLong sampleRate)
          (Audio.getTimestamp · sampleRate) (Audio.ticks sampleRate) t₁ t₂ := by
  constructor
  · exact .of_reading (fun _ => H26x.getTimestampLong_eq) (fun _ => H26x.ticks_eq) h₁ h₂ hle
  · intro sampleRate hrate
    exact .of_reading (fun _ ht => Audio.getTimestampLong_eq ht hrate)
      (fun _ ht => Audio.ticks_eq ht sampleRate) h₁ h₂ hle

/-- Over the end of a second in which the milliseconds are already rounded up. -/
theorem getTimestamp_keepsTime_second :
    KeepsTime 90000 H26x.getTimestampLong H26x.getTimestamp H26x.ticks ⟨1, 999999⟩ ⟨2, 0⟩ ∧
      KeepsTime 44100 (Audio.getTimestampLong 44100) (Audio.getTimestamp · 44100)
        (Audio.ticks 44100) ⟨1, 999999⟩ ⟨2, 0⟩ := by
  have hkeeps := getTimestamp_keepsTime ⟨1, 999999⟩ ⟨2, 0⟩
    ⟨by decide, by decide, by decide, by decide⟩ ⟨by decide, by decide, by decide, by decide⟩
    (by norm_num [Timeval.seconds])
  exact ⟨hkeeps.1, hkeeps.2 44100 (by decide)⟩

end SimpleRtsp

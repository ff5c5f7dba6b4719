import SimpleRtsp.Lib.BlockStream
import SimpleRtsp.Lib.ByteMem
import SimpleRtsp.Md5.Transform

/-!
# MD5 of a stream

`MD5Update` keeps what does not fill a block in the buffer of the context and counts the bits in two
words; `MD5Final` appends the padding and the length. `Md5Ctx.Holds` says what a context is after
the bytes of a message. However a message is cut into updates, the digest is the fold of
`MD5Transform` over the blocks of the padded message (`md5_stream`).

An access outside the input or the buffer is `none`. There is one in the loop of `MD5Update` if
`i + 64` does not fit in 32 bits.
-/

namespace SimpleRtsp.Md5

open BlockStream

structure Md5Ctx where
  count0 : UInt32
  count1 : UInt32
  state : Words
  buffer : Mem

def initial : Words := ⟨0x67452301, 0xEFCDAB89, 0x98BADCFE, 0x10325476⟩

/-- `MD5Init`; the buffer keeps what it happens to hold. -/
def md5Init (ctx : Md5Ctx) : Md5Ctx := { ctx with count0 := 0, count1 := 0, state := initial }

/-- `memcpy(&context->buffer[index], ...)`. -/
def copy (buffer : Mem) (index : Nat) (bytes : List UInt8) : Option Mem :=
  if index + bytes.length ≤ 64 then some (buffer.write index bytes) else none

/-- `for (i = partlen; i + 64 <= inputlen; i += 64)`, with the `i` at which it ends. -/
def updateLoop (input : List UInt8) (i : Nat) (state : Words) : Option (Words × Nat) :=
  if (i + 64) % 2 ^ 32 ≤ input.length then
    if _ : i + 64 ≤ input.length then
      updateLoop input (i + 64) (md5Transform state ((input.drop i).take 64))
    else none
  else some (state, i)
termination_by input.length - i

/-- `(context->count[0] >> 3) & 0x3F`. -/
def Md5Ctx.index (ctx : Md5Ctx) : Nat := ((ctx.count0 >>> 3) &&& 0x3F).toNat

/-- `MD5Update`; `inputlen` is the length of the input. -/
def md5Update (ctx : Md5Ctx) (input : List UInt8) : Option Md5Ctx :=
  let inputlen := UInt32.ofNat input.length
  let index := ctx.index
  let partlen := 64 - index
  let count0 := ctx.count0 + (inputlen <<< 3)
  let count1 := if count0 < inputlen <<< 3 then ctx.count1 + 1 else ctx.count1
  let count1 := count1 + (inputlen >>> 29)
  if input.length ≥ partlen then
    (copy ctx.buffer index (input.take partlen)).bind fun buffer =>
      (updateLoop input partlen (md5Transform ctx.state (buffer.read 0 64))).bind fun (state, i) =>
        (copy buffer 0 (input.drop i)).map fun buffer => ⟨count0, count1, state, buffer⟩
  else (copy ctx.buffer index input).map fun buffer => ⟨count0, count1, ctx.state, buffer⟩

def PADDING : List UInt8 := 0x80 :: List.replicate 63 0

/-- `MD5Final`: the digest. -/
def md5Final (ctx : Md5Ctx) : Option (List UInt8) :=
  let index := ctx.index
  let padlen := if index < 56 then 56 - index else 120 - index
  let bits := md5Encode [ctx.count0, ctx.count1]
  (md5Update ctx (PADDING.take padlen)).bind fun ctx =>
    (md5Update ctx bits).map fun ctx => md5Encode ctx.state.toList

/-! ## What a context holds -/

structure Md5Ctx.Holds (ctx : Md5Ctx) (msg : List UInt8) : Prop where
  count : ctx.count0.toNat + 2 ^ 32 * ctx.count1.toNat = 8 * msg.length % 2 ^ 64
  state : ctx.state = (absorb 64 md5Transform (initial, []) msg).1
  buffer : ctx.buffer.read 0 (msg.length % 64) = (absorb 64 md5Transform (initial, []) msg).2

theorem holds_md5Init (ctx : Md5Ctx) : (md5Init ctx).Holds [] where
  count := rfl
  state := rfl
  buffer := rfl

theorem Md5Ctx.Holds.index {ctx : Md5Ctx} {msg : List UInt8} (h : ctx.Holds msg) :
    ctx.index = msg.length % 64 := by
  have hcount := h.count
  have hlow : ctx.count0.toNat = 8 * msg.length % 2 ^ 32 := by
    have := ctx.count0.toNat_lt
    omega
  have hand : ∀ n : Nat, n &&& 0x3F = n % 64 := fun n => Nat.and_two_pow_sub_one_eq_mod n 6
  rw [Md5Ctx.index, UInt32.toNat_and, UInt32.toNat_shiftRight]
  change ctx.count0.toNat >>> 3 &&& 0x3F = _
  rw [hand, Nat.shiftRight_eq_div_pow, hlow]
  omega

theorem count_add {count0 count1 inputlen : UInt32} {n m : Nat} (hm : m < 2 ^ 32)
    (hinput : inputlen = UInt32.ofNat m)
    (h : count0.toNat + 2 ^ 32 * count1.toNat = 8 * n % 2 ^ 64) :
    (count0 + (inputlen <<< 3)).toNat +
      2 ^ 32 * ((if count0 + (inputlen <<< 3) < inputlen <<< 3 then count1 + 1 else count1) +
        (inputlen >>> 29)).toNat = 8 * (n + m) % 2 ^ 64 := by
  have hlen : inputlen.toNat = m := by
    rw [hinput, UInt32.toNat_ofNat', Nat.mod_eq_of_lt hm]
  have hlow : (inputlen <<< 3).toNat = 8 * m % 2 ^ 32 := by
    rw [UInt32.toNat_shiftLeft, hlen]
    change m <<< 3 % 2 ^ 32 = _
    rw [Nat.shiftLeft_eq, Nat.mul_comm]
  have hhigh : (inputlen >>> 29).toNat = m / 2 ^ 29 := by
    rw [UInt32.toNat_shiftRight, hlen]
    exact Nat.shiftRight_eq_div_pow m 29
  have h0 := count0.toNat_lt
  have h1 := count1.toNat_lt
  split_ifs with hcarry
  · rw [UInt32.lt_iff_toNat_lt, UInt32.toNat_add, hlow] at hcarry
    simp only [UInt32.toNat_add, hlow, hhigh, UInt32.reduceToNat]
    omega
  · rw [UInt32.lt_iff_toNat_lt, UInt32.toNat_add, hlow] at hcarry
    simp only [UInt32.toNat_add, hlow, hhigh]
    omega

/-! ## One update -/

theorem updateLoop_eq {input : List UInt8} (hlen : input.length < 2 ^ 32 - 64) {i : Nat}
    (hi : i ≤ input.length) (state : Words) :
    ∃ state' i', updateLoop input i state = some (state', i') ∧
      absorb 64 md5Transform (state, []) (input.drop i) = (state', input.drop i') ∧
      input.length - i' < 64 := by
  induction hn : input.length - i using Nat.strongRecOn generalizing i state with
  | ind n ih =>
    rw [updateLoop, Nat.mod_eq_of_lt (by omega)]
    by_cases hblock : i + 64 ≤ input.length
    · rw [if_pos hblock, dif_pos hblock]
      obtain ⟨state', i', hloop, habsorb, hrest⟩ := ih (input.length - (i + 64)) (by omega) hblock
        (md5Transform state ((input.drop i).take 64)) rfl
      refine ⟨state', i', hloop, ?_, hrest⟩
      have hsplit : input.drop i = (input.drop i).take 64 ++ input.drop (i + 64) := by
        rw [← List.drop_drop, List.take_append_drop]
      have htake : ((input.drop i).take 64).length = 64 := by
        rw [List.length_take, List.length_drop]
        omega
      have hne : (input.drop i).take 64 ≠ [] := List.ne_nil_of_length_eq_add_one htake
      rw [hsplit, absorb_append, absorb_fill hne (by simpa using htake), List.nil_append, habsorb]
    · rw [if_neg hblock]
      refine ⟨state, i, rfl, ?_, by omega⟩
      rw [absorb_short (by simp; omega), List.nil_append]

theorem copy_eq {buffer : Mem} {index : Nat} {bytes : List UInt8} (h : index + bytes.length ≤ 64) :
    copy buffer index bytes = some (buffer.write index bytes) := if_pos h

theorem holds_of_absorb {ctx : Md5Ctx} {msg pending : List UInt8}
    (hcount : ctx.count0.toNat + 2 ^ 32 * ctx.count1.toNat = 8 * msg.length % 2 ^ 64)
    (habsorb : absorb 64 md5Transform (initial, []) msg = (ctx.state, pending))
    (hbuffer : ctx.buffer.read 0 pending.length = pending) : ctx.Holds msg where
  count := hcount
  state := by rw [habsorb]
  buffer := by
    have hpending := @length_pending _ _ 64 md5Transform (by decide) initial msg
    rw [habsorb] at hpending ⊢
    rw [← hpending]
    exact hbuffer

/-- **An update.** The context goes on to hold the message and the input behind it. -/
theorem Md5Ctx.Holds.update {ctx : Md5Ctx} {msg : List UInt8} (h : ctx.Holds msg)
    {input : List UInt8} (hlen : input.length < 2 ^ 32 - 64) :
    ∃ ctx', md5Update ctx input = some ctx' ∧ ctx'.Holds (msg ++ input) := by
  have hcount := count_add (by omega : input.length < 2 ^ 32) rfl h.count
  rw [← List.length_append] at hcount
  have hindex : msg.length % 64 < 64 := Nat.mod_lt _ (by decide)
  have hacc : absorb 64 md5Transform (initial, []) msg =
      (ctx.state, ctx.buffer.read 0 (msg.length % 64)) := Prod.ext h.state.symm h.buffer.symm
  rw [md5Update, h.index]
  dsimp only
  set index := msg.length % 64
  by_cases hfull : input.length ≥ 64 - index
  · -- the pending bytes and the first of the input make a block
    have htake : (input.take (64 - index)).length = 64 - index := by
      rw [List.length_take, Nat.min_eq_left hfull]
    have hblock : (ctx.buffer.write index (input.take (64 - index))).read 0 64 =
        ctx.buffer.read 0 index ++ input.take (64 - index) := by
      rw [← Mem.read_write_end, htake, Nat.add_sub_cancel' hindex.le]
    obtain ⟨state', i', hloop, habsorb, hrest⟩ := updateLoop_eq hlen hfull
      (md5Transform ctx.state (ctx.buffer.read 0 index ++ input.take (64 - index)))
    rw [if_pos hfull, copy_eq (by omega), Option.bind_some, hblock, hloop, Option.bind_some]
    dsimp only
    rw [copy_eq (by rw [List.length_drop]; omega), Option.map_some]
    refine ⟨_, rfl, @holds_of_absorb _ _ (input.drop i') hcount ?_ (Mem.read_write_same _ 0 _)⟩
    have hne : input.take (64 - index) ≠ [] := by
      intro hnil
      rw [hnil, List.length_nil] at htake
      omega
    have hsum : (ctx.buffer.read 0 index).length + (input.take (64 - index)).length = 64 := by
      rw [Mem.length_read, htake]
      omega
    rw [absorb_append, hacc]
    nth_rewrite 1 [← List.take_append_drop (64 - index) input]
    rw [absorb_append, absorb_fill hne hsum, habsorb]
  · rw [if_neg hfull, copy_eq (by omega), Option.map_some]
    have hshort : (ctx.buffer.read 0 index).length + input.length < 64 := by
      rw [Mem.length_read]
      omega
    refine ⟨_, rfl, @holds_of_absorb _ _ (ctx.buffer.read 0 index ++ input) hcount ?_ ?_⟩
    · rw [absorb_append, hacc, absorb_short hshort]
    · rw [List.length_append, Mem.length_read, Mem.read_write_end]

/-! ## The digest -/

/-- The number of bits in the message, in eight bytes. -/
def lengthBytes (n : Nat) : List UInt8 :=
  (List.range 8).map fun i => UInt8.ofNat (8 * n / 256 ^ i)

/-- The message, one bit, zeros up to 8 bytes before the end of a block, and the length. -/
def padded (msg : List UInt8) : List UInt8 :=
  msg ++ 0x80 :: (List.replicate ((119 - msg.length % 64) % 64) 0 ++ lengthBytes msg.length)

theorem length_padded (msg : List UInt8) : (padded msg).length % 64 = 0 := by
  simp [padded, lengthBytes]
  omega

theorem toUInt8_byte (w : UInt32) (k : Nat) (hk : k < 4) :
    ((w >>> UInt32.ofNat (8 * k)) &&& 0xFF).toUInt8 = UInt8.ofNat (w.toNat / 256 ^ k) := by
  apply UInt8.toNat_inj.1
  rw [UInt32.toNat_toUInt8, UInt32.toNat_and, UInt32.toNat_shiftRight, UInt8.toNat_ofNat']
  have hand : ∀ n : Nat, n &&& 0xFF = n % 256 := fun n => Nat.and_two_pow_sub_one_eq_mod n 8
  change (w.toNat >>> ((8 * k % 2 ^ 32) % 32) &&& 0xFF) % 256 = _
  rw [hand, Nat.mod_eq_of_lt (by omega : 8 * k < 2 ^ 32), Nat.mod_eq_of_lt (by omega : 8 * k < 32),
    Nat.shiftRight_eq_div_pow, Nat.pow_mul, Nat.mod_mod]

theorem md5Encode_word (w : UInt32) :
    md5Encode [w] = (List.range 4).map fun k => UInt8.ofNat (w.toNat / 256 ^ k) := by
  have hfirst : (w &&& 0xFF).toUInt8 = UInt8.ofNat (w.toNat / 256 ^ 0) :=
    toUInt8_byte w 0 (by decide)
  have hsecond := toUInt8_byte w 1 (by decide)
  have hthird := toUInt8_byte w 2 (by decide)
  have hfourth := toUInt8_byte w 3 (by decide)
  simp only [List.range_succ, List.range_zero, List.map_append, List.map_nil, List.map_cons,
    List.nil_append, ← hfirst, ← hsecond, ← hthird, ← hfourth]
  rfl

theorem Md5Ctx.Holds.bits {ctx : Md5Ctx} {msg : List UInt8} (h : ctx.Holds msg) :
    md5Encode [ctx.count0, ctx.count1] = lengthBytes msg.length := by
  have hcount := h.count
  have h0 := ctx.count0.toNat_lt
  have hsplit : md5Encode [ctx.count0, ctx.count1] =
      md5Encode [ctx.count0] ++ md5Encode [ctx.count1] := rfl
  have hbyte : ∀ m n : Nat, m % 256 = n % 256 → UInt8.ofNat m = UInt8.ofNat n := by
    intro m n hmod
    apply UInt8.toNat_inj.1
    rw [UInt8.toNat_ofNat', UInt8.toNat_ofNat']
    exact hmod
  rw [hsplit, md5Encode_word, md5Encode_word, lengthBytes, show 8 = 4 + 4 from rfl, List.range_add,
    List.map_append, List.map_map]
  congr 1
  · refine List.map_congr_left fun k hk => hbyte _ _ ?_
    rw [List.mem_range] at hk
    interval_cases k <;> simp only [Nat.reducePow] <;> omega
  · refine List.map_congr_left fun k hk => hbyte _ _ ?_
    rw [List.mem_range] at hk
    interval_cases k <;> simp only [Nat.reducePow, Nat.reduceAdd] <;> omega

theorem Md5Ctx.Holds.final {ctx : Md5Ctx} {msg : List UInt8} (h : ctx.Holds msg) :
    ∃ blocks : List (List UInt8), (∀ b ∈ blocks, b.length = 64) ∧ blocks.flatten = padded msg ∧
      md5Final ctx = some (md5Encode (blocks.foldl md5Transform initial).toList) := by
  have hindex : msg.length % 64 < 64 := Nat.mod_lt _ (by decide)
  set padlen := if msg.length % 64 < 56 then 56 - msg.length % 64 else 120 - msg.length % 64
    with hpadlen
  have hzeros : padlen = (119 - msg.length % 64) % 64 + 1 := by
    rw [hpadlen]
    split_ifs <;> omega
  have hpadding : PADDING.take padlen =
      0x80 :: List.replicate ((119 - msg.length % 64) % 64) 0 := by
    rw [hzeros, PADDING, List.take_succ_cons, List.take_replicate, Nat.min_eq_left (by omega)]
  have hlen₁ : (PADDING.take padlen).length < 2 ^ 32 - 64 := by
    rw [hpadding, List.length_cons, List.length_replicate]
    omega
  have hlen₂ : (lengthBytes msg.length).length < 2 ^ 32 - 64 := by
    rw [lengthBytes, List.length_map, List.length_range]
    decide
  obtain ⟨ctx₁, hupdate₁, hholds₁⟩ := h.update hlen₁
  obtain ⟨ctx₂, hupdate₂, hholds₂⟩ := hholds₁.update hlen₂
  have hall : msg ++ PADDING.take padlen ++ lengthBytes msg.length = padded msg := by
    rw [hpadding, padded, List.append_assoc, List.cons_append]
  rw [hall] at hholds₂
  obtain ⟨blocks, hblocks, hflatten, hstate, -⟩ :=
    @absorb_eq _ _ 64 md5Transform (by decide) initial (padded msg)
  have hpending := @length_pending _ _ 64 md5Transform (by decide) initial (padded msg)
  rw [length_padded, List.length_eq_zero_iff] at hpending
  rw [hpending, List.append_nil] at hflatten
  refine ⟨blocks, hblocks, hflatten.symm, ?_⟩
  rw [md5Final, h.index, ← hpadlen, hupdate₁, Option.bind_some, h.bits, hupdate₂, Option.map_some,
    hholds₂.state, hstate]

/-- `MD5Update` with the pieces of a message, one after another. -/
def md5UpdateAll : Md5Ctx → List (List UInt8) → Option Md5Ctx
  | ctx, [] => some ctx
  | ctx, piece :: rest => (md5Update ctx piece).bind fun ctx => md5UpdateAll ctx rest

theorem Md5Ctx.Holds.updateAll {ctx : Md5Ctx} {msg : List UInt8} (h : ctx.Holds msg)
    {pieces : List (List UInt8)} (hlen : ∀ piece ∈ pieces, piece.length < 2 ^ 32 - 64) :
    ∃ ctx', md5UpdateAll ctx pieces = some ctx' ∧ ctx'.Holds (msg ++ pieces.flatten) := by
  induction pieces generalizing ctx msg with
  | nil => exact ⟨ctx, rfl, by simpa using h⟩
  | cons piece rest ih =>
    obtain ⟨hpiece, hrest⟩ := List.forall_mem_cons.mp hlen
    obtain ⟨ctx₁, hupdate, hholds⟩ := h.update hpiece
    obtain ⟨ctx', hall, hholds'⟩ := ih hholds hrest
    refine ⟨ctx', ?_, ?_⟩
    · rw [md5UpdateAll, hupdate, Option.bind_some, hall]
    · rwa [List.flatten_cons, ← List.append_assoc]

/-- **The digest of a stream.** Whatever the context held before `MD5Init` and however the message
is cut into pieces, no access leaves the buffer or the input, and the digest is the fold of
`MD5Transform` over the blocks of the padded message. -/
theorem md5_stream (ctx : Md5Ctx) {pieces : List (List UInt8)}
    (hlen : ∀ piece ∈ pieces, piece.length < 2 ^ 32 - 64) :
    ∃ blocks : List (List UInt8), (∀ b ∈ blocks, b.length = 64) ∧
      blocks.flatten = padded pieces.flatten ∧
      (md5UpdateAll (md5Init ctx) pieces).bind md5Final =
        some (md5Encode (blocks.foldl md5Transform initial).toList) := by
  obtain ⟨ctx', hall, hholds⟩ := (holds_md5Init ctx).updateAll hlen
  obtain ⟨blocks, hblocks, hflatten, hfinal⟩ := hholds.final
  exact ⟨blocks, hblocks, hflatten, by rw [hall, Option.bind_some, hfinal]⟩

theorem md5_stream_abc :
    ∃ blocks : List (List UInt8), (∀ b ∈ blocks, b.length = 64) ∧
      blocks.flatten = padded [0x61, 0x62, 0x63] ∧
      (md5UpdateAll (md5Init ⟨7, 7, initial, fun _ => 7⟩)
        [[0x61, 0x62], [], [0x63]]).bind md5Final =
        some (md5Encode (blocks.foldl md5Transform initial).toList) :=
  @md5_stream ⟨7, 7, initial, fun _ => 7⟩ [[0x61, 0x62], [], [0x63]] (by decide)

/-! ## The digest of a string -/

def md5 (msg : List UInt8) : List UInt8 :=
  md5Encode (absorb 64 md5Transform (initial, []) (padded msg)).1.toList

@[simp] theorem length_md5 (msg : List UInt8) : (md5 msg).length = 16 := by
  rw [md5, length_md5Encode]
  rfl

/-- `MD5Init`, `MD5Update` with the string and `MD5Final`, as `common.c` calls them. -/
theorem md5Final_md5Update (ctx : Md5Ctx) {msg : List UInt8} (hlen : msg.length < 2 ^ 32 - 64) :
    (md5Update (md5Init ctx) msg).bind md5Final = some (md5 msg) := by
  obtain ⟨ctx', hupdate, hholds⟩ := (holds_md5Init ctx).update hlen
  obtain ⟨blocks, hblocks, hflatten, hfinal⟩ := hholds.final
  rw [List.nil_append] at hflatten
  rw [hupdate, Option.bind_some, hfinal, md5, ← hflatten, absorb_flatten (by decide) hblocks]

example : md5 [0x61, 0x62, 0x63] = [0x90, 0x01, 0x50, 0x98, 0x3C, 0xD2, 0x4F, 0xB0,
    0xD6, 0x96, 0x3F, 0x7D, 0x28, 0xE1, 0x7F, 0x72] := by
  decide +kernel

end SimpleRtsp.Md5

import Mathlib.Data.List.Nodup
import Mathlib.Data.Set.Function
import SimpleRtsp.Rtsp.SafeAuthorization

/-!
# Nonces and session ids

When it starts, the thread of a connection makes a nonce and a session id, both from the clock and
from `rand`, which it seeds with the clock. `rand` returns a function of the last seed and of the
number of calls since; other threads may seed and call it in between. MD5 is a parameter, and so is
what stands in memory behind the random string, which has no NUL of its own.

`apart_iff` says when two connections have nothing in common that they should not have: it is not
enough that they are two.
-/

namespace SimpleRtsp

open CString

structure Generator where
  seed : Nat
  calls : Nat

/-- `srand((unsigned int)t)`. -/
def srand (t : Nat) : Generator := ⟨t % 2 ^ 32, 0⟩

/-- What is the same for all connections. -/
structure Host where
  md5 : List UInt8 → List UInt8
  length_md5 : ∀ s, (md5 s).length = 16
  /-- what `rand` returns, by the last seed and the number of calls before -/
  rand : Nat → Nat → Nat
  /-- what stands behind `random_string` -/
  memory : List UInt8

/-- What the thread of a connection gets from the clock and from `rand` when it starts. -/
structure Arrival where
  /-- the state of `rand` for every call of `generate_random_string` -/
  seen : Nat → Generator
  /-- the second `time(NULL)` of `generate_nonce` -/
  stampTime : Nat
  /-- the state of `rand` in `generate_session_id` -/
  idSeen : Generator
  /-- the `time(NULL)` of `generate_session_id` -/
  idTime : Nat

/-- No other thread calls `rand` in between. -/
def Arrival.alone (seedTime stampTime idTime : Nat) : Arrival where
  seen i := { srand seedTime with calls := i }
  stampTime := stampTime
  idSeen := srand idTime
  idTime := idTime

def charset : List UInt8 :=
  str "abcdefghijklmnopqrstuvwxyzABCDEFGHIJKLMNOPQRSTUVWXYZ0123456789"

/-- `generate_random_string`: `draw i` is what the `i`-th call of `rand` returns. -/
def generateRandomString (draw : Nat → Nat) (length : Nat) : List UInt8 :=
  (List.range length).map fun i => charset.getD (draw i % charset.length) 0

namespace Host

variable (h : Host)

/-- What the `i`-th call of `rand` in `generate_random_string` returns. -/
def draw (c : Arrival) (i : Nat) : Nat := h.rand (c.seen i).seed (c.seen i).calls

/-- What `rand` returns in `generate_session_id`. -/
def idDraw (c : Arrival) : Nat := h.rand c.idSeen.seed c.idSeen.calls

/-- `combined`: the two strings in a buffer of 256. -/
def combined (c : Arrival) : List UInt8 :=
  let randomString := generateRandomString (h.draw c) 128
  let timestamp := (decimal c.stampTime).take 31
  (randomString ++ cstr h.memory ++ timestamp).take 255

def generateNonce (c : Arrival) (length : Int) : List UInt8 :=
  if length < 1 then [] else hex (h.md5 (h.combined c))

/-- `generate_session_id`, for an array of this size. In a small one nothing is written. -/
def generateSessionId (c : Arrival) (size : Nat) : Option (List UInt8) :=
  if size < 9 then none
  else
    let randomPart := h.idDraw c % 1000000
    some ((paddedDecimal 2 (c.idTime % 100) ++ paddedDecimal 6 randomPart).take (size - 1))

def nonce (c : Arrival) : List UInt8 := h.generateNonce c 33

def sessionId (c : Arrival) : Option (List UInt8) := h.generateSessionId c 512

/-- The return value of `authorization_verify` for a request with a response. -/
def verify (c : Arrival) (method uri response : List UInt8) : Except Fault Int :=
  authorizationVerify h.md5 USER PASSWORD realm (h.nonce c) (some uri) method (some response)

/-- The string that is hashed last, for the response. -/
def hashed (c : Arrival) (method uri : List UInt8) : List UInt8 :=
  colon (hex (h.md5 (colon USER (colon realm PASSWORD))))
    (colon (h.nonce c) (hex (h.md5 (colon method uri))))

/-- Two connections are told apart by their nonces and session ids, and no response for one of them
is accepted on the other. -/
structure Apart (c₁ c₂ : Arrival) : Prop where
  nonces : h.nonce c₁ ≠ h.nonce c₂
  responses : ∀ method₁ uri₁ method₂ uri₂ response,
    Set.InjOn h.md5 {h.hashed c₁ method₁ uri₁, h.hashed c₂ method₂ uri₂} →
    h.verify c₁ method₁ uri₁ response = .ok 0 → (colon method₂ uri₂).length < 256 →
    h.verify c₂ method₂ uri₂ response = .ok (-1)
  ids : h.sessionId c₁ ≠ h.sessionId c₂

/-- How much of the timestamp is hashed. -/
def room : Nat := min 31 (255 - 128 - (cstr h.memory).length)

end Host

/-! ## The nonce -/

theorem charset_nodup : charset.Nodup := by decide +kernel

theorem length_charset : charset.length = 62 := by decide

theorem length_generateRandomString (draw : Nat → Nat) (length : Nat) :
    (generateRandomString draw length).length = length := by
  simp [generateRandomString]

theorem generateRandomString_eq_iff {draw₁ draw₂ : Nat → Nat} {length : Nat} :
    generateRandomString draw₁ length = generateRandomString draw₂ length ↔
      ∀ i < length, draw₁ i % 62 = draw₂ i % 62 := by
  have hchar : ∀ m n, charset.getD (m % 62) 0 = charset.getD (n % 62) 0 ↔ m % 62 = n % 62 := by
    intro m n
    have hm : m % 62 < charset.length := by
      rw [length_charset]
      omega
    have hn : n % 62 < charset.length := by
      rw [length_charset]
      omega
    rw [List.getD_eq_getElem _ _ hm, List.getD_eq_getElem _ _ hn]
    exact charset_nodup.getElem_inj_iff
  unfold generateRandomString
  rw [length_charset, List.map_inj_left]
  simp only [List.mem_range, hchar]

theorem hexDigit_inj : ∀ m < 16, ∀ n < 16, hexDigit m = hexDigit n → m = n := by decide

theorem hex_cons (b : UInt8) (digest : List UInt8) : hex (b :: digest) =
    hexDigit (b.toNat / 16) :: hexDigit (b.toNat % 16) :: hex digest := rfl

theorem hex_injective : Function.Injective hex := by
  intro s t h
  induction s generalizing t with
  | nil =>
    cases t with
    | nil => rfl
    | cons b t => exact absurd h (by simp [hex])
  | cons b s ih =>
    cases t with
    | nil => exact absurd h (by simp [hex])
    | cons b' t =>
      rw [hex_cons, hex_cons] at h
      obtain ⟨hhigh, h⟩ := List.cons.inj h
      obtain ⟨hlow, h⟩ := List.cons.inj h
      have hb := b.toNat_lt
      have hb' := b'.toNat_lt
      have hhigh := hexDigit_inj _ (by omega) _ (by omega) hhigh
      have hlow := hexDigit_inj _ (by omega) _ (by omega) hlow
      have hbyte : b = b' := UInt8.toNat_inj.mp (by omega)
      rw [hbyte, ih h]

namespace Host

variable (h : Host) (c₁ c₂ : Arrival)

theorem combined_eq (c : Arrival) : h.combined c = generateRandomString (h.draw c) 128 ++
    ((cstr h.memory).take 127 ++ (decimal c.stampTime).take h.room) := by
  have hlength := length_generateRandomString (h.draw c) 128
  unfold combined room
  dsimp only
  rw [List.take_append, List.take_append, List.take_of_length_le (by omega), List.length_append,
    hlength, List.take_take, List.append_assoc, ← Nat.sub_sub, Nat.min_comm 31]

theorem combined_eq_iff : h.combined c₁ = h.combined c₂ ↔
    (∀ i < 128, h.draw c₁ i % 62 = h.draw c₂ i % 62) ∧
      (decimal c₁.stampTime).take h.room = (decimal c₂.stampTime).take h.room := by
  rw [combined_eq, combined_eq, ← generateRandomString_eq_iff]
  constructor
  · intro heq
    have hlength : (generateRandomString (h.draw c₁) 128).length =
        (generateRandomString (h.draw c₂) 128).length := by
      rw [length_generateRandomString, length_generateRandomString]
    obtain ⟨hrandom, hrest⟩ := List.append_inj heq hlength
    exact ⟨hrandom, List.append_cancel_left hrest⟩
  · rintro ⟨hrandom, hstamp⟩
    rw [hrandom, hstamp]

theorem nonce_eq_iff (hinj : Set.InjOn h.md5 {h.combined c₁, h.combined c₂}) :
    h.nonce c₁ = h.nonce c₂ ↔ h.combined c₁ = h.combined c₂ := by
  have hnonce : ∀ c, h.nonce c = hex (h.md5 (h.combined c)) := fun c => rfl
  rw [hnonce, hnonce, hex_injective.eq_iff]
  exact hinj.eq_iff (by simp) (by simp)

theorem length_nonce (c : Arrival) : (h.nonce c).length = 32 := by
  have hnonce : h.nonce c = hex (h.md5 (h.combined c)) := rfl
  rw [hnonce, length_hex, h.length_md5]

/-! ## The response -/

theorem verify_eq (c : Arrival) {method uri : List UInt8} (response : List UInt8)
    (hfits : (colon method uri).length < 256) : h.verify c method uri response =
      .ok (if hex (h.md5 (h.hashed c method uri)) = response then 0 else -1) :=
  authorizationVerify_eq h.length_md5 (h.combined c) response hfits

theorem fits_of_verify {c : Arrival} {method uri response : List UInt8} {ret : Int}
    (hverify : h.verify c method uri response = .ok ret) : (colon method uri).length < 256 := by
  obtain ⟨⟨u, hu, hfits⟩, -⟩ :=
    (authorizationVerify_ends_iff h.length_md5 (h.combined c) method _ _).mp ⟨ret, hverify⟩
  obtain rfl := Option.some.inj hu
  exact hfits

theorem nonce_eq_of_hashed {method₁ uri₁ method₂ uri₂ : List UInt8}
    (heq : h.hashed c₁ method₁ uri₁ = h.hashed c₂ method₂ uri₂) : h.nonce c₁ = h.nonce c₂ := by
  have hlength : (h.nonce c₁).length = (h.nonce c₂).length := by
    rw [length_nonce, length_nonce]
  unfold hashed colon at heq
  simp only [List.append_assoc] at heq
  have hrest := List.append_cancel_left (List.append_cancel_left heq)
  exact (List.append_inj hrest hlength).1

theorem rejects_of_nonce_ne (hne : h.nonce c₁ ≠ h.nonce c₂)
    {method₁ uri₁ method₂ uri₂ response : List UInt8}
    (hinj : Set.InjOn h.md5 {h.hashed c₁ method₁ uri₁, h.hashed c₂ method₂ uri₂})
    (haccepts : h.verify c₁ method₁ uri₁ response = .ok 0)
    (hfits : (colon method₂ uri₂).length < 256) :
    h.verify c₂ method₂ uri₂ response = .ok (-1) := by
  rw [h.verify_eq c₁ response (h.fits_of_verify haccepts), Except.ok.injEq] at haccepts
  have hresponse : hex (h.md5 (h.hashed c₁ method₁ uri₁)) = response := by
    split_ifs at haccepts with heq
    exact heq
  rw [h.verify_eq c₂ response hfits, if_neg]
  intro heq
  have hdigest := hex_injective (hresponse.trans heq.symm)
  exact hne (h.nonce_eq_of_hashed c₁ c₂ (hinj (by simp) (by simp) hdigest))

/-! ## The session id -/

theorem sessionId_eq_iff : h.sessionId c₁ = h.sessionId c₂ ↔
    c₁.idTime % 100 = c₂.idTime % 100 ∧
      h.idDraw c₁ % 1000000 = h.idDraw c₂ % 1000000 := by
  have hid : ∀ c, h.sessionId c = some ((paddedDecimal 2 (c.idTime % 100) ++
      paddedDecimal 6 (h.idDraw c % 1000000)).take 511) := fun c => rfl
  have hsecond : ∀ n, (paddedDecimal 2 (n % 100)).length = 2 := by
    intro n
    exact length_paddedDecimal (by decide) (Nat.mod_lt _ (by decide))
  have hrandom : ∀ n, (paddedDecimal 6 (n % 1000000)).length = 6 := by
    intro n
    exact length_paddedDecimal (by decide) (Nat.mod_lt _ (by decide))
  have hwhole : ∀ m n : Nat,
      (paddedDecimal 2 (m % 100) ++ paddedDecimal 6 (n % 1000000)).take 511 =
        paddedDecimal 2 (m % 100) ++ paddedDecimal 6 (n % 1000000) := by
    intro m n
    apply List.take_of_length_le
    rw [List.length_append, hsecond, hrandom]
    decide
  rw [hid, hid, Option.some_inj, hwhole, hwhole]
  constructor
  · intro heq
    obtain ⟨htime, hdraw⟩ := List.append_inj heq (by rw [hsecond, hsecond])
    have htime := congrArg numeral htime
    have hdraw := congrArg numeral hdraw
    rw [numeral_paddedDecimal, numeral_paddedDecimal] at htime hdraw
    exact ⟨htime, hdraw⟩
  · rintro ⟨htime, hdraw⟩
    rw [htime, hdraw]

/-- **Two connections are told apart exactly if** some character of the random strings or the part
of the timestamps that is hashed differs, and so does one part of the session ids. -/
theorem apart_iff (hinj : Set.InjOn h.md5 {h.combined c₁, h.combined c₂}) : h.Apart c₁ c₂ ↔
    ((∃ i < 128, h.draw c₁ i % 62 ≠ h.draw c₂ i % 62) ∨
      (decimal c₁.stampTime).take h.room ≠ (decimal c₂.stampTime).take h.room) ∧
    (c₁.idTime % 100 ≠ c₂.idTime % 100 ∨
      h.idDraw c₁ % 1000000 ≠ h.idDraw c₂ % 1000000) := by
  have hnonces : h.nonce c₁ ≠ h.nonce c₂ ↔ (∃ i < 128, h.draw c₁ i % 62 ≠ h.draw c₂ i % 62) ∨
      (decimal c₁.stampTime).take h.room ≠ (decimal c₂.stampTime).take h.room := by
    rw [Ne, h.nonce_eq_iff c₁ c₂ hinj, h.combined_eq_iff, not_and_or]
    push Not
    rfl
  have hids : h.sessionId c₁ ≠ h.sessionId c₂ ↔ c₁.idTime % 100 ≠ c₂.idTime % 100 ∨
      h.idDraw c₁ % 1000000 ≠ h.idDraw c₂ % 1000000 := by
    rw [Ne, h.sessionId_eq_iff, not_and_or]
  rw [← hnonces, ← hids]
  constructor
  · intro hapart
    exact ⟨hapart.nonces, hapart.ids⟩
  · rintro ⟨hne, hid⟩
    exact ⟨hne, fun _ _ _ _ _ hinj => h.rejects_of_nonce_ne c₁ c₂ hne hinj, hid⟩

/-- A linear congruential generator of 64 bits. -/
def lcgRand (seed calls : Nat) : Nat :=
  (fun s => (6364136223846793005 * s + 1) % 2 ^ 64)^[calls + 1] (seed - 1) / 2 ^ 33

/-- What is hashed for the nonce of a connection, and for that of one a second later. -/
def firstCombined : List UInt8 :=
  str "BtbZ4yVhjzNjl0fUcuuIeXMJSPAAs4Dl1x367vd5bPH1QHvbbuKsHa3HOA72Ql9x" ++
    str "LqP0C778FZOrLsyuLioZIuGtwzW4TwE13rXYcNrGpizVUdEBBrkz1Y6nCdEQaF0v" ++ str "1700000042"

def nextCombined : List UInt8 :=
  str "S2oFhOvtzGDV5JpizC37BOvjMwXyQScvf6XLNhRQNP4EaxQPwqKZCNnxif2UF5f7" ++
    str "FzUWKL2BuW3RUrkuG6NB67FIiqUHbQIsIZXU6CkP5yMc1cVRMnTcrGYuqVkzW38I" ++ str "1700000043"

def firstDigest : List UInt8 :=
  [0x78, 0xDC, 0x98, 0x95, 0xCA, 0xFC, 0x9E, 0xD9, 0x0F, 0x18, 0x0B, 0xF1, 0xD0, 0x86, 0xF5, 0x22]

def nextDigest : List UInt8 :=
  [0x68, 0xF1, 0x3C, 0x45, 0xE6, 0xF1, 0xBA, 0xB8, 0xE9, 0xBA, 0xA6, 0xAC, 0x31, 0xFC, 0x87, 0xBC]

/-- A hash function by its values for two strings. -/
def twoHashes (s₁ digest₁ s₂ digest₂ s : List UInt8) : List UInt8 :=
  if s = s₁ then digest₁ else if s = s₂ then digest₂ else List.replicate 16 0

theorem injOn_twoHashes {s₁ digest₁ s₂ digest₂ : List UInt8} (hs : s₁ ≠ s₂)
    (hdigests : digest₁ ≠ digest₂) : Set.InjOn (twoHashes s₁ digest₁ s₂ digest₂) {s₁, s₂} := by
  rw [Set.injOn_pair, twoHashes, if_pos rfl, twoHashes, if_neg hs.symm, if_pos rfl]
  exact fun heq => absurd heq hdigests

def lcgHost : Host where
  md5 := twoHashes firstCombined firstDigest nextCombined nextDigest
  length_md5 s := by
    unfold twoHashes
    split_ifs <;> rfl
  rand := lcgRand
  memory := [0]

/-- The second connection comes a second later. -/
theorem apart_next_second : lcgHost.Apart (.alone 1700000042 1700000042 1700000042)
    (.alone 1700000043 1700000043 1700000043) := by
  have hfirst : lcgHost.combined (.alone 1700000042 1700000042 1700000042) = firstCombined := by
    decide +kernel
  have hnext : lcgHost.combined (.alone 1700000043 1700000043 1700000043) = nextCombined := by
    decide +kernel
  have hinj : Set.InjOn lcgHost.md5
      {lcgHost.combined (.alone 1700000042 1700000042 1700000042),
        lcgHost.combined (.alone 1700000043 1700000043 1700000043)} := by
    rw [hfirst, hnext]
    exact injOn_twoHashes (by decide +kernel) (by decide)
  exact (lcgHost.apart_iff _ _ hinj).mpr
    ⟨Or.inl ⟨0, by decide, by decide +kernel⟩, Or.inl (by decide)⟩

theorem nonce_eq_of_same_second (h : Host) (t idTime₁ idTime₂ : Nat) :
    h.nonce (.alone t t idTime₁) = h.nonce (.alone t t idTime₂) := rfl

/-- The session id of the second connection is made a second later, but its nonce is not. -/
theorem not_apart : ¬ ∀ (h : Host) (c₁ c₂ : Arrival),
    (∀ seed₁ seed₂, seed₁ ≠ seed₂ → h.rand seed₁ ≠ h.rand seed₂) →
      Set.InjOn h.md5 {h.combined c₁, h.combined c₂} → c₁ ≠ c₂ → h.Apart c₁ c₂ := by
  intro hall
  let h : Host := ⟨fun _ => List.replicate 16 0, fun _ => rfl, fun seed _ => seed, [0]⟩
  have hstreams : ∀ seed₁ seed₂, seed₁ ≠ seed₂ → h.rand seed₁ ≠ h.rand seed₂ :=
    fun _ _ hne heq => hne (congrFun heq 0)
  have hinj : Set.InjOn h.md5 {h.combined (.alone 1700000042 1700000042 1700000042),
      h.combined (.alone 1700000042 1700000042 1700000043)} :=
    Set.injOn_pair.mpr fun _ => rfl
  have hne : Arrival.alone 1700000042 1700000042 1700000042 ≠
      .alone 1700000042 1700000042 1700000043 :=
    fun heq => absurd (congrArg Arrival.idTime heq) (by decide)
  exact (hall h _ _ hstreams hinj hne).nonces (h.nonce_eq_of_same_second _ _ _)

end Host

end SimpleRtsp

import Mathlib.Logic.Function.Basic
import SimpleRtsp.Rtsp.Connection

/-!
# The two sockets of a track

`create_rtp_sockets` looks for an even port that is free together with the next one, and binds a
socket to each. Here its calls of `bind` and `close` are carried out on descriptors, for any set of
ports that are in use. Where the first free even port has a used port behind it, the first socket
is closed although the search goes on with it: every later `bind` of it fails, and at the end it is
closed again. `createsRtpSockets_iff` says that this is the only way in which the function fails to
do what it is for.
-/

namespace SimpleRtsp

/-! ## Descriptors -/

/-- The port that a socket is bound to, and how often its descriptor was closed. -/
structure Descriptor where
  port : Option Nat
  closes : Nat

abbrev Descriptors := Int → Descriptor

namespace Descriptors

/-- No descriptor is bound or closed. -/
def fresh : Descriptors := fun _ => ⟨none, 0⟩

def setPort (fd : Int) (port : Nat) (ds : Descriptors) : Descriptors :=
  Function.update ds fd { ds fd with port := some port }

/-- `bind` fails on a port in use, on a bound socket and on a closed descriptor. -/
def bind (used : Nat → Bool) (fd : Int) (port : Nat) (ds : Descriptors) : Option Descriptors :=
  if used port ∨ (ds fd).port.isSome ∨ 0 < (ds fd).closes then none else some (ds.setPort fd port)

def close (fd : Int) (ds : Descriptors) : Descriptors :=
  Function.update ds fd ⟨none, (ds fd).closes + 1⟩

@[simp] theorem setPort_self (fd : Int) (port : Nat) (ds : Descriptors) :
    ds.setPort fd port fd = ⟨some port, (ds fd).closes⟩ := Function.update_self ..

@[simp] theorem setPort_of_ne {fd fd' : Int} (h : fd' ≠ fd) (port : Nat) (ds : Descriptors) :
    ds.setPort fd port fd' = ds fd' := Function.update_of_ne h ..

@[simp] theorem close_self (fd : Int) (ds : Descriptors) :
    ds.close fd fd = ⟨none, (ds fd).closes + 1⟩ := Function.update_self ..

@[simp] theorem close_of_ne {fd fd' : Int} (h : fd' ≠ fd) (ds : Descriptors) :
    ds.close fd fd' = ds fd' := Function.update_of_ne h ..

theorem bind_used {used : Nat → Bool} {port : Nat} (h : used port = true) (fd : Int)
    (ds : Descriptors) : ds.bind used fd port = none := if_pos (Or.inl h)

theorem bind_closed {ds : Descriptors} {fd : Int} (h : 0 < (ds fd).closes) (used : Nat → Bool)
    (port : Nat) : ds.bind used fd port = none := if_pos (Or.inr (Or.inr h))

theorem bind_free {used : Nat → Bool} {port : Nat} (h : used port = false) {fd : Int}
    {ds : Descriptors} (hfd : ds fd = ⟨none, 0⟩) :
    ds.bind used fd port = some (ds.setPort fd port) := by
  apply if_neg
  rw [h, hfd]
  simp

end Descriptors

/-! ## `create_rtp_sockets` on descriptors -/

/-- What the two calls of `socket` return, never the same descriptor, and the ports in use. -/
structure UdpWorld where
  socket1 : Int
  socket2 : Int
  distinct : 0 ≤ socket1 → socket2 ≠ socket1
  used : Nat → Bool

/-- How many ports the loop tries. -/
def attempts : Nat := (65535 - 1024) / 2 + 1

/-- The loop over the ports, with `n` of them to go; the port it returns at. -/
def bindPair (w : UdpWorld) : Nat → Nat → Descriptors → Option Nat × Descriptors
  | 0, _, ds => (none, ds)
  | n + 1, port, ds =>
    match ds.bind w.used w.socket1 port with
    | none => bindPair w n (port + 2) ds
    | some ds =>
      match ds.bind w.used w.socket2 (port + 1) with
      | none => bindPair w n (port + 2) (ds.close w.socket1)
      | some ds => (some port, ds)

/-- `create_rtp_sockets`, and the descriptors behind it. -/
def createRtpSocketsOn (w : UdpWorld) : RtpSockets × Descriptors :=
  if w.socket1 < 0 then (⟨w.socket1, none, none, -1⟩, .fresh)
  else if w.socket2 < 0 then
    (⟨w.socket1, some w.socket2, none, -1⟩, Descriptors.fresh.close w.socket1)
  else
    match bindPair w attempts 1024 .fresh with
    | (none, ds) =>
      (⟨w.socket1, some w.socket2, none, -1⟩, (ds.close w.socket1).close w.socket2)
    | (some port, ds) => (⟨w.socket1, some w.socket2, some port, 0⟩, ds)

namespace UdpWorld

def HasSockets (w : UdpWorld) : Prop := 0 ≤ w.socket1 ∧ 0 ≤ w.socket2

/-- The descriptors that are created. -/
def Creates (w : UdpWorld) (fd : Int) : Prop :=
  0 ≤ fd ∧ (fd = w.socket1 ∨ 0 ≤ w.socket1 ∧ fd = w.socket2)

/-- A port that the loop tries. -/
def Tries (port : Nat) : Prop := port % 2 = 0 ∧ 1024 ≤ port ∧ port ≤ 65534

/-- A port that the loop tries, and it is free together with the next one. -/
def FreePair (w : UdpWorld) (port : Nat) : Prop :=
  Tries port ∧ w.used port = false ∧ w.used (port + 1) = false

/-- If a port that the loop tries is free and none before it is, the next port is free, too. -/
def FirstIsPair (w : UdpWorld) : Prop :=
  ∀ port, Tries port → w.used port = false →
    (∀ earlier, Tries earlier → earlier < port → w.used earlier = true) →
    w.used (port + 1) = false

end UdpWorld

/-- What `create_rtp_sockets` is for: the first free pair of ports, or no socket at all. -/
structure CreatesRtpSockets (w : UdpWorld) : Prop where
  ret_zero : (createRtpSocketsOn w).1.ret = 0 ↔ w.HasSockets ∧ ∃ port, w.FreePair port
  bound : (createRtpSocketsOn w).1.ret = 0 → ∃ port, w.FreePair port ∧
    (∀ other, w.FreePair other → port ≤ other) ∧
    (createRtpSocketsOn w).1.fd1 = w.socket1 ∧
    (createRtpSocketsOn w).1.fd2 = some w.socket2 ∧
    (createRtpSocketsOn w).1.port1 = some port ∧
    (createRtpSocketsOn w).2 w.socket1 = ⟨some port, 0⟩ ∧
    (createRtpSocketsOn w).2 w.socket2 = ⟨some (port + 1), 0⟩
  closed : (createRtpSocketsOn w).1.ret = -1 → ∀ fd, w.Creates fd →
    ((createRtpSocketsOn w).2 fd).closes = 1
  ret_cases : (createRtpSocketsOn w).1.ret = 0 ∨ (createRtpSocketsOn w).1.ret = -1

/-! ## The first free port -/

/-- The first free port among `n` that the loop tries. -/
def firstFreePort (used : Nat → Bool) : Nat → Nat → Option Nat
  | 0, _ => none
  | n + 1, port => if used port then firstFreePort used n (port + 2) else some port

variable {used : Nat → Bool} {n port first : Nat}

theorem firstFreePort_eq_none (h : firstFreePort used n port = none) {i : Nat} (hi : i < n) :
    used (port + 2 * i) = true := by
  induction n generalizing port i with
  | zero => exact absurd hi (Nat.not_lt_zero i)
  | succ n ih =>
    rw [firstFreePort] at h
    split_ifs at h with hport
    cases i with
    | zero => exact hport
    | succ i =>
      have hnext := ih h (Nat.lt_of_succ_lt_succ hi)
      rwa [show port + 2 + 2 * i = port + 2 * (i + 1) by omega] at hnext

theorem firstFreePort_eq_some (h : firstFreePort used n port = some first) :
    ∃ i < n, first = port + 2 * i ∧ used first = false ∧
      ∀ j < i, used (port + 2 * j) = true := by
  induction n generalizing port with
  | zero => cases h
  | succ n ih =>
    rw [firstFreePort] at h
    split_ifs at h with hport
    · obtain ⟨i, hi, hfirst, hfree, hbefore⟩ := ih h
      refine ⟨i + 1, Nat.succ_lt_succ hi, by omega, hfree, fun j hj => ?_⟩
      cases j with
      | zero => exact hport
      | succ j =>
        have hnext := hbefore j (Nat.lt_of_succ_lt_succ hj)
        rwa [show port + 2 + 2 * j = port + 2 * (j + 1) by omega] at hnext
    · obtain rfl := Option.some.inj h
      exact ⟨0, Nat.succ_pos n, rfl, by simpa using hport, fun j hj => absurd hj j.not_lt_zero⟩

theorem tries_iff (port : Nat) :
    UdpWorld.Tries port ↔ ∃ i < attempts, port = 1024 + 2 * i := by
  have hattempts : attempts = 32256 := rfl
  constructor
  · rintro ⟨heven, hlow, hhigh⟩
    exact ⟨(port - 1024) / 2, by omega, by omega⟩
  · rintro ⟨i, hi, rfl⟩
    exact ⟨by omega, by omega, by omega⟩

theorem firstFreePort_none_tries (h : firstFreePort used attempts 1024 = none)
    (hport : UdpWorld.Tries port) : used port = true := by
  obtain ⟨i, hi, rfl⟩ := (tries_iff port).mp hport
  exact firstFreePort_eq_none h hi

theorem firstFreePort_some_tries (h : firstFreePort used attempts 1024 = some first) :
    UdpWorld.Tries first ∧ used first = false ∧
      ∀ earlier, UdpWorld.Tries earlier → earlier < first → used earlier = true := by
  obtain ⟨i, hi, rfl, hfree, hbefore⟩ := firstFreePort_eq_some h
  refine ⟨(tries_iff _).mpr ⟨i, hi, rfl⟩, hfree, fun earlier hearlier hlt => ?_⟩
  obtain ⟨j, -, rfl⟩ := (tries_iff earlier).mp hearlier
  exact hbefore j (by omega)

/-! ## The loop -/

variable {w : UdpWorld} {ds : Descriptors}

theorem bindPair_closed (hclosed : 0 < (ds w.socket1).closes) (n port : Nat) :
    bindPair w n port ds = (none, ds) := by
  induction n generalizing port with
  | zero => rfl
  | succ n ih =>
    rw [bindPair, Descriptors.bind_closed hclosed]
    exact ih (port + 2)

/-- **The loop.** It comes to the first free port, and there it returns or closes the first
descriptor. -/
theorem bindPair_eq (hdistinct : w.socket2 ≠ w.socket1) (h1 : ds w.socket1 = ⟨none, 0⟩)
    (h2 : ds w.socket2 = ⟨none, 0⟩) (n port : Nat) :
    bindPair w n port ds = (firstFreePort w.used n port).elim (none, ds) fun first =>
      if w.used (first + 1) then (none, (ds.setPort w.socket1 first).close w.socket1)
      else (some first, (ds.setPort w.socket1 first).setPort w.socket2 (first + 1)) := by
  induction n generalizing port with
  | zero => rfl
  | succ n ih =>
    rw [bindPair, firstFreePort]
    cases hport : w.used port with
    | true =>
      rw [Descriptors.bind_used hport, if_pos rfl]
      exact ih (port + 2)
    | false =>
      rw [Descriptors.bind_free hport h1, if_neg Bool.false_ne_true, Option.elim_some]
      dsimp only
      cases hnext : w.used (port + 1) with
      | true =>
        rw [Descriptors.bind_used hnext, if_pos rfl]
        exact bindPair_closed (by simp) n (port + 2)
      | false =>
        have hopen : ds.setPort w.socket1 port w.socket2 = ⟨none, 0⟩ := by
          rw [Descriptors.setPort_of_ne hdistinct, h2]
        rw [Descriptors.bind_free hnext hopen, if_neg Bool.false_ne_true]

/-! ## The function -/

theorem createRtpSocketsOn_sockets (h1 : 0 ≤ w.socket1) (h2 : 0 ≤ w.socket2) :
    createRtpSocketsOn w = match bindPair w attempts 1024 .fresh with
      | (none, ds) =>
        (⟨w.socket1, some w.socket2, none, -1⟩, (ds.close w.socket1).close w.socket2)
      | (some port, ds) => (⟨w.socket1, some w.socket2, some port, 0⟩, ds) := by
  rw [createRtpSocketsOn, if_neg (by omega), if_neg (by omega)]

theorem createRtpSocketsOn_none (h1 : 0 ≤ w.socket1) (h2 : 0 ≤ w.socket2)
    (hfirst : firstFreePort w.used attempts 1024 = none) : createRtpSocketsOn w =
      (⟨w.socket1, some w.socket2, none, -1⟩,
        (Descriptors.fresh.close w.socket1).close w.socket2) := by
  rw [createRtpSocketsOn_sockets h1 h2, bindPair_eq (w.distinct h1) rfl rfl, hfirst]
  rfl

theorem createRtpSocketsOn_pair (h1 : 0 ≤ w.socket1) (h2 : 0 ≤ w.socket2)
    (hfirst : firstFreePort w.used attempts 1024 = some first)
    (hnext : w.used (first + 1) = false) : createRtpSocketsOn w =
      (⟨w.socket1, some w.socket2, some first, 0⟩,
        (Descriptors.fresh.setPort w.socket1 first).setPort w.socket2 (first + 1)) := by
  rw [createRtpSocketsOn_sockets h1 h2, bindPair_eq (w.distinct h1) rfl rfl, hfirst,
    Option.elim_some, hnext, if_neg Bool.false_ne_true]

theorem createRtpSocketsOn_single (h1 : 0 ≤ w.socket1) (h2 : 0 ≤ w.socket2)
    (hfirst : firstFreePort w.used attempts 1024 = some first)
    (hnext : w.used (first + 1) = true) : createRtpSocketsOn w =
      (⟨w.socket1, some w.socket2, none, -1⟩, (((Descriptors.fresh.setPort w.socket1 first).close
        w.socket1).close w.socket1).close w.socket2) := by
  rw [createRtpSocketsOn_sockets h1 h2, bindPair_eq (w.distinct h1) rfl rfl, hfirst,
    Option.elim_some, hnext, if_pos rfl]

theorem creates_of_no_sockets (h : ¬ w.HasSockets) : CreatesRtpSockets w := by
  by_cases h1 : w.socket1 < 0
  · have hrun : createRtpSocketsOn w = (⟨w.socket1, none, none, -1⟩, .fresh) := if_pos h1
    refine ⟨?_, ?_, ?_, ?_⟩ <;> rw [hrun]
    · simp [h]
    · simp
    · rintro - fd ⟨hfd, rfl | ⟨hsocket, -⟩⟩ <;> omega
    · exact Or.inr rfl
  · have h2 : w.socket2 < 0 := by
      by_contra h2
      exact h ⟨by omega, by omega⟩
    have hrun : createRtpSocketsOn w = (⟨w.socket1, some w.socket2, none, -1⟩,
        Descriptors.fresh.close w.socket1) := by
      rw [createRtpSocketsOn, if_neg h1, if_pos h2]
    refine ⟨?_, ?_, ?_, ?_⟩ <;> rw [hrun]
    · simp [h]
    · simp
    · rintro - fd ⟨hfd, rfl | ⟨-, rfl⟩⟩
      · simp [Descriptors.fresh]
      · omega
    · exact Or.inr rfl

theorem creates_of_none (h1 : 0 ≤ w.socket1) (h2 : 0 ≤ w.socket2)
    (hfirst : firstFreePort w.used attempts 1024 = none) : CreatesRtpSockets w := by
  have hdistinct := w.distinct h1
  have hrun := createRtpSocketsOn_none h1 h2 hfirst
  refine ⟨?_, ?_, ?_, ?_⟩ <;> rw [hrun]
  · refine iff_of_false (by simp) ?_
    rintro ⟨-, port, htries, hfree, -⟩
    rw [firstFreePort_none_tries hfirst htries] at hfree
    cases hfree
  · exact fun hret => absurd hret (by simp)
  · rintro - fd ⟨-, rfl | ⟨-, rfl⟩⟩
    · simp [Descriptors.fresh, hdistinct.symm]
    · simp [Descriptors.fresh, hdistinct]
  · exact Or.inr rfl

theorem creates_of_pair (h1 : 0 ≤ w.socket1) (h2 : 0 ≤ w.socket2)
    (hfirst : firstFreePort w.used attempts 1024 = some first)
    (hnext : w.used (first + 1) = false) : CreatesRtpSockets w := by
  have hdistinct := w.distinct h1
  have hrun := createRtpSocketsOn_pair h1 h2 hfirst hnext
  obtain ⟨htries, hfree, hbefore⟩ := firstFreePort_some_tries hfirst
  have hpair : w.FreePair first := ⟨htries, hfree, hnext⟩
  refine ⟨?_, ?_, ?_, ?_⟩ <;> rw [hrun]
  · exact iff_of_true rfl ⟨⟨h1, h2⟩, first, hpair⟩
  · rintro -
    refine ⟨first, hpair, ?_, rfl, rfl, rfl, ?_, ?_⟩
    · rintro other ⟨hother, hopen, -⟩
      by_contra hlt
      rw [hbefore other hother (by omega)] at hopen
      cases hopen
    · simp [Descriptors.fresh, hdistinct.symm]
    · simp [Descriptors.fresh, hdistinct]
  · exact fun hret => absurd hret (by simp)
  · exact Or.inl rfl

theorem not_creates_of_single (h1 : 0 ≤ w.socket1) (h2 : 0 ≤ w.socket2)
    (hfirst : firstFreePort w.used attempts 1024 = some first)
    (hnext : w.used (first + 1) = true) : ¬ CreatesRtpSockets w := by
  have hdistinct := w.distinct h1
  have hrun := createRtpSocketsOn_single h1 h2 hfirst hnext
  intro hcreates
  have hclosed := hcreates.closed (by rw [hrun]) w.socket1 ⟨h1, Or.inl rfl⟩
  rw [hrun] at hclosed
  simp [Descriptors.fresh, hdistinct.symm] at hclosed

/-- **Where the search goes wrong.** `create_rtp_sockets` does what it is for if and only if a call
of `socket` fails or the first free port that it tries is the first of a free pair. -/
theorem createsRtpSockets_iff (w : UdpWorld) :
    CreatesRtpSockets w ↔ (w.HasSockets → w.FirstIsPair) := by
  constructor
  · rintro hcreates ⟨h1, h2⟩ port htries hfree hbefore
    cases hfirst : firstFreePort w.used attempts 1024 with
    | none =>
      rw [firstFreePort_none_tries hfirst htries] at hfree
      cases hfree
    | some first =>
      obtain ⟨hfirstTries, hfirstFree, hfirstBefore⟩ := firstFreePort_some_tries hfirst
      -- there is only one first free port
      have hport : port = first := by
        rcases Nat.lt_trichotomy port first with hlt | heq | hgt
        · rw [hfirstBefore port htries hlt] at hfree
          cases hfree
        · exact heq
        · rw [hbefore first hfirstTries hgt] at hfirstFree
          cases hfirstFree
      rw [hport]
      by_contra hused
      exact not_creates_of_single h1 h2 hfirst (by simpa using hused) hcreates
  · intro hpair
    by_cases hsockets : w.HasSockets
    · cases hfirst : firstFreePort w.used attempts 1024 with
      | none => exact creates_of_none hsockets.1 hsockets.2 hfirst
      | some first =>
        obtain ⟨htries, hfree, hbefore⟩ := firstFreePort_some_tries hfirst
        have hnext := hpair hsockets first htries hfree hbefore
        exact creates_of_pair hsockets.1 hsockets.2 hfirst hnext
    · exact creates_of_no_sockets hsockets

def port1025 : UdpWorld := ⟨8, 9, by decide, fun port => port == 1025⟩

/-- It returns -1, although 1026 and 1027 are free, and closes the first socket twice. -/
theorem not_creates_port1025 :
    ¬ ∀ w : UdpWorld, CreatesRtpSockets w := by
  intro hcreates
  have hfirst : firstFreePort port1025.used attempts 1024 = some 1024 := rfl
  have hsockets : 0 ≤ port1025.socket1 ∧ 0 ≤ port1025.socket2 := by decide
  exact not_creates_of_single hsockets.1 hsockets.2 hfirst rfl (hcreates port1025)

/-! ## The answers of the system -/

/-- The answers that the calls of `bind` get, by port. -/
def UdpWorld.answers (w : UdpWorld) : SocketWorld where
  socket1 := w.socket1
  socket2 := w.socket2
  bind1 port := firstFreePort w.used attempts 1024 = some port
  bind2 port := ! w.used port

theorem tryPorts_eq_none {answers : SocketWorld}
    (h : ∀ other, port ≤ other → answers.bind1 other = false) : tryPorts answers n port = none := by
  induction n generalizing port with
  | zero => rfl
  | succ n ih =>
    rw [tryPorts, if_neg (by simp [h port (Nat.le_refl port)])]
    exact ih fun other hother => h other (by omega)

theorem tryPorts_first {answers : SocketWorld} (hbind : ∀ other, port ≤ other →
      answers.bind1 other = decide (firstFreePort used n port = some other)) :
    tryPorts answers n port =
      (firstFreePort used n port).filter fun first => answers.bind2 (first + 1) := by
  induction n generalizing port with
  | zero => rfl
  | succ n ih =>
    have hport := hbind port (Nat.le_refl port)
    rw [tryPorts]
    cases hused : used port with
    | true =>
      have hskip : firstFreePort used (n + 1) port = firstFreePort used n (port + 2) := if_pos hused
      have hlater : firstFreePort used n (port + 2) ≠ some port := by
        intro hfirst
        obtain ⟨i, -, heq, -⟩ := firstFreePort_eq_some hfirst
        omega
      rw [hskip] at hport ⊢
      rw [hport, decide_eq_false hlater, if_neg (by simp)]
      apply ih
      intro other hother
      rw [hbind other (by omega), hskip]
    | false =>
      have hhere : firstFreePort used (n + 1) port = some port := if_neg (by simp [hused])
      rw [hhere] at hport ⊢
      rw [hport, Option.filter_some]
      cases hnext : answers.bind2 (port + 1) with
      | true => simp
      | false =>
        rw [if_neg (by simp), if_neg (by simp)]
        apply tryPorts_eq_none
        intro other hother
        rw [hbind other (by omega), hhere, decide_eq_false]
        simp only [Option.some.injEq]
        omega

/-- What a connection sees of the descriptors: `createRtpSockets` with the answers of the system. -/
theorem createRtpSocketsOn_fst (w : UdpWorld) :
    (createRtpSocketsOn w).1 = createRtpSockets w.answers := by
  rw [createRtpSockets, createRtpSocketsOn]
  by_cases h1 : w.socket1 < 0
  · rw [if_pos h1, if_pos (show w.answers.socket1 < 0 from h1)]
    rfl
  by_cases h2 : w.socket2 < 0
  · rw [if_neg h1, if_pos h2, if_neg (show ¬ w.answers.socket1 < 0 from h1),
      if_pos (show w.answers.socket2 < 0 from h2)]
    rfl
  have htry : tryPorts w.answers attempts 1024 =
      (firstFreePort w.used attempts 1024).filter fun first => ! w.used (first + 1) :=
    tryPorts_first fun _ _ => rfl
  rw [if_neg h1, if_neg h2, if_neg (show ¬ w.answers.socket1 < 0 from h1),
    if_neg (show ¬ w.answers.socket2 < 0 from h2), bindPair_eq (w.distinct (by omega)) rfl rfl,
    ← show attempts = (65535 - 1024) / 2 + 1 from rfl, htry]
  cases firstFreePort w.used attempts 1024 with
  | none => rfl
  | some first =>
    rw [Option.elim_some, Option.filter_some]
    cases w.used (first + 1) <;> rfl

end SimpleRtsp

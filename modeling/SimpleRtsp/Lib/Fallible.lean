import Mathlib.Tactic.Common

/-!
# Computations that can fail

`Avoids bad x` says that the computation `x` does not end in an error of the kind `bad`; other
errors it may end in. `Gives post x` says that its value, if it ends with one, satisfies `post`.
The rules follow the computation: a sequence avoids what its first part avoids and, if that part
succeeds, what the rest avoids; and it gives what the rest gives for the values of its first part.
-/

theorem ok_bind {ε α β : Type} (a : α) (f : α → Except ε β) : (Except.ok a >>= f) = f a := rfl

theorem bind_eq_ok {ε α β : Type} {x : Except ε α} {f : α → Except ε β} {b : β} :
    (x >>= f) = .ok b ↔ ∃ a, x = .ok a ∧ f a = .ok b := by
  cases x with
  | error e => simp [bind, Except.bind]
  | ok a => simp [bind, Except.bind]

theorem map_eq_ok {ε α β : Type} {x : Except ε α} {f : α → β} {b : β} :
    x.map f = .ok b ↔ ∃ a, x = .ok a ∧ f a = b := by
  cases x with
  | error e => simp [Except.map]
  | ok a => simp [Except.map]

theorem toOption_eq_some {ε α : Type} {x : Except ε α} {a : α} :
    x.toOption = some a ↔ x = .ok a := by
  cases x with
  | error e => simp [Except.toOption]
  | ok a => simp [Except.toOption]

/-- `x` is no error of the kind `bad`. -/
def Avoids {ε α : Type} (bad : ε → Prop) (x : Except ε α) : Prop := ∀ e, x = .error e → ¬ bad e

namespace Avoids

variable {ε α β : Type} {bad : ε → Prop}

@[simp] theorem ok (a : α) : Avoids bad (.ok a : Except ε α) := nofun

@[simp] theorem pure (a : α) : Avoids bad (Pure.pure a : Except ε α) := nofun

@[simp] theorem error_iff (e : ε) : Avoids bad (.error e : Except ε α) ↔ ¬ bad e :=
  ⟨fun h => h e rfl, fun h e' he => by cases he; exact h⟩

/-- The rule of sequences. -/
theorem bind_iff (x : Except ε α) (f : α → Except ε β) :
    Avoids bad (x >>= f) ↔ Avoids bad x ∧ ∀ a, x = .ok a → Avoids bad (f a) := by
  cases x with
  | error e => simp [bind, Except.bind]
  | ok a => simp [bind, Except.bind]

theorem bind {x : Except ε α} {f : α → Except ε β} (hx : Avoids bad x)
    (hf : ∀ a, Avoids bad (f a)) : Avoids bad (x >>= f) :=
  (bind_iff x f).mpr ⟨hx, fun a _ => hf a⟩

theorem ok_bind_iff {x : Except ε α} {a : α} (hx : x = .ok a) (f : α → Except ε β) :
    Avoids bad (x >>= f) ↔ Avoids bad (f a) := by
  rw [hx]
  rfl

end Avoids

/-- The value of `x`, if there is one, satisfies `post`. -/
def Gives {ε α : Type} (post : α → Prop) (x : Except ε α) : Prop := ∀ a, x = .ok a → post a

namespace Gives

variable {ε α β : Type}

theorem error {post : α → Prop} (e : ε) : Gives post (.error e : Except ε α) := nofun

theorem ok {post : α → Prop} {a : α} (h : post a) : Gives post (.ok a : Except ε α) := by
  rintro _ ⟨⟩
  exact h

theorem mono {post post' : α → Prop} {x : Except ε α} (hx : Gives post x)
    (himp : ∀ a, post a → post' a) : Gives post' x := fun a ha => himp a (hx a ha)

theorem bind {post : β → Prop} {mid : α → Prop} {x : Except ε α} {f : α → Except ε β}
    (hx : Gives mid x) (hf : ∀ a, mid a → Gives post (f a)) : Gives post (x >>= f) := by
  cases x with
  | error e => exact nofun
  | ok a => exact hf a (hx a rfl)

theorem bind_any {post : β → Prop} {x : Except ε α} {f : α → Except ε β}
    (hf : ∀ a, Gives post (f a)) : Gives post (x >>= f) :=
  bind (fun _ _ => trivial : Gives (fun _ => True) x) fun a _ => hf a

theorem map {post : β → Prop} {x : Except ε α} {f : α → β} (hx : Gives (fun a => post (f a)) x) :
    Gives post (x.map f) := by
  cases x with
  | error e => exact error e
  | ok a => exact ok (hx a rfl)

end Gives

import Mathlib.Tactic.Common

/-!
# Programs that may return early

`EarlyM σ α` is a program over a state `σ` that either runs to its end with a result or leaves by
an early error return; the state it has reached is kept in both cases. `Meets x s ok err` is its
pair of postconditions from the state `s`: `ok` for the end, `err` for the early return. A
sequence is verified part by part with `Meets.bind`, and a part's own lemma is adapted with
`Meets.mono`. `Keeps r x` is for what a program leaves alone: from every state, and however it ends,
the last state is related by `r` to the first. For a transitive `r` it goes along sequences too
(`Keeps.bind`).
-/

/-- A program over the state `σ`: `none` is the early return. -/
def EarlyM (σ α : Type) := σ → Option α × σ

namespace EarlyM

variable {σ α β : Type}

instance : Monad (EarlyM σ) where
  pure a := fun s => (some a, s)
  bind x f := fun s =>
    match x s with
    | (some a, s') => f a s'
    | (none, s') => (none, s')

/-- The early return. -/
def fail : EarlyM σ α := fun s => (none, s)

def get : EarlyM σ σ := fun s => (some s, s)

def modify (f : σ → σ) : EarlyM σ Unit := fun s => (some (), f s)

theorem bind_apply (x : EarlyM σ α) (f : α → EarlyM σ β) (s : σ) :
    (x >>= f) s = match x s with
      | (some a, s') => f a s'
      | (none, s') => (none, s') := rfl

/-- From `s`, a run of `x` to its end satisfies `ok` and an early return satisfies `err`. -/
def Meets (x : EarlyM σ α) (s : σ) (ok : α → σ → Prop) (err : σ → Prop) : Prop :=
  match x s with
  | (some a, s') => ok a s'
  | (none, s') => err s'

namespace Meets

variable {x : EarlyM σ α} {f : α → EarlyM σ β} {s : σ} {err err' : σ → Prop}

theorem pure {ok : α → σ → Prop} {a : α} (h : ok a s) : Meets (pure a) s ok err := h

theorem fail {ok : α → σ → Prop} (h : err s) : Meets EarlyM.fail s ok err := h

theorem modify {ok : Unit → σ → Prop} {g : σ → σ} (h : ok () (g s)) :
    Meets (EarlyM.modify g) s ok err := h

theorem mono {ok ok' : α → σ → Prop} (h : Meets x s ok err) (hok : ∀ a s', ok a s' → ok' a s')
    (herr : ∀ s', err s' → err' s') : Meets x s ok' err' := by
  unfold Meets at *
  split at h
  · exact hok _ _ h
  · exact herr _ h

theorem and {ok ok' : α → σ → Prop} (h : Meets x s ok err) (h' : Meets x s ok' err') :
    Meets x s (fun a s' => ok a s' ∧ ok' a s') (fun s' => err s' ∧ err' s') := by
  unfold Meets at *
  split at h
  · rename_i hrun
    rw [hrun] at h'
    exact ⟨h, h'⟩
  · rename_i hrun
    rw [hrun] at h'
    exact ⟨h, h'⟩

theorem bind {mid : α → σ → Prop} {ok : β → σ → Prop} (hx : Meets x s mid err)
    (hf : ∀ a s', mid a s' → Meets (f a) s' ok err) : Meets (x >>= f) s ok err := by
  unfold Meets at hx
  show match (x >>= f) s with
    | (some a, s') => ok a s'
    | (none, s') => err s'
  rw [bind_apply]
  split at hx
  · exact hf _ _ hx
  · exact hx

theorem get_bind {f : σ → EarlyM σ β} {ok : β → σ → Prop} (h : Meets (f s) s ok err) :
    Meets (EarlyM.get >>= f) s ok err := h

theorem modify_bind {f : Unit → EarlyM σ β} {g : σ → σ} {ok : β → σ → Prop}
    (h : Meets (f ()) (g s) ok err) : Meets (EarlyM.modify g >>= f) s ok err := h

theorem result {ok : α → σ → Prop} {a : α} (h : Meets x s ok err) (ha : (x s).1 = some a) :
    ok a (x s).2 := by
  unfold Meets at h
  split at h
  · rename_i hrun
    rw [hrun] at ha ⊢
    rw [← Option.some.inj ha]
    exact h
  · rename_i hrun
    rw [hrun] at ha
    exact absurd ha (by simp)

theorem early {ok : α → σ → Prop} (h : Meets x s ok err) (hx : (x s).1 = none) : err (x s).2 := by
  unfold Meets at h
  split at h
  · rename_i hrun
    rw [hrun] at hx
    exact absurd hx (by simp)
  · rename_i hrun
    rw [hrun]
    exact h

/-- Both postconditions about the program's own run: what it returned and where it stopped. -/
theorem run (x : EarlyM σ α) (s : σ) :
    Meets x s (fun a s' => x s = (some a, s')) (fun s' => x s = (none, s')) := by
  unfold Meets
  split <;> assumption

end Meets

/-- However a run of `x` ends, `r` relates the state it started in to the one it stopped in. -/
def Keeps (r : σ → σ → Prop) (x : EarlyM σ α) : Prop := ∀ s, r s (x s).2

namespace Keeps

variable {r r' : σ → σ → Prop} {x : EarlyM σ α} {f : α → EarlyM σ β}

theorem pure (hrefl : ∀ s, r s s) (a : α) : Keeps r (pure a : EarlyM σ α) := hrefl

theorem fail (hrefl : ∀ s, r s s) : Keeps r (EarlyM.fail : EarlyM σ α) := hrefl

theorem modify {g : σ → σ} (h : ∀ s, r s (g s)) : Keeps r (EarlyM.modify g) := h

theorem mono (h : Keeps r x) (hr : ∀ s s', r s s' → r' s s') : Keeps r' x :=
  fun s => hr s _ (h s)

theorem bind (htrans : ∀ s s' s'', r s s' → r s' s'' → r s s'') (hx : Keeps r x)
    (hf : ∀ a, Keeps r (f a)) : Keeps r (x >>= f) := by
  intro s
  have hfirst := hx s
  rw [bind_apply]
  split
  · rename_i a s' hrun
    rw [hrun] at hfirst
    exact htrans s s' _ hfirst (hf a s')
  · rename_i s' hrun
    rw [hrun] at hfirst
    exact hfirst

theorem get_bind {f : σ → EarlyM σ β} (h : ∀ s, Keeps r (f s)) : Keeps r (EarlyM.get >>= f) :=
  fun s => h s s

end Keeps

end EarlyM

import Mathlib.Logic.Function.Basic
import Mathlib.Tactic.Common

/-!
# Descriptors and their owners

A `Ledger` is the kernel's side of descriptors: which resource a descriptor is open for, and for
every resource who did what to it, to the end. A descriptor's number is used again once it is
closed, so what is done to a number is recorded for the resource it is open for at that time; what
is done to a number that is not open is recorded as `stray`.

`Kept` is about a ledger and a relation `owns` that is known from elsewhere, the state of the
program: every open descriptor has one owner, and the record of its resource is one that the owner
may have (`Held`). There is a rule for each operation, and one for handing a descriptor over.
-/

/-- Owners `ω` do `α` to descriptors `δ`. -/
structure Ledger (ω α δ : Type) where
  resource : δ → Option Nat
  log : Nat → List (ω × α)
  stray : Bool

namespace Ledger

variable {ω α δ : Type}

def init : Ledger ω α δ := ⟨fun _ => none, fun _ => [], false⟩

def openFor [DecidableEq δ] (l : Ledger ω α δ) (id : Nat) (fd : δ) : Ledger ω α δ :=
  { l with resource := Function.update l.resource fd (some id) }

def record (l : Ledger ω α δ) (id : Nat) (o : ω) (a : α) : Ledger ω α δ :=
  { l with log := Function.update l.log id (l.log id ++ [(o, a)]) }

def act (l : Ledger ω α δ) (o : ω) (a : α) (fd : δ) : Ledger ω α δ :=
  match l.resource fd with
  | none => { l with stray := true }
  | some id => l.record id o a

/-- The descriptor is closed, by the act `a` of `o`. -/
def close [DecidableEq δ] (l : Ledger ω α δ) (o : ω) (a : α) (fd : δ) : Ledger ω α δ :=
  match l.resource fd with
  | none => { l with stray := true }
  | some id =>
    { l.record id o a with resource := Function.update l.resource fd none }

theorem act_some {l : Ledger ω α δ} {fd : δ} {id : Nat} (h : l.resource fd = some id) (o : ω)
    (a : α) : l.act o a fd = l.record id o a := by
  rw [act, h]

theorem close_some [DecidableEq δ] {l : Ledger ω α δ} {fd : δ} {id : Nat}
    (h : l.resource fd = some id) (o : ω) (a : α) : l.close o a fd =
      { l.record id o a with resource := Function.update l.resource fd none } := by
  rw [close, h]

/-- Every open descriptor has one owner, with a record that is `Held` by it; a record ends with
`fin` when the descriptor is closed, and nothing was done to a descriptor that was not open. From
`next` on the resources are not used yet. -/
structure Kept (Held : Nat → ω → List (ω × α) → Prop) (fin : α) (l : Ledger ω α δ)
    (owns : ω → δ → Prop) (next : Nat) : Prop where
  single : ∀ o o' fd, owns o fd → owns o' fd → o = o'
  isOpen : ∀ o fd, owns o fd → ∃ id, l.resource fd = some id ∧ Held id o (l.log id)
  owned : ∀ fd id, l.resource fd = some id → ∃ o, owns o fd
  apart : ∀ fd fd' id, l.resource fd = some id → l.resource fd' = some id → fd = fd'
  ended : ∀ id, (∀ fd, l.resource fd ≠ some id) →
    l.log id = [] ∨ ∃ o record, Held id o record ∧ l.log id = record ++ [(o, fin)]
  unused : ∀ id, next ≤ id → l.log id = [] ∧ ∀ fd, l.resource fd ≠ some id
  noStray : l.stray = false

variable {Held : Nat → ω → List (ω × α) → Prop} {l : Ledger ω α δ} {owns owns' : ω → δ → Prop}
  {next : Nat} {o o' : ω} {a fin : α} {fd : δ}

theorem kept_init (howns : ∀ o fd, ¬ owns o fd) : Kept Held fin (init : Ledger ω α δ) owns 0 where
  single o _ fd h _ := absurd h (howns o fd)
  isOpen o fd h := absurd h (howns o fd)
  owned _ _ h := absurd h (by simp [init])
  apart _ _ _ h _ := absurd h (by simp [init])
  ended _ _ := Or.inl rfl
  unused _ _ := ⟨rfl, fun _ => by simp [init]⟩
  noStray := rfl

theorem Kept.congr (h : Kept Held fin l owns next) (howns : ∀ o fd, owns' o fd ↔ owns o fd) :
    Kept Held fin l owns' next := by
  obtain rfl : owns' = owns := funext fun o => funext fun fd => propext (howns o fd)
  exact h

theorem record_log (l : Ledger ω α δ) (id : Nat) (o : ω) (a : α) (id' : Nat) :
    (l.record id o a).log id' = if id' = id then l.log id ++ [(o, a)] else l.log id' := by
  simp [record, Function.update_apply]

theorem Kept.act (h : Kept Held fin l owns next) (howns : owns o fd)
    (hheld : ∀ id record, Held id o record → Held id o (record ++ [(o, a)])) :
    Kept Held fin (l.act o a fd) owns next := by
  obtain ⟨id, hid, hrecord⟩ := h.isOpen o fd howns
  rw [act_some hid]
  refine ⟨h.single, fun o₁ fd₁ h₁ => ?_, h.owned, h.apart, fun id' hclosed => ?_, fun id' hle => ?_,
    h.noStray⟩
  · obtain ⟨id₁, hid₁, hrecord₁⟩ := h.isOpen o₁ fd₁ h₁
    refine ⟨id₁, hid₁, ?_⟩
    rw [record_log]
    split_ifs with hsame
    · subst hsame
      obtain rfl := h.apart fd fd₁ id₁ hid hid₁
      rw [h.single o₁ o fd h₁ howns]
      exact hheld id₁ _ hrecord
    · exact hrecord₁
  · have hother : id' ≠ id := by
      rintro rfl
      exact hclosed fd hid
    rw [record_log, if_neg hother]
    exact h.ended id' hclosed
  · obtain ⟨hlog, hnone⟩ := h.unused id' hle
    have hother : id' ≠ id := by
      rintro rfl
      exact hnone fd hid
    rw [record_log, if_neg hother]
    exact ⟨hlog, hnone⟩

theorem Kept.acts {β : Type} (h : Kept Held fin l owns next) (howns : owns o fd)
    (hheld : ∀ id record, Held id o record → Held id o (record ++ [(o, a)])) (f : β → δ)
    (calls : List β) (hcalls : ∀ c ∈ calls, f c = fd) :
    Kept Held fin (calls.foldl (fun l c => l.act o a (f c)) l) owns next := by
  induction calls generalizing l with
  | nil => exact h
  | cons c rest ih =>
    have hc := hcalls c List.mem_cons_self
    refine ih (h.act (hc ▸ howns) hheld) fun c' hc' => hcalls c' (List.mem_cons_of_mem c hc')

theorem Kept.handOver (h : Kept Held fin l owns next) (howns : owns o fd)
    (hheld : ∀ id record, Held id o record → Held id o' record)
    (howns' : ∀ o₁ fd₁, owns' o₁ fd₁ ↔ (fd₁ = fd ∧ o₁ = o') ∨ (fd₁ ≠ fd ∧ owns o₁ fd₁)) :
    Kept Held fin l owns' next := by
  refine ⟨fun o₁ o₂ fd₁ h₁ h₂ => ?_, fun o₁ fd₁ h₁ => ?_, fun fd₁ id hid => ?_, h.apart, h.ended,
    h.unused, h.noStray⟩
  · rw [howns'] at h₁ h₂
    obtain ⟨rfl, rfl⟩ | ⟨hne, h₁⟩ := h₁
    · exact (h₂.resolve_right fun h₂ => h₂.1 rfl).2.symm
    · exact h.single o₁ o₂ fd₁ h₁ (h₂.resolve_left fun h₂ => hne h₂.1).2
  · rw [howns'] at h₁
    obtain ⟨rfl, rfl⟩ | ⟨-, h₁⟩ := h₁
    · obtain ⟨id, hid, hrecord⟩ := h.isOpen o fd₁ howns
      exact ⟨id, hid, hheld id _ hrecord⟩
    · exact h.isOpen o₁ fd₁ h₁
  · by_cases hfd : fd₁ = fd
    · exact ⟨o', (howns' o' fd₁).mpr (Or.inl ⟨hfd, rfl⟩)⟩
    · obtain ⟨o₁, h₁⟩ := h.owned fd₁ id hid
      exact ⟨o₁, (howns' o₁ fd₁).mpr (Or.inr ⟨hfd, h₁⟩)⟩

theorem Kept.close [DecidableEq δ] (h : Kept Held fin l owns next) (howns : owns o fd)
    (howns' : ∀ o₁ fd₁, owns' o₁ fd₁ ↔ owns o₁ fd₁ ∧ fd₁ ≠ fd) :
    Kept Held fin (l.close o fin fd) owns' next := by
  obtain ⟨id, hid, hrecord⟩ := h.isOpen o fd howns
  have hresource : ∀ fd₁, (l.close o fin fd).resource fd₁ =
      if fd₁ = fd then none else l.resource fd₁ := fun fd₁ => by
    rw [close_some hid]
    exact Function.update_apply l.resource fd none fd₁
  have hlog : ∀ id', (l.close o fin fd).log id' =
      if id' = id then l.log id ++ [(o, fin)] else l.log id' := fun id' => by
    rw [close_some hid]
    exact record_log l id o fin id'
  have hbefore : ∀ fd₁ id₁, (l.close o fin fd).resource fd₁ = some id₁ →
      fd₁ ≠ fd ∧ l.resource fd₁ = some id₁ := by
    intro fd₁ id₁ h₁
    rw [hresource] at h₁
    split_ifs at h₁ with hne
    exact ⟨hne, h₁⟩
  refine ⟨fun o₁ o₂ fd₁ h₁ h₂ => ?_, fun o₁ fd₁ h₁ => ?_, fun fd₁ id₁ h₁ => ?_,
    fun fd₁ fd₂ id₁ h₁ h₂ => ?_, fun id₁ hclosed => ?_, fun id₁ hle => ?_, ?_⟩
  · exact h.single o₁ o₂ fd₁ ((howns' o₁ fd₁).mp h₁).1 ((howns' o₂ fd₁).mp h₂).1
  · obtain ⟨h₁, hne⟩ := (howns' o₁ fd₁).mp h₁
    obtain ⟨id₁, hid₁, hrecord₁⟩ := h.isOpen o₁ fd₁ h₁
    have hother : id₁ ≠ id := by
      rintro rfl
      exact hne (h.apart fd₁ fd id₁ hid₁ hid)
    refine ⟨id₁, by rw [hresource, if_neg hne, hid₁], ?_⟩
    rw [hlog, if_neg hother]
    exact hrecord₁
  · obtain ⟨hne, h₁⟩ := hbefore fd₁ id₁ h₁
    obtain ⟨o₁, ho₁⟩ := h.owned fd₁ id₁ h₁
    exact ⟨o₁, (howns' o₁ fd₁).mpr ⟨ho₁, hne⟩⟩
  · exact h.apart fd₁ fd₂ id₁ (hbefore fd₁ id₁ h₁).2 (hbefore fd₂ id₁ h₂).2
  · rw [hlog]
    split_ifs with hsame
    · subst hsame
      exact Or.inr ⟨o, _, hrecord, rfl⟩
    · refine h.ended id₁ fun fd₁ h₁ => hclosed fd₁ ?_
      rw [hresource, if_neg, h₁]
      rintro rfl
      exact hsame (Option.some.inj (h₁.symm.trans hid))
  · obtain ⟨hempty, hnone⟩ := h.unused id₁ hle
    have hother : id₁ ≠ id := by
      rintro rfl
      exact hnone fd hid
    rw [hlog, if_neg hother]
    exact ⟨hempty, fun fd₁ h₁ => hnone fd₁ (hbefore fd₁ id₁ h₁).2⟩
  · rw [close_some hid]
    exact h.noStray

theorem Kept.openFor [DecidableEq δ] (h : Kept Held fin l owns next) (hfree : l.resource fd = none)
    (hheld : Held next o []) (howns' : ∀ o₁ fd₁, owns' o₁ fd₁ ↔ owns o₁ fd₁ ∨ (o₁ = o ∧ fd₁ = fd)) :
    Kept Held fin (l.openFor next fd) owns' (next + 1) := by
  have hresource : ∀ fd₁, (l.openFor next fd).resource fd₁ =
      if fd₁ = fd then some next else l.resource fd₁ := fun fd₁ =>
    Function.update_apply l.resource fd (some next) fd₁
  have hnot : ∀ o₁, ¬ owns o₁ fd := fun o₁ h₁ => by
    obtain ⟨id, hid, -⟩ := h.isOpen o₁ fd h₁
    rw [hfree] at hid
    exact absurd hid (by simp)
  obtain ⟨hempty, hunused⟩ := h.unused next (Nat.le_refl next)
  refine ⟨fun o₁ o₂ fd₁ h₁ h₂ => ?_, fun o₁ fd₁ h₁ => ?_, fun fd₁ id₁ h₁ => ?_,
    fun fd₁ fd₂ id₁ h₁ h₂ => ?_, fun id₁ hclosed => ?_, fun id₁ hle => ?_, h.noStray⟩
  · rw [howns'] at h₁ h₂
    obtain h₁ | ⟨rfl, rfl⟩ := h₁
    · refine h.single o₁ o₂ fd₁ h₁ (h₂.resolve_right ?_)
      rintro ⟨-, rfl⟩
      exact hnot o₁ h₁
    · exact (h₂.resolve_left (hnot o₂)).1.symm
  · rw [howns'] at h₁
    rw [hresource]
    obtain h₁ | ⟨rfl, rfl⟩ := h₁
    · have hother : fd₁ ≠ fd := by
        rintro rfl
        exact hnot o₁ h₁
      rw [if_neg hother]
      exact h.isOpen o₁ fd₁ h₁
    · refine ⟨next, if_pos rfl, ?_⟩
      show Held next o₁ (l.log next)
      rw [hempty]
      exact hheld
  · rw [hresource] at h₁
    split_ifs at h₁ with hsame
    · exact ⟨o, (howns' o fd₁).mpr (Or.inr ⟨rfl, hsame⟩)⟩
    · obtain ⟨o₁, ho₁⟩ := h.owned fd₁ id₁ h₁
      exact ⟨o₁, (howns' o₁ fd₁).mpr (Or.inl ho₁)⟩
  · rw [hresource] at h₁ h₂
    split_ifs at h₁ h₂ with hsame₁ hsame₂ hsame₂
    · rw [hsame₁, hsame₂]
    · exact absurd (Option.some.inj h₁ ▸ h₂) (hunused fd₂)
    · exact absurd (Option.some.inj h₂ ▸ h₁) (hunused fd₁)
    · exact h.apart fd₁ fd₂ id₁ h₁ h₂
  · refine h.ended id₁ fun fd₁ h₁ => hclosed fd₁ ?_
    rw [hresource, if_neg, h₁]
    rintro rfl
    rw [hfree] at h₁
    exact absurd h₁ (by simp)
  · obtain ⟨hempty₁, hnone₁⟩ := h.unused id₁ (Nat.le_of_succ_le hle)
    refine ⟨hempty₁, fun fd₁ h₁ => ?_⟩
    rw [hresource] at h₁
    split_ifs at h₁
    · have := Option.some.inj h₁
      omega
    · exact hnone₁ fd₁ h₁

end Ledger

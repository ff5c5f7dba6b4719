import Mathlib.Data.List.Chain
import Mathlib.Data.List.Infix
import Mathlib.Tactic.Common

/-!
# Packets that may not arrive

A sender cuts every item into a train of packets, marks the first and the last packet of a train,
and numbers the packets of all trains one behind the other, modulo `m`. The network loses packets,
doubles them and changes their order. `Collector` is the receiver that puts together what arrives in
one piece: a packet that does not go on with the train before it makes it forget that train.

`completed` are the items whose packets arrive one directly behind the other. The collector gets
exactly these (`done_collect`), if no packet arrives as many as `m` numbers away from the one before
it; and if packets are only lost, these are the items of which every packet arrives
(`completed_of_sorted`).
-/

namespace Arrivals

variable {α ι κ : Type}

/-! ## The sender -/

/-- What a packet says of itself. -/
structure Part (α : Type) where
  first : Bool
  last : Bool
  data : α
  deriving DecidableEq, Repr

def parts (train : List α) : List (Part α) :=
  train.mapIdx fun j x => ⟨j = 0, j + 1 = train.length, x⟩

/-- The packets of the items, with their numbers. -/
def packets (m : Nat) (f : ι → List α) (items : List ι) : List (Nat × Part α) :=
  (items.flatMap fun x => parts (f x)).mapIdx fun k part => (k % m, part)

/-! ## The receiver -/

/-- What was put together, the train that is being put together, and the number that goes on with
it. -/
structure Collector (α : Type) where
  done : List (List α)
  current : Option (List α)
  next : Nat

namespace Collector

def start : Collector α := ⟨[], none, 0⟩

/-- What a packet is put behind. -/
def front (c : Collector α) (p : Nat × Part α) : Option (List α) :=
  if p.2.first then some [] else if p.1 = c.next then c.current else none

def step (m : Nat) (c : Collector α) (p : Nat × Part α) : Collector α :=
  match c.front p with
  | none => ⟨c.done, none, (p.1 + 1) % m⟩
  | some front =>
    if p.2.last then ⟨c.done ++ [front ++ [p.2.data]], none, (p.1 + 1) % m⟩
    else ⟨c.done, some (front ++ [p.2.data]), (p.1 + 1) % m⟩

def collect (m : Nat) (packets : List (Nat × Part α)) : Collector α :=
  packets.foldl (step m) start

end Collector

/-! ## What can be put together -/

/-- The items with the places of their first packets. -/
def starts (len : ι → Nat) : Nat → List ι → List (ι × Nat)
  | _, [] => []
  | s, x :: rest => (x, s) :: starts len (s + len x) rest

/-- The places of the packets of an item. -/
def span (len : ι → Nat) (p : ι × Nat) : List Nat := List.range' p.2 (len p.1)

/-- The items whose packets arrive one directly behind the other, when the packets at the places
`arrivals` arrive. -/
def completed (len : ι → Nat) (items : List ι) (arrivals : List Nat) : List ι :=
  arrivals.inits.flatMap fun before =>
    ((starts len 0 items).filter fun p => span len p <:+ before).map Prod.fst

def arrived (len : ι → Nat) (items : List ι) (arrivals : List Nat) : List ι :=
  ((starts len 0 items).filter fun p => ∀ k ∈ span len p, k ∈ arrivals).map Prod.fst

/-- No packet arrives as many as `m` numbers away from where the one before it leads. -/
def Close (m : Nat) (arrivals : List Nat) : Prop :=
  arrivals.IsChain fun a b => a + 1 < b + m ∧ b < a + 1 + m

/-! ## Places -/

variable {len : ι → Nat} {items : List ι} {s : Nat} {p q : ι × Nat}

theorem le_of_mem_starts (h : p ∈ starts len s items) : s ≤ p.2 := by
  induction items generalizing s with
  | nil => cases h
  | cons x rest ih =>
    obtain rfl | h := List.mem_cons.mp h
    · exact le_rfl
    · exact le_trans (Nat.le_add_right s (len x)) (ih h)

theorem mem_of_mem_starts (h : p ∈ starts len s items) : p.1 ∈ items := by
  induction items generalizing s with
  | nil => cases h
  | cons x rest ih =>
    obtain rfl | h := List.mem_cons.mp h
    · exact List.mem_cons_self
    · exact List.mem_cons_of_mem x (ih h)

theorem starts_map (g : κ → ι) (items : List κ) (s : Nat) : starts len s (items.map g) =
    (starts (fun x => len (g x)) s items).map fun p => (g p.1, p.2) := by
  induction items generalizing s with
  | nil => rfl
  | cons x rest ih => rw [List.map_cons, starts, ih]; rfl

theorem mem_span {k : Nat} : k ∈ span len p ↔ p.2 ≤ k ∧ k < p.2 + len p.1 := List.mem_range'_1

theorem eq_of_mem_span {k : Nat} (hp : p ∈ starts len s items) (hq : q ∈ starts len s items)
    (hkp : k ∈ span len p) (hkq : k ∈ span len q) : p = q := by
  rw [mem_span] at hkp hkq
  induction items generalizing s with
  | nil => cases hp
  | cons x rest ih =>
    obtain rfl | hp := List.mem_cons.mp hp <;> obtain rfl | hq := List.mem_cons.mp hq
    · rfl
    · have := le_of_mem_starts hq
      dsimp only at hkp
      omega
    · have := le_of_mem_starts hp
      dsimp only at hkq
      omega
    · exact ih hp hq

theorem filter_starts {P : ι × Nat → Prop} [DecidablePred P] {k : Nat}
    (hp : p ∈ starts len s items) (hkp : k ∈ span len p)
    (hP : ∀ q ∈ starts len s items, P q → k ∈ span len q) :
    (starts len s items).filter (fun q => P q) = if P p then [p] else [] := by
  induction items generalizing s with
  | nil => cases hp
  | cons x rest ih =>
    obtain rfl | hp := List.mem_cons.mp hp
    · have hnone : (starts len (s + len x) rest).filter (fun q => P q) = [] := by
        rw [List.filter_eq_nil_iff]
        intro q hq
        have hle := le_of_mem_starts hq
        rw [mem_span] at hkp
        dsimp only at hkp
        simp only [decide_eq_true_eq]
        intro hPq
        have := mem_span.mp (hP q (List.mem_cons_of_mem _ hq) hPq)
        omega
      rw [starts, List.filter_cons, hnone]
      by_cases hPp : P (x, s) <;> simp [hPp]
    · have hfirst : ¬ P (x, s) := by
        intro hPx
        have hkx := mem_span.mp (hP _ List.mem_cons_self hPx)
        have hle := le_of_mem_starts hp
        rw [mem_span] at hkp
        dsimp only at hkx
        omega
      rw [starts, List.filter_cons, if_neg (by simpa using hfirst)]
      exact ih hp fun q hq => hP q (List.mem_cons_of_mem _ hq)

theorem getElem?_parts {train : List α} {j : Nat} {part : Part α}
    (h : (parts train)[j]? = some part) :
    ∃ x, train[j]? = some x ∧ part = ⟨j = 0, j + 1 = train.length, x⟩ := by
  rw [parts, List.getElem?_mapIdx] at h
  obtain ⟨x, hx, rfl⟩ := Option.map_eq_some_iff.mp h
  exact ⟨x, hx, rfl⟩

theorem getElem?_flatMap_parts {f : ι → List α} {k : Nat} {part : Part α}
    (h : (items.flatMap fun x => parts (f x))[k]? = some part) :
    ∃ p ∈ starts (fun x => (f x).length) s items, ∃ j x, s + k = p.2 + j ∧ (f p.1)[j]? = some x ∧
      part = ⟨j = 0, j + 1 = (f p.1).length, x⟩ := by
  induction items generalizing s k with
  | nil => cases h
  | cons y rest ih =>
    have hlength : (parts (f y)).length = (f y).length := List.length_mapIdx
    rw [List.flatMap_cons] at h
    by_cases hk : k < (f y).length
    · rw [List.getElem?_append_left (by rwa [hlength])] at h
      obtain ⟨x, hx, rfl⟩ := getElem?_parts h
      exact ⟨(y, s), List.mem_cons_self, k, x, rfl, hx, rfl⟩
    · rw [List.getElem?_append_right (by omega), hlength] at h
      obtain ⟨p, hp, j, x, hj, hx, rfl⟩ := ih (s := s + (f y).length) h
      exact ⟨p, List.mem_cons_of_mem _ hp, j, x, by omega, hx, rfl⟩

/-! ## One arrival more -/

theorem concat_suffix {xs ys : List ι} {a b : ι} : xs ++ [a] <:+ ys ++ [b] ↔ xs <:+ ys ∧ a = b := by
  constructor
  · rintro ⟨front, h⟩
    rw [← List.append_assoc] at h
    obtain ⟨hys, hab⟩ := List.append_inj' h rfl
    exact ⟨⟨front, hys⟩, List.head_eq_of_cons_eq hab⟩
  · rintro ⟨⟨front, rfl⟩, rfl⟩
    exact ⟨front, (List.append_assoc front xs [a]).symm⟩

theorem range'_suffix_concat {s n : Nat} {arrivals : List Nat} {k : Nat} :
    List.range' s (n + 1) <:+ arrivals ++ [k] ↔ List.range' s n <:+ arrivals ∧ s + n = k := by
  rw [List.range'_1_concat, concat_suffix]

theorem completed_nil (hlen : ∀ x ∈ items, 0 < len x) : completed len items [] = [] := by
  have hnone : (starts len 0 items).filter (fun p => span len p <:+ []) = [] := by
    rw [List.filter_eq_nil_iff]
    intro p hp
    have hpos := hlen p.1 (mem_of_mem_starts hp)
    simp only [List.suffix_nil, span, List.range'_eq_nil_iff, decide_eq_true_eq]
    omega
  have hinits : ([] : List Nat).inits = [[]] := rfl
  rw [completed, hinits, List.flatMap_singleton, hnone, List.map_nil]

theorem completed_concat (arrivals : List Nat) (k : Nat) :
    completed len items (arrivals ++ [k]) = completed len items arrivals ++
      ((starts len 0 items).filter fun p => span len p <:+ arrivals ++ [k]).map Prod.fst := by
  rw [completed, List.inits_append, List.flatMap_append]
  simp [completed]

theorem completed_step {arrivals : List Nat} {j k : Nat} (hlen : ∀ x ∈ items, 0 < len x)
    (hp : p ∈ starts len 0 items) (hj : j < len p.1) (hk : k = p.2 + j) :
    completed len items (arrivals ++ [k]) = completed len items arrivals ++
      if j + 1 = len p.1 ∧ List.range' p.2 j <:+ arrivals then [p.1] else [] := by
  have hlast : ∀ q ∈ starts len 0 items, span len q <:+ arrivals ++ [k] → k ∈ span len q := by
    intro q hq hsuffix
    obtain ⟨n, hn⟩ : ∃ n, len q.1 = n + 1 :=
      ⟨len q.1 - 1, by have := hlen q.1 (mem_of_mem_starts hq); omega⟩
    rw [span, hn, range'_suffix_concat] at hsuffix
    rw [mem_span]
    omega
  have hthis : span len p <:+ arrivals ++ [k] ↔
      j + 1 = len p.1 ∧ List.range' p.2 j <:+ arrivals := by
    obtain ⟨n, hn⟩ : ∃ n, len p.1 = n + 1 := ⟨len p.1 - 1, by omega⟩
    rw [span, hn, range'_suffix_concat, hk, and_comm]
    constructor
    · rintro ⟨hend, hsuffix⟩
      obtain rfl : n = j := by omega
      exact ⟨rfl, hsuffix⟩
    · rintro ⟨hend, hsuffix⟩
      obtain rfl : n = j := by omega
      exact ⟨rfl, hsuffix⟩
  have hkp : k ∈ span len p := mem_span.mpr (by omega)
  rw [completed_concat, filter_starts hp hkp hlast, if_congr hthis rfl rfl]
  split_ifs <;> rfl

theorem mem_of_mem_completed {x : ι} {arrivals : List Nat} (h : x ∈ completed len items arrivals) :
    x ∈ items := by
  obtain ⟨before, -, h⟩ := List.mem_flatMap.mp h
  obtain ⟨p, hp, rfl⟩ := List.mem_map.mp h
  exact mem_of_mem_starts (List.mem_filter.mp hp).1

theorem completed_map (g : κ → ι) (items : List κ) (arrivals : List Nat) :
    completed len (items.map g) arrivals =
      (completed (fun x => len (g x)) items arrivals).map g := by
  rw [completed, completed, List.map_flatMap]
  apply List.flatMap_congr
  intro before _
  rw [starts_map, List.filter_map, List.map_map, List.map_map]
  rfl

/-! ## The collector -/

/-- The beginning of a train has arrived in one piece, and nothing behind it. -/
def Begun (f : ι → List α) (items : List ι) (arrivals : List Nat) (front : List α) : Prop :=
  ∃ p ∈ starts (fun x => (f x).length) 0 items, ∃ j, 0 < j ∧ j < (f p.1).length ∧
    List.range' p.2 j <:+ arrivals ∧ front = (f p.1).take j

structure Collector.Knows (m : Nat) (f : ι → List α) (items : List ι) (arrivals : List Nat)
    (c : Collector α) : Prop where
  done : c.done = (completed (fun x => (f x).length) items arrivals).map f
  current : ∀ front, c.current = some front ↔ Begun f items arrivals front
  next : ∀ k, arrivals.getLast? = some k → c.next = (k + 1) % m

variable {f : ι → List α} {m : Nat} {arrivals : List Nat} {c : Collector α}

theorem Collector.knows_start (hf : ∀ x ∈ items, f x ≠ []) : start.Knows m f items [] where
  done := by
    rw [completed_nil fun x hx => List.length_pos_iff.mpr (hf x hx)]
    rfl
  current front := by
    refine iff_of_false (by simp [start]) ?_
    rintro ⟨p, -, j, hj, -, hsuffix, -⟩
    have := hsuffix.length_le
    rw [List.length_range', List.length_nil] at this
    omega
  next k hk := by cases hk

theorem eq_of_mod_eq {a b : Nat} (h : a % m = b % m) (hab : a < b + m) (hba : b < a + m) :
    a = b := by
  wlog hle : a ≤ b
  · exact (this h.symm hba hab (by omega)).symm
  · have hzero := Nat.sub_mod_eq_zero_of_mod_eq h.symm
    rw [Nat.mod_eq_of_lt (by omega)] at hzero
    omega

/-- The collector puts a packet behind the packets of its train that arrived right before it. -/
theorem Collector.Knows.front (h : c.Knows m f items arrivals)
    (hp : p ∈ starts (fun x => (f x).length) 0 items) {j k : Nat} {x : α}
    (hj : j < (f p.1).length) (hk : k = p.2 + j)
    (hclose : ∀ k₀, arrivals.getLast? = some k₀ → k₀ + 1 < k + m ∧ k < k₀ + 1 + m)
    (front : List α) : c.front (k % m, ⟨j = 0, j + 1 = (f p.1).length, x⟩) = some front ↔
      List.range' p.2 j <:+ arrivals ∧ front = (f p.1).take j := by
  rw [Collector.front]
  obtain rfl | hpos := Nat.eq_zero_or_pos j
  · simp [eq_comm]
  · rw [if_neg (by simp; omega)]
    dsimp only
    constructor
    · intro hfront
      split_ifs at hfront with hnumber
      obtain ⟨q, hq, i, hi, hiq, hsuffix, rfl⟩ := (h.current front).mp hfront
      -- the number says that the train in progress leads here
      obtain ⟨i, rfl⟩ : ∃ i', i = i' + 1 := ⟨i - 1, by omega⟩
      have hlast : arrivals.getLast? = some (q.2 + i) := by
        obtain ⟨before, rfl⟩ := hsuffix
        rw [List.range'_1_concat, ← List.append_assoc, List.getLast?_concat]
      have hnext := h.next _ hlast
      have hnear := hclose _ hlast
      rw [hnext] at hnumber
      have hsame : k = q.2 + i + 1 := eq_of_mod_eq hnumber hnear.2 hnear.1
      obtain rfl : p = q := by
        refine eq_of_mem_span (k := k) hp hq (mem_span.mpr ?_) (mem_span.mpr ?_) <;> omega
      obtain rfl : j = i + 1 := by omega
      exact ⟨hsuffix, rfl⟩
    · rintro ⟨hsuffix, rfl⟩
      obtain ⟨i, rfl⟩ : ∃ i, j = i + 1 := ⟨j - 1, by omega⟩
      have hlast : arrivals.getLast? = some (p.2 + i) := by
        obtain ⟨before, rfl⟩ := hsuffix
        rw [List.range'_1_concat, ← List.append_assoc, List.getLast?_concat]
      rw [if_pos (by rw [h.next _ hlast, hk, Nat.add_assoc])]
      exact (h.current _).mpr ⟨p, hp, i + 1, hpos, hj, hsuffix, rfl⟩

theorem begun_concat (hp : p ∈ starts (fun x => (f x).length) 0 items) {j k : Nat}
    (hj : j < (f p.1).length) (hk : k = p.2 + j) (front : List α) :
    Begun f items (arrivals ++ [k]) front ↔ j + 1 < (f p.1).length ∧
      List.range' p.2 j <:+ arrivals ∧ front = (f p.1).take (j + 1) := by
  constructor
  · rintro ⟨q, hq, i, hi, hiq, hsuffix, rfl⟩
    obtain ⟨i, rfl⟩ : ∃ i', i = i' + 1 := ⟨i - 1, by omega⟩
    obtain ⟨hsuffix, hend⟩ := range'_suffix_concat.mp hsuffix
    obtain rfl : p = q := by
      refine eq_of_mem_span (k := k) hp hq (mem_span.mpr ?_) (mem_span.mpr ?_) <;> omega
    obtain rfl : j = i := by omega
    exact ⟨hiq, hsuffix, rfl⟩
  · rintro ⟨hlt, hsuffix, rfl⟩
    exact ⟨p, hp, j + 1, by omega, hlt, range'_suffix_concat.mpr ⟨hsuffix, hk.symm⟩, rfl⟩

theorem Collector.Knows.step (h : c.Knows m f items arrivals) (hf : ∀ x ∈ items, f x ≠ [])
    {k : Nat} {packet : Nat × Part α} (hpacket : (packets m f items)[k]? = some packet)
    (hclose : ∀ k₀, arrivals.getLast? = some k₀ → k₀ + 1 < k + m ∧ k < k₀ + 1 + m) :
    (c.step m packet).Knows m f items (arrivals ++ [k]) := by
  rw [packets, List.getElem?_mapIdx] at hpacket
  obtain ⟨part, hpart, rfl⟩ := Option.map_eq_some_iff.mp hpacket
  obtain ⟨p, hp, j, x, hk, hx, rfl⟩ := getElem?_flatMap_parts (s := 0) hpart
  rw [Nat.zero_add] at hk
  have hj : j < (f p.1).length := (List.getElem?_eq_some_iff.mp hx).1
  have htake : (f p.1).take j ++ [x] = (f p.1).take (j + 1) := by
    rw [List.take_add_one, hx]
    rfl
  have hfront := h.front (x := x) hp hj hk hclose
  have hnext : (k % m + 1) % m = (k + 1) % m := by rw [Nat.mod_add_mod]
  have hcompleted : completed (fun x => (f x).length) items (arrivals ++ [k]) =
      completed (fun x => (f x).length) items arrivals ++
        if j + 1 = (f p.1).length ∧ List.range' p.2 j <:+ arrivals then [p.1] else [] :=
    completed_step (fun x hx => List.length_pos_iff.mpr (hf x hx)) hp hj hk
  have hbegun (front : List α) : Begun f items (arrivals ++ [k]) front ↔ j + 1 < (f p.1).length ∧
      List.range' p.2 j <:+ arrivals ∧ front = (f p.1).take (j + 1) :=
    begun_concat hp hj hk front
  rw [Collector.step]
  by_cases hsuffix : List.range' p.2 j <:+ arrivals
  · rw [(hfront _).mpr ⟨hsuffix, rfl⟩]
    dsimp only
    rw [htake, hnext]
    by_cases hlast : j + 1 = (f p.1).length
    · -- the train is complete
      rw [if_pos (by simpa using hlast)]
      refine ⟨?_, fun front => iff_of_false (by simp) ?_, ?_⟩
      · rw [hcompleted, if_pos ⟨hlast, hsuffix⟩, h.done, List.map_append, hlast, List.take_length]
        rfl
      · rw [hbegun]
        omega
      · simp
    · rw [if_neg (by simpa using hlast)]
      refine ⟨?_, fun front => ?_, ?_⟩
      · rw [hcompleted, if_neg fun hend => hlast hend.1, List.append_nil]
        exact h.done
      · rw [hbegun, Option.some_inj, eq_comm]
        exact ⟨fun heq => ⟨by omega, hsuffix, heq⟩, fun hrest => hrest.2.2⟩
      · simp
  · -- something in front of the packet is missing
    have hnone : c.front (k % m, ⟨j = 0, j + 1 = (f p.1).length, x⟩) = none := by
      rw [Option.eq_none_iff_forall_ne_some]
      exact fun front hsome => hsuffix ((hfront front).mp hsome).1
    rw [hnone]
    dsimp only
    rw [hnext]
    refine ⟨?_, fun front => iff_of_false (by simp) ?_, ?_⟩
    · rw [hcompleted, if_neg fun hend => hsuffix hend.2, List.append_nil]
      exact h.done
    · rw [hbegun]
      exact fun hrest => hsuffix hrest.2.1
    · simp

theorem knows_collect (hf : ∀ x ∈ items, f x ≠ [])
    (harrivals : ∀ k ∈ arrivals, k < (packets m f items).length) (hclose : Close m arrivals) :
    (Collector.collect m (arrivals.filterMap fun k => (packets m f items)[k]?)).Knows m f items
      arrivals := by
  induction arrivals using List.reverseRecOn with
  | nil => exact Collector.knows_start hf
  | append_singleton arrivals k ih =>
    obtain ⟨hbefore, -, hlast⟩ := List.isChain_append.mp hclose
    have hk := harrivals k (List.mem_append_right _ (List.mem_singleton_self k))
    have hpacket : (packets m f items)[k]? = some (packets m f items)[k] :=
      List.getElem?_eq_getElem hk
    rw [List.filterMap_append, Collector.collect, List.foldl_append, ← Collector.collect]
    simp only [List.filterMap_cons, hpacket, List.filterMap_nil, List.foldl_cons, List.foldl_nil]
    refine (ih (fun l hl => harrivals l (List.mem_append_left _ hl)) hbefore).step hf hpacket ?_
    exact fun k₀ hk₀ => hlast k₀ hk₀ k rfl

/-- **What arrives in one piece is put together**, and nothing else, whatever the network does with
the packets. -/
theorem done_collect (hf : ∀ x ∈ items, f x ≠ [])
    (harrivals : ∀ k ∈ arrivals, k < (packets m f items).length) (hclose : Close m arrivals) :
    (Collector.collect m (arrivals.filterMap fun k => (packets m f items)[k]?)).done =
      (completed (fun x => (f x).length) items arrivals).map f :=
  (knows_collect hf harrivals hclose).done

/-! ## A network that only loses packets -/

theorem range'_suffix_of_subset {n : Nat} (hsorted : arrivals.Pairwise (· < ·))
    (hle : ∀ k ∈ arrivals, k < s + n) (hall : ∀ k ∈ List.range' s n, k ∈ arrivals) :
    List.range' s n <:+ arrivals := by
  induction n generalizing arrivals with
  | zero => exact List.nil_suffix
  | succ n ih =>
    have hlast : s + n ∈ arrivals := hall _ (by rw [List.mem_range'_1]; omega)
    obtain rfl | ⟨before, b, rfl⟩ := List.eq_nil_or_concat' arrivals
    · cases hlast
    · rw [List.pairwise_append] at hsorted
      obtain ⟨hsorted, -, hbelow⟩ := hsorted
      have hb := hle b (List.mem_append_right _ (List.mem_singleton_self b))
      have hend : s + n = b := by
        obtain hmem | hmem := List.mem_append.mp hlast
        · have := hbelow _ hmem b (List.mem_singleton_self b)
          omega
        · exact List.mem_singleton.mp hmem
      rw [range'_suffix_concat]
      refine ⟨ih hsorted (fun k hk => ?_) fun k hk => ?_, hend⟩
      · have := hbelow k hk b (List.mem_singleton_self b)
        omega
      · rw [List.mem_range'_1] at hk
        obtain hmem | hmem := List.mem_append.mp (hall k (by rw [List.mem_range'_1]; omega))
        · exact hmem
        · have := List.mem_singleton.mp hmem
          omega

theorem last_mem_span (hpos : 0 < len p.1) : p.2 + len p.1 - 1 ∈ span len p :=
  mem_span.mpr (by omega)

theorem filter_starts_behind (hlen : ∀ x ∈ items, 0 < len x) (hle : ∀ i ∈ arrivals, i < s) :
    (starts len s items).filter (fun p => ∀ i ∈ span len p, i ∈ arrivals) = [] := by
  rw [List.filter_eq_nil_iff]
  intro q hq
  have hstart := le_of_mem_starts hq
  have hpos := hlen q.1 (mem_of_mem_starts hq)
  simp only [decide_eq_true_eq]
  intro hall
  have hlast := hle _ (hall _ (last_mem_span hpos))
  omega

theorem span_concat_iff {k : Nat} (hsorted : (arrivals ++ [k]).Pairwise (· < ·))
    (hle : ∀ i ∈ arrivals ++ [k], i ≤ k) (hsuffix : ¬ span len p <:+ arrivals ++ [k]) :
    (∀ i ∈ span len p, i ∈ arrivals ++ [k]) ↔ ∀ i ∈ span len p, i ∈ arrivals := by
  refine ⟨fun hall => ?_, fun hall i hi => List.mem_append_left _ (hall i hi)⟩
  by_contra hmissing
  apply hsuffix
  refine range'_suffix_of_subset hsorted (fun i hi => ?_) hall
  -- what is missing without the last arrival is that arrival
  simp only [not_forall] at hmissing
  obtain ⟨i', hi', hnot⟩ := hmissing
  obtain hmem | hmem := List.mem_append.mp (hall i' hi')
  · exact absurd hmem hnot
  · have hspan := mem_span.mp hi'
    have hlast := List.mem_singleton.mp hmem
    have hbelow := hle i hi
    omega

theorem arrived_concat (hlen : ∀ x ∈ items, 0 < len x) {k : Nat}
    (hsorted : (arrivals ++ [k]).Pairwise (· < ·)) :
    ((starts len s items).filter fun p => ∀ i ∈ span len p, i ∈ arrivals ++ [k]) =
      ((starts len s items).filter fun p => ∀ i ∈ span len p, i ∈ arrivals) ++
        (starts len s items).filter fun p => span len p <:+ arrivals ++ [k] := by
  have hbelow : ∀ i ∈ arrivals, i < k := fun i hi =>
    (List.pairwise_append.mp hsorted).2.2 i hi k (List.mem_singleton_self k)
  have hle : ∀ i ∈ arrivals ++ [k], i ≤ k := by
    intro i hi
    obtain hi | hi := List.mem_append.mp hi
    · exact (hbelow i hi).le
    · exact (List.mem_singleton.mp hi).le
  induction items generalizing s with
  | nil => rfl
  | cons x rest ih =>
    obtain ⟨hpos, hrest⟩ := List.forall_mem_cons.mp hlen
    have ih := ih (s := s + len x) hrest
    by_cases hsuffix : span len (x, s) <:+ arrivals ++ [k]
    · -- the item ends with this arrival, and the later ones have not begun
      obtain ⟨n, hn⟩ : ∃ n, len x = n + 1 := ⟨len x - 1, by omega⟩
      have hend : s + n = k := by
        rw [span, hn, range'_suffix_concat] at hsuffix
        exact hsuffix.2
      have hnone := filter_starts_behind (s := s + len x) hrest fun i hi => by
        have := hle i hi
        omega
      rw [hnone, eq_comm, List.append_eq_nil_iff] at ih
      have hnot : ¬ ∀ i ∈ span len (x, s), i ∈ arrivals := by
        intro hall
        have hlast := hbelow _ (hall _ (last_mem_span hpos))
        dsimp only at hlast
        omega
      rw [starts, List.filter_cons, List.filter_cons, List.filter_cons, hnone, ih.1, ih.2,
        if_pos (by simpa using fun i hi => List.mem_append.mp (hsuffix.subset hi)),
        if_neg (by simpa using hnot), if_pos (by simpa using hsuffix)]
      rfl
    · rw [starts, List.filter_cons, List.filter_cons, List.filter_cons, ih]
      simp only [decide_eq_true_eq, if_neg hsuffix]
      rw [if_congr (span_concat_iff hsorted hle hsuffix) rfl rfl]
      split_ifs <;> rfl

/-- **If packets are only lost**, the items that are put together are those of which every packet
arrives, in their order. -/
theorem completed_of_sorted (hlen : ∀ x ∈ items, 0 < len x)
    (hsorted : arrivals.Pairwise (· < ·)) :
    completed len items arrivals = arrived len items arrivals := by
  induction arrivals using List.reverseRecOn with
  | nil =>
    have hnone : (starts len 0 items).filter (fun p => ∀ k ∈ span len p, k ∈ ([] : List Nat)) =
        [] := filter_starts_behind hlen fun i hi => absurd hi List.not_mem_nil
    rw [completed_nil hlen, arrived, hnone, List.map_nil]
  | append_singleton arrivals k ih =>
    rw [completed_concat, ih (List.pairwise_append.mp hsorted).1, arrived, arrived,
      arrived_concat hlen hsorted, List.map_append]

end Arrivals

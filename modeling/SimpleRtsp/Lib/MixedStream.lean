import Mathlib.Data.List.Induction
import SimpleRtsp.Lib.Framing
import SimpleRtsp.Lib.MessageStream

/-!
# Messages and frames on one byte stream

Messages and frames may take turns on a stream: where one of them ends the next begins, a frame if
its first byte is the magic byte and a message if not. The `Reader` takes the bytes one by one. It
reads back the items that were written if the length of every frame among them fits in its two
bytes (`read_items`), and no frame that it reads is longer (`length_lt_of_read`). A stream that
breaks off gives the first items of the whole one (`done_of_prefix`).
-/

namespace MessageStream.Reader

variable {size : List (List UInt8) → Nat} {stop : UInt8}

theorem step_ne_start (r : Reader) (b : UInt8) : r.step size stop b ≠ start r.done := by
  have hsettle : ∀ lines bytes, r.settle size lines bytes ≠ start r.done := by
    intro lines bytes h
    rw [settle] at h
    split_ifs at h
    · have hdone := congrArg (fun r : Reader => r.done.length) h
      simp [start] at hdone
    · cases congrArg place h
  intro h
  rw [step] at h
  split at h
  · split_ifs at h
    · cases congrArg place h
    · exact hsettle _ _ h
    · have hplace := congrArg place h
      simp [start] at hplace
    · have hplace := congrArg place h
      simp [start] at hplace
  · exact hsettle _ _ h
  · cases congrArg place h

theorem eq_nil_of_read (r : Reader) {stream : List UInt8}
    (h : r.read size stop stream = start r.done) : stream = [] := by
  induction stream using List.reverseRecOn with
  | nil => rfl
  | append_singleton stream b _ =>
    exfalso
    rw [read_append] at h
    have hlast : (r.read size stop stream).step size stop b = start r.done := h
    have hdone : (r.read size stop stream).done = r.done := by
      have hfirst : r.done <+: (r.read size stop stream).done := r.done_prefix stream
      have hnext : (r.read size stop stream).done <+:
          ((r.read size stop stream).step size stop b).done := done_step _ b
      rw [hlast] at hnext
      exact hnext.eq_of_length_le hfirst.length_le
    rw [← hdone] at hlast
    exact step_ne_start _ b hlast

end MessageStream.Reader

namespace MixedStream

open MessageStream (Message)

inductive Item where
  | message (m : Message)
  | frame (f : UInt8 × List UInt8)
  deriving DecidableEq

def Item.text (magic : UInt8) : Item → List UInt8
  | .message m => m.text
  | .frame f => Framing.frame magic f

/-! ## The reader -/

/-- The frame that some bytes are, if it is complete. -/
def frameOf : List UInt8 → Option (UInt8 × List UInt8)
  | _ :: tag :: hi :: lo :: data =>
    if data.length = hi.toNat * 256 + lo.toNat then some (tag, data) else none
  | _ => none

/-- What has been read, and the item at hand. -/
structure Reader where
  done : List Item
  current : MessageStream.Reader
  deriving DecidableEq

namespace Reader

def start (done : List Item) : Reader := ⟨done, .start []⟩

/-- The item at hand is perhaps complete. -/
def settle (done : List Item) (current : MessageStream.Reader) : Reader :=
  match current with
  | ⟨m :: _, _⟩ => start (done ++ [.message m])
  | ⟨[], .data bytes⟩ =>
    match frameOf bytes with
    | some f => start (done ++ [.frame f])
    | none => ⟨done, current⟩
  | ⟨[], _⟩ => ⟨done, current⟩

variable (size : List (List UInt8) → Nat) (magic : UInt8)

def step (r : Reader) (b : UInt8) : Reader := settle r.done (r.current.step size magic b)

def read (r : Reader) (stream : List UInt8) : Reader := stream.foldl (step size magic) r

end Reader

def Item.Readable (size : List (List UInt8) → Nat) (magic : UInt8) : Item → Prop
  | .message m => m.Readable size magic
  | .frame f => f.2.length < 65536

namespace Reader

variable {size : List (List UInt8) → Nat} {magic : UInt8}

theorem read_append (r : Reader) (s t : List UInt8) :
    r.read size magic (s ++ t) = (r.read size magic s).read size magic t := List.foldl_append

theorem read_cons (r : Reader) (b : UInt8) (s : List UInt8) :
    r.read size magic (b :: s) = (r.step size magic b).read size magic s := rfl

/-! ## What has been read -/

theorem done_settle (done : List Item) (current : MessageStream.Reader) :
    done <+: (settle done current).done := by
  rw [settle.eq_def]
  split
  · exact List.prefix_append _ _
  · split
    · exact List.prefix_append _ _
    · exact List.prefix_refl _
  · exact List.prefix_refl _

/-- **Items stay read.** -/
theorem done_prefix (r : Reader) (stream : List UInt8) :
    r.done <+: (r.read size magic stream).done := by
  induction stream generalizing r with
  | nil => exact List.prefix_refl _
  | cons b stream ih => exact (done_settle _ _).trans (ih (r.step size magic b))

theorem done_of_prefix (r : Reader) {s t : List UInt8} (h : s <+: t) :
    (r.read size magic s).done <+: (r.read size magic t).done := by
  obtain ⟨rest, rfl⟩ := h
  rw [read_append]
  exact done_prefix _ rest

theorem length_lt_of_frameOf {bytes : List UInt8} {f : UInt8 × List UInt8}
    (h : frameOf bytes = some f) : f.2.length < 65536 := by
  rw [frameOf.eq_def] at h
  split at h
  · rename_i hi lo data
    split_ifs at h with hlength
    obtain rfl := Option.some.inj h
    have hhi := hi.toNat_lt
    have hlo := lo.toNat_lt
    show data.length < 65536
    omega
  · cases h

theorem mem_settle {done : List Item} {current : MessageStream.Reader} {f : UInt8 × List UInt8}
    (h : .frame f ∈ (settle done current).done) : .frame f ∈ done ∨ f.2.length < 65536 := by
  rw [settle.eq_def] at h
  split at h
  · obtain h | h := List.mem_append.mp h
    · exact Or.inl h
    · cases List.mem_singleton.mp h
  · split at h
    · rename_i hframe
      obtain h | h := List.mem_append.mp h
      · exact Or.inl h
      · obtain rfl := Item.frame.inj (List.mem_singleton.mp h)
        exact Or.inr (length_lt_of_frameOf hframe)
    · exact Or.inl h
  · exact Or.inl h

theorem length_lt_of_read (stream : List UInt8) (f : UInt8 × List UInt8)
    (h : .frame f ∈ (read size magic (start []) stream).done) : f.2.length < 65536 := by
  suffices hany : ∀ r : Reader, .frame f ∈ (read size magic r stream).done →
      .frame f ∈ r.done ∨ f.2.length < 65536 from (hany _ h).resolve_left List.not_mem_nil
  intro r h'
  clear h
  induction stream generalizing r with
  | nil => exact Or.inl h'
  | cons b stream ih =>
    obtain h | h := ih (r.step size magic b) h'
    · exact mem_settle h
    · exact Or.inr h

/-! ## Messages -/

theorem read_rest {done : List Item} {current : MessageStream.Reader} {m : Message}
    {stream : List UInt8} (hcurrent : current.done = [])
    (h : current.read size magic stream = .start [m]) :
    read size magic ⟨done, current⟩ stream = start (done ++ [.message m]) := by
  induction stream generalizing current with
  | nil =>
    have hdone : current.done = [m] := congrArg MessageStream.Reader.done h
    rw [hcurrent] at hdone
    cases hdone
  | cons b stream ih =>
    rw [MessageStream.Reader.read_cons] at h
    rw [read_cons, step]
    dsimp only
    generalize hnext : current.step size magic b = next at h
    obtain ⟨ms, place⟩ := next
    cases ms with
    | nil =>
      cases place with
      | head lines unfinished => exact ih rfl h
      | body lines bytes => exact ih rfl h
      | data bytes =>
        -- data would not end as a message
        rw [MessageStream.Reader.read_behind] at h
        cases h
    | cons m' ms =>
      have hread := @MessageStream.Reader.done_prefix size magic ⟨m' :: ms, place⟩ stream
      rw [h] at hread
      obtain ⟨rfl, hms⟩ := List.cons_prefix_cons.mp hread
      obtain rfl := List.prefix_nil.mp hms
      obtain rfl := MessageStream.Reader.eq_nil_of_read _ h
      rfl

theorem read_message {m : Message} (h : m.Readable size magic) (done : List Item) :
    read size magic (start done) m.text = start (done ++ [.message m]) :=
  read_rest rfl (MessageStream.Reader.read_message h [])

/-! ## Frames -/

variable {tag hi lo : UInt8}

theorem settle_frame (done : List Item) (front rest : List UInt8)
    (hlength : (front ++ rest).length = hi.toNat * 256 + lo.toNat) :
    read size magic (settle done ⟨[], .data (magic :: tag :: hi :: lo :: front)⟩) rest =
      start (done ++ [.frame (tag, front ++ rest)]) := by
  induction rest generalizing front with
  | nil =>
    rw [List.append_nil] at hlength
    rw [settle, frameOf, if_pos hlength, List.append_nil]
    rfl
  | cons b rest ih =>
    have hshort : front.length ≠ hi.toNat * 256 + lo.toNat := by
      rw [← hlength, List.length_append, List.length_cons]
      omega
    have hsplit : front ++ b :: rest = front ++ [b] ++ rest := by simp
    rw [hsplit] at hlength ⊢
    rw [← ih _ hlength, settle, frameOf, if_neg hshort, read_cons]
    rfl

theorem read_header (done : List Item) {data : List UInt8}
    (hlength : data.length = hi.toNat * 256 + lo.toNat) :
    read size magic (start done) (magic :: tag :: hi :: lo :: data) =
      start (done ++ [.frame (tag, data)]) := by
  have hmagic : (MessageStream.Reader.start []).step size magic magic = ⟨[], .data [magic]⟩ := by
    rw [MessageStream.Reader.start, MessageStream.Reader.step]
    dsimp only
    rw [if_pos ⟨rfl, rfl, rfl⟩]
  have hfirst : (start done).step size magic magic = ⟨done, ⟨[], .data [magic]⟩⟩ := by
    rw [start, step]
    dsimp only
    rw [hmagic]
    rfl
  rw [read_cons, hfirst]
  exact settle_frame done [] data hlength

theorem read_frame (done : List Item) {f : UInt8 × List UInt8} (h : f.2.length < 65536) :
    read size magic (start done) (Framing.frame magic f) = start (done ++ [.frame f]) := by
  have hlength := Framing.length_bytes f.2.length
  rw [Nat.mod_eq_of_lt h] at hlength
  exact read_header done hlength.symm

/-! ## Items -/

theorem read_item {item : Item} (h : item.Readable size magic) (done : List Item) :
    read size magic (start done) (item.text magic) = start (done ++ [item]) := by
  cases item with
  | message m => exact read_message h done
  | frame f => exact read_frame done h

/-- **Round trip.** The items that were written are read. -/
theorem read_items {items : List Item} (h : ∀ item ∈ items, item.Readable size magic)
    (done : List Item) : read size magic (start done) (items.flatMap (Item.text magic)) =
      start (done ++ items) := by
  induction items generalizing done with
  | nil => rw [List.append_nil]; rfl
  | cons item items ih =>
    obtain ⟨hitem, hitems⟩ := List.forall_mem_cons.mp h
    rw [List.flatMap_cons, read_append, read_item hitem, ih hitems, List.append_assoc]
    rfl

end Reader

end MixedStream

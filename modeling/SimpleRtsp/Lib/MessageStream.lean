import Mathlib.Data.List.Basic
import Mathlib.Tactic.Common

/-!
# Messages on a byte stream

A message is a head of lines, an empty line, and a body as long as the head says. A `Reader` takes
the bytes one by one and collects the messages; the first message that would begin with the byte
`stop` ends them, and from there on everything is data of another kind. Since it takes one byte
after the other, it does not matter how the stream is cut. What is written is read back
(`read_messages`), and what has been read stays (`done_prefix`).
-/

namespace MessageStream

structure Message where
  head : List (List UInt8)
  body : List UInt8
  deriving DecidableEq

def line (l : List UInt8) : List UInt8 := l ++ [0x0D, 0x0A]

def headText (head : List (List UInt8)) : List UInt8 := head.flatMap line ++ line []

def Message.text (m : Message) : List UInt8 := headText m.head ++ m.body

/-! ## The reader -/

inductive Place where
  | head (lines : List (List UInt8)) (unfinished : List UInt8)
  | body (lines : List (List UInt8)) (bytes : List UInt8)
  | data (bytes : List UInt8)
  deriving DecidableEq

structure Reader where
  done : List Message
  place : Place
  deriving DecidableEq

/-- A line without the CR at its end. -/
def chomp (l : List UInt8) : List UInt8 := if l.getLast? = some 0x0D then l.dropLast else l

namespace Reader

def start (done : List Message) : Reader := ⟨done, .head [] []⟩

variable (size : List (List UInt8) → Nat) (stop : UInt8)

/-- The head is complete, and so is perhaps the body. -/
def settle (r : Reader) (lines : List (List UInt8)) (bytes : List UInt8) : Reader :=
  if bytes.length = size lines then start (r.done ++ [⟨lines, bytes⟩])
  else { r with place := .body lines bytes }

def step (r : Reader) (b : UInt8) : Reader :=
  match r.place with
  | .head lines unfinished =>
    if lines = [] ∧ unfinished = [] ∧ b = stop then { r with place := .data [b] }
    else if b = 0x0A then
      if chomp unfinished = [] then r.settle size lines []
      else { r with place := .head (lines ++ [chomp unfinished]) [] }
    else { r with place := .head lines (unfinished ++ [b]) }
  | .body lines bytes => r.settle size lines (bytes ++ [b])
  | .data bytes => { r with place := .data (bytes ++ [b]) }

def read (r : Reader) (stream : List UInt8) : Reader := stream.foldl (step size stop) r

end Reader

structure Message.Readable (size : List (List UInt8) → Nat) (stop : UInt8) (m : Message) :
    Prop where
  lines : ∀ l ∈ m.head, l ≠ [] ∧ 0x0A ∉ l
  first : ∀ b ∈ m.text.head?, b ≠ stop
  body : size m.head = m.body.length

/-! ## Reading -/

theorem chomp_append_cr (l : List UInt8) : chomp (l ++ [0x0D]) = l := by
  rw [chomp, List.getLast?_concat, if_pos rfl, List.dropLast_concat]

namespace Reader

variable {size : List (List UInt8) → Nat} {stop : UInt8} (r : Reader)

theorem read_append (s t : List UInt8) :
    r.read size stop (s ++ t) = (r.read size stop s).read size stop t := List.foldl_append

theorem read_cons (b : UInt8) (s : List UInt8) :
    r.read size stop (b :: s) = (r.step size stop b).read size stop s := rfl

/-- The reader is not at a byte that ends the messages. -/
def Inside (stop : UInt8) (lines : List (List UInt8)) (unfinished rest : List UInt8) : Prop :=
  lines ≠ [] ∨ unfinished ≠ [] ∨ ∀ b ∈ rest.head?, b ≠ stop

theorem read_unfinished {done : List Message} {lines : List (List UInt8)}
    {unfinished l : List UInt8} (hl : 0x0A ∉ l)
    (hinside : Inside stop lines unfinished l) :
    read size stop ⟨done, .head lines unfinished⟩ l = ⟨done, .head lines (unfinished ++ l)⟩ := by
  induction l generalizing unfinished with
  | nil => rw [List.append_nil]; rfl
  | cons b l ih =>
    obtain ⟨hb, hrest⟩ := List.ne_and_not_mem_of_not_mem_cons hl
    have hgo : ¬ (lines = [] ∧ unfinished = [] ∧ b = stop) := by
      rintro ⟨rfl, rfl, rfl⟩
      obtain h | h | h := hinside
      · exact h rfl
      · exact h rfl
      · exact h b rfl rfl
    have hstep : step size stop ⟨done, .head lines unfinished⟩ b =
        ⟨done, .head lines (unfinished ++ [b])⟩ := by
      rw [step]
      dsimp only
      rw [if_neg hgo, if_neg (Ne.symm hb)]
    have hinside' : Inside stop lines (unfinished ++ [b]) l := Or.inr (Or.inl (by simp))
    rw [read_cons, hstep, ih hrest hinside', List.append_assoc]
    rfl

theorem read_lineEnd {done : List Message} {lines : List (List UInt8)} {l : List UInt8}
    (hcr : 0x0D ≠ stop ∨ lines ≠ [] ∨ l ≠ []) :
    read size stop ⟨done, .head lines l⟩ [0x0D, 0x0A] =
      if l = [] then settle size ⟨done, .head lines (l ++ [0x0D])⟩ lines []
      else ⟨done, .head (lines ++ [l]) []⟩ := by
  have hgo : ¬ (lines = [] ∧ l = [] ∧ 0x0D = stop) := by
    rintro ⟨rfl, rfl, rfl⟩
    obtain h | h | h := hcr <;> exact h rfl
  have hcrStep : step size stop ⟨done, .head lines l⟩ 0x0D =
      ⟨done, .head lines (l ++ [0x0D])⟩ := by
    rw [step]
    dsimp only
    rw [if_neg hgo, if_neg (by decide)]
  have hlfStep : step size stop ⟨done, .head lines (l ++ [0x0D])⟩ 0x0A =
      if l = [] then settle size ⟨done, .head lines (l ++ [0x0D])⟩ lines []
      else ⟨done, .head (lines ++ [l]) []⟩ := by
    rw [step]
    dsimp only
    rw [if_neg (by simp), if_pos rfl, chomp_append_cr]
  rw [read_cons, hcrStep, read_cons, hlfStep]
  rfl

theorem read_line {done : List Message} {lines : List (List UInt8)} {l : List UInt8}
    (hne : l ≠ []) (hl : 0x0A ∉ l) (hinside : Inside stop lines [] l) :
    read size stop ⟨done, .head lines []⟩ (line l) = ⟨done, .head (lines ++ [l]) []⟩ := by
  rw [line, read_append, read_unfinished hl hinside, List.nil_append,
    read_lineEnd (Or.inr (Or.inr hne)), if_neg hne]

theorem read_lines {done : List Message} {lines ls : List (List UInt8)}
    (hls : ∀ l ∈ ls, l ≠ [] ∧ 0x0A ∉ l) (hinside : Inside stop lines [] (ls.flatMap line)) :
    read size stop ⟨done, .head lines []⟩ (ls.flatMap line) = ⟨done, .head (lines ++ ls) []⟩ := by
  induction ls generalizing lines with
  | nil => rw [List.append_nil]; rfl
  | cons l ls ih =>
    obtain ⟨⟨hne, hl⟩, hrest⟩ := List.forall_mem_cons.mp hls
    have hfirst : Inside stop lines [] l := by
      obtain h | h | h := hinside
      · exact Or.inl h
      · exact absurd rfl h
      · refine Or.inr (Or.inr fun b hb => h b ?_)
        rw [List.flatMap_cons, line, List.append_assoc, List.head?_append, Option.mem_def.mp hb]
        rfl
    have hnext : Inside stop (lines ++ [l]) [] (ls.flatMap line) := Or.inl (by simp)
    rw [List.flatMap_cons, read_append, read_line hne hl hfirst, ih hrest hnext,
      List.append_assoc]
    rfl

theorem read_body {done : List Message} {lines : List (List UInt8)} {bytes rest : List UInt8}
    (hsize : size lines = (bytes ++ rest).length) (r' : Reader) (hdone : r'.done = done) :
    read size stop (settle size r' lines bytes) rest =
      start (done ++ [⟨lines, bytes ++ rest⟩]) := by
  induction rest generalizing bytes r' with
  | nil =>
    rw [List.append_nil] at hsize
    rw [settle, if_pos hsize.symm, List.append_nil, hdone]
    rfl
  | cons b rest ih =>
    have hshort : bytes.length ≠ size lines := by
      rw [hsize, List.length_append, List.length_cons]
      omega
    have hsplit : bytes ++ b :: rest = bytes ++ [b] ++ rest := by simp
    rw [hsplit] at hsize
    rw [settle, if_neg hshort, read_cons, hsplit]
    exact ih hsize { r' with place := .body lines bytes } hdone

theorem read_message {m : Message} (h : m.Readable size stop) (done : List Message) :
    read size stop (start done) m.text = start (done ++ [m]) := by
  have hinside : Inside stop [] [] (m.head.flatMap line) := by
    refine Or.inr (Or.inr fun b hb => h.first b ?_)
    rw [Message.text, headText, List.append_assoc, List.head?_append, Option.mem_def.mp hb]
    rfl
  have hempty : 0x0D ≠ stop ∨ m.head ≠ [] ∨ ([] : List UInt8) ≠ [] := by
    cases hhead : m.head with
    | nil =>
      left
      refine h.first 0x0D ?_
      rw [Message.text, headText, hhead]
      rfl
    | cons l ls => exact Or.inr (Or.inl (List.cons_ne_nil l ls))
  rw [start, Message.text, headText, read_append, read_append, read_lines h.lines hinside,
    List.nil_append, line, List.nil_append, read_lineEnd hempty, if_pos rfl,
    read_body (by rw [h.body, List.nil_append]) _ rfl]
  rfl

/-- **Round trip.** The messages that were written are read. -/
theorem read_messages {ms : List Message} (h : ∀ m ∈ ms, m.Readable size stop)
    (done : List Message) :
    read size stop (start done) (ms.flatMap Message.text) = start (done ++ ms) := by
  induction ms generalizing done with
  | nil => rw [List.append_nil]; rfl
  | cons m ms ih =>
    obtain ⟨hm, hms⟩ := List.forall_mem_cons.mp h
    rw [List.flatMap_cons, read_append, read_message hm, ih hms, List.append_assoc]
    rfl

theorem read_behind (done : List Message) (bytes data : List UInt8) :
    read size stop ⟨done, .data bytes⟩ data = ⟨done, .data (bytes ++ data)⟩ := by
  induction data generalizing bytes with
  | nil => rw [List.append_nil]; rfl
  | cons b data ih =>
    have hstep : step size stop ⟨done, .data bytes⟩ b = ⟨done, .data (bytes ++ [b])⟩ := rfl
    rw [read_cons, hstep, ih, List.append_assoc]
    rfl

theorem read_data (done : List Message) (data : List UInt8) :
    read size stop (start done) (stop :: data) = ⟨done, .data (stop :: data)⟩ := by
  have hstep : step size stop (start done) stop = ⟨done, .data [stop]⟩ := by
    rw [step, start]
    dsimp only
    rw [if_pos ⟨rfl, rfl, rfl⟩]
  rw [read_cons, hstep, read_behind]
  rfl

theorem done_step (b : UInt8) : r.done <+: (r.step size stop b).done := by
  have hsettle : ∀ lines bytes, r.done <+: (r.settle size lines bytes).done := by
    intro lines bytes
    rw [settle]
    split_ifs
    · exact List.prefix_append _ _
    · exact List.prefix_refl _
  rw [step]
  split
  · split_ifs
    · exact List.prefix_refl _
    · exact hsettle _ _
    · exact List.prefix_refl _
    · exact List.prefix_refl _
  · exact hsettle _ _
  · exact List.prefix_refl _

/-- **Messages stay read.** -/
theorem done_prefix (stream : List UInt8) : r.done <+: (r.read size stop stream).done := by
  induction stream generalizing r with
  | nil => exact List.prefix_refl _
  | cons b stream ih => exact (r.done_step b).trans (ih (r.step size stop b))

end Reader

end MessageStream

import SimpleRtsp.Lib.ByteMem
import SimpleRtsp.Lib.RingBuffer

/-!
# The packet queues of a client

Every client has two queues of `MediaPacket_st`, each a block of cells with four counters next to
it (`packet_list`, `packet_list_size`, `pos_list`, `packet_num`, `pos_last_packet`, and the same
names with `_1`). `MediaQueue` is one of them. `increaseClientList`, the enqueue of `sendData` and
the dequeue of `epollLoop` update the counters by hand; `MediaQueue.Is` ties them to a
`RingBuffer`, and on the frames `waiting` in a valid queue the three are growth, push and pop.
-/

namespace SimpleRtsp

inductive MediaE where
  | video
  | audio
  deriving DecidableEq, Repr

/-- `struct MediaPacket_st`; only `size` bytes of `data` mean anything. -/
structure MediaPacket where
  data : Mem
  size : Nat
  type : MediaE

/-- What a packet carries. -/
structure MediaFrame where
  type : MediaE
  bytes : List UInt8
  deriving DecidableEq, Repr

def MediaPacket.frame (p : MediaPacket) : MediaFrame := ⟨p.type, p.data.read 0 p.size⟩

/-- `memcpy` of the bytes, then `size` and `type`. -/
def MediaPacket.store (p : MediaPacket) (f : MediaFrame) : MediaPacket :=
  ⟨p.data.write 0 f.bytes, f.bytes.length, f.type⟩

@[simp] theorem MediaPacket.frame_store (p : MediaPacket) (f : MediaFrame) :
    (p.store f).frame = f := by
  rw [frame, store, Mem.read_write_same]

structure MediaQueue where
  packetList : Option (Nat → MediaPacket)
  packetListSize : Nat
  posList : Nat
  packetNum : Nat
  posLastPacket : Nat

namespace MediaQueue

/-- Without memory, as `initClient` and `clearClient` leave a queue. -/
def null : MediaQueue := ⟨none, 0, 0, 0, 0⟩

/-- With `size` cells from `malloc`, the counters being those of `null`. -/
def alloc (cells : Nat → MediaPacket) (size : Nat) : MediaQueue :=
  { null with packetList := some cells, packetListSize := size }

/-- `realloc` keeps the first `size` cells; the others are whatever the allocator found. -/
def realloc (packetList : Option (Nat → MediaPacket)) (size : Nat) (fresh : Nat → MediaPacket) :
    Nat → MediaPacket := fun i =>
  match packetList with
  | none => fresh i
  | some cells => if i < size then cells i else fresh i

/-- `memmove` of `n` cells from `src` to `dst`. -/
def memmove (cells : Nat → MediaPacket) (dst src n : Nat) : Nat → MediaPacket := fun i =>
  if dst ≤ i ∧ i < dst + n then cells (src + (i - dst)) else cells i

/-- A branch of `increaseClientList`: four more cells when all are used. -/
def increase (fresh : Nat → MediaPacket) (q : MediaQueue) : MediaQueue :=
  if q.packetNum ≥ q.packetListSize then
    { packetList := some (memmove (realloc q.packetList q.packetListSize fresh) (q.posList + 4)
        q.posList (q.packetListSize - q.posList))
      packetListSize := q.packetListSize + 4
      posList := q.posList + 4
      packetNum := q.packetNum
      posLastPacket := q.posLastPacket }
  else q

/-- The enqueue in `sendData`. -/
def put (q : MediaQueue) (f : MediaFrame) : MediaQueue :=
  { q with
    packetList := q.packetList.map fun cells =>
      Function.update cells q.posLastPacket ((cells q.posLastPacket).store f)
    packetNum := q.packetNum + 1
    posLastPacket := if q.posLastPacket + 1 ≥ q.packetListSize then 0 else q.posLastPacket + 1 }

/-- The dequeue in `epollLoop` into the local `node`, which keeps its old bytes behind the
frame's. -/
def take (q : MediaQueue) (node : MediaPacket) : Option (MediaPacket × MediaQueue) :=
  if q.packetNum > 0 ∧ q.posList < q.packetListSize then
    q.packetList.map fun cells =>
      (node.store (cells q.posList).frame,
        { q with
          posList := if q.posList + 1 ≥ q.packetListSize then 0 else q.posList + 1
          packetNum := q.packetNum - 1 })
  else none

/-- The frames in the queue: `packet_num` cells read circularly from `pos_list` on. -/
def waiting (q : MediaQueue) : List MediaFrame :=
  match q.packetList with
  | none => []
  | some cells =>
    (List.range q.packetNum).map fun i => (cells ((q.posList + i) % q.packetListSize)).frame

/-! ## Queues and ring buffers -/

/-- The five fields are those of the ring buffer `r`. -/
structure Is (q : MediaQueue) (r : RingBuffer MediaPacket) : Prop where
  list : q.packetList = some r.cells
  size : q.packetListSize = r.size
  pos : q.posList = r.head
  num : q.packetNum = r.count
  last : q.posLastPacket = r.tail

def Valid (q : MediaQueue) : Prop := ∃ r, q.Is r

theorem Is.waiting {q : MediaQueue} {r : RingBuffer MediaPacket} (h : q.Is r) :
    q.waiting = r.contents.map MediaPacket.frame := by
  simp only [MediaQueue.waiting, h.list, h.num, h.pos, h.size, RingBuffer.contents, List.map_map]
  rfl

theorem Valid.posList_lt {q : MediaQueue} (h : q.Valid) : q.posList < q.packetListSize := by
  obtain ⟨r, h⟩ := h
  rw [h.pos, h.size]
  exact r.head_lt

theorem Valid.posLastPacket_lt {q : MediaQueue} (h : q.Valid) :
    q.posLastPacket < q.packetListSize := by
  obtain ⟨r, h⟩ := h
  rw [h.last, h.size]
  exact r.index_lt r.count

theorem Valid.length_waiting {q : MediaQueue} (h : q.Valid) : q.waiting.length = q.packetNum := by
  obtain ⟨r, h⟩ := h
  rw [h.waiting, List.length_map, r.length_contents, h.num]

theorem valid_alloc (cells : Nat → MediaPacket) (size : Nat) (hsize : 0 < size) :
    (alloc cells size).Valid :=
  ⟨.empty cells size hsize, rfl, rfl, rfl, rfl,
    (RingBuffer.index_zero (.empty cells size hsize)).symm⟩

/-! ## Growth -/

theorem opened_memmove (cells fresh : Nat → MediaPacket) (pos size : Nat) (hpos : pos < size) :
    RingBuffer.Opened cells
      (memmove (realloc (some cells) size fresh) (pos + 4) pos (size - pos)) pos size 4 where
  below i hi := by
    rw [memmove, if_neg (by omega), realloc, if_pos (by omega)]
  above i hi hsize := by
    rw [memmove, if_pos (by omega), realloc, if_pos (by omega)]
    congr 1
    omega

theorem Is.increase {q : MediaQueue} {r : RingBuffer MediaPacket} (h : q.Is r)
    (fresh : Nat → MediaPacket) :
    ∃ r', (q.increase fresh).Is r' ∧ r'.contents = r.contents ∧ r'.count < r'.size := by
  unfold MediaQueue.increase
  split_ifs with hfull
  · have hfull : r.count = r.size := by
      rw [h.num, h.size] at hfull
      exact Nat.le_antisymm r.count_le hfull
    have hopen := opened_memmove r.cells fresh r.head r.size r.head_lt
    refine ⟨r.grow _ 4, ⟨by rw [h.list, h.pos, h.size]; rfl, by rw [h.size]; rfl,
      by rw [h.pos]; rfl, h.num, ?_⟩, RingBuffer.contents_grow hfull hopen, ?_⟩
    · rw [RingBuffer.tail_grow hfull (by decide), h.last]
    · change r.count < r.size + 4
      omega
  · exact ⟨r, h, rfl, by rw [h.num, h.size] at hfull; omega⟩

/-- **Growth.** `increaseClientList` leaves the frames and their order alone, and a free cell. -/
theorem Valid.increase {q : MediaQueue} (h : q.Valid) (fresh : Nat → MediaPacket) :
    (q.increase fresh).Valid ∧ (q.increase fresh).waiting = q.waiting ∧
      (q.increase fresh).packetNum < (q.increase fresh).packetListSize := by
  obtain ⟨r, h⟩ := h
  obtain ⟨r', h', hcontents, hroom⟩ := h.increase fresh
  refine ⟨⟨r', h'⟩, by rw [h'.waiting, hcontents, h.waiting], ?_⟩
  rwa [h'.num, h'.size]

/-! ## Enqueue and dequeue -/

theorem Is.put {q : MediaQueue} {r : RingBuffer MediaPacket} (h : q.Is r)
    (hroom : r.count < r.size) (f : MediaFrame) :
    (q.put f).Is (r.push ((r.cells r.tail).store f) hroom) where
  list := by
    simp only [MediaQueue.put, h.list, h.last]
    rfl
  size := h.size
  pos := h.pos
  num := congrArg (· + 1) h.num
  last := by
    rw [RingBuffer.tail_push]
    simp only [MediaQueue.put, h.last, h.size]
    split_ifs <;> omega

theorem Valid.put {q : MediaQueue} (h : q.Valid) (hroom : q.packetNum < q.packetListSize)
    (f : MediaFrame) : (q.put f).Valid ∧ (q.put f).waiting = q.waiting ++ [f] := by
  obtain ⟨r, h⟩ := h
  rw [h.num, h.size] at hroom
  refine ⟨⟨_, h.put hroom f⟩, ?_⟩
  rw [(h.put hroom f).waiting, RingBuffer.contents_push, List.map_append, ← h.waiting]
  simp

theorem Is.take {q : MediaQueue} {r : RingBuffer MediaPacket} (h : q.Is r) (hsome : 0 < r.count)
    (node : MediaPacket) :
    ∃ q', q.take node = some (node.store (r.cells r.head).frame, q') ∧ q'.Is (r.pop hsome) := by
  have htest : q.packetNum > 0 ∧ q.posList < q.packetListSize := by
    rw [h.num, h.pos, h.size]
    exact ⟨hsome, r.head_lt⟩
  rw [MediaQueue.take, if_pos htest, h.list, h.pos]
  refine ⟨_, rfl, rfl, h.size, ?_, congrArg (· - 1) h.num, ?_⟩
  · rw [RingBuffer.head_pop, h.size]
    dsimp only
    split_ifs <;> omega
  · rw [RingBuffer.tail_pop]
    exact h.last

theorem Valid.take {q : MediaQueue} (h : q.Valid) (node : MediaPacket) :
    match q.take node with
    | some (node', q') => q'.Valid ∧ q.waiting = node'.frame :: q'.waiting
    | none => q.waiting = [] := by
  obtain ⟨r, h⟩ := h
  by_cases hsome : 0 < r.count
  · obtain ⟨q', htake, h'⟩ := h.take hsome node
    rw [htake]
    refine ⟨⟨_, h'⟩, ?_⟩
    rw [h.waiting, h'.waiting, RingBuffer.contents_pop r hsome, List.map_cons,
      MediaPacket.frame_store]
  · have hnone : q.take node = none := by
      rw [MediaQueue.take, if_neg (by rw [h.num]; omega)]
    rw [hnone]
    refine List.length_eq_zero_iff.mp ?_
    rw [h.waiting, List.length_map, r.length_contents]
    omega

@[simp] theorem take_null (node : MediaPacket) : null.take node = none := rfl

end MediaQueue

end SimpleRtsp

import SimpleRtsp.Lib.Transition
import SimpleRtsp.Session.Slot

/-!
# A slot over its lifetimes

`SlotState.step` is everything that happens to one slot of a session: `addClient` or `addSession`
sets it up, the media thread puts frames into its queues, the epoll thread takes them out and
sends them, and at the end the slot is cleared and may be set up again. `put` and `taken` record
the frames of the current lifetime. `queue_fifo` says that each of the two queues is an unbounded
first-in first-out queue: what was taken and what is waiting is what was put.
-/

namespace SimpleRtsp

/-- A slot and the frames put into and taken from each of its queues during the current lifetime. -/
structure SlotState where
  client : Clientinfo
  live : Bool
  put : MediaE → List MediaFrame
  taken : MediaE → List MediaFrame

inductive SlotLabel where
  | start (a : AddArgs) (audioType : AudioE) (mem : Fresh)
  | sendData (m : Delivery) (fresh : MediaE → Nat → MediaPacket)
  | dequeue (fd : Int) (node : MediaPacket)
  | transmit (env : SendEnv) (fd : Int) (node : MediaPacket) (w : Wire)
  | clear

namespace SlotState

def init (session : Option Nat) : SlotState where
  client := { initClient with session := session }
  live := false
  put _ := []
  taken _ := []

/-- What happens to `slot`. A slot is set up when it is free and with the socket of an accepted
connection, and `sendData` is called if `mediaCallBack`'s test passes. -/
def step (slot : Nat) (s : SlotState) : SlotLabel → Option SlotState
  | .start a audioType mem =>
    if s.client.sd = -1 ∧ 0 ≤ a.clientSockFd then
      some ⟨setClient a audioType mem slot s.client, true, fun _ => [], fun _ => []⟩
    else none
  | .sendData m fresh =>
    if s.client.callable then
      some { s with
        client := sendData m.toMediainfo fresh s.client
        put := fun type => s.put type ++ s.client.share m type }
    else none
  | .dequeue fd node =>
    match dequeue s.client fd node with
    | none => some s
    | some (node, client) =>
      some { s with
        client := client
        taken := fun type =>
          s.taken type ++ if s.client.queueOf fd = some type then [node.frame] else [] }
  | .transmit env fd node w =>
    (transmit env s.client fd node w).map fun (_, client, _) => { s with client := client }
  | .clear => some ⟨clearClient s.client, false, fun _ => [], fun _ => []⟩

/-- Between two steps the slot is idle or plays, and a playing slot's queues are in order. -/
structure Ok (slot : Nat) (s : SlotState) : Prop where
  idle : s.live = false → s.client.Idle
  playing : s.live = true → s.client.Playing slot
  inOrder : s.live = true → ∀ type,
    s.taken type ++ (s.client.queue type).waiting = s.put type

variable {slot : Nat}

theorem ok_init (slot : Nat) (session : Option Nat) : (init session).Ok slot where
  idle _ := idle_initClient session
  playing h := by cases h
  inOrder h := by cases h

theorem Ok.start {s : SlotState} (h : s.Ok slot) {a : AddArgs} (hfree : s.client.sd = -1)
    (hsd : 0 ≤ a.clientSockFd) (audioType : AudioE) (mem : Fresh) :
    Ok slot ⟨setClient a audioType mem slot s.client, true, fun _ => [], fun _ => []⟩ := by
  have hidle : s.client.Idle := by
    refine h.idle (Bool.eq_false_iff.mpr fun hlive => ?_)
    have := (h.playing hlive).sd
    omega
  refine ⟨nofun, fun _ => playing_setClient hidle a hsd audioType mem slot, ?_⟩
  intro _ type
  obtain ⟨cells, hqueue⟩ := queue_setClient hidle a audioType mem slot type
  rw [hqueue]
  rfl

theorem Ok.sendData {s : SlotState} (h : s.Ok slot) (hcallable : s.client.callable = true)
    (m : Delivery) (fresh : MediaE → Nat → MediaPacket) :
    Ok slot { s with
      client := SimpleRtsp.sendData m.toMediainfo fresh s.client
      put := fun type => s.put type ++ s.client.share m type } := by
  have hlive : s.live = true := by
    by_contra hdead
    have := (h.idle (Bool.eq_false_iff.mpr hdead)).not_callable
    simp [hcallable] at this
  constructor
  · intro hdead
    simp [hlive] at hdead
  · intro _
    exact (h.playing hlive).sendData m fresh
  · intro _ type
    have hwaiting := (sendData_queue m fresh (h.playing hlive).valid type).2
    dsimp only
    rw [hwaiting, ← List.append_assoc, h.inOrder hlive type]

theorem Ok.dequeue {s : SlotState} (h : s.Ok slot) {fd : Int} {node node' : MediaPacket}
    {client : Clientinfo} (hdequeue : dequeue s.client fd node = some (node', client)) :
    Ok slot { s with
      client := client
      taken := fun type =>
        s.taken type ++ if s.client.queueOf fd = some type then [node'.frame] else [] } := by
  cases hlive : s.live with
  | false =>
    rw [(h.idle hlive).dequeue] at hdequeue
    cases hdequeue
  | true =>
    constructor
    · nofun
    · intro _
      exact (h.playing hlive).dequeue hdequeue
    · intro _ type
      have hqueue := dequeue_queue (h.playing hlive).valid fd node
      rw [hdequeue] at hqueue
      dsimp only
      rw [List.append_assoc, ← hqueue.2 type, h.inOrder hlive type]

theorem Ok.transmit {s : SlotState} (h : s.Ok slot) {env : SendEnv} {fd ret : Int}
    {node : MediaPacket} {w w' : Wire} {client : Clientinfo}
    (htransmit : transmit env s.client fd node w = some (ret, client, w')) :
    Ok slot { s with client := client } := by
  constructor
  · intro hdead
    exact (h.idle hdead).rebuffered (Clientinfo.Rebuffered.transmit htransmit)
  · intro hlive
    exact (h.playing hlive).transmit htransmit
  · intro hlive type
    obtain ⟨packet, packet1, header, rfl⟩ := Clientinfo.Rebuffered.transmit htransmit
    have hsame := h.inOrder hlive type
    cases type <;> exact hsame

theorem Ok.clear (s : SlotState) :
    Ok slot ⟨clearClient s.client, false, fun _ => [], fun _ => []⟩ where
  idle _ := idle_clearClient s.client
  playing h := by cases h
  inOrder h := by cases h

theorem Ok.step {s s' : SlotState} (h : s.Ok slot) {l : SlotLabel}
    (hstep : s.step slot l = some s') : s'.Ok slot := by
  cases l with
  | start a audioType mem =>
    obtain ⟨⟨hfree, hsd⟩, hnext⟩ := Option.ite_none_right_eq_some.mp hstep
    cases hnext
    exact h.start hfree hsd audioType mem
  | sendData m fresh =>
    obtain ⟨hcallable, hnext⟩ := Option.ite_none_right_eq_some.mp hstep
    cases hnext
    exact h.sendData hcallable m fresh
  | dequeue fd node =>
    simp only [SlotState.step] at hstep
    split at hstep
    · cases hstep
      exact h
    · rename_i hdequeue
      cases hstep
      exact h.dequeue hdequeue
  | transmit env fd node w =>
    obtain ⟨⟨ret, client, w'⟩, htransmit, rfl⟩ := Option.map_eq_some_iff.mp hstep
    exact h.transmit htransmit
  | clear =>
    cases hstep
    exact Ok.clear s

/-- A queue that works as an unbounded first-in first-out queue. -/
structure Fifo (s : SlotState) (type : MediaE) : Prop where
  inOrder : s.taken type ++ (s.client.queue type).waiting = s.put type
  taken_prefix : s.taken type <+: s.put type
  length_waiting : (s.client.queue type).waiting.length = (s.client.queue type).packetNum
  head : (s.client.queue type).posList < (s.client.queue type).packetListSize
  tail : (s.client.queue type).posLastPacket < (s.client.queue type).packetListSize
  growth : ∀ fresh, ((s.client.queue type).increase fresh).waiting = (s.client.queue type).waiting

/-- **The queues of a slot.** In every lifetime of a slot, each queue works as an unbounded first-in
first-out queue. -/
theorem queue_fifo (slot : Nat) (session : Option Nat) (s : SlotState)
    (h : Reach (step slot) anyStep (init session) s) (hlive : s.live = true) (type : MediaE) :
    s.Fifo type := by
  have hok : s.Ok slot := h.invariant (ok_init slot session) fun _ _ _ hok _ hstep => hok.step hstep
  have hvalid := (hok.playing hlive).valid type
  have horder := hok.inOrder hlive type
  exact ⟨horder, ⟨_, horder⟩, hvalid.length_waiting, hvalid.posList_lt, hvalid.posLastPacket_lt,
    fun fresh => (hvalid.increase fresh).2.1⟩

/-- Two NAL units for a player, the first of which is taken. -/
def twoUnits : List SlotLabel :=
  [.start (tcpPlayer 7) .aac zeroFresh, .sendData (nalDelivery 1) fun _ _ => zeroPacket,
    .sendData (nalDelivery 2) fun _ _ => zeroPacket, .dequeue 7 zeroPacket]

theorem queue_fifo_twoUnits :
    ∃ s, runs (step 0) (init none) twoUnits = some s ∧
      s.put .video = [⟨.video, [1]⟩, ⟨.video, [2]⟩] ∧ s.taken .video = [⟨.video, [1]⟩] ∧
      s.Fifo .video :=
  ⟨_, rfl, rfl, rfl, queue_fifo 0 none _ (.of_runs twoUnits rfl) rfl .video⟩

end SlotState

end SimpleRtsp

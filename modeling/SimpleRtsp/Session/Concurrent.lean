import SimpleRtsp.Session.Server

/-!
# Concurrent clients

`Conc` is the server with any number of `addClient` calls under way, each between two of its
critical sections, and the epoll thread between two of its own. A step is one critical section of
one of them, or a callback of a media thread; the labels choose who moves, so a run is an
interleaving. `fate` is kept for the statements: what became of the client of every call.

`Moves` says once what a step can do, and `moves_of_step` that it does nothing else. `Sound` always
holds: sessions are in order, and the epoll thread works on a playing client. `Base` holds in every
run in which no `addSession` overwrites a table entry: besides, table and sessions are linked, and
the session the epoll thread is about to delete exists.
-/

namespace SimpleRtsp

/-- An `addClient` call after its first critical section. -/
inductive Call where
  | creating (a : AddArgs) (minFreePos : Nat)
  | counting
  | done (ret : Int)

/-- Where the epoll thread is. -/
inductive Epoll where
  | idle
  /-- it has taken `node` and is sending it -/
  | sending (addr j : Nat) (fd : Int) (node : MediaPacket)
  /-- the result of the send is not positive, the client is about to be cleared; `failed` is kept
  for the statements: a call of the send was refused -/
  | leaving (addr j : Nat) (failed : Bool)
  /-- the client is cleared, `count` is what it left -/
  | left (addr : Nat) (count : Int)
  /-- `delSession(pos)` is called for the session at `addr` -/
  | destroying (addr pos : Nat)
  /-- its media thread is stopped -/
  | deleting (addr pos : Nat)
  | uncounting (clientNum : Int)

/-- What became of the client of an `addClient` call that stored it. -/
inductive Fate where
  | stored (addr j : Nat)
  /-- cleared after a send of its own with a refused call -/
  | sendFailed
  /-- cleared after a send of its own without one -/
  | dropped
  /-- cleared with its session -/
  | tornDown
  deriving DecidableEq

def Wire.failed (w : Wire) : Bool := w.calls.any fun call => call.ret ≤ 0

structure Conc where
  server : Server
  calls : Nat → Option Call
  epoll : Epoll
  fate : Nat → Option Fate

namespace Conc

def init : Conc := ⟨.init, fun _ => none, .idle, fun _ => none⟩

def setCall (c : Conc) (id : Nat) (call : Call) : Conc :=
  { c with calls := Function.update c.calls id (some call) }

def store (c : Conc) (id addr j : Nat) : Conc :=
  { c.setCall id .counting with fate := Function.update c.fate id (some (.stored addr j)) }

/-- The client in a slot is cleared after a send of its own. -/
def leave (c : Conc) (addr j : Nat) (failed : Bool) : Conc :=
  { c with
    fate := fun id =>
      if c.fate id = some (.stored addr j) then some (if failed then .sendFailed else .dropped)
      else c.fate id }

/-- Every client still stored in a session is cleared with it. -/
def tear (c : Conc) (addr : Nat) : Conc :=
  { c with
    fate := fun id =>
      match c.fate id with
      | some (.stored addr' j) => some (if addr' = addr then .tornDown else .stored addr' j)
      | other => other }

inductive Label where
  | lookup (id : Nat) (a : AddArgs) (audioType : AudioE) (mem : Fresh)
  | addSession (id addr : Nat) (audioType : AudioE) (mem : Fresh)
  | count (id : Nat)
  | callback (addr : Nat) (m : Delivery) (fresh : Nat → MediaE → Nat → MediaPacket)
  | event (addr j : Nat) (fd : Int) (node : MediaPacket)
  | transmit (env : SendEnv) (result : Nat → Nat → Int)
  | offline
  | sumDown
  | destroyMedia
  | delSession
  | sumSub

/-! ## The critical sections of `addClient` -/

/-- What the first section leaves. -/
def looked (c : Conc) (id : Nat) (a : AddArgs) : Server.Lookup × Server → Conc
  | (.joined addr j, S) => { c with server := S }.store id addr j
  | (.full, S) => { c with server := S }.setCall id (.done (-1))
  | (.missing pos, S) => { c with server := S }.setCall id (.creating a pos)

/-- A new call of `addClient`, for an accepted connection, runs its first section. -/
def stepLookup (c : Conc) (id : Nat) (a : AddArgs) (audioType : AudioE) (mem : Fresh) :
    Option Conc :=
  if (c.calls id).isNone ∧ 0 ≤ a.clientSockFd then
    some (c.looked id a (c.server.lookup a audioType mem))
  else none

/-- `addSession`, with memory at `addr`, as long as the table is not full. -/
def stepAddSession (c : Conc) (id addr : Nat) (audioType : AudioE) (mem : Fresh) : Option Conc :=
  match c.calls id with
  | some (.creating a pos) =>
    if (c.server.heap addr).isNone ∧ pos < FILEMAX then
      some ({ c with server := c.server.addSession addr pos a audioType mem }.store id addr 0)
    else none
  | _ => none

/-- `sum_client++`. -/
def stepCount (c : Conc) (id : Nat) : Option Conc :=
  match c.calls id with
  | some .counting => some ({ c with server := c.server.addSum 1 }.setCall id (.done 1))
  | _ => none

/-! ## The media thread and the epoll thread -/

def stepCallback (c : Conc) (addr : Nat) (m : Delivery) (fresh : Nat → MediaE → Nat → MediaPacket) :
    Option Conc :=
  (c.server.heap addr).map fun s =>
    { c with server := c.server.setSession addr (s.mediaCallBack m.toMediainfo fresh).1 }

/-- The part of an `epollLoop` turn under the locks. -/
def stepEvent (c : Conc) (addr j : Nat) (fd : Int) (node : MediaPacket) : Option Conc :=
  match c.epoll, c.server.heap addr with
  | .idle, some s =>
    if j < CLIENTMAX ∧ 0 ≤ fd then
      if (s.clientinfo j).events &&& EPOLLOUT = 0 then some c
      else
        match dequeue (s.clientinfo j) fd node with
        | none => some c
        | some (node, client) =>
          some { c with
            server := c.server.setSession addr (s.setSlot j client)
            epoll := if node.size = 0 then .idle else .sending addr j fd node }
    else none
  | _, _ => none

/-- The part without locks. -/
def stepTransmit (c : Conc) (env : SendEnv) (result : Nat → Nat → Int) : Option Conc :=
  match c.epoll with
  | .sending addr j fd node =>
    (c.server.heap addr).bind fun s =>
      (transmit env (s.clientinfo j) fd node ⟨result, []⟩).map fun (ret, client, w) =>
        { c with
          server := c.server.setSession addr (s.setSlot j client)
          epoll := if ret ≤ 0 then .leaving addr j w.failed else .idle }
  | _ => none

/-- The client is cleared under the session's lock. -/
def stepOffline (c : Conc) : Option Conc :=
  match c.epoll with
  | .leaving addr j failed =>
    (c.server.heap addr).map fun s =>
      { c.leave addr j failed with
        server := c.server.setSession addr (s.offline j)
        epoll := .left addr (s.offline j).count }
  | _ => none

/-- `sum_client--`, and the test whether it was the last client. -/
def stepSumDown (c : Conc) : Option Conc :=
  match c.epoll with
  | .left addr count =>
    (c.server.heap addr).map fun s =>
      { c with
        server := c.server.addSum (-1)
        epoll := if count = 0 then .destroying addr s.pos else .idle }
  | _ => none

/-- `destroyMedia(session_arr[pos]->media)`: a crash if the entry is NULL. -/
def stepDestroyMedia (c : Conc) : Option Conc :=
  match c.epoll with
  | .destroying addr pos =>
    (c.server.sessionArr pos).map fun _ => { c with epoll := .deleting addr pos }
  | _ => none

/-- The critical section of `delSession(pos)`. -/
def stepDelSession (c : Conc) : Option Conc :=
  match c.epoll with
  | .deleting _ pos =>
    match c.server.sessionArr pos with
    | none => some { c with epoll := .idle }
    | some addr' =>
      let (clientNum, S) := c.server.delSession pos addr'
      some { c.tear addr' with server := S, epoll := .uncounting clientNum }
  | _ => none

/-- `sum_client -= client_num`. -/
def stepSumSub (c : Conc) : Option Conc :=
  match c.epoll with
  | .uncounting clientNum => some { c with server := c.server.addSum (-clientNum), epoll := .idle }
  | _ => none

def step (c : Conc) : Label → Option Conc
  | .lookup id a audioType mem => c.stepLookup id a audioType mem
  | .addSession id addr audioType mem => c.stepAddSession id addr audioType mem
  | .count id => c.stepCount id
  | .callback addr m fresh => c.stepCallback addr m fresh
  | .event addr j fd node => c.stepEvent addr j fd node
  | .transmit env result => c.stepTransmit env result
  | .offline => c.stepOffline
  | .sumDown => c.stepSumDown
  | .destroyMedia => c.stepDestroyMedia
  | .delSession => c.stepDelSession
  | .sumSub => c.stepSumSub

/-! ## What a step can do -/

/-- The steps, with what each finds and what it leaves. -/
inductive Moves (c : Conc) : Label → Conc → Prop where
  | joined {id : Nat} {a : AddArgs} {audioType : AudioE} {mem : Fresh} {addr j : Nat}
      {s s' : Session} (hsd : 0 ≤ a.clientSockFd) (hs : c.server.heap addr = some s)
      (hjoin : s.join a audioType mem = some (j, s'))
      (hlookup : c.server.lookup a audioType mem = (.joined addr j, c.server.setSession addr s')) :
      Moves c (.lookup id a audioType mem)
        ({ c with server := c.server.setSession addr s' }.store id addr j)
  | full {id : Nat} {a : AddArgs} {audioType : AudioE} {mem : Fresh} :
      Moves c (.lookup id a audioType mem) (c.setCall id (.done (-1)))
  | missing {id : Nat} {a : AddArgs} {audioType : AudioE} {mem : Fresh} {pos : Nat}
      (hsd : 0 ≤ a.clientSockFd)
      (hnone : ∀ i < FILEMAX, ∀ addr, c.server.sessionArr i = some addr →
        c.server.hasPath addr a.pathFilename = false)
      (hfree : pos < FILEMAX → c.server.sessionArr pos = none) :
      Moves c (.lookup id a audioType mem) (c.setCall id (.creating a pos))
  | created {id addr : Nat} {a : AddArgs} {audioType : AudioE} {mem : Fresh} {pos : Nat}
      (hcall : c.calls id = some (.creating a pos)) (hfree : c.server.heap addr = none)
      (hpos : pos < FILEMAX) :
      Moves c (.addSession id addr audioType mem)
        ({ c with server := c.server.addSession addr pos a audioType mem }.store id addr 0)
  | counted {id : Nat} :
      Moves c (.count id) ({ c with server := c.server.addSum 1 }.setCall id (.done 1))
  | served {addr : Nat} {s : Session} {m : Delivery} {fresh : Nat → MediaE → Nat → MediaPacket}
      (hs : c.server.heap addr = some s) :
      Moves c (.callback addr m fresh)
        { c with server := c.server.setSession addr (s.mediaCallBack m.toMediainfo fresh).1 }
  | quiet {addr j : Nat} {fd : Int} {node : MediaPacket} : Moves c (.event addr j fd node) c
  | taken {addr j : Nat} {fd : Int} {node node' : MediaPacket} {s : Session} {client : Clientinfo}
      (hs : c.server.heap addr = some s) (hj : j < CLIENTMAX)
      (hdequeue : dequeue (s.clientinfo j) fd node = some (node', client)) :
      Moves c (.event addr j fd node)
        { c with
          server := c.server.setSession addr (s.setSlot j client)
          epoll := if node'.size = 0 then .idle else .sending addr j fd node' }
  | sent {env : SendEnv} {result : Nat → Nat → Int} {addr j : Nat} {fd ret : Int}
      {node : MediaPacket} {s : Session} {client : Clientinfo} {w : Wire}
      (hepoll : c.epoll = .sending addr j fd node) (hs : c.server.heap addr = some s)
      (htransmit : transmit env (s.clientinfo j) fd node ⟨result, []⟩ = some (ret, client, w)) :
      Moves c (.transmit env result)
        { c with
          server := c.server.setSession addr (s.setSlot j client)
          epoll := if ret ≤ 0 then .leaving addr j w.failed else .idle }
  | cleared {addr j : Nat} {failed : Bool} {s : Session} (hepoll : c.epoll = .leaving addr j failed)
      (hs : c.server.heap addr = some s) :
      Moves c .offline
        { c.leave addr j failed with
          server := c.server.setSession addr (s.offline j)
          epoll := .left addr (s.offline j).count }
  | summed {addr : Nat} {count : Int} {s : Session} (hepoll : c.epoll = .left addr count)
      (hs : c.server.heap addr = some s) :
      Moves c .sumDown
        { c with
          server := c.server.addSum (-1)
          epoll := if count = 0 then .destroying addr s.pos else .idle }
  | stopped {addr pos : Nat} (hepoll : c.epoll = .destroying addr pos) :
      Moves c .destroyMedia { c with epoll := .deleting addr pos }
  | gone {addr pos : Nat} (hepoll : c.epoll = .deleting addr pos)
      (harr : c.server.sessionArr pos = none) :
      Moves c .delSession { c with epoll := .idle }
  | deleted {addr pos addr' : Nat} (hepoll : c.epoll = .deleting addr pos)
      (harr : c.server.sessionArr pos = some addr') :
      Moves c .delSession
        { c.tear addr' with
          server := (c.server.delSession pos addr').2
          epoll := .uncounting (c.server.delSession pos addr').1 }
  | unsummed {clientNum : Int} :
      Moves c .sumSub { c with server := c.server.addSum (-clientNum), epoll := .idle }

theorem moves_lookup {c c' : Conc} {id : Nat} {a : AddArgs} {audioType : AudioE} {mem : Fresh}
    (h : c.stepLookup id a audioType mem = some c') :
    Moves c (.lookup id a audioType mem) c' := by
  obtain ⟨⟨-, hsd⟩, hnext⟩ := Option.ite_none_right_eq_some.mp h
  obtain rfl := Option.some.inj hnext
  obtain ⟨addr, j, s, s', hs, hjoin, hr⟩ | hr | ⟨pos, hnone, hfree, hr⟩ :=
    Server.lookup_cases (rfl : c.server.lookup a audioType mem = _)
  · rw [hr]
    exact .joined hsd hs hjoin hr
  · rw [hr]
    exact .full
  · rw [hr]
    exact .missing hsd hnone hfree

theorem moves_event {c c' : Conc} {addr j : Nat} {fd : Int} {node : MediaPacket}
    (h : c.stepEvent addr j fd node = some c') : Moves c (.event addr j fd node) c' := by
  rw [stepEvent] at h
  split at h
  · rename_i s hepoll hs
    obtain ⟨⟨hj, -⟩, h⟩ := Option.ite_none_right_eq_some.mp h
    split_ifs at h with hmask
    · cases h
      exact .quiet
    · split at h
      · cases h
        exact .quiet
      · rename_i hdequeue
        cases h
        exact .taken hs hj hdequeue
  · cases h

theorem event_fd {c c' : Conc} {addr j : Nat} {fd : Int} {node : MediaPacket}
    (h : c.stepEvent addr j fd node = some c') : 0 ≤ fd := by
  rw [stepEvent] at h
  split at h
  · exact (Option.ite_none_right_eq_some.mp h).1.2
  · exact absurd h (by simp)

theorem moves_of_step {c c' : Conc} {l : Label} (h : c.step l = some c') : Moves c l c' := by
  cases l with
  | lookup id a audioType mem => exact moves_lookup h
  | addSession id addr audioType mem =>
    simp only [step, stepAddSession] at h
    split at h
    · rename_i a pos hcall
      obtain ⟨⟨hfree, hpos⟩, hnext⟩ := Option.ite_none_right_eq_some.mp h
      cases hnext
      exact .created hcall (Option.isNone_iff_eq_none.mp hfree) hpos
    · cases h
  | count id =>
    simp only [step, stepCount] at h
    split at h
    · cases h
      exact .counted
    · cases h
  | callback addr m fresh =>
    obtain ⟨s, hs, rfl⟩ := Option.map_eq_some_iff.mp h
    exact .served hs
  | event addr j fd node => exact moves_event h
  | transmit env result =>
    simp only [step, stepTransmit] at h
    split at h
    · rename_i addr j fd node hepoll
      obtain ⟨s, hs, h⟩ := Option.bind_eq_some_iff.mp h
      obtain ⟨⟨ret, client, w⟩, htransmit, rfl⟩ := Option.map_eq_some_iff.mp h
      exact .sent hepoll hs htransmit
    · cases h
  | offline =>
    simp only [step, stepOffline] at h
    split at h
    · rename_i hepoll
      obtain ⟨s, hs, rfl⟩ := Option.map_eq_some_iff.mp h
      exact .cleared hepoll hs
    · cases h
  | sumDown =>
    simp only [step, stepSumDown] at h
    split at h
    · rename_i hepoll
      obtain ⟨s, hs, rfl⟩ := Option.map_eq_some_iff.mp h
      exact .summed hepoll hs
    · cases h
  | destroyMedia =>
    simp only [step, stepDestroyMedia] at h
    split at h
    · rename_i hepoll
      obtain ⟨_, _, rfl⟩ := Option.map_eq_some_iff.mp h
      exact .stopped hepoll
    · cases h
  | delSession =>
    simp only [step, stepDelSession] at h
    split at h
    · rename_i hepoll
      split at h
      · rename_i harr
        cases h
        exact .gone hepoll harr
      · rename_i harr
        cases h
        exact .deleted hepoll harr
    · cases h
  | sumSub =>
    simp only [step, stepSumSub] at h
    split at h
    · cases h
      exact .unsummed
    · cases h

end Conc

/-! ## Sessions that change under other threads -/

/-- `s'` is `s` some time later: the playing clients still play. -/
structure Session.Evolves (s s' : Session) : Prop where
  pos : s'.pos = s.pos
  filename : s'.filename = s.filename
  playing : ∀ j < CLIENTMAX, (s.clientinfo j).Playing j → (s'.clientinfo j).Playing j

namespace Session

theorem Evolves.join {s s' : Session} {j : Nat} {a : AddArgs} {audioType : AudioE} {mem : Fresh}
    (hjoin : s.join a audioType mem = some (j, s')) : s.Evolves s' := by
  obtain ⟨hpos, hname, -⟩ := join_frame hjoin
  obtain ⟨-, hfree, rfl⟩ := join_some hjoin
  refine ⟨hpos, hname, fun i _ hplaying => ?_⟩
  have hij : i ≠ j := by
    rintro rfl
    have := hplaying.sd
    omega
  simpa only [setSlot_of_ne s _ hij] using hplaying

theorem Evolves.callback {s : Session} (h : s.Ok) (m : Delivery)
    (fresh : Nat → MediaE → Nat → MediaPacket) :
    s.Evolves (s.mediaCallBack m.toMediainfo fresh).1 := by
  rw [mediaCallBack_eq h]
  refine ⟨rfl, rfl, fun j _ hplaying => ?_⟩
  simp only [served]
  split_ifs
  · exact hplaying.sendData m (fresh j)
  · exact hplaying

theorem Evolves.setSlot (s : Session) {j : Nat} {client : Clientinfo} (hclient : client.Playing j) :
    s.Evolves (s.setSlot j client) := by
  refine ⟨rfl, rfl, fun i _ hplaying => ?_⟩
  by_cases hij : i = j
  · subst hij
    rwa [setSlot_self]
  · rwa [setSlot_of_ne s client hij]

end Session

/-- A client plays in slot `j` of the session at `addr`. -/
def Server.Plays (S : Server) (addr j : Nat) : Prop :=
  ∃ s, S.heap addr = some s ∧ j < CLIENTMAX ∧ (s.clientinfo j).Playing j

/-- There is a session at `addr`, at position `pos`. -/
def Server.Has (S : Server) (addr pos : Nat) : Prop := ∃ s, S.heap addr = some s ∧ s.pos = pos

namespace Server

variable {S : Server}

theorem Plays.setSession {addr addr' j : Nat} {s s' : Session} (h : S.Plays addr' j)
    (hs : S.heap addr = some s) (hevolves : s.Evolves s') :
    (S.setSession addr s').Plays addr' j := by
  obtain ⟨s₁, hs₁, hj, hplaying⟩ := h
  by_cases haddr : addr' = addr
  · subst haddr
    rw [hs] at hs₁
    cases hs₁
    exact ⟨s', by rw [setSession_heap, if_pos rfl], hj, hevolves.playing j hj hplaying⟩
  · exact ⟨s₁, by rw [setSession_heap, if_neg haddr, hs₁], hj, hplaying⟩

theorem Has.setSession {addr addr' pos : Nat} {s s' : Session} (h : S.Has addr' pos)
    (hs : S.heap addr = some s) (hpos : s'.pos = s.pos) : (S.setSession addr s').Has addr' pos := by
  obtain ⟨s₁, hs₁, hpos₁⟩ := h
  by_cases haddr : addr' = addr
  · subst haddr
    rw [hs] at hs₁
    cases hs₁
    exact ⟨s', by rw [setSession_heap, if_pos rfl], hpos.trans hpos₁⟩
  · exact ⟨s₁, by rw [setSession_heap, if_neg haddr, hs₁], hpos₁⟩

theorem Linked.entry (h : S.Linked) {addr pos : Nat} (hhas : S.Has addr pos) :
    S.sessionArr pos = some addr := by
  obtain ⟨s, hs, rfl⟩ := hhas
  exact h.heap addr s hs

end Server

/-! ## What always holds -/

def Epoll.slot : Epoll → Option (Nat × Nat)
  | .sending addr j _ _ => some (addr, j)
  | .leaving addr j _ => some (addr, j)
  | _ => none

namespace Conc

/-- Sessions are in order, and the epoll thread works on a playing client. -/
structure Sound (c : Conc) : Prop where
  sessions : ∀ addr s, c.server.heap addr = some s → s.Ok
  calls : ∀ id a pos, c.calls id = some (.creating a pos) → 0 ≤ a.clientSockFd
  busy : ∀ addr j, c.epoll.slot = some (addr, j) → c.server.Plays addr j

theorem sound_init : init.Sound where
  sessions _ _ h := by cases h
  calls _ _ _ h := by cases h
  busy _ _ h := by cases h

theorem setCall_calls (c : Conc) (id : Nat) (call : Call) (id' : Nat) :
    (c.setCall id call).calls id' = if id' = id then some call else c.calls id' := by
  simp [setCall, Function.update_apply]

theorem calls_setCall {p : AddArgs → Prop} {c : Conc}
    (h : ∀ id a pos, c.calls id = some (.creating a pos) → p a) {id : Nat} {call : Call}
    (hcall : ∀ a pos, call = .creating a pos → p a) (id' : Nat) (a : AddArgs) (pos : Nat)
    (hid : (c.setCall id call).calls id' = some (.creating a pos)) : p a := by
  rw [setCall_calls] at hid
  split_ifs at hid
  · exact hcall a pos (Option.some.inj hid)
  · exact h id' a pos hid

theorem Sound.sessions_setSession {c : Conc} (h : c.Sound) {addr : Nat} {s' : Session}
    (hok : s'.Ok) (addr' : Nat) (s₁ : Session)
    (hs₁ : (c.server.setSession addr s').heap addr' = some s₁) : s₁.Ok := by
  rw [Server.setSession_heap] at hs₁
  split_ifs at hs₁
  · cases hs₁
    exact hok
  · exact h.sessions addr' s₁ hs₁

theorem Sound.playing {c : Conc} (h : c.Sound) {addr j : Nat} {s : Session}
    (hslot : c.epoll.slot = some (addr, j)) (hs : c.server.heap addr = some s) :
    j < CLIENTMAX ∧ (s.clientinfo j).Playing j := by
  obtain ⟨s₁, hs₁, hj, hplaying⟩ := h.busy addr j hslot
  obtain rfl := Option.some.inj (hs.symm.trans hs₁)
  exact ⟨hj, hplaying⟩

theorem Sound.moves {c c' : Conc} {l : Label} (h : c.Sound) (hmoves : Moves c l c') :
    c'.Sound := by
  cases hmoves with
  | @joined id a audioType mem addr j s s' hsd hs hjoin hlookup =>
    exact ⟨h.sessions_setSession ((h.sessions addr s hs).join hsd hjoin),
      calls_setCall h.calls (by simp),
      fun addr' j' hslot => (h.busy addr' j' hslot).setSession hs (Session.Evolves.join hjoin)⟩
  | full => exact ⟨h.sessions, calls_setCall h.calls (by simp), h.busy⟩
  | missing hsd _ _ =>
    refine ⟨h.sessions, calls_setCall h.calls ?_, h.busy⟩
    intro a pos hcall
    obtain ⟨rfl, -⟩ := Call.creating.inj hcall
    exact hsd
  | @created id addr a audioType mem pos hcall hfree hpos =>
    refine ⟨fun addr' s hs => ?_, calls_setCall h.calls (by simp), fun addr' j' hslot => ?_⟩
    · change (c.server.addSession addr pos a audioType mem).heap addr' = some s at hs
      rw [Server.addSession_heap] at hs
      split_ifs at hs
      · obtain rfl := Option.some.inj hs
        exact Session.ok_create addr a audioType mem pos (h.calls id a pos hcall)
      · exact h.sessions addr' s hs
    · obtain ⟨s, hs, hplays⟩ := h.busy addr' j' hslot
      exact ⟨s, Server.addSession_heap_of_some hfree hs, hplays⟩
  | counted => exact ⟨h.sessions, calls_setCall h.calls (by simp), h.busy⟩
  | @served addr s m fresh hs =>
    have hok := h.sessions addr s hs
    have hevolves := Session.Evolves.callback hok m fresh
    refine ⟨h.sessions_setSession ?_, h.calls,
      fun addr' j' hslot => (h.busy addr' j' hslot).setSession hs hevolves⟩
    rw [Session.mediaCallBack_eq hok]
    exact hok.served m fresh _
  | quiet => exact h
  | @taken addr j fd node node' s client hs hj hdequeue =>
    have hok := h.sessions addr s hs
    have hplaying := hok.playing_of_dequeue hj hdequeue
    have hclient := hplaying.dequeue hdequeue
    refine ⟨h.sessions_setSession (hok.setPlaying hj hplaying hclient), h.calls,
      fun addr' j' hslot => ?_⟩
    dsimp only at hslot
    split_ifs at hslot
    · cases hslot
    · obtain ⟨rfl, rfl⟩ := Prod.mk.inj (Option.some.inj hslot)
      exact ⟨_, by rw [Server.setSession_heap, if_pos rfl], hj, by rwa [Session.setSlot_self]⟩
  | @sent env result addr j fd ret node s client w hepoll hs htransmit =>
    have hok := h.sessions addr s hs
    obtain ⟨hj, hplaying⟩ := h.playing (by rw [hepoll]; rfl) hs
    have hclient := hplaying.transmit htransmit
    refine ⟨h.sessions_setSession (hok.setPlaying hj hplaying hclient), h.calls,
      fun addr' j' hslot => ?_⟩
    dsimp only at hslot
    split_ifs at hslot
    · obtain ⟨rfl, rfl⟩ := Prod.mk.inj (Option.some.inj hslot)
      exact ⟨_, by rw [Server.setSession_heap, if_pos rfl], hj, by rwa [Session.setSlot_self]⟩
    · cases hslot
  | @cleared addr j failed s hepoll hs =>
    obtain ⟨hj, hplaying⟩ := h.playing (by rw [hepoll]; rfl) hs
    exact ⟨h.sessions_setSession ((h.sessions addr s hs).offline hj hplaying), h.calls,
      fun _ _ hslot => by cases hslot⟩
  | @summed addr count s hepoll hs =>
    refine ⟨h.sessions, h.calls, fun addr' j' hslot => ?_⟩
    dsimp only at hslot
    split_ifs at hslot
    · cases hslot
    · cases hslot
  | stopped hepoll => exact ⟨h.sessions, h.calls, fun _ _ hslot => by cases hslot⟩
  | gone hepoll harr => exact ⟨h.sessions, h.calls, fun _ _ hslot => by cases hslot⟩
  | @deleted addr pos addr' hepoll harr =>
    refine ⟨fun addr₁ s hs => ?_, h.calls, fun _ _ hslot => by cases hslot⟩
    dsimp only at hs
    rw [Server.delSession_heap] at hs
    split_ifs at hs
    exact h.sessions addr₁ s hs
  | unsummed => exact ⟨h.sessions, h.calls, fun _ _ hslot => by cases hslot⟩

end Conc

/-! ## What holds as long as no entry is overwritten -/

/-- What the epoll thread works on exists. -/
def Epoll.Ok (S : Server) : Epoll → Prop
  | .idle => True
  | .sending addr j _ _ => S.Plays addr j
  | .leaving addr j _ => S.Plays addr j
  | .left addr _ => ∃ pos, S.Has addr pos
  | .destroying addr pos => S.Has addr pos
  | .deleting addr pos => S.Has addr pos
  | .uncounting _ => True

theorem Epoll.Ok.mono {S S' : Server} {e : Epoll} (h : e.Ok S)
    (hplays : ∀ addr j, S.Plays addr j → S'.Plays addr j)
    (hhas : ∀ addr pos, S.Has addr pos → S'.Has addr pos) : e.Ok S' := by
  cases e with
  | idle => trivial
  | sending addr j fd node => exact hplays addr j h
  | leaving addr j failed => exact hplays addr j h
  | left addr count =>
    obtain ⟨pos, h⟩ := h
    exact ⟨pos, hhas addr pos h⟩
  | destroying addr pos => exact hhas addr pos h
  | deleting addr pos => exact hhas addr pos h
  | uncounting n => trivial

namespace Conc

structure Base (c : Conc) : Prop where
  linked : c.server.Linked
  sessions : ∀ addr s, c.server.heap addr = some s → s.Ok
  epoll : c.epoll.Ok c.server
  calls : ∀ id a pos, c.calls id = some (.creating a pos) → 0 ≤ a.clientSockFd

theorem base_init : init.Base := ⟨Server.linked_init, nofun, trivial, nofun⟩

theorem Base.sound {c : Conc} (h : c.Base) : c.Sound where
  sessions := h.sessions
  calls := h.calls
  busy addr j hslot := by
    have hok := h.epoll
    cases hepoll : c.epoll with
    | sending addr' j' fd node =>
      rw [hepoll] at hslot hok
      obtain ⟨rfl, rfl⟩ := Prod.mk.inj (Option.some.inj hslot)
      exact hok
    | leaving addr' j' failed =>
      rw [hepoll] at hslot hok
      obtain ⟨rfl, rfl⟩ := Prod.mk.inj (Option.some.inj hslot)
      exact hok
    | _ =>
      rw [hepoll] at hslot
      cases hslot

theorem Sound.base {c : Conc} (h : c.Sound) (hlinked : c.server.Linked)
    (hepoll : c.epoll.Ok c.server) : c.Base := ⟨hlinked, h.sessions, hepoll, h.calls⟩

theorem Base.epoll_setSession {c : Conc} {e : Epoll} (h : e.Ok c.server) {addr : Nat}
    {s s' : Session} (hs : c.server.heap addr = some s) (hevolves : s.Evolves s') :
    e.Ok (c.server.setSession addr s') :=
  h.mono (fun _ _ hplays => hplays.setSession hs hevolves)
    fun _ _ hhas => hhas.setSession hs hevolves.pos

/-- The base invariant survives every step that does not overwrite a table entry. -/
theorem Base.moves {c c' : Conc} {l : Label} (h : c.Base) (hmoves : Moves c l c')
    (hfreeEntry : ∀ id a pos, c.calls id = some (.creating a pos) →
      (∃ addr audioType mem, l = .addSession id addr audioType mem) →
      c.server.sessionArr pos = none) : c'.Base := by
  have hsound := h.sound.moves hmoves
  cases hmoves with
  | @joined id a audioType mem addr j s s' hsd hs hjoin hlookup =>
    have hevolves := Session.Evolves.join hjoin
    exact hsound.base (h.linked.setSession hs hevolves.pos)
      (Base.epoll_setSession h.epoll hs hevolves)
  | full => exact hsound.base h.linked h.epoll
  | missing => exact hsound.base h.linked h.epoll
  | @created id addr a audioType mem pos hcall hfree hpos =>
    have hentry := hfreeEntry id a pos hcall ⟨addr, audioType, mem, rfl⟩
    refine hsound.base (h.linked.addSession hfree hpos hentry a audioType mem) (h.epoll.mono ?_ ?_)
    · rintro addr' j ⟨s, hs, hplays⟩
      exact ⟨s, Server.addSession_heap_of_some hfree hs, hplays⟩
    · rintro addr' pos' ⟨s, hs, hpos'⟩
      exact ⟨s, Server.addSession_heap_of_some hfree hs, hpos'⟩
  | counted => exact hsound.base (h.linked.addSum 1) h.epoll
  | @served addr s m fresh hs =>
    have hevolves := Session.Evolves.callback (h.sessions addr s hs) m fresh
    exact hsound.base (h.linked.setSession hs hevolves.pos)
      (Base.epoll_setSession h.epoll hs hevolves)
  | quiet => exact h
  | @taken addr j fd node node' s client hs hj hdequeue =>
    refine hsound.base (h.linked.setSession hs rfl) ?_
    have hbusy := hsound.busy addr j
    dsimp only at hbusy ⊢
    split_ifs at hbusy ⊢
    · trivial
    · exact hbusy rfl
  | @sent env result addr j fd ret node s client w hepoll hs htransmit =>
    refine hsound.base (h.linked.setSession hs rfl) ?_
    have hbusy := hsound.busy addr j
    dsimp only at hbusy ⊢
    split_ifs at hbusy ⊢
    · exact hbusy rfl
    · trivial
  | @cleared addr j failed s hepoll hs =>
    exact hsound.base (h.linked.setSession hs (s.offline_frame j).1)
      ⟨s.pos, s.offline j, by rw [Server.setSession_heap, if_pos rfl], rfl⟩
  | @summed addr count s hepoll hs =>
    refine hsound.base (h.linked.addSum _) ?_
    dsimp only
    split_ifs
    · exact ⟨s, hs, rfl⟩
    · trivial
  | @stopped addr pos hepoll =>
    have hhas := h.epoll
    rw [hepoll] at hhas
    exact hsound.base h.linked hhas
  | gone hepoll harr => exact hsound.base h.linked trivial
  | @deleted addr pos addr' hepoll harr => exact hsound.base (h.linked.delSession harr) trivial
  | unsummed => exact hsound.base (h.linked.addSum _) trivial

theorem Base.deleting {c : Conc} (h : c.Base) {addr pos : Nat}
    (hepoll : c.epoll = .deleting addr pos) : c.server.sessionArr pos = some addr := by
  have hhas := h.epoll
  rw [hepoll] at hhas
  exact h.linked.entry hhas

end Conc

end SimpleRtsp

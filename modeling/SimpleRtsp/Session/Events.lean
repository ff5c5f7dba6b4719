import SimpleRtsp.Session.Players

/-!
# The events of a batch

`Poll` is `Conc` with what `epollLoop` goes by: the descriptors registered with epoll, the
`epoll_data` records they carry, and the events of the batch `epoll_wait` returned that are still to
be processed. A record points to a client structure, and nothing takes it back when the client
leaves: `freedRecords` and `freedSessions` are what was freed since the batch was returned, and
`dangling` is set when the epoll thread follows a pointer into that. `client` and `departed` are
kept for the statements: which call stored its client in a slot last, and whose departures were
subtracted from `sum_client`.
-/

namespace SimpleRtsp

/-- `epoll_data_ptr_t`; the client structure is slot `slot` of the session at `addr`. -/
structure EpollData where
  addr : Nat
  slot : Nat
  fd : Int

/-- The descriptors `eventAdd` registers and `eventDel` removes. -/
def Clientinfo.eventFds (c : Clientinfo) : List Int :=
  if c.sd < 0 then []
  else if c.transport = some .rtpOverTcp then [c.sd]
  else
    (if c.udpSdRtp ≠ -1 then [c.udpSdRtp] else []) ++
      if c.udpSdRtp1 ≠ -1 then [c.udpSdRtp1] else []

/-- Records are numbered in the order of their `malloc`s, `next` is the next one. -/
structure Poll where
  conc : Conc
  records : Nat → EpollData
  next : Nat
  interest : Int → Option Nat
  batch : List (Nat × BitVec 32)
  epollData : Nat
  freedRecords : List Nat
  freedSessions : List Nat
  client : Nat → Nat → Nat
  departed : List Nat
  dangling : Bool

namespace Poll

def init : Poll where
  conc := .init
  records _ := ⟨0, 0, 0⟩
  next := 0
  interest _ := none
  batch := []
  epollData := 0
  freedRecords := []
  freedSessions := []
  client _ _ := 0
  departed := []
  dangling := false

/-! ## Registering -/

/-- A new record for `fd`; `epoll_ctl` refuses a descriptor that is not one or is registered. -/
def addFd (addr j : Nat) (s : Poll) (fd : Int) : Poll :=
  { s with
    records := Function.update s.records s.next ⟨addr, j, fd⟩
    next := s.next + 1
    interest :=
      if 0 ≤ fd ∧ s.interest fd = none then Function.update s.interest fd (some s.next)
      else s.interest }

def eventAdd (s : Poll) (addr j : Nat) (fds : List Int) : Poll := fds.foldl (addFd addr j) s

def eventDel (s : Poll) (fds : List Int) : Poll :=
  { s with interest := fun fd => if fd ∈ fds then none else s.interest fd }

def fdsAt (s : Poll) (addr j : Nat) : List Int :=
  (s.conc.server.heap addr).elim [] fun session => (session.clientinfo j).eventFds

/-- The call stored its client in a slot and registers it. -/
def store (s : Poll) (id addr j : Nat) : Poll :=
  { s.eventAdd addr j (s.fdsAt addr j) with
    client := fun addr' j' => if addr' = addr ∧ j' = j then id else s.client addr' j' }

def stored (s : Poll) (id : Nat) : Option (Nat × Nat) → Poll
  | some (addr, j) => s.store id addr j
  | none => s

/-! ## The steps -/

inductive Label where
  | lookup (id : Nat) (a : AddArgs) (audioType : AudioE) (mem : Fresh)
  | addSession (id addr : Nat) (audioType : AudioE) (mem : Fresh)
  | count (id : Nat)
  | callback (addr : Nat) (m : Delivery) (fresh : Nat → MediaE → Nat → MediaPacket)
  /-- `epoll_wait` returns with these events on these descriptors -/
  | wait (events : List (Int × BitVec 32))
  /-- the next event of the batch, up to the unlock -/
  | event (node : MediaPacket)
  | transmit (env : SendEnv) (result : Nat → Nat → Int)
  | offline
  | sumDown
  | destroyMedia
  | delSession
  | sumSub

/-- The epoll thread follows a pointer from before the batch to the session at `addr`. -/
def deref (s : Poll) (addr : Nat) (next : Option Poll) : Option Poll :=
  if addr ∈ s.freedSessions then some { s with dangling := true } else next

/-- It follows `session_arr[pos]`. -/
def derefEntry (s : Poll) (pos : Nat) (next : Option Poll) : Option Poll :=
  if (s.conc.server.sessionArr pos).any fun addr => (s.conc.server.heap addr).isNone then
    some { s with dangling := true }
  else next

/-- A descriptor is reported once, with the record it was registered with. -/
def stepWait (s : Poll) (events : List (Int × BitVec 32)) : Option Poll :=
  match s.conc.epoll, s.batch with
  | .idle, [] =>
    if events.length ≤ CLIENTMAX ∧ (events.map Prod.fst).Nodup then
      (events.mapM fun e => (s.interest e.1).map fun r => (r, e.2)).map fun batch =>
        { s with batch := batch, freedRecords := [], freedSessions := [] }
    else none
  | _, _ => none

def stepEvent (s : Poll) (node : MediaPacket) : Option Poll :=
  match s.conc.epoll, s.batch with
  | .idle, (r, events) :: rest =>
    if r ∈ s.freedRecords then some { s with dangling := true }
    else if events &&& EPOLLOUT = 0 then some { s with batch := rest, epollData := r }
    else
      let d := s.records r
      s.deref d.addr ((s.conc.stepEvent d.addr d.slot d.fd node).map fun c =>
        { s with conc := c, batch := rest, epollData := r })
  | _, _ => none

def stepTransmit (s : Poll) (env : SendEnv) (result : Nat → Nat → Int) : Option Poll :=
  match s.conc.epoll with
  | .sending addr _ _ _ =>
    s.deref addr ((s.conc.stepTransmit env result).map fun c => { s with conc := c })
  | _ => none

/-- `eventDel`, `free(epoll_data)`, and the client's departure in its session. -/
def stepOffline (s : Poll) : Option Poll :=
  match s.conc.epoll with
  | .leaving addr j _ =>
    s.deref addr (s.conc.stepOffline.map fun c =>
      { s.eventDel (s.fdsAt addr j) with
        conc := c
        freedRecords := s.epollData :: s.freedRecords
        departed := s.departed ++ [s.client addr j] })
  | _ => none

def stepSumDown (s : Poll) : Option Poll :=
  match s.conc.epoll with
  | .left addr _ => s.deref addr (s.conc.stepSumDown.map fun c => { s with conc := c })
  | _ => none

def stepDestroyMedia (s : Poll) : Option Poll :=
  match s.conc.epoll with
  | .destroying _ pos =>
    s.derefEntry pos (s.conc.stepDestroyMedia.map fun c => { s with conc := c })
  | _ => none

/-- The slots `delSession` counts in `client_num`. -/
def counted (session : Session) : List Nat :=
  (List.range CLIENTMAX).filter fun j => 0 < (session.clientinfo j).sd

/-- The session at `addr` is freed, after an `eventDel` for each client that is still there. -/
def freeSession (s : Poll) (addr : Nat) (session : Session) (c : Conc) : Poll :=
  { s.eventDel ((counted session).flatMap fun j => (session.clientinfo j).eventFds) with
    conc := c
    freedSessions := addr :: s.freedSessions
    departed := s.departed ++ (counted session).map (s.client addr) }

theorem freeSession_eq (s : Poll) (addr : Nat) (session : Session) (c : Conc) :
    ∃ fds, s.freeSession addr session c = { s.eventDel fds with
      conc := c
      freedSessions := addr :: s.freedSessions
      departed := s.departed ++ (counted session).map (s.client addr) } := ⟨_, rfl⟩

/-- The session `delSession` is about to free. -/
def doomed (s : Poll) : Option Nat :=
  match s.conc.epoll with
  | .deleting _ pos => s.conc.server.sessionArr pos
  | _ => none

def stepDelSession (s : Poll) : Option Poll :=
  match s.conc.epoll with
  | .deleting _ pos =>
    s.derefEntry pos (s.conc.stepDelSession.map fun c =>
      match s.doomed with
      | none => { s with conc := c }
      | some addr =>
        (s.conc.server.heap addr).elim { s with conc := c } fun session =>
          s.freeSession addr session c)
  | _ => none

def step (s : Poll) : Label → Option Poll
  | .lookup id a audioType mem =>
    (s.conc.stepLookup id a audioType mem).map fun c =>
      { s with conc := c }.stored id (s.conc.server.lookup a audioType mem).1.slot
  | .addSession id addr audioType mem =>
    (s.conc.stepAddSession id addr audioType mem).map fun c => { s with conc := c }.store id addr 0
  | .count id => (s.conc.stepCount id).map fun c => { s with conc := c }
  | .callback addr m fresh => (s.conc.stepCallback addr m fresh).map fun c => { s with conc := c }
  | .wait events => s.stepWait events
  | .event node => s.stepEvent node
  | .transmit env result => s.stepTransmit env result
  | .offline => s.stepOffline
  | .sumDown => s.stepSumDown
  | .destroyMedia => s.stepDestroyMedia
  | .delSession => s.stepDelSession
  | .sumSub => s.conc.stepSumSub.map fun c => { s with conc := c }

/-- A writable event of a client of the session at `addr` is still to be processed. -/
def Pending (s : Poll) (addr : Nat) : Prop :=
  ∃ e ∈ s.batch, e.2 &&& EPOLLOUT ≠ 0 ∧ (s.records e.1).addr = addr

instance (s : Poll) (addr : Nat) : Decidable (s.Pending addr) :=
  List.decidableBEx
    (fun e : Nat × BitVec 32 => e.2 &&& EPOLLOUT ≠ 0 ∧ (s.records e.1).addr = addr) s.batch

/-- The session a step frees. -/
def frees (s : Poll) : Label → Option Nat
  | .delSession => s.doomed
  | _ => none

/-- The condition: a session is not freed while an event of a client of it is to be processed. -/
def Spares (s : Poll) (l : Label) : Prop := ∀ addr ∈ s.frees l, ¬ s.Pending addr

instance (s : Poll) (l : Label) : Decidable (s.Spares l) :=
  inferInstanceAs (Decidable (∀ addr ∈ s.frees l, ¬ s.Pending addr))

theorem eventAdd_eq (s : Poll) (addr j : Nat) (fds : List Int) :
    ∃ records next interest, s.eventAdd addr j fds =
      { s with records := records, next := next, interest := interest } ∧
      ∀ r < s.next, records r = s.records r := by
  induction fds generalizing s with
  | nil => exact ⟨s.records, s.next, s.interest, rfl, fun _ _ => rfl⟩
  | cons fd fds ih =>
    obtain ⟨records, next, interest, heq, hold⟩ := ih (addFd addr j s fd)
    refine ⟨records, next, interest, heq, fun r hr => ?_⟩
    rw [hold r (Nat.lt_succ_of_lt hr)]
    exact Function.update_of_ne (by omega) _ _

theorem store_eq (s : Poll) (id addr j : Nat) :
    ∃ records next interest, s.store id addr j = { s with
      records := records
      next := next
      interest := interest
      client := fun addr' j' => if addr' = addr ∧ j' = j then id else s.client addr' j' } ∧
      ∀ r < s.next, records r = s.records r := by
  obtain ⟨records, next, interest, heq, hold⟩ := s.eventAdd_eq addr j (s.fdsAt addr j)
  refine ⟨records, next, interest, ?_, hold⟩
  rw [store, heq]

/-! ## What a step can do -/

/-- The epoll thread is about to follow a pointer into memory that was freed. -/
def Stale (s : Poll) : Prop :=
  (∃ r events rest, s.batch = (r, events) :: rest ∧
    (r ∈ s.freedRecords ∨ events &&& EPOLLOUT ≠ 0 ∧ (s.records r).addr ∈ s.freedSessions)) ∨
  (∃ addr, s.conc.epoll.session = some addr ∧ addr ∈ s.freedSessions) ∨
  ∃ pos addr, s.conc.server.sessionArr pos = some addr ∧ s.conc.server.heap addr = none

/-- The kinds of steps, with what each finds and what it leaves. -/
inductive Does (s : Poll) : Label → Poll → Prop where
  /-- nobody is stored, nobody leaves -/
  | moved {l : Label} {l' : Conc.Label} {c : Conc} (hmoves : Conc.Moves s.conc l' c)
      (hstores : s.conc.storesAt l' = none) (hcalls : ∀ id, s.conc.Settled id → c.Settled id)
      (hidle : s.conc.epoll = .idle → c.epoll = .idle)
      (hsession : ∀ addr, c.epoll.session = some addr → s.conc.epoll.session = some addr) :
      Does s l { s with conc := c }
  | stored {l : Label} {l' : Conc.Label} {c : Conc} {id addr j : Nat}
      (hmoves : Conc.Moves s.conc l' c) (hstores : s.conc.storesAt l' = some (addr, j))
      (hnew : ¬ s.conc.Settled id) (hsettled : c.Settled id)
      (hcalls : ∀ id, s.conc.Settled id → c.Settled id) (hepoll : c.epoll = s.conc.epoll) :
      Does s l ({ s with conc := c }.store id addr j)
  | waited {l : Label} {events : List (Int × BitVec 32)} {batch : List (Nat × BitVec 32)}
      (hidle : s.conc.epoll = .idle) (hempty : s.batch = []) (hnodup : (events.map Prod.fst).Nodup)
      (hbatch : events.mapM (fun e => (s.interest e.1).map fun r => (r, e.2)) = some batch) :
      Does s l { s with batch := batch, freedRecords := [], freedSessions := [] }
  | skipped {l : Label} {r : Nat} {events : BitVec 32} {rest : List (Nat × BitVec 32)}
      (hidle : s.conc.epoll = .idle) (hbatch : s.batch = (r, events) :: rest)
      (hmask : events &&& EPOLLOUT = 0) : Does s l { s with batch := rest, epollData := r }
  | processed {l : Label} {r : Nat} {events : BitVec 32} {rest : List (Nat × BitVec 32)}
      {node : MediaPacket} {c : Conc} (hbatch : s.batch = (r, events) :: rest)
      (hlive : (s.records r).addr ∉ s.freedSessions)
      (hmoves : Conc.Moves s.conc
        (.event (s.records r).addr (s.records r).slot (s.records r).fd node) c) :
      Does s l { s with conc := c, batch := rest, epollData := r }
  | left {l : Label} {addr j : Nat} {failed : Bool} {session : Session} {c : Conc}
      (hepoll : s.conc.epoll = .leaving addr j failed) (hs : s.conc.server.heap addr = some session)
      (hmoves : Conc.Moves s.conc .offline c)
      (hserver : c.server = s.conc.server.setSession addr (session.offline j))
      (hsession : ∀ addr', c.epoll.session = some addr' → addr' = addr)
      (hcalls : c.calls = s.conc.calls) (hlive : addr ∉ s.freedSessions) :
      Does s l { s.eventDel (s.fdsAt addr j) with
        conc := c
        freedRecords := s.epollData :: s.freedRecords
        departed := s.departed ++ [s.client addr j] }
  | freed {addr : Nat} {session : Session} {c : Conc} {fds : List Int}
      (hdoomed : s.doomed = some addr) (hs : s.conc.server.heap addr = some session)
      (hmoves : Conc.Moves s.conc .delSession c)
      (hheap : ∀ addr', c.server.heap addr' = if addr' = addr then none else
        s.conc.server.heap addr')
      (hsession : c.epoll.session = none) (hcalls : c.calls = s.conc.calls) :
      Does s .delSession { s.eventDel fds with
        conc := c
        freedSessions := addr :: s.freedSessions
        departed := s.departed ++ (counted session).map (s.client addr) }
  | dangled {l : Label} (hstale : s.Stale) : Does s l { s with dangling := true }

theorem deref_some {s s' : Poll} {addr : Nat} {next : Option Poll}
    (h : s.deref addr next = some s') :
    addr ∈ s.freedSessions ∧ s' = { s with dangling := true } ∨
      addr ∉ s.freedSessions ∧ next = some s' := by
  rw [deref] at h
  split_ifs at h with hfreed
  · exact Or.inl ⟨hfreed, (Option.some.inj h).symm⟩
  · exact Or.inr ⟨hfreed, h⟩

theorem derefEntry_some {s s' : Poll} {pos : Nat} {next : Option Poll}
    (h : s.derefEntry pos next = some s') :
    s.Stale ∧ s' = { s with dangling := true } ∨
      (∀ addr, s.conc.server.sessionArr pos = some addr → (s.conc.server.heap addr).isSome) ∧
        next = some s' := by
  rw [derefEntry] at h
  split_ifs at h with hany
  · obtain ⟨addr, harr, hnone⟩ := (Option.any_eq_true _ _).mp hany
    refine Or.inl ⟨Or.inr (Or.inr ⟨pos, addr, harr, ?_⟩), (Option.some.inj h).symm⟩
    exact Option.isNone_iff_eq_none.mp hnone
  · refine Or.inr ⟨fun addr harr => ?_, h⟩
    rw [harr] at hany
    exact Option.isSome_iff_ne_none.mpr fun hnone => hany (by simp [hnone])

variable {s s' : Poll} {l : Label}

theorem does_moved (l' : Conc.Label) {c : Conc} (h : s.conc.step l' = some c)
    (hstores : s.conc.storesAt l' = none)
    (hevent : ∀ addr j fd node, l' ≠ .event addr j fd node)
    (hfresh : ∀ id a audioType mem, l' = .lookup id a audioType mem → s.conc.calls id = none) :
    Does s l { s with conc := c } := by
  have hmoves := Conc.moves_of_step h
  exact .moved hmoves hstores (fun id hid => hid.moves hmoves hfresh) (hmoves.idle hevent)
    fun _ hsession => hmoves.session hevent hsession

theorem does_lookup {id : Nat} {a : AddArgs} {audioType : AudioE} {mem : Fresh}
    (h : s.step (.lookup id a audioType mem) = some s') : Does s l s' := by
  obtain ⟨c, hc, rfl⟩ := Option.map_eq_some_iff.mp h
  obtain ⟨⟨hnone, hsd⟩, hnext⟩ := Option.ite_none_right_eq_some.mp hc
  have hfresh : s.conc.calls id = none := Option.isNone_iff_eq_none.mp hnone
  have hmoves : Conc.Moves s.conc (.lookup id a audioType mem) c := Conc.moves_lookup hc
  have hcalls : ∀ id', s.conc.Settled id' → c.Settled id' := fun id' hid => by
    refine hid.moves hmoves fun id₁ a₁ audioType₁ mem₁ hl => ?_
    obtain ⟨rfl, -⟩ := Conc.Label.lookup.inj hl
    exact hfresh
  have hevent : ∀ addr j fd node, Conc.Label.lookup id a audioType mem ≠ .event addr j fd node :=
    fun _ _ _ _ => Conc.Label.noConfusion
  cases hslot : (s.conc.server.lookup a audioType mem).1.slot with
  | none => exact .moved hmoves hslot hcalls (hmoves.idle hevent) fun _ => hmoves.session hevent
  | some slot =>
    obtain ⟨addr, j⟩ := slot
    have hstored : c.Settled id ∧ c.epoll = s.conc.epoll := by
      have hlooked := Option.some.inj hnext
      rcases hr : s.conc.server.lookup a audioType mem with ⟨addr' | _ | pos, S⟩
      · rw [hr] at hlooked
        rw [← hlooked]
        exact ⟨⟨.counting, Function.update_self _ _ _, fun _ _ => Call.noConfusion⟩, rfl⟩
      · rw [hr] at hslot
        cases hslot
      · rw [hr] at hslot
        cases hslot
    refine .stored hmoves hslot ?_ hstored.1 hcalls hstored.2
    rintro ⟨call, hcall, -⟩
    rw [hfresh] at hcall
    cases hcall

theorem does_addSession {id addr : Nat} {audioType : AudioE} {mem : Fresh}
    (h : s.step (.addSession id addr audioType mem) = some s') : Does s l s' := by
  obtain ⟨c, hc, rfl⟩ := Option.map_eq_some_iff.mp h
  have hmoves : Conc.Moves s.conc (.addSession id addr audioType mem) c := Conc.moves_of_step hc
  have hcalls : ∀ id', s.conc.Settled id' → c.Settled id' := fun id' hid =>
    hid.moves hmoves fun _ _ _ _ => Conc.Label.noConfusion
  have hcreated := hmoves
  cases hcreated with
  | created hcall hfree hpos =>
    refine .stored hmoves rfl ?_ ?_ hcalls rfl
    · rintro ⟨call, hcall', hnot⟩
      rw [hcall] at hcall'
      exact hnot _ _ (Option.some.inj hcall').symm
    · exact ⟨.counting, Function.update_self _ _ _, fun _ _ => Call.noConfusion⟩

theorem does_wait {events : List (Int × BitVec 32)} (h : s.stepWait events = some s') :
    Does s l s' := by
  rw [stepWait] at h
  split at h
  · rename_i hepoll hbatch
    obtain ⟨⟨-, hnodup⟩, hnext⟩ := Option.ite_none_right_eq_some.mp h
    obtain ⟨batch, hmapM, rfl⟩ := Option.map_eq_some_iff.mp hnext
    exact .waited hepoll hbatch hnodup hmapM
  · cases h

theorem does_event {node : MediaPacket} (h : s.stepEvent node = some s') : Does s l s' := by
  rw [stepEvent] at h
  split at h
  · rename_i r events rest hepoll hbatch
    split_ifs at h with hfreed hmask
    · obtain rfl := Option.some.inj h
      exact .dangled (Or.inl ⟨r, events, rest, hbatch, Or.inl hfreed⟩)
    · obtain rfl := Option.some.inj h
      exact .skipped hepoll hbatch hmask
    · rcases deref_some h with ⟨hfreed, rfl⟩ | ⟨hlive, hnext⟩
      · exact .dangled (Or.inl ⟨r, events, rest, hbatch, Or.inr ⟨hmask, hfreed⟩⟩)
      · obtain ⟨c, hc, rfl⟩ := Option.map_eq_some_iff.mp hnext
        exact .processed hbatch hlive (Conc.moves_event hc)
  · cases h

theorem does_deref {addr : Nat} {next : Option Poll} (hsession : s.conc.epoll.session = some addr)
    (h : s.deref addr next = some s')
    (hnext : addr ∉ s.freedSessions → next = some s' → Does s l s') : Does s l s' := by
  rcases deref_some h with ⟨hfreed, rfl⟩ | ⟨hlive, h⟩
  · exact .dangled (Or.inr (Or.inl ⟨addr, hsession, hfreed⟩))
  · exact hnext hlive h

theorem does_transmit {env : SendEnv} {result : Nat → Nat → Int}
    (h : s.stepTransmit env result = some s') : Does s l s' := by
  rw [stepTransmit] at h
  split at h
  · rename_i addr j fd node hepoll
    refine does_deref (by rw [hepoll]; rfl) h fun _ hnext => ?_
    obtain ⟨c, hc, rfl⟩ := Option.map_eq_some_iff.mp hnext
    exact does_moved (.transmit env result) hc rfl (fun _ _ _ _ => Conc.Label.noConfusion)
      fun _ _ _ _ => Conc.Label.noConfusion
  · cases h

theorem does_sumDown (h : s.stepSumDown = some s') : Does s l s' := by
  rw [stepSumDown] at h
  split at h
  · rename_i addr count hepoll
    refine does_deref (by rw [hepoll]; rfl) h fun _ hnext => ?_
    obtain ⟨c, hc, rfl⟩ := Option.map_eq_some_iff.mp hnext
    exact does_moved .sumDown hc rfl (fun _ _ _ _ => Conc.Label.noConfusion)
      fun _ _ _ _ => Conc.Label.noConfusion
  · cases h

theorem does_offline (h : s.stepOffline = some s') : Does s l s' := by
  rw [stepOffline] at h
  split at h
  · rename_i addr j failed hepoll
    refine does_deref (by rw [hepoll]; rfl) h fun hlive hnext => ?_
    obtain ⟨c, hc, rfl⟩ := Option.map_eq_some_iff.mp hnext
    have hmoves : Conc.Moves s.conc .offline c := Conc.moves_of_step hc
    have hcleared := hmoves
    cases hcleared with
    | cleared hepoll' hs =>
      obtain ⟨rfl, rfl, rfl⟩ := Epoll.leaving.inj (hepoll.symm.trans hepoll')
      exact .left hepoll hs hmoves rfl (fun _ h => (Option.some.inj h).symm) rfl
        hlive
  · cases h

theorem does_destroyMedia (h : s.stepDestroyMedia = some s') : Does s l s' := by
  rw [stepDestroyMedia] at h
  split at h
  · rcases derefEntry_some h with ⟨hstale, rfl⟩ | ⟨-, hnext⟩
    · exact .dangled hstale
    · obtain ⟨c, hc, rfl⟩ := Option.map_eq_some_iff.mp hnext
      exact does_moved .destroyMedia hc rfl (fun _ _ _ _ => Conc.Label.noConfusion)
        fun _ _ _ _ => Conc.Label.noConfusion
  · cases h

theorem does_delSession (h : s.stepDelSession = some s') : Does s .delSession s' := by
  rw [stepDelSession] at h
  split at h
  · rename_i addr pos hepoll
    rcases derefEntry_some h with ⟨hstale, rfl⟩ | ⟨hsome, hnext⟩
    · exact .dangled hstale
    · obtain ⟨c, hc, rfl⟩ := Option.map_eq_some_iff.mp hnext
      have hmoves : Conc.Moves s.conc .delSession c := Conc.moves_of_step hc
      have hdoomed : s.doomed = s.conc.server.sessionArr pos := by rw [doomed, hepoll]
      have hdeleted := hmoves
      cases hdeleted with
      | gone hepoll' harr =>
        obtain ⟨rfl, rfl⟩ := Epoll.deleting.inj (hepoll.symm.trans hepoll')
        rw [hdoomed, harr]
        exact does_moved .delSession hc rfl (fun _ _ _ _ => Conc.Label.noConfusion)
          fun _ _ _ _ => Conc.Label.noConfusion
      | @deleted _ _ addr' hepoll' harr =>
        obtain ⟨rfl, rfl⟩ := Epoll.deleting.inj (hepoll.symm.trans hepoll')
        obtain ⟨session, hs⟩ := Option.isSome_iff_exists.mp (hsome addr' harr)
        rw [hdoomed, harr]
        dsimp only
        rw [hs]
        exact .freed (hdoomed.trans harr) hs hmoves
          (fun addr₁ => Server.delSession_heap pos addr' addr₁) rfl rfl
  · cases h

theorem does_of_step (h : s.step l = some s') : Does s l s' := by
  cases l with
  | lookup id a audioType mem => exact does_lookup h
  | addSession id addr audioType mem => exact does_addSession h
  | count id =>
    obtain ⟨c, hc, rfl⟩ := Option.map_eq_some_iff.mp h
    exact does_moved (.count id) hc rfl (fun _ _ _ _ => Conc.Label.noConfusion)
      fun _ _ _ _ => Conc.Label.noConfusion
  | callback addr m fresh =>
    obtain ⟨c, hc, rfl⟩ := Option.map_eq_some_iff.mp h
    exact does_moved (.callback addr m fresh) hc rfl
      (fun _ _ _ _ => Conc.Label.noConfusion) fun _ _ _ _ => Conc.Label.noConfusion
  | wait events => exact does_wait h
  | event node => exact does_event h
  | transmit env result => exact does_transmit h
  | offline => exact does_offline h
  | sumDown => exact does_sumDown h
  | destroyMedia => exact does_destroyMedia h
  | delSession => exact does_delSession h
  | sumSub =>
    obtain ⟨c, hc, rfl⟩ := Option.map_eq_some_iff.mp h
    exact does_moved .sumSub hc rfl (fun _ _ _ _ => Conc.Label.noConfusion)
      fun _ _ _ _ => Conc.Label.noConfusion

end Poll

end SimpleRtsp

import SimpleRtsp.Session.Hosted

/-!
# Where the packets go

In every run a slot is held by the client that was put there last, or it is idle and its transport
fields are absent (`Held`), whichever clients it had before. Hence every packet that `epollLoop`
takes from a queue goes where the client in the slot wants it (`Routing.dispatched`).
-/

namespace SimpleRtsp

/-! ## Sessions -/

/-- Every slot is held by whom `occupant` says. -/
def Session.Placed (occupant : Nat → Option AddArgs) (s : Session) : Prop :=
  ∀ j < CLIENTMAX, Held (occupant j) j (s.clientinfo j)

namespace Session.Placed

variable {occupant occupant' : Nat → Option AddArgs} {s s' : Session} {j : Nat}

theorem setSlot (h : s.Placed occupant) {c : Clientinfo}
    (hsame : ∀ i, i ≠ j → occupant' i = occupant i) (hc : Held (occupant' j) j c) :
    (s.setSlot j c).Placed occupant' := by
  intro i hi
  by_cases hij : i = j
  · subst hij
    rw [setSlot_self]
    exact hc
  · rw [setSlot_of_ne s c hij, hsame i hij]
    exact h i hi

theorem hosted (h : s.Placed occupant) (hj : j < CLIENTMAX)
    (hplaying : (s.clientinfo j).Playing j) :
    ∃ a, occupant j = some a ∧ a.Opened ∧ a.Hosted (s.clientinfo j) := by
  rcases h j hj with ⟨hidle, -⟩ | ⟨-, hhosted⟩
  · exact absurd hplaying (not_playing_of_idle hidle j)
  · exact hhosted

theorem free (h : s.Placed occupant) (hj : j < CLIENTMAX) (hfree : (s.clientinfo j).sd = -1) :
    (s.clientinfo j).Idle ∧ (s.clientinfo j).Clear := by
  refine (h j hj).resolve_right ?_
  rintro ⟨hplaying, -⟩
  have := hplaying.sd
  omega

theorem held_setClient {c : Clientinfo} (hidle : c.Idle) (hclear : c.Clear) {a : AddArgs}
    (ha : a.Opened) (hsd : 0 ≤ a.clientSockFd) (audioType : AudioE) (mem : Fresh) (slot : Nat) :
    Held (some a) slot (setClient a audioType mem slot c) :=
  Or.inr ⟨playing_setClient hidle a hsd audioType mem slot, a, rfl, ha,
    hosted_setClient hidle hclear a audioType mem slot⟩

theorem join (h : s.Placed occupant) {a : AddArgs} {audioType : AudioE} {mem : Fresh}
    (ha : a.Opened) (hsd : 0 ≤ a.clientSockFd) (hjoin : s.join a audioType mem = some (j, s')) :
    s'.Placed (Function.update occupant j (some a)) := by
  obtain ⟨hj, hfree, rfl⟩ := join_some hjoin
  obtain ⟨hidle, hclear⟩ := h.free hj hfree
  refine h.setSlot (fun i hij => Function.update_of_ne hij _ _) ?_
  rw [Function.update_self]
  exact held_setClient hidle hclear ha hsd audioType mem j

theorem create (addr pos : Nat) {a : AddArgs} (ha : a.Opened) (hsd : 0 ≤ a.clientSockFd)
    (audioType : AudioE) (mem : Fresh) (occupant : Nat → Option AddArgs) :
    (Session.create addr a audioType mem pos).Placed (Function.update occupant 0 (some a)) := by
  intro j _
  have hidle := idle_initClient (some addr)
  have hclear := clear_initClient (some addr)
  by_cases hj : j = 0
  · subst hj
    rw [Function.update_self]
    exact held_setClient hidle hclear ha hsd audioType mem 0
  · rw [create_clientinfo addr a audioType mem pos hj]
    exact Or.inl ⟨hidle, hclear⟩

theorem callback (h : s.Placed occupant) (hok : s.Ok) (m : Delivery)
    (fresh : Nat → MediaE → Nat → MediaPacket) :
    (s.mediaCallBack m.toMediainfo fresh).1.Placed occupant := by
  intro j hj
  rw [mediaCallBack_eq hok]
  show Held (occupant j) j (if _ then _ else _)
  split_ifs with hserved
  · have hplaying := hok.playing hj hserved.2
    obtain ⟨a, ha, hopened, hhosted⟩ := h.hosted hj hplaying
    exact Or.inr ⟨hplaying.sendData m (fresh j), a, ha, hopened,
      hhosted.sendData hplaying.valid m (fresh j)⟩
  · exact h j hj

theorem offline (h : s.Placed occupant) (hj : j < CLIENTMAX)
    (hplaying : (s.clientinfo j).Playing j) : (s.offline j).Placed occupant := by
  obtain ⟨a, -, hopened, hhosted⟩ := h.hosted hj hplaying
  have hclear : (s.setSlot j (clearClient (s.clientinfo j))).Placed occupant :=
    h.setSlot (fun _ _ => rfl) (Or.inl ⟨idle_clearClient _, hhosted.clear hopened⟩)
  exact hclear

end Session.Placed

/-! ## The system -/

/-- The packet that the epoll thread is sending, and the event it was taken at. -/
def Epoll.sends : Epoll → Option ((Nat × Nat) × Int × MediaPacket)
  | .sending addr j fd node => some ((addr, j), fd, node)
  | _ => none

/-- The server, and who was put into each slot last. -/
structure Routing where
  conc : Conc
  occupant : Nat → Nat → Option AddArgs

namespace Routing

def init : Routing := ⟨.init, fun _ _ => none⟩

/-- The slot a step stores a client in, with the arguments it came with. -/
def stores (s : Routing) : Conc.Label → Option ((Nat × Nat) × AddArgs)
  | .lookup _ a audioType mem =>
    (s.conc.server.lookup a audioType mem).1.slot.map fun slot => (slot, a)
  | .addSession id addr _ _ =>
    match s.conc.calls id with
    | some (.creating a _) => some ((addr, 0), a)
    | _ => none
  | _ => none

def occupy (occupant : Nat → Nat → Option AddArgs) :
    Option ((Nat × Nat) × AddArgs) → Nat → Nat → Option AddArgs
  | none => occupant
  | some ((addr, j), a) =>
    Function.update occupant addr (Function.update (occupant addr) j (some a))

theorem occupy_self (occupant : Nat → Nat → Option AddArgs) (addr j : Nat) (a : AddArgs) :
    occupy occupant (some ((addr, j), a)) addr = Function.update (occupant addr) j (some a) :=
  Function.update_self addr _ occupant

theorem occupy_of_ne (occupant : Nat → Nat → Option AddArgs) {addr addr' : Nat}
    (haddr : addr' ≠ addr) (j : Nat) (a : AddArgs) :
    occupy occupant (some ((addr, j), a)) addr' = occupant addr' :=
  Function.update_of_ne haddr _ occupant

def step (s : Routing) (l : Conc.Label) : Option Routing :=
  (s.conc.step l).map fun c => ⟨c, occupy s.occupant (s.stores l)⟩

/-- The calls of `addClient` are those of `doClientThd`. -/
def Opened (_ : Routing) : Conc.Label → Prop
  | .lookup _ a _ _ => a.Opened
  | _ => True

/-- The server is in order, and what is in a slot is there for the client put there last. -/
structure Ok (s : Routing) : Prop where
  sound : s.conc.Sound
  calls : ∀ id a pos, s.conc.calls id = some (.creating a pos) → a.Opened
  slots : ∀ addr session, s.conc.server.heap addr = some session →
    session.Placed (s.occupant addr)
  sending : ∀ addr j fd node, s.conc.epoll = .sending addr j fd node →
    0 ≤ fd ∧ ∃ a, s.occupant addr j = some a ∧ a.Takes fd node.type

theorem ok_init : init.Ok where
  sound := Conc.sound_init
  calls _ _ _ h := absurd h (by simp [init, Conc.init])
  slots _ _ h := absurd h (by simp [init, Conc.init, Server.init])
  sending _ _ _ _ h := absurd h (by simp [init, Conc.init])

variable {s s' : Routing} {c : Conc} {l : Conc.Label}

theorem Ok.slots_setSession (h : s.Ok) {addr : Nat} {session' : Session}
    (hplaced : session'.Placed (s.occupant addr)) (addr' : Nat) (session₁ : Session)
    (hs₁ : (s.conc.server.setSession addr session').heap addr' = some session₁) :
    session₁.Placed (s.occupant addr') := by
  rw [Server.setSession_heap] at hs₁
  split_ifs at hs₁ with haddr
  · rw [haddr, ← Option.some.inj hs₁]
    exact hplaced
  · exact h.slots addr' session₁ hs₁

theorem Ok.store (h : s.Ok) (hsound : c.Sound)
    (hcalls : ∀ id a pos, c.calls id = some (.creating a pos) → a.Opened) {addr j : Nat}
    {a : AddArgs} {session' : Session}
    (hheap : ∀ addr', c.server.heap addr' =
      if addr' = addr then some session' else s.conc.server.heap addr')
    (hplaced : session'.Placed (Function.update (s.occupant addr) j (some a)))
    (hepoll : c.epoll = s.conc.epoll) (hother : s.conc.epoll.slot ≠ some (addr, j)) :
    Ok ⟨c, occupy s.occupant (some ((addr, j), a))⟩ := by
  refine ⟨hsound, hcalls, fun addr' session hs => ?_, fun addr' j' fd node hsending => ?_⟩
  · dsimp only at hs
    rw [hheap] at hs
    show session.Placed (occupy s.occupant (some ((addr, j), a)) addr')
    split_ifs at hs with haddr
    · rw [haddr, occupy_self, ← Option.some.inj hs]
      exact hplaced
    · rw [occupy_of_ne s.occupant haddr]
      exact h.slots addr' session hs
  · have hsame : s.conc.epoll = .sending addr' j' fd node := hepoll.symm.trans hsending
    obtain ⟨hfd, a', ha', htakes⟩ := h.sending addr' j' fd node hsame
    refine ⟨hfd, a', ?_, htakes⟩
    show occupy s.occupant (some ((addr, j), a)) addr' j' = some a'
    rw [← ha']
    by_cases haddr : addr' = addr
    · have hj : j' ≠ j := by
        rintro rfl
        refine hother ?_
        rw [hsame, haddr]
        rfl
      rw [haddr, occupy_self, Function.update_of_ne hj]
    · rw [occupy_of_ne s.occupant haddr]

theorem Ok.lookup (h : s.Ok) {id : Nat} {a : AddArgs} {audioType : AudioE} {mem : Fresh}
    (ha : a.Opened) (hc : s.conc.stepLookup id a audioType mem = some c) :
    Ok ⟨c, occupy s.occupant (s.stores (.lookup id a audioType mem))⟩ := by
  have hsound : c.Sound := h.sound.moves (Conc.moves_lookup hc)
  obtain ⟨⟨-, hsd⟩, hnext⟩ := Option.ite_none_right_eq_some.mp hc
  obtain rfl := Option.some.inj hnext
  obtain ⟨addr, j, session, session', hs, hjoin, hr⟩ | hr | ⟨pos, -, -, hr⟩ :=
    Server.lookup_cases (rfl : s.conc.server.lookup a audioType mem = _)
  · have hstores : s.stores (.lookup id a audioType mem) = some ((addr, j), a) := by
      rw [stores, hr]
      rfl
    rw [hr] at hsound
    rw [hstores, hr]
    refine h.store hsound (Conc.calls_setCall h.calls (by simp))
      (fun addr' => Server.setSession_heap _ addr session' addr')
      ((h.slots addr session hs).join ha hsd hjoin) rfl fun hslot => ?_
    -- the slot of the client that is being sent to is not free
    obtain ⟨-, hplaying⟩ := h.sound.playing hslot hs
    obtain ⟨-, hfree, -⟩ := Session.join_some hjoin
    have := hplaying.sd
    omega
  · have hstores : s.stores (.lookup id a audioType mem) = none := by
      rw [stores, hr]
      rfl
    rw [hr] at hsound
    rw [hstores, hr]
    exact ⟨hsound, Conc.calls_setCall h.calls (by simp), h.slots, h.sending⟩
  · have hstores : s.stores (.lookup id a audioType mem) = none := by
      rw [stores, hr]
      rfl
    rw [hr] at hsound
    rw [hstores, hr]
    refine ⟨hsound, Conc.calls_setCall h.calls fun a' pos' hcall => ?_, h.slots, h.sending⟩
    obtain ⟨rfl, -⟩ := Call.creating.inj hcall
    exact ha

/-- The steps besides lookups. -/
theorem Ok.moves (h : s.Ok) (hmoves : Conc.Moves s.conc l c)
    (hlookup : ∀ id a audioType mem, l ≠ .lookup id a audioType mem)
    (hevent : ∀ addr j fd node, l = .event addr j fd node → 0 ≤ fd) :
    Ok ⟨c, occupy s.occupant (s.stores l)⟩ := by
  have hsound : c.Sound := h.sound.moves hmoves
  cases hmoves with
  | @joined id a audioType mem => exact absurd rfl (hlookup id a audioType mem)
  | @full id a audioType mem => exact absurd rfl (hlookup id a audioType mem)
  | @missing id a audioType mem => exact absurd rfl (hlookup id a audioType mem)
  | @created id addr a audioType mem pos hcall hfree hpos =>
    have hstores : s.stores (.addSession id addr audioType mem) = some ((addr, 0), a) := by
      rw [stores, hcall]
    rw [hstores]
    refine h.store hsound (Conc.calls_setCall h.calls (by simp))
      (fun addr' => Server.addSession_heap addr')
      (Session.Placed.create addr pos (h.calls id a pos hcall) (h.sound.calls id a pos hcall)
        audioType mem _) rfl fun hslot => ?_
    obtain ⟨session, hs, -⟩ := h.sound.busy addr 0 hslot
    rw [hfree] at hs
    exact absurd hs (by simp)
  | counted => exact ⟨hsound, Conc.calls_setCall h.calls (by simp), h.slots, h.sending⟩
  | @served addr session m fresh hs =>
    exact ⟨hsound, h.calls, h.slots_setSession
      ((h.slots addr session hs).callback (h.sound.sessions addr session hs) m fresh), h.sending⟩
  | quiet => exact ⟨hsound, h.calls, h.slots, h.sending⟩
  | @taken addr j fd node node' session client hs hj hdequeue =>
    have hplaced := h.slots addr session hs
    have hplaying := (h.sound.sessions addr session hs).playing_of_dequeue hj hdequeue
    obtain ⟨a, ha, hopened, hhosted⟩ := hplaced.hosted hj hplaying
    obtain ⟨hafter, htakes⟩ := hhosted.dequeue hplaying.valid hdequeue
    refine ⟨hsound, h.calls, h.slots_setSession (hplaced.setSlot (fun _ _ => rfl)
      (Or.inr ⟨hplaying.dequeue hdequeue, a, ha, hopened, hafter⟩)),
      fun addr' j' fd' node₁ hsending => ?_⟩
    dsimp only at hsending
    split_ifs at hsending
    obtain ⟨rfl, rfl, rfl, rfl⟩ := Epoll.sending.inj hsending
    exact ⟨hevent _ _ _ _ rfl, a, ha, htakes⟩
  | @sent env result addr j fd ret node session client w hepoll hs htransmit =>
    have hplaced := h.slots addr session hs
    obtain ⟨hj, hplaying⟩ := h.sound.playing (by rw [hepoll]; rfl) hs
    obtain ⟨a, ha, hopened, hhosted⟩ := hplaced.hosted hj hplaying
    refine ⟨hsound, h.calls, h.slots_setSession (hplaced.setSlot (fun _ _ => rfl)
      (Or.inr ⟨hplaying.transmit htransmit, a, ha, hopened,
        hhosted.transmit htransmit⟩)), fun addr' j' fd' node₁ hsending => ?_⟩
    dsimp only at hsending
    split_ifs at hsending
  | @cleared addr j failed session hepoll hs =>
    obtain ⟨hj, hplaying⟩ := h.sound.playing (by rw [hepoll]; rfl) hs
    exact ⟨hsound, h.calls, h.slots_setSession ((h.slots addr session hs).offline hj hplaying),
      fun _ _ _ _ hsending => absurd hsending (by simp)⟩
  | summed hepoll hs =>
    refine ⟨hsound, h.calls, h.slots, fun _ _ _ _ hsending => ?_⟩
    dsimp only at hsending
    split_ifs at hsending
  | stopped => exact ⟨hsound, h.calls, h.slots, fun _ _ _ _ hsending => absurd hsending (by simp)⟩
  | gone => exact ⟨hsound, h.calls, h.slots, fun _ _ _ _ hsending => absurd hsending (by simp)⟩
  | @deleted addr pos addr' hepoll harr =>
    refine ⟨hsound, h.calls, fun addr₁ session hs => ?_,
      fun _ _ _ _ hsending => absurd hsending (by simp)⟩
    dsimp only at hs
    rw [Server.delSession_heap] at hs
    split_ifs at hs
    exact h.slots addr₁ session hs
  | unsummed => exact ⟨hsound, h.calls, h.slots, fun _ _ _ _ hsending => absurd hsending (by simp)⟩

theorem Ok.step (h : s.Ok) (hopened : Opened s l) (hstep : s.step l = some s') : s'.Ok := by
  obtain ⟨c, hc, rfl⟩ := Option.map_eq_some_iff.mp hstep
  by_cases hlookup : ∃ id a audioType mem, l = .lookup id a audioType mem
  · obtain ⟨id, a, audioType, mem, rfl⟩ := hlookup
    exact h.lookup hopened hc
  · refine h.moves (Conc.moves_of_step hc) (fun id a audioType mem hl => ?_) ?_
    · exact hlookup ⟨id, a, audioType, mem, hl⟩
    · rintro addr j fd node rfl
      exact Conc.event_fd hc

theorem ok (hs : Reach step Opened init s) : s.Ok :=
  hs.invariant ok_init fun _ _ _ h hopened hstep => h.step hopened hstep

end Routing

end SimpleRtsp

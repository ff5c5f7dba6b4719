import SimpleRtsp.Session.Sockets

/-!
# A slot that is used again

`addClient` puts a client into the first free slot of a session, which is one that `initClient` has
made or one that `clearClient` has cleared. `Tenants` is a session with the `mut_list` of every slot
and the number of clients that have left it. The slot of a client that joins is what `addSession`
would have made for it in a session of its own exactly if nobody has left this slot before
(`joined_as_new_iff`): `clearClient` destroys `mut_list`, and only `initClient` makes it. The
rest of the slot is as new in any case (`joined_clientinfo`).
-/

namespace SimpleRtsp

inductive MutList where
  | ready (locked : Bool)
  | destroyed
  deriving DecidableEq

namespace MutList

/-- `pthread_mutex_init`. -/
def init : MutList := .ready false

/-- `pthread_mutex_lock`, with `EINVAL` for a destroyed mutex. -/
def lock : MutList → MutList
  | .ready _ => .ready true
  | .destroyed => .destroyed

def unlock : MutList → MutList
  | .ready _ => .ready false
  | .destroyed => .destroyed

/-- `pthread_mutex_destroy`. -/
def destroy (_ : MutList) : MutList := .destroyed

end MutList

/-- The client that goes offline in a step. -/
def Session.leaves (s : Session) : Session.Label → Option Nat
  | .event j fd node env result =>
    if ((s.event j fd node env result).map Prod.snd).getD false then some j else none
  | _ => none

/-- The slots whose `mut_list` is locked and unlocked in a step: by `sendData`, and by `epollLoop`
where it takes a packet. -/
def Session.locks (s : Session) : Session.Label → List Nat
  | .join _ _ _ => []
  | .callback m fresh => (s.mediaCallBack m.toMediainfo fresh).2
  | .event j _ _ _ _ => if (s.clientinfo j).events &&& EPOLLOUT = 0 then [] else [j]

structure Tenants where
  session : Session
  mutList : Nat → MutList
  /-- how many clients have left each slot -/
  left : Nat → Nat

namespace Tenants

/-- `addSession`: `initClient` for all slots, the first client in slot 0. -/
def create (addr : Nat) (a : AddArgs) (audioType : AudioE) (mem : Fresh) (pos : Nat) : Tenants where
  session := .create addr a audioType mem pos
  mutList _ := .init
  left _ := 0

/-- The join of `addClient`. It does not touch a `mut_list`. -/
def join (a : AddArgs) (audioType : AudioE) (mem : Fresh) (s : Tenants) : Option (Nat × Tenants) :=
  (s.session.join a audioType mem).map fun (j, session) => (j, { s with session := session })

/-- The `mut_list`s after a step; the client that goes offline is cleared. -/
def mutAfter (s : Tenants) (l : Session.Label) (j : Nat) : MutList :=
  let m := if j ∈ s.session.locks l then (s.mutList j).lock.unlock else s.mutList j
  if s.session.leaves l = some j then m.destroy else m

def step (s : Tenants) (l : Session.Label) : Option Tenants :=
  (s.session.step l).map fun session =>
    { session := session
      mutList := s.mutAfter l
      left := fun j => if s.session.leaves l = some j then s.left j + 1 else s.left j }

def slot (s : Tenants) (j : Nat) : Clientinfo × MutList := (s.session.clientinfo j, s.mutList j)

end Tenants

/-- A client structure as it would be in slot `j` of the session at `addr`. -/
def Clientinfo.moved (j addr : Nat) (c : Clientinfo) : Clientinfo :=
  { c with sendCallBack := c.sendCallBack.map fun _ => j, session := some addr }

/-- The slot `addSession` makes for a client in a session of its own, moved to slot `j` of the
session at `addr`. -/
def newSlot (j addr : Nat) (a : AddArgs) (audioType : AudioE) (mem : Fresh) :
    Clientinfo × MutList :=
  let slot := (Tenants.create addr a audioType mem 0).slot 0
  (slot.1.moved j addr, slot.2)

/-- A slot as `initClient` and the loop of `addSession` leave it. -/
def blank (addr : Nat) : Clientinfo := { initClient with session := some addr }

theorem setClient_blank (addr : Nat) (a : AddArgs) (audioType : AudioE) (mem : Fresh) (j : Nat) :
    setClient a audioType mem j (blank addr) = (newSlot j addr a audioType mem).1 := by
  have hfirst : ((Tenants.create addr a audioType mem 0).slot 0).1 =
      setClient a audioType mem 0 (blank addr) := by
    simp only [Tenants.create, Tenants.slot, Session.create, blank, Function.update_self]
  rw [newSlot]
  dsimp only
  rw [hfirst]
  unfold setClient setTransport setBuffers eventAdd Clientinfo.moved
  by_cases htcp : a.tureOfTcp = 1 <;> by_cases hsd : a.clientSockFd < 0 <;>
    simp [htcp, hsd, blank, initClient]

/-! ## The `mut_list` -/

namespace Session

theorem slot_step {s s' : Session} (h : s.Ok) {l : Label} (hstep : s.step l = some s') {j : Nat}
    (hj : j < CLIENTMAX) (hstays : s.leaves l ≠ some j) :
    s'.clientinfo j = s.clientinfo j ∨ (s'.clientinfo j).Playing j := by
  cases l with
  | join a audioType mem =>
    obtain ⟨hsd, hnext⟩ := Option.ite_none_right_eq_some.mp hstep
    obtain rfl := Option.some.inj hnext
    cases hjoin : s.join a audioType mem with
    | none => exact Or.inl rfl
    | some r =>
      obtain ⟨hlt, hfree, hr⟩ := join_some hjoin
      have hclients : r.2.clientinfo =
          (s.setSlot r.1 (setClient a audioType mem r.1 (s.clientinfo r.1))).clientinfo := by
        rw [hr]
      rw [Option.elim_some, hclients]
      by_cases hsame : j = r.1
      · rw [hsame, setSlot_self]
        exact Or.inr (playing_setClient (h.idle hlt hfree) a hsd audioType mem r.1)
      · exact Or.inl (setSlot_of_ne s _ hsame)
  | callback m fresh =>
    obtain rfl := Option.some.inj hstep
    rw [mediaCallBack_eq h]
    dsimp only [served]
    split_ifs with hserved
    · exact Or.inr ((h.playing hj hserved.2).sendData m (fresh j))
    · exact Or.inl rfl
  | event i fd node env result =>
    obtain ⟨⟨hi, -⟩, hnext⟩ := Option.ite_none_right_eq_some.mp hstep
    obtain ⟨⟨s₁, gone⟩, hevent, rfl⟩ := Option.map_eq_some_iff.mp hnext
    rw [leaves, hevent] at hstays
    obtain ⟨t, hturn, ht⟩ := Option.map_eq_some_iff.mp hevent
    obtain ⟨rfl, rfl⟩ := Prod.mk.inj ht
    by_cases hsame : j = i
    · subst hsame
      have hgoes : t.offline = false := by simpa using hstays
      rw [hgoes, if_neg (by decide), setSlot_self]
      rcases h.slots j hj with hplaying | hidle
      · exact Or.inr (hplaying.turn hturn)
      · rw [hidle.turn] at hturn
        rw [← Option.some.inj hturn]
        exact Or.inl rfl
    · left
      split_ifs
      · show (((s.setSlot i t.client).setSlot i _).clientinfo j) = _
        rw [setSlot_setSlot, setSlot_of_ne s _ hsame]
      · exact setSlot_of_ne s _ hsame

end Session

namespace Tenants

variable {addr : Nat} {s s' : Tenants}

/-- Nobody has left a slot whose `mut_list` there is, and such a slot plays or is blank. -/
structure Inv (addr : Nat) (s : Tenants) : Prop where
  ok : s.session.Ok
  unused : ∀ j < CLIENTMAX, s.left j = 0 → s.mutList j = .init ∧
    ((s.session.clientinfo j).Playing j ∨ s.session.clientinfo j = blank addr)
  used : ∀ j, s.left j ≠ 0 → s.mutList j = .destroyed

theorem inv_create (addr : Nat) {a : AddArgs} (ha : 0 ≤ a.clientSockFd) (audioType : AudioE)
    (mem : Fresh) (pos : Nat) : (create addr a audioType mem pos).Inv addr where
  ok := Session.ok_create addr a audioType mem pos ha
  unused j hj _ := by
    refine ⟨rfl, ?_⟩
    by_cases hfirst : j = 0
    · rw [hfirst]
      refine Or.inl ?_
      show ((Session.create addr a audioType mem pos).clientinfo 0).Playing 0
      simp only [Session.create, Function.update_self]
      exact playing_setClient (idle_initClient _) a ha audioType mem 0
    · exact Or.inr (Session.create_clientinfo addr a audioType mem pos hfirst)
  used j h := absurd rfl h

theorem Inv.step (h : s.Inv addr) {l : Session.Label} (hstep : s.step l = some s') :
    s'.Inv addr := by
  obtain ⟨session, hsession, rfl⟩ := Option.map_eq_some_iff.mp hstep
  refine ⟨h.ok.step hsession, fun j hj hleft => ?_, fun j hleft => ?_⟩
  · dsimp only at hleft
    split_ifs at hleft with hleaves
    obtain ⟨hmut, hslot⟩ := h.unused j hj hleft
    refine ⟨?_, ?_⟩
    · simp only [mutAfter, if_neg hleaves, hmut]
      split_ifs <;> rfl
    · obtain hsame | hplaying := Session.slot_step h.ok hsession hj hleaves
      · dsimp only
        rw [hsame]
        exact hslot
      · exact Or.inl hplaying
  · dsimp only [mutAfter] at hleft ⊢
    split_ifs at hleft with hleaves
    · rw [if_pos hleaves]
      rfl
    · rw [if_neg hleaves, h.used j hleft]
      split_ifs <;> rfl

theorem inv_reach {a : AddArgs} (ha : 0 ≤ a.clientSockFd) {audioType : AudioE} {mem : Fresh}
    {pos : Nat} (h : Reach step anyStep (create addr a audioType mem pos) s) : s.Inv addr :=
  h.invariant (inv_create addr ha audioType mem pos) fun _ _ _ hinv _ hstep => hinv.step hstep

/-- **The slot of a client that joins is as new exactly if nobody has left it before**, in every
history of the session and whatever the client comes with. -/
theorem joined_as_new_iff {a₀ : AddArgs} (ha₀ : 0 ≤ a₀.clientSockFd) {audioType₀ : AudioE}
    {mem₀ : Fresh} {pos : Nat}
    (h : Reach step anyStep (create addr a₀ audioType₀ mem₀ pos) s) {a : AddArgs}
    {audioType : AudioE} {mem : Fresh} {j : Nat} (hjoin : s.join a audioType mem = some (j, s')) :
    s'.slot j = newSlot j addr a audioType mem ↔ s.left j = 0 := by
  have hinv := inv_reach ha₀ h
  obtain ⟨⟨i, session⟩, hsession, hpair⟩ := Option.map_eq_some_iff.mp hjoin
  obtain ⟨rfl, rfl⟩ := Prod.mk.inj hpair
  obtain ⟨hj, hfree, hnext⟩ := Session.join_some hsession
  constructor
  · intro hslot
    by_contra hleft
    have hmut : s.mutList i = .init := congrArg Prod.snd hslot
    rw [hinv.used i hleft] at hmut
    exact MutList.noConfusion hmut
  · intro hleft
    obtain ⟨hmut, hslot⟩ := hinv.unused i hj hleft
    have hblank : s.session.clientinfo i = blank addr := by
      refine hslot.resolve_left fun hplaying => ?_
      have hsd := hplaying.sd
      omega
    have hclients : session.clientinfo i = setClient a audioType mem i (blank addr) := by
      rw [hnext]
      show (s.session.setSlot i _).clientinfo i = _
      rw [Session.setSlot_self, hblank]
    refine Prod.ext ?_ hmut
    exact hclients.trans (setClient_blank addr a audioType mem i)

theorem joined_as_new_second : ∃ s', (create 7 (tcpPlayer 10) .aac zeroFresh 0).join (tcpPlayer 11)
    .aac zeroFresh = some (1, s') ∧ s'.slot 1 = newSlot 1 7 (tcpPlayer 11) .aac zeroFresh := by
  have hslot : ((create 7 (tcpPlayer 10) .aac zeroFresh 0).join (tcpPlayer 11) .aac
      zeroFresh).map Prod.fst = some 1 := by decide +kernel
  obtain ⟨⟨j, s'⟩, hjoin, rfl⟩ := Option.map_eq_some_iff.mp hslot
  exact ⟨s', hjoin, (joined_as_new_iff (by decide) .start hjoin).mpr rfl⟩

/-- A second client joins, and the first one leaves after a refused send. -/
def firstLeaves : List Session.Label :=
  [.join (tcpPlayer 11) .aac zeroFresh, .callback (nalDelivery 0x41) fun _ _ _ => zeroPacket,
    .event 0 10 zeroPacket zeroEnv fun _ _ => -1]

/-- The third client gets a destroyed `mut_list`. -/
theorem joined_destroyed : ∃ s s', Reach step anyStep (create 7 (tcpPlayer 10) .aac zeroFresh 0) s ∧
    s.join (tcpPlayer 12) .aac zeroFresh = some (0, s') ∧
    s'.slot 0 ≠ newSlot 0 7 (tcpPlayer 12) .aac zeroFresh := by
  have hrun : (runs step (create 7 (tcpPlayer 10) .aac zeroFresh 0) firstLeaves).map (fun s =>
      (s.mutList 0, (s.join (tcpPlayer 12) .aac zeroFresh).map Prod.fst)) =
      some (.destroyed, some 0) := by decide +kernel
  obtain ⟨s, hs, hstate⟩ := Option.map_eq_some_iff.mp hrun
  obtain ⟨hmut, hslot⟩ := Prod.mk.inj hstate
  obtain ⟨⟨j, s'⟩, hjoin, rfl⟩ := Option.map_eq_some_iff.mp hslot
  refine ⟨s, s', Reach.of_runs firstLeaves hs, hjoin, fun hnew => ?_⟩
  obtain ⟨r, -, hr⟩ := Option.map_eq_some_iff.mp hjoin
  have hsame : s'.mutList 0 = s.mutList 0 := by rw [← (Prod.mk.inj hr).2]
  have hready : s'.mutList 0 = .init := congrArg Prod.snd hnew
  rw [hsame, hmut] at hready
  exact MutList.noConfusion hready

end Tenants

/-! ## The rest of the slot -/

/-- A socket that is absent or that `clearClient` closes. -/
def Closable (fd : Int) : Prop := fd = -1 ∨ 0 < fd

theorem Closable.closeFd {fd : Int} (h : Closable fd) : closeFd fd = -1 := by
  obtain rfl | hpos := h
  · rfl
  · exact if_pos hpos

/-- The UDP sockets that come with a client are absent or positive. -/
structure AddArgs.Closable (a : AddArgs) : Prop where
  rtp : SimpleRtsp.Closable a.serverUdpSocketRtp
  rtcp : SimpleRtsp.Closable a.serverUdpSocketRtcp
  rtp1 : SimpleRtsp.Closable a.serverUdpSocketRtp1
  rtcp1 : SimpleRtsp.Closable a.serverUdpSocketRtcp1

/-- The same of the UDP sockets in a slot of the session at `addr`. -/
structure Clientinfo.Tidy (addr : Nat) (c : Clientinfo) : Prop where
  session : c.session = some addr
  rtp : Closable c.udpSdRtp
  rtcp : Closable c.udpSdRtcp
  rtp1 : Closable c.udpSdRtp1
  rtcp1 : Closable c.udpSdRtcp1

namespace Clientinfo.Tidy

variable {addr : Nat} {c c' : Clientinfo}

theorem of_same (h : c.Tidy addr) (hsame : c.SameSockets c') : c'.Tidy addr := by
  obtain ⟨hrtp, hrtcp, hrtp1, hrtcp1⟩ := hsame.udp
  refine ⟨hsame.session.trans h.session, ?_, ?_, ?_, ?_⟩
  · exact hrtp ▸ h.rtp
  · exact hrtcp ▸ h.rtcp
  · exact hrtp1 ▸ h.rtp1
  · exact hrtcp1 ▸ h.rtcp1

theorem setClient (h : c.Tidy addr) {a : AddArgs} (ha : a.Closable) (audioType : AudioE)
    (mem : Fresh) (slot : Nat) : (setClient a audioType mem slot c).Tidy addr := by
  have htransport : (setTransport a { c with sd := a.clientSockFd }).Tidy addr := by
    unfold setTransport
    split_ifs
    · exact ⟨h.session, h.rtp, h.rtcp, h.rtp1, h.rtcp1⟩
    · exact ⟨h.session, ha.rtp, ha.rtcp, ha.rtp1, ha.rtcp1⟩
  obtain ⟨hsession, hrtp, hrtcp, hrtp1, hrtcp1⟩ := htransport
  unfold SimpleRtsp.setClient SimpleRtsp.eventAdd setBuffers
  dsimp only
  split_ifs <;> exact ⟨hsession, hrtp, hrtcp, hrtp1, hrtcp1⟩

theorem blank (addr sd) : ({ blank addr with sd := sd } : Clientinfo).Tidy addr :=
  ⟨rfl, Or.inl rfl, Or.inl rfl, Or.inl rfl, Or.inl rfl⟩

theorem clear (h : c.Tidy addr) :
    clearClient c = { SimpleRtsp.blank addr with sd := closeFd c.sd } := by
  unfold clearClient
  rw [h.session, h.rtp.closeFd, h.rtcp.closeFd, h.rtp1.closeFd, h.rtcp1.closeFd]
  rfl

end Clientinfo.Tidy

namespace Session

/-- The clients that join come with closable sockets. -/
def Joins (_ : Session) : Label → Prop
  | .join a _ _ => a.Closable
  | _ => True

/-- Every slot is tidy, and one that does not play is blank but for its socket. -/
structure Swept (addr : Nat) (s : Session) : Prop where
  ok : s.Ok
  tidy : ∀ j < CLIENTMAX, (s.clientinfo j).Tidy addr
  idle : ∀ j < CLIENTMAX, (s.clientinfo j).Playing j ∨
    ∃ sd, s.clientinfo j = { blank addr with sd := sd }

variable {addr : Nat} {s s' : Session}

theorem swept_create (addr : Nat) {a : AddArgs} (ha : 0 ≤ a.clientSockFd) (hclosable : a.Closable)
    (audioType : AudioE) (mem : Fresh) (pos : Nat) :
    (create addr a audioType mem pos).Swept addr where
  ok := ok_create addr a audioType mem pos ha
  tidy j _ := by
    by_cases hfirst : j = 0
    · simp only [hfirst, create, Function.update_self]
      exact (Clientinfo.Tidy.blank addr (-1)).setClient hclosable audioType mem 0
    · rw [create_clientinfo addr a audioType mem pos hfirst]
      exact .blank addr (-1)
  idle j _ := by
    by_cases hfirst : j = 0
    · simp only [hfirst, create, Function.update_self]
      exact Or.inl (playing_setClient (idle_initClient _) a ha audioType mem 0)
    · exact Or.inr ⟨-1, create_clientinfo addr a audioType mem pos hfirst⟩

theorem slot_left {l : Label} (hstep : s.step l = some s') {j : Nat}
    (hleaves : s.leaves l = some j) :
    ∃ c, (s.clientinfo j).SameSockets c ∧ s'.clientinfo j = clearClient c := by
  cases l with
  | join a audioType mem => exact absurd hleaves (by simp [leaves])
  | callback m fresh => exact absurd hleaves (by simp [leaves])
  | event i fd node env result =>
    obtain ⟨-, hnext⟩ := Option.ite_none_right_eq_some.mp hstep
    obtain ⟨⟨s₁, gone⟩, hevent, rfl⟩ := Option.map_eq_some_iff.mp hnext
    rw [leaves, hevent] at hleaves
    obtain ⟨hgone, hsame⟩ := Option.ite_none_right_eq_some.mp hleaves
    obtain rfl := Option.some.inj hsame
    obtain ⟨t, hturn, ht⟩ := Option.map_eq_some_iff.mp hevent
    obtain ⟨rfl, rfl⟩ := Prod.mk.inj ht
    have hoffline : t.offline = true := hgone
    refine ⟨t.client, .turn hturn, ?_⟩
    rw [hoffline, if_pos rfl]
    show ((s.setSlot i t.client).setSlot i _).clientinfo i = _
    rw [setSlot_self, setSlot_self]

theorem slot_sockets {l : Label} (hstep : s.step l = some s') {j : Nat}
    (hstays : s.leaves l ≠ some j) : (s.clientinfo j).SameSockets (s'.clientinfo j) ∨
      ∃ a audioType mem, l = .join a audioType mem ∧
        s'.clientinfo j = setClient a audioType mem j (s.clientinfo j) := by
  cases l with
  | join a audioType mem =>
    obtain ⟨-, hnext⟩ := Option.ite_none_right_eq_some.mp hstep
    obtain rfl := Option.some.inj hnext
    cases hjoin : s.join a audioType mem with
    | none => exact Or.inl (.refl _)
    | some r =>
      obtain ⟨-, -, hr⟩ := join_some hjoin
      have hclients : r.2.clientinfo =
          (s.setSlot r.1 (setClient a audioType mem r.1 (s.clientinfo r.1))).clientinfo := by
        rw [hr]
      rw [Option.elim_some, hclients]
      by_cases hsame : j = r.1
      · subst hsame
        exact Or.inr ⟨a, audioType, mem, rfl, setSlot_self ..⟩
      · rw [setSlot_of_ne s _ hsame]
        exact Or.inl (.refl _)
  | callback m fresh =>
    obtain rfl := Option.some.inj hstep
    exact Or.inl (sameSockets_callback s m.toMediainfo fresh j)
  | event i fd node env result =>
    obtain ⟨-, hnext⟩ := Option.ite_none_right_eq_some.mp hstep
    obtain ⟨⟨s₁, gone⟩, hevent, rfl⟩ := Option.map_eq_some_iff.mp hnext
    rw [leaves, hevent] at hstays
    obtain ⟨t, hturn, ht⟩ := Option.map_eq_some_iff.mp hevent
    obtain ⟨rfl, rfl⟩ := Prod.mk.inj ht
    left
    by_cases hsame : j = i
    · subst hsame
      have hgoes : t.offline = false := by simpa using hstays
      rw [hgoes, if_neg (by decide), setSlot_self]
      exact .turn hturn
    · split_ifs
      · show (s.clientinfo j).SameSockets (((s.setSlot i t.client).setSlot i _).clientinfo j)
        rw [setSlot_setSlot, setSlot_of_ne s _ hsame]
        exact .refl _
      · rw [setSlot_of_ne s _ hsame]
        exact .refl _

theorem Swept.step (h : s.Swept addr) {l : Label} (hjoins : s.Joins l)
    (hstep : s.step l = some s') : s'.Swept addr := by
  refine ⟨h.ok.step hstep, fun j hj => ?_, fun j hj => ?_⟩
  · by_cases hleaves : s.leaves l = some j
    · obtain ⟨c, hsame, hclear⟩ := slot_left hstep hleaves
      rw [hclear, ((h.tidy j hj).of_same hsame).clear]
      exact .blank addr _
    · obtain hsame | ⟨a, audioType, mem, rfl, hset⟩ := slot_sockets hstep hleaves
      · exact (h.tidy j hj).of_same hsame
      · rw [hset]
        exact (h.tidy j hj).setClient hjoins audioType mem j
  · by_cases hleaves : s.leaves l = some j
    · obtain ⟨c, hsame, hclear⟩ := slot_left hstep hleaves
      exact Or.inr ⟨closeFd c.sd, hclear.trans ((h.tidy j hj).of_same hsame).clear⟩
    · obtain hsame | hplaying := slot_step h.ok hstep hj hleaves
      · rw [hsame]
        exact h.idle j hj
      · exact Or.inl hplaying

/-- **But for its `mut_list`, the slot of a client that joins is as new**, if the UDP sockets of the
clients before it are absent or positive. -/
theorem joined_clientinfo {a₀ : AddArgs} (ha₀ : 0 ≤ a₀.clientSockFd) (hclosable : a₀.Closable)
    {audioType₀ : AudioE} {mem₀ : Fresh} {pos : Nat}
    (h : Reach step Joins (create addr a₀ audioType₀ mem₀ pos) s) {a : AddArgs}
    {audioType : AudioE} {mem : Fresh} {j : Nat} (hjoin : s.join a audioType mem = some (j, s')) :
    s'.clientinfo j = (newSlot j addr a audioType mem).1 := by
  have hswept : s.Swept addr := h.invariant (swept_create addr ha₀ hclosable audioType₀ mem₀ pos)
    fun _ _ _ hinv hguard hstep => hinv.step hguard hstep
  obtain ⟨hj, hfree, hnext⟩ := join_some hjoin
  have hblank : s.clientinfo j = blank addr := by
    obtain hplaying | ⟨sd, hsd⟩ := hswept.idle j hj
    · have hsd := hplaying.sd
      omega
    · rw [hsd] at hfree ⊢
      obtain rfl : sd = -1 := hfree
      rfl
  rw [hnext]
  show (s.setSlot j _).clientinfo j = _
  rw [setSlot_self, hblank, setClient_blank]

end Session

end SimpleRtsp

import SimpleRtsp.Lib.SlotTable
import SimpleRtsp.Lib.Transition
import SimpleRtsp.Session.Slot

/-!
# A session

`Session` is `session_st`: the clients of one file in `CLIENTMAX` slots and how many there are.
Clients are put into the first free slot and may leave from any, so the slots in use need not be
the first ones; `mediaCallBack` scans the first `count` slots. `Ok` relates `count` to the slots
and is kept by every step (`Ok.step`); `mediaCallBack_eq` is what it means for the callback, which
calls the playing slots below `count` and no others.
-/

namespace SimpleRtsp

def CLIENTMAX : Nat := 1024

/-- `struct session_st` without its media context, which the callbacks bring along. -/
structure Session where
  filename : List UInt8
  clientinfo : Nat → Clientinfo
  count : Int
  pos : Nat

namespace Session

def setSlot (s : Session) (j : Nat) (c : Clientinfo) : Session :=
  { s with clientinfo := Function.update s.clientinfo j c }

/-- `get_free_clientinfo`: the first slot with `sd == -1`. -/
def getFreeClientinfo (s : Session) : Option Nat :=
  (List.range CLIENTMAX).find? fun i => (s.clientinfo i).sd == -1

/-- The session `addSession` makes at address `addr`, with its first client in slot 0. -/
def create (addr : Nat) (a : AddArgs) (audioType : AudioE) (mem : Fresh) (pos : Nat) : Session where
  filename := a.pathFilename
  clientinfo :=
    let c := { initClient with session := some addr }
    Function.update (fun _ => c) 0 (setClient a audioType mem 0 c)
  count := 1
  pos := pos

/-- The part of `addClient` that adds a client to a session: its slot and the session afterwards, or
`none` when all slots are taken. -/
def join (a : AddArgs) (audioType : AudioE) (mem : Fresh) (s : Session) :
    Option (Nat × Session) := do
  let j ← s.getFreeClientinfo
  let s := s.setSlot j (setClient a audioType mem j (s.clientinfo j))
  return (j, { s with count := s.count + 1 })

/-- The offline section of `epollLoop`: the slot is cleared and `count` goes down. -/
def offline (j : Nat) (s : Session) : Session :=
  let s := s.setSlot j (clearClient (s.clientinfo j))
  { s with count := s.count - 1 }

/-- The loop body of `mediaCallBack`; the list records the slots `sendData` is called for. -/
def callSlot (m : Mediainfo) (fresh : Nat → MediaE → Nat → MediaPacket)
    (r : Session × List Nat) (i : Nat) : Session × List Nat :=
  let c := r.1.clientinfo i
  match c.sendCallBack with
  | none => r
  | some arg =>
    if c.sd ≠ -1 ∧ c.playflag = 1 then
      (r.1.setSlot arg (sendData m (fresh arg) (r.1.clientinfo arg)), r.2 ++ [arg])
    else r

/-- `mediaCallBack`: the first `count` slots. -/
def mediaCallBack (m : Mediainfo) (fresh : Nat → MediaE → Nat → MediaPacket) (s : Session) :
    Session × List Nat :=
  (List.range s.count.toNat).foldl (callSlot m fresh) (s, [])

/-- What `epollLoop` does with an event on `fd` of slot `j`: the session afterwards and whether the
client went offline. -/
def event (j : Nat) (fd : Int) (node : MediaPacket) (env : SendEnv) (result : Nat → Nat → Int)
    (s : Session) : Option (Session × Bool) :=
  (turn (s.clientinfo j) fd node env result).map fun t =>
    (if t.offline then (s.setSlot j t.client).offline j else s.setSlot j t.client, t.offline)

/-! ## Runs of a session -/

inductive Label where
  | join (a : AddArgs) (audioType : AudioE) (mem : Fresh)
  | callback (m : Delivery) (fresh : Nat → MediaE → Nat → MediaPacket)
  | event (j : Nat) (fd : Int) (node : MediaPacket) (env : SendEnv) (result : Nat → Nat → Int)

/-- What happens to a session: a client joins through an accepted connection (or is turned away),
the media thread calls back, the epoll thread handles an event on a descriptor of a slot. -/
def step (s : Session) : Label → Option Session
  | .join a audioType mem =>
    if 0 ≤ a.clientSockFd then some ((s.join a audioType mem).elim s Prod.snd) else none
  | .callback m fresh => some (s.mediaCallBack m.toMediainfo fresh).1
  | .event j fd node env result =>
    if j < CLIENTMAX ∧ 0 ≤ fd then (s.event j fd node env result).map (·.1) else none

/-- In every state a slot is idle or plays, and `count` is the number of playing slots. -/
structure Ok (s : Session) : Prop where
  slots : ∀ j < CLIENTMAX, (s.clientinfo j).Playing j ∨ (s.clientinfo j).Idle
  count : s.count = used (fun c : Clientinfo => c.callable) s.clientinfo CLIENTMAX

theorem getFreeClientinfo_spec {s : Session} {j : Nat} (h : s.getFreeClientinfo = some j) :
    j < CLIENTMAX ∧ (s.clientinfo j).sd = -1 := by
  have hmem := List.mem_of_find?_eq_some h
  have hfree := List.find?_some h
  exact ⟨List.mem_range.mp hmem, by simpa using hfree⟩

theorem join_some {s s' : Session} {j : Nat} {a : AddArgs} {audioType : AudioE} {mem : Fresh}
    (h : s.join a audioType mem = some (j, s')) :
    j < CLIENTMAX ∧ (s.clientinfo j).sd = -1 ∧
      s' = { s.setSlot j (setClient a audioType mem j (s.clientinfo j)) with
        count := s.count + 1 } := by
  simp only [join, Option.bind_eq_bind, Option.bind_eq_some_iff] at h
  obtain ⟨i, hi, hs'⟩ := h
  obtain ⟨hlt, hfree⟩ := getFreeClientinfo_spec hi
  cases hs'
  exact ⟨hlt, hfree, rfl⟩

theorem join_frame {s s' : Session} {j : Nat} {a : AddArgs} {audioType : AudioE} {mem : Fresh}
    (h : s.join a audioType mem = some (j, s')) :
    s'.pos = s.pos ∧ s'.filename = s.filename ∧ s'.count = s.count + 1 := by
  obtain ⟨-, -, rfl⟩ := join_some h
  exact ⟨rfl, rfl, rfl⟩

theorem offline_frame (s : Session) (j : Nat) : (s.offline j).pos = s.pos ∧
    (s.offline j).filename = s.filename ∧ (s.offline j).count = s.count - 1 := ⟨rfl, rfl, rfl⟩

@[simp] theorem setSlot_self (s : Session) (j : Nat) (c : Clientinfo) :
    (s.setSlot j c).clientinfo j = c := by
  simp [setSlot]

theorem setSlot_of_ne (s : Session) {i j : Nat} (c : Clientinfo) (h : i ≠ j) :
    (s.setSlot j c).clientinfo i = s.clientinfo i := by
  simp [setSlot, h]

@[simp] theorem setSlot_setSlot (s : Session) (j : Nat) (c c' : Clientinfo) :
    (s.setSlot j c).setSlot j c' = s.setSlot j c' := by
  simp [setSlot]

@[simp] theorem setSlot_same (s : Session) (j : Nat) : s.setSlot j (s.clientinfo j) = s := by
  simp [setSlot]

theorem Ok.playing {s : Session} (h : s.Ok) {j : Nat} (hj : j < CLIENTMAX)
    (hcallable : (s.clientinfo j).callable) : (s.clientinfo j).Playing j := by
  refine (h.slots j hj).resolve_right fun hidle => ?_
  simp [hidle.not_callable] at hcallable

theorem Ok.idle {s : Session} (h : s.Ok) {j : Nat} (hj : j < CLIENTMAX)
    (hfree : (s.clientinfo j).sd = -1) : (s.clientinfo j).Idle := by
  refine (h.slots j hj).resolve_left fun hplaying => ?_
  have := hplaying.sd
  omega

theorem Ok.playing_of_dequeue {s : Session} (h : s.Ok) {j : Nat} (hj : j < CLIENTMAX) {fd : Int}
    {node : MediaPacket} {r : MediaPacket × Clientinfo}
    (hdequeue : dequeue (s.clientinfo j) fd node = some r) : (s.clientinfo j).Playing j := by
  refine (h.slots j hj).resolve_right fun hidle => ?_
  rw [hidle.dequeue] at hdequeue
  exact absurd hdequeue (by simp)

theorem Ok.setPlaying {s : Session} (h : s.Ok) {j : Nat} (hj : j < CLIENTMAX) {c : Clientinfo}
    (hbefore : (s.clientinfo j).Playing j) (hafter : c.Playing j) : (s.setSlot j c).Ok where
  slots i hi := by
    by_cases hij : i = j
    · subst hij
      exact Or.inl (by simpa using hafter)
    · rw [setSlot_of_ne s c hij]
      exact h.slots i hi
  count := by
    refine h.count.trans (congrArg _ (used_update_same s.clientinfo hj ?_).symm)
    simp [hbefore.callable, hafter.callable]

theorem create_clientinfo (addr : Nat) (a : AddArgs) (audioType : AudioE) (mem : Fresh) (pos : Nat)
    {j : Nat} (hj : j ≠ 0) :
    (create addr a audioType mem pos).clientinfo j = { initClient with session := some addr } := by
  simp [create, Function.update_of_ne hj]

theorem ok_create (addr : Nat) (a : AddArgs) (audioType : AudioE) (mem : Fresh) (pos : Nat)
    (hsd : 0 ≤ a.clientSockFd) : (create addr a audioType mem pos).Ok where
  slots j _ := by
    by_cases h : j = 0
    · subst h
      exact Or.inl (playing_setClient (idle_initClient _) a hsd audioType mem 0)
    · rw [create_clientinfo addr a audioType mem pos h]
      exact Or.inr (idle_initClient _)
  count := by
    have hplaying := playing_setClient (idle_initClient (some addr)) a hsd audioType mem 0
    have hfill := used_update_fill (fun _ => { initClient with session := some addr })
      (show 0 < CLIENTMAX by decide) (p := fun c : Clientinfo => c.callable)
      (by simp [(idle_initClient (some addr)).not_callable]) hplaying.callable
    have hnone : used (fun c : Clientinfo => c.callable)
        (fun _ => { initClient with session := some addr }) CLIENTMAX = 0 :=
      used_eq_zero.mpr fun j _ => by simp [(idle_initClient (some addr)).not_callable]
    simp only [create, hfill, hnone]
    rfl

theorem Ok.join {s s' : Session} (h : s.Ok) {a : AddArgs} (hsd : 0 ≤ a.clientSockFd) {j : Nat}
    {audioType : AudioE} {mem : Fresh} (hjoin : s.join a audioType mem = some (j, s')) : s'.Ok := by
  obtain ⟨hlt, hfree, rfl⟩ := join_some hjoin
  have hidle := h.idle hlt hfree
  have hplaying := playing_setClient hidle a hsd audioType mem j
  constructor
  · intro i hi
    by_cases hij : i = j
    · subst hij
      exact Or.inl (by simpa using hplaying)
    · simp only [setSlot_of_ne s _ hij]
      exact h.slots i hi
  · have hfill := used_update_fill s.clientinfo hlt (p := fun c : Clientinfo => c.callable)
      (by simp [hidle.not_callable]) hplaying.callable
    simp only [setSlot, hfill, h.count]
    push_cast
    rfl

theorem Ok.offline {s : Session} (h : s.Ok) {j : Nat} (hj : j < CLIENTMAX)
    (hplaying : (s.clientinfo j).Playing j) : (s.offline j).Ok where
  slots i hi := by
    by_cases hij : i = j
    · subst hij
      refine Or.inr ?_
      simp only [Session.offline, setSlot_self]
      exact idle_clearClient _
    · simp only [Session.offline, setSlot_of_ne s _ hij]
      exact h.slots i hi
  count := by
    have hfree := used_update_free s.clientinfo hj (p := fun c : Clientinfo => c.callable)
      hplaying.callable (x := clearClient (s.clientinfo j))
      (by simp [(idle_clearClient _).not_callable])
    simp only [Session.offline, setSlot, h.count]
    omega

/-! ## The callback -/

theorem callSlot_eq (m : Mediainfo) (fresh : Nat → MediaE → Nat → MediaPacket)
    (r : Session × List Nat) (i : Nat) {arg : Nat}
    (h : (r.1.clientinfo i).callable → (r.1.clientinfo i).sendCallBack = some arg) :
    callSlot m fresh r i =
      if (r.1.clientinfo i).callable then
        (r.1.setSlot arg (sendData m (fresh arg) (r.1.clientinfo arg)), r.2 ++ [arg])
      else r := by
  rw [callSlot]
  by_cases hcallable : (r.1.clientinfo i).callable = true
  · have harg := h hcallable
    have htest : (r.1.clientinfo i).sd ≠ -1 ∧ (r.1.clientinfo i).playflag = 1 := by
      simpa [Clientinfo.callable, harg] using hcallable
    rw [if_pos hcallable, harg]
    exact if_pos htest
  · rw [if_neg hcallable]
    cases harg : (r.1.clientinfo i).sendCallBack with
    | none => rfl
    | some arg =>
      refine if_neg fun htest => hcallable ?_
      simp [Clientinfo.callable, harg, htest]

/-- The session after `sendData` for the playing slots among the first `n`. -/
def served (m : Mediainfo) (fresh : Nat → MediaE → Nat → MediaPacket) (n : Nat) (s : Session) :
    Session :=
  { s with
    clientinfo := fun j =>
      if j < n ∧ (s.clientinfo j).callable then sendData m (fresh j) (s.clientinfo j)
      else s.clientinfo j }

/-- The scan of the first `n` slots calls `sendData` once for each playing one. By induction on `n`:
the slot the loop looks at has not been changed yet. -/
theorem scan_eq {s : Session} (h : s.Ok) (m : Mediainfo)
    (fresh : Nat → MediaE → Nat → MediaPacket) (n : Nat) (hn : n ≤ CLIENTMAX) :
    (List.range n).foldl (callSlot m fresh) (s, []) =
      (s.served m fresh n, (List.range n).filter fun j => (s.clientinfo j).callable) := by
  induction n with
  | zero => simp [served]
  | succ n ih =>
    have hsame : (s.served m fresh n).clientinfo n = s.clientinfo n := if_neg (by omega)
    have harg : ((s.served m fresh n).clientinfo n).callable →
        ((s.served m fresh n).clientinfo n).sendCallBack = some n := by
      rw [hsame]
      exact fun hcallable => (h.playing (by omega) hcallable).sendCallBack
    rw [List.range_succ, List.foldl_append, List.foldl_cons, List.foldl_nil, ih (by omega),
      callSlot_eq m fresh _ n harg, List.filter_append]
    dsimp only
    rw [hsame]
    by_cases hcallable : (s.clientinfo n).callable = true
    · rw [if_pos hcallable, List.filter_singleton, hcallable]
      refine Prod.ext (congrArg (fun slots => { s with clientinfo := slots }) ?_) rfl
      funext j
      by_cases hj : j = n
      · subst hj
        simp [hcallable]
      · simp only [served, Function.update_of_ne hj, show j < n + 1 ↔ j < n by omega]
    · rw [if_neg hcallable, List.filter_singleton, Bool.eq_false_iff.mpr hcallable]
      refine Prod.ext (congrArg (fun slots => { s with clientinfo := slots }) (funext fun j => ?_))
        (List.append_nil _).symm
      by_cases hj : j = n
      · subst hj
        simp [hcallable]
      · simp only [show j < n + 1 ↔ j < n by omega]

theorem Ok.count_le {s : Session} (h : s.Ok) : s.count.toNat ≤ CLIENTMAX := by
  have := used_le (p := fun c : Clientinfo => c.callable) s.clientinfo CLIENTMAX
  rw [h.count]
  omega

theorem mediaCallBack_eq {s : Session} (h : s.Ok) (m : Mediainfo)
    (fresh : Nat → MediaE → Nat → MediaPacket) :
    s.mediaCallBack m fresh = (s.served m fresh s.count.toNat,
      (List.range s.count.toNat).filter fun j => (s.clientinfo j).callable) :=
  scan_eq h m fresh s.count.toNat h.count_le

theorem Ok.served {s : Session} (h : s.Ok) (m : Delivery)
    (fresh : Nat → MediaE → Nat → MediaPacket) (n : Nat) :
    (s.served m.toMediainfo fresh n).Ok := by
  have hplaying : ∀ j < CLIENTMAX, (s.clientinfo j).callable →
      ((s.served m.toMediainfo fresh n).clientinfo j).Playing j := by
    intro j hj hcallable
    simp only [Session.served]
    split_ifs
    · exact (h.playing hj hcallable).sendData m (fresh j)
    · exact h.playing hj hcallable
  have hother : ∀ j, ¬ (s.clientinfo j).callable →
      (s.served m.toMediainfo fresh n).clientinfo j = s.clientinfo j :=
    fun j hnot => if_neg fun h => hnot h.2
  constructor
  · intro j hj
    by_cases hcallable : (s.clientinfo j).callable = true
    · exact Or.inl (hplaying j hj hcallable)
    · rw [hother j hcallable]
      exact h.slots j hj
  · refine h.count.trans (congrArg _ (used_congr fun j hj => ?_))
    by_cases hcallable : (s.clientinfo j).callable = true
    · simp [hcallable, (hplaying j hj hcallable).callable]
    · rw [hother j hcallable]

/-! ## An event -/

theorem Ok.event {s s' : Session} (h : s.Ok) {j : Nat} (hj : j < CLIENTMAX) {fd : Int}
    {node : MediaPacket} {env : SendEnv} {result : Nat → Nat → Int} {gone : Bool}
    (hevent : s.event j fd node env result = some (s', gone)) : s'.Ok := by
  obtain ⟨t, hturn, ht⟩ := Option.map_eq_some_iff.mp hevent
  cases ht
  rcases h.slots j hj with hplaying | hidle
  · have hok := h.setPlaying hj hplaying (hplaying.turn hturn)
    split_ifs
    · exact hok.offline hj (by simpa using hplaying.turn hturn)
    · exact hok
  · rw [hidle.turn] at hturn
    cases hturn
    simpa using h

theorem Ok.step {s s' : Session} (h : s.Ok) {l : Label} (hstep : s.step l = some s') : s'.Ok := by
  cases l with
  | join a audioType mem =>
    obtain ⟨hsd, hnext⟩ := Option.ite_none_right_eq_some.mp hstep
    obtain rfl := Option.some.inj hnext
    cases hjoin : s.join a audioType mem with
    | none => exact h
    | some r => exact h.join hsd hjoin
  | callback m fresh =>
    cases hstep
    rw [mediaCallBack_eq h]
    exact h.served m fresh _
  | event j fd node env result =>
    obtain ⟨⟨hj, -⟩, hnext⟩ := Option.ite_none_right_eq_some.mp hstep
    obtain ⟨⟨s₁, gone⟩, hevent, rfl⟩ := Option.map_eq_some_iff.mp hnext
    exact h.event hj hevent

end Session

end SimpleRtsp

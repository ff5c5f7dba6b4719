import SimpleRtsp.Session.Sockets

/-!
# Whose socket it is

`owned_reachable` says that in every run each open socket has one owner, that only the owner writes
to it and closes it, that the replies come before the first packet, and that the watched descriptors
are the sockets in the slots.
-/

namespace SimpleRtsp

open CString

/-! ## The invariant -/

namespace Sockets

def Owns (s : Sockets) : Holder → Int → Prop
  | .thread id, fd => ∃ w, s.workers id = some w ∧ w.fd = fd
  | .slot addr j, fd => s.server.Holds addr j fd

/-- What was done to the socket of a connection while it is open: its thread has replied, and if it
is in a slot by now, packets were sent from this slot after that. -/
def Record (id : Nat) : Holder → List (Holder × Deed) → Prop
  | .thread id', record => id' = id ∧ ∃ n, record = List.replicate n (.thread id, .reply)
  | .slot addr j, record => ∃ n m,
      record = List.replicate n (.thread id, .reply) ++ List.replicate m (.slot addr j, .rtp)

structure Inv (s : Sockets) : Prop where
  consistent : s.server.Consistent
  tcp : s.server.TcpOnly
  serving : ∀ id conn t, s.workers id = some (.serving conn t) → t.tureOfRtpTcp = 1
  adding : ∀ id conn a, s.workers id = some (.adding conn a) →
    a.tureOfTcp = 1 ∧ a.clientSockFd = conn.clientSockFd
  positive : ∀ id w, s.workers id = some w → 0 < w.fd
  kept : s.ledger.Kept Record .close s.Owns s.accepted
  watched : ∀ fd, s.watched fd = true ↔ ∃ addr j, s.Owns (.slot addr j) fd

theorem inv_init : init.Inv where
  consistent := Server.consistent_init
  tcp _ _ h := absurd h (by simp [init, Server.init])
  serving _ _ _ h := absurd h (by simp [init])
  adding _ _ _ h := absurd h (by simp [init])
  positive _ _ h := absurd h (by simp [init])
  kept := Ledger.kept_init fun o fd howns => by
    cases o with
    | thread id =>
      obtain ⟨w, hw, -⟩ := howns
      exact absurd hw (by simp [init])
    | slot addr j =>
      obtain ⟨session, hs, -⟩ := howns
      exact absurd hs (by simp [init, Server.init])
  watched fd := by
    constructor
    · exact fun h => absurd h (by simp [init])
    · rintro ⟨addr, j, session, hs, -⟩
      exact absurd hs (by simp [init, Server.init])

variable {s s' : Sockets} {id : Nat} {w : Worker}

theorem Inv.not_slot (h : s.Inv) (hw : s.workers id = some w) {addr j : Nat} {fd : Int}
    (hholds : s.server.Holds addr j fd) : fd ≠ w.fd := by
  rintro rfl
  have hsame := h.kept.single (.thread id) (.slot addr j) w.fd ⟨w, hw, rfl⟩ hholds
  exact absurd hsame (by simp)

theorem Inv.not_thread (h : s.Inv) (hw : s.workers id = some w) {id' : Nat} {w' : Worker}
    (hw' : s.workers id' = some w') (hne : id' ≠ id) : w'.fd ≠ w.fd := by
  intro hfd
  have hsame := h.kept.single (.thread id') (.thread id) w.fd ⟨w', hw', hfd⟩ ⟨w, hw, rfl⟩
  exact hne (Holder.thread.inj hsame)

theorem Inv.lt_accepted (h : s.Inv) (hw : s.workers id = some w) : id < s.accepted := by
  obtain ⟨id', hid', hsame, -⟩ := h.kept.isOpen (.thread id) w.fd ⟨w, hw, rfl⟩
  subst hsame
  exact Nat.not_le.mp fun hle => (h.kept.unused id hle).2 w.fd hid'

/-! ## The steps of a connection thread -/

theorem Inv.setWorker (h : s.Inv) (hw : s.workers id = some w) {w' : Worker} (hfd : w'.fd = w.fd)
    (hserving : ∀ conn t, w' = .serving conn t → t.tureOfRtpTcp = 1)
    (hadding : ∀ conn a, w' = .adding conn a →
      a.tureOfTcp = 1 ∧ a.clientSockFd = conn.clientSockFd) :
    (s.setWorker id (some w')).Inv := by
  have hworkers : ∀ id', (s.setWorker id (some w')).workers id' =
      if id' = id then some w' else s.workers id' := fun id' =>
    Function.update_apply s.workers id (some w') id'
  refine ⟨h.consistent, h.tcp, fun id' conn t hid' => ?_, fun id' conn a hid' => ?_,
    fun id' w₁ hid' => ?_, h.kept.congr fun o fd => ?_, h.watched⟩
  · rw [hworkers] at hid'
    split_ifs at hid'
    · exact hserving conn t (Option.some.inj hid')
    · exact h.serving id' conn t hid'
  · rw [hworkers] at hid'
    split_ifs at hid'
    · exact hadding conn a (Option.some.inj hid')
    · exact h.adding id' conn a hid'
  · rw [hworkers] at hid'
    split_ifs at hid'
    · rw [← Option.some.inj hid', hfd]
      exact h.positive id w hw
    · exact h.positive id' w₁ hid'
  · cases o with
    | slot addr j => exact Iff.rfl
    | thread id' =>
      show (∃ w₁, (s.setWorker id (some w')).workers id' = some w₁ ∧ w₁.fd = fd) ↔ _
      rw [hworkers]
      by_cases hsame : id' = id
      · subst hsame
        simp [Owns, hw, hfd]
      · simp [Owns, hsame]

theorem Inv.reply (h : s.Inv) (hw : s.workers id = some w) :
    (s.write (.thread id) .reply w.fd).Inv := by
  refine ⟨h.consistent, h.tcp, h.serving, h.adding, h.positive, ?_, h.watched⟩
  refine h.kept.act ⟨w, hw, rfl⟩ ?_
  rintro id' record ⟨rfl, n, rfl⟩
  exact ⟨rfl, n + 1, List.replicate_succ'.symm⟩

theorem Inv.finish (h : s.Inv) (hw : s.workers id = some w) :
    ((s.closeFd (.thread id) w.fd).setWorker id none).Inv := by
  have hworkers : ∀ id', ((s.closeFd (.thread id) w.fd).setWorker id none).workers id' =
      if id' = id then none else s.workers id' := fun id' =>
    Function.update_apply s.workers id none id'
  have hbefore : ∀ {id' w₁}, ((s.closeFd (.thread id) w.fd).setWorker id none).workers id' =
      some w₁ → id' ≠ id ∧ s.workers id' = some w₁ := fun {id' w₁} hid' => by
    rw [hworkers] at hid'
    split_ifs at hid' with hne
    exact ⟨hne, hid'⟩
  refine ⟨h.consistent, h.tcp, fun id' conn t hid' => h.serving id' conn t (hbefore hid').2,
    fun id' conn a hid' => h.adding id' conn a (hbefore hid').2,
    fun id' w₁ hid' => h.positive id' w₁ (hbefore hid').2, h.kept.close ⟨w, hw, rfl⟩ fun o fd => ?_,
    fun fd => ?_⟩
  · cases o with
    | slot addr j => exact ⟨fun hholds => ⟨hholds, h.not_slot hw hholds⟩, And.left⟩
    | thread id' =>
      constructor
      · rintro ⟨w₁, hw₁, rfl⟩
        obtain ⟨hne, hw₁⟩ := hbefore hw₁
        exact ⟨⟨w₁, hw₁, rfl⟩, h.not_thread hw hw₁ hne⟩
      · rintro ⟨⟨w₁, hw₁, rfl⟩, hfd⟩
        refine ⟨w₁, ?_, rfl⟩
        rw [hworkers, if_neg, hw₁]
        rintro rfl
        exact hfd (congrArg Worker.fd (Option.some.inj (hw₁.symm.trans hw)))
  · show Function.update s.watched w.fd false fd = true ↔ _
    by_cases hfd : fd = w.fd
    · rw [hfd, Function.update_self]
      constructor
      · exact fun hfalse => absurd hfalse (by decide)
      · rintro ⟨addr, j, hholds⟩
        exact absurd rfl (h.not_slot hw hholds)
    · rw [Function.update_of_ne hfd]
      exact h.watched fd

theorem Inv.answer (h : s.Inv) {conn : Conn} {t : Thread}
    (hw : s.workers id = some (.serving conn t)) {o : Outcome} (htcp : o.InTcp)
    (hsocket : o.ForSocket conn) : (s.answer id conn o).Inv := by
  have hreply := h.reply hw
  cases o with
  | closed reply =>
    cases reply with
    | none => exact h.finish hw
    | some _ => exact hreply.finish (w := .serving conn t) hw
  | unauthorized _ => exact hreply
  | replied t' _ _ =>
    refine hreply.setWorker (w := .serving conn t) hw rfl ?_ fun _ _ hworker => ?_
    · rintro conn' t₁ hworker
      obtain ⟨-, rfl⟩ := Worker.serving.inj hworker
      exact htcp.1
    · exact absurd hworker (by simp)
  | played _ a _ =>
    refine hreply.setWorker (w := .serving conn t) hw rfl (fun _ _ hworker => ?_) ?_
    · exact absurd hworker (by simp)
    · rintro conn' a' hworker
      obtain ⟨rfl, rfl⟩ := Worker.adding.inj hworker
      exact ⟨htcp, hsocket⟩

theorem Inv.request (h : s.Inv) {world : World} {msg : List UInt8}
    (hrequest : s.request id world msg = some s') : s'.Inv := by
  rw [Sockets.request] at hrequest
  split at hrequest
  · rename_i conn t hw
    obtain ⟨o, ho, rfl⟩ := Option.map_eq_some_iff.mp hrequest
    have hok : handleRequest conn world t msg = .ok o := toOption_eq_some.mp ho
    exact h.answer hw (handleRequest_tcp (h.serving id conn t hw) conn world msg o hok)
      (handleRequest_forSocket conn world t msg o hok)
  · exact absurd hrequest (by simp)

theorem Inv.hangUp (h : s.Inv) (hhangUp : s.hangUp id = some s') : s'.Inv := by
  rw [Sockets.hangUp] at hhangUp
  split at hhangUp
  · rename_i conn t hw
    obtain rfl := Option.some.inj hhangUp
    exact h.finish hw
  · exact absurd hhangUp (by simp)

theorem Inv.accept (h : s.Inv) {conn : Conn} {filename localIp : List UInt8}
    (haccept : s.accept conn filename localIp = some s') : s'.Inv := by
  obtain ⟨⟨hpos, hfree⟩, hnext⟩ := Option.ite_none_right_eq_some.mp haccept
  obtain rfl := Option.some.inj hnext
  let w : Worker := .serving conn (.init filename localIp)
  have hworkers : ∀ id', (s.setWorker s.accepted (some w)).workers id' =
      if id' = s.accepted then some w else s.workers id' := fun id' =>
    Function.update_apply s.workers s.accepted (some w) id'
  have hcases : ∀ {id' w₁}, (s.setWorker s.accepted (some w)).workers id' = some w₁ →
      w₁ = w ∨ s.workers id' = some w₁ := fun {id' w₁} hid' => by
    rw [hworkers] at hid'
    split_ifs at hid'
    · exact Or.inl (Option.some.inj hid').symm
    · exact Or.inr hid'
  have hstart : Record s.accepted (.thread s.accepted) [] := ⟨rfl, 0, rfl⟩
  refine ⟨h.consistent, h.tcp, fun id' conn' t hid' => ?_, fun id' conn' a hid' => ?_,
    fun id' w₁ hid' => ?_,
    h.kept.openFor (Option.isNone_iff_eq_none.mp hfree) hstart fun o fd => ?_, h.watched⟩
  · obtain hnew | hold := hcases hid'
    · obtain ⟨-, rfl⟩ := Worker.serving.inj hnew
      rfl
    · exact h.serving id' conn' t hold
  · obtain hnew | hold := hcases hid'
    · exact absurd hnew (by simp [w])
    · exact h.adding id' conn' a hold
  · obtain rfl | hold := hcases hid'
    · exact hpos
    · exact h.positive id' w₁ hold
  · cases o with
    | slot addr j => exact ⟨Or.inl, fun hor => hor.resolve_right (by simp)⟩
    | thread id' =>
      show (∃ w₁, (s.setWorker s.accepted (some w)).workers id' = some w₁ ∧ w₁.fd = fd) ↔ _
      rw [hworkers]
      by_cases hsame : id' = s.accepted
      · subst hsame
        have hnone : s.workers s.accepted = none := by
          cases hworker : s.workers s.accepted with
          | none => rfl
          | some w₁ => exact absurd (h.lt_accepted hworker) (Nat.lt_irrefl _)
        simp [Owns, hnone, w, Worker.fd, eq_comm]
      · simp [Owns, hsame]

/-! ## The steps of the server -/

theorem Inv.store (h : s.Inv) {conn : Conn} {a : AddArgs}
    (hw : s.workers id = some (.adding conn a))
    {S' : Server} (hconsistent : S'.Consistent) (htcp : S'.TcpOnly) {addr j : Nat}
    {session' : Session} (hs' : S'.heap addr = some session')
    (hwatches : (session'.clientinfo j).watches = [conn.clientSockFd])
    (hholds : ∀ addr₁ j₁ fd₁, S'.Holds addr₁ j₁ fd₁ ↔
      (addr₁ = addr ∧ j₁ = j ∧ fd₁ = conn.clientSockFd) ∨ s.server.Holds addr₁ j₁ fd₁) :
    ({ s with server := S' }.stored id conn.clientSockFd (some (addr, j))).Inv := by
  let s₁ : Sockets := { s with server := S' }
  have hstored : s₁.stored id conn.clientSockFd (some (addr, j)) =
      (s₁.eventAdd (session'.clientinfo j)).setWorker id none := by
    rw [stored, hs']
    rfl
  have hworkers : ∀ id', ((s₁.eventAdd (session'.clientinfo j)).setWorker id none).workers id' =
      if id' = id then none else s.workers id' := fun id' =>
    Function.update_apply s.workers id none id'
  have hbefore : ∀ {id' w₁}, ((s₁.eventAdd (session'.clientinfo j)).setWorker id none).workers id' =
      some w₁ → id' ≠ id ∧ s.workers id' = some w₁ := fun {id' w₁} hid' => by
    rw [hworkers] at hid'
    split_ifs at hid' with hne
    exact ⟨hne, hid'⟩
  have hthread : s.Owns (.thread id) conn.clientSockFd := ⟨_, hw, rfl⟩
  have hheld : ∀ id' record, Record id' (.thread id) record → Record id' (.slot addr j) record := by
    rintro id' record ⟨rfl, n, rfl⟩
    exact ⟨n, 0, (List.append_nil _).symm⟩
  rw [hstored]
  refine ⟨hconsistent, htcp, fun id' conn' t hid' => h.serving id' conn' t (hbefore hid').2,
    fun id' conn' a' hid' => h.adding id' conn' a' (hbefore hid').2,
    fun id' w₁ hid' => h.positive id' w₁ (hbefore hid').2,
    h.kept.handOver hthread hheld fun o fd => ?_, fun fd => ?_⟩
  · cases o with
    | slot addr₁ j₁ =>
      show S'.Holds addr₁ j₁ fd ↔ _
      rw [hholds]
      constructor
      · rintro (⟨rfl, rfl, rfl⟩ | hold)
        · exact Or.inl ⟨rfl, rfl⟩
        · exact Or.inr ⟨h.not_slot hw hold, hold⟩
      · rintro (⟨rfl, hslot⟩ | ⟨-, hold⟩)
        · obtain ⟨rfl, rfl⟩ := Holder.slot.inj hslot
          exact Or.inl ⟨rfl, rfl, rfl⟩
        · exact Or.inr hold
    | thread id' =>
      constructor
      · rintro ⟨w₁, hw₁, rfl⟩
        obtain ⟨hne, hw₁⟩ := hbefore hw₁
        exact Or.inr ⟨h.not_thread hw hw₁ hne, w₁, hw₁, rfl⟩
      · rintro (⟨-, hthread⟩ | ⟨hne, w₁, hw₁, rfl⟩)
        · exact absurd hthread (by simp)
        · refine ⟨w₁, ?_, rfl⟩
          rw [hworkers, if_neg, hw₁]
          rintro rfl
          exact hne (congrArg Worker.fd (Option.some.inj (hw₁.symm.trans hw)))
  · show (s.watched fd || decide (fd ∈ (session'.clientinfo j).watches)) = true ↔ _
    rw [hwatches, Bool.or_eq_true, h.watched, decide_eq_true_iff, List.mem_singleton]
    constructor
    · rintro (⟨addr₁, j₁, hold⟩ | rfl)
      · exact ⟨addr₁, j₁, (hholds addr₁ j₁ fd).mpr (Or.inr hold)⟩
      · exact ⟨addr, j, (hholds addr j _).mpr (Or.inl ⟨rfl, rfl, rfl⟩)⟩
    · rintro ⟨addr₁, j₁, hnew⟩
      obtain ⟨-, -, hfd⟩ | hold := (hholds addr₁ j₁ fd).mp hnew
      · exact Or.inr hfd
      · exact Or.inl ⟨addr₁, j₁, hold⟩

end Sockets

namespace Server

variable {S S' : Server} {addr j : Nat} {a : AddArgs} {audioType : AudioE} {mem : Fresh}

theorem addClient_cases (h : S.addClient addr a audioType mem = some S') :
    (∃ addr' j s s', S.heap addr' = some s ∧ s.join a audioType mem = some (j, s') ∧
      (S.lookup a audioType mem).1 = .joined addr' j ∧ S' = (S.setSession addr' s').addSum 1) ∨
    ((S.lookup a audioType mem).1 = .full ∧ S' = S) ∨
    ∃ pos, (S.lookup a audioType mem).1 = .missing pos ∧ S.heap addr = none ∧
      S' = (S.addSession addr pos a audioType mem).addSum 1 := by
  rw [Server.addClient] at h
  obtain ⟨addr', j, s, s', hs, hjoin, hr⟩ | hr | ⟨pos, -, -, hr⟩ :=
    lookup_cases (rfl : S.lookup a audioType mem = _)
  · rw [hr] at h ⊢
    exact Or.inl ⟨addr', j, s, s', hs, hjoin, rfl, (Option.some.inj h).symm⟩
  · rw [hr] at h ⊢
    exact Or.inr (Or.inl ⟨rfl, (Option.some.inj h).symm⟩)
  · rw [hr] at h ⊢
    obtain ⟨⟨-, hfree⟩, hnext⟩ := Option.ite_none_right_eq_some.mp h
    exact Or.inr (Or.inr ⟨pos, rfl, Option.isNone_iff_eq_none.mp hfree,
      (Option.some.inj hnext).symm⟩)

theorem clientOffline_cases (h : S.clientOffline addr j = some S') :
    ∃ s, S.heap addr = some s ∧ j < CLIENTMAX ∧ (s.clientinfo j).sd ≠ -1 ∧
      ((s.offline j).count ≠ 0 ∧ S' = (S.setSession addr (s.offline j)).addSum (-1) ∨
        (s.offline j).count = 0 ∧
          ((S.setSession addr (s.offline j)).addSum (-1)).dropSession s.pos = some S') := by
  rw [Server.clientOffline] at h
  split at h
  · exact absurd h (by simp)
  rename_i s hs
  obtain ⟨⟨hj, hsd⟩, hnext⟩ := Option.ite_none_right_eq_some.mp h
  refine ⟨s, hs, hj, hsd, ?_⟩
  dsimp only at hnext
  split_ifs at hnext with hlast
  · exact Or.inr ⟨hlast, hnext⟩
  · exact Or.inl ⟨hlast, (Option.some.inj hnext).symm⟩

end Server

namespace Sockets

variable {s s' : Sockets} {id addr j : Nat}

theorem watches_setClient {c : Clientinfo} (hc : c.TcpOnly) {a : AddArgs} (htcp : a.tureOfTcp = 1)
    (hsd : 0 < a.clientSockFd) (audioType : AudioE) (mem : Fresh) (slot : Nat) :
    (setClient a audioType mem slot c).watches = [a.clientSockFd] := by
  have hsock := Session.setClient_sd a audioType mem slot c
  rw [(hc.setClient htcp audioType mem slot).watches (by omega), hsock]

theorem Inv.joined (h : s.Inv) {conn : Conn} {a : AddArgs}
    (hw : s.workers id = some (.adding conn a))
    {audioType : AudioE} {mem : Fresh} {session session' : Session}
    (hs : s.server.heap addr = some session)
    (hjoin : session.join a audioType mem = some (j, session'))
    (hconsistent : ((s.server.setSession addr session').addSum 1).Consistent) :
    ({ s with server := (s.server.setSession addr session').addSum 1 }.stored id conn.clientSockFd
      (some (addr, j))).Inv := by
  obtain ⟨htcp, hsock⟩ := h.adding id conn a hw
  have hpos : 0 < a.clientSockFd := hsock ▸ h.positive id _ hw
  obtain ⟨hj, hfree, hsession⟩ := Session.join_some hjoin
  have hclients : session'.clientinfo =
      (session.setSlot j (setClient a audioType mem j (session.clientinfo j))).clientinfo := by
    rw [hsession]
  have hslots := h.tcp addr session hs
  have hclient := (hslots j hj).setClient htcp audioType mem j
  refine h.store hw hconsistent (h.tcp.setSession fun i hi => ?_)
    ((s.server.setSession_heap addr session' addr).trans (if_pos rfl)) ?_ fun addr₁ j₁ fd₁ => ?_
  · rw [hclients]
    by_cases hij : i = j
    · subst hij
      rw [Session.setSlot_self]
      exact hclient
    · rw [Session.setSlot_of_ne session _ hij]
      exact hslots i hi
  · rw [hclients, Session.setSlot_self, watches_setClient (hslots j hj) htcp hpos, hsock]
  · show (s.server.setSession addr session').Holds addr₁ j₁ fd₁ ↔ _
    rw [Server.holds_setSlot hs hclients, Session.setClient_sd, hsock]
    constructor
    · rintro (⟨rfl, rfl, -, rfl, -⟩ | ⟨-, hold⟩)
      · exact Or.inl ⟨rfl, rfl, rfl⟩
      · exact Or.inr hold
    · rintro (⟨rfl, rfl, rfl⟩ | hold)
      · exact Or.inl ⟨rfl, rfl, hj, rfl, by omega⟩
      · refine Or.inr ⟨?_, hold⟩
        -- the slot was free
        rintro ⟨rfl, rfl⟩
        obtain ⟨session₁, hs₁, -, hsd, hne⟩ := hold
        obtain rfl := Option.some.inj (hs.symm.trans hs₁)
        exact hne (hsd.symm.trans hfree)

theorem Inv.created (h : s.Inv) {conn : Conn} {a : AddArgs}
    (hw : s.workers id = some (.adding conn a)) {audioType : AudioE} {mem : Fresh} {pos : Nat}
    (hfree : s.server.heap addr = none)
    (hconsistent : ((s.server.addSession addr pos a audioType mem).addSum 1).Consistent) :
    ({ s with server := (s.server.addSession addr pos a audioType mem).addSum 1 }.stored id
      conn.clientSockFd (some (addr, 0))).Inv := by
  obtain ⟨htcp, hsock⟩ := h.adding id conn a hw
  have hpos : 0 < a.clientSockFd := hsock ▸ h.positive id _ hw
  let session := Session.create addr a audioType mem pos
  let c : Clientinfo := { initClient with session := some addr }
  have hfirst : session.clientinfo 0 = setClient a audioType mem 0 c := by
    simp only [session, c, Session.create, Function.update_self]
  have hother : ∀ i ≠ 0, session.clientinfo i = c := fun i hi =>
    Session.create_clientinfo addr a audioType mem pos hi
  have hempty : c.TcpOnly := .initClient (some addr)
  have hheap : ∀ addr', (s.server.addSession addr pos a audioType mem).heap addr' =
      if addr' = addr then some session else s.server.heap addr' := Server.addSession_heap
  refine h.store hw hconsistent (fun addr₁ session₁ hs₁ => ?_)
    ((hheap addr).trans (if_pos rfl)) ?_ ?_
  · have hs₁' : (s.server.addSession addr pos a audioType mem).heap addr₁ = some session₁ := hs₁
    rw [hheap] at hs₁'
    split_ifs at hs₁'
    · intro i _
      rw [← Option.some.inj hs₁']
      by_cases hi : i = 0
      · rw [hi, hfirst]
        exact hempty.setClient htcp audioType mem 0
      · rw [hother i hi]
        exact hempty
    · exact h.tcp addr₁ session₁ hs₁'
  · rw [hfirst, watches_setClient hempty htcp hpos, hsock]
  · intro addr₁ j₁ fd₁
    show (∃ session₁, (s.server.addSession addr pos a audioType mem).heap addr₁ = some session₁ ∧
      j₁ < CLIENTMAX ∧ (session₁.clientinfo j₁).sd = fd₁ ∧ fd₁ ≠ -1) ↔ _
    rw [hheap]
    by_cases haddr : addr₁ = addr
    · subst haddr
      rw [if_pos rfl]
      constructor
      · rintro ⟨session₁, hs₁, -, hsd, hne⟩
        obtain rfl := Option.some.inj hs₁
        by_cases hj₁ : j₁ = 0
        · rw [hj₁, hfirst, Session.setClient_sd, hsock] at hsd
          exact Or.inl ⟨rfl, hj₁, hsd.symm⟩
        · rw [hother j₁ hj₁] at hsd
          exact absurd hsd.symm hne
      · rintro (⟨-, rfl, rfl⟩ | ⟨session₁, hs₁, -⟩)
        · refine ⟨session, rfl, by decide, ?_, by omega⟩
          rw [hfirst, Session.setClient_sd, hsock]
        · rw [hfree] at hs₁
          exact absurd hs₁ (by simp)
    · rw [if_neg haddr]
      exact ⟨Or.inr, fun hor => hor.resolve_left fun hnew => haddr hnew.1⟩

theorem Inv.addClient (h : s.Inv) {audioType : AudioE} {mem : Fresh}
    (hadd : s.addClient id addr audioType mem = some s') : s'.Inv := by
  rw [Sockets.addClient] at hadd
  split at hadd
  · rename_i conn a hw
    obtain ⟨S', hS', rfl⟩ := Option.map_eq_some_iff.mp hadd
    obtain ⟨-, hsock⟩ := h.adding id conn a hw
    have hpos : 0 < a.clientSockFd := hsock ▸ h.positive id _ hw
    have hconsistent := h.consistent.addClient hpos hS'
    obtain ⟨addr', j, session, session', hs, hjoin, hlookup, rfl⟩ | ⟨hlookup, rfl⟩ |
      ⟨pos, hlookup, hfree, rfl⟩ := Server.addClient_cases hS'
    · rw [hlookup]
      exact h.joined hw hs hjoin hconsistent
    · rw [hlookup]
      exact h.finish hw
    · rw [hlookup]
      exact h.created hw hfree hconsistent
  · exact absurd hadd (by simp)

theorem Inv.sameSockets (h : s.Inv) {session session' : Session}
    (hs : s.server.heap addr = some session) (hsame : session.SameSockets session')
    {ledger : Ledger Holder Deed Int} (hkept : ledger.Kept Record .close s.Owns s.accepted)
    (leaving : Option (Nat × Nat)) :
    Inv { s with
      server := s.server.setSession addr session'
      leaving := leaving
      ledger := ledger } := by
  have hholds := Server.holds_sameSockets hs hsame
  refine ⟨h.consistent.sameSockets hs hsame, h.tcp.setSession fun j hj => ?_, h.serving, h.adding,
    h.positive, hkept.congr fun o fd => ?_, fun fd => ?_⟩
  · exact (hsame.slots j).tcpOnly (h.tcp addr session hs j hj)
  · cases o with
    | thread id => exact Iff.rfl
    | slot addr₁ j₁ => exact hholds addr₁ j₁ fd
  · refine (h.watched fd).trans ?_
    constructor
    · exact fun ⟨addr₁, j₁, hold⟩ => ⟨addr₁, j₁, (hholds addr₁ j₁ fd).mpr hold⟩
    · exact fun ⟨addr₁, j₁, hnew⟩ => ⟨addr₁, j₁, (hholds addr₁ j₁ fd).mp hnew⟩

theorem Inv.callback (h : s.Inv) {m : Delivery} {fresh : Nat → MediaE → Nat → MediaPacket}
    (hcallback : s.callback addr m fresh = some s') : s'.Inv := by
  obtain ⟨session, hs, rfl⟩ := Option.map_eq_some_iff.mp hcallback
  exact h.sameSockets hs (.callback session m.toMediainfo fresh) h.kept s.leaving

theorem Inv.event (h : s.Inv) {fd : Int} {node : MediaPacket} {env : SendEnv}
    {result : Nat → Nat → Int} (hevent : s.event addr j fd node env result = some s') : s'.Inv := by
  rw [Sockets.event] at hevent
  split at hevent
  · rename_i session hleaving hs
    obtain ⟨⟨hj, hfd⟩, hnext⟩ := Option.ite_none_right_eq_some.mp hevent
    obtain ⟨t, ht, rfl⟩ := Option.map_eq_some_iff.mp hnext
    refine h.sameSockets hs (.setSlot session (.turn ht)) ?_ _
    have hcalls := turn_sd (h.tcp addr session hs j hj) hfd ht
    cases hsent : t.sent.elim [] Prod.snd with
    | nil => exact h.kept
    | cons call rest =>
      rw [hsent] at hcalls
      have hsd := (hcalls call List.mem_cons_self).2
      have hslot : s.Owns (.slot addr j) (session.clientinfo j).sd :=
        ⟨session, hs, hj, rfl, by omega⟩
      refine h.kept.acts hslot ?_ SendCall.sd _ fun call' hcall' => (hcalls call' hcall').1
      rintro id record ⟨n, m, rfl⟩
      exact ⟨n, m + 1, by rw [List.replicate_succ', List.append_assoc]⟩
  · exact absurd hevent (by simp)

theorem Inv.leave (h : s.Inv) {session : Session} (hs : s.server.heap addr = some session)
    (hj : j < CLIENTMAX) (hsd : 0 < (session.clientinfo j).sd) {S' : Server}
    (hconsistent : S'.Consistent) (htcp : S'.TcpOnly)
    (hholds : ∀ addr₁ j₁ fd₁, S'.Holds addr₁ j₁ fd₁ ↔
      s.server.Holds addr₁ j₁ fd₁ ∧ fd₁ ≠ (session.clientinfo j).sd) :
    Inv { (s.eventDel (session.clientinfo j)).clear (.slot addr j) (session.clientinfo j) with
      server := S'
      leaving := none } := by
  have hclient := h.tcp addr session hs j hj
  have hslot : s.Owns (.slot addr j) (session.clientinfo j).sd := ⟨session, hs, hj, rfl, by omega⟩
  rw [clear, hclient.closes, if_pos hsd]
  refine ⟨hconsistent, htcp, h.serving, h.adding, h.positive,
    h.kept.close hslot fun o fd => ?_, fun fd => ?_⟩
  · cases o with
    | slot addr₁ j₁ => exact hholds addr₁ j₁ fd
    | thread id =>
      refine ⟨fun hthread => ⟨hthread, ?_⟩, And.left⟩
      rintro rfl
      have hsame := h.kept.single (.thread id) (.slot addr j) _ hthread hslot
      exact absurd hsame (by simp)
  · show Function.update (fun fd => s.watched fd && ! decide (fd ∈ (session.clientinfo j).watches))
      (session.clientinfo j).sd false fd = true ↔ ∃ addr₁ j₁, S'.Holds addr₁ j₁ fd
    rw [hclient.watches hsd]
    by_cases hfd : fd = (session.clientinfo j).sd
    · rw [hfd, Function.update_self]
      constructor
      · exact fun hfalse => absurd hfalse (by decide)
      · rintro ⟨addr₁, j₁, hnew⟩
        exact absurd rfl ((hholds addr₁ j₁ _).mp hnew).2
    · rw [Function.update_of_ne hfd, Bool.and_eq_true, h.watched]
      constructor
      · exact fun ⟨⟨addr₁, j₁, hold⟩, _⟩ => ⟨addr₁, j₁, (hholds addr₁ j₁ fd).mpr ⟨hold, hfd⟩⟩
      · rintro ⟨addr₁, j₁, hnew⟩
        exact ⟨⟨addr₁, j₁, ((hholds addr₁ j₁ fd).mp hnew).1⟩, by simp [hfd]⟩

theorem delSession_empty {session : Session}
    (hempty : ∀ i < CLIENTMAX, (session.clientinfo i).TcpOnly ∧ (session.clientinfo i).sd = -1) :
    s.delSession addr session = s := by
  suffices hloop : ∀ l : List Nat, (∀ i ∈ l, i < CLIENTMAX) → l.foldl (fun s i =>
      (if 0 < (session.clientinfo i).sd then s.eventDel (session.clientinfo i) else s).clear
        (.slot addr i) (session.clientinfo i)) s = s from
    hloop (List.range CLIENTMAX) fun i hi => List.mem_range.mp hi
  intro l hl
  induction l with
  | nil => rfl
  | cons i rest ih =>
    obtain ⟨hclient, hsd⟩ := hempty i (hl i List.mem_cons_self)
    have hnot : ¬ 0 < (session.clientinfo i).sd := by omega
    rw [List.foldl_cons, if_neg hnot, clear, hclient.closes, if_neg hnot, List.foldl_nil]
    exact ih fun i' hi' => hl i' (List.mem_cons_of_mem i hi')

theorem tcpOnly_offline {session : Session}
    (hslots : ∀ i < CLIENTMAX, (session.clientinfo i).TcpOnly) (hj : j < CLIENTMAX)
    (hsd : 0 < (session.clientinfo j).sd) :
    ∀ i < CLIENTMAX, ((session.offline j).clientinfo i).TcpOnly := by
  intro i hi
  show ((session.setSlot j (clearClient (session.clientinfo j))).clientinfo i).TcpOnly
  by_cases hij : i = j
  · subst hij
    rw [Session.setSlot_self]
    exact ((hslots i hi).clearClient hsd).1
  · rw [Session.setSlot_of_ne session _ hij]
    exact hslots i hi

theorem Inv.holds_offline (h : s.Inv) {session : Session}
    (hs : s.server.heap addr = some session) (hj : j < CLIENTMAX)
    (hsd : 0 < (session.clientinfo j).sd) (addr₁ j₁ : Nat) (fd₁ : Int) :
    (s.server.setSession addr (session.offline j)).Holds addr₁ j₁ fd₁ ↔
      s.server.Holds addr₁ j₁ fd₁ ∧ fd₁ ≠ (session.clientinfo j).sd := by
  have hslot : s.Owns (.slot addr j) (session.clientinfo j).sd := ⟨session, hs, hj, rfl, by omega⟩
  have hfree := ((h.tcp addr session hs j hj).clearClient hsd).2
  rw [Server.holds_setSlot hs (rfl : (session.offline j).clientinfo = _), hfree]
  constructor
  · rintro (⟨-, -, -, rfl, hne⟩ | ⟨hother, hold⟩)
    · exact absurd rfl hne
    · refine ⟨hold, ?_⟩
      rintro rfl
      have hsame := h.kept.single (.slot addr₁ j₁) (.slot addr j) _ hold hslot
      exact hother (by simpa using hsame)
  · rintro ⟨hold, hne⟩
    refine Or.inr ⟨?_, hold⟩
    rintro ⟨rfl, rfl⟩
    obtain ⟨session₁, hs₁, -, hsd₁, -⟩ := hold
    obtain rfl := Option.some.inj (hs.symm.trans hs₁)
    exact hne hsd₁.symm

theorem Inv.offline (h : s.Inv) (hoffline : s.offline = some s') : s'.Inv := by
  rw [Sockets.offline] at hoffline
  split at hoffline
  · exact absurd hoffline (by simp)
  rename_i addr j hleaving
  split at hoffline
  · exact absurd hoffline (by simp)
  rename_i session hs
  obtain ⟨S', hS', rfl⟩ := Option.map_eq_some_iff.mp hoffline
  have hconsistent := h.consistent.clientOffline hS'
  obtain ⟨session₁, hs₁, hj, hused, hcases⟩ := Server.clientOffline_cases hS'
  obtain rfl := Option.some.inj (hs.symm.trans hs₁)
  obtain ⟨hcounted, -⟩ := h.consistent.sessions addr session hs
  have hsd : 0 < (session.clientinfo j).sd := (hcounted.sds j hj).resolve_left hused
  have hafter := tcpOnly_offline (h.tcp addr session hs) hj hsd
  have hholds := h.holds_offline hs hj hsd
  obtain ⟨hcount, rfl⟩ | ⟨hcount, hdrop⟩ := hcases
  · rw [deleted, if_neg hcount]
    exact h.leave hs hj hsd hconsistent (h.tcp.setSession hafter) hholds
  · -- the last client: its session is deleted, and there is nothing left in it to close
    obtain ⟨hpos, -, -⟩ := session.offline_frame j
    have hlinked : ((s.server.setSession addr (session.offline j)).addSum (-1)).Linked :=
      (h.consistent.linked.setSession hs hpos).addSum _
    have hheap : (s.server.setSession addr (session.offline j)).heap addr =
        some (session.offline j) := (Server.setSession_heap _ _ _ _).trans (if_pos rfl)
    have hcounted' := hcounted.offline hj hused
    obtain ⟨-, hdropped, -, -⟩ := Server.dropSession_spec hlinked hheap hcounted' hcount hdrop
    have hnobody := hcounted'.nobody hcount
    have hdeleted : deleted s.server addr j session = some (addr, session.offline j) := by
      rw [deleted, if_pos hcount, h.consistent.linked.heap addr session hs, Option.bind_some, hheap]
      rfl
    have hkept : ∀ s₁ : Sockets,
        (deleted s.server addr j session).elim s₁ (fun r => s₁.delSession r.1 r.2) = s₁ := by
      intro s₁
      rw [hdeleted, Option.elim_some, delSession_empty fun i hi => ⟨hafter i hi, hnobody i hi⟩]
    dsimp only
    rw [hkept]
    refine h.leave hs hj hsd hconsistent (fun addr₁ session₁ hs₁ => ?_) fun addr₁ j₁ fd₁ => ?_
    · rw [hdropped] at hs₁
      split_ifs at hs₁
      exact h.tcp.setSession hafter addr₁ session₁ hs₁
    · rw [← hholds]
      show (∃ session₁, S'.heap addr₁ = some session₁ ∧ _) ↔ ∃ session₁, _ = some session₁ ∧ _
      rw [hdropped]
      split_ifs with haddr
      · constructor
        · exact fun ⟨_, hnone, _⟩ => absurd hnone (by simp)
        · rintro ⟨session₁, hs₁, hj₁, hsd₁, hne⟩
          rw [haddr, hheap] at hs₁
          obtain rfl := Option.some.inj hs₁
          exact absurd (hsd₁.symm.trans (hnobody j₁ hj₁)) hne
      · exact Iff.rfl

theorem Inv.step (h : s.Inv) {l : Label} (hstep : s.step l = some s') : s'.Inv := by
  cases l with
  | accept conn filename localIp => exact h.accept hstep
  | request id w msg => exact h.request hstep
  | hangUp id => exact h.hangUp hstep
  | addClient id addr audioType mem => exact h.addClient hstep
  | callback addr m fresh => exact h.callback hstep
  | event addr j fd node env result => exact h.event hstep
  | offline => exact h.offline hstep

/-! ## Every socket has one owner -/

structure Owned (s : Sockets) : Prop where
  /-- an open socket has one owner: the thread of its connection, or one slot -/
  owner : ∀ fd id, s.ledger.resource fd = some id → ∃! o, s.Owns o fd
  /-- an owned socket is open, its connection's thread has written replies to it, and if it is in a
  slot, packets were written to it from this slot after that -/
  record : ∀ o fd, s.Owns o fd →
    ∃ id, s.ledger.resource fd = some id ∧ Record id o (s.ledger.log id)
  /-- what was written to a closed socket was written by its owners, the last one closed it, and
  nothing was done to it since -/
  closed : ∀ id, (∀ fd, s.ledger.resource fd ≠ some id) → s.ledger.log id = [] ∨
    ∃ o record, Record id o record ∧ s.ledger.log id = record ++ [(o, .close)]
  /-- nothing was written to or closed that was not open -/
  noStray : s.ledger.stray = false
  watched : ∀ fd, s.watched fd = true ↔ ∃ addr j, s.Owns (.slot addr j) fd

/-- **Sockets.** In every run an open socket has one owner, only its owner writes to it and closes
it, the replies come before the first packet, and the watched descriptors are the sockets in the
slots. -/
theorem owned_reachable (s : Sockets) (h : Reach step anyStep init s) : s.Owned := by
  have hinv : s.Inv := h.invariant inv_init fun _ _ _ hinv _ hstep => hinv.step hstep
  refine ⟨fun fd id hid => ?_, hinv.kept.isOpen, hinv.kept.ended, hinv.kept.noStray, hinv.watched⟩
  obtain ⟨o, ho⟩ := hinv.kept.owned fd id hid
  exact ⟨o, ho, fun o' ho' => hinv.kept.single o' o fd ho' ho⟩

def setupTcp : List UInt8 :=
  str "SETUP rtsp://10.0.0.1:8554/a.mp4/track0 RTSP/1.0\r\nCSeq: 3\r\n" ++
    str "Transport: RTP/AVP/TCP;unicast;interleaved=0-1\r\n\r\n"

def playTcp : List UInt8 := str "PLAY rtsp://10.0.0.1:8554/a.mp4 RTSP/1.0\r\nCSeq: 4\r\n\r\n"

/-- A client plays and leaves after a refused send, and `accept` returns its descriptor again. -/
def reopened : List Label :=
  [.accept openConn [] [], .request 0 easyWorld setupTcp, .request 0 easyWorld playTcp,
    .addClient 0 7 .aac zeroFresh, .callback 7 (nalDelivery 0x41) fun _ _ _ => zeroPacket,
    .event 7 0 7 zeroPacket zeroEnv fun _ _ => -1, .offline, .accept openConn [] []]

theorem owned_reopened : ∃ s, Reach step anyStep init s ∧ s.Owned ∧
    s.ledger.resource 7 = some 1 ∧ s.watched 7 = false ∧
    (s.ledger.log 0).map Prod.snd = [.reply, .reply, .rtp, .close] := by
  have hrun : (runs step init reopened).map (fun s =>
      (s.ledger.resource 7, s.watched 7, (s.ledger.log 0).map Prod.snd)) =
      some (some 1, false, [.reply, .reply, .rtp, .close]) := by decide +kernel
  obtain ⟨s, hs, hstate⟩ := Option.map_eq_some_iff.mp hrun
  obtain ⟨hopen, hwatched, hlog⟩ : s.ledger.resource 7 = some 1 ∧ s.watched 7 = false ∧
      (s.ledger.log 0).map Prod.snd = [.reply, .reply, .rtp, .close] := by
    simpa using hstate
  have hreach := Reach.of_runs reopened hs
  exact ⟨s, hreach, owned_reachable s hreach, hopen, hwatched, hlog⟩

end Sockets

end SimpleRtsp

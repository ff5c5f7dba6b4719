import SimpleRtsp.Lib.Ledger
import SimpleRtsp.Rtsp.UdpSetup
import SimpleRtsp.Session.Accounting
import SimpleRtsp.Session.Hosted

/-!
# The sockets of the server

A client's socket is `doClientThd`'s until `addClient` has stored it in a slot, and then the slot's
until the client is cleared. `Sockets` is the server with its connection threads, the epoll thread,
the set of watched descriptors and the kernel's ledger of the sockets: which connection a descriptor
is open for, and for every connection who wrote to it and who closed it. A request, a call of
`addClient` and the handling of a client that goes offline are one step each; `accept` returns a
positive descriptor that is not open.

The module has the steps, and what each of them does to the sockets that are in slots.
-/

namespace SimpleRtsp

/-! ## The model -/

/-- A connection thread. -/
inductive Worker where
  | serving (conn : Conn) (t : Thread)
  /-- it has replied to PLAY and calls `addClient` -/
  | adding (conn : Conn) (a : AddArgs)

def Worker.fd : Worker → Int
  | .serving conn _ => conn.clientSockFd
  | .adding conn _ => conn.clientSockFd

inductive Holder where
  | thread (id : Nat)
  | slot (addr j : Nat)

/-- What is done to a socket. -/
inductive Deed where
  | reply
  | rtp
  | close
  deriving DecidableEq

/-- The descriptors `eventAdd` and `eventDel` are about. -/
def Clientinfo.watches (c : Clientinfo) : List Int :=
  if c.sd < 0 then []
  else if c.transport = some .rtpOverTcp then [c.sd]
  else [c.udpSdRtp, c.udpSdRtp1].filter (· ≠ -1)

/-- The descriptors `clearClient` closes. -/
def Clientinfo.closes (c : Clientinfo) : List Int :=
  [c.sd, c.udpSdRtp, c.udpSdRtcp, c.udpSdRtp1, c.udpSdRtcp1].filter (0 < ·)

structure Sockets where
  server : Server
  workers : Nat → Option Worker
  /-- how many connections were accepted -/
  accepted : Nat
  /-- the client that the epoll thread is about to clear -/
  leaving : Option (Nat × Nat)
  ledger : Ledger Holder Deed Int
  watched : Int → Bool

namespace Sockets

def init : Sockets := ⟨.init, fun _ => none, 0, none, .init, fun _ => false⟩

def setWorker (id : Nat) (w : Option Worker) (s : Sockets) : Sockets :=
  { s with workers := Function.update s.workers id w }

def write (o : Holder) (d : Deed) (fd : Int) (s : Sockets) : Sockets :=
  { s with ledger := s.ledger.act o d fd }

/-- `close` takes a descriptor out of the watched ones, too. -/
def closeFd (o : Holder) (fd : Int) (s : Sockets) : Sockets :=
  { s with
    ledger := s.ledger.close o .close fd
    watched := Function.update s.watched fd false }

def eventAdd (c : Clientinfo) (s : Sockets) : Sockets :=
  { s with watched := fun fd => s.watched fd || decide (fd ∈ c.watches) }

def eventDel (c : Clientinfo) (s : Sockets) : Sockets :=
  { s with watched := fun fd => s.watched fd && ! decide (fd ∈ c.watches) }

/-- `clearClient` on the slot of the owner. -/
def clear (o : Holder) (c : Clientinfo) (s : Sockets) : Sockets :=
  c.closes.foldl (fun s fd => s.closeFd o fd) s

/-- `accept`, and the thread of the connection. -/
def accept (conn : Conn) (filename localIp : List UInt8) (s : Sockets) : Option Sockets :=
  if 0 < conn.clientSockFd ∧ (s.ledger.resource conn.clientSockFd).isNone then
    some { s.setWorker s.accepted (some (.serving conn (.init filename localIp))) with
      accepted := s.accepted + 1
      ledger := s.ledger.openFor s.accepted conn.clientSockFd }
  else none

/-- What the thread does with the outcome of a request. -/
def answer (id : Nat) (conn : Conn) (s : Sockets) : Outcome → Sockets
  | .closed none => (s.closeFd (.thread id) conn.clientSockFd).setWorker id none
  | .closed (some _) =>
    ((s.write (.thread id) .reply conn.clientSockFd).closeFd (.thread id)
      conn.clientSockFd).setWorker id none
  | .unauthorized _ => s.write (.thread id) .reply conn.clientSockFd
  | .replied t _ _ =>
    (s.write (.thread id) .reply conn.clientSockFd).setWorker id (some (.serving conn t))
  | .played _ a _ =>
    (s.write (.thread id) .reply conn.clientSockFd).setWorker id (some (.adding conn a))

/-- A request of a connection. The world's answer of `addClient` is not used, it comes from the next
step of the thread. -/
def request (id : Nat) (w : World) (msg : List UInt8) (s : Sockets) : Option Sockets :=
  match s.workers id with
  | some (.serving conn t) => (handleRequest conn w t msg).toOption.map (s.answer id conn)
  | _ => none

/-- `recv` returns nothing. -/
def hangUp (id : Nat) (s : Sockets) : Option Sockets :=
  match s.workers id with
  | some (.serving conn _) => some ((s.closeFd (.thread id) conn.clientSockFd).setWorker id none)
  | _ => none

/-- The slot in which `addClient` has stored the client; `addr` is the address of a new session. -/
def placedAt (addr : Nat) : Server.Lookup → Option (Nat × Nat)
  | .joined addr' j => some (addr', j)
  | .full => none
  | .missing _ => some (addr, 0)

/-- What follows `addClient`: the thread ends, and closes the socket of a client that was turned
away. -/
def stored (id : Nat) (fd : Int) (s : Sockets) : Option (Nat × Nat) → Sockets
  | none => (s.closeFd (.thread id) fd).setWorker id none
  | some (addr, j) =>
    ((s.server.heap addr).elim s fun session => s.eventAdd (session.clientinfo j)).setWorker id none

def addClient (id addr : Nat) (audioType : AudioE) (mem : Fresh) (s : Sockets) : Option Sockets :=
  match s.workers id with
  | some (.adding conn a) =>
    (s.server.addClient addr a audioType mem).map fun S =>
      { s with server := S }.stored id conn.clientSockFd
        (placedAt addr (s.server.lookup a audioType mem).1)
  | _ => none

def callback (addr : Nat) (m : Delivery) (fresh : Nat → MediaE → Nat → MediaPacket) (s : Sockets) :
    Option Sockets :=
  (s.server.heap addr).map fun session =>
    { s with server := s.server.setSession addr (session.mediaCallBack m.toMediainfo fresh).1 }

/-- An event on `fd`, up to the test whether the client goes offline. -/
def event (addr j : Nat) (fd : Int) (node : MediaPacket) (env : SendEnv)
    (result : Nat → Nat → Int) (s : Sockets) : Option Sockets :=
  match s.leaving, s.server.heap addr with
  | none, some session =>
    if j < CLIENTMAX ∧ 0 ≤ fd then
      (turn (session.clientinfo j) fd node env result).map fun t =>
        { s with
          server := s.server.setSession addr (session.setSlot j t.client)
          leaving := if t.offline then some (addr, j) else none
          ledger := (t.sent.elim [] Prod.snd).foldl
            (fun l call => l.act (.slot addr j) .rtp call.sd) s.ledger }
    else none
  | _, _ => none

def delSession (addr : Nat) (session : Session) (s : Sockets) : Sockets :=
  (List.range CLIENTMAX).foldl (fun s i =>
    (if 0 < (session.clientinfo i).sd then s.eventDel (session.clientinfo i) else s).clear
      (.slot addr i) (session.clientinfo i)) s

/-- The session that is deleted when the client in slot `j` has left, if it was the last. -/
def deleted (S : Server) (addr j : Nat) (session : Session) : Option (Nat × Session) :=
  if (session.offline j).count = 0 then
    (S.sessionArr session.pos).bind fun addr' =>
      ((S.setSession addr (session.offline j)).heap addr').map fun session' => (addr', session')
  else none

/-- The client that is leaving goes offline. -/
def offline (s : Sockets) : Option Sockets :=
  match s.leaving with
  | none => none
  | some (addr, j) =>
    match s.server.heap addr with
    | none => none
    | some session =>
      (s.server.clientOffline addr j).map fun S =>
        let s' := (s.eventDel (session.clientinfo j)).clear (.slot addr j) (session.clientinfo j)
        { (deleted s.server addr j session).elim s' fun r => s'.delSession r.1 r.2 with
          server := S
          leaving := none }

inductive Label where
  | accept (conn : Conn) (filename localIp : List UInt8)
  | request (id : Nat) (w : World) (msg : List UInt8)
  | hangUp (id : Nat)
  | addClient (id addr : Nat) (audioType : AudioE) (mem : Fresh)
  | callback (addr : Nat) (m : Delivery) (fresh : Nat → MediaE → Nat → MediaPacket)
  | event (addr j : Nat) (fd : Int) (node : MediaPacket) (env : SendEnv)
      (result : Nat → Nat → Int)
  | offline

def step (s : Sockets) : Label → Option Sockets
  | .accept conn filename localIp => s.accept conn filename localIp
  | .request id w msg => s.request id w msg
  | .hangUp id => s.hangUp id
  | .addClient id addr audioType mem => s.addClient id addr audioType mem
  | .callback addr m fresh => s.callback addr m fresh
  | .event addr j fd node env result => s.event addr j fd node env result
  | .offline => s.offline

end Sockets

/-! ## Sockets in slots -/

def Server.Holds (S : Server) (addr j : Nat) (fd : Int) : Prop :=
  ∃ s, S.heap addr = some s ∧ j < CLIENTMAX ∧ (s.clientinfo j).sd = fd ∧ fd ≠ -1

/-- A slot as it is without RTP over UDP. -/
structure Clientinfo.TcpOnly (c : Clientinfo) : Prop where
  udp : c.udpSdRtp = -1 ∧ c.udpSdRtcp = -1 ∧ c.udpSdRtp1 = -1 ∧ c.udpSdRtcp1 = -1
  transport : c.sd ≠ -1 → c.transport = some .rtpOverTcp

/-- The fields that say whose sockets a slot has. -/
structure Clientinfo.SameSockets (c c' : Clientinfo) : Prop where
  sd : c'.sd = c.sd
  session : c'.session = c.session
  transport : c'.transport = c.transport
  udp : c'.udpSdRtp = c.udpSdRtp ∧ c'.udpSdRtcp = c.udpSdRtcp ∧ c'.udpSdRtp1 = c.udpSdRtp1 ∧
    c'.udpSdRtcp1 = c.udpSdRtcp1

namespace Clientinfo.SameSockets

variable {c c' c'' : Clientinfo}

theorem refl (c : Clientinfo) : c.SameSockets c := ⟨rfl, rfl, rfl, rfl, rfl, rfl, rfl⟩

theorem trans (h : c.SameSockets c') (h' : c'.SameSockets c'') : c.SameSockets c'' := by
  obtain ⟨hrtp, hrtcp, hrtp1, hrtcp1⟩ := h.udp
  obtain ⟨hrtp', hrtcp', hrtp1', hrtcp1'⟩ := h'.udp
  exact ⟨h'.sd.trans h.sd, h'.session.trans h.session, h'.transport.trans h.transport,
    hrtp'.trans hrtp, hrtcp'.trans hrtcp, hrtp1'.trans hrtp1, hrtcp1'.trans hrtcp1⟩

theorem of_requeued (h : c.Requeued c') : c.SameSockets c' := by
  obtain ⟨video, audio, rfl⟩ := h
  exact ⟨rfl, rfl, rfl, rfl, rfl, rfl, rfl⟩

theorem of_rebuffered (h : c.Rebuffered c') : c.SameSockets c' := by
  obtain ⟨packet, packet1, header, rfl⟩ := h
  exact ⟨rfl, rfl, rfl, rfl, rfl, rfl, rfl⟩

theorem tcpOnly (h : c.SameSockets c') (hc : c.TcpOnly) : c'.TcpOnly := by
  obtain ⟨hrtp, hrtcp, hrtp1, hrtcp1⟩ := h.udp
  obtain ⟨hnone, hnone', hnone1, hnone1'⟩ := hc.udp
  refine ⟨⟨hrtp.trans hnone, hrtcp.trans hnone', hrtp1.trans hnone1, hrtcp1.trans hnone1'⟩, ?_⟩
  rw [h.sd, h.transport]
  exact hc.transport

theorem turn {fd : Int} {node : MediaPacket} {env : SendEnv} {result : Nat → Nat → Int} {t : Turn}
    (ht : turn c fd node env result = some t) : c.SameSockets t.client := by
  rw [SimpleRtsp.turn] at ht
  split_ifs at ht with hmask
  · obtain rfl := Option.some.inj ht
    exact refl c
  · split at ht
    · obtain rfl := Option.some.inj ht
      exact refl c
    · rename_i hdequeue
      have hdequeued := of_requeued (Requeued.dequeue hdequeue)
      split_ifs at ht with hsize
      · obtain rfl := Option.some.inj ht
        exact hdequeued
      · obtain ⟨⟨ret, c', w⟩, htransmit, rfl⟩ := Option.map_eq_some_iff.mp ht
        exact hdequeued.trans (of_rebuffered (Rebuffered.transmit htransmit))

end Clientinfo.SameSockets

theorem sendNode_sd {env : SendEnv} {c c' : Clientinfo} {tcp : Bool} {node : MediaPacket}
    {ret : Int} {w w' : Wire} (h : sendNode env c tcp node w = some (ret, c', w')) :
    ∃ made, w'.calls = w.calls ++ made ∧
      ∀ call ∈ made, call.sd = (sendArgs c tcp node.type).sd := by
  rw [sendNode] at h
  split at h
  · obtain ⟨-, -, rfl⟩ : _ ∧ _ ∧ w = w' := by simpa using h
    exact ⟨[], (List.append_nil _).symm, fun _ hcall => absurd hcall List.not_mem_nil⟩
  · rename_i send hsend
    obtain ⟨packet, -, hsent⟩ := Option.map_eq_some_iff.mp h
    obtain ⟨-, hpair⟩ := Prod.mk.inj hsent
    obtain ⟨-, rfl⟩ := Prod.mk.inj hpair
    let t : Tx := ⟨if tcp then c.tcpHeader else none, packet, w⟩
    have hfollowed := (packetiser_routes hsend (sendArgs c tcp node.type)).followed t
    obtain ⟨made, hcalls, hmade⟩ := hfollowed.calls
    exact ⟨made, hcalls, fun call hcall => (hmade call hcall).sd⟩

/-- An event on a slot without RTP over UDP writes to its socket only. -/
theorem turn_sd {c : Clientinfo} (hc : c.TcpOnly) {fd : Int} (hfd : 0 ≤ fd) {node : MediaPacket}
    {env : SendEnv} {result : Nat → Nat → Int} {t : Turn}
    (ht : turn c fd node env result = some t) :
    ∀ call ∈ t.sent.elim [] Prod.snd, call.sd = c.sd ∧ 0 ≤ c.sd := by
  rw [turn] at ht
  split_ifs at ht with hmask
  · obtain rfl := Option.some.inj ht
    exact fun _ hcall => absurd hcall List.not_mem_nil
  · split at ht
    · obtain rfl := Option.some.inj ht
      exact fun _ hcall => absurd hcall List.not_mem_nil
    · rename_i node' c' hdequeue
      split_ifs at ht with hsize
      · obtain rfl := Option.some.inj ht
        exact fun _ hcall => absurd hcall List.not_mem_nil
      · obtain ⟨⟨ret, c₁, w⟩, htransmit, rfl⟩ := Option.map_eq_some_iff.mp ht
        -- the event is on the socket, so the packetiser is called for the socket
        have hsame := (Clientinfo.SameSockets.of_requeued (Clientinfo.Requeued.dequeue hdequeue)).sd
        have hon : fd = c'.sd := by
          simp only [dequeue, Option.bind_eq_bind, Option.bind_eq_some_iff] at hdequeue
          obtain ⟨queue, hof, -⟩ := hdequeue
          obtain ⟨hrtp, -, hrtp1, -⟩ := hc.udp
          have hcases := Clientinfo.queueOf_some hof
          rw [hrtp, hrtp1] at hcases
          omega
        obtain ⟨⟨ret₁, c₂, w₁⟩, hnode, hpair⟩ := Option.map_eq_some_iff.mp htransmit
        obtain ⟨-, -, rfl⟩ : _ ∧ _ ∧ w₁ = w := by simpa using hpair
        obtain ⟨made, hcalls, hmade⟩ := sendNode_sd hnode
        have hargs : (sendArgs c' (fd == c'.sd) node'.type).sd = c'.sd := by
          rw [beq_iff_eq.mpr hon]
          cases node'.type <;> rfl
        intro call hcall
        have hcall' : call ∈ w₁.calls := hcall
        rw [hcalls, List.nil_append] at hcall'
        rw [hmade call hcall', hargs, hsame]
        exact ⟨rfl, by omega⟩

/-! ## What the steps of the server do to the sockets in slots -/

namespace Session

/-- The callback leaves the sockets of all slots. By induction over the scan of the slots. -/
theorem sameSockets_callback (s : Session) (m : Mediainfo)
    (fresh : Nat → MediaE → Nat → MediaPacket) (j : Nat) :
    (s.clientinfo j).SameSockets ((s.mediaCallBack m fresh).1.clientinfo j) := by
  rw [mediaCallBack]
  suffices hscan : ∀ (l : List Nat) (r : Session × List Nat),
      (r.1.clientinfo j).SameSockets ((l.foldl (callSlot m fresh) r).1.clientinfo j) from
    hscan _ (s, [])
  intro l
  induction l with
  | nil => exact fun r => .refl _
  | cons i rest ih =>
    intro r
    refine Clientinfo.SameSockets.trans ?_ (ih (callSlot m fresh r i))
    rw [callSlot]
    split
    · exact .refl _
    · rename_i arg harg
      split_ifs with hcall
      · by_cases hj : j = arg
        · subst hj
          rw [setSlot_self]
          exact .of_requeued (.sendData m _ _)
        · rw [setSlot_of_ne _ _ hj]
          exact .refl _
      · exact .refl _

theorem callback_frame (s : Session) (m : Mediainfo) (fresh : Nat → MediaE → Nat → MediaPacket) :
    (s.mediaCallBack m fresh).1.pos = s.pos ∧ (s.mediaCallBack m fresh).1.filename = s.filename ∧
      (s.mediaCallBack m fresh).1.count = s.count := by
  rw [mediaCallBack]
  suffices hscan : ∀ (l : List Nat) (r : Session × List Nat),
      (l.foldl (callSlot m fresh) r).1.pos = r.1.pos ∧
        (l.foldl (callSlot m fresh) r).1.filename = r.1.filename ∧
        (l.foldl (callSlot m fresh) r).1.count = r.1.count from hscan _ (s, [])
  intro l
  induction l with
  | nil => exact fun r => ⟨rfl, rfl, rfl⟩
  | cons i rest ih =>
    intro r
    have hone : (callSlot m fresh r i).1.pos = r.1.pos ∧
        (callSlot m fresh r i).1.filename = r.1.filename ∧
        (callSlot m fresh r i).1.count = r.1.count := by
      rw [callSlot]
      split
      · exact ⟨rfl, rfl, rfl⟩
      · split_ifs <;> exact ⟨rfl, rfl, rfl⟩
    obtain ⟨hpos, hname, hcount⟩ := ih (callSlot m fresh r i)
    exact ⟨hpos.trans hone.1, hname.trans hone.2.1, hcount.trans hone.2.2⟩

/-- A session with other contents but the same sockets. -/
structure SameSockets (s s' : Session) : Prop where
  pos : s'.pos = s.pos
  filename : s'.filename = s.filename
  count : s'.count = s.count
  slots : ∀ j, (s.clientinfo j).SameSockets (s'.clientinfo j)

theorem SameSockets.callback (s : Session) (m : Mediainfo)
    (fresh : Nat → MediaE → Nat → MediaPacket) : s.SameSockets (s.mediaCallBack m fresh).1 := by
  obtain ⟨hpos, hname, hcount⟩ := s.callback_frame m fresh
  exact ⟨hpos, hname, hcount, s.sameSockets_callback m fresh⟩

theorem SameSockets.setSlot (s : Session) {j : Nat} {c : Clientinfo}
    (hc : (s.clientinfo j).SameSockets c) : s.SameSockets (s.setSlot j c) := by
  refine ⟨rfl, rfl, rfl, fun i => ?_⟩
  by_cases hij : i = j
  · subst hij
    rw [setSlot_self]
    exact hc
  · rw [setSlot_of_ne s c hij]
    exact .refl _

theorem Counted.sameSockets {addr : Nat} {s s' : Session} (h : s.Counted addr)
    (hs : s.SameSockets s') : s'.Counted addr where
  count := by
    rw [hs.count, h.count]
    exact congrArg _ (used_congr fun j _ => by rw [(hs.slots j).sd])
  sds j hj := by
    rw [(hs.slots j).sd]
    exact h.sds j hj
  own j hj := by
    rw [(hs.slots j).session]
    exact h.own j hj

end Session

namespace Server

variable {S S' : Server} {addr j : Nat} {fd : Int}

/-- All slots of all sessions are without RTP over UDP. -/
def TcpOnly (S : Server) : Prop :=
  ∀ addr s, S.heap addr = some s → ∀ j < CLIENTMAX, (s.clientinfo j).TcpOnly

theorem Consistent.sameSockets (h : S.Consistent) {s s' : Session} (hs : S.heap addr = some s)
    (hsame : s.SameSockets s') : (S.setSession addr s').Consistent := by
  obtain ⟨hcounted, hcount⟩ := h.sessions addr s hs
  have hset := h.setSession hs hsame.pos hsame.filename (hcounted.sameSockets hsame)
    (hsame.count ▸ hcount)
  rw [hsame.count, Int.sub_self] at hset
  have hsum : (S.setSession addr s').addSum 0 = S.setSession addr s' := by
    simp [addSum, Server.setSession]
  rwa [hsum] at hset

theorem TcpOnly.setSession (h : S.TcpOnly) {s' : Session}
    (hs' : ∀ j < CLIENTMAX, (s'.clientinfo j).TcpOnly) : (S.setSession addr s').TcpOnly := by
  intro addr₁ s₁ hs₁
  rw [setSession_heap] at hs₁
  split_ifs at hs₁
  · obtain rfl := Option.some.inj hs₁
    exact hs'
  · exact h addr₁ s₁ hs₁

theorem holds_setSession (S : Server) {s' : Session} (addr₁ j₁ : Nat) (fd₁ : Int) :
    (S.setSession addr s').Holds addr₁ j₁ fd₁ ↔
      (addr₁ = addr ∧ j₁ < CLIENTMAX ∧ (s'.clientinfo j₁).sd = fd₁ ∧ fd₁ ≠ -1) ∨
        (addr₁ ≠ addr ∧ S.Holds addr₁ j₁ fd₁) := by
  rw [Holds, setSession_heap]
  by_cases haddr : addr₁ = addr
  · simp [haddr]
  · simp [haddr, Holds]

theorem holds_sameSockets {s s' : Session} (hs : S.heap addr = some s) (hsame : s.SameSockets s')
    (addr₁ j₁ : Nat) (fd₁ : Int) :
    (S.setSession addr s').Holds addr₁ j₁ fd₁ ↔ S.Holds addr₁ j₁ fd₁ := by
  rw [holds_setSession, (hsame.slots j₁).sd]
  by_cases haddr : addr₁ = addr
  · simp [haddr, Holds, hs]
  · simp [haddr]

theorem holds_setSlot {s : Session} (hs : S.heap addr = some s) {s' : Session} {c : Clientinfo}
    (hs' : s'.clientinfo = (s.setSlot j c).clientinfo) (addr₁ j₁ : Nat) (fd₁ : Int) :
    (S.setSession addr s').Holds addr₁ j₁ fd₁ ↔
      (addr₁ = addr ∧ j₁ = j ∧ j < CLIENTMAX ∧ c.sd = fd₁ ∧ fd₁ ≠ -1) ∨
        (¬ (addr₁ = addr ∧ j₁ = j) ∧ S.Holds addr₁ j₁ fd₁) := by
  rw [holds_setSession, hs']
  by_cases haddr : addr₁ = addr
  · subst haddr
    by_cases hj : j₁ = j
    · subst hj
      simp
    · simp [hj, Session.setSlot_of_ne s c hj, Holds, hs]
  · simp [haddr]

end Server

/-! ## Setting up and clearing a slot without RTP over UDP -/

namespace Clientinfo.TcpOnly

variable {c : Clientinfo} {a : AddArgs}

theorem initClient (session : Option Nat) :
    ({ initClient with session := session } : Clientinfo).TcpOnly :=
  ⟨⟨rfl, rfl, rfl, rfl⟩, fun h => absurd rfl h⟩

theorem setClient (hc : c.TcpOnly) (htcp : a.tureOfTcp = 1) (audioType : AudioE) (mem : Fresh)
    (slot : Nat) : (setClient a audioType mem slot c).TcpOnly := by
  obtain ⟨hrtp, hrtcp, hrtp1, hrtcp1⟩ := hc.udp
  simp only [SimpleRtsp.setClient, setTransport, if_pos htcp, setBuffers, SimpleRtsp.eventAdd]
  split_ifs <;> exact ⟨⟨hrtp, hrtcp, hrtp1, hrtcp1⟩, fun _ => rfl⟩

theorem clearClient (hc : c.TcpOnly) (hsd : 0 < c.sd) :
    (clearClient c).TcpOnly ∧ (clearClient c).sd = -1 := by
  obtain ⟨hrtp, hrtcp, hrtp1, hrtcp1⟩ := hc.udp
  have hclosed : (SimpleRtsp.clearClient c).sd = -1 := if_pos hsd
  refine ⟨⟨⟨?_, ?_, ?_, ?_⟩, fun h => absurd hclosed h⟩, hclosed⟩
  · show closeFd c.udpSdRtp = -1
    rw [hrtp]
    rfl
  · show closeFd c.udpSdRtcp = -1
    rw [hrtcp]
    rfl
  · show closeFd c.udpSdRtp1 = -1
    rw [hrtp1]
    rfl
  · show closeFd c.udpSdRtcp1 = -1
    rw [hrtcp1]
    rfl

theorem watches (hc : c.TcpOnly) (hsd : 0 < c.sd) : c.watches = [c.sd] := by
  rw [Clientinfo.watches, if_neg (by omega), if_pos (hc.transport (by omega))]

theorem closes (hc : c.TcpOnly) : c.closes = if 0 < c.sd then [c.sd] else [] := by
  obtain ⟨hrtp, hrtcp, hrtp1, hrtcp1⟩ := hc.udp
  rw [Clientinfo.closes, hrtp, hrtcp, hrtp1, hrtcp1]
  split_ifs with hsd <;> simp [hsd]

end Clientinfo.TcpOnly

/-! ## The call of `addClient` -/

/-- `addClient` is called with the socket of the connection. -/
def Outcome.ForSocket (conn : Conn) : Outcome → Prop
  | .played _ a _ => a.clientSockFd = conn.clientSockFd
  | _ => True

theorem handleSetup_forSocket (conn : Conn) (w : World) (t : Thread) (track0 : Bool) (r : Request) :
    Gives (Outcome.ForSocket conn) (handleSetup conn w t track0 r) := by
  rw [handleSetup]
  by_cases hudp : t.tureOfRtpTcp = 0
  · rw [if_pos hudp]
    exact .bind_any fun _ => .ok trivial
  rw [if_neg hudp]
  by_cases htcp : t.tureOfRtpTcp = 1
  · rw [if_pos htcp]
    exact .bind_any fun _ => .ok trivial
  · rw [if_neg htcp]
    exact .ok trivial

theorem respond_forSocket (conn : Conn) (w : World) (t : Thread) (r : Request) :
    Gives (Outcome.ForSocket conn) (respond conn w t r) := by
  rw [respond]
  split_ifs
  · exact .bind_any fun p => handleSetup_forSocket conn w p.1 p.2 r
  · refine .bind_any fun t' => ?_
    split_ifs <;> exact .ok trivial
  · refine .bind_any fun t' => ?_
    split_ifs
    · exact .ok trivial
    · refine .bind_any fun localIp => ?_
      split <;> exact .ok trivial
  · exact .bind_any fun path => .ok rfl
  · exact .ok trivial

theorem handleRequest_forSocket (conn : Conn) (w : World) (t : Thread) (msg : List UInt8) :
    Gives (Outcome.ForSocket conn) (handleRequest conn w t msg) := by
  refine .bind_any fun r => ?_
  split
  · exact .ok trivial
  · refine .bind_any fun authorized => ?_
    split
    · exact .ok trivial
    · exact .ok trivial
    · exact respond_forSocket conn w t _

end SimpleRtsp

import SimpleRtsp.Lib.LockOrder
import SimpleRtsp.Session.AddSession
import SimpleRtsp.Session.Server

/-!
# The locks

What the functions of `session.c` do to mutexes and threads, in the order in which they do it, for
whatever data they find. The connection threads run `addClient` and `getClientNum`, the media thread
of each session runs `mediaCallBack`, and the epoll thread runs the turns of `epollLoop`, which may
end in `delSession` and there wait for a media thread to exit.

The order given in the source is `mut_session`, a session's `mut`, a client's `mut_list`, and
`mut_epoll` and `mut_clientcount` on their own. `eventAdd` and `eventDel` take `mut_epoll` inside
the others, so `rank` puts it where `mut_list` is, and the exit of a media thread before all of
them, because that thread takes locks. Every call is nested by this rank (`Calls.nested`), hence
nobody waits in a cycle (`waits_acyclic`).
-/

namespace SimpleRtsp

namespace Locks

open LockOrder (Act State Nested)

inductive Mutex where
  | mutSession
  /-- `mut` of the session at `addr` -/
  | mut (addr : Nat)
  /-- `mut_list` of slot `j` -/
  | mutList (addr j : Nat)
  | mutEpoll
  | mutClientcount
  deriving DecidableEq

inductive Thread where
  | client (id : Nat)
  /-- the media thread of the session at `addr` -/
  | media (addr : Nat)
  | epoll
  deriving DecidableEq

abbrev Acts := List (Act Mutex Thread)

/-- What is done between `pthread_mutex_lock` and `pthread_mutex_unlock`. -/
def locked (m : Mutex) (acts : Acts) : Acts := .lock m :: (acts ++ [.unlock m])

/-- `eventAdd` for a client with the socket `sd`. -/
def eventAdd (sd : Int) : Acts := if sd < 0 then [] else locked .mutEpoll []

def eventDel (ev : Clientinfo) : Acts := if ev.sd < 0 then [] else locked .mutEpoll []

/-! ## `addClient` -/

/-- The session was found. Without a free slot nothing is added. -/
def found (sd : Int) : Option Nat → Acts
  | none => []
  | some _ => eventAdd sd

def enter (S : Server) (sd : Int) : Option Nat → Acts
  | none => []
  | some addr => locked (.mut addr) (found sd ((S.heap addr).bind Session.getFreeClientinfo))

def lookup (S : Server) (a : AddArgs) : Acts :=
  locked .mutSession
    (enter S a.clientSockFd (S.search a.pathFilename (List.range FILEMAX) FILEMAX).1)

/-- `creatMedia`; there is no thread if the file cannot be opened. -/
def creatMedia (opened : Bool) (addr : Nat) : Acts :=
  if opened then [.create (.media addr)] else []

/-- `initClient` in the slots of `l`. -/
def initClients (addr : Nat) (l : List Nat) : Acts := l.flatMap fun j => [.init (.mutList addr j)]

/-- `addSession`, with memory at `addr`. -/
def addSession (opened : Bool) (addr : Nat) (a : AddArgs) : Acts :=
  locked .mutSession
    (creatMedia opened addr ++ [.init (.mut addr)] ++ initClients addr (List.range CLIENTMAX) ++
      locked (.mut addr) (eventAdd a.clientSockFd))

/-- What `addClient` goes on with. -/
def afterLookup (opened : Bool) (addr : Nat) (a : AddArgs) : Server.Lookup → Acts
  | .joined _ _ => locked .mutClientcount []
  | .full => []
  | .missing _ => addSession opened addr a ++ locked .mutClientcount []

def addClient (S : Server) (a : AddArgs) (audioType : AudioE) (mem : Fresh) (opened : Bool)
    (addr : Nat) : Acts :=
  lookup S a ++ afterLookup opened addr a (S.lookup a audioType mem).1

def getClientNum : Acts := locked .mutClientcount []

/-! ## `mediaCallBack` -/

def sendData (addr j : Nat) : Acts := locked (.mutList addr j) []

def mediaCallBack (addr : Nat) (s : Session) (m : Delivery)
    (fresh : Nat → MediaE → Nat → MediaPacket) : Acts :=
  locked (.mut addr) ((s.mediaCallBack m.toMediainfo fresh).2.flatMap (sendData addr))

/-! ## `epollLoop` -/

/-- `destroyMedia`; a session whose file could not be opened has no media thread. -/
def destroyMedia (media : Option Nat) : Acts := media.toList.map fun addr => .join (.media addr)

/-- The clients in the slots of `l` that are still there are taken off epoll. -/
def delClients (s : Session) (l : List Nat) : Acts :=
  l.flatMap fun j => if 0 < (s.clientinfo j).sd then eventDel (s.clientinfo j) else []

/-- The part of `delSession` under the session's lock. -/
def delSlots : Option Session → Acts
  | none => []
  | some s => delClients s (List.range CLIENTMAX)

def delEntry (S : Server) : Option Nat → Acts
  | none => locked .mutSession []
  | some addr =>
    locked .mutSession (locked (.mut addr) (delSlots (S.heap addr))) ++ locked .mutClientcount []

def delSession (media : Option Nat) (S : Server) (pos : Nat) : Acts :=
  destroyMedia media ++ delEntry S (S.sessionArr pos)

/-- An event for slot `slot` of the session at `addr`, with what `epollLoop` finds as it handles it:
the client at first and again when it is about to be cleared, the uninitialised `node`, the result
of the send, the session's `count`, and what `delSession` finds. -/
structure Event where
  addr : Nat
  slot : Nat
  fd : Int
  client : Clientinfo
  node : MediaPacket
  ret : Int
  leaving : Clientinfo
  count : Int
  media : Option Nat
  server : Server
  pos : Nat

/-- There is something to send. -/
def Event.sends (e : Event) : Prop :=
  ∃ p ∈ dequeue e.client e.fd e.node, p.1.size ≠ 0

instance (e : Event) : Decidable e.sends :=
  decidable_of_iff ((dequeue e.client e.fd e.node).any fun p => decide (p.1.size ≠ 0))
    (by simp [Event.sends, Option.any_eq_true])

def offline (e : Event) : Acts :=
  eventDel e.leaving ++ locked (.mut e.addr) [] ++ locked .mutClientcount [] ++
    if e.count = 0 then delSession e.media e.server e.pos else []

def event (e : Event) : Acts :=
  if e.client.events &&& EPOLLOUT = 0 then []
  else
    locked (.mut e.addr) (locked (.mutList e.addr e.slot) []) ++
      if e.sends ∧ e.ret ≤ 0 then offline e else []

/-- A turn of `epollLoop`, with the batch that `epoll_wait` returned. -/
def epollLoop (batch : List Event) : Acts := locked .mutEpoll [] ++ batch.flatMap event

/-! ## The system -/

/-- What the threads call. -/
inductive Calls : Thread → Acts → Prop where
  | addClient (id : Nat) (S : Server) (a : AddArgs) (audioType : AudioE) (mem : Fresh)
      (opened : Bool) (addr : Nat) :
      Calls (.client id) (addClient S a audioType mem opened addr)
  | getClientNum (id : Nat) : Calls (.client id) getClientNum
  | mediaCallBack (addr : Nat) (s : Session) (m : Delivery)
      (fresh : Nat → MediaE → Nat → MediaPacket) :
      Calls (.media addr) (mediaCallBack addr s m fresh)
  | epollLoop (batch : List Event) : Calls .epoll (epollLoop batch)

/-- Only the media threads are created by a call. -/
def running : Thread → Bool
  | .client _ => true
  | .media _ => false
  | .epoll => true

def init : State Mutex Thread := .start running

abbrev Res := LockOrder.Res Mutex Thread

def rank : Res → Nat
  | .exit (.client _) => 0
  | .exit .epoll => 0
  | .exit (.media _) => 1
  | .mutex .mutSession => 2
  | .mutex (.mut _) => 3
  | .mutex (.mutList _ _) => 4
  | .mutex .mutEpoll => 4
  | .mutex .mutClientcount => 4

/-! ## Every call is nested -/

/-- Everything held ranks below `n`. -/
def Below (n : Nat) (held : List Res) : Prop := ∀ r ∈ held, rank r < n

theorem below_cons {n : Nat} {r : Res} {held : List Res} (hr : rank r < n) (h : Below n held) :
    Below n (r :: held) := List.forall_mem_cons.mpr ⟨hr, h⟩

theorem Below.mono {n n' : Nat} {held : List Res} (h : Below n held) (hn : n ≤ n') :
    Below n' held := fun r hr => (h r hr).trans_le hn

variable {held : List Res}

theorem nested_locked {m : Mutex} {acts : Acts} (h : Below (rank (.mutex m)) held)
    (hacts : Nested rank (.mutex m :: held) acts) : Nested rank held (locked m acts) :=
  Nested.locked h hacts

theorem nested_eventAdd (sd : Int) (h : Below 4 held) : Nested rank held (eventAdd sd) := by
  unfold eventAdd
  split_ifs
  · exact .nil
  · exact nested_locked h .nil

theorem nested_eventDel (ev : Clientinfo) (h : Below 4 held) : Nested rank held (eventDel ev) := by
  unfold eventDel
  split_ifs
  · exact .nil
  · exact nested_locked h .nil

theorem nested_mut (addr : Nat) {acts : Acts} (h : Below 3 held)
    (hacts : ∀ held, Below 4 held → Nested rank held acts) :
    Nested rank held (locked (.mut addr) acts) :=
  nested_locked h (hacts _ (below_cons (show (3 : Nat) < 4 by omega) (h.mono (by omega))))

theorem nested_mutSession {acts : Acts} (h : Below 2 held)
    (hacts : ∀ held, Below 3 held → Nested rank held acts) :
    Nested rank held (locked .mutSession acts) :=
  nested_locked h (hacts _ (below_cons (show (2 : Nat) < 3 by omega) (h.mono (by omega))))

theorem nested_clientcount (h : Below 4 held) : Nested rank held (locked .mutClientcount []) :=
  nested_locked h .nil

theorem nested_lookup (S : Server) (a : AddArgs) (h : Below 2 held) :
    Nested rank held (lookup S a) := by
  refine nested_mutSession h fun held h => ?_
  cases (S.search a.pathFilename (List.range FILEMAX) FILEMAX).1 with
  | none => exact .nil
  | some addr =>
    refine nested_mut addr h fun held h => ?_
    cases (S.heap addr).bind Session.getFreeClientinfo with
    | none => exact .nil
    | some j => exact nested_eventAdd a.clientSockFd h

theorem nested_initClients (addr : Nat) (l : List Nat) :
    Nested rank held (initClients addr l) :=
  .flatMap fun j _ => .init (Mutex.mutList addr j)

theorem nested_addSession (opened : Bool) (addr : Nat) (a : AddArgs) (h : Below 2 held) :
    Nested rank held (addSession opened addr a) := by
  refine nested_mutSession h fun held h => ?_
  refine .append (.append (.append ?_ (.init _)) (nested_initClients addr _)) ?_
  · unfold creatMedia
    split_ifs
    · exact .create _
    · exact .nil
  · exact nested_mut addr h fun held h => nested_eventAdd a.clientSockFd h

theorem nested_addClient (S : Server) (a : AddArgs) (audioType : AudioE) (mem : Fresh)
    (opened : Bool) (addr : Nat) (h : Below 2 held) :
    Nested rank held (addClient S a audioType mem opened addr) := by
  refine .append (nested_lookup S a h) ?_
  cases (S.lookup a audioType mem).1 with
  | joined addr j => exact nested_clientcount (h.mono (by omega))
  | full => exact .nil
  | missing pos =>
    exact .append (nested_addSession opened addr a h) (nested_clientcount (h.mono (by omega)))

theorem nested_mediaCallBack (addr : Nat) (s : Session) (m : Delivery)
    (fresh : Nat → MediaE → Nat → MediaPacket) (h : Below 3 held) :
    Nested rank held (mediaCallBack addr s m fresh) :=
  nested_mut addr h fun _ h => .flatMap fun _ _ => nested_locked h .nil

theorem nested_delClients (s : Session) (l : List Nat) (h : Below 4 held) :
    Nested rank held (delClients s l) := by
  refine .flatMap fun j _ => ?_
  split_ifs
  · exact nested_eventDel _ h
  · exact .nil

theorem nested_delSlots (session : Option Session) (h : Below 4 held) :
    Nested rank held (delSlots session) := by
  cases session with
  | none => exact .nil
  | some s => exact nested_delClients s _ h

/-- `delSession` waits for the media thread before it locks anything. -/
theorem nested_delSession (media : Option Nat) (S : Server) (pos : Nat) (h : Below 1 held) :
    Nested rank held (delSession media S pos) := by
  refine .append ?_ ?_
  · cases media with
    | none => exact .nil
    | some addr => exact .join h
  have hsession : Below 2 held := h.mono (by omega)
  cases S.sessionArr pos with
  | none => exact nested_mutSession hsession fun _ _ => .nil
  | some addr =>
    refine .append (nested_mutSession hsession fun held h => ?_)
      (nested_clientcount (h.mono (by omega)))
    exact nested_mut addr h fun held h => nested_delSlots (S.heap addr) h

theorem nested_offline (e : Event) (h : Below 1 held) : Nested rank held (offline e) := by
  refine .append (.append (.append ?_ ?_) ?_) ?_
  · exact nested_eventDel e.leaving (h.mono (by omega))
  · exact nested_mut e.addr (h.mono (by omega)) fun _ _ => .nil
  · exact nested_clientcount (h.mono (by omega))
  · split_ifs
    · exact nested_delSession e.media e.server e.pos h
    · exact .nil

theorem nested_event (e : Event) (h : Below 1 held) : Nested rank held (event e) := by
  unfold event
  split_ifs with _ hleaving
  · exact .nil
  · refine .append (nested_mut e.addr (h.mono (by omega)) fun _ h => ?_) (nested_offline e h)
    exact nested_locked h .nil
  · refine .append (nested_mut e.addr (h.mono (by omega)) fun _ h => ?_) .nil
    exact nested_locked h .nil

theorem nested_epollLoop (batch : List Event) (h : Below 1 held) :
    Nested rank held (epollLoop batch) :=
  .append (nested_locked (h.mono (by decide)) .nil) (.flatMap fun e _ => nested_event e h)

/-- **The order covers every call of every thread.** -/
theorem Calls.nested {t : Thread} {acts : Acts} (h : Calls t acts) :
    Nested rank [.exit t] acts := by
  have hbelow : ∀ n, rank (.exit t) < n → Below n [.exit t] := fun n hn =>
    below_cons hn fun _ hr => absurd hr List.not_mem_nil
  cases h with
  | addClient id S a audioType mem opened addr =>
    exact nested_addClient S a audioType mem opened addr (hbelow 2 (by simp [rank]))
  | getClientNum id => exact nested_clientcount (hbelow 4 (by simp [rank]))
  | mediaCallBack addr s m fresh =>
    exact nested_mediaCallBack addr s m fresh (hbelow 3 (by simp [rank]))
  | epollLoop batch => exact nested_epollLoop batch (hbelow 1 (by simp [rank]))

/-- **Nobody waits in a cycle**, whatever the threads call and in whichever order they move. -/
theorem waits_acyclic {s : State Mutex Thread}
    (hs : Reach State.step (State.Follows Calls) init s) (t : Thread) :
    ¬ Relation.TransGen s.Waits t t :=
  LockOrder.acyclic (fun _ _ h => Calls.nested h) hs t

/-- The last client of session 1 leaves: it was sent a NAL unit and the send failed. -/
def lastLeaves : Event where
  addr := 1
  slot := 0
  fd := 3
  client :=
    let c := setClient (tcpPlayer 3) .aac zeroFresh 0 initClient
    { c with video := c.video.put ⟨.video, [9]⟩ }
  node := zeroPacket
  ret := -1
  leaving := setClient (tcpPlayer 3) .aac zeroFresh 0 initClient
  count := 0
  media := some 1
  server := .init
  pos := 0

/-- Client 0 is in the middle of `addSession`; client 1 wants the table and the epoll thread wants
the new media thread to exit. -/
def busy : List (LockOrder.Label Mutex Thread) :=
  [.call (.client 0) (addClient .init (tcpPlayer 3) .aac zeroFresh true 1), .act (.client 0),
    .act (.client 0), .act (.client 0), .act (.client 0),
    .call (.client 1) (addClient .init (tcpPlayer 5) .aac zeroFresh true 2),
    .call .epoll (epollLoop [lastLeaves])] ++ List.replicate 12 (.act .epoll)

theorem busy_calls : ∀ l ∈ busy, ∀ s, State.Follows Calls s l := by
  intro l hl s
  simp only [busy, List.mem_append, List.mem_cons, List.not_mem_nil, or_false,
    List.mem_replicate] at hl
  rcases hl with (rfl | rfl | rfl | rfl | rfl | rfl | rfl) | ⟨-, rfl⟩
  · exact .addClient 0 .init (tcpPlayer 3) .aac zeroFresh true 1
  · exact trivial
  · exact trivial
  · exact trivial
  · exact trivial
  · exact .addClient 1 .init (tcpPlayer 5) .aac zeroFresh true 2
  · exact .epollLoop [lastLeaves]
  · exact trivial

theorem waits_acyclic_busy :
    ∃ s, Reach State.step (State.Follows Calls) init s ∧
      (s.Waits (.client 1) (.client 0) ∧ s.Waits .epoll (.media 1)) ∧
      ∀ t, ¬ Relation.TransGen s.Waits t t := by
  have hrun : (runs State.step init busy).map (fun s =>
      ((s.wants (.client 1), s.owner (.mutex .mutSession)),
        (s.wants .epoll, s.owner (.exit (.media 1))))) =
      some ((some (.mutex .mutSession), some (.client 0)),
        (some (.exit (.media 1)), some (.media 1))) := by decide +kernel
  obtain ⟨s, hs, hwaits⟩ := Option.map_eq_some_iff.mp hrun
  obtain ⟨⟨hwants, howner⟩, hjoin, hmedia⟩ := by simpa only [Prod.mk.injEq] using hwaits
  have hreach := Reach.of_runs_forall busy busy_calls hs
  exact ⟨s, hreach, ⟨⟨_, hwants, howner⟩, _, hjoin, hmedia⟩, waits_acyclic hreach⟩

/-! ## `addSession` by its statements -/

/-- What a statement does to the mutexes of the new session at `addr` and to its thread. -/
def stmtActs (addr : Nat) : Stmt → Acts
  | .creatMedia opened => creatMedia opened addr
  | .mutexInit => [.init (.mut addr)]
  | .set _ _ => []
  | .setClient j field _ => if field = .mutList then [.init (.mutList addr j)] else []
  | .lock => [.lock (.mut addr)]
  | .unlock => [.unlock (.mut addr)]

/-- Not an action on one of the global mutexes. -/
def onSession : Act Mutex Thread → Bool
  | .init _ => true
  | .lock m => m ≠ .mutSession ∧ m ≠ .mutEpoll
  | .unlock m => m ≠ .mutSession ∧ m ≠ .mutEpoll
  | .create _ => true
  | .join _ => true

theorem stmtActs_setFields (addr j : Nat) {l : List (ClientField × (Clientinfo → Clientinfo))}
    (hl : ∀ w ∈ l, w.1 ≠ .mutList) : (setFields j l).flatMap (stmtActs addr) = [] := by
  refine List.flatMap_eq_nil_iff.mpr fun st hst => ?_
  obtain ⟨w, hw, rfl⟩ := List.mem_map.mp hst
  exact if_neg (hl w hw)

theorem stmtActs_initSlot (addr j : Nat) :
    (initSlot addr j).flatMap (stmtActs addr) = [.init (.mutList addr j)] := rfl

theorem clientFields_mutList (a : AddArgs) (audioType : AudioE) (mem : Fresh) :
    ∀ w ∈ clientFields a audioType mem, w.1 ≠ .mutList := by
  simp only [clientFields, transportFields, bufferFields, eventAddFields]
  split_ifs <;> simp

theorem filter_eventAdd (sd : Int) : (eventAdd sd).filter onSession = [] := by
  unfold eventAdd
  split_ifs <;> rfl

theorem filter_creatMedia (opened : Bool) (addr : Nat) :
    (creatMedia opened addr).filter onSession = creatMedia opened addr := by
  cases opened <;> rfl

theorem filter_initClients (addr : Nat) (l : List Nat) :
    (initClients addr l).filter onSession = initClients addr l := by
  refine List.filter_eq_self.mpr fun act hact => ?_
  obtain ⟨j, -, hj⟩ := List.mem_flatMap.mp hact
  obtain rfl := List.mem_singleton.mp hj
  rfl

theorem filter_locked_mut (addr : Nat) (acts : Acts) :
    (locked (.mut addr) acts).filter onSession = locked (.mut addr) (acts.filter onSession) := by
  simp [locked, onSession]

theorem filter_locked_mutSession (acts : Acts) :
    (locked .mutSession acts).filter onSession = acts.filter onSession := by
  simp [locked, onSession]

theorem stmtActs_initSlots (addr : Nat) (l : List Nat) :
    (l.flatMap (initSlot addr)).flatMap (stmtActs addr) = initClients addr l := by
  rw [List.flatMap_assoc]
  exact List.flatMap_congr fun j _ => stmtActs_initSlot addr j

theorem stmtActs_openingStmts (opened : Bool) (addr : Nat) (a : AddArgs) :
    (openingStmts opened a).flatMap (stmtActs addr) =
      creatMedia opened addr ++ [.init (.mut addr)] := by
  simp [openingStmts, stmtActs]

theorem stmtActs_buildingStmts (addr pos : Nat) :
    (buildingStmts addr pos).flatMap (stmtActs addr) =
      initClients addr (List.range CLIENTMAX) := by
  rw [buildingStmts, List.flatMap_cons, stmtActs_initSlots]
  exact List.nil_append _

theorem stmtActs_lastStmts (addr : Nat) (a : AddArgs) (audioType : AudioE) (mem : Fresh) :
    (lastStmts a audioType mem).flatMap (stmtActs addr) = locked (.mut addr) [] := by
  simp [lastStmts, fillingStmts, stmtActs, locked,
    stmtActs_setFields addr 0 (clientFields_mutList a audioType mem)]

/-- Apart from the global mutexes, `addSession` does what its statements do. -/
theorem filter_addSession (opened : Bool) (addr pos : Nat) (a : AddArgs) (audioType : AudioE)
    (mem : Fresh) :
    (addSession opened addr a).filter onSession =
      (addSessionStmts opened addr pos a audioType mem).flatMap (stmtActs addr) := by
  have hinit : [Act.init (Mutex.mut addr)].filter onSession =
    ([Act.init (Mutex.mut addr)] : Acts) := rfl
  rw [addSession, filter_locked_mutSession, List.filter_append, List.filter_append,
    List.filter_append, filter_creatMedia, hinit, filter_initClients, filter_locked_mut,
    filter_eventAdd, addSessionStmts, List.flatMap_append, List.flatMap_append,
    stmtActs_openingStmts, stmtActs_buildingStmts, stmtActs_lastStmts, List.append_assoc,
    List.append_assoc]

end Locks

end SimpleRtsp

import SimpleRtsp.Session.Session

/-!
# `addSession`, statement by statement

`Session.create` is the session `addSession` makes, in one piece. Here it is made in memory from
`malloc`, by the statements of the source in their order: `addSessionStmts`, each with the location
of `session_st` it writes. Whatever the memory holds, they leave `Session.create` in it
(`execs_addSessionStmts`), and every field of every slot is assigned before the session is locked
(`buildingStmts_client`).
-/

namespace SimpleRtsp

/-- The fields of `clientinfo_st`. -/
inductive ClientField where
  | sd
  | udpSdRtp
  | udpSdRtcp
  | udpSdRtp1
  | udpSdRtcp1
  | clientIp
  | clientRtpPort
  | clientRtpPort1
  | transport
  | sig0
  | sig2
  | playflag
  | arg
  | sendCallBack
  | events
  | session
  | rtpPacket
  | rtpPacket1
  | tcpHeader
  | mutList
  | packetList
  | packetListSize
  | posList
  | packetNum
  | posLastPacket
  | packetList1
  | packetListSize1
  | posList1
  | packetNum1
  | posLastPacket1
  deriving DecidableEq, Repr

/-- The locations of a `session_st`. -/
inductive Loc where
  | media
  | filename
  | mutex
  | count
  | pos
  | client (j : Nat) (field : ClientField)
  deriving DecidableEq, Repr

/-- A statement of `addSession`. -/
inductive Stmt where
  /-- the call of `creatMedia`, which starts the media thread if the file could be opened -/
  | creatMedia (opened : Bool)
  | mutexInit
  | set (l : Loc) (value : Session → Session)
  | setClient (j : Nat) (field : ClientField) (value : Clientinfo → Clientinfo)
  | lock
  | unlock

def Stmt.loc : Stmt → Option Loc
  | .creatMedia _ => none
  | .mutexInit => some .mutex
  | .set l _ => some l
  | .setClient j field _ => some (.client j field)
  | .lock => none
  | .unlock => none

def Stmt.IsWrite : Stmt → Prop
  | .set _ _ => True
  | .setClient _ _ _ => True
  | _ => False

/-- What a statement makes of the memory. -/
def Stmt.exec (s : Session) : Stmt → Session
  | .set _ value => value s
  | .setClient j _ value => s.setSlot j (value (s.clientinfo j))
  | .creatMedia _ => s
  | .mutexInit => s
  | .lock => s
  | .unlock => s

def execs (s : Session) (l : List Stmt) : Session := l.foldl Stmt.exec s

/-- Assignments to fields of the client in slot `j`. -/
def setFields (j : Nat) (l : List (ClientField × (Clientinfo → Clientinfo))) : List Stmt :=
  l.map fun w => .setClient j w.1 w.2

/-- `initClient`. `arg` has no value of its own in the model, it goes with `send_call_back`. -/
def initClientFields : List (ClientField × (Clientinfo → Clientinfo)) :=
  [(.sd, fun c => { c with sd := -1 }),
    (.udpSdRtp, fun c => { c with udpSdRtp := -1 }),
    (.udpSdRtcp, fun c => { c with udpSdRtcp := -1 }),
    (.udpSdRtp1, fun c => { c with udpSdRtp1 := -1 }),
    (.udpSdRtcp1, fun c => { c with udpSdRtcp1 := -1 }),
    (.clientIp, fun c => { c with clientIp := [] }),
    (.clientRtpPort, fun c => { c with clientRtpPort := -1 }),
    (.clientRtpPort1, fun c => { c with clientRtpPort1 := -1 }),
    (.transport, fun c => { c with transport := none }),
    (.sig0, fun c => { c with sig0 := -1 }),
    (.sig2, fun c => { c with sig2 := -1 }),
    (.playflag, fun c => { c with playflag := -1 }),
    (.arg, id),
    (.sendCallBack, fun c => { c with sendCallBack := none }),
    (.events, fun c => { c with events := -1 }),
    (.session, fun c => { c with session := none }),
    (.rtpPacket, fun c => { c with rtpPacket := none }),
    (.rtpPacket1, fun c => { c with rtpPacket1 := none }),
    (.tcpHeader, fun c => { c with tcpHeader := none }),
    (.mutList, id),
    (.packetList, fun c => { c with video := { c.video with packetList := none } }),
    (.packetListSize, fun c => { c with video := { c.video with packetListSize := 0 } }),
    (.posList, fun c => { c with video := { c.video with posList := 0 } }),
    (.packetNum, fun c => { c with video := { c.video with packetNum := 0 } }),
    (.posLastPacket, fun c => { c with video := { c.video with posLastPacket := 0 } }),
    (.packetList1, fun c => { c with audio := { c.audio with packetList := none } }),
    (.packetListSize1, fun c => { c with audio := { c.audio with packetListSize := 0 } }),
    (.posList1, fun c => { c with audio := { c.audio with posList := 0 } }),
    (.packetNum1, fun c => { c with audio := { c.audio with packetNum := 0 } }),
    (.posLastPacket1, fun c => { c with audio := { c.audio with posLastPacket := 0 } })]

/-- The loop body over the slots: `initClient`, then `session`. -/
def initSlot (addr j : Nat) : List Stmt :=
  setFields j (initClientFields ++ [(.session, fun c => { c with session := some addr })])

def transportFields (a : AddArgs) : List (ClientField × (Clientinfo → Clientinfo)) :=
  if a.tureOfTcp = 1 then
    [(.transport, fun c => { c with transport := some .rtpOverTcp }),
      (.sig0, fun c => { c with sig0 := a.sig0 }),
      (.sig2, fun c => { c with sig2 := a.sig2 })]
  else
    [(.transport, fun c => { c with transport := some .rtpOverUdp }),
      (.clientIp, fun c => { c with clientIp := a.clientIp }),
      (.udpSdRtp, fun c => { c with udpSdRtp := a.serverUdpSocketRtp }),
      (.udpSdRtcp, fun c => { c with udpSdRtcp := a.serverUdpSocketRtcp }),
      (.udpSdRtp1, fun c => { c with udpSdRtp1 := a.serverUdpSocketRtp1 }),
      (.udpSdRtcp1, fun c => { c with udpSdRtcp1 := a.serverUdpSocketRtcp1 }),
      (.clientRtpPort, fun c => { c with clientRtpPort := a.clientRtpPort }),
      (.clientRtpPort1, fun c => { c with clientRtpPort1 := a.clientRtpPort1 })]

def bufferFields (audioType : AudioE) (mem : Fresh) :
    List (ClientField × (Clientinfo → Clientinfo)) :=
  [(.rtpPacket, fun c => { c with
      rtpPacket := some (rtpHeaderInit mem.rtpPacket 0 0 0 RTP_VESION RTP_PAYLOAD_TYPE_H26X 0 0 0
        0x88923423) }),
    (.rtpPacket1, fun c => { c with
      rtpPacket1 := some (rtpHeaderInit mem.rtpPacket1 0 0 0 RTP_VESION
        (audioPayloadType audioType) 0 0 0 0x88923423) }),
    (.tcpHeader, fun c => { c with tcpHeader := some mem.tcpHeader }),
    (.packetList, fun c => { c with
      video := { c.video with packetList := some mem.packetList } }),
    (.packetListSize, fun c => { c with
      video := { c.video with packetListSize := RING_BUFFER_MAX / 4 } }),
    (.packetList1, fun c => { c with
      audio := { c.audio with packetList := some mem.packetList1 } }),
    (.packetListSize1, fun c => { c with
      audio := { c.audio with packetListSize := RING_BUFFER_MAX / 4 } })]

/-- `eventAdd`: the descriptors are those just stored. -/
def eventAddFields (a : AddArgs) : List (ClientField × (Clientinfo → Clientinfo)) :=
  let events := (ClientField.events, fun c : Clientinfo => { c with events := EPOLLOUT })
  if a.clientSockFd < 0 then []
  else
    [(.sendCallBack, fun c => { c with sendCallBack := some 0 }), (.arg, id)] ++
      if a.tureOfTcp = 1 then [events]
      else
        (if a.serverUdpSocketRtp ≠ -1 then [events] else []) ++
          (if a.serverUdpSocketRtp1 ≠ -1 then [events] else [])

/-- From `creatMedia` to `session->count = 0`. -/
def openingStmts (opened : Bool) (a : AddArgs) : List Stmt :=
  [.creatMedia opened, .set .media id,
    .set .filename fun s => { s with filename := a.pathFilename }, .mutexInit,
    .set .count fun s => { s with count := 0 }]

/-- `session->pos` and the slots. -/
def buildingStmts (addr pos : Nat) : List Stmt :=
  (.set .pos fun s => { s with pos := pos }) :: (List.range CLIENTMAX).flatMap (initSlot addr)

def clientFields (a : AddArgs) (audioType : AudioE) (mem : Fresh) :
    List (ClientField × (Clientinfo → Clientinfo)) :=
  transportFields a ++ bufferFields audioType mem ++ eventAddFields a ++
    [(.playflag, fun c => { c with playflag := 1 })]

/-- The first client, between the lock and the unlock of the new session. -/
def fillingStmts (a : AddArgs) (audioType : AudioE) (mem : Fresh) : List Stmt :=
  .setClient 0 .sd (fun c => { c with sd := a.clientSockFd }) ::
    (.set .count fun s => { s with count := s.count + 1 }) ::
    setFields 0 (clientFields a audioType mem)

/-- The last statements, under the session's lock. -/
def lastStmts (a : AddArgs) (audioType : AudioE) (mem : Fresh) : List Stmt :=
  .lock :: (fillingStmts a audioType mem ++ [.unlock])

/-- The body of `addSession` behind its `malloc`. What it does to `session_arr` and its locking of
`mut_session` are left out: they keep the connection threads away, not the media thread. -/
def addSessionStmts (opened : Bool) (addr pos : Nat) (a : AddArgs) (audioType : AudioE)
    (mem : Fresh) : List Stmt :=
  openingStmts opened a ++ (buildingStmts addr pos ++ lastStmts a audioType mem)

/-! ## What the statements make -/

theorem execs_append (s : Session) (l l' : List Stmt) :
    execs s (l ++ l') = execs (execs s l) l' := List.foldl_append

theorem execs_cons (s : Session) (st : Stmt) (l : List Stmt) :
    execs s (st :: l) = execs (st.exec s) l := rfl

theorem execs_setFields (s : Session) (j : Nat)
    (l : List (ClientField × (Clientinfo → Clientinfo))) :
    execs s (setFields j l) = s.setSlot j (l.foldl (fun c w => w.2 c) (s.clientinfo j)) := by
  induction l generalizing s with
  | nil => exact (s.setSlot_same j).symm
  | cons w l ih =>
    show execs (s.setSlot j (w.2 (s.clientinfo j))) (setFields j l) = _
    rw [ih, Session.setSlot_self, Session.setSlot_setSlot, List.foldl_cons]

theorem execs_initSlot (s : Session) (addr j : Nat) :
    execs s (initSlot addr j) = s.setSlot j { initClient with session := some addr } := by
  rw [initSlot, execs_setFields]
  rfl

/-- The loop over the slots. By induction on their number: each is set once. -/
theorem execs_slots (s : Session) (addr n : Nat) :
    execs s ((List.range n).flatMap (initSlot addr)) =
      { s with
        clientinfo := fun j =>
          if j < n then { initClient with session := some addr } else s.clientinfo j } := by
  induction n with
  | zero => simp [execs]
  | succ n ih =>
    rw [List.range_succ, List.flatMap_append, execs_append, ih, List.flatMap_singleton,
      execs_initSlot]
    refine congrArg (fun slots => { s with clientinfo := slots }) (funext fun j => ?_)
    by_cases hj : j = n
    · subst hj
      simp
    · rw [Function.update_of_ne hj]
      simp only [show j < n + 1 ↔ j < n by omega]

theorem foldl_transportFields (a : AddArgs) (c : Clientinfo) :
    (transportFields a).foldl (fun c w => w.2 c) c = setTransport a c := by
  rw [transportFields, setTransport]
  split_ifs <;> rfl

theorem foldl_bufferFields (audioType : AudioE) (mem : Fresh) (c : Clientinfo) :
    (bufferFields audioType mem).foldl (fun c w => w.2 c) c = setBuffers audioType mem c := rfl

theorem foldl_eventAddFields (a : AddArgs) {c : Clientinfo} (hsd : c.sd = a.clientSockFd)
    (htcp : c.transport = some .rtpOverTcp ↔ a.tureOfTcp = 1)
    (hrtp : a.tureOfTcp ≠ 1 → c.udpSdRtp = a.serverUdpSocketRtp)
    (hrtp1 : a.tureOfTcp ≠ 1 → c.udpSdRtp1 = a.serverUdpSocketRtp1) :
    (eventAddFields a).foldl (fun c w => w.2 c) c = eventAdd 0 c := by
  rw [eventAddFields, eventAdd]
  by_cases hneg : a.clientSockFd < 0
  · rw [if_pos hneg, if_pos (show c.sd < 0 by omega)]
    rfl
  rw [if_neg hneg, if_neg (show ¬ c.sd < 0 by omega)]
  by_cases htransport : a.tureOfTcp = 1
  · rw [if_pos htransport, if_pos (Or.inl (htcp.mpr htransport))]
    rfl
  · have hudp : c.transport ≠ some .rtpOverTcp := fun h => htransport (htcp.mp h)
    rw [if_neg htransport, ← hrtp htransport, ← hrtp1 htransport]
    by_cases hvideo : c.udpSdRtp = -1 <;> by_cases haudio : c.udpSdRtp1 = -1 <;>
      simp [hudp, hvideo, haudio]

theorem foldl_clientFields (a : AddArgs) (audioType : AudioE) (mem : Fresh) (c : Clientinfo) :
    (clientFields a audioType mem).foldl (fun c w => w.2 c) { c with sd := a.clientSockFd } =
      setClient a audioType mem 0 c := by
  rw [clientFields, List.foldl_append, List.foldl_append, List.foldl_append, foldl_transportFields,
    foldl_bufferFields, foldl_eventAddFields]
  · rfl
  · exact setTransport_sd a { c with sd := a.clientSockFd }
  · simp only [setBuffers, setTransport]
    split_ifs with htcp <;> simp [htcp]
  · intro htcp
    simp only [setBuffers, setTransport, if_neg htcp]
  · intro htcp
    simp only [setBuffers, setTransport, if_neg htcp]

theorem execs_buildingStmts (s : Session) (addr pos : Nat) :
    execs s (buildingStmts addr pos) =
      { s with
        clientinfo := fun j =>
          if j < CLIENTMAX then { initClient with session := some addr } else s.clientinfo j
        pos := pos } := by
  rw [buildingStmts, execs_cons, execs_slots]
  rfl

theorem execs_fillingStmts (a : AddArgs) (audioType : AudioE) (mem : Fresh) (s : Session) :
    execs s (fillingStmts a audioType mem) =
      { s.setSlot 0 (setClient a audioType mem 0 (s.clientinfo 0)) with count := s.count + 1 } := by
  rw [fillingStmts, execs_cons, execs_cons, execs_setFields, ← foldl_clientFields a audioType mem]
  simp [Stmt.exec, Session.setSlot]

theorem Session.create_clientinfo_zero (addr : Nat) (a : AddArgs) (audioType : AudioE) (mem : Fresh)
    (pos : Nat) : (create addr a audioType mem pos).clientinfo 0 =
      setClient a audioType mem 0 { initClient with session := some addr } := by
  simp [create]

theorem execs_lastStmts (a : AddArgs) (audioType : AudioE) (mem : Fresh) (s : Session) :
    execs s (lastStmts a audioType mem) =
      { s.setSlot 0 (setClient a audioType mem 0 (s.clientinfo 0)) with count := s.count + 1 } := by
  rw [lastStmts, execs_cons, execs_append]
  exact execs_fillingStmts a audioType mem s

/-- **The statements make the session.** Whatever the memory held before, they leave
`Session.create` in its slots and fields. -/
theorem execs_addSessionStmts (opened : Bool) (addr pos : Nat) (a : AddArgs) (audioType : AudioE)
    (mem : Fresh) (s : Session) :
    let made := execs s (addSessionStmts opened addr pos a audioType mem)
    let s' := Session.create addr a audioType mem pos
    made.filename = s'.filename ∧ made.count = s'.count ∧ made.pos = s'.pos ∧
      ∀ j < CLIENTMAX, made.clientinfo j = s'.clientinfo j := by
  dsimp only
  have hopened : execs s (openingStmts opened a) =
      { s with filename := a.pathFilename, count := 0 } := rfl
  rw [addSessionStmts, execs_append, execs_append, execs_lastStmts, execs_buildingStmts, hopened]
  refine ⟨rfl, rfl, rfl, fun j hj => ?_⟩
  dsimp only
  by_cases hzero : j = 0
  · subst hzero
    rw [Session.setSlot_self, if_pos hj, Session.create_clientinfo_zero]
  · rw [Session.setSlot_of_ne _ _ hzero, Session.create_clientinfo addr a audioType mem pos hzero]
    exact if_pos hj

@[simp] theorem setTransport_sendCallBack (a : AddArgs) (c : Clientinfo) :
    (setTransport a c).sendCallBack = c.sendCallBack := by
  rw [setTransport]
  split_ifs <;> rfl

theorem setClient_arg {a : AddArgs} {audioType : AudioE} {mem : Fresh} {slot j : Nat}
    {c : Clientinfo} (hnone : c.sendCallBack = none)
    (h : (setClient a audioType mem slot c).sendCallBack = some j) : j = slot := by
  let c' := setBuffers audioType mem (setTransport a { c with sd := a.clientSockFd })
  have hc' : c'.sendCallBack = none := (setTransport_sendCallBack a _).trans hnone
  change (eventAdd slot c').sendCallBack = some j at h
  by_cases hsd : c'.sd < 0
  · rw [eventAdd, if_pos hsd, hc'] at h
    cases h
  · rw [eventAdd_sendCallBack slot c' (by omega)] at h
    exact (Option.some.inj h).symm

/-! ## Where the statements write -/

theorem mem_setFields {j : Nat} {l : List (ClientField × (Clientinfo → Clientinfo))} {st : Stmt}
    (h : st ∈ setFields j l) : ∃ field value, st = .setClient j field value := by
  obtain ⟨w, -, rfl⟩ := List.mem_map.mp h
  exact ⟨w.1, w.2, rfl⟩

theorem mem_buildingStmts {addr pos : Nat} {st : Stmt} (h : st ∈ buildingStmts addr pos) :
    (st = .set .pos fun s => { s with pos := pos }) ∨
      ∃ j field value, st = .setClient j field value := by
  rcases List.mem_cons.mp h with rfl | h
  · exact Or.inl rfl
  · obtain ⟨j, -, h⟩ := List.mem_flatMap.mp h
    obtain ⟨field, value, rfl⟩ := mem_setFields h
    exact Or.inr ⟨j, field, value, rfl⟩

theorem initClientFields_all (field : ClientField) : ∃ w ∈ initClientFields, w.1 = field := by
  have hall : field ∈ initClientFields.map Prod.fst := by
    cases field <;> decide
  exact List.mem_map.mp hall

theorem buildingStmts_client (addr pos : Nat) {j : Nat} (hj : j < CLIENTMAX) (field : ClientField) :
    ∃ st ∈ buildingStmts addr pos, st.loc = some (.client j field) := by
  obtain ⟨w, hw, rfl⟩ := initClientFields_all field
  refine ⟨.setClient j w.1 w.2, List.mem_cons_of_mem _ ?_, rfl⟩
  refine List.mem_flatMap.mpr ⟨j, List.mem_range.mpr hj, ?_⟩
  exact List.mem_map_of_mem (List.mem_append_left _ hw)

end SimpleRtsp

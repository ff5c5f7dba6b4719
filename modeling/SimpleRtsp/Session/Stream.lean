import SimpleRtsp.Lib.Transition
import SimpleRtsp.Rtp.Numbering
import SimpleRtsp.Session.Slot

/-!
# The streams of a TCP client

A client over TCP is set up once; then the media thread fills its queue and the epoll thread
empties it onto the socket, until a turn ends with the client going offline. `StreamState.log`
keeps what each turn sent and for which stream. `stream_carries` says that, at any time, each of
the two streams is a sequence of packets numbered from 0 (`Carries`), and that a refused call is
the client's last.
-/

namespace SimpleRtsp

/-! ## One node -/

theorem packetiser_meets {env : SendEnv} {node : MediaPacket} {send : SendArgs → SendM Int}
    (hsend : packetiser env node = some send) (a : SendArgs) {t : Tx} (htcp : t.overTcp a)
    {payloadType : UInt8} {n : Nat} (hof : t.header.Of payloadType n) :
    (send a).Meets t
      (fun ret t' => 0 < ret ∧ ∃ ps, Numbered payloadType n ps ∧
        t'.header.Of payloadType (n + ps.length) ∧ Emits a t t' ps)
      (fun t' => ∃ ps, Numbered payloadType n ps ∧ Cut a t t' ps) := by
  have hok : ∀ {t' : Tx} {timestamp : UInt32} {payloads : List (BitVec 1 × List UInt8)},
      ({ t.header with timestamp := timestamp } : RtpHeader).After t'.header payloads.length →
      Emits a t t' (stamp { t.header with timestamp := timestamp } payloads) →
      ∃ ps, Numbered payloadType n ps ∧ t'.header.Of payloadType (n + ps.length) ∧
        Emits a t t' ps := by
    intro t' timestamp payloads hafter hemits
    refine ⟨_, stamp_numbered (hof.timestamp timestamp) payloads, ?_, hemits⟩
    rw [length_stamp]
    exact (hof.timestamp timestamp).after hafter
  have hcut : ∀ {t' : Tx} {timestamp : UInt32} {payloads : List (BitVec 1 × List UInt8)},
      Cut a t t' (stamp { t.header with timestamp := timestamp } payloads) →
      ∃ ps, Numbered payloadType n ps ∧ Cut a t t' ps :=
    fun h => ⟨_, stamp_numbered (hof.timestamp _) _, h⟩
  have hvideo : ∀ fmt, (H26x.rtpSendFrame fmt env.tv a node.data node.size).Meets t
      (fun ret t' => 0 < ret ∧ ∃ ps, Numbered payloadType n ps ∧
        t'.header.Of payloadType (n + ps.length) ∧ Emits a t t' ps)
      (fun t' => ∃ ps, Numbered payloadType n ps ∧ Cut a t t' ps) := fun fmt =>
    (H26x.rtpSendFrame_meets fmt env.tv a node.data node.size t).mono
      (fun _ _ h => ⟨h.1, hok h.2.1 h.2.2⟩) fun _ h => hcut h
  have haudio : ∀ au, (Audio.rtpSendFrame au env.tv a node.data node.size env.sampleRate
      env.ret₀).Meets t
      (fun ret t' => 0 < ret ∧ ∃ ps, Numbered payloadType n ps ∧
        t'.header.Of payloadType (n + ps.length) ∧ Emits a t t' ps)
      (fun t' => ∃ ps, Numbered payloadType n ps ∧ Cut a t t' ps) := fun au =>
    (Audio.rtpSendFrame_meets au env.tv a node.data node.size env.sampleRate env.ret₀ t
      (Or.inl htcp)).mono (fun _ _ h => ⟨h.1 htcp, hok h.2.1 h.2.2⟩) fun _ h => hcut h
  unfold packetiser at hsend
  split at hsend <;> split at hsend <;> cases hsend
  · exact hvideo H26x.h264
  · exact hvideo H26x.h265
  · exact haudio Audio.aacAu
  · exact haudio fun _ => []

/-- The outcome of sending a node of a stream whose next packet has number `n`: packets were sent
and the header counts them, or the turn ends with a refused call. -/
def Sent (c c' : Clientinfo) (type : MediaE) (payloadType : UInt8) (n : Nat) (ret : Int)
    (calls : List SendCall) : Prop :=
  ∃ ps, Numbered payloadType n ps ∧
    (c'.tcpHeader.isSome ∧
        (∀ p ∈ c'.packet type, p.rtpHeader.Of payloadType (n + ps.length)) ∧
        (∀ call ∈ calls, 0 < call.ret) ∧
        accepted calls = ps.flatMap (Packet.bufs (sendArgs c true type) true) ∨
      ret ≤ 0 ∧ StopsAtRefusal calls ∧
        accepted calls <+: ps.flatMap (Packet.bufs (sendArgs c true type) true))

/-- **Sending a node over TCP.** -/
theorem transmit_tcp {env : SendEnv} {c c' : Clientinfo} {node : MediaPacket} {ret : Int}
    {result : Nat → Nat → Int} {w : Wire}
    (h : transmit env c c.sd node ⟨result, []⟩ = some (ret, c', w))
    (hheader : c.tcpHeader.isSome) (hsig : (sendArgs c true node.type).sig ≠ -1)
    {payloadType : UInt8} {n : Nat}
    (hof : ∀ p ∈ c.packet node.type, p.rtpHeader.Of payloadType n) :
    (∀ type, type ≠ node.type → c'.packet type = c.packet type) ∧
      Sent c c' node.type payloadType n ret w.calls := by
  obtain ⟨⟨ret₁, c₁, w₁⟩, hsent, hret⟩ := Option.map_eq_some_iff.mp h
  rw [beq_self_eq_true] at hsent hret
  cases hret
  rw [sendNode] at hsent
  split at hsent
  · -- no packetiser: nothing is sent
    cases hsent
    exact ⟨fun _ _ => rfl, [], trivial, Or.inl ⟨hheader, hof, by simp, rfl⟩⟩
  · rename_i send hsend
    obtain ⟨packet, hpacket, hsent⟩ := Option.map_eq_some_iff.mp hsent
    let a := sendArgs c true node.type
    let t : Tx := ⟨c.tcpHeader, packet, ⟨result, []⟩⟩
    have htcp : t.overTcp a := by
      simp [Tx.overTcp, t, hheader, a, hsig]
    have hmeets := packetiser_meets hsend a htcp (hof packet hpacket)
    have hother : ∀ (t' : Tx) type, type ≠ node.type →
        (c.putBack true node.type t').packet type = c.packet type := by
      intro t' type htype
      cases type <;> cases hnode : node.type <;> first | rfl | exact absurd hnode.symm htype
    have hself : ∀ t' : Tx, (c.putBack true node.type t').packet node.type = some t'.rtpPacket := by
      intro t'
      cases node.type <;> rfl
    have hheader' : ∀ t' : Tx, (c.putBack true node.type t').tcpHeader = t'.tcpHeader := by
      intro t'
      cases node.type <;> rfl
    have hcalls : ∀ t' : Tx, t.callsTo t' = t'.wire.calls := fun _ => rfl
    rw [EarlyM.Meets] at hmeets
    change ((send a t).1.getD (-1), c.putBack true node.type (send a t).2, (send a t).2.wire) = _
      at hsent
    split at hmeets
    · rename_i ret₂ t' hrun
      obtain ⟨-, ps, hnumbered, hof', hemits⟩ := hmeets
      rw [hrun] at hsent
      cases hsent
      have hall := hemits.calls
      rw [hcalls, htcp] at hall
      refine ⟨hother t', ps, hnumbered, Or.inl ⟨?_, ?_, hall.1, hall.2⟩⟩
      · rw [hheader', hemits.tcp]
        exact hheader
      · rw [hself]
        rintro p ⟨⟩
        exact hof'
    · rename_i t' hrun
      obtain ⟨ps, hnumbered, hcut⟩ := hmeets
      rw [hrun] at hsent
      cases hsent
      have hall := hcut.calls
      rw [hcalls, htcp] at hall
      exact ⟨hother t', ps, hnumbered, Or.inr ⟨by simp, hall.1, hall.2⟩⟩

/-! ## Runs -/

/-- A TCP client and what its turns sent. -/
structure StreamState where
  client : Clientinfo
  log : List (MediaE × List SendCall)

inductive StreamLabel where
  | callback (m : Delivery) (fresh : MediaE → Nat → MediaPacket)
  | event (node : MediaPacket) (env : SendEnv) (result : Nat → Nat → Int)

namespace StreamState

def calls (s : StreamState) (type : MediaE) : List SendCall :=
  (s.log.filter fun entry => entry.1 = type).flatMap Prod.snd

def allCalls (s : StreamState) : List SendCall := s.log.flatMap Prod.snd

/-- The client right after `addClient` or `addSession` set up its slot. -/
def start (slot : Nat) (c : Clientinfo) (a : AddArgs) (audioType : AudioE) (mem : Fresh) :
    StreamState :=
  ⟨setClient a audioType mem slot c, []⟩

/-- What happens to it: `mediaCallBack` calls `sendData` or passes over the slot, and the epoll
thread handles events on `fd`, the only descriptor `eventAdd` registers for a TCP client. -/
def step (fd : Int) (s : StreamState) : StreamLabel → Option StreamState
  | .callback m fresh =>
    some (if s.client.callable then { s with client := sendData m.toMediainfo fresh s.client }
      else s)
  | .event node env result =>
    (turn s.client fd node env result).map fun t =>
      ⟨if t.offline then clearClient t.client else t.client, s.log ++ t.sent.toList⟩

/-- The payload type `rtpHeaderInit` was given. -/
def payloadType (audioType : AudioE) : MediaE → UInt8
  | .video => RTP_PAYLOAD_TYPE_H26X
  | .audio => audioPayloadType audioType

def channel (a : AddArgs) : MediaE → Int
  | .video => a.sig0
  | .audio => a.sig2

/-- A client that plays: `n` packets of each stream were sent, and its buffers are ready for the
next. -/
structure Live (slot : Nat) (a : AddArgs) (audioType : AudioE) (s : StreamState) : Prop where
  playing : s.client.Playing slot
  args : ∀ type, (sendArgs s.client true type).sig = channel a type
  sd : s.client.sd = a.clientSockFd
  ports : s.client.clientRtpPort = -1 ∧ s.client.clientRtpPort1 = -1
  header : s.client.tcpHeader.isSome
  asked : ∀ type, ∀ f ∈ (s.client.queue type).waiting, channel a f.type ≠ -1
  accepted : ∀ call ∈ s.allCalls, 0 < call.ret
  stream : ∀ type, ∃ ps, Numbered (payloadType audioType type) 0 ps ∧
    (∀ p ∈ s.client.packet type, p.rtpHeader.Of (payloadType audioType type) ps.length) ∧
    SimpleRtsp.accepted (s.calls type) = ps.flatMap (Packet.bufs (sendArgs s.client true type) true)

/-- What holds of a client whether it still plays or not. -/
structure Good (a : AddArgs) (audioType : AudioE) (s : StreamState) : Prop where
  stops : StopsAtRefusal s.allCalls
  stream : ∀ type, Carries (UInt8.ofInt (channel a type)) (payloadType audioType type)
    (SimpleRtsp.accepted (s.calls type))

theorem payloadType_and (audioType : AudioE) (type : MediaE) :
    payloadType audioType type &&& 0x7F = payloadType audioType type := by
  cases type <;> cases audioType <;> decide

theorem Live.good {slot : Nat} {a : AddArgs} {audioType : AudioE} {s : StreamState}
    (h : s.Live slot a audioType) : s.Good a audioType where
  stops := stopsAtRefusal_of_pos h.accepted
  stream type := by
    obtain ⟨ps, hps, -, hcalls⟩ := h.stream type
    rw [hcalls, ← h.args type]
    exact carries_of_prefix (payloadType_and audioType type) _ hps (List.prefix_refl _)

theorem calls_append (c : Clientinfo) (log : List (MediaE × List SendCall)) (type' : MediaE)
    (new : List SendCall) (type : MediaE) :
    (⟨c, log ++ [(type', new)]⟩ : StreamState).calls type =
      (⟨c, log⟩ : StreamState).calls type ++ if type' = type then new else [] := by
  by_cases h : type' = type <;> simp [calls, h]

theorem allCalls_append (c : Clientinfo) (log : List (MediaE × List SendCall)) (type' : MediaE)
    (new : List SendCall) : (⟨c, log ++ [(type', new)]⟩ : StreamState).allCalls =
      (⟨c, log⟩ : StreamState).allCalls ++ new := by
  simp [allCalls]

theorem sendArgs_requeued {c c' : Clientinfo} (h : c.Requeued c') (type : MediaE) :
    sendArgs c' true type = sendArgs c true type := by
  obtain ⟨video, audio, rfl⟩ := h
  cases type <;> rfl

theorem sendArgs_rebuffered {c c' : Clientinfo} (h : c.Rebuffered c') (type : MediaE) :
    sendArgs c' true type = sendArgs c true type := by
  obtain ⟨packet, packet1, header, rfl⟩ := h
  cases type <;> rfl

theorem packet_requeued {c c' : Clientinfo} (h : c.Requeued c') (type : MediaE) :
    c'.packet type = c.packet type := by
  obtain ⟨video, audio, rfl⟩ := h
  cases type <;> rfl

variable {slot : Nat} {a : AddArgs} {audioType : AudioE} {s : StreamState}

theorem Live.requeued (h : s.Live slot a audioType) {c : Clientinfo} (hc : s.client.Requeued c)
    (hplaying : c.Playing slot)
    (hasked : ∀ type, ∀ f ∈ (c.queue type).waiting, channel a f.type ≠ -1) :
    Live slot a audioType ⟨c, s.log⟩ where
  playing := hplaying
  args type := by rw [sendArgs_requeued hc, h.args type]
  sd := by obtain ⟨video, audio, rfl⟩ := hc; exact h.sd
  ports := by obtain ⟨video, audio, rfl⟩ := hc; exact h.ports
  header := by obtain ⟨video, audio, rfl⟩ := hc; exact h.header
  asked := hasked
  accepted := h.accepted
  stream type := by
    dsimp only
    rw [sendArgs_requeued hc, packet_requeued hc]
    exact h.stream type

theorem live_start (slot : Nat) {c : Clientinfo} (hidle : c.Idle) {a : AddArgs}
    (htcp : a.tureOfTcp = 1) (hsd : 0 ≤ a.clientSockFd) (audioType : AudioE) (mem : Fresh) :
    Live slot a audioType (start slot c a audioType mem) where
  playing := playing_setClient hidle a hsd audioType mem slot
  args type := by
    cases type <;> simp [start, setClient, setTransport, eventAdd, setBuffers, htcp, sendArgs,
      channel, show ¬ a.clientSockFd < 0 by omega]
  sd := by
    simp [start, setClient, setTransport, setBuffers, htcp]
  ports := by
    simp [start, setClient, setTransport, eventAdd, setBuffers, htcp, hidle.clientRtpPort,
      hidle.clientRtpPort1, show ¬ a.clientSockFd < 0 by omega]
  header := by
    simp [start, setClient, eventAdd, setBuffers]
    split_ifs <;> rfl
  asked type f hf := by
    obtain ⟨cells, hqueue⟩ := queue_setClient hidle a audioType mem slot type
    rw [start, hqueue] at hf
    cases hf
  accepted call hcall := by cases hcall
  stream type := by
    refine ⟨[], trivial, fun p hp => ?_, rfl⟩
    have hpacket : (start slot c a audioType mem).client.packet type =
        (setBuffers audioType mem c).packet type :=
      eventAdd_packet slot
        (setBuffers audioType mem (setTransport a { c with sd := a.clientSockFd })) type
    rw [hpacket] at hp
    cases type <;> cases hp <;> exact rtpHeaderInit_of _ _

theorem Live.callback (h : s.Live slot a audioType) (m : Delivery)
    (fresh : MediaE → Nat → MediaPacket) :
    Live slot a audioType ⟨sendData m.toMediainfo fresh s.client, s.log⟩ := by
  refine h.requeued (.sendData _ _ _) (h.playing.sendData m fresh) fun type f hf => ?_
  rw [(sendData_queue m fresh h.playing.valid type).2] at hf
  refine (List.mem_append.mp hf).elim (h.asked type f) fun hshare => ?_
  rw [Clientinfo.share] at hshare
  split_ifs at hshare with hroute
  · obtain rfl := List.mem_singleton.mp hshare
    have htype : m.mediaFrame.type = m.type := by
      unfold Delivery.mediaFrame
      cases m.type <;> rfl
    rw [htype, ← h.args]
    cases hm : m.type <;> rw [hm] at hroute
    · refine fun hnot => ?_
      simp [Clientinfo.route, h.ports.1] at hroute
      exact hroute.1 hnot
    · refine fun hnot => ?_
      simp [Clientinfo.route, h.ports.2] at hroute
      exact hroute.1 hnot
  · cases hshare

theorem Live.sent (h : s.Live slot a audioType) {c : Clientinfo} {type : MediaE} {ret : Int}
    {new : List SendCall} {ps : List Packet} (hps : Numbered (payloadType audioType type) 0 ps)
    (hcalls : SimpleRtsp.accepted (s.calls type) =
      ps.flatMap (Packet.bufs (sendArgs s.client true type) true))
    (hsent : Sent s.client c type (payloadType audioType type) ps.length ret new)
    (client : Clientinfo) : Good a audioType ⟨client, s.log ++ [(type, new)]⟩ := by
  obtain ⟨qs, hqs, hcases⟩ := hsent
  have hnew : StopsAtRefusal new ∧ SimpleRtsp.accepted new <+:
      qs.flatMap (Packet.bufs (sendArgs s.client true type) true) := by
    rcases hcases with ⟨-, -, hall, hbufs⟩ | ⟨-, hstops, hbufs⟩
    · exact ⟨stopsAtRefusal_of_pos hall, hbufs ▸ List.prefix_refl _⟩
    · exact ⟨hstops, hbufs⟩
  constructor
  · rw [allCalls_append]
    exact .append h.accepted hnew.1
  · intro type'
    rw [calls_append]
    by_cases htype : type = type'
    · subst htype
      rw [if_pos rfl, accepted_append]
      have hstarts : SimpleRtsp.accepted (s.calls type) ++ SimpleRtsp.accepted new <+:
          (ps ++ qs).flatMap (Packet.bufs (sendArgs s.client true type) true) := by
        rw [hcalls, List.flatMap_append]
        exact (List.prefix_append_right_inj _).mpr hnew.2
      rw [← h.args type]
      refine carries_of_prefix (payloadType_and audioType type) _ (hps.append ?_) hstarts
      rwa [Nat.zero_add]
    · rw [if_neg htype, List.append_nil]
      exact h.good.stream type'

theorem Live.transmit (h : s.Live slot a audioType) {env : SendEnv} {node : MediaPacket}
    {result : Nat → Nat → Int} {ret : Int} {c : Clientinfo} {w : Wire}
    (hsig : channel a node.type ≠ -1)
    (htransmit : transmit env s.client a.clientSockFd node ⟨result, []⟩ = some (ret, c, w)) :
    (∀ client, Good a audioType ⟨client, s.log ++ [(node.type, w.calls)]⟩) ∧
      (0 < ret → Live slot a audioType ⟨c, s.log ++ [(node.type, w.calls)]⟩) := by
  obtain ⟨ps, hps, hof, hcalls⟩ := h.stream node.type
  have hplaying := h.playing.transmit htransmit
  have hbuffers := Clientinfo.Rebuffered.transmit htransmit
  rw [← h.sd] at htransmit
  obtain ⟨hother, hsent⟩ := transmit_tcp htransmit h.header (by rwa [h.args]) hof
  refine ⟨h.sent hps hcalls hsent, fun hret => ?_⟩
  obtain ⟨qs, hqs, ⟨hheader, hof', hall, hbufs⟩ | ⟨hneg, -⟩⟩ := hsent
  · constructor
    · exact hplaying
    · exact fun type => by rw [sendArgs_rebuffered hbuffers, h.args type]
    · obtain ⟨packet, packet1, header, rfl⟩ := hbuffers
      exact h.sd
    · obtain ⟨packet, packet1, header, rfl⟩ := hbuffers
      exact h.ports
    · exact hheader
    · obtain ⟨packet, packet1, header, rfl⟩ := hbuffers
      exact fun type f hf => h.asked type f (by cases type <;> exact hf)
    · rw [allCalls_append]
      exact fun call hcall => (List.mem_append.mp hcall).elim (h.accepted call) (hall call)
    · intro type
      rw [calls_append]
      dsimp only
      rw [sendArgs_rebuffered hbuffers]
      by_cases htype : node.type = type
      · subst htype
        refine ⟨ps ++ qs, hps.append (by rwa [Nat.zero_add]), ?_, ?_⟩
        · rwa [List.length_append]
        · rw [if_pos rfl, accepted_append, List.flatMap_append, ← hbufs]
          exact congrArg (· ++ _) hcalls
      · rw [if_neg htype, List.append_nil, hother type (Ne.symm htype)]
        exact h.stream type
  · omega

theorem Live.event (h : s.Live slot a audioType) {node : MediaPacket} {env : SendEnv}
    {result : Nat → Nat → Int} {t : Turn}
    (hturn : turn s.client a.clientSockFd node env result = some t) :
    Good a audioType
        ⟨if t.offline then clearClient t.client else t.client, s.log ++ t.sent.toList⟩ ∧
      (t.offline = false → Live slot a audioType ⟨t.client, s.log ++ t.sent.toList⟩) := by
  have hquiet : ∀ {c : Clientinfo}, Live slot a audioType ⟨c, s.log⟩ →
      Good a audioType ⟨c, s.log ++ []⟩ ∧
        (false = false → Live slot a audioType ⟨c, s.log ++ []⟩) := by
    intro c hc
    rw [List.append_nil]
    exact ⟨hc.good, fun _ => hc⟩
  rw [turn] at hturn
  split_ifs at hturn with hmask
  · cases hturn
    exact hquiet h
  · split at hturn
    · cases hturn
      exact hquiet h
    · rename_i node' c hdequeue
      have hqueue := dequeue_queue h.playing.valid a.clientSockFd node
      rw [hdequeue] at hqueue
      have hasked : ∀ type, ∀ f ∈ (c.queue type).waiting, channel a f.type ≠ -1 := by
        intro type f hf
        refine h.asked type f ?_
        rw [hqueue.2 type]
        exact List.mem_append_right _ hf
      have hsig : channel a node'.type ≠ -1 := by
        obtain ⟨type, hof⟩ : ∃ type, s.client.queueOf a.clientSockFd = some type := by
          simp only [dequeue, Option.bind_eq_bind, Option.bind_eq_some_iff] at hdequeue
          exact ⟨_, hdequeue.choose_spec.1⟩
        refine h.asked type node'.frame ?_
        rw [hqueue.2 type, if_pos hof]
        exact List.mem_append_left _ (List.mem_singleton_self _)
      have htaken := h.requeued (.dequeue hdequeue) (h.playing.dequeue hdequeue) hasked
      split_ifs at hturn with hsize
      · cases hturn
        exact hquiet htaken
      · obtain ⟨⟨ret, c', w⟩, htransmit, rfl⟩ := Option.map_eq_some_iff.mp hturn
        obtain ⟨hgood, hlive⟩ := htaken.transmit hsig htransmit
        exact ⟨hgood _, fun hret => hlive (by simpa using hret)⟩

/-- In every state the client plays, or it is gone and its slot idle. -/
def Ok (slot : Nat) (a : AddArgs) (audioType : AudioE) (s : StreamState) : Prop :=
  s.Live slot a audioType ∨ s.client.Idle ∧ s.Good a audioType

theorem Ok.step (h : s.Ok slot a audioType) {l : StreamLabel} {s' : StreamState}
    (hstep : s.step a.clientSockFd l = some s') : s'.Ok slot a audioType := by
  cases l with
  | callback m fresh =>
    cases hstep
    rcases h with hlive | ⟨hidle, hgood⟩
    · rw [if_pos hlive.playing.callable]
      exact Or.inl (hlive.callback m fresh)
    · rw [if_neg (by simp [hidle.not_callable])]
      exact Or.inr ⟨hidle, hgood⟩
  | event node env result =>
    obtain ⟨t, hturn, rfl⟩ := Option.map_eq_some_iff.mp hstep
    rcases h with hlive | ⟨hidle, hgood⟩
    · obtain ⟨hgood, hnext⟩ := hlive.event hturn
      cases hoffline : t.offline with
      | true =>
        rw [hoffline] at hgood
        exact Or.inr ⟨idle_clearClient _, hgood⟩
      | false => exact Or.inl (hnext hoffline)
    · rw [hidle.turn] at hturn
      cases hturn
      refine Or.inr ⟨hidle, ?_⟩
      rw [Option.toList_none, List.append_nil]
      exact hgood

/-- **The streams of a TCP client.** From a slot as `initClient` or `clearClient` left it,
whatever is delivered and however the socket answers: what was accepted of each stream is a
sequence of packets with version 2, the payload type and SSRC given to `rtpHeaderInit` and the
sequence numbers 0, 1, 2 and so on modulo 65536, each behind its interleaved header; and a refused
call is the client's last. -/
theorem stream_carries (slot : Nat) (c : Clientinfo) (hidle : c.Idle) (a : AddArgs)
    (htcp : a.tureOfTcp = 1) (hsd : 0 ≤ a.clientSockFd) (audioType : AudioE) (mem : Fresh)
    (s : StreamState) (h : Reach (step a.clientSockFd) anyStep (start slot c a audioType mem) s) :
    (∀ type, Carries (UInt8.ofInt (channel a type)) (payloadType audioType type)
      (SimpleRtsp.accepted (s.calls type))) ∧ StopsAtRefusal s.allCalls := by
  have hok : s.Ok slot a audioType :=
    h.invariant (Or.inl (live_start slot hidle htcp hsd audioType mem)) fun _ _ _ hok _ hstep =>
      hok.step hstep
  have hgood : s.Good a audioType := hok.elim Live.good And.right
  exact ⟨hgood.stream, hgood.stops⟩

/-- A NAL unit is sent, the next one is refused. -/
def oneUnit : List StreamLabel :=
  [.callback (nalDelivery 0x65) fun _ _ => zeroPacket, .event zeroPacket zeroEnv fun _ n => n,
    .callback (nalDelivery 0x41) fun _ _ => zeroPacket, .event zeroPacket zeroEnv fun _ _ => -1]

theorem stream_carries_oneUnit :
    ∃ s, runs (step 7) (start 0 initClient (tcpPlayer 7) .aac zeroFresh) oneUnit = some s ∧
      s.client.sd = -1 ∧
      SimpleRtsp.accepted (s.calls .video) = [interleaved 0 13,
        [0x80, 0xE0, 0, 0, 0, 0, 0, 0, 0x88, 0x92, 0x34, 0x23, 0x65]] ∧
      (∀ type, Carries (UInt8.ofInt (channel (tcpPlayer 7) type)) (payloadType .aac type)
        (SimpleRtsp.accepted (s.calls type))) ∧ StopsAtRefusal s.allCalls :=
  ⟨_, rfl, rfl, rfl, stream_carries 0 initClient (idle_initClient none) (tcpPlayer 7) rfl
    (by decide) .aac zeroFresh _ (.of_runs oneUnit rfl)⟩

end StreamState

end SimpleRtsp

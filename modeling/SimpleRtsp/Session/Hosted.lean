import SimpleRtsp.Rtp.Transport
import SimpleRtsp.Session.Players

/-!
# The client in a slot

Which way a packet goes is decided at four places: `addClient` sets the transport fields of a slot,
`sendData` picks a queue, `epollLoop` picks a queue by descriptor, and then descriptor, channel and
address by descriptor and type. `AddArgs.dest` is where a packet should go: on the channel, or to
the port, that the client in the slot has negotiated for its type.

The transport fields of a playing slot are those its client came with, and whatever waits in its
queues waits where `sendData` puts packets of its type (`AddArgs.Hosted`). Then a packet taken from
a queue goes to its destination, and the packetisers always have a transport
(`AddArgs.Hosted.dest`).
-/

namespace SimpleRtsp

/-! ## Destinations -/

/-- What `doClientThd` passes: a UDP socket is absent, or it is open beside the accepted one and
descriptor 0, which is open from the start. -/
structure AddArgs.Opened (a : AddArgs) : Prop where
  rtp : a.serverUdpSocketRtp = -1 ∨ 0 < a.serverUdpSocketRtp ∧ a.serverUdpSocketRtp ≠ a.clientSockFd
  rtp1 : a.serverUdpSocketRtp1 = -1 ∨
    0 < a.serverUdpSocketRtp1 ∧ a.serverUdpSocketRtp1 ≠ a.clientSockFd

theorem AddArgs.opened_iff {a : AddArgs} :
    (a.serverUdpSocketRtp = -1 ∨ 0 < a.serverUdpSocketRtp ∧ a.serverUdpSocketRtp ≠ a.clientSockFd) ∧
      (a.serverUdpSocketRtp1 = -1 ∨
        0 < a.serverUdpSocketRtp1 ∧ a.serverUdpSocketRtp1 ≠ a.clientSockFd) ↔ a.Opened :=
  ⟨fun ⟨hrtp, hrtp1⟩ => ⟨hrtp, hrtp1⟩, fun ⟨hrtp, hrtp1⟩ => ⟨hrtp, hrtp1⟩⟩

instance (a : AddArgs) : Decidable a.Opened := decidable_of_iff _ AddArgs.opened_iff

/-- Where a packet for the client goes. -/
def AddArgs.dest (a : AddArgs) : MediaE → SendArgs
  | .video =>
    if a.tureOfTcp = 1 then ⟨a.clientSockFd, a.sig0, none, -1⟩
    else ⟨a.serverUdpSocketRtp, -1, some a.clientIp, a.clientRtpPort⟩
  | .audio =>
    if a.tureOfTcp = 1 then ⟨a.clientSockFd, a.sig2, none, -1⟩
    else ⟨a.serverUdpSocketRtp1, -1, some a.clientIp, a.clientRtpPort1⟩

/-- The client has negotiated a channel or a port for packets of the type. -/
def AddArgs.Negotiated (a : AddArgs) (type : MediaE) : Prop :=
  if a.tureOfTcp = 1 then (a.dest type).sig ≠ -1 else (a.dest type).clientRtpPort ≠ -1

/-- A slot with nothing but the transport fields of the client. -/
def AddArgs.host (a : AddArgs) : Clientinfo :=
  setTransport a { initClient with sd := a.clientSockFd }

/-- An event on `fd` takes a packet of the type from the queue where it is put. -/
def AddArgs.Takes (a : AddArgs) (fd : Int) (type : MediaE) : Prop :=
  ∃ queue, a.host.queueOf fd = some queue ∧ a.host.route type = some queue

theorem Clientinfo.queueOf_some {c : Clientinfo} {fd : Int} {queue : MediaE}
    (h : c.queueOf fd = some queue) :
    fd = c.sd ∧ (c.sig0 ≠ -1 ∨ c.sig2 ≠ -1) ∨ fd = c.udpSdRtp ∨ fd = c.udpSdRtp1 := by
  rw [queueOf] at h
  split_ifs at h with hsd hrtp hrtp1
  · exact Or.inl hsd
  · exact Or.inr (Or.inl hrtp)
  · exact Or.inr (Or.inr hrtp1)

theorem Clientinfo.route_video {c : Clientinfo} {queue : MediaE}
    (h : c.route .video = some queue) : c.sig0 ≠ -1 ∨ c.clientRtpPort ≠ -1 := by
  rw [route] at h
  split_ifs at h with hasked
  exact hasked

theorem Clientinfo.route_audio {c : Clientinfo} {queue : MediaE}
    (h : c.route .audio = some queue) : c.clientRtpPort1 ≠ -1 ∨ c.sig2 ≠ -1 := by
  rw [route] at h
  split_ifs at h with hport hsig
  · exact Or.inl hport
  · exact Or.inr hsig

namespace AddArgs

variable {a : AddArgs} {fd : Int} {type : MediaE}

theorem host_sd (a : AddArgs) : a.host.sd = a.clientSockFd := setTransport_sd a _

theorem host_tcp (htcp : a.tureOfTcp = 1) :
    (a.host.sig0 = a.sig0 ∧ a.host.sig2 = a.sig2) ∧
      (a.host.udpSdRtp = -1 ∧ a.host.udpSdRtp1 = -1) ∧
      a.host.clientRtpPort = -1 ∧ a.host.clientRtpPort1 = -1 := by
  rw [host, setTransport, if_pos htcp]
  exact ⟨⟨rfl, rfl⟩, ⟨rfl, rfl⟩, rfl, rfl⟩

theorem host_udp (hudp : a.tureOfTcp ≠ 1) :
    (a.host.sig0 = -1 ∧ a.host.sig2 = -1) ∧
      (a.host.udpSdRtp = a.serverUdpSocketRtp ∧ a.host.udpSdRtp1 = a.serverUdpSocketRtp1) ∧
      a.host.clientRtpPort = a.clientRtpPort ∧ a.host.clientRtpPort1 = a.clientRtpPort1 ∧
      a.host.clientIp = a.clientIp := by
  rw [host, setTransport, if_neg hudp]
  exact ⟨⟨rfl, rfl⟩, ⟨rfl, rfl⟩, rfl, rfl, rfl⟩

theorem Takes.tcp (h : a.Takes fd type) (hfd : 0 ≤ fd) (htcp : a.tureOfTcp = 1) :
    fd = a.clientSockFd ∧ a.Negotiated type := by
  obtain ⟨queue, hqueue, hroute⟩ := h
  obtain ⟨⟨hsig0, hsig2⟩, ⟨hrtp, hrtp1⟩, hport, hport1⟩ := host_tcp htcp
  constructor
  · have hof := Clientinfo.queueOf_some hqueue
    rw [host_sd, hrtp, hrtp1] at hof
    omega
  · rw [Negotiated, if_pos htcp]
    cases type with
    | video =>
      have hasked := Clientinfo.route_video hroute
      rw [hsig0, hport] at hasked
      rw [dest, if_pos htcp]
      exact hasked.resolve_right (by simp)
    | audio =>
      have hasked := Clientinfo.route_audio hroute
      rw [hsig2, hport1] at hasked
      rw [dest, if_pos htcp]
      exact hasked.resolve_left (by simp)

theorem Takes.udp (h : a.Takes fd type) (ha : a.Opened) (hfd : 0 ≤ fd) (hudp : a.tureOfTcp ≠ 1) :
    fd ≠ a.clientSockFd ∧ a.Negotiated type := by
  obtain ⟨queue, hqueue, hroute⟩ := h
  obtain ⟨⟨hsig0, hsig2⟩, ⟨hrtp, hrtp1⟩, hport, hport1, -⟩ := host_udp hudp
  constructor
  · have hof := Clientinfo.queueOf_some hqueue
    have hfd0 := ha.rtp
    have hfd1 := ha.rtp1
    rw [hsig0, hsig2, hrtp, hrtp1] at hof
    omega
  · rw [Negotiated, if_neg hudp]
    cases type with
    | video =>
      have hasked := Clientinfo.route_video hroute
      rw [hsig0, hport] at hasked
      rw [dest, if_neg hudp]
      exact hasked.resolve_left (by simp)
    | audio =>
      have hasked := Clientinfo.route_audio hroute
      rw [hsig2, hport1] at hasked
      rw [dest, if_neg hudp]
      exact hasked.resolve_right (by simp)

theorem sendArgs_host_tcp (htcp : a.tureOfTcp = 1) (type : MediaE) :
    sendArgs a.host true type = a.dest type := by
  obtain ⟨⟨hsig0, hsig2⟩, -⟩ := host_tcp htcp
  cases type with
  | video => rw [dest, if_pos htcp, sendArgs, host_sd, hsig0]
  | audio => rw [dest, if_pos htcp, sendArgs, host_sd, hsig2]

theorem sendArgs_host_udp (hudp : a.tureOfTcp ≠ 1) (type : MediaE) :
    sendArgs a.host false type = a.dest type := by
  obtain ⟨-, ⟨hrtp, hrtp1⟩, hport, hport1, hip⟩ := host_udp hudp
  cases type with
  | video => rw [dest, if_neg hudp, sendArgs, hrtp, hip, hport]
  | audio => rw [dest, if_neg hudp, sendArgs, hrtp1, hip, hport1]

/-- **The packet goes to its destination**, and the client has negotiated it. -/
theorem Takes.dest (h : a.Takes fd type) (ha : a.Opened) (hfd : 0 ≤ fd) :
    (fd == a.host.sd) = (a.tureOfTcp == 1) ∧ sendArgs a.host (fd == a.host.sd) type = a.dest type ∧
      a.Negotiated type := by
  rw [host_sd]
  by_cases htcp : a.tureOfTcp = 1
  · obtain ⟨rfl, hnegotiated⟩ := h.tcp hfd htcp
    rw [beq_self_eq_true, htcp]
    exact ⟨rfl, sendArgs_host_tcp htcp type, hnegotiated⟩
  · obtain ⟨hne, hnegotiated⟩ := h.udp ha hfd htcp
    rw [beq_false_of_ne hne, beq_false_of_ne htcp]
    exact ⟨rfl, sendArgs_host_udp htcp type, hnegotiated⟩

end AddArgs

/-- With a negotiated destination the packetisers have a transport; over TCP they are lent an
interleaved header. -/
theorem AddArgs.Negotiated.routed {a : AddArgs} {type : MediaE} (h : a.Negotiated type) {t : Tx}
    (hheader : a.tureOfTcp = 1 → t.tcpHeader.isSome) : t.Routed (a.dest type) := by
  rw [Negotiated] at h
  by_cases htcp : a.tureOfTcp = 1
  · rw [if_pos htcp] at h
    refine Or.inl ?_
    rw [Tx.overTcp, hheader htcp, Bool.true_and]
    exact bne_iff_ne.mpr h
  · rw [if_neg htcp] at h
    refine Or.inr ?_
    have hip : (a.dest type).clientIp.isSome := by
      cases type with
      | video => rw [dest, if_neg htcp]; rfl
      | audio => rw [dest, if_neg htcp]; rfl
    rw [SendArgs.hasAddr, hip, Bool.and_true]
    exact bne_iff_ne.mpr h

/-! ## Slots -/

/-- A slot with nothing but the fields that decide where packets go. -/
def Clientinfo.endpoints (c : Clientinfo) : Clientinfo :=
  { initClient with
    sd := c.sd
    udpSdRtp := c.udpSdRtp
    udpSdRtp1 := c.udpSdRtp1
    clientIp := c.clientIp
    clientRtpPort := c.clientRtpPort
    clientRtpPort1 := c.clientRtpPort1
    sig0 := c.sig0
    sig2 := c.sig2 }

/-- Apart from the socket these fields are absent. -/
def Clientinfo.Clear (c : Clientinfo) : Prop := c.endpoints = { initClient with sd := c.sd }

/-- The slot is as the client came, and every packet in it waits where it was put. -/
structure AddArgs.Hosted (a : AddArgs) (c : Clientinfo) : Prop where
  endpoints : c.endpoints = a.host.endpoints
  header : c.tcpHeader.isSome
  frames : ∀ type, ∀ f ∈ (c.queue type).waiting, a.host.route f.type = some type

/-- A slot of which `occupant` says who was put there last. -/
def Held (occupant : Option AddArgs) (slot : Nat) (c : Clientinfo) : Prop :=
  (c.Idle ∧ c.Clear) ∨ (c.Playing slot ∧ ∃ a, occupant = some a ∧ a.Opened ∧ a.Hosted c)

theorem setTransport_endpoints (a : AddArgs) (c : Clientinfo) :
    (setTransport a c).endpoints = (setTransport a c.endpoints).endpoints := by
  unfold setTransport
  split_ifs <;> rfl

theorem eventAdd_endpoints (slot : Nat) (c : Clientinfo) :
    (eventAdd slot c).endpoints = c.endpoints ∧ (eventAdd slot c).tcpHeader = c.tcpHeader := by
  rw [eventAdd]
  split_ifs <;> exact ⟨rfl, rfl⟩

theorem setClient_endpoints (a : AddArgs) (audioType : AudioE) (mem : Fresh) (slot : Nat)
    (c : Clientinfo) :
    (setClient a audioType mem slot c).endpoints =
        (setTransport a { c with sd := a.clientSockFd }).endpoints ∧
      (setClient a audioType mem slot c).tcpHeader = some mem.tcpHeader := by
  let filled := setBuffers audioType mem (setTransport a { c with sd := a.clientSockFd })
  obtain ⟨hendpoints, hheader⟩ := eventAdd_endpoints slot filled
  exact ⟨hendpoints, hheader⟩

theorem Clientinfo.Requeued.endpoints {c c' : Clientinfo} (h : c.Requeued c') :
    c'.endpoints = c.endpoints ∧ c'.tcpHeader = c.tcpHeader := by
  obtain ⟨video, audio, rfl⟩ := h
  exact ⟨rfl, rfl⟩

theorem Clientinfo.Rebuffered.endpoints {c c' : Clientinfo} (h : c.Rebuffered c') :
    c'.endpoints = c.endpoints ∧ ∀ type, c'.queue type = c.queue type := by
  obtain ⟨packet, packet1, header, rfl⟩ := h
  refine ⟨rfl, fun type => ?_⟩
  cases type <;> rfl

theorem clear_initClient (session : Option Nat) :
    ({ initClient with session := session } : Clientinfo).Clear := rfl

namespace AddArgs.Hosted

variable {a : AddArgs} {c c' : Clientinfo}

theorem queueOf (h : a.Hosted c) (fd : Int) : c.queueOf fd = a.host.queueOf fd := by
  show c.endpoints.queueOf fd = a.host.endpoints.queueOf fd
  rw [h.endpoints]

theorem route (h : a.Hosted c) (type : MediaE) : c.route type = a.host.route type := by
  have hsame : ∀ c : Clientinfo, c.endpoints.route type = c.route type := by
    intro c
    cases type <;> rfl
  rw [← hsame, h.endpoints, hsame]

theorem sd (h : a.Hosted c) : c.sd = a.host.sd := by
  show c.endpoints.sd = a.host.endpoints.sd
  rw [h.endpoints]

theorem args (h : a.Hosted c) (tcp : Bool) (type : MediaE) :
    sendArgs c tcp type = sendArgs a.host tcp type := by
  have hsame : ∀ c : Clientinfo, sendArgs c.endpoints tcp type = sendArgs c tcp type := by
    intro c
    cases tcp <;> cases type <;> rfl
  rw [← hsame, h.endpoints, hsame]

end AddArgs.Hosted

theorem hosted_setClient {c : Clientinfo} (hidle : c.Idle) (hclear : c.Clear) (a : AddArgs)
    (audioType : AudioE) (mem : Fresh) (slot : Nat) :
    a.Hosted (setClient a audioType mem slot c) := by
  refine ⟨?_, ?_, fun type f hf => ?_⟩
  · have hstart : ({ c with sd := a.clientSockFd } : Clientinfo).endpoints =
        { initClient with sd := a.clientSockFd } :=
      congrArg (fun c : Clientinfo => { c with sd := a.clientSockFd }) hclear
    rw [(setClient_endpoints a audioType mem slot c).1, setTransport_endpoints, hstart]
    rfl
  · rw [(setClient_endpoints a audioType mem slot c).2]
    rfl
  · obtain ⟨cells, hqueue⟩ := queue_setClient hidle a audioType mem slot type
    rw [hqueue] at hf
    exact absurd hf List.not_mem_nil

theorem AddArgs.Hosted.clear {a : AddArgs} {c : Clientinfo} (h : a.Hosted c) (ha : a.Opened) :
    (clearClient c).Clear := by
  have hrtp : c.udpSdRtp = a.host.udpSdRtp := by
    show c.endpoints.udpSdRtp = a.host.endpoints.udpSdRtp
    rw [h.endpoints]
  have hrtp1 : c.udpSdRtp1 = a.host.udpSdRtp1 := by
    show c.endpoints.udpSdRtp1 = a.host.endpoints.udpSdRtp1
    rw [h.endpoints]
  have hclosed : ∀ fd fd' : Int, (fd = -1 ∨ 0 < fd ∧ fd ≠ fd') → closeFd fd = -1 := by
    rintro fd fd' (rfl | ⟨hfd, -⟩)
    · rfl
    · exact if_pos hfd
  have hboth : closeFd c.udpSdRtp = -1 ∧ closeFd c.udpSdRtp1 = -1 := by
    rw [hrtp, hrtp1]
    by_cases htcp : a.tureOfTcp = 1
    · obtain ⟨-, ⟨hnone, hnone1⟩, -⟩ := host_tcp htcp
      rw [hnone, hnone1]
      exact ⟨rfl, rfl⟩
    · obtain ⟨-, ⟨hsome, hsome1⟩, -⟩ := host_udp htcp
      rw [hsome, hsome1]
      exact ⟨hclosed _ _ ha.rtp, hclosed _ _ ha.rtp1⟩
  unfold Clientinfo.Clear Clientinfo.endpoints clearClient
  dsimp only
  rw [hboth.1, hboth.2]
  rfl

theorem Delivery.mediaFrame_type (m : Delivery) : m.mediaFrame.type = m.type := by
  rcases m.cases with ⟨-, -, hframe, -⟩ | ⟨-, -, hframe, -⟩
  · rw [hframe]
  · rw [hframe]

theorem AddArgs.Hosted.sendData {a : AddArgs} {c : Clientinfo} (h : a.Hosted c)
    (hvalid : ∀ type, (c.queue type).Valid) (m : Delivery) (fresh : MediaE → Nat → MediaPacket) :
    a.Hosted (sendData m.toMediainfo fresh c) := by
  obtain ⟨hendpoints, hheader⟩ := (Clientinfo.Requeued.sendData m.toMediainfo fresh c).endpoints
  refine ⟨hendpoints.trans h.endpoints, hheader ▸ h.header, fun type f hf => ?_⟩
  rw [(sendData_queue m fresh hvalid type).2] at hf
  rcases List.mem_append.mp hf with hf | hf
  · exact h.frames type f hf
  · rw [Clientinfo.share] at hf
    split_ifs at hf with hroute
    · obtain rfl := List.mem_singleton.mp hf
      rw [m.mediaFrame_type, ← h.route]
      exact hroute
    · exact absurd hf List.not_mem_nil

theorem AddArgs.Hosted.dequeue {a : AddArgs} {c c' : Clientinfo} (h : a.Hosted c)
    (hvalid : ∀ type, (c.queue type).Valid) {fd : Int} {node node' : MediaPacket}
    (hdequeue : dequeue c fd node = some (node', c')) :
    a.Hosted c' ∧ a.Takes fd node'.type := by
  obtain ⟨hendpoints, hheader⟩ := (Clientinfo.Requeued.dequeue hdequeue).endpoints
  have hqueue := dequeue_queue hvalid fd node
  rw [hdequeue] at hqueue
  obtain ⟨-, hwaiting⟩ := hqueue
  constructor
  · refine ⟨hendpoints.trans h.endpoints, hheader ▸ h.header, fun type f hf => ?_⟩
    refine h.frames type f ?_
    rw [hwaiting type]
    exact List.mem_append_right _ hf
  · simp only [SimpleRtsp.dequeue, Option.bind_eq_bind, Option.bind_eq_some_iff] at hdequeue
    obtain ⟨queue, hof, -⟩ := hdequeue
    refine ⟨queue, (h.queueOf fd) ▸ hof, ?_⟩
    refine h.frames queue node'.frame ?_
    rw [hwaiting queue, if_pos hof]
    exact List.mem_append_left _ (List.mem_singleton_self _)

/-! ## The sends -/

theorem packetiser_routes {env : SendEnv} {node : MediaPacket} {send : SendArgs → SendM Int}
    (h : packetiser env node = some send) (a : SendArgs) : Routes a (send a) := by
  rw [packetiser] at h
  split at h
  · split at h
    · obtain rfl := Option.some.inj h
      exact routes_video H26x.h264 env.tv node.data node.size
    · obtain rfl := Option.some.inj h
      exact routes_video H26x.h265 env.tv node.data node.size
    · exact absurd h (by simp)
  · split at h
    · obtain rfl := Option.some.inj h
      exact routes_audio Audio.aacAu env.tv node.data node.size env.sampleRate env.ret₀
    · obtain rfl := Option.some.inj h
      exact routes_audio (fun _ => []) env.tv node.data node.size env.sampleRate env.ret₀
    · exact absurd h (by simp)

/-- What a packetiser is lent by the client: the interleaved header only over TCP. -/
def Clientinfo.lend (c : Clientinfo) (fd : Int) (packet : RtpPacket) (w : Wire) : Tx :=
  ⟨if fd == c.sd then c.tcpHeader else none, packet, w⟩

theorem AddArgs.Hosted.dest {a : AddArgs} {c : Clientinfo} {fd : Int} {type : MediaE}
    (h : a.Hosted c) (ha : a.Opened) (htakes : a.Takes fd type) (hfd : 0 ≤ fd) :
    (fd == c.sd) = (a.tureOfTcp == 1) ∧ sendArgs c (fd == c.sd) type = a.dest type ∧
      a.Negotiated type ∧ ∀ packet w, (c.lend fd packet w).Routed (a.dest type) := by
  obtain ⟨htcp, hargs, hnegotiated⟩ := htakes.dest ha hfd
  rw [← h.sd] at htcp hargs
  refine ⟨htcp, (h.args _ _).trans hargs, hnegotiated, fun packet w => ?_⟩
  refine hnegotiated.routed fun hover => ?_
  have hsocket : (fd == c.sd) = true := by
    rw [htcp, hover]
    rfl
  rw [Clientinfo.lend, hsocket, if_pos rfl]
  exact h.header

theorem putBack_tcpHeader (c : Clientinfo) (tcp : Bool) (type : MediaE) (t : Tx) :
    (c.putBack tcp type t).tcpHeader = if tcp then t.tcpHeader else c.tcpHeader := by
  cases tcp <;> cases type <;> rfl

theorem AddArgs.Hosted.transmit {a : AddArgs} {c c' : Clientinfo} {env : SendEnv} {fd ret : Int}
    {node : MediaPacket} {w w' : Wire} (h : a.Hosted c)
    (hsent : transmit env c fd node w = some (ret, c', w')) : a.Hosted c' := by
  obtain ⟨hendpoints, hqueue⟩ := (Clientinfo.Rebuffered.transmit hsent).endpoints
  refine ⟨hendpoints.trans h.endpoints, ?_, fun type f hf => ?_⟩
  · obtain ⟨⟨ret₁, c₁, w₁⟩, hnode, hpair⟩ := Option.map_eq_some_iff.mp hsent
    obtain ⟨-, hc, -⟩ : _ ∧ c₁ = c' ∧ w₁ = w' := by simpa using hpair
    rw [sendNode] at hnode
    split at hnode
    · obtain ⟨-, hkept, -⟩ : _ ∧ c = c₁ ∧ w = w₁ := by simpa using hnode
      rw [← hc, ← hkept]
      exact h.header
    · rename_i send hsend
      obtain ⟨packet, -, hnode⟩ := Option.map_eq_some_iff.mp hnode
      rw [← hc, ← (Prod.mk.inj (Prod.mk.inj hnode).2).1, putBack_tcpHeader]
      split_ifs with hsocket
      · have hroutes := packetiser_routes hsend (sendArgs c (fd == c.sd) node.type)
        exact (hroutes.followed ⟨c.tcpHeader, packet, w⟩).tcp.trans h.header
      · exact h.header
  · rw [hqueue] at hf
    exact h.frames type f hf

end SimpleRtsp

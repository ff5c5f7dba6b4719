import SimpleRtsp.Lib.EarlyReturn
import SimpleRtsp.Rtp.Packet

/-!
# Sending one RTP packet

The four packetisers send every RTP packet by the same block: over TCP the interleaved header
first, then `seq`, `timestamp` and `ssrc` to network order, the packet itself by `send` or
`sendto`, the three fields back to host order, and `seq++`. `sendRtp` is that block. The sockets
are a `Wire`: the results its calls will return, chosen in advance and arbitrary, and the calls
made so far.

`sendRtp_meets` says all the block can do, whatever the sockets answer: it makes the calls of the
one packet it was given and ends with the sequence number advanced (`Emits`), or the calls stop at
the first one that is refused (`Cut`). Both compose along a sequence of packets (`Emits.trans`,
`Emits.cut`, `Cut.append`), which is how the packetisers' loops are verified.
-/

namespace SimpleRtsp

/-- A `send` or `sendto` call, what it read and what it returned. -/
structure SendCall where
  sd : Int
  buf : List UInt8
  /-- the address of a `sendto` -/
  addr : Option (List UInt8 × Int)
  ret : Int
  deriving DecidableEq, Repr

/-- The sockets of one client: the result of the `k`-th call when it is asked to send `n` bytes, and
the calls so far, oldest first. -/
structure Wire where
  result : Nat → Nat → Int
  calls : List SendCall

def Wire.call (w : Wire) (sd : Int) (buf : List UInt8) (addr : Option (List UInt8 × Int)) :
    Int × Wire :=
  let ret := w.result w.calls.length buf.length
  (ret, { w with calls := w.calls ++ [⟨sd, buf, addr, ret⟩] })

/-- The arguments of a packetiser that choose the transport; `sig` is the interleaved channel. -/
structure SendArgs where
  sd : Int
  sig : Int
  clientIp : Option (List UInt8)
  clientRtpPort : Int

/-- What a packetiser works on: the header buffers it is lent and the sockets. -/
structure Tx where
  tcpHeader : Option RtpTcpHeader
  rtpPacket : RtpPacket
  wire : Wire

/-- A packetiser; the early return is its `return -1`. -/
abbrev SendM := EarlyM Tx

def Tx.header (t : Tx) : RtpHeader := t.rtpPacket.rtpHeader

def modifyHeader (f : RtpHeader → RtpHeader) : SendM Unit :=
  EarlyM.modify fun t => { t with rtpPacket := { t.rtpPacket with rtpHeader := f t.header } }

def modifyPayload (f : Mem → Mem) : SendM Unit :=
  EarlyM.modify fun t =>
    { t with rtpPacket := { t.rtpPacket with payload := f t.rtpPacket.payload } }

def modifyTcpHeader (f : RtpTcpHeader → RtpTcpHeader) : SendM Unit :=
  EarlyM.modify fun t => { t with tcpHeader := t.tcpHeader.map f }

/-- The test `tcp_header != NULL && sig_0 != -1` in front of every TCP send. -/
def Tx.overTcp (a : SendArgs) (t : Tx) : Bool := t.tcpHeader.isSome && a.sig != -1

/-- The test `client_rtp_port != -1 && client_ip != NULL` in front of every UDP send. -/
def SendArgs.hasAddr (a : SendArgs) : Bool := a.clientRtpPort != -1 && a.clientIp.isSome

/-- A socket call whose non-positive result is answered by `return -1`. -/
def sendOrReturn (sd : Int) (buf : List UInt8) (addr : Option (List UInt8 × Int)) : SendM Int :=
  fun t =>
    let (ret, w) := t.wire.call sd buf addr
    (if ret ≤ 0 then none else some ret, { t with wire := w })

/-- Fill in the interleaved header and send it: `len` (cut to 16 bits) in network order, the
channel. -/
def sendInterleaved (a : SendArgs) (len : Nat) : SendM Int := do
  modifyTcpHeader fun h =>
    { h with rtpLen16 := htons (UInt16.ofNat len), channel := UInt8.ofInt a.sig }
  let t ← EarlyM.get
  sendOrReturn a.sd ((t.tcpHeader.map RtpTcpHeader.bytes).getD []) none

/-- Over TCP the interleaved header goes first; its length field is put back to host order. -/
def sendTcpHeader (a : SendArgs) (len : Nat) : SendM Unit := do
  let t ← EarlyM.get
  if t.overTcp a then
    let _ ← sendInterleaved a len
    modifyTcpHeader fun h => { h with rtpLen16 := htons h.rtpLen16 }

/-- The RTP packet with `n` payload bytes goes by the transport the arguments choose; without one it
is the source's `parameter error`. -/
def sendPacket (a : SendArgs) (n : Nat) : SendM Int := do
  let t ← EarlyM.get
  if t.overTcp a then
    sendOrReturn a.sd (t.rtpPacket.bytes n) none
  else if a.hasAddr then
    sendOrReturn a.sd (t.rtpPacket.bytes n) (some (a.clientIp.getD [], a.clientRtpPort))
  else
    EarlyM.fail

/-- The block around a packet whose payload is `front` (written before the interleaved header is
sent) followed by `body` (copied after it). -/
def sendRtp (a : SendArgs) (front body : List UInt8) : SendM Int := do
  modifyPayload fun p => p.write 0 front
  sendTcpHeader a (RTP_HEADER_SIZE + front.length + body.length)
  modifyHeader RtpHeader.toNetwork
  modifyPayload fun p => p.write front.length body
  let ret ← sendPacket a (front.length + body.length)
  modifyHeader RtpHeader.toHost
  modifyHeader fun h => { h with seq := h.seq + 1 }
  return ret

/-! ## The calls a packet stands for -/

/-- An RTP packet: its header in host order and its payload. -/
structure Packet where
  header : RtpHeader
  payload : List UInt8

def Packet.wire (p : Packet) : List UInt8 := p.header.toNetwork.bytes ++ p.payload

/-- The interleaved header in front of `len` bytes on channel `channel`. -/
def interleaved (channel : UInt8) (len : Nat) : List UInt8 :=
  [0x24, channel, (UInt16.ofNat len >>> 8).toUInt8, (UInt16.ofNat len).toUInt8]

/-- The buffers handed to the sockets for one packet, over TCP or not. -/
def Packet.bufs (a : SendArgs) (tcp : Bool) (p : Packet) : List (List UInt8) :=
  (if tcp then [interleaved (UInt8.ofInt a.sig) p.wire.length] else []) ++ [p.wire]

@[simp] theorem Packet.length_wire (p : Packet) :
    p.wire.length = RTP_HEADER_SIZE + p.payload.length := by
  simp [Packet.wire]

@[simp] theorem length_interleaved (channel : UInt8) (len : Nat) :
    (interleaved channel len).length = 4 := rfl

/-- What the senders keep between two packets: `$` in the interleaved header if there is one. -/
def Tx.Ready (t : Tx) : Prop := ∀ h ∈ t.tcpHeader, h.magic = 0x24

/-! ## What the senders do to the sockets -/

/-- From `t` to `t'` exactly the buffers `bufs` were handed to the sockets, and each was accepted.
-/
structure Made (t t' : Tx) (bufs : List (List UInt8)) : Prop where
  made : ∃ made, t'.wire.calls = t.wire.calls ++ made ∧ made.map (·.buf) = bufs ∧
    ∀ c ∈ made, 0 < c.ret
  result : t'.wire.result = t.wire.result
  tcp : t'.tcpHeader.isSome = t.tcpHeader.isSome
  ready : t'.Ready

/-- From `t` to `t'` the buffers `bufs` were handed over up to the first one refused; an early
return has one of two reasons. -/
structure Stopped (a : SendArgs) (t t' : Tx) (bufs : List (List UInt8)) : Prop where
  made : ∃ sent refused, t'.wire.calls = t.wire.calls ++ (sent ++ refused) ∧
    (sent ++ refused).map (·.buf) <+: bufs ∧ (∀ c ∈ sent, 0 < c.ret) ∧ refused.length ≤ 1 ∧
    ∀ c ∈ refused, c.ret ≤ 0
  why : (∃ k n, 0 < n ∧ t.wire.result k n ≤ 0) ∨ (t.overTcp a = false ∧ a.hasAddr = false)

theorem Made.overTcp {t t' : Tx} {bufs : List (List UInt8)} (h : Made t t' bufs) (a : SendArgs) :
    t'.overTcp a = t.overTcp a := by
  rw [Tx.overTcp, Tx.overTcp, h.tcp]

theorem Made.refl {t t' : Tx} (hwire : t'.wire = t.wire)
    (htcp : t'.tcpHeader.isSome = t.tcpHeader.isSome) (hready : t'.Ready) : Made t t' [] :=
  ⟨⟨[], by simp [hwire]⟩, by rw [hwire], htcp, hready⟩

theorem Made.trans {t t' t'' : Tx} {bufs bufs' : List (List UInt8)} (h : Made t t' bufs)
    (h' : Made t' t'' bufs') : Made t t'' (bufs ++ bufs') := by
  obtain ⟨made, hcalls, hbufs, hret⟩ := h.made
  obtain ⟨made', hcalls', hbufs', hret'⟩ := h'.made
  refine ⟨⟨made ++ made', ?_, ?_, ?_⟩, h'.result.trans h.result, h'.tcp.trans h.tcp, h'.ready⟩
  · rw [hcalls', hcalls, List.append_assoc]
  · rw [List.map_append, hbufs, hbufs']
  · intro c hc
    exact (List.mem_append.mp hc).elim (hret c) (hret' c)

/-- Changes of the header buffers are invisible to the sockets. -/
theorem Made.of_wire {t t' t'' : Tx} {bufs : List (List UInt8)} (h : Made t t' bufs)
    (hwire : t''.wire = t'.wire) (htcp : t''.tcpHeader.isSome = t'.tcpHeader.isSome)
    (hready : t''.Ready) : Made t t'' bufs :=
  ⟨by rw [hwire]; exact h.made, by rw [hwire, h.result], by rw [htcp, h.tcp], hready⟩

theorem Made.stop {a : SendArgs} {t t' t'' : Tx} {bufs bufs' : List (List UInt8)}
    (h : Made t t' bufs) (h' : Stopped a t' t'' bufs') : Stopped a t t'' (bufs ++ bufs') := by
  obtain ⟨made, hcalls, hbufs, hret⟩ := h.made
  obtain ⟨sent, refused, hcalls', hbufs', hsent, hone, hrefused⟩ := h'.made
  refine ⟨⟨made ++ sent, refused, ?_, ?_, ?_, hone, hrefused⟩, ?_⟩
  · rw [hcalls', hcalls, List.append_assoc, List.append_assoc]
  · rw [List.append_assoc, List.map_append, hbufs]
    exact (List.prefix_append_right_inj _).mpr hbufs'
  · intro c hc
    exact (List.mem_append.mp hc).elim (hret c) (hsent c)
  · have hwhy := h'.why
    rwa [h.result, h.overTcp] at hwhy

theorem Stopped.append {a : SendArgs} {t t' : Tx} {bufs : List (List UInt8)}
    (h : Stopped a t t' bufs) (bufs' : List (List UInt8)) : Stopped a t t' (bufs ++ bufs') := by
  obtain ⟨sent, refused, hcalls, hbufs, hrest⟩ := h.made
  exact ⟨⟨sent, refused, hcalls, hbufs.trans (List.prefix_append _ _), hrest⟩, h.why⟩

/-- The packets `ps` were sent. -/
def Emits (a : SendArgs) (t t' : Tx) (ps : List Packet) : Prop :=
  Made t t' (ps.flatMap (Packet.bufs a (t.overTcp a)))

/-- Sending the packets `ps` was cut short. -/
def Cut (a : SendArgs) (t t' : Tx) (ps : List Packet) : Prop :=
  Stopped a t t' (ps.flatMap (Packet.bufs a (t.overTcp a)))

theorem Emits.of_made {a : SendArgs} {t t' t'' : Tx} {ps : List Packet} (h : Made t t' [])
    (h' : Emits a t' t'' ps) : Emits a t t'' ps := by
  rw [Emits, Made.overTcp h] at h'
  exact Made.trans h h'

theorem Cut.of_made {a : SendArgs} {t t' t'' : Tx} {ps : List Packet} (h : Made t t' [])
    (h' : Cut a t' t'' ps) : Cut a t t'' ps := by
  rw [Cut, Made.overTcp h] at h'
  exact Made.stop h h'

theorem Emits.trans {a : SendArgs} {t t' t'' : Tx} {ps qs : List Packet} (h : Emits a t t' ps)
    (h' : Emits a t' t'' qs) : Emits a t t'' (ps ++ qs) := by
  rw [Emits, Made.overTcp h] at h'
  rw [Emits, List.flatMap_append]
  exact Made.trans h h'

theorem Emits.cut {a : SendArgs} {t t' t'' : Tx} {ps qs : List Packet} (h : Emits a t t' ps)
    (h' : Cut a t' t'' qs) : Cut a t t'' (ps ++ qs) := by
  rw [Cut, Made.overTcp h] at h'
  rw [Cut, List.flatMap_append]
  exact Made.stop h h'

theorem Cut.append {a : SendArgs} {t t' : Tx} {ps : List Packet} (h : Cut a t t' ps)
    (qs : List Packet) : Cut a t t' (ps ++ qs) := by
  rw [Cut, List.flatMap_append]
  exact Stopped.append h _

/-! ## What got through -/

def accepted (calls : List SendCall) : List (List UInt8) :=
  (calls.filter fun c => 0 < c.ret).map (·.buf)

/-- The calls from `t` to `t'`. -/
def Tx.callsTo (t t' : Tx) : List SendCall := t'.wire.calls.drop t.wire.calls.length

/-- The RTP packets accepted from `t` to `t'`; an interleaved header is shorter than any of them. -/
def emitted (t t' : Tx) : List (List UInt8) :=
  (accepted (t.callsTo t')).filter fun buf => RTP_HEADER_SIZE ≤ buf.length

/-- A refused call is the last one. -/
def StopsAtRefusal (calls : List SendCall) : Prop :=
  ∀ before c after, calls = before ++ c :: after → c.ret ≤ 0 → after = []

theorem accepted_append (calls calls' : List SendCall) :
    accepted (calls ++ calls') = accepted calls ++ accepted calls' := by
  simp [accepted]

theorem accepted_of_pos {calls : List SendCall} (h : ∀ c ∈ calls, 0 < c.ret) :
    accepted calls = calls.map (·.buf) := by
  rw [accepted, List.filter_eq_self.mpr (by simpa using h)]

theorem accepted_of_nonpos {calls : List SendCall} (h : ∀ c ∈ calls, c.ret ≤ 0) :
    accepted calls = [] := by
  rw [accepted, List.filter_eq_nil_iff.mpr (by simpa using h), List.map_nil]

theorem StopsAtRefusal.append {calls calls' : List SendCall} (h : ∀ c ∈ calls, 0 < c.ret)
    (h' : StopsAtRefusal calls') : StopsAtRefusal (calls ++ calls') := by
  intro before c after hcalls hrefused
  obtain ⟨middle, rfl, hsplit⟩ | ⟨middle, rfl, hsplit⟩ := List.append_eq_append_iff.mp hcalls
  · exact h' middle c after hsplit hrefused
  · cases middle with
    | nil => exact h' [] c after hsplit.symm hrefused
    | cons d rest =>
      obtain ⟨rfl, -⟩ := List.cons.inj hsplit
      have := h c (by simp)
      omega

theorem stopsAtRefusal_of_short {calls : List SendCall} (h : calls.length ≤ 1) :
    StopsAtRefusal calls := by
  rintro before c after rfl -
  simp only [List.length_append, List.length_cons] at h
  exact List.length_eq_zero_iff.mp (by omega)

theorem stopsAtRefusal_of_pos {calls : List SendCall} (h : ∀ c ∈ calls, 0 < c.ret) :
    StopsAtRefusal calls := by
  rw [← List.append_nil calls]
  exact .append h (stopsAtRefusal_of_short (by simp))

theorem Emits.calls {a : SendArgs} {t t' : Tx} {ps : List Packet} (h : Emits a t t' ps) :
    (∀ c ∈ t.callsTo t', 0 < c.ret) ∧
      accepted (t.callsTo t') = ps.flatMap (Packet.bufs a (t.overTcp a)) := by
  obtain ⟨made, hcalls, hbufs, hret⟩ := h.made
  rw [Tx.callsTo, hcalls, List.drop_left]
  exact ⟨hret, by rw [accepted_of_pos hret, hbufs]⟩

theorem Cut.calls {a : SendArgs} {t t' : Tx} {ps : List Packet} (h : Cut a t t' ps) :
    StopsAtRefusal (t.callsTo t') ∧
      accepted (t.callsTo t') <+: ps.flatMap (Packet.bufs a (t.overTcp a)) := by
  obtain ⟨sent, refused, hcalls, hbufs, hsent, hone, hrefused⟩ := h.made
  rw [Tx.callsTo, hcalls, List.drop_left]
  refine ⟨.append hsent (stopsAtRefusal_of_short hone), ?_⟩
  rw [accepted_append, accepted_of_pos hsent, accepted_of_nonpos hrefused, List.append_nil]
  refine List.IsPrefix.trans ?_ hbufs
  rw [List.map_append]
  exact List.prefix_append _ _

theorem filter_bufs (a : SendArgs) (tcp : Bool) (ps : List Packet) :
    (ps.flatMap (Packet.bufs a tcp)).filter (fun buf => RTP_HEADER_SIZE ≤ buf.length) =
      ps.map Packet.wire := by
  induction ps with
  | nil => rfl
  | cons p rest ih =>
    rw [List.flatMap_cons, List.filter_append, ih]
    cases tcp <;> simp [Packet.bufs, RTP_HEADER_SIZE]

theorem Emits.emitted {a : SendArgs} {t t' : Tx} {ps : List Packet} (h : Emits a t t' ps) :
    emitted t t' = ps.map Packet.wire := by
  rw [SimpleRtsp.emitted, h.calls.2, filter_bufs]

/-! ## What the block does -/

theorem sendOrReturn_meets (a : SendArgs) (sd : Int) (buf : List UInt8)
    (addr : Option (List UInt8 × Int)) (t : Tx) (hbuf : buf ≠ []) (ht : t.Ready) :
    (sendOrReturn sd buf addr).Meets t
      (fun ret t' => 0 < ret ∧ Made t t' [buf] ∧ t'.rtpPacket = t.rtpPacket ∧
        t'.tcpHeader = t.tcpHeader)
      (fun t' => Stopped a t t' [buf]) := by
  unfold EarlyM.Meets sendOrReturn Wire.call
  by_cases hret : t.wire.result t.wire.calls.length buf.length ≤ 0
  · simp only [hret, if_true]
    refine ⟨⟨[], _, rfl, by simp, by simp, by simp, by simpa using hret⟩, Or.inl ?_⟩
    exact ⟨_, _, List.length_pos_iff.mpr hbuf, hret⟩
  · simp only [hret, if_false]
    refine ⟨by omega, ⟨⟨_, rfl, by simp, ?_⟩, rfl, rfl, ht⟩, ⟨⟩, ⟨⟩⟩
    intro c hc
    rw [List.mem_singleton.mp hc]
    exact not_le.mp hret

theorem sendInterleaved_meets (a : SendArgs) (len : Nat) (t : Tx) (ht : t.Ready)
    (htcp : t.overTcp a) :
    (sendInterleaved a len).Meets t
      (fun ret t' => 0 < ret ∧ t'.rtpPacket = t.rtpPacket ∧
        Made t t' [interleaved (UInt8.ofInt a.sig) len])
      (fun t' => Stopped a t t' [interleaved (UInt8.ofInt a.sig) len]) := by
  obtain ⟨h, hsome⟩ : ∃ h, t.tcpHeader = some h :=
    Option.isSome_iff_exists.mp (Bool.and_eq_true_iff.mp htcp).1
  unfold sendInterleaved
  refine EarlyM.Meets.modify_bind (EarlyM.Meets.get_bind ?_)
  -- the header is filled in before it is sent
  let filled : RtpTcpHeader := ⟨0x24, UInt8.ofInt a.sig, htons (UInt16.ofNat len)⟩
  have hfilled : t.tcpHeader.map (fun h => { h with
      rtpLen16 := htons (UInt16.ofNat len), channel := UInt8.ofInt a.sig }) = some filled := by
    simp [hsome, filled, ht h hsome]
  rw [hfilled]
  have hfill : Made t { t with tcpHeader := some filled } [] := by
    refine Made.refl rfl (by simp [hsome]) ?_
    intro h' hh'
    rw [← Option.some.inj hh']
  have hbytes : filled.bytes = interleaved (UInt8.ofInt a.sig) len := by
    simp [filled, RtpTcpHeader.bytes, bytes16_htons, interleaved]
  change (sendOrReturn a.sd filled.bytes none).Meets _ _ _
  rw [hbytes]
  refine (sendOrReturn_meets a a.sd _ none _ (by simp [interleaved]) hfill.ready).mono ?_ ?_
  · rintro ret t₂ ⟨hret, hmade, hpacket, hheader⟩
    exact ⟨hret, hpacket, hfill.trans hmade⟩
  · exact fun _ h => hfill.stop h

theorem sendTcpHeader_meets (a : SendArgs) (len : Nat) (t : Tx) (ht : t.Ready) :
    (sendTcpHeader a len).Meets t
      (fun _ t' => t'.rtpPacket = t.rtpPacket ∧
        Made t t' (if t.overTcp a then [interleaved (UInt8.ofInt a.sig) len] else []))
      (fun t' => Stopped a t t'
        (if t.overTcp a then [interleaved (UInt8.ofInt a.sig) len] else [])) := by
  unfold sendTcpHeader
  refine EarlyM.Meets.get_bind ?_
  split_ifs with htcp
  · refine EarlyM.Meets.bind (sendInterleaved_meets a len t ht htcp) ?_
    rintro _ t₁ ⟨-, hpacket, hmade⟩
    refine EarlyM.Meets.modify ⟨hpacket, hmade.of_wire rfl ?_ ?_⟩
    · simp
    · intro h hh
      obtain ⟨h', hh', rfl⟩ := Option.map_eq_some_iff.mp hh
      exact hmade.ready h' hh'
  · exact EarlyM.Meets.pure ⟨rfl, Made.refl rfl rfl ht⟩

theorem sendPacket_meets (a : SendArgs) (n : Nat) (t : Tx) (ht : t.Ready) :
    (sendPacket a n).Meets t
      (fun ret t' => 0 < ret ∧ t'.rtpPacket = t.rtpPacket ∧ Made t t' [t.rtpPacket.bytes n])
      (fun t' => Stopped a t t' [t.rtpPacket.bytes n]) := by
  have hbuf : t.rtpPacket.bytes n ≠ [] := by
    simp [RtpPacket.bytes, RtpHeader.bytes]
  unfold sendPacket
  refine EarlyM.Meets.get_bind ?_
  split_ifs with htcp haddr
  · exact (sendOrReturn_meets a _ _ _ t hbuf ht).mono (fun _ _ h => ⟨h.1, h.2.2.1, h.2.1⟩)
      fun _ h => h
  · exact (sendOrReturn_meets a _ _ _ t hbuf ht).mono (fun _ _ h => ⟨h.1, h.2.2.1, h.2.1⟩)
      fun _ h => h
  · exact EarlyM.Meets.fail ⟨⟨[], [], by simp⟩, Or.inr ⟨by simpa using htcp, by simpa using haddr⟩⟩

/-- **The send block.** Its packet has the header the block found and the payload it was given; it
is sent and the next sequence number is up, or sending it is cut short. -/
theorem sendRtp_meets (a : SendArgs) (front body : List UInt8) (t : Tx) (ht : t.Ready) :
    (sendRtp a front body).Meets t
      (fun ret t' => 0 < ret ∧ t'.header = { t.header with seq := t.header.seq + 1 } ∧
        Emits a t t' [⟨t.header, front ++ body⟩])
      (fun t' => Cut a t t' [⟨t.header, front ++ body⟩]) := by
  let packet : Packet := ⟨t.header, front ++ body⟩
  have hlen : RTP_HEADER_SIZE + front.length + body.length = packet.wire.length := by
    simp [packet, Nat.add_assoc]
  have hbufs : [packet].flatMap (Packet.bufs a (t.overTcp a)) =
      (if t.overTcp a then [interleaved (UInt8.ofInt a.sig) packet.wire.length] else []) ++
        [packet.wire] := by
    simp [Packet.bufs]
  unfold sendRtp Emits Cut
  rw [hbufs, hlen]
  let t₀ : Tx := { t with
    rtpPacket := { t.rtpPacket with payload := t.rtpPacket.payload.write 0 front } }
  have hfront : Made t t₀ [] := Made.refl rfl rfl ht
  refine EarlyM.Meets.modify_bind (s := t) (EarlyM.Meets.bind
    ((sendTcpHeader_meets a _ t₀ ht).mono (fun _ _ h => h) fun _ h => ?_) ?_)
  · exact Stopped.append (hfront.stop h) _
  rintro _ t₁ ⟨hpacket, hheader⟩
  let t₂ : Tx := { t₁ with
    rtpPacket := ⟨t₁.header.toNetwork, t₁.rtpPacket.payload.write front.length body⟩ }
  have hfilled : Made t t₂ (if t.overTcp a then
      [interleaved (UInt8.ofInt a.sig) packet.wire.length] else []) :=
    (hfront.trans hheader).of_wire rfl rfl hheader.ready
  -- what the packet buffer holds now is the packet
  have hwire : t₂.rtpPacket.bytes (front.length + body.length) = packet.wire := by
    simp only [t₂, RtpPacket.bytes, Tx.header, hpacket, t₀, Mem.read_write_append]
    rfl
  refine EarlyM.Meets.modify_bind (EarlyM.Meets.modify_bind (EarlyM.Meets.bind
    ((sendPacket_meets a _ t₂ hfilled.ready).mono (fun _ _ h => h) fun _ h => ?_) ?_))
  · rw [hwire] at h
    exact hfilled.stop h
  · rintro ret t₃ ⟨hret, hpacket₃, hmade⟩
    rw [hwire] at hmade
    refine EarlyM.Meets.modify_bind (EarlyM.Meets.modify_bind (EarlyM.Meets.pure ⟨hret, ?_, ?_⟩))
    · simp [Tx.header, hpacket₃, t₂, hpacket, t₀]
    · exact (hfilled.trans hmade).of_wire rfl rfl hmade.ready

end SimpleRtsp

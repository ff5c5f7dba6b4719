import SimpleRtsp.Lib.Fallible
import SimpleRtsp.Lib.Numeral
import SimpleRtsp.Rtsp.Connection

/-!
# The address of the peer

`main` hands the address of the peer to `doClientThd` in a `thd_arg_st` from `malloc`, and copies
the string without the zero behind it. So what the thread takes for `client_ip` goes on with what
was in the block before (`argClientIp_eq`), and the connection is that of the peer exactly if there
was a zero at that place (`peerKnown_iff`).
-/

namespace SimpleRtsp

open CString

/-! ## From `accept` to the thread -/

/-- What `accept` gives: the address, the port and the descriptor. -/
structure Peer where
  a : UInt8
  b : UInt8
  c : UInt8
  d : UInt8
  port : UInt16
  fd : Int

/-- `inet_ntoa`, the dotted quad. -/
def Peer.quad (p : Peer) : List UInt8 :=
  decimal p.a.toNat ++ str "." ++ decimal p.b.toNat ++ str "." ++ decimal p.c.toNat ++ str "." ++
    decimal p.d.toNat

/-- `acceptClient`: `strcpy` into the array `client_ip` of `main`. -/
def acceptClient (p : Peer) (clientIp : Mem) : Mem := clientIp.write 0 (p.quad ++ [0])

/-- The `thd_arg_st` that `main` fills in, in a block of 40 bytes: `client_ip` is at 4 and has 30
bytes, `client_port` at 36, and `client_sock_fd` at 0. -/
def threadArg (p : Peer) (clientIp block : Mem) : Mem :=
  ((block.write 4 (cstr ((acceptClient p clientIp).read 0 40))).write 36
    (bytes32 p.port.toUInt32)).write 0 (bytes32 (UInt32.ofInt p.fd))

/-- The string at `client_ip`, which ends in the block (`nul_mem_threadArg`). -/
def argClientIp (arg : Mem) : List UInt8 := cstr (arg.read 4 36)

/-- The connection that `doClientThd` serves. -/
def Conn.withArg (conn : Conn) (arg : Mem) : Conn := { conn with clientIp := argClientIp arg }

/-- The array `client_ip` of a slot, after `memset` and `memcpy` in `addClient`. -/
def slotClientIp (clientIp : List UInt8) : List UInt8 :=
  cstr ((Mem.write (fun _ => 0) 0 clientIp).read 0 40)

/-! ## What a connection knows -/

/-- The connection uses this address for the peer. -/
structure KnowsPeer (quad : List UInt8) (conn : Conn) : Prop where
  /-- every SETUP over TCP has it in its reply -/
  setup : ∀ (w : World) (t : Thread) (track0 : Bool) (r : Request), t.tureOfRtpTcp = 1 →
    Gives (fun o => ∃ t' localIp sig, o = .replied t'
      (handleCmdSetupTcp r.cseq localIp quad sig conn.sessionId) none)
      (handleSetup conn w t track0 r)
  /-- PLAY passes it to `addClient` -/
  play : ∀ (w : World) (t : Thread) (r : Request),
    Gives (fun o => ∃ reply a ret, o = .played reply a ret ∧ a.clientIp = quad)
      (handlePlay conn w t r)
  /-- the packets over UDP are sent to it -/
  udp : ∀ (a : AddArgs) (c : Clientinfo) (type : MediaE), a.clientIp = conn.clientIp →
    a.tureOfTcp ≠ 1 → (sendArgs (setTransport { a with clientIp := slotClientIp a.clientIp } c)
      false type).clientIp = some quad

/-- Whatever the block held, the connection uses the dotted quad of the peer. -/
structure PeerKnown (p : Peer) (clientIp block block' : Mem) (conn : Conn) : Prop where
  short : p.quad.length ≤ 15
  first : KnowsPeer p.quad (conn.withArg (threadArg p clientIp block))
  second : KnowsPeer p.quad (conn.withArg (threadArg p clientIp block'))
  same : ∀ t requests, doClientThd (conn.withArg (threadArg p clientIp block)) t requests =
    doClientThd (conn.withArg (threadArg p clientIp block')) t requests

/-! ## The copies -/

variable {p : Peer} {quad : List UInt8} {conn : Conn}

theorem length_quad (p : Peer) : p.quad.length ≤ 15 := by
  have hbyte : ∀ b : UInt8, (decimal b.toNat).length ≤ 3 := by
    intro b
    have hlt := b.toNat_lt
    rw [decimal_natCast, List.length_map]
    exact (Nat.length_toDigits_le_iff (by decide) (by decide)).mpr (by omega)
  have ha := hbyte p.a
  have hb := hbyte p.b
  have hc := hbyte p.c
  have hd := hbyte p.d
  have hdot : (str ".").length = 1 := rfl
  simp only [Peer.quad, List.length_append, hdot]
  omega

theorem nul_not_mem_quad (p : Peer) : 0 ∉ p.quad := by
  have hbyte : ∀ b : UInt8, 0 ∉ decimal b.toNat := by
    intro b hmem
    exact absurd (isNumeral_decimal b.toNat 0 hmem) (by decide)
  have hdot : 0 ∉ str "." := by decide
  simp only [Peer.quad, List.mem_append, not_or]
  and_intros
  all_goals first | exact hbyte _ | exact hdot

theorem cstr_acceptClient (p : Peer) (clientIp : Mem) :
    cstr ((acceptClient p clientIp).read 0 40) = p.quad := by
  have hlength := length_quad p
  have hread : (acceptClient p clientIp).read 0 40 = p.quad ++ 0 ::
      (acceptClient p clientIp).read (p.quad.length + 1) (39 - p.quad.length) := by
    have hsame : (acceptClient p clientIp).read 0 (p.quad ++ [0]).length = p.quad ++ [0] :=
      Mem.read_write_same ..
    rw [List.length_append, List.length_singleton] at hsame
    rw [show 40 = p.quad.length + 1 + (39 - p.quad.length) by omega, Mem.read_add, hsame,
      Nat.zero_add, List.append_assoc]
    rfl
  rw [hread, cstr_append (nul_not_mem_quad p)]
  simp [cstr]

/-- The two numbers of a `thd_arg_st` are not in `client_ip` or next to it. -/
theorem threadArg_at {i : Nat} (hlow : 4 ≤ i) (hhigh : i < 36) (p : Peer) (clientIp block : Mem) :
    threadArg p clientIp block i = block.write 4 p.quad i := by
  rw [threadArg, cstr_acceptClient, Mem.write_of_le, Mem.write_of_lt]
  · exact hhigh
  · exact hlow

/-- The string ends in the block: the two high bytes of the port are zero. -/
theorem nul_mem_threadArg (p : Peer) (clientIp block : Mem) :
    0 ∈ (threadArg p clientIp block).read 4 36 := by
  have hhigh : (p.port.toUInt32 >>> 16).toUInt8 = 0 := by
    have hlt := p.port.toNat_lt
    apply UInt8.toNat_inj.mp
    simp [Nat.shiftRight_eq_div_pow]
    omega
  have hbyte : threadArg p clientIp block 38 = 0 := by
    rw [threadArg, Mem.write_of_le _ _ _ _ (show 0 + 4 ≤ 38 by decide), ← hhigh]
    exact Mem.write_in _ 36 2 (bytes32 p.port.toUInt32) (show 2 < 4 by decide)
  rw [Mem.read, List.mem_map]
  exact ⟨34, List.mem_range.mpr (by decide), hbyte⟩

theorem argClientIp_eq (p : Peer) (clientIp block : Mem) :
    ∃ rest, argClientIp (threadArg p clientIp block) =
      p.quad ++ cstr (block (4 + p.quad.length) :: rest) := by
  have hlength := length_quad p
  have hquad : (threadArg p clientIp block).read 4 p.quad.length = p.quad := by
    calc (threadArg p clientIp block).read 4 p.quad.length
      _ = (block.write 4 p.quad).read 4 p.quad.length :=
        Mem.read_congr fun i hlow hhigh => threadArg_at hlow (by omega) p clientIp block
      _ = p.quad := Mem.read_write_same ..
  have hnext : threadArg p clientIp block (4 + p.quad.length) = block (4 + p.quad.length) := by
    rw [threadArg_at (by omega) (by omega), Mem.write_of_le _ _ _ _ (Nat.le_refl _)]
  rw [argClientIp, show 36 = p.quad.length + (1 + (35 - p.quad.length)) by omega, Mem.read_add,
    Mem.read_cons, hquad, hnext, cstr_append (nul_not_mem_quad p)]
  exact ⟨_, rfl⟩

theorem argClientIp_eq_iff (p : Peer) (clientIp block : Mem) :
    argClientIp (threadArg p clientIp block) = p.quad ↔ block (4 + p.quad.length) = 0 := by
  obtain ⟨rest, heq⟩ := argClientIp_eq p clientIp block
  rw [heq, List.append_right_eq_self, cstr, List.takeWhile_eq_nil_iff]
  simp

theorem slotClientIp_quad (p : Peer) : slotClientIp p.quad = p.quad := by
  have hlength := length_quad p
  have hzero : Mem.write (fun _ => 0) 0 p.quad p.quad.length = 0 :=
    Mem.write_of_le _ _ _ _ (by omega)
  rw [slotClientIp, show 40 = p.quad.length + (1 + (39 - p.quad.length)) by omega, Mem.read_add,
    Mem.read_cons, Mem.read_write_same, Nat.zero_add, hzero,
    cstr_append (nul_not_mem_quad p)]
  simp [cstr]

/-! ## The connection -/

theorem KnowsPeer.of_clientIp (h : conn.clientIp = p.quad) : KnowsPeer p.quad conn where
  setup w t track0 r htcp := by
    rw [handleSetup, if_neg (by omega), if_pos htcp, h]
    exact .bind_any fun localIp => .ok ⟨_, localIp, _, rfl⟩
  play w t r := by
    rw [handlePlay]
    exact .bind_any fun path => .ok ⟨_, _, _, rfl, h⟩
  udp a c type ha htcp := by
    rw [ha, h, slotClientIp_quad, setTransport, if_neg htcp]
    cases type with
    | video => rfl
    | audio => rfl

theorem Conn.clientIp_withArg (conn : Conn) (arg : Mem) :
    (conn.withArg arg).clientIp = argClientIp arg := rfl

theorem KnowsPeer.clientIp_eq (h : KnowsPeer quad conn) : conn.clientIp = quad := by
  obtain ⟨o, ho⟩ : ∃ o, handlePlay conn easyWorld (.init [] []) ⟨[], [], [], 0, []⟩ = .ok o :=
    ⟨_, rfl⟩
  obtain ⟨reply, a, ret, rfl, ha⟩ := h.play _ _ _ o ho
  rw [← ha]
  injection ho with ho
  injection ho with _ hargs _
  rw [← hargs]

theorem PeerKnown.zeros {clientIp block block' : Mem} (h : PeerKnown p clientIp block block' conn) :
    block (4 + p.quad.length) = 0 ∧ block' (4 + p.quad.length) = 0 := by
  have hfirst := h.first.clientIp_eq
  have hsecond := h.second.clientIp_eq
  rw [Conn.clientIp_withArg, argClientIp_eq_iff] at hfirst hsecond
  exact ⟨hfirst, hsecond⟩

/-- **When the peer is known.** The connection is that of the peer, whatever else the block of its
`thd_arg_st` held, exactly if the block had a zero where the copied string ends. -/
theorem peerKnown_iff (p : Peer) (clientIp block block' : Mem) (conn : Conn) :
    PeerKnown p clientIp block block' conn ↔
      block (4 + p.quad.length) = 0 ∧ block' (4 + p.quad.length) = 0 := by
  constructor
  · exact PeerKnown.zeros
  · rintro ⟨hzero, hzero'⟩
    have hfirst := (argClientIp_eq_iff p clientIp block).mpr hzero
    have hsecond := (argClientIp_eq_iff p clientIp block').mpr hzero'
    refine ⟨length_quad p, .of_clientIp ?_, .of_clientIp ?_, fun t requests => ?_⟩
    · rw [Conn.clientIp_withArg, hfirst]
    · rw [Conn.clientIp_withArg, hsecond]
    · rw [Conn.withArg, Conn.withArg, hfirst, hsecond]

/-- 10.0.0.2 connects, and one of the blocks is full of `7`s. -/
theorem not_peerKnown_sevens : ¬ ∀ (p : Peer) (clientIp block block' : Mem) (conn : Conn),
    PeerKnown p clientIp block block' conn := by
  intro h
  have hknown := h ⟨10, 0, 0, 2, 50000, 7⟩ (fun _ => 0) (fun _ => 0x37) (fun _ => 0) openConn
  have hzero : (0x37 : UInt8) = 0 := hknown.zeros.1
  exact absurd hzero (by decide)

end SimpleRtsp

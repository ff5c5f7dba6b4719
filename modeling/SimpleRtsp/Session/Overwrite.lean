import SimpleRtsp.Session.Concurrent

/-!
# The table under concurrent clients

`addClient` finds the free entry of a new session in one critical section and `addSession` fills
it in another. `Exclusive` steps let no second call fill the same entry, or open the same path, in
between. In a run of exclusive steps an entry stays free until its session is there
(`Server.Free`), so the table is always sound (`tableSafe_reachable`).
-/

namespace SimpleRtsp

namespace Conc

/-- The step is not an `addSession` while another call is about to create a session in the same
entry or for the same path. -/
def Exclusive (c : Conc) : Label → Prop
  | .addSession id _ _ _ =>
    ∀ a pos, c.calls id = some (.creating a pos) →
      ∀ id' a' pos', id' ≠ id → c.calls id' = some (.creating a' pos') →
        pos' ≠ pos ∧ a'.pathFilename ≠ a.pathFilename
  | _ => True

/-- What the table of sessions promises. -/
structure TableSafe (c : Conc) : Prop where
  /-- no `addSession` overwrites an entry -/
  noOverwrite : ∀ id a pos, c.calls id = some (.creating a pos) → c.server.sessionArr pos = none
  onePerPath : c.server.Distinct
  inTable : ∀ addr s, c.server.heap addr = some s → c.server.sessionArr s.pos = some addr
  /-- `delSession` deletes the session that it is called for, and no other -/
  deletes : ∀ addr pos c', c.epoll = .deleting addr pos → c.step .delSession = some c' →
    (c.server.heap addr).isSome ∧ c'.server.heap = Function.update c.server.heap addr none

/-- The invariant of exclusive runs. -/
structure Exclusively (c : Conc) : Prop where
  base : c.Base
  pending : ∀ id a pos, c.calls id = some (.creating a pos) → c.server.Free a.pathFilename pos
  names : c.server.Distinct

theorem exclusively_init : init.Exclusively := ⟨base_init, nofun, nofun⟩

theorem pending_setCall {c : Conc} {S : Server} {id : Nat} {call : Call}
    (hcall : ∀ a pos, call = .creating a pos → S.Free a.pathFilename pos)
    (hother : ∀ id' a pos, id' ≠ id → c.calls id' = some (.creating a pos) →
      S.Free a.pathFilename pos) (id' : Nat) (a : AddArgs) (pos : Nat)
    (h : (c.setCall id call).calls id' = some (.creating a pos)) : S.Free a.pathFilename pos := by
  rw [setCall_calls] at h
  split_ifs at h with hid
  · exact hcall a pos (Option.some.inj h)
  · exact hother id' a pos hid h

theorem Exclusively.moves {c c' : Conc} {l : Label} (h : c.Exclusively) (hexclusive : c.Exclusive l)
    (hmoves : Moves c l c') : c'.Exclusively := by
  have hbase : c'.Base :=
    h.base.moves hmoves fun id a pos hcall _ => (h.pending id a pos hcall).entry
  have hsetSession : ∀ {addr : Nat} {s s' : Session}, c.server.heap addr = some s →
      s'.filename = s.filename → (∀ id a pos, c.calls id = some (.creating a pos) →
        (c.server.setSession addr s').Free a.pathFilename pos) ∧
      (c.server.setSession addr s').Distinct :=
    fun hs hname => ⟨fun id a pos hcall => (h.pending id a pos hcall).setSession hs hname,
      h.names.setSession hs hname⟩
  cases hmoves with
  | joined hsd hs hjoin hlookup =>
    obtain ⟨hpending, hnames⟩ := hsetSession hs (Session.join_frame hjoin).2.1
    exact ⟨hbase, pending_setCall (by simp) fun id a pos _ => hpending id a pos, hnames⟩
  | full =>
    exact ⟨hbase, pending_setCall (by simp) fun id a pos _ => h.pending id a pos, h.names⟩
  | missing hsd hnone hfree =>
    refine ⟨hbase, pending_setCall ?_ fun id a pos _ => h.pending id a pos, h.names⟩
    rintro a pos ⟨⟩
    exact h.base.linked.free hnone hfree
  | @created id addr a audioType mem pos hcall hheap hpos =>
    refine ⟨hbase, pending_setCall (by simp) fun id' a' pos' hid hcall' => ?_,
      h.names.addSession (h.pending id a pos hcall) audioType mem⟩
    -- the other calls want another entry and another path
    obtain ⟨hposne, hpathne⟩ := hexclusive a pos hcall id' a' pos' hid hcall'
    exact (h.pending id' a' pos' hcall').addSession hposne hpathne audioType mem
  | counted =>
    exact ⟨hbase, pending_setCall (by simp) fun id a pos _ hcall =>
      (h.pending id a pos hcall).addSum 1, h.names⟩
  | @served addr s m fresh hs =>
    have hevolves := Session.Evolves.callback (h.base.sessions addr s hs) m fresh
    obtain ⟨hpending, hnames⟩ := hsetSession hs hevolves.filename
    exact ⟨hbase, hpending, hnames⟩
  | quiet => exact h
  | @taken addr j fd node node' s client hs hj hdequeue =>
    obtain ⟨hpending, hnames⟩ := hsetSession hs (rfl : (s.setSlot j client).filename = s.filename)
    exact ⟨hbase, hpending, hnames⟩
  | @sent env result addr j fd ret node s client w hepoll hs htransmit =>
    obtain ⟨hpending, hnames⟩ := hsetSession hs (rfl : (s.setSlot j client).filename = s.filename)
    exact ⟨hbase, hpending, hnames⟩
  | @cleared addr j failed s hepoll hs =>
    obtain ⟨hpending, hnames⟩ := hsetSession hs (s.offline_frame j).2.1
    exact ⟨hbase, hpending, hnames⟩
  | summed =>
    exact ⟨hbase, fun id a pos hcall => (h.pending id a pos hcall).addSum _, h.names⟩
  | stopped => exact ⟨hbase, h.pending, h.names⟩
  | gone => exact ⟨hbase, h.pending, h.names⟩
  | @deleted addr pos addr' hepoll harr =>
    exact ⟨hbase, fun id a pos' hcall => (h.pending id a pos' hcall).delSession pos addr',
      h.names.delSession pos addr'⟩
  | unsummed =>
    exact ⟨hbase, fun id a pos hcall => (h.pending id a pos hcall).addSum _, h.names⟩

theorem Exclusively.tableSafe {c : Conc} (h : c.Exclusively) : c.TableSafe where
  noOverwrite id a pos hcall := (h.pending id a pos hcall).entry
  onePerPath := h.names
  inTable := h.base.linked.heap
  deletes addr pos c' hepoll hstep := by
    have harr := h.base.deleting hepoll
    obtain ⟨-, s, hs, -⟩ := h.base.linked.table pos addr harr
    simp only [step, stepDelSession, hepoll, harr] at hstep
    cases hstep
    exact ⟨by rw [hs]; rfl, rfl⟩

/-! ## Runs with few calls -/

def Label.caller : Label → Option Nat
  | .lookup id _ _ _ => some id
  | .addSession id _ _ _ => some id
  | .count id => some id
  | _ => none

theorem Moves.calls_frame {c c' : Conc} {l : Label} (h : Moves c l c') {id : Nat}
    (hid : l.caller ≠ some id) : c'.calls id = c.calls id := by
  have hset : ∀ {c : Conc} {id' : Nat} {call : Call}, some id' ≠ some id →
      (c.setCall id' call).calls id = c.calls id := by
    intro c id' call hne
    rw [setCall_calls, if_neg]
    rintro rfl
    exact hne rfl
  cases h with
  | joined => exact hset hid
  | full => exact hset hid
  | missing => exact hset hid
  | created => exact hset hid
  | counted => exact hset hid
  | _ => rfl

/-- Where and for which path a call is about to create a session. -/
def pending (c : Conc) (id : Nat) : Option (Nat × List UInt8) :=
  match c.calls id with
  | some (.creating a pos) => some (pos, a.pathFilename)
  | _ => none

/-- `Exclusive`, where only these calls are made. -/
def ExclusiveAmong (ids : List Nat) (c : Conc) : Label → Prop
  | .addSession id _ _ _ => ∀ id' ∈ ids, id' ≠ id →
      ∀ p ∈ c.pending id, ∀ p' ∈ c.pending id', p'.1 ≠ p.1 ∧ p'.2 ≠ p.2
  | _ => True

instance (ids : List Nat) (c : Conc) (l : Label) : Decidable (c.ExclusiveAmong ids l) :=
  match l with
  | .addSession id _ _ _ => inferInstanceAs (Decidable (∀ id' ∈ ids, id' ≠ id →
      ∀ p ∈ c.pending id, ∀ p' ∈ c.pending id', p'.1 ≠ p.1 ∧ p'.2 ≠ p.2))
  | .lookup _ _ _ _ => .isTrue trivial
  | .count _ => .isTrue trivial
  | .callback _ _ _ => .isTrue trivial
  | .event _ _ _ _ => .isTrue trivial
  | .transmit _ _ => .isTrue trivial
  | .offline => .isTrue trivial
  | .sumDown => .isTrue trivial
  | .destroyMedia => .isTrue trivial
  | .delSession => .isTrue trivial
  | .sumSub => .isTrue trivial

theorem ExclusiveAmong.exclusive {ids : List Nat} {c : Conc} {l : Label}
    (h : c.ExclusiveAmong ids l) (hother : ∀ id ∉ ids, c.calls id = none) : c.Exclusive l := by
  cases l with
  | addSession id addr audioType mem =>
    intro a pos hcall id' a' pos' hid hcall'
    have hmem : id' ∈ ids := by
      by_contra hnot
      rw [hother id' hnot] at hcall'
      cases hcall'
    exact h id' hmem hid (pos, a.pathFilename) (by rw [pending, hcall]; rfl)
      (pos', a'.pathFilename) (by rw [pending, hcall']; rfl)
  | _ => trivial

/-- A run of these calls is exclusive if they are among each other. By induction over the run, in
which all other calls stay as they are. -/
theorem reach_of_among {ids : List Nat} {c₀ c : Conc} (hreach : Reach step Exclusive init c₀)
    (hother : ∀ id ∉ ids, c₀.calls id = none) (labels : List Label)
    (hids : ∀ l ∈ labels, ∀ id ∈ l.caller, id ∈ ids)
    (h : runs (fun c l => if c.ExclusiveAmong ids l then step c l else none) c₀ labels = some c) :
    Reach step Exclusive init c := by
  induction labels generalizing c₀ with
  | nil =>
    cases h
    exact hreach
  | cons l rest ih =>
    obtain ⟨c₁, hfirst, hrest⟩ := Option.bind_eq_some_iff.mp h
    obtain ⟨hamong, hstep⟩ := Option.ite_none_right_eq_some.mp hfirst
    refine ih (.next l hreach (hamong.exclusive hother) hstep) (fun id hid => ?_)
      (fun l' hl' => hids l' (List.mem_cons_of_mem l hl')) hrest
    rw [(moves_of_step hstep).calls_frame, hother id hid]
    exact fun hcaller => hid (hids l List.mem_cons_self id hcaller)

/-! ## Every run -/

/-- **The table is sound.** In every run of exclusive steps no `addSession` overwrites an entry, a
path has at most one session, every session is in its entry, and `delSession` deletes the session
that it is called for and no other. -/
theorem tableSafe_reachable (c : Conc) (h : Reach step Exclusive init c) : c.TableSafe := by
  have hinv : c.Exclusively := h.invariant exclusively_init fun _ _ _ hinv hexclusive hstep =>
    hinv.moves hexclusive (moves_of_step hstep)
  exact hinv.tableSafe

/-- A session in entry 0 is deleted while a client of another path is about to create one in entry
1; a third client then finds entry 0 free, and both create their sessions. -/
def twoPending : List Label :=
  [.lookup 0 (tcpPlayer 7) .aac zeroFresh, .addSession 0 1 .aac zeroFresh, .count 0,
    .lookup 1 { tcpPlayer 8 with pathFilename := [0x62] } .aac zeroFresh,
    .callback 1 (nalDelivery 1) fun _ _ _ => zeroPacket, .event 1 0 7 zeroPacket,
    .transmit zeroEnv fun _ _ => -1, .offline, .sumDown, .destroyMedia, .delSession, .sumSub,
    .lookup 2 { tcpPlayer 9 with pathFilename := [0x63] } .aac zeroFresh]

def bothCreate : List Label := [.addSession 1 2 .aac zeroFresh, .addSession 2 3 .aac zeroFresh]

theorem tableSafe_twoPending :
    (∃ c, Reach step Exclusive init c ∧ c.pending 1 = some (1, [0x62]) ∧
      c.pending 2 = some (0, [0x63]) ∧ c.TableSafe) ∧
    ∃ c, Reach step Exclusive init c ∧ c.server.sessionArr 1 = some 2 ∧
      c.server.sessionArr 0 = some 3 ∧ c.TableSafe := by
  have hids : ∀ l ∈ twoPending ++ bothCreate, ∀ id ∈ l.caller, id ∈ [0, 1, 2] := by decide
  constructor
  · have hrun : (runs (fun c l => if c.ExclusiveAmong [0, 1, 2] l then step c l else none) init
        twoPending).map (fun c => (c.pending 1, c.pending 2)) =
        some (some (1, [0x62]), some (0, [0x63])) := by
      decide +kernel
    obtain ⟨c, hc, hpending⟩ := Option.map_eq_some_iff.mp hrun
    obtain ⟨hfirst, hsecond⟩ := Prod.mk.inj hpending
    have hreach := reach_of_among .start (fun _ _ => rfl) twoPending
      (fun l hl => hids l (List.mem_append_left _ hl)) hc
    exact ⟨c, hreach, hfirst, hsecond, tableSafe_reachable c hreach⟩
  · have hrun : (runs (fun c l => if c.ExclusiveAmong [0, 1, 2] l then step c l else none) init
        (twoPending ++ bothCreate)).map (fun c => (c.server.sessionArr 1, c.server.sessionArr 0)) =
        some (some 2, some 3) := by
      decide +kernel
    obtain ⟨c, hc, hentries⟩ := Option.map_eq_some_iff.mp hrun
    obtain ⟨hfirst, hsecond⟩ := Prod.mk.inj hentries
    have hreach := reach_of_among .start (fun _ _ => rfl) (twoPending ++ bothCreate) hids hc
    exact ⟨c, hreach, hfirst, hsecond, tableSafe_reachable c hreach⟩

/-- Two clients of different paths find the same free entry. -/
def sameEntry : List Label :=
  [.lookup 1 (tcpPlayer 7) .aac zeroFresh,
    .lookup 2 { tcpPlayer 8 with pathFilename := [0x62] } .aac zeroFresh,
    .addSession 1 1 .aac zeroFresh, .addSession 2 2 .aac zeroFresh]

/-- The second session overwrites the entry of the first. -/
theorem sameEntry_overwritten :
    ∃ c, runs step init sameEntry = some c ∧
      (∃ s, c.server.heap 1 = some s ∧ c.server.sessionArr s.pos = some 2) ∧ ¬ c.TableSafe := by
  have hrun : (runs step init sameEntry).map (fun c =>
      ((c.server.heap 1).map fun s => c.server.sessionArr s.pos)) = some (some (some 2)) := by
    decide +kernel
  obtain ⟨c, hc, hover⟩ := Option.map_eq_some_iff.mp hrun
  obtain ⟨s, hs, harr⟩ := Option.map_eq_some_iff.mp hover
  refine ⟨c, hc, ⟨s, hs, harr⟩, fun hsafe => ?_⟩
  have hown := hsafe.inTable 1 s hs
  rw [harr] at hown
  cases hown

end Conc

end SimpleRtsp

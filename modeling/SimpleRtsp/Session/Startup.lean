import SimpleRtsp.Session.AddSession

/-!
# The start of a session

`creatMedia` starts the media thread, and `addSession` calls it before it has built the session
whose address it gives away. `Startup` is the memory of the new session with the statements of
`addSession` still to come and the media thread at a point of `mediaCallBack`; a step is one
statement of either. `early` collects what the media thread locked or read before `addSession` had
written it.

The source does nothing against an early callback (`start_early`). What goes wrong is only the
start: if no callback takes the lock before `session->count = 0`, nothing is touched too early
(`Ok.step`), because `count` stays 0 until the session's lock is held for the first client.
-/

namespace SimpleRtsp

inductive Owner where
  | addSession
  | media
  deriving DecidableEq

inductive MediaThd where
  | absent
  /-- in `parseMp4SendDataThd` -/
  | outside
  /-- in `mediaCallBack`, before the lock -/
  | entered
  /-- at the test `i < session->count` -/
  | test (i : Nat)
  | readSd (i : Nat)
  | readSendCallBack (i : Nat)
  | readPlayflag (i : Nat)
  | call (i : Nat)
  /-- in `sendData` for slot `j` -/
  | sending (i j : Nat)
  deriving DecidableEq

/-- Who holds the lock after a statement of `addSession`; `none` if it has to wait. -/
def Stmt.owner (owner : Option Owner) : Stmt → Option (Option Owner)
  | .lock => if owner = none then some (some .addSession) else none
  | .unlock => some none
  | .mutexInit => some none
  | .creatMedia _ => some owner
  | .set _ _ => some owner
  | .setClient _ _ _ => some owner

/-- Where the media thread is after a statement of `addSession`. -/
def Stmt.thread (thread : MediaThd) : Stmt → MediaThd
  | .creatMedia opened => if opened then .outside else .absent
  | .mutexInit => thread
  | .set _ _ => thread
  | .setClient _ _ _ => thread
  | .lock => thread
  | .unlock => thread

theorem Stmt.IsWrite.keeps {st : Stmt} (hst : st.IsWrite) (owner : Option Owner)
    (thread : MediaThd) : st.owner owner = some owner ∧ st.thread thread = thread := by
  cases st with
  | set => exact ⟨rfl, rfl⟩
  | setClient => exact ⟨rfl, rfl⟩
  | creatMedia => exact hst.elim
  | mutexInit => exact hst.elim
  | lock => exact hst.elim
  | unlock => exact hst.elim

structure Startup where
  session : Session
  todo : List Stmt
  written : List Loc
  owner : Option Owner
  thread : MediaThd
  early : List Loc

namespace Startup

/-- After `malloc`, which found `memory`. -/
def start (memory : Session) (todo : List Stmt) : Startup := ⟨memory, todo, [], none, .absent, []⟩

/-- The media thread locks or reads a location. -/
def touch (s : Startup) (l : Loc) : Startup :=
  if l ∈ s.written then s else { s with early := s.early ++ [l] }

inductive Label where
  /-- the next statement of `addSession` -/
  | addSession
  /-- the media thread calls `mediaCallBack` -/
  | callback
  /-- the next action of `mediaCallBack` -/
  | media
  /-- `sendData` reads a field of its client -/
  | access (field : ClientField)
  /-- `sendData` has done its work and returns -/
  | sendData (m : Delivery) (fresh : MediaE → Nat → MediaPacket)

/-- A statement of `addSession`. -/
def stepAddSession (s : Startup) : Option Startup :=
  match s.todo with
  | [] => none
  | st :: rest =>
    (st.owner s.owner).map fun owner => { s with
      session := st.exec s.session
      todo := rest
      written := st.loc.toList ++ s.written
      owner := owner
      thread := st.thread s.thread }

/-- One of the three tests of `mediaCallBack` on a slot. -/
def look (s : Startup) (i : Nat) (field : ClientField) (passed : Bool) (next : MediaThd) :
    Startup :=
  { s.touch (.client i field) with thread := if passed then next else .test (i + 1) }

/-- An action of `mediaCallBack`. A mutex that is not initialised does not keep the thread out. -/
def stepMedia (s : Startup) : Option Startup :=
  match s.thread with
  | .entered =>
    if s.owner = none ∨ Loc.mutex ∉ s.written then
      some { s.touch .mutex with owner := some .media, thread := .test 0 }
    else none
  | .test i =>
    some <|
      if i < s.session.count then { s.touch .count with thread := .readSd i }
      else { s.touch .count with owner := none, thread := .outside }
  | .readSd i => some (s.look i .sd ((s.session.clientinfo i).sd ≠ -1) (.readSendCallBack i))
  | .readSendCallBack i =>
    some (s.look i .sendCallBack (s.session.clientinfo i).sendCallBack.isSome (.readPlayflag i))
  | .readPlayflag i => some (s.look i .playflag ((s.session.clientinfo i).playflag = 1) (.call i))
  | .call i =>
    (s.session.clientinfo i).sendCallBack.map fun j =>
      { (s.touch (.client i .sendCallBack)).touch (.client i .arg) with thread := .sending i j }
  | _ => none

def step (s : Startup) : Label → Option Startup
  | .addSession => s.stepAddSession
  | .callback => if s.thread = .outside then some { s with thread := .entered } else none
  | .media => s.stepMedia
  | .access field =>
    match s.thread with
    | .sending _ j => some (s.touch (.client j field))
    | _ => none
  | .sendData m fresh =>
    match s.thread with
    | .sending i j =>
      some { s with
        session := s.session.setSlot j
          (SimpleRtsp.sendData m.toMediainfo fresh (s.session.clientinfo j))
        thread := .test (i + 1) }
    | _ => none

/-- The condition: no callback takes the lock before `session->count = 0` is executed. -/
def LocksLate (s : Startup) (l : Label) : Prop :=
  match l with
  | .media => s.thread = .entered → Loc.count ∈ s.written
  | _ => True

instance (s : Startup) (l : Label) : Decidable (s.LocksLate l) :=
  match l with
  | .media => inferInstanceAs (Decidable (s.thread = .entered → Loc.count ∈ s.written))
  | .addSession => isTrue trivial
  | .callback => isTrue trivial
  | .access _ => isTrue trivial
  | .sendData _ _ => isTrue trivial

/-! ## The phases -/

/-- The media thread is not between lock and unlock. -/
def Quiet (s : Startup) : Prop :=
  s.thread = .absent ∨ s.thread = .outside ∨ s.thread = .entered

/-- Everything `mediaCallBack` looks at is written. -/
structure Built (s : Startup) : Prop where
  mutex : Loc.mutex ∈ s.written
  count : Loc.count ∈ s.written
  client : ∀ j < CLIENTMAX, ∀ field, Loc.client j field ∈ s.written

/-- A session with one client, in slot 0. -/
structure Single (s : Session) : Prop where
  count : s.count = 1
  arg : ∀ j, (s.clientinfo 0).sendCallBack = some j → j = 0

/-- Up to `session->count = 0`. -/
structure Opening (addr pos : Nat) (a : AddArgs) (audioType : AudioE) (mem : Fresh) (s : Startup) :
    Prop where
  todo : ∃ l, s.todo = l ++ (.set .count fun s => { s with count := 0 }) ::
    (buildingStmts addr pos ++ lastStmts a audioType mem) ∧
    (∀ st ∈ l, st.loc ≠ some .count ∧ st ≠ .lock ∧ st ≠ .unlock) ∧
    (Loc.mutex ∈ s.written ∨ ∃ st ∈ l, st.loc = some .mutex)
  early : Loc.count ∉ s.written
  owner : s.owner = none
  quiet : s.Quiet

/-- Up to the lock: `count` is 0, a callback finds no client. -/
structure Building (a : AddArgs) (audioType : AudioE) (mem : Fresh) (s : Startup) : Prop where
  todo : ∃ l, s.todo = l ++ lastStmts a audioType mem ∧
    (∀ st ∈ l, st.IsWrite ∧ ∀ s, (st.exec s).count = s.count) ∧
    ∀ j < CLIENTMAX, ∀ field, Loc.client j field ∈ s.written ∨
      ∃ st ∈ l, st.loc = some (.client j field)
  mutex : Loc.mutex ∈ s.written
  count : Loc.count ∈ s.written
  zero : s.session.count = 0
  thread : s.owner = none ∧ s.Quiet ∨ s.owner = some .media ∧ s.thread = .test 0

/-- Up to the unlock: `addSession` holds the lock. -/
structure Filling (s : Startup) : Prop where
  todo : ∃ l, s.todo = l ++ [.unlock] ∧ ∀ st ∈ l, st.IsWrite
  built : s.Built
  owner : s.owner = some .addSession
  quiet : s.Quiet

/-- Between lock and unlock, with one client. -/
def Scanning : MediaThd → Prop
  | .absent => False
  | .outside => False
  | .entered => False
  | .test _ => True
  | .readSd i => i = 0
  | .readSendCallBack i => i = 0
  | .readPlayflag i => i = 0
  | .call i => i = 0
  | .sending _ j => j = 0

structure Done (s : Startup) : Prop where
  todo : s.todo = []
  built : s.Built
  thread : s.owner = none ∧ s.Quiet ∨ s.owner = some .media ∧ Scanning s.thread

/-- What holds in every run of the condition. -/
structure Ok (addr pos : Nat) (a : AddArgs) (audioType : AudioE) (mem : Fresh) (s : Startup) :
    Prop where
  early : s.early = []
  single : Single (execs s.session s.todo)
  phase : s.Opening addr pos a audioType mem ∨ s.Building a audioType mem ∨ s.Filling ∨ s.Done

/-! ## The steps -/

theorem touch_of_mem {s : Startup} {l : Loc} (h : l ∈ s.written) : s.touch l = s := if_pos h

variable {addr pos : Nat} {a : AddArgs} {audioType : AudioE} {mem : Fresh} {s s' : Startup}

theorem stepAddSession_some (h : s.stepAddSession = some s') :
    ∃ st rest owner, s.todo = st :: rest ∧ st.owner s.owner = some owner ∧
      s' = ⟨st.exec s.session, rest, st.loc.toList ++ s.written, owner, st.thread s.thread,
        s.early⟩ := by
  rw [stepAddSession] at h
  cases htodo : s.todo with
  | nil => simp [htodo] at h
  | cons st rest =>
    rw [htodo] at h
    obtain ⟨owner, howner, rfl⟩ := Option.map_eq_some_iff.mp h
    exact ⟨st, rest, owner, rfl, howner, rfl⟩

theorem isWrite_fillingStmts {st : Stmt} (h : st ∈ fillingStmts a audioType mem) : st.IsWrite := by
  rcases List.mem_cons.mp h with rfl | h
  · exact trivial
  rcases List.mem_cons.mp h with rfl | h
  · exact trivial
  obtain ⟨field, value, rfl⟩ := mem_setFields h
  exact trivial

theorem Opening.addSession (h : s.Opening addr pos a audioType mem)
    (hstep : s.stepAddSession = some s') :
    s'.Opening addr pos a audioType mem ∨ s'.Building a audioType mem := by
  obtain ⟨st, rest, owner, htodo, howner, rfl⟩ := stepAddSession_some hstep
  obtain ⟨l, hl, hplain, hmutex⟩ := h.todo
  rw [htodo] at hl
  cases l with
  | nil =>
    -- `session->count = 0`
    obtain ⟨rfl, rfl⟩ := List.cons.inj hl
    obtain rfl := Option.some.inj howner
    have hwritten : Loc.mutex ∈ s.written := hmutex.resolve_right (by simp)
    refine Or.inr ⟨⟨_, rfl, fun st hst => ?_, fun j hj field => Or.inr ?_⟩, ?_, ?_, rfl, ?_⟩
    · rcases mem_buildingStmts hst with rfl | ⟨j, field, value, rfl⟩
      · exact ⟨trivial, fun _ => rfl⟩
      · exact ⟨trivial, fun _ => rfl⟩
    · exact buildingStmts_client addr pos hj field
    · exact List.mem_cons_of_mem _ hwritten
    · exact List.mem_cons_self
    · exact Or.inl ⟨h.owner, h.quiet⟩
  | cons st' l =>
    obtain ⟨rfl, rfl⟩ := List.cons.inj hl
    obtain ⟨hcount, hlock, hunlock⟩ := hplain st List.mem_cons_self
    refine Or.inl ⟨⟨l, rfl, fun st hst => hplain st (List.mem_cons_of_mem _ hst), ?_⟩, ?_, ?_, ?_⟩
    · rcases hmutex with hmutex | ⟨st', hst', hloc⟩
      · exact Or.inl (List.mem_append_right _ hmutex)
      · rcases List.mem_cons.mp hst' with rfl | hst'
        · exact Or.inl (List.mem_append_left _ (by simp [hloc]))
        · exact Or.inr ⟨st', hst', hloc⟩
    · intro hmem
      rcases List.mem_append.mp hmem with hmem | hmem
      · exact hcount (by simpa using hmem)
      · exact h.early hmem
    · have hnone := h.owner
      rw [hnone] at howner
      cases st with
      | lock => exact absurd rfl hlock
      | unlock => exact absurd rfl hunlock
      | creatMedia => exact (Option.some.inj howner).symm
      | mutexInit => exact (Option.some.inj howner).symm
      | set => exact (Option.some.inj howner).symm
      | setClient => exact (Option.some.inj howner).symm
    · cases st with
      | creatMedia opened =>
        cases opened with
        | false => exact Or.inl rfl
        | true => exact Or.inr (Or.inl rfl)
      | lock => exact absurd rfl hlock
      | unlock => exact absurd rfl hunlock
      | mutexInit => exact h.quiet
      | set => exact h.quiet
      | setClient => exact h.quiet

theorem Building.addSession (h : s.Building a audioType mem) (hstep : s.stepAddSession = some s') :
    s'.Building a audioType mem ∨ s'.Filling := by
  obtain ⟨st, rest, owner, htodo, howner, rfl⟩ := stepAddSession_some hstep
  obtain ⟨l, hl, hwrite, hclient⟩ := h.todo
  rw [htodo] at hl
  cases l with
  | nil =>
    -- the lock: nobody has it, and all slots are initialised
    obtain ⟨rfl, rfl⟩ := List.cons.inj hl
    obtain ⟨hnone, howner⟩ := Option.ite_none_right_eq_some.mp howner
    obtain rfl := Option.some.inj howner
    have hquiet : s.Quiet := by
      rcases h.thread with ⟨-, hquiet⟩ | ⟨hmedia, -⟩
      · exact hquiet
      · rw [hnone] at hmedia
        cases hmedia
    refine Or.inr ⟨⟨_, rfl, fun st hst => isWrite_fillingStmts hst⟩, ⟨h.mutex, h.count, ?_⟩, rfl,
      hquiet⟩
    intro j hj field
    exact (hclient j hj field).resolve_right (by simp)
  | cons st' l =>
    obtain ⟨rfl, rfl⟩ := List.cons.inj hl
    obtain ⟨hst, hcount⟩ := hwrite st List.mem_cons_self
    obtain ⟨howner', hthread⟩ := hst.keeps s.owner s.thread
    obtain rfl := Option.some.inj (howner'.symm.trans howner)
    refine Or.inl ⟨⟨l, rfl, fun st hst => hwrite st (List.mem_cons_of_mem _ hst), ?_⟩,
      List.mem_append_right _ h.mutex, List.mem_append_right _ h.count,
      (hcount s.session).trans h.zero, ?_⟩
    · intro j hj field
      rcases hclient j hj field with hmem | ⟨st', hst', hloc⟩
      · exact Or.inl (List.mem_append_right _ hmem)
      · rcases List.mem_cons.mp hst' with rfl | hst'
        · exact Or.inl (List.mem_append_left _ (by simp [hloc]))
        · exact Or.inr ⟨st', hst', hloc⟩
    · rw [Quiet]
      simp only [hthread]
      exact h.thread

theorem Built.mono {s s' : Startup} (h : s.Built) (hsub : ∀ l ∈ s.written, l ∈ s'.written) :
    s'.Built :=
  ⟨hsub _ h.mutex, hsub _ h.count, fun j hj field => hsub _ (h.client j hj field)⟩

theorem Filling.addSession (h : s.Filling) (hstep : s.stepAddSession = some s') :
    s'.Filling ∨ s'.Done := by
  obtain ⟨st, rest, owner, htodo, howner, rfl⟩ := stepAddSession_some hstep
  obtain ⟨l, hl, hwrite⟩ := h.todo
  rw [htodo] at hl
  cases l with
  | nil =>
    -- the unlock
    obtain ⟨rfl, rfl⟩ := List.cons.inj hl
    obtain rfl := Option.some.inj howner
    exact Or.inr ⟨rfl, h.built.mono fun l hl => hl, Or.inl ⟨rfl, h.quiet⟩⟩
  | cons st' l =>
    obtain ⟨rfl, rfl⟩ := List.cons.inj hl
    obtain ⟨howner', hthread⟩ := (hwrite st List.mem_cons_self).keeps s.owner s.thread
    obtain rfl := Option.some.inj (howner'.symm.trans howner)
    refine Or.inl ⟨⟨l, rfl, fun st hst => hwrite st (List.mem_cons_of_mem _ hst)⟩,
      h.built.mono fun l hl => List.mem_append_right _ hl, h.owner, ?_⟩
    rw [Quiet]
    simp only [hthread]
    exact h.quiet

/-! ## The media thread -/

theorem stepMedia_entered (h : s.stepMedia = some s') (hthread : s.thread = .entered)
    (hmutex : Loc.mutex ∈ s.written) :
    s.owner = none ∧ s' = { s with owner := some .media, thread := .test 0 } := by
  rw [stepMedia, hthread] at h
  obtain ⟨howner, hnext⟩ := Option.ite_none_right_eq_some.mp h
  obtain rfl := Option.some.inj hnext
  exact ⟨howner.resolve_right fun hnot => hnot hmutex, by rw [touch_of_mem hmutex]⟩

theorem stepMedia_test {i : Nat} (h : s.stepMedia = some s') (hthread : s.thread = .test i)
    (hcount : Loc.count ∈ s.written) :
    s' = if i < s.session.count then { s with thread := .readSd i }
      else { s with owner := none, thread := .outside } := by
  rw [stepMedia, hthread] at h
  obtain rfl := Option.some.inj h
  rw [touch_of_mem hcount]

theorem Quiet.entered (h : s.Quiet) (hstep : s.stepMedia = some s') : s.thread = .entered := by
  rw [stepMedia] at hstep
  rcases h with h | h | h
  · simp [h] at hstep
  · simp [h] at hstep
  · exact h

theorem Opening.media (h : s.Opening addr pos a audioType mem) (hlate : s.LocksLate .media)
    (hstep : s.stepMedia = some s') : False :=
  h.early (hlate (h.quiet.entered hstep))

theorem Building.media (h : s.Building a audioType mem) (hstep : s.stepMedia = some s') :
    s'.Building a audioType mem ∧ s'.early = s.early ∧ s'.session = s.session ∧
      s'.todo = s.todo := by
  rcases h.thread with ⟨-, hquiet⟩ | ⟨-, htest⟩
  · obtain ⟨-, rfl⟩ := stepMedia_entered hstep (hquiet.entered hstep) h.mutex
    exact ⟨⟨h.todo, h.mutex, h.count, h.zero, Or.inr ⟨rfl, rfl⟩⟩, rfl, rfl, rfl⟩
  · -- `count` is 0, the loop ends at once
    have hs' := stepMedia_test hstep htest h.count
    rw [h.zero, if_neg (by simp)] at hs'
    subst hs'
    exact ⟨⟨h.todo, h.mutex, h.count, h.zero, Or.inl ⟨rfl, Or.inr (Or.inl rfl)⟩⟩, rfl, rfl, rfl⟩

theorem Filling.media (h : s.Filling) (hstep : s.stepMedia = some s') : False := by
  obtain ⟨hnone, -⟩ := stepMedia_entered hstep (h.quiet.entered hstep) h.built.mutex
  rw [h.owner] at hnone
  cases hnone

theorem Done.look (h : s.Done) (howner : s.owner = some .media) {field : ClientField}
    {passed : Bool} {next : MediaThd} (hnext : Scanning next) :
    (s.look 0 field passed next).Done ∧ (s.look 0 field passed next).early = s.early ∧
      (s.look 0 field passed next).session = s.session := by
  rw [Startup.look, touch_of_mem (h.built.client 0 (by decide) field)]
  refine ⟨⟨h.todo, h.built.mono fun l hl => hl, Or.inr ⟨howner, ?_⟩⟩, rfl, rfl⟩
  dsimp only
  split_ifs
  · exact hnext
  · exact trivial

theorem Done.media (h : s.Done) (hsingle : Single s.session) (hstep : s.stepMedia = some s') :
    s'.Done ∧ s'.early = s.early ∧ s'.session = s.session := by
  have hfield := h.built.client 0 (by decide)
  rcases h.thread with ⟨-, hquiet⟩ | ⟨howner, hscan⟩
  · obtain ⟨-, rfl⟩ := stepMedia_entered hstep (hquiet.entered hstep) h.built.mutex
    exact ⟨⟨h.todo, h.built.mono fun l hl => hl, Or.inr ⟨rfl, trivial⟩⟩, rfl, rfl⟩
  · -- the thread holds the lock and looks at slot 0 only
    cases hthread : s.thread with
    | absent => simp [hthread, Scanning] at hscan
    | outside => simp [hthread, Scanning] at hscan
    | entered => simp [hthread, Scanning] at hscan
    | test i =>
      have hs' := stepMedia_test hstep hthread h.built.count
      rw [hsingle.count] at hs'
      subst hs'
      split_ifs with hi
      · have hzero : i = 0 := by omega
        exact ⟨⟨h.todo, h.built.mono fun l hl => hl, Or.inr ⟨howner, hzero⟩⟩, rfl, rfl⟩
      · exact ⟨⟨h.todo, h.built.mono fun l hl => hl, Or.inl ⟨rfl, Or.inr (Or.inl rfl)⟩⟩, rfl, rfl⟩
    | readSd i =>
      obtain rfl : i = 0 := by simpa [hthread, Scanning] using hscan
      rw [stepMedia, hthread] at hstep
      obtain rfl := Option.some.inj hstep
      exact h.look howner rfl
    | readSendCallBack i =>
      obtain rfl : i = 0 := by simpa [hthread, Scanning] using hscan
      rw [stepMedia, hthread] at hstep
      obtain rfl := Option.some.inj hstep
      exact h.look howner rfl
    | readPlayflag i =>
      obtain rfl : i = 0 := by simpa [hthread, Scanning] using hscan
      rw [stepMedia, hthread] at hstep
      obtain rfl := Option.some.inj hstep
      exact h.look howner rfl
    | call i =>
      obtain rfl : i = 0 := by simpa [hthread, Scanning] using hscan
      rw [stepMedia, hthread] at hstep
      obtain ⟨j, hj, rfl⟩ := Option.map_eq_some_iff.mp hstep
      rw [touch_of_mem (hfield .sendCallBack), touch_of_mem (hfield .arg)]
      exact ⟨⟨h.todo, h.built.mono fun l hl => hl, Or.inr ⟨howner, hsingle.arg j hj⟩⟩, rfl, rfl⟩
    | sending i j => simp [stepMedia, hthread] at hstep

/-! ## Runs -/

theorem Single.setSlot {s : Session} (h : Single s) {j : Nat} {c : Clientinfo}
    (hkeep : c.sendCallBack = (s.clientinfo j).sendCallBack) : Single (s.setSlot j c) where
  count := h.count
  arg k hk := by
    by_cases hj : j = 0
    · subst hj
      rw [Session.setSlot_self, hkeep] at hk
      exact h.arg k hk
    · rw [Session.setSlot_of_ne s c (Ne.symm hj)] at hk
      exact h.arg k hk

theorem single_addSessionStmts (opened : Bool) (addr pos : Nat) (a : AddArgs) (audioType : AudioE)
    (mem : Fresh) (memory : Session) :
    Single (execs memory (addSessionStmts opened addr pos a audioType mem)) := by
  obtain ⟨-, hcount, -, hslots⟩ := execs_addSessionStmts opened addr pos a audioType mem memory
  refine ⟨hcount, fun j hj => ?_⟩
  rw [hslots 0 (by decide), Session.create_clientinfo_zero] at hj
  exact setClient_arg rfl hj

theorem ok_start (opened : Bool) (addr pos : Nat) (a : AddArgs) (audioType : AudioE) (mem : Fresh)
    (memory : Session) :
    (start memory (addSessionStmts opened addr pos a audioType mem)).Ok addr pos a audioType mem
    where
  early := rfl
  single := single_addSessionStmts opened addr pos a audioType mem memory
  phase := by
    refine Or.inl ⟨⟨[.creatMedia opened, .set .media id,
      .set .filename fun s => { s with filename := a.pathFilename }, .mutexInit], rfl, ?_,
      Or.inr ⟨.mutexInit, by simp, rfl⟩⟩, List.not_mem_nil, rfl, Or.inl rfl⟩
    simp [Stmt.loc]

theorem Ok.addSession (h : s.Ok addr pos a audioType mem) (hstep : s.stepAddSession = some s') :
    s'.Ok addr pos a audioType mem := by
  obtain ⟨st, rest, owner, htodo, -, hs'⟩ := stepAddSession_some hstep
  have hsingle := h.single
  rw [htodo, execs_cons] at hsingle
  refine ⟨by rw [hs']; exact h.early, by rw [hs']; exact hsingle, ?_⟩
  rcases h.phase with hphase | hphase | hphase | hphase
  · exact (hphase.addSession hstep).elim Or.inl fun h' => Or.inr (Or.inl h')
  · exact Or.inr ((hphase.addSession hstep).elim Or.inl fun h' => Or.inr (Or.inl h'))
  · exact Or.inr (Or.inr (hphase.addSession hstep))
  · rw [hphase.todo] at htodo
    cases htodo

theorem Ok.media (h : s.Ok addr pos a audioType mem) (hlate : s.LocksLate .media)
    (hstep : s.stepMedia = some s') : s'.Ok addr pos a audioType mem := by
  rcases h.phase with hphase | hphase | hphase | hphase
  · exact (hphase.media hlate hstep).elim
  · obtain ⟨hnext, hearly, hsession, htodo⟩ := hphase.media hstep
    exact ⟨hearly.trans h.early, by rw [hsession, htodo]; exact h.single, Or.inr (Or.inl hnext)⟩
  · exact (hphase.media hstep).elim
  · have hsingle : Single s.session := by
      have := h.single
      rwa [hphase.todo] at this
    obtain ⟨hnext, hearly, hsession⟩ := hphase.media hsingle hstep
    refine ⟨hearly.trans h.early, ?_, Or.inr (Or.inr (Or.inr hnext))⟩
    rw [hnext.todo, hsession]
    exact hsingle

theorem Ok.sending (h : s.Ok addr pos a audioType mem) {i j : Nat}
    (hthread : s.thread = .sending i j) : s.Done ∧ s.owner = some .media ∧ j = 0 := by
  have hnot : ¬ s.Quiet := by simp [Quiet, hthread]
  rcases h.phase with hphase | hphase | hphase | hphase
  · exact absurd hphase.quiet hnot
  · rcases hphase.thread with ⟨-, hquiet⟩ | ⟨-, htest⟩
    · exact absurd hquiet hnot
    · rw [hthread] at htest
      cases htest
  · exact absurd hphase.quiet hnot
  · rcases hphase.thread with ⟨-, hquiet⟩ | ⟨howner, hscan⟩
    · exact absurd hquiet hnot
    · rw [hthread] at hscan
      exact ⟨hphase, howner, hscan⟩

/-- **One step.** -/
theorem Ok.step (h : s.Ok addr pos a audioType mem) {l : Label} (hlate : s.LocksLate l)
    (hstep : s.step l = some s') : s'.Ok addr pos a audioType mem := by
  cases l with
  | addSession => exact h.addSession hstep
  | media => exact h.media hlate hstep
  | callback =>
    obtain ⟨hout, hnext⟩ := Option.ite_none_right_eq_some.mp hstep
    obtain rfl := Option.some.inj hnext
    have hquiet : ({ s with thread := .entered } : Startup).Quiet := Or.inr (Or.inr rfl)
    refine ⟨h.early, h.single, ?_⟩
    rcases h.phase with hphase | hphase | hphase | hphase
    · exact Or.inl ⟨hphase.todo, hphase.early, hphase.owner, hquiet⟩
    · refine Or.inr (Or.inl
        ⟨hphase.todo, hphase.mutex, hphase.count, hphase.zero, Or.inl ⟨?_, hquiet⟩⟩)
      refine (hphase.thread.resolve_right fun h' => ?_).1
      rw [hout] at h'
      cases h'.2
    · exact Or.inr (Or.inr (Or.inl
        ⟨hphase.todo, hphase.built.mono fun l hl => hl, hphase.owner, hquiet⟩))
    · refine Or.inr (Or.inr (Or.inr
        ⟨hphase.todo, hphase.built.mono fun l hl => hl, Or.inl ⟨?_, hquiet⟩⟩))
      refine (hphase.thread.resolve_right fun h' => ?_).1
      rw [hout] at h'
      exact h'.2
  | access field =>
    rw [Startup.step] at hstep
    cases hthread : s.thread with
    | sending i j =>
      rw [hthread] at hstep
      obtain rfl := Option.some.inj hstep
      obtain ⟨hdone, -, rfl⟩ := h.sending hthread
      rw [touch_of_mem (hdone.built.client 0 (by decide) field)]
      exact h
    | _ => simp [hthread] at hstep
  | sendData m fresh =>
    rw [Startup.step] at hstep
    cases hthread : s.thread with
    | sending i j =>
      rw [hthread] at hstep
      obtain rfl := Option.some.inj hstep
      obtain ⟨hdone, howner, rfl⟩ := h.sending hthread
      have hsingle := h.single
      rw [hdone.todo] at hsingle
      have hkeep : (SimpleRtsp.sendData m.toMediainfo fresh (s.session.clientinfo 0)).sendCallBack =
          (s.session.clientinfo 0).sendCallBack := by
        obtain ⟨video, audio, hc⟩ :=
          Clientinfo.Requeued.sendData m.toMediainfo fresh (s.session.clientinfo 0)
        rw [hc]
      refine ⟨h.early, ?_, Or.inr (Or.inr (Or.inr
        ⟨hdone.todo, hdone.built.mono fun l hl => hl, Or.inr ⟨howner, trivial⟩⟩))⟩
      rw [hdone.todo]
      exact Single.setSlot hsingle hkeep
    | _ => simp [hthread] at hstep

theorem touch_early_of_not_mem {l : Loc} (h : l ∉ s.written) : (s.touch l).early ≠ [] := by
  rw [touch, if_neg h]
  exact List.append_ne_nil_of_right_ne_nil _ (List.cons_ne_nil _ _)

/-- A lock that breaks the condition is itself too early, or the test that follows it can be. -/
theorem early_of_not_locksLate (h : ¬ s.LocksLate .media) (hstep : s.stepMedia = some s') :
    s'.early ≠ [] ∨ ∃ s'', s'.stepMedia = some s'' ∧ s''.early ≠ [] := by
  obtain ⟨hthread, hcount⟩ := Classical.not_imp.mp h
  rw [stepMedia, hthread] at hstep
  obtain ⟨-, hnext⟩ := Option.ite_none_right_eq_some.mp hstep
  obtain rfl := Option.some.inj hnext
  by_cases hmutex : Loc.mutex ∈ s.written
  · rw [touch_of_mem hmutex]
    refine Or.inr ⟨_, rfl, ?_⟩
    have hread := touch_early_of_not_mem
      (s := { s with owner := some .media, thread := .test 0 }) hcount
    split_ifs
    · exact hread
    · exact hread
  · exact Or.inl (touch_early_of_not_mem hmutex)

/-- **The start of a session.** Whatever memory `malloc` found, in a run in which every callback
takes the lock after `session->count = 0` the media thread touches nothing before it is written;
after any other lock the media thread can be the next to move and has touched something. -/
theorem early_locksLate (opened : Bool) (addr pos : Nat) (a : AddArgs) (audioType : AudioE)
    (mem : Fresh) (memory : Session) :
    let s₀ := start memory (addSessionStmts opened addr pos a audioType mem)
    (∀ s, Reach step LocksLate s₀ s → s.early = []) ∧
      ∀ s s', Reach step anyStep s₀ s → ¬ s.LocksLate .media → s.step .media = some s' →
        s'.early ≠ [] ∨ ∃ s'', s'.step .media = some s'' ∧ s''.early ≠ [] := by
  refine ⟨fun s hs => ?_, fun s s' _ hnot hstep => early_of_not_locksLate hnot hstep⟩
  have hok := hs.invariant (ok_start opened addr pos a audioType mem memory)
    fun s l s' hinv hguard hnext => hinv.step hguard hnext
  exact hok.early

/-- What `malloc` may find: a count of 3 and slots that seem to be in use. -/
def usedMemory : Session := ⟨[], fun _ => { initClient with sd := 7, playflag := 1 }, 3, 0⟩

/-- A callback that waits until `count` is 0. -/
theorem early_locksLate_waits :
    ∃ s, Reach step LocksLate
        (start usedMemory (addSessionStmts true 0 0 (tcpPlayer 3) .aac zeroFresh)) s ∧
      s.thread = .test 0 ∧ s.early = [] := by
  have hrun : (runs (fun s l => if LocksLate s l then step s l else none)
      (start usedMemory (addSessionStmts true 0 0 (tcpPlayer 3) .aac zeroFresh))
      [.addSession, .callback, .addSession, .addSession, .addSession, .addSession, .media]).map
        (·.thread) = some (.test 0) := rfl
  obtain ⟨s, hs, hthread⟩ := Option.map_eq_some_iff.mp hrun
  have hreach := Reach.of_runs_guard _ hs
  exact ⟨s, hreach, hthread, (early_locksLate true 0 0 (tcpPlayer 3) .aac zeroFresh usedMemory).1 s
    hreach⟩

/-- A callback that comes as soon as the thread exists locks a mutex nobody has initialised. -/
theorem start_early :
    ¬ ∀ s, Reach step anyStep
        (start usedMemory (addSessionStmts true 0 0 (tcpPlayer 3) .aac zeroFresh)) s →
      s.early = [] := by
  intro h
  have hrun : (runs step (start usedMemory (addSessionStmts true 0 0 (tcpPlayer 3) .aac zeroFresh))
      [.addSession, .callback, .media, .media, .media]).map (·.early) =
        some [.mutex, .count, .client 0 .sd] := rfl
  obtain ⟨s, hs, hearly⟩ := Option.map_eq_some_iff.mp hrun
  rw [h s (Reach.of_runs _ hs)] at hearly
  cases hearly

end Startup

end SimpleRtsp

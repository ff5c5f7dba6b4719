import SimpleRtsp.Session.Session

/-!
# The session table

`Server` is the global state of `session.c`: the sessions in memory, the table `session_arr` and
the counter `sum_client`. The functions are the critical sections of `addClient`, `addSession`,
`epollLoop` and `delSession`, each of which runs under its locks; an address is what `malloc`
returned. `Linked` is the part of the invariant that is about addresses alone: table and sessions
point to each other.
-/

namespace SimpleRtsp

def FILEMAX : Nat := 1024

/-- The sessions by address, `session_arr` and `sum_client`. -/
structure Server where
  heap : Nat → Option Session
  sessionArr : Nat → Option Nat
  sumClient : Int

namespace Server

def init : Server := ⟨fun _ => none, fun _ => none, 0⟩

def setSession (S : Server) (addr : Nat) (s : Session) : Server :=
  { S with heap := Function.update S.heap addr (some s) }

/-- The test `!strncmp(session_arr[i]->filename, path_filename, strlen(path_filename))`. -/
def hasPath (S : Server) (addr : Nat) (path : List UInt8) : Bool :=
  match S.heap addr with
  | none => false
  | some s => path.isPrefixOf s.filename

/-- The search of `addClient`: the first entry whose session matches, and `min_free_pos`. -/
def search (S : Server) (path : List UInt8) : List Nat → Nat → Option Nat × Nat
  | [], minFreePos => (none, minFreePos)
  | i :: rest, minFreePos =>
    match S.sessionArr i with
    | none => S.search path rest (if i < minFreePos then i else minFreePos)
    | some addr =>
      if S.hasPath addr path then (some addr, minFreePos) else S.search path rest minFreePos

/-- What the first critical section of `addClient` comes to. -/
inductive Lookup where
  | joined (addr j : Nat)
  | full
  | missing (minFreePos : Nat)

/-- After the search: join the session that was found. -/
def enter (a : AddArgs) (audioType : AudioE) (mem : Fresh) (S : Server) :
    Option Nat × Nat → Lookup × Server
  | (none, minFreePos) => (.missing minFreePos, S)
  | (some addr, _) =>
    match (S.heap addr).bind (Session.join a audioType mem) with
    | none => (.full, S)
    | some (j, s) => (.joined addr j, S.setSession addr s)

/-- The first critical section of `addClient`. -/
def lookup (a : AddArgs) (audioType : AudioE) (mem : Fresh) (S : Server) : Lookup × Server :=
  S.enter a audioType mem (S.search a.pathFilename (List.range FILEMAX) FILEMAX)

/-- The critical section of `addSession`; `addr` is the new session's address. -/
def addSession (addr pos : Nat) (a : AddArgs) (audioType : AudioE) (mem : Fresh) (S : Server) :
    Server :=
  { S.setSession addr (.create addr a audioType mem pos) with
    sessionArr := Function.update S.sessionArr pos (some addr) }

/-- `client_num`: how many slots of a session are in use. -/
def clientNum (s : Session) : Int := used (fun c : Clientinfo => 0 < c.sd) s.clientinfo CLIENTMAX

/-- The critical section of `delSession` for a table entry in use: the session is freed. The
result is its `client_num`. -/
def delSession (pos addr : Nat) (S : Server) : Int × Server :=
  ((S.heap addr).elim 0 clientNum,
    { S with
      heap := Function.update S.heap addr none
      sessionArr := Function.update S.sessionArr pos none })

def addSum (n : Int) (S : Server) : Server := { S with sumClient := S.sumClient + n }

/-! ## The search -/

/-- Nothing was found: no session matches, and `min_free_pos` is free unless it is still
`FILEMAX`. -/
theorem search_none {S : Server} {path : List UInt8} {l : List Nat} {minFreePos pos : Nat}
    (h : S.search path l minFreePos = (none, pos)) :
    (∀ i ∈ l, ∀ addr, S.sessionArr i = some addr → S.hasPath addr path = false) ∧
      (pos = minFreePos ∨ pos ∈ l ∧ S.sessionArr pos = none) := by
  induction l generalizing minFreePos with
  | nil =>
    cases h
    exact ⟨by simp, Or.inl rfl⟩
  | cons i rest ih =>
    rw [search] at h
    split at h
    · rename_i hfree
      obtain ⟨hnone, hpos⟩ := ih h
      constructor
      · intro k hk addr harr
        rcases List.mem_cons.mp hk with rfl | hk
        · rw [hfree] at harr
          cases harr
        · exact hnone k hk addr harr
      · rcases hpos with hpos | ⟨hmem, hpos⟩
        · split_ifs at hpos
          · exact Or.inr ⟨hpos ▸ List.mem_cons_self, hpos ▸ hfree⟩
          · exact Or.inl hpos
        · exact Or.inr ⟨List.mem_cons_of_mem i hmem, hpos⟩
    · rename_i addr haddr
      by_cases hpath : S.hasPath addr path = true
      · rw [if_pos hpath] at h
        cases h
      rw [if_neg hpath] at h
      obtain ⟨hnone, hpos⟩ := ih h
      constructor
      · intro k hk addr' harr
        rcases List.mem_cons.mp hk with rfl | hk
        · rw [haddr] at harr
          cases harr
          simpa using hpath
        · exact hnone k hk addr' harr
      · rcases hpos with hpos | ⟨hmem, hpos⟩
        · exact Or.inl hpos
        · exact Or.inr ⟨List.mem_cons_of_mem i hmem, hpos⟩

/-! ## Table and sessions -/

/-- Every entry of the table is a session that knows its position, and every session is there. -/
structure Linked (S : Server) : Prop where
  table : ∀ i addr, S.sessionArr i = some addr →
    i < FILEMAX ∧ ∃ s, S.heap addr = some s ∧ s.pos = i
  heap : ∀ addr s, S.heap addr = some s → S.sessionArr s.pos = some addr

theorem linked_init : init.Linked := ⟨nofun, nofun⟩

variable {S : Server}

theorem setSession_heap (S : Server) (addr : Nat) (s : Session) (addr' : Nat) :
    (S.setSession addr s).heap addr' = if addr' = addr then some s else S.heap addr' := by
  simp [setSession, Function.update_apply]

theorem Linked.setSession (h : S.Linked) {addr : Nat} {s s' : Session} (hs : S.heap addr = some s)
    (hpos : s'.pos = s.pos) : (S.setSession addr s').Linked where
  table i addr' harr := by
    obtain ⟨hi, s₁, hs₁, hpos₁⟩ := h.table i addr' harr
    refine ⟨hi, ?_⟩
    rw [setSession_heap]
    split_ifs with haddr
    · subst haddr
      rw [hs] at hs₁
      cases hs₁
      exact ⟨s', rfl, hpos.trans hpos₁⟩
    · exact ⟨s₁, hs₁, hpos₁⟩
  heap addr' s₁ hs₁ := by
    rw [setSession_heap] at hs₁
    split_ifs at hs₁ with haddr
    · cases hs₁
      rw [haddr, hpos]
      exact h.heap addr s hs
    · exact h.heap addr' s₁ hs₁

theorem Linked.addSession (h : S.Linked) {addr pos : Nat} (hfree : S.heap addr = none)
    (hpos : pos < FILEMAX) (hnull : S.sessionArr pos = none) (a : AddArgs) (audioType : AudioE)
    (mem : Fresh) : (S.addSession addr pos a audioType mem).Linked where
  table i addr' harr := by
    simp only [Server.addSession, Function.update_apply] at harr
    simp only [Server.addSession, setSession_heap]
    split_ifs at harr with hi
    · cases harr
      exact ⟨by omega, _, if_pos rfl, by rw [hi]; rfl⟩
    · obtain ⟨hi, s, hs, hpos⟩ := h.table i addr' harr
      refine ⟨hi, s, ?_, hpos⟩
      rwa [if_neg fun haddr => by rw [haddr, hfree] at hs; cases hs]
  heap addr' s hs := by
    simp only [Server.addSession, setSession_heap] at hs
    simp only [Server.addSession, Function.update_apply]
    split_ifs at hs with haddr
    · cases hs
      rw [haddr]
      exact if_pos rfl
    · rw [if_neg fun hp => by
        have := h.heap addr' s hs
        rw [hp, hnull] at this
        cases this]
      exact h.heap addr' s hs

theorem Linked.delSession (h : S.Linked) {addr pos : Nat} (harr : S.sessionArr pos = some addr) :
    (S.delSession pos addr).2.Linked where
  table i addr' harr' := by
    simp only [Server.delSession, Function.update_apply] at harr' ⊢
    split_ifs at harr' with hi
    obtain ⟨hi', s, hs, hpos⟩ := h.table i addr' harr'
    refine ⟨hi', s, ?_, hpos⟩
    rw [if_neg fun haddr => ?_]
    · exact hs
    · -- the session of the other entry is another one
      obtain ⟨-, s', hs', hpos'⟩ := h.table pos addr harr
      rw [haddr, hs'] at hs
      cases hs
      exact hi (hpos.symm.trans hpos')
  heap addr' s hs := by
    simp only [Server.delSession, Function.update_apply] at hs ⊢
    split_ifs at hs with haddr
    rw [if_neg fun hpos => ?_]
    · exact h.heap addr' s hs
    · have hother := h.heap addr' s hs
      rw [hpos, harr] at hother
      cases hother
      exact haddr rfl

theorem Linked.addSum (h : S.Linked) (n : Int) : (S.addSum n).Linked := ⟨h.table, h.heap⟩

/-! ## What a lookup comes to -/

theorem lookup_cases {a : AddArgs} {audioType : AudioE} {mem : Fresh} {r : Lookup × Server}
    (h : S.lookup a audioType mem = r) :
    (∃ addr j s s', S.heap addr = some s ∧ s.join a audioType mem = some (j, s') ∧
      r = (.joined addr j, S.setSession addr s')) ∨
    r = (.full, S) ∨
    (∃ pos, (∀ i < FILEMAX, ∀ addr, S.sessionArr i = some addr →
      S.hasPath addr a.pathFilename = false) ∧ (pos < FILEMAX → S.sessionArr pos = none) ∧
      r = (.missing pos, S)) := by
  rw [lookup] at h
  rcases hsearch : S.search a.pathFilename (List.range FILEMAX) FILEMAX with ⟨_ | addr, pos⟩
  · obtain ⟨hnone, hpos⟩ := search_none hsearch
    rw [hsearch] at h
    refine Or.inr (Or.inr ⟨pos, fun i hi => hnone i (List.mem_range.mpr hi), fun hlt => ?_, h.symm⟩)
    exact hpos.elim (fun hpos => absurd hpos (Nat.ne_of_lt hlt)) And.right
  · rw [hsearch, enter] at h
    split at h
    · exact Or.inr (Or.inl h.symm)
    · rename_i j s' hjoin
      obtain ⟨s, hs, hjoin⟩ := Option.bind_eq_some_iff.mp hjoin
      exact Or.inl ⟨addr, j, s, s', hs, hjoin, h.symm⟩

theorem Linked.filename_ne (h : S.Linked) {path : List UInt8}
    (hnone : ∀ i < FILEMAX, ∀ addr, S.sessionArr i = some addr → S.hasPath addr path = false)
    {addr : Nat} {s : Session} (hs : S.heap addr = some s) : s.filename ≠ path := by
  intro hname
  have harr := h.heap addr s hs
  have hmiss := hnone s.pos (h.table _ _ harr).1 addr harr
  have hstarts : path.isPrefixOf s.filename = true := by
    rw [List.isPrefixOf_iff_prefix, hname]
  rw [hasPath, hs] at hmiss
  exact absurd (hstarts.symm.trans hmiss) (by decide)

/-! ## Names and free entries -/

theorem addSession_heap {addr pos : Nat} {a : AddArgs} {audioType : AudioE} {mem : Fresh}
    (addr' : Nat) : (S.addSession addr pos a audioType mem).heap addr' =
      if addr' = addr then some (.create addr a audioType mem pos) else S.heap addr' :=
  S.setSession_heap addr _ addr'

theorem addSession_heap_of_some {addr pos : Nat} {a : AddArgs} {audioType : AudioE} {mem : Fresh}
    (hfree : S.heap addr = none) {addr' : Nat} {s : Session} (hs : S.heap addr' = some s) :
    (S.addSession addr pos a audioType mem).heap addr' = some s := by
  rw [addSession_heap, if_neg, hs]
  rintro rfl
  rw [hfree] at hs
  cases hs

theorem delSession_heap (pos addr addr' : Nat) :
    (S.delSession pos addr).2.heap addr' = if addr' = addr then none else S.heap addr' :=
  Function.update_apply S.heap addr none addr'

/-- A session for `path` may still be created at `pos`. -/
structure Free (S : Server) (path : List UInt8) (pos : Nat) : Prop where
  entry : S.sessionArr pos = none
  name : ∀ addr s, S.heap addr = some s → s.filename ≠ path

/-- At most one session exists per path. -/
def Distinct (S : Server) : Prop :=
  ∀ addr s addr' s', S.heap addr = some s → S.heap addr' = some s' →
    s.filename = s'.filename → addr = addr'

theorem Free.setSession {path : List UInt8} {pos addr : Nat} (h : S.Free path pos) {s s' : Session}
    (hs : S.heap addr = some s) (hname : s'.filename = s.filename) :
    (S.setSession addr s').Free path pos := by
  refine ⟨h.entry, fun addr' s₁ hs₁ => ?_⟩
  rw [setSession_heap] at hs₁
  split_ifs at hs₁
  · cases hs₁
    rw [hname]
    exact h.name addr s hs
  · exact h.name addr' s₁ hs₁

theorem Free.addSession {path : List UInt8} {pos addr pos' : Nat} (h : S.Free path pos)
    {a : AddArgs} (hpos : pos ≠ pos') (hpath : path ≠ a.pathFilename) (audioType : AudioE)
    (mem : Fresh) : (S.addSession addr pos' a audioType mem).Free path pos := by
  constructor
  · simp only [Server.addSession, Function.update_apply, if_neg hpos]
    exact h.entry
  · intro addr' s hs
    rw [addSession_heap] at hs
    split_ifs at hs
    · cases hs
      exact hpath.symm
    · exact h.name addr' s hs

theorem Free.delSession {path : List UInt8} {pos : Nat} (h : S.Free path pos) (pos' addr : Nat) :
    (S.delSession pos' addr).2.Free path pos := by
  constructor
  · simp only [Server.delSession, Function.update_apply]
    split_ifs
    · rfl
    · exact h.entry
  · intro addr' s hs
    rw [delSession_heap] at hs
    split_ifs at hs
    exact h.name addr' s hs

theorem Free.addSum {path : List UInt8} {pos : Nat} (h : S.Free path pos) (n : Int) :
    (S.addSum n).Free path pos := ⟨h.entry, h.name⟩

theorem Linked.free (h : S.Linked) {path : List UInt8} {pos : Nat}
    (hnone : ∀ i < FILEMAX, ∀ addr, S.sessionArr i = some addr → S.hasPath addr path = false)
    (hfree : pos < FILEMAX → S.sessionArr pos = none) : S.Free path pos := by
  refine ⟨?_, fun addr s hs => h.filename_ne hnone hs⟩
  cases harr : S.sessionArr pos with
  | none => rfl
  | some addr => rw [hfree (h.table pos addr harr).1] at harr; cases harr

theorem Distinct.setSession (h : S.Distinct) {addr : Nat} {s s' : Session}
    (hs : S.heap addr = some s) (hname : s'.filename = s.filename) :
    (S.setSession addr s').Distinct := by
  -- what is there has a session of the same name behind it
  have hbehind : ∀ addr₁ s₁, (S.setSession addr s').heap addr₁ = some s₁ →
      ∃ s₂, S.heap addr₁ = some s₂ ∧ s₁.filename = s₂.filename := by
    intro addr₁ s₁ hs₁
    rw [setSession_heap] at hs₁
    split_ifs at hs₁ with haddr
    · cases hs₁
      exact ⟨s, haddr ▸ hs, hname⟩
    · exact ⟨s₁, hs₁, rfl⟩
  intro addr₁ s₁ addr₂ s₂ hs₁ hs₂ hsame
  obtain ⟨t₁, ht₁, hname₁⟩ := hbehind addr₁ s₁ hs₁
  obtain ⟨t₂, ht₂, hname₂⟩ := hbehind addr₂ s₂ hs₂
  exact h addr₁ t₁ addr₂ t₂ ht₁ ht₂ (hname₁.symm.trans (hsame.trans hname₂))

theorem Distinct.addSession (h : S.Distinct) {addr pos : Nat} {a : AddArgs}
    (hfree : S.Free a.pathFilename pos) (audioType : AudioE) (mem : Fresh) :
    (S.addSession addr pos a audioType mem).Distinct := by
  intro addr₁ s₁ addr₂ s₂ hs₁ hs₂ hsame
  rw [addSession_heap] at hs₁ hs₂
  split_ifs at hs₁ hs₂ with h₁ h₂ h₂
  · rw [h₁, h₂]
  · cases hs₁
    exact absurd hsame.symm (hfree.name addr₂ s₂ hs₂)
  · cases hs₂
    exact absurd hsame (hfree.name addr₁ s₁ hs₁)
  · exact h addr₁ s₁ addr₂ s₂ hs₁ hs₂ hsame

theorem Distinct.delSession (h : S.Distinct) (pos addr : Nat) :
    (S.delSession pos addr).2.Distinct := by
  intro addr₁ s₁ addr₂ s₂ hs₁ hs₂ hsame
  rw [delSession_heap] at hs₁ hs₂
  split_ifs at hs₁ hs₂
  exact h addr₁ s₁ addr₂ s₂ hs₁ hs₂ hsame

end Server

end SimpleRtsp

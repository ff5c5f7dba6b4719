import SimpleRtsp.Lib.CString
import SimpleRtsp.Lib.Fallible
import SimpleRtsp.Session.Accounting

/-!
# `addClient` at its limits

`addClientCall` is `addClient` with its return value, and with every access to `session_arr`, to a
session and to `clientinfo` checked. `call_cases` says what it comes to for any session table: the
client joins the session in the first entry that matches, is turned away because this session is
full, gets a new session, or, if no session matches and the table is full, the new session is
written behind the table. From this follows when it keeps its limits (`keepsLimits_iff`) and when
the client is served from the file it asked for (`serves_iff`).
-/

namespace SimpleRtsp

open CString

/-- An access that goes wrong. -/
inductive Outside where
  /-- an index from `FILEMAX` on -/
  | sessionArr
  /-- an index from `CLIENTMAX` on -/
  | clientinfo
  /-- no session, or one that was freed -/
  | session
  deriving DecidableEq

def Session.slot (s : Session) (j : Nat) : Except Outside Clientinfo :=
  if j < CLIENTMAX then .ok (s.clientinfo j) else .error .clientinfo

/-- The loop of `get_free_clientinfo`. -/
def Session.firstFree (s : Session) : List Nat → Except Outside (Option Nat)
  | [] => .ok none
  | j :: rest => do
    let c ← s.slot j
    if c.sd = -1 then pure (some j) else s.firstFree rest

namespace Server

def entry (S : Server) (i : Nat) : Except Outside (Option Nat) :=
  if i < FILEMAX then .ok (S.sessionArr i) else .error .sessionArr

def session (S : Server) (addr : Nat) : Except Outside Session :=
  (S.heap addr).elim (.error .session) .ok

/-- The loop of `addClient` up to the first session that matches. -/
def find (S : Server) (path : List UInt8) : List Nat → Nat → Except Outside (Option Nat × Nat)
  | [], minFreePos => .ok (none, minFreePos)
  | i :: rest, minFreePos => do
    match ← S.entry i with
    | none => S.find path rest (if i < minFreePos then i else minFreePos)
    | some addr => do
      let s ← S.session addr
      if path.isPrefixOf s.filename then pure (some addr, minFreePos)
      else S.find path rest minFreePos

/-- The body of the loop for the session that matches. -/
def joinAt (addr : Nat) (a : AddArgs) (audioType : AudioE) (mem : Fresh) (S : Server) :
    Except Outside (Int × Server) := do
  let s ← S.session addr
  match ← s.firstFree (List.range CLIENTMAX) with
  | none => pure (-1, S)
  | some j => do
    let c ← s.slot j
    let s := { s.setSlot j (setClient a audioType mem j c) with count := s.count + 1 }
    pure (1, (S.setSession addr s).addSum 1)

/-- `addSession`, which writes the new session to `session_arr[pos]`. -/
def createAt (addr pos : Nat) (a : AddArgs) (audioType : AudioE) (mem : Fresh) (S : Server) :
    Except Outside (Int × Server) :=
  if pos < FILEMAX then .ok (1, (S.addSession addr pos a audioType mem).addSum 1)
  else .error .sessionArr

/-- What is done with the result of the search. -/
def conclude (addr : Nat) (a : AddArgs) (audioType : AudioE) (mem : Fresh) (S : Server) :
    Option Nat × Nat → Except Outside (Int × Server)
  | (some addr', _) => S.joinAt addr' a audioType mem
  | (none, pos) => S.createAt addr pos a audioType mem

/-- `addClient`: the return value and the table. `addr` is the address of a new session. -/
def addClientCall (addr : Nat) (a : AddArgs) (audioType : AudioE) (mem : Fresh) (S : Server) :
    Except Outside (Int × Server) := do
  let found ← S.find a.pathFilename (List.range FILEMAX) FILEMAX
  S.conclude addr a audioType mem found

/-! ## The search -/

/-- The session in the first entry whose file name starts with the path. -/
structure First (S : Server) (path : List UInt8) (i addr : Nat) (s : Session) : Prop where
  lt : i < FILEMAX
  entry : S.sessionArr i = some addr
  session : S.heap addr = some s
  starts : path <+: s.filename
  least : ∀ k < i, ∀ addr' s', S.sessionArr k = some addr' → S.heap addr' = some s' →
    ¬ path <+: s'.filename

def NoMatch (S : Server) (path : List UInt8) : Prop :=
  ∀ i < FILEMAX, ∀ addr s, S.sessionArr i = some addr → S.heap addr = some s →
    ¬ path <+: s.filename

def Full (S : Server) : Prop := ∀ i < FILEMAX, S.sessionArr i ≠ none

variable {S : Server} {path : List UInt8}

theorem First.unique {i i' addr addr' : Nat} {s s' : Session} (h : S.First path i addr s)
    (h' : S.First path i' addr' s') : addr' = addr ∧ s' = s := by
  obtain hlt | rfl | hlt := Nat.lt_trichotomy i i'
  · exact absurd h.starts (h'.least i hlt addr s h.entry h.session)
  · have haddr := Option.some.inj (h'.entry.symm.trans h.entry)
    refine ⟨haddr, ?_⟩
    have hs := h'.session
    rw [haddr] at hs
    exact Option.some.inj (hs.symm.trans h.session)
  · exact absurd h'.starts (h.least i' hlt addr' s' h'.entry h'.session)

theorem First.not_noMatch {i addr : Nat} {s : Session} (h : S.First path i addr s) :
    ¬ S.NoMatch path := fun hno => hno i h.lt addr s h.entry h.session h.starts

theorem find_none {i : Nat} (hi : i < FILEMAX) (harr : S.sessionArr i = none) (rest : List Nat)
    (minFreePos : Nat) : S.find path (i :: rest) minFreePos =
      S.find path rest (if i < minFreePos then i else minFreePos) := by
  rw [find, entry, if_pos hi, harr]
  rfl

theorem find_some {i addr : Nat} (hi : i < FILEMAX) (harr : S.sessionArr i = some addr)
    {s : Session} (hs : S.heap addr = some s) (rest : List Nat) (minFreePos : Nat) :
    S.find path (i :: rest) minFreePos =
      if path.isPrefixOf s.filename then .ok (some addr, minFreePos)
      else S.find path rest minFreePos := by
  have hsession : S.session addr = .ok s := by
    rw [session, hs]
    rfl
  rw [find, entry, if_pos hi, harr]
  show S.session addr >>= _ = _
  rw [hsession]
  rfl

theorem search_none_cons {i : Nat} (harr : S.sessionArr i = none) (rest : List Nat)
    (minFreePos : Nat) : S.search path (i :: rest) minFreePos =
      S.search path rest (if i < minFreePos then i else minFreePos) := by
  rw [search, harr]

theorem search_some_cons {i addr : Nat} (harr : S.sessionArr i = some addr) (rest : List Nat)
    (minFreePos : Nat) : S.search path (i :: rest) minFreePos =
      if S.hasPath addr path then (some addr, minFreePos) else S.search path rest minFreePos := by
  rw [search, harr]

theorem Linked.find_eq (h : S.Linked) (path : List UInt8) {l : List Nat}
    (hl : ∀ i ∈ l, i < FILEMAX) (minFreePos : Nat) :
    S.find path l minFreePos = .ok (S.search path l minFreePos) := by
  induction l generalizing minFreePos with
  | nil => rfl
  | cons i rest ih =>
    have hi := hl i List.mem_cons_self
    have hrest := ih fun k hk => hl k (List.mem_cons_of_mem i hk)
    cases harr : S.sessionArr i with
    | none =>
      rw [find_none hi harr, search_none_cons harr]
      exact hrest _
    | some addr =>
      obtain ⟨-, s, hs, -⟩ := h.table i addr harr
      have hpath : S.hasPath addr path = path.isPrefixOf s.filename := by
        rw [hasPath, hs]
      rw [find_some hi harr hs, search_some_cons harr, hpath]
      split_ifs
      · rfl
      · exact hrest minFreePos

/-- What was found is the first that matches. By induction over the entries. -/
theorem search_some {l : List Nat} {minFreePos addr pos : Nat}
    (h : S.search path l minFreePos = (some addr, pos)) :
    ∃ before i after, l = before ++ i :: after ∧ S.sessionArr i = some addr ∧
      S.hasPath addr path = true ∧
      ∀ k ∈ before, ∀ addr', S.sessionArr k = some addr' → S.hasPath addr' path = false := by
  induction l generalizing minFreePos with
  | nil =>
    rw [search] at h
    exact absurd (Prod.mk.inj h).1 (by simp)
  | cons i rest ih =>
    have hlater : ∀ minFreePos, S.search path rest minFreePos = (some addr, pos) →
        (∀ addr', S.sessionArr i = some addr' → S.hasPath addr' path = false) →
        ∃ before k after, i :: rest = before ++ k :: after ∧ S.sessionArr k = some addr ∧
          S.hasPath addr path = true ∧
          ∀ k ∈ before, ∀ addr', S.sessionArr k = some addr' → S.hasPath addr' path = false := by
      intro minFreePos hrest hi
      obtain ⟨before, k, after, rfl, hk, hpath, hbefore⟩ := ih hrest
      refine ⟨i :: before, k, after, rfl, hk, hpath, fun k' hk' => ?_⟩
      obtain rfl | hk' := List.mem_cons.mp hk'
      · exact hi
      · exact hbefore k' hk'
    cases harr : S.sessionArr i with
    | none =>
      rw [search_none_cons harr] at h
      exact hlater _ h fun addr' harr' => absurd (harr.symm.trans harr') (by simp)
    | some addr' =>
      rw [search_some_cons harr] at h
      split_ifs at h with hpath
      · obtain ⟨haddr, -⟩ := Prod.mk.inj h
        obtain rfl := Option.some.inj haddr
        exact ⟨[], i, rest, rfl, harr, hpath, fun _ hk => absurd hk List.not_mem_nil⟩
      · refine hlater _ h fun addr₁ harr₁ => ?_
        rw [← Option.some.inj (harr.symm.trans harr₁)]
        exact Bool.eq_false_iff.mpr hpath

theorem search_le (l : List Nat) (minFreePos : Nat) :
    (S.search path l minFreePos).2 ≤ minFreePos := by
  induction l generalizing minFreePos with
  | nil => exact le_refl _
  | cons i rest ih =>
    cases harr : S.sessionArr i with
    | none =>
      rw [search_none_cons harr]
      split_ifs with hlt
      · exact (ih i).trans (Nat.le_of_lt hlt)
      · exact ih minFreePos
    | some addr =>
      rw [search_some_cons harr]
      split_ifs
      · exact le_refl _
      · exact ih minFreePos

theorem search_free {l : List Nat} {minFreePos i : Nat}
    (h : (S.search path l minFreePos).1 = none) (hi : i ∈ l) (hfree : S.sessionArr i = none) :
    (S.search path l minFreePos).2 ≤ i := by
  induction l generalizing minFreePos with
  | nil => exact absurd hi List.not_mem_nil
  | cons k rest ih =>
    cases harr : S.sessionArr k with
    | none =>
      rw [search_none_cons harr] at h ⊢
      obtain rfl | hi := List.mem_cons.mp hi
      · split_ifs with hlt
        · exact search_le rest i
        · exact (search_le rest minFreePos).trans (Nat.not_lt.mp hlt)
      · exact ih h hi
    | some addr =>
      rw [search_some_cons harr] at h ⊢
      split_ifs at h ⊢
      refine ih h ((List.mem_cons.mp hi).resolve_left ?_)
      rintro rfl
      exact absurd (hfree.symm.trans harr) (by simp)

theorem hasPath_iff {addr : Nat} {s : Session} (hs : S.heap addr = some s) :
    S.hasPath addr path = true ↔ path <+: s.filename := by
  rw [hasPath, hs, List.isPrefixOf_iff_prefix]

theorem mem_before_range {n i k : Nat} {before after : List Nat}
    (h : List.range n = before ++ i :: after) (hk : k < i) : k ∈ before := by
  have hsorted := List.pairwise_lt_range (n := n)
  have hi : i < n := List.mem_range.mp (h ▸ by simp)
  have hmem : k ∈ before ++ i :: after := h ▸ List.mem_range.mpr (hk.trans hi)
  rw [h, List.pairwise_append, List.pairwise_cons] at hsorted
  obtain hmem | hmem := List.mem_append.mp hmem
  · exact hmem
  · obtain rfl | hmem := List.mem_cons.mp hmem
    · exact absurd hk (Nat.lt_irrefl k)
    · exact absurd (hsorted.2.1.1 k hmem) (Nat.not_lt.mpr (Nat.le_of_lt hk))

theorem Linked.search_cases (h : S.Linked) (path : List UInt8) :
    (∃ i addr s pos, S.First path i addr s ∧
      S.search path (List.range FILEMAX) FILEMAX = (some addr, pos)) ∨
    (S.NoMatch path ∧ ∃ pos, S.search path (List.range FILEMAX) FILEMAX = (none, pos) ∧
      (pos < FILEMAX ∧ S.sessionArr pos = none ∨ pos = FILEMAX ∧ S.Full)) := by
  rcases hsearch : S.search path (List.range FILEMAX) FILEMAX with ⟨_ | addr, pos⟩
  · right
    obtain ⟨hnone, hpos⟩ := search_none hsearch
    refine ⟨fun i hi addr s harr hs hstarts => ?_, pos, rfl, ?_⟩
    · have hmiss := hnone i (List.mem_range.mpr hi) addr harr
      rw [(hasPath_iff hs).mpr hstarts] at hmiss
      exact absurd hmiss (by decide)
    · obtain hpos | ⟨hmem, hfree⟩ := hpos
      · refine Or.inr ⟨hpos, fun i hi hfree => ?_⟩
        have hfound : (S.search path (List.range FILEMAX) FILEMAX).1 = none := by rw [hsearch]
        have hle := search_free hfound (List.mem_range.mpr hi) hfree
        rw [hsearch] at hle
        dsimp only at hle
        omega
      · exact Or.inl ⟨List.mem_range.mp hmem, hfree⟩
  · left
    obtain ⟨before, i, after, hl, harr, hpath, hbefore⟩ := search_some hsearch
    obtain ⟨hi, s, hs, -⟩ := h.table i addr harr
    refine ⟨i, addr, s, pos, ⟨hi, harr, hs, (hasPath_iff hs).mp hpath, ?_⟩, rfl⟩
    intro k hk addr' s' harr' hs' hstarts
    have hmiss := hbefore k (mem_before_range hl hk) addr' harr'
    rw [(hasPath_iff hs').mpr hstarts] at hmiss
    exact absurd hmiss (by decide)

end Server

/-! ## What a call comes to -/

namespace Session

def Vacant (s : Session) : Prop := ∃ j < CLIENTMAX, (s.clientinfo j).sd = -1

theorem firstFree_eq (s : Session) :
    s.firstFree (List.range CLIENTMAX) = .ok s.getFreeClientinfo := by
  unfold getFreeClientinfo
  suffices hscan : ∀ l : List Nat, (∀ j ∈ l, j < CLIENTMAX) →
      s.firstFree l = .ok (l.find? fun j => (s.clientinfo j).sd == -1) from
    hscan _ fun j hj => List.mem_range.mp hj
  intro l hl
  induction l with
  | nil => rfl
  | cons j rest ih =>
    have hrest := ih fun k hk => hl k (List.mem_cons_of_mem j hk)
    have hcheck : s.firstFree (j :: rest) =
        if (s.clientinfo j).sd = -1 then .ok (some j) else s.firstFree rest := by
      rw [firstFree, slot, if_pos (hl j List.mem_cons_self)]
      rfl
    rw [hcheck, hrest, List.find?_cons]
    by_cases hfree : (s.clientinfo j).sd = -1
    · rw [if_pos hfree, beq_iff_eq.mpr hfree]
    · rw [if_neg hfree, beq_false_of_ne hfree]

theorem getFreeClientinfo_eq_none {s : Session} : s.getFreeClientinfo = none ↔ ¬ s.Vacant := by
  simp [getFreeClientinfo, Vacant]

theorem Counted.vacant_iff {s : Session} {addr : Nat} (h : s.Counted addr) :
    s.Vacant ↔ s.count < CLIENTMAX := by
  have hfull : used (fun c : Clientinfo => c.sd ≠ -1) s.clientinfo CLIENTMAX = CLIENTMAX ↔
      ∀ j < CLIENTMAX, (s.clientinfo j).sd ≠ -1 := Nat.count_iff_forall
  have hle := used_le (p := fun c : Clientinfo => c.sd ≠ -1) s.clientinfo CLIENTMAX
  rw [h.count]
  constructor
  · rintro ⟨j, hj, hfree⟩
    by_contra hall
    exact hfull.mp (by omega) j hj hfree
  · intro hlt
    by_contra hno
    have hused := hfull.mpr fun j hj hfree => hno ⟨j, hj, hfree⟩
    omega

end Session

namespace Server

variable {S : Server}

/-- The server after a join. -/
def joined (S : Server) (addr j : Nat) (s : Session) (a : AddArgs) (audioType : AudioE)
    (mem : Fresh) : Server :=
  (S.setSession addr { s.setSlot j (setClient a audioType mem j (s.clientinfo j)) with
    count := s.count + 1 }).addSum 1

/-- The four ends of a call. -/
inductive CallEnds (S : Server) (addr : Nat) (a : AddArgs) (audioType : AudioE) (mem : Fresh) :
    Except Outside (Int × Server) → Prop where
  | joins {i addr' : Nat} {s : Session} (hfirst : S.First a.pathFilename i addr' s) {j : Nat}
      (hj : j < CLIENTMAX) (hfree : (s.clientinfo j).sd = -1) :
      CallEnds S addr a audioType mem (.ok (1, S.joined addr' j s a audioType mem))
  | rejects {i addr' : Nat} {s : Session} (hfirst : S.First a.pathFilename i addr' s)
      (hfull : ¬ s.Vacant) : CallEnds S addr a audioType mem (.ok (-1, S))
  | creates (hno : S.NoMatch a.pathFilename) {pos : Nat} (hpos : pos < FILEMAX)
      (hfree : S.sessionArr pos = none) : CallEnds S addr a audioType mem
        (.ok (1, (S.addSession addr pos a audioType mem).addSum 1))
  | overruns (hno : S.NoMatch a.pathFilename) (hfull : S.Full) :
      CallEnds S addr a audioType mem (.error .sessionArr)

theorem joinAt_eq {addr : Nat} {s : Session} (hs : S.heap addr = some s) (a : AddArgs)
    (audioType : AudioE) (mem : Fresh) : S.joinAt addr a audioType mem =
      s.getFreeClientinfo.elim (.ok (-1, S)) fun j => (s.slot j).map fun c =>
        (1, (S.setSession addr { s.setSlot j (setClient a audioType mem j c) with
          count := s.count + 1 }).addSum 1) := by
  have hsession : S.session addr = .ok s := by
    rw [session, hs]
    rfl
  rw [joinAt, hsession, ok_bind, s.firstFree_eq, ok_bind]
  cases s.getFreeClientinfo with
  | none => rfl
  | some j =>
    rw [Option.elim_some]
    show s.slot j >>= _ = _
    cases s.slot j <;> rfl

theorem Linked.call_ends (h : S.Linked) (addr : Nat) (a : AddArgs) (audioType : AudioE)
    (mem : Fresh) : S.CallEnds addr a audioType mem (S.addClientCall addr a audioType mem) := by
  have hconclude : S.addClientCall addr a audioType mem = S.conclude addr a audioType mem
      (S.search a.pathFilename (List.range FILEMAX) FILEMAX) := by
    rw [addClientCall, h.find_eq a.pathFilename fun i hi => List.mem_range.mp hi, ok_bind]
  rw [hconclude]
  obtain ⟨i, addr', s, pos, hfirst, hsearch⟩ | ⟨hno, pos, hsearch, hpos⟩ :=
    h.search_cases a.pathFilename
  · rw [hsearch, conclude, joinAt_eq hfirst.session]
    cases hfree : s.getFreeClientinfo with
    | none => exact .rejects hfirst (Session.getFreeClientinfo_eq_none.mp hfree)
    | some j =>
      obtain ⟨hj, hsd⟩ := Session.getFreeClientinfo_spec hfree
      rw [Option.elim_some, Session.slot, if_pos hj]
      exact .joins hfirst hj hsd
  · rw [hsearch, conclude, createAt]
    obtain ⟨hlt, hfree⟩ | ⟨rfl, hfull⟩ := hpos
    · rw [if_pos hlt]
      exact .creates hno hlt hfree
    · rw [if_neg (Nat.lt_irrefl _)]
      exact .overruns hno hfull

/-! ## The limits -/

/-- The session to join is full, or a new one is needed and the table is full. -/
def TurnsAway (S : Server) (path : List UInt8) : Prop :=
  (∃ i addr s, S.First path i addr s ∧ ¬ s.Vacant) ∨ (S.NoMatch path ∧ S.Full)

/-- The call stays in bounds, returns -1 exactly for a client that has to be turned away, and then
changes nothing. -/
def KeepsLimits (S : Server) (addr : Nat) (a : AddArgs) (audioType : AudioE) (mem : Fresh) : Prop :=
  ∃ ret S', S.addClientCall addr a audioType mem = .ok (ret, S') ∧
    (ret = -1 ↔ S.TurnsAway a.pathFilename) ∧ (ret = -1 → S' = S)

/-- **`addClient` keeps its limits exactly if** some file name starts with the path or the table has
a free entry. -/
theorem keepsLimits_iff (h : Reach step anyStep init S) (addr : Nat) (a : AddArgs)
    (audioType : AudioE) (mem : Fresh) : S.KeepsLimits addr a audioType mem ↔
      ¬ S.NoMatch a.pathFilename ∨ ∃ i < FILEMAX, S.sessionArr i = none := by
  have hlinked := (consistent_reachable S h).linked
  unfold KeepsLimits
  generalize hcall : S.addClientCall addr a audioType mem = call
  have hends := hlinked.call_ends addr a audioType mem
  rw [hcall] at hends
  cases hends with
  | @joins i addr' s hfirst j hj hfree =>
    refine iff_of_true ⟨_, _, rfl, ?_, fun hret => absurd hret (by decide)⟩
      (Or.inl hfirst.not_noMatch)
    refine iff_of_false (by decide) ?_
    rintro (⟨i', addr₁, s₁, hfirst₁, hfull⟩ | ⟨hno, -⟩)
    · rw [(hfirst.unique hfirst₁).2] at hfull
      exact hfull ⟨j, hj, hfree⟩
    · exact hfirst.not_noMatch hno
  | rejects hfirst hfull =>
    exact iff_of_true ⟨_, _, rfl, iff_of_true rfl (Or.inl ⟨_, _, _, hfirst, hfull⟩), fun _ => rfl⟩
      (Or.inl hfirst.not_noMatch)
  | @creates hno pos hpos hfree =>
    refine iff_of_true ⟨_, _, rfl, ?_, fun hret => absurd hret (by decide)⟩
      (Or.inr ⟨pos, hpos, hfree⟩)
    refine iff_of_false (by decide) ?_
    rintro (⟨i, addr', s, hfirst, -⟩ | ⟨-, hfull⟩)
    · exact hfirst.not_noMatch hno
    · exact hfull pos hpos hfree
  | overruns hno hfull =>
    refine iff_of_false ?_ ?_
    · rintro ⟨ret, S', hok, -⟩
      exact absurd hok (by simp)
    · rintro (hmatch | ⟨i, hi, hfree⟩)
      · exact hmatch hno
      · exact hfull i hi hfree

/-! ## The file that was asked for -/

/-- The call puts the client into a slot, which was free, of a session for its path, and this
session was there before exactly if there was one for the path. -/
def Serves (S : Server) (addr : Nat) (a : AddArgs) (audioType : AudioE) (mem : Fresh) : Prop :=
  ∃ S' addr' s' j, S.addClientCall addr a audioType mem = .ok (1, S') ∧
    S'.heap addr' = some s' ∧ s'.filename = a.pathFilename ∧ j < CLIENTMAX ∧
    (∀ s, S.heap addr' = some s → (s.clientinfo j).sd = -1) ∧
    (s'.clientinfo j).sd = a.clientSockFd ∧
    ((∃ s, S.heap addr' = some s) ↔ ∃ addr₁ s₁, S.heap addr₁ = some s₁ ∧
      s₁.filename = a.pathFilename)

theorem Linked.noMatch (h : S.Linked) {path : List UInt8} (hno : S.NoMatch path) {addr : Nat}
    {s : Session} (hs : S.heap addr = some s) : s.filename ≠ path := by
  rintro rfl
  have harr := h.heap addr s hs
  exact hno s.pos (h.table _ _ harr).1 addr s harr hs (List.prefix_refl _)

theorem First.served {path : List UInt8} {i addr' : Nat} {s : Session}
    (hfirst : S.First path i addr' s) (hlinked : S.Linked) {addr : Nat}
    {a : AddArgs} (hpath : a.pathFilename = path) (hsd : 0 < a.clientSockFd) {audioType : AudioE}
    {mem : Fresh} (hserves : S.Serves addr a audioType mem) : s.filename = path ∧ s.Vacant := by
  subst hpath
  obtain ⟨S', addr₁, s₁, j₁, hok, hs₁, hname, -, hbefore, hafter, -⟩ := hserves
  have hends := hlinked.call_ends addr a audioType mem
  rw [hok] at hends
  generalize hret : (1 : Int) = ret at hends
  cases hends with
  | @joins i₂ addr₂ s₂ hfirst₂ j hj hfree =>
    obtain ⟨rfl, rfl⟩ := hfirst₂.unique hfirst
    rw [joined, addSum, setSession_heap] at hs₁
    split_ifs at hs₁ with haddr
    · rw [← Option.some.inj hs₁] at hname
      exact ⟨hname, j, hj, hfree⟩
    · -- nothing changes in the other sessions
      have hsame := hbefore s₁ hs₁
      omega
  | rejects => exact absurd hret (by decide)
  | creates hno => exact absurd hno hfirst.not_noMatch

/-- **The client is served from the file it asked for exactly if** the first session whose file name
starts with its path is the one for its path and has a free slot, or, if there is none, the table
has a free entry. -/
theorem serves_iff (h : Reach step anyStep init S) {addr : Nat} (hnew : S.heap addr = none)
    {a : AddArgs} (hsd : 0 < a.clientSockFd) (audioType : AudioE) (mem : Fresh) :
    S.Serves addr a audioType mem ↔
      (∃ i addr' s, S.First a.pathFilename i addr' s ∧ s.filename = a.pathFilename ∧ s.Vacant) ∨
        (S.NoMatch a.pathFilename ∧ ∃ i < FILEMAX, S.sessionArr i = none) := by
  have hlinked := (consistent_reachable S h).linked
  unfold Serves
  generalize hcall : S.addClientCall addr a audioType mem = call
  have hends := hlinked.call_ends addr a audioType mem
  rw [hcall] at hends
  cases hends with
  | @joins i addr' s hfirst j hj hfree =>
    refine ⟨fun hserves => ?_, ?_⟩
    · have hserved : S.Serves addr a audioType mem := by
        rw [Serves, hcall]
        exact hserves
      obtain ⟨hname, hvacant⟩ := hfirst.served hlinked rfl hsd hserved
      exact Or.inl ⟨i, addr', s, hfirst, hname, hvacant⟩
    · rintro (⟨i₁, addr₁, s₁, hfirst₁, hname, -⟩ | ⟨hno, -⟩)
      · obtain ⟨rfl, rfl⟩ := hfirst.unique hfirst₁
        refine ⟨_, addr₁, _, j, rfl, (setSession_heap _ _ _ _).trans (if_pos rfl), hname, hj,
          ?_, ?_, iff_of_true ⟨s₁, hfirst.session⟩ ⟨addr₁, s₁, hfirst.session, hname⟩⟩
        · intro s₂ hs₂
          rw [← Option.some.inj (hfirst.session.symm.trans hs₂)]
          exact hfree
        · show ((s₁.setSlot j _).clientinfo j).sd = _
          rw [Session.setSlot_self, Session.setClient_sd]
      · exact absurd hno hfirst.not_noMatch
  | @rejects i addr' s hfirst hfull =>
    refine iff_of_false ?_ ?_
    · rintro ⟨S', addr₁, s₁, j₁, hok, -⟩
      exact absurd (Prod.mk.inj (Except.ok.inj hok)).1 (by decide)
    · rintro (⟨i₁, addr₁, s₁, hfirst₁, -, hvacant⟩ | ⟨hno, -⟩)
      · rw [(hfirst.unique hfirst₁).2] at hvacant
        exact hfull hvacant
      · exact hfirst.not_noMatch hno
  | @creates hno pos hpos hfree =>
    refine iff_of_true ⟨_, addr, _, 0, rfl, (addSession_heap addr).trans (if_pos rfl), rfl,
      by decide, ?_, ?_, iff_of_false ?_ ?_⟩ (Or.inr ⟨hno, pos, hpos, hfree⟩)
    · exact fun s hs => absurd (hnew.symm.trans hs) (by simp)
    · simp only [Session.create, Function.update_self]
      exact Session.setClient_sd _ _ _ _ _
    · rintro ⟨s, hs⟩
      exact absurd (hnew.symm.trans hs) (by simp)
    · rintro ⟨addr₁, s₁, hs₁, hname⟩
      exact hlinked.noMatch hno hs₁ hname
  | overruns hno hfull =>
    refine iff_of_false ?_ ?_
    · rintro ⟨S', addr₁, s₁, j₁, hok, -⟩
      exact absurd hok (by simp)
    · rintro (⟨i, addr', s, hfirst, -⟩ | ⟨-, i, hi, hfree⟩)
      · exact hfirst.not_noMatch hno
      · exact hfull i hi hfree

/-! ## Tables with many sessions -/

def fileName (i : Nat) : List UInt8 :=
  str "mp4path/" ++ [UInt8.ofNat (0x41 + i / 64), UInt8.ofNat (0x30 + i % 64)]

def player (i : Nat) : AddArgs := { tcpPlayer (5 + i) with pathFilename := fileName i }

theorem fileName_inj {i k : Nat} (hi : i ≤ FILEMAX) (hk : k ≤ FILEMAX)
    (h : fileName i <+: fileName k) : i = k := by
  have hsame := List.append_cancel_left (h.eq_of_length (by simp [fileName]) :
    fileName i = fileName k)
  simp only [List.cons.injEq, and_true] at hsame
  have hhigh := congrArg UInt8.toNat hsame.1
  have hlow := congrArg UInt8.toNat hsame.2
  simp only [UInt8.toNat_ofNat'] at hhigh hlow
  unfold FILEMAX at hi hk
  omega

/-- The first `n` entries have sessions, one for each file and with one client. -/
structure Filled (n : Nat) (S : Server) : Prop where
  used : ∀ i < n, S.sessionArr i = some i ∧
    ∃ s, S.heap i = some s ∧ s.filename = fileName i ∧ s.count = 1
  free : ∀ i, n ≤ i → S.sessionArr i = none ∧ S.heap i = none

theorem Filled.noMatch {n : Nat} (h : S.Filled n) (hn : n ≤ FILEMAX) : S.NoMatch (fileName n) := by
  intro i hi addr s harr hs hstarts
  by_cases hin : i < n
  · obtain ⟨harr', s', hs', hname, -⟩ := h.used i hin
    obtain rfl := Option.some.inj (harr'.symm.trans harr)
    obtain rfl := Option.some.inj (hs'.symm.trans hs)
    rw [hname] at hstarts
    exact absurd (fileName_inj hn hi.le hstarts) (by omega)
  · exact absurd ((h.free i (by omega)).1.symm.trans harr) (by simp)

theorem Filled.next {n : Nat} (h : S.Filled n) (hlinked : S.Linked) (hn : n < FILEMAX) :
    ∃ S', S.step (.addClient n (player n) .aac zeroFresh) = some S' ∧ S'.Filled (n + 1) := by
  obtain ⟨hentry, hheap⟩ := h.free n (le_refl n)
  have hsearch : S.search (fileName n) (List.range FILEMAX) FILEMAX = (none, n) := by
    obtain ⟨i, addr, s, pos, hfirst, -⟩ | ⟨-, pos, hsearch, hpos⟩ :=
      hlinked.search_cases (fileName n)
    · exact absurd (h.noMatch hn.le) hfirst.not_noMatch
    · have hle := search_free (S := S) (by rw [hsearch]) (List.mem_range.mpr hn) hentry
      rw [hsearch] at hle ⊢
      dsimp only at hle
      obtain ⟨-, hfree⟩ | ⟨rfl, -⟩ := hpos
      · by_cases hlt : pos < n
        · exact absurd ((h.used pos hlt).1.symm.trans hfree) (by simp)
        · rw [show pos = n by omega]
      · omega
  have hstep : S.step (.addClient n (player n) .aac zeroFresh) =
      some ((S.addSession n n (player n) .aac zeroFresh).addSum 1) := by
    have hlookup : S.lookup (player n) .aac zeroFresh = (.missing n, S) := by
      rw [lookup]
      show S.enter (player n) .aac zeroFresh (S.search (fileName n) _ _) = _
      rw [hsearch]
      rfl
    rw [step, if_pos (by simp only [player, tcpPlayer]; omega), addClient, hlookup, finish,
      if_pos ⟨hn, by rw [hheap]; rfl⟩]
  refine ⟨_, hstep, fun i hi => ?_, fun i hi => ?_⟩
  · show Function.update S.sessionArr n (some n) i = some i ∧
      ∃ s, (S.addSession n n (player n) .aac zeroFresh).heap i = some s ∧ _
    rw [addSession_heap]
    by_cases hin : i = n
    · rw [if_pos hin, hin, Function.update_self]
      exact ⟨rfl, _, rfl, rfl, rfl⟩
    · rw [if_neg hin, Function.update_of_ne hin]
      exact h.used i (by omega)
  · show Function.update S.sessionArr n (some n) i = none ∧
      (S.addSession n n (player n) .aac zeroFresh).heap i = none
    rw [addSession_heap, if_neg (by omega), Function.update_of_ne (by omega)]
    exact h.free i (by omega)

theorem filled_reachable {n : Nat} (hn : n ≤ FILEMAX) :
    ∃ S, Reach step anyStep init S ∧ S.Filled n := by
  induction n with
  | zero =>
    exact ⟨init, .start, fun i hi => absurd hi (Nat.not_lt_zero i), fun _ _ => ⟨rfl, rfl⟩⟩
  | succ n ih =>
    obtain ⟨S, hreach, hfilled⟩ := ih (by omega)
    obtain ⟨S', hstep, hfilled'⟩ := hfilled.next (consistent_reachable S hreach).linked (by omega)
    exact ⟨S', .next _ hreach trivial hstep, hfilled'⟩

theorem Filled.first {n i : Nat} (h : S.Filled n) (hn : n ≤ FILEMAX) (hi : i < n) :
    ∃ s, S.First (fileName i) i i s ∧ s.filename = fileName i ∧ s.count = 1 := by
  obtain ⟨harr, s, hs, hname, hcount⟩ := h.used i hi
  refine ⟨s, ⟨by omega, harr, hs, hname ▸ List.prefix_refl _, ?_⟩, hname, hcount⟩
  intro k hk addr' s' harr' hs' hstarts
  obtain ⟨harr₁, s₁, hs₁, hname₁, -⟩ := h.used k (by omega)
  obtain rfl := Option.some.inj (harr₁.symm.trans harr')
  obtain rfl := Option.some.inj (hs₁.symm.trans hs')
  rw [hname₁] at hstarts
  exact absurd (fileName_inj (by omega) (by omega) hstarts) (by omega)

theorem Consistent.crowd (h : S.Consistent) {a : AddArgs} (hsd : 0 < a.clientSockFd) {i addr : Nat}
    {s : Session} (hfirst : S.First a.pathFilename i addr s) (hcount : s.count < CLIENTMAX)
    (addr' : Nat) (audioType : AudioE) (mem : Fresh) :
    ∃ S' s', S.step (.addClient addr' a audioType mem) = some S' ∧
      S'.First a.pathFilename i addr s' ∧ s'.count = s.count + 1 := by
  have hvacant := (h.sessions addr s hfirst.session).1.vacant_iff.mpr hcount
  obtain ⟨j, hj⟩ := Option.ne_none_iff_exists'.mp
    (mt Session.getFreeClientinfo_eq_none.mp (not_not.mpr hvacant))
  let s' : Session := { s.setSlot j (setClient a audioType mem j (s.clientinfo j)) with
    count := s.count + 1 }
  have hjoin : s.join a audioType mem = some (j, s') := by
    rw [Session.join, hj]
    rfl
  have hlookup : S.lookup a audioType mem = (.joined addr j, S.setSession addr s') := by
    obtain ⟨i₁, addr₁, s₁, pos, hfirst₁, hsearch⟩ | ⟨hno, -⟩ :=
      h.linked.search_cases a.pathFilename
    · obtain ⟨rfl, rfl⟩ := hfirst.unique hfirst₁
      rw [lookup, hsearch, enter, hfirst.session, Option.bind_some, hjoin]
    · exact absurd hno hfirst.not_noMatch
  refine ⟨(S.setSession addr s').addSum 1, s', ?_, ⟨hfirst.lt, hfirst.entry, ?_, hfirst.starts, ?_⟩,
    rfl⟩
  · rw [Server.step, if_pos hsd, Server.addClient, hlookup, finish]
  · exact (setSession_heap S addr s' addr).trans (if_pos rfl)
  · intro k hk addr₁ s₁ harr₁ hs₁
    replace hs₁ : (S.setSession addr s').heap addr₁ = some s₁ := hs₁
    rw [setSession_heap] at hs₁
    split_ifs at hs₁ with haddr
    · obtain rfl := Option.some.inj hs₁
      exact hfirst.least k hk addr₁ s harr₁ (haddr ▸ hfirst.session)
    · exact hfirst.least k hk addr₁ s₁ harr₁ hs₁

theorem crowded_reachable {n : Nat} (hn : 1 ≤ n) (hmax : n ≤ CLIENTMAX) :
    ∃ S s, Reach step anyStep init S ∧ S.First (fileName 1) 1 1 s ∧ s.count = n := by
  induction n, hn using Nat.le_induction with
  | base =>
    obtain ⟨S, hreach, hfilled⟩ := filled_reachable (show 2 ≤ FILEMAX by decide)
    obtain ⟨s, hfirst, -, hcount⟩ := hfilled.first (by decide) (show 1 < 2 by decide)
    exact ⟨S, s, hreach, hfirst, hcount⟩
  | succ n hn ih =>
    obtain ⟨S, s, hreach, hfirst, hcount⟩ := ih (by omega)
    obtain ⟨S', s', hstep, hfirst', hcount'⟩ := (consistent_reachable S hreach).crowd
      (a := player 1) (by decide) hfirst (by omega) 2 .aac zeroFresh
    exact ⟨S', s', .next _ hreach trivial hstep, hfirst', by rw [hcount', hcount]; rfl⟩

/-- A client for a new file is let in past two sessions, and one for a full session is turned
away. -/
theorem keepsLimits_crowded :
    (∃ S, Reach step anyStep init S ∧ S.Filled 2 ∧ S.KeepsLimits 2 (player 2) .aac zeroFresh) ∧
      ∃ S s, Reach step anyStep init S ∧ S.First (fileName 1) 1 1 s ∧ ¬ s.Vacant ∧
        S.KeepsLimits 2 (player 1) .aac zeroFresh := by
  constructor
  · obtain ⟨S, hreach, hfilled⟩ := filled_reachable (show 2 ≤ FILEMAX by decide)
    exact ⟨S, hreach, hfilled, (keepsLimits_iff hreach 2 (player 2) .aac zeroFresh).mpr
      (Or.inr ⟨2, by decide, (hfilled.free 2 (le_refl 2)).1⟩)⟩
  · obtain ⟨S, s, hreach, hfirst, hcount⟩ :=
      crowded_reachable (show 1 ≤ CLIENTMAX by decide) (le_refl CLIENTMAX)
    have hfull := ((consistent_reachable S hreach).sessions 1 s hfirst.session).1.vacant_iff
    exact ⟨S, s, hreach, hfirst, fun hvacant => by have := hfull.mp hvacant; omega,
      (keepsLimits_iff hreach 2 (player 1) .aac zeroFresh).mpr (Or.inl hfirst.not_noMatch)⟩

/-- A new session for a full table is written behind it. -/
theorem not_keepsLimits : ∃ S, Reach step anyStep init S ∧
    S.addClientCall FILEMAX (player FILEMAX) .aac zeroFresh = .error .sessionArr ∧
    ¬ S.KeepsLimits FILEMAX (player FILEMAX) .aac zeroFresh := by
  obtain ⟨S, hreach, hfilled⟩ := filled_reachable (le_refl FILEMAX)
  have hno : S.NoMatch (player FILEMAX).pathFilename := hfilled.noMatch (le_refl FILEMAX)
  have hcall : S.addClientCall FILEMAX (player FILEMAX) .aac zeroFresh = .error .sessionArr := by
    have hends := (consistent_reachable S hreach).linked.call_ends FILEMAX (player FILEMAX) .aac
      zeroFresh
    generalize S.addClientCall FILEMAX (player FILEMAX) .aac zeroFresh = call at hends ⊢
    cases hends with
    | joins hfirst => exact absurd hno hfirst.not_noMatch
    | rejects hfirst => exact absurd hno hfirst.not_noMatch
    | creates _ hpos hfree => exact absurd ((hfilled.used _ hpos).1.symm.trans hfree) (by simp)
    | overruns => rfl
  refine ⟨S, hreach, hcall, ?_⟩
  rintro ⟨ret, S', hok, -⟩
  exact absurd (hcall.symm.trans hok) (by simp)

/-- While two files are played, a client for the second one joins its session, and one for a third
file gets a new session. -/
theorem serves_filled : ∃ S, Reach step anyStep init S ∧ S.Filled 2 ∧
    S.Serves 2 (player 1) .aac zeroFresh ∧ S.Serves 2 (player 2) .aac zeroFresh := by
  obtain ⟨S, hreach, hfilled⟩ := filled_reachable (show 2 ≤ FILEMAX by decide)
  obtain ⟨s, hfirst, hname, hcount⟩ := hfilled.first (by decide) (show 1 < 2 by decide)
  have hvacant := ((consistent_reachable S hreach).sessions 1 s hfirst.session).1.vacant_iff.mpr
    (by rw [hcount]; decide)
  obtain ⟨hentry, hnew⟩ := hfilled.free 2 (le_refl 2)
  refine ⟨S, hreach, hfilled, ?_, ?_⟩
  · exact (serves_iff hreach hnew (by decide) .aac zeroFresh).mpr
      (Or.inl ⟨1, 1, s, hfirst, hname, hvacant⟩)
  · exact (serves_iff hreach hnew (by decide) .aac zeroFresh).mpr
      (Or.inr ⟨hfilled.noMatch (by decide), 2, by decide, hentry⟩)

/-- A client that asks for `mp4path/A` while `mp4path/A0` is played. -/
theorem not_serves : ∃ S, Reach step anyStep init S ∧ S.heap 1 = none ∧
    ¬ S.Serves 1 { tcpPlayer 6 with pathFilename := str "mp4path/A" } .aac zeroFresh := by
  obtain ⟨S, hreach, hfilled⟩ := filled_reachable (show 1 ≤ FILEMAX by decide)
  have hlinked := (consistent_reachable S hreach).linked
  obtain ⟨harr, s, hs, hname, -⟩ := hfilled.used 0 (by decide)
  have hfirst : S.First (str "mp4path/A") 0 0 s :=
    ⟨by decide, harr, hs, hname ▸ by decide, fun k hk => absurd hk (Nat.not_lt_zero k)⟩
  refine ⟨S, hreach, (hfilled.free 1 (le_refl 1)).2, fun hserves => ?_⟩
  have hsame := (hfirst.served hlinked rfl (by decide) hserves).1
  rw [hname] at hsame
  exact absurd hsame (by decide)

end Server

end SimpleRtsp

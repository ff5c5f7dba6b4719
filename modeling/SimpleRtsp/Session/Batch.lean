import SimpleRtsp.Session.Events

/-!
# A batch of events

A client over UDP may own two events of one batch. If the first makes it leave, and it is the last
client of its session, the session is freed and the second event still points into it
(`init_dangling`). `Recorded` and `Accounted` hold in every run: no record of the batch is freed
before its event is processed, and a client whose departure was counted plays nowhere. In a run that
frees no session while an event of one of its clients is pending, the epoll thread follows no
dangling pointer, and in any other run it does so before the batch is processed (`safe_batch`).
-/

namespace SimpleRtsp

namespace Poll

/-- Each descriptor has a record of its own, and so has each event of the batch. -/
structure Recorded (s : Poll) : Prop where
  below : ∀ fd r, s.interest fd = some r → r < s.next
  apart : ∀ fd fd' r, s.interest fd = some r → s.interest fd' = some r → fd = fd'
  pending : ∀ e ∈ s.batch, e.1 < s.next
  once : (s.batch.map Prod.fst).Nodup
  freed : ∀ r ∈ s.freedRecords, r ∉ s.batch.map Prod.fst
  current : s.conc.epoll ≠ .idle → s.epollData ∉ s.batch.map Prod.fst

/-- Whoever plays has not left, and plays in one slot. -/
structure Accounted (s : Poll) : Prop where
  here : ∀ addr j, s.conc.server.Plays addr j →
    s.client addr j ∉ s.departed ∧ s.conc.Settled (s.client addr j)
  distinct : ∀ addr j addr' j', s.conc.server.Plays addr j → s.conc.server.Plays addr' j' →
    s.client addr j = s.client addr' j' → addr = addr' ∧ j = j'
  gone : ∀ id ∈ s.departed, s.conc.Settled id
  nodup : s.departed.Nodup

structure Ok (s : Poll) : Prop where
  sound : s.conc.Sound
  firm : s.conc.Firm
  recorded : s.Recorded
  accounted : s.Accounted

theorem ok_init : init.Ok where
  sound := Conc.sound_init
  firm := Conc.firm_init
  recorded :=
    { below := fun _ _ h => by cases h
      apart := fun _ _ _ h => by cases h
      pending := fun _ h => by cases h
      once := List.nodup_nil
      freed := fun _ h => by cases h
      current := fun h => absurd rfl h }
  accounted :=
    { here := fun _ _ ⟨_, hs, _⟩ => by cases hs
      distinct := fun _ _ _ _ ⟨_, hs, _⟩ => by cases hs
      gone := fun _ h => by cases h
      nodup := List.nodup_nil }

variable {s s' : Poll} {l : Label}

/-! ## Records -/

theorem Recorded.addFd (h : s.Recorded) (addr j : Nat) (fd : Int) :
    (addFd addr j s fd).Recorded := by
  have hbelow : ∀ fd' r, (Poll.addFd addr j s fd).interest fd' = some r →
      r = s.next ∧ fd' = fd ∨ s.interest fd' = some r := by
    intro fd' r hr
    simp only [Poll.addFd] at hr
    split_ifs at hr with hnew
    · rw [Function.update_apply] at hr
      split_ifs at hr with hfd
      · exact Or.inl ⟨(Option.some.inj hr).symm, hfd⟩
      · exact Or.inr hr
    · exact Or.inr hr
  refine ⟨fun fd' r hr => ?_, fun fd₁ fd₂ r h₁ h₂ => ?_, fun e he => ?_, h.once, h.freed, h.current⟩
  · rcases hbelow fd' r hr with ⟨rfl, -⟩ | hr
    · exact Nat.lt_succ_self _
    · exact Nat.lt_succ_of_lt (h.below fd' r hr)
  · rcases hbelow fd₁ r h₁ with ⟨hr₁, hfd₁⟩ | hold₁
    · rcases hbelow fd₂ r h₂ with ⟨-, hfd₂⟩ | hold₂
      · exact hfd₁.trans hfd₂.symm
      · exact absurd (h.below fd₂ r hold₂) (by omega)
    · rcases hbelow fd₂ r h₂ with ⟨hr₂, -⟩ | hold₂
      · exact absurd (h.below fd₁ r hold₁) (by omega)
      · exact h.apart fd₁ fd₂ r hold₁ hold₂
  · exact Nat.lt_succ_of_lt (h.pending e he)

theorem Recorded.eventAdd (h : s.Recorded) (addr j : Nat) (fds : List Int) :
    (s.eventAdd addr j fds).Recorded := by
  induction fds generalizing s with
  | nil => exact h
  | cons fd fds ih => exact ih (h.addFd addr j fd)

theorem Recorded.shrink (h : s.Recorded) (hnext : s'.next = s.next) (hbatch : s'.batch = s.batch)
    (hdata : s'.epollData = s.epollData)
    (hinterest : ∀ fd r, s'.interest fd = some r → s.interest fd = some r)
    (hfreed : ∀ r ∈ s'.freedRecords, r ∉ s.batch.map Prod.fst)
    (hbusy : s'.conc.epoll ≠ .idle → s.conc.epoll ≠ .idle) : s'.Recorded where
  below fd r hr := hnext ▸ h.below fd r (hinterest fd r hr)
  apart fd fd' r hr hr' := h.apart fd fd' r (hinterest fd r hr) (hinterest fd' r hr')
  pending e he := hnext ▸ h.pending e (hbatch ▸ he)
  once := hbatch ▸ h.once
  freed r hr := hbatch ▸ hfreed r hr
  current hne := by
    rw [hbatch, hdata]
    exact h.current (hbusy hne)

theorem interest_eventDel {fds : List Int} {fd : Int} {r : Nat}
    (h : (s.eventDel fds).interest fd = some r) : s.interest fd = some r := by
  simp only [Poll.eventDel] at h
  split_ifs at h
  exact h

theorem mem_waited {interest : Int → Option Nat} {events : List (Int × BitVec 32)}
    {batch : List (Nat × BitVec 32)}
    (h : events.mapM (fun e => (interest e.1).map fun r => (r, e.2)) = some batch) {r : Nat}
    (hr : r ∈ batch.map Prod.fst) : ∃ fd ∈ events.map Prod.fst, interest fd = some r := by
  induction events generalizing batch with
  | nil =>
    obtain rfl := Option.some.inj h
    cases hr
  | cons e events ih =>
    rw [List.mapM_cons] at h
    obtain ⟨first, hfirst, h⟩ := Option.bind_eq_some_iff.mp h
    obtain ⟨rest, hrest, h⟩ := Option.bind_eq_some_iff.mp h
    obtain rfl := Option.some.inj h
    obtain ⟨r₁, hr₁, rfl⟩ := Option.map_eq_some_iff.mp hfirst
    rcases List.mem_cons.mp hr with rfl | hr
    · exact ⟨e.1, List.mem_cons_self, hr₁⟩
    · obtain ⟨fd, hfd, hreg⟩ := ih hrest hr
      exact ⟨fd, List.mem_cons_of_mem _ hfd, hreg⟩

theorem nodup_waited (h : s.Recorded) {events : List (Int × BitVec 32)}
    {batch : List (Nat × BitVec 32)} (hnodup : (events.map Prod.fst).Nodup)
    (hbatch : events.mapM (fun e => (s.interest e.1).map fun r => (r, e.2)) = some batch) :
    (batch.map Prod.fst).Nodup := by
  induction events generalizing batch with
  | nil =>
    obtain rfl := Option.some.inj hbatch
    exact List.nodup_nil
  | cons e events ih =>
    rw [List.mapM_cons] at hbatch
    obtain ⟨first, hfirst, hbatch⟩ := Option.bind_eq_some_iff.mp hbatch
    obtain ⟨rest, hrest, hbatch⟩ := Option.bind_eq_some_iff.mp hbatch
    obtain rfl := Option.some.inj hbatch
    obtain ⟨r, hr, rfl⟩ := Option.map_eq_some_iff.mp hfirst
    obtain ⟨hnot, hnodup⟩ := List.nodup_cons.mp hnodup
    refine List.nodup_cons.mpr ⟨fun hmem => ?_, ih hnodup hrest⟩
    obtain ⟨fd, hfd, hreg⟩ := mem_waited hrest hmem
    rw [h.apart fd e.1 r hreg hr] at hfd
    exact hnot hfd

theorem Recorded.store (h : s.Recorded) (id addr j : Nat) : (s.store id addr j).Recorded := by
  have hadd := h.eventAdd addr j (s.fdsAt addr j)
  exact ⟨hadd.below, hadd.apart, hadd.pending, hadd.once, hadd.freed, hadd.current⟩

theorem Recorded.pop (h : s.Recorded) {r : Nat} {events : BitVec 32}
    {rest : List (Nat × BitVec 32)} (hbatch : s.batch = (r, events) :: rest) (c : Conc) :
    ({ s with conc := c, batch := rest, epollData := r } : Poll).Recorded := by
  have hsub : ∀ e ∈ rest, e ∈ s.batch := fun e he => hbatch ▸ List.mem_cons_of_mem _ he
  have honce := h.once
  rw [hbatch, List.map_cons, List.nodup_cons] at honce
  refine ⟨h.below, h.apart, fun e he => h.pending e (hsub e he), honce.2, fun r' hr' hmem => ?_,
    fun _ => honce.1⟩
  obtain ⟨e, he, rfl⟩ := List.mem_map.mp hmem
  exact h.freed _ hr' (List.mem_map_of_mem (hsub e he))

theorem Recorded.does (h : s.Recorded) (hdoes : Does s l s') : s'.Recorded := by
  cases hdoes with
  | moved hmoves hstores hcalls hidle hsession =>
    exact h.shrink rfl rfl rfl (fun _ _ hr => hr) h.freed fun hbusy hepoll => hbusy (hidle hepoll)
  | @stored _ l' c id addr j hmoves hstores hnew hsettled hcalls hepoll =>
    have hconc : ({ s with conc := c } : Poll).Recorded :=
      h.shrink rfl rfl rfl (fun _ _ hr => hr) h.freed fun hbusy => hepoll ▸ hbusy
    exact hconc.store id addr j
  | @waited _ events batch hidle hempty hnodup hbatch =>
    refine ⟨h.below, h.apart, fun e he => ?_, nodup_waited h hnodup hbatch, fun _ hr => ?_,
      fun hbusy => absurd hidle hbusy⟩
    · obtain ⟨fd, -, hreg⟩ := mem_waited hbatch (List.mem_map_of_mem he)
      exact h.below fd _ hreg
    · cases hr
  | skipped hidle hbatch hmask => exact h.pop hbatch s.conc
  | @processed _ r events rest node c hbatch hlive hmoves => exact h.pop hbatch c
  | @left _ addr j failed session c hepoll hs hmoves hserver hsession hcalls hlive =>
    have hbusy : s.conc.epoll ≠ .idle := by
      rw [hepoll]
      exact Epoll.noConfusion
    refine h.shrink rfl rfl rfl (fun _ _ => interest_eventDel) (fun r hr => ?_) fun _ => hbusy
    rcases List.mem_cons.mp hr with rfl | hr
    · exact h.current hbusy
    · exact h.freed r hr
  | @freed addr session c fds hdoomed hs hmoves hheap hsession hcalls =>
    refine h.shrink rfl rfl rfl (fun _ _ => interest_eventDel) h.freed fun _ hidle => ?_
    rw [doomed, hidle] at hdoomed
    cases hdoomed
  | dangled hstale => exact h.shrink rfl rfl rfl (fun _ _ hr => hr) h.freed fun hbusy => hbusy

/-! ## Departures -/

theorem Accounted.mono (h : s.Accounted) (hclient : s'.client = s.client)
    (hdeparted : s'.departed = s.departed)
    (hplays : ∀ addr j, s'.conc.server.Plays addr j → s.conc.server.Plays addr j)
    (hcalls : ∀ id, s.conc.Settled id → s'.conc.Settled id) : s'.Accounted where
  here addr j hj := by
    obtain ⟨hnot, hsettled⟩ := h.here addr j (hplays addr j hj)
    rw [hclient, hdeparted]
    exact ⟨hnot, hcalls _ hsettled⟩
  distinct addr j addr' j' hj hj' hsame := by
    rw [hclient] at hsame
    exact h.distinct addr j addr' j' (hplays addr j hj) (hplays addr' j' hj') hsame
  gone id hid := by
    rw [hdeparted] at hid
    exact hcalls id (h.gone id hid)
  nodup := hdeparted ▸ h.nodup

theorem Accounted.store (h : s.Accounted) (hsound : s.conc.Sound) {l' : Conc.Label} {c : Conc}
    {id addr j : Nat} (hmoves : Conc.Moves s.conc l' c)
    (hstores : s.conc.storesAt l' = some (addr, j)) (hnew : ¬ s.conc.Settled id)
    (hsettled : c.Settled id) (hcalls : ∀ id, s.conc.Settled id → c.Settled id) :
    ({ s with conc := c }.store id addr j : Poll).Accounted := by
  obtain ⟨records, next, interest, heq, -⟩ := store_eq { s with conc := c } id addr j
  rw [heq]
  -- whoever plays is the new client or an old one
  have hplays : ∀ addr' j', c.server.Plays addr' j' →
      addr' = addr ∧ j' = j ∨
        ¬ (addr' = addr ∧ j' = j) ∧ s.conc.server.Plays addr' j' := by
    intro addr' j' hj'
    by_cases hslot : addr' = addr ∧ j' = j
    · exact Or.inl hslot
    · refine Or.inr ⟨hslot, (hsound.plays hmoves hj').resolve_right fun hsome => hslot ?_⟩
      rw [hstores] at hsome
      obtain ⟨rfl, rfl⟩ := Prod.mk.inj (Option.some.inj hsome)
      exact ⟨rfl, rfl⟩
  have hother : ∀ addr' j', s.conc.server.Plays addr' j' → s.client addr' j' ≠ id := by
    rintro addr' j' hj' rfl
    exact hnew (h.here addr' j' hj').2
  refine ⟨fun addr' j' hj' => ?_, fun addr₁ j₁ addr₂ j₂ h₁ h₂ hsame => ?_,
    fun id' hid' => hcalls id' (h.gone id' hid'), h.nodup⟩
  · dsimp only
    rcases hplays addr' j' hj' with hslot | ⟨hslot, hj'⟩
    · rw [if_pos hslot]
      exact ⟨fun hmem => hnew (h.gone id hmem), hsettled⟩
    · rw [if_neg hslot]
      exact ⟨(h.here addr' j' hj').1, hcalls _ (h.here addr' j' hj').2⟩
  · dsimp only at hsame
    rcases hplays addr₁ j₁ h₁ with hslot₁ | ⟨hslot₁, h₁⟩
    · rcases hplays addr₂ j₂ h₂ with hslot₂ | ⟨hslot₂, h₂⟩
      · exact ⟨hslot₁.1.trans hslot₂.1.symm, hslot₁.2.trans hslot₂.2.symm⟩
      · rw [if_pos hslot₁, if_neg hslot₂] at hsame
        exact absurd hsame.symm (hother addr₂ j₂ h₂)
    · rcases hplays addr₂ j₂ h₂ with hslot₂ | ⟨hslot₂, h₂⟩
      · rw [if_neg hslot₁, if_pos hslot₂] at hsame
        exact absurd hsame (hother addr₁ j₁ h₁)
      · rw [if_neg hslot₁, if_neg hslot₂] at hsame
        exact h.distinct addr₁ j₁ addr₂ j₂ h₁ h₂ hsame

theorem Accounted.leave (h : s.Accounted) (slots : List (Nat × Nat)) {c : Conc}
    (hleft : ∀ p ∈ slots, s.conc.server.Plays p.1 p.2) (hnodup : slots.Nodup)
    (hplays : ∀ addr j, c.server.Plays addr j → s.conc.server.Plays addr j ∧ (addr, j) ∉ slots)
    (hcalls : c.calls = s.conc.calls) (hconc : s'.conc = c) (hclient : s'.client = s.client)
    (hdeparted : s'.departed = s.departed ++ slots.map fun p => s.client p.1 p.2) :
    s'.Accounted := by
  have hsettled : ∀ id, s.conc.Settled id → s'.conc.Settled id := fun id hid => by
    rw [hconc, Conc.Settled, hcalls]
    exact hid
  refine ⟨fun addr j hj => ?_, fun addr j addr' j' hj hj' hsame => ?_, fun id hid => ?_, ?_⟩
  · rw [hconc] at hj
    obtain ⟨hbefore, hstays⟩ := hplays addr j hj
    obtain ⟨hnot, hcall⟩ := h.here addr j hbefore
    rw [hclient, hdeparted]
    refine ⟨fun hmem => ?_, hsettled _ hcall⟩
    rcases List.mem_append.mp hmem with hmem | hmem
    · exact hnot hmem
    · obtain ⟨p, hp, hsame⟩ := List.mem_map.mp hmem
      obtain ⟨rfl, rfl⟩ := h.distinct p.1 p.2 addr j (hleft p hp) hbefore hsame
      exact hstays hp
  · rw [hconc] at hj hj'
    rw [hclient] at hsame
    exact h.distinct addr j addr' j' (hplays addr j hj).1 (hplays addr' j' hj').1 hsame
  · rw [hdeparted] at hid
    rcases List.mem_append.mp hid with hid | hid
    · exact hsettled id (h.gone id hid)
    · obtain ⟨p, hp, rfl⟩ := List.mem_map.mp hid
      exact hsettled _ (h.here p.1 p.2 (hleft p hp)).2
  · rw [hdeparted]
    refine List.Nodup.append h.nodup ?_ ?_
    · refine List.Nodup.map_on (fun p hp q hq hsame => ?_) hnodup
      obtain ⟨h₁, h₂⟩ := h.distinct p.1 p.2 q.1 q.2 (hleft p hp) (hleft q hq) hsame
      exact Prod.ext h₁ h₂
    · intro id hid hmem
      obtain ⟨p, hp, rfl⟩ := List.mem_map.mp hmem
      exact (h.here p.1 p.2 (hleft p hp)).1 hid

theorem mem_counted {session : Session} {j : Nat} (h : j ∈ counted session) :
    j < CLIENTMAX ∧ 0 < (session.clientinfo j).sd := by
  obtain ⟨hj, hsd⟩ := List.mem_filter.mp h
  exact ⟨List.mem_range.mp hj, by simpa using hsd⟩

theorem Accounted.does (h : s.Accounted) (hsound : s.conc.Sound) (hfirm : s.conc.Firm)
    (hdoes : Does s l s') : s'.Accounted := by
  cases hdoes with
  | moved hmoves hstores hcalls hidle hsession =>
    refine h.mono rfl rfl (fun addr j hj => ?_) hcalls
    refine (hsound.plays hmoves hj).resolve_right fun hsome => ?_
    rw [hstores] at hsome
    cases hsome
  | stored hmoves hstores hnew hsettled hcalls hepoll =>
    exact h.store hsound hmoves hstores hnew hsettled hcalls
  | waited => exact h.mono rfl rfl (fun _ _ hj => hj) fun _ hid => hid
  | skipped => exact h.mono rfl rfl (fun _ _ hj => hj) fun _ hid => hid
  | processed hbatch hlive hmoves =>
    refine h.mono rfl rfl (fun addr j hj => ?_) fun id hid =>
      hid.moves hmoves fun _ _ _ _ => Conc.Label.noConfusion
    refine (hsound.plays hmoves hj).resolve_right fun hsome => ?_
    cases hsome
  | @left _ addr j failed session c hepoll hs hmoves hserver hsession hcalls hlive =>
    have hplaying : s.conc.server.Plays addr j := hsound.busy addr j (by rw [hepoll]; rfl)
    refine h.leave [(addr, j)] (fun p hp => ?_) (List.nodup_singleton _)
      (fun addr' j' hj' => ?_) hcalls rfl rfl rfl
    · rw [List.mem_singleton.mp hp]
      exact hplaying
    · rw [hserver] at hj'
      refine ⟨hj'.of_setSession_same hs fun i _ hafter => (Session.playing_of_offline hafter).2,
        fun hmem => ?_⟩
      obtain ⟨rfl, rfl⟩ := Prod.mk.inj (List.mem_singleton.mp hmem)
      obtain ⟨s₁, hs₁, -, hafter⟩ := hj'
      rw [Server.setSession_heap, if_pos rfl] at hs₁
      obtain rfl := Option.some.inj hs₁
      exact (Session.playing_of_offline hafter).1 rfl
  | @freed addr session c fds hdoomed hs hmoves hheap hsession hcalls =>
    refine h.leave ((counted session).map fun j => (addr, j)) (fun p hp => ?_) ?_
      (fun addr' j' hj' => ?_) hcalls rfl rfl ?_
    · obtain ⟨j, hj, rfl⟩ := List.mem_map.mp hp
      obtain ⟨hlt, hsd⟩ := mem_counted hj
      exact ⟨session, hs, hlt, hfirm.sds addr session hs j hlt hsd⟩
    · refine List.Nodup.map (fun i j hij => (Prod.mk.inj hij).2) ?_
      exact List.Nodup.filter _ List.nodup_range
    · obtain ⟨s₁, hs₁, hlt, hafter⟩ := hj'
      rw [hheap] at hs₁
      split_ifs at hs₁ with haddr
      refine ⟨⟨s₁, hs₁, hlt, hafter⟩, fun hmem => ?_⟩
      obtain ⟨j, -, hsame⟩ := List.mem_map.mp hmem
      exact haddr (Prod.mk.inj hsame).1.symm
    · simp only [List.map_map, Function.comp_def]
  | dangled => exact h.mono rfl rfl (fun _ _ hj => hj) fun _ hid => hid

/-- **One step**, of any run. -/
theorem Ok.does (h : s.Ok) (hdoes : Does s l s') : s'.Ok := by
  have hrecorded := h.recorded.does hdoes
  have haccounted := h.accounted.does h.sound h.firm hdoes
  cases hdoes with
  | moved hmoves => exact ⟨h.sound.moves hmoves, h.firm.moves h.sound hmoves, hrecorded, haccounted⟩
  | @stored _ l' c id addr j hmoves =>
    have hconc : ({ s with conc := c }.store id addr j : Poll).conc = c := by
      obtain ⟨_, _, _, heq, -⟩ := store_eq { s with conc := c } id addr j
      rw [heq]
    refine ⟨?_, ?_, hrecorded, haccounted⟩
    · rw [hconc]
      exact h.sound.moves hmoves
    · rw [hconc]
      exact h.firm.moves h.sound hmoves
  | waited => exact ⟨h.sound, h.firm, hrecorded, haccounted⟩
  | skipped => exact ⟨h.sound, h.firm, hrecorded, haccounted⟩
  | processed hbatch hlive hmoves =>
    exact ⟨h.sound.moves hmoves, h.firm.moves h.sound hmoves, hrecorded, haccounted⟩
  | left hepoll hs hmoves =>
    exact ⟨h.sound.moves hmoves, h.firm.moves h.sound hmoves, hrecorded, haccounted⟩
  | freed hdoomed hs hmoves =>
    exact ⟨h.sound.moves hmoves, h.firm.moves h.sound hmoves, hrecorded, haccounted⟩
  | dangled => exact ⟨h.sound, h.firm, hrecorded, haccounted⟩

/-! ## Dangling pointers -/

/-- What the epoll thread has pointers to is there. -/
structure Safe (s : Poll) : Prop where
  ok : s.Ok
  alive : ∀ e ∈ s.batch, e.2 &&& EPOLLOUT ≠ 0 → (s.records e.1).addr ∉ s.freedSessions
  session : ∀ addr, s.conc.epoll.session = some addr → addr ∉ s.freedSessions
  dangling : s.dangling = false

theorem safe_init : init.Safe where
  ok := ok_init
  alive _ h := by cases h
  session _ h := by cases h
  dangling := rfl

theorem Safe.not_stale (h : s.Safe) : ¬ s.Stale := by
  rintro (⟨r, events, rest, hbatch, hfreed⟩ | ⟨addr, hsession, hfreed⟩ | ⟨pos, addr, harr, hnone⟩)
  · have hmem : (r, events) ∈ s.batch := hbatch ▸ List.mem_cons_self
    rcases hfreed with hfreed | ⟨hmask, hfreed⟩
    · exact h.ok.recorded.freed r hfreed (List.mem_map_of_mem hmem)
    · exact h.alive _ hmem hmask hfreed
  · exact h.session addr hsession hfreed
  · have hsome := h.ok.firm.entries pos addr harr
    rw [hnone] at hsome
    cases hsome

theorem Safe.does (h : s.Safe) (hspares : s.Spares l) (hdoes : Does s l s') : s'.Safe := by
  have hok := h.ok.does hdoes
  cases hdoes with
  | moved hmoves hstores hcalls hidle hsession =>
    exact ⟨hok, h.alive, fun addr haddr => h.session addr (hsession addr haddr), h.dangling⟩
  | @stored _ l' c id addr j hmoves hstores hnew hsettled hcalls hepoll =>
    obtain ⟨records, next, interest, heq, hold⟩ := store_eq { s with conc := c } id addr j
    rw [heq] at hok ⊢
    refine ⟨hok, fun e he hmask => ?_, fun addr' haddr' => h.session addr' ?_, h.dangling⟩
    · dsimp only
      rw [hold e.1 (h.ok.recorded.pending e he)]
      exact h.alive e he hmask
    · rwa [← hepoll]
  | waited hidle hempty =>
    refine ⟨hok, fun e _ _ => List.not_mem_nil, fun addr haddr => ?_, h.dangling⟩
    rw [hidle] at haddr
    cases haddr
  | skipped hidle hbatch hmask =>
    exact ⟨hok, fun e he => h.alive e (hbatch ▸ List.mem_cons_of_mem _ he), h.session, h.dangling⟩
  | processed hbatch hlive hmoves =>
    refine ⟨hok, fun e he => h.alive e (hbatch ▸ List.mem_cons_of_mem _ he), fun addr haddr => ?_,
      h.dangling⟩
    rcases hmoves.session_event haddr with hbefore | rfl
    · exact h.session addr hbefore
    · exact hlive
  | left hepoll hs hmoves hserver hsession hcalls hlive =>
    exact ⟨hok, h.alive, fun addr' haddr' => hsession addr' haddr' ▸ hlive, h.dangling⟩
  | @freed addr session c fds hdoomed hs hmoves hheap hsession hcalls =>
    refine ⟨hok, fun e he hmask hmem => ?_, fun addr' haddr' => ?_, h.dangling⟩
    · rcases List.mem_cons.mp hmem with hthis | hmem
      · exact hspares addr hdoomed ⟨e, he, hmask, hthis⟩
      · exact h.alive e he hmask hmem
    · rw [hsession] at haddr'
      cases haddr'
  | dangled hstale => exact absurd hstale h.not_stale

/-- A dangling pointer was followed, or the batch still holds one. -/
structure Broken (s : Poll) : Prop where
  ok : s.Ok
  broken : s.dangling = true ∨ ∃ addr ∈ s.freedSessions, s.Pending addr

theorem Broken.does (h : s.Broken) (hdoes : Does s l s') : s'.Broken := by
  refine ⟨h.ok.does hdoes, ?_⟩
  rcases h.broken with hdangling | ⟨addr, hfreed, e, he, hmask, haddr⟩
  · refine Or.inl ?_
    cases hdoes with
    | @stored _ l' c id addr j =>
      obtain ⟨_, _, _, heq, -⟩ := store_eq { s with conc := c } id addr j
      rw [heq]
      exact hdangling
    | dangled => rfl
    | _ => exact hdangling
  · cases hdoes with
    | moved => exact Or.inr ⟨addr, hfreed, e, he, hmask, haddr⟩
    | @stored _ l' c id addr' j =>
      obtain ⟨records, next, interest, heq, hold⟩ := store_eq { s with conc := c } id addr' j
      rw [heq]
      exact Or.inr ⟨addr, hfreed, e, he, hmask,
        (congrArg EpollData.addr (hold e.1 (h.ok.recorded.pending e he))).trans haddr⟩
    | waited hidle hempty =>
      rw [hempty] at he
      cases he
    | skipped hidle hbatch hnot =>
      rw [hbatch] at he
      rcases List.mem_cons.mp he with rfl | he
      · exact absurd hnot hmask
      · exact Or.inr ⟨addr, hfreed, e, he, hmask, haddr⟩
    | processed hbatch hlive =>
      rw [hbatch] at he
      rcases List.mem_cons.mp he with rfl | he
      · rw [haddr] at hlive
        exact absurd hfreed hlive
      · exact Or.inr ⟨addr, hfreed, e, he, hmask, haddr⟩
    | left => exact Or.inr ⟨addr, hfreed, e, he, hmask, haddr⟩
    | freed => exact Or.inr ⟨addr, List.mem_cons_of_mem _ hfreed, e, he, hmask, haddr⟩
    | dangled => exact Or.inl rfl

/-- Freeing a session with a pending event leaves the event in the batch. -/
theorem Ok.broken (hok : s.Ok) (hspares : ¬ s.Spares .delSession)
    (h : s.step .delSession = some s') : s'.Broken := by
  refine ⟨hok.does (does_of_step h), ?_⟩
  simp only [Spares, not_forall, not_not] at hspares
  obtain ⟨addr, hdoomed, e, he, hmask, haddr⟩ := hspares
  replace hdoomed : s.doomed = some addr := hdoomed
  replace h : s.stepDelSession = some s' := h
  rw [stepDelSession] at h
  split at h
  · rename_i addr' pos hepoll
    rcases derefEntry_some h with ⟨-, rfl⟩ | ⟨hsome, hnext⟩
    · exact Or.inl rfl
    · obtain ⟨c, hc, rfl⟩ := Option.map_eq_some_iff.mp hnext
      have harr : s.conc.server.sessionArr pos = some addr := by
        rw [← hdoomed, doomed, hepoll]
      obtain ⟨session, hs⟩ := Option.isSome_iff_exists.mp (hsome addr harr)
      obtain ⟨fds, heq⟩ := s.freeSession_eq addr session c
      simp only [hdoomed, hs, Option.elim_some, heq]
      exact Or.inr ⟨addr, List.mem_cons_self, e, he, hmask, haddr⟩
  · cases h

/-- **A batch of events.** In a run that frees no session while an event of one of its clients is
pending, the epoll thread follows no pointer into freed memory and counts no departure twice. After
a step that does free such a session, it has followed one by the time the batch is processed. -/
theorem safe_batch (s : Poll) :
    (Reach step Spares init s → s.dangling = false ∧ s.departed.Nodup) ∧
      ∀ s' t, Reach step anyStep init s → ¬ s.Spares .delSession →
        s.step .delSession = some s' → Reach step anyStep s' t → t.batch = [] →
          t.dangling = true := by
  constructor
  · intro hs
    have hsafe := hs.invariant safe_init fun s l s' h hguard hnext =>
      h.does hguard (does_of_step hnext)
    exact ⟨hsafe.dangling, hsafe.ok.accounted.nodup⟩
  · intro s' t hs hspares hdel ht hbatch
    have hok := hs.invariant ok_init fun s l s' h _ hnext => h.does (does_of_step hnext)
    have hbroken := ht.invariant (hok.broken hspares hdel) fun s l s' h _ hnext =>
      h.does (does_of_step hnext)
    refine hbroken.broken.resolve_right ?_
    rintro ⟨addr, -, e, he, -⟩
    rw [hbatch] at he
    cases he

/-- A player over UDP gets a NAL unit and hangs up; the session is gone with it. -/
def udpLeaves (events : List (Int × BitVec 32)) : List Label :=
  [.lookup 0 udpPlayer .aac zeroFresh, .addSession 0 1 .aac zeroFresh, .count 0,
    .callback 1 (nalDelivery 9) fun _ _ _ => zeroPacket, .wait events, .event zeroPacket,
    .transmit { zeroEnv with hungUp := true } fun _ _ => 1, .offline, .sumDown, .destroyMedia,
    .delSession, .sumSub]

theorem safe_batch_videoEvent :
    ∃ s, Reach step Spares init s ∧ s.departed = [0] ∧
      (s.dangling = false ∧ s.departed.Nodup) := by
  have hrun : (runs (fun s l => if Spares s l then step s l else none) init
      (udpLeaves [(4, EPOLLOUT)])).map (·.departed) = some [0] := by decide +kernel
  obtain ⟨s, hs, hdeparted⟩ := Option.map_eq_some_iff.mp hrun
  have hreach := Reach.of_runs_guard _ hs
  exact ⟨s, hreach, hdeparted, (safe_batch s).1 hreach⟩

/-- With the audio event in the same batch, the epoll thread goes on to a session that is gone. -/
theorem init_dangling :
    ¬ ∀ s, Reach step anyStep init s → s.dangling = false ∧ s.departed.Nodup := by
  intro h
  have hrun : (runs step init (udpLeaves [(4, EPOLLOUT), (6, EPOLLOUT)] ++
      [.event zeroPacket])).map (·.dangling) = some true := by decide +kernel
  obtain ⟨s, hs, hdangling⟩ := Option.map_eq_some_iff.mp hrun
  rw [(h s (Reach.of_runs _ hs)).1] at hdangling
  cases hdangling

end Poll

end SimpleRtsp

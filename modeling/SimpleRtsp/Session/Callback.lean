import SimpleRtsp.Session.Session

/-!
# Whom the media callback reaches

`HandsOut` is what a callback is for: every playing client of the session gets the frame once. In
a session whose `count` is right, `mediaCallBack` reaches the playing slots below `count`
(`Ok.handsOut_iff`), and these are all of them exactly if the playing slots are the first ones. A
client that leaves from a slot before another one breaks this until somebody takes its place.
-/

namespace SimpleRtsp

namespace Session

/-- Every occupied and playing slot is called once and gets its share of the delivery at the end
of its queues; a free slot is not called and stays as it is. -/
structure HandsOut (m : Delivery) (s : Session) (r : Session × List Nat) : Prop where
  playing : ∀ j < CLIENTMAX, (s.clientinfo j).callable → r.2.count j = 1 ∧
    ∀ type, ((r.1.clientinfo j).queue type).waiting =
      ((s.clientinfo j).queue type).waiting ++ (s.clientinfo j).share m type
  free : ∀ j < CLIENTMAX, (s.clientinfo j).sd = -1 →
    r.2.count j = 0 ∧ r.1.clientinfo j = s.clientinfo j

theorem Ok.handsOut_iff {s : Session} (h : s.Ok) (m : Delivery)
    (fresh : Nat → MediaE → Nat → MediaPacket) :
    s.HandsOut m (s.mediaCallBack m.toMediainfo fresh) ↔
      ∀ i j, i < j → j < CLIENTMAX → (s.clientinfo j).callable → (s.clientinfo i).callable := by
  rw [mediaCallBack_eq h,
    ← used_bounds_iff (p := fun c : Clientinfo => c.callable) s.clientinfo CLIENTMAX]
  have hcount : s.count.toNat = used (fun c : Clientinfo => c.callable) s.clientinfo CLIENTMAX := by
    rw [h.count, Int.toNat_natCast]
  rw [← hcount]
  have hnodup : ((List.range s.count.toNat).filter fun j => (s.clientinfo j).callable).Nodup :=
    List.nodup_range.filter _
  constructor
  · intro hhands j hj hcallable
    have hcalled := (hhands.playing j hj hcallable).1
    have hmem := List.count_pos_iff.mp (show 0 < List.count j _ by rw [hcalled]; decide)
    exact List.mem_range.mp (List.mem_filter.mp hmem).1
  · intro hall
    constructor
    · intro j hj hcallable
      constructor
      · have hmem := List.mem_range.mpr (hall j hj hcallable)
        exact List.count_eq_one_of_mem hnodup (List.mem_filter.mpr ⟨hmem, by simpa using hcallable⟩)
      intro type
      have hserved : (s.served m.toMediainfo fresh s.count.toNat).clientinfo j =
          sendData m.toMediainfo (fresh j) (s.clientinfo j) :=
        if_pos ⟨hall j hj hcallable, hcallable⟩
      simp only [hserved]
      exact (sendData_queue m (fresh j) (h.playing hj hcallable).valid type).2
    · intro j hj hfree
      have hidle := (h.idle hj hfree).not_callable
      constructor
      · apply List.count_eq_zero.mpr
        intro hmem
        have hcallable := (List.mem_filter.mp hmem).2
        simp [hidle] at hcallable
      · apply if_neg
        intro htest
        simp [hidle] at htest

/-- The states of a session that `addSession` made for a first client. -/
def Reachable (s : Session) : Prop :=
  ∃ addr a audioType mem pos, 0 ≤ a.clientSockFd ∧
    Reach step anyStep (create addr a audioType mem pos) s

theorem Reachable.ok {s : Session} (h : s.Reachable) : s.Ok := by
  obtain ⟨addr, a, audioType, mem, pos, hsd, hreach⟩ := h
  exact hreach.invariant (ok_create addr a audioType mem pos hsd) fun _ _ _ hok _ hstep =>
    hok.step hstep

/-- **The media callback.** In every reachable state, a callback reaches all playing clients
exactly if there is no slot out of use before a playing one. -/
theorem mediaCallBack_handsOut_iff (s : Session) (h : s.Reachable) (m : Delivery)
    (fresh : Nat → MediaE → Nat → MediaPacket) :
    s.HandsOut m (s.mediaCallBack m.toMediainfo fresh) ↔
      ∀ i j, i < j → j < CLIENTMAX → (s.clientinfo j).callable → (s.clientinfo i).callable :=
  h.ok.handsOut_iff m fresh

/-- A session with one client in slot 0. -/
def onePlayer : Session := create 1 (tcpPlayer 7) .aac zeroFresh 0

/-- A second player joins, both get a frame, the first one's socket refuses it. -/
def firstLeaves : List Label :=
  [.join (tcpPlayer 8) .aac zeroFresh, .callback (nalDelivery 1) fun _ _ _ => zeroPacket,
    .event 0 7 zeroPacket zeroEnv fun _ _ => -1]

theorem getFreeClientinfo_onePlayer : onePlayer.getFreeClientinfo = some 1 := by
  rw [getFreeClientinfo, List.find?_range_eq_some]
  refine ⟨rfl, List.mem_range.mpr (by decide), fun i hi => ?_⟩
  obtain rfl : i = 0 := by omega
  rfl

theorem runs_firstLeaves : ∃ s, runs step onePlayer firstLeaves = some s ∧
    (s.clientinfo 0).sd = -1 ∧ (s.clientinfo 1).callable = true ∧ s.count = 1 := by
  have hjoin : onePlayer.join (tcpPlayer 8) .aac zeroFresh = some (1, { onePlayer.setSlot 1
      (setClient (tcpPlayer 8) .aac zeroFresh 1 (onePlayer.clientinfo 1)) with count := 2 }) := by
    simp only [join, getFreeClientinfo_onePlayer]
    rfl
  simp only [firstLeaves, runs, step, hjoin]
  exact ⟨_, rfl, rfl, rfl, rfl⟩

theorem reachable_of_runs {labels : List Label} {s : Session}
    (h : runs step onePlayer labels = some s) : s.Reachable :=
  ⟨1, tcpPlayer 7, .aac, zeroFresh, 0, by decide, .of_runs labels h⟩

/-- A third player takes the place of the first one, and both are reached. -/
theorem mediaCallBack_handsOut_taken :
    ∃ s, runs step onePlayer (firstLeaves ++ [.join (tcpPlayer 9) .aac zeroFresh]) = some s ∧
      (s.clientinfo 0).sd = 9 ∧ (s.clientinfo 1).callable ∧
      s.HandsOut (nalDelivery 2)
        (s.mediaCallBack (nalDelivery 2).toMediainfo fun _ _ _ => zeroPacket) := by
  obtain ⟨s, hs, hfree, hplays, hcount⟩ := runs_firstLeaves
  have hfind : s.getFreeClientinfo = some 0 := by
    rw [getFreeClientinfo, List.find?_range_eq_some]
    refine ⟨by rw [hfree]; rfl, List.mem_range.mpr (by decide), fun i hi => ?_⟩
    exact absurd hi (Nat.not_lt_zero i)
  let c := setClient (tcpPlayer 9) .aac zeroFresh 0 (s.clientinfo 0)
  let s' : Session := { s.setSlot 0 c with count := s.count + 1 }
  have hjoin : s.join (tcpPlayer 9) .aac zeroFresh = some (0, s') := by
    rw [join, hfind]
    rfl
  have hruns : runs step onePlayer (firstLeaves ++ [.join (tcpPlayer 9) .aac zeroFresh]) =
      some s' := by
    rw [runs_append, hs, Option.bind_some, runs, step, if_pos (by decide), hjoin]
    rfl
  have hreachable := reachable_of_runs hruns
  have hidle := (reachable_of_runs hs).ok.idle (by decide) hfree
  have hfirst : (s'.clientinfo 0).callable := by
    have hplaying := playing_setClient hidle (tcpPlayer 9) (by decide) .aac zeroFresh 0
    simpa [s'] using hplaying.callable
  have hsecond : (s'.clientinfo 1).callable := by
    simpa [s', setSlot_of_ne s c (show 1 ≠ 0 by decide)] using hplays
  have hused : used (fun c : Clientinfo => c.callable) s'.clientinfo CLIENTMAX = 2 := by
    have hall := hreachable.ok.count
    have htwo : s'.count = 2 := by simp [s', hcount]
    omega
  refine ⟨s', hruns, ?_, hsecond, (mediaCallBack_handsOut_iff s' hreachable (nalDelivery 2)
    fun _ _ _ => zeroPacket).mpr (used_first hused fun i hi => ?_)⟩
  · have hsd : (s'.clientinfo 0).sd = c.sd := by simp [s']
    rw [hsd]
    simp [c, setClient, setBuffers, tcpPlayer]
  · obtain rfl | rfl : i = 0 ∨ i = 1 := by omega
    · exact hfirst
    · exact hsecond

/-! ## A client that is missed -/

/-- Slot 0 is free, slot 1 plays and `count` is 1: the player in slot 1 gets no more frames. -/
theorem mediaCallBack_misses :
    ∃ s, runs step onePlayer firstLeaves = some s ∧ (s.clientinfo 1).callable ∧
      ¬ s.HandsOut (nalDelivery 2)
        (s.mediaCallBack (nalDelivery 2).toMediainfo fun _ _ _ => zeroPacket) := by
  obtain ⟨s, hs, hfree, hplays, -⟩ := runs_firstLeaves
  have hok := (reachable_of_runs hs).ok
  refine ⟨s, hs, hplays, fun hhands => ?_⟩
  have hfirst := (hok.handsOut_iff _ _).mp hhands 0 1 (by decide) (by decide) hplays
  rw [(hok.idle (by decide) hfree).not_callable] at hfirst
  cases hfirst

end Session

end SimpleRtsp

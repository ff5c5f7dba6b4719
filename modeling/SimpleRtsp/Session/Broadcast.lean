import Mathlib.Data.List.Infix
import SimpleRtsp.Media.Thread
import SimpleRtsp.Session.Receiver
import SimpleRtsp.Session.Session

/-!
# What a player sees of a file

A client over TCP joins a session whose media thread plays a file. Every callback of the thread goes
through the slots of the session, and the epoll thread sends what is in the queue of the client
whenever its socket takes it; meanwhile other clients join, fail and leave. `Broadcast` are the
thread and the session, with what one slot was handed and sent. At any time, what a receiver at the
other end has put together is a part of the file played over and over: it begins with the frame that
came first after the client had joined, and has no gap (`watched_reach`).
-/

namespace SimpleRtsp

open StreamState (channel)

/-! ## A callback of the thread -/

/-- The callback is one that `sendData` can take. -/
structure MediaCall.Fits (call : MediaCall) : Prop where
  found : call.media.nowStreamIsVideo ∨ call.media.nowStreamIsAudio
  apart : call.media.videoStreamIndex ≠ call.media.audioStreamIndex
  frame : call.media.frame.length ≤ 2 * 1024 * 1024
  bufferAudio : call.media.bufferAudio.length ≤ 2 * 1024 * 1024

theorem MediaCall.fits_iff (call : MediaCall) : call.Fits ↔
    (call.media.nowStreamIsVideo ∨ call.media.nowStreamIsAudio) ∧
      call.media.videoStreamIndex ≠ call.media.audioStreamIndex ∧
      call.media.frame.length ≤ 2 * 1024 * 1024 ∧
      call.media.bufferAudio.length ≤ 2 * 1024 * 1024 :=
  ⟨fun h => ⟨h.found, h.apart, h.frame, h.bufferAudio⟩, fun h => ⟨h.1, h.2.1, h.2.2.1, h.2.2.2⟩⟩

instance (call : MediaCall) : Decidable call.Fits := decidable_of_iff _ call.fits_iff.symm

def MediaCall.delivery (call : MediaCall) (h : call.Fits) : Delivery where
  toMediainfo := call.media
  found := h.found
  apart := h.apart
  frame_fits := h.frame
  audio_fits := h.bufferAudio

theorem MediaCall.mediaFrame_delivery (call : MediaCall) (h : call.Fits) :
    (call.delivery h).mediaFrame = call.frame := by
  rw [MediaCall.frame]
  split_ifs with hvideo
  · have htype : (call.delivery h).type = .video := if_pos hvideo
    have hnow : call.media.nowStreamIndex ≠ call.media.audioStreamIndex := by
      rw [beq_iff_eq.mp hvideo]
      exact h.apart
    rw [Delivery.mediaFrame, htype, Mediainfo.getVideoNALUWithoutStartCode, if_neg hnow]
    rfl
  · have htype : (call.delivery h).type = .audio := if_neg hvideo
    have hnow : call.media.nowStreamIndex ≠ call.media.videoStreamIndex := fun heq =>
      hvideo (beq_iff_eq.mpr heq)
    rw [Delivery.mediaFrame, htype, Mediainfo.getAudioWithoutADTS, if_neg hnow]
    rfl

namespace MediaThread

/-- What a callback of the thread sees. -/
structure Called (s : MediaThread) (call : MediaCall) : Prop where
  found : call.media.nowStreamIsVideo ∨ call.media.nowStreamIsAudio
  apart : call.media.videoStreamIndex ≠ call.media.audioStreamIndex
  bufferAudio : call.media.bufferAudio = s.bufferAudio
  silent : ¬ call.media.nowStreamIsVideo → call.media.frame = []

variable {file : MediaFile} {s : MediaThread}

theorem Plays.called {n : Nat} {begun : List DemuxedPacket} {rest : List (Int × MediaFrame)}
    (h : Plays file s n begun rest) : (s.parseMp4SendDataThd file).calls = s.calls ∨
      ∃ call, s.Called call ∧ (s.parseMp4SendDataThd file).calls = s.calls ++ [call] := by
  have hpending := h.pending
  unfold parseMp4SendDataThd
  cases hpc : s.pc with
  | dispatch p =>
    rw [hpc] at hpending
    obtain ⟨-, -, hnow, -, -⟩ := hpending
    dsimp only
    split_ifs with hvideo haudio
    · exact Or.inl rfl
    · rw [← hnow] at hvideo
      refine Or.inr ⟨_, ⟨Or.inr (beq_iff_eq.mpr haudio), ?_, rfl, fun _ => ?_⟩, rfl⟩
      · exact fun heq => hvideo (haudio.trans heq.symm)
      · change (s.media.exposed.map Slice.bytes).getD [] = []
        rw [MediainfoSt.exposed, MediainfoSt.getVideoNALUWithoutStartCode, if_pos haudio]
        rfl
    · exact Or.inl rfl
  | call pending =>
    rw [hpc] at hpending
    obtain ⟨hvideo, hnow, -⟩ := hpending
    obtain ⟨hvideoIndex, haudioIndex, hnowIndex⟩ := s.media.praseFrame_streams
    have hnow' : (praseFrame s.media).nowStreamIndex = (praseFrame s.media).videoStreamIndex := by
      rw [hnowIndex, hvideoIndex, hnow, h.video]
    refine Or.inr ⟨_, ⟨Or.inl (beq_iff_eq.mpr hnow'), ?_, rfl, fun hother => ?_⟩, rfl⟩
    · change (praseFrame s.media).videoStreamIndex ≠ (praseFrame s.media).audioStreamIndex
      rw [hvideoIndex, haudioIndex, h.video, h.audio]
      exact file.apart hvideo
    · exact absurd (beq_iff_eq.mpr hnow') hother
  | read =>
    left
    dsimp only
    rw [avReadFrame]
    cases s.unread with
    | nil => rfl
    | cons p ps =>
      dsimp only
      split_ifs <;> rfl
  | filter pending =>
    left
    dsimp only
    unfold avBsfReceivePacket
    cases pending <;> split_ifs <;> rfl
  | test | pace | parse | exited => exact Or.inl rfl

theorem Plays.bufferAudio {n : Nat} {begun : List DemuxedPacket} {rest : List (Int × MediaFrame)}
    (h : Plays file s n begun rest) :
    (s.parseMp4SendDataThd file).bufferAudio = s.bufferAudio ∨
      ∃ time, (time, ⟨.audio, (s.parseMp4SendDataThd file).bufferAudio⟩) ∈
        file.frames [] (file.loop n) := by
  unfold parseMp4SendDataThd
  cases hpc : s.pc with
  | read =>
    have hpackets := h.packets
    rw [hpc] at hpackets
    dsimp only
    rw [avReadFrame]
    cases hunread : s.unread with
    | nil => exact Or.inl rfl
    | cons p ps =>
      dsimp only
      split_ifs with hvideo haudio
      · exact Or.inl rfl
      · rw [h.video] at hvideo
        rw [h.audio] at haudio
        have hisVideo : ¬ file.isVideo p := by simpa [MediaFile.isVideo]
        have hisAudio : file.isAudio p := decide_eq_true haudio
        right
        refine ⟨p.timestamp, ?_⟩
        rw [← hpackets, hunread, MediaFile.frames_append, MediaFile.frames, MediaFile.framesOf,
          if_neg hisVideo, if_pos hisAudio]
        simp
      · exact Or.inl rfl
  | dispatch p =>
    left
    dsimp only
    split_ifs <;> rfl
  | filter pending =>
    left
    dsimp only
    unfold avBsfReceivePacket
    cases pending <;> split_ifs <;> rfl
  | test | pace | parse | call | exited => exact Or.inl rfl

theorem Playing.added (h : Playing file s) {l : MediaLabel} {s' : MediaThread}
    (hstep : s.step file l = some s') :
    (s'.calls = s.calls ∨ ∃ call, s.Called call ∧ s'.calls = s.calls ++ [call]) ∧
      (s'.bufferAudio = s.bufferAudio ∨ ∃ n time, (time, ⟨.audio, s'.bufferAudio⟩) ∈
        file.frames [] (file.loop n)) := by
  cases l with
  | run elapsed =>
    obtain ⟨n, begun, rest, h⟩ := h
    rw [MediaThread.step] at hstep
    split_ifs at hstep
    obtain rfl := Option.some.inj hstep
    have hlater : Plays file { s with clock := s.clock + elapsed } n begun rest :=
      ⟨h.video, h.audio, h.stat, h.index, h.packets, h.filtered, h.frames, h.pending⟩
    obtain hcalls | ⟨call, hcalled, hcalls⟩ := hlater.called
    · exact ⟨Or.inl hcalls, hlater.bufferAudio.imp id fun hframe => ⟨n, hframe⟩⟩
    · have hcalled' : s.Called call :=
        ⟨hcalled.found, hcalled.apart, hcalled.bufferAudio, hcalled.silent⟩
      exact ⟨Or.inr ⟨call, hcalled', hcalls⟩, hlater.bufferAudio.imp id fun hframe => ⟨n, hframe⟩⟩
  | stop =>
    obtain rfl := Option.some.inj hstep
    exact ⟨Or.inl rfl, Or.inl rfl⟩

theorem Playing.bufferAudio_fits {codecs : Codecs} (h : Playing file s)
    (hcarries : ∀ n, ∀ f ∈ file.frames [] (file.loop n), codecs.Carries f.2)
    (hfits : s.bufferAudio.length ≤ 2 * 1024 * 1024) {l : MediaLabel} {s' : MediaThread}
    (hstep : s.step file l = some s') : s'.bufferAudio.length ≤ 2 * 1024 * 1024 := by
  obtain hsame | ⟨n, time, hframe⟩ := (h.added hstep).2
  · rwa [hsame]
  · exact (hcarries n _ hframe).size

end MediaThread

/-! ## The session -/

/-- A client has just been put into the slot. -/
structure Session.Joined (slot : Nat) (a : AddArgs) (audioType : AudioE) (mem : Fresh)
    (s : Session) : Prop where
  ok : s.Ok
  slot_lt : slot < CLIENTMAX
  client : ∃ c : Clientinfo, c.Idle ∧ s.clientinfo slot = setClient a audioType mem slot c

namespace Session

variable {slot : Nat} {a : AddArgs} {audioType : AudioE} {mem : Fresh}

theorem joined_join {s s' : Session} (h : s.Ok) (hsd : 0 ≤ a.clientSockFd)
    (hjoin : s.join a audioType mem = some (slot, s')) : s'.Joined slot a audioType mem := by
  have hok := h.join hsd hjoin
  obtain ⟨hlt, hfree, rfl⟩ := join_some hjoin
  exact ⟨hok, hlt, _, h.idle hlt hfree, setSlot_self _ _ _⟩

theorem joined_create (addr : Nat) (hsd : 0 ≤ a.clientSockFd) (pos : Nat) :
    (create addr a audioType mem pos).Joined 0 a audioType mem :=
  ⟨ok_create addr a audioType mem pos hsd, by decide, _, idle_initClient (some addr), by
    simp [create]⟩

theorem mediaCallBack_slot {s : Session} (h : s.Ok) (hslot : slot < CLIENTMAX)
    (hplaying : (s.clientinfo slot).Playing slot)
    (hbelow : ∀ i < slot, (s.clientinfo i).callable) (m : Mediainfo)
    (fresh : Nat → MediaE → Nat → MediaPacket) :
    (s.mediaCallBack m fresh).1.clientinfo slot = sendData m (fresh slot) (s.clientinfo slot) ∧
      slot ∈ (s.mediaCallBack m fresh).2 := by
  have hcallable := hplaying.callable
  have hlt : slot < s.count.toNat := by
    rw [h.count, Int.toNat_natCast]
    refine lt_used hslot fun i hi => ?_
    obtain hi | rfl := Nat.lt_succ_iff_lt_or_eq.mp hi
    · exact hbelow i hi
    · exact hcallable
  rw [mediaCallBack_eq h]
  exact ⟨if_pos ⟨hlt, hcallable⟩,
    List.mem_filter.mpr ⟨List.mem_range.mpr hlt, by simpa using hcallable⟩⟩

theorem join_slot {s s' : Session} {j : Nat} (hplaying : (s.clientinfo slot).Playing slot)
    (hjoin : s.join a audioType mem = some (j, s')) :
    s'.clientinfo slot = s.clientinfo slot := by
  obtain ⟨-, hfree, rfl⟩ := join_some hjoin
  have hne : slot ≠ j := by
    rintro rfl
    have := hplaying.sd
    omega
  exact setSlot_of_ne s _ hne

end Session

/-! ## The two threads -/

/-- A session, its media thread, and of the client in one slot what was handed out for it and what
it was sent. -/
structure Broadcast where
  thread : MediaThread
  session : Session
  handed : List MediaFrame
  log : List (MediaE × List SendCall)

inductive BroadcastLabel where
  /-- a step of the media thread; `fresh` is the memory that `realloc` adds to the queues -/
  | media (l : MediaLabel) (fresh : Nat → MediaE → Nat → MediaPacket)
  /-- another client joins -/
  | join (a : AddArgs) (audioType : AudioE) (mem : Fresh)
  /-- an event on a descriptor of a slot -/
  | event (j : Nat) (fd : Int) (node : MediaPacket) (env : SendEnv) (result : Nat → Nat → Int)

namespace Broadcast

/-- A callback, with what it hands out for the client in `slot`. -/
def mediaCallBack (slot : Nat) (a : AddArgs) (fresh : Nat → MediaE → Nat → MediaPacket)
    (s : Session × List MediaFrame) (call : MediaCall) : Session × List MediaFrame :=
  let r := s.1.mediaCallBack call.media fresh
  (r.1, if slot ∈ r.2 ∧ channel a call.frame.type ≠ -1 then s.2 ++ [call.frame] else s.2)

def step (file : MediaFile) (slot : Nat) (a : AddArgs) (s : Broadcast) :
    BroadcastLabel → Option Broadcast
  | .media l fresh =>
    (s.thread.step file l).map fun thread =>
      let r := (thread.calls.drop s.thread.calls.length).foldl (mediaCallBack slot a fresh)
        (s.session, s.handed)
      { s with thread := thread, session := r.1, handed := r.2 }
  | .join a' audioType mem =>
    (s.session.step (.join a' audioType mem)).map fun session => { s with session := session }
  | .event j fd node env result =>
    if j < CLIENTMAX ∧ 0 ≤ fd then
      (turn (s.session.clientinfo j) fd node env result).map fun t =>
        { s with
          session :=
            if t.offline then (s.session.setSlot j t.client).offline j
            else s.session.setSlot j t.client
          log := if j = slot then s.log ++ t.sent.toList else s.log }
    else none

/-- No slot in front of the client's is free when there is a callback; the epoll thread knows the
codecs of the file, and what it sends to the client is taken whole. The other clients may fail. -/
def Allowed (codecs : Codecs) (slot : Nat) (a : AddArgs) (s : Broadcast) : BroadcastLabel → Prop
  | .media _ _ => ∀ i < slot, (s.session.clientinfo i).callable
  | .join _ _ _ => True
  | .event j fd _ env result => j = slot → fd = a.clientSockFd ∧ env.videoType = codecs.video ∧
      env.audioType = codecs.audio ∧ result = fun _ (n : Nat) => (n : Int)

/-- The frames are of a stream that the client has set up. -/
def wanted (a : AddArgs) (frames : List MediaFrame) : List MediaFrame :=
  frames.filter fun f => channel a f.type ≠ -1

/-- What concerns the client in a slot. -/
def relay (slot : Nat) (s : Broadcast) : Relay := ⟨⟨s.session.clientinfo slot, s.log⟩, s.handed⟩

/-- The client joined when there had been `before` callbacks. -/
structure Ok (file : MediaFile) (codecs : Codecs) (slot : Nat) (a : AddArgs) (audioType : AudioE)
    (before : Nat) (s : Broadcast) : Prop where
  playing : s.thread.Playing file
  fits : s.thread.bufferAudio.length ≤ 2 * 1024 * 1024
  joined : before ≤ s.thread.calls.length
  session : s.session.Ok
  relay : (s.relay slot).InOrder codecs slot a audioType
  handed : s.handed = wanted a ((s.thread.calls.drop before).map MediaCall.frame)

variable {file : MediaFile} {codecs : Codecs} {slot : Nat} {a : AddArgs} {audioType : AudioE}
  {before : Nat} {s : Broadcast}

theorem fits_called {thread : MediaThread} {call : MediaCall} (hcalled : thread.Called call)
    (hfits : thread.bufferAudio.length ≤ 2 * 1024 * 1024) (hcall : codecs.Carries call.frame) :
    call.Fits := by
  refine ⟨hcalled.found, hcalled.apart, ?_, hcalled.bufferAudio ▸ hfits⟩
  by_cases hvideo : call.media.nowStreamIsVideo
  · have hnow : call.media.nowStreamIndex ≠ call.media.audioStreamIndex := by
      rw [beq_iff_eq.mp hvideo]
      exact hcalled.apart
    have hsize := hcall.size
    rwa [MediaCall.frame, if_pos hvideo, Mediainfo.getVideoNALUWithoutStartCode, if_neg hnow]
      at hsize
  · rw [hcalled.silent hvideo]
    exact Nat.zero_le _

theorem playing_of_inOrder {relay : Relay} (h : relay.InOrder codecs slot a audioType) :
    relay.stream.client.Playing slot := by
  obtain ⟨nodes, sent, hok⟩ := h
  exact hok.live.playing

theorem Ok.call (h : s.Ok file codecs slot a audioType before) (hslot : slot < CLIENTMAX)
    (hbelow : ∀ i < slot, (s.session.clientinfo i).callable) {call : MediaCall}
    (hfits : call.Fits) (hcarries : codecs.Carries call.frame)
    (fresh : Nat → MediaE → Nat → MediaPacket) {r : Session × List MediaFrame}
    (hr : mediaCallBack slot a fresh (s.session, s.handed) call = r) :
    r.1.Ok ∧ Relay.InOrder codecs slot a audioType ⟨⟨r.1.clientinfo slot, s.log⟩, r.2⟩ ∧
      r.2 = s.handed ++ wanted a [call.frame] := by
  have hplaying : (s.session.clientinfo slot).Playing slot := playing_of_inOrder h.relay
  obtain ⟨hclient, hmem⟩ := Session.mediaCallBack_slot h.session hslot hplaying hbelow call.media
    fresh
  have hframe := call.mediaFrame_delivery hfits
  have htype : (call.delivery hfits).type = call.frame.type := by
    rw [← hframe, Delivery.mediaFrame]
    cases (call.delivery hfits).type <;> rfl
  have hhanded : r.2 = s.handed ++ wanted a [call.frame] := by
    rw [← hr, mediaCallBack, wanted, List.filter_singleton]
    by_cases hwanted : channel a call.frame.type = -1 <;> simp [hwanted, hmem]
  have hallowed : Relay.Allowed codecs (s.relay slot)
      (.callback (call.delivery hfits) (fresh slot)) := by
    rw [Relay.Allowed, hframe]
    exact hcarries
  have hstep : (s.relay slot).step a (.callback (call.delivery hfits) (fresh slot)) =
      some ⟨⟨r.1.clientinfo slot, s.log⟩, r.2⟩ := by
    have hcallable : (s.relay slot).stream.client.callable := hplaying.callable
    have hgiven : (if (s.relay slot).stream.client.callable ∧ channel a call.frame.type ≠ -1 then
        (s.relay slot).handed ++ [call.frame] else (s.relay slot).handed) = r.2 := by
      rw [hhanded, wanted, List.filter_singleton]
      by_cases hwanted : channel a call.frame.type = -1
      · simp [hwanted]
        rfl
      · simp [hwanted, hcallable]
        rfl
    rw [Relay.step, StreamState.step, if_pos hcallable, Option.map_some, hframe, htype, hgiven,
      ← hr, mediaCallBack, hclient]
    rfl
  refine ⟨?_, h.relay.step hallowed hstep, hhanded⟩
  rw [← hr, mediaCallBack, Session.mediaCallBack_eq h.session]
  exact h.session.served (call.delivery hfits) fresh _

theorem Ok.media (hcarries : ∀ n, ∀ f ∈ file.frames [] (file.loop n), codecs.Carries f.2)
    (hslot : slot < CLIENTMAX) (h : s.Ok file codecs slot a audioType before)
    (hbelow : ∀ i < slot, (s.session.clientinfo i).callable) {l : MediaLabel}
    {fresh : Nat → MediaE → Nat → MediaPacket} {s' : Broadcast}
    (hstep : s.step file slot a (.media l fresh) = some s') :
    s'.Ok file codecs slot a audioType before := by
  obtain ⟨thread, hthread, rfl⟩ := Option.map_eq_some_iff.mp hstep
  have hplaying := h.playing.step hthread
  have hfits := h.playing.bufferAudio_fits hcarries h.fits hthread
  obtain ⟨hcalls, -⟩ := h.playing.added hthread
  obtain hsame | ⟨call, hcalled, hnew⟩ := hcalls
  · rw [hsame, List.drop_length]
    refine ⟨hplaying, hfits, ?_, h.session, h.relay, ?_⟩
    · dsimp only
      rw [hsame]
      exact h.joined
    · dsimp only
      rw [hsame]
      exact h.handed
  · have hcall : codecs.Carries call.frame := by
      obtain ⟨n, hprefix⟩ := hplaying.calls_prefix
      have hmem : call.timed ∈ thread.calls.map MediaCall.timed := by simp [hnew]
      exact hcarries n call.timed (List.IsPrefix.subset hprefix hmem)
    obtain ⟨hsession, hrelay, hhanded⟩ := h.call hslot hbelow (fits_called hcalled h.fits hcall)
      hcall fresh rfl
    have hdrop : thread.calls.drop before = s.thread.calls.drop before ++ [call] := by
      rw [hnew, List.drop_append_of_le_length h.joined]
    rw [hnew, List.drop_left, List.foldl_cons, List.foldl_nil]
    refine ⟨hplaying, hfits, ?_, hsession, hrelay, ?_⟩
    · dsimp only
      rw [hnew, List.length_append]
      exact h.joined.trans (Nat.le_add_right _ _)
    · dsimp only
      rw [hhanded, h.handed, hdrop, List.map_append, wanted, wanted, wanted, List.filter_append]
      rfl

theorem Ok.elsewhere (h : s.Ok file codecs slot a audioType before) {session : Session}
    (hok : session.Ok) (hsame : session.clientinfo slot = s.session.clientinfo slot) :
    ({ s with session := session } : Broadcast).Ok file codecs slot a audioType before := by
  refine ⟨h.playing, h.fits, h.joined, hok, ?_, h.handed⟩
  have hrelay : Broadcast.relay slot { s with session := session } = s.relay slot := by
    rw [Broadcast.relay, hsame]
    rfl
  rw [hrelay]
  exact h.relay

theorem Ok.join (h : s.Ok file codecs slot a audioType before) {a' : AddArgs} {audioType' : AudioE}
    {mem : Fresh} {s' : Broadcast}
    (hstep : s.step file slot a (.join a' audioType' mem) = some s') :
    s'.Ok file codecs slot a audioType before := by
  obtain ⟨session, hsession, rfl⟩ := Option.map_eq_some_iff.mp hstep
  refine h.elsewhere (h.session.step hsession) ?_
  obtain ⟨-, hnext⟩ := Option.ite_none_right_eq_some.mp hsession
  obtain rfl := Option.some.inj hnext
  cases hjoin : s.session.join a' audioType' mem with
  | none => rfl
  | some r => exact Session.join_slot (playing_of_inOrder h.relay) hjoin

theorem Ok.event (h : s.Ok file codecs slot a audioType before) {j : Nat} {fd : Int}
    {node : MediaPacket} {env : SendEnv} {result : Nat → Nat → Int}
    (hallowed : Allowed codecs slot a s (.event j fd node env result)) {s' : Broadcast}
    (hstep : s.step file slot a (.event j fd node env result) = some s') :
    s'.Ok file codecs slot a audioType before := by
  obtain ⟨⟨hj, -⟩, hnext⟩ := Option.ite_none_right_eq_some.mp hstep
  obtain ⟨t, hturn, rfl⟩ := Option.map_eq_some_iff.mp hnext
  have hevent : s.session.event j fd node env result =
      some (if t.offline then (s.session.setSlot j t.client).offline j
        else s.session.setSlot j t.client, t.offline) := by
    rw [Session.event, hturn]
    rfl
  have hok := h.session.event hj hevent
  by_cases hslot : j = slot
  · subst hslot
    obtain ⟨rfl, hvideo, haudio, rfl⟩ := hallowed rfl
    have hrelay : Relay.Allowed codecs (s.relay j) (.event node env) := ⟨hvideo, haudio⟩
    have hclient : (if t.offline then (s.session.setSlot j t.client).offline j
        else s.session.setSlot j t.client).clientinfo j =
        if t.offline then clearClient t.client else t.client := by
      split_ifs
      · rw [Session.offline]
        simp
      · exact Session.setSlot_self _ _ _
    have hstep : (s.relay j).step a (.event node env) =
        some ⟨⟨if t.offline then clearClient t.client else t.client, s.log ++ t.sent.toList⟩,
          s.handed⟩ := by
      have hturn' : turn (s.relay j).stream.client a.clientSockFd node env
          (fun _ (n : Nat) => (n : Int)) = some t := hturn
      rw [Relay.step, StreamState.step, hturn']
      rfl
    refine ⟨h.playing, h.fits, h.joined, hok, ?_, h.handed⟩
    have hnext := h.relay.step hrelay hstep
    rw [Broadcast.relay]
    dsimp only
    rw [hclient, if_pos rfl]
    exact hnext
  · have hsame : (if t.offline then (s.session.setSlot j t.client).offline j
        else s.session.setSlot j t.client).clientinfo slot = s.session.clientinfo slot := by
      have hne : slot ≠ j := fun heq => hslot heq.symm
      split_ifs
      · rw [Session.offline]
        dsimp only
        rw [Session.setSlot_of_ne _ _ hne, Session.setSlot_of_ne _ _ hne]
      · exact Session.setSlot_of_ne _ _ hne
    rw [if_neg hslot]
    exact h.elsewhere hok hsame

theorem Ok.step (hcarries : ∀ n, ∀ f ∈ file.frames [] (file.loop n), codecs.Carries f.2)
    (hslot : slot < CLIENTMAX) (h : s.Ok file codecs slot a audioType before) {l : BroadcastLabel}
    (hl : Allowed codecs slot a s l) {s' : Broadcast} (hstep : s.step file slot a l = some s') :
    s'.Ok file codecs slot a audioType before := by
  cases l with
  | media l fresh => exact h.media hcarries hslot hl hstep
  | join a' audioType' mem => exact h.join hstep
  | event j fd node env result => exact h.event hl hstep

/-- **What a player sees.** A client over TCP joins a session whose media thread plays a file, and
other clients join, fail and leave. As long as no slot in front of its own is free when there is a
callback, and whichever order things happen in: what its receiver has put together is the file
played over and over, from the first frame behind the moment it joined and without a gap, up to the
frames that wait. -/
theorem watched_reach (file : MediaFile) (codecs : Codecs)
    (hcarries : ∀ n, ∀ f ∈ file.frames [] (file.loop n), codecs.Carries f.2)
    (uninit : MediainfoSt) (clock : Int) {thread : MediaThread}
    (hthread : Reach (MediaThread.step file) anyStep (.creatMedia file uninit [] clock) thread)
    {slot : Nat} {a : AddArgs} (htcp : a.tureOfTcp = 1) (hsd : 0 ≤ a.clientSockFd)
    (hdistinct : UInt8.ofInt a.sig0 ≠ UInt8.ofInt a.sig2) {audioType : AudioE} {mem : Fresh}
    {session : Session} (hjoined : session.Joined slot a audioType mem) {s : Broadcast}
    (h : Reach (step file slot a) (Allowed codecs slot a) ⟨thread, session, [], []⟩ s) :
    ∃ n sent r,
      sent ++ (s.relay slot).waiting <+: wanted a
        (((file.frames [] (file.loop n)).drop thread.calls.length).map Prod.snd) ∧
      sent ++ (s.relay slot).waiting =
        wanted a ((s.thread.calls.drop thread.calls.length).map MediaCall.frame) ∧
      receive codecs a (s.relay slot).bytes = some r ∧
      List.Forall₂ codecs.Survives (Relay.dataOf .video sent) r.nals ∧
      r.audio = Relay.dataOf .audio sent := by
  have hjoin : thread.Playing file ∧ thread.bufferAudio.length ≤ 2 * 1024 * 1024 :=
    @Reach.invariant _ _ _ _ _ _
      (fun t => t.Playing file ∧ t.bufferAudio.length ≤ 2 * 1024 * 1024) hthread
      ⟨MediaThread.playing_creatMedia file uninit [] clock, Nat.zero_le _⟩ fun _ _ _ hinv _ hstep =>
        ⟨hinv.1.step hstep, hinv.1.bufferAudio_fits hcarries hinv.2 hstep⟩
  have hstart : Ok file codecs slot a audioType thread.calls.length
      ⟨thread, session, [], []⟩ := by
    obtain ⟨c, hidle, hclient⟩ := hjoined.client
    refine ⟨hjoin.1, hjoin.2, Nat.le_refl _, hjoined.ok, ?_, ?_⟩
    · have hrelay : Broadcast.relay slot ⟨thread, session, [], []⟩ =
          Relay.start slot c a audioType mem := by
        rw [Broadcast.relay, hclient]
        rfl
      rw [hrelay]
      exact Relay.inOrder_start codecs slot hidle htcp hsd audioType mem
    · dsimp only
      rw [List.drop_length]
      rfl
  have hok : s.Ok file codecs slot a audioType thread.calls.length :=
    h.invariant hstart fun _ _ _ hinv hl hstep => hinv.step hcarries hjoined.slot_lt hl hstep
  obtain ⟨n, hprefix⟩ := hok.playing.calls_prefix
  obtain ⟨sent, r, hhanded, hreceived⟩ := hok.relay.received hdistinct
  have hframes : s.thread.calls.map MediaCall.frame <+:
      (file.frames [] (file.loop n)).map Prod.snd := by
    have hsnd := hprefix.map Prod.snd
    rwa [List.map_map] at hsnd
  have hall : sent ++ (s.relay slot).waiting =
      wanted a ((s.thread.calls.drop thread.calls.length).map MediaCall.frame) :=
    hhanded.symm.trans hok.handed
  refine ⟨n, sent, r, ?_, hall, hreceived⟩
  rw [hall, wanted, wanted, List.map_drop, List.map_drop]
  exact (List.IsPrefix.drop hframes _).filter _

def shortFrames : List MediaFrame :=
  [⟨.video, [0x65, 0, 0, 3]⟩, ⟨.video, []⟩, ⟨.video, [0x41]⟩, ⟨.audio, [7, 8]⟩]

theorem frames_shortFile (ps : List DemuxedPacket)
    (h : ∀ p ∈ ps, p ∈ MediaThread.shortFile.packets) (before : List DemuxedPacket) :
    ∀ f ∈ MediaThread.shortFile.frames before ps, f.2 ∈ shortFrames := by
  induction ps generalizing before with
  | nil => simp [MediaFile.frames]
  | cons p ps ih =>
    obtain ⟨hp, hps⟩ := List.forall_mem_cons.mp h
    rw [MediaFile.frames]
    refine List.forall_mem_append.mpr ⟨?_, ih hps _⟩
    have hpacket : p = ⟨0, 0, [0x65]⟩ ∨ p = ⟨2, 20000, [0]⟩ ∨ p = ⟨1, 40000, [7, 8]⟩ := by
      simpa [MediaThread.shortFile] using hp
    obtain rfl | rfl | rfl := hpacket
    · have hunits : MediaThread.shortFile.framesOf before ⟨0, 0, [0x65]⟩ =
          [(0, ⟨.video, [0x65, 0, 0, 3]⟩), (0, ⟨.video, []⟩), (0, ⟨.video, [0x41]⟩)] := rfl
      rw [hunits]
      decide
    · exact fun f hf => absurd hf List.not_mem_nil
    · have hdata : MediaThread.shortFile.framesOf before ⟨1, 40000, [7, 8]⟩ =
          [(40000, ⟨.audio, [7, 8]⟩)] := rfl
      rw [hdata]
      decide

theorem carries_short {f : MediaFrame} (hsize : f.bytes.length ≤ 4)
    (hsingle : f.type = .video → f.bytes ≠ [] → rfc6184 f.bytes = .single f.bytes) :
    Codecs.Carries ⟨.h264, .aac⟩ f where
  size := hsize.trans (by decide)
  video _ := by decide
  single htype hne _ := hsingle htype hne
  audio _ := by decide
  aac _ _ := hsize.trans (by decide)
  pcma _ hpcma := AudioE.noConfusion (hpcma : AudioE.aac = .pcma)

theorem carries_shortFrames : ∀ f ∈ shortFrames, Codecs.Carries ⟨.h264, .aac⟩ f := by
  have hsize : ∀ f ∈ shortFrames, f.bytes.length ≤ 4 := by decide
  have hsingle : ∀ f ∈ shortFrames, f.type = .video → f.bytes ≠ [] →
      rfc6184 f.bytes = .single f.bytes := by decide
  exact fun f hf => carries_short (hsize f hf) (hsingle f hf)

/-- When the player joins, in the middle of a packet. -/
def shortJoin : List MediaLabel := List.replicate 7 (.run 0)

/-- There are two more NAL units, the first of them empty, and the player is sent the other. -/
def shortLabels : List BroadcastLabel :=
  List.replicate 4 (.media (.run 0) fun _ _ _ => zeroPacket) ++
    List.replicate 2 (.event 0 7 zeroPacket zeroEnv fun _ n => n)

theorem watched_shortLabels : ∃ thread s,
    runs (MediaThread.step MediaThread.shortFile)
      (.creatMedia MediaThread.shortFile newMedia [] 5) shortJoin = some thread ∧
    runs (step MediaThread.shortFile 0 (tcpPlayer 7))
      ⟨thread, .create 1 (tcpPlayer 7) .aac zeroFresh 0, [], []⟩ shortLabels = some s ∧
    s.thread.calls.length = 3 ∧
    ∃ n sent r,
      sent ++ (s.relay 0).waiting <+: wanted (tcpPlayer 7)
        (((MediaThread.shortFile.frames [] (MediaThread.shortFile.loop n)).drop
          thread.calls.length).map Prod.snd) ∧
      sent ++ (s.relay 0).waiting = wanted (tcpPlayer 7)
        ((s.thread.calls.drop thread.calls.length).map MediaCall.frame) ∧
      receive ⟨.h264, .aac⟩ (tcpPlayer 7) (s.relay 0).bytes = some r ∧
      List.Forall₂ (Codecs.Survives ⟨.h264, .aac⟩) (Relay.dataOf .video sent) r.nals ∧
      r.audio = Relay.dataOf .audio sent := by
  have hruns : ((runs (MediaThread.step MediaThread.shortFile)
      (.creatMedia MediaThread.shortFile newMedia [] 5) shortJoin).bind fun thread =>
      (runs (step MediaThread.shortFile 0 (tcpPlayer 7))
        ⟨thread, .create 1 (tcpPlayer 7) .aac zeroFresh 0, [], []⟩ shortLabels).map
          fun s => s.thread.calls.length) = some 3 := by
    decide +kernel
  obtain ⟨thread, hjoin, hrest⟩ := Option.bind_eq_some_iff.mp hruns
  obtain ⟨s, hrun, hlength⟩ := Option.map_eq_some_iff.mp hrest
  have hcarries : ∀ n, ∀ f ∈ MediaThread.shortFile.frames [] (MediaThread.shortFile.loop n),
      Codecs.Carries ⟨.h264, .aac⟩ f.2 := by
    intro n f hf
    refine carries_shortFrames _ (frames_shortFile _ (fun p hp => ?_) [] f hf)
    obtain ⟨ps, hps, hp⟩ := List.mem_flatten.mp hp
    rwa [List.eq_of_mem_replicate hps] at hp
  have hallowed : ∀ l ∈ shortLabels, ∀ s, Allowed ⟨.h264, .aac⟩ 0 (tcpPlayer 7) s l := by
    intro l hl s
    obtain hl | hl := List.mem_append.mp hl
    · rw [List.eq_of_mem_replicate hl]
      exact fun i hi => absurd hi (Nat.not_lt_zero i)
    · rw [List.eq_of_mem_replicate hl]
      exact fun _ => ⟨rfl, rfl, rfl, rfl⟩
  exact ⟨thread, s, hjoin, hrun, hlength, watched_reach MediaThread.shortFile ⟨.h264, .aac⟩
    hcarries newMedia 5 (.of_runs shortJoin hjoin) rfl (by decide) (by decide)
    (Session.joined_create 1 (by decide) 0) (.of_runs_forall shortLabels hallowed hrun)⟩

end Broadcast

end SimpleRtsp

import SimpleRtsp.Rtsp.Confined
import SimpleRtsp.Rtsp.Sdp
import SimpleRtsp.Rtsp.UdpSetup

/-!
# The channels of a client over TCP

A client that wants RTP over TCP names a channel for every track in its SETUP. The variables `sig_0`
and `sig_2` carry the channels from one request to the next, and PLAY hands them to `addClient`.
`interleaved_reach`: whatever SETUPs there were, in whichever order, every reply has the channels
that were asked for, and PLAY has those of the last SETUP of each track. The tracks are the ones
that `generateSDP` names for the video and for the audio.
-/

namespace SimpleRtsp

open CString

/-! ## What was asked -/

/-- The line `Transport: RTP/AVP/TCP;unicast;interleaved=a-b`. -/
def tcpTransport (a b : Nat) : List UInt8 :=
  str "Transport: " ++ str "RTP/AVP/TCP;unicast;interleaved=" ++ decimal a ++ str "-" ++ decimal b

/-- The `Transport:` line of the request asks for the channels `a` and `a + 1`. -/
def AsksTcp (r : Request) (a : Nat) : Prop :=
  a ≤ 254 ∧ ∃ line, (lines r.bufTmp).find? (fun l => isAvp (asLine l)) = some line ∧
    ∃ cr ∈ [[], str "\r"], line = tcpTransport a (a + 1) ++ cr

/-- Every SETUP asks for channels, for one of the two tracks. -/
def TcpOnly (conn : Conn) (_ : Served) (label : World × List UInt8) : Prop :=
  ∀ r, Accepts conn label.2 r → r.IsSetup →
    (baseName r.url = str "track0" ∨ baseName r.url = str "track1") ∧
      ∃ a, AsksTcp r a

/-! ## What was done -/

/-- A SETUP for the track got its reply, and asked for channel `a`. -/
def Handled.Sets (track : List UInt8) (turn : Handled) (a : Nat) : Prop :=
  ∃ r, Asks turn.msg r ∧ r.IsSetup ∧ baseName r.url = track ∧ AsksTcp r a ∧
    ∃ t reply sockets, turn.outcome = .replied t reply sockets

/-- The channel of the last SETUP for the track, -1 if there was none. -/
inductive LastChannel (track : List UInt8) (turns : List Handled) : Int → Prop where
  | last {before after : List Handled} {turn : Handled} {a : Nat} :
      turns = before ++ turn :: after → turn.Sets track a →
      (∀ later ∈ after, ∀ a', ¬ later.Sets track a') → LastChannel track turns a
  | never : (∀ turn ∈ turns, ∀ a, ¬ turn.Sets track a) → LastChannel track turns (-1)

/-- The reply has the channels `a` and `b`. -/
def Echoes (reply : List UInt8) (a b : Nat) : Prop :=
  ∃ front back, reply = front ++ str ";interleaved=" ++ decimal a ++ str "-" ++ decimal b ++
    str "\r\nSession: " ++ back

/-- The channels are as they were asked for. -/
structure Interleaved (turns : List Handled) : Prop where
  echo : ∀ turn ∈ turns, ∀ t reply sockets, turn.outcome = .replied t reply sockets →
    ∀ r a, Asks turn.msg r → r.IsSetup → AsksTcp r a → Echoes reply a (a + 1)
  play : ∀ before turn after, turns = before ++ turn :: after →
    ∀ reply args ret, turn.outcome = .played reply args ret → args.tureOfTcp = 1 ∧
      LastChannel (str "track0") before args.sig0 ∧ LastChannel (str "track1") before args.sig2

/-- The sections of a description and their tracks, from its lines; `media` is the section. -/
def mediaControls : Option (List UInt8) → List (List UInt8) → List (List UInt8 × List UInt8)
  | _, [] => []
  | media, l :: ls =>
    if (str "m=").isPrefixOf l then mediaControls (some ((l.drop 2).takeWhile (· ≠ 0x20))) ls
    else if (str "a=control:").isPrefixOf l then
      (media.map fun media => (media, l.drop 10)).toList ++ mediaControls media ls
    else mediaControls media ls

/-- `track0` is the video of a description, and `track1` its audio. -/
def AdvertisesTracks : Prop :=
  ∀ (info : MediaInfo) (time : Int) (localIp sdp : List UInt8), 0x0A ∉ localIp →
    generateSdp (some info) time localIp = some sdp →
    mediaControls none (lines sdp) =
      (if info.hasVideo then [(str "video", str "track0\r")] else []) ++
        if info.hasAudio then [(str "audio", str "track1\r")] else []

/-! ## The description -/

theorem advertisesTracks : AdvertisesTracks := by
  intro info time localIp sdp hip hsdp
  rw [lines_generateSdp hsdp hip, sdpLines, sdpAudio]
  cases info.hasVideo <;> cases info.videoType <;> cases info.hasAudio <;>
    cases info.audioType <;> rfl

/-! ## The transport line -/

theorem nul_not_mem_decimal (n : Nat) : 0 ∉ decimal n := by
  intro hmem
  exact absurd (isNumeral_decimal n 0 hmem) (by decide)

theorem sscanf_tcpTransport {a b : Nat} (ha : a < 2 ^ 31) (hb : b < 2 ^ 31) {cr : List UInt8}
    (hcr : cr ∈ [[], str "\r"]) :
    sscanf (cstr (asLine (tcpTransport a b ++ cr)))
      "Transport: RTP/AVP/TCP;unicast;interleaved=%d-%d\r\n" = [.int a, .int b] := by
  have hformat : directives (str "Transport: RTP/AVP/TCP;unicast;interleaved=%d-%d\r\n") =
      (str "Transport:").map .char ++ .space ::
        ((str "RTP/AVP/TCP;unicast;interleaved=").map .char ++
          [.int, .char 0x2D, .int, .space, .space]) := rfl
  have hend : ∀ c ∈ (cr ++ [0x0A]).head?, isdigit c = false := by
    rcases List.mem_pair.mp hcr with rfl | rfl <;> rintro _ ⟨⟩ <;> rfl
  have hnul : 0 ∉ asLine (tcpTransport a b ++ cr) := by
    have := nul_not_mem_decimal a
    have := nul_not_mem_decimal b
    have : 0 ∉ cr := by rcases List.mem_pair.mp hcr with rfl | rfl <;> decide
    simp only [asLine, tcpTransport, List.mem_append, not_or]
    and_intros <;> first | assumption | decide
  have hline : asLine (tcpTransport a b ++ cr) = str "Transport:" ++ 0x20 ::
      (str "RTP/AVP/TCP;unicast;interleaved=" ++
        (decimal a ++ 0x2D :: (decimal b ++ (cr ++ [0x0A])))) := by
    simp only [asLine, tcpTransport, List.append_assoc]
    rfl
  rw [cstr_eq_self hnul, sscanf, hformat, hline, scan_literal,
    scan_space (by decide) (by decide) (by decide), scan_literal, scan,
    scanInt_decimal ha (by rintro _ ⟨⟩; rfl)]
  dsimp only
  rw [scan, List.head?_cons, if_pos rfl, List.tail_cons, scan, scanInt_decimal hb hend]
  rfl

theorem isTcp_tcpTransport (a b : Nat) (cr : List UInt8) :
    isTcp (asLine (tcpTransport a b ++ cr)) = true := by
  rw [isTcp, startsWith, List.isPrefixOf_iff_prefix]
  refine ⟨str ";unicast;interleaved=" ++ decimal a ++ str "-" ++ decimal b ++ cr ++ [0x0A], ?_⟩
  simp only [asLine, tcpTransport, List.append_assoc]
  rfl

theorem findTransport_eq {buf line : List UInt8} (h : findTransport buf = .ok line) :
    ∃ l, (lines buf).find? (fun l => isAvp (asLine l)) = some l ∧ line = asLine l := by
  have hsafe : ParsesSafely (findTransport buf) := by
    rw [h]
    exact .ok line
  obtain ⟨l, rest, hfind, huntil⟩ := untilLine_finds ((findTransport_safe_iff buf).mp hsafe)
    (Nat.lt_succ_of_le (length_lines_le buf))
  refine ⟨l, hfind, ?_⟩
  rw [findTransport, isTransport_eq, huntil] at h
  exact (Except.ok.inj h).symm

/-! ## One request -/

variable {conn : Conn} {w : World} {t : Thread} {r : Request}

/-- The variables for the channels and for the mode are the same. -/
structure SameChannels (t t' : Thread) : Prop where
  tcp : t'.tureOfRtpTcp = t.tureOfRtpTcp
  sig0 : t'.sig0 = t.sig0
  sig2 : t'.sig2 = t.sig2

/-- A SETUP for channel `a` sets the variable of its track. -/
structure SetsChannel (url : List UInt8) (a : Nat) (t t' : Thread) : Prop where
  tcp : t'.tureOfRtpTcp = 1
  video : baseName url = str "track0" → t'.sig0 = a ∧ t'.sig2 = t.sig2
  audio : baseName url = str "track1" → t'.sig0 = t.sig0 ∧ t'.sig2 = a

/-- What comes of the channels in a turn in TCP mode. -/
def Outcome.Channels (t : Thread) (r : Request) : Outcome → Prop
  | .replied t' reply _ => (¬ r.IsSetup → SameChannels t t') ∧
      (r.IsSetup → ∀ a, AsksTcp r a → SetsChannel r.url a t t' ∧ Echoes reply a (a + 1))
  | .played _ args _ => args.tureOfTcp = 1 ∧ args.sig0 = t.sig0 ∧ args.sig2 = t.sig2
  | _ => True

theorem describeFile_channels (t : Thread) (url : List UInt8) :
    Gives (SameChannels t) (t.describeFile url) := by
  rw [Thread.describeFile]
  split_ifs
  · refine (findFile_gives t url).mono ?_
    rintro _ rfl
    exact ⟨rfl, rfl, rfl⟩
  · exact .ok ⟨rfl, rfl, rfl⟩

theorem handleOptions_channels (hmethod : ¬ r.IsSetup) :
    Gives (Outcome.Channels t r) (handleOptions w t r) := by
  refine .bind (findFile_gives t r.url) ?_
  rintro _ rfl
  split_ifs
  · exact .ok ⟨fun _ => ⟨rfl, rfl, rfl⟩, fun hsetup => absurd hsetup hmethod⟩
  · exact .ok trivial

theorem handleDescribe_channels (hmethod : ¬ r.IsSetup) :
    Gives (Outcome.Channels t r) (handleDescribe w t r) := by
  refine (describeFile_channels t r.url).bind fun t' ht' => ?_
  split_ifs
  · exact .ok trivial
  · refine .bind_any fun localIp => ?_
    split
    · exact .ok trivial
    · refine .ok ⟨fun _ => ⟨ht'.tcp, ht'.sig0, ht'.sig2⟩, fun hsetup => absurd hsetup hmethod⟩

theorem echoes_setup (cseq : Int) (localIp clientIp session : List UInt8) (a : Nat) :
    Echoes (handleCmdSetupTcp cseq localIp clientIp a session) a (a + 1) := by
  refine ⟨replyHead "RTSP/1.0 200 OK" cseq ++ str "Transport: RTP/AVP/TCP;unicast;destination=" ++
    clientIp ++ str ";source=" ++ localIp, session ++ str "\r\n\r\n", ?_⟩
  simp only [handleCmdSetupTcp, pair, List.append_assoc]
  rfl

theorem setupTransport_channels {a : Nat} (h : AsksTcp r a) :
    Gives (fun x => SetsChannel r.url a t x.1 ∧ (if x.2 then x.1.sig0 else x.1.sig2) = (a : Int))
      (setupTransport t r) := by
  obtain ⟨ha, line, hfind, cr, hcr, rfl⟩ := h
  rw [setupTransport]
  split
  · exact .error _
  · rename_i p hp
    rw [strrchr_tail hp]
    intro x hx
    obtain ⟨line, hline, hx⟩ := bind_eq_ok.mp hx
    obtain ⟨l, hl, rfl⟩ := findTransport_eq hline
    obtain rfl := Option.some.inj (hfind.symm.trans hl)
    obtain rfl := Except.ok.inj hx
    rw [Thread.parseTransport, if_pos (isTcp_tcpTransport a (a + 1) cr),
      sscanf_tcpTransport (by omega) (by omega) hcr]
    cases htrack : (str "track0").isPrefixOf (baseName r.url) with
    | true =>
      refine ⟨⟨rfl, fun _ => ⟨rfl, rfl⟩, fun haudio => ?_⟩, rfl⟩
      rw [haudio] at htrack
      exact absurd htrack (by decide)
    | false =>
      refine ⟨⟨rfl, fun hvideo => ?_, fun _ => ⟨rfl, rfl⟩⟩, rfl⟩
      rw [hvideo] at htrack
      exact absurd htrack (by decide)

theorem handleSetup_channels {a : Nat} (h : AsksTcp r a) :
    Gives (fun o => ∀ t' reply sockets, o = .replied t' reply sockets →
        SetsChannel r.url a t t' ∧ Echoes reply a (a + 1))
      (setupTransport t r >>= fun x => handleSetup conn w x.1 x.2 r) := by
  refine (setupTransport_channels h).bind ?_
  rintro ⟨t₁, track0⟩ ⟨hsets, hsig⟩
  have htcp := hsets.tcp
  dsimp only at hsets hsig htcp ⊢
  rw [handleSetup, if_neg (by omega), if_pos htcp]
  refine .bind_any fun localIp => .ok ?_
  intro t' reply sockets heq
  injection heq with ht hreply
  subst ht hreply
  refine ⟨⟨hsets.tcp, hsets.video, hsets.audio⟩, ?_⟩
  dsimp only
  rw [hsig]
  exact echoes_setup ..

theorem handleSetup_ne_played (conn : Conn) (w : World) (t : Thread) (track0 : Bool)
    (r : Request) {reply : List UInt8} {args : AddArgs} {ret : Int} :
    handleSetup conn w t track0 r ≠ .ok (.played reply args ret) := by
  have hclaim : Gives (fun o => o ≠ .played reply args ret) (handleSetup conn w t track0 r) := by
    rw [handleSetup]
    split
    · exact .bind_any fun localIp => .ok (by simp)
    · split
      · exact .bind_any fun localIp => .ok (by simp)
      · exact .ok (by simp)
  exact fun h => hclaim _ h rfl

theorem respond_channels (htcp : t.tureOfRtpTcp = 1) :
    Gives (Outcome.Channels t r) (respond conn w t r) := by
  rw [respond]
  split_ifs with hsetup hoptions hdescribe
  · intro o ho
    cases o with
    | closed reply => trivial
    | unauthorized reply => trivial
    | replied t' reply sockets =>
      exact ⟨fun hmethod => absurd hsetup hmethod, fun _ a h =>
        handleSetup_channels h _ ho t' reply sockets rfl⟩
    | played reply args ret =>
      obtain ⟨x, -, ho⟩ := bind_eq_ok.mp ho
      exact absurd ho (handleSetup_ne_played conn w x.1 x.2 r)
  · exact handleOptions_channels hsetup
  · exact handleDescribe_channels hsetup
  · refine .bind_any fun path => .ok ⟨htcp, rfl, rfl⟩
  · exact .ok trivial

/-! ## Whole connections -/

theorem split_concat {α : Type} {ls before after : List α} {x y : α}
    (h : ls ++ [x] = before ++ y :: after) :
    (∃ after', ls = before ++ y :: after') ∨ before = ls ∧ y = x := by
  rcases List.eq_nil_or_concat after with rfl | ⟨after', z, rfl⟩
  · have hboth := List.append_inj' h rfl
    exact Or.inr ⟨hboth.1.symm, (List.singleton_inj.mp hboth.2).symm⟩
  · have hcons : ls ++ [x] = (before ++ y :: after') ++ [z] := by simpa using h
    exact Or.inl ⟨after', (List.append_inj' hcons rfl).1⟩

theorem Interleaved.append {turns : List Handled} (h : Interleaved turns) {turn : Handled}
    (hecho : ∀ t reply sockets, turn.outcome = .replied t reply sockets →
      ∀ r a, Asks turn.msg r → r.IsSetup → AsksTcp r a → Echoes reply a (a + 1))
    (hplay : ∀ reply args ret, turn.outcome = .played reply args ret → args.tureOfTcp = 1 ∧
      LastChannel (str "track0") turns args.sig0 ∧ LastChannel (str "track1") turns args.sig2) :
    Interleaved (turns ++ [turn]) where
  echo := by
    intro other hmem
    rcases List.mem_append.mp hmem with hmem | hmem
    · exact h.echo other hmem
    · obtain rfl := List.mem_singleton.mp hmem
      exact hecho
  play := by
    intro before other after hsplit
    obtain ⟨after', hbefore⟩ | ⟨rfl, rfl⟩ := split_concat hsplit
    · exact h.play before other after' hbefore
    · exact hplay

theorem Interleaved.append_silent {turns : List Handled} (h : Interleaved turns) {turn : Handled}
    (hsilent : (∃ reply, turn.outcome = .closed reply) ∨
      ∃ reply, turn.outcome = .unauthorized reply) : Interleaved (turns ++ [turn]) := by
  apply h.append
  · intro t reply sockets heq
    rw [heq] at hsilent
    simp at hsilent
  · intro reply args ret heq
    rw [heq] at hsilent
    simp at hsilent

theorem LastChannel.of_sets {track : List UInt8} {turn : Handled} {a : Nat}
    (h : turn.Sets track a) (turns : List Handled) : LastChannel track (turns ++ [turn]) a :=
  .last rfl h fun _ hmem => absurd hmem List.not_mem_nil

theorem LastChannel.append {track : List UInt8} {turns : List Handled} {n : Int}
    (h : LastChannel track turns n) {turn : Handled} (hturn : ∀ a, ¬ turn.Sets track a) :
    LastChannel track (turns ++ [turn]) n := by
  cases h with
  | @last before after setter a hsplit hsets hlater =>
    have hsplit' : turns ++ [turn] = before ++ setter :: (after ++ [turn]) := by
      rw [hsplit, List.append_assoc, List.cons_append]
    apply LastChannel.last hsplit' hsets
    intro later hmem
    rcases List.mem_append.mp hmem with hmem | hmem
    · exact hlater later hmem
    · rw [List.mem_singleton.mp hmem]
      exact hturn
  | never hnone =>
    refine .never fun other hmem => ?_
    rcases List.mem_append.mp hmem with hmem | hmem
    · exact hnone other hmem
    · rw [List.mem_singleton.mp hmem]
      exact hturn

/-- The variables have the channels of the last SETUPs. -/
structure Thread.HasChannels (t : Thread) (turns : List Handled) : Prop where
  tcp : t.tureOfRtpTcp = 1
  video : LastChannel (str "track0") turns t.sig0
  audio : LastChannel (str "track1") turns t.sig2

def Served.Channels (s : Served) : Prop :=
  Interleaved s.turns ∧ ∀ t ∈ s.thread, t.HasChannels s.turns

theorem channels_start (filename localIp : List UInt8) :
    (Served.start filename localIp).Channels := by
  refine ⟨⟨?_, ?_⟩, ?_⟩
  · intro turn hmem
    exact absurd hmem List.not_mem_nil
  · intro before turn after hsplit
    exact absurd hsplit.symm (List.append_ne_nil_of_right_ne_nil _ (List.cons_ne_nil _ _))
  · rintro t ⟨⟩
    exact ⟨rfl, .never fun _ hmem => absurd hmem List.not_mem_nil,
      .never fun _ hmem => absurd hmem List.not_mem_nil⟩

theorem Thread.HasChannels.append {turns : List Handled} (h : t.HasChannels turns)
    {turn : Handled} (hturn : ∀ track a, ¬ turn.Sets track a) {t' : Thread}
    (hsame : SameChannels t t') : t'.HasChannels (turns ++ [turn]) where
  tcp := hsame.tcp.trans h.tcp
  video := by
    rw [hsame.sig0]
    exact h.video.append (hturn _)
  audio := by
    rw [hsame.sig2]
    exact h.audio.append (hturn _)

theorem Handled.Sets.baseName_eq {track : List UInt8} {turn : Handled} {a : Nat}
    (h : turn.Sets track a) (hasks : Asks turn.msg r) : r.IsSetup ∧ baseName r.url = track := by
  obtain ⟨r', hasks', hsetup, htrack, -⟩ := h
  obtain rfl : r = r' := hasks.unique hasks'
  exact ⟨hsetup, htrack⟩

theorem Thread.HasChannels.of_sets {turns : List Handled} (h : t.HasChannels turns)
    {turn : Handled} {a : Nat} (hturn : turn.Sets (baseName r.url) a) (hasks : Asks turn.msg r)
    (htrack : baseName r.url = str "track0" ∨ baseName r.url = str "track1")
    {t' : Thread} (hsets : SetsChannel r.url a t t') : t'.HasChannels (turns ++ [turn]) := by
  have hother : ∀ track, baseName r.url ≠ track → ∀ a', ¬ turn.Sets track a' :=
    fun track hne a' h' => hne (h'.baseName_eq hasks).2
  rcases htrack with htrack | htrack
  · obtain ⟨hsig0, hsig2⟩ := hsets.video htrack
    refine ⟨hsets.tcp, ?_, ?_⟩
    · rw [hsig0]
      rw [htrack] at hturn
      exact .of_sets hturn turns
    · rw [hsig2]
      apply h.audio.append
      exact hother _ (by rw [htrack]; decide)
  · obtain ⟨hsig0, hsig2⟩ := hsets.audio htrack
    refine ⟨hsets.tcp, ?_, ?_⟩
    · rw [hsig0]
      apply h.video.append
      exact hother _ (by rw [htrack]; decide)
    · rw [hsig2]
      rw [htrack] at hturn
      exact .of_sets hturn turns

/-- **One turn.** -/
theorem Served.Channels.step {s s' : Served} {label : World × List UInt8} (h : s.Channels)
    (hguard : TcpOnly conn s label) (hstep : Served.step conn s label = some s') :
    s'.Channels := by
  obtain ⟨w, msg⟩ := label
  obtain ⟨hinter, hthread⟩ := h
  obtain ⟨t, o, ht, ho, rfl⟩ := Served.step_eq_some hstep
  have hchannels := hthread t ht
  cases o with
  | closed reply =>
    exact ⟨hinter.append_silent (Or.inl ⟨reply, rfl⟩), fun t' hnext => absurd hnext (by rintro ⟨⟩)⟩
  | unauthorized reply =>
    refine ⟨hinter.append_silent (Or.inr ⟨reply, rfl⟩), fun t' hnext => ?_⟩
    obtain rfl := Option.some.inj hnext
    apply hchannels.append
    · rintro track a ⟨-, -, -, -, -, t₁, reply₁, sockets, heq⟩
      exact Outcome.noConfusion heq
    · exact ⟨rfl, rfl, rfl⟩
  | replied t₁ reply sockets =>
    obtain ⟨r, haccepts, hrespond⟩ := handleRequest_replied ho
    obtain ⟨hkeeps, hsets⟩ := respond_channels hchannels.tcp _ hrespond
    have hasks := haccepts.asks
    refine ⟨hinter.append ?_ ?_, fun t' hnext => ?_⟩
    · rintro _ _ _ heq r' a hasks' hsetup hasksTcp
      injection heq with _ hreply _
      subst hreply
      obtain rfl : r = r' := hasks.unique hasks'
      exact (hsets hsetup a hasksTcp).2
    · exact fun _ _ _ heq => Outcome.noConfusion heq
    · obtain rfl := Option.some.inj hnext
      by_cases hsetup : r.IsSetup
      · obtain ⟨htrack, a, hasksTcp⟩ := hguard r haccepts hsetup
        apply hchannels.of_sets (a := a) _ hasks htrack (hsets hsetup a hasksTcp).1
        exact ⟨r, hasks, hsetup, rfl, hasksTcp, _, _, _, rfl⟩
      · apply hchannels.append _ (hkeeps hsetup)
        exact fun track a hset => hsetup (hset.baseName_eq hasks).1
  | played reply args ret =>
    obtain ⟨r, -, hrespond⟩ := handleRequest_played ho
    obtain ⟨htcp, hsig0, hsig2⟩ := respond_channels hchannels.tcp _ hrespond
    refine ⟨hinter.append ?_ ?_, fun t' hnext => absurd hnext (by rintro ⟨⟩)⟩
    · exact fun _ _ _ heq => Outcome.noConfusion heq
    · intro _ _ _ heq
      injection heq with _ hargs _
      subst hargs
      rw [hsig0, hsig2]
      exact ⟨htcp, hchannels.video, hchannels.audio⟩

/-- **The channels are the ones that were asked for**, and the tracks those of the description. -/
theorem interleaved_reach (conn : Conn) (filename localIp : List UInt8) {s : Served}
    (h : Reach (Served.step conn) (TcpOnly conn) (.start filename localIp) s) :
    Interleaved s.turns ∧ AdvertisesTracks := by
  have hinv : s.Channels := by
    apply h.invariant (channels_start filename localIp)
    exact fun _ _ _ hinv hguard hstep => hinv.step hguard hstep
  exact ⟨hinv.1, advertisesTracks⟩

def trackUrl : List UInt8 := str "rtsp://10.0.0.1:8554/a.mp4/track0"

/-- A SETUP of the video with the channels 4 and 5. -/
def setupText : List UInt8 :=
  requestText (str "SETUP") trackUrl
    (str "CSeq: 2\r\nTransport: RTP/AVP/TCP;unicast;interleaved=4-5\r\n\r\n")

def setupRequest : Request :=
  ⟨setupText ++ [0], str "SETUP", trackUrl, 2,
    str "CSeq: 2\r\nTransport: RTP/AVP/TCP;unicast;interleaved=4-5\r\n\r\n" ++ [0]⟩

theorem tcpOnly_of_asks {msg : List UInt8} (hasks : Asks msg r)
    (h : r.IsSetup → (baseName r.url = str "track0" ∨ baseName r.url = str "track1") ∧
      ∃ a, AsksTcp r a) (s : Served) : TcpOnly conn s (w, msg) := by
  intro r' haccepts
  obtain rfl : r = r' := hasks.unique haccepts.asks
  exact h

set_option maxRecDepth 2048 in
theorem setupRequest_tcpOnly (conn : Conn) (w : World) (s : Served) :
    TcpOnly conn s (w, setupText) := by
  have hasks : Asks setupText setupRequest := rfl
  refine tcpOnly_of_asks hasks (fun _ => ⟨Or.inl (by decide +kernel), 4, by omega,
    str "Transport: RTP/AVP/TCP;unicast;interleaved=4-5\r", ?_, str "\r", ?_, ?_⟩) s
  · decide +kernel
  · simp
  · decide +kernel

set_option maxRecDepth 2048 in
/-- After the SETUP, PLAY has channel 4 for the video, and none for the audio. -/
theorem interleaved_setupRequest : ∃ s args, Reach (Served.step openConn) (TcpOnly openConn)
    (.start [] []) s ∧ (∃ turn ∈ s.turns, ∃ reply, turn.outcome = .played reply args 1) ∧
    args.sig0 = 4 ∧ args.sig2 = -1 ∧ Interleaved s.turns ∧ AdvertisesTracks := by
  have hplay : Asks (plainText (str "PLAY") trackUrl) (plainRequest (str "PLAY") trackUrl) := rfl
  have hmethod : ¬ (plainRequest (str "PLAY") trackUrl).IsSetup := by
    show str "PLAY" ≠ str "SETUP"
    decide
  have hrun : Reach (Served.step openConn) (TcpOnly openConn) (.start [] []) _ :=
    .of_runs_forall [(easyWorld, setupText), (easyWorld, plainText (str "PLAY") trackUrl)] (by
      intro label hmem s
      rcases List.mem_pair.mp hmem with rfl | rfl
      · exact setupRequest_tcpOnly openConn easyWorld s
      · exact tcpOnly_of_asks hplay (fun hsetup => absurd hsetup hmethod) s) rfl
  exact ⟨_, _, hrun, ⟨_, List.mem_cons_of_mem _ List.mem_cons_self, _, rfl⟩, rfl, rfl,
    interleaved_reach openConn [] [] hrun⟩

end SimpleRtsp

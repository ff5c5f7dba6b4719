import Mathlib.Data.List.DropRight
import SimpleRtsp.Lib.Transition
import SimpleRtsp.Rtsp.Replay
import SimpleRtsp.Rtsp.Sdp

/-!
# The file of a connection

An OPTIONS or a DESCRIBE should be about the file that its own URL names, and PLAY about a file that
was opened. The variables of `doClientThd` keep what earlier requests left in them: `path_tmp` is
appended to and never reset, DESCRIBE uses it as it is once a file was found, PLAY does not ask
whether one was, and where a URL has no host or a transport no channel, the values of an earlier
request remain. And a description names the second in which it was made. As long as no request reads
such a leftover and no DESCRIBE is repeated in another second (`Clean`), the connection is as it
should be (`sound_reach`).
-/

namespace SimpleRtsp

open CString

/-! ## What requests are about -/

/-- What is behind the last `/`. -/
def baseName (url : List UInt8) : List UInt8 := url.rtakeWhile (· ≠ 0x2F)

def fileOf (url : List UInt8) : List UInt8 := mp4Dir ++ baseName url

/-- The host of a URL with a port. -/
def hostOf (url : List UInt8) : Option (List UInt8) :=
  match sscanf url "rtsp://%[^:]:" with
  | .string s :: _ => some s
  | _ => none

def firstInt : List Arg → Option Int
  | .int n :: _ => some n
  | _ => none

/-- The first number of `interleaved=%d-%d` in a line. -/
def lineChannel (line : List UInt8) : Option Int :=
  if isTcp line then
    firstInt (sscanf (cstr line) "Transport: RTP/AVP/TCP;unicast;interleaved=%d-%d\r\n")
  else none

/-- The channel that a SETUP asks for. -/
def channelOf (r : Request) : Option Int :=
  match findTransport r.bufTmp with
  | .ok line => lineChannel line
  | .error _ => none

/-- The variable for the channel of the track of a SETUP. -/
def Thread.sigFor (t : Thread) (r : Request) : Int :=
  if (strrchr r.url 0x2F).any fun p => (str "track0").isPrefixOf p.tail then t.sig0 else t.sig2

/-- The reply to a request as the request and the files say it; `ip` is what `local_ip` held at the
start. -/
inductive Answer (conn : Conn) (ip : List UInt8) (w : World) (r : Request) : List UInt8 → Prop where
  | options : r.method = str "OPTIONS" → w.opens (fileOf r.url) = true →
      Answer conn ip w r (handleCmdOptions r.cseq)
  | describe {host sdp : List UInt8} : r.method = str "DESCRIBE" → hostOf r.url = some host →
      w.generateSDP (fileOf r.url) host = some sdp →
      Answer conn ip w r (handleCmdDescribe r.cseq r.url sdp)
  | setup : r.method = str "SETUP" → Answer conn ip w r (handleCmdSetupTcp r.cseq
      ((hostOf r.url).getD ip) conn.clientIp ((channelOf r).getD (-1)) conn.sessionId)

/-- The file of an OPTIONS or DESCRIBE is not there, or there is no description of it. -/
def NoFile (w : World) (r : Request) (reply : List UInt8) : Prop :=
  (r.method = str "OPTIONS" ∨ r.method = str "DESCRIBE") ∧
    (w.opens (fileOf r.url) = false ∧ reply = handleCmd404 r.cseq ∨
      (∃ host, hostOf r.url = some host ∧ w.generateSDP (fileOf r.url) host = none) ∧
        reply = handleCmd500 r.cseq)

/-! ## A connection as a system -/

structure Handled where
  w : World
  msg : List UInt8
  outcome : Outcome

/-- The variables while the connection lasts, and the requests that were handled. -/
structure Served where
  thread : Option Thread
  turns : List Handled

def Served.start (filename localIp : List UInt8) : Served := ⟨some (.init filename localIp), []⟩

def Served.step (conn : Conn) (s : Served) (label : World × List UInt8) : Option Served :=
  s.thread.bind fun t =>
    match handleRequest conn label.1 t label.2 with
    | .ok o => some ⟨o.next t, s.turns ++ [⟨label.1, label.2, o⟩]⟩
    | .error _ => none

theorem Served.step_eq_some {conn : Conn} {s s' : Served} {w : World} {msg : List UInt8}
    (h : Served.step conn s (w, msg) = some s') :
    ∃ t o, s.thread = some t ∧ handleRequest conn w t msg = .ok o ∧
      s' = ⟨o.next t, s.turns ++ [⟨w, msg, o⟩]⟩ := by
  obtain ⟨t, ht, h⟩ := Option.bind_eq_some_iff.mp h
  cases ho : handleRequest conn w t msg with
  | error fault => simp [ho] at h
  | ok o =>
    simp only [ho] at h
    exact ⟨t, o, ht, ho, (Option.some.inj h).symm⟩

/-- The files did not change; the clock may have. -/
def SameFiles (w w' : World) : Prop := w'.opens = w.opens ∧ w'.describes = w.describes

/-- A file was opened for an OPTIONS or a DESCRIBE that got its reply. -/
def Opened (turns : List Handled) (path : List UInt8) : Prop :=
  ∃ opener ∈ turns, ∃ r, Asks opener.msg r ∧
    (r.method = str "OPTIONS" ∨ r.method = str "DESCRIBE") ∧
    (∃ t reply sockets, opener.outcome = .replied t reply sockets) ∧
    path = fileOf r.url ∧ opener.w.opens path = true

/-- A connection as it should be. -/
structure Sound (conn : Conn) (ip : List UInt8) (turns : List Handled) : Prop where
  answered : ∀ turn ∈ turns, ∀ t reply sockets, turn.outcome = .replied t reply sockets →
    ∃ r, Accepts conn turn.msg r ∧ Answer conn ip turn.w r reply
  refused : ∀ turn ∈ turns, ∀ reply, turn.outcome = .closed (some reply) →
    ∃ r, Accepts conn turn.msg r ∧ NoFile turn.w r reply
  repeats : turns.Pairwise fun turn later => later.msg = turn.msg → SameFiles turn.w later.w →
    ∀ t reply sockets, turn.outcome = .replied t reply sockets →
    ∃ t' sockets', later.outcome = .replied t' reply sockets'
  played : ∀ turn ∈ turns, ∀ reply a ret, turn.outcome = .played reply a ret →
    Opened turns a.pathFilename

/-- The request reads nothing that an earlier one left behind, or nothing at all. -/
structure ReadsOwn (ip : List UInt8) (t : Thread) (r : Request) : Prop where
  options : r.method = str "OPTIONS" → t.pathTmp = mp4Dir
  describe : r.method = str "DESCRIBE" →
    (t.findflag ≠ 0 → t.pathTmp = fileOf r.url) ∧ hostOf r.url ≠ none
  setup : r.method = str "SETUP" →
    (hostOf r.url = none → t.localIp = ip) ∧ (channelOf r = none → t.sigFor r = -1)
  play : r.method = str "PLAY" → t.findflag ≠ 0

/-- A DESCRIBE that got its reply before comes in the same second. -/
def SameSecond (turns : List Handled) (w : World) (msg : List UInt8) (r : Request) : Prop :=
  r.method = str "DESCRIBE" → ∀ turn ∈ turns, turn.msg = msg →
    (∃ t reply sockets, turn.outcome = .replied t reply sockets) → w.time = turn.w.time

def Clean (ip : List UInt8) (s : Served) (label : World × List UInt8) : Prop :=
  ∀ t ∈ s.thread, ∀ r, Asks label.2 r → ReadsOwn ip t r ∧ SameSecond s.turns label.1 label.2 r

/-! ## What the handlers do -/

theorem strrchr_eq_some {s p : List UInt8} {c : UInt8} (h : strrchr s c = some p) :
    ∃ front rest, s = front ++ c :: rest ∧ p = c :: rest ∧ c ∉ rest := by
  induction s generalizing p with
  | nil => cases h
  | cons b s ih =>
    rw [strrchr] at h
    cases hrest : strrchr s c with
    | some q =>
      rw [hrest, Option.some_or] at h
      obtain rfl := Option.some.inj h
      obtain ⟨front, rest, rfl, hq, hnot⟩ := ih hrest
      exact ⟨b :: front, rest, rfl, hq, hnot⟩
    | none =>
      rw [hrest, Option.none_or] at h
      split_ifs at h with hb
      obtain rfl := Option.some.inj h
      subst hb
      exact ⟨[], s, rfl, rfl, strrchr_eq_none.mp hrest⟩

theorem strrchr_tail {url p : List UInt8} (h : strrchr url 0x2F = some p) :
    p.tail = baseName url := by
  obtain ⟨front, rest, rfl, rfl, hnot⟩ := strrchr_eq_some h
  have hall : ∀ b ∈ rest.reverse, decide (b ≠ 0x2F) = true := by
    intro b hb
    simpa using fun heq : b = 0x2F => hnot (heq ▸ List.mem_reverse.mp hb)
  rw [baseName, List.rtakeWhile, List.reverse_append, List.reverse_cons, List.append_assoc,
    List.takeWhile_append_of_pos hall]
  simp

theorem findFile_gives (t : Thread) (url : List UInt8) :
    Gives (· = { t with filename := baseName url, pathTmp := t.pathTmp ++ baseName url })
      (t.findFile url) := by
  rw [Thread.findFile]
  split
  · exact .error _
  · rename_i p hp
    refine .bind (store_gives _ _ _) ?_
    rintro _ rfl
    rw [strrchr_tail hp]
    exact .ok rfl

theorem readLocalIp_gives (size : Nat) (url ip : List UInt8) :
    Gives (· = (hostOf url).getD ip) (readLocalIp size url ip) := by
  rw [readLocalIp, hostOf]
  cases sscanf url "rtsp://%[^:]:" with
  | nil => exact .ok rfl
  | cons arg args =>
    cases arg with
    | int n => exact .ok rfl
    | string s => exact store_gives _ _ _

/-- What a turn that goes on leaves for the next request. -/
structure Leaves (w : World) (r : Request) (t t' : Thread) : Prop where
  tcp : t'.tureOfRtpTcp = t.tureOfRtpTcp
  path : t'.path = t.path
  fresh : t'.findflag = 0 → t.findflag = 0 ∧ t'.pathTmp = t.pathTmp
  described : r.method = str "DESCRIBE" → t'.findflag ≠ 0
  found : t'.findflag ≠ 0 → t.findflag ≠ 0 ∧ t'.filename = t.filename ∨
    t'.filename = baseName r.url ∧ w.opens (fileOf r.url) = true ∧
      (r.method = str "OPTIONS" ∨ r.method = str "DESCRIBE")

/-- How a request that is accepted can end. -/
inductive Ends (conn : Conn) (ip : List UInt8) (w : World) (t : Thread) (r : Request) :
    Outcome → Prop where
  | replied {t' : Thread} {reply : List UInt8} : Answer conn ip w r reply → Leaves w r t t' →
      Ends conn ip w t r (.replied t' reply none)
  | missing : (r.method = str "OPTIONS" ∨ r.method = str "DESCRIBE" ∧ t.findflag = 0) →
      w.opens (fileOf r.url) = false → Ends conn ip w t r (.closed (some (handleCmd404 r.cseq)))
  | broken {host : List UInt8} : r.method = str "DESCRIBE" → hostOf r.url = some host →
      w.generateSDP (fileOf r.url) host = none →
      Ends conn ip w t r (.closed (some (handleCmd500 r.cseq)))
  | unknown : r.method ≠ str "OPTIONS" → r.method ≠ str "DESCRIBE" → r.method ≠ str "SETUP" →
      Ends conn ip w t r (.closed none)
  | played {reply : List UInt8} {a : AddArgs} {ret : Int} : r.method = str "PLAY" →
      a.pathFilename = t.path ++ t.filename → t.findflag ≠ 0 →
      Ends conn ip w t r (.played reply a ret)

variable {conn : Conn} {ip : List UInt8} {w : World} {t : Thread} {r : Request}

theorem handleOptions_gives (hmethod : r.method = str "OPTIONS") (hown : ReadsOwn ip t r) :
    Gives (Ends conn ip w t r) (handleOptions w t r) := by
  refine .bind (findFile_gives t r.url) ?_
  rintro _ rfl
  have hpath : t.pathTmp ++ baseName r.url = fileOf r.url := by rw [hown.options hmethod]; rfl
  dsimp only
  rw [hpath]
  split_ifs with hopens
  · refine .ok (.replied (.options hmethod hopens) ?_)
    exact ⟨rfl, rfl, fun h => absurd h one_ne_zero, fun _ => one_ne_zero,
      fun _ => Or.inr ⟨rfl, hopens, Or.inl hmethod⟩⟩
  · exact .ok (.missing (Or.inl hmethod) (by simpa using hopens))

theorem handleDescribe_gives (hmethod : r.method = str "DESCRIBE") (hown : ReadsOwn ip t r)
    (hfresh : t.findflag = 0 → t.pathTmp = mp4Dir) :
    Gives (Ends conn ip w t r) (handleDescribe w t r) := by
  obtain ⟨hpath, hhost⟩ := hown.describe hmethod
  obtain ⟨host, hhost⟩ := Option.ne_none_iff_exists'.mp hhost
  have hdescribe : Gives (fun t' => t'.pathTmp = fileOf r.url ∧
      t'.tureOfRtpTcp = t.tureOfRtpTcp ∧ t'.path = t.path ∧
      (t.findflag ≠ 0 → t'.filename = t.filename) ∧
      (t.findflag = 0 → t'.filename = baseName r.url)) (t.describeFile r.url) := by
    rw [Thread.describeFile]
    split_ifs with hflag
    · refine (findFile_gives t r.url).mono ?_
      rintro _ rfl
      refine ⟨?_, rfl, rfl, fun h => absurd hflag h, fun _ => rfl⟩
      dsimp only
      rw [hfresh hflag]
      rfl
    · exact .ok ⟨hpath hflag, rfl, rfl, fun _ => rfl, fun h => absurd h hflag⟩
  refine .bind hdescribe ?_
  rintro t' ⟨hfile, htcp, hpath', hold, hnew⟩
  rw [hfile]
  split_ifs with hmissing
  · exact .ok (.missing (Or.inr ⟨hmethod, hmissing.1⟩) (by simpa using hmissing.2))
  · refine .bind (readLocalIp_gives 100 r.url w.localIp) ?_
    rintro _ rfl
    rw [hhost, Option.getD_some]
    split
    · rename_i hnone
      exact .ok (.broken hmethod hhost hnone)
    · rename_i sdp hsome
      refine .ok (.replied (.describe hmethod hhost hsome) ?_)
      refine ⟨htcp, hpath', fun h => absurd h one_ne_zero, fun _ => one_ne_zero, fun _ => ?_⟩
      by_cases hflag : t.findflag = 0
      · have hopens : w.opens (fileOf r.url) = true := by
          by_contra hnot
          exact hmissing ⟨hflag, by simpa using hnot⟩
        exact Or.inr ⟨hnew hflag, hopens, Or.inr hmethod⟩
      · exact Or.inl ⟨hflag, hold hflag⟩

/-- The variables for the file and the host are the same. -/
structure SameFile (t t' : Thread) : Prop where
  path : t'.path = t.path
  pathTmp : t'.pathTmp = t.pathTmp
  filename : t'.filename = t.filename
  findflag : t'.findflag = t.findflag
  localIp : t'.localIp = t.localIp

theorem intArg_zero (args : List Arg) (old : Int) :
    Thread.intArg args 0 old = (firstInt args).getD old := by
  cases args with
  | nil => rfl
  | cons arg args => cases arg <;> rfl

theorem parseTransport_spec (htcp : t.tureOfRtpTcp = 1) (track0 : Bool) (line : List UInt8) :
    SameFile t (t.parseTransport track0 line) ∧ (t.parseTransport track0 line).tureOfRtpTcp = 1 ∧
      (if track0 then (t.parseTransport track0 line).sig0
        else (t.parseTransport track0 line).sig2) =
        (lineChannel line).getD (if track0 then t.sig0 else t.sig2) := by
  rw [Thread.parseTransport, lineChannel]
  by_cases hline : isTcp line = true
  · rw [if_pos hline, if_pos hline]
    refine ⟨?_, rfl, ?_⟩
    · cases track0 <;> exact ⟨rfl, rfl, rfl, rfl, rfl⟩
    · cases track0 <;> exact intArg_zero _ _
  · -- the ports are no part of this
    have hports : ∀ args, SameFile t (t.setClientPorts track0 args) ∧
        (t.setClientPorts track0 args).tureOfRtpTcp = 1 ∧
        (if track0 then (t.setClientPorts track0 args).sig0
          else (t.setClientPorts track0 args).sig2) = if track0 then t.sig0 else t.sig2 := by
      intro args
      cases track0 <;> exact ⟨⟨rfl, rfl, rfl, rfl, rfl⟩, htcp, rfl⟩
    rw [if_neg hline, if_neg hline]
    by_cases hudp : isUdp line = true
    · rw [if_pos hudp]
      exact hports _
    · rw [if_neg hudp]
      exact hports _

theorem setupTransport_gives (htcp : t.tureOfRtpTcp = 1) :
    Gives (fun x => SameFile t x.1 ∧ x.1.tureOfRtpTcp = 1 ∧
      (if x.2 then x.1.sig0 else x.1.sig2) = (channelOf r).getD (t.sigFor r))
      (setupTransport t r) := by
  rw [setupTransport, channelOf, Thread.sigFor]
  cases strrchr r.url 0x2F with
  | none => exact .error _
  | some p =>
    dsimp only
    cases findTransport r.bufTmp with
    | error fault => exact .error fault
    | ok line => exact .ok (parseTransport_spec htcp _ line)

theorem handleSetup_gives (hmethod : r.method = str "SETUP") (hown : ReadsOwn ip t r)
    (htcp : t.tureOfRtpTcp = 1) :
    Gives (Ends conn ip w t r) (setupTransport t r >>= fun x => handleSetup conn w x.1 x.2 r) := by
  obtain ⟨hip, hsig⟩ := hown.setup hmethod
  refine (setupTransport_gives htcp).bind ?_
  rintro ⟨t', track0⟩ ⟨hsame, htcp', hchannel⟩
  dsimp only at hsame htcp' hchannel ⊢
  rw [handleSetup, if_neg (by omega), if_pos htcp']
  refine .bind (readLocalIp_gives 40 r.url t'.localIp) ?_
  rintro _ rfl
  have hhost : (hostOf r.url).getD t'.localIp = (hostOf r.url).getD ip := by
    cases hhost : hostOf r.url with
    | none => rw [Option.getD_none, Option.getD_none, hsame.localIp, hip hhost]
    | some host => rfl
  have hread : (if track0 then t'.sig0 else t'.sig2) = (channelOf r).getD (-1) := by
    cases hchannel' : channelOf r with
    | none => rw [hchannel, hchannel', Option.getD_none, Option.getD_none, hsig hchannel']
    | some n => rw [hchannel, hchannel', Option.getD_some, Option.getD_some]
  rw [hhost]
  refine .ok ?_
  dsimp only
  rw [hread]
  refine .replied (.setup hmethod) ⟨htcp'.trans htcp.symm, hsame.path, ?_, ?_, ?_⟩
  · exact fun h => ⟨hsame.findflag ▸ h, hsame.pathTmp⟩
  · intro hdescribe
    rw [hmethod] at hdescribe
    exact absurd hdescribe (by decide)
  · exact fun h => Or.inl ⟨hsame.findflag ▸ h, hsame.filename⟩

theorem handlePlay_gives (hmethod : r.method = str "PLAY") (hown : ReadsOwn ip t r) :
    Gives (Ends conn ip w t r) (handlePlay conn w t r) := by
  refine .bind (store_gives _ _ _) ?_
  rintro _ rfl
  exact .ok (.played hmethod rfl (hown.play hmethod))

/-- **A clean request.** It ends as the request and the files say. -/
theorem respond_gives (hown : ReadsOwn ip t r) (htcp : t.tureOfRtpTcp = 1)
    (hfresh : t.findflag = 0 → t.pathTmp = mp4Dir) :
    Gives (Ends conn ip w t r) (respond conn w t r) := by
  rw [respond]
  split_ifs with hsetup hoptions hdescribe hplay
  · exact handleSetup_gives hsetup hown htcp
  · exact handleOptions_gives hoptions hown
  · exact handleDescribe_gives hdescribe hown hfresh
  · exact handlePlay_gives hplay hown
  · exact .ok (.unknown hoptions hdescribe hsetup)

theorem handleRequest_gives {msg : List UInt8} (hclean : ∀ r, Asks msg r → ReadsOwn ip t r)
    (htcp : t.tureOfRtpTcp = 1) (hfresh : t.findflag = 0 → t.pathTmp = mp4Dir) :
    Gives (fun o => (∃ reply, o = .unauthorized reply) ∨ o = .closed none ∨
      ∃ r, Accepts conn msg r ∧ Ends conn ip w t r o) (handleRequest conn w t msg) := by
  rw [handleRequest]
  cases hparse : parseRequest msg with
  | error fault => exact .error fault
  | ok found =>
    cases found with
    | none => exact .ok (Or.inr (Or.inl rfl))
    | some r =>
      change Gives _ (serve conn w t r)
      rw [serve]
      cases hpassed : authorize conn.auth conn.md5 conn.nonce r.recvBuf r.method with
      | error fault => exact .error fault
      | ok a =>
        cases a with
        | passed =>
          change Gives _ (respond conn w t r)
          refine (respond_gives (hclean r hparse) htcp hfresh).mono fun o ho => ?_
          exact Or.inr (Or.inr ⟨r, ⟨hparse, hpassed⟩, ho⟩)
        | missing => exact .ok (Or.inl ⟨_, rfl⟩)
        | rejected => exact .ok (Or.inr (Or.inl rfl))

/-! ## Whole connections -/

namespace Answer

variable {reply : List UInt8}

theorem method (h : Answer conn ip w r reply) :
    r.method = str "OPTIONS" ∨ r.method = str "DESCRIBE" ∨ r.method = str "SETUP" := by
  cases h with
  | options hmethod => exact Or.inl hmethod
  | describe hmethod => exact Or.inr (Or.inl hmethod)
  | setup hmethod => exact Or.inr (Or.inr hmethod)

theorem of_options (h : Answer conn ip w r reply) (hmethod : r.method = str "OPTIONS") :
    w.opens (fileOf r.url) = true ∧ reply = handleCmdOptions r.cseq := by
  cases h with
  | options _ hopens => exact ⟨hopens, rfl⟩
  | describe hother | setup hother =>
    rw [hmethod] at hother
    exact absurd hother (by decide)

theorem of_describe (h : Answer conn ip w r reply) (hmethod : r.method = str "DESCRIBE") :
    ∃ host sdp, hostOf r.url = some host ∧ w.generateSDP (fileOf r.url) host = some sdp ∧
      reply = handleCmdDescribe r.cseq r.url sdp := by
  cases h with
  | describe _ hhost hsdp => exact ⟨_, _, hhost, hsdp, rfl⟩
  | options hother | setup hother =>
    rw [hmethod] at hother
    exact absurd hother (by decide)

theorem of_setup (h : Answer conn ip w r reply) (hmethod : r.method = str "SETUP") :
    reply = handleCmdSetupTcp r.cseq ((hostOf r.url).getD ip) conn.clientIp
      ((channelOf r).getD (-1)) conn.sessionId := by
  cases h with
  | setup => rfl
  | options hother | describe hother =>
    rw [hmethod] at hother
    exact absurd hother (by decide)

theorem generateSDP_eq {w' : World} (hsame : SameFiles w w') (htime : w'.time = w.time) :
    w'.generateSDP = w.generateSDP := by
  funext path localIp
  rw [World.generateSDP, World.generateSDP, hsame.2, htime]

/-- The files decide the reply, and for a description the clock. -/
theorem unique {w' : World} {reply' : List UInt8} (h : Answer conn ip w r reply)
    (h' : Answer conn ip w' r reply') (hsame : SameFiles w w')
    (htime : r.method = str "DESCRIBE" → w'.time = w.time) : reply' = reply := by
  rcases h.method with hmethod | hmethod | hmethod
  · rw [(h.of_options hmethod).2, (h'.of_options hmethod).2]
  · obtain ⟨host, sdp, hhost, hsdp, rfl⟩ := h.of_describe hmethod
    obtain ⟨host', sdp', hhost', hsdp', rfl⟩ := h'.of_describe hmethod
    obtain rfl := Option.some.inj (hhost.symm.trans hhost')
    rw [generateSDP_eq hsame (htime hmethod), hsdp] at hsdp'
    rw [Option.some.inj hsdp']
  · rw [h.of_setup hmethod, h'.of_setup hmethod]

theorem again {w' : World} {o : Outcome} (h : Answer conn ip w r reply) (hsame : SameFiles w w')
    (htime : r.method = str "DESCRIBE" → w'.time = w.time)
    (hfound : r.method = str "DESCRIBE" → t.findflag ≠ 0) (hends : Ends conn ip w' t r o) :
    ∃ t', o = .replied t' reply none := by
  cases hends with
  | replied h' => exact ⟨_, by rw [h.unique h' hsame htime]⟩
  | missing hmethod hclosed =>
    rcases hmethod with hmethod | ⟨hmethod, hflag⟩
    · rw [hsame.1, (h.of_options hmethod).1] at hclosed
      cases hclosed
    · exact absurd hflag (hfound hmethod)
  | broken hmethod hhost hnone =>
    obtain ⟨host, sdp, hhost', hsdp, -⟩ := h.of_describe hmethod
    obtain rfl := Option.some.inj (hhost.symm.trans hhost')
    rw [generateSDP_eq hsame (htime hmethod), hsdp] at hnone
    cases hnone
  | unknown hoptions hdescribe hsetup => exact absurd h.method (by tauto)
  | played hplay =>
    rcases h.method with hmethod | hmethod | hmethod <;> rw [hmethod] at hplay <;>
      exact absurd hplay (by decide)

end Answer

/-- The connection lasts, with these variables. -/
structure Lasting (t : Thread) (turns : List Handled) : Prop where
  tcp : t.tureOfRtpTcp = 1
  path : t.path = mp4Dir
  fresh : t.findflag = 0 → t.pathTmp = mp4Dir
  found : t.findflag ≠ 0 → Opened turns (mp4Dir ++ t.filename)
  described : ∀ turn ∈ turns, ∀ t' reply sockets, turn.outcome = .replied t' reply sockets →
    ∀ r, Asks turn.msg r → r.method = str "DESCRIBE" → t.findflag ≠ 0

theorem Opened.append {turns : List Handled} {path : List UInt8} (h : Opened turns path)
    (turn : Handled) : Opened (turns ++ [turn]) path := by
  obtain ⟨opener, hmem, hrest⟩ := h
  exact ⟨opener, List.mem_append_left _ hmem, hrest⟩

theorem Sound.append {turns : List Handled} (h : Sound conn ip turns) {turn : Handled}
    (hanswered : ∀ t reply sockets, turn.outcome = .replied t reply sockets →
      ∃ r, Accepts conn turn.msg r ∧ Answer conn ip turn.w r reply)
    (hrefused : ∀ reply, turn.outcome = .closed (some reply) →
      ∃ r, Accepts conn turn.msg r ∧ NoFile turn.w r reply)
    (hrepeats : ∀ earlier ∈ turns, turn.msg = earlier.msg → SameFiles earlier.w turn.w →
      ∀ t reply sockets, earlier.outcome = .replied t reply sockets →
      ∃ t' sockets', turn.outcome = .replied t' reply sockets')
    (hplayed : ∀ reply a ret, turn.outcome = .played reply a ret → Opened turns a.pathFilename) :
    Sound conn ip (turns ++ [turn]) where
  answered := by
    intro other hmem
    rcases List.mem_append.mp hmem with hmem | hmem
    · exact h.answered other hmem
    · obtain rfl := List.mem_singleton.mp hmem
      exact hanswered
  refused := by
    intro other hmem
    rcases List.mem_append.mp hmem with hmem | hmem
    · exact h.refused other hmem
    · obtain rfl := List.mem_singleton.mp hmem
      exact hrefused
  repeats := by
    rw [List.pairwise_append]
    refine ⟨h.repeats, List.pairwise_singleton _ _, ?_⟩
    intro earlier hmem later hlater
    obtain rfl := List.mem_singleton.mp hlater
    exact hrepeats earlier hmem
  played := by
    intro other hmem reply a ret hplay
    rcases List.mem_append.mp hmem with hmem | hmem
    · exact (h.played other hmem reply a ret hplay).append turn
    · obtain rfl := List.mem_singleton.mp hmem
      exact (hplayed reply a ret hplay).append other

def Served.Inv (conn : Conn) (ip : List UInt8) (s : Served) : Prop :=
  Sound conn ip s.turns ∧ ∀ t ∈ s.thread, Lasting t s.turns

theorem Lasting.append {turns : List Handled} (h : Lasting t turns) {turn : Handled}
    (hreply : ∀ t' reply sockets, turn.outcome ≠ .replied t' reply sockets) :
    Lasting t (turns ++ [turn]) where
  tcp := h.tcp
  path := h.path
  fresh := h.fresh
  found hflag := (h.found hflag).append turn
  described := by
    intro other hmem t' reply sockets ho
    rcases List.mem_append.mp hmem with hmem | hmem
    · exact h.described other hmem t' reply sockets ho
    · obtain rfl := List.mem_singleton.mp hmem
      exact absurd ho (hreply t' reply sockets)

theorem Lasting.replied {turns : List Handled} (h : Lasting t turns) {t' : Thread}
    {msg : List UInt8} {reply : List UInt8} (hasks : Asks msg r) (hleaves : Leaves w r t t') :
    Lasting t' (turns ++ [⟨w, msg, .replied t' reply none⟩]) where
  tcp := hleaves.tcp.trans h.tcp
  path := hleaves.path.trans h.path
  fresh hflag := by
    obtain ⟨hold, hsame⟩ := hleaves.fresh hflag
    rw [hsame, h.fresh hold]
  found hflag := by
    rcases hleaves.found hflag with ⟨hold, hsame⟩ | ⟨hname, hopens, hmethod⟩
    · rw [hsame]
      exact (h.found hold).append _
    · rw [hname]
      exact ⟨_, List.mem_append_right _ (List.mem_singleton_self _), r, hasks, hmethod,
        ⟨_, _, _, rfl⟩, rfl, hopens⟩
  described := by
    intro other hmem t'' reply' sockets ho r' hasks' hmethod hflag
    rcases List.mem_append.mp hmem with hmem | hmem
    · exact h.described other hmem t'' reply' sockets ho r' hasks' hmethod (hleaves.fresh hflag).1
    · obtain rfl := List.mem_singleton.mp hmem
      obtain rfl : r = r' := hasks.unique hasks'
      exact hleaves.described hmethod hflag

structure Outcome.Clean (conn : Conn) (ip : List UInt8) (w : World) (t : Thread)
    (turns : List Handled) (msg : List UInt8) (o : Outcome) : Prop where
  replied : ∀ t' reply sockets, o = .replied t' reply sockets →
    ∃ r, Accepts conn msg r ∧ Answer conn ip w r reply ∧ Leaves w r t t' ∧ sockets = none
  closed : ∀ reply, o = .closed (some reply) → ∃ r, Accepts conn msg r ∧ NoFile w r reply
  played : ∀ reply a ret, o = .played reply a ret → Opened turns a.pathFilename

theorem Outcome.Clean.of_silent {turns : List Handled} {msg : List UInt8} {o : Outcome}
    (h : (∃ reply, o = .unauthorized reply) ∨ o = .closed none) :
    o.Clean conn ip w t turns msg := by
  rcases h with ⟨reply, rfl⟩ | rfl
  · exact ⟨fun _ _ _ heq => Outcome.noConfusion heq, fun _ heq => Outcome.noConfusion heq,
      fun _ _ _ heq => Outcome.noConfusion heq⟩
  · refine ⟨fun _ _ _ heq => Outcome.noConfusion heq, fun _ heq => ?_, fun _ _ _ heq =>
      Outcome.noConfusion heq⟩
    injection heq with heq
    cases heq

theorem Ends.clean {msg : List UInt8} {o : Outcome} (h : Ends conn ip w t r o)
    (haccepts : Accepts conn msg r) {turns : List Handled} (hlast : Lasting t turns) :
    o.Clean conn ip w t turns msg := by
  cases h with
  | replied hanswer hleaves =>
    refine ⟨fun t' reply sockets heq => ?_, fun _ heq => Outcome.noConfusion heq, fun _ _ _ heq =>
      Outcome.noConfusion heq⟩
    injection heq with ht hreply hsockets
    exact ⟨r, haccepts, hreply ▸ hanswer, ht ▸ hleaves, hsockets.symm⟩
  | missing hmethod hclosed =>
    refine ⟨fun _ _ _ heq => Outcome.noConfusion heq, fun reply heq => ?_, fun _ _ _ heq =>
      Outcome.noConfusion heq⟩
    injection heq with heq
    exact ⟨r, haccepts, hmethod.imp_right And.left, Or.inl ⟨hclosed, (Option.some.inj heq).symm⟩⟩
  | broken hmethod hhost hnone =>
    refine ⟨fun _ _ _ heq => Outcome.noConfusion heq, fun reply heq => ?_, fun _ _ _ heq =>
      Outcome.noConfusion heq⟩
    injection heq with heq
    exact ⟨r, haccepts, Or.inr hmethod, Or.inr ⟨⟨_, hhost, hnone⟩, (Option.some.inj heq).symm⟩⟩
  | unknown => exact .of_silent (Or.inr rfl)
  | played hmethod hpath hflag =>
    refine ⟨fun _ _ _ heq => Outcome.noConfusion heq, fun _ heq => Outcome.noConfusion heq,
      fun reply a ret heq => ?_⟩
    injection heq with _ ha _
    rw [← ha, hpath, hlast.path]
    exact hlast.found hflag

/-- **One turn.** -/
theorem Served.Inv.step {s s' : Served} {label : World × List UInt8} (h : s.Inv conn ip)
    (hclean : Clean ip s label) (hstep : Served.step conn s label = some s') : s'.Inv conn ip := by
  obtain ⟨w, msg⟩ := label
  obtain ⟨hsound, hlasting⟩ := h
  obtain ⟨t, o, ht, ho, rfl⟩ := Served.step_eq_some hstep
  have hlast := hlasting t ht
  have hfits : o.Clean conn ip w t s.turns msg := by
    rcases handleRequest_gives (fun r hasks => (hclean t ht r hasks).1) hlast.tcp hlast.fresh o
      ho with
      ⟨reply, rfl⟩ | rfl | ⟨r, haccepts, hends⟩
    · exact .of_silent (Or.inl ⟨reply, rfl⟩)
    · exact .of_silent (Or.inr rfl)
    · exact hends.clean haccepts hlast
  constructor
  · refine hsound.append (fun t' reply sockets heq => ?_) hfits.closed ?_ hfits.played
    · obtain ⟨r, haccepts, hanswer, -⟩ := hfits.replied t' reply sockets heq
      exact ⟨r, haccepts, hanswer⟩
    · intro earlier hmem hmsg hsame t' reply sockets heq
      obtain ⟨r, haccepts, hanswer⟩ := hsound.answered earlier hmem t' reply sockets heq
      have hdescribed := hlast.described earlier hmem t' reply sockets heq r haccepts.asks
      rw [← hmsg] at haccepts
      obtain ⟨hown, hsecond⟩ := hclean t ht r haccepts.asks
      have htime : r.method = str "DESCRIBE" → w.time = earlier.w.time :=
        fun hmethod => hsecond hmethod earlier hmem hmsg.symm ⟨t', reply, sockets, heq⟩
      have hrespond : respond conn w t r = .ok o := (haccepts.handleRequest w t).symm.trans ho
      obtain ⟨t'', rfl⟩ := hanswer.again hsame htime hdescribed
        (respond_gives hown hlast.tcp hlast.fresh o hrespond)
      exact ⟨t'', none, rfl⟩
  · intro t' hnext
    cases o with
    | closed reply => cases hnext
    | unauthorized reply =>
      obtain rfl := Option.some.inj hnext
      exact hlast.append fun _ _ _ heq => Outcome.noConfusion heq
    | replied t₁ reply sockets =>
      obtain rfl := Option.some.inj hnext
      obtain ⟨r, haccepts, -, hleaves, rfl⟩ := hfits.replied t₁ reply sockets rfl
      exact hlast.replied haccepts.asks hleaves
    | played reply a ret => cases hnext

def plainText (method url : List UInt8) : List UInt8 :=
  requestText method url (str "CSeq: 1\r\n\r\n")

/-- The request that it is. -/
def plainRequest (method url : List UInt8) : Request :=
  ⟨plainText method url ++ [0], method, url, 1, str "CSeq: 1\r\n\r\n" ++ [0]⟩

end SimpleRtsp

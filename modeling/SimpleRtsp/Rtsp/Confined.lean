import SimpleRtsp.Rtsp.Paths

/-!
# The directory of the files

`path_tmp` grows by a part of a URL with every OPTIONS, and `doClientThd` opens what it holds. Each
part is what is behind the last `/` of a URL, so `path_tmp` never gets a `/` beyond the one of
`mp4path/` (`Thread.Inside`), whatever requests a connection makes: every path that is opened,
described or played is one entry of that directory, `.` and `..` among them (`confines_reach`).
-/

namespace SimpleRtsp

open CString

/-- A path to an entry of the directory of the files. -/
def Confined (path : List UInt8) : Prop := ∃ name, path = mp4Dir ++ name ∧ 0x2F ∉ name

/-! ## The paths of a request -/

/-- A request makes `doClientThd` call `open` with this path. -/
inductive Opens (conn : Conn) (t : Thread) (msg : List UInt8) : List UInt8 → Prop where
  | options {r : Request} {t' : Thread} : Accepts conn msg r → r.method = str "OPTIONS" →
      t.findFile r.url = .ok t' → Opens conn t msg t'.pathTmp
  | describe {r : Request} {t' : Thread} : Accepts conn msg r → r.method = str "DESCRIBE" →
      t.findflag = 0 → t.findFile r.url = .ok t' → Opens conn t msg t'.pathTmp

/-- A request makes it call `generateSDP` with this path and this address. -/
inductive Describes (conn : Conn) (w : World) (t : Thread) (msg : List UInt8) :
    List UInt8 → List UInt8 → Prop where
  | describe {r : Request} {t' : Thread} {localIp : List UInt8} : Accepts conn msg r →
      r.method = str "DESCRIBE" → t.describeFile r.url = .ok t' →
      (t.findflag = 0 → w.opens t'.pathTmp = true) →
      readLocalIp 100 r.url w.localIp = .ok localIp →
      Describes conn w t msg t'.pathTmp localIp

/-- An OPTIONS or a DESCRIBE has set the file name. -/
def FilenameSet (turns : List Handled) : Prop :=
  ∃ turn ∈ turns, ∃ r, Asks turn.msg r ∧
    (r.method = str "OPTIONS" ∨ r.method = str "DESCRIBE") ∧
    ∃ t reply sockets, turn.outcome = .replied t reply sockets

/-- What comes of a request behind these turns stays in the directory. -/
structure Confines (conn : Conn) (w : World) (t : Thread) (turns : List Handled)
    (msg : List UInt8) : Prop where
  opens : ∀ path, Opens conn t msg path → Confined path
  describes : ∀ path localIp, Describes conn w t msg path localIp → Confined path
  plays : FilenameSet turns → ∀ reply a ret,
    handleRequest conn w t msg = .ok (.played reply a ret) → Confined a.pathFilename

/-! ## These are all the paths -/

variable {conn : Conn} {w w' : World} {t : Thread} {msg : List UInt8}

theorem handleOptions_congr {r : Request}
    (hopens : ∀ t', t.findFile r.url = .ok t' → w'.opens t'.pathTmp = w.opens t'.pathTmp) :
    handleOptions w' t r = handleOptions w t r := by
  rw [handleOptions, handleOptions]
  cases hfile : t.findFile r.url with
  | error fault => rfl
  | ok t' =>
    rw [ok_bind, ok_bind, hopens t' hfile]

theorem handleDescribe_congr {r : Request} (hip : w'.localIp = w.localIp)
    (hopens : ∀ t', t.findflag = 0 → t.findFile r.url = .ok t' →
      w'.opens t'.pathTmp = w.opens t'.pathTmp)
    (hdescribes : ∀ t' localIp, t.describeFile r.url = .ok t' →
      (t.findflag = 0 → w.opens t'.pathTmp = true) →
      readLocalIp 100 r.url w.localIp = .ok localIp →
      w'.generateSDP t'.pathTmp localIp = w.generateSDP t'.pathTmp localIp) :
    handleDescribe w' t r = handleDescribe w t r := by
  rw [handleDescribe, handleDescribe, hip]
  cases hfile : t.describeFile r.url with
  | error fault => rfl
  | ok t' =>
    rw [ok_bind, ok_bind]
    have hsame : (t.findflag = 0 ∧ (! w'.opens t'.pathTmp) = true) ↔
        (t.findflag = 0 ∧ (! w.opens t'.pathTmp) = true) := by
      apply and_congr_right
      intro hflag
      rw [Thread.describeFile, if_pos hflag] at hfile
      rw [hopens t' hflag hfile]
    by_cases hmissing : t.findflag = 0 ∧ (! w.opens t'.pathTmp) = true
    · rw [if_pos (hsame.mpr hmissing), if_pos hmissing]
    · rw [if_neg (mt hsame.mp hmissing), if_neg hmissing]
      cases hread : readLocalIp 100 r.url w.localIp with
      | error fault => rfl
      | ok localIp =>
        have hopen : t.findflag = 0 → w.opens t'.pathTmp = true := by
          intro hflag
          by_contra hnot
          exact hmissing ⟨hflag, by simpa using hnot⟩
        rw [ok_bind, ok_bind, hdescribes t' localIp hfile hopen hread]

/-- Worlds that agree on the paths of a request answer it in the same way. -/
theorem handleRequest_congr (hip : w'.localIp = w.localIp) (hsockets : w'.sockets = w.sockets)
    (hadd : w'.addClient = w.addClient)
    (hopens : ∀ path, Opens conn t msg path → w'.opens path = w.opens path)
    (hdescribes : ∀ path localIp, Describes conn w t msg path localIp →
      w'.generateSDP path localIp = w.generateSDP path localIp) :
    handleRequest conn w' t msg = handleRequest conn w t msg := by
  rw [handleRequest, handleRequest]
  cases hparse : parseRequest msg with
  | error fault => rfl
  | ok found =>
    cases found with
    | none => rfl
    | some r =>
      rw [ok_bind, ok_bind]
      dsimp only
      rw [serve, serve]
      cases hpassed : authorize conn.auth conn.md5 conn.nonce r.recvBuf r.method with
      | error fault => rfl
      | ok authorized =>
        rw [ok_bind, ok_bind]
        cases authorized with
        | missing => rfl
        | rejected => rfl
        | passed =>
          have haccepts : Accepts conn msg r := ⟨hparse, hpassed⟩
          dsimp only
          rw [respond, respond]
          split_ifs with hsetup hoptions hdescribe hplay
          · unfold handleSetup
            rw [hsockets]
          · apply handleOptions_congr
            exact fun t' hfile => hopens _ (.options haccepts hoptions hfile)
          · apply handleDescribe_congr hip
            · exact fun t' hflag hfile => hopens _ (.describe haccepts hdescribe hflag hfile)
            · exact fun t' localIp hfile hopen hread =>
                hdescribes _ _ (.describe haccepts hdescribe hfile hopen hread)
          · rw [handlePlay, handlePlay, hadd]
          · rfl

/-! ## What a request leaves -/

/-- The variables for the file are in the directory. -/
structure Thread.Inside (t : Thread) : Prop where
  tcp : t.tureOfRtpTcp = 1
  path : t.path = mp4Dir
  pathTmp : Confined t.pathTmp
  filename : t.findflag ≠ 0 → 0x2F ∉ t.filename

theorem not_mem_baseName (url : List UInt8) : 0x2F ∉ baseName url := by
  intro hmem
  have hne := List.mem_rtakeWhile_imp hmem
  simp at hne

theorem Confined.append {path name : List UInt8} (h : Confined path) (hname : 0x2F ∉ name) :
    Confined (path ++ name) := by
  obtain ⟨front, rfl, hfront⟩ := h
  refine ⟨front ++ name, List.append_assoc .., ?_⟩
  rw [List.mem_append, not_or]
  exact ⟨hfront, hname⟩

/-- What a URL sets. -/
structure Thread.Found (t t' : Thread) : Prop where
  tcp : t'.tureOfRtpTcp = t.tureOfRtpTcp
  path : t'.path = t.path
  pathTmp : Confined t'.pathTmp
  filename : 0x2F ∉ t'.filename

theorem findFile_found (h : Confined t.pathTmp) (url : List UInt8) :
    Gives t.Found (t.findFile url) := by
  refine (findFile_gives t url).mono ?_
  rintro _ rfl
  exact ⟨rfl, rfl, h.append (not_mem_baseName url), not_mem_baseName url⟩

theorem describeFile_found (h : t.Inside) (url : List UInt8) :
    Gives t.Found (t.describeFile url) := by
  rw [Thread.describeFile]
  split_ifs with hflag
  · exact findFile_found h.pathTmp url
  · exact .ok ⟨rfl, rfl, h.pathTmp, h.filename hflag⟩

theorem Thread.Found.inside {t' : Thread} (h : t.Found t') (ht : t.Inside) :
    ({ t' with findflag := 1 } : Thread).Inside :=
  ⟨h.tcp.trans ht.tcp, h.path.trans ht.path, h.pathTmp, fun _ => h.filename⟩

theorem SameFile.inside {t' : Thread} (h : SameFile t t') (ht : t.Inside)
    (htcp : t'.tureOfRtpTcp = 1) (localIp : List UInt8) :
    ({ t' with localIp := localIp } : Thread).Inside where
  tcp := htcp
  path := h.path.trans ht.path
  pathTmp := by
    show Confined t'.pathTmp
    rw [h.pathTmp]
    exact ht.pathTmp
  filename hflag := by
    show 0x2F ∉ t'.filename
    rw [h.filename]
    apply ht.filename
    rwa [← h.findflag]

/-- Where the loop goes on, the variables are still in the directory, and a file name that is set
stays set; a PLAY is for the file name. -/
def Outcome.StaysInside (t : Thread) (r : Request) : Outcome → Prop
  | .replied t' _ _ => t'.Inside ∧
      (t.findflag ≠ 0 ∨ r.method = str "OPTIONS" ∨ r.method = str "DESCRIBE" → t'.findflag ≠ 0)
  | .played _ a _ => a.pathFilename = t.path ++ t.filename
  | _ => True

theorem handleOptions_inside (h : t.Inside) (w : World) (r : Request) :
    Gives (Outcome.StaysInside t r) (handleOptions w t r) := by
  refine (findFile_found h.pathTmp r.url).bind fun t' ht' => ?_
  split_ifs
  · exact .ok ⟨ht'.inside h, fun _ => one_ne_zero⟩
  · exact .ok trivial

theorem handleDescribe_inside (h : t.Inside) (w : World) (r : Request) :
    Gives (Outcome.StaysInside t r) (handleDescribe w t r) := by
  refine (describeFile_found h r.url).bind fun t' ht' => ?_
  split_ifs
  · exact .ok trivial
  · refine .bind_any fun localIp => ?_
    split
    · exact .ok trivial
    · exact .ok ⟨ht'.inside h, fun _ => one_ne_zero⟩

theorem handleSetup_inside (h : t.Inside) (conn : Conn) (w : World) {r : Request}
    (hmethod : r.method = str "SETUP") : Gives (Outcome.StaysInside t r)
      (setupTransport t r >>= fun x => handleSetup conn w x.1 x.2 r) := by
  refine (setupTransport_gives h.tcp).bind ?_
  rintro ⟨t', track0⟩ ⟨hsame, htcp, -⟩
  dsimp only at hsame htcp ⊢
  rw [handleSetup, if_neg (by omega), if_pos htcp]
  refine .bind_any fun localIp => .ok ⟨hsame.inside h htcp localIp, ?_⟩
  rintro (hflag | hother)
  · show t'.findflag ≠ 0
    rwa [hsame.findflag]
  · rw [hmethod] at hother
    exact absurd hother (by decide)

theorem handlePlay_inside (t : Thread) (conn : Conn) (w : World) (r : Request) :
    Gives (Outcome.StaysInside t r) (handlePlay conn w t r) := by
  refine .bind (store_gives _ _ _) ?_
  rintro _ rfl
  exact .ok rfl

theorem respond_inside (h : t.Inside) (conn : Conn) (w : World) (r : Request) :
    Gives (Outcome.StaysInside t r) (respond conn w t r) := by
  rw [respond]
  split_ifs with hsetup
  · exact handleSetup_inside h conn w hsetup
  · exact handleOptions_inside h w r
  · exact handleDescribe_inside h w r
  · exact handlePlay_inside t conn w r
  · exact .ok trivial

/-! ## Whole connections -/

def Served.Inside (s : Served) : Prop :=
  ∀ t ∈ s.thread, t.Inside ∧ (FilenameSet s.turns → t.findflag ≠ 0)

theorem inside_start (filename localIp : List UInt8) : (Served.start filename localIp).Inside := by
  intro t ht
  obtain rfl := Option.some.inj ht
  have hdir : Confined mp4Dir := ⟨[], (List.append_nil _).symm, List.not_mem_nil⟩
  refine ⟨⟨rfl, rfl, hdir, fun h => absurd rfl h⟩, ?_⟩
  rintro ⟨turn, hmem, -⟩
  exact absurd hmem List.not_mem_nil

theorem FilenameSet.of_append {turns : List Handled} {turn : Handled}
    (h : FilenameSet (turns ++ [turn])) : FilenameSet turns ∨
      ∃ r, Asks turn.msg r ∧ (r.method = str "OPTIONS" ∨ r.method = str "DESCRIBE") ∧
        ∃ t reply sockets, turn.outcome = .replied t reply sockets := by
  obtain ⟨setter, hmem, hset⟩ := h
  rcases List.mem_append.mp hmem with hmem | hmem
  · exact Or.inl ⟨setter, hmem, hset⟩
  · obtain rfl := List.mem_singleton.mp hmem
    exact Or.inr hset

theorem handleRequest_responds {o : Outcome} (h : handleRequest conn w t msg = .ok o)
    (hclosed : ∀ reply, o ≠ .closed reply) (hauth : ∀ reply, o ≠ .unauthorized reply) :
    ∃ r, Accepts conn msg r ∧ respond conn w t r = .ok o := by
  obtain ⟨found, hparse, h⟩ := bind_eq_ok.mp h
  cases found with
  | none => exact absurd (Except.ok.inj h).symm (hclosed none)
  | some r =>
    obtain ⟨authorized, hpassed, h⟩ := bind_eq_ok.mp h
    cases authorized with
    | missing => exact absurd (Except.ok.inj h).symm (hauth _)
    | rejected => exact absurd (Except.ok.inj h).symm (hclosed none)
    | passed => exact ⟨r, ⟨hparse, hpassed⟩, h⟩

theorem handleRequest_replied {t' : Thread} {reply : List UInt8} {sockets : Option RtpSockets}
    (h : handleRequest conn w t msg = .ok (.replied t' reply sockets)) :
    ∃ r, Accepts conn msg r ∧ respond conn w t r = .ok (.replied t' reply sockets) :=
  handleRequest_responds h (fun _ heq => Outcome.noConfusion heq) fun _ heq =>
    Outcome.noConfusion heq

theorem handleRequest_played {reply : List UInt8} {a : AddArgs} {ret : Int}
    (h : handleRequest conn w t msg = .ok (.played reply a ret)) :
    ∃ r, Accepts conn msg r ∧ respond conn w t r = .ok (.played reply a ret) :=
  handleRequest_responds h (fun _ heq => Outcome.noConfusion heq) fun _ heq =>
    Outcome.noConfusion heq

/-- **One turn.** -/
theorem Served.Inside.step {s s' : Served} {label : World × List UInt8} (h : s.Inside)
    (hstep : Served.step conn s label = some s') : s'.Inside := by
  obtain ⟨w, msg⟩ := label
  obtain ⟨t, o, ht, ho, rfl⟩ := Served.step_eq_some hstep
  obtain ⟨hinside, hset⟩ := h t ht
  intro t' hnext
  cases o with
  | closed reply => cases hnext
  | unauthorized reply =>
    obtain rfl := Option.some.inj hnext
    refine ⟨hinside, fun hfilename => ?_⟩
    rcases hfilename.of_append with hbefore | ⟨r, -, -, t₁, reply₁, sockets, heq⟩
    · exact hset hbefore
    · exact Outcome.noConfusion heq
  | replied t₁ reply sockets =>
    obtain rfl := Option.some.inj hnext
    obtain ⟨r, haccepts, hrespond⟩ := handleRequest_replied ho
    obtain ⟨hnew, hkeeps⟩ := respond_inside hinside conn w r _ hrespond
    refine ⟨hnew, fun hfilename => hkeeps ?_⟩
    rcases hfilename.of_append with hbefore | ⟨r', hasks, hmethod, -⟩
    · exact Or.inl (hset hbefore)
    · obtain rfl : r = r' := haccepts.asks.unique hasks
      exact Or.inr hmethod
  | played reply a ret => cases hnext

theorem inside_reach {filename localIp : List UInt8} {s : Served}
    (h : Reach (Served.step conn) anyStep (.start filename localIp) s) : s.Inside :=
  h.invariant (inside_start filename localIp) fun _ _ _ hinv _ hstep => hinv.step hstep

theorem Thread.Inside.confines (h : t.Inside) {turns : List Handled}
    (hset : FilenameSet turns → t.findflag ≠ 0) (conn : Conn) (w : World) (msg : List UInt8) :
    Confines conn w t turns msg where
  opens := by
    rintro path (⟨-, -, hfile⟩ | ⟨-, -, -, hfile⟩)
    · exact (findFile_found h.pathTmp _ _ hfile).pathTmp
    · exact (findFile_found h.pathTmp _ _ hfile).pathTmp
  describes := by
    rintro path localIp ⟨-, -, hfile, -, -⟩
    exact (describeFile_found h _ _ hfile).pathTmp
  plays hfilename reply a ret hplay := by
    obtain ⟨r, -, hrespond⟩ := handleRequest_played hplay
    have hpath : a.pathFilename = t.path ++ t.filename := respond_inside h conn w r _ hrespond
    rw [hpath, h.path]
    exact ⟨t.filename, rfl, h.filename (hset hfilename)⟩

/-- **Nothing outside the directory.** After any requests of a connection, the next one makes
`doClientThd` open, describe and, if a file name is set, play only entries of `mp4path/`. -/
theorem confines_reach (conn : Conn) (filename localIp : List UInt8) {s : Served} {t : Thread}
    (h : Reach (Served.step conn) anyStep (.start filename localIp) s) (ht : s.thread = some t)
    (w : World) (msg : List UInt8) : Confines conn w t s.turns msg := by
  obtain ⟨hinside, hset⟩ := inside_reach h t ht
  exact hinside.confines hset conn w msg

/-- A URL with other directories in it. -/
def urlUp : List UInt8 := str "rtsp://10.0.0.1/../../etc/passwd"

set_option maxRecDepth 2048 in
/-- After an OPTIONS for it, `mp4path/passwd` is what the server is about. -/
theorem confines_urlUp : ∃ s t, Reach (Served.step openConn) anyStep (.start [] []) s ∧
    s.thread = some t ∧ t.pathTmp = str "mp4path/passwd" ∧
    Confines openConn easyWorld t s.turns (plainText (str "PLAY") urlUp) := by
  have hrun : Reach (Served.step openConn) anyStep (.start [] []) _ :=
    .of_runs [(easyWorld, plainText (str "OPTIONS") urlUp)] rfl
  exact ⟨_, _, hrun, rfl, rfl, confines_reach openConn [] [] hrun rfl easyWorld _⟩

end SimpleRtsp

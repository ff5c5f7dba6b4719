import SimpleRtsp.Lib.CppString

/-!
# The requests of the camera server

`RTSPSession::handle_request` looks for the name of a method anywhere in the text of a request, for
one after the other, and for the number behind `CSeq: ` anywhere as well. `Answers` is what a client
expects that sends a request line and header lines (`WellFormed`): the reply for its method with its
number, a stream only for PLAY, and never an exception. `answers_iff` says which requests get that:
those in which neither a name that is looked for earlier nor an earlier `CSeq: ` with another number
stands in the URL or a header, and whose number is an `int`. A request has only one method and one
number (`WellFormed.unique`), so for a given request these are three conditions on its text
(`WellFormed.answered_iff`).
-/

namespace SimpleRtsp

namespace Camera

open CString

/-! ## The code -/

/-- The members of `RTSPSession` that a request is answered from. -/
structure RtspSession where
  rtspSessionId : List UInt8
  cseq : Int

/-- What `handle_request` does, in order. -/
inductive Act where
  /-- `socket_.send` -/
  | send (response : List UInt8)
  /-- `start_streaming` -/
  | startStreaming
  deriving DecidableEq

namespace RtspSession

variable (s : RtspSession)

/-- `send_response`. -/
def sendResponse (status headers body : List UInt8) : Act :=
  .send (str "RTSP/1.0 " ++ status ++ str "\r\nCSeq: " ++ decimal s.cseq ++ str "\r\n" ++ headers ++
    str "\r\nContent-Length: " ++ decimal body.length ++ str "\r\n\r\n" ++ body)

def sdp : List UInt8 :=
  str "v=0\r\no=- 0 0 IN IP4 127.0.0.1\r\ns=No Name\r\nc=IN IP4 127.0.0.1\r\nt=0 0\r\n" ++
    str "m=video 0 RTP/AVP 96\r\na=rtpmap:96 H264/90000\r\na=fmtp:96 packetization-mode=1\r\n" ++
    str "a=control:track0\r\n"

def handleOptions : List Act :=
  [s.sendResponse (str "200 OK") (str "Public: OPTIONS, DESCRIBE, SETUP, PLAY") []]

def handleDescribe : List Act :=
  [s.sendResponse (str "200 OK")
    (str "Content-Base: rtsp://172.19.186.55:8554/live\r\nContent-Type: application/sdp") sdp]

def handleSetup : List Act :=
  [.send (str "RTSP/1.0 200 OK\r\nCSeq: " ++ decimal s.cseq ++
    str "\r\nTransport: RTP/AVP/TCP;unicast;interleaved=0-1\r\nSession: " ++ s.rtspSessionId ++
    str "\r\n\r\n")]

def handlePlay : List Act :=
  [.send (str "RTSP/1.0 200 OK\r\nCSeq: " ++ decimal s.cseq ++
    str "\r\nRange: npt=0.000-\r\nSession: " ++ s.rtspSessionId ++ str "\r\n\r\n"),
    .startStreaming]

/-- The chain of `request.find`. -/
def dispatch (request : List UInt8) : List Act :=
  if find request (str "OPTIONS") then s.handleOptions
  else if find request (str "DESCRIBE") then s.handleDescribe
  else if find request (str "SETUP") then s.handleSetup
  else if find request (str "PLAY") then s.handlePlay
  else []

/-- `handle_request`; `request` is what `data_` holds of the given length. -/
def handleRequest (request : List UInt8) : Except StdException (RtspSession × List Act) := do
  let cseq ← match regexSearch (literalNumber (str "CSeq: ")) request with
    | some digits => stoi digits
    | none => pure 0
  let s := { s with cseq := cseq }
  return (s, s.dispatch request)

end RtspSession

/-! ## What a client expects -/

inductive Method where
  | options
  | describe
  | setup
  | play
  deriving DecidableEq

namespace Method

def name : Method → List UInt8
  | options => str "OPTIONS"
  | describe => str "DESCRIBE"
  | setup => str "SETUP"
  | play => str "PLAY"

/-- The methods whose names are looked for earlier. -/
def earlier : Method → List Method
  | options => []
  | describe => [options]
  | setup => [options, describe]
  | play => [options, describe, setup]

/-- What is done for a method. -/
def acts (s : RtspSession) : Method → List Act
  | options => s.handleOptions
  | describe => s.handleDescribe
  | setup => s.handleSetup
  | play => s.handlePlay

end Method

def sent (acts : List Act) : List (List UInt8) :=
  acts.filterMap fun act => match act with
    | .send response => some response
    | .startStreaming => none

/-- A letter in lower case. -/
def lower (b : UInt8) : UInt8 := if 0x41 ≤ b ∧ b ≤ 0x5A then b + 0x20 else b

/-- The name of a header is `CSeq`, in any case of its letters. -/
def isNumberLine (line : List UInt8) : Bool :=
  0x3A ∈ line && (line.takeWhile (· ≠ 0x3A)).map lower = str "cseq"

/-- The value of the header is this number, with blanks around it or without. -/
def HasNumber (line : List UInt8) (n : Nat) : Prop :=
  ∃ front digits back, line.dropWhile (· ≠ 0x3A) = 0x3A :: (front ++ digits ++ back) ∧
    (∀ b ∈ front ++ back, b = 0x20 ∨ b = 0x09) ∧ digits ≠ [] ∧ IsNumeral digits ∧
    numeral digits = n

/-- A request line with a method and a URL, and header lines of which one has the number. -/
def WellFormed (request : List UInt8) (m : Method) (n : Nat) : Prop :=
  ∃ (url : List UInt8) (lines : List (List UInt8)) (line : List UInt8),
    request = m.name ++ str " " ++ url ++ str " RTSP/1.0\r\n" ++
      lines.flatMap (· ++ str "\r\n") ++ str "\r\n" ∧
    url ≠ [] ∧ IsWord url ∧ (∀ l ∈ lines, l ≠ [] ∧ 0x0D ∉ l ∧ 0x0A ∉ l) ∧
    lines.filter isNumberLine = [line] ∧ HasNumber line n

/-- A well-formed request gets the reply for its method with its number, a stream starts only for
PLAY, and no request throws. -/
structure Answers (s : RtspSession) (request : List UInt8) : Prop where
  replies : ∀ m n, WellFormed request m n → ∃ s' acts, s.handleRequest request = .ok (s', acts) ∧
    sent acts = sent (m.acts { s with cseq := n }) ∧ (Act.startStreaming ∈ acts → m = .play)
  noThrow : ∀ e, s.handleRequest request ≠ .error e

/-- No name of a method that is looked for earlier stands in the request, the first `CSeq: ` with a
number behind it has the number of the request, and it is an `int`. -/
structure Clear (request : List UInt8) : Prop where
  method : ∀ m n, WellFormed request m n → ∀ m' ∈ m.earlier, ¬ m'.name <:+: request
  number : ∀ m n, WellFormed request m n → Numbered (str "CSeq: ") request n
  small : ∀ n, Numbered (str "CSeq: ") request n → n ≤ 0x7FFFFFFF

/-! ## The dispatch -/

theorem WellFormed.name_infix {request : List UInt8} {m : Method} {n : Nat}
    (h : WellFormed request m n) : m.name <:+: request := by
  obtain ⟨url, lines, line, rfl, -⟩ := h
  simp only [List.append_assoc]
  exact (List.prefix_append _ _).isInfix

theorem dispatch_eq (s : RtspSession) {request : List UInt8} {m : Method}
    (hname : m.name <:+: request) (hearlier : ∀ m' ∈ m.earlier, ¬ m'.name <:+: request) :
    s.dispatch request = m.acts s := by
  have habsent : ∀ m' ∈ m.earlier, find request m'.name = false := by
    intro m' hm'
    rw [Bool.eq_false_iff]
    exact fun h => hearlier m' hm' (find_iff.mp h)
  rw [RtspSession.dispatch]
  cases m with
  | options =>
    have hfound : find request (str "OPTIONS") = true := find_iff.mpr hname
    rw [if_pos hfound]
    rfl
  | describe =>
    have hoptions : find request (str "OPTIONS") = false := habsent .options (by decide)
    have hfound : find request (str "DESCRIBE") = true := find_iff.mpr hname
    rw [hoptions, hfound]
    rfl
  | setup =>
    have hoptions : find request (str "OPTIONS") = false := habsent .options (by decide)
    have hdescribe : find request (str "DESCRIBE") = false := habsent .describe (by decide)
    have hfound : find request (str "SETUP") = true := find_iff.mpr hname
    rw [hoptions, hdescribe, hfound]
    rfl
  | play =>
    have hoptions : find request (str "OPTIONS") = false := habsent .options (by decide)
    have hdescribe : find request (str "DESCRIBE") = false := habsent .describe (by decide)
    have hsetup : find request (str "SETUP") = false := habsent .setup (by decide)
    have hfound : find request (str "PLAY") = true := find_iff.mpr hname
    rw [hoptions, hdescribe, hsetup, hfound]
    rfl

theorem exists_first {request : List UInt8} {m : Method} (h : m.name <:+: request) :
    ∃ m₀ : Method, m₀.name <:+: request ∧ ∀ m' ∈ m₀.earlier, ¬ m'.name <:+: request := by
  by_cases hoptions : Method.options.name <:+: request
  · exact ⟨.options, hoptions, by simp [Method.earlier]⟩
  by_cases hdescribe : Method.describe.name <:+: request
  · exact ⟨.describe, hdescribe, by simp [Method.earlier, hoptions]⟩
  by_cases hsetup : Method.setup.name <:+: request
  · exact ⟨.setup, hsetup, by simp [Method.earlier, hoptions, hdescribe]⟩
  refine ⟨.play, ?_, by simp [Method.earlier, hoptions, hdescribe, hsetup]⟩
  cases m <;> first | exact h | contradiction

/-! ## The number -/

theorem handleRequest_eq (s : RtspSession) {request : List UInt8} {n : Nat}
    (h : Numbered (str "CSeq: ") request n) : s.handleRequest request =
      if n ≤ 0x7FFFFFFF then
        .ok ({ s with cseq := n }, ({ s with cseq := n } : RtspSession).dispatch request)
      else .error .outOfRange := by
  rw [numbered_iff] at h
  rw [RtspSession.handleRequest]
  cases hsearch : regexSearch (literalNumber (str "CSeq: ")) request with
  | none =>
    rw [hsearch] at h
    obtain rfl : 0 = n := h
    rfl
  | some digits =>
    obtain ⟨_, _, -, hne, hdigits, -⟩ := firstNumeral_iff.mpr hsearch
    rw [hsearch] at h
    obtain rfl : numeral digits = n := h
    dsimp only
    rw [stoi_numeral hdigits hne]
    split_ifs with hsmall
    · rfl
    · rfl

theorem exists_numbered (request : List UInt8) : ∃ n, Numbered (str "CSeq: ") request n :=
  ⟨_, numbered_iff.mpr rfl⟩

/-! ## The replies -/

/-- The headers of `send_response` and what is behind them. -/
def entity (headers body : List UInt8) : List UInt8 :=
  headers ++ (str "\r\nContent-Length: " ++ (decimal body.length ++ (str "\r\n\r\n" ++ body)))

theorem sendResponse_eq (s : RtspSession) (headers body : List UInt8) :
    s.sendResponse (str "200 OK") headers body =
      .send (str "RTSP/1.0 200 OK\r\nCSeq: " ++
        (decimal s.cseq ++ (str "\r\n" ++ entity headers body))) := by
  have hstatus : str "RTSP/1.0 200 OK\r\nCSeq: " =
      str "RTSP/1.0 " ++ (str "200 OK" ++ str "\r\nCSeq: ") := by decide
  rw [RtspSession.sendResponse, hstatus, entity]
  simp only [List.append_assoc]

namespace Method

/-- What stands in a reply behind its number. -/
def rest (s : RtspSession) : Method → List UInt8
  | options => entity (str "Public: OPTIONS, DESCRIBE, SETUP, PLAY") []
  | describe => entity
      (str "Content-Base: rtsp://172.19.186.55:8554/live\r\nContent-Type: application/sdp")
      RtspSession.sdp
  | setup => str "Transport: RTP/AVP/TCP;unicast;interleaved=0-1\r\nSession: " ++
      (s.rtspSessionId ++ str "\r\n\r\n")
  | play => str "Range: npt=0.000-\r\nSession: " ++ (s.rtspSessionId ++ str "\r\n\r\n")

/-- The letter it begins with. -/
def initial : Method → UInt8
  | options => 0x50
  | describe => 0x43
  | setup => 0x54
  | play => 0x52

theorem head?_rest (s : RtspSession) (m : Method) : (m.rest s).head? = some m.initial := by
  cases m <;> rfl

theorem initial_inj {m m' : Method} (h : m.initial = m'.initial) : m = m' := by
  cases m <;> cases m' <;> first | rfl | exact absurd h (by decide)

end Method

theorem sent_acts (s : RtspSession) (m : Method) : sent (m.acts s) =
    [str "RTSP/1.0 200 OK\r\nCSeq: " ++ (decimal s.cseq ++ (str "\r\n" ++ m.rest s))] := by
  cases m with
  | options =>
    rw [Method.acts, RtspSession.handleOptions, sendResponse_eq]
    rfl
  | describe =>
    rw [Method.acts, RtspSession.handleDescribe, sendResponse_eq]
    rfl
  | setup =>
    have hline : str "\r\nTransport: RTP/AVP/TCP;unicast;interleaved=0-1\r\nSession: " =
        str "\r\n" ++ str "Transport: RTP/AVP/TCP;unicast;interleaved=0-1\r\nSession: " := by
      decide
    rw [Method.acts, RtspSession.handleSetup, hline]
    simp only [sent, List.filterMap_cons, List.filterMap_nil, List.append_assoc, Method.rest]
  | play =>
    have hline : str "\r\nRange: npt=0.000-\r\nSession: " =
        str "\r\n" ++ str "Range: npt=0.000-\r\nSession: " := by decide
    rw [Method.acts, RtspSession.handlePlay, hline]
    simp only [sent, List.filterMap_cons, List.filterMap_nil, List.append_assoc, Method.rest]

theorem reply_inj {s : RtspSession} {m m' : Method} {n n' : Nat}
    (h : sent (m.acts { s with cseq := n }) = sent (m'.acts { s with cseq := n' })) :
    m = m' ∧ n = n' := by
  rw [sent_acts, sent_acts] at h
  have htail := List.append_cancel_left (List.cons.inj h).1
  have hstop : ∀ (s : RtspSession) (m : Method), ∀ b ∈ (str "\r\n" ++ m.rest s).head?,
      isdigit b = false := by
    rintro s m b ⟨⟩
    rfl
  have hnumber := congrArg (List.takeWhile isdigit) htail
  rw [(isNumeral_decimal n).takeWhile (hstop _ m), (isNumeral_decimal n').takeWhile (hstop _ m')]
    at hnumber
  have hn : n = n' := by
    rw [← numeral_decimal n, hnumber, numeral_decimal]
  subst hn
  have hrest := congrArg List.head? (List.append_cancel_left (List.append_cancel_left htail))
  rw [Method.head?_rest, Method.head?_rest] at hrest
  exact ⟨Method.initial_inj (Option.some.inj hrest), rfl⟩

theorem play_of_startStreaming {s : RtspSession} {m : Method}
    (h : Act.startStreaming ∈ m.acts s) : m = .play := by
  cases m with
  | play => rfl
  | options => exact absurd (List.mem_singleton.mp h) (by simp [RtspSession.sendResponse])
  | describe => exact absurd (List.mem_singleton.mp h) (by simp [RtspSession.sendResponse])
  | setup => exact absurd (List.mem_singleton.mp h) (by simp)

/-! ## Which requests are answered -/

theorem Answers.clear {s : RtspSession} {request : List UInt8} (h : Answers s request) :
    Clear request := by
  have hsmall : ∀ n, Numbered (str "CSeq: ") request n → n ≤ 0x7FFFFFFF := by
    intro n hn
    by_contra hlarge
    exact h.noThrow .outOfRange (by rw [handleRequest_eq s hn, if_neg hlarge])
  have hboth : ∀ m n, WellFormed request m n →
      (∀ m' ∈ m.earlier, ¬ m'.name <:+: request) ∧ Numbered (str "CSeq: ") request n := by
    intro m n hform
    obtain ⟨m₀, hname, hearlier⟩ := exists_first hform.name_infix
    obtain ⟨n₀, hn₀⟩ := exists_numbered request
    obtain ⟨s', acts, hrun, hsent, -⟩ := h.replies m n hform
    rw [handleRequest_eq s hn₀, if_pos (hsmall n₀ hn₀), dispatch_eq _ hname hearlier] at hrun
    obtain ⟨-, rfl⟩ := Prod.mk.inj (Except.ok.inj hrun)
    -- the reply tells for which method and with which number the request was answered
    obtain ⟨rfl, rfl⟩ := reply_inj hsent
    exact ⟨hearlier, hn₀⟩
  exact ⟨fun m n hform => (hboth m n hform).1, fun m n hform => (hboth m n hform).2, hsmall⟩

theorem Clear.answers {request : List UInt8} (h : Clear request) (s : RtspSession) :
    Answers s request where
  replies := by
    intro m n hform
    have hn := h.number m n hform
    refine ⟨_, _, by rw [handleRequest_eq s hn, if_pos (h.small n hn)], ?_, ?_⟩
    · rw [dispatch_eq _ hform.name_infix (h.method m n hform)]
    · rw [dispatch_eq _ hform.name_infix (h.method m n hform)]
      exact play_of_startStreaming
  noThrow := by
    intro e he
    obtain ⟨n, hn⟩ := exists_numbered request
    rw [handleRequest_eq s hn, if_pos (h.small n hn)] at he
    cases he

/-- **The camera server's replies.** A request is answered as its client expects exactly if it is
clear. -/
theorem answers_iff (s : RtspSession) (request : List UInt8) :
    Answers s request ↔ Clear request :=
  ⟨Answers.clear, fun h => h.answers s⟩

/-- A PLAY whose URL has the name of another method in it. -/
def playSetup : List UInt8 :=
  str "PLAY rtsp://10.0.0.1:8554/SETUP RTSP/1.0\r\nCSeq: 4\r\n\r\n"

set_option maxRecDepth 2048 in
theorem playSetup_wellFormed : WellFormed playSetup .play 4 :=
  ⟨str "rtsp://10.0.0.1:8554/SETUP", [str "CSeq: 4"], str "CSeq: 4", by decide, by decide,
    by unfold IsWord; decide, by decide, by decide, [0x20], [0x34], [], by decide, by decide,
    by decide, by decide, by decide⟩

/-- It is answered as a SETUP. -/
theorem not_answers_playSetup :
    ¬ ∀ (s : RtspSession) (request : List UInt8), request.length ≤ 1024 → Answers s request := by
  intro h
  have hclear := (h ⟨str "12345678", 0⟩ playSetup (by decide)).clear
  exact hclear.method .play 4 playSetup_wellFormed .setup (by decide)
    (find_iff.mp (by decide))

/-! ## One method and one number -/

theorem lines_unique {lines lines' : List (List UInt8)}
    (h : ∀ l ∈ lines, l ≠ [] ∧ 0x0D ∉ l ∧ 0x0A ∉ l)
    (h' : ∀ l ∈ lines', l ≠ [] ∧ 0x0D ∉ l ∧ 0x0A ∉ l)
    (heq : lines.flatMap (· ++ str "\r\n") ++ str "\r\n" =
      lines'.flatMap (· ++ str "\r\n") ++ str "\r\n") : lines = lines' := by
  -- the line end behind the last line begins with no line
  have hend : ∀ (l : List UInt8) (rest : List UInt8), l ≠ [] → 0x0D ∉ l →
      l ++ rest ≠ str "\r\n" := by
    rintro (_ | ⟨b, l⟩) rest hne hcr heq
    · exact hne rfl
    · obtain rfl := (List.cons.inj heq).1
      exact hcr List.mem_cons_self
  induction lines generalizing lines' with
  | nil =>
    cases lines' with
    | nil => rfl
    | cons l' lines' =>
      have hl' := h' l' List.mem_cons_self
      rw [List.flatMap_cons, List.append_assoc, List.append_assoc] at heq
      exact absurd heq.symm (hend l' _ hl'.1 hl'.2.1)
  | cons l lines ih =>
    have hl := h l List.mem_cons_self
    cases lines' with
    | nil =>
      rw [List.flatMap_cons, List.append_assoc, List.append_assoc] at heq
      exact absurd heq (hend l _ hl.1 hl.2.1)
    | cons l' lines' =>
      have hl' := h' l' List.mem_cons_self
      rw [List.flatMap_cons, List.flatMap_cons, List.append_assoc, List.append_assoc,
        List.append_assoc, List.append_assoc] at heq
      obtain ⟨rfl, hrest⟩ := append_cons_inj hl.2.1 hl'.2.1 heq
      rw [ih (fun l hl => h l (List.mem_cons_of_mem _ hl))
        (fun l hl => h' l (List.mem_cons_of_mem _ hl)) (List.cons.inj hrest).2]

theorem HasNumber.unique {line : List UInt8} {n n' : Nat} (h : HasNumber line n)
    (h' : HasNumber line n') : n = n' := by
  -- the number is read off the line
  have hread : ∀ n, HasNumber line n → numeral (((line.dropWhile (· ≠ 0x3A)).tail.dropWhile
      fun b => b = 0x20 ∨ b = 0x09).takeWhile isdigit) = n := by
    rintro n ⟨front, digits, back, hline, hblank, hne, hdigits, rfl⟩
    obtain ⟨d, digits, rfl⟩ := List.exists_cons_of_ne_nil hne
    have hd : ¬ (d = 0x20 ∨ d = 0x09) := by
      have hdigit := hdigits d List.mem_cons_self
      rintro (rfl | rfl) <;> cases hdigit
    have hback : ∀ b ∈ back.head?, isdigit b = false := by
      intro b hb
      rcases hblank b (List.mem_append_right _ (List.mem_of_mem_head? hb)) with rfl | rfl <;> rfl
    rw [hline, List.tail_cons, List.append_assoc, List.dropWhile_append_of_pos, List.cons_append,
      List.dropWhile_cons_of_neg (by simpa using hd), ← List.cons_append, hdigits.takeWhile hback]
    intro b hb
    simpa using hblank b (List.mem_append_left _ hb)
  rw [← hread n h, hread n' h']

theorem Method.name_inj {m m' : Method} (h : m.name = m'.name) : m = m' := by
  cases m <;> cases m' <;> first | rfl | exact absurd h (by decide)

theorem WellFormed.unique {request : List UInt8} {m m' : Method} {n n' : Nat}
    (h : WellFormed request m n) (h' : WellFormed request m' n') : m = m' ∧ n = n' := by
  obtain ⟨url, lines, line, rfl, -, hurl, hlines, hline, hn⟩ := h
  obtain ⟨url', lines', line', heq, -, hurl', hlines', hline', hn'⟩ := h'
  have hblank : ∀ m : Method, 0x20 ∉ m.name := by
    intro m
    cases m <;> decide
  have hword : ∀ url : List UInt8, IsWord url → 0x20 ∉ url := by
    intro url hurl hmem
    exact absurd (hurl 0x20 hmem) (by decide)
  have hspace : str " " = [0x20] := by decide
  have hversion : str " RTSP/1.0\r\n" = 0x20 :: str "RTSP/1.0\r\n" := by decide
  rw [hspace, hversion] at heq
  simp only [List.append_assoc, List.cons_append, List.nil_append] at heq
  obtain ⟨hname, hbehind⟩ := append_cons_inj (hblank m) (hblank m') heq
  obtain ⟨-, hrest⟩ := append_cons_inj (hword url hurl) (hword url' hurl') hbehind
  obtain rfl := lines_unique hlines hlines' (List.append_cancel_left hrest)
  obtain rfl := (List.cons.inj (hline.symm.trans hline')).1
  exact ⟨Method.name_inj hname, hn.unique hn'⟩

/-- What it takes that a well-formed request is answered. -/
theorem WellFormed.answered_iff {request : List UInt8} {m : Method} {n : Nat}
    (h : WellFormed request m n) (s : RtspSession) : Answers s request ↔
      (∀ m' ∈ m.earlier, ¬ m'.name <:+: request) ∧ Numbered (str "CSeq: ") request n ∧
        n ≤ 0x7FFFFFFF := by
  constructor
  · intro hanswers
    have hclear := hanswers.clear
    have hn := hclear.number m n h
    exact ⟨hclear.method m n h, hn, hclear.small n hn⟩
  · rintro ⟨hmethod, hn, hsmall⟩
    refine Clear.answers ⟨?_, ?_, ?_⟩ s
    · intro m' n' h'
      obtain ⟨rfl, -⟩ := h.unique h'
      exact hmethod
    · intro m' n' h'
      obtain ⟨-, rfl⟩ := h.unique h'
      exact hn
    · intro n' hn'
      rw [numbered_iff] at hn hn'
      rw [← hn', hn]
      exact hsmall

end Camera

end SimpleRtsp

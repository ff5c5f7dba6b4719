import Mathlib.Data.List.Forall2
import SimpleRtsp.Camera.HandleRequest
import SimpleRtsp.Camera.Stream
import SimpleRtsp.Lib.MixedStream
import SimpleRtsp.Lib.Transition
import SimpleRtsp.Rtsp.ReplyStream

/-!
# The camera server and its clients

All connections of the camera server are served by one thread in `io_context.run`. It accepts them,
reads a request of one of them and answers it, and from a PLAY to the end of its stream it does
nothing but send the packets of the encoder. The packets of all streams share one sequence number
and one time. An exception in a handler ends the server for everybody; `send_rtp_over_tcp` catches
those of its writes, and the connection then gets nothing more. The replies go out by `send`, which
may take a part of a reply and not say so but in a count that the handler ignores.

`Service` is what the clients are owed, without bytes; a clear request is owed the reply for its
method (`WellFormed.noted`). A client that reads replies and interleaved frames from its connection
gets exactly that in every run, as long as the pictures fit in the length of a frame, the connection
holds and no reply is cut (`served_runs`).
-/

namespace SimpleRtsp

namespace Camera

open CString
open MessageStream (Message line)
open MixedStream (Item)

/-! ## The server -/

/-- An accepted `RTSPSession`, what was written to its socket, and whether a write has failed; it
is `reading` until `async_read_some` fails. -/
structure Connection where
  session : RtspSession
  written : List UInt8
  broken : Bool
  reading : Bool

/-- What becomes of a write: the socket takes all bytes, or so many before an exception, or so many
and the call returns all the same, which only `send` does. -/
inductive Outcome where
  | whole
  | fails (k : Nat)
  | short (k : Nat)

namespace Outcome

def taken (bytes : List UInt8) : Outcome → List UInt8
  | whole => bytes
  | fails k => bytes.take k
  | short k => bytes.take k

def failed : Outcome → Bool
  | fails _ => true
  | _ => false

def isShort : Outcome → Bool
  | short _ => true
  | _ => false

/-- `asio::write` takes all bytes, or it throws. -/
def ofWrite : Option Nat → Outcome
  | none => whole
  | some k => fails k

end Outcome

/-- Where the handler of a request comes to. -/
inductive Course where
  | returns
  | streams
  | throws
  deriving DecidableEq

namespace Connection

/-- A new session; `cseq_` is not initialised. -/
def accepted (cseq : Int) : Connection := ⟨⟨str "12345678", cseq⟩, [], false, true⟩

def write (c : Connection) (bytes : List UInt8) (outcome : Outcome) : Connection :=
  if c.broken then c
  else { c with
    written := c.written ++ outcome.taken bytes
    broken := outcome.failed }

/-- What `handle_request` does; `start_streaming` is left to the steps of the server. -/
def perform (c : Connection) (outcome : Outcome) : List Act → Connection × Course
  | [] => (c, .returns)
  | .send response :: acts =>
    let c := c.write response outcome
    if c.broken then (c, .throws) else c.perform outcome acts
  | .startStreaming :: _ => (c, .streams)

end Connection

/-- The connections in the order they were accepted in, and the one whose handler is in
`start_streaming`. -/
structure Server where
  connections : List Connection
  counters : Counters
  streaming : Option Nat
  ended : Bool

inductive Event where
  /-- `async_accept`; `set_option` may throw -/
  | accepted (cseq : Int) (throws : Bool)
  | acceptFailed
  /-- `async_read_some` of a connection, and what becomes of the reply -/
  | received (i : Nat) (request : List UInt8) (outcome : Outcome)
  | receiveFailed (i : Nat)
  /-- a packet of the encoder, and what becomes of it -/
  | encoded (data : List UInt8) (fails : Option Nat)
  /-- `start_streaming` returns, or OpenCV throws in it -/
  | streamEnded (throws : Bool)

namespace Server

def start : Server := ⟨[], .init, none, false⟩

/-- The thread is in `io_context.run`, outside of a handler. -/
def isIdle (s : Server) : Bool := !s.ended && s.streaming.isNone

/-- The handler of `async_read_some`. -/
def receive (s : Server) (i : Nat) (c : Connection) (request : List UInt8)
    (outcome : Outcome) : Server :=
  match c.session.handleRequest request with
  | .error _ => { s with ended := true }
  | .ok (session, acts) =>
    let (c, course) := ({ c with session := session } : Connection).perform outcome acts
    { s with
      connections := s.connections.set i c
      streaming := if course = .streams then some i else none
      ended := course = .throws }

def step (s : Server) : Event → Option Server
  | .accepted cseq throws =>
    if s.isIdle then
      some (if throws then { s with ended := true }
        else { s with connections := s.connections ++ [.accepted cseq] })
    else none
  | .acceptFailed => if s.isIdle then some s else none
  | .received i request outcome =>
    s.connections[i]?.bind fun c =>
      if s.isIdle ∧ c.reading ∧ request ≠ [] ∧ request.length ≤ 1024 then
        some (s.receive i c request outcome)
      else none
  | .receiveFailed i =>
    s.connections[i]?.bind fun c =>
      if s.isIdle ∧ c.reading then
        some { s with connections := s.connections.set i { c with reading := false } }
      else none
  | .encoded data fails =>
    s.streaming.bind fun i => s.connections[i]?.map fun c =>
      let (counters, bytes) := sendRtpPacket s.counters data
      { s with
        connections := s.connections.set i (c.write bytes (.ofWrite fails))
        counters := counters }
  | .streamEnded throws =>
    s.streaming.map fun _ => { s with streaming := none, ended := throws }

end Server

/-! ## What the clients are owed -/

/-- What a client is owed: a reply with its number, or a picture with its place among the pictures
of all streams. -/
inductive Due where
  | reply (m : Method) (n : Nat)
  | picture (k : Nat) (data : List UInt8)
  deriving DecidableEq

/-- A client, whether its connection broke, and how much it was owed before the first reply that was
cut. -/
structure Viewer where
  due : List Due
  lost : Bool
  cut : Option Nat
  deriving DecidableEq

def Viewer.owe (w : Viewer) (d : Due) (outcome : Outcome) : Viewer where
  due := w.due ++ [d]
  lost := w.lost || outcome.failed
  cut := if outcome.isShort && !w.lost then w.cut.or (some w.due.length) else w.cut

def Viewer.front (w : Viewer) (n : Nat) : Viewer := { w with due := w.due.take n }

/-- The clients, the pictures that were made so far, and the client that watches. -/
structure Service where
  viewers : List Viewer
  pictures : Nat
  watching : Option Nat
  ended : Bool

def methodOf (request : List UInt8) : Option Method :=
  [Method.options, .describe, .setup, .play].find? fun m => m.name <:+: request

def numberOf (request : List UInt8) : Nat :=
  ((regexSearch (literalNumber (str "CSeq: ")) request).map numeral).getD 0

namespace Service

def start : Service := ⟨[], 0, none, false⟩

def owe (v : Service) (i : Nat) (d : Due) (outcome : Outcome) : Service :=
  { v with viewers := v.viewers.modify i fun w => w.owe d outcome }

def isLost (v : Service) (i : Nat) : Bool := v.viewers[i]?.any Viewer.lost

/-- A request with a method is owed its reply, and the packets behind a PLAY are owed to the client
that sent it. A number that is no `int`, a reply on a broken connection and an exception end it
all. -/
def note (v : Service) : Event → Service
  | .accepted _ throws =>
    if throws then { v with ended := true }
    else { v with viewers := v.viewers ++ [⟨[], false, none⟩] }
  | .acceptFailed => v
  | .received i request outcome =>
    if 0x7FFFFFFF < numberOf request then { v with ended := true }
    else (methodOf request).elim v fun m =>
      let v := v.owe i (.reply m (numberOf request)) outcome
      if v.isLost i then { v with ended := true }
      else { v with watching := if m = .play then some i else none }
  | .receiveFailed _ => v
  | .encoded data fails =>
    v.watching.elim v fun i =>
      { v.owe i (.picture v.pictures data) (.ofWrite fails) with pictures := v.pictures + 1 }
  | .streamEnded throws => { v with watching := none, ended := throws }

end Service

/-- What is owed after these events. -/
def served (events : List Event) : Service := events.foldl Service.note .start

/-! ## What a client reads -/

/-- The header lines of a reply behind the one with its number. -/
def Method.headers : Method → List (List UInt8)
  | options => [str "Public: OPTIONS, DESCRIBE, SETUP, PLAY", str "Content-Length: 0"]
  | describe => [str "Content-Base: rtsp://172.19.186.55:8554/live",
      str "Content-Type: application/sdp", str "Content-Length: " ++ decimal RtspSession.sdp.length]
  | setup => [str "Transport: RTP/AVP/TCP;unicast;interleaved=0-1", str "Session: 12345678"]
  | play => [str "Range: npt=0.000-", str "Session: 12345678"]

def Method.body : Method → List UInt8
  | describe => RtspSession.sdp
  | _ => []

def contentLength (head : List (List UInt8)) : Nat :=
  ((head.findSome? (numberBehind (str "Content-Length: "))).getD 0).toNat

def view (stream : List UInt8) : List Item :=
  (MixedStream.Reader.read contentLength 0x24 (.start []) stream).done

inductive Due.Gets : Due → Item → Prop where
  | reply {m : Method} {n : Nat} {msg : Message} : Client.status msg.head = some 200 →
      Client.cseq msg.head = some (n : Int) → msg.head.drop 2 = m.headers → msg.body = m.body →
      Gets (.reply m n) (.message msg)
  | picture {k : Nat} {data : List UInt8} {f : UInt8 × List UInt8} : Carried .init k data f →
      Gets (.picture k data) (.frame f)

/-- The pictures fit in the length of a frame, with the RTP header. -/
def Viewer.Fits (w : Viewer) : Prop :=
  ∀ k data, .picture k data ∈ w.due → data.length + RTP_HEADER_SIZE < 65536

/-- The client gets everything exactly if all pictures fit; a client whose connection broke gets the
first part of it, and one with a cut reply what it was owed before that. -/
structure Viewer.Reads (w : Viewer) (stream : List UInt8) : Prop where
  all : w.lost = false → w.cut = none → (List.Forall₂ Due.Gets w.due (view stream) ↔ w.Fits)
  part : w.lost = true → w.cut = none → w.Fits →
    ∃ got, got <+: w.due ∧ List.Forall₂ Due.Gets got (view stream)
  front : ∀ n, w.cut = some n → (w.front n).Fits →
    List.Forall₂ Due.Gets (w.due.take n) ((view stream).take n)

/-! ## Requests -/

theorem numbered_numberOf (request : List UInt8) :
    CString.Numbered (str "CSeq: ") request (numberOf request) := numbered_iff.mpr rfl

theorem dispatch_methodOf (s : RtspSession) (request : List UInt8) :
    s.dispatch request = (methodOf request).elim [] fun m => m.acts s := by
  have hfind : ∀ m : Method, find request m.name = decide (m.name <:+: request) :=
    fun m => Bool.eq_iff_iff.mpr (by rw [find_iff, decide_eq_true_iff])
  rw [RtspSession.dispatch, methodOf]
  rw [show find request (str "OPTIONS") = _ from hfind .options,
    show find request (str "DESCRIBE") = _ from hfind .describe,
    show find request (str "SETUP") = _ from hfind .setup,
    show find request (str "PLAY") = _ from hfind .play]
  simp only [List.find?_cons, List.find?_nil]
  cases decide (Method.options.name <:+: request) with
  | true => rfl
  | false =>
    cases decide (Method.describe.name <:+: request) with
    | true => rfl
    | false =>
      cases decide (Method.setup.name <:+: request) with
      | true => rfl
      | false => cases decide (Method.play.name <:+: request) <;> rfl

theorem acts_eq (s : RtspSession) (m : Method) : m.acts s =
    .send (str "RTSP/1.0 200 OK\r\nCSeq: " ++ (decimal s.cseq ++ (str "\r\n" ++ m.rest s))) ::
      if m = .play then [.startStreaming] else [] := by
  have hsent := sent_acts s m
  cases m with
  | options => exact congrArg (fun r => [Act.send r]) (List.cons.inj hsent).1
  | describe => exact congrArg (fun r => [Act.send r]) (List.cons.inj hsent).1
  | setup => exact congrArg (fun r => [Act.send r]) (List.cons.inj hsent).1
  | play => exact congrArg (fun r => [Act.send r, .startStreaming]) (List.cons.inj hsent).1

/-- A clear request is owed the reply for its method, with its number. -/
theorem WellFormed.noted {request : List UInt8} {m : Method} {n : Nat}
    (h : WellFormed request m n) (hclear : Clear request) :
    methodOf request = some m ∧ numberOf request = n := by
  have hname := h.name_infix
  have hearlier := hclear.method m n h
  refine ⟨?_, numbered_iff.mp (hclear.number m n h)⟩
  cases m with
  | options => simp [methodOf, hname]
  | describe => simp [methodOf, hname, hearlier .options (by decide)]
  | setup =>
    simp [methodOf, hname, hearlier .options (by decide), hearlier .describe (by decide)]
  | play =>
    simp [methodOf, hname, hearlier .options (by decide), hearlier .describe (by decide),
      hearlier .setup (by decide)]

/-! ## Replies and pictures -/

def Counters.after (k : Nat) : Counters := ⟨UInt16.ofNat k, UInt32.ofNat (3000 * k)⟩

theorem sendRtpPacket_after (k : Nat) (data : List UInt8) :
    sendRtpPacket (.after k) data =
      (.after (k + 1), Framing.frame 0x24 (0, rtpPacket (.after k) data)) := by
  have hseq : UInt16.ofNat k + 1 = UInt16.ofNat (k + 1) := (UInt16.ofNat_add k 1).symm
  have htime : UInt32.ofNat (3000 * k) + 90000 / 30 = UInt32.ofNat (3000 * (k + 1)) :=
    (UInt32.ofNat_add (3000 * k) 3000).symm
  rw [sendRtpPacket, sendRtpOverTcp_eq]
  dsimp only [Counters.after]
  rw [hseq, htime]

theorem carried_after (k : Nat) (data : List UInt8) :
    Carried .init k data (0, rtpPacket (.after k) data) := by
  have h := carried_zero (.after k) data
  refine ⟨h.channel, h.header, h.payload, ?_, ?_⟩
  · rw [h.seq, Nat.add_zero, Counters.after, UInt16.toNat_ofNat']
    simp [Counters.init]
  · rw [h.time, Nat.mul_zero, Nat.add_zero, Counters.after, UInt32.toNat_ofNat']
    simp [Counters.init]

def Method.reply (m : Method) (n : Nat) : Message :=
  replyMessage "RTSP/1.0 200 OK" n m.headers m.body

def Due.item : Due → Item
  | .reply m n => .message (m.reply n)
  | .picture k data => .frame (0, rtpPacket (.after k) data)

theorem text_reply (s : RtspSession) (hid : s.rtspSessionId = str "12345678") (m : Method)
    (n : Nat) : (m.reply n).text =
      str "RTSP/1.0 200 OK\r\nCSeq: " ++ (decimal n ++ (str "\r\n" ++ m.rest s)) := by
  have hhead : str "RTSP/1.0 200 OK\r\nCSeq: " = str "RTSP/1.0 200 OK" ++ str "\r\nCSeq: " := rfl
  have hrest : m.headers.flatMap line ++ (str "\r\n" ++ m.body) = m.rest s := by
    cases m with
    | options =>
      rw [Method.rest]
      decide
    | describe =>
      have hfirst :
          str "Content-Base: rtsp://172.19.186.55:8554/live\r\nContent-Type: application/sdp" =
            str "Content-Base: rtsp://172.19.186.55:8554/live" ++ ([0x0D, 0x0A] ++
              str "Content-Type: application/sdp") := by decide
      have hlength : str "\r\nContent-Length: " = [0x0D, 0x0A] ++ str "Content-Length: " := rfl
      have hend : str "\r\n\r\n" = [0x0D, 0x0A] ++ str "\r\n" := rfl
      rw [Method.headers, Method.rest, entity, hfirst, hlength, hend, List.flatMap_cons,
        List.flatMap_cons, List.flatMap_singleton, line, line, line]
      simp only [Method.body, List.append_assoc]
    | setup =>
      rw [Method.rest, hid]
      decide
    | play =>
      rw [Method.rest, hid]
      decide
  rw [Method.reply, text_replyMessage, replyHead, List.append_assoc, hrest, hhead]
  simp only [List.append_assoc]

theorem contentLength_reply (m : Method) (n : Nat) :
    contentLength (m.reply n).head = m.body.length := by
  have hstatus : numberBehind (str "Content-Length: ") (str "RTSP/1.0 200 OK") = none := rfl
  have hnumber : numberBehind (str "Content-Length: ") (str "CSeq: " ++ decimal n) = none := rfl
  rw [Method.reply, replyMessage, contentLength, List.findSome?_cons, hstatus,
    List.findSome?_cons, hnumber]
  dsimp only
  cases m with
  | describe =>
    have hshort : RtspSession.sdp.length < 2 ^ 31 := by decide +kernel
    rw [show Method.describe.headers = [str "Content-Base: rtsp://172.19.186.55:8554/live",
        str "Content-Type: application/sdp"] ++
          [str "Content-Length: " ++ decimal RtspSession.sdp.length] from rfl,
      findSome?_numberBehind hshort _ rfl]
    rfl
  | options => decide
  | setup => rfl
  | play => rfl

theorem readable_reply (m : Method) (n : Nat) : (m.reply n).Readable contentLength 0x24 where
  lines := by
    have hnumber : 0x0A ∉ str "CSeq: " ++ decimal n := by
      rw [List.mem_append, not_or]
      exact ⟨by decide, not_mem_decimal n⟩
    have hheaders : ∀ l ∈ m.headers, l ≠ [] ∧ 0x0A ∉ l := by
      cases m with
      | describe =>
        have hlength : 0x0A ∉ str "Content-Length: " ++ decimal RtspSession.sdp.length := by
          rw [List.mem_append, not_or]
          exact ⟨by decide, not_mem_decimal _⟩
        rw [Method.headers, List.forall_mem_cons, List.forall_mem_cons, List.forall_mem_singleton]
        exact ⟨by decide, by decide, by simp [str], hlength⟩
      | options => decide
      | setup => decide
      | play => decide
    rw [Method.reply, replyMessage, List.forall_mem_cons, List.forall_mem_cons]
    exact ⟨by decide, ⟨by simp [str], hnumber⟩, hheaders⟩
  first := by
    intro b hb
    obtain rfl : 0x52 = b := Option.some.inj hb
    decide
  body := contentLength_reply m n

/-! ## Lists in step -/

theorem forall₂_set_modify {α β : Type} {R : α → β → Prop} {f : β → β} {a a' : α} {i : Nat}
    {l : List α} {l' : List β} (h : List.Forall₂ R l l') (hi : l[i]? = some a)
    (hnew : ∀ b, R a b → R a' (f b)) : List.Forall₂ R (l.set i a') (l'.modify i f) := by
  induction h generalizing i with
  | nil => cases hi
  | cons hhead htail ih =>
    cases i with
    | zero =>
      obtain rfl := Option.some.inj hi
      exact .cons (hnew _ hhead) htail
    | succ i => exact .cons hhead (ih hi)

theorem forall₂_set {α β : Type} {R : α → β → Prop} {a a' : α} {i : Nat} {l : List α}
    {l' : List β} (h : List.Forall₂ R l l') (hi : l[i]? = some a)
    (hnew : ∀ b, R a b → R a' b) : List.Forall₂ R (l.set i a') l' := by
  have hsame := forall₂_set_modify (f := id) h hi hnew
  rwa [List.modify_id] at hsame

theorem exists_of_forall₂ {α β : Type} {R : α → β → Prop} {a : α} {i : Nat} {l : List α}
    {l' : List β} (h : List.Forall₂ R l l') (hi : l[i]? = some a) :
    ∃ b, l'[i]? = some b ∧ R a b := by
  induction h generalizing i with
  | nil => cases hi
  | cons hhead htail ih =>
    cases i with
    | zero =>
      obtain rfl := Option.some.inj hi
      exact ⟨_, rfl, hhead⟩
    | succ i => exact ih hi

/-! ## A step of the server -/

def Viewer.text (w : Viewer) : List UInt8 := w.due.flatMap fun d => d.item.text 0x24

/-- A connection has what its client is owed: a first part of it if it broke, and what comes before
a cut reply. -/
structure Connection.Serves (c : Connection) (w : Viewer) : Prop where
  id : c.session.rtspSessionId = str "12345678"
  broken : c.broken = w.lost
  whole : w.lost = false → w.cut = none → c.written = w.text
  part : w.cut = none → c.written <+: w.text
  front : ∀ n, w.cut = some n → n ≤ w.due.length ∧ (w.front n).text <+: c.written
  number : ∀ m n, .reply m n ∈ w.due → n ≤ 0x7FFFFFFF

theorem Connection.Serves.of_same {c c' : Connection} {w : Viewer} (h : c.Serves w)
    (hid : c'.session.rtspSessionId = c.session.rtspSessionId)
    (hwritten : c'.written = c.written) (hbroken : c'.broken = c.broken) : c'.Serves w where
  id := hid.trans h.id
  broken := hbroken.trans h.broken
  whole := fun hkept hcut => hwritten.trans (h.whole hkept hcut)
  part := fun hcut => by
    rw [hwritten]
    exact h.part hcut
  front := fun n hcut => by
    rw [hwritten]
    exact h.front n hcut
  number := h.number

theorem Viewer.text_owe (w : Viewer) (d : Due) (outcome : Outcome) :
    (w.owe d outcome).text = w.text ++ d.item.text 0x24 := by
  rw [Viewer.text, Viewer.owe, List.flatMap_append, List.flatMap_singleton]
  rfl

theorem Viewer.front_owe {w : Viewer} {n : Nat} (hn : n ≤ w.due.length) (d : Due)
    (outcome : Outcome) : ((w.owe d outcome).front n).text = (w.front n).text := by
  rw [Viewer.text, Viewer.front, Viewer.owe, List.take_append_of_le_length hn]
  rfl

theorem Viewer.cut_owe (w : Viewer) (d : Due) (outcome : Outcome) :
    (w.owe d outcome).cut = w.cut ∨
      w.cut = none ∧ w.lost = false ∧ (w.owe d outcome).cut = some w.due.length := by
  rw [Viewer.owe]
  dsimp only
  split_ifs with hshort
  · cases hcut : w.cut with
    | none =>
      refine Or.inr ⟨rfl, ?_, rfl⟩
      exact (Bool.not_eq_true' _).mp (Bool.and_eq_true_iff.mp hshort).2
    | some n => exact Or.inl rfl
  · exact Or.inl rfl

theorem Connection.written_write (c : Connection) (bytes : List UInt8) (outcome : Outcome) :
    c.written <+: (c.write bytes outcome).written := by
  rw [Connection.write]
  split_ifs
  · exact List.prefix_refl _
  · exact List.prefix_append _ _

theorem Outcome.taken_prefix (outcome : Outcome) (bytes : List UInt8) :
    outcome.taken bytes <+: bytes := by
  cases outcome with
  | whole => exact List.prefix_refl _
  | fails k => exact List.take_prefix k bytes
  | short k => exact List.take_prefix k bytes

theorem Connection.Serves.front_write {c : Connection} {w : Viewer} (h : c.Serves w) (d : Due)
    (outcome : Outcome) {n : Nat} (hcut : (w.owe d outcome).cut = some n) :
    n ≤ (w.owe d outcome).due.length ∧
      ((w.owe d outcome).front n).text <+: (c.write (d.item.text 0x24) outcome).written := by
  have hmore := c.written_write (d.item.text 0x24) outcome
  have hlength : (w.owe d outcome).due.length = w.due.length + 1 := List.length_append
  rcases w.cut_owe d outcome with hsame | ⟨hnone, hkept, hnew⟩
  · obtain ⟨hn, hbefore⟩ := h.front n (hsame.symm.trans hcut)
    refine ⟨by omega, ?_⟩
    rw [Viewer.front_owe hn]
    exact hbefore.trans hmore
  · -- the first reply that is cut
    obtain rfl := Option.some.inj (hcut.symm.trans hnew)
    refine ⟨by omega, ?_⟩
    rw [Viewer.front_owe (Nat.le_refl _), Viewer.text, Viewer.front, List.take_length,
      ← Viewer.text, ← h.whole hkept hnone]
    exact hmore

theorem Connection.Serves.write {c : Connection} {w : Viewer} (h : c.Serves w) {d : Due}
    (hnumber : ∀ m n, d = .reply m n → n ≤ 0x7FFFFFFF) (outcome : Outcome) :
    (c.write (d.item.text 0x24) outcome).Serves (w.owe d outcome) := by
  have hfront : ∀ n, (w.owe d outcome).cut = some n → n ≤ (w.owe d outcome).due.length ∧
      ((w.owe d outcome).front n).text <+: (c.write (d.item.text 0x24) outcome).written :=
    fun n hcut => h.front_write d outcome hcut
  have hnumbers : ∀ m n, .reply m n ∈ (w.owe d outcome).due → n ≤ 0x7FFFFFFF := by
    intro m n hmem
    obtain hmem | hmem := List.mem_append.mp hmem
    · exact h.number m n hmem
    · exact hnumber m n (List.mem_singleton.mp hmem).symm
  have hcuts : (w.owe d outcome).cut = none → w.cut = none := by
    intro hcut
    rcases w.cut_owe d outcome with hsame | ⟨hnone, -⟩
    · exact hsame.symm.trans hcut
    · exact hnone
  rw [Connection.write] at hfront ⊢
  split_ifs at hfront ⊢ with hbroken
  · -- nothing is written any more
    have hlost : (w.owe d outcome).lost = true := by
      rw [Viewer.owe, ← h.broken, hbroken, Bool.true_or]
    refine ⟨h.id, by rw [hlost, hbroken], fun hkept => ?_, fun hcut => ?_, hfront, hnumbers⟩
    · rw [hlost] at hkept
      cases hkept
    · rw [Viewer.text_owe]
      exact (h.part (hcuts hcut)).trans (List.prefix_append _ _)
  · have hkept : w.lost = false := by
      rw [← h.broken]
      exact Bool.eq_false_iff.mpr hbroken
    have hlost : (w.owe d outcome).lost = outcome.failed := by
      rw [Viewer.owe, hkept, Bool.false_or]
    refine ⟨h.id, hlost.symm, fun hall hcut => ?_, fun hcut => ?_, hfront, hnumbers⟩
    · -- neither an exception nor a cut
      have hwhole : outcome.taken (d.item.text 0x24) = d.item.text 0x24 := by
        cases outcome with
        | whole => rfl
        | fails k => cases hlost.symm.trans hall
        | short k =>
          have hnone := hcuts hcut
          rw [Viewer.owe, hkept, hnone] at hcut
          cases hcut
      rw [Viewer.text_owe, ← h.whole hkept (hcuts hcut)]
      exact congrArg (c.written ++ ·) hwhole
    · rw [Viewer.text_owe, ← h.whole hkept (hcuts hcut)]
      exact (List.prefix_append_right_inj _).mpr (outcome.taken_prefix _)

theorem perform_acts (c : Connection) (outcome : Outcome) (m : Method) {n : Nat}
    (hid : c.session.rtspSessionId = str "12345678") (hcseq : c.session.cseq = n) :
    c.perform outcome (m.acts c.session) =
      let c' := c.write ((Due.reply m n).item.text 0x24) outcome
      (c', if c'.broken then .throws else if m = .play then .streams else .returns) := by
  have htext : (Due.reply m n).item.text 0x24 = _ := text_reply c.session hid m n
  rw [acts_eq, hcseq, Connection.perform, ← htext]
  dsimp only
  split_ifs
  · rfl
  · rfl
  · rfl

/-- The server has written what the service notes. -/
structure Simulates (s : Server) (v : Service) : Prop where
  connections : List.Forall₂ Connection.Serves s.connections v.viewers
  counters : s.counters = .after v.pictures
  watching : s.streaming = v.watching
  ended : s.ended = v.ended

theorem isLost_eq {connections : List Connection} {v : Service} {i : Nat} {c : Connection}
    (h : List.Forall₂ Connection.Serves connections v.viewers) (hi : connections[i]? = some c) :
    v.isLost i = c.broken := by
  obtain ⟨w, hw, hserves⟩ := exists_of_forall₂ h hi
  rw [Service.isLost, hw, hserves.broken]
  rfl

theorem forall₂_owe {connections : List Connection} {v : Service} {i : Nat} {c c' : Connection}
    (h : List.Forall₂ Connection.Serves connections v.viewers) (hi : connections[i]? = some c)
    (d : Due) (outcome : Outcome) (hnew : ∀ w, c.Serves w → c'.Serves (w.owe d outcome)) :
    List.Forall₂ Connection.Serves (connections.set i c') (v.owe i d outcome).viewers :=
  forall₂_set_modify h hi hnew

theorem Simulates.receive {s : Server} {v : Service} (h : Simulates s v) (hidle : s.isIdle)
    {i : Nat} {c : Connection} (hi : s.connections[i]? = some c) (request : List UInt8)
    (outcome : Outcome) :
    Simulates (s.receive i c request outcome) (v.note (.received i request outcome)) := by
  obtain ⟨hended, hwatching⟩ : s.ended = false ∧ s.streaming = none := by
    simpa [Server.isIdle] using hidle
  obtain ⟨w, -, hserves⟩ := exists_of_forall₂ h.connections hi
  rw [Server.receive, handleRequest_eq c.session (numbered_numberOf request), Service.note]
  by_cases hsmall : numberOf request ≤ 0x7FFFFFFF
  · rw [if_pos hsmall, if_neg (Nat.not_lt.mpr hsmall)]
    dsimp only
    rw [dispatch_methodOf]
    cases methodOf request with
    | none =>
      -- no reply, but the session has the number
      refine ⟨forall₂_set h.connections hi fun w hw => ?_, h.counters,
        hwatching.symm.trans h.watching, hended.symm.trans h.ended⟩
      exact hw.of_same rfl rfl rfl
    | some m =>
      let c₁ : Connection := { c with session := { c.session with cseq := numberOf request } }
      let d := Due.reply m (numberOf request)
      let c₂ := c₁.write (d.item.text 0x24) outcome
      have hperform : c₁.perform outcome (m.acts c₁.session) = (c₂, if c₂.broken then .throws else
          if m = .play then .streams else .returns) := perform_acts c₁ outcome m hserves.id rfl
      have hall : List.Forall₂ Connection.Serves (s.connections.set i c₂)
          (v.owe i d outcome).viewers := by
        refine forall₂_owe h.connections hi d outcome fun w hw => ?_
        have hw₁ : c₁.Serves w := hw.of_same rfl rfl rfl
        refine hw₁.write (fun m' n hd => ?_) outcome
        obtain ⟨-, rfl⟩ := Due.reply.inj hd
        exact hsmall
      have hlost : (v.owe i d outcome).isLost i = c₂.broken :=
        isLost_eq hall (List.getElem?_set_self (List.getElem?_eq_some_iff.mp hi).1)
      have hbehind : ({ c with session := { c.session with cseq := numberOf request } } :
          Connection).perform outcome (m.acts { c.session with cseq := numberOf request }) = _ :=
        hperform
      rw [Option.elim_some, hbehind, Option.elim_some]
      dsimp only
      rw [hlost]
      cases hbroken : c₂.broken with
      | true => exact ⟨hall, h.counters, hwatching.symm.trans h.watching, rfl⟩
      | false =>
        rw [if_neg Bool.false_ne_true, if_neg Bool.false_ne_true]
        by_cases hplay : m = .play
        · rw [if_pos hplay, if_pos hplay]
          exact ⟨hall, h.counters, rfl, hended.symm.trans h.ended⟩
        · rw [if_neg hplay, if_neg hplay]
          exact ⟨hall, h.counters, rfl, hended.symm.trans h.ended⟩
  · rw [if_neg hsmall, if_pos (Nat.not_le.mp hsmall)]
    exact ⟨h.connections, h.counters, h.watching, rfl⟩

/-- **A step.** -/
theorem Simulates.step {s s' : Server} {v : Service} (h : Simulates s v) {e : Event}
    (hstep : s.step e = some s') : Simulates s' (v.note e) := by
  cases e with
  | accepted cseq throws =>
    rw [Server.step] at hstep
    split_ifs at hstep with hidle hthrows
    · obtain rfl := Option.some.inj hstep
      rw [Service.note, if_pos hthrows]
      exact ⟨h.connections, h.counters, h.watching, rfl⟩
    · obtain rfl := Option.some.inj hstep
      rw [Service.note, if_neg hthrows]
      have hnew : Connection.Serves (.accepted cseq) ⟨[], false, none⟩ :=
        ⟨rfl, rfl, fun _ _ => rfl, fun _ => List.prefix_refl _, (fun _ hcut => by cases hcut),
          fun _ _ hmem => absurd hmem List.not_mem_nil⟩
      exact ⟨List.rel_append h.connections (.cons hnew .nil), h.counters, h.watching, h.ended⟩
  | acceptFailed =>
    rw [Server.step] at hstep
    split_ifs at hstep
    obtain rfl := Option.some.inj hstep
    exact h
  | received i request outcome =>
    obtain ⟨c, hi, hstep⟩ := Option.bind_eq_some_iff.mp hstep
    split_ifs at hstep with hready
    obtain rfl := Option.some.inj hstep
    exact h.receive hready.1 hi request outcome
  | receiveFailed i =>
    obtain ⟨c, hi, hstep⟩ := Option.bind_eq_some_iff.mp hstep
    split_ifs at hstep
    obtain rfl := Option.some.inj hstep
    refine ⟨forall₂_set h.connections hi fun w hw => ?_, h.counters, h.watching, h.ended⟩
    exact hw.of_same rfl rfl rfl
  | encoded data fails =>
    obtain ⟨i, hstreaming, hstep⟩ := Option.bind_eq_some_iff.mp hstep
    obtain ⟨c, hi, rfl⟩ := Option.map_eq_some_iff.mp hstep
    rw [Service.note, ← h.watching, hstreaming, h.counters, sendRtpPacket_after]
    refine ⟨?_, rfl, hstreaming.symm.trans h.watching, h.ended⟩
    refine forall₂_owe h.connections hi (.picture v.pictures data) (.ofWrite fails) fun w hw => ?_
    have hnumber : ∀ m n, Due.picture v.pictures data = .reply m n → n ≤ 0x7FFFFFFF :=
      fun m n hd => by cases hd
    exact hw.write hnumber (.ofWrite fails)
  | streamEnded throws =>
    obtain ⟨i, -, rfl⟩ := Option.map_eq_some_iff.mp hstep
    exact ⟨h.connections, h.counters, rfl, rfl⟩

theorem simulates_start : Simulates .start .start := ⟨.nil, rfl, rfl, rfl⟩

/-- **A run.** -/
theorem Simulates.runs {s s' : Server} {v : Service} (h : Simulates s v) (events : List Event)
    (hruns : runs Server.step s events = some s') : Simulates s' (events.foldl Service.note v) := by
  induction events generalizing s v with
  | nil =>
    obtain rfl := Option.some.inj hruns
    exact h
  | cons e events ih =>
    obtain ⟨s₁, hfirst, hrest⟩ := Option.bind_eq_some_iff.mp hruns
    exact ih (h.step hfirst) hrest

/-! ## What is read -/

theorem Due.gets_item {d : Due} (hnumber : ∀ m n, d = .reply m n → n ≤ 0x7FFFFFFF) :
    d.Gets d.item := by
  cases d with
  | reply m n =>
    have hsmall := hnumber m n rfl
    have hint : IsInt n := ⟨by omega, by omega⟩
    exact .reply isStatus_ok.code (cseq_replyMessage isStatus_ok hint) rfl rfl
  | picture k data => exact .picture (carried_after k data)

theorem Due.readable_item {d : Due}
    (hfits : ∀ k data, d = .picture k data → data.length + RTP_HEADER_SIZE < 65536) :
    d.item.Readable contentLength 0x24 := by
  cases d with
  | reply m n => exact readable_reply m n
  | picture k data =>
    have hlength := hfits k data rfl
    rw [RTP_HEADER_SIZE] at hlength
    show (rtpPacket _ data).length < 65536
    rw [length_rtpPacket]
    exact hlength

theorem Viewer.Fits.view_text {w : Viewer} (h : w.Fits) : view w.text = w.due.map Due.item := by
  have hreadable : ∀ item ∈ w.due.map Due.item, item.Readable contentLength 0x24 := by
    intro item hitem
    obtain ⟨d, hd, rfl⟩ := List.mem_map.mp hitem
    exact Due.readable_item fun k data hpicture => h k data (hpicture ▸ hd)
  have hread := MixedStream.Reader.read_items hreadable []
  rw [List.flatMap_map] at hread
  rw [view, Viewer.text, hread]
  rfl

theorem Viewer.fits_of_gets {w : Viewer} {stream : List UInt8}
    (h : List.Forall₂ Due.Gets w.due (view stream)) : w.Fits := by
  intro k data hpicture
  obtain ⟨i, hi⟩ := List.mem_iff_getElem?.mp hpicture
  obtain ⟨item, hitem, hgets⟩ := exists_of_forall₂ h hi
  cases hgets with
  | picture hcarried =>
    rename_i f
    have hlt := MixedStream.Reader.length_lt_of_read stream f (List.mem_of_getElem? hitem)
    have hpayload := congrArg List.length hcarried.payload
    have hheader := hcarried.header
    rw [List.length_drop] at hpayload
    omega

theorem Connection.Serves.reads {c : Connection} {w : Viewer} (h : c.Serves w) :
    w.Reads c.written := by
  have hgets : ∀ d ∈ w.due, d.Gets d.item :=
    fun d hd => Due.gets_item fun m n hreply => h.number m n (hreply ▸ hd)
  refine ⟨fun hkept hcut => ?_, fun _ hcut hfits => ?_, fun n hcut hfits => ?_⟩
  · rw [h.whole hkept hcut]
    refine ⟨Viewer.fits_of_gets, fun hfits => ?_⟩
    rw [hfits.view_text, List.forall₂_map_right_iff, List.forall₂_same]
    exact hgets
  · have hfirst : view c.written <+: w.due.map Due.item := by
      rw [← hfits.view_text]
      exact MixedStream.Reader.done_of_prefix _ (h.part hcut)
    obtain ⟨got, hgot, hview⟩ := List.prefix_map_iff.mp hfirst
    refine ⟨got, hgot, ?_⟩
    rw [hview, List.forall₂_map_right_iff, List.forall₂_same]
    exact fun d hd => hgets d (hgot.subset hd)
  · -- what is read in front of the cut reply does not depend on what is behind
    obtain ⟨hn, hbefore⟩ := h.front n hcut
    have hfirst : (w.due.take n).map Due.item <+: view c.written := by
      change (w.front n).due.map Due.item <+: view c.written
      rw [← hfits.view_text]
      exact MixedStream.Reader.done_of_prefix _ hbefore
    have hview := List.prefix_iff_eq_take.mp hfirst
    rw [List.length_map, List.length_take, Nat.min_eq_left hn] at hview
    rw [← hview, List.forall₂_map_right_iff, List.forall₂_same]
    exact fun d hd => hgets d (List.mem_of_mem_take hd)

/-- **The clients of the camera server.** Whatever the clients, the encoder and the sockets do:
there is a connection for every client that was accepted, what is read from it is what its requests
and its streams are owed, and the server ends exactly where the service does. -/
theorem served_runs {events : List Event} {s : Server}
    (h : runs Server.step .start events = some s) :
    List.Forall₂ (fun c w => Viewer.Reads w c.written) s.connections (served events).viewers ∧
      s.streaming = (served events).watching ∧ s.ended = (served events).ended := by
  have hsimulates := simulates_start.runs events h
  refine ⟨hsimulates.connections.imp fun c w hserves => hserves.reads, hsimulates.watching,
    hsimulates.ended⟩

/-- A client asks for the methods and watches a picture, and so does another behind it; the second
reply to a third one is cut. -/
def threeViewers : List Event :=
  [.accepted 0 false, .accepted 7 false, .accepted 0 false,
    .received 1 (str "OPTIONS rtsp://10.0.0.1:8554/live RTSP/1.0\r\nCSeq: 1\r\n\r\n") .whole,
    .received 2 (str "OPTIONS rtsp://10.0.0.1:8554/live RTSP/1.0\r\nCSeq: 1\r\n\r\n") .whole,
    .received 2 (str "SETUP rtsp://10.0.0.1:8554/live RTSP/1.0\r\nCSeq: 2\r\n\r\n") (.short 9),
    .received 0 (str "PLAY rtsp://10.0.0.1:8554/live RTSP/1.0\r\nCSeq: 4\r\n\r\n") .whole,
    .encoded [0, 0, 1, 0x65] none, .streamEnded false,
    .received 1 (str "PLAY rtsp://10.0.0.1:8554/live RTSP/1.0\r\nCSeq: 2\r\n\r\n") .whole,
    .encoded [0, 0, 1, 0x41] none]

set_option maxRecDepth 4096 in
theorem served_threeViewers : ∃ s, runs Server.step .start threeViewers = some s ∧
    List.Forall₂ (fun c w => Viewer.Reads w c.written) s.connections
      [⟨[.reply .play 4, .picture 0 [0, 0, 1, 0x65]], false, none⟩,
        ⟨[.reply .options 1, .reply .play 2, .picture 1 [0, 0, 1, 0x41]], false, none⟩,
        ⟨[.reply .options 1, .reply .setup 2], false, some 1⟩] ∧
    s.streaming = some 1 ∧ s.ended = false := by
  have hruns : (runs Server.step .start threeViewers).isSome := by decide +kernel
  obtain ⟨s, hs⟩ := Option.isSome_iff_exists.mp hruns
  have hviewers : (served threeViewers).viewers =
      [⟨[.reply .play 4, .picture 0 [0, 0, 1, 0x65]], false, none⟩,
        ⟨[.reply .options 1, .reply .play 2, .picture 1 [0, 0, 1, 0x41]], false, none⟩,
        ⟨[.reply .options 1, .reply .setup 2], false, some 1⟩] := by
    decide +kernel
  obtain ⟨hreads, hstreaming, hended⟩ := served_runs hs
  rw [hviewers] at hreads
  exact ⟨s, hs, hreads, hstreaming, hended⟩

end Camera

end SimpleRtsp

import SimpleRtsp.Rtsp.Replay

/-!
# How the stream is cut

A connection is a stream of bytes, and `recv` may cut it anywhere. `doClientThd` takes what one call
of `recv` returns for one request: it keeps nothing of a request that is cut and looks at nothing
behind the first of several. So a turn is all that comes of a `recv` (`length_turns_le`), a request
that arrives byte by byte is read beyond its first byte, and what the connection does depends on the
cuts for every stream that has a request in it (`uncut_iff`).
-/

namespace SimpleRtsp

open CString

def crlf : List UInt8 := str "\r\n"

/-- A request as the protocol writes it: a request line, header lines with a number among them and
in a SETUP a transport, and an empty line. -/
structure RtspRequest where
  method : List UInt8
  url : List UInt8
  headers : List (List UInt8)
  method_word : method ≠ [] ∧ IsWord method ∧ 0 ∉ method
  url_word : url ≠ [] ∧ IsWord url ∧ 0 ∉ url
  header_line : ∀ h ∈ headers, h ≠ [] ∧ 0x0D ∉ h ∧ 0x0A ∉ h ∧ 0 ∉ h
  cseq : ∃ n : Nat, str "CSeq: " ++ decimal n ∈ headers
  transport : method = str "SETUP" → ∃ h ∈ headers, str "Transport: " <+: h

def RtspRequest.text (r : RtspRequest) : List UInt8 :=
  requestText r.method r.url (r.headers.flatMap (· ++ crlf) ++ crlf)

/-- What `recv` returns, call by call, for the bytes of a stream. -/
structure Delivers (msgs : List (List UInt8)) (stream : List UInt8) : Prop where
  stream : msgs.flatten = stream
  sizes : ∀ msg ∈ msgs, msg ≠ [] ∧ msg.length ≤ BUF_MAX_SIZE

def Outcome.reply : Outcome → Option (List UInt8)
  | .closed reply => reply
  | .unauthorized reply => some reply
  | .replied _ reply _ => some reply
  | .played reply _ _ => some reply

def Outcome.call : Outcome → Option AddArgs
  | .played _ a _ => some a
  | _ => none

/-- The replies on a connection and its calls of `addClient`, when `recv` returns these messages. -/
def produced (conn : Conn) (w : World) (t : Thread) (msgs : List (List UInt8)) :
    Except Fault (List (List UInt8) × List AddArgs) :=
  (doClientThd conn t (msgs.map fun msg => (w, msg))).map fun turns =>
    (turns.filterMap fun turn => turn.2.reply, turns.filterMap fun turn => turn.2.call)

/-- However the stream is cut, the same is produced. -/
def Uncut (conn : Conn) (w : World) (t : Thread) (stream : List UInt8) : Prop :=
  ∀ msgs msgs', Delivers msgs stream → Delivers msgs' stream →
    ∃ p, produced conn w t msgs = .ok p ∧ produced conn w t msgs' = .ok p

/-! ## One turn for a `recv` -/

theorem length_turns_le {conn : Conn} {t : Thread} {messages : List (World × List UInt8)}
    {turns : List (List UInt8 × Outcome)} (h : doClientThd conn t messages = .ok turns) :
    turns.length ≤ messages.length := by
  induction messages generalizing t turns with
  | nil =>
    rw [← Except.ok.inj h]
    exact Nat.le_refl 0
  | cons message rest ih =>
    obtain ⟨o, later, -, rfl, hlater⟩ := doClientThd_cons.mp h
    rw [List.length_cons, List.length_cons]
    refine Nat.succ_le_succ ?_
    obtain ⟨-, rfl⟩ | ⟨t', -, hlater⟩ := hlater
    · exact Nat.zero_le _
    · exact ih hlater

theorem length_replies_le {conn : Conn} {w : World} {t : Thread} {msgs : List (List UInt8)}
    {p : List (List UInt8) × List AddArgs} (h : produced conn w t msgs = .ok p) :
    p.1.length ≤ msgs.length := by
  obtain ⟨turns, hturns, rfl⟩ := map_eq_ok.mp h
  calc (turns.filterMap fun turn => turn.2.reply).length
      ≤ turns.length := List.length_filterMap_le _ _
    _ ≤ (msgs.map fun msg => (w, msg)).length := length_turns_le hturns
    _ = msgs.length := List.length_map _

/-! ## Byte by byte -/

theorem handleRequest_byte (conn : Conn) (w : World) (t : Thread) {b : UInt8} (hb : b ≠ 0x0A) :
    handleRequest conn w t [b] = .error .recvBuf := by
  have hline : getLineFromBuf [b, 0] = .error .recvBuf := by
    rw [getLineFromBuf, copyLine, if_neg hb, if_pos (by decide), copyLine, if_neg (by decide),
      if_pos (by simp), copyLine]
  have hfits : [b].length < BUF_MAX_SIZE := show 1 < BUF_MAX_SIZE by decide
  have hparse : parseRequest [b] = .error .recvBuf := by
    rw [parseRequest, terminate, if_pos hfits]
    show (getLineFromBuf [b, 0] >>= _) = _
    rw [hline]
    rfl
  rw [handleRequest, hparse]
  rfl

theorem delivers_bytes (stream : List UInt8) : Delivers (stream.map fun b => [b]) stream where
  stream := by
    rw [← List.flatMap_def]
    exact List.flatMap_singleton' stream
  sizes msg hmsg := by
    obtain ⟨b, -, rfl⟩ := List.mem_map.mp hmsg
    exact ⟨List.cons_ne_nil b [], show 1 ≤ BUF_MAX_SIZE by decide⟩

theorem RtspRequest.text_eq_cons (r : RtspRequest) : ∃ b rest, r.text = b :: rest ∧ b ≠ 0x0A := by
  obtain ⟨hne, hword, -⟩ := r.method_word
  obtain ⟨b, method, hmethod⟩ := List.exists_cons_of_ne_nil hne
  refine ⟨b, _, by rw [text, requestText, hmethod, List.cons_append], ?_⟩
  rintro rfl
  have hspace := hword 0x0A (hmethod ▸ List.mem_cons_self)
  exact absurd hspace (by decide)

theorem delivers_nil {msgs : List (List UInt8)} (h : Delivers msgs []) : msgs = [] := by
  cases msgs with
  | nil => rfl
  | cons msg rest =>
    have hempty := List.flatten_eq_nil_iff.mp h.stream msg List.mem_cons_self
    exact absurd hempty (h.sizes msg List.mem_cons_self).1

/-- **The cuts matter.** Only without any request the connection does the same however the stream is
cut. -/
theorem uncut_iff (conn : Conn) (w : World) (t : Thread) (requests : List RtspRequest) :
    Uncut conn w t (requests.flatMap RtspRequest.text) ↔ requests = [] := by
  constructor
  · intro huncut
    cases requests with
    | nil => rfl
    | cons r rest =>
      obtain ⟨b, more, htext, hb⟩ := r.text_eq_cons
      have hbytes := delivers_bytes ((r :: rest).flatMap RtspRequest.text)
      obtain ⟨p, hp, -⟩ := huncut _ _ hbytes hbytes
      rw [List.flatMap_cons, htext, List.cons_append, List.map_cons, produced, List.map_cons,
        doClientThd, handleRequest_byte conn w t hb] at hp
      exact absurd hp (by simp [bind, Except.bind, Except.map])
  · rintro rfl msgs msgs' hmsgs hmsgs'
    rw [delivers_nil hmsgs, delivers_nil hmsgs']
    exact ⟨([], []), rfl, rfl⟩

/-! ## Two requests at once -/

def optionsOne : RtspRequest where
  method := str "OPTIONS"
  url := urlA
  headers := [str "CSeq: 1"]
  method_word := by decide
  url_word := by decide
  header_line := by decide
  cseq := ⟨1, by decide +kernel⟩
  transport h := absurd h (by decide)

set_option maxRecDepth 2048 in
/-- Of two requests in one `recv` the second gets no reply. -/
theorem not_uncut_two : ¬ ∀ (conn : Conn) (w : World) (t : Thread) (requests : List RtspRequest),
    Uncut conn w t (requests.flatMap RtspRequest.text) := by
  intro huncut
  have hone := huncut openConn easyWorld (.init [] []) [optionsOne, optionsOne]
    [optionsOne.text, optionsOne.text] [optionsOne.text ++ optionsOne.text]
    ⟨rfl, by decide +kernel⟩ ⟨rfl, by decide +kernel⟩
  obtain ⟨p, hp, hp'⟩ := hone
  have htwo : produced openConn easyWorld (.init [] []) [optionsOne.text, optionsOne.text] =
      .ok ([handleCmdOptions 1, handleCmdOptions 1], []) := rfl
  rw [← Except.ok.inj (htwo.symm.trans hp)] at hp'
  exact absurd (length_replies_le hp') (by decide)

end SimpleRtsp

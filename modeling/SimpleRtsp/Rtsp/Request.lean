import SimpleRtsp.Lib.CString

/-!
# The text of a request

`doClientThd` copies a request line by line into `line` and searches what it copied: the tokens of
the first line, then the `CSeq:` line, then in a SETUP the `Transport:` line. Every access is
checked here. The receive buffer is the message and the NUL behind it, `line` and the tokens have
the sizes of their arrays, and an access outside is a `Fault`.
-/

namespace SimpleRtsp

open CString

def BUF_MAX_SIZE : Nat := 1024 * 1024

/-- What goes wrong in memory, by the array or pointer it is about. -/
inductive Fault where
  /-- an access to `recv_buf` outside its size or behind the message -/
  | recvBuf
  | line
  | method
  | url
  | version
  /-- a loop that does not end -/
  | endless
  | localIp
  | pathTmp
  | path
  /-- one of the buffers of `authorization_verify` -/
  | buffer
  /-- a search that starts behind the end of the header value -/
  | authValue
  | nullPointer
  deriving DecidableEq

/-- A string and its NUL are written to an array of this size. -/
def store (fault : Fault) (size : Nat) (s : List UInt8) : Except Fault (List UInt8) :=
  if s.length < size then .ok s else .error fault

/-- `recv_buf[recv_len] = '\0'`. -/
def terminate (msg : List UInt8) : Except Fault (List UInt8) :=
  if msg.length < BUF_MAX_SIZE then .ok (msg ++ [0]) else .error .recvBuf

/-- The loop of `getLineFromBuf`, with what is in `line` so far. -/
def copyLine : List UInt8 → List UInt8 → Except Fault (List UInt8 × List UInt8)
  | _, [] => .error .recvBuf
  | line, b :: buf =>
    if b = 0x0A then
      if line.length + 2 ≤ 400 then .ok (line ++ [0x0A], buf) else .error .line
    else if line.length < 400 then copyLine (line ++ [b]) buf else .error .line

/-- `getLineFromBuf`: the line, and the rest of the buffer. -/
def getLineFromBuf (buf : List UInt8) : Except Fault (List UInt8 × List UInt8) := copyLine [] buf

/-- `!strncmp(line, key, strlen(key))`. -/
def startsWith (line : List UInt8) (key : String) : Bool := (str key).isPrefixOf line

structure RequestLine where
  method : List UInt8
  url : List UInt8
  version : List UInt8

/-- A `%s` of `sscanf` stores its word, if it found one. -/
def storeWord (fault : Fault) (size : Nat) : Option Arg → Except Fault Unit
  | some (.string s) => (store fault size s).map fun _ => ()
  | _ => .ok ()

def threeWords : List Arg → Option RequestLine
  | [.string method, .string url, .string version] => some ⟨method, url, version⟩
  | _ => none

/-- `sscanf(line, "%s %s %s\r\n", method, url, version)`; none if it does not return 3. -/
def parseRequestLine (line : List UInt8) : Except Fault (Option RequestLine) := do
  let args := sscanf (cstr line) "%s %s %s\r\n"
  storeWord .method 40 args[0]?
  storeWord .url 100 args[1]?
  storeWord .version 40 args[2]?
  pure (threeWords args)

/-- The loops over the lines: the first line that is `found`, and what is behind it. -/
def untilLine (found : List UInt8 → Bool) : Nat → List UInt8 →
    Except Fault (List UInt8 × List UInt8)
  | 0, _ => .error .endless
  | fuel + 1, buf => do
    let (line, buf) ← getLineFromBuf buf
    if found line then pure (line, buf) else untilLine found fuel buf

def isCSeq (line : List UInt8) : Bool := startsWith line "CSeq:"

def isTcp (line : List UInt8) : Bool := startsWith line "Transport: RTP/AVP/TCP"

def isUdp (line : List UInt8) : Bool := startsWith line "Transport: RTP/AVP/UDP"

def isAvp (line : List UInt8) : Bool := startsWith line "Transport: RTP/AVP"

def oneInt : List Arg → Option Int
  | [.int n] => some n
  | _ => none

/-- The loop over the `CSeq:` line, and the number of that line. -/
def parseCSeq (buf : List UInt8) : Except Fault (Option Int) := do
  let (line, _) ← untilLine isCSeq (buf.length + 1) buf
  pure (oneInt (sscanf (cstr line) "CSeq: %d\r\n"))

/-- The loop over the `Transport:` line. -/
def findTransport (buf : List UInt8) : Except Fault (List UInt8) := do
  let (line, _) ←
    untilLine (fun line => isTcp line || isUdp line || isAvp line) (buf.length + 1) buf
  pure line

end SimpleRtsp

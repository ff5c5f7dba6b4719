import SimpleRtsp.Rtsp.Request

/-!
# Authorization

The digest that a DESCRIBE, SETUP or PLAY has to carry. MD5 is a parameter: any function from byte
strings to digests.
-/

namespace SimpleRtsp

open CString

structure AuthorizationInfo where
  username : Option (List UInt8)
  realm : Option (List UInt8)
  nonce : Option (List UInt8)
  uri : Option (List UInt8)
  response : Option (List UInt8)

/-- `extract_value`: the text between the quotes behind `key`. -/
def extractValue (source : List UInt8) (key : String) : Except Fault (Option (List UInt8)) :=
  match strstr source (str key) with
  | none => .ok none
  | some start =>
    if (str key).length + 2 ≤ start.length then
      let start := start.drop ((str key).length + 2)
      match strchr start 0x22 with
      | none => .ok none
      | some rest => .ok (some (start.take (start.length - rest.length)))
    else .error .authValue

def findAuthorization (request : List UInt8) : Except Fault (Option AuthorizationInfo) :=
  match strstr request (str "Authorization: ") with
  | none => .ok none
  | some found =>
    let authStart := found.drop (str "Authorization: ").length
    match (strchr authStart 0x0D).or (strchr authStart 0x0A) with
    | none => .ok none
    | some authEnd => do
      let authValue := authStart.take (authStart.length - authEnd.length)
      let username ← extractValue authValue "username"
      let realm ← extractValue authValue "realm"
      let nonce ← extractValue authValue "nonce"
      let uri ← extractValue authValue "uri"
      let response ← extractValue authValue "response"
      pure (some ⟨username, realm, nonce, uri, response⟩)

def hexDigit (n : Nat) : UInt8 := UInt8.ofNat (if n < 10 then 0x30 + n else 0x57 + n)

/-- `%02x` for every byte. -/
def hex (digest : List UInt8) : List UInt8 :=
  digest.flatMap fun b => [hexDigit (b.toNat / 16), hexDigit (b.toNat % 16)]

/-- `s₁:s₂`. -/
def colon (s₁ s₂ : List UInt8) : List UInt8 := s₁ ++ str ":" ++ s₂

/-- `authorization_verify`; a field that was not found is a NULL pointer. -/
def authorizationVerify (md5 : List UInt8 → List UInt8) (username password realm nonce : List UInt8)
    (uri : Option (List UInt8)) (method : List UInt8) (response : Option (List UInt8)) :
    Except Fault Int := do
  let buffer1 ← store .buffer 256 (colon username (colon realm password))
  let res1Hex := hex (md5 buffer1)
  let uri ← uri.elim (.error .nullPointer) .ok
  let buffer2 ← store .buffer 256 (colon method uri)
  let res2Hex := hex (md5 buffer2)
  let buffer ← store .buffer 512 (colon res1Hex (colon nonce res2Hex))
  let resHex := hex (md5 buffer)
  let response ← response.elim (.error .nullPointer) .ok
  pure (if resHex = response then 0 else -1)

def USER : List UInt8 := str "admin"

def PASSWORD : List UInt8 := str "123456"

def realm : List UInt8 := str "simple-rtsp-server"

inductive Authorized where
  | passed
  | missing
  | rejected
  deriving DecidableEq

/-- The authorization step of `doClientThd`. -/
def authorize (auth : Int) (md5 : List UInt8 → List UInt8) (nonce : List UInt8)
    (recvBuf method : List UInt8) : Except Fault Authorized :=
  if auth = 1 ∧ (method = str "SETUP" ∨ method = str "DESCRIBE" ∨ method = str "PLAY") then do
    match ← findAuthorization (cstr recvBuf) with
    | none => pure .missing
    | some authInfo =>
      let ret ← authorizationVerify md5 USER PASSWORD realm nonce authInfo.uri method
        authInfo.response
      pure (if ret < 0 then .rejected else .passed)
  else .ok .passed

end SimpleRtsp

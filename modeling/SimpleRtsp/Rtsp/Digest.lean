import Mathlib.Data.List.Infix
import SimpleRtsp.Lib.Fallible
import SimpleRtsp.Rtsp.Connection

/-!
# The digest of a request

DESCRIBE, SETUP and PLAY need authorization: a response that is the digest of the password, of the
nonce of the connection, of the method and of the URI next to it.
-/

namespace SimpleRtsp

open CString

/-- The methods that need authorization. -/
def Guarded (method : List UInt8) : Prop :=
  method = str "DESCRIBE" ∨ method = str "SETUP" ∨ method = str "PLAY"

instance : DecidablePred Guarded := fun _ => inferInstanceAs (Decidable (_ ∨ _))

theorem guarded_methods {method : List UInt8} (h : Guarded method) : (1 : Int) = 1 ∧
    (method = str "SETUP" ∨ method = str "DESCRIBE" ∨ method = str "PLAY") := by
  unfold Guarded at h
  tauto

def authorizationKey : List UInt8 := str "Authorization: "

/-- The response that belongs to a nonce, a method and a URI. -/
def digest (md5 : List UInt8 → List UInt8) (nonce method uri : List UInt8) : List UInt8 :=
  hex (md5 (colon (hex (md5 (colon USER (colon realm PASSWORD))))
    (colon nonce (hex (md5 (colon method uri))))))

def asked (msg : List UInt8) : Option Request :=
  match parseRequest msg with
  | .ok r => r
  | .error _ => none

theorem asked_eq_some {msg : List UInt8} {r : Request} : asked msg = some r ↔ Asks msg r := by
  rw [asked, Asks]
  cases parseRequest msg with
  | error fault => simp
  | ok r' => simp

theorem store_gives (fault : Fault) (size : Nat) (s : List UInt8) :
    Gives (· = s) (store fault size s) := by
  rw [store]
  split_ifs
  · exact .ok rfl
  · exact .error fault

theorem authorizationVerify_gives (md5 : List UInt8 → List UInt8) (nonce method : List UInt8)
    (uri response : Option (List UInt8)) :
    Gives (fun ret => ¬ ret < 0 →
        ∃ u, uri = some u ∧ response = some (digest md5 nonce method u))
      (authorizationVerify md5 USER PASSWORD realm nonce uri method response) := by
  refine .bind (store_gives _ _ _) ?_
  rintro _ rfl
  cases uri with
  | none => exact .error _
  | some u =>
    refine .bind (.ok rfl) ?_
    rintro _ rfl
    refine .bind (store_gives _ _ _) ?_
    rintro _ rfl
    refine .bind (store_gives _ _ _) ?_
    rintro _ rfl
    cases response with
    | none => exact .error _
    | some response =>
      refine .bind (.ok rfl) ?_
      rintro _ rfl
      refine .ok fun hret => ⟨u, rfl, ?_⟩
      split_ifs at hret with heq
      · exact congrArg some heq.symm
      · exact absurd hret (by decide)

theorem parseRequest_recvBuf (msg : List UInt8) :
    Gives (fun r => ∀ r' ∈ r, r'.recvBuf = msg ++ [0]) (parseRequest msg) := by
  have hterminate : Gives (· = msg ++ [0]) (terminate msg) := by
    rw [terminate]
    split_ifs
    · exact .ok rfl
    · exact .error _
  refine .bind hterminate ?_
  rintro _ rfl
  refine .bind_any fun line => .bind_any fun requestLine => ?_
  cases requestLine with
  | none => exact .ok fun r' hr' => absurd hr' (Option.not_mem_none r')
  | some requestLine =>
    refine .bind_any fun cseq => ?_
    cases cseq with
    | none => exact .ok fun r' hr' => absurd hr' (Option.not_mem_none r')
    | some cseq =>
      refine .ok ?_
      rintro _ ⟨⟩
      rfl

theorem doClientThd_cons {conn : Conn} {t : Thread} {w : World} {msg : List UInt8}
    {rest : List (World × List UInt8)} {turns : List (List UInt8 × Outcome)} :
    doClientThd conn t ((w, msg) :: rest) = .ok turns ↔
      ∃ o later, handleRequest conn w t msg = .ok o ∧ turns = (msg, o) :: later ∧
        (o.next t = none ∧ later = [] ∨
          ∃ t', o.next t = some t' ∧ doClientThd conn t' rest = .ok later) := by
  rw [doClientThd, bind_eq_ok]
  constructor
  · rintro ⟨o, ho, h⟩
    cases hnext : o.next t with
    | none =>
      rw [hnext] at h
      exact ⟨o, [], ho, (Except.ok.inj h).symm, Or.inl ⟨hnext, rfl⟩⟩
    | some t' =>
      rw [hnext] at h
      obtain ⟨later, hlater, hturns⟩ := map_eq_ok.mp h
      exact ⟨o, later, ho, hturns.symm, Or.inr ⟨t', hnext, hlater⟩⟩
  · rintro ⟨o, later, ho, rfl, hlater⟩
    refine ⟨o, ho, ?_⟩
    obtain ⟨hnext, rfl⟩ | ⟨t', hnext, hlater⟩ := hlater
    · rw [hnext]
      rfl
    · rw [hnext]
      exact map_eq_ok.mpr ⟨later, hlater, rfl⟩

/-- A connection with authorization. The hash function is the identity. -/
def digestConn : Conn := { openConn with auth := 1, nonce := str "5f" }

/-- The line with the digest for a method and a URI. -/
def authorizationLine (conn : Conn) (method uri : List UInt8) : List UInt8 :=
  authorizationKey ++ str "Digest uri=\"" ++ uri ++ str "\", response=\"" ++
    digest conn.md5 conn.nonce method uri ++ str "\"\r\n"

def describeText (authorization : List UInt8) : List UInt8 :=
  str "DESCRIBE rtsp://10.0.0.1/a.mp4 RTSP/1.0\r\nCSeq: 1\r\n" ++ authorization ++ str "\r\n"

end SimpleRtsp

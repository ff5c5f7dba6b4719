import SimpleRtsp.Lib.Numeral
import SimpleRtsp.Rtsp.Parsing
import SimpleRtsp.Rtsp.Sdp

/-!
# The host in a URL

`doClientThd` takes its own address from the URL of a request, for the description of a file and for
the reply to a SETUP: `"rtsp://%[^:]:"` takes everything up to the first `:`. A URL may have a user
and a password in front of the host and a port behind it, each with a `:` of its own.
`extractsHost_iff` says for which URLs the host is what is taken.
-/

namespace SimpleRtsp

open CString

/-! ## URLs -/

/-- A character of an IPv4 address or of a host name. -/
def isHostChar (b : UInt8) : Bool :=
  isdigit b || (0x61 ≤ b && b ≤ 0x7A) || (0x41 ≤ b && b ≤ 0x5A) || b = 0x2E || b = 0x2D

def IsUserText (s : List UInt8) : Prop := s ≠ [] ∧ 0x3A ∉ s ∧ 0x40 ∉ s ∧ 0x2F ∉ s

/-- `rtsp://[user:password@]host[:port]/name`. -/
structure RtspUrl where
  userinfo : Option (List UInt8 × List UInt8)
  host : List UInt8
  port : Option (List UInt8)
  name : List UInt8
  host_ne : host ≠ []
  host_chars : ∀ b ∈ host, isHostChar b = true
  userinfo_text : ∀ info ∈ userinfo, IsUserText info.1 ∧ IsUserText info.2
  port_numeral : ∀ p ∈ port, p ≠ [] ∧ IsNumeral p

namespace RtspUrl

variable (url : RtspUrl)

/-- What is behind `rtsp://`. -/
def rest : List UInt8 :=
  (match url.userinfo with
    | some (user, password) => user ++ 0x3A :: (password ++ [0x40])
    | none => []) ++ url.host ++
  (match url.port with
    | some port => 0x3A :: port
    | none => []) ++ 0x2F :: url.name

def text : List UInt8 := str "rtsp://" ++ url.rest

/-- The first `:` is the one behind the host, or the user has the name of the host. -/
def HostFirst : Prop :=
  url.userinfo = none ∧ url.port ≠ none ∨ ∃ password, url.userinfo = some (url.host, password)

/-- The address that is extracted from the URL is the host, whatever was in the variable before: for
a DESCRIBE, and for a SETUP. -/
structure ExtractsHost : Prop where
  describe : ∀ before, readLocalIp 100 url.text before = .ok url.host
  setup : ∀ before, readLocalIp 40 url.text before = .ok url.host

/-! ## What is extracted -/

theorem sscanf_host {rest : List UInt8} (hne : rest.takeWhile (· ≠ 0x3A) ≠ []) :
    sscanf (str "rtsp://" ++ rest) "rtsp://%[^:]:" = [.string (rest.takeWhile (· ≠ 0x3A))] := by
  have hformat : directives (str "rtsp://%[^:]:") =
      (str "rtsp://").map .char ++ [.upTo 0x3A, .char 0x3A] := rfl
  rw [sscanf, hformat, scan_literal, scan_upTo hne, scan]
  split_ifs <;> rfl

theorem readLocalIp_text {taken : List UInt8} (h : url.rest.takeWhile (· ≠ 0x3A) = taken)
    (hne : taken ≠ []) (size : Nat) (before : List UInt8) :
    readLocalIp size url.text before = store .localIp size taken := by
  rw [readLocalIp, text, sscanf_host (by rwa [h]), h]

theorem host_chars_ne {b : UInt8} (hb : b ∈ url.host) : b ≠ 0x3A ∧ b ≠ 0x2F := by
  have hchar := url.host_chars b hb
  constructor <;> rintro rfl <;> exact absurd hchar (by decide)

theorem taken_user {user password : List UInt8} (h : url.userinfo = some (user, password)) :
    url.rest.takeWhile (· ≠ 0x3A) = user := by
  have huser := (url.userinfo_text (user, password) h).1.2.1
  rw [rest, h]
  dsimp only
  rw [List.append_assoc, List.append_assoc, List.append_assoc, List.cons_append]
  exact takeWhile_append_cons huser _

theorem taken_host (h : url.userinfo = none) {port : List UInt8} (hport : url.port = some port) :
    url.rest.takeWhile (· ≠ 0x3A) = url.host := by
  rw [rest, h, hport]
  dsimp only
  rw [List.nil_append, List.append_assoc, List.cons_append]
  exact takeWhile_append_cons (fun hmem => (url.host_chars_ne hmem).1 rfl) _

theorem taken_name (h : url.userinfo = none) (hport : url.port = none) :
    url.rest.takeWhile (· ≠ 0x3A) = url.host ++ 0x2F :: url.name.takeWhile (· ≠ 0x3A) := by
  rw [rest, h, hport]
  dsimp only
  rw [List.nil_append, List.append_nil, List.takeWhile_append_of_pos]
  · rw [List.takeWhile_cons_of_pos (by decide)]
  · intro b hb
    simpa using (url.host_chars_ne hb).1

theorem store_eq_ok_iff {fault : Fault} {size : Nat} {s t : List UInt8} :
    store fault size s = .ok t ↔ s = t ∧ t.length < size := by
  rw [store]
  constructor
  · intro h
    split_ifs at h with hfits
    obtain rfl := Except.ok.inj h
    exact ⟨rfl, hfits⟩
  · rintro ⟨rfl, hfits⟩
    rw [if_pos hfits]

/-- What is taken is the host exactly if it is the first part that ends with a `:`. -/
theorem taken_eq_iff {taken : List UInt8} (h : url.rest.takeWhile (· ≠ 0x3A) = taken) :
    taken = url.host ↔ url.HostFirst := by
  cases hinfo : url.userinfo with
  | some info =>
    obtain ⟨user, password⟩ := info
    obtain rfl := (url.taken_user hinfo).symm.trans h
    simp [HostFirst, hinfo]
  | none =>
    cases hport : url.port with
    | some port =>
      obtain rfl := (url.taken_host hinfo hport).symm.trans h
      simp [HostFirst, hinfo, hport]
    | none =>
      obtain rfl := (url.taken_name hinfo hport).symm.trans h
      simp [HostFirst, hinfo, hport]

theorem taken_ne_nil : url.rest.takeWhile (· ≠ 0x3A) ≠ [] := by
  cases hinfo : url.userinfo with
  | some info =>
    obtain ⟨user, password⟩ := info
    rw [url.taken_user hinfo]
    exact (url.userinfo_text (user, password) hinfo).1.1
  | none =>
    cases hport : url.port with
    | some port =>
      rw [url.taken_host hinfo hport]
      exact url.host_ne
    | none =>
      rw [url.taken_name hinfo hport]
      simp

/-- **When the host is what is taken.** The address is right if and only if there is a port and no
user, or a user with the name of the host, and the host fits in `local_ip`. -/
theorem extractsHost_iff : url.ExtractsHost ↔ url.HostFirst ∧ url.host.length < 40 := by
  have hread := url.readLocalIp_text rfl url.taken_ne_nil
  constructor
  · intro h
    have hsetup := h.setup []
    rw [hread, store_eq_ok_iff] at hsetup
    exact ⟨(url.taken_eq_iff rfl).mp hsetup.1, hsetup.2⟩
  · rintro ⟨hfirst, hshort⟩
    have htaken := (url.taken_eq_iff rfl).mpr hfirst
    constructor
    · intro before
      rw [hread, store_eq_ok_iff]
      exact ⟨htaken, by omega⟩
    · intro before
      rw [hread, store_eq_ok_iff]
      exact ⟨htaken, hshort⟩

/-! ## Where the address is shown -/

/-- The reply to a DESCRIBE has a description with this address. -/
theorem ExtractsHost.describe_reply {url : RtspUrl} (h : url.ExtractsHost) {w : World}
    {t t' : Thread} {r : Request} {reply : List UInt8} {sockets : Option RtpSockets}
    (hurl : r.url = url.text) (ho : handleDescribe w t r = .ok (.replied t' reply sockets)) :
    ∃ path sdp, w.generateSDP path url.host = some sdp ∧
      reply = handleCmdDescribe r.cseq r.url sdp := by
  obtain ⟨t₁, -, ho⟩ := bind_eq_ok.mp ho
  split_ifs at ho
  · cases ho
  · obtain ⟨localIp, hread, ho⟩ := bind_eq_ok.mp ho
    rw [hurl, h.describe] at hread
    obtain rfl := Except.ok.inj hread
    split at ho
    · cases ho
    · rename_i sdp hsdp
      injection Except.ok.inj ho with _ hreply
      exact ⟨_, sdp, hsdp, hreply.symm⟩

theorem ExtractsHost.setup_reply {url : RtspUrl} (h : url.ExtractsHost) {conn : Conn} {w : World}
    {t : Thread} {r : Request} (hurl : r.url = url.text) (htcp : t.tureOfRtpTcp = 1)
    (track0 : Bool) : ∃ t', handleSetup conn w t track0 r = .ok (.replied t'
      (handleCmdSetupTcp r.cseq url.host conn.clientIp (if track0 then t.sig0 else t.sig2)
        conn.sessionId) none) := by
  rw [handleSetup, if_neg (by omega), if_pos htcp, hurl, h.setup]
  exact ⟨_, rfl⟩

end RtspUrl

theorem generateSdp_address {info : MediaInfo} {time : Int} {localIp sdp : List UInt8}
    (h : generateSdp (some info) time localIp = some sdp) (hip : 0x0A ∉ localIp) :
    (lines sdp)[1]? = some (str "o=- 9" ++ decimal time ++ str " 1 IN IP4 " ++ localIp ++ [0x0D]) ∧
      (lines sdp)[2]? = some (str "c=IN IP4 " ++ localIp ++ [0x0D]) := by
  rw [lines_generateSdp h hip]
  exact ⟨rfl, rfl⟩

def userUrl : RtspUrl where
  userinfo := some (str "admin", str "123456")
  host := str "10.0.0.1"
  port := some (str "8554")
  name := str "a.mp4"
  host_ne := by decide
  host_chars := List.all_eq_true.mp (show (str "10.0.0.1").all isHostChar = true from rfl)
  userinfo_text := by
    rintro _ ⟨⟩
    exact ⟨⟨by decide, by decide, by decide, by decide⟩, by decide, by decide, by decide,
      by decide⟩
  port_numeral := by
    rintro _ ⟨⟩
    exact ⟨by decide, by decide⟩

/-- `admin` is taken for the address. -/
theorem userUrl_admin : readLocalIp 100 userUrl.text [] = .ok (str "admin") ∧
    ¬ ∀ url : RtspUrl, url.ExtractsHost := by
  have htaken : readLocalIp 100 userUrl.text [] = .ok (str "admin") := rfl
  refine ⟨htaken, fun hextracts => ?_⟩
  have hhost := (hextracts userUrl).describe []
  rw [htaken] at hhost
  exact absurd (Except.ok.inj hhost) (by decide)

end SimpleRtsp

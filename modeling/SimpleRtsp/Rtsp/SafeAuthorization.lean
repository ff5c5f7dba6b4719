import SimpleRtsp.Rtsp.Protected

/-!
# When the authorization step ends

`extract_value` skips two characters behind a name whatever stands there, and `authorization_verify`
is called whether or not the fields it uses were found, with buffers of a fixed size. So the step
ends in one of its three ways exactly for the header values that are `Verifiable`
(`authorize_ends_iff`).
-/

namespace SimpleRtsp

open CString

/-- Two characters stand behind the first place of every name in the value, `uri` and `response` are
found in it, and the method and the URI fit in their buffer. -/
structure Verifiable (method v : List UInt8) : Prop where
  skips : ∀ name ∈ fieldNames, Skips v (str name)
  uri : ∃ uri, Quotes v (str "uri") uri ∧ (colon method uri).length < 256
  response : ∃ response, Quotes v (str "response") response

/-! ## The digest -/

theorem length_hex (digest : List UInt8) : (hex digest).length = 2 * digest.length := by
  induction digest with
  | nil => rfl
  | cons b digest ih =>
    have hcons : hex (b :: digest) =
        hexDigit (b.toNat / 16) :: hexDigit (b.toNat % 16) :: hex digest := rfl
    rw [hcons, List.length_cons, List.length_cons, List.length_cons, ih]
    omega

theorem length_colon (s₁ s₂ : List UInt8) : (colon s₁ s₂).length = s₁.length + 1 + s₂.length := by
  simp [colon, str]
  omega

theorem store_eq_ok {fault : Fault} {size : Nat} {s t : List UInt8} :
    store fault size s = .ok t ↔ t = s ∧ s.length < size := by
  rw [store]
  split_ifs with h
  · simp [h, eq_comm]
  · simp [h]

section

variable {md5 : List UInt8 → List UInt8}

theorem authorizationVerify_eq (hmd5 : ∀ s, (md5 s).length = 16) (combined : List UInt8)
    {method uri : List UInt8} (response : List UInt8) (hfits : (colon method uri).length < 256) :
    authorizationVerify md5 USER PASSWORD realm (hex (md5 combined)) (some uri) method
        (some response) =
      .ok (if digest md5 (hex (md5 combined)) method uri = response then 0 else -1) := by
  have hconstant : (colon USER (colon realm PASSWORD)).length < 256 := by decide
  have hhex : ∀ s, (hex (md5 s)).length = 32 := by
    intro s
    rw [length_hex, hmd5]
  have hbuffer : ∀ s₁ s₂ s₃ : List UInt8,
      (colon (hex (md5 s₁)) (colon (hex (md5 s₂)) (hex (md5 s₃)))).length < 512 := by
    intro s₁ s₂ s₃
    rw [length_colon, length_colon, hhex, hhex, hhex]
    decide
  rw [authorizationVerify, store_eq_ok.mpr ⟨rfl, hconstant⟩, ok_bind, Option.elim_some, ok_bind,
    store_eq_ok.mpr ⟨rfl, hfits⟩, ok_bind]
  dsimp only
  rw [store_eq_ok.mpr ⟨rfl, hbuffer _ _ _⟩, ok_bind]
  rfl

theorem authorizationVerify_ends_iff (hmd5 : ∀ s, (md5 s).length = 16)
    (combined method : List UInt8) (uri response : Option (List UInt8)) :
    (∃ ret, authorizationVerify md5 USER PASSWORD realm (hex (md5 combined)) uri method response =
        .ok ret) ↔
      (∃ u, uri = some u ∧ (colon method u).length < 256) ∧ ∃ r, response = some r := by
  constructor
  · rintro ⟨ret, h⟩
    obtain ⟨buffer1, -, h⟩ := bind_eq_ok.mp h
    obtain ⟨u, huri, h⟩ := bind_eq_ok.mp h
    obtain ⟨buffer2, hbuffer2, h⟩ := bind_eq_ok.mp h
    obtain ⟨buffer, -, h⟩ := bind_eq_ok.mp h
    obtain ⟨r, hresponse, -⟩ := bind_eq_ok.mp h
    constructor
    · cases uri with
      | none => exact absurd huri (by simp)
      | some u' =>
        obtain rfl : u' = u := Except.ok.inj huri
        exact ⟨u', rfl, (store_eq_ok.mp hbuffer2).2⟩
    · cases response with
      | none => exact absurd hresponse (by simp)
      | some r' => exact ⟨r', rfl⟩
  · rintro ⟨⟨u, huri, hfits⟩, r, hresponse⟩
    rw [huri, hresponse]
    exact ⟨_, authorizationVerify_eq hmd5 combined r hfits⟩

end

theorem verifiable_iff {method v : List UInt8} : Verifiable method v ↔
    ∃ info, AuthorizationInfo.read v = .ok info ∧
      (∃ u, info.uri = some u ∧ (colon method u).length < 256) ∧ ∃ r, info.response = some r := by
  constructor
  · rintro ⟨hskips, ⟨u, huri, hlength⟩, r, hresponse⟩
    obtain ⟨info, hread⟩ : ∃ info, AuthorizationInfo.read v = .ok info := by
      apply AuthorizationInfo.exists_read
      intro name hname
      exact extractValue_ok_iff.mpr (hskips name hname)
    have hentries := AuthorizationInfo.read_eq_ok.mp hread
    have huri' := hentries ("uri", info.uri) (by simp [AuthorizationInfo.entries])
    have hresponse' := hentries ("response", info.response) (by simp [AuthorizationInfo.entries])
    rw [extractValue_some_iff.mpr huri, Except.ok.injEq] at huri'
    rw [extractValue_some_iff.mpr hresponse, Except.ok.injEq] at hresponse'
    exact ⟨info, hread, ⟨u, huri'.symm, hlength⟩, r, hresponse'.symm⟩
  · rintro ⟨info, hread, ⟨u, huri, hlength⟩, r, hresponse⟩
    have hentries := AuthorizationInfo.read_eq_ok.mp hread
    have huri' := hentries ("uri", info.uri) (by simp [AuthorizationInfo.entries])
    have hresponse' := hentries ("response", info.response) (by simp [AuthorizationInfo.entries])
    rw [huri] at huri'
    rw [hresponse] at hresponse'
    refine ⟨fun name hname => ?_, ⟨u, extractValue_some_iff.mp huri', hlength⟩, r,
      extractValue_some_iff.mp hresponse'⟩
    rw [← info.entries_names] at hname
    obtain ⟨p, hp, rfl⟩ := List.mem_map.mp hname
    exact extractValue_ok_iff.mp ⟨p.2, hentries p hp⟩

theorem authorize_value_iff {md5 : List UInt8 → List UInt8} (hmd5 : ∀ s, (md5 s).length = 16)
    (combined : List UInt8) {recvBuf method v : List UInt8} (hmethod : Guarded method)
    (hvalue : headerValue (cstr recvBuf) = some v) :
    (∃ a, authorize 1 md5 (hex (md5 combined)) recvBuf method = .ok a) ↔ Verifiable method v := by
  rw [authorize, if_pos (guarded_methods hmethod), findAuthorization_some hvalue, verifiable_iff]
  constructor
  · rintro ⟨a, h⟩
    obtain ⟨found, hfound, h⟩ := bind_eq_ok.mp h
    obtain ⟨info, hread, hinfo⟩ := bind_eq_ok.mp hfound
    obtain rfl : some info = found := Except.ok.inj hinfo
    obtain ⟨ret, hret, -⟩ := bind_eq_ok.mp h
    have hends := (authorizationVerify_ends_iff hmd5 combined method _ _).mp ⟨ret, hret⟩
    exact ⟨info, hread, hends⟩
  · rintro ⟨info, hread, hends⟩
    obtain ⟨ret, hret⟩ := (authorizationVerify_ends_iff hmd5 combined method _ _).mpr hends
    rw [hread, ok_bind, pure_bind]
    dsimp only
    rw [hret, ok_bind]
    exact ⟨_, rfl⟩

/-- **The authorization step of a guarded request ends exactly if** the value of its header, if it
has one, is `Verifiable`. -/
theorem authorize_ends_iff {md5 : List UInt8 → List UInt8} (hmd5 : ∀ s, (md5 s).length = 16)
    (combined recvBuf : List UInt8) {method : List UInt8} (hmethod : Guarded method) :
    (∃ a, authorize 1 md5 (hex (md5 combined)) recvBuf method = .ok a) ↔
      ∀ v, headerValue (cstr recvBuf) = some v → Verifiable method v := by
  cases hvalue : headerValue (cstr recvBuf) with
  | none =>
    refine iff_of_true ⟨.missing, ?_⟩ fun v hv => absurd hv (by simp)
    rw [authorize, findAuthorization_none hvalue, ok_bind]
    rw [if_pos (guarded_methods hmethod)]
    rfl
  | some v => simp [authorize_value_iff hmd5 combined hmethod hvalue]

/-- The digests of the strings that are hashed for one request, and zeros for all others. -/
def md5Table (s : List UInt8) : List UInt8 :=
  if s = str "1700000042" then
    [0x80, 0xFD, 0x4A, 0x34, 0x2A, 0x56, 0x95, 0x48, 0xA6, 0xFB, 0x4A, 0xF6, 0x05, 0xBC, 0x83, 0x59]
  else if s = str "admin:simple-rtsp-server:123456" then
    [0xF2, 0xCB, 0xFB, 0x4D, 0x41, 0xDD, 0x13, 0xC4, 0xE5, 0xCD, 0x68, 0xDC, 0x72, 0x4E, 0x41, 0x2E]
  else if s = str "DESCRIBE:rtsp://10.0.0.1/a.mp4" then
    [0x9E, 0x01, 0x45, 0xDA, 0x89, 0x6A, 0x95, 0x96, 0x05, 0xE9, 0x9E, 0xFC, 0xDF, 0xE8, 0x55, 0x45]
  else if s = str "f2cbfb4d41dd13c4e5cd68dc724e412e:80fd4a342a569548a6fb4af605bc8359:" ++
      str "9e0145da896a959605e99efcdfe85545" then
    [0x80, 0x3F, 0x83, 0xAA, 0x60, 0x85, 0xA9, 0x34, 0xC0, 0x7A, 0x3C, 0x1F, 0xE6, 0x46, 0x3C, 0x12]
  else List.replicate 16 0

/-- A client that knows the password. -/
def describeAuthorized : List UInt8 :=
  describeText (authorizationKey ++ str "Digest uri=\"rtsp://10.0.0.1/a.mp4\", response=\"" ++
    str "803f83aa6085a934c07a3c1fe6463c12\"\r\n")

theorem authorize_ends_describeAuthorized :
    ∃ a, authorize 1 md5Table (hex (md5Table (str "1700000042"))) describeAuthorized
      (str "DESCRIBE") = .ok a := by
  have hmd5 : ∀ s, (md5Table s).length = 16 := by
    intro s
    unfold md5Table
    split_ifs <;> rfl
  have hvalue : headerValue (cstr describeAuthorized) = some
      (str "Digest uri=\"rtsp://10.0.0.1/a.mp4\", " ++
        str "response=\"803f83aa6085a934c07a3c1fe6463c12\"") := by
    decide +kernel
  refine (authorize_ends_iff hmd5 _ _ (by decide)).mpr fun v hv => ?_
  rw [← Option.some.inj (hvalue.symm.trans hv)]
  exact verifiable_iff.mpr ⟨_, rfl, ⟨_, rfl, by decide⟩, _, rfl⟩

/-- A client that sends only its name. -/
theorem not_authorize_ends : ¬ ∀ (md5 : List UInt8 → List UInt8) (combined msg method : List UInt8),
    (∀ s, (md5 s).length = 16) → Guarded method → CarriesAuthorization msg →
      ∃ a, authorize 1 md5 (hex (md5 combined)) (msg ++ [0]) method = .ok a := by
  intro hall
  have hends := hall (fun _ => List.replicate 16 0) []
    (describeText (authorizationKey ++ str "Digest username=\"admin\"\r\n")) (str "DESCRIBE")
    (fun _ => rfl) (by decide) (by decide +kernel)
  have hvalue : headerValue (cstr (describeText
      (authorizationKey ++ str "Digest username=\"admin\"\r\n") ++ [0])) =
      some (str "Digest username=\"admin\"") := by
    decide +kernel
  obtain ⟨uri, ⟨c₁, c₂, rest, hfound, -⟩, -⟩ :=
    ((authorize_value_iff (fun _ => rfl) [] (by decide) hvalue).mp hends).uri
  have hnone : strstr (str "Digest username=\"admin\"") (str "uri") = none := by decide
  exact absurd (hnone.symm.trans hfound) (by simp)

end SimpleRtsp

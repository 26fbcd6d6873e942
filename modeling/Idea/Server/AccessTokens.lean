import Mathlib.Algebra.Order.Ring.Rat
import Idea.Model.Utils
import Idea.System.Run

/-! # Access tokens of a service

A service asks the identity provider for an access token and keeps the answer. Later calls look
whether the token that was kept has expired. What a token says is decided by its signature, and the
exceptions of the library that reads it are mapped to those of the application.
-/

namespace Idea.AccessTokens

inductive JwtError where
  | expiredSignature
  | invalidToken (text : String)

inductive Thrown where
  | raised (e : Raised)
  | jwt (e : JwtError)

/-- What the signature of a token says: until when it is valid, or what is wrong with it. -/
abbrev Signatures : Type := String → Except String ℚ

/-- `jwt.decode`. A token is valid until its expiry, which does not count. -/
def jwtDecode (signatures : Signatures) (token : String) (now : ℚ) : Except JwtError Unit :=
  match signatures token with
  | .error text => .error (.invalidToken text)
  | .ok expiry => if expiry ≤ now then .error .expiredSignature else .ok ()

/-- `exceptions.unauthorized_access` -/
def unauthorizedAccess (info : Option String) : Raised :=
  match info with
  | none => .soca "UNAUTHORIZED_ACCESS" "Unauthorized Access"
  | some info => .soca "UNAUTHORIZED_ACCESS" ("Unauthorized Access: " ++ info)

def decodeToken (signatures : Signatures) (token : Option String) (now : ℚ) :
    Except Thrown Unit :=
  if isEmptyString token then .error (.raised (unauthorizedAccess none))
  else
    match jwtDecode signatures (token.getD "") now with
    | .ok () => .ok ()
    | .error .expiredSignature => .error (.raised (.soca "AUTH_TOKEN_EXPIRED" "Token Expired"))
    | .error (.invalidToken text) =>
      .error (.raised (unauthorizedAccess (some ("Invalid Token - " ++ text))))

def isTokenExpired (signatures : Signatures) (token : Option String) (now : ℚ) :
    Except Thrown Bool :=
  match decodeToken signatures token now with
  | .ok () => .ok false
  | .error (.jwt .expiredSignature) => .ok true
  | .error e => .error e

structure AuthResult where
  accessToken : Option String
  expiresIn : Option ℤ
  tokenType : Option String

structure Options where
  refreshToken : Option String
  clientId : Option String
  clientSecret : Option String
  clientCredentialsScope : Option (List String)

structure TokenService where
  refreshTokenGrant : Option AuthResult
  clientCredentialsGrant : Option AuthResult

/-- The answers of the identity provider to a call, by the type of the grant. -/
structure Answers where
  refreshToken : AuthResult
  clientCredentials : AuthResult

def getCachedGrant (signatures : Signatures) (grant : Option AuthResult) (forceRenewal : Bool)
    (now : ℚ) : Except Thrown (Option AuthResult) :=
  if forceRenewal then .ok none
  else
    match grant with
    | none => .ok none
    | some grant => do
      if ← isTokenExpired signatures grant.accessToken now then pure none
      else pure (some grant)

/-- The grant that is kept, or the new one. It is looked for again once the lock is held. -/
def renew (signatures : Signatures) (grant : Option AuthResult) (answer : AuthResult)
    (forceRenewal : Bool) (now : ℚ) : Except Thrown AuthResult := do
  match ← getCachedGrant signatures grant forceRenewal now with
  | some grant => pure grant
  | none =>
    match ← getCachedGrant signatures grant forceRenewal now with
    | some grant => pure grant
    | none => pure answer

def getAccessTokenUsingRefreshToken (signatures : Signatures) (options : Options)
    (self : TokenService) (answers : Answers) (forceRenewal : Bool) (now : ℚ) :
    Except Thrown AuthResult × TokenService :=
  if isEmptyString options.refreshToken then
    (.error (.raised (.soca "GENERAL_ERROR" "options.refresh_token is required.")), self)
  else
    match renew signatures self.refreshTokenGrant answers.refreshToken forceRenewal now with
    | .error e => (.error e, self)
    | .ok grant => (.ok grant, { self with refreshTokenGrant := some grant })

def getAccessTokenUsingClientCredentials (signatures : Signatures) (options : Options)
    (self : TokenService) (answers : Answers) (forceRenewal : Bool) (now : ℚ) :
    Except Thrown AuthResult × TokenService :=
  if isEmptyString options.clientId || isEmptyString options.clientSecret then
    (.error (.raised (.soca "GENERAL_ERROR"
      "options.client_id and options.client_secret is required.")), self)
  else if isEmptyList options.clientCredentialsScope then
    (.error (.raised (.soca "GENERAL_ERROR" "options.client_credentials_scope is required")), self)
  else
    match renew signatures self.clientCredentialsGrant answers.clientCredentials forceRenewal
      now with
    | .error e => (.error e, self)
    | .ok grant => (.ok grant, { self with clientCredentialsGrant := some grant })

/-- The second branch of `get_access_token`, whose grant is the one that counts. -/
def orClientCredentials (signatures : Signatures) (options : Options) (self : TokenService)
    (answers : Answers) (forceRenewal : Bool) (now : ℚ) (authResult : Option AuthResult) :
    Except Thrown (Option String) × TokenService :=
  if isEmptyString options.clientId && isEmptyString options.clientSecret then
    (.ok (authResult.bind AuthResult.accessToken), self)
  else
    match getAccessTokenUsingClientCredentials signatures options self answers forceRenewal
      now with
    | (.error e, self) => (.error e, self)
    | (.ok grant, self) => (.ok grant.accessToken, self)

def getAccessToken (signatures : Signatures) (options : Options) (self : TokenService)
    (answers : Answers) (forceRenewal : Bool) (now : ℚ) :
    Except Thrown (Option String) × TokenService :=
  if isEmptyString options.refreshToken then
    orClientCredentials signatures options self answers forceRenewal now none
  else
    match getAccessTokenUsingRefreshToken signatures options self answers forceRenewal now with
    | (.error e, self) => (.error e, self)
    | (.ok grant, self) =>
      orClientCredentials signatures options self answers forceRenewal now (some grant)

structure State where
  service : TokenService
  time : ℚ

structure Call where
  now : ℚ
  answers : Answers

/-- The token of a grant is signed, and has not expired. -/
def Usable (signatures : Signatures) (now : ℚ) (grant : AuthResult) : Prop :=
  ∃ token expiry, grant.accessToken = some token ∧ isEmptyString (some token) = false ∧
    signatures token = .ok expiry ∧ now < expiry

/-- The identity provider grants a token for the time that it says. -/
def Granted (signatures : Signatures) (now : ℚ) (grant : AuthResult) : Prop :=
  ∃ token lifetime, grant.accessToken = some token ∧ isEmptyString (some token) = false ∧
    grant.expiresIn = some lifetime ∧ 0 < lifetime ∧ signatures token = .ok (now + lifetime)

/-- Calls without forced renewal, one after the other. -/
inductive Step (signatures : Signatures) (options : Options) : State → Call → State → Prop
  | call {s : State} {call : Call} : s.time ≤ call.now →
      Granted signatures call.now call.answers.refreshToken →
      Granted signatures call.now call.answers.clientCredentials →
      Step signatures options s call
        ⟨(getAccessToken signatures options s.service call.answers false call.now).2, call.now⟩

def Returns (signatures : Signatures) (now : ℚ) (result : Except Thrown (Option String)) : Prop :=
  ∃ token expiry, result = .ok (some token) ∧ signatures token = .ok expiry ∧ now < expiry

def Returned (signatures : Signatures) (options : Options) : Edge State Call → Prop
  | ⟨s, call, _⟩ => Returns signatures call.now
    (getAccessToken signatures options s.service call.answers false call.now).1

def UsesRefreshToken (options : Options) : Prop := isEmptyString options.refreshToken = false

def UsesClientCredentials (options : Options) : Prop :=
  ¬ (isEmptyString options.clientId = true ∧ isEmptyString options.clientSecret = true)

def WholeCredentials (options : Options) : Prop :=
  isEmptyString options.clientId = false ∧ isEmptyString options.clientSecret = false ∧
    isEmptyList options.clientCredentialsScope = false

/-- There is a way to get a token, and client credentials are given as a whole. -/
structure Configured (options : Options) : Prop where
  some : UsesRefreshToken options ∨ UsesClientCredentials options
  credentials : UsesClientCredentials options → WholeCredentials options

/-- No grant that is kept has expired at the time of the call. -/
def Unexpired (signatures : Signatures) (options : Options) : Edge State Call → Prop
  | ⟨s, call, _⟩ =>
    (UsesRefreshToken options → ∀ grant, s.service.refreshTokenGrant = some grant →
      Usable signatures call.now grant) ∧
    (UsesClientCredentials options → ∀ grant, s.service.clientCredentialsGrant = some grant →
      Usable signatures call.now grant)

variable {signatures : Signatures} {options : Options} {now : ℚ} {grant answer : AuthResult}

def Signed (signatures : Signatures) (grant : AuthResult) : Prop :=
  ∃ token expiry, grant.accessToken = some token ∧ isEmptyString (some token) = false ∧
    signatures token = .ok expiry

structure Known (signatures : Signatures) (service : TokenService) : Prop where
  refreshToken : ∀ grant, service.refreshTokenGrant = some grant → Signed signatures grant
  clientCredentials : ∀ grant, service.clientCredentialsGrant = some grant →
    Signed signatures grant

theorem Usable.signed (h : Usable signatures now grant) : Signed signatures grant := by
  obtain ⟨token, expiry, htoken, hblank, hsigned, -⟩ := h
  exact ⟨token, expiry, htoken, hblank, hsigned⟩

theorem Granted.usable (h : Granted signatures now answer) : Usable signatures now answer := by
  obtain ⟨token, lifetime, htoken, hblank, -, hpositive, hsigned⟩ := h
  have hlifetime : (0 : ℚ) < lifetime := by exact_mod_cast hpositive
  exact ⟨token, now + lifetime, htoken, hblank, hsigned, lt_add_of_pos_right now hlifetime⟩

theorem isTokenExpired_of_signed {token : String} {expiry : ℚ}
    (hblank : isEmptyString (some token) = false) (hsigned : signatures token = .ok expiry) :
    isTokenExpired signatures (some token) now =
      if expiry ≤ now then .error (.raised (.soca "AUTH_TOKEN_EXPIRED" "Token Expired"))
      else .ok false := by
  simp only [isTokenExpired, decodeToken, hblank, jwtDecode, Option.getD_some, hsigned]
  by_cases h : expiry ≤ now <;> simp [h]

theorem decodeToken_ne_jwt (token : Option String) (e : JwtError) :
    decodeToken signatures token now ≠ .error (.jwt e) := by
  unfold decodeToken
  split
  · simp
  · cases jwtDecode signatures (token.getD "") now with
    | ok _ => simp
    | error e => cases e <;> simp

theorem isTokenExpired_ne_true (token : Option String) :
    isTokenExpired signatures token now ≠ .ok true := by
  unfold isTokenExpired
  split
  · simp
  · rename_i h
    exact absurd h (decodeToken_ne_jwt token _)
  · simp

theorem renew_of_usable (h : Usable signatures now grant) :
    renew signatures (some grant) answer false now = .ok grant := by
  obtain ⟨token, expiry, htoken, hblank, hsigned, hlt⟩ := h
  simp [renew, getCachedGrant, htoken, isTokenExpired_of_signed hblank hsigned, not_le.mpr hlt,
    bind, Except.bind, pure, Except.pure]

theorem renew_of_expired (hsigned : Signed signatures grant) (h : ¬ Usable signatures now grant) :
    ∃ e, renew signatures (some grant) answer false now = .error e := by
  obtain ⟨token, expiry, htoken, hblank, hsigned⟩ := hsigned
  have hle : expiry ≤ now := by
    by_contra hlt
    exact h ⟨token, expiry, htoken, hblank, hsigned, not_le.mp hlt⟩
  refine ⟨.raised (.soca "AUTH_TOKEN_EXPIRED" "Token Expired"), ?_⟩
  simp [renew, getCachedGrant, htoken, isTokenExpired_of_signed hblank hsigned, hle, bind,
    Except.bind]

theorem renew_cases {kept : Option AuthResult} (hkept : ∀ grant, kept = some grant →
    Signed signatures grant) (hanswer : Granted signatures now answer) :
    (∃ grant, renew signatures kept answer false now = .ok grant ∧ Usable signatures now grant) ∧
      (∀ grant, kept = some grant → Usable signatures now grant) ∨
    (∃ e, renew signatures kept answer false now = .error e) ∧
      ¬ ∀ grant, kept = some grant → Usable signatures now grant := by
  cases kept with
  | none => exact .inl ⟨⟨answer, rfl, hanswer.usable⟩, by simp⟩
  | some grant =>
    by_cases h : Usable signatures now grant
    · exact .inl ⟨⟨grant, renew_of_usable h, h⟩, by simpa using h⟩
    · exact .inr ⟨renew_of_expired (hkept grant rfl) h, fun hall => h (hall grant rfl)⟩

theorem Usable.returns (h : Usable signatures now grant) :
    Returns signatures now (.ok grant.accessToken) := by
  obtain ⟨token, expiry, htoken, -, hsigned, hlt⟩ := h
  exact ⟨token, expiry, by rw [htoken], hsigned, hlt⟩

theorem not_returns_error (e : Thrown) : ¬ Returns signatures now (.error e) := by
  rintro ⟨token, expiry, h, -⟩
  cases h

variable {service : TokenService} {answers : Answers}

theorem getAccessTokenUsingRefreshToken_cases (huses : UsesRefreshToken options)
    (hknown : Known signatures service) (hanswer : Granted signatures now answers.refreshToken) :
    (∃ grant, getAccessTokenUsingRefreshToken signatures options service answers false now =
        (.ok grant, { service with refreshTokenGrant := some grant }) ∧
        Usable signatures now grant) ∧
      (∀ grant, service.refreshTokenGrant = some grant → Usable signatures now grant) ∨
    (∃ e, getAccessTokenUsingRefreshToken signatures options service answers false now =
        (.error e, service)) ∧
      ¬ ∀ grant, service.refreshTokenGrant = some grant → Usable signatures now grant := by
  have hif : ¬ isEmptyString options.refreshToken = true := by
    rw [Bool.not_eq_true]
    exact huses
  unfold getAccessTokenUsingRefreshToken
  rw [if_neg hif]
  rcases renew_cases hknown.refreshToken hanswer with
    ⟨⟨grant, hrenew, husable⟩, hkept⟩ | ⟨⟨e, hrenew⟩, hkept⟩
  · rw [hrenew]
    exact .inl ⟨⟨grant, rfl, husable⟩, hkept⟩
  · rw [hrenew]
    exact .inr ⟨⟨e, rfl⟩, hkept⟩

theorem getAccessTokenUsingClientCredentials_cases (options : Options) (hknown : Known signatures service)
    (hanswer : Granted signatures now answers.clientCredentials) :
    (∃ grant, getAccessTokenUsingClientCredentials signatures options service answers false now =
        (.ok grant, { service with clientCredentialsGrant := some grant }) ∧
        Usable signatures now grant) ∧ WholeCredentials options ∧
      (∀ grant, service.clientCredentialsGrant = some grant → Usable signatures now grant) ∨
    (∃ e, getAccessTokenUsingClientCredentials signatures options service answers false now =
        (.error e, service)) ∧
      ¬ (WholeCredentials options ∧
        ∀ grant, service.clientCredentialsGrant = some grant → Usable signatures now grant) := by
  unfold getAccessTokenUsingClientCredentials
  by_cases hgiven : (isEmptyString options.clientId || isEmptyString options.clientSecret) = true
  · rw [if_pos hgiven]
    refine .inr ⟨⟨_, rfl⟩, fun hwhole => ?_⟩
    simp [hwhole.1.1, hwhole.1.2.1] at hgiven
  · rw [if_neg hgiven]
    by_cases hscope : isEmptyList options.clientCredentialsScope = true
    · rw [if_pos hscope]
      refine .inr ⟨⟨_, rfl⟩, fun hwhole => ?_⟩
      simp [hwhole.1.2.2] at hscope
    · rw [if_neg hscope]
      have hwhole : WholeCredentials options := by
        simp only [Bool.or_eq_true, not_or, Bool.not_eq_true] at hgiven hscope
        exact ⟨hgiven.1, hgiven.2, hscope⟩
      rcases renew_cases hknown.clientCredentials hanswer with
        ⟨⟨grant, hrenew, husable⟩, hkept⟩ | ⟨⟨e, hrenew⟩, hkept⟩
      · rw [hrenew]
        exact .inl ⟨⟨grant, rfl, husable⟩, hwhole, hkept⟩
      · rw [hrenew]
        exact .inr ⟨⟨e, rfl⟩, fun h => hkept h.2⟩

theorem orClientCredentials_spec (options : Options) (hknown : Known signatures service)
    (hanswer : Granted signatures now answers.clientCredentials) (first : Option AuthResult)
    (hfirst : ∀ grant, first = some grant → Usable signatures now grant) :
    Known signatures
        (orClientCredentials signatures options service answers false now first).2 ∧
      (Returns signatures now
          (orClientCredentials signatures options service answers false now first).1 ↔
        (first ≠ none ∨ UsesClientCredentials options) ∧
        (UsesClientCredentials options → WholeCredentials options ∧
          ∀ grant, service.clientCredentialsGrant = some grant →
            Usable signatures now grant)) := by
  unfold orClientCredentials
  by_cases huses : UsesClientCredentials options
  · have hif : ¬ (isEmptyString options.clientId && isEmptyString options.clientSecret) = true := by
      rwa [Bool.and_eq_true]
    rw [if_neg hif]
    rcases getAccessTokenUsingClientCredentials_cases options hknown hanswer with
      ⟨⟨grant, hget, husable⟩, hwhole, hkept⟩ | ⟨⟨e, hget⟩, hnot⟩
    · rw [hget]
      constructor
      · refine ⟨hknown.refreshToken, ?_⟩
        rintro _ ⟨⟩
        exact husable.signed
      · exact iff_of_true husable.returns ⟨.inr huses, fun _ => ⟨hwhole, hkept⟩⟩
    · rw [hget]
      exact ⟨hknown, iff_of_false (not_returns_error e) fun h => hnot (h.2 huses)⟩
  · have hif : (isEmptyString options.clientId && isEmptyString options.clientSecret) = true := by
      rw [Bool.and_eq_true]
      exact not_not.mp huses
    rw [if_pos hif]
    refine ⟨hknown, ?_⟩
    cases first with
    | none =>
      refine iff_of_false ?_ fun h => h.1.elim (fun h => h rfl) huses
      rintro ⟨token, expiry, h, -⟩
      cases h
    | some grant =>
      exact iff_of_true (hfirst grant rfl).returns ⟨.inl (by simp), fun h => absurd h huses⟩

theorem getAccessToken_spec (options : Options) (hknown : Known signatures service)
    (hrefresh : Granted signatures now answers.refreshToken)
    (hclient : Granted signatures now answers.clientCredentials) :
    Known signatures (getAccessToken signatures options service answers false now).2 ∧
      (Returns signatures now (getAccessToken signatures options service answers false now).1 ↔
        Configured options ∧
        (UsesRefreshToken options → ∀ grant, service.refreshTokenGrant = some grant →
          Usable signatures now grant) ∧
        (UsesClientCredentials options → ∀ grant, service.clientCredentialsGrant = some grant →
          Usable signatures now grant)) := by
  unfold getAccessToken
  by_cases huses : UsesRefreshToken options
  · have hif : ¬ isEmptyString options.refreshToken = true := by
      rw [Bool.not_eq_true]
      exact huses
    rw [if_neg hif]
    rcases getAccessTokenUsingRefreshToken_cases huses hknown hrefresh with
      ⟨⟨grant, hget, husable⟩, hkept⟩ | ⟨⟨e, hget⟩, hnot⟩
    · rw [hget]
      have hknown₁ : Known signatures { service with refreshTokenGrant := some grant } := by
        refine ⟨?_, hknown.clientCredentials⟩
        rintro _ ⟨⟩
        exact husable.signed
      obtain ⟨hknown', hiff⟩ := orClientCredentials_spec options hknown₁ hclient (some grant) (by
        rintro _ ⟨⟩
        exact husable)
      refine ⟨hknown', hiff.trans ?_⟩
      constructor
      · rintro ⟨-, hall⟩
        exact ⟨⟨.inl huses, fun h => (hall h).1⟩, fun _ => hkept, fun h => (hall h).2⟩
      · rintro ⟨hconfigured, -, hclientKept⟩
        exact ⟨.inl (by simp), fun h => ⟨hconfigured.credentials h, hclientKept h⟩⟩
    · rw [hget]
      exact ⟨hknown, iff_of_false (not_returns_error e) fun h => hnot (h.2.1 huses)⟩
  · have hif : isEmptyString options.refreshToken = true := by
      simpa [UsesRefreshToken] using huses
    rw [if_pos hif]
    obtain ⟨hknown', hiff⟩ := orClientCredentials_spec options hknown hclient none (by simp)
    refine ⟨hknown', hiff.trans ?_⟩
    constructor
    · rintro ⟨hsome, hall⟩
      have hclientUses := hsome.resolve_left (by simp)
      exact ⟨⟨.inr hclientUses, fun h => (hall h).1⟩, fun h => absurd h huses, fun h => (hall h).2⟩
    · rintro ⟨hconfigured, -, hkept⟩
      exact ⟨.inr (hconfigured.some.resolve_left huses),
        fun h => ⟨hconfigured.credentials h, hkept h⟩⟩

def started : State := ⟨⟨none, none⟩, 0⟩

theorem known_started : Known signatures started.service := ⟨by simp [started], by simp [started]⟩

variable {s s' : State} {call : Call}

theorem Known.step (h : Known signatures s.service) (hs : Step signatures options s call s') :
    Known signatures s'.service := by
  cases hs with
  | call _ hrefresh hclient => exact (getAccessToken_spec options h hrefresh hclient).1

theorem returned_iff (h : Known signatures s.service) (hs : Step signatures options s call s') :
    Returned signatures options ⟨s, call, s'⟩ ↔
      Configured options ∧ Unexpired signatures options ⟨s, call, s'⟩ := by
  cases hs with
  | call _ hrefresh hclient => exact (getAccessToken_spec options h hrefresh hclient).2

def Expired (signatures : Signatures) (token : String) (now : ℚ) : Prop :=
  ∃ expiry, signatures token = .ok expiry ∧ expiry ≤ now

/-- The calls return tokens that can be used exactly as long as no grant that was kept has expired,
and the test for expiry is right about a token exactly if it has not expired. -/
theorem accessTokens_renewed_iff {calls : List (Edge State Call)}
    (h : Run (Step signatures options) started calls s) :
    ((∀ e ∈ calls, Returned signatures options e) ↔
      ∀ e ∈ calls, Configured options ∧ Unexpired signatures options e) ∧
    ∀ token now, ((isTokenExpired signatures (some token) now = .ok true ↔
      Expired signatures token now) ↔ ¬ Expired signatures token now) := by
  constructor
  · exact h.forall_edges_iff (fun s => Known signatures s.service) known_started
      (fun hI hs => hI.step hs) fun hI hs => returned_iff hI hs
  · intro token now
    rw [iff_false_left (isTokenExpired_ne_true (some token))]

def sampleSignatures : Signatures
  | "t0" => .ok 3600
  | "t1" => .ok 5400
  | "t2" => .ok 7200
  | _ => .error "Not enough segments"

def sampleOptions : Options := ⟨none, some "id", some "password", some ["scheduler/read"]⟩

def sampleCall (now : ℚ) (token : String) : Call :=
  ⟨now, ⟨⟨some token, some 3600, some "Bearer"⟩, ⟨some token, some 3600, some "Bearer"⟩⟩⟩

def served (s : State) (call : Call) : State :=
  ⟨(getAccessToken sampleSignatures sampleOptions s.service call.answers false call.now).2,
    call.now⟩

theorem step_served {now : ℚ} {token : String} (htime : s.time ≤ now)
    (hblank : isEmptyString (some token) = false)
    (hsigned : sampleSignatures token = .ok (now + 3600)) :
    Step sampleSignatures sampleOptions s (sampleCall now token)
      (served s (sampleCall now token)) := by
  have hgranted : Granted sampleSignatures now ⟨some token, some 3600, some "Bearer"⟩ :=
    ⟨token, 3600, rfl, hblank, rfl, by decide, by exact_mod_cast hsigned⟩
  exact .call htime hgranted hgranted

def firstState : State := served started (sampleCall 0 "t0")

def secondState : State := served firstState (sampleCall 1800 "t1")

theorem run_second : Run (Step sampleSignatures sampleOptions) started
    [⟨started, sampleCall 0 "t0", firstState⟩, ⟨firstState, sampleCall 1800 "t1", secondState⟩]
    secondState := by
  have hfirst : Step sampleSignatures sampleOptions started (sampleCall 0 "t0") firstState :=
    step_served le_rfl (by decide +kernel) (by simp [sampleSignatures])
  have hsecond : Step sampleSignatures sampleOptions firstState (sampleCall 1800 "t1")
      secondState :=
    step_served (by decide +kernel) (by decide +kernel)
      (congrArg Except.ok (by decide +kernel : (5400 : ℚ) = 1800 + 3600))
  exact (Run.single hfirst).snoc hsecond

/-- Two calls within an hour. -/
theorem accessTokens_renewed_iff_hour : ∃ calls s,
    Run (Step sampleSignatures sampleOptions) started calls s ∧ calls.length = 2 ∧
      ∀ e ∈ calls, Returned sampleSignatures sampleOptions e := by
  refine ⟨_, _, run_second, rfl, (accessTokens_renewed_iff run_second).1.mpr ?_⟩
  have hclient : UsesClientCredentials sampleOptions := by
    unfold UsesClientCredentials
    decide +kernel
  have hconfigured : Configured sampleOptions :=
    ⟨.inr hclient, fun _ => by unfold WholeCredentials; decide +kernel⟩
  have hrefresh : ¬ UsesRefreshToken sampleOptions := by
    unfold UsesRefreshToken
    decide +kernel
  simp only [List.mem_cons, List.not_mem_nil, or_false, forall_eq_or_imp, forall_eq]
  refine ⟨⟨hconfigured, fun h => absurd h hrefresh, fun _ grant hgrant => ?_⟩, hconfigured,
    fun h => absurd h hrefresh, fun _ grant hgrant => ?_⟩
  · cases hgrant
  · obtain rfl : ⟨some "t0", some 3600, some "Bearer"⟩ = grant := Option.some.inj hgrant
    exact ⟨"t0", 3600, rfl, by decide +kernel, rfl, by decide +kernel⟩

/-- After an hour the call is answered with the exception for an expired token. -/
theorem accessTokens_not_renewed : ∃ calls s,
    Run (Step sampleSignatures sampleOptions) started calls s ∧
      (∃ e ∈ calls, ¬ Returned sampleSignatures sampleOptions e) ∧
      Expired sampleSignatures "t0" 3600 ∧
      isTokenExpired sampleSignatures (some "t0") 3600 ≠ .ok true := by
  have hthird : Step sampleSignatures sampleOptions secondState (sampleCall 3600 "t2")
      (served secondState (sampleCall 3600 "t2")) :=
    step_served (by decide +kernel) (by decide +kernel)
      (congrArg Except.ok (by decide +kernel : (7200 : ℚ) = 3600 + 3600))
  refine ⟨_, _, run_second.snoc hthird,
    ⟨_, List.mem_append_right _ List.mem_cons_self, ?_⟩, ⟨3600, rfl, le_rfl⟩,
    isTokenExpired_ne_true _⟩
  exact not_returns_error (.raised (.soca "AUTH_TOKEN_EXPIRED" "Token Expired"))

end Idea.AccessTokens

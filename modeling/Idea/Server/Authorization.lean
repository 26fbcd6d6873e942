import Idea.Accounts.AccountsService

/-! # Authorization of API calls

What a call may do is decided from its token. A token with a username is a user with groups, and
one without is an app with scopes. The decision goes through one predicate for each kind of
access, and is compared here with the policy that these predicates are to implement.
-/

namespace Idea.Authorization

open Idea.Accounts (buildGroupName)

inductive ApiAuthorizationType where
  | administrator
  | manager
  | user
  | app
  deriving DecidableEq

/-- What a token says about its owner. The groups of a call without a token are not known. -/
structure ApiAuthorization where
  type : ApiAuthorizationType
  username : Option String
  scopes : Option (List String)
  groups : List String
  clientId : Option String

structure DecodedToken where
  username : Option String
  groups : Option (List String)
  scope : Option String
  clientId : Option String

structure TokenServiceOptions where
  administratorsGroupName : Option String
  managersGroupName : Option String

/-- `ModelUtils.get_value_as_string` of a claim -/
def getValueAsString (claim : Option String) : Option String := claim.bind getAsString

/-- `name in groups`, where the name may be `None` -/
def isIn (name : Option String) (groups : List String) : Bool :=
  groups.any fun group => some group = name

/-- `str.split(' ')` -/
def splitScopes (tokenScope : String) : List String :=
  (tokenScope.toList.splitOn ' ').map String.ofList

/-- The service that verifies the signature of a token and reads its claims. -/
structure TokenService where
  options : TokenServiceOptions
  decodeToken : String → Except Raised DecodedToken

def TokenServiceOptions.getAuthorization (options : TokenServiceOptions)
    (decodedToken : DecodedToken) : ApiAuthorization :=
  let username := getValueAsString decodedToken.username
  let groups := decodedToken.groups.getD []
  let tokenScope := getValueAsString decodedToken.scope
  let authorizationType :=
    if !isEmptyString options.administratorsGroupName &&
        isIn options.administratorsGroupName groups then some .administrator
    -- the name that is tested is not the one that is looked up
    else if !isEmptyString options.administratorsGroupName &&
        isIn options.managersGroupName groups then some .manager
    else none
  let authorizationType := if isEmptyString username then some .app else authorizationType
  { type := authorizationType.getD .user
    username
    scopes := if isEmptyString tokenScope then none else tokenScope.map splitScopes
    groups
    clientId := getValueAsString decodedToken.clientId }

def TokenService.isScopeAuthorized (self : TokenService) (accessToken : Option String)
    (scope : String) : Except Raised Bool :=
  match accessToken with
  | none => pure false
  | some token =>
    if isEmptyString (some token) || isEmptyString (some scope) then pure false
    else do
      let decodedToken ← self.decodeToken token
      let authorization := self.options.getAuthorization decodedToken
      if authorization.type ≠ .app then pure false
      else pure (!isEmptyList authorization.scopes && (authorization.scopes.getD []).contains scope)

structure RequestToken where
  tokenType : Option String
  token : Option String

structure ApiInvocationContext where
  moduleId : String
  administratorUsername : String
  invocationSource : String
  token : Option RequestToken
  tokenService : Option TokenService

/-- `GroupNameHelper.get_module_administrators_group` -/
def moduleAdministratorsGroup (moduleId : String) : String :=
  buildGroupName .module (moduleId ++ "-administrators")

/-- `GroupNameHelper.get_module_users_group` -/
def moduleUsersGroup (moduleId : String) : String :=
  buildGroupName .module (moduleId ++ "-users")

namespace ApiInvocationContext

def accessToken (self : ApiInvocationContext) : Option String :=
  if getValueAsString (self.token.bind RequestToken.tokenType) ≠ some "Bearer" then none
  else getValueAsString (self.token.bind RequestToken.token)

def isScopeAuthorized (self : ApiInvocationContext) (scope : String) : Except Raised Bool :=
  if isEmptyString self.accessToken then pure false
  else
    match self.tokenService with
    | none => pure false
    | some tokenService => tokenService.isScopeAuthorized self.accessToken scope

def isUnixDomainSocketInvocation (self : ApiInvocationContext) : Bool :=
  self.invocationSource = "unix-socket"

def getDecodedToken (self : ApiInvocationContext) (accessToken : String) :
    Except Raised (TokenService × DecodedToken) :=
  match self.tokenService with
  | none => .error .attributeError
  | some tokenService => do
    let decodedToken ← tokenService.decodeToken accessToken
    pure (tokenService, decodedToken)

def getAuthorization (self : ApiInvocationContext) : Except Raised ApiAuthorization :=
  if self.isUnixDomainSocketInvocation then
    pure ⟨.administrator, some self.administratorUsername, none, [], none⟩
  else
    match self.accessToken with
    | none => .error (.soca "UNAUTHORIZED_ACCESS" "Unauthorized Access")
    | some accessToken => do
      let (tokenService, decodedToken) ← self.getDecodedToken accessToken
      pure (tokenService.options.getAuthorization decodedToken)

def isAdministrator (self : ApiInvocationContext) : Except Raised Bool := do
  let authorization ← self.getAuthorization
  pure (authorization.type = .administrator)

def isManager (self : ApiInvocationContext) : Except Raised Bool := do
  let authorization ← self.getAuthorization
  match authorization.type with
  | .manager => pure true
  | .user => pure (authorization.groups.contains (moduleAdministratorsGroup self.moduleId))
  | _ => pure false

def isAuthorizedUser (self : ApiInvocationContext) : Except Raised Bool := do
  if ← self.isAdministrator then pure true
  else if ← self.isManager then pure true
  else
    let authorization ← self.getAuthorization
    if authorization.type = .user then
      pure (authorization.groups.contains (moduleUsersGroup self.moduleId))
    else pure false

def isAuthorizedApp (self : ApiInvocationContext) : Except Raised Bool := do
  let authorization ← self.getAuthorization
  if authorization.type ≠ .app then pure false
  else if isEmptyList authorization.scopes then pure false
  else
    pure ((authorization.scopes.getD []).any fun scope =>
      [self.moduleId ++ "/read", self.moduleId ++ "/write"].contains scope)

/-- The loop of `is_authorized`, left at the first scope that is not authorized. -/
def allScopesAuthorized (self : ApiInvocationContext) : List String → Except Raised Bool
  | [] => pure true
  | scope :: scopes => do
    if ← self.isScopeAuthorized scope then self.allScopesAuthorized scopes
    else pure false

/-- `authorized_user` in `is_authorized` -/
def authorizedUser (self : ApiInvocationContext) (elevatedAccess : Bool) : Except Raised Bool :=
  if elevatedAccess then do
    if ← self.isAdministrator then pure true else self.isManager
  else self.isAuthorizedUser

/-- `authorized_scopes` in `is_authorized` -/
def authorizedScopes (self : ApiInvocationContext) (scopes : Option (List String)) :
    Except Raised Bool :=
  if isEmptyList scopes then pure false
  else do
    if ← self.isAuthorizedApp then self.allScopesAuthorized (scopes.getD [])
    else pure false

def isAuthorized (self : ApiInvocationContext) (elevatedAccess : Bool)
    (scopes : Option (List String)) : Except Raised Bool := do
  let authorizedUser ← self.authorizedUser elevatedAccess
  let authorizedScopes ← self.authorizedScopes scopes
  pure (authorizedUser || authorizedScopes)

end ApiInvocationContext

/-- The group that a configured name stands for is among the groups of the token. -/
def InGroup (token : DecodedToken) (name : Option String) : Prop :=
  isEmptyString name = false ∧ ∃ group ∈ token.groups.getD [], some group = name

/-- The scopes of a token are the words of its scope claim. -/
def Granted (token : DecodedToken) (scope : String) : Prop :=
  isEmptyString (some scope) = false ∧
    ∃ claim, getValueAsString token.scope = some claim ∧ scope ∈ splitScopes claim

def IsUser (token : DecodedToken) : Prop := getValueAsString token.username ≠ none

/-- A user has access as an administrator of the cluster or of the module, and unless the access is
elevated also as a user of the module. -/
def UserPolicy (moduleId : String) (options : TokenServiceOptions) (token : DecodedToken)
    (elevatedAccess : Bool) : Prop :=
  InGroup token options.administratorsGroupName ∨
  moduleAdministratorsGroup moduleId ∈ token.groups.getD [] ∨
  (elevatedAccess = false ∧
    moduleUsersGroup moduleId ∈ token.groups.getD [])

/-- An app has access by a scope of the module and all scopes that the call requires. -/
def AppPolicy (moduleId : String) (token : DecodedToken) (scopes : Option (List String)) : Prop :=
  scopes.getD [] ≠ [] ∧ (∀ scope ∈ scopes.getD [], Granted token scope) ∧
  (Granted token (moduleId ++ "/read") ∨ Granted token (moduleId ++ "/write"))

def Policy (moduleId : String) (options : TokenServiceOptions) (token : DecodedToken)
    (elevatedAccess : Bool) (scopes : Option (List String)) : Prop :=
  (IsUser token ∧ (InGroup token options.managersGroupName ∨
    UserPolicy moduleId options token elevatedAccess)) ∨
  (¬ IsUser token ∧ AppPolicy moduleId token scopes)

variable {moduleId : String} {options : TokenServiceOptions} {token : DecodedToken}

theorem isEmptyString_of_getValueAsString {claim : Option String} {value : String}
    (h : getValueAsString claim = some value) : isEmptyString (some value) = false := by
  obtain ⟨text, -, htext⟩ := Option.bind_eq_some_iff.mp h
  simp only [getAsString] at htext
  split at htext
  · cases htext
  · rename_i hblank
    obtain rfl := Option.some.inj htext
    simpa [isEmptyString, strip, stripChars_stripChars] using hblank

theorem isEmptyString_getValueAsString (claim : Option String) :
    isEmptyString (getValueAsString claim) = (getValueAsString claim).isNone := by
  cases h : getValueAsString claim with
  | none => rfl
  | some value => exact isEmptyString_of_getValueAsString h

theorem isIn_iff {name : Option String} {groups : List String} :
    isIn name groups = true ↔ ∃ group ∈ groups, some group = name := by
  simp [isIn]

def PassesForManager (options : TokenServiceOptions) (token : DecodedToken) : Prop :=
  isEmptyString options.administratorsGroupName = false ∧
    ∃ group ∈ token.groups.getD [], some group = options.managersGroupName

theorem inGroup_iff {name : Option String} : InGroup token name ↔
    (!isEmptyString name && isIn name (token.groups.getD [])) = true := by
  simp [InGroup, isIn_iff]

theorem passesForManager_iff : PassesForManager options token ↔
    (!isEmptyString options.administratorsGroupName &&
      isIn options.managersGroupName (token.groups.getD [])) = true := by
  simp [PassesForManager, isIn_iff]

theorem type_cases (options : TokenServiceOptions) (token : DecodedToken) :
    ¬ IsUser token ∧ (options.getAuthorization token).type = .app ∨
    IsUser token ∧ InGroup token options.administratorsGroupName ∧
      (options.getAuthorization token).type = .administrator ∨
    IsUser token ∧ ¬ InGroup token options.administratorsGroupName ∧
      PassesForManager options token ∧ (options.getAuthorization token).type = .manager ∨
    IsUser token ∧ ¬ InGroup token options.administratorsGroupName ∧
      ¬ PassesForManager options token ∧ (options.getAuthorization token).type = .user := by
  simp only [TokenServiceOptions.getAuthorization, isEmptyString_getValueAsString, IsUser,
    inGroup_iff, passesForManager_iff]
  generalize (!isEmptyString options.administratorsGroupName &&
    isIn options.administratorsGroupName (token.groups.getD [])) = administrator
  generalize (!isEmptyString options.administratorsGroupName &&
    isIn options.managersGroupName (token.groups.getD [])) = manager
  cases getValueAsString token.username <;> cases administrator <;> cases manager <;> simp

theorem granted_iff (options : TokenServiceOptions) {scope : String} : Granted token scope ↔
    isEmptyString (some scope) = false ∧
      scope ∈ (options.getAuthorization token).scopes.getD [] := by
  simp only [Granted, TokenServiceOptions.getAuthorization, isEmptyString_getValueAsString]
  cases getValueAsString token.scope <;> simp

variable {call : ApiInvocationContext} {service : TokenService}

/-- The call did not come through the socket of the host, and its token was verified. -/
structure Decodes (call : ApiInvocationContext) (service : TokenService)
    (token : DecodedToken) : Prop where
  source : call.invocationSource ≠ "unix-socket"
  service_eq : call.tokenService = some service
  decoded : ∃ accessToken, call.accessToken = some accessToken ∧
    service.decodeToken accessToken = .ok token

namespace Decodes

theorem getAuthorization (h : Decodes call service token) :
    call.getAuthorization = .ok (service.options.getAuthorization token) := by
  obtain ⟨accessToken, haccess, hdecoded⟩ := h.decoded
  simp only [ApiInvocationContext.getAuthorization,
    ApiInvocationContext.isUnixDomainSocketInvocation, h.source, haccess,
    ApiInvocationContext.getDecodedToken, h.service_eq, hdecoded]
  rfl

theorem accessToken_nonempty {accessToken : String} (h : call.accessToken = some accessToken) :
    isEmptyString (some accessToken) = false := by
  unfold ApiInvocationContext.accessToken at h
  split at h
  · cases h
  · exact isEmptyString_of_getValueAsString h

theorem isScopeAuthorized (h : Decodes call service token)
    (happ : (service.options.getAuthorization token).type = .app) (scope : String) :
    ∃ b, call.isScopeAuthorized scope = .ok b ∧ (b = true ↔ Granted token scope) := by
  obtain ⟨accessToken, haccess, hdecoded⟩ := h.decoded
  have hnonempty := accessToken_nonempty haccess
  rw [granted_iff service.options]
  by_cases hscope : isEmptyString (some scope) = true
  · exact ⟨false, by
      simp [ApiInvocationContext.isScopeAuthorized, haccess, hnonempty, h.service_eq,
        TokenService.isScopeAuthorized, hscope, pure, Except.pure], by simp [hscope]⟩
  · rw [Bool.not_eq_true] at hscope
    refine ⟨!isEmptyList (service.options.getAuthorization token).scopes &&
      ((service.options.getAuthorization token).scopes.getD []).contains scope, ?_, ?_⟩
    · simp only [ApiInvocationContext.isScopeAuthorized, haccess, hnonempty, h.service_eq,
        TokenService.isScopeAuthorized, hscope, hdecoded]
      simp [bind, Except.bind, pure, Except.pure, happ]
    · cases (service.options.getAuthorization token).scopes with
      | none => simp [isEmptyList]
      | some scopes =>
        have hne : scope ∈ scopes → scopes ≠ [] := List.ne_nil_of_mem
        simp [isEmptyList, hscope]
        tauto

theorem allScopesAuthorized (h : Decodes call service token)
    (happ : (service.options.getAuthorization token).type = .app) (scopes : List String) :
    ∃ b, call.allScopesAuthorized scopes = .ok b ∧
      (b = true ↔ ∀ scope ∈ scopes, Granted token scope) := by
  induction scopes with
  | nil => exact ⟨true, rfl, by simp⟩
  | cons scope scopes ih =>
    obtain ⟨b, hb, hgranted⟩ := h.isScopeAuthorized happ scope
    obtain ⟨rest, hrest, hall⟩ := ih
    cases b with
    | false =>
      refine ⟨false, by simp [ApiInvocationContext.allScopesAuthorized, hb, bind, Except.bind, pure,
        Except.pure], ?_⟩
      simpa using fun hscope => absurd (hgranted.mpr hscope) (by simp)
    | true =>
      refine ⟨rest, by simp [ApiInvocationContext.allScopesAuthorized, hb, hrest, bind,
        Except.bind], ?_⟩
      simp [hall, hgranted.mp rfl]

theorem isAuthorizedApp (h : Decodes call service token)
    (happ : (service.options.getAuthorization token).type = .app) :
    ∃ b, call.isAuthorizedApp = .ok b ∧ (b = true ↔
      Granted token (call.moduleId ++ "/read") ∨ Granted token (call.moduleId ++ "/write")) := by
  have hread : isEmptyString (some (call.moduleId ++ "/read")) = false :=
    isEmptyString_of_mem (c := '/') (by simp) (by decide)
  have hwrite : isEmptyString (some (call.moduleId ++ "/write")) = false :=
    isEmptyString_of_mem (c := '/') (by simp) (by decide)
  rw [granted_iff service.options, granted_iff service.options]
  refine ⟨!isEmptyList (service.options.getAuthorization token).scopes &&
    ((service.options.getAuthorization token).scopes.getD []).any fun scope =>
      [call.moduleId ++ "/read", call.moduleId ++ "/write"].contains scope, ?_, ?_⟩
  · simp only [ApiInvocationContext.isAuthorizedApp, h.getAuthorization, bind, Except.bind, happ]
    cases isEmptyList (service.options.getAuthorization token).scopes <;> rfl
  · cases (service.options.getAuthorization token).scopes with
    | none => simp [isEmptyList]
    | some scopes =>
      simp only [isEmptyList, Option.getD_some, Bool.and_eq_true, List.any_eq_true, hread, hwrite,
        List.contains_cons, true_and]
      constructor
      · rintro ⟨-, scope, hscope, hmem⟩
        simp at hmem
        rcases hmem with rfl | rfl
        · exact .inl hscope
        · exact .inr hscope
      · rintro (hscope | hscope)
        · exact ⟨by simp [List.ne_nil_of_mem hscope], _, hscope, by simp⟩
        · exact ⟨by simp [List.ne_nil_of_mem hscope], _, hscope, by simp⟩

theorem authorizedScopes_user (h : Decodes call service token)
    (hu : (service.options.getAuthorization token).type ≠ .app) (scopes : Option (List String)) :
    call.authorizedScopes scopes = .ok false := by
  simp only [ApiInvocationContext.authorizedScopes, ApiInvocationContext.isAuthorizedApp,
    h.getAuthorization, bind, Except.bind]
  cases isEmptyList scopes <;> simp [hu, pure, Except.pure]

theorem isAuthorized_user (h : Decodes call service token) (hu : IsUser token)
    (elevatedAccess : Bool) (scopes : Option (List String)) :
    ∃ b, call.isAuthorized elevatedAccess scopes = .ok b ∧
      (b = true ↔ PassesForManager service.options token ∨
        UserPolicy call.moduleId service.options token elevatedAccess) := by
  have hgroups : (service.options.getAuthorization token).groups = token.groups.getD [] := rfl
  rcases type_cases service.options token with ⟨hn, -⟩ | ⟨-, ha, ht⟩ | ⟨-, -, hm, ht⟩ | ⟨-, ha, hm, ht⟩
  · exact absurd hu hn
  · have hs := h.authorizedScopes_user (by simp [ht]) scopes
    refine ⟨true, ?_, by simp [UserPolicy, ha]⟩
    cases elevatedAccess <;>
    simp [ApiInvocationContext.isAuthorized, ApiInvocationContext.authorizedUser,
      ApiInvocationContext.isAuthorizedUser, ApiInvocationContext.isAdministrator,
      h.getAuthorization, ht, hs, bind, Except.bind, pure, Except.pure]
  · have hs := h.authorizedScopes_user (by simp [ht]) scopes
    refine ⟨true, ?_, by simp [hm]⟩
    cases elevatedAccess <;>
    simp [ApiInvocationContext.isAuthorized, ApiInvocationContext.authorizedUser,
      ApiInvocationContext.isAuthorizedUser, ApiInvocationContext.isAdministrator,
      ApiInvocationContext.isManager, h.getAuthorization, ht, hs, bind, Except.bind, pure,
      Except.pure]
  · have hs := h.authorizedScopes_user (by simp [ht]) scopes
    refine ⟨(token.groups.getD []).contains (moduleAdministratorsGroup call.moduleId) ||
      !elevatedAccess && (token.groups.getD []).contains (moduleUsersGroup call.moduleId), ?_, ?_⟩
    · cases elevatedAccess <;>
      cases hc : (token.groups.getD []).contains (moduleAdministratorsGroup call.moduleId) <;>
      simp only [ApiInvocationContext.isAuthorized, ApiInvocationContext.authorizedUser,
        ApiInvocationContext.isAuthorizedUser, ApiInvocationContext.isAdministrator,
        ApiInvocationContext.isManager, h.getAuthorization, ht, hs, hgroups, hc, bind, Except.bind,
        pure, Except.pure] <;>
      simp
    · simp [UserPolicy, ha, hm]

theorem isAuthorized_app (h : Decodes call service token) (hu : ¬ IsUser token)
    (elevatedAccess : Bool) (scopes : Option (List String)) :
    ∃ b, call.isAuthorized elevatedAccess scopes = .ok b ∧
      (b = true ↔ AppPolicy call.moduleId token scopes) := by
  have happ : (service.options.getAuthorization token).type = .app := by
    have htype := type_cases service.options token
    tauto
  obtain ⟨app, hisApp, happ_iff⟩ := h.isAuthorizedApp happ
  obtain ⟨all, hall, hall_iff⟩ := h.allScopesAuthorized happ (scopes.getD [])
  have huser : call.authorizedUser elevatedAccess = .ok false := by
    cases elevatedAccess <;>
    simp [ApiInvocationContext.authorizedUser, ApiInvocationContext.isAuthorizedUser,
      ApiInvocationContext.isAdministrator, ApiInvocationContext.isManager, h.getAuthorization,
      happ, bind, Except.bind, pure, Except.pure]
  refine ⟨!isEmptyList scopes && app && all, ?_, ?_⟩
  · simp only [ApiInvocationContext.isAuthorized, huser, ApiInvocationContext.authorizedScopes,
      hisApp, hall]
    cases isEmptyList scopes <;> cases app <;> rfl
  · rw [Bool.and_eq_true, Bool.and_eq_true, happ_iff, hall_iff, AppPolicy]
    cases scopes <;> simp [isEmptyList]
    tauto

end Decodes

/-- The groups name the managers, one of the names of administrators and managers is configured and
the other is not, and nothing else gives the user access. -/
def ManagersMisread (moduleId : String) (options : TokenServiceOptions) (token : DecodedToken)
    (elevatedAccess : Bool) : Prop :=
  IsUser token ∧ (∃ group ∈ token.groups.getD [], some group = options.managersGroupName) ∧
  isEmptyString options.administratorsGroupName ≠ isEmptyString options.managersGroupName ∧
  ¬ UserPolicy moduleId options token elevatedAccess

theorem managersMisread_iff {elevatedAccess : Bool} :
    ManagersMisread moduleId options token elevatedAccess ↔
      IsUser token ∧
      ¬ (PassesForManager options token ↔ InGroup token options.managersGroupName) ∧
      ¬ UserPolicy moduleId options token elevatedAccess := by
  simp only [ManagersMisread, PassesForManager, InGroup]
  cases isEmptyString options.administratorsGroupName <;>
    cases isEmptyString options.managersGroupName <;> simp

/-- The decision for a call is the one of the policy, elevated access includes plain access, a user
has none by scopes, and an app has none by groups. -/
def FollowsPolicy (call : ApiInvocationContext) (options : TokenServiceOptions)
    (token : DecodedToken) (elevatedAccess : Bool) (scopes : Option (List String)) : Prop :=
  (∃ b, call.isAuthorized elevatedAccess scopes = .ok b ∧
    (b = true ↔ Policy call.moduleId options token elevatedAccess scopes)) ∧
  (call.isAuthorized true scopes = .ok true → call.isAuthorized false scopes = .ok true) ∧
  (IsUser token → call.isAuthorized elevatedAccess scopes = call.isAuthorized elevatedAccess none) ∧
  (¬ IsUser token → call.isAuthorized elevatedAccess scopes = .ok true →
    AppPolicy call.moduleId token scopes)

theorem UserPolicy.plain (h : UserPolicy moduleId options token true) :
    UserPolicy moduleId options token false := by
  rcases h with h | h | ⟨h, -⟩
  · exact .inl h
  · exact .inr (.inl h)
  · cases h

theorem eq_of_iff {x y : Except Raised Bool} {p q : Prop} (hx : ∃ b, x = .ok b ∧ (b = true ↔ p))
    (hy : ∃ b, y = .ok b ∧ (b = true ↔ q)) (h : p ↔ q) : x = y := by
  obtain ⟨b, rfl, hb⟩ := hx
  obtain ⟨c, rfl, hc⟩ := hy
  rw [Bool.eq_iff_iff.mpr (hb.trans (h.trans hc.symm))]

theorem of_ok_true {x : Except Raised Bool} {p : Prop} (hx : ∃ b, x = .ok b ∧ (b = true ↔ p)) :
    x = .ok true ↔ p := by
  obtain ⟨b, rfl, hb⟩ := hx
  rw [← hb, Except.ok.injEq]

theorem Decodes.elevated (h : Decodes call service token) (scopes : Option (List String))
    (hx : call.isAuthorized true scopes = .ok true) : call.isAuthorized false scopes = .ok true := by
  by_cases hu : IsUser token
  · rw [of_ok_true (h.isAuthorized_user hu _ scopes)] at hx ⊢
    exact hx.imp_right UserPolicy.plain
  · rw [of_ok_true (h.isAuthorized_app hu _ scopes)] at hx ⊢
    exact hx

/-- The decision follows the policy exactly when the name of the managers is not misread. -/
theorem isAuthorized_followsPolicy_iff (h : Decodes call service token) (elevatedAccess : Bool)
    (scopes : Option (List String)) :
    FollowsPolicy call service.options token elevatedAccess scopes ↔
      ¬ ManagersMisread call.moduleId service.options token elevatedAccess := by
  rw [managersMisread_iff]
  by_cases hu : IsUser token
  · have hcode := h.isAuthorized_user hu elevatedAccess scopes
    have hplain := eq_of_iff hcode (h.isAuthorized_user hu elevatedAccess none) Iff.rfl
    have hpolicy : Policy call.moduleId service.options token elevatedAccess scopes ↔
        InGroup token service.options.managersGroupName ∨
          UserPolicy call.moduleId service.options token elevatedAccess := by
      simp [Policy, hu]
    constructor
    · rintro ⟨⟨b, hb, hb_iff⟩, -⟩ ⟨-, hmisread, hother⟩
      have hagree := (of_ok_true hcode).symm.trans (of_ok_true ⟨b, hb, hb_iff.trans hpolicy⟩)
      tauto
    · intro hread
      obtain ⟨b, hb, hb_iff⟩ := hcode
      refine ⟨⟨b, hb, hb_iff.trans (Iff.trans ?_ hpolicy.symm)⟩, h.elevated scopes, fun _ => hplain,
        fun hn => absurd hu hn⟩
      tauto
  · have hcode := h.isAuthorized_app hu elevatedAccess scopes
    have hpolicy := of_ok_true hcode
    simp only [FollowsPolicy, Policy, hu, hpolicy, false_and, not_false_eq_true, true_and, false_or,
      false_implies, imp_self, and_true, hcode, iff_true]
    exact h.elevated scopes

def schedulerCall (options : TokenServiceOptions) (decodedToken : DecodedToken) :
    ApiInvocationContext where
  moduleId := "scheduler"
  administratorUsername := "clusteradmin"
  invocationSource := "http"
  token := some ⟨some "Bearer", some "token"⟩
  tokenService := some ⟨options, fun token =>
    if token = "token" then .ok decodedToken else .error (.soca "UNAUTHORIZED_ACCESS" "")⟩

def managerToken : DecodedToken := ⟨some "alice", some ["managers-cluster-group"], none, none⟩

def bothGroups : TokenServiceOptions :=
  ⟨some "administrators-cluster-group", some "managers-cluster-group"⟩

def onlyManagers : TokenServiceOptions := ⟨none, some "managers-cluster-group"⟩

theorem decodes_schedulerCall (options : TokenServiceOptions) (decodedToken : DecodedToken) :
    ∃ service : TokenService, service.options = options ∧
      Decodes (schedulerCall options decodedToken) service decodedToken := by
  have haccess : (schedulerCall options decodedToken).accessToken = some "token" := by
    have htype : getValueAsString (some "Bearer") = some "Bearer" := by decide +kernel
    have htoken : getValueAsString (some "token") = some "token" := by decide +kernel
    simp [ApiInvocationContext.accessToken, schedulerCall, htype, htoken]
  refine ⟨_, ?_, ?_, rfl, "token", haccess, ?_⟩
  · rfl
  · simp [schedulerCall]
  · rfl

/-- A manager gets elevated access when both names are configured. -/
theorem isAuthorized_followsPolicy_iff_manager :
    FollowsPolicy (schedulerCall bothGroups managerToken) bothGroups managerToken true none := by
  obtain ⟨service, hoptions, h⟩ := decodes_schedulerCall bothGroups managerToken
  have hfollows := isAuthorized_followsPolicy_iff h true none
  rw [hoptions] at hfollows
  apply hfollows.mpr
  rintro ⟨-, -, hconfigured, -⟩
  exact hconfigured (by decide +kernel)

/-- Without a name for the administrators the manager is turned away. -/
theorem manager_turned_away :
    Decodes (schedulerCall onlyManagers managerToken)
      ⟨onlyManagers, fun token =>
        if token = "token" then .ok managerToken else .error (.soca "UNAUTHORIZED_ACCESS" "")⟩
      managerToken ∧
    (schedulerCall onlyManagers managerToken).isAuthorized false none = .ok false ∧
    Policy "scheduler" onlyManagers managerToken false none := by
  refine ⟨⟨by decide, rfl, "token", by decide +kernel, rfl⟩, by decide +kernel, ?_⟩
  have huser : IsUser managerToken := by
    unfold IsUser
    decide +kernel
  exact .inl ⟨huser, .inl ⟨by decide +kernel, "managers-cluster-group", by decide, rfl⟩⟩

end Idea.Authorization

import Mathlib.Data.List.Infix
import Idea.Accounts.Stores

/-! # Account operations

Each operation is a sequence of calls to the tables, the user pool and the queue. An exception ends
it, and what was written before stays.
-/

namespace Idea.Accounts

abbrev Operation (α : Type) : Type := Program Op (fun op => Except Raised (Result op)) Raised α

def ask (op : Op) : Operation (Result op) := Program.ask op

def raise {α : Type} (e : Raised) : Operation α := Program.raise e

def whenever (condition : Bool) (operation : Operation Unit) : Operation Unit :=
  if condition then operation else pure ()

/-- The configuration that the operations read, and what counts as an address. -/
structure Config where
  clusterAdministrator : String
  administratorsGroupName : String
  ssoEnabled : Bool
  isActiveDirectory : Bool
  validEmail : String → Bool

def AUTH_USER_IS_DISABLED : String := "USER_IS_DISABLED"

def AUTH_GROUP_IS_DISABLED : String := "GROUP_IS_DISABLED"

def AUTH_USER_NOT_FOUND : String := "AUTH_USER_NOT_FOUND"

def AUTH_USER_ALREADY_EXISTS : String := "AUTH_USER_ALREADY_EXISTS"

def AUTH_GROUP_NOT_FOUND : String := "AUTH_GROUP_NOT_FOUND"

def AUTH_INVALID_OPERATION : String := "AUTH_INVALID_OPERATION"

/-- `GroupNameHelper._build_group_name` -/
def buildGroupName (groupType : GroupType) (name : String) : String :=
  name ++ "-" ++ groupType.text ++ "-group"

def getUserGroup (username : String) : String := buildGroupName .user username

def getDefaultProjectGroup : String := buildGroupName .project "default"

def Config.getClusterAdministratorsGroup (self : Config) : String :=
  if "cluster-group".toList <:+ self.administratorsGroupName.toList then
    self.administratorsGroupName
  else buildGroupName .cluster self.administratorsGroupName

def requireNonempty (value message : String) : Operation Unit :=
  whenever (isEmptyString (some value)) (raise (invalidParams message))

namespace UserDAO

def getUser (username : String) : Operation (Option User) := do
  let username ← Program.ofExcept (sanitizeUsername username)
  ask (.getUser username)

def updateUser (username : String) (updates : UserUpdates) : Operation User := do
  let username ← Program.ofExcept (sanitizeUsername username)
  ask (.updateUser username updates)

def deleteUser (username : String) : Operation Unit := do
  let username ← Program.ofExcept (sanitizeUsername username)
  ask (.deleteUser username)

end UserDAO

namespace GroupDAO

def getGroup (groupName : String) : Operation (Option Group) := do
  requireNonempty groupName "group_name is required"
  ask (.getGroup groupName)

def createGroup (groupName : String) (group : Group) : Operation Unit := do
  requireNonempty groupName "group_name is required"
  ask (.putGroup groupName group)

def setEnabled (groupName : String) (enabled : Bool) : Operation Unit := do
  requireNonempty groupName "group_name is required"
  ask (.setGroupEnabled groupName enabled)

def deleteGroup (groupName : String) : Operation Unit := do
  requireNonempty groupName "group_name is required"
  ask (.deleteGroup groupName)

end GroupDAO

namespace GroupMembersDAO

def createMembership (groupName username : String) : Operation Unit := do
  let username ← Program.ofExcept (sanitizeUsername username)
  requireNonempty groupName "group_name is required"
  ask (.putMember groupName username)

def deleteMembership (groupName username : String) : Operation Unit := do
  let username ← Program.ofExcept (sanitizeUsername username)
  requireNonempty groupName "group_name is required"
  ask (.deleteMember groupName username)

def getUsernamesInGroup (groupName : String) : Operation (List Username) := do
  requireNonempty groupName "group_name is required"
  ask (.queryMembers groupName)

end GroupMembersDAO

namespace CognitoUserPool

def adminAddUserToGroup (username groupName : String) : Operation Unit := do
  requireNonempty username "username is required"
  requireNonempty groupName "username is required"
  ask (.adminAddUserToGroup username groupName)

def adminRemoveUserFromGroup (username groupName : String) : Operation Unit := do
  requireNonempty username "username is required"
  requireNonempty groupName "group_name is required"
  ask (.adminRemoveUserFromGroup username groupName)

def adminAddSudoUser (config : Config) (username : String) : Operation Unit :=
  adminAddUserToGroup username config.getClusterAdministratorsGroup

def adminRemoveSudoUser (config : Config) (username : String) : Operation Unit :=
  adminRemoveUserFromGroup username config.getClusterAdministratorsGroup

def adminDisableUser (username : String) : Operation Unit := do
  requireNonempty username "username is required"
  ask (.adminDisableUser username)

def adminDeleteUser (username : String) : Operation Unit := do
  requireNonempty username "username is required"
  Program.tryCatch (ask (.adminDeleteUser username)) fun
    | .clientError code text =>
      if code = USER_NOT_FOUND then pure () else raise (.clientError code text)
    | e => raise e

def passwordUpdated (config : Config) (username : String) : Operation Unit :=
  whenever config.isActiveDirectory (ask (.adminUpdateUserAttributes username))

def adminSetPassword (config : Config) (username password : String) : Operation Unit := do
  Program.tryCatch (ask (.adminSetUserPassword username password)) fun
    | .clientError code text =>
      if code = "InvalidPasswordException" then do
        adminDeleteUser username
        raise (invalidParams "Password does not confirm to Cognito user pool policy")
      else raise (.clientError code text)
    | e => raise e
  passwordUpdated config username

def adminCreateUser (config : Config) (username email password : String) (emailVerified : Bool) :
    Operation Unit := do
  if emailVerified && isEmptyString (some password) then
    raise (invalidParams "password is required when email_verified=True")
  else do
    ask (.adminCreateUser username email)
    whenever emailVerified (adminSetPassword config username password)

def adminUpdateEmail (username : String) : Operation Unit := ask (.adminUpdateUserAttributes username)

def adminLinkIdpForUser (config : Config) (username email : String) : Operation Unit := do
  requireNonempty username "username is required"
  if username.toList <:+: config.clusterAdministrator.toList ∨
      "clusteradmin".toList <+: username.toList then pure ()
  else ask (.adminLinkProviderForUser username email)

end CognitoUserPool

def send (task : Task) : Operation Unit := ask (.sendMessage task)

def groupNotFound (groupName : String) : Raised :=
  .soca AUTH_GROUP_NOT_FOUND ("group: " ++ groupName ++ " not found.")

def userNotFound (username : String) : Raised :=
  .soca AUTH_USER_NOT_FOUND ("user not found: " ++ username)

def userIsDisabled (username : String) : Raised :=
  .soca AUTH_USER_IS_DISABLED ("user is disabled: " ++ username)

def admittedUsers (admission : String → Option User → Except Raised (Option User)) :
    List String → Operation (List User)
  | [] => pure []
  | username :: usernames => do
    let user ← UserDAO.getUser username
    let admitted ← Program.ofExcept (admission username user)
    let users ← admittedUsers admission usernames
    pure (admitted.toList ++ users)

/-- A user that is not found is an error, unless such users are skipped, and a user that is disabled
is one, unless these are let through. -/
def admission (force : Bool) (username : String) : Option User → Except Raised (Option User)
  | none => if force then .ok none else .error (userNotFound username)
  | some user => if user.enabled || force then .ok (some user) else .error (userIsDisabled username)

def changePoolMembership (groupName username : String) : MembershipOperation → Operation Unit
  | .add => CognitoUserPool.adminAddUserToGroup username groupName
  | .remove => CognitoUserPool.adminRemoveUserFromGroup username groupName

def groupMembershipUpdated (group : Group) (groupName : String) (username : String)
    (operation : MembershipOperation) : Operation Unit := do
  whenever group.pooled (changePoolMembership groupName username operation)
  send (.groupMembershipUpdated groupName username operation)

/-- `if group_name not in additional_groups: additional_groups.append(group_name)` -/
def withGroup (groupName : String) (groups : List String) : List String :=
  if groupName ∈ groups then groups else groups ++ [groupName]

def addUserToGroup (group : Group) (groupName : String) (user : User) : Operation Unit := do
  let _ ← UserDAO.updateUser user.username.text
    { additionalGroups := some (withGroup groupName user.additionalGroups) }
  GroupMembersDAO.createMembership groupName user.username.text
  groupMembershipUpdated group groupName user.username.text .add

def addUsersToGroup (usernames : List String) (groupName : String) : Operation Unit := do
  if usernames.isEmpty then raise (invalidParams "usernames is required")
  else do
    requireNonempty groupName "group_name is required"
    match ← GroupDAO.getGroup groupName with
    | none => raise (groupNotFound groupName)
    | some group =>
      if !group.enabled then
        raise (.soca AUTH_GROUP_IS_DISABLED "cannot add users to a disabled user group")
      else do
        let users ← admittedUsers (admission false) usernames
        Program.forEach (addUserToGroup group groupName) users

def dedupe (names : List String) : List String :=
  names.foldl (fun kept name => if name ∈ kept then kept else kept ++ [name]) []

/-- One of the groups that a user is removed from, with the groups of the user so far. A group that
is missing or disabled is skipped. -/
def removeUserFrom (username : String) (additionalGroups : List String) (groupName : String) :
    Operation (List String) := do
  match ← GroupDAO.getGroup groupName with
  | none => pure additionalGroups
  | some group =>
    if !group.enabled then pure additionalGroups
    else do
      GroupMembersDAO.deleteMembership groupName username
      groupMembershipUpdated group groupName username .remove
      pure (additionalGroups.erase groupName)

def removeUserFromGroups (username : String) (groupNames : List String) : Operation Unit := do
  requireNonempty username "usernames is required"
  if groupNames.isEmpty then raise (invalidParams "group_names is required")
  else
    match ← UserDAO.getUser username with
    | none => raise (userNotFound username)
    | some user =>
      if !user.enabled then raise (userIsDisabled username)
      else do
        let additionalGroups ← Program.foldEach (removeUserFrom username) user.additionalGroups
          (dedupe groupNames)
        let _ ← UserDAO.updateUser username { additionalGroups := some additionalGroups }
        pure ()

def removeUserFromGroup (group : Group) (groupName : String) (user : User) : Operation Unit := do
  let _ ← UserDAO.updateUser user.username.text
    { additionalGroups := some (user.additionalGroups.erase groupName) }
  GroupMembersDAO.deleteMembership groupName user.username.text
  groupMembershipUpdated group groupName user.username.text .remove

def removeUsersFromGroup (usernames : List String) (groupName : String) (force : Bool) :
    Operation Unit := do
  if usernames.isEmpty then raise (invalidParams "usernames is required")
  else do
    requireNonempty groupName "group_name is required"
    match ← GroupDAO.getGroup groupName with
    | none => raise (groupNotFound groupName)
    | some group =>
      if !group.enabled && !force then
        raise (.soca AUTH_GROUP_IS_DISABLED "cannot remove users from a disabled user group")
      else do
        let users ← admittedUsers (admission force) usernames
        Program.forEach (removeUserFromGroup group groupName) users

def deleteMembers (groupName : String) (force : Bool) : Operation Unit := do
  if ← ask (.hasMembers groupName) then
    if force then do
      let usernames ← GroupMembersDAO.getUsernamesInGroup groupName
      removeUsersFromGroup (usernames.map Username.text) groupName force
    else raise (.soca AUTH_INVALID_OPERATION "group must be empty before it can be deleted.")
  else pure ()

def deleteGroup (groupName : String) (force : Bool) : Operation Unit := do
  requireNonempty groupName "group_name is required"
  match ← GroupDAO.getGroup groupName with
  | none => raise (groupNotFound groupName)
  | some _ => do
    deleteMembers groupName force
    GroupDAO.deleteGroup groupName
    send (.syncGroup groupName)

def Config.isClusterAdministrator (self : Config) (username : String) : Bool :=
  username = self.clusterAdministrator

def sudoUserNotFound (username : String) : Raised :=
  .soca AUTH_USER_NOT_FOUND ("User not found: " ++ username)

def addSudoUser (config : Config) (username : String) : Operation Unit := do
  requireNonempty username "username is required"
  match ← UserDAO.getUser username with
  | none => raise (sudoUserNotFound username)
  | some user =>
    if user.sudoUser then pure ()
    else do
      let _ ← UserDAO.updateUser username { sudoUser := some true }
      CognitoUserPool.adminAddSudoUser config username
      send (.syncUser username)

def removeSudoUser (config : Config) (username : String) : Operation Unit := do
  requireNonempty username "username is required"
  if config.isClusterAdministrator username then
    raise (.soca AUTH_INVALID_OPERATION
      ("Admin rights cannot be revoked from IDEA Cluster Administrator: " ++ username ++ "."))
  else
    match ← UserDAO.getUser username with
    | none => raise (sudoUserNotFound username)
    | some user =>
      if !user.sudoUser then pure ()
      else do
        let _ ← UserDAO.updateUser username { sudoUser := some false }
        CognitoUserPool.adminRemoveSudoUser config username
        send (.syncUser username)

structure CreateUserRequest where
  username : String
  email : Option String
  password : Option String
  loginShell : Option String
  uid : Option ℤ
  gid : Option ℤ
  sudoUser : Option Bool
  additionalGroups : Option (List String)
  emailVerified : Bool

def isMark (c : Char) : Bool := c = '_' || c = '.' || c = '-'

def hasTwoMarks : List Char → Bool
  | c :: d :: cs => (isMark c && isMark d) || hasTwoMarks (d :: cs)
  | _ => false

/-- `re.match(USERNAME_REGEX, username)` of a name without white space at its end. -/
def matchesUsernameRegex (username : String) : Bool :=
  let cs := username.toList
  3 ≤ cs.length && cs.length ≤ 20 && !(cs.head?.any isMark) && !hasTwoMarks cs &&
    cs.all (fun c => ('a' ≤ c && c ≤ 'z') || ('0' ≤ c && c ≤ '9') || isMark c) &&
    !(cs.getLast?.any isMark)

def USERNAME_REGEX : String :=
  "^(?=.\x7b3,20\x7d$)(?![_.-])(?!.*[_.-]\x7b2\x7d)[a-z0-9_.-]+(?<![_.-])$"

def reservedUsernames : List String :=
  ["root", "admin", "administrator", "ideaserviceaccount", "ec2-user", "centos", "ssm-user"]

def checkUsername (username : String) : Except Raised Unit :=
  if !matchesUsernameRegex username then
    .error (invalidParams ("user.username must match regex: " ++ USERNAME_REGEX))
  else if username ∈ reservedUsernames then
    .error (invalidParams ("invalid username: " ++ username ++ ". Change username to prevent " ++
      "conflicts with local or directory system users."))
  else .ok ()

/-- `AuthUtils.sanitize_email` -/
def sanitizeEmail (config : Config) (email : Option String) : Except Raised String :=
  if isEmptyString email then .error (invalidParams "email is required")
  else if config.validEmail (sanitized (email.getD "")) then .ok (sanitized (email.getD ""))
  else .error (invalidParams ("invalid email: " ++ sanitized (email.getD "")))

def specialCharacters : List Char := "^$*.[]\x7b\x7d()?\"!@#%&/,><':;|_~=+-".toList ++ [Char.ofNat 96]

def checkPassword (policy : PasswordPolicy) (password : String) : Except Raised Unit :=
  let cs := password.toList
  if cs.length < policy.minimumLength then
    .error (invalidParams ("Password should be greater than " ++ toString policy.minimumLength ++
      " characters"))
  else if 256 < cs.length then .error (invalidParams "Password can be up to 256 characters")
  else if policy.requireNumbers && !cs.any (fun c => '0' ≤ c && c ≤ '9') then
    .error (invalidParams "Password should include at least 1 number")
  else if policy.requireUppercase && !cs.any (fun c => 'A' ≤ c && c ≤ 'Z') then
    .error (invalidParams "Password should include at least 1 uppercase letter")
  else if policy.requireLowercase && !cs.any (fun c => 'a' ≤ c && c ≤ 'z') then
    .error (invalidParams "Password should include at least 1 lowercase letter")
  else if policy.requireSymbols && !cs.any (fun c => c ∈ specialCharacters) then
    .error (invalidParams ("Password should include at least 1 of these special characters: " ++
      "^ $ * . [ ] \x7b \x7d ( ) ? \" ! @ # % & / \\ , > < ' : ; | _ ~ " ++
      String.singleton (Char.ofNat 96) ++ " = + -"))
  else .ok ()

def newPassword (request : CreateUserRequest) : Operation String :=
  if request.emailVerified then
    if isEmptyString request.password then raise (invalidParams "Password is required")
    else do
      let policy ← ask .describeUserPool
      Program.ofExcept (checkPassword policy (request.password.getD ""))
      pure (request.password.getD "")
  else ask .generatePassword

def givenOr (value : Option ℤ) (next : Operation ℤ) : Operation ℤ :=
  match value with
  | some value => pure value
  | none => next

def changeLdapPassword (username password : String) : Operation Unit := do
  let passwordFile ← ask (.savePassword password)
  let isUserSynced ← ask (.isExistingUser username)
  whenever (!isUserSynced) (send (.syncUser username))
  send (.syncPassword username passwordFile)

def createPoolEntry (config : Config) (username email password : String)
    (emailVerified sudoUser : Bool) : Operation Unit := do
  CognitoUserPool.adminCreateUser config username email password emailVerified
  whenever config.ssoEnabled (CognitoUserPool.adminLinkIdpForUser config username email)
  whenever sudoUser (CognitoUserPool.adminAddSudoUser config username)

def createUserGroup (username groupName : String) (gid : ℤ) : Operation Unit := do
  match ← GroupDAO.getGroup groupName with
  | some _ => pure ()
  | none =>
    GroupDAO.createGroup groupName
      ⟨username ++ "'s Personal User Group", gid, .user, some username, true⟩

def joinGroups (username groupName : String) (additionalGroups : List String) :
    Operation Unit := do
  addUsersToGroup [username] groupName
  addUsersToGroup [username] getDefaultProjectGroup
  Program.forEach (fun additionalGroup => addUsersToGroup [username] additionalGroup)
    additionalGroups

def DEFAULT_LOGIN_SHELL : String := "/bin/bash"

def createUser (config : Config) (request : CreateUserRequest) : Operation User := do
  let username ← Program.ofExcept (sanitizeUsername request.username)
  Program.ofExcept (checkUsername username.text)
  match ← UserDAO.getUser username.text with
  | some _ => raise (.soca AUTH_USER_ALREADY_EXISTS
      ("username: " ++ username.text ++ " already exists."))
  | none => do
    let email ← Program.ofExcept (sanitizeEmail config request.email)
    let password ← newPassword request
    let uid ← givenOr request.uid (ask .nextUid)
    let gid ← givenOr request.gid (ask .nextGid)
    let sudoUser := request.sudoUser.getD false
    createPoolEntry config username.text email password request.emailVerified sudoUser
    let groupName := getUserGroup username.text
    let additionalGroups := (request.additionalGroups.getD []).erase groupName
    createUserGroup username.text groupName gid
    let user : User :=
      { username, email, uid, gid, groupName, additionalGroups,
        loginShell := if isEmptyString request.loginShell then DEFAULT_LOGIN_SHELL
          else request.loginShell.getD "",
        homeDir := "/data/home/" ++ username.text, sudoUser, enabled := true }
    ask (.putUser user)
    send (.syncUser username.text)
    joinGroups username.text groupName additionalGroups
    send (.createHomeDirectory username.text)
    whenever (!isEmptyString (some password)) (changeLdapPassword username.text password)
    pure user

structure ModifyUserRequest where
  username : String
  email : Option String
  loginShell : Option String
  uid : Option ℤ
  gid : Option ℤ
  sudoUser : Option Bool

def modifyEmail (config : Config) (username : String) (existing : User) (email : Option String) :
    Operation (Option String) := do
  if isEmptyString email then pure none
  else do
    let newEmail ← Program.ofExcept (sanitizeEmail config email)
    if existing.email = newEmail then pure none
    else do
      CognitoUserPool.adminUpdateEmail username
      whenever config.ssoEnabled (CognitoUserPool.adminLinkIdpForUser config username newEmail)
      pure (some newEmail)

def modifyUser (config : Config) (request : ModifyUserRequest) : Operation User := do
  let username ← Program.ofExcept (sanitizeUsername request.username)
  match ← UserDAO.getUser username.text with
  | none => raise (sudoUserNotFound username.text)
  | some existing =>
    if !existing.enabled then
      raise (.soca AUTH_USER_IS_DISABLED "User is disabled and cannot be modified.")
    else do
      let email ← modifyEmail config username.text existing request.email
      let updated ← UserDAO.updateUser username.text
        { email, loginShell := if isEmptyString request.loginShell then none
            else request.loginShell,
          sudoUser := request.sudoUser, uid := request.uid, gid := request.gid }
      send (.syncUser username.text)
      pure updated

def disableUser (config : Config) (username : String) : Operation Unit := do
  requireNonempty username "username is required"
  if config.isClusterAdministrator username then
    raise (.soca AUTH_INVALID_OPERATION "Cluster Administrator cannot be disabled.")
  else
    match ← UserDAO.getUser username with
    | none => raise (sudoUserNotFound username)
    | some user =>
      if !user.enabled then pure ()
      else do
        CognitoUserPool.adminDisableUser username
        let _ ← UserDAO.updateUser username { enabled := some false }
        GroupDAO.setEnabled user.groupName false
        send (.syncUser username)
        ask (.publishUserDisabledEvent username)

def leaveGroups (username : String) (groups : List String) : Operation Unit :=
  if groups.isEmpty then pure ()
  else Program.tryCatch (removeUserFromGroups username groups) fun
    | .soca code message =>
      if code = AUTH_USER_IS_DISABLED then pure () else raise (.soca code message)
    | e => raise e

def deleteUser (config : Config) (username : String) : Operation Unit := do
  if config.isClusterAdministrator username then
    raise (.soca AUTH_INVALID_OPERATION "Cluster Administrator cannot be deleted.")
  else
    match ← UserDAO.getUser username with
    | none => pure ()
    | some user => do
      leaveGroups username (user.additionalGroups.erase user.groupName)
      disableUser config username
      CognitoUserPool.adminDeleteUser username
      deleteGroup user.groupName true
      UserDAO.deleteUser username

end Idea.Accounts

import Idea.Accounts.Usernames
import Idea.Data.Dict
import Idea.System.Services

/-! # The stores of the accounts

Users and groups are items of two tables, a third one has the members of the groups, and the user
pool has entries of its own. Changes are passed on to the directory by tasks in a queue.
-/

namespace Idea.Accounts

structure UserFields where
  email : String
  uid : ℤ
  gid : ℤ
  groupName : String
  additionalGroups : List String
  loginShell : String
  homeDir : String
  sudoUser : Bool
  enabled : Bool
  deriving DecidableEq

structure User extends UserFields where
  username : Username
  deriving DecidableEq

structure UserUpdates where
  email : Option String := none
  uid : Option ℤ := none
  gid : Option ℤ := none
  additionalGroups : Option (List String) := none
  loginShell : Option String := none
  sudoUser : Option Bool := none
  enabled : Option Bool := none
  deriving DecidableEq

def UserFields.update (self : UserFields) (updates : UserUpdates) : UserFields where
  email := updates.email.getD self.email
  uid := updates.uid.getD self.uid
  gid := updates.gid.getD self.gid
  groupName := self.groupName
  additionalGroups := updates.additionalGroups.getD self.additionalGroups
  loginShell := updates.loginShell.getD self.loginShell
  homeDir := self.homeDir
  sudoUser := updates.sudoUser.getD self.sudoUser
  enabled := updates.enabled.getD self.enabled

inductive GroupType where
  | user
  | project
  | module
  | cluster
  deriving DecidableEq

def GroupType.text : GroupType → String
  | user => "user"
  | project => "project"
  | module => "module"
  | cluster => "cluster"

structure Group where
  title : String
  gid : ℤ
  groupType : GroupType
  ref : Option String
  enabled : Bool
  deriving DecidableEq

def Group.pooled (self : Group) : Bool :=
  self.groupType ≠ GroupType.user ∧ self.groupType ≠ GroupType.project

inductive MembershipOperation where
  | add
  | remove
  deriving DecidableEq

inductive Task where
  | syncUser (username : String)
  | syncGroup (groupName : String)
  | groupMembershipUpdated (groupName username : String) (operation : MembershipOperation)
  | createHomeDirectory (username : String)
  | syncPassword (username passwordFile : String)
  deriving DecidableEq

structure PasswordPolicy where
  minimumLength : ℕ
  requireNumbers : Bool
  requireUppercase : Bool
  requireLowercase : Bool
  requireSymbols : Bool
  deriving DecidableEq

structure PoolUser where
  enabled : Bool
  groups : List String
  deriving DecidableEq

structure UserPool where
  users : Dict String PoolUser
  groups : List String
  policy : PasswordPolicy
  acceptsPassword : String → Bool

structure Store where
  users : Dict Username UserFields
  groups : Dict String Group
  members : Dict (String × Username) Unit
  pool : UserPool
  tasks : List Task

inductive Op where
  | getUser (username : Username)
  | putUser (user : User)
  | updateUser (username : Username) (updates : UserUpdates)
  | deleteUser (username : Username)
  | getGroup (groupName : String)
  | putGroup (groupName : String) (group : Group)
  | setGroupEnabled (groupName : String) (enabled : Bool)
  | deleteGroup (groupName : String)
  | putMember (groupName : String) (username : Username)
  | deleteMember (groupName : String) (username : Username)
  | hasMembers (groupName : String)
  | queryMembers (groupName : String)
  | adminCreateUser (username email : String)
  | adminSetUserPassword (username password : String)
  | adminUpdateUserAttributes (username : String)
  | adminLinkProviderForUser (username email : String)
  | adminAddUserToGroup (username groupName : String)
  | adminRemoveUserFromGroup (username groupName : String)
  | adminDisableUser (username : String)
  | adminDeleteUser (username : String)
  | describeUserPool
  | nextUid
  | nextGid
  | generatePassword
  | savePassword (password : String)
  | isExistingUser (username : String)
  | sendMessage (task : Task)
  | publishUserDisabledEvent (username : String)
  deriving DecidableEq

@[reducible] def Result : Op → Type
  | .getUser _ => Option User
  | .updateUser _ _ => User
  | .getGroup _ => Option Group
  | .hasMembers _ | .isExistingUser _ => Bool
  | .queryMembers _ => List Username
  | .describeUserPool => PasswordPolicy
  | .nextUid | .nextGid => ℤ
  | .generatePassword | .savePassword _ => String
  | _ => Unit

def conditionalCheckFailed : Raised :=
  .clientError "ConditionalCheckFailedException" "The conditional request failed"

def USER_NOT_FOUND : String := "UserNotFoundException"

namespace Store

def user? (self : Store) (username : Username) : Option User :=
  (self.users.get? username).map fun fields => ⟨fields, username⟩

def membersOf (self : Store) (groupName : String) : List Username :=
  (self.members.keys.filter fun key => key.1 = groupName).map Prod.snd

def poolUser? (self : Store) (username : String) : Option PoolUser :=
  self.pool.users.get? (lower username)

def setPoolUser (self : Store) (username : String) (entry : PoolUser) : Store :=
  { self with pool := { self.pool with users := self.pool.users.set (lower username) entry } }

def inPoolGroup (self : Store) (username groupName : String) : Prop :=
  ∃ entry, self.poolUser? username = some entry ∧ groupName ∈ entry.groups

end Store

def answered {α : Type} (value : α) (s : Store) (a : Except Raised α) (s' : Store) : Prop :=
  a = .ok value ∧ s' = s

def writes (condition : Prop) (written s : Store) (a : Except Raised Unit) (s' : Store) : Prop :=
  condition ∧ a = .ok () ∧ s' = written ∨
    ¬ condition ∧ a = .error conditionalCheckFailed ∧ s' = s

def requests (username : String) (condition : Prop) (code : String)
    (change : PoolUser → PoolUser) (s : Store) (a : Except Raised Unit) (s' : Store) : Prop :=
  match s.poolUser? username with
  | none => (∃ text, a = .error (.clientError USER_NOT_FOUND text)) ∧ s' = s
  | some entry =>
    condition ∧ a = .ok () ∧ s' = s.setPoolUser username (change entry) ∨
      ¬ condition ∧ (∃ text, a = .error (.clientError code text)) ∧ s' = s

def PoolUser.join (groupName : String) (self : PoolUser) : PoolUser :=
  { self with groups := self.groups.insert groupName }

def PoolUser.leave (groupName : String) (self : PoolUser) : PoolUser :=
  { self with groups := self.groups.filter (· ≠ groupName) }

/-- What a call does when nothing fails on its way. Numbers, passwords and names of files are given
out, and the directory is asked, without a say in what is answered. -/
def serves : (op : Op) → Store → Except Raised (Result op) → Store → Prop
  | .getUser username, s, a, s' => answered (s.user? username) s a s'
  | .putUser user, s, a, s' =>
    writes (user.username ∉ s.users.keys)
      { s with users := s.users.set user.username user.toUserFields } s a s'
  | .updateUser username updates, s, a, s' =>
    match s.users.get? username with
    | some fields =>
      a = .ok ⟨fields.update updates, username⟩ ∧
        s' = { s with users := s.users.set username (fields.update updates) }
    | none => a = .error conditionalCheckFailed ∧ s' = s
  | .deleteUser username, s, a, s' =>
    a = .ok () ∧ s' = { s with users := s.users.erase username }
  | .getGroup groupName, s, a, s' => answered (s.groups.get? groupName) s a s'
  | .putGroup groupName group, s, a, s' =>
    writes (groupName ∉ s.groups.keys) { s with groups := s.groups.set groupName group } s a s'
  | .setGroupEnabled groupName enabled, s, a, s' =>
    match s.groups.get? groupName with
    | some group =>
      a = .ok () ∧ s' = { s with groups := s.groups.set groupName { group with enabled } }
    | none => a = .error conditionalCheckFailed ∧ s' = s
  | .deleteGroup groupName, s, a, s' =>
    a = .ok () ∧ s' = { s with groups := s.groups.erase groupName }
  | .putMember groupName username, s, a, s' =>
    a = .ok () ∧ s' = { s with members := s.members.set (groupName, username) () }
  | .deleteMember groupName username, s, a, s' =>
    a = .ok () ∧ s' = { s with members := s.members.erase (groupName, username) }
  | .hasMembers groupName, s, a, s' => answered (!(s.membersOf groupName).isEmpty) s a s'
  | .queryMembers groupName, s, a, s' =>
    (∃ usernames, usernames.Perm (s.membersOf groupName) ∧ a = .ok usernames) ∧ s' = s
  | .adminCreateUser username _, s, a, s' =>
    s.poolUser? username = none ∧ a = .ok () ∧ s' = s.setPoolUser username ⟨true, []⟩ ∨
      s.poolUser? username ≠ none ∧
        (∃ text, a = .error (.clientError "UsernameExistsException" text)) ∧ s' = s
  | .adminSetUserPassword username password, s, a, s' =>
    requests username (s.pool.acceptsPassword password = true) "InvalidPasswordException" id s a s'
  | .adminUpdateUserAttributes username, s, a, s' => requests username True "" id s a s'
  | .adminLinkProviderForUser username _, s, a, s' => requests username True "" id s a s'
  | .adminAddUserToGroup username groupName, s, a, s' =>
    requests username (groupName ∈ s.pool.groups) "ResourceNotFoundException"
      (.join groupName) s a s'
  | .adminRemoveUserFromGroup username groupName, s, a, s' =>
    requests username (groupName ∈ s.pool.groups) "ResourceNotFoundException"
      (.leave groupName) s a s'
  | .adminDisableUser username, s, a, s' =>
    requests username True "" (fun entry => { entry with enabled := false }) s a s'
  | .adminDeleteUser username, s, a, s' =>
    match s.poolUser? username with
    | some _ => a = .ok () ∧
        s' = { s with pool := { s.pool with users := s.pool.users.erase (lower username) } }
    | none => (∃ text, a = .error (.clientError USER_NOT_FOUND text)) ∧ s' = s
  | .describeUserPool, s, a, s' => answered s.pool.policy s a s'
  | .nextUid, s, a, s' => (∃ uid, a = .ok uid) ∧ s' = s
  | .nextGid, s, a, s' => (∃ gid, a = .ok gid) ∧ s' = s
  | .generatePassword, s, a, s' => (∃ password, a = .ok password) ∧ s' = s
  | .savePassword _, s, a, s' => (∃ file, a = .ok file) ∧ s' = s
  | .isExistingUser _, s, a, s' => (∃ existing, a = .ok existing) ∧ s' = s
  | .sendMessage task, s, a, s' => a = .ok () ∧ s' = { s with tasks := s.tasks ++ [task] }
  | .publishUserDisabledEvent _, s, a, s' => answered () s a s'

/-- A call that fails does not raise an exception of the application, and does not tell that there is
no such user. -/
def fails (e : Raised) : Prop :=
  (∀ code message, e ≠ .soca code message) ∧ ∀ text, e ≠ .clientError USER_NOT_FOUND text

abbrev Recorded : Type := Program.Recorded Op Raised Store

abbrev effect : (op : Op) → Recorded → Except Raised (Result op) → Recorded → Prop :=
  Program.record serves fails

def reject {α : Type} (code : String) (s : Store) : Except Raised α × Store :=
  (.error (.clientError code ""), s)

def replyOnUser (username : String) (condition : Bool) (code : String)
    (change : PoolUser → PoolUser) (s : Store) : Except Raised Unit × Store :=
  match s.poolUser? username with
  | none => reject USER_NOT_FOUND s
  | some entry =>
    if condition then (.ok (), s.setPoolUser username (change entry)) else reject code s

def reply : (op : Op) → Store → Except Raised (Result op) × Store
  | .getUser username, s => (.ok (s.user? username), s)
  | .putUser user, s =>
    if user.username ∈ s.users.keys then (.error conditionalCheckFailed, s)
    else (.ok (), { s with users := s.users.set user.username user.toUserFields })
  | .updateUser username updates, s =>
    match s.users.get? username with
    | some fields => (.ok ⟨fields.update updates, username⟩,
        { s with users := s.users.set username (fields.update updates) })
    | none => (.error conditionalCheckFailed, s)
  | .deleteUser username, s => (.ok (), { s with users := s.users.erase username })
  | .getGroup groupName, s => (.ok (s.groups.get? groupName), s)
  | .putGroup groupName group, s =>
    if groupName ∈ s.groups.keys then (.error conditionalCheckFailed, s)
    else (.ok (), { s with groups := s.groups.set groupName group })
  | .setGroupEnabled groupName enabled, s =>
    match s.groups.get? groupName with
    | some group =>
      (.ok (), { s with groups := s.groups.set groupName { group with enabled } })
    | none => (.error conditionalCheckFailed, s)
  | .deleteGroup groupName, s => (.ok (), { s with groups := s.groups.erase groupName })
  | .putMember groupName username, s =>
    (.ok (), { s with members := s.members.set (groupName, username) () })
  | .deleteMember groupName username, s =>
    (.ok (), { s with members := s.members.erase (groupName, username) })
  | .hasMembers groupName, s => (.ok (!(s.membersOf groupName).isEmpty), s)
  | .queryMembers groupName, s => (.ok (s.membersOf groupName), s)
  | .adminCreateUser username _, s =>
    match s.poolUser? username with
    | none => (.ok (), s.setPoolUser username ⟨true, []⟩)
    | some _ => reject "UsernameExistsException" s
  | .adminSetUserPassword username password, s =>
    replyOnUser username (s.pool.acceptsPassword password) "InvalidPasswordException" id s
  | .adminUpdateUserAttributes username, s => replyOnUser username true "" id s
  | .adminLinkProviderForUser username _, s => replyOnUser username true "" id s
  | .adminAddUserToGroup username groupName, s =>
    replyOnUser username (groupName ∈ s.pool.groups) "ResourceNotFoundException"
      (.join groupName) s
  | .adminRemoveUserFromGroup username groupName, s =>
    replyOnUser username (groupName ∈ s.pool.groups) "ResourceNotFoundException"
      (.leave groupName) s
  | .adminDisableUser username, s =>
    replyOnUser username true "" (fun entry => { entry with enabled := false }) s
  | .adminDeleteUser username, s =>
    match s.poolUser? username with
    | some _ => (.ok (),
        { s with pool := { s.pool with users := s.pool.users.erase (lower username) } })
    | none => reject USER_NOT_FOUND s
  | .describeUserPool, s => (.ok s.pool.policy, s)
  | .nextUid, s => (.ok 5000, s)
  | .nextGid, s => (.ok 5000, s)
  | .generatePassword, s => (.ok "", s)
  | .savePassword _, s => (.ok "", s)
  | .isExistingUser _, s => (.ok true, s)
  | .sendMessage task, s => (.ok (), { s with tasks := s.tasks ++ [task] })
  | .publishUserDisabledEvent _, s => (.ok (), s)

theorem requests_replyOnUser (username : String) (condition : Bool) (code : String)
    (change : PoolUser → PoolUser) (s : Store) :
    requests username (condition = true) code change s (replyOnUser username condition code change s).1
      (replyOnUser username condition code change s).2 := by
  unfold requests replyOnUser
  cases s.poolUser? username with
  | none => exact ⟨⟨"", rfl⟩, rfl⟩
  | some entry =>
    cases condition with
    | true => exact .inl ⟨rfl, rfl, rfl⟩
    | false => exact .inr ⟨Bool.false_ne_true, ⟨"", rfl⟩, rfl⟩

theorem serves_reply (op : Op) (s : Store) : serves op s (reply op s).1 (reply op s).2 := by
  cases op with
  | putUser user =>
    simp only [serves, reply, writes]
    split
    · next h => exact .inr ⟨not_not_intro h, rfl, rfl⟩
    · next h => exact .inl ⟨h, rfl, rfl⟩
  | putGroup groupName group =>
    simp only [serves, reply, writes]
    split
    · next h => exact .inr ⟨not_not_intro h, rfl, rfl⟩
    · next h => exact .inl ⟨h, rfl, rfl⟩
  | updateUser username updates =>
    simp only [serves, reply]
    cases s.users.get? username <;> exact ⟨rfl, rfl⟩
  | setGroupEnabled groupName enabled =>
    simp only [serves, reply]
    cases s.groups.get? groupName <;> exact ⟨rfl, rfl⟩
  | queryMembers groupName => exact ⟨⟨_, List.Perm.refl _, rfl⟩, rfl⟩
  | adminCreateUser username email =>
    simp only [serves, reply]
    cases h : s.poolUser? username with
    | none => exact .inl ⟨rfl, rfl, rfl⟩
    | some entry => exact .inr ⟨Option.some_ne_none entry, ⟨"", rfl⟩, rfl⟩
  | adminDeleteUser username =>
    simp only [serves, reply]
    cases s.poolUser? username with
    | none => exact ⟨⟨"", rfl⟩, rfl⟩
    | some entry => exact ⟨rfl, rfl⟩
  | adminSetUserPassword username password => exact requests_replyOnUser ..
  | adminAddUserToGroup username groupName =>
    simpa [serves, reply] using requests_replyOnUser username (groupName ∈ s.pool.groups)
      "ResourceNotFoundException" (.join groupName) s
  | adminRemoveUserFromGroup username groupName =>
    simpa [serves, reply] using requests_replyOnUser username (groupName ∈ s.pool.groups)
      "ResourceNotFoundException" (.leave groupName) s
  | adminUpdateUserAttributes username =>
    simpa [serves, reply] using requests_replyOnUser username true "" id s
  | adminLinkProviderForUser username email =>
    simpa [serves, reply] using requests_replyOnUser username true "" id s
  | adminDisableUser username =>
    simpa [serves, reply] using
      requests_replyOnUser username true "" (fun entry => { entry with enabled := false }) s
  | nextUid | nextGid | generatePassword | savePassword _ | isExistingUser _ =>
    exact ⟨⟨_, rfl⟩, rfl⟩
  | _ => exact ⟨rfl, rfl⟩

def replyWith (fates : ℕ → CallOutcome Raised) (op : Op) (s : Recorded) :
    Except Raised (Result op) × Recorded :=
  match fates s.log.length with
  | .done => ((reply op s.store).1, ⟨(reply op s.store).2, s.log ++ [(op, .done)]⟩)
  | .refused e => (.error e, ⟨s.store, s.log ++ [(op, .refused e)]⟩)
  | .lost e => (.error e, ⟨(reply op s.store).2, s.log ++ [(op, .lost e)]⟩)

theorem effect_replyWith {fates : ℕ → CallOutcome Raised} {lapses : Raised → Prop}
    (h : ∀ n, Program.Possible lapses (fates n)) (op : Op) (s : Recorded) :
    Program.record serves lapses op s (replyWith fates op s).1 (replyWith fates op s).2 := by
  refine ⟨fates s.log.length, h _, ?_⟩
  unfold replyWith
  cases fates s.log.length with
  | done => exact ⟨serves_reply op s.store, rfl⟩
  | refused e => exact ⟨⟨rfl, rfl⟩, rfl⟩
  | lost e => exact ⟨⟨rfl, _, serves_reply op s.store⟩, rfl⟩

end Idea.Accounts

import Mathlib.Data.Finset.Basic
import Idea.Accounts.AccountsService
import Idea.Data.Document
import Idea.System.FifoQueue

/-! # Tasks for the directory

A change of the members of a group is told to the directory by a task. Its message goes into a queue,
and is deleted there when the task has run. A task that raises an exception is run again, and given
up in the end.
-/

namespace Idea.Accounts

def MembershipOperation.text : MembershipOperation → String
  | add => "add"
  | remove => "remove"

/-- The payload of a task `accounts.group-membership-updated`. -/
structure MembershipPayload where
  groupName : String
  username : String
  operation : MembershipOperation
  deriving DecidableEq

def Task.membershipPayload? : Task → Option MembershipPayload
  | .groupMembershipUpdated groupName username operation => some ⟨groupName, username, operation⟩
  | _ => none

open Json in
def jsonString (text : String) : List Char := spell (Token.string text.toList).glyphs

open Json in
def jsonObject (members : List (String × List Char)) : List Char :=
  Mark.beginObject.char :: ([Mark.comma.char].intercalate (members.map fun member =>
    jsonString member.1 ++ Mark.colon.char :: member.2) ++ [Mark.endObject.char])

/-- `Utils.to_json(task_message)` -/
def MembershipPayload.taskMessage (self : MembershipPayload) : String :=
  String.ofList (jsonObject [("name", jsonString "accounts.group-membership-updated"),
    ("payload", jsonObject [("group_name", jsonString self.groupName),
      ("username", jsonString self.username), ("operation", jsonString self.operation.text)])])

namespace TaskManager

abbrev Queue : Type := FifoQueue String MembershipPayload

def rules (renews : Bool) : Deduplication := ⟨300000, renews⟩

def messageDedupeId (sha256 : String → String) (payload : MembershipPayload) : String :=
  sha256 payload.taskMessage

def send (sha256 : String → String) (renews : Bool) (now : ℕ) (queue : Queue)
    (payload : MembershipPayload) : Queue :=
  queue.send (rules renews) (messageDedupeId sha256 payload) payload now

end TaskManager

inductive LdapError where
  | NO_SUCH_OBJECT
  | NO_SUCH_ATTRIBUTE
  | TYPE_OR_VALUE_EXISTS
  | ALREADY_EXISTS
  deriving DecidableEq

inductive Modification where
  | MOD_ADD (member : String)
  | MOD_DELETE (member : String)

structure DirectoryService where
  readonly : Bool
  groups : Dict String (Finset String)

namespace DirectoryService

def modified : List Modification → Finset String → Except LdapError (Finset String)
  | [], members => .ok members
  | .MOD_ADD member :: modlist, members =>
    if member ∈ members then .error .TYPE_OR_VALUE_EXISTS else modified modlist (insert member members)
  | .MOD_DELETE member :: modlist, members =>
    if member ∈ members then modified modlist (members.erase member) else .error .NO_SUCH_ATTRIBUTE

def modifyS (self : DirectoryService) (groupName : String) (modlist : List Modification) :
    Except LdapError DirectoryService :=
  match self.groups.get? groupName with
  | none => .error .NO_SUCH_OBJECT
  | some members => (modified modlist members).map fun members =>
    { self with groups := self.groups.set groupName members }

def addUserToGroup (self : DirectoryService) (usernames : List String) (groupName : String) :
    Except LdapError DirectoryService :=
  match self.modifyS groupName (usernames.map .MOD_ADD) with
  | .error .TYPE_OR_VALUE_EXISTS => .ok self
  | outcome => outcome

def removeUserFromGroup (self : DirectoryService) (usernames : List String) (groupName : String) :
    Except LdapError DirectoryService :=
  self.modifyS groupName (usernames.map .MOD_DELETE)

def isMember (self : DirectoryService) (groupName username : String) : Bool :=
  (self.groups.get? groupName).any (username ∈ ·)

end DirectoryService

structure UserProjects where
  projectGroups : List (String × String)
  userProjects : Dict (String × String) Unit

namespace UserProjects

def getProjectsByGroupName (self : UserProjects) (groupName : String) : List String :=
  (self.projectGroups.filter fun row => row.1 = groupName).map Prod.snd

def createUserProject (username projectId : String) (self : UserProjects) : UserProjects :=
  { self with userProjects := self.userProjects.set (projectId, username) () }

def deleteUserProject (username projectId : String) (self : UserProjects) : UserProjects :=
  { self with userProjects := self.userProjects.erase (projectId, username) }

def forEachProject (change : String → UserProjects → UserProjects) :
    List String → UserProjects → Except Raised Unit × UserProjects
  | [], self => (.ok (), self)
  | projectId :: projectIds, self =>
    if isEmptyString (some projectId) then (.error (invalidParams "project_id is required"), self)
    else forEachProject change projectIds (change projectId self)

def groupMemberAdded (groupName username : String) (self : UserProjects) :
    Except Raised Unit × UserProjects :=
  if isEmptyString (some groupName) then (.error (invalidParams "group_name is required"), self)
  else if isEmptyString (some username) then (.error (invalidParams "username is required"), self)
  else forEachProject (createUserProject username) (self.getProjectsByGroupName groupName) self

def groupMemberRemoved (groupName username : String) (self : UserProjects) :
    Except Raised Unit × UserProjects :=
  if isEmptyString (some groupName) then (.error (invalidParams "group_name is required"), self)
  else if isEmptyString (some username) then (.error (invalidParams "username is required"), self)
  else forEachProject (deleteUserProject username) (self.getProjectsByGroupName groupName) self

end UserProjects

inductive TaskFailure where
  | raised (e : Raised)
  | ldap (e : LdapError)

structure World where
  store : Store
  directory : DirectoryService
  projects : UserProjects

namespace GroupMembershipUpdatedTask

def updateDirectory (payload : MembershipPayload) (directory : DirectoryService) :
    Except LdapError DirectoryService :=
  match payload.operation with
  | .add =>
    if directory.readonly then .ok directory
    else directory.addUserToGroup [payload.username] payload.groupName
  | .remove =>
    if directory.readonly then .ok directory
    else directory.removeUserFromGroup [payload.username] payload.groupName

def updateProjects (payload : MembershipPayload) (projects : UserProjects) :
    Except Raised Unit × UserProjects :=
  match payload.operation with
  | .add => projects.groupMemberAdded payload.groupName payload.username
  | .remove => projects.groupMemberRemoved payload.groupName payload.username

def update (payload : MembershipPayload) (world : World) : Except TaskFailure Unit × World :=
  match updateDirectory payload world.directory with
  | .error e => (.error (.ldap e), world)
  | .ok directory =>
    ((updateProjects payload world.projects).1.mapError .raised,
      { world with directory, projects := (updateProjects payload world.projects).2 })

def invoke (payload : MembershipPayload) (world : World) : Except TaskFailure Unit × World :=
  if isEmptyString (some payload.groupName) then
    (.error (.raised (invalidParams "group_name is required")), world)
  else
    match world.store.groups.get? payload.groupName with
    | none =>
      (.error (.raised (.soca AUTH_GROUP_NOT_FOUND ("group not found: " ++ payload.groupName))), world)
    | some group => if group.enabled then update payload world else (.ok (), world)

end GroupMembershipUpdatedTask

def TaskManager.executeTask (payload : MembershipPayload) (world : World) : Bool × World :=
  match GroupMembershipUpdatedTask.invoke payload world with
  | (.ok _, world) => (true, world)
  | (.error (.ldap .ALREADY_EXISTS), world) => (true, world)
  | (.error _, world) => (false, world)

section Task

variable {payload : MembershipPayload} {directory directory' : DirectoryService}

theorem DirectoryService.isMember_set (readonly : Bool) (groups : Dict String (Finset String))
    (groupName username : String) (members : Finset String) :
    isMember ⟨readonly, groups.set groupName members⟩ groupName username =
      decide (username ∈ members) := by
  simp [isMember, Dict.get?_set]

namespace GroupMembershipUpdatedTask

/-- The directory has the user after the task if and only if it is one that adds the user. This is
so as well when the directory turns the change down. -/
theorem updateDirectory_cases (hwritable : directory.readonly = false)
    (hentry : payload.groupName ∈ directory.groups.keys) :
    (∃ e, updateDirectory payload directory = .error e ∧
      directory.isMember payload.groupName payload.username = decide (payload.operation = .add)) ∨
    ∃ directory', updateDirectory payload directory = .ok directory' ∧
      directory'.readonly = false ∧ payload.groupName ∈ directory'.groups.keys ∧
      directory'.isMember payload.groupName payload.username = decide (payload.operation = .add) := by
  obtain ⟨members, hmembers⟩ := Dict.exists_get?_of_mem_keys hentry
  have hmember : directory.isMember payload.groupName payload.username =
      decide (payload.username ∈ members) := by simp [DirectoryService.isMember, hmembers]
  cases hoperation : payload.operation with
  | add =>
    right
    by_cases hmem : payload.username ∈ members
    · refine ⟨directory, ?_, hwritable, hentry, by simp [hmember, hmem]⟩
      simp [updateDirectory, hoperation, hwritable, DirectoryService.addUserToGroup,
        DirectoryService.modifyS, hmembers, DirectoryService.modified, hmem, Except.map]
    · refine ⟨⟨directory.readonly,
        directory.groups.set payload.groupName (insert payload.username members)⟩, ?_, hwritable,
        by simp, by simp [DirectoryService.isMember_set]⟩
      simp [updateDirectory, hoperation, hwritable, DirectoryService.addUserToGroup,
        DirectoryService.modifyS, hmembers, DirectoryService.modified, hmem, Except.map]
  | remove =>
    by_cases hmem : payload.username ∈ members
    · refine .inr ⟨⟨directory.readonly,
        directory.groups.set payload.groupName (members.erase payload.username)⟩, ?_, hwritable,
        by simp, by simp [DirectoryService.isMember_set]⟩
      simp [updateDirectory, hoperation, hwritable, DirectoryService.removeUserFromGroup,
        DirectoryService.modifyS, hmembers, DirectoryService.modified, hmem, Except.map]
    · refine .inl ⟨.NO_SUCH_ATTRIBUTE, ?_, by simp [hmember, hmem]⟩
      simp [updateDirectory, hoperation, hwritable, DirectoryService.removeUserFromGroup,
        DirectoryService.modifyS, hmembers, DirectoryService.modified, hmem, Except.map]

theorem updateDirectory_of_readonly (hreadonly : directory.readonly = true) :
    updateDirectory payload directory = .ok directory := by
  unfold updateDirectory
  cases payload.operation <;> simp [hreadonly]

end GroupMembershipUpdatedTask

/-- A world in which a group is enabled. A directory that is written has an entry for it. -/
structure World.Has (world : World) (groupName : String) : Prop where
  name : isEmptyString (some groupName) = false
  group : ∃ group, world.store.groups.get? groupName = some group ∧ group.enabled = true
  entry : world.directory.readonly = false → groupName ∈ world.directory.groups.keys

def World.after (world : World) (payload : MembershipPayload) : Bool :=
  if world.directory.readonly then
    world.directory.isMember payload.groupName payload.username
  else decide (payload.operation = .add)

/-- A world after a task, which leaves the tables of the accounts as they are. -/
structure World.Told (payload : MembershipPayload) (world world' : World) : Prop where
  store : world'.store = world.store
  readonly : world'.directory.readonly = world.directory.readonly
  entry : world'.directory.readonly = false → payload.groupName ∈ world'.directory.groups.keys
  member : world'.directory.isMember payload.groupName payload.username = world.after payload

theorem World.told_update {world : World} (h : world.Has payload.groupName) :
    world.Told payload (GroupMembershipUpdatedTask.update payload world).2 := by
  unfold GroupMembershipUpdatedTask.update
  cases hreadonly : world.directory.readonly with
  | true =>
    rw [GroupMembershipUpdatedTask.updateDirectory_of_readonly hreadonly]
    exact ⟨rfl, rfl, h.entry, by simp [after, hreadonly]⟩
  | false =>
    have hafter : world.after payload = decide (payload.operation = .add) := by
      simp [after, hreadonly]
    rcases GroupMembershipUpdatedTask.updateDirectory_cases hreadonly (h.entry hreadonly) with
      ⟨e, he, hmember⟩ | ⟨directory', hok, hwritable, hentry, hmember⟩
    · rw [he]
      exact ⟨rfl, rfl, h.entry, hmember.trans hafter.symm⟩
    · rw [hok]
      exact ⟨rfl, hwritable.trans hreadonly.symm, fun _ => hentry, hmember.trans hafter.symm⟩

namespace TaskManager

theorem executeTask_snd (payload : MembershipPayload) (world : World) :
    (executeTask payload world).2 = (GroupMembershipUpdatedTask.invoke payload world).2 := by
  unfold executeTask
  split <;> simp [*]

theorem told_executeTask {world : World} (h : world.Has payload.groupName) :
    world.Told payload (executeTask payload world).2 := by
  obtain ⟨group, hgroup, henabled⟩ := h.group
  have hinvoke : GroupMembershipUpdatedTask.invoke payload world =
      GroupMembershipUpdatedTask.update payload world := by
    simp [GroupMembershipUpdatedTask.invoke, h.name, hgroup, henabled]
  rw [executeTask_snd, hinvoke]
  exact World.told_update h

end TaskManager

end Task

end Idea.Accounts

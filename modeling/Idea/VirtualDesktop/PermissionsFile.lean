import Idea.Data.Dict
import Mathlib.Data.List.Dedup

/-! # Permissions files of desktop sessions

A permissions file tells the server of a desktop session what its users may do. It defines an
alias for what a permission profile allows and one for what it denies, and has a line for each
user that names an alias. Profiles that allow or deny nothing have no alias for it.
-/

namespace Idea.VirtualDesktop

inductive VirtualDesktopBaseOS where
  | amazonLinux2 | amazonLinux2023 | rhel8 | rhel9 | rocky8 | rocky9 | ubuntu2204 | ubuntu2404
  | windows | windows2019 | windows2022 | windows2025
  deriving DecidableEq

/-- The name of the system has `windows` in it. -/
def VirtualDesktopBaseOS.isWindows : VirtualDesktopBaseOS → Bool
  | windows | windows2019 | windows2022 | windows2025 => true
  | _ => false

structure VirtualDesktopPermission where
  key : String
  enabled : Bool
  deriving DecidableEq

structure VirtualDesktopPermissionProfile where
  permissions : List VirtualDesktopPermission
  deriving DecidableEq

def VirtualDesktopPermissionProfile.getPermission (self : VirtualDesktopPermissionProfile)
    (permissionKey : String) : Option VirtualDesktopPermission :=
  self.permissions.find? (·.key = permissionKey)

/-- A user with whom a session is shared, and the profile for that. -/
structure VirtualDesktopSessionPermission where
  actorName : String
  profileId : String
  deriving DecidableEq

/-- What the files of a cluster depend on: the stored profiles and the keys of all permissions,
the settings, and the order in which the members of a set are visited. -/
structure PermissionContext where
  permissionTypes : List String
  profiles : String → Option VirtualDesktopPermissionProfile
  administratorUsername : String
  adminGroup : String
  adminProfile : String
  ownerProfile : String
  visit : List String → List String
  visit_perm : ∀ ids, (visit ids).Perm ids.dedup

inductive PermissionKind where
  | allow | deny
  deriving DecidableEq

def PermissionKind.text : PermissionKind → String
  | allow => "allow"
  | deny => "deny"

def aliasName (profileId : String) (kind : PermissionKind) : String :=
  profileId ++ "-" ++ kind.text

inductive Actor where
  | user (name : String)
  | adminGroup
  | owner
  deriving DecidableEq

def Actor.text : Actor → String
  | user name => name
  | adminGroup => "group:ideaadmin"
  | owner => "%owner%"

structure AliasLine where
  name : String
  permissions : List String
  deriving DecidableEq

structure PermissionLine where
  actor : Actor
  kind : PermissionKind
  aliasName : String
  deriving DecidableEq

structure PermissionsFile where
  groups : String
  aliases : List AliasLine
  permissions : List PermissionLine
  newLine : String
  deriving DecidableEq

def AliasLine.text (line : AliasLine) : String :=
  line.name ++ "=" ++ ", ".intercalate line.permissions

def PermissionLine.text (line : PermissionLine) : String :=
  line.actor.text ++ " " ++ line.kind.text ++ " " ++ line.aliasName

def PermissionsFile.text (file : PermissionsFile) : String :=
  let lines := ["[groups]", file.groups, "[aliases]"] ++ file.aliases.map AliasLine.text ++
    ["[permissions]"] ++ file.permissions.map PermissionLine.text
  String.join (lines.map (· ++ file.newLine))

structure ProfileValues where
  allow : List String
  deny : List String
  deriving DecidableEq

def ProfileValues.of (self : ProfileValues) : PermissionKind → List String
  | .allow => self.allow
  | .deny => self.deny

def dashes (key : String) : String :=
  String.ofList (key.toList.map fun c => if c = '_' then '-' else c)

def addPermission (profile : VirtualDesktopPermissionProfile) (values : ProfileValues)
    (key : String) : Option ProfileValues := do
  let entry ← profile.getPermission key
  if entry.enabled then some { values with allow := values.allow ++ [dashes key] }
  else if entry.key.toList.map Char.toLower = "builtin".toList then some values
  else some { values with deny := values.deny ++ [dashes key] }

def retrievePermissionProfileValues (ctx : PermissionContext) (profileId : String) :
    Option ProfileValues := do
  let profile ← ctx.profiles profileId
  if ((profile.getPermission "builtin").map (·.enabled)).getD false then
    some { allow := ["builtin"], deny := [] }
  else ctx.permissionTypes.foldlM (addPermission profile) { allow := [], deny := [] }

def profileIds (ctx : PermissionContext)
    (sessionPermissions : List VirtualDesktopSessionPermission) : List String :=
  ctx.adminProfile :: ctx.ownerProfile :: sessionPermissions.map (·.profileId)

def profileCache (ctx : PermissionContext)
    (sessionPermissions : List VirtualDesktopSessionPermission) :
    Option (List (String × ProfileValues)) :=
  (ctx.visit (profileIds ctx sessionPermissions)).mapM fun profileId =>
    (retrievePermissionProfileValues ctx profileId).map (profileId, ·)

def aliasLines (profileId : String) (values : ProfileValues) : List AliasLine :=
  (if values.allow ≠ [] then [⟨aliasName profileId .allow, values.allow⟩] else []) ++
    (if values.deny ≠ [] then [⟨aliasName profileId .deny, values.deny⟩] else [])

def permissionLine (actor : Actor) (kind : PermissionKind) (profileId : String)
    (values : ProfileValues) : List PermissionLine :=
  if values.of kind ≠ [] then [⟨actor, kind, aliasName profileId kind⟩] else []

def guestLines (cache : String → Option ProfileValues) (adminProfile : String)
    (sessionPermission : VirtualDesktopSessionPermission) : Option (List PermissionLine) := do
  let actor := Actor.user sessionPermission.actorName
  let profileId := sessionPermission.profileId
  let own ← cache profileId
  -- whether something is denied is looked up in the profile of the administrators
  let admin ← cache adminProfile
  some (permissionLine actor .allow profileId own ++ permissionLine actor .deny profileId admin)

def actorLines (actor : Actor) (cache : String → Option ProfileValues) (profileId : String) :
    Option (List PermissionLine) := do
  let values ← cache profileId
  some (permissionLine actor .allow profileId values ++ permissionLine actor .deny profileId values)

def LINUX_CMD_NEW_LINE : String := "\n"

def WINDOWS_POWERSHELL_NEW_LINE : String :=
  String.ofList [Char.ofNat 96, 'r', Char.ofNat 96, 'n']

def generatePermissionsForSession (ctx : PermissionContext) (baseOs : VirtualDesktopBaseOS)
    (sessionPermissions : List VirtualDesktopSessionPermission) (forBroker : Bool) :
    Option PermissionsFile := do
  let isWindows := baseOs.isWindows
  let adminUsername := if isWindows then "Administrator" else ctx.administratorUsername
  let entries ← profileCache ctx sessionPermissions
  let cache := fun profileId => List.lookup profileId entries
  let guests ← sessionPermissions.mapM (guestLines cache ctx.adminProfile)
  let admin ← actorLines .adminGroup cache ctx.adminProfile
  let owner ← actorLines .owner cache ctx.ownerProfile
  some
    { groups :=
        if isWindows then "group:ideaadmin=user:" ++ adminUsername
        else "group:ideaadmin=user:" ++ adminUsername ++ ", osgroup:" ++ ctx.adminGroup
      aliases := entries.flatMap fun p => aliasLines p.1 p.2
      permissions := guests.flatten ++ (admin ++ owner)
      newLine :=
        if forBroker || !isWindows then LINUX_CMD_NEW_LINE else WINDOWS_POWERSHELL_NEW_LINE }

variable {ctx : PermissionContext} {sessionPermissions : List VirtualDesktopSessionPermission}
variable {file : PermissionsFile} {entries : List (String × ProfileValues)}

def assignments (ctx : PermissionContext)
    (sessionPermissions : List VirtualDesktopSessionPermission) : List (Actor × String) :=
  sessionPermissions.map (fun p => (.user p.actorName, p.profileId)) ++
    [(.adminGroup, ctx.adminProfile), (.owner, ctx.ownerProfile)]

variable {profileId : String}

theorem mem_visit {ids : List String} : profileId ∈ ctx.visit ids ↔ profileId ∈ ids := by
  rw [(ctx.visit_perm ids).mem_iff, List.mem_dedup]

variable {values : ProfileValues} {line : PermissionLine}

variable {baseOs : VirtualDesktopBaseOS} {forBroker : Bool}

theorem mem_assignments {p : Actor × String} : p ∈ assignments ctx sessionPermissions ↔
    (∃ g ∈ sessionPermissions, p = (.user g.actorName, g.profileId)) ∨
      p ∈ [(Actor.adminGroup, ctx.adminProfile), (Actor.owner, ctx.ownerProfile)] := by
  unfold assignments
  rw [List.mem_append, List.mem_map]
  exact or_congr_left (exists_congr fun g => and_congr_right fun _ => eq_comm)

def observedContext : PermissionContext where
  permissionTypes := ["builtin", "display", "clipboard_copy"]
  profiles := fun profileId =>
    if profileId = "observer_profile" then
      some ⟨[⟨"builtin", false⟩, ⟨"display", true⟩, ⟨"clipboard_copy", false⟩]⟩
    else some ⟨[⟨"builtin", true⟩, ⟨"display", true⟩, ⟨"clipboard_copy", true⟩]⟩
  administratorUsername := "clusteradmin"
  adminGroup := "vdc-administrators-module-group"
  adminProfile := "admin_profile"
  ownerProfile := "owner_profile"
  visit := List.dedup
  visit_perm := fun _ => .refl _

def observer : VirtualDesktopSessionPermission := ⟨"bob", "observer_profile"⟩

/-- The file of a session that is shared with the guest: what the guest is denied is defined, but
no line says so. -/
def observedFile : PermissionsFile where
  groups := "group:ideaadmin=user:clusteradmin, osgroup:vdc-administrators-module-group"
  aliases := [⟨"admin_profile-allow", ["builtin"]⟩, ⟨"owner_profile-allow", ["builtin"]⟩,
    ⟨"observer_profile-allow", ["display"]⟩, ⟨"observer_profile-deny", ["clipboard-copy"]⟩]
  permissions := [⟨.user "bob", .allow, "observer_profile-allow"⟩,
    ⟨.adminGroup, .allow, "admin_profile-allow"⟩, ⟨.owner, .allow, "owner_profile-allow"⟩]
  newLine := "\n"

end Idea.VirtualDesktop

import Idea.Data.LdapFilter
import Idea.Model.Utils

/-! # Filters of the directory clients

The filters by which the directory is asked for a group, a user or a sudoer of some name. The name
is written into the filter as it is: the searches of the web portal pass names with stars here.
So a name without characters of the filter syntax is looked up as itself, and no other one.
-/

namespace Idea

open LdapFilter

namespace AbstractLDAPClient

def buildUserFilterstr (ldapUserFilterstr username : String) : String :=
  "(&" ++ ldapUserFilterstr ++ "(cn=" ++ username ++ "))"

def buildSudoerFilterstr (ldapSudoerFilterstr username : String) : String :=
  "(&" ++ ldapSudoerFilterstr ++ "(cn=" ++ username ++ "))"

/-- `group_name.upper().startswith('CN=')`: no other characters are `C` and `N` in upper case. -/
def isFullyQualified (groupName : String) : Bool :=
  (groupName.toList.take 3).map Char.toUpper = ['C', 'N', '=']

def nameAttribute (groupName : String) : String :=
  if isFullyQualified groupName then "distinguishedName" else "cn"

def buildGroupFilterstr (ldapGroupFilterstr : String) (groupName username : Option String) :
    String :=
  let filterstr := ldapGroupFilterstr
  let filterstr := match groupName with
    | some groupName => filterstr ++ "(" ++ nameAttribute groupName ++ "=" ++ groupName ++ ")"
    | none => filterstr
  let filterstr := match username with
    | some username => filterstr ++ "(memberUid=" ++ username ++ ")"
    | none => filterstr
  "(&" ++ filterstr ++ ")"

/-- `ldap_base` of a domain. -/
def ldapBase (domainName : String) : String :=
  "dc=" ++ String.intercalate ",dc=" ((domainName.toList.splitOn '.').map String.ofList)

end AbstractLDAPClient

namespace OpenLDAPClient

def ldapUserFilterstr : String := "(objectClass=posixAccount)"

def ldapGroupFilterstr : String := "(objectClass=posixGroup)"

def ldapSudoerFilterstr : String := "(objectClass=sudoRole)"

def buildGroupFilterstr (groupName username : Option String) : String :=
  let filterstr := ldapGroupFilterstr
  let filterstr := match groupName with
    | some groupName => filterstr ++ "(cn=" ++ groupName ++ ")"
    | none => filterstr
  let filterstr := match username with
    | some username => filterstr ++ "(memberUid=" ++ username ++ ")"
    | none => filterstr
  "(&" ++ filterstr ++ ")"

end OpenLDAPClient

/-- The settings `directoryservice.sudoers`, and the domain. -/
structure SudoersConfig where
  groupName : String
  ou : Option String
  domainName : String

namespace ActiveDirectoryClient

def ldapUserFilterstr : String := "(objectClass=user)"

def ldapGroupFilterstr : String := "(objectClass=group)"

def ldapSudoersGroupDn (config : SudoersConfig) : String :=
  let tokens := match config.ou with
    | some ouSudoers =>
      if isEmptyString (some ouSudoers) then ["cn=" ++ config.groupName]
      else if '=' ∈ ouSudoers.toList then ["cn=" ++ config.groupName, ouSudoers]
      else ["cn=" ++ config.groupName, "ou=" ++ ouSudoers,
        AbstractLDAPClient.ldapBase config.domainName]
    | none => ["cn=" ++ config.groupName]
  String.intercalate "," tokens

def ldapSudoerFilterstr (config : SudoersConfig) : String :=
  "(&(objectClass=user)(memberOf=" ++ ldapSudoersGroupDn config ++ "))"

/-- The text of the filter of the class without `(&` and the last parenthesis. -/
def buildSudoerFilterstr (config : SudoersConfig) (username : String) : String :=
  "(&" ++ String.ofList ((ldapSudoerFilterstr config).toList.drop 2).dropLast ++
    "(cn=" ++ username ++ "))"

end ActiveDirectoryClient

structure NewGroup where
  name : Option String := none
  dsName : Option String := none
  gid : Option ℤ := none
  groupType : Option String := none

def ALL_GROUP_TYPES : List String := ["user", "project", "module", "cluster"]

/-- The checks of `AccountsService.create_group`, on a directory that may be read only. -/
def checkNewGroup (dsReadonly : Bool) (dbGroups : List String) (group : NewGroup) :
    Except Raised Unit := do
  if isEmptyString group.name then throw (invalidParams "group.name is required")
  if isEmptyString group.groupType then throw (invalidParams "group.group_type is required")
  let groupType := group.groupType.getD ""
  if groupType ∉ ALL_GROUP_TYPES then
    throw (invalidParams ("invalid group type: " ++ groupType ++
      ". must be one of: ['user', 'project', 'module', 'cluster']"))
  if isEmptyString group.dsName && dsReadonly then
    throw (invalidParams ("group.ds_name is required when using Read-Only Directory Service: " ++
      "activedirectory"))
  let groupName := group.name.getD ""
  if groupName ∈ dbGroups then throw (invalidParams ("group: " ++ groupName ++ " already exists"))
  if group.gid = none && dsReadonly then
    throw (invalidParams ("group.gid is required when using Read-Only Directory Service: " ++
      "activedirectory"))

inductive DirectoryLookup where
  | openldapGroup | openldapUser | openldapSudoer
  | activeDirectoryGroup | activeDirectoryUser
  | activeDirectorySudoer (config : SudoersConfig)

namespace DirectoryLookup

variable (lookup : DirectoryLookup) (name : String)

def filterstr : DirectoryLookup → String → String
  | openldapGroup, name => OpenLDAPClient.buildGroupFilterstr (some name) none
  | openldapUser, name =>
    AbstractLDAPClient.buildUserFilterstr OpenLDAPClient.ldapUserFilterstr name
  | openldapSudoer, name =>
    AbstractLDAPClient.buildSudoerFilterstr OpenLDAPClient.ldapSudoerFilterstr name
  | activeDirectoryGroup, name =>
    AbstractLDAPClient.buildGroupFilterstr ActiveDirectoryClient.ldapGroupFilterstr (some name)
      none
  | activeDirectoryUser, name =>
    AbstractLDAPClient.buildUserFilterstr ActiveDirectoryClient.ldapUserFilterstr name
  | activeDirectorySudoer config, name => ActiveDirectoryClient.buildSudoerFilterstr config name

def equality (attr value : String) : Equality := (attr.toList, value.toList)

def objectClass : DirectoryLookup → String
  | openldapGroup => "posixGroup"
  | openldapUser => "posixAccount"
  | openldapSudoer => "sudoRole"
  | activeDirectoryGroup => "group"
  | activeDirectoryUser => "user"
  | activeDirectorySudoer _ => "user"

def memberOf : DirectoryLookup → List String
  | activeDirectorySudoer config => [ActiveDirectoryClient.ldapSudoersGroupDn config]
  | _ => []

def classFilter : List Equality :=
  equality "objectClass" lookup.objectClass :: lookup.memberOf.map (equality "memberOf")

def nameAttribute : DirectoryLookup → String → String
  | activeDirectoryGroup, name => AbstractLDAPClient.nameAttribute name
  | _, _ => "cn"

def requested : List Equality :=
  lookup.classFilter ++ [equality (lookup.nameAttribute name) name]

/-- No character of the text has to be escaped in a filter. -/
def IsPlain (text : String) : Prop := Plain text.toList

theorem isAttr_of_all {attr : String} (hne : attr.toList ≠ [])
    (h : attr.toList.all isAttrChar = true) : IsAttr attr.toList :=
  ⟨hne, List.all_eq_true.mp h⟩

theorem isAttr_nameAttribute : IsAttr (lookup.nameAttribute name).toList := by
  have hcn : IsAttr "cn".toList := isAttr_of_all (by decide) (by decide)
  cases lookup with
  | activeDirectoryGroup =>
    rw [nameAttribute, AbstractLDAPClient.nameAttribute]
    split
    · exact isAttr_of_all (by decide) (by decide)
    · exact hcn
  | _ => exact hcn

theorem isAttr_requested : ∀ e ∈ lookup.requested name, IsAttr e.1 := by
  have hclass : IsAttr "objectClass".toList := isAttr_of_all (by decide) (by decide)
  have hmember : IsAttr "memberOf".toList := isAttr_of_all (by decide) (by decide)
  have hname := lookup.isAttr_nameAttribute name
  simp only [requested, classFilter, List.forall_mem_append, List.forall_mem_cons,
    List.forall_mem_map]
  exact ⟨⟨hclass, fun _ _ => hmember⟩, hname, fun _ h => absurd h List.not_mem_nil⟩

theorem toList_inner (dn : String) :
    (("(&(objectClass=user)(memberOf=" ++ dn ++ "))").toList.drop 2).dropLast =
      "(objectClass=user)".toList ++ ("(memberOf=".toList ++ (dn.toList ++ [')'])) := by
  have hdrop : ("(&(objectClass=user)(memberOf=" ++ dn ++ "))").toList.drop 2 =
      ("(objectClass=user)".toList ++ ("(memberOf=".toList ++ (dn.toList ++ [')']))) ++ [')'] := by
    simp [String.toList_append]
  rw [hdrop, List.dropLast_concat]

theorem toList_filterstr :
    (lookup.filterstr name).toList = conjunctionText (lookup.requested name) := by
  cases lookup with
  | activeDirectorySudoer config =>
    change (ActiveDirectoryClient.buildSudoerFilterstr config name).toList = _
    unfold ActiveDirectoryClient.buildSudoerFilterstr ActiveDirectoryClient.ldapSudoerFilterstr
    rw [toList_inner]
    simp [requested, classFilter, objectClass, memberOf, equality, nameAttribute, conjunctionText,
      Equality.text]
  | activeDirectoryGroup =>
    simp [filterstr, AbstractLDAPClient.buildGroupFilterstr,
      ActiveDirectoryClient.ldapGroupFilterstr, requested, classFilter, objectClass, memberOf,
      equality, nameAttribute, conjunctionText, Equality.text]
  | _ =>
    simp [filterstr, OpenLDAPClient.buildGroupFilterstr, AbstractLDAPClient.buildUserFilterstr,
      AbstractLDAPClient.buildSudoerFilterstr, OpenLDAPClient.ldapGroupFilterstr,
      OpenLDAPClient.ldapUserFilterstr, OpenLDAPClient.ldapSudoerFilterstr,
      ActiveDirectoryClient.ldapUserFilterstr, requested, classFilter, objectClass, memberOf,
      equality, nameAttribute, conjunctionText, Equality.text]

theorem objectClass_plain : IsPlain lookup.objectClass := by
  apply List.all_eq_true.mp
  cases lookup <;> simp only [objectClass] <;> decide

theorem requested_plain_iff : (∀ e ∈ lookup.requested name, Plain e.2) ↔
    (∀ groupDn ∈ lookup.memberOf, IsPlain groupDn) ∧ IsPlain name := by
  have hclass : Plain (equality "objectClass" lookup.objectClass).2 := lookup.objectClass_plain
  rw [requested, classFilter, List.forall_mem_append, List.forall_mem_cons, List.forall_mem_map,
    List.forall_mem_singleton, and_iff_right hclass]
  rfl

theorem requested_ne_nil : lookup.requested name ≠ [] :=
  List.append_ne_nil_of_right_ne_nil _ (List.cons_ne_nil _ _)

/-- A name is looked up as itself exactly if it has no character of the filter syntax, and the
texts of the settings have none. Only entries of the class with this name are found then. -/
theorem exact_iff : (Parses (lookup.filterstr name).toList (conjunction (lookup.requested name)) ↔
      (∀ groupDn ∈ lookup.memberOf, IsPlain groupDn) ∧ IsPlain name) ∧
    ((∀ groupDn ∈ lookup.memberOf, IsPlain groupDn) ∧ IsPlain name → ∀ satisfied : Item → Prop,
      Matches satisfied (lookup.filterstr name).toList ↔
        ∀ e ∈ lookup.requested name, satisfied e.item) := by
  have hne := lookup.requested_ne_nil name
  have hattr := lookup.isAttr_requested name
  rw [toList_filterstr, ← requested_plain_iff]
  constructor
  · exact parses_conjunction_iff hne hattr
  · intro hplain satisfied
    exact matches_conjunction_iff hne hattr hplain

theorem parses_star : Parses (openldapGroup.filterstr "*").toList (.and
    [.item (equality "objectClass" "posixGroup").item, .item (.present "cn".toList)]) := by
  have hclass : IsAttr "objectClass".toList := isAttr_of_all (by decide) (by decide)
  have hgroup : Plain "posixGroup".toList := openldapGroup.objectClass_plain
  have hcn : IsAttr "cn".toList := isAttr_of_all (by decide) (by decide)
  have hstar : LdapFilter.equality "cn".toList ("*".toList.takeWhile inValue) =
      some (.present "cn".toList) := by
    decide +kernel
  refine ⟨4, ?_⟩
  rw [toList_filterstr]
  change (filters 3 (Equality.text ("objectClass".toList, "posixGroup".toList) ++
    (Equality.text ("cn".toList, "*".toList) ++ [')']))).bind _ = _
  rw [filters, filter_text_of_plain hclass hgroup, Option.bind_some]
  change ((filters 2 (Equality.text ("cn".toList, "*".toList) ++ [')'])).map _).bind _ = _
  rw [filters, filter_text hcn, hstar]
  rfl

/-- A new group may be named by a star, and its filter is about every group. -/
theorem not_exact_star :
    checkNewGroup false [] { name := some "*", groupType := some "project" } = .ok () ∧
      ¬Parses (openldapGroup.filterstr "*").toList (conjunction (openldapGroup.requested "*")) ∧
      Parses (openldapGroup.filterstr "*").toList (.and
        [.item (equality "objectClass" "posixGroup").item, .item (.present "cn".toList)]) := by
  refine ⟨rfl, ?_, parses_star⟩
  rw [toList_filterstr, parses_conjunction_iff (openldapGroup.requested_ne_nil "*")
    (openldapGroup.isAttr_requested "*"), requested_plain_iff]
  rintro ⟨-, hplain⟩
  exact absurd (hplain '*' (by simp)) (by decide)

end DirectoryLookup

end Idea

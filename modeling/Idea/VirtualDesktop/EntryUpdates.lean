import Idea.VirtualDesktop.PermissionsFile
import Idea.VirtualDesktop.SessionRoundTrip

/-! # Updates of profiles and software stacks

When the grants of a permission profile or the texts of a software stack change, the sessions that
refer to it are told by events. The sessions are those that a search lists.
-/

namespace Idea.VirtualDesktop.EntryUpdates

open SessionCodec

structure SocaFilter where
  key : String
  value : Option String

inductive SortOrder where
  | ASC | DESC

structure SortFilter where
  key : String
  order : SortOrder

structure SocaPaginator where
  start : Option ℕ
  pageSize : Option ℕ

/-- A request without free text and without a range of dates. -/
structure SocaListingPayload where
  filters : List SocaFilter
  sortBy : Option SortFilter
  paginator : Option SocaPaginator

/-- The documents of an index with the raw texts of their fields. A search ranks those that match
all its terms. -/
structure SearchIndex (δ : Type) where
  documents : List δ
  raw : δ → String → Option String
  ranked : List (String × String) → SortFilter → List δ
  ranked_perm : ∀ terms sort, (ranked terms sort).Perm
    (documents.filter fun document => terms.all fun term => raw document term.1 = some term.2)

def SearchIndex.search {δ : Type} (self : SearchIndex δ) (termFilters : List (String × String))
    (sortFilter : SortFilter) (startFrom size : ℕ) : List δ :=
  ((self.ranked termFilters sortFilter).drop startFrom).take size

structure OpenSearchableDB (δ : Type) where
  termFilterMap : List (String × String)
  defaultPageSize : ℕ
  defaultSort : SortFilter
  index : SearchIndex δ

namespace OpenSearchableDB

variable {δ : Type} (self : OpenSearchableDB δ)

def termFilter (listingFilter : SocaFilter) : Option (String × String) :=
  if isEmptyString (some listingFilter.key) then none
  else if isEmptyString listingFilter.value then none
  else
    (self.termFilterMap.lookup listingFilter.key).map fun key =>
      (key, listingFilter.value.getD "")

def listFromOpensearch (options : SocaListingPayload) : List δ :=
  self.index.search (options.filters.filterMap self.termFilter)
    (options.sortBy.getD self.defaultSort) ((options.paginator.bind (·.start)).getD 0)
    ((options.paginator.bind (·.pageSize)).getD self.defaultPageSize)

end OpenSearchableDB

/-- What can fail to be read of a stored permission, and what the handler uses of it. -/
structure DbSessionPermission where
  ideaSessionId : Option String
  actorName : Option String
  ideaSessionOwner : Option String
  ideaSessionBaseOs : Option String
  ideaSessionState : Option String
  ideaSessionType : Option String
  permissionProfileId : Option String
  actorType : Option String

inductive VirtualDesktopSessionPermissionActorType where
  | USER | GROUP

def VirtualDesktopSessionPermissionActorType.value :
    VirtualDesktopSessionPermissionActorType → String
  | USER => "USER"
  | GROUP => "GROUP"

abbrev SessionKey : Type := Option String × Option String

/-- `convert_db_dict_to_session_permission_object` -/
def sessionOfPermission (dbEntry : DbSessionPermission) : Except Raised SessionKey := do
  let _baseOs ← BaseOS.ofValue (getStringOr dbEntry.ideaSessionBaseOs "")
  let _state ← memberOf [.PROVISIONING, .CREATING, .INITIALIZING, .READY, .RESUMING, .STOPPING,
    .STOPPED, .ERROR, .DELETING, .DELETED] VirtualDesktopSessionState.value .valueError
    (getStringOr dbEntry.ideaSessionState "")
  let _type ← VirtualDesktopSessionType.ofName (getValueAsString dbEntry.ideaSessionType)
  let _actorType ← memberOf [VirtualDesktopSessionPermissionActorType.USER, .GROUP]
    VirtualDesktopSessionPermissionActorType.value .valueError (getStringOr dbEntry.actorType "")
  .ok (getStringOr dbEntry.ideaSessionId "", getStringOr dbEntry.ideaSessionOwner "")

def virtualDesktopSessionPermissionDB (index : SearchIndex DbSessionPermission) :
    OpenSearchableDB DbSessionPermission where
  termFilterMap := [
    ("actor_name", "actor_name.raw"),
    ("idea_session_id", "idea_session_id.raw"),
    ("idea_session_name", "idea_session_name.raw"),
    ("idea_session_base_os", "idea_session_base_os.raw"),
    ("idea_session_instance_type", "idea_session_instance_type.raw"),
    ("idea_session_state", "idea_session_state.raw"),
    ("idea_session_type", "idea_session_type.raw"),
    ("permission_profile_id", "permission_profile_id.raw")]
  defaultPageSize := 10
  defaultSort := ⟨"idea_session_created_on", .ASC⟩
  index := index

def sessionOfDocument (floats : FloatText) (hours : WorkingHours) (indexEntry : DbSession) :
    Except Raised SessionKey := do
  let session ← VirtualDesktopSessionDB.convertDbDictToSessionObject floats hours indexEntry
  let _server ← required .attributeError session.server
  .ok (session.ideaSessionId, session.owner)

def virtualDesktopSessionDB (index : SearchIndex DbSession) : OpenSearchableDB DbSession where
  termFilterMap := [
    ("stack_id", "software_stack.stack_id.raw"),
    ("base_os", "base_os.raw"),
    ("owner", "owner.raw"),
    ("idea_session_id", "idea_session_id.raw"),
    ("state", "state.raw"),
    ("session_type", "session_type.raw"),
    ("instance_type", "server.instance_type.raw")]
  defaultPageSize := 10
  defaultSort := ⟨"created_on", .ASC⟩
  index := index

structure DbPermissionProfile where
  profileId : Option String
  flags : String → Option Bool

inductive Event where
  | enforceSessionPermissions (session : SessionKey)
  | softwareStackUpdated (session : SessionKey) (newSoftwareStack : DbSoftwareStack)

/-- What the handler reads, and the order in which the members of a set are visited. -/
structure Handler where
  permissionTypes : List String
  floats : FloatText
  hours : WorkingHours
  sessionPermissions : SearchIndex DbSessionPermission
  sessions : SearchIndex DbSession
  visit : List SessionKey → List SessionKey
  visit_perm : ∀ keys, (visit keys).Perm keys.dedup

namespace Handler

variable (self : Handler)

def profileId (dbDict : DbPermissionProfile) : Option String := getStringOr dbDict.profileId ""

def convertDbDictToPermissionProfileObject (dbDict : DbPermissionProfile) :
    VirtualDesktopPermissionProfile where
  permissions := self.permissionTypes.map fun key => ⟨key, (dbDict.flags key).getD false⟩

def isPermissionUpdated (new old : VirtualDesktopPermissionProfile) : Bool :=
  new.permissions.any fun newPermission => old.permissions.any fun oldPermission =>
    newPermission.key = oldPermission.key && newPermission.enabled != oldPermission.enabled

def permissionFilters (profileId : Option String) : List SocaFilter :=
  [⟨"permission_profile_id", profileId⟩]

def handlePermissionProfileUpdated (oldValue newValue : DbPermissionProfile) :
    Except Raised (List Event) :=
  if isPermissionUpdated (self.convertDbDictToPermissionProfileObject newValue)
      (self.convertDbDictToPermissionProfileObject oldValue) then do
    let listing ← ((virtualDesktopSessionPermissionDB self.sessionPermissions).listFromOpensearch
      ⟨permissionFilters (profileId newValue), none, none⟩).mapM sessionOfPermission
    .ok ((self.visit listing).map .enforceSessionPermissions)
  else .ok []

def stackFilters (stackId : Option String) : List SocaFilter := [⟨"stack_id", stackId⟩]

def handleSoftwareStackUpdated (oldValue newValue : DbSoftwareStack) :
    Except Raised (List Event) := do
  let new ← VirtualDesktopSoftwareStackDB.convertDbDictToSoftwareStackObject self.floats newValue
  let old ← VirtualDesktopSoftwareStackDB.convertDbDictToSoftwareStackObject self.floats oldValue
  if new.name ≠ old.name ∨ new.description ≠ old.description then do
    let listing ← ((virtualDesktopSessionDB self.sessions).listFromOpensearch
      ⟨stackFilters new.stackId, none, none⟩).mapM (sessionOfDocument self.floats self.hours)
    .ok ((self.visit listing).map (Event.softwareStackUpdated · newValue))
  else .ok []

end Handler

/-- The handler ends without an exception and publishes the event. -/
def Publishes (result : Except Raised (List Event)) (event : Event) : Prop :=
  ∃ events, result = .ok events ∧ event ∈ events

/-- A session that a document with the value in the field is about. -/
def Refers {δ : Type} (index : SearchIndex δ) (decode : δ → Except Raised SessionKey)
    (field : String) (value : Option String) (session : SessionKey) : Prop :=
  ∃ document ∈ index.documents, index.raw document field = value ∧ decode document = .ok session

/-- The documents of the highest ranks, as many as there are on a page, can be read, and one of them
is about the session. -/
def OnFirstPage {δ : Type} (db : OpenSearchableDB δ) (decode : δ → Except Raised SessionKey)
    (filters : List SocaFilter) (session : SessionKey) : Prop :=
  ∃ listing, ((db.index.ranked (filters.filterMap db.termFilter) db.defaultSort).take
    db.defaultPageSize).mapM decode = .ok listing ∧ session ∈ listing

namespace Handler

variable (self : Handler)

def GrantsDiffer (oldValue newValue : DbPermissionProfile) : Prop :=
  ∃ key ∈ self.permissionTypes, (newValue.flags key).getD false ≠ (oldValue.flags key).getD false

def HasPermission (newValue : DbPermissionProfile) (session : SessionKey) : Prop :=
  Refers self.sessionPermissions sessionOfPermission "permission_profile_id.raw"
    (profileId newValue) session

def UsesStack (newValue : DbSoftwareStack) (session : SessionKey) : Prop :=
  Refers self.sessions (sessionOfDocument self.floats self.hours) "software_stack.stack_id.raw"
    (getValueAsString newValue.stackId) session

def ProfileReached (oldValue newValue : DbPermissionProfile) : Prop :=
  self.GrantsDiffer oldValue newValue → ∀ session, self.HasPermission newValue session →
    Publishes (self.handlePermissionProfileUpdated oldValue newValue)
      (.enforceSessionPermissions session)

def StackReached (oldValue newValue : DbSoftwareStack) : Prop :=
  ∀ session, self.UsesStack newValue session →
    Publishes (self.handleSoftwareStackUpdated oldValue newValue)
      (.softwareStackUpdated session newValue)

/-- All sessions with a permission of a profile that changes are on the first page. -/
def ProfileListed (oldValue newValue : DbPermissionProfile) : Prop :=
  self.GrantsDiffer oldValue newValue → ∀ session, self.HasPermission newValue session →
    OnFirstPage (virtualDesktopSessionPermissionDB self.sessionPermissions) sessionOfPermission
      (permissionFilters (profileId newValue)) session

/-- Both stacks can be read, and have another name or description. -/
def TextsDiffer (oldValue newValue : DbSoftwareStack) : Prop :=
  ∃ new old,
    VirtualDesktopSoftwareStackDB.convertDbDictToSoftwareStackObject self.floats newValue =
        .ok new ∧
      VirtualDesktopSoftwareStackDB.convertDbDictToSoftwareStackObject self.floats oldValue =
        .ok old ∧
      (new.name ≠ old.name ∨ new.description ≠ old.description)

/-- All sessions of a stack whose texts change are on the first page. -/
def StackListed (oldValue newValue : DbSoftwareStack) : Prop :=
  ∀ session, self.UsesStack newValue session → self.TextsDiffer oldValue newValue ∧
    OnFirstPage (virtualDesktopSessionDB self.sessions)
      (sessionOfDocument self.floats self.hours)
      (stackFilters (getValueAsString newValue.stackId)) session

end Handler

theorem listFromOpensearch_filters {δ : Type} (db : OpenSearchableDB δ)
    (filters : List SocaFilter) :
    db.listFromOpensearch ⟨filters, none, none⟩ =
      (db.index.ranked (filters.filterMap db.termFilter) db.defaultSort).take
        db.defaultPageSize :=
  congrArg (List.take db.defaultPageSize) List.drop_zero

section Pages

variable {δ : Type} {db : OpenSearchableDB δ} {decode : δ → Except Raised SessionKey}
  {filters : List SocaFilter}

theorem length_of_mapM {documents : List δ} {listing : List SessionKey}
    (h : documents.mapM decode = .ok listing) : listing.length = documents.length := by
  induction documents generalizing listing with
  | nil => exact congrArg List.length (Except.ok.inj h).symm
  | cons first documents ih =>
    rw [List.mapM_cons, Raised.bind_eq_ok] at h
    obtain ⟨key, _, h⟩ := h
    obtain ⟨keys, hkeys, h⟩ := Raised.bind_eq_ok.mp h
    rw [← Except.ok.inj h, List.length_cons, List.length_cons, ih hkeys]

/-- No more sessions than there are on a page are told. -/
theorem length_le_of_onFirstPage {sessions : List SessionKey} (hnodup : sessions.Nodup)
    (h : ∀ session ∈ sessions, OnFirstPage db decode filters session) :
    sessions.length ≤ db.defaultPageSize := by
  cases sessions with
  | nil => exact Nat.zero_le _
  | cons session sessions =>
    obtain ⟨listing, hlisting, -⟩ := h session List.mem_cons_self
    have hsubset : session :: sessions ⊆ listing := by
      intro other hother
      obtain ⟨listing', hlisting', hmem⟩ := h other hother
      rwa [Except.ok.inj (hlisting.symm.trans hlisting')]
    calc (session :: sessions).length ≤ listing.length := (hnodup.subperm hsubset).length_le
      _ = _ := length_of_mapM hlisting
      _ ≤ db.defaultPageSize := List.length_take_le _ _

end Pages

namespace Handler

variable {self : Handler} {oldProfile newProfile : DbPermissionProfile}
  {oldStack newStack : DbSoftwareStack} {session : SessionKey}

theorem mem_visit {keys : List SessionKey} : session ∈ self.visit keys ↔ session ∈ keys :=
  (self.visit_perm keys).mem_iff.trans List.mem_dedup

theorem isPermissionUpdated_iff :
    isPermissionUpdated (self.convertDbDictToPermissionProfileObject newProfile)
        (self.convertDbDictToPermissionProfileObject oldProfile) = true ↔
      self.GrantsDiffer oldProfile newProfile := by
  simp only [isPermissionUpdated, convertDbDictToPermissionProfileObject, List.any_map,
    List.any_eq_true, Function.comp_apply, Bool.and_eq_true, decide_eq_true_eq, bne_iff_ne]
  constructor
  · rintro ⟨key, hkey, _, _, rfl, hne⟩
    exact ⟨key, hkey, hne⟩
  · rintro ⟨key, hkey, hne⟩
    exact ⟨key, hkey, key, hkey, rfl, hne⟩

theorem publishes_enforce_iff (h : self.GrantsDiffer oldProfile newProfile) :
    Publishes (self.handlePermissionProfileUpdated oldProfile newProfile)
        (.enforceSessionPermissions session) ↔
      OnFirstPage (virtualDesktopSessionPermissionDB self.sessionPermissions) sessionOfPermission
        (permissionFilters (profileId newProfile)) session := by
  rw [handlePermissionProfileUpdated, if_pos (isPermissionUpdated_iff.mpr h),
    listFromOpensearch_filters, Publishes, OnFirstPage]
  constructor
  · rintro ⟨events, hevents, hmem⟩
    obtain ⟨listing, hlisting, hok⟩ := Raised.bind_eq_ok.mp hevents
    obtain rfl := Except.ok.inj hok
    obtain ⟨key, hkey, hevent⟩ := List.mem_map.mp hmem
    obtain rfl := Event.enforceSessionPermissions.inj hevent
    exact ⟨listing, hlisting, mem_visit.mp hkey⟩
  · rintro ⟨listing, hlisting, hmem⟩
    exact ⟨_, Raised.bind_eq_ok.mpr ⟨listing, hlisting, rfl⟩,
      List.mem_map_of_mem (mem_visit.mpr hmem)⟩

theorem stackId_of_convert {floats : FloatText} {stack : VirtualDesktopSoftwareStack}
    (h : VirtualDesktopSoftwareStackDB.convertDbDictToSoftwareStackObject floats newStack =
      .ok stack) : stack.stackId = getValueAsString newStack.stackId := by
  simp only [VirtualDesktopSoftwareStackDB.convertDbDictToSoftwareStackObject,
    Raised.bind_eq_ok] at h
  obtain ⟨_, _, _, _, _, _, _, _, _, _, _, _, h⟩ := h
  rw [← Except.ok.inj h]

theorem publishes_stackUpdated_iff :
    Publishes (self.handleSoftwareStackUpdated oldStack newStack)
        (.softwareStackUpdated session newStack) ↔
      self.TextsDiffer oldStack newStack ∧ OnFirstPage (virtualDesktopSessionDB self.sessions)
        (sessionOfDocument self.floats self.hours)
        (stackFilters (getValueAsString newStack.stackId)) session := by
  simp only [handleSoftwareStackUpdated, listFromOpensearch_filters, Publishes, OnFirstPage,
    TextsDiffer, Raised.bind_eq_ok]
  constructor
  · rintro ⟨events, ⟨new, hnew, old, hold, hevents⟩, hmem⟩
    split at hevents
    · rename_i hdiffer
      obtain ⟨listing, hlisting, hok⟩ := Raised.bind_eq_ok.mp hevents
      obtain rfl := Except.ok.inj hok
      obtain ⟨key, hkey, hevent⟩ := List.mem_map.mp hmem
      obtain rfl := (Event.softwareStackUpdated.inj hevent).1
      rw [stackId_of_convert hnew] at hlisting
      exact ⟨⟨new, old, hnew, hold, hdiffer⟩, listing, hlisting, mem_visit.mp hkey⟩
    · obtain rfl := Except.ok.inj hevents
      exact absurd hmem List.not_mem_nil
  · rintro ⟨⟨new, old, hnew, hold, hdiffer⟩, listing, hlisting, hmem⟩
    rw [← stackId_of_convert hnew] at hlisting
    refine ⟨(self.visit listing).map (Event.softwareStackUpdated · newStack),
      ⟨new, hnew, old, hold, ?_⟩, List.mem_map.mpr ⟨session, mem_visit.mpr hmem, rfl⟩⟩
    rw [if_pos hdiffer]
    exact Raised.bind_eq_ok.mpr ⟨listing, hlisting, rfl⟩

/-- An update of a profile or of a software stack reaches the sessions that refer to it exactly if
they are listed on the first page, and for a stack only if its name or description changes. -/
theorem updates_reach_iff (self : Handler) (oldProfile newProfile : DbPermissionProfile)
    (oldStack newStack : DbSoftwareStack) :
    (self.ProfileReached oldProfile newProfile ↔ self.ProfileListed oldProfile newProfile) ∧
      (self.StackReached oldStack newStack ↔ self.StackListed oldStack newStack) :=
  ⟨forall_congr' fun hdiffer => forall₂_congr fun _ _ => publishes_enforce_iff hdiffer,
    forall₂_congr fun _ _ => publishes_stackUpdated_iff⟩

def sessionKeys : List SessionKey :=
  ["a", "b", "c", "d", "e", "f", "g", "h", "i", "j", "k"].map fun id => (some id, some "alice")

def sharedPermission (session : SessionKey) : DbSessionPermission where
  ideaSessionId := session.1
  actorName := some "bob"
  ideaSessionOwner := session.2
  ideaSessionBaseOs := some "amazonlinux2"
  ideaSessionState := some "READY"
  ideaSessionType := some "VIRTUAL"
  permissionProfileId := some "viewer"
  actorType := some "USER"

def permissionIndex : SearchIndex DbSessionPermission where
  documents := sessionKeys.map sharedPermission
  raw document field :=
    if field = "permission_profile_id.raw" then document.permissionProfileId else none
  ranked terms _ := (sessionKeys.map sharedPermission).filter fun document =>
    terms.all fun term =>
      (if term.1 = "permission_profile_id.raw" then document.permissionProfileId else none) =
        some term.2
  ranked_perm _ _ := List.Perm.refl _

def crowdedHandler : Handler where
  permissionTypes := ["keyboard", "mouse"]
  floats := numberTexts
  hours := ⟨.ok none, .ok none⟩
  sessionPermissions := permissionIndex
  sessions := ⟨[], fun _ _ => none, fun _ _ => [], fun _ _ => List.Perm.refl _⟩
  visit keys := keys.dedup
  visit_perm _ := List.Perm.refl _

def viewer (keyboard : Bool) : DbPermissionProfile where
  profileId := some "viewer"
  flags key := if key = "keyboard" then some keyboard else none

theorem not_profileReached_crowded :
    ¬ crowdedHandler.ProfileReached (viewer true) (viewer false) := by
  intro h
  have hdiffer : crowdedHandler.GrantsDiffer (viewer true) (viewer false) :=
    ⟨"keyboard", by decide, by decide⟩
  have hread : ∀ session ∈ sessionKeys,
      sessionOfPermission (sharedPermission session) = .ok session := by
    rw [sessionKeys, List.forall_mem_map]
    simp only [List.forall_mem_cons]
    exact ⟨rfl, rfl, rfl, rfl, rfl, rfl, rfl, rfl, rfl, rfl, rfl, List.forall_mem_nil _⟩
  have hpermission : ∀ session ∈ sessionKeys,
      crowdedHandler.HasPermission (viewer false) session := fun session hsession =>
    ⟨sharedPermission session, List.mem_map_of_mem hsession, rfl, hread session hsession⟩
  have hlength := length_le_of_onFirstPage (by decide) fun session hsession =>
    (publishes_enforce_iff hdiffer).mp (h hdiffer session (hpermission session hsession))
  exact absurd hlength (by decide)

end Handler

end Idea.VirtualDesktop.EntryUpdates

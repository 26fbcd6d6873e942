import Idea.Settings.ClusterConfigDB
import Idea.System.Run

/-! # Settings that a stack writes

The stack of a module has a resource that writes settings of the module. When the stack is updated
it removes the settings that are no longer there, going by the settings it had before. An event may
fail at any of its writes, and the next one starts from what is left.
-/

namespace Idea.Settings

structure ModuleRow where
  name : Option String
  type : Option String
  status : Option String
  stackName : Option String
  version : Option String

structure Tables where
  clusterSettings : ClusterSettings
  modules : Dict String ModuleRow

/-- The id of a module is a key of the configuration, where a key with a dot is refused. -/
structure ModuleId where
  text : String
  noDot : '.' ∉ text.toList

/-- `key.split('.')[0]`. -/
def moduleOf (key : String) : List Char := key.toList.takeWhile (· ≠ '.')

/-- `SET #value=:value, #source=:source ADD #version :version`. -/
def updateSourcedItem (key : String) (value : Attribute) (source : String)
    (table : ClusterSettings) : ClusterSettings :=
  table.set key ⟨some value, some source, addOne (item table key).version⟩

/-- `SET #status=:status, #stack_name=:stack_name, #version=:version`. -/
def updateModuleRow (moduleId : String) (status : String) (stackName version : Option String)
    (table : Dict String ModuleRow) : Dict String ModuleRow :=
  table.set moduleId { (table.get? moduleId).getD ⟨none, none, none, none, none⟩ with
    status := some status, stackName := stackName, version := version }

inductive RequestType where
  | Create | Update | Delete
  deriving DecidableEq

structure Properties where
  version : Option String
  settings : Option (Dict String PyValue)

structure Event where
  requestType : RequestType
  resourceProperties : Properties
  oldResourceProperties : Option Properties

/-- The cluster and the module are the same in all properties of a resource. -/
structure Resource where
  clusterName : String
  moduleId : ModuleId

inductive CfnResponseStatus where
  | SUCCESS | FAILED
  deriving DecidableEq

structure CfnResponse where
  status : CfnResponseStatus
  physicalResourceId : String
  deriving DecidableEq

namespace Resource

variable (resource : Resource)

def configKey (key : String) : String := resource.moduleId.text ++ "." ++ key

def stackName : String := resource.clusterName ++ "-" ++ resource.moduleId.text

def physicalResourceId : String :=
  resource.clusterName ++ "-" ++ resource.moduleId.text ++ "-settings"

variable (outcome : ℕ → CallOutcome Raised)

def writeSetting (setting : String × PyValue) : Stateful (Served Tables) Raised Unit := do
  let value ← Stateful.ofExcept (serialize setting.2)
  Served.call outcome fun t => { t with
    clusterSettings :=
      updateSourcedItem (resource.configKey setting.1) value "stack" t.clusterSettings }

def deleteSetting (key : String) : Stateful (Served Tables) Raised Unit :=
  Served.call outcome fun t =>
    { t with clusterSettings := t.clusterSettings.erase (resource.configKey key) }

def updateModule (status : String) (stackName version : Option String) :
    Stateful (Served Tables) Raised Unit :=
  Served.call outcome fun t =>
    { t with modules := updateModuleRow resource.moduleId.text status stackName version t.modules }

def iterated (settings : Option (Dict String PyValue)) : Except Raised (Dict String PyValue) :=
  match settings with
  | none => .error .typeError
  | some settings => .ok settings

def settingsToDelete (settings : Dict String PyValue) (old : Option Properties) : List String :=
  match old with
  | none => []
  | some old => (old.settings.getD ∅).keys.filter (· ∉ settings.keys)

def applyDelete (properties : Properties) : Stateful (Served Tables) Raised Unit := do
  let settings ← Stateful.ofExcept (iterated properties.settings)
  Stateful.forEach (resource.deleteSetting outcome) settings.keys
  resource.updateModule outcome "not-deployed" none none

def applyUpdate (properties : Properties) (old : Option Properties) :
    Stateful (Served Tables) Raised Unit := do
  let settings ← Stateful.ofExcept (iterated properties.settings)
  Stateful.forEach (resource.writeSetting outcome) settings.entries
  resource.updateModule outcome "deployed" (some resource.stackName) properties.version
  Stateful.forEach (resource.deleteSetting outcome) (settingsToDelete settings old)

def applyEvent (event : Event) : Stateful (Served Tables) Raised Unit :=
  if event.requestType = .Delete then resource.applyDelete outcome event.resourceProperties
  else resource.applyUpdate outcome event.resourceProperties event.oldResourceProperties

def response (status : CfnResponseStatus) : CfnResponse := ⟨status, resource.physicalResourceId⟩

def handler (event : Event) (tables : Tables) : CfnResponse × Tables :=
  match (resource.applyEvent outcome event).run ⟨tables, 0⟩ with
  | (.ok (), s) => (resource.response .SUCCESS, s.store)
  | (.error _, s) => (resource.response .FAILED, s.store)

end Resource

/-- What the last event of a resource was about: the properties that are in place, the two sets
between which an update failed, or the properties that are left to be deleted. -/
inductive Phase where
  | absent
  | settled (properties : Properties)
  | between (old new : Properties)
  | deleting (properties : Properties)

/-- The events that may come next. A failed update is followed by one back to the properties before
it, or by another try. What a failed creation or deletion left is deleted. -/
inductive Issues : Phase → Event → Prop
  | create (new) : Issues .absent ⟨.Create, new, none⟩
  | update (old new) : Issues (.settled old) ⟨.Update, new, some old⟩
  | delete (old) : Issues (.settled old) ⟨.Delete, old, none⟩
  | back (old new) : Issues (.between old new) ⟨.Update, old, some new⟩
  | again (old new) : Issues (.between old new) ⟨.Update, new, some old⟩
  | clean (old) : Issues (.deleting old) ⟨.Delete, old, none⟩

def Event.next (event : Event) (status : CfnResponseStatus) : Phase :=
  match event.requestType, status with
  | .Delete, .SUCCESS => .absent
  | _, .SUCCESS => .settled event.resourceProperties
  | .Update, .FAILED =>
    .between (event.oldResourceProperties.getD event.resourceProperties) event.resourceProperties
  | _, .FAILED => .deleting event.resourceProperties

structure Deployment where
  tables : Tables
  phase : Phase

structure Answered where
  event : Event
  response : CfnResponse

/-- One event, with any outcome of the calls that it makes. -/
inductive Resource.Step (resource : Resource) : Deployment → Answered → Deployment → Prop
  | mk {s : Deployment} {event : Event} (outcome : ℕ → CallOutcome Raised) :
      Issues s.phase event →
      Step resource s ⟨event, (resource.handler outcome event s.tables).1⟩
        ⟨(resource.handler outcome event s.tables).2,
          event.next (resource.handler outcome event s.tables).1.status⟩

namespace Resource

variable (resource : Resource)

def stackValue? (tables : Tables) (key : String) : Option (Option Attribute) :=
  ((tables.clusterSettings.get? (resource.configKey key)).filter
    (·.source = some "stack")).map (·.value)

def status? (tables : Tables) : Option String :=
  (tables.modules.get? resource.moduleId.text).bind (·.status)

/-- No entry and no row of another module has changed. -/
def SameElsewhere (tables₀ tables : Tables) : Prop :=
  (∀ key, moduleOf key ≠ resource.moduleId.text.toList →
    tables.clusterSettings.get? key = tables₀.clusterSettings.get? key) ∧
  ∀ id, id ≠ resource.moduleId.text → tables.modules.get? id = tables₀.modules.get? id

/-- The entries of the module that come from the stack are the settings, and the module has the
status. -/
structure Holds (tables : Tables) (settings : Dict String PyValue) (status : String) : Prop where
  stackSettings : ∀ key, resource.stackValue? tables key =
    (settings.get? key).map fun value => some (attributeOf value)
  status : resource.status? tables = some status

/-- The entries of the module that come from the stack are among some keys, and nothing of another
module has changed. -/
structure Confined (keys : List String) (tables₀ tables : Tables) : Prop where
  within : ∀ key, resource.stackValue? tables key ≠ none → key ∈ keys
  elsewhere : resource.SameElsewhere tables₀ tables

variable {resource}

theorem configKey_inj {key key' : String} :
    resource.configKey key = resource.configKey key' ↔ key = key' := by
  refine ⟨fun h => ?_, congrArg _⟩
  have hlist := congrArg String.toList h
  simp only [configKey, String.toList_append] at hlist
  exact String.toList_injective (List.append_cancel_left hlist)

theorem moduleOf_configKey (key : String) :
    moduleOf (resource.configKey key) = resource.moduleId.text.toList := by
  have hdot : ∀ c ∈ resource.moduleId.text.toList, decide (c ≠ '.') = true := fun c hc =>
    decide_eq_true fun h => resource.moduleId.noDot (h ▸ hc)
  rw [moduleOf, configKey, String.toList_append, String.toList_append, List.append_assoc,
    List.takeWhile_append_of_pos hdot]
  simp

def written (resource : Resource) (key : String) (value : Attribute) (t : Tables) : Tables :=
  { t with clusterSettings :=
      updateSourcedItem (resource.configKey key) value "stack" t.clusterSettings }

def deleted (resource : Resource) (key : String) (t : Tables) : Tables :=
  { t with clusterSettings := t.clusterSettings.erase (resource.configKey key) }

theorem stackValue?_written (key key' : String) (value : Attribute) (t : Tables) :
    resource.stackValue? (resource.written key value t) key' =
      if key' = key then some (some value) else resource.stackValue? t key' := by
  simp only [stackValue?, written, updateSourcedItem, Dict.get?_set, configKey_inj]
  split <;> simp

theorem stackValue?_deleted (key key' : String) (t : Tables) :
    resource.stackValue? (resource.deleted key t) key' =
      if key' = key then none else resource.stackValue? t key' := by
  simp only [stackValue?, deleted, Dict.get?_erase, configKey_inj]
  split <;> simp

theorem SameElsewhere.of_entry {t₀ t t' : Tables} (h : resource.SameElsewhere t₀ t) (key : String)
    (hkey : ∀ key', key' ≠ resource.configKey key →
      t'.clusterSettings.get? key' = t.clusterSettings.get? key')
    (hmodules : t'.modules = t.modules) : resource.SameElsewhere t₀ t' := by
  refine ⟨fun key' hne => ?_, fun id hid => hmodules ▸ h.2 id hid⟩
  rw [← h.1 key' hne]
  refine hkey key' ?_
  rintro rfl
  exact hne (moduleOf_configKey key)

namespace Confined

variable {keys : List String} {t₀ t : Tables} (h : resource.Confined keys t₀ t)
include h

theorem written {key : String} (hkey : key ∈ keys) (value : Attribute) :
    resource.Confined keys t₀ (resource.written key value t) where
  within key' hne := by
    rw [stackValue?_written] at hne
    split at hne
    · next he => exact he ▸ hkey
    · exact h.within key' hne
  elsewhere := h.elsewhere.of_entry key (fun _ hne => Dict.get?_set_ne _ hne _) rfl

theorem deleted (key : String) : resource.Confined keys t₀ (resource.deleted key t) where
  within key' hne := by
    rw [stackValue?_deleted] at hne
    split at hne
    · exact absurd rfl hne
    · exact h.within key' hne
  elsewhere := h.elsewhere.of_entry key (fun _ hne => Dict.get?_erase_ne _ hne) rfl

theorem updateModule (status : String) (stackName version : Option String) :
    resource.Confined keys t₀ { t with
      modules := updateModuleRow resource.moduleId.text status stackName version t.modules } where
  within := h.within
  elsewhere := ⟨h.elsewhere.1, fun id hid => by
    rw [← h.elsewhere.2 id hid]
    exact Dict.get?_set_ne _ hid _⟩

theorem of_subset {keys' : List String} (hkeys : keys ⊆ keys') :
    resource.Confined keys' t₀ t :=
  ⟨fun key hne => hkeys (h.within key hne), h.elsewhere⟩

end Confined

section Loops

variable {outcome : ℕ → CallOutcome Raised} {keys : List String} {t₀ : Tables}

theorem triple_writeSettings {settings : Dict String PyValue} (hkeys : settings.keys ⊆ keys) :
    Stateful.Triple (fun s => resource.Confined keys t₀ s.store)
      (Stateful.forEach (resource.writeSetting outcome) settings.entries)
      (fun _ s => resource.Confined keys t₀ s.store ∧ ∀ e ∈ settings.entries,
        resource.stackValue? s.store e.1 = some (some (attributeOf e.2)))
      fun _ s => resource.Confined keys t₀ s.store := by
  let I (done : List (String × PyValue)) (t : Tables) : Prop :=
    resource.Confined keys t₀ t ∧ done ⊆ settings.entries ∧
      ∀ e ∈ done, resource.stackValue? t e.1 = some (some (attributeOf e.2))
  have hloop : Stateful.Triple (fun s : Served Tables => I [] s.store)
      (Stateful.forEach (resource.writeSetting outcome) settings.entries)
      (fun _ s => I ([] ++ settings.entries) s.store)
      fun _ s => resource.Confined keys t₀ s.store := by
    refine .forEach_rounds (I := fun done (s : Served Tables) => I done s.store)
      fun setting hsetting done => ?_
    have hkey : setting.1 ∈ keys := hkeys (List.mem_map_of_mem hsetting)
    refine .bind (Q := fun value s => value = attributeOf setting.2 ∧ I done s.store)
      (.ofExcept (fun value s hvalue hs => ⟨?_, hs⟩) fun _ s _ hs => hs.1) fun value => ?_
    · rw [serialize] at hvalue
      split at hvalue
      · cases hvalue
      · exact (Except.ok.inj hvalue).symm
    · refine Stateful.Triple.of_forall fun s hs => ?_
      obtain ⟨rfl, hs⟩ := hs
      refine .of_state (P := fun s => I done s.store) hs ?_
      refine Served.triple_call (P := I done) (Q := fun _ => I (done ++ [setting]))
        (E := fun _ => resource.Confined keys t₀) ?_ (fun _ _ hs => hs.1)
        fun _ _ hs => hs.1.written hkey _
      -- No other setting has the same key, so that what was written before stays.
      rintro t ⟨ht, hdone, hwritten⟩
      refine ⟨ht.written hkey _, ?_, fun e he => ?_⟩
      · exact List.append_subset.mpr ⟨hdone, List.cons_subset.mpr ⟨hsetting, List.nil_subset _⟩⟩
      · refine (stackValue?_written setting.1 e.1 _ t).trans ?_
        rcases List.mem_append.mp he with he | he
        · split
          · next hsame =>
            have hvalue := Dict.get?_of_mem_entries (hdone he)
            rw [hsame, Dict.get?_of_mem_entries hsetting] at hvalue
            rw [Option.some.inj hvalue]
          · exact hwritten e he
        · rw [List.mem_singleton.mp he, if_pos rfl]
  refine hloop.consequence (fun s hs => ⟨hs, List.nil_subset _, fun e he => ?_⟩)
    (fun _ s hs => ⟨hs.1, hs.2.2⟩) fun _ _ h => h
  exact absurd he List.not_mem_nil

theorem triple_deleteSettings (gone : List String) {t : Tables} (ht : resource.Confined keys t₀ t) :
    Stateful.Triple (fun s => s.store = t)
      (Stateful.forEach (resource.deleteSetting outcome) gone)
      (fun _ s => resource.Confined keys t₀ s.store ∧ s.store.modules = t.modules ∧
        ∀ key, resource.stackValue? s.store key =
          if key ∈ gone then none else resource.stackValue? t key)
      fun _ s => resource.Confined keys t₀ s.store := by
  let I (done : List String) (t' : Tables) : Prop :=
    resource.Confined keys t₀ t' ∧ t'.modules = t.modules ∧
      ∀ key, resource.stackValue? t' key =
        if key ∈ done then none else resource.stackValue? t key
  have hloop : Stateful.Triple (fun s : Served Tables => I [] s.store)
      (Stateful.forEach (resource.deleteSetting outcome) gone) (fun _ s => I ([] ++ gone) s.store)
      fun _ s => resource.Confined keys t₀ s.store := by
    refine .forEach_rounds (I := fun done (s : Served Tables) => I done s.store)
      fun key _ done => ?_
    refine Served.triple_call (P := I done) (Q := fun _ => I (done ++ [key]))
      (E := fun _ => resource.Confined keys t₀) ?_ (fun _ _ hs => hs.1) fun _ _ hs => hs.1.deleted key
    rintro t' ⟨hconfined, hmodules, hvalue⟩
    refine ⟨hconfined.deleted key, hmodules, fun key' => ?_⟩
    refine (stackValue?_deleted key key' t').trans ?_
    rw [hvalue key']
    simp only [List.mem_append, List.mem_singleton]
    split_ifs <;> tauto
  exact hloop.consequence (fun s hs => by subst hs; exact ⟨ht, rfl, fun key => rfl⟩)
    (fun _ _ h => h) fun _ _ h => h

theorem triple_updateModule {P Q : Tables → Prop} {status : String}
    {stackName version : Option String} (hP : ∀ t, P t → resource.Confined keys t₀ t)
    (hQ : ∀ t, P t → Q { t with
      modules := updateModuleRow resource.moduleId.text status stackName version t.modules }) :
    Stateful.Triple (fun s => P s.store)
      (resource.updateModule outcome status stackName version) (fun _ s => Q s.store)
      fun _ s => resource.Confined keys t₀ s.store :=
  Served.triple_call (Q := fun _ => Q) (E := fun _ => resource.Confined keys t₀) hQ
    (fun _ t ht => hP t ht) fun _ t ht => (hP t ht).updateModule _ _ _

theorem status?_updateModule (status : String) (stackName version : Option String) (t : Tables) :
    resource.status? { t with
      modules := updateModuleRow resource.moduleId.text status stackName version t.modules } =
        some status := by
  simp [status?, updateModuleRow, Dict.get?_set]

/-- An update that ends normally leaves exactly its settings, if what was there is among them or
among the old ones. -/
theorem triple_applyUpdate {properties : Properties} {old : Option Properties}
    (hkeys : ∀ settings, properties.settings = some settings → settings.keys ⊆ keys)
    (hold : ∀ key ∈ keys, key ∈ (properties.settings.getD ∅).keys ∨
      ∃ old', old = some old' ∧ key ∈ (old'.settings.getD ∅).keys) :
    Stateful.Triple (fun s => resource.Confined keys t₀ s.store)
      (resource.applyUpdate outcome properties old)
      (fun _ s => resource.SameElsewhere t₀ s.store ∧
        resource.Holds s.store (properties.settings.getD ∅) "deployed")
      fun _ s => resource.Confined keys t₀ s.store := by
  rw [applyUpdate]
  refine .bind (Q := fun settings s => properties.settings = some settings ∧
    resource.Confined keys t₀ s.store)
    (.ofExcept (fun settings s hsettings hs => ⟨?_, hs⟩) fun _ s _ hs => hs) fun settings => ?_
  · cases hp : properties.settings with
    | none => rw [hp] at hsettings; cases hsettings
    | some settings' => rw [hp] at hsettings; rw [Except.ok.inj hsettings]
  refine Stateful.Triple.of_forall fun s hs => ?_
  obtain ⟨hsettings, hs⟩ := hs
  refine .of_state (P := fun s => resource.Confined keys t₀ s.store) hs ?_
  refine .bind (triple_writeSettings (hkeys settings hsettings)) fun _ => ?_
  refine .bind (triple_updateModule
    (P := fun t => resource.Confined keys t₀ t ∧ ∀ e ∈ settings.entries,
      resource.stackValue? t e.1 = some (some (attributeOf e.2)))
    (Q := fun t => resource.Confined keys t₀ t ∧ resource.status? t = some "deployed" ∧
      ∀ e ∈ settings.entries, resource.stackValue? t e.1 = some (some (attributeOf e.2)))
    (fun t ht => ht.1)
    fun t ht => ⟨ht.1.updateModule _ _ _, status?_updateModule _ _ _ t, ht.2⟩) fun _ => ?_
  refine Stateful.Triple.of_forall fun s hs => ?_
  obtain ⟨hconfined, hstatus, hwritten⟩ := hs
  refine (triple_deleteSettings (settingsToDelete settings old) hconfined).consequence
    (fun s' hs' => by rw [hs']) (fun _ s' hs' => ?_) fun _ _ h => h
  obtain ⟨hc, hmodules, hvalue⟩ := hs'
  refine ⟨hc.elsewhere, ?_, ?_⟩
  · intro key
    rw [hvalue key, hsettings, Option.getD_some]
    cases hget : settings.get? key with
    | some value =>
      have hkey : key ∈ settings.keys := Dict.mem_keys_of_get? hget
      have hkept : key ∉ settingsToDelete settings old := by
        cases old with
        | none => exact List.not_mem_nil
        | some old => exact fun h => by simp [settingsToDelete, hkey] at h
      rw [if_neg hkept, hwritten _ (Dict.mem_entries_of_get? hget)]
      rfl
    | none =>
      -- A key that is none of the settings was among the old ones and is deleted.
      have hkey : key ∉ settings.keys := Dict.get?_eq_none.mp hget
      split
      · rfl
      · next hnot =>
        by_contra hne
        rcases hold key (hconfined.within key hne) with h | ⟨old', rfl, h⟩
        · rw [hsettings] at h
          exact hkey h
        · exact hnot (List.mem_filter.mpr ⟨h, decide_eq_true hkey⟩)
  · rw [status?, hmodules]
    exact hstatus

theorem triple_applyDelete {properties : Properties}
    (hkeys : ∀ key ∈ keys, key ∈ (properties.settings.getD ∅).keys) :
    Stateful.Triple (fun s => resource.Confined keys t₀ s.store)
      (resource.applyDelete outcome properties)
      (fun _ s => resource.SameElsewhere t₀ s.store ∧ resource.Holds s.store ∅ "not-deployed")
      fun _ s => resource.Confined keys t₀ s.store := by
  rw [applyDelete]
  refine .bind (Q := fun settings s => properties.settings = some settings ∧
    resource.Confined keys t₀ s.store)
    (.ofExcept (fun settings s hsettings hs => ⟨?_, hs⟩) fun _ s _ hs => hs) fun settings => ?_
  · cases hp : properties.settings with
    | none => rw [hp] at hsettings; cases hsettings
    | some settings' => rw [hp] at hsettings; rw [Except.ok.inj hsettings]
  refine Stateful.Triple.of_forall fun s hs => ?_
  obtain ⟨hsettings, hs⟩ := hs
  refine .bind ((triple_deleteSettings settings.keys hs).pre fun s' hs' => by rw [hs'])
    fun _ => ?_
  refine (triple_updateModule
    (P := fun t => resource.Confined keys t₀ t ∧ ∀ key, resource.stackValue? t key = none)
    (Q := fun t => resource.SameElsewhere t₀ t ∧ resource.Holds t ∅ "not-deployed")
    (fun t ht => ht.1) fun t ht => ⟨(ht.1.updateModule _ _ _).elsewhere, fun key => ht.2 key,
      status?_updateModule _ _ _ t⟩).pre fun s' hs' => ⟨hs'.1, fun key => ?_⟩
  rw [hs'.2.2 key]
  split
  · rfl
  · next hnot =>
    by_contra hne
    have hkey := hkeys key (hs.within key hne)
    rw [hsettings] at hkey
    exact hnot hkey

end Loops

end Resource

def Properties.keys (properties : Properties) : List String := (properties.settings.getD ∅).keys

def Phase.keys : Phase → List String
  | absent => []
  | settled properties => properties.keys
  | between old new => old.keys ++ new.keys
  | deleting properties => properties.keys

namespace Event

def settings (event : Event) : Dict String PyValue :=
  if event.requestType = .Delete then ∅ else event.resourceProperties.settings.getD ∅

def status (event : Event) : String :=
  if event.requestType = .Delete then "not-deployed" else "deployed"

end Event

namespace Resource

variable {resource : Resource}

structure Leaves (resource : Resource) (t₀ : Tables) (event : Event) (status : CfnResponseStatus)
    (t : Tables) : Prop where
  holds : status = .SUCCESS → resource.Holds t event.settings event.status
  elsewhere : resource.SameElsewhere t₀ t
  confined : resource.Confined (event.next status).keys t₀ t

theorem Holds.confined {t₀ t : Tables} {settings : Dict String PyValue} {status : String}
    (h : resource.Holds t settings status) (helsewhere : resource.SameElsewhere t₀ t) :
    resource.Confined settings.keys t₀ t := by
  refine ⟨fun key hne => ?_, helsewhere⟩
  rw [h.stackSettings key] at hne
  exact Dict.get?_isSome.mp (by simpa [Option.ne_none_iff_isSome] using hne)

section

variable {outcome : ℕ → CallOutcome Raised} {t₀ t : Tables}

theorem leaves_of_triple {event : Event} {x : Stateful (Served Tables) Raised Unit}
    {failed : List String}
    (h : Stateful.Triple (fun s => s.store = t) x
      (fun _ s => resource.SameElsewhere t₀ s.store ∧
        resource.Holds s.store event.settings event.status)
      fun _ s => resource.Confined failed t₀ s.store)
    (hx : resource.applyEvent outcome event = x)
    (hsuccess : (event.next .SUCCESS).keys = event.settings.keys)
    (hfailed : (event.next .FAILED).keys = failed) :
    resource.Leaves t₀ event (resource.handler outcome event t).1.status
      (resource.handler outcome event t).2 := by
  rw [handler, hx]
  rcases hrun : x.run ⟨t, 0⟩ with ⟨_ | _, s⟩
  · have hconfined := h.error rfl hrun
    exact ⟨fun h => (by cases h), hconfined.elsewhere, hfailed ▸ hconfined⟩
  · obtain ⟨helsewhere, hholds⟩ := h.ok rfl hrun
    exact ⟨fun _ => hholds, helsewhere, hsuccess ▸ hholds.confined helsewhere⟩

theorem leaves_update {keys : List String} {old new : Properties}
    (hkeys : keys ⊆ old.keys ++ new.keys) (h : resource.Confined keys t₀ t) :
    resource.Leaves t₀ ⟨.Update, new, some old⟩
      (resource.handler outcome ⟨.Update, new, some old⟩ t).1.status
      (resource.handler outcome ⟨.Update, new, some old⟩ t).2 := by
  have hnew : ∀ settings, new.settings = some settings → settings.keys ⊆ old.keys ++ new.keys := by
    intro settings hs
    rw [Properties.keys, Properties.keys, hs]
    exact List.subset_append_right _ _
  have hboth : ∀ key ∈ old.keys ++ new.keys, key ∈ new.keys ∨
      ∃ old', some old = some old' ∧ key ∈ old'.keys := fun key hkey =>
    (List.mem_append.mp hkey).elim (fun h => .inr ⟨old, rfl, h⟩) .inl
  refine leaves_of_triple ((triple_applyUpdate hnew hboth).pre fun s hs => ?_) rfl rfl rfl
  rw [hs]
  exact h.of_subset hkeys

theorem leaves_create {new : Properties} (h : resource.Confined [] t₀ t) :
    resource.Leaves t₀ ⟨.Create, new, none⟩
      (resource.handler outcome ⟨.Create, new, none⟩ t).1.status
      (resource.handler outcome ⟨.Create, new, none⟩ t).2 := by
  have hnew : ∀ settings, new.settings = some settings → settings.keys ⊆ new.keys := by
    intro settings hs
    rw [Properties.keys, hs]
    exact List.Subset.refl _
  have hboth : ∀ key ∈ new.keys, key ∈ new.keys ∨
      ∃ old', (none : Option Properties) = some old' ∧ key ∈ old'.keys := fun key hkey => .inl hkey
  refine leaves_of_triple ((triple_applyUpdate hnew hboth).pre fun s hs => ?_) rfl rfl rfl
  rw [hs]
  exact h.of_subset (List.nil_subset _)

theorem leaves_delete {old : Properties} (h : resource.Confined old.keys t₀ t) :
    resource.Leaves t₀ ⟨.Delete, old, none⟩
      (resource.handler outcome ⟨.Delete, old, none⟩ t).1.status
      (resource.handler outcome ⟨.Delete, old, none⟩ t).2 := by
  have hkeys : ∀ key ∈ old.keys, key ∈ old.keys := fun _ hkey => hkey
  refine leaves_of_triple ((triple_applyDelete hkeys).pre fun s hs => ?_) rfl rfl rfl
  rwa [hs]

theorem leaves_of_issues {phase : Phase} {event : Event} (hissues : Issues phase event)
    (h : resource.Confined phase.keys t₀ t) :
    resource.Leaves t₀ event (resource.handler outcome event t).1.status
      (resource.handler outcome event t).2 := by
  cases hissues with
  | create new => exact leaves_create h
  | update old new => exact leaves_update (List.subset_append_left _ _) h
  | delete old => exact leaves_delete h
  | back old new =>
    refine leaves_update (fun key hkey => ?_) h
    exact List.mem_append.mpr (List.mem_append.mp hkey).symm
  | again old new => exact leaves_update (List.Subset.refl _) h
  | clean old => exact leaves_delete h

end

/-- What an event that is answered with success leaves, and that other modules see nothing of any
event. -/
def Follows (resource : Resource) (t₀ : Tables) (e : Edge Deployment Answered) : Prop :=
  (e.label.response.status = .SUCCESS →
    resource.Holds e.post.tables e.label.event.settings e.label.event.status) ∧
  resource.SameElsewhere t₀ e.post.tables

/-- In a run of events that starts without entries of the stack, whatever calls fail, each event
that is answered with success leaves the entries of the stack and the status that it asks for. -/
theorem events_settle {t₀ : Tables} (hfresh : ∀ key, resource.stackValue? t₀ key = none)
    {edges : List (Edge Deployment Answered)} {s : Deployment}
    (hrun : Run resource.Step ⟨t₀, .absent⟩ edges s) : ∀ e ∈ edges, resource.Follows t₀ e := by
  have hstart : resource.Confined Phase.absent.keys t₀ t₀ :=
    ⟨fun key hne => absurd (hfresh key) hne, fun _ _ => rfl, fun _ _ => rfl⟩
  refine hrun.forall_edges (fun s => resource.Confined s.phase.keys t₀ s.tables) hstart ?_ ?_
  · rintro s _ _ h ⟨outcome, hissues⟩
    exact (leaves_of_issues hissues h).confined
  · rintro s _ _ h ⟨outcome, hissues⟩
    exact ⟨(leaves_of_issues hissues h).holds, (leaves_of_issues hissues h).elsewhere⟩

def sample : Resource := ⟨"idea-test", ⟨"vdc", by decide⟩⟩

def sampleProperties : Properties :=
  ⟨some "3.1.0", some ((∅ : Dict String PyValue).set "deployment_id" (.str "a"))⟩

theorem events_settle_back : ∃ edges s,
    Run sample.Step ⟨⟨∅, ∅⟩, .absent⟩ edges s ∧ edges.length = 3 ∧
      ∀ e ∈ edges, sample.Follows ⟨∅, ∅⟩ e := by
  let removed : Properties := ⟨some "3.1.1", some ∅⟩
  let refusing (n : ℕ) : CallOutcome Raised := if n = 1 then .refused .external else .done
  -- The setting is written, its removal fails, and the properties before it come back.
  have hcreate : Run sample.Step ⟨⟨∅, ∅⟩, .absent⟩ _ _ :=
    .single (.mk (fun _ => .done) (.create sampleProperties))
  have hupdate := Run.snoc hcreate (.mk refusing (.update sampleProperties removed))
  have hback := Run.snoc hupdate (.mk (fun _ => .done) (.back sampleProperties removed))
  exact ⟨_, _, hback, rfl, events_settle (fun _ => rfl) hback⟩

end Resource

end Idea.Settings

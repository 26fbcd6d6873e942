import Idea.Settings.ClusterConfigDB

/-! # The settings that the web interface may change

A request carries a nested dictionary of settings of a module. It is flattened twice: once to check
that every path is one that may be changed, and once to write an entry for each path. The check
passes over empty keys at the top, the writer does not.
-/

namespace Idea.Settings

mutual

/-- No two entries of a dictionary have the same key. -/
def Distinct : PyValue → Prop
  | .list items => AllDistinct items
  | .dict entries => (entries.map Prod.fst).Nodup ∧ NamedDistinct entries
  | _ => True

def AllDistinct : List PyValue → Prop
  | [] => True
  | item :: items => Distinct item ∧ AllDistinct items

def NamedDistinct : List (String × PyValue) → Prop
  | [] => True
  | (_, value) :: entries => Distinct value ∧ NamedDistinct entries

end

structure UpdateModuleSettingsRequest where
  moduleId : Option String
  settings : Option PyValue
  distinct : ∀ value, settings = some value → Distinct value

def joined ( pathPrefix key : String) : String :=
  if pathPrefix = "" then key else pathPrefix ++ "." ++ key

mutual

def getPathsOfValue (path : String) : PyValue → List String
  | .dict entries => getSettingPaths path entries
  | _ => [path]

def getSettingPaths ( pathPrefix : String) : List (String × PyValue) → List String
  | [] => []
  | (key, value) :: entries =>
    getPathsOfValue (joined pathPrefix key) value ++ getSettingPaths pathPrefix entries

end

def getAllowedSettingsForModule (moduleId : String) : List String :=
  if moduleId = "vdc" then [
    "dcv_session.idle_timeout",
    "dcv_session.idle_timeout_warning",
    "dcv_session.cpu_utilization_threshold",
    "dcv_session.idle_autostop_delay",
    "dcv_session.additional_security_groups",
    "dcv_session.max_root_volume_memory",
    "dcv_session.instance_types.allow",
    "dcv_session.instance_types.deny",
    "dcv_session.network.subnet_autoretry",
    "dcv_session.network.randomize_subnets",
    "dcv_session.network.private_subnets",
    "dcv_session.working_hours.start_up_time",
    "dcv_session.working_hours.shut_down_time",
    "dcv_session.schedule.monday.type",
    "dcv_session.schedule.monday.start_up_time",
    "dcv_session.schedule.monday.shut_down_time",
    "dcv_session.schedule.tuesday.type",
    "dcv_session.schedule.tuesday.start_up_time",
    "dcv_session.schedule.tuesday.shut_down_time",
    "dcv_session.schedule.wednesday.type",
    "dcv_session.schedule.wednesday.start_up_time",
    "dcv_session.schedule.wednesday.shut_down_time",
    "dcv_session.schedule.thursday.type",
    "dcv_session.schedule.thursday.start_up_time",
    "dcv_session.schedule.thursday.shut_down_time",
    "dcv_session.schedule.friday.type",
    "dcv_session.schedule.friday.start_up_time",
    "dcv_session.schedule.friday.shut_down_time",
    "dcv_session.schedule.saturday.type",
    "dcv_session.schedule.saturday.start_up_time",
    "dcv_session.schedule.saturday.shut_down_time",
    "dcv_session.schedule.sunday.type",
    "dcv_session.schedule.sunday.start_up_time",
    "dcv_session.schedule.sunday.shut_down_time"]
  else []

/-- The entries of a dictionary, and `obj.items()` of another value. -/
def itemsOf : PyValue → Except Raised (List (String × PyValue))
  | .dict entries => .ok entries
  | _ => .error .attributeError

def validateSettingsAllowed (moduleId : String) (settings : List (String × PyValue)) :
    Except Raised Unit :=
  let allowedPaths := getAllowedSettingsForModule moduleId
  let invalidPaths := (getSettingPaths "" settings).filter (· ∉ allowedPaths)
  if invalidPaths = [] then .ok ()
  else .error (invalidParams ("The following settings are not allowed to be updated via web UI: " ++
    ", ".intercalate invalidPaths ++ ". Allowed settings for " ++ moduleId ++ ": " ++
    ", ".intercalate allowedPaths))

def isCompound (key : String) : Bool := key.toList.any fun c => c = '.' || c = ':'

mutual

def traverseValue (path : String) : PyValue → Except Raised (List (String × PyValue))
  | .dict entries => traverseConfigToEntries path entries
  | value => .ok [(path, value)]

def traverseConfigToEntries ( pathPrefix : String) :
    List (String × PyValue) → Except Raised (List (String × PyValue))
  | [] => .ok []
  | (key, value) :: entries =>
    if isCompound key then
      .error (invalidParams ("Config key name: " ++ key ++ " under: " ++ pathPrefix ++
        " cannot contain a dot(.), colon(:) or comma(,)"))
    else
      traverseValue (joined pathPrefix key) value >>= fun first =>
        traverseConfigToEntries pathPrefix entries >>= fun rest => .ok (first ++ rest)

end

def UNAUTHORIZED_ACCESS : String := "UNAUTHORIZED_ACCESS"

def requireElevatedAccess (authorized : Bool) : Except Raised Unit :=
  if authorized then .ok () else .error (.soca UNAUTHORIZED_ACCESS "Unauthorized Access")

def requireModuleId (moduleId : Option String) : Except Raised String :=
  if isEmptyString moduleId then .error (invalidParams "module_id is required")
  else .ok (moduleId.getD "")

def requireSettings (settings : Option PyValue) : Except Raised PyValue :=
  match settings with
  | none => .error (invalidParams "settings is required")
  | some settings => .ok settings

def configEntriesOf (authorized : Bool) (request : UpdateModuleSettingsRequest) :
    Except Raised (List (String × PyValue)) := do
  requireElevatedAccess authorized
  let moduleId ← requireModuleId request.moduleId
  let settings ← requireSettings request.settings
  let items ← itemsOf settings
  validateSettingsAllowed moduleId items
  traverseConfigToEntries moduleId items

/-- `update_module_settings`, for a caller with elevated access or without. -/
def updateModuleSettings (outcome : ℕ → CallOutcome Raised) (authorized : Bool)
    (request : UpdateModuleSettingsRequest) :
    Stateful (Served ClusterSettings) Raised Unit := do
  let configEntries ← Stateful.ofExcept (configEntriesOf authorized request)
  syncClusterSettingsInDb outcome configEntries true

mutual

def leavesOfValue : PyValue → List (List String × PyValue)
  | .dict entries => leaves entries
  | value => [([], value)]

def leaves : List (String × PyValue) → List (List String × PyValue)
  | [] => []
  | (key, value) :: entries =>
    (leavesOfValue value).map (fun leaf => (key :: leaf.1, leaf.2)) ++ leaves entries

end

def dotted : List String → String
  | [] => ""
  | [key] => key
  | key :: keys => key ++ "." ++ dotted keys

mutual

theorem getPathsOfValue_eq (value : PyValue) (path : String) :
    getPathsOfValue path value = (leavesOfValue value).map fun leaf => leaf.1.foldl joined path := by
  cases value with
  | dict entries => exact getSettingPaths_eq entries path
  | _ => rfl

theorem getSettingPaths_eq (entries : List (String × PyValue)) ( pathPrefix : String) :
    getSettingPaths pathPrefix entries =
      (leaves entries).map fun leaf => leaf.1.foldl joined pathPrefix := by
  cases entries with
  | nil => rfl
  | cons entry entries =>
    obtain ⟨key, value⟩ := entry
    rw [getSettingPaths, getPathsOfValue_eq value, getSettingPaths_eq entries, leaves,
      List.map_append, List.map_map]
    rfl

end

mutual

/-- No key of a dictionary would be taken apart. -/
def PlainValue : PyValue → Prop
  | .dict entries => PlainKeys entries
  | _ => True

def PlainKeys : List (String × PyValue) → Prop
  | [] => True
  | (key, value) :: entries => isCompound key = false ∧ PlainValue value ∧ PlainKeys entries

end

mutual

theorem traverseValue_ok (value : PyValue) (path : String) (written : List (String × PyValue)) :
    traverseValue path value = .ok written ↔
      PlainValue value ∧ written =
        (leavesOfValue value).map fun leaf => (leaf.1.foldl joined path, leaf.2) := by
  cases value with
  | dict entries => exact traverseConfigToEntries_ok entries path written
  | _ => exact ⟨fun h => ⟨trivial, (Except.ok.inj h).symm⟩, fun h => congrArg Except.ok h.2.symm⟩

theorem traverseConfigToEntries_ok (entries : List (String × PyValue)) ( pathPrefix : String)
    (written : List (String × PyValue)) :
    traverseConfigToEntries pathPrefix entries = .ok written ↔
      PlainKeys entries ∧ written =
        (leaves entries).map fun leaf => (leaf.1.foldl joined pathPrefix, leaf.2) := by
  cases entries with
  | nil => exact ⟨fun h => ⟨trivial, (Except.ok.inj h).symm⟩, fun h => congrArg Except.ok h.2.symm⟩
  | cons entry entries =>
    obtain ⟨key, value⟩ := entry
    have hvalue := traverseValue_ok value (joined pathPrefix key)
    have hentries := traverseConfigToEntries_ok entries pathPrefix
    rw [traverseConfigToEntries, PlainKeys, leaves, List.map_append, List.map_map]
    split
    · next hcompound =>
      refine ⟨fun h => (by cases h), fun h => ?_⟩
      rw [hcompound] at h
      cases h.1.1
    · next hcompound =>
      rw [Bool.not_eq_true] at hcompound
      simp only [Raised.bind_eq_ok, hvalue, hentries]
      constructor
      · rintro ⟨_, ⟨hplain, rfl⟩, _, ⟨hplains, rfl⟩, h⟩
        exact ⟨⟨hcompound, hplain, hplains⟩, (Except.ok.inj h).symm⟩
      · rintro ⟨⟨-, hplain, hplains⟩, rfl⟩
        exact ⟨_, ⟨hplain, rfl⟩, _, ⟨hplains, rfl⟩, rfl⟩

end

theorem dotted_cons (key : String) {keys : List String} (h : keys ≠ []) :
    dotted (key :: keys) = key ++ "." ++ dotted keys := by
  cases keys with
  | nil => exact absurd rfl h
  | cons _ _ => rfl

theorem toList_dotted (path : List String) :
    (dotted path).toList = ['.'].intercalate (path.map String.toList) := by
  induction path with
  | nil => rfl
  | cons key keys ih =>
    cases keys with
    | nil => simp [dotted]
    | cons next keys =>
      rw [dotted_cons key (List.cons_ne_nil _ _), String.toList_append, String.toList_append, ih]
      simp only [List.map_cons, List.intercalate_cons_cons]
      rfl

theorem splitOn_dotted {path : List String} (hpath : path ≠ [])
    (hdots : ∀ key ∈ path, '.' ∉ key.toList) :
    (dotted path).toList.splitOn '.' = path.map String.toList := by
  rw [toList_dotted, List.splitOn_intercalate]
  · simpa using hdots
  · simpa using hpath

theorem dotted_injective {path path' : List String} (hpath : path ≠ []) (hpath' : path' ≠ [])
    (hdots : ∀ key ∈ path, '.' ∉ key.toList) (hdots' : ∀ key ∈ path', '.' ∉ key.toList)
    (h : dotted path = dotted path') : path = path' := by
  have hlists := (splitOn_dotted hpath hdots).symm.trans (h ▸ splitOn_dotted hpath' hdots')
  exact List.map_injective_iff.mpr (fun _ _ h => String.toList_injective h) hlists

theorem foldl_joined { pathPrefix : String} (h : pathPrefix ≠ "") {path : List String}
    (hpath : path ≠ []) : path.foldl joined pathPrefix = pathPrefix ++ "." ++ dotted path := by
  induction path generalizing pathPrefix with
  | nil => exact absurd rfl hpath
  | cons key keys ih =>
    rw [List.foldl_cons, joined, if_neg h]
    cases keys with
    | nil => rfl
    | cons next keys =>
      rw [ih (by simp) (List.cons_ne_nil _ _), dotted_cons key (List.cons_ne_nil _ _)]
      simp [String.append_assoc]

theorem foldl_joined_empty (path : List String) :
    path.foldl joined "" = dotted (path.dropWhile (· = "")) := by
  induction path with
  | nil => rfl
  | cons key keys ih =>
    rw [List.foldl_cons, joined, if_pos rfl]
    by_cases hkey : key = ""
    · rw [hkey, ih, List.dropWhile_cons_of_pos (by simp)]
    · rw [List.dropWhile_cons_of_neg (by simpa using hkey)]
      cases keys with
      | nil => rfl
      | cons next keys =>
        rw [foldl_joined hkey (List.cons_ne_nil _ _), dotted_cons key (List.cons_ne_nil _ _)]

variable {moduleId : String}

theorem exists_ofList_of_allowed :
    ∀ text ∈ getAllowedSettingsForModule moduleId, ∃ cs, text = String.ofList ('d' :: cs) := by
  unfold getAllowedSettingsForModule
  split
  · simp only [List.forall_mem_cons]
    repeat' apply And.intro
    all_goals first | exact ⟨_, rfl⟩ | exact fun _ h => absurd h List.not_mem_nil
  · exact fun _ h => absurd h List.not_mem_nil

theorem head_of_allowed {path : List String}
    (h : dotted path ∈ getAllowedSettingsForModule moduleId) : path.head? ≠ some "" := by
  intro hhead
  obtain ⟨keys, rfl⟩ : ∃ keys, path = "" :: keys := by
    cases path with
    | nil => cases hhead
    | cons key keys => exact ⟨keys, by rw [Option.some.inj hhead]⟩
  obtain ⟨cs, hcs⟩ := exists_ofList_of_allowed _ h
  have hlist := congrArg String.toList hcs
  cases keys with
  | nil => simp [dotted] at hlist
  | cons next keys =>
    rw [dotted_cons "" (List.cons_ne_nil _ _)] at hlist
    simp at hlist

theorem exists_cons_of_mem_leaves {entries : List (String × PyValue)}
    {leaf : List String × PyValue} (h : leaf ∈ leaves entries) :
    ∃ key ∈ entries.map Prod.fst, ∃ keys, leaf.1 = key :: keys := by
  induction entries with
  | nil => exact absurd h List.not_mem_nil
  | cons entry entries ih =>
    rw [leaves, List.mem_append, List.mem_map] at h
    rcases h with ⟨inner, -, rfl⟩ | h
    · exact ⟨entry.1, List.mem_cons_self, inner.1, rfl⟩
    · obtain ⟨key, hkey, hcons⟩ := ih h
      exact ⟨key, List.mem_cons_of_mem _ hkey, hcons⟩

mutual

theorem nodup_leavesOfValue (value : PyValue) (h : Distinct value) :
    ((leavesOfValue value).map Prod.fst).Nodup := by
  cases value with
  | dict entries => exact nodup_leaves entries h.1 h.2
  | _ => exact List.nodup_singleton _

theorem nodup_leaves (entries : List (String × PyValue)) (hkeys : (entries.map Prod.fst).Nodup)
    (h : NamedDistinct entries) : ((leaves entries).map Prod.fst).Nodup := by
  cases entries with
  | nil => exact List.nodup_nil
  | cons entry entries =>
    obtain ⟨key, value⟩ := entry
    rw [List.map_cons, List.nodup_cons] at hkeys
    rw [leaves, List.map_append, List.map_map]
    refine List.nodup_append.mpr ⟨?_, nodup_leaves entries hkeys.2 h.2, ?_⟩
    · have hinner := (nodup_leavesOfValue value h.1).map (List.cons_injective (a := key))
      rwa [List.map_map] at hinner
    · rintro path hpath path' hpath' rfl
      obtain ⟨leaf, -, rfl⟩ := List.mem_map.mp hpath
      obtain ⟨leaf', hleaf', hsame⟩ := List.mem_map.mp hpath'
      obtain ⟨key', hkey', keys, hcons⟩ := exists_cons_of_mem_leaves hleaf'
      rw [hsame] at hcons
      rw [← (List.cons.inj hcons).1] at hkey'
      exact hkeys.1 hkey'

end

mutual

theorem plain_leavesOfValue (value : PyValue) (h : PlainValue value) :
    ∀ leaf ∈ leavesOfValue value, ∀ key ∈ leaf.1, isCompound key = false := by
  cases value with
  | dict entries => exact plain_leaves entries h
  | _ =>
    intro leaf hleaf key hkey
    rw [List.mem_singleton.mp hleaf] at hkey
    exact absurd hkey List.not_mem_nil

theorem plain_leaves (entries : List (String × PyValue)) (h : PlainKeys entries) :
    ∀ leaf ∈ leaves entries, ∀ key ∈ leaf.1, isCompound key = false := by
  cases entries with
  | nil => exact fun _ hleaf => absurd hleaf List.not_mem_nil
  | cons entry entries =>
    obtain ⟨key, value⟩ := entry
    intro leaf hleaf
    rcases List.mem_append.mp hleaf with hleaf | hleaf
    · obtain ⟨inner, hinner, rfl⟩ := List.mem_map.mp hleaf
      exact List.forall_mem_cons.mpr ⟨h.1, plain_leavesOfValue value h.2.1 inner hinner⟩
    · exact plain_leaves entries h.2.2 leaf hleaf

end

theorem noDot_of_plain {key : String} (h : isCompound key = false) : '.' ∉ key.toList := by
  intro hdot
  have hall := List.any_eq_false.mp h '.' hdot
  exact hall rfl

structure Accepted (authorized : Bool) (request : UpdateModuleSettingsRequest) (moduleId : String)
    (items : List (String × PyValue)) : Prop where
  isAuthorized : authorized = true
  hasModule : request.moduleId = some moduleId
  nonempty : isEmptyString (some moduleId) = false
  hasSettings : request.settings = some (.dict items)
  /-- Each path is one that may be changed, without the empty keys at its top. -/
  allowed : ∀ leaf ∈ leaves items,
    dotted (leaf.1.dropWhile (· = "")) ∈ getAllowedSettingsForModule moduleId
  plain : PlainKeys items

def leafKey (moduleId : String) (path : List String) : String := moduleId ++ "." ++ dotted path

def leafEntries (moduleId : String) (items : List (String × PyValue)) : List (String × PyValue) :=
  (leaves items).map fun leaf => (leafKey moduleId leaf.1, leaf.2)

variable {items : List (String × PyValue)}

theorem validateSettingsAllowed_ok :
    validateSettingsAllowed moduleId items = .ok () ↔ ∀ leaf ∈ leaves items,
      dotted (leaf.1.dropWhile (· = "")) ∈ getAllowedSettingsForModule moduleId := by
  have hfilter : (getSettingPaths "" items).filter
      (· ∉ getAllowedSettingsForModule moduleId) = [] ↔ ∀ leaf ∈ leaves items,
        dotted (leaf.1.dropWhile (· = "")) ∈ getAllowedSettingsForModule moduleId := by
    rw [List.filter_eq_nil_iff, getSettingPaths_eq, List.forall_mem_map]
    refine forall₂_congr fun leaf _ => ?_
    rw [foldl_joined_empty, decide_eq_true_eq, not_not]
  rw [← hfilter, validateSettingsAllowed]
  split
  · next h => exact iff_of_true rfl h
  · next h => exact iff_of_false (fun he => by cases he) h

variable {request : UpdateModuleSettingsRequest}

theorem configEntriesOf_ok {authorized : Bool} {written : List (String × PyValue)} :
    configEntriesOf authorized request = .ok written ↔
      ∃ moduleId items, Accepted authorized request moduleId items ∧
        written = leafEntries moduleId items := by
  have hentries {moduleId : String} (h : isEmptyString (some moduleId) = false)
      (items : List (String × PyValue)) :
      ((leaves items).map fun leaf => (leaf.1.foldl joined moduleId, leaf.2)) =
        leafEntries moduleId items := by
    refine List.map_congr_left fun leaf hleaf => ?_
    obtain ⟨key, -, keys, hcons⟩ := exists_cons_of_mem_leaves hleaf
    rw [foldl_joined _ (by rw [hcons]; exact List.cons_ne_nil _ _), leafKey]
    rintro rfl
    cases h
  simp only [configEntriesOf, Raised.bind_eq_ok]
  constructor
  · rintro ⟨_, hauthorized, moduleId, hmodule, settings, hsettings, items, hitems, _, hvalid, h⟩
    have hauth : authorized = true := by
      cases authorized with
      | true => rfl
      | false => cases hauthorized
    obtain ⟨hid, hnonempty⟩ : request.moduleId = some moduleId ∧
        isEmptyString (some moduleId) = false := by
      unfold requireModuleId at hmodule
      split at hmodule
      · cases hmodule
      · next hne =>
        rw [Bool.not_eq_true] at hne
        cases hid : request.moduleId with
        | none => rw [hid] at hne; cases hne
        | some id =>
          rw [hid] at hmodule hne
          rw [← Except.ok.inj hmodule]
          exact ⟨rfl, hne⟩
    have hdict : request.settings = some (.dict items) := by
      cases hs : request.settings with
      | none => rw [hs] at hsettings; cases hsettings
      | some value =>
        rw [hs] at hsettings
        obtain rfl := Except.ok.inj hsettings
        cases value with
        | dict entries => rw [Except.ok.inj hitems]
        | _ => cases hitems
    obtain ⟨hplain, rfl⟩ := (traverseConfigToEntries_ok items moduleId written).mp h
    exact ⟨moduleId, items, ⟨hauth, hid, hnonempty, hdict, validateSettingsAllowed_ok.mp hvalid,
      hplain⟩, hentries hnonempty items⟩
  · rintro ⟨moduleId, items, h, rfl⟩
    refine ⟨(), ?_, moduleId, ?_, .dict items, ?_, items, rfl, (),
      validateSettingsAllowed_ok.mpr h.allowed, ?_⟩
    · rw [h.isAuthorized]
      rfl
    · rw [h.hasModule, requireModuleId, h.nonempty]
      rfl
    · rw [h.hasSettings]
      rfl
    · exact (traverseConfigToEntries_ok items moduleId _).mpr ⟨h.plain, (hentries h.nonempty _).symm⟩

theorem Accepted.nodup {authorized : Bool} (h : Accepted authorized request moduleId items) :
    ((leafEntries moduleId items).map Prod.fst).Nodup := by
  obtain ⟨hkeys, hnamed⟩ := request.distinct _ h.hasSettings
  have hnodup := nodup_leaves items hkeys hnamed
  have hmap : (leafEntries moduleId items).map Prod.fst =
      ((leaves items).map Prod.fst).map (leafKey moduleId) := by
    rw [leafEntries, List.map_map, List.map_map]
    rfl
  rw [hmap]
  refine hnodup.map_on fun path hpath path' hpath' hsame => ?_
  obtain ⟨leaf, hleaf, rfl⟩ := List.mem_map.mp hpath
  obtain ⟨leaf', hleaf', rfl⟩ := List.mem_map.mp hpath'
  obtain ⟨_, -, _, hcons⟩ := exists_cons_of_mem_leaves hleaf
  obtain ⟨_, -, _, hcons'⟩ := exists_cons_of_mem_leaves hleaf'
  have hdotted : dotted leaf.1 = dotted leaf'.1 := by
    have hlist := congrArg String.toList hsame
    simp only [leafKey, String.toList_append] at hlist
    exact String.toList_injective (List.append_cancel_left hlist)
  refine dotted_injective (by rw [hcons]; exact List.cons_ne_nil _ _)
    (by rw [hcons']; exact List.cons_ne_nil _ _) ?_ ?_ hdotted
  · exact fun key hkey => noDot_of_plain (plain_leaves items h.plain leaf hleaf key hkey)
  · exact fun key hkey => noDot_of_plain (plain_leaves items h.plain leaf' hleaf' key hkey)

/-- The request raises and leaves every entry as it was, or it changes exactly the entries of the
leaves, which may all be changed, to the given values. -/
def Obeys (request : UpdateModuleSettingsRequest) (t : ClusterSettings)
    (result : Except Raised Unit × Served ClusterSettings) : Prop :=
  ((∃ e, result.1 = .error e) ∧ ∀ key, result.2.store.get? key = t.get? key) ∨
    result.1 = .ok () ∧ ∃ moduleId items, request.moduleId = some moduleId ∧
      request.settings = some (.dict items) ∧
      (∀ leaf ∈ leaves items, dotted leaf.1 ∈ getAllowedSettingsForModule moduleId ∧
        (item result.2.store (leafKey moduleId leaf.1)).value = some (attributeOf leaf.2)) ∧
      ∀ key, (∀ leaf ∈ leaves items, key ≠ leafKey moduleId leaf.1) →
        result.2.store.get? key = t.get? key

theorem obeys_iff_of_ok {authorized : Bool} {t : ClusterSettings} {s' : Served ClusterSettings}
    (h : Accepted authorized request moduleId items)
    (hwritten : ∀ entry ∈ leafEntries moduleId items, ∃ stored,
      storedAttribute entry.2 = .ok stored ∧ s'.store.get? entry.1 = some { item t entry.1 with
        value := some stored, version := addOne (item t entry.1).version })
    (hothers : ∀ key, key ∉ (leafEntries moduleId items).map Prod.fst →
      s'.store.get? key = t.get? key) :
    Obeys request t (.ok (), s') ↔
      ∀ leaf ∈ leaves items, leaf.1.head? ≠ some "" ∧ mixesTexts leaf.2 = false := by
  have hvalue : ∀ leaf ∈ leaves items,
      (item s'.store (leafKey moduleId leaf.1)).value = some (attributeOf leaf.2) ↔
        mixesTexts leaf.2 = false := by
    intro leaf hleaf
    obtain ⟨stored, hstored, hget⟩ := hwritten _ (List.mem_map_of_mem hleaf)
    rw [item, hget, ← storedAttribute_ok hstored]
    exact Option.some_inj
  constructor
  · rintro (⟨⟨e, he⟩, -⟩ | ⟨-, moduleId', items', hmodule, hsettings, hleaves, -⟩)
    · cases he
    · rw [h.hasModule] at hmodule
      obtain rfl := Option.some.inj hmodule
      rw [h.hasSettings] at hsettings
      obtain rfl : items = items' := by injection hsettings with hdict; injection hdict
      intro leaf hleaf
      exact ⟨head_of_allowed (hleaves leaf hleaf).1, (hvalue leaf hleaf).mp (hleaves leaf hleaf).2⟩
  · intro hleaves
    refine .inr ⟨rfl, moduleId, items, h.hasModule, h.hasSettings, fun leaf hleaf => ⟨?_, ?_⟩,
      fun key hkey => hothers key ?_⟩
    · obtain ⟨key, -, keys, hcons⟩ := exists_cons_of_mem_leaves hleaf
      have hallowed := h.allowed leaf hleaf
      have hhead := (hleaves leaf hleaf).1
      rw [hcons] at hallowed hhead ⊢
      rwa [List.dropWhile_cons_of_neg (by simpa using hhead)] at hallowed
    · exact (hvalue leaf hleaf).mpr (hleaves leaf hleaf).2
    · intro hmem
      obtain ⟨entry, hentry, rfl⟩ := List.mem_map.mp hmem
      obtain ⟨leaf, hleaf, rfl⟩ := List.mem_map.mp hentry
      exact hkey leaf hleaf rfl

/-- A request changes exactly the allowed entries that it names, or nothing, unless it comes to its
writes and one of them fails after another was done, or a path begins with an empty key, or a text
stands in a list of floats. -/
theorem updateModuleSettings_obeys_iff (outcome : ℕ → CallOutcome Raised) (authorized : Bool)
    (request : UpdateModuleSettingsRequest) (t : ClusterSettings) :
    Obeys request t ((updateModuleSettings outcome authorized request).run ⟨t, 0⟩) ↔
      ∀ moduleId items, Accepted authorized request moduleId items →
        FirstWriteRefused outcome 0 (leafEntries moduleId items) ∨
          WritesDone outcome 0 (leafEntries moduleId items) ∧
            ∀ leaf ∈ leaves items, leaf.1.head? ≠ some "" ∧ mixesTexts leaf.2 = false := by
  cases hentries : configEntriesOf authorized request with
  | error e =>
    have hrun : (updateModuleSettings outcome authorized request).run ⟨t, 0⟩ =
        (.error e, ⟨t, 0⟩) := Stateful.run_bind_of_error (by rw [hentries]; rfl)
    rw [hrun]
    refine iff_of_true (.inl ⟨⟨e, rfl⟩, fun _ => rfl⟩) fun moduleId items h => ?_
    rw [configEntriesOf_ok.mpr ⟨moduleId, items, h, rfl⟩] at hentries
    cases hentries
  | ok written =>
    obtain ⟨moduleId, items, h, rfl⟩ := configEntriesOf_ok.mp hentries
    have hrun : (updateModuleSettings outcome authorized request).run ⟨t, 0⟩ =
        (syncClusterSettingsInDb outcome (leafEntries moduleId items) true).run ⟨t, 0⟩ :=
      Stateful.run_bind_of_ok (by rw [hentries]; rfl)
    have honly : (∀ moduleId' items', Accepted authorized request moduleId' items' →
        FirstWriteRefused outcome 0 (leafEntries moduleId' items') ∨
          WritesDone outcome 0 (leafEntries moduleId' items') ∧
            ∀ leaf ∈ leaves items', leaf.1.head? ≠ some "" ∧ mixesTexts leaf.2 = false) ↔
        (FirstWriteRefused outcome 0 (leafEntries moduleId items) ∨
          WritesDone outcome 0 (leafEntries moduleId items) ∧
            ∀ leaf ∈ leaves items, leaf.1.head? ≠ some "" ∧ mixesTexts leaf.2 = false) := by
      refine ⟨fun hall => hall moduleId items h, fun hone moduleId' items' h' => ?_⟩
      have hmodule := h.hasModule.symm.trans h'.hasModule
      have hsettings := h.hasSettings.symm.trans h'.hasSettings
      obtain rfl := Option.some.inj hmodule
      obtain rfl : items = items' := by injection hsettings with hdict; injection hdict
      exact hone
    rw [honly, hrun]
    rcases hsync : (syncClusterSettingsInDb outcome (leafEntries moduleId items) true).run ⟨t, 0⟩
      with ⟨e | _, s'⟩
    · have hnot : ¬ WritesDone outcome 0 (leafEntries moduleId items) := by
        intro hdone
        obtain ⟨s, hs⟩ := sync_of_writesDone (t := t) hdone
        rw [hsync] at hs
        cases hs
      rw [or_iff_left fun hd => hnot hd.1]
      constructor
      · rintro (⟨-, hsame⟩ | ⟨hok, -⟩)
        · cases hlist : leafEntries moduleId items with
          | nil => exact absurd (hlist ▸ trivial) hnot
          | cons entry entries =>
            rw [hlist] at hsync
            by_contra hrefused
            have hless := sync_changes hrefused hsync
            rw [writes, writes, item, item, hsame entry.1] at hless
            exact lt_irrefl _ hless
        · cases hok
      · intro hrefused
        obtain ⟨-, hstore⟩ := sync_refused hrefused hsync
        exact .inl ⟨⟨e, rfl⟩, fun key => by rw [hstore]⟩
    · obtain ⟨hdone, hwritten, hothers⟩ := sync_ok h.nodup hsync
      rw [obeys_iff_of_ok h hwritten hothers]
      refine ⟨fun hleaves => .inr ⟨hdone, hleaves⟩, ?_⟩
      rintro (hrefused | ⟨-, hleaves⟩)
      · obtain ⟨⟨e, he⟩, -⟩ := sync_refused hrefused hsync
        cases he
      · exact hleaves

def underEmptyKey : UpdateModuleSettingsRequest where
  moduleId := some "vdc"
  settings := some (.dict [("", .dict [("dcv_session", .dict [("idle_timeout", .int 5)])])])
  distinct := by
    intro value hvalue
    obtain rfl := Option.some.inj hvalue
    simp [Distinct, NamedDistinct]

theorem emptyKey_disobeys : ¬ Obeys underEmptyKey ∅
    ((updateModuleSettings (fun _ => .done) true underEmptyKey).run ⟨∅, 0⟩) := by
  have hrun : ((updateModuleSettings (fun _ => .done) true underEmptyKey).run ⟨∅, 0⟩).1 =
      .ok () := by
    decide +kernel
  rintro (⟨⟨e, he⟩, -⟩ | ⟨-, moduleId, items, hmodule, hsettings, hleaves, -⟩)
  · rw [hrun] at he
    cases he
  · obtain rfl := Option.some.inj hmodule
    obtain rfl : [("", PyValue.dict [("dcv_session", .dict [("idle_timeout", .int 5)])])] = items := by
      injection hsettings with hdict
      injection hdict
    exact absurd (hleaves (["", "dcv_session", "idle_timeout"], .int 5) List.mem_cons_self).1
      (by decide +kernel)

end Idea.Settings

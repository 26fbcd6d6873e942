import Idea.Settings.ConfigTrees
import Idea.Settings.CursorListings

/-! # Configurations that are stored and built again

A configuration is flattened into entries with dotted keys, the entries are written to the table of
cluster settings, and a configuration is built from what is read there.
-/

namespace Idea.Settings

open CursorListings

def keyUnder ( pathPrefix key : String) : String :=
  if isEmptyString (some pathPrefix) then key else pathPrefix ++ "." ++ key

def passesFilter (filterKeyPrefix : Option String) (key : String) : Bool :=
  match filterKeyPrefix with
  | none => true
  | some required =>
    isEmptyString (some required) || required.toList.isPrefixOf key.toList

mutual

def traverseConfigValue (filterKeyPrefix : Option String) (path : String) :
    PyValue → Except Raised (List (String × PyValue))
  | .dict entries => traverseConfig filterKeyPrefix path entries
  | value => .ok (if passesFilter filterKeyPrefix path then [(path, value)] else [])

/-- `ConfigGenerator.traverse_config`. -/
def traverseConfig (filterKeyPrefix : Option String) ( pathPrefix : String) :
    List (String × PyValue) → Except Raised (List (String × PyValue))
  | [] => .ok []
  | (key, value) :: entries =>
    if isCompound key then
      .error (.soca ErrorCodes.GENERAL_ERROR ("Config key name: " ++ key ++ " under: " ++
        pathPrefix ++ " cannot contain a dot(.), colon(:) or comma(,)"))
    else
      traverseConfigValue filterKeyPrefix (keyUnder pathPrefix key) value >>= fun first =>
        traverseConfig filterKeyPrefix pathPrefix entries >>= fun rest => .ok (first ++ rest)

end

/-- `ClusterConfigDB.build_config_from_db`, from a table that may have several pages. -/
def buildConfigFromDb {Key : Type} [DecidableEq Key]
    (compile : String → Except String (String → Bool))
    (table : Paged (String × ConfigEntry) Key) (query : Option String) (fuel : ℕ) :
    Option (Except Raised (List (String × PyValue))) :=
  (getConfigEntries compile table query fuel).map fun entries =>
    entries.map fun entries =>
      putAll [] (entries.map fun entry => (splitKey entry.key, putValue entry.value))

/-- A configuration without empty sections. Its keys have no dots, colons and quotes, and its leaves
are scalars and lists of scalars. -/
structure ConfigTree where
  sections : List (String × PyValue)
  distinct : AreDistinct sections
  filled : NamedFilled sections
  plain : PlainKeys sections
  unquoted : ∀ leaf ∈ leaves sections, ∀ key ∈ leaf.1, '"' ∉ key.toList
  isLeaf : ∀ leaf ∈ leaves sections, IsLeaf leaf.2

/-- Flattened, written to an empty table and built from its single page, whatever the order of its
items, the configuration is equal to itself. -/
def ConfigTree.Survives (tree : ConfigTree) (compile : String → Except String (String → Bool)) :
    Prop :=
  ∃ written s', traverseConfig none "" tree.sections = .ok written ∧
    (syncClusterSettingsInDb (fun _ => .done) written false).run ⟨∅, 0⟩ = (.ok (), s') ∧
    ∀ listed : List (String × ConfigEntry), listed.Perm s'.store.entries →
      ∃ fuel config, buildConfigFromDb compile (⟨[], listed⟩ : Paged _ String) none fuel =
        some (.ok config) ∧ equal (.dict tree.sections) (.dict config) = true

mutual

theorem traverseConfigValue_ok (value : PyValue) (path : String)
    (written : List (String × PyValue)) :
    traverseConfigValue none path value = .ok written ↔
      PlainValue value ∧ written =
        (leavesOfValue value).map fun leaf => (leaf.1.foldl keyUnder path, leaf.2) := by
  cases value with
  | dict entries => exact traverseConfig_ok entries path written
  | _ => exact ⟨fun h => ⟨trivial, (Except.ok.inj h).symm⟩, fun h => congrArg Except.ok h.2.symm⟩

theorem traverseConfig_ok (entries : List (String × PyValue)) ( pathPrefix : String)
    (written : List (String × PyValue)) :
    traverseConfig none pathPrefix entries = .ok written ↔
      PlainKeys entries ∧ written =
        (leaves entries).map fun leaf => (leaf.1.foldl keyUnder pathPrefix, leaf.2) := by
  cases entries with
  | nil => exact ⟨fun h => ⟨trivial, (Except.ok.inj h).symm⟩, fun h => congrArg Except.ok h.2.symm⟩
  | cons entry entries =>
    obtain ⟨key, value⟩ := entry
    have hvalue := traverseConfigValue_ok value (keyUnder pathPrefix key)
    have hentries := traverseConfig_ok entries pathPrefix
    rw [traverseConfig, PlainKeys, leaves, List.map_append, List.map_map]
    split
    · next hcompound =>
      refine ⟨fun h => (by cases h), fun h => ?_⟩
      rw [hcompound] at h
      cases h.1.1
    · next hcompound =>
      rw [Bool.not_eq_true] at hcompound
      simp only [Raised.bind_eq_ok, hvalue, hentries]
      constructor
      · rintro ⟨_, ⟨hplain, rfl⟩, _, ⟨hplains, rfl⟩, h⟩
        exact ⟨⟨hcompound, hplain, hplains⟩, (Except.ok.inj h).symm⟩
      · rintro ⟨⟨-, hplain, hplains⟩, rfl⟩
        exact ⟨_, ⟨hplain, rfl⟩, _, ⟨hplains, rfl⟩, rfl⟩

end

/-- The keys of a path that are in the key of its entry. Blank keys at the top are passed over,
unless the last one is reached. -/
def namesOf : List String → List String
  | [] => []
  | [key] => [key]
  | key :: next :: keys =>
    if isEmptyString (some key) then namesOf (next :: keys) else key :: next :: keys

variable { pathPrefix : String}

theorem isEmptyString_keyUnder (h : isEmptyString (some pathPrefix) = false) (key : String) :
    keyUnder pathPrefix key = pathPrefix ++ "." ++ key ∧
      isEmptyString (some (keyUnder pathPrefix key)) = false := by
  have hkey : keyUnder pathPrefix key = pathPrefix ++ "." ++ key := by
    rw [keyUnder, h, if_neg Bool.false_ne_true]
  refine ⟨hkey, ?_⟩
  rw [hkey]
  exact isEmptyString_of_mem (c := '.') (by simp) (by decide)

variable {path : List String}

theorem foldl_keyUnder (h : isEmptyString (some pathPrefix) = false) (hpath : path ≠ []) :
    path.foldl keyUnder pathPrefix = pathPrefix ++ "." ++ dotted path := by
  induction path generalizing pathPrefix with
  | nil => exact absurd rfl hpath
  | cons key keys ih =>
    obtain ⟨hkey, hnonempty⟩ := isEmptyString_keyUnder h key
    rw [List.foldl_cons]
    cases keys with
    | nil => exact hkey
    | cons next keys =>
      rw [ih hnonempty (List.cons_ne_nil _ _), dotted_cons key (List.cons_ne_nil _ _), hkey]
      simp [String.append_assoc]

theorem foldl_keyUnder_blank (h : isEmptyString (some pathPrefix) = true) (hpath : path ≠ []) :
    path.foldl keyUnder pathPrefix = dotted (namesOf path) := by
  induction path generalizing pathPrefix with
  | nil => exact absurd rfl hpath
  | cons key keys ih =>
    have hkey : keyUnder pathPrefix key = key := by rw [keyUnder, h, if_pos rfl]
    rw [List.foldl_cons, hkey]
    cases keys with
    | nil => rfl
    | cons next keys =>
      rw [namesOf]
      cases hblank : isEmptyString (some key) with
      | true => rw [ih hblank (List.cons_ne_nil _ _), if_pos rfl]
      | false =>
        rw [foldl_keyUnder hblank (List.cons_ne_nil _ _), if_neg Bool.false_ne_true,
          dotted_cons key (List.cons_ne_nil _ _)]

theorem namesOf_ne_nil (h : path ≠ []) : namesOf path ≠ [] := by
  induction path using namesOf.induct with
  | case1 => exact absurd rfl h
  | case2 key => exact List.cons_ne_nil _ _
  | case3 key next keys hblank ih =>
    rw [namesOf, if_pos hblank]
    exact ih (List.cons_ne_nil _ _)
  | case4 key next keys hblank =>
    rw [namesOf, if_neg hblank]
    exact List.cons_ne_nil _ _

variable {key : String}

theorem mem_of_mem_namesOf (h : key ∈ namesOf path) : key ∈ path := by
  induction path using namesOf.induct with
  | case1 => exact h
  | case2 => exact h
  | case3 key' next keys hblank ih =>
    rw [namesOf, if_pos hblank] at h
    exact List.mem_cons_of_mem _ (ih h)
  | case4 key' next keys hblank =>
    rwa [namesOf, if_neg hblank] at h

theorem head_namesOf {key next : String} {keys : List String}
    (h : namesOf path = key :: next :: keys) : isEmptyString (some key) = false := by
  induction path using namesOf.induct with
  | case1 => cases h
  | case2 => cases h
  | case3 key' next' keys' hblank ih =>
    rw [namesOf, if_pos hblank] at h
    exact ih h
  | case4 key' next' keys' hblank =>
    rw [namesOf, if_neg hblank] at h
    obtain ⟨rfl, -⟩ := List.cons.inj h
    exact Bool.eq_false_iff.mpr hblank

theorem namesOf_eq_self {keys : List String} (h : keys ≠ [] → isEmptyString (some key) = false) :
    namesOf (key :: keys) = key :: keys := by
  cases keys with
  | nil => rfl
  | cons next keys =>
    rw [namesOf, h (List.cons_ne_nil _ _), if_neg Bool.false_ne_true]

theorem splitKey_dotted (hpath : path ≠ []) (hdots : ∀ key ∈ path, '.' ∉ key.toList) :
    splitKey (dotted path) = path := by
  rw [splitKey, splitOn_dotted hpath hdots, List.map_map]
  exact (List.map_congr_left fun key _ => String.ofList_toList).trans (List.map_id path)

theorem syncEntry_present (outcome : ℕ → CallOutcome Raised) {entry : String × PyValue}
    {s s' : Served ClusterSettings} {r : Except Raised Unit}
    (h : (syncEntry outcome false entry).run s = (r, s')) {e : ConfigEntry}
    (hkey : s.store.get? key = some e) : s'.store.get? key = some e := by
  rcases Stateful.bind_cases h with ⟨_, hget, -⟩ | ⟨item, s₁, hget, h⟩
  · rcases Stateful.bind_cases hget with ⟨_, hcall, -⟩ | ⟨_, s₂, -, hread⟩
    · rcases Served.call_cases hcall with ⟨-, he, -⟩ | ⟨_, -, -, hs⟩ | ⟨_, -, -, hs⟩
      · cases he
      · rw [hs]
        exact hkey
      · rw [hs]
        exact hkey
    · cases hread
  rcases Stateful.bind_cases hget with ⟨_, -, he⟩ | ⟨_, s₂, hcall, hread⟩
  · cases he
  obtain ⟨hitem, rfl⟩ := Prod.mk.inj hread
  obtain rfl := Except.ok.inj hitem
  have hs : s₂.store = s.store := by
    rcases Served.call_cases hcall with ⟨-, -, rfl⟩ | ⟨_, -, -, hs⟩ | ⟨_, -, -, hs⟩
    · rfl
    · exact hs
    · exact hs
  rw [hs] at h
  cases hitem : s.store.get? entry.1 with
  | some item =>
    rw [hitem] at h
    obtain ⟨-, rfl⟩ := Prod.mk.inj h
    rw [hs]
    exact hkey
  | none =>
    rw [hitem] at h
    have hne : key ≠ entry.1 := by
      rintro rfl
      rw [hkey] at hitem
      cases hitem
    have hupdate (stored : Attribute) :
        (updateItem entry.1 stored s₂.store).get? key = some e := by
      rw [updateItem, Dict.get?_set_ne _ hne, hs]
      exact hkey
    rcases Stateful.ofExcept_bind_cases h with ⟨_, -, -, rfl⟩ | ⟨stored, -, h⟩
    · rw [hs]
      exact hkey
    · rcases Served.call_cases h with ⟨-, -, rfl⟩ | ⟨_, -, -, hs'⟩ | ⟨_, -, -, hs'⟩
      · exact hupdate stored
      · rw [hs', hs]
        exact hkey
      · rw [hs']
        exact hupdate stored

variable {entries : List (String × PyValue)}

theorem sync_present {outcome : ℕ → CallOutcome Raised} {s s' : Served ClusterSettings}
    {r : Except Raised Unit} (h : (syncClusterSettingsInDb outcome entries false).run s = (r, s'))
    {e : ConfigEntry} (hkey : s.store.get? key = some e) : s'.store.get? key = some e :=
  Stateful.forEach_invariant (fun s => s.store.get? key = some e) h hkey
    fun _ _ _ _ _ hpresent hround => syncEntry_present outcome hround hpresent

theorem syncEntry_run (entry : String × PyValue) (t : ClusterSettings) (n : ℕ) :
    (syncEntry (fun _ => .done) false entry).run ⟨t, n⟩ =
      match t.get? entry.1 with
      | some _ => (.ok (), ⟨t, n + 1⟩)
      | none =>
        match storedAttribute entry.2 with
        | .error e => (.error e, ⟨t, n + 1⟩)
        | .ok stored => (.ok (), ⟨updateItem entry.1 stored t, n + 2⟩) := by
  have hget : (getItem (fun _ => CallOutcome.done) entry.1).run ⟨t, n⟩ =
      (.ok (t.get? entry.1), ⟨t, n + 1⟩) := rfl
  rw [syncEntry, Stateful.run_bind_of_ok hget]
  cases t.get? entry.1 with
  | some item => rfl
  | none =>
    change ((Stateful.ofExcept (storedAttribute entry.2) >>= fun stored =>
      Served.call (fun _ => .done) (updateItem entry.1 stored)).run ⟨t, n + 1⟩) = _
    cases storedAttribute entry.2 with
    | error e => rfl
    | ok stored => rfl

def newEntry (stored : Attribute) : ConfigEntry := ⟨some stored, none, some 1⟩

theorem get?_updateItem {t : ClusterSettings} (h : t.get? key = none) (stored : Attribute)
    (key' : String) :
    (updateItem key stored t).get? key' =
      if key' = key then some (newEntry stored) else t.get? key' := by
  rw [updateItem, Dict.get?_set, item, h]
  rfl

theorem sync_done {t : ClusterSettings} {n : ℕ} {s' : Served ClusterSettings}
    (h : (syncClusterSettingsInDb (fun _ => .done) entries false).run ⟨t, n⟩ = (.ok (), s')) :
    (∀ key e, s'.store.get? key = some e → t.get? key = some e ∨
      ∃ value stored, (key, value) ∈ entries ∧ storedAttribute value = .ok stored ∧
        e = newEntry stored) ∧
    ∀ entry ∈ entries, ∃ e, s'.store.get? entry.1 = some e := by
  induction entries generalizing t n with
  | nil =>
    obtain ⟨-, rfl⟩ := Prod.mk.inj h
    exact ⟨fun _ _ he => .inl he, fun _ hentry => absurd hentry List.not_mem_nil⟩
  | cons entry entries ih =>
    rcases Stateful.bind_cases h with ⟨_, -, he⟩ | ⟨_, s₁, hround, hrest⟩
    · cases he
    rw [syncEntry_run] at hround
    cases hget : t.get? entry.1 with
    | some item =>
      rw [hget] at hround
      obtain ⟨-, rfl⟩ := Prod.mk.inj hround
      obtain ⟨hfound, hall⟩ := ih hrest
      refine ⟨fun key e he => (hfound key e he).imp_right ?_, List.forall_mem_cons.mpr ⟨?_, hall⟩⟩
      · rintro ⟨value, stored, hmem, hrest⟩
        exact ⟨value, stored, List.mem_cons_of_mem _ hmem, hrest⟩
      · exact ⟨item, sync_present hrest hget⟩
    | none =>
      rw [hget] at hround
      cases hstored : storedAttribute entry.2 with
      | error e =>
        rw [hstored] at hround
        cases hround
      | ok stored =>
        rw [hstored] at hround
        obtain ⟨-, rfl⟩ := Prod.mk.inj hround
        obtain ⟨hfound, hall⟩ := ih hrest
        have hwritten := get?_updateItem hget stored
        refine ⟨fun key e he => ?_, List.forall_mem_cons.mpr ⟨?_, hall⟩⟩
        · rcases hfound key e he with he | ⟨value, stored', hmem, hrest⟩
          · rw [hwritten] at he
            split at he
            · next heq =>
              exact .inr ⟨entry.2, stored, by rw [heq]; exact List.mem_cons_self, hstored,
                (Option.some.inj he).symm⟩
            · exact .inl he
          · exact .inr ⟨value, stored', List.mem_cons_of_mem _ hmem, hrest⟩
        · exact ⟨newEntry stored, sync_present hrest (by rw [hwritten, if_pos rfl])⟩

theorem sync_ends (h : ∀ entry ∈ entries, ∃ stored, storedAttribute entry.2 = .ok stored)
    (t : ClusterSettings) (n : ℕ) :
    ∃ s', (syncClusterSettingsInDb (fun _ => .done) entries false).run ⟨t, n⟩ = (.ok (), s') := by
  induction entries generalizing t n with
  | nil => exact ⟨_, rfl⟩
  | cons entry entries ih =>
    rw [List.forall_mem_cons] at h
    obtain ⟨⟨stored, hstored⟩, h⟩ := h
    have hround : ∃ s₁, (syncEntry (fun _ => .done) false entry).run ⟨t, n⟩ = (.ok (), s₁) := by
      rw [syncEntry_run, hstored]
      cases t.get? entry.1 with
      | some item => exact ⟨_, rfl⟩
      | none => exact ⟨_, rfl⟩
    obtain ⟨⟨t₁, n₁⟩, hround⟩ := hround
    obtain ⟨s', hs'⟩ := ih h t₁ n₁
    exact ⟨s', (Stateful.run_bind_of_ok hround).trans hs'⟩

theorem putValue_isPlain {value : PyValue} (h : IsPlainValue value) :
    IsPlainValue (putValue value) := by
  unfold putValue
  split
  · exact fun _ => PyValue.noConfusion
  · exact h

theorem readNumber_isPlain {value number : PyValue} (h : readNumber value = .ok number) :
    IsPlainValue number := by
  rw [readNumber] at h
  split at h
  · rw [numberOfText] at h
    split at h <;> split at h
    · obtain rfl := Except.ok.inj h
      exact fun _ => PyValue.noConfusion
    · cases h
    · obtain rfl := Except.ok.inj h
      exact fun _ => PyValue.noConfusion
    · cases h
  · cases h

theorem convert_isPlain {value read : PyValue} (hplain : IsPlainValue value)
    (h : checkAndConvertDecimalValue value = .ok read) : IsPlainValue read := by
  unfold checkAndConvertDecimalValue at h
  split at h
  · exact readNumber_isPlain h
  · rw [Raised.bind_eq_ok] at h
    obtain ⟨numbers, -, h⟩ := h
    obtain rfl := Except.ok.inj h
    exact fun _ => PyValue.noConfusion
  · rwa [← Except.ok.inj h]

theorem convertFloats_isPlain {value converted : PyValue} (hplain : IsPlainValue value)
    (h : convertFloats value = .ok converted) : IsPlainValue converted := by
  unfold convertFloats at h
  split at h
  · obtain rfl := Except.ok.inj h
    exact fun _ => PyValue.noConfusion
  · next text items =>
    cases hdecimals : (PyValue.float text :: items).mapM decimalOf with
    | error e =>
      rw [hdecimals] at h
      cases h
    | ok decimals =>
      rw [hdecimals] at h
      obtain rfl := Except.ok.inj h
      exact fun _ => PyValue.noConfusion
  · rwa [← Except.ok.inj h]

theorem deserialize_isPlain {value : PyValue} (h : IsPlainValue value) :
    IsPlainValue (deserialize (attributeOf value)) := by
  cases value with
  | dict entries => exact absurd rfl (h entries)
  | _ => exact fun _ => PyValue.noConfusion

theorem restored_isPlain {value v : PyValue} (hplain : IsPlainValue value)
    (h : restored value = .ok v) : IsPlainValue v := by
  rw [restored, Raised.bind_eq_ok] at h
  obtain ⟨stored, hstored, h⟩ := h
  rw [Raised.bind_eq_ok] at h
  obtain ⟨read, hread, h⟩ := h
  rw [storedAttribute, Raised.bind_eq_ok] at hstored
  obtain ⟨converted, hconverted, hserialize⟩ := hstored
  rw [serialize_ok hserialize] at hread
  rw [← Except.ok.inj h]
  exact putValue_isPlain (convert_isPlain
    (deserialize_isPlain (convertFloats_isPlain hplain hconverted)) hread)

theorem isPlain_of_isLeaf {value : PyValue} (h : IsLeaf value) : IsPlainValue value := by
  rintro entries rfl
  exact h

def settingOf (entry : ConfigItem) : List String × PyValue :=
  (splitKey entry.key, putValue entry.value)

theorem readEntry_none_ok {item : String × ConfigEntry} {read : Option ConfigItem} :
    readEntry none item = .ok read ↔ ∃ entry, postProcess item = .ok entry ∧ read = some entry := by
  rw [readEntry, Raised.bind_eq_ok]
  constructor
  · rintro ⟨entry, hentry, h⟩
    exact ⟨entry, hentry, (Except.ok.inj h).symm⟩
  · rintro ⟨entry, hentry, rfl⟩
    exact ⟨entry, hentry, rfl⟩

theorem mapM_readEntry_none {listed : List (String × ConfigEntry)} {items : List (Option ConfigItem)} :
    listed.mapM (readEntry none) = .ok items ↔
      ∃ read, listed.mapM postProcess = .ok read ∧ items = read.map some := by
  simp only [mapM_eq_ok_iff, readEntry_none_ok]
  induction listed generalizing items with
  | nil => simp
  | cons item listed ih =>
    simp only [List.forall₂_cons_left_iff, ih]
    constructor
    · rintro ⟨_, _, ⟨entry, hentry, rfl⟩, ⟨read, hread, rfl⟩, rfl⟩
      exact ⟨entry :: read, ⟨entry, read, hentry, hread, rfl⟩, rfl⟩
    · rintro ⟨_, ⟨entry, read, hentry, hread, rfl⟩, rfl⟩
      exact ⟨_, _, ⟨entry, hentry, rfl⟩, ⟨read, hread, rfl⟩, rfl⟩

theorem reduceOption_map_some {α : Type} (l : List α) : (l.map some).reduceOption = l := by
  change (l.map some).filterMap id = l
  rw [List.filterMap_map]
  exact List.filterMap_some

variable {compile : String → Except String (String → Bool)}

theorem buildConfigFromDb_onePage {listed : List (String × ConfigEntry)}
    {config : List (String × PyValue)} :
    (∃ fuel, buildConfigFromDb compile (⟨[], listed⟩ : Paged _ String) none fuel =
      some (.ok config)) ↔
      ∃ read, listed.mapM postProcess = .ok read ∧
        config = putAll [] ((sortByKey read).map settingOf) := by
  have hloop (found : List ConfigItem) := scanLoop_ok_iff (readEntry none)
    (scan_entriesRequest (⟨[], listed⟩ : Paged _ String)) (fun k => mem_withLastKey _ k) found
  have hnone : patternOf compile none = .ok none := rfl
  have hitems : (⟨[], listed⟩ : Paged (String × ConfigEntry) String).items = listed := rfl
  simp only [buildConfigFromDb, getConfigEntries, hnone, Option.map_map, Option.map_eq_some_iff]
  constructor
  · rintro ⟨fuel, found, hfound, hconfig⟩
    cases found with
    | error e => cases hconfig
    | ok found =>
      obtain ⟨-, items, hread, rfl⟩ := (hloop found).mp ⟨fuel, hfound⟩
      rw [hitems, mapM_readEntry_none] at hread
      obtain ⟨read, hread, rfl⟩ := hread
      rw [reduceOption_map_some] at hconfig
      exact ⟨read, hread, (Except.ok.inj hconfig).symm⟩
  · rintro ⟨read, hread, rfl⟩
    obtain ⟨fuel, hfound⟩ := (hloop read).mpr ⟨rfl, read.map some,
      by rw [hitems, mapM_readEntry_none]; exact ⟨read, hread, rfl⟩,
      (reduceOption_map_some read).symm⟩
    exact ⟨fuel, .ok read, hfound, rfl⟩

section Tree

variable {tree : ConfigTree}

variable {leaf : List String × PyValue}

theorem leaf_ne_nil (hleaf : leaf ∈ leaves tree.sections) : leaf.1 ≠ [] := by
  obtain ⟨key, -, keys, hcons⟩ := exists_cons_of_mem_leaves hleaf
  rw [hcons]
  exact List.cons_ne_nil _ _

theorem noDot_of_leaf (hleaf : leaf ∈ leaves tree.sections) : ∀ key ∈ leaf.1, '.' ∉ key.toList := fun key hkey =>
  noDot_of_plain (plain_leaves tree.sections tree.plain leaf hleaf key hkey)

theorem noDot_namesOf (hleaf : leaf ∈ leaves tree.sections) :
    ∀ key ∈ namesOf leaf.1, '.' ∉ key.toList := fun key hkey =>
  noDot_of_leaf hleaf key (mem_of_mem_namesOf hkey)

/-- A table with an entry for each leaf, under the key of the leaf, and no other entries. -/
structure Holds (store : ClusterSettings) (tree : ConfigTree) : Prop where
  ofLeaf : ∀ key e, store.get? key = some e → ∃ leaf ∈ leaves tree.sections,
    key = dotted (namesOf leaf.1) ∧ ∃ stored, storedAttribute leaf.2 = .ok stored ∧
      e = newEntry stored
  hasLeaf : ∀ leaf ∈ leaves tree.sections, ∃ e, store.get? (dotted (namesOf leaf.1)) = some e

def writtenOf (tree : ConfigTree) : List (String × PyValue) :=
  (leaves tree.sections).map fun leaf => (dotted (namesOf leaf.1), leaf.2)

theorem traverseConfig_tree {written : List (String × PyValue)} :
    traverseConfig none "" tree.sections = .ok written ↔ written = writtenOf tree := by
  have hwritten : ((leaves tree.sections).map fun leaf => (leaf.1.foldl keyUnder "", leaf.2)) =
      writtenOf tree :=
    List.map_congr_left fun leaf hleaf => by rw [foldl_keyUnder_blank rfl (leaf_ne_nil hleaf)]
  rw [traverseConfig_ok, hwritten]
  exact and_iff_right tree.plain

theorem holds_of_sync {s' : Served ClusterSettings}
    (h : (syncClusterSettingsInDb (fun _ => .done) (writtenOf tree) false).run ⟨∅, 0⟩ =
      (.ok (), s')) : Holds s'.store tree := by
  obtain ⟨hfound, hall⟩ := sync_done h
  constructor
  · intro key e he
    rcases hfound key e he with he | ⟨value, stored, hmem, hstored, rfl⟩
    · cases he
    · obtain ⟨leaf, hleaf, heq⟩ := List.mem_map.mp hmem
      obtain ⟨rfl, rfl⟩ := Prod.mk.inj heq
      exact ⟨leaf, hleaf, rfl, stored, hstored, rfl⟩
  · exact fun leaf hleaf => hall _ (List.mem_map.mpr ⟨leaf, hleaf, rfl⟩)

section Read

variable {store : ClusterSettings} {listed : List (String × ConfigEntry)} {read : List ConfigItem}
  (hholds : Holds store tree) (hlisted : listed.Perm store.entries)
  (hread : listed.mapM postProcess = .ok read)

theorem postProcess_newEntry {stored : Attribute} {entry : ConfigItem}
    (h : postProcess (key, newEntry stored) = .ok entry) : entry.key = key ∧
      checkAndConvertDecimalValue (deserialize stored) = .ok entry.value := by
  rw [postProcess, Raised.bind_eq_ok] at h
  obtain ⟨value, hvalue, h⟩ := h
  obtain rfl := Except.ok.inj h
  exact ⟨rfl, hvalue⟩

include hholds hlisted hread

theorem leaf_of_setting {setting : List String × PyValue}
    (h : setting ∈ (sortByKey read).map settingOf) : ∃ leaf ∈ leaves tree.sections,
      setting.1 = namesOf leaf.1 ∧ restored leaf.2 = .ok setting.2 := by
  obtain ⟨entry, hentry, rfl⟩ := List.mem_map.mp h
  have hmem : entry ∈ read := (List.mergeSort_perm read _).mem_iff.mp hentry
  obtain ⟨⟨key, e⟩, hitem, hpost⟩ := (mem_of_mapM hread).1 entry hmem
  obtain ⟨leaf, hleaf, rfl, stored, hstored, rfl⟩ :=
    hholds.ofLeaf key e (Dict.get?_of_mem_entries (hlisted.mem_iff.mp hitem))
  obtain ⟨hkey, hvalue⟩ := postProcess_newEntry hpost
  refine ⟨leaf, hleaf, ?_, ?_⟩
  · rw [settingOf, hkey]
    exact splitKey_dotted (namesOf_ne_nil (leaf_ne_nil hleaf)) (noDot_namesOf hleaf)
  · rw [restored, hstored, Raised.ok_bind, hvalue, Raised.ok_bind]
    rfl

theorem setting_of_leaf (hleaf : leaf ∈ leaves tree.sections)
    (honly : ∀ leaf' ∈ leaves tree.sections, namesOf leaf'.1 = namesOf leaf.1 → leaf' = leaf) :
    ∃ v, restored leaf.2 = .ok v ∧ (namesOf leaf.1, v) ∈ (sortByKey read).map settingOf := by
  obtain ⟨e, he⟩ := hholds.hasLeaf leaf hleaf
  obtain ⟨leaf', hleaf', hkey, stored, hstored, rfl⟩ := hholds.ofLeaf _ e he
  have hnames : namesOf leaf'.1 = namesOf leaf.1 :=
    dotted_injective (namesOf_ne_nil (leaf_ne_nil hleaf')) (namesOf_ne_nil (leaf_ne_nil hleaf))
      (noDot_namesOf hleaf') (noDot_namesOf hleaf) hkey.symm
  obtain rfl := honly leaf' hleaf' hnames
  obtain ⟨entry, hentry, hpost⟩ := (mem_of_mapM hread).2 (dotted (namesOf leaf'.1), newEntry stored)
    (hlisted.mem_iff.mpr (Dict.mem_entries_of_get? he))
  obtain ⟨hentryKey, hvalue⟩ := postProcess_newEntry hpost
  refine ⟨putValue entry.value, ?_, List.mem_map.mpr
    ⟨entry, (List.mergeSort_perm read _).mem_iff.mpr hentry, ?_⟩⟩
  · rw [restored, hstored, Raised.ok_bind, hvalue, Raised.ok_bind]
    rfl
  · rw [settingOf, hentryKey, splitKey_dotted (namesOf_ne_nil (leaf_ne_nil hleaf))
      (noDot_namesOf hleaf)]

omit hholds in
theorem map_key_of_read : ((sortByKey read).map ConfigItem.key).Perm store.keys := by
  have hkeys : read.map ConfigItem.key = listed.map Prod.fst := by
    have hforall := mapM_eq_ok_iff.mp hread
    clear hread hlisted
    induction hforall with
    | nil => rfl
    | cons hitem _ ih =>
      rw [postProcess, Raised.bind_eq_ok] at hitem
      obtain ⟨value, -, hitem⟩ := hitem
      rw [List.map_cons, List.map_cons, ih, ← Except.ok.inj hitem]
  have hsorted : (sortByKey read).Perm read := List.mergeSort_perm read _
  exact ((hsorted.map ConfigItem.key).trans (hkeys ▸ List.Perm.refl _)).trans (hlisted.map Prod.fst)

theorem nodup_settings : (((sortByKey read).map settingOf).map Prod.fst).Nodup := by
  have hperm := map_key_of_read hlisted hread
  have hmap : ((sortByKey read).map settingOf).map Prod.fst =
      ((sortByKey read).map ConfigItem.key).map splitKey := by
    rw [List.map_map, List.map_map]
    rfl
  rw [hmap]
  have hnames : ∀ key ∈ store.keys, ∃ leaf ∈ leaves tree.sections,
      key = dotted (namesOf leaf.1) ∧ splitKey key = namesOf leaf.1 := by
    intro key hkey
    obtain ⟨e, he⟩ := Dict.exists_get?_of_mem_keys hkey
    obtain ⟨leaf, hleaf, rfl, -⟩ := hholds.ofLeaf key e he
    exact ⟨leaf, hleaf, rfl, splitKey_dotted (namesOf_ne_nil (leaf_ne_nil hleaf))
      (noDot_namesOf hleaf)⟩
  refine (hperm.nodup_iff.mpr store.nodup_keys).map_on fun key hkey key' hkey' hsame => ?_
  obtain ⟨leaf, -, rfl, hsplit⟩ := hnames key (hperm.mem_iff.mp hkey)
  obtain ⟨leaf', -, rfl, hsplit'⟩ := hnames key' (hperm.mem_iff.mp hkey')
  rw [hsplit, hsplit'] at hsame
  rw [hsame]

theorem arePutable_settings : ArePutable ((sortByKey read).map settingOf) := by
  intro setting hsetting
  obtain ⟨leaf, hleaf, hpath, hrestored⟩ := leaf_of_setting hholds hlisted hread hsetting
  rw [hpath]
  exact ⟨namesOf_ne_nil (leaf_ne_nil hleaf),
    restored_isPlain (isPlain_of_isLeaf (tree.isLeaf leaf hleaf)) hrestored⟩

end Read

def TopNamed (tree : ConfigTree) : Prop :=
  ∀ name inner, (name, PyValue.dict inner) ∈ tree.sections → isEmptyString (some name) = false

theorem topNamed_iff : TopNamed tree ↔ ∀ leaf ∈ leaves tree.sections, ∀ name next keys,
    leaf.1 = name :: next :: keys → isEmptyString (some name) = false := by
  constructor
  · rintro h ⟨path, v⟩ hleaf name next keys rfl
    obtain ⟨value, hlookup, hmem⟩ := (mem_leaves_cons_iff tree.distinct.1).mp hleaf
    obtain ⟨inner, rfl⟩ := isDict_of_leaf hmem
    exact h name inner ((lookup_eq_some_iff tree.distinct.1).mp hlookup)
  · intro h name inner hentry
    obtain ⟨hne, hfilled⟩ := namedFilled_iff.mp tree.filled _ hentry
    obtain ⟨⟨path, v⟩, hleaf⟩ := exists_leaf_of_named inner hne hfilled
    obtain ⟨next, -, keys, rfl⟩ := exists_cons_of_mem_leaves hleaf
    exact h (name :: next :: keys, v) ((mem_leaves_cons_iff tree.distinct.1).mpr
      ⟨_, (lookup_eq_some_iff tree.distinct.1).mpr hentry, hleaf⟩) name next keys rfl

theorem namesOf_leaf (h : TopNamed tree) (hleaf : leaf ∈ leaves tree.sections) :
    namesOf leaf.1 = leaf.1 := by
  obtain ⟨key, -, keys, hcons⟩ := exists_cons_of_mem_leaves hleaf
  rw [hcons]
  refine namesOf_eq_self fun hne => ?_
  obtain ⟨next, keys, rfl⟩ := List.exists_cons_of_ne_nil hne
  exact topNamed_iff.mp h leaf hleaf key next keys hcons

theorem apart_of_leaves {leaf leaf' : List String × PyValue} (hleaf : leaf ∈ leaves tree.sections)
    (hleaf' : leaf' ∈ leaves tree.sections) (hne : leaf ≠ leaf') :
    ¬ leaf.1 <+: leaf'.1 ∧ ¬ leaf'.1 <+: leaf.1 :=
  (apart_leaves tree.sections tree.distinct.1 tree.distinct.2).of_mem hleaf hleaf' hne

theorem leaf_eq_of_path {leaf leaf' : List String × PyValue}
    (hleaf : leaf ∈ leaves tree.sections) (hleaf' : leaf' ∈ leaves tree.sections)
    (h : leaf.1 = leaf'.1) : leaf = leaf' := by
  by_contra hne
  exact (apart_of_leaves hleaf hleaf' hne).1 (h ▸ List.prefix_refl _)

theorem topNamed_of_survives (h : tree.Survives compile) : TopNamed tree := by
  obtain ⟨written, s', hwritten, hsync, hbuild⟩ := h
  rw [traverseConfig_tree] at hwritten
  subst hwritten
  have hholds := holds_of_sync hsync
  obtain ⟨fuel, config, hconfig, hequal⟩ := hbuild _ (List.Perm.refl _)
  obtain ⟨read, hread, rfl⟩ := buildConfigFromDb_onePage.mp ⟨fuel, hconfig⟩
  have hputable := arePutable_settings hholds (List.Perm.refl _) hread
  rw [topNamed_iff]
  rintro ⟨path, v⟩ hleaf name next keys rfl
  obtain ⟨v', hmem, -⟩ := leaf_of_equal (.dict tree.sections) (.dict _)
    (putAll_shape hputable areDistinct_nil trivial).1 hequal _ hleaf
  rcases mem_of_mem_leaves_putAll hputable areDistinct_nil hmem with hmem | hmem
  · obtain ⟨leaf', -, hpath, -⟩ := leaf_of_setting hholds (List.Perm.refl _) hread hmem
    exact head_namesOf hpath.symm
  · cases hmem

theorem leaves_of_build (h : TopNamed tree) {store : ClusterSettings}
    {listed : List (String × ConfigEntry)} {read : List ConfigItem} (hholds : Holds store tree)
    (hlisted : listed.Perm store.entries) (hread : listed.mapM postProcess = .ok read) :
    (∀ leaf ∈ leaves tree.sections, ∃ v, restored leaf.2 = .ok v ∧
      (leaf.1, v) ∈ leaves (putAll [] ((sortByKey read).map settingOf))) ∧
    ∀ leaf ∈ leaves (putAll [] ((sortByKey read).map settingOf)), ∃ v,
      (leaf.1, v) ∈ leaves tree.sections ∧ restored v = .ok leaf.2 := by
  have hputable := arePutable_settings hholds hlisted hread
  have hofSetting : ∀ setting ∈ (sortByKey read).map settingOf, ∃ v,
      (setting.1, v) ∈ leaves tree.sections ∧ restored v = .ok setting.2 := by
    intro setting hsetting
    obtain ⟨leaf, hleaf, hpath, hrestored⟩ := leaf_of_setting hholds hlisted hread hsetting
    rw [namesOf_leaf h hleaf] at hpath
    exact ⟨leaf.2, hpath ▸ hleaf, hrestored⟩
  have hapart : AreApart ((sortByKey read).map settingOf) := by
    have hnodup := nodup_settings hholds hlisted hread
    refine (List.pairwise_map.mp hnodup).imp_of_mem fun hsetting hsetting' hne => ?_
    obtain ⟨v, hleaf, -⟩ := hofSetting _ hsetting
    obtain ⟨v', hleaf', -⟩ := hofSetting _ hsetting'
    have hleaves := apart_of_leaves hleaf hleaf' fun heq => hne (Prod.mk.inj heq).1
    exact hleaves
  constructor
  · intro leaf hleaf
    obtain ⟨v, hrestored, hsetting⟩ := setting_of_leaf hholds hlisted hread hleaf
      fun leaf' hleaf' hnames => leaf_eq_of_path hleaf' hleaf
        (by rwa [namesOf_leaf h hleaf', namesOf_leaf h hleaf] at hnames)
    rw [namesOf_leaf h hleaf] at hsetting
    exact ⟨v, hrestored, mem_leaves_putAll hputable hapart areDistinct_nil (.inl hsetting)⟩
  · intro leaf hleaf
    rcases mem_of_mem_leaves_putAll hputable areDistinct_nil hleaf with hsetting | hleaf
    · exact hofSetting leaf hsetting
    · cases hleaf

theorem kept_of_survives (h : tree.Survives compile) :
    ∀ leaf ∈ leaves tree.sections, Kept leaf.2 := by
  have htop := topNamed_of_survives h
  obtain ⟨written, s', hwritten, hsync, hbuild⟩ := h
  rw [traverseConfig_tree] at hwritten
  subst hwritten
  have hholds := holds_of_sync hsync
  obtain ⟨fuel, config, hconfig, hequal⟩ := hbuild _ (List.Perm.refl _)
  obtain ⟨read, hread, rfl⟩ := buildConfigFromDb_onePage.mp ⟨fuel, hconfig⟩
  have hputable := arePutable_settings hholds (List.Perm.refl _) hread
  have hdistinct := (putAll_shape hputable areDistinct_nil trivial).1
  obtain ⟨hfound, -⟩ := leaves_of_build htop hholds (List.Perm.refl _) hread
  intro leaf hleaf
  obtain ⟨v, hrestored, hmem⟩ := hfound leaf hleaf
  obtain ⟨v', hmem', hsame⟩ := leaf_of_equal (.dict tree.sections) (.dict _) hdistinct hequal
    leaf hleaf
  have hv : v = v' := by
    by_contra hne
    have hapart := (apart_leaves _ hdistinct.1 hdistinct.2).of_mem hmem hmem'
      fun heq => hne (Prod.mk.inj heq).2
    exact hapart.1 (List.prefix_refl _)
  exact (restored_iff (tree.isLeaf leaf hleaf)).mp ⟨v, hrestored, hv ▸ hsame⟩

theorem survives_of_kept (hkept : ∀ leaf ∈ leaves tree.sections, Kept leaf.2) (h : TopNamed tree)
    (compile : String → Except String (String → Bool)) : tree.Survives compile := by
  have hrestored : ∀ leaf ∈ leaves tree.sections, ∃ v, restored leaf.2 = .ok v ∧
      equal leaf.2 v = true := fun leaf hleaf =>
    (restored_iff (tree.isLeaf leaf hleaf)).mpr (hkept leaf hleaf)
  obtain ⟨s', hsync⟩ : ∃ s', (syncClusterSettingsInDb (fun _ => .done) (writtenOf tree) false).run
      ⟨∅, 0⟩ = (.ok (), s') := by
    refine sync_ends (fun entry hentry => ?_) ∅ 0
    obtain ⟨leaf, hleaf, rfl⟩ := List.mem_map.mp hentry
    obtain ⟨v, hv, -⟩ := hrestored leaf hleaf
    rw [restored, Raised.bind_eq_ok] at hv
    obtain ⟨stored, hstored, -⟩ := hv
    exact ⟨stored, hstored⟩
  have hholds := holds_of_sync hsync
  refine ⟨writtenOf tree, s', traverseConfig_tree.mpr rfl, hsync, fun listed hlisted => ?_⟩
  obtain ⟨read, hread⟩ : ∃ read, listed.mapM postProcess = .ok read := by
    refine exists_mapM ?_
    rintro ⟨key, e⟩ hitem
    obtain ⟨leaf, hleaf, rfl, stored, hstored, rfl⟩ :=
      hholds.ofLeaf key e (Dict.get?_of_mem_entries (hlisted.mem_iff.mp hitem))
    obtain ⟨v, hv, -⟩ := hrestored leaf hleaf
    rw [restored, hstored, Raised.ok_bind, Raised.bind_eq_ok] at hv
    obtain ⟨value, hvalue, -⟩ := hv
    refine ⟨⟨dotted (namesOf leaf.1), value, none, some 1⟩, ?_⟩
    have hentry : entryValue (newEntry stored).value = .ok value := hvalue
    rw [postProcess, hentry]
    rfl
  obtain ⟨fuel, hconfig⟩ := buildConfigFromDb_onePage.mpr ⟨read, hread, rfl⟩
  have hputable := arePutable_settings hholds hlisted hread
  obtain ⟨hdistinct, hfilled⟩ := putAll_shape hputable areDistinct_nil trivial
  obtain ⟨hfound, hother⟩ := leaves_of_build h hholds hlisted hread
  refine ⟨fuel, _, hconfig, equal_dict_of_sameLeaves tree.distinct tree.filled hdistinct hfilled
    ⟨fun leaf hleaf => ?_, fun leaf hleaf => ?_⟩⟩
  · obtain ⟨v, hv, hequal⟩ := hrestored leaf hleaf
    obtain ⟨v', hv', hmem⟩ := hfound leaf hleaf
    rw [hv] at hv'
    exact ⟨v', hmem, Except.ok.inj hv' ▸ hequal⟩
  · obtain ⟨v, hv, -⟩ := hother leaf hleaf
    exact ⟨v, hv⟩

end Tree

/-- A configuration survives if and only if each leaf is kept and no section at the top has a blank
name. A synchronization that does not overwrite changes no entry that is there. -/
theorem survives_iff (tree : ConfigTree) (compile : String → Except String (String → Bool)) :
    (tree.Survives compile ↔ (∀ leaf ∈ leaves tree.sections, Kept leaf.2) ∧ TopNamed tree) ∧
    ∀ outcome entries s r s',
      (syncClusterSettingsInDb outcome entries false).run s = (r, s') →
        ∀ key e, s.store.get? key = some e → s'.store.get? key = some e := by
  refine ⟨⟨fun h => ⟨kept_of_survives h, topNamed_of_survives h⟩, ?_⟩, ?_⟩
  · rintro ⟨hkept, htop⟩
    exact survives_of_kept hkept htop compile
  · exact fun outcome entries s r s' h key e hkey => sync_present h hkey

def ports : ConfigTree where
  sections := [("server", .dict [("ports", .list [.int 80, .int 443])])]
  distinct := ⟨by decide, ⟨by decide, trivial, trivial⟩, trivial⟩
  filled := ⟨⟨by decide, trivial, trivial⟩, trivial⟩
  plain := ⟨by decide, ⟨by decide, trivial, trivial⟩, trivial⟩
  unquoted := by decide
  isLeaf := by
    intro leaf hleaf
    obtain rfl := List.mem_singleton.mp hleaf
    intro item hitem
    rcases List.mem_cons.mp hitem with rfl | hitem
    · trivial
    · obtain rfl := List.mem_singleton.mp hitem
      trivial

/-- The list comes back with itself after each of its numbers. -/
theorem ports_not_survives :
    restored (.list [.int 80, .int 443]) = .ok (.list
      [.int 80, .list [.decimal "80", .decimal "443"],
        .int 443, .list [.decimal "80", .decimal "443"]]) ∧
    ¬ ports.Survives fun _ => .error "" := by
  refine ⟨rfl, fun h => ?_⟩
  have hkept := kept_of_survives h (["server", "ports"], .list [.int 80, .int 443])
    List.mem_cons_self
  exact absurd hkept.1 (by decide)

end Idea.Settings

import Idea.Settings.SettingsApi
import Idea.Settings.StoredValues
import Mathlib.Data.List.Infix

/-! # Configurations as trees

A configuration is a nested dictionary. It is given by its leaves, the paths to the values that are
no sections, and it is built from them by putting one value after the other.
-/

namespace Idea.Settings

def sectionOf (key : String) (entries : List (String × PyValue)) : List (String × PyValue) :=
  match entries.lookup key with
  | some (.dict inner) => inner
  | _ => []

/-- `ConfigTree.put` of a path that was taken apart. What is in the way becomes a section. -/
def putPath : List String → PyValue → List (String × PyValue) → List (String × PyValue)
  | [], _, entries => entries
  | [key], value, entries => Dict.setEntries key value entries
  | key :: next :: keys, value, entries =>
    Dict.setEntries key (.dict (putPath (next :: keys) value (sectionOf key entries))) entries

/-- `key.split('.')`. -/
def splitKey (key : String) : List String := (key.toList.splitOn '.').map String.ofList

def putAll (config : List (String × PyValue)) (settings : List (List String × PyValue)) :
    List (String × PyValue) :=
  settings.foldl (fun config setting => putPath setting.1 setting.2 config) config

mutual

def Filled : PyValue → Prop
  | .dict entries => entries ≠ [] ∧ NamedFilled entries
  | _ => True

def NamedFilled : List (String × PyValue) → Prop
  | [] => True
  | (_, value) :: entries => Filled value ∧ NamedFilled entries

end

mutual

def KeysDistinct : PyValue → Prop
  | .dict entries => (entries.map Prod.fst).Nodup ∧ NamedKeysDistinct entries
  | _ => True

def NamedKeysDistinct : List (String × PyValue) → Prop
  | [] => True
  | (_, value) :: entries => KeysDistinct value ∧ NamedKeysDistinct entries

end

def AreDistinct (entries : List (String × PyValue)) : Prop :=
  (entries.map Prod.fst).Nodup ∧ NamedKeysDistinct entries

theorem areDistinct_nil : AreDistinct [] := ⟨List.nodup_nil, trivial⟩

variable {entries : List (String × PyValue)}

theorem namedKeysDistinct_iff :
    NamedKeysDistinct entries ↔ ∀ entry ∈ entries, KeysDistinct entry.2 := by
  induction entries with
  | nil => simp [NamedKeysDistinct]
  | cons entry entries ih => rw [NamedKeysDistinct, ih, List.forall_mem_cons]

theorem namedFilled_iff : NamedFilled entries ↔ ∀ entry ∈ entries, Filled entry.2 := by
  induction entries with
  | nil => simp [NamedFilled]
  | cons entry entries ih => rw [NamedFilled, ih, List.forall_mem_cons]

variable {leaf : List String × PyValue}

theorem mem_leaves_iff :
    leaf ∈ leaves entries ↔
      ∃ entry ∈ entries, ∃ inner ∈ leavesOfValue entry.2, leaf = (entry.1 :: inner.1, inner.2) := by
  induction entries with
  | nil => simp [leaves]
  | cons entry entries ih =>
    rw [leaves, List.mem_append, ih, List.mem_map, List.exists_mem_cons_iff]
    simp only [eq_comm]

variable {key : String} {value : PyValue}

theorem lookup_eq_some_iff (hkeys : (entries.map Prod.fst).Nodup) :
    entries.lookup key = some value ↔ (key, value) ∈ entries :=
  (Dict.mem_entries (d := ⟨entries, hkeys⟩) (e := (key, value))).symm

theorem mem_leaves_cons_iff (hkeys : (entries.map Prod.fst).Nodup) {keys : List String} :
    (key :: keys, value) ∈ leaves entries ↔
      ∃ inner, entries.lookup key = some inner ∧ (keys, value) ∈ leavesOfValue inner := by
  rw [mem_leaves_iff]
  simp only [lookup_eq_some_iff hkeys]
  constructor
  · rintro ⟨⟨key', inner⟩, hentry, ⟨path, v⟩, hleaf, h⟩
    simp only [Prod.mk.injEq, List.cons.injEq] at h
    obtain ⟨⟨rfl, rfl⟩, rfl⟩ := h
    exact ⟨inner, hentry, hleaf⟩
  · rintro ⟨inner, hentry, hleaf⟩
    exact ⟨(key, inner), hentry, (keys, value), hleaf, rfl⟩

def IsPlainValue (value : PyValue) : Prop := ∀ entries, value ≠ .dict entries

theorem IsPlainValue.leaves_eq (h : IsPlainValue value) : leavesOfValue value = [([], value)] := by
  cases value with
  | dict entries => exact absurd rfl (h entries)
  | _ => rfl

theorem IsPlainValue.keysDistinct (h : IsPlainValue value) : KeysDistinct value := by
  cases value with
  | dict entries => exact absurd rfl (h entries)
  | _ => trivial

theorem IsPlainValue.filled (h : IsPlainValue value) : Filled value := by
  cases value with
  | dict entries => exact absurd rfl (h entries)
  | _ => trivial

theorem isDict_of_leaf {value v : PyValue} {keys : List String}
    (h : (key :: keys, v) ∈ leavesOfValue value) : ∃ entries, value = .dict entries := by
  by_contra hplain
  rw [not_exists] at hplain
  rw [IsPlainValue.leaves_eq hplain, List.mem_singleton, Prod.mk.injEq] at h
  cases h.1

theorem nil_mem_leavesOfValue {value v : PyValue} (h : ([], v) ∈ leavesOfValue value) :
    v = value ∧ IsPlainValue value := by
  cases value with
  | dict entries =>
    obtain ⟨_, -, _, hcons⟩ := exists_cons_of_mem_leaves h
    cases hcons
  | _ => exact ⟨(Prod.mk.inj (List.mem_singleton.mp h)).2, fun _ => PyValue.noConfusion⟩

theorem nodup_setEntries (h : (entries.map Prod.fst).Nodup) (key : String) (value : PyValue) :
    ((Dict.setEntries key value entries).map Prod.fst).Nodup :=
  ((⟨entries, h⟩ : Dict String PyValue).set key value).nodup

theorem mem_setEntries (h : (entries.map Prod.fst).Nodup) {entry : String × PyValue}
    (hentry : entry ∈ Dict.setEntries key value entries) :
    entry = (key, value) ∨ entry ∈ entries := by
  obtain ⟨key', value'⟩ := entry
  rw [← lookup_eq_some_iff (nodup_setEntries h key value), Dict.lookup_setEntries] at hentry
  split at hentry
  · next heq =>
    rw [heq, Option.some.inj hentry]
    exact .inl rfl
  · exact .inr ((lookup_eq_some_iff h).mp hentry)

theorem sectionOf_cases (key : String) (entries : List (String × PyValue)) :
    entries.lookup key = some (.dict (sectionOf key entries)) ∨
      sectionOf key entries = [] ∧ ∀ inner, entries.lookup key ≠ some (.dict inner) := by
  unfold sectionOf
  split
  · next inner h => exact .inl h
  · next h => exact .inr ⟨rfl, h⟩

theorem areDistinct_sectionOf (h : AreDistinct entries) (key : String) :
    AreDistinct (sectionOf key entries) := by
  rcases sectionOf_cases key entries with hlookup | ⟨hempty, -⟩
  · exact namedKeysDistinct_iff.mp h.2 _ ((lookup_eq_some_iff h.1).mp hlookup)
  · rw [hempty]
    exact ⟨List.nodup_nil, trivial⟩

theorem areDistinct_setEntries (h : AreDistinct entries) (hvalue : KeysDistinct value) :
    AreDistinct (Dict.setEntries key value entries) := by
  refine ⟨nodup_setEntries h.1 key value, namedKeysDistinct_iff.mpr fun entry hentry => ?_⟩
  rcases mem_setEntries h.1 hentry with rfl | hentry
  · exact hvalue
  · exact namedKeysDistinct_iff.mp h.2 entry hentry

variable {path : List String}

theorem areDistinct_putPath (hvalue : KeysDistinct value) (h : AreDistinct entries) :
    AreDistinct (putPath path value entries) := by
  induction path, value, entries using putPath.induct with
  | case1 => exact h
  | case2 key value entries => exact areDistinct_setEntries h hvalue
  | case3 key next keys value entries ih =>
    exact areDistinct_setEntries h (ih hvalue (areDistinct_sectionOf h key))

theorem putPath_ne_nil (hpath : path ≠ []) (value : PyValue) (entries : List (String × PyValue)) :
    putPath path value entries ≠ [] := by
  have hset (key : String) (inner : PyValue) : Dict.setEntries key inner entries ≠ [] := by
    cases entries with
    | nil => exact List.cons_ne_nil _ _
    | cons entry entries =>
      rw [Dict.setEntries]
      split <;> exact List.cons_ne_nil _ _
  unfold putPath
  split
  · exact absurd rfl hpath
  · exact hset _ _
  · exact hset _ _

theorem namedFilled_setEntries (h : AreDistinct entries) (hfilled : NamedFilled entries)
    (hvalue : Filled value) : NamedFilled (Dict.setEntries key value entries) := by
  refine namedFilled_iff.mpr fun entry hentry => ?_
  rcases mem_setEntries h.1 hentry with rfl | hentry
  · exact hvalue
  · exact namedFilled_iff.mp hfilled entry hentry

theorem namedFilled_sectionOf (h : AreDistinct entries) (hfilled : NamedFilled entries)
    (key : String) : NamedFilled (sectionOf key entries) := by
  rcases sectionOf_cases key entries with hlookup | ⟨hempty, -⟩
  · exact (namedFilled_iff.mp hfilled _ ((lookup_eq_some_iff h.1).mp hlookup)).2
  · rw [hempty]
    trivial

theorem namedFilled_putPath (hvalue : Filled value) (h : AreDistinct entries)
    (hfilled : NamedFilled entries) : NamedFilled (putPath path value entries) := by
  induction path, value, entries using putPath.induct with
  | case1 => exact hfilled
  | case2 key value entries => exact namedFilled_setEntries h hfilled hvalue
  | case3 key next keys value entries ih =>
    exact namedFilled_setEntries h hfilled ⟨putPath_ne_nil (List.cons_ne_nil _ _) _ _,
      ih hvalue (areDistinct_sectionOf h key) (namedFilled_sectionOf h hfilled key)⟩

/-- A leaf of a dictionary is below the section of the first key of its path, or it is the value of
that key. -/
theorem mem_leaves_sectionOf (h : AreDistinct entries) (hpath : path ≠ []) :
    (path, value) ∈ leaves (sectionOf key entries) ↔ (key :: path, value) ∈ leaves entries := by
  rw [mem_leaves_cons_iff h.1]
  rcases sectionOf_cases key entries with hlookup | ⟨hempty, hnone⟩
  · constructor
    · exact fun hmem => ⟨_, hlookup, hmem⟩
    · rintro ⟨inner, hinner, hmem⟩
      rw [hlookup] at hinner
      rwa [← Option.some.inj hinner] at hmem
  · rw [hempty]
    refine iff_of_false List.not_mem_nil ?_
    rintro ⟨inner, hinner, hmem⟩
    obtain ⟨next, path, rfl⟩ := List.exists_cons_of_ne_nil hpath
    obtain ⟨inner, rfl⟩ := isDict_of_leaf hmem
    exact hnone inner hinner

/-- A value that is put at a path is a leaf there. The leaves that stay are those that are neither
below the path nor above it. -/
theorem mem_leaves_putPath (hpath : path ≠ []) (hvalue : IsPlainValue value)
    (h : AreDistinct entries) :
    leaf ∈ leaves (putPath path value entries) ↔ leaf = (path, value) ∨
      leaf ∈ leaves entries ∧ ¬ path <+: leaf.1 ∧ ¬ leaf.1 <+: path := by
  obtain ⟨leafPath, v⟩ := leaf
  cases leafPath with
  | nil =>
    have hnone (entries' : List (String × PyValue)) : ([], v) ∉ leaves entries' := by
      intro hmem
      obtain ⟨_, -, _, hcons⟩ := exists_cons_of_mem_leaves hmem
      cases hcons
    refine iff_of_false (hnone _) ?_
    rintro (heq | ⟨hmem, -⟩)
    · exact hpath (Prod.mk.inj heq).1.symm
    · exact hnone _ hmem
  | cons key' keys' =>
    induction path, value, entries using putPath.induct generalizing key' keys' v with
    | case1 => exact absurd rfl hpath
    | case2 key value entries =>
      rw [putPath, mem_leaves_cons_iff (nodup_setEntries h.1 key value), Dict.lookup_setEntries,
        mem_leaves_cons_iff h.1]
      split
      · next heq =>
        subst heq
        simp [hvalue.leaves_eq, and_comm, eq_comm]
      · next hne =>
        have hne' : ¬ key = key' := fun heq => hne heq.symm
        simp [hne, hne', List.cons_prefix_cons]
    | case3 key next keys value entries ih =>
      rw [putPath, mem_leaves_cons_iff (nodup_setEntries h.1 key _), Dict.lookup_setEntries]
      split
      · next heq =>
        subst heq
        have hinner (inner : List (String × PyValue)) :
            (∃ w, some (PyValue.dict inner) = some w ∧ (keys', v) ∈ leavesOfValue w) ↔
              (keys', v) ∈ leaves inner := by
          constructor
          · rintro ⟨w, hw, hmem⟩
            rwa [← Option.some.inj hw] at hmem
          · exact fun hmem => ⟨_, rfl, hmem⟩
        rw [hinner]
        cases keys' with
        | nil =>
          refine iff_of_false (fun hmem => ?_) ?_
          · obtain ⟨_, -, _, hcons⟩ := exists_cons_of_mem_leaves hmem
            cases hcons
          · simp [List.cons_prefix_cons]
        | cons next' keys' =>
          rw [ih (List.cons_ne_nil _ _) hvalue (areDistinct_sectionOf h key') v next' keys',
            mem_leaves_sectionOf h (List.cons_ne_nil _ _)]
          simp only [Prod.mk.injEq, List.cons_prefix_cons, List.cons.injEq, true_and]
      · next hne =>
        have hne' : ¬ key = key' := fun heq => hne heq.symm
        rw [mem_leaves_cons_iff h.1]
        simp [hne, hne', List.cons_prefix_cons]

/-- Settings that can be put, none of them at an empty path. -/
def ArePutable (settings : List (List String × PyValue)) : Prop :=
  ∀ setting ∈ settings, setting.1 ≠ [] ∧ IsPlainValue setting.2

def AreApart (settings : List (List String × PyValue)) : Prop :=
  settings.Pairwise fun setting setting' =>
    ¬ setting.1 <+: setting'.1 ∧ ¬ setting'.1 <+: setting.1

variable {settings : List (List String × PyValue)}

theorem AreApart.of_mem (h : AreApart settings) {setting setting' : List String × PyValue}
    (hmem : setting ∈ settings) (hmem' : setting' ∈ settings) (hne : setting ≠ setting') :
    ¬ setting.1 <+: setting'.1 ∧ ¬ setting'.1 <+: setting.1 := by
  induction h with
  | nil => cases hmem
  | cons hfirst _ ih =>
    rcases List.mem_cons.mp hmem with rfl | hlater
    · rcases List.mem_cons.mp hmem' with rfl | hlater'
      · exact absurd rfl hne
      · exact hfirst _ hlater'
    · rcases List.mem_cons.mp hmem' with rfl | hlater'
      · exact (hfirst _ hlater).symm
      · exact ih hlater hlater'

variable {config : List (String × PyValue)}

theorem putAll_shape (h : ArePutable settings) (hdistinct : AreDistinct config)
    (hfilled : NamedFilled config) :
    AreDistinct (putAll config settings) ∧ NamedFilled (putAll config settings) := by
  induction settings generalizing config with
  | nil => exact ⟨hdistinct, hfilled⟩
  | cons setting settings ih =>
    rw [ArePutable, List.forall_mem_cons] at h
    obtain ⟨⟨-, hplain⟩, h⟩ := h
    exact ih h (areDistinct_putPath hplain.keysDistinct hdistinct)
      (namedFilled_putPath hplain.filled hdistinct hfilled)

theorem mem_of_mem_leaves_putAll (h : ArePutable settings) (hdistinct : AreDistinct config)
    (hleaf : leaf ∈ leaves (putAll config settings)) : leaf ∈ settings ∨ leaf ∈ leaves config := by
  induction settings generalizing config with
  | nil => exact .inr hleaf
  | cons setting settings ih =>
    rw [ArePutable, List.forall_mem_cons] at h
    obtain ⟨⟨hpath, hplain⟩, h⟩ := h
    rcases ih h (areDistinct_putPath hplain.keysDistinct hdistinct) hleaf with hleaf | hleaf
    · exact .inl (List.mem_cons_of_mem _ hleaf)
    · rcases (mem_leaves_putPath hpath hplain hdistinct).mp hleaf with rfl | ⟨hleaf, -⟩
      · exact .inl List.mem_cons_self
      · exact .inr hleaf

theorem mem_leaves_putAll (h : ArePutable settings) (hapart : AreApart settings)
    (hdistinct : AreDistinct config) (hleaf : leaf ∈ settings ∨ leaf ∈ leaves config ∧
      ∀ setting ∈ settings, ¬ setting.1 <+: leaf.1 ∧ ¬ leaf.1 <+: setting.1) :
    leaf ∈ leaves (putAll config settings) := by
  induction settings generalizing config with
  | nil => exact (hleaf.resolve_left List.not_mem_nil).1
  | cons setting settings ih =>
    rw [ArePutable, List.forall_mem_cons] at h
    obtain ⟨⟨hpath, hplain⟩, h⟩ := h
    rw [AreApart, List.pairwise_cons] at hapart
    refine ih h hapart.2 (areDistinct_putPath hplain.keysDistinct hdistinct) ?_
    rcases hleaf with hleaf | ⟨hleaf, hother⟩
    · rcases List.mem_cons.mp hleaf with rfl | hleaf
      · refine .inr ⟨(mem_leaves_putPath hpath hplain hdistinct).mpr (.inl rfl), ?_⟩
        exact fun setting' hsetting' => (hapart.1 setting' hsetting').symm
      · exact .inl hleaf
    · rw [List.forall_mem_cons] at hother
      exact .inr ⟨(mem_leaves_putPath hpath hplain hdistinct).mpr (.inr ⟨hleaf, hother.1⟩), hother.2⟩

mutual

theorem apart_leavesOfValue (value : PyValue) (h : KeysDistinct value) :
    AreApart (leavesOfValue value) := by
  cases value with
  | dict entries => exact apart_leaves entries h.1 h.2
  | _ => exact List.pairwise_singleton _ _

theorem apart_leaves (entries : List (String × PyValue)) (hkeys : (entries.map Prod.fst).Nodup)
    (h : NamedKeysDistinct entries) : AreApart (leaves entries) := by
  cases entries with
  | nil => exact List.Pairwise.nil
  | cons entry entries =>
    obtain ⟨key, value⟩ := entry
    rw [List.map_cons, List.nodup_cons] at hkeys
    rw [leaves, AreApart, List.pairwise_append]
    refine ⟨?_, apart_leaves entries hkeys.2 h.2, fun leaf hleaf leaf' hleaf' => ?_⟩
    · rw [List.pairwise_map]
      refine (apart_leavesOfValue value h.1).imp fun hapart => ?_
      simpa only [List.cons_prefix_cons, true_and] using hapart
    · obtain ⟨inner, -, rfl⟩ := List.mem_map.mp hleaf
      obtain ⟨key', hkey', keys, hcons⟩ := exists_cons_of_mem_leaves hleaf'
      have hne : key ≠ key' := by
        rintro rfl
        exact hkeys.1 hkey'
      rw [hcons]
      exact ⟨fun hpart => hne (List.cons_prefix_cons.mp hpart).1,
        fun hpart => hne (List.cons_prefix_cons.mp hpart).1.symm⟩

end

mutual

theorem exists_leaf (value : PyValue) (h : Filled value) : ∃ leaf, leaf ∈ leavesOfValue value := by
  cases value with
  | dict entries => exact exists_leaf_of_named entries h.1 h.2
  | _ => exact ⟨_, List.mem_singleton.mpr rfl⟩

theorem exists_leaf_of_named (entries : List (String × PyValue)) (hne : entries ≠ [])
    (h : NamedFilled entries) : ∃ leaf, leaf ∈ leaves entries := by
  cases entries with
  | nil => exact absurd rfl hne
  | cons entry entries =>
    obtain ⟨leaf, hleaf⟩ := exists_leaf entry.2 h.1
    exact ⟨_, List.mem_append_left _ (List.mem_map_of_mem hleaf)⟩

end

theorem equal_dict {value' : PyValue} (h : equal (.dict entries) value' = true) :
    ∃ entries', value' = .dict entries' ∧ entries.length = entries'.length ∧
      equalNamed entries entries' = true := by
  cases value' with
  | dict entries' =>
    rw [equal, Bool.and_eq_true, decide_eq_true_eq] at h
    exact ⟨entries', rfl, h⟩
  | _ => simp [equal, numberOf] at h

theorem isPlainValue_of_equal {value value' : PyValue} (hplain : IsPlainValue value)
    (h : equal value value' = true) : IsPlainValue value' := by
  rintro entries rfl
  cases value with
  | dict entries' => exact hplain entries' rfl
  | none => cases h
  | str value => cases h
  | list items => cases h
  | _ => simp [equal, numberOf] at h

mutual

theorem leaf_of_equal (value value' : PyValue) (hvalue' : KeysDistinct value')
    (h : equal value value' = true) : ∀ leaf ∈ leavesOfValue value,
      ∃ v, (leaf.1, v) ∈ leavesOfValue value' ∧ equal leaf.2 v = true := by
  by_cases hplain : IsPlainValue value
  · intro leaf hleaf
    rw [hplain.leaves_eq] at hleaf
    obtain rfl := List.mem_singleton.mp hleaf
    refine ⟨value', ?_, h⟩
    rw [(isPlainValue_of_equal hplain h).leaves_eq]
    exact List.mem_singleton.mpr rfl
  · cases value with
    | dict entries =>
      obtain ⟨entries', rfl, -, hnamed⟩ := equal_dict h
      exact leaf_of_equalNamed entries entries' hvalue' hnamed
    | _ => exact absurd (fun _ => PyValue.noConfusion) hplain

theorem leaf_of_equalNamed (entries entries' : List (String × PyValue))
    (hentries' : AreDistinct entries') (h : equalNamed entries entries' = true) :
    ∀ leaf ∈ leaves entries, ∃ v, (leaf.1, v) ∈ leaves entries' ∧ equal leaf.2 v = true := by
  cases entries with
  | nil => exact fun _ hleaf => absurd hleaf List.not_mem_nil
  | cons entry entries =>
    obtain ⟨key, value⟩ := entry
    rw [equalNamed, Bool.and_eq_true] at h
    intro leaf hleaf
    rcases List.mem_append.mp hleaf with hleaf | hleaf
    · obtain ⟨inner, hinner, rfl⟩ := List.mem_map.mp hleaf
      cases hlookup : entries'.lookup key with
      | none =>
        rw [hlookup] at h
        cases h.1
      | some value' =>
        rw [hlookup] at h
        have hdistinct := namedKeysDistinct_iff.mp hentries'.2 _
          ((lookup_eq_some_iff hentries'.1).mp hlookup)
        obtain ⟨v, hv, hequal⟩ := leaf_of_equal value value' hdistinct h.1 inner hinner
        exact ⟨v, (mem_leaves_cons_iff hentries'.1).mpr ⟨value', hlookup, hv⟩, hequal⟩
    · exact leaf_of_equalNamed entries entries' hentries' h.2 leaf hleaf

end

theorem mem_keys_iff (hkeys : (entries.map Prod.fst).Nodup) (hfilled : NamedFilled entries) :
    key ∈ entries.map Prod.fst ↔ ∃ keys v, (key :: keys, v) ∈ leaves entries := by
  constructor
  · intro hkey
    obtain ⟨⟨_, value⟩, hentry, rfl⟩ := List.mem_map.mp hkey
    obtain ⟨leaf, hleaf⟩ := exists_leaf value (namedFilled_iff.mp hfilled _ hentry)
    exact ⟨leaf.1, leaf.2, (mem_leaves_cons_iff hkeys).mpr
      ⟨value, (lookup_eq_some_iff hkeys).mpr hentry, hleaf⟩⟩
  · rintro ⟨keys, v, hleaf⟩
    obtain ⟨inner, hinner, -⟩ := (mem_leaves_cons_iff hkeys).mp hleaf
    exact List.mem_map_of_mem ((lookup_eq_some_iff hkeys).mp hinner)

/-- Every leaf of the first dictionary has an equal one in the second, and the second one has no
other leaves. -/
structure SameLeaves (ls ls' : List (List String × PyValue)) : Prop where
  found : ∀ leaf ∈ ls, ∃ v, (leaf.1, v) ∈ ls' ∧ equal leaf.2 v = true
  noOther : ∀ leaf ∈ ls', ∃ v, (leaf.1, v) ∈ ls

theorem SameLeaves.length_eq {entries entries' : List (String × PyValue)}
    (h : SameLeaves (leaves entries) (leaves entries')) (hkeys : (entries.map Prod.fst).Nodup)
    (hfilled : NamedFilled entries) (hkeys' : (entries'.map Prod.fst).Nodup)
    (hfilled' : NamedFilled entries') : entries.length = entries'.length := by
  have hperm : (entries.map Prod.fst).Perm (entries'.map Prod.fst) := by
    refine (List.perm_ext_iff_of_nodup hkeys hkeys').mpr fun key => ?_
    rw [mem_keys_iff hkeys hfilled, mem_keys_iff hkeys' hfilled']
    constructor
    · rintro ⟨keys, v, hleaf⟩
      obtain ⟨v', hleaf', -⟩ := h.found _ hleaf
      exact ⟨keys, v', hleaf'⟩
    · rintro ⟨keys, v, hleaf⟩
      obtain ⟨v', hleaf'⟩ := h.noOther _ hleaf
      exact ⟨keys, v', hleaf'⟩
  simpa using hperm.length_eq

mutual

theorem equal_of_sameLeaves (value value' : PyValue) (hdistinct : KeysDistinct value)
    (hfilled : Filled value) (hdistinct' : KeysDistinct value') (hfilled' : Filled value')
    (h : SameLeaves (leavesOfValue value) (leavesOfValue value')) : equal value value' = true := by
  by_cases hplain : IsPlainValue value
  · rw [hplain.leaves_eq] at h
    obtain ⟨v, hv, hequal⟩ := h.found _ List.mem_cons_self
    obtain ⟨rfl, -⟩ := nil_mem_leavesOfValue hv
    exact hequal
  · cases value with
    | dict entries =>
      obtain ⟨leaf, hleaf⟩ := exists_leaf_of_named entries hfilled.1 hfilled.2
      obtain ⟨v, hv, -⟩ := h.found leaf hleaf
      obtain ⟨key, -, keys, hcons⟩ := exists_cons_of_mem_leaves hleaf
      rw [hcons] at hv
      obtain ⟨entries', rfl⟩ := isDict_of_leaf hv
      rw [equal, Bool.and_eq_true, decide_eq_true_eq]
      refine ⟨SameLeaves.length_eq h hdistinct.1 hfilled.2 hdistinct'.1 hfilled'.2, ?_⟩
      exact equalNamed_of_sameLeaves entries entries' hdistinct hfilled.2 hdistinct' hfilled'.2
        h.found fun key _ keys v hleaf => h.noOther _ hleaf
    | _ => exact absurd (fun _ => PyValue.noConfusion) hplain

theorem equalNamed_of_sameLeaves (entries entries' : List (String × PyValue))
    (hdistinct : AreDistinct entries) (hfilled : NamedFilled entries)
    (hdistinct' : AreDistinct entries') (hfilled' : NamedFilled entries')
    (hfound : ∀ leaf ∈ leaves entries, ∃ v, (leaf.1, v) ∈ leaves entries' ∧ equal leaf.2 v = true)
    (hother : ∀ key ∈ entries.map Prod.fst, ∀ keys v, (key :: keys, v) ∈ leaves entries' →
      ∃ v, (key :: keys, v) ∈ leaves entries) : equalNamed entries entries' = true := by
  cases entries with
  | nil => rfl
  | cons entry entries =>
    obtain ⟨key, value⟩ := entry
    obtain ⟨hkeys, hnamed⟩ := hdistinct
    have hkey := List.nodup_cons.mp hkeys
    have hhead {keys : List String} {v : PyValue}
        (hmem : (key :: keys, v) ∈ leaves ((key, value) :: entries)) :
        (keys, v) ∈ leavesOfValue value := by
      obtain ⟨inner, hinner, hmem⟩ := (mem_leaves_cons_iff hkeys).mp hmem
      rw [List.lookup_cons_self] at hinner
      rwa [Option.some.inj hinner]
    have htail {key' : String} (hmem : key' ∈ entries.map Prod.fst) {keys : List String}
        {v : PyValue} (hleaf : (key' :: keys, v) ∈ leaves ((key, value) :: entries)) :
        (key' :: keys, v) ∈ leaves entries := by
      rcases List.mem_append.mp hleaf with hleaf | hleaf
      · obtain ⟨inner, -, heq⟩ := List.mem_map.mp hleaf
        rw [← (List.cons.inj (Prod.mk.inj heq).1).1] at hmem
        exact absurd hmem hkey.1
      · exact hleaf
    obtain ⟨leaf, hleaf⟩ := exists_leaf value hfilled.1
    obtain ⟨v, hv, -⟩ := hfound _ (List.mem_append_left _ (List.mem_map_of_mem hleaf))
    obtain ⟨value', hlookup, -⟩ := (mem_leaves_cons_iff hdistinct'.1).mp hv
    have hentry := (lookup_eq_some_iff hdistinct'.1).mp hlookup
    have hvalue : equal value value' = true := by
      refine equal_of_sameLeaves value value' hnamed.1 hfilled.1
        (namedKeysDistinct_iff.mp hdistinct'.2 _ hentry) (namedFilled_iff.mp hfilled' _ hentry)
        ⟨fun leaf hleaf => ?_, fun leaf hleaf => ?_⟩
      · obtain ⟨v, hv, hequal⟩ := hfound _ (List.mem_append_left _ (List.mem_map_of_mem hleaf))
        obtain ⟨inner, hinner, hv⟩ := (mem_leaves_cons_iff hdistinct'.1).mp hv
        rw [hlookup] at hinner
        rw [← Option.some.inj hinner] at hv
        exact ⟨v, hv, hequal⟩
      · obtain ⟨v, hv⟩ := hother key List.mem_cons_self leaf.1 leaf.2
          ((mem_leaves_cons_iff hdistinct'.1).mpr ⟨value', hlookup, hleaf⟩)
        exact ⟨v, hhead hv⟩
    rw [equalNamed, hlookup, Bool.and_eq_true]
    refine ⟨hvalue, equalNamed_of_sameLeaves entries entries' ⟨hkey.2, hnamed.2⟩ hfilled.2 hdistinct'
      hfilled' (fun leaf hleaf => hfound leaf (List.mem_append_right _ hleaf))
      fun key' hkey' keys v hleaf => ?_⟩
    obtain ⟨v, hv⟩ := hother key' (List.mem_cons_of_mem _ hkey') keys v hleaf
    exact ⟨v, htail hkey' hv⟩

end

theorem equal_dict_of_sameLeaves {entries entries' : List (String × PyValue)}
    (hdistinct : AreDistinct entries) (hfilled : NamedFilled entries)
    (hdistinct' : AreDistinct entries') (hfilled' : NamedFilled entries')
    (h : SameLeaves (leaves entries) (leaves entries')) :
    equal (.dict entries) (.dict entries') = true := by
  rw [equal, Bool.and_eq_true, decide_eq_true_eq]
  exact ⟨h.length_eq hdistinct.1 hfilled hdistinct'.1 hfilled',
    equalNamed_of_sameLeaves entries entries' hdistinct hfilled hdistinct' hfilled' h.found
      fun _ _ _ _ hleaf => h.noOther _ hleaf⟩

end Idea.Settings

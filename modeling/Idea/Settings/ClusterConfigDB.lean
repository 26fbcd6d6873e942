import Idea.Data.Dict
import Idea.Model.Texts
import Idea.System.Faults

/-! # The table of cluster settings

A configuration entry has a value, the source it comes from and a version that counts its writes.
A table has no floats, so that a float is written as a decimal of the same text.
-/

namespace Idea.Settings

/-- A value as it is read from JSON, or a decimal. A float is given by its text. -/
inductive PyValue where
  | none
  | bool (value : Bool)
  | int (value : ℤ)
  | float (text : String)
  | decimal (text : String)
  | str (value : String)
  | list (items : List PyValue)
  | dict (entries : List (String × PyValue))

/-- An attribute of an item of a table. A number is given by a text that spells it. -/
inductive Attribute where
  | null
  | bool (value : Bool)
  | number (text : String)
  | string (value : String)
  | list (items : List Attribute)
  | map (entries : List (String × Attribute))

mutual

def attributeOf : PyValue → Attribute
  | .none => .null
  | .bool value => .bool value
  | .int value => .number (toString value)
  | .float text => .number text
  | .decimal text => .number text
  | .str value => .string value
  | .list items => .list (attributesOf items)
  | .dict entries => .map (namedAttributesOf entries)

def attributesOf : List PyValue → List Attribute
  | [] => []
  | item :: items => attributeOf item :: attributesOf items

def namedAttributesOf : List (String × PyValue) → List (String × Attribute)
  | [] => []
  | (name, value) :: entries => (name, attributeOf value) :: namedAttributesOf entries

end

mutual

def hasFloat : PyValue → Bool
  | .float _ => true
  | .list items => anyFloat items
  | .dict entries => anyNamedFloat entries
  | _ => false

def anyFloat : List PyValue → Bool
  | [] => false
  | item :: items => hasFloat item || anyFloat items

def anyNamedFloat : List (String × PyValue) → Bool
  | [] => false
  | (_, value) :: entries => hasFloat value || anyNamedFloat entries

end

/-- `TypeSerializer.serialize`. -/
def serialize (value : PyValue) : Except Raised Attribute :=
  if hasFloat value then .error .typeError else .ok (attributeOf value)

/-- Whether `Decimal` reads a text. It reads what `float` reads, with underscores anywhere, and
what is no number may be marked and carry digits. -/
def isDecimalText (value : String) : Bool :=
  let cs := ((stripChars value.toList).filter (· ≠ '_')).map Char.toLower
  let unsigned := (Decimal.takeSign cs).2
  (Decimal.parseFloat cs).isSome ||
    ["nan".toList, "snan".toList].any fun word =>
      word.isPrefixOf unsigned && (unsigned.drop word.length).all Char.isDigit

/-- `Decimal(str(value))`. -/
def decimalOf : PyValue → Except Raised PyValue
  | .int value => .ok (.decimal (toString value))
  | .float text => .ok (.decimal text)
  | .decimal text => .ok (.decimal text)
  | .str value => if isDecimalText value then .ok (.decimal value) else .error .external
  | _ => .error .external

/-- The value that is handed to the table. Of a list only the first item tells whether it is one of
floats. -/
def convertFloats : PyValue → Except Raised PyValue
  | .float text => decimalOf (.float text)
  | .list (.float text :: items) => .list <$> (.float text :: items).mapM decimalOf
  | value => .ok value

def storedAttribute (value : PyValue) : Except Raised Attribute := convertFloats value >>= serialize

def isText : PyValue → Bool
  | .str _ => true
  | _ => false

def mixesTexts : PyValue → Bool
  | .list (.float _ :: items) => items.any isText
  | _ => false

theorem decimalOf_ok {value decimal : PyValue} (h : decimalOf value = .ok decimal) :
    hasFloat decimal = false ∧ (attributeOf decimal = attributeOf value ↔ isText value = false) := by
  cases value with
  | int n =>
    obtain rfl := Except.ok.inj h
    exact ⟨rfl, fun _ => rfl, fun _ => rfl⟩
  | float text =>
    obtain rfl := Except.ok.inj h
    exact ⟨rfl, fun _ => rfl, fun _ => rfl⟩
  | decimal text =>
    obtain rfl := Except.ok.inj h
    exact ⟨rfl, fun _ => rfl, fun _ => rfl⟩
  | str text =>
    rw [decimalOf] at h
    split at h
    · obtain rfl := Except.ok.inj h
      exact ⟨rfl, fun h => (by cases h), fun h => (by cases h)⟩
    · cases h
  | none => cases h
  | bool value => cases h
  | list items => cases h
  | dict entries => cases h

theorem decimals_ok {values decimals : List PyValue} (h : values.mapM decimalOf = .ok decimals) :
    anyFloat decimals = false ∧
      (attributesOf decimals = attributesOf values ↔ values.any isText = false) := by
  induction values generalizing decimals with
  | nil =>
    obtain rfl := Except.ok.inj h
    exact ⟨rfl, fun _ => rfl, fun _ => rfl⟩
  | cons value values ih =>
    rw [List.mapM_cons, Raised.bind_eq_ok] at h
    obtain ⟨decimal, hdecimal, h⟩ := h
    rw [Raised.bind_eq_ok] at h
    obtain ⟨rest, hrest, h⟩ := h
    obtain rfl := Except.ok.inj h
    obtain ⟨hfloat, hsame⟩ := decimalOf_ok hdecimal
    obtain ⟨hfloats, hsames⟩ := ih hrest
    refine ⟨by rw [anyFloat, hfloat, hfloats]; rfl, ?_⟩
    rw [attributesOf, attributesOf, List.cons.injEq, hsame, hsames, List.any_cons,
      Bool.or_eq_false_iff]

variable {value : PyValue}

theorem serialize_ok {stored : Attribute} (h : serialize value = .ok stored) :
    stored = attributeOf value := by
  rw [serialize] at h
  split at h
  · cases h
  · exact (Except.ok.inj h).symm

theorem storedAttribute_ok {stored : Attribute} (h : storedAttribute value = .ok stored) :
    stored = attributeOf value ↔ mixesTexts value = false := by
  rw [storedAttribute, Raised.bind_eq_ok] at h
  obtain ⟨converted, hconverted, hserialize⟩ := h
  rw [serialize_ok hserialize]
  by_cases hlist : ∃ text items, value = .list (.float text :: items)
  · obtain ⟨text, items, rfl⟩ := hlist
    rw [convertFloats] at hconverted
    cases hdecimals : (PyValue.float text :: items).mapM decimalOf with
    | error e =>
      rw [hdecimals] at hconverted
      cases hconverted
    | ok decimals =>
      rw [hdecimals] at hconverted
      obtain rfl := Except.ok.inj hconverted
      rw [attributeOf, attributeOf, Attribute.list.injEq, (decimals_ok hdecimals).2]
      rfl
  · have hmixes : mixesTexts value = false := by
      unfold mixesTexts
      split
      · next text items => exact absurd ⟨text, items, rfl⟩ hlist
      · rfl
    rw [hmixes]
    refine iff_of_true ?_ rfl
    unfold convertFloats at hconverted
    split at hconverted
    · exact ((decimalOf_ok hconverted).2).mpr rfl
    · next text items => exact absurd ⟨text, items, rfl⟩ hlist
    · rw [Except.ok.inj hconverted]

structure ConfigEntry where
  value : Option Attribute
  source : Option String
  version : Option ℤ

abbrev ClusterSettings : Type := Dict String ConfigEntry

def item (table : ClusterSettings) (key : String) : ConfigEntry :=
  (table.get? key).getD ⟨none, none, none⟩

/-- `ADD #version :version` of 1. -/
def addOne (version : Option ℤ) : Option ℤ := some (version.getD 0 + 1)

/-- `SET #value=:value ADD #version :version`. -/
def updateItem (key : String) (value : Attribute) (table : ClusterSettings) : ClusterSettings :=
  table.set key { item table key with
    value := some value, version := addOne (item table key).version }

section

variable (outcome : ℕ → CallOutcome Raised)

def getItem (key : String) : Stateful (Served ClusterSettings) Raised (Option ConfigEntry) := do
  Served.call outcome id
  let s ← Stateful.get
  pure (s.store.get? key)

def setConfigEntry (key : String) (value : PyValue) :
    Stateful (Served ClusterSettings) Raised Unit := do
  let stored ← Stateful.ofExcept (storedAttribute value)
  Served.call outcome (updateItem key stored)

def syncEntry (overwrite : Bool) (entry : String × PyValue) :
    Stateful (Served ClusterSettings) Raised Unit := do
  let dbItem ← getItem outcome entry.1
  if !overwrite && dbItem.isSome then pure () else setConfigEntry outcome entry.1 entry.2

def syncClusterSettingsInDb (configEntries : List (String × PyValue)) (overwrite : Bool) :
    Stateful (Served ClusterSettings) Raised Unit :=
  Stateful.forEach (syncEntry outcome overwrite) configEntries

end

section Writes

variable {outcome : ℕ → CallOutcome Raised} {n : ℕ} {t : ClusterSettings}

/-- Both calls that write an entry are done. The first of them is call `n`. -/
def WriteDone (outcome : ℕ → CallOutcome Raised) (n : ℕ) (value : PyValue) : Prop :=
  outcome n = .done ∧ (∃ stored, storedAttribute value = .ok stored) ∧ outcome (n + 1) = .done

/-- The write of an entry fails before the table is changed. -/
def WriteRefused (outcome : ℕ → CallOutcome Raised) (n : ℕ) (value : PyValue) : Prop :=
  outcome n ≠ .done ∨ (∃ e, storedAttribute value = .error e) ∨ ∃ e, outcome (n + 1) = .refused e

def WriteLost (outcome : ℕ → CallOutcome Raised) (n : ℕ) (value : PyValue) : Prop :=
  outcome n = .done ∧ (∃ stored, storedAttribute value = .ok stored) ∧ ∃ e, outcome (n + 1) = .lost e

theorem not_writeRefused (hget : outcome n = .done)
    (hvalue : ∃ stored, storedAttribute value = .ok stored)
    (hupdate : ∀ e, outcome (n + 1) ≠ .refused e) : ¬ WriteRefused outcome n value := by
  obtain ⟨stored, hstored⟩ := hvalue
  rintro (h | ⟨e, h⟩ | ⟨e, h⟩)
  · exact h hget
  · rw [hstored] at h
    cases h
  · exact hupdate e h

theorem WriteDone.not_refused (h : WriteDone outcome n value) : ¬ WriteRefused outcome n value :=
  not_writeRefused h.1 h.2.1 fun e he => by rw [h.2.2] at he; cases he

theorem WriteLost.not_refused (h : WriteLost outcome n value) : ¬ WriteRefused outcome n value := by
  obtain ⟨hget, hvalue, e, he⟩ := h
  exact not_writeRefused hget hvalue fun e' he' => by rw [he] at he'; cases he'

variable {r : Except Raised Unit} {s' : Served ClusterSettings}

/-- A write ends normally, or it raises and has changed nothing, or it raises and has changed the
entry. -/
theorem syncEntry_cases {entry : String × PyValue}
    (h : (syncEntry outcome true entry).run ⟨t, n⟩ = (r, s')) :
    (WriteDone outcome n entry.2 ∧ ∃ stored, storedAttribute entry.2 = .ok stored ∧ r = .ok () ∧
      s' = ⟨updateItem entry.1 stored t, n + 2⟩) ∨
    (WriteRefused outcome n entry.2 ∧ (∃ e, r = .error e) ∧ s'.store = t) ∨
    (WriteLost outcome n entry.2 ∧ ∃ stored, (∃ e, r = .error e) ∧
      s'.store = updateItem entry.1 stored t) := by
  have hget : (syncEntry outcome true entry).run ⟨t, n⟩ =
      (Served.call outcome id >>= fun _ => setConfigEntry outcome entry.1 entry.2).run ⟨t, n⟩ := by
    simp only [syncEntry, getItem, bind, pure]
    cases (Served.call outcome id).run ⟨t, n⟩ with
    | mk r s => cases r <;> rfl
  rw [hget] at h
  rcases Stateful.bind_cases h with ⟨e, hcall, rfl⟩ | ⟨_, s₁, hcall, h⟩
  · rcases Served.call_cases hcall with ⟨-, he, -⟩ | ⟨e', he', -, hs⟩ | ⟨e', he', -, hs⟩
    · cases he
    · exact .inr (.inl ⟨.inl (by simp [he']), ⟨e, rfl⟩, hs⟩)
    · exact .inr (.inl ⟨.inl (by simp [he']), ⟨e, rfl⟩, hs⟩)
  · rcases Served.call_cases hcall with ⟨hdone, -, rfl⟩ | ⟨e', -, he, -⟩ | ⟨e', -, he, -⟩
    · rcases Stateful.ofExcept_bind_cases h with ⟨e, hstored, rfl, rfl⟩ | ⟨stored, hstored, h⟩
      · exact .inr (.inl ⟨.inr (.inl ⟨e, hstored⟩), ⟨e, rfl⟩, rfl⟩)
      · rcases Served.call_cases h with ⟨hupdate, rfl, rfl⟩ | ⟨e, hupdate, rfl, hs⟩ |
          ⟨e, hupdate, rfl, hs⟩
        · exact .inl ⟨⟨hdone, ⟨stored, hstored⟩, hupdate⟩, stored, hstored, rfl, rfl⟩
        · exact .inr (.inl ⟨.inr (.inr ⟨e, hupdate⟩), ⟨e, rfl⟩, hs⟩)
        · exact .inr (.inr ⟨⟨hdone, ⟨stored, hstored⟩, e, hupdate⟩, stored, ⟨e, rfl⟩, hs⟩)
    · cases he
    · cases he

def WritesDone (outcome : ℕ → CallOutcome Raised) : ℕ → List (String × PyValue) → Prop
  | _, [] => True
  | n, entry :: entries => WriteDone outcome n entry.2 ∧ WritesDone outcome (n + 2) entries

/-- The first write fails before the table is changed. -/
def FirstWriteRefused (outcome : ℕ → CallOutcome Raised) (n : ℕ) :
    List (String × PyValue) → Prop
  | [] => False
  | entry :: _ => WriteRefused outcome n entry.2

def writes (table : ClusterSettings) (key : String) : ℤ := (item table key).version.getD 0

theorem item_updateItem (key key' : String) (stored : Attribute) :
    item (updateItem key stored t) key' =
      if key' = key then { item t key with
        value := some stored, version := addOne (item t key).version }
      else item t key' := by
  unfold updateItem
  rw [item, Dict.get?_set]
  split <;> rfl

theorem writes_updateItem (key key' : String) (stored : Attribute) :
    writes (updateItem key stored t) key' =
      if key' = key then writes t key + 1 else writes t key' := by
  rw [writes, item_updateItem]
  split <;> rfl

theorem writes_le_updateItem (key key' : String) (stored : Attribute) :
    writes t key' ≤ writes (updateItem key stored t) key' := by
  rw [writes_updateItem]
  split
  · next h => subst h; omega
  · exact le_refl _

variable {entries : List (String × PyValue)}

theorem writes_le_sync {s s' : Served ClusterSettings} (key : String)
    (h : (syncClusterSettingsInDb outcome entries true).run s = (r, s')) :
    writes s.store key ≤ writes s'.store key := by
  refine Stateful.forEach_invariant (fun s' => writes s.store key ≤ writes s'.store key) h
    (le_refl _) fun entry _ s₁ r s₂ hle hround => ?_
  rcases syncEntry_cases hround with ⟨-, stored, -, -, rfl⟩ | ⟨-, -, hs⟩ | ⟨-, stored, -, hs⟩
  · exact hle.trans (writes_le_updateItem _ _ _)
  · rw [hs]
    exact hle
  · rw [hs]
    exact hle.trans (writes_le_updateItem _ _ _)

theorem sync_refused (hrefused : FirstWriteRefused outcome n entries)
    (h : (syncClusterSettingsInDb outcome entries true).run ⟨t, n⟩ = (r, s')) :
    (∃ e, r = .error e) ∧ s'.store = t := by
  cases entries with
  | nil => exact absurd hrefused id
  | cons entry entries =>
    rcases Stateful.bind_cases h with ⟨e, hround, rfl⟩ | ⟨_, s₁, hround, -⟩
    · rcases syncEntry_cases hround with ⟨hdone, -⟩ | ⟨-, -, hs⟩ | ⟨hlost, -⟩
      · exact absurd hrefused hdone.not_refused
      · exact ⟨⟨e, rfl⟩, hs⟩
      · exact absurd hrefused hlost.not_refused
    · rcases syncEntry_cases hround with ⟨hdone, -⟩ | ⟨-, ⟨e, he⟩, -⟩ | ⟨hlost, -⟩
      · exact absurd hrefused hdone.not_refused
      · cases he
      · exact absurd hrefused hlost.not_refused

theorem sync_changes {entry : String × PyValue} (hrefused : ¬ WriteRefused outcome n entry.2)
    (h : (syncClusterSettingsInDb outcome (entry :: entries) true).run ⟨t, n⟩ = (r, s')) :
    writes t entry.1 < writes s'.store entry.1 := by
  have hwritten (stored : Attribute) :
      writes t entry.1 < writes (updateItem entry.1 stored t) entry.1 := by
    rw [writes_updateItem, if_pos rfl]
    omega
  rcases Stateful.bind_cases h with ⟨e, hround, rfl⟩ | ⟨_, s₁, hround, hrest⟩
  · rcases syncEntry_cases hround with ⟨-, _, -, he, -⟩ | ⟨hyes, -⟩ | ⟨-, stored, -, hs⟩
    · cases he
    · exact absurd hyes hrefused
    · rw [hs]
      exact hwritten stored
  · rcases syncEntry_cases hround with ⟨-, stored, -, -, rfl⟩ | ⟨hyes, -⟩ | ⟨-, _, ⟨e, he⟩, -⟩
    · exact (hwritten stored).trans_le (writes_le_sync entry.1 hrest)
    · exact absurd hyes hrefused
    · cases he

theorem sync_ok (hkeys : (entries.map Prod.fst).Nodup)
    (h : (syncClusterSettingsInDb outcome entries true).run ⟨t, n⟩ = (.ok (), s')) :
    WritesDone outcome n entries ∧
      (∀ entry ∈ entries, ∃ stored, storedAttribute entry.2 = .ok stored ∧
        s'.store.get? entry.1 = some { item t entry.1 with
          value := some stored, version := addOne (item t entry.1).version }) ∧
      ∀ key, key ∉ entries.map Prod.fst → s'.store.get? key = t.get? key := by
  induction entries generalizing t n with
  | nil =>
    obtain ⟨-, rfl⟩ := Prod.mk.inj h
    exact ⟨trivial, fun _ he => absurd he List.not_mem_nil, fun _ _ => rfl⟩
  | cons entry entries ih =>
    rw [List.map_cons, List.nodup_cons] at hkeys
    rcases Stateful.bind_cases h with ⟨e, -, he⟩ | ⟨_, s₁, hround, hrest⟩
    · cases he
    rcases syncEntry_cases hround with ⟨hdone, stored, hstored, -, rfl⟩ | ⟨-, ⟨e, he⟩, -⟩ |
      ⟨-, _, ⟨e, he⟩, -⟩
    · obtain ⟨hrestdone, hwritten, hothers⟩ := ih hkeys.2 hrest
      refine ⟨⟨hdone, hrestdone⟩, ?_, fun key hkey => ?_⟩
      · refine List.forall_mem_cons.mpr ⟨⟨stored, hstored, ?_⟩, fun later hlater => ?_⟩
        · rw [hothers entry.1 hkeys.1, updateItem, Dict.get?_set, if_pos rfl]
        · obtain ⟨stored', hstored', hget⟩ := hwritten later hlater
          have hne : later.1 ≠ entry.1 := fun he => hkeys.1 (he ▸ List.mem_map_of_mem hlater)
          rw [item_updateItem, if_neg hne] at hget
          exact ⟨stored', hstored', hget⟩
      · rw [List.map_cons, List.mem_cons, not_or] at hkey
        rw [hothers key hkey.2]
        exact Dict.get?_set_ne _ hkey.1 _
    · cases he
    · cases he

theorem sync_of_writesDone (hdone : WritesDone outcome n entries) :
    ∃ s', (syncClusterSettingsInDb outcome entries true).run ⟨t, n⟩ = (.ok (), s') := by
  induction entries generalizing t n with
  | nil => exact ⟨_, rfl⟩
  | cons entry entries ih =>
    rcases hround : (syncEntry outcome true entry).run ⟨t, n⟩ with ⟨r, s₁⟩
    rcases syncEntry_cases hround with ⟨-, stored, -, rfl, rfl⟩ | ⟨hyes, -⟩ | ⟨hlost, -⟩
    · obtain ⟨s', hs'⟩ := ih (t := updateItem entry.1 stored t) hdone.2
      exact ⟨s', (Stateful.run_bind_of_ok hround).trans hs'⟩
    · exact absurd hyes hdone.1.not_refused
    · obtain ⟨-, -, e', he'⟩ := hlost
      rw [hdone.1.2.2] at he'
      cases he'

end Writes

end Idea.Settings

import Idea.Data.DecimalText
import Idea.Settings.ClusterConfigDB

/-! # Values that are read back

A table gives its numbers back as decimals. A value that is read is converted by the text of its
decimals, and what is empty is put into a configuration as nothing.
-/

namespace Idea.Settings

mutual

/-- `TypeDeserializer.deserialize`. -/
def deserialize : Attribute → PyValue
  | .null => .none
  | .bool value => .bool value
  | .number text => .decimal text
  | .string value => .str value
  | .list items => .list (deserializeAll items)
  | .map entries => .dict (deserializeNamed entries)

def deserializeAll : List Attribute → List PyValue
  | [] => []
  | item :: items => deserialize item :: deserializeAll items

def deserializeNamed : List (String × Attribute) → List (String × PyValue)
  | [] => []
  | (name, value) :: entries => (name, deserialize value) :: deserializeNamed entries

end

def specialText (cs : List Char) : List Char :=
  let (negative, word) := Decimal.takeSign (cs.map Char.toLower)
  (if negative then ['-'] else []) ++
    if "inf".toList.isPrefixOf word then "Infinity".toList
    else if "nan".toList.isPrefixOf word then "NaN".toList ++ (word.drop 3).dropWhile (· = '0')
    else "sNaN".toList ++ (word.drop 4).dropWhile (· = '0')

/-- `str(Decimal(text))`. -/
def decimalText (text : String) : String :=
  let cs := stripChars text.toList
  match Decimal.parseParts cs with
  | some p => String.ofList p.text
  | none =>
    match Decimal.parseParts (cs.filter (· ≠ '_')) with
    | some p => String.ofList p.text
    | none => String.ofList (specialText (cs.filter (· ≠ '_')))

/-- `str` of a value whose text may be one of a number. -/
def strOf : PyValue → Option String
  | .int value => some (toString value)
  | .float text => some text
  | .decimal text => some (decimalText text)
  | .str value => some value
  | _ => none

def numberOfText (text : String) : Except Raised PyValue :=
  if '.' ∈ text.toList then
    match floatOfText text with
    | some _ => .ok (.float text)
    | none => .error .valueError
  else
    match intOfText text with
    | some n => .ok (.int n)
    | none => .error .valueError

def readNumber (value : PyValue) : Except Raised PyValue :=
  match strOf value with
  | some text => numberOfText text
  | none => .error .valueError

/-- A list that begins with a decimal is taken for one of decimals. After each of its numbers the
list itself is appended again. -/
def checkAndConvertDecimalValue : PyValue → Except Raised PyValue
  | .decimal text => readNumber (.decimal text)
  | .list (.decimal text :: items) => do
    let numbers ← (.decimal text :: items).mapM readNumber
    pure (.list (numbers.flatMap fun number => [number, .list (.decimal text :: items)]))
  | value => .ok value

/-- `Utils.is_empty`. -/
def isEmptyValue : PyValue → Bool
  | .none => true
  | .str value => isEmptyString (some value)
  | .list items => items.isEmpty
  | .dict entries => entries.isEmpty
  | _ => false

/-- What `SocaConfig.put` puts for a value. -/
def putValue (value : PyValue) : PyValue := if isEmptyValue value then .none else value

def restored (value : PyValue) : Except Raised PyValue := do
  let stored ← storedAttribute value
  let read ← checkAndConvertDecimalValue (deserialize stored)
  pure (putValue read)

def numberOf : PyValue → Option ℚ
  | .bool value => some (if value then 1 else 0)
  | .int value => some value
  | .float text | .decimal text =>
    match floatOfText text with
    | some (.finite q) => some q
    | _ => none
  | _ => none

mutual

/-- `==`. Numbers are compared by value, and dictionaries whatever the order of their keys. -/
def equal : PyValue → PyValue → Bool
  | .none, .none => true
  | .str value, .str value' => value = value'
  | .list items, .list items' => equalAll items items'
  | .dict entries, .dict entries' =>
    entries.length = entries'.length && equalNamed entries entries'
  | value, value' =>
    match numberOf value, numberOf value' with
    | some q, some q' => q = q'
    | _, _ => false

def equalAll : List PyValue → List PyValue → Bool
  | [], [] => true
  | item :: items, item' :: items' => equal item item' && equalAll items items'
  | _, _ => false

def equalNamed : List (String × PyValue) → List (String × PyValue) → Bool
  | [], _ => true
  | (key, value) :: entries, entries' =>
    (match entries'.lookup key with
    | some value' => equal value value'
    | none => false) && equalNamed entries entries'

end

/-- A float has a text that is read as a number. -/
def IsScalar : PyValue → Prop
  | .float text => (floatOfText text).isSome = true
  | .decimal _ => False
  | .list _ => False
  | .dict _ => False
  | _ => True

def IsLeaf : PyValue → Prop
  | .list items => ∀ item ∈ items, IsScalar item
  | value => IsScalar value

def isNumber : PyValue → Bool
  | .int _ => true
  | .float _ => true
  | _ => false

/-- A blank text, an empty list, a list that begins with a number or has a float, and a float whose
decimal has one digit and an exponent do not come back. -/
def Kept : PyValue → Prop
  | .str value => isEmptyString (some value) = false
  | .float text => ∃ p, Decimal.parseParts (stripChars text.toList) = some p ∧ ¬ p.IsRound
  | .list [] => False
  | .list (first :: items) => isNumber first = false ∧ anyFloat (first :: items) = false
  | _ => True

theorem isSpace_of_isPlain {c : Char} (h : Decimal.Parts.IsPlain c) : isSpace c = false := by
  rcases h with h | h
  · exact (IsPlain.spec (.inl h)).1
  · simp only [List.mem_cons, List.not_mem_nil, or_false] at h
    rcases h with rfl | rfl | rfl | rfl <;> decide

theorem stripChars_text (p : Decimal.Parts) : stripChars p.text = p.text :=
  stripChars_eq_self fun _ hc => isSpace_of_isPlain (p.isPlain_text hc)

theorem stripChars_repr (n : ℤ) : stripChars n.repr.toList = n.repr.toList := by
  refine stripChars_eq_self fun c hc => isSpace_of_isPlain ?_
  rw [Decimal.repr_toList, List.mem_append] at hc
  rcases hc with hc | hc
  · refine .inr ?_
    split at hc
    · rw [List.mem_singleton.mp hc]
      decide
    · cases hc
  · exact .inl (Decimal.isDigit_toDigits _ c hc)

variable {text : String}

theorem readNumber_decimal {p : Decimal.Parts}
    (h : Decimal.parseParts (stripChars text.toList) = some p) :
    (p.IsRound ∧ readNumber (.decimal text) = .error .valueError) ∨
      (¬ p.IsRound ∧ ∃ v, readNumber (.decimal text) = .ok v ∧ numberOf v = some p.value ∧
        isEmptyValue v = false) := by
  have hread : readNumber (.decimal text) = numberOfText (String.ofList p.text) := by
    rw [readNumber, strOf, decimalText, h]
  rw [hread, numberOfText, floatOfText, intOfText, String.toList_ofList, stripChars_text]
  by_cases hpoint : '.' ∈ p.text
  · have hfloat := p.parseFloat_text hpoint
    rw [if_pos hpoint, hfloat]
    refine .inr ⟨(p.point_mem_text_iff.mp hpoint).2, _, rfl, ?_, rfl⟩
    rw [numberOf, floatOfText, String.toList_ofList, stripChars_text, hfloat]
  · rw [if_neg hpoint]
    by_cases hround : p.IsRound
    · exact .inl ⟨hround, by rw [p.parseInt_text_of_isRound hround]⟩
    · have hexp : p.exponent = 0 := by
        by_contra hexp
        exact hpoint (p.point_mem_text_iff.mpr ⟨hexp, hround⟩)
      obtain ⟨n, hn, hvalue⟩ := p.parseInt_text_of_whole hexp
      refine .inr ⟨hround, .int n, by rw [hn], ?_, rfl⟩
      rw [numberOf, hvalue]

variable {cs : List Char}

theorem word_of_special (h : Decimal.parseFloat cs = some .special) :
    (Decimal.takeSign (cs.map Char.toLower)).2 ∈
      ["inf".toList, "infinity".toList, "nan".toList] := by
  rw [Decimal.parseFloat] at h
  generalize Decimal.takeSign (cs.map Char.toLower) = read at h
  obtain ⟨negative, rest⟩ := read
  dsimp only at h ⊢
  by_contra hword
  rw [Decimal.parseUnsigned_eq hword negative] at h
  cases hparts : Decimal.unsignedParts negative rest with
  | none => simp [hparts] at h
  | some p => simp [hparts] at h

theorem mem_of_takeSign {c : Char} (h : c ∈ cs) (hminus : c ≠ '-') (hplus : c ≠ '+') :
    c ∈ (Decimal.takeSign cs).2 := by
  unfold Decimal.takeSign
  split
  · exact (List.mem_cons.mp h).resolve_left hminus
  · exact (List.mem_cons.mp h).resolve_left hplus
  · exact h

theorem filter_underscore (h : (Decimal.takeSign (cs.map Char.toLower)).2 ∈
    ["inf".toList, "infinity".toList, "nan".toList]) : cs.filter (· ≠ '_') = cs := by
  refine List.filter_eq_self.mpr fun c hc => decide_eq_true ?_
  rintro rfl
  have hlower : '_' ∈ cs.map Char.toLower := List.mem_map.mpr ⟨'_', hc, rfl⟩
  have hrest := mem_of_takeSign hlower (by decide) (by decide)
  generalize (Decimal.takeSign (cs.map Char.toLower)).2 = word at h hrest
  simp only [List.mem_cons, List.not_mem_nil, or_false] at h
  rcases h with rfl | rfl | rfl <;> exact absurd hrest (by decide)

theorem specialText_eq (h : (Decimal.takeSign (cs.map Char.toLower)).2 ∈
    ["inf".toList, "infinity".toList, "nan".toList]) :
    specialText cs ∈ ["Infinity".toList, "-Infinity".toList, "NaN".toList, "-NaN".toList] := by
  rw [specialText]
  generalize Decimal.takeSign (cs.map Char.toLower) = read at h ⊢
  obtain ⟨negative, word⟩ := read
  simp only [List.mem_cons, List.not_mem_nil, or_false] at h
  cases negative <;> rcases h with rfl | rfl | rfl <;> decide

theorem numberOfText_special
    (h : text.toList ∈ ["Infinity".toList, "-Infinity".toList, "NaN".toList, "-NaN".toList]) :
    numberOfText text = .error .valueError := by
  rw [numberOfText, intOfText]
  simp only [List.mem_cons, List.not_mem_nil, or_false] at h
  rcases h with h | h | h | h <;> rw [h] <;> rfl

theorem readNumber_special (h : floatOfText text = some .special) :
    readNumber (.decimal text) = .error .valueError := by
  rw [floatOfText] at h
  rw [readNumber, strOf, decimalText]
  generalize stripChars text.toList = cs at h ⊢
  have hword := word_of_special h
  rw [Decimal.parseParts_of_special h, filter_underscore hword, Decimal.parseParts_of_special h]
  have hmem : (String.ofList (specialText cs)).toList ∈
      ["Infinity".toList, "-Infinity".toList, "NaN".toList, "-NaN".toList] := by
    rw [@String.toList_ofList (specialText cs)]
    exact specialText_eq hword
  exact numberOfText_special hmem

theorem storedAttribute_float (text : String) :
    storedAttribute (.float text) = .ok (.number text) := rfl

theorem equal_of_numberOf {value value' : PyValue} {q : ℚ} (h : numberOf value = some q)
    (h' : numberOf value' = some q) : equal value value' = true := by
  have hequal : equal value value' = match numberOf value, numberOf value' with
      | some q, some q' => q = q'
      | _, _ => false := by
    cases value with
    | none => cases h
    | str value => cases h
    | list items => cases h
    | dict entries => cases h
    | bool value => simp [equal]
    | int value => simp [equal]
    | float value => simp [equal]
    | decimal value => simp [equal]
  rw [hequal, h, h']
  exact decide_eq_true rfl

theorem storedAttribute_int (n : ℤ) : storedAttribute (.int n) = .ok (.number n.repr) := rfl

theorem restored_float (h : (floatOfText text).isSome = true) :
    (∃ v, restored (.float text) = .ok v ∧ equal (.float text) v = true) ↔ Kept (.float text) := by
  have hrestored : restored (.float text) =
      readNumber (.decimal text) >>= fun read => pure (putValue read) := by
    rw [restored, storedAttribute_float, Raised.ok_bind, deserialize, checkAndConvertDecimalValue]
  rw [hrestored]
  obtain ⟨number, hnumber⟩ := Option.isSome_iff_exists.mp h
  cases number with
  | special =>
    rw [readNumber_special hnumber]
    refine iff_of_false ?_ ?_
    · rintro ⟨v, hv, -⟩
      cases hv
    · rintro ⟨p, hp, -⟩
      rw [Decimal.parseParts_of_special hnumber] at hp
      cases hp
  | finite q =>
    obtain ⟨p, hp, hvalue⟩ := Decimal.parseFloat_eq_finite_iff.mp hnumber
    have hkept : Kept (.float text) ↔ ¬ p.IsRound := by
      constructor
      · rintro ⟨p', hp', hround⟩
        rw [hp] at hp'
        obtain rfl := Option.some.inj hp'
        exact hround
      · exact fun hround => ⟨p, hp, hround⟩
    rw [hkept]
    rcases readNumber_decimal hp with ⟨hround, hread⟩ | ⟨hround, v, hread, hv, hempty⟩
    · rw [hread]
      refine iff_of_false ?_ (not_not.mpr hround)
      rintro ⟨v, hv, -⟩
      cases hv
    · rw [hread]
      refine iff_of_true ⟨putValue v, rfl, ?_⟩ hround
      rw [putValue, hempty, if_neg Bool.false_ne_true]
      exact equal_of_numberOf (by rw [numberOf, hnumber]) (hv.trans (congrArg some hvalue))

theorem mapM_eq_ok_iff {α β : Type} {f : α → Except Raised β} {l : List α} {l' : List β} :
    l.mapM f = .ok l' ↔ List.Forall₂ (fun a b => f a = .ok b) l l' := by
  induction l generalizing l' with
  | nil =>
    rw [List.forall₂_nil_left_iff]
    exact ⟨fun h => (Except.ok.inj h).symm, fun h => congrArg Except.ok h.symm⟩
  | cons a l ih =>
    simp only [List.mapM_cons, Raised.bind_eq_ok, List.forall₂_cons_left_iff, ← ih]
    constructor
    · rintro ⟨b, hb, rest, hrest, h⟩
      exact ⟨b, rest, hb, hrest, (Except.ok.inj h).symm⟩
    · rintro ⟨b, rest, hb, hrest, rfl⟩
      exact ⟨b, hb, rest, hrest, rfl⟩

theorem length_mapM {α β : Type} {f : α → Except Raised β} {l : List α} {l' : List β}
    (h : l.mapM f = .ok l') : l'.length = l.length := (mapM_eq_ok_iff.mp h).length_eq.symm

theorem mem_of_mapM {α β : Type} {f : α → Except Raised β} {l : List α} {l' : List β}
    (h : l.mapM f = .ok l') :
    (∀ b ∈ l', ∃ a ∈ l, f a = .ok b) ∧ ∀ a ∈ l, ∃ b ∈ l', f a = .ok b := by
  rw [mapM_eq_ok_iff] at h
  induction h with
  | nil => simp
  | cons hab _ ih =>
    refine ⟨List.forall_mem_cons.mpr ⟨?_, ?_⟩, List.forall_mem_cons.mpr ⟨?_, ?_⟩⟩
    · exact ⟨_, List.mem_cons_self, hab⟩
    · intro b hb
      obtain ⟨a, ha, hab⟩ := ih.1 b hb
      exact ⟨a, List.mem_cons_of_mem _ ha, hab⟩
    · exact ⟨_, List.mem_cons_self, hab⟩
    · intro a ha
      obtain ⟨b, hb, hab⟩ := ih.2 a ha
      exact ⟨b, List.mem_cons_of_mem _ hb, hab⟩

theorem exists_mapM {α β : Type} {f : α → Except Raised β} {l : List α}
    (h : ∀ a ∈ l, ∃ b, f a = .ok b) : ∃ l', l.mapM f = .ok l' := by
  induction l with
  | nil => exact ⟨[], rfl⟩
  | cons a l ih =>
    rw [List.forall_mem_cons] at h
    obtain ⟨b, hb⟩ := h.1
    obtain ⟨l', hl'⟩ := ih h.2
    exact ⟨b :: l', by rw [List.mapM_cons, hb, Raised.ok_bind, hl']; rfl⟩

theorem length_deserializeAll (values : List PyValue) :
    (deserializeAll (attributesOf values)).length = values.length := by
  induction values with
  | nil => rfl
  | cons value values ih => simp [attributesOf, deserializeAll, ih]

theorem length_of_equalAll {values values' : List PyValue} (h : equalAll values values' = true) :
    values.length = values'.length := by
  induction values generalizing values' with
  | nil =>
    cases values' with
    | nil => rfl
    | cons value' values' => cases h
  | cons value values ih =>
    cases values' with
    | nil => cases h
    | cons value' values' =>
      rw [equalAll, Bool.and_eq_true] at h
      simp [ih h.2]

variable {items : List PyValue}

theorem storedAttribute_number {first : PyValue} {stored : Attribute}
    (hfirst : isNumber first = true) (h : storedAttribute (.list (first :: items)) = .ok stored) :
    ∃ text rest, deserialize stored = .list (.decimal text :: rest) ∧ rest.length = items.length := by
  rw [storedAttribute, Raised.bind_eq_ok] at h
  obtain ⟨converted, hconverted, hserialize⟩ := h
  rw [serialize_ok hserialize]
  cases first with
  | int n =>
    obtain rfl := Except.ok.inj hconverted
    exact ⟨toString n, deserializeAll (attributesOf items), rfl, length_deserializeAll items⟩
  | float text =>
    cases hdecimals : (PyValue.float text :: items).mapM decimalOf with
    | error e =>
      rw [convertFloats, hdecimals] at hconverted
      cases hconverted
    | ok decimals =>
      rw [convertFloats, hdecimals] at hconverted
      obtain rfl := Except.ok.inj hconverted
      rw [List.mapM_cons, Raised.bind_eq_ok] at hdecimals
      obtain ⟨decimal, hdecimal, hdecimals⟩ := hdecimals
      rw [Raised.bind_eq_ok] at hdecimals
      obtain ⟨rest, hrest, hdecimals⟩ := hdecimals
      obtain rfl := Except.ok.inj hdecimals
      obtain rfl := Except.ok.inj hdecimal
      exact ⟨text, deserializeAll (attributesOf rest), rfl,
        (length_deserializeAll rest).trans (length_mapM hrest)⟩
  | none => cases hfirst
  | bool value => cases hfirst
  | decimal text => cases hfirst
  | str value => cases hfirst
  | list items => cases hfirst
  | dict entries => cases hfirst

theorem convert_decimals {read : PyValue}
    (h : checkAndConvertDecimalValue (.list (.decimal text :: items)) = .ok read) :
    ∃ values, read = .list values ∧ values.length = 2 * (items.length + 1) := by
  rw [checkAndConvertDecimalValue, Raised.bind_eq_ok] at h
  obtain ⟨numbers, hnumbers, h⟩ := h
  obtain rfl := Except.ok.inj h
  refine ⟨_, rfl, ?_⟩
  have hlen := length_mapM hnumbers
  rw [List.length_cons] at hlen
  rw [List.length_flatMap, ← hlen]
  simp [Nat.mul_comm]

theorem restored_number {first : PyValue} {v : PyValue} (hfirst : isNumber first = true)
    (h : restored (.list (first :: items)) = .ok v) : equal (.list (first :: items)) v = false := by
  rw [restored, Raised.bind_eq_ok] at h
  obtain ⟨stored, hstored, h⟩ := h
  rw [Raised.bind_eq_ok] at h
  obtain ⟨read, hread, h⟩ := h
  obtain rfl := Except.ok.inj h
  obtain ⟨text, rest, hdeserialize, hlen⟩ := storedAttribute_number hfirst hstored
  rw [hdeserialize] at hread
  obtain ⟨values, rfl, hvalues⟩ := convert_decimals hread
  have hnonempty : values.isEmpty = false := by
    cases values with
    | nil => simp at hvalues
    | cons value values => rfl
  rw [putValue, isEmptyValue, hnonempty, if_neg Bool.false_ne_true, equal, Bool.eq_false_iff]
  intro hequal
  have hsame := length_of_equalAll hequal
  rw [List.length_cons] at hsame
  omega

theorem equal_deserialize {value : PyValue} (h : IsScalar value) (hfloat : hasFloat value = false) :
    equal value (deserialize (attributeOf value)) = true := by
  cases value with
  | none => rfl
  | bool value => simp [attributeOf, deserialize, equal, numberOf]
  | int n =>
    have hnumber : floatOfText n.repr = some (.finite n) := by
      rw [floatOfText, stripChars_repr, Decimal.parseFloat_repr]
    simp [attributeOf, deserialize, equal, numberOf, hnumber]
  | float text => cases hfloat
  | decimal text => exact absurd h id
  | str value => simp [attributeOf, deserialize, equal]
  | list items => exact absurd h id
  | dict entries => exact absurd h id

theorem equalAll_deserialize {values : List PyValue} (h : ∀ value ∈ values, IsScalar value)
    (hfloat : anyFloat values = false) :
    equalAll values (deserializeAll (attributesOf values)) = true := by
  induction values with
  | nil => rfl
  | cons value values ih =>
    rw [anyFloat, Bool.or_eq_false_iff] at hfloat
    rw [List.forall_mem_cons] at h
    rw [attributesOf, deserializeAll, equalAll, equal_deserialize h.1 hfloat.1, ih h.2 hfloat.2]
    rfl

theorem deserialize_attributeOf_list (items : List PyValue) :
    deserialize (attributeOf (.list items)) = .list (deserializeAll (attributesOf items)) := rfl

theorem checkAndConvert_of_first {first : PyValue} (h : ∀ text, first ≠ .decimal text) :
    checkAndConvertDecimalValue (.list (first :: items)) = .ok (.list (first :: items)) := by
  cases first with
  | decimal text => exact absurd rfl (h text)
  | _ => rfl

theorem deserialize_ne_decimal {value : PyValue} (h : IsScalar value)
    (hnumber : isNumber value = false) (text : String) :
    deserialize (attributeOf value) ≠ .decimal text := by
  cases value with
  | none => exact PyValue.noConfusion
  | bool value => exact PyValue.noConfusion
  | str value => exact PyValue.noConfusion
  | int n => cases hnumber
  | float text => cases hnumber
  | decimal text => exact absurd h id
  | list items => exact absurd h id
  | dict entries => exact absurd h id

theorem restored_list (h : ∀ item ∈ items, IsScalar item) :
    (∃ v, restored (.list items) = .ok v ∧ equal (.list items) v = true) ↔ Kept (.list items) := by
  cases items with
  | nil =>
    refine iff_of_false ?_ id
    rintro ⟨v, hv, hequal⟩
    obtain rfl := Except.ok.inj hv
    cases hequal
  | cons first items =>
    by_cases hfirst : isNumber first = true
    · refine iff_of_false ?_ fun hkept => ?_
      · rintro ⟨v, hv, hequal⟩
        rw [restored_number hfirst hv] at hequal
        cases hequal
      · rw [Kept, hfirst] at hkept
        cases hkept.1
    rw [Bool.not_eq_true] at hfirst
    have hconvert : convertFloats (.list (first :: items)) = .ok (.list (first :: items)) := by
      cases first with
      | float text => cases hfirst
      | _ => rfl
    cases hfloat : anyFloat (first :: items) with
    | true =>
      have hserialize : storedAttribute (.list (first :: items)) = .error .typeError := by
        rw [storedAttribute, hconvert, Raised.ok_bind, serialize, hasFloat, hfloat]
        rfl
      refine iff_of_false ?_ fun hkept => ?_
      · rintro ⟨v, hv, -⟩
        rw [restored, hserialize] at hv
        cases hv
      · rw [Kept, hfloat] at hkept
        cases hkept.2
    | false =>
      have hserialize : storedAttribute (.list (first :: items)) =
          .ok (attributeOf (.list (first :: items))) := by
        rw [storedAttribute, hconvert, Raised.ok_bind, serialize, hasFloat, hfloat]
        rfl
      refine iff_of_true ⟨.list (deserializeAll (attributesOf (first :: items))), ?_, ?_⟩
        ⟨hfirst, hfloat⟩
      · rw [restored, hserialize, Raised.ok_bind, deserialize_attributeOf_list, attributesOf,
          deserializeAll,
          checkAndConvert_of_first
            (deserialize_ne_decimal (h first List.mem_cons_self) hfirst), Raised.ok_bind]
        rfl
      · exact equalAll_deserialize h hfloat

theorem restored_iff {value : PyValue} (h : IsLeaf value) :
    (∃ v, restored value = .ok v ∧ equal value v = true) ↔ Kept value := by
  cases value with
  | none => exact iff_of_true ⟨.none, rfl, rfl⟩ trivial
  | bool value => exact iff_of_true ⟨.bool value, rfl, by simp [equal, numberOf]⟩ trivial
  | int n =>
    have hparts : Decimal.parseParts (stripChars n.repr.toList) =
        some ⟨decide (n < 0), n.natAbs, 0⟩ := by
      rw [stripChars_repr, Decimal.parseParts_repr]
    rcases readNumber_decimal hparts with ⟨⟨-, hround⟩, -⟩ | ⟨-, v, hread, hv, hempty⟩
    · simp at hround
    · refine iff_of_true ⟨v, ?_, equal_of_numberOf (by rw [numberOf]) (hv.trans ?_)⟩ trivial
      · rw [restored, storedAttribute_int, Raised.ok_bind, deserialize,
          checkAndConvertDecimalValue, hread,
          Raised.ok_bind, putValue, hempty, if_neg Bool.false_ne_true]
        rfl
      · rw [Decimal.Parts.value, zpow_zero, mul_one, Decimal.signed_natAbs]
  | float text => exact restored_float h
  | decimal text => exact absurd h id
  | str value =>
    have hrestored : restored (.str value) = .ok (putValue (.str value)) := rfl
    rw [hrestored, putValue, isEmptyValue, Kept]
    cases isEmptyString (some value) with
    | true =>
      refine iff_of_false ?_ (by decide)
      rintro ⟨v, hv, hequal⟩
      obtain rfl := Except.ok.inj hv
      cases hequal
    | false => exact iff_of_true ⟨.str value, rfl, by simp [equal]⟩ rfl
  | list items => exact restored_list h
  | dict entries => exact absurd h id

end Idea.Settings

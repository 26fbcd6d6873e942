import Idea.Data.Decimal
import Idea.Model.Job
import Mathlib.Data.Bool.AllAny
import Mathlib.Data.List.DropRight

/-! # Values in texts

How values are written into texts and read back: numbers, flags, times and sizes of memory.
-/

namespace Idea

/-- A time with a zone, in microseconds since the epoch. -/
structure DateTime where
  micros : ℤ
  lower : -62135596800000000 ≤ micros
  upper : micros ≤ 253402300799999999
  deriving DecidableEq

namespace DateTime

def ofMicros (t : ℤ) : Except Raised DateTime :=
  if h : -62135596800000000 ≤ t ∧ t ≤ 253402300799999999 then .ok ⟨t, h.1, h.2⟩
  else .error .valueError

def MAX_TIMESTAMP : ℤ := 253402300800

/-- `arrow.get` of a timestamp in seconds, milliseconds or microseconds. -/
def ofTimestamp (t : ℤ) : Except Raised DateTime :=
  if t ≤ MAX_TIMESTAMP then ofMicros (t * 1000000)
  else if t < MAX_TIMESTAMP * 1000 then ofMicros (t * 1000)
  else if t < MAX_TIMESTAMP * 1000000 then ofMicros t
  else .error .valueError

/-- `int` of the timestamp. -/
def seconds (self : DateTime) : ℤ := self.micros.tdiv 1000000

def millis (self : DateTime) : ℤ := self.micros.tdiv 1000

end DateTime

/-! ## Numbers and flags -/

/-- `int` of a text. -/
def intOfText (value : String) : Option ℤ := Decimal.parseInt (stripChars value.toList)

/-- `float` of a text. -/
def floatOfText (value : String) : Option Decimal.Number :=
  Decimal.parseFloat (stripChars value.toList)

/-- `ModelUtils.is_int` of a text. -/
def isInt (value : String) : Bool := (intOfText value).isSome

/-- `ModelUtils.is_float` of a text. -/
def isFloat (value : String) : Bool := (floatOfText value).isSome

/-- `ModelUtils.get_as_int` of a text. -/
def textAsInt (value : String) : Except Raised (Option ℤ) :=
  match intOfText value with
  | some n => .ok (some n)
  | none =>
    match floatOfText value with
    | some (.finite q) => .ok (some (q.num.tdiv q.den))
    | some .special => .error .valueError
    | none => .ok none

/-- `ModelUtils.get_as_bool` of a text. -/
def textAsBool (value : String) : Option Bool :=
  let token := (stripChars value.toList).map Char.toLower
  if token ∈ ["true", "yes", "y", "1"].map String.toList then some true
  else if token ∈ ["false", "no", "n", "0"].map String.toList then some false
  else none

def coerceBool (value : String) : Except Raised Bool :=
  let token := value.toList.map Char.toLower
  if token ∈ ["1", "on", "t", "true", "y", "yes"].map String.toList then .ok true
  else if token ∈ ["0", "off", "f", "false", "n", "no"].map String.toList then .ok false
  else .error .validationError

/-- `str` of a flag. -/
def boolText (value : Bool) : String := if value then "True" else "False"

/-! ## Memory -/

def SocaMemoryUnit.suffix : SocaMemoryUnit → List Char
  | .bytes => ['b']
  | .kiB => ['k', 'i', 'b']
  | .miB => ['m', 'i', 'b']
  | .giB => ['g', 'i', 'b']
  | .tiB => ['t', 'i', 'b']
  | .kb => ['k', 'b']
  | .mb => ['m', 'b']
  | .gb => ['g', 'b']
  | .tb => ['t', 'b']

/-- `str.strip` of a set of characters. -/
def stripSet (set cs : List Char) : List Char :=
  ((cs.dropWhile (· ∈ set)).reverse.dropWhile (· ∈ set)).reverse

namespace SocaMemory

def valueText (value : ℚ) : List Char :=
  if value.den = 1 then value.num.repr.toList
  else Decimal.fixedText (Decimal.roundHalfEven (value * 10)) 1

def str (self : SocaMemory) : String :=
  String.ofList (valueText self.value ++ self.unit.suffix)

def unsupportedFormat (value : List Char) : Raised :=
  .soca ErrorCodes.MEMORY_FORMAT_PARSING_FAILED
    ("memory string format not supported for value: " ++ String.ofList value)

def invalidValue (memory : List Char) : Raised :=
  .soca ErrorCodes.MEMORY_FORMAT_PARSING_FAILED
    ("invalid memory value: " ++ String.ofList memory ++
      ". memory must be an integer or float value.")

def units : List SocaMemoryUnit := [.tiB, .giB, .miB, .kiB, .tb, .gb, .mb, .kb, .bytes]

def resolve (value : String) : Except Raised (Option SocaMemory) :=
  if isEmptyString (some value) then .ok none
  else
    let text := stripChars (value.toList.map Char.toLower)
    match units.find? fun unit => unit.suffix.isSuffixOf text with
    | none => .error (unsupportedFormat text)
    | some unit =>
      let memory := stripChars (stripSet unit.suffix text)
      match Decimal.parseInt memory, Decimal.parseFloat memory with
      | none, none => .error (invalidValue memory)
      | _, some (.finite value) => .ok (some ⟨value, unit⟩)
      | _, _ => .error .valueError

def rounded (value : ℚ) : ℚ :=
  if value.den = 1 then value else Decimal.roundHalfEven (value * 10) / 10

end SocaMemory

/-! ## Reading back -/

variable {c : Char} {cs : List Char}

theorem mem_dropWhile {p : Char → Bool} (h : c ∈ cs) (hc : p c = false) : c ∈ cs.dropWhile p := by
  induction cs with
  | nil => cases h
  | cons d cs ih =>
    rw [List.dropWhile_cons]
    split_ifs with hd
    · refine ih ((List.mem_cons.mp h).resolve_left ?_)
      rintro rfl
      rw [hc] at hd
      cases hd
    · exact h

theorem mem_stripChars (h : c ∈ cs) (hc : isSpace c = false) : c ∈ stripChars cs := by
  unfold stripChars
  rw [List.mem_reverse]
  exact mem_dropWhile (List.mem_reverse.mpr (mem_dropWhile h hc)) hc

theorem stripChars_sublist (cs : List Char) : (stripChars cs).Sublist cs := by
  rw [stripChars, ← List.reverse_sublist, List.reverse_reverse]
  exact (List.dropWhile_sublist _).trans (List.reverse_sublist.mpr (List.dropWhile_sublist _))

theorem isEmptyString_of_mem {value : String} (h : c ∈ value.toList) (hc : isSpace c = false) :
    isEmptyString (some value) = false :=
  List.isEmpty_eq_false_iff.mpr (List.ne_nil_of_mem (mem_stripChars h hc))

theorem getAsString_of_mem {value : String} (h : c ∈ value.toList) (hc : isSpace c = false) :
    getAsString value = some (strip value) ∧ isEmptyString (some (strip value)) = false := by
  refine ⟨?_, isEmptyString_of_mem (c := c) ?_ hc⟩
  · rw [getAsString, isEmptyString_of_mem h hc, if_neg Bool.false_ne_true]
  · rw [strip, String.toList_ofList]
    exact mem_stripChars h hc

theorem stripChars_eq_self (h : ∀ c ∈ cs, isSpace c = false) : stripChars cs = cs := by
  have hdrop : ∀ ds : List Char, (∀ c ∈ ds, isSpace c = false) → ds.dropWhile isSpace = ds := by
    intro ds hds
    cases ds with
    | nil => rfl
    | cons c ds =>
      exact List.dropWhile_cons_of_neg (Bool.eq_false_iff.mp (hds c List.mem_cons_self))
  rw [stripChars, hdrop cs h, hdrop _ fun c hc => h c (List.mem_reverse.mp hc),
    List.reverse_reverse]

theorem dropWhile_eq_self_of_prefix {p : Char → Bool} {cs ds : List Char} (h : cs <+: ds)
    (hds : ds.dropWhile p = ds) : cs.dropWhile p = cs := by
  cases cs with
  | nil => rfl
  | cons c cs =>
    obtain ⟨rest, rfl⟩ := h
    rw [List.cons_append, List.dropWhile_cons] at hds
    split at hds
    · have hle := (List.dropWhile_suffix (p := p) (l := cs ++ rest)).length_le
      rw [hds, List.length_cons] at hle
      omega
    · next hc => exact List.dropWhile_cons_of_neg hc

theorem stripChars_stripChars (cs : List Char) : stripChars (stripChars cs) = stripChars cs := by
  have hdef : ∀ ds : List Char, stripChars ds = (ds.dropWhile isSpace).rdropWhile isSpace :=
    fun _ => rfl
  have hhead : (stripChars cs).dropWhile isSpace = stripChars cs :=
    dropWhile_eq_self_of_prefix (List.rdropWhile_prefix isSpace _)
      (List.dropWhile_idempotent ..)
  rw [hdef (stripChars cs), hhead, hdef cs]
  exact List.rdropWhile_idempotent ..

theorem getAsString_of_getAsString {value text : String} (h : getAsString value = some text) :
    getAsString text = some text := by
  rw [getAsString] at h
  split at h
  · cases h
  · rename_i hblank
    obtain rfl : strip value = text := Option.some.inj h
    have htoList : (strip value).toList = stripChars value.toList := String.toList_ofList
    have hempty : isEmptyString (some (strip value)) = isEmptyString (some value) := by
      simp only [isEmptyString, htoList, stripChars_stripChars]
    have hstrip : strip (strip value) = strip value := by
      simp only [strip, String.toList_ofList, stripChars_stripChars]
    rw [getAsString, hempty, if_neg hblank, hstrip]

/-- The characters of numbers and suffixes are no white space and have no capitals. -/
def IsPlain (c : Char) : Prop := c.isDigit = true ∨ c ∈ ['-', '.', 'b', 'k', 'i', 'm', 'g', 't']

theorem IsPlain.spec (h : IsPlain c) : isSpace c = false ∧ c.toLower = c := by
  rcases h with h | h
  · refine ⟨?_, Decimal.toLower_of_isDigit h⟩
    simp only [Char.isDigit, Bool.and_eq_true, decide_eq_true_eq, UInt32.le_iff_toNat_le] at h
    have hle := h.2.trans (by decide : '9'.val.toNat ≤ 57)
    have hge := (by decide : 48 ≤ '0'.val.toNat).trans h.1
    have htoNat : c.toNat = c.val.toNat := rfl
    simp only [isSpace, htoNat, Bool.or_eq_false_iff, Bool.and_eq_false_iff,
      decide_eq_false_iff_not]
    omega
  · exact List.all_iff_forall_prop.mp (by decide : ['-', '.', 'b', 'k', 'i', 'm', 'g', 't'].all
      fun c => isSpace c = false ∧ c.toLower = c) c h

theorem isPlain_repr (n : ℤ) : ∀ c ∈ n.repr.toList, IsPlain c := by
  intro c hc
  rw [Decimal.repr_toList] at hc
  rcases List.mem_append.mp hc with hc | hc
  · split at hc
    · rw [List.mem_singleton.mp hc]
      exact .inr (by decide)
    · cases hc
  · exact .inl (Decimal.isDigit_toDigits _ c hc)

theorem isPlain_fixedText (n : ℤ) (decimals : ℕ) :
    ∀ c ∈ Decimal.fixedText n decimals, IsPlain c := by
  intro c hc
  simp only [Decimal.fixedText, List.append_assoc, List.mem_append, List.mem_cons] at hc
  rcases hc with hc | hc | rfl | hc
  · split at hc
    · rw [List.mem_singleton.mp hc]
      exact .inr (by decide)
    · cases hc
  · exact .inl (Decimal.isDigit_toDigits _ c hc)
  · exact .inr (by decide)
  · exact .inl (Decimal.isDigit_lastDigits _ _ c hc)

/-- A text that ends with a digit, behind plain characters. -/
structure Numeral (cs : List Char) (q : ℚ) : Prop where
  plain : ∀ c ∈ cs, IsPlain c
  value : Decimal.parseFloat cs = some (.finite q)
  ends : ∃ init d, cs = init ++ [d] ∧ d.isDigit = true
  begins : ∃ c rest, cs = c :: rest ∧ (c.isDigit = true ∨ c = '-')

theorem intOfText_repr (n : ℤ) : intOfText (toString n) = some n := by
  rw [intOfText, Int.toString_eq_repr, stripChars_eq_self fun c hc => (isPlain_repr n c hc).spec.1,
    Decimal.parseInt_repr]

theorem textAsInt_toString (n : ℤ) : textAsInt (toString n) = .ok (some n) := by
  rw [textAsInt, intOfText_repr]

theorem textAsBool_boolText (value : Bool) : textAsBool (boolText value) = some value := by
  cases value <;> decide

theorem exists_last_digit (hne : cs ≠ []) (h : ∀ c ∈ cs, c.isDigit = true) (before : List Char) :
    ∃ init d, before ++ cs = init ++ [d] ∧ d.isDigit = true := by
  refine ⟨before ++ cs.dropLast, cs.getLast hne, ?_, h _ (List.getLast_mem hne)⟩
  rw [List.append_assoc, List.dropLast_append_getLast]

theorem exists_first {cs rest : List Char} (negative : Prop) [Decidable negative] (hne : cs ≠ [])
    (h : ∀ c ∈ cs, c.isDigit = true) : ∃ c rest', (if negative then ['-'] else []) ++ cs ++ rest =
      c :: rest' ∧ (c.isDigit = true ∨ c = '-') := by
  split
  · exact ⟨'-', cs ++ rest, rfl, .inr rfl⟩
  · cases cs with
    | nil => exact absurd rfl hne
    | cons c cs => exact ⟨c, cs ++ rest, rfl, .inl (h c List.mem_cons_self)⟩

namespace SocaMemory

theorem numeral_valueText (value : ℚ) : Numeral (valueText value) (rounded value) := by
  unfold valueText rounded
  split
  · rename_i hden
    have hint : (value.num : ℚ) = value := Rat.coe_int_num_of_den_eq_one hden
    refine ⟨isPlain_repr _, by rw [Decimal.parseFloat_repr, hint], ?_, ?_⟩
    · rw [Decimal.repr_toList]
      exact exists_last_digit Nat.toDigits_ne_nil (Decimal.isDigit_toDigits _) _
    · rw [Decimal.repr_toList, ← List.append_nil (_ ++ _)]
      exact exists_first _ Nat.toDigits_ne_nil (Decimal.isDigit_toDigits _)
  · set n := Decimal.roundHalfEven (value * 10)
    have hlast : Decimal.lastDigits 1 n.natAbs ≠ [] := by
      rw [← List.length_pos_iff, Decimal.length_lastDigits]
      exact Nat.one_pos
    refine ⟨isPlain_fixedText n 1, by simpa using Decimal.parseFloat_fixedText n one_ne_zero,
      ?_, ?_⟩
    · rw [Decimal.fixedText, List.append_cons]
      exact exists_last_digit hlast (Decimal.isDigit_lastDigits _ _) _
    · exact exists_first _ Nat.toDigits_ne_nil (Decimal.isDigit_toDigits _)

theorem find_unit (init : List Char) {d : Char} (hd : d.isDigit = true) (unit : SocaMemoryUnit) :
    (units.find? fun u => u.suffix.isSuffixOf (init ++ [d] ++ unit.suffix)) = some unit := by
  have hne : ∀ c, c.isDigit = false → d ≠ c := by
    rintro c hc rfl
    exact Bool.false_ne_true (hc.symm.trans hd)
  have hi := (hne 'i' rfl).symm
  have hk := (hne 'k' rfl).symm
  have hm := (hne 'm' rfl).symm
  have hg := (hne 'g' rfl).symm
  have ht := (hne 't' rfl).symm
  cases unit <;>
    simp [units, SocaMemoryUnit.suffix, List.isSuffixOf, List.isPrefixOf, hi, hk, hm, hg, ht]

theorem plain_suffix (unit : SocaMemoryUnit) : ∀ c ∈ unit.suffix, IsPlain c := by
  have hall : unit.suffix.all (· ∈ ['-', '.', 'b', 'k', 'i', 'm', 'g', 't']) = true := by
    cases unit <;> decide
  exact fun c hc => .inr (List.all_iff_forall_prop.mp hall c hc)

theorem not_mem_suffix (h : c.isDigit = true ∨ c = '-') (unit : SocaMemoryUnit) :
    c ∉ unit.suffix := by
  have hall : unit.suffix.all (fun c => c.isDigit = false ∧ c ≠ '-') = true := by
    cases unit <;> decide
  intro hc
  obtain ⟨hdigit, hdash⟩ := List.all_iff_forall_prop.mp hall c hc
  exact h.elim (fun hd => Bool.false_ne_true (hdigit.symm.trans hd)) hdash

theorem stripSet_suffix {q : ℚ} (h : Numeral cs q) (unit : SocaMemoryUnit) :
    stripSet unit.suffix (cs ++ unit.suffix) = cs := by
  have hfront : (cs ++ unit.suffix).dropWhile (· ∈ unit.suffix) = cs ++ unit.suffix := by
    obtain ⟨c, rest, rfl, hc⟩ := h.begins
    exact List.dropWhile_cons_of_neg (by simpa using not_mem_suffix hc unit)
  have hback : (cs ++ unit.suffix).reverse.dropWhile (· ∈ unit.suffix) = cs.reverse := by
    obtain ⟨init, d, rfl, hd⟩ := h.ends
    rw [List.reverse_append, List.dropWhile_append_of_pos (by simp), List.reverse_append]
    exact List.dropWhile_cons_of_neg (by simpa using not_mem_suffix (.inl hd) unit)
  rw [stripSet, hfront, hback, List.reverse_reverse]

theorem resolve_str (self : SocaMemory) :
    resolve self.str = .ok (some ⟨rounded self.value, self.unit⟩) := by
  have h := numeral_valueText self.value
  have hplain : ∀ c ∈ valueText self.value ++ self.unit.suffix, IsPlain c := fun c hc =>
    (List.mem_append.mp hc).elim (h.plain c) (plain_suffix _ c)
  have hlower : (valueText self.value ++ self.unit.suffix).map Char.toLower =
      valueText self.value ++ self.unit.suffix :=
    (List.map_congr_left fun c hc => (hplain c hc).spec.2).trans (List.map_id _)
  have hstrip := stripChars_eq_self fun c hc => (hplain c hc).spec.1
  have hunit : (units.find? fun u => u.suffix.isSuffixOf
      (valueText self.value ++ self.unit.suffix)) = some self.unit := by
    obtain ⟨init, d, hends, hd⟩ := h.ends
    rw [hends]
    exact find_unit init hd self.unit
  have hempty : isEmptyString (some self.str) = false := by
    obtain ⟨c, rest, hbegins, -⟩ := h.begins
    simp only [isEmptyString, str, String.toList_ofList, hstrip]
    rw [hbegins]
    rfl
  rw [resolve, hempty]
  simp only [str, String.toList_ofList, hlower, hstrip, hunit, stripSet_suffix h,
    stripChars_eq_self fun c hc => (h.plain c hc).spec.1, h.value, Bool.false_eq_true, if_false]

end SocaMemory

end Idea

import Idea.Data.Decimal

/-! # Texts of decimals

A decimal keeps its digits and its power of ten, so that it has one text. An exponent is written
where the power is positive, and where many zeros would stand behind the point.
-/

namespace Decimal

structure Parts where
  negative : Bool
  coefficient : ℕ
  exponent : ℤ

def Parts.value (self : Parts) : ℚ := signed self.negative (self.coefficient * 10 ^ self.exponent)

/-! ## The reader -/

def mantissaParts (cs : List Char) : Option (ℕ × ℕ) :=
  match cs.dropWhile (· ≠ '.') with
  | [] => (digitPart cs).map fun digits => (value digits, 0)
  | _ :: fraction => do
    let whole ← digitPart? (cs.takeWhile (· ≠ '.'))
    let fraction ← digitPart? fraction
    if whole = [] ∧ fraction = [] then none
    else some (value (whole ++ fraction), fraction.length)

def unsignedParts (negative : Bool) (cs : List Char) : Option Parts := do
  let mantissa ← mantissaParts (cs.takeWhile (· ≠ 'e'))
  let exponent ← parseExponent (cs.dropWhile (· ≠ 'e'))
  some ⟨negative, mantissa.1, exponent - mantissa.2⟩

def parseParts (cs : List Char) : Option Parts :=
  let (negative, rest) := takeSign (cs.map Char.toLower)
  unsignedParts negative rest

/-! ## The writer -/

def mantissaText : List Char → List Char
  | first :: second :: digits => first :: '.' :: second :: digits
  | digits => digits

def exponentText (exponent : ℤ) : List Char :=
  'E' :: (if exponent < 0 then '-' else '+') :: Nat.toDigits 10 exponent.natAbs

def Parts.digits (self : Parts) : List Char := Nat.toDigits 10 self.coefficient

def Parts.unsignedText (self : Parts) : List Char :=
  if self.exponent = 0 then self.digits
  else if self.exponent < 0 ∧ -6 < self.exponent + self.digits.length then
    let decimals := self.exponent.natAbs
    Nat.toDigits 10 (self.coefficient / 10 ^ decimals) ++
      '.' :: lastDigits decimals self.coefficient
  else mantissaText self.digits ++ exponentText (self.exponent + self.digits.length - 1)

def Parts.text (self : Parts) : List Char :=
  (if self.negative then ['-'] else []) ++ self.unsignedText

example : (parseParts "1.50e-7".toList).map Parts.text = some "1.50E-7".toList := by decide

/-- The decimal has one digit and is written with an exponent. -/
def Parts.IsRound (self : Parts) : Prop :=
  self.coefficient < 10 ∧ (0 < self.exponent ∨ self.exponent ≤ -7)

/-! ## What a reader makes of a text -/

theorem value_append (ds ds' : List Char) :
    value (ds ++ ds') = value ds * 10 ^ ds'.length + value ds' := by
  rw [value, Nat.ofDigitChars_append, Nat.ofDigitChars_eq_ofDigitChars_zero, Nat.mul_comm]
  rfl

theorem parseMantissa_eq (cs : List Char) :
    parseMantissa cs = (mantissaParts cs).map fun m => (m.1 : ℚ) / 10 ^ m.2 := by
  rw [parseMantissa, mantissaParts]
  cases cs.dropWhile (· ≠ '.') with
  | nil => cases digitPart cs <;> simp
  | cons point fraction =>
    dsimp only
    cases digitPart? (cs.takeWhile (· ≠ '.')) with
    | none => rfl
    | some whole =>
      cases digitPart? fraction with
      | none => rfl
      | some fraction =>
        have hpow : (10 : ℚ) ^ fraction.length ≠ 0 := by positivity
        simp only [Option.bind_eq_bind, Option.bind_some]
        split
        · rfl
        · rw [Option.map_some, value_append]
          congr 1
          push_cast
          field_simp

variable {cs : List Char}

theorem unsignedParts_word (negative : Bool)
    (h : cs ∈ ["inf".toList, "infinity".toList, "nan".toList]) :
    unsignedParts negative cs = none := by
  simp only [List.mem_cons, List.not_mem_nil, or_false] at h
  rcases h with rfl | rfl | rfl <;> rfl

theorem negative_of_unsignedParts {negative : Bool} {p : Parts}
    (h : unsignedParts negative cs = some p) : p.negative = negative := by
  simp only [unsignedParts, Option.bind_eq_bind, Option.bind_eq_some_iff, Option.some.injEq] at h
  obtain ⟨_, -, _, -, rfl⟩ := h
  rfl

theorem parseUnsigned_eq (h : cs ∉ ["inf".toList, "infinity".toList, "nan".toList])
    (negative : Bool) :
    parseUnsigned cs =
      (unsignedParts negative cs).map fun p => .finite (p.coefficient * 10 ^ p.exponent) := by
  rw [parseUnsigned, if_neg h, unsignedParts, parseMantissa_eq]
  cases mantissaParts (cs.takeWhile (· ≠ 'e')) with
  | none => rfl
  | some mantissa =>
    cases parseExponent (cs.dropWhile (· ≠ 'e')) with
    | none => rfl
    | some exponent =>
      have hpow : (10 : ℚ) ^ (exponent - mantissa.2) = 10 ^ exponent / 10 ^ mantissa.2 := by
        rw [zpow_sub₀ (by norm_num), zpow_natCast]
      simp only [Option.map_some, Option.bind_eq_bind, Option.bind_some, hpow]
      congr 2
      ring

theorem parseFloat_eq_finite_iff {q : ℚ} :
    parseFloat cs = some (.finite q) ↔ ∃ p, parseParts cs = some p ∧ p.value = q := by
  rw [parseFloat, parseParts]
  generalize takeSign (cs.map Char.toLower) = read
  obtain ⟨negative, rest⟩ := read
  dsimp only
  by_cases h : rest ∈ ["inf".toList, "infinity".toList, "nan".toList]
  · rw [parseUnsigned, if_pos h, unsignedParts_word negative h]
    constructor
    · intro hspecial
      cases hspecial
    · rintro ⟨p, hp, -⟩
      cases hp
  · rw [parseUnsigned_eq h negative]
    cases hparts : unsignedParts negative rest with
    | none => simp
    | some p => simp [Parts.value, negative_of_unsignedParts hparts]

theorem parseParts_of_special (h : parseFloat cs = some .special) : parseParts cs = none := by
  cases hparts : parseParts cs with
  | none => rfl
  | some p =>
    rw [parseFloat_eq_finite_iff.mpr ⟨p, hparts, rfl⟩] at h
    cases h

/-! ## Texts with a point -/

def AreDigits (cs : List Char) : Prop := cs ≠ [] ∧ ∀ c ∈ cs, c.isDigit = true

def exponentSuffix (exponent : Option ℤ) : List Char := exponent.elim [] exponentText

theorem areDigits_toDigits (n : ℕ) : AreDigits (Nat.toDigits 10 n) :=
  ⟨Nat.toDigits_ne_nil, isDigit_toDigits n⟩

theorem AreDigits.not_mem (h : AreDigits cs) {c : Char} (hc : c.isDigit = false) : c ∉ cs := not_mem_of_digits h.2 hc

theorem AreDigits.map_toLower (h : AreDigits cs) : cs.map Char.toLower = cs :=
  (List.map_congr_left fun c hc => toLower_of_isDigit (h.2 c hc)).trans (List.map_id cs)

theorem AreDigits.takeSign_append (h : AreDigits cs) (negative : Bool) (rest : List Char) :
    takeSign ((if negative then ['-'] else []) ++ (cs ++ rest)) = (negative, cs ++ rest) := by
  cases negative with
  | true => rfl
  | false =>
    rw [if_neg Bool.false_ne_true, List.nil_append]
    exact takeSign_of_digits h.1 h.2

theorem parseInt_signed (h : AreDigits cs) (negative : Bool) :
    parseInt ((if negative then ['-'] else []) ++ cs) =
      some (if negative then -(value cs : ℤ) else value cs) := by
  have hsign := h.takeSign_append negative []
  rw [List.append_nil] at hsign
  rw [parseInt, hsign]
  simp [digitPart_of_digits h.1 h.2]

theorem lower_exponentText (exponent : ℤ) : (exponentText exponent).map Char.toLower =
    'e' :: (if exponent < 0 then '-' else '+') :: Nat.toDigits 10 exponent.natAbs := by
  rw [exponentText, List.map_cons, List.map_cons, (areDigits_toDigits _).map_toLower]
  split <;> rfl

theorem parseExponent_suffix (exponent : Option ℤ) :
    parseExponent ((exponentSuffix exponent).map Char.toLower) = some (exponent.getD 0) := by
  cases exponent with
  | none => rfl
  | some x =>
    have hdigits := areDigits_toDigits x.natAbs
    rw [exponentSuffix, Option.elim_some, lower_exponentText, parseExponent, parseInt]
    by_cases hx : x < 0
    · simp [hx, takeSign, digitPart_of_digits hdigits.1 hdigits.2, value_toDigits, abs_of_neg hx]
    · simp [hx, takeSign, digitPart_of_digits hdigits.1 hdigits.2, value_toDigits,
        abs_of_nonneg (not_lt.mp hx)]

theorem e_not_mem_mantissa {whole fraction : List Char} (hwhole : AreDigits whole)
    (hfraction : AreDigits fraction) : ∀ c ∈ whole ++ '.' :: fraction, decide (c ≠ 'e') = true := by
  intro c hc
  refine decide_eq_true ?_
  rintro rfl
  simp only [List.mem_append, List.mem_cons] at hc
  rcases hc with hc | hc | hc
  · exact hwhole.not_mem (by decide) hc
  · cases hc
  · exact hfraction.not_mem (by decide) hc

theorem parseParts_repr (n : ℤ) :
    parseParts n.repr.toList = some ⟨decide (n < 0), n.natAbs, 0⟩ := by
  have hdigits := areDigits_toDigits n.natAbs
  have hlower : n.repr.toList.map Char.toLower =
      (if decide (n < 0) = true then ['-'] else []) ++ (Nat.toDigits 10 n.natAbs ++ []) := by
    rw [repr_toList, List.map_append, hdigits.map_toLower, List.append_nil]
    cases decide (n < 0) <;> rfl
  have hne {d : Char} (hd : d.isDigit = false) :
      ∀ c ∈ Nat.toDigits 10 n.natAbs, decide (c ≠ d) = true := by
    intro c hc
    refine decide_eq_true ?_
    rintro rfl
    exact hdigits.not_mem hd hc
  rw [parseParts, hlower, hdigits.takeSign_append]
  dsimp only
  rw [List.append_nil, unsignedParts, List.takeWhile_eq_self_iff.mpr (hne (by decide)),
    List.dropWhile_eq_nil_iff.mpr (hne (by decide)), mantissaParts,
    List.dropWhile_eq_nil_iff.mpr (hne (by decide))]
  simp [digitPart_of_digits hdigits.1 hdigits.2, value_toDigits, parseExponent]

theorem parseFloat_pointed {whole fraction : List Char} (hwhole : AreDigits whole)
    (hfraction : AreDigits fraction) (negative : Bool) (exponent : Option ℤ) :
    parseFloat ((if negative then ['-'] else []) ++
      (whole ++ '.' :: fraction ++ exponentSuffix exponent)) =
      some (.finite (signed negative
        ((value whole + value fraction / 10 ^ fraction.length) * 10 ^ exponent.getD 0))) := by
  have hlower : ((if negative then ['-'] else []) ++
      (whole ++ '.' :: fraction ++ exponentSuffix exponent)).map Char.toLower =
      (if negative then ['-'] else []) ++
        (whole ++ ('.' :: fraction ++ (exponentSuffix exponent).map Char.toLower)) := by
    simp only [List.map_append, List.map_cons, hwhole.map_toLower, hfraction.map_toLower]
    cases negative <;> simp
  have hword : whole ++ ('.' :: fraction ++ (exponentSuffix exponent).map Char.toLower) ∉
      ["inf".toList, "infinity".toList, "nan".toList] := by
    intro hmem
    have hpoint : '.' ∈ whole ++ ('.' :: fraction ++ (exponentSuffix exponent).map Char.toLower) := by
      simp
    simp only [List.mem_cons, List.not_mem_nil, or_false] at hmem
    rcases hmem with hmem | hmem | hmem <;> rw [hmem] at hpoint <;> exact absurd hpoint (by decide)
  have hnone := e_not_mem_mantissa hwhole hfraction
  have htake : ((whole ++ '.' :: fraction) ++ (exponentSuffix exponent).map Char.toLower).takeWhile
      (· ≠ 'e') = whole ++ '.' :: fraction := by
    rw [List.takeWhile_append_of_pos hnone]
    cases exponent with
    | none => simp [exponentSuffix]
    | some x => simp [exponentSuffix, lower_exponentText]
  have hdrop : ((whole ++ '.' :: fraction) ++ (exponentSuffix exponent).map Char.toLower).dropWhile
      (· ≠ 'e') = (exponentSuffix exponent).map Char.toLower := by
    rw [List.dropWhile_append_of_pos hnone]
    cases exponent with
    | none => rfl
    | some x => simp [exponentSuffix, lower_exponentText]
  rw [parseFloat, hlower, hwhole.takeSign_append]
  dsimp only
  rw [parseUnsigned, if_neg hword, ← List.append_assoc, htake, hdrop,
    parseMantissa_point hwhole.2 hwhole.1 hfraction.2 hfraction.1, parseExponent_suffix]
  rfl

/-! ## The text of a decimal -/

namespace Parts

variable (p : Parts)

theorem areDigits_digits : AreDigits p.digits := areDigits_toDigits p.coefficient

theorem length_digits_le_one_iff : p.digits.length ≤ 1 ↔ p.coefficient < 10 := by
  rw [digits, Nat.length_toDigits_le_iff (by decide) (by decide), pow_one]

theorem isRound_of_mantissa (hexp : p.exponent ≠ 0)
    (hplain : ¬ (p.exponent < 0 ∧ -6 < p.exponent + p.digits.length))
    (hlen : p.digits.length ≤ 1) : p.IsRound := by
  have hpos := List.length_pos_of_ne_nil p.areDigits_digits.1
  refine ⟨p.length_digits_le_one_iff.mp hlen, ?_⟩
  omega

/-- The text has no point and is one of digits, or it has a point, or it is one digit with an
exponent. -/
theorem unsignedText_cases :
    (p.exponent = 0 ∧ p.unsignedText = p.digits) ∨
    (p.exponent ≠ 0 ∧ ¬ p.IsRound ∧ ∃ whole fraction exponent, AreDigits whole ∧
      AreDigits fraction ∧
      p.unsignedText = whole ++ '.' :: fraction ++ exponentSuffix exponent ∧
      ((Decimal.value whole + Decimal.value fraction / 10 ^ fraction.length) * 10 ^ exponent.getD 0 : ℚ) =
        p.coefficient * 10 ^ p.exponent) ∨
    (p.exponent ≠ 0 ∧ p.IsRound ∧ ∃ exponent, p.unsignedText = p.digits ++ exponentText exponent) := by
  by_cases hexp : p.exponent = 0
  · exact .inl ⟨hexp, if_pos hexp⟩
  by_cases hplain : p.exponent < 0 ∧ -6 < p.exponent + p.digits.length
  · refine .inr (.inl ⟨hexp, ?_, ?_⟩)
    · rintro ⟨hcoefficient, hround⟩
      have hlen := p.length_digits_le_one_iff.mpr hcoefficient
      omega
    · have hnatAbs : p.exponent = -(p.exponent.natAbs : ℤ) := by omega
      have hpow : (10 : ℚ) ^ p.exponent.natAbs ≠ 0 := by positivity
      refine ⟨Nat.toDigits 10 (p.coefficient / 10 ^ p.exponent.natAbs),
        lastDigits p.exponent.natAbs p.coefficient, none, areDigits_toDigits _, ⟨?_, ?_⟩, ?_, ?_⟩
      · rw [← List.length_pos_iff, length_lastDigits]
        omega
      · exact isDigit_lastDigits _ _
      · rw [unsignedText, if_neg hexp, if_pos hplain]
        simp [exponentSuffix]
      · rw [value_toDigits, value_lastDigits, length_lastDigits, Option.getD_none, zpow_zero, mul_one]
        have hparts : (p.coefficient : ℚ) = (p.coefficient / 10 ^ p.exponent.natAbs : ℕ) *
            10 ^ p.exponent.natAbs + (p.coefficient % 10 ^ p.exponent.natAbs : ℕ) := by
          exact_mod_cast (Nat.div_add_mod' p.coefficient (10 ^ p.exponent.natAbs)).symm
        have hzpow : (10 : ℚ) ^ p.exponent = (10 ^ p.exponent.natAbs)⁻¹ := by
          conv_lhs => rw [hnatAbs]
          rw [zpow_neg, zpow_natCast]
        rw [hzpow]
        field_simp
        exact hparts.symm
  · have htext : p.unsignedText =
        mantissaText p.digits ++ exponentText (p.exponent + p.digits.length - 1) := by
      rw [unsignedText, if_neg hexp, if_neg hplain]
    have hdigits := p.areDigits_digits
    cases hp : p.digits with
    | nil => exact absurd hp hdigits.1
    | cons first rest =>
      cases rest with
      | nil =>
        refine .inr (.inr ⟨hexp, p.isRound_of_mantissa hexp hplain (by rw [hp]; rfl),
          p.exponent + p.digits.length - 1, ?_⟩)
        rw [htext, hp]
        rfl
      | cons second rest =>
        refine .inr (.inl ⟨hexp, ?_, [first], second :: rest,
          some (p.exponent + p.digits.length - 1), ?_, ?_, ?_, ?_⟩)
        · rintro ⟨hcoefficient, -⟩
          have hlen := p.length_digits_le_one_iff.mpr hcoefficient
          rw [hp] at hlen
          simp at hlen
        · rw [hp] at hdigits
          exact ⟨by simp, fun c hc => hdigits.2 c (by simp at hc; simp [hc])⟩
        · rw [hp] at hdigits
          exact ⟨by simp, fun c hc => hdigits.2 c (List.mem_cons_of_mem _ hc)⟩
        · rw [htext, hp]
          rfl
        · have hvalue : p.coefficient =
              Decimal.value [first] * 10 ^ (second :: rest).length + Decimal.value (second :: rest) := by
            rw [← value_append, List.singleton_append, ← hp, digits, value_toDigits]
          have hpow : (10 : ℚ) ^ (p.exponent + p.digits.length - 1) =
              10 ^ p.exponent * 10 ^ (second :: rest).length := by
            rw [hp, List.length_cons, ← zpow_natCast, ← zpow_add₀ (by norm_num)]
            congr 1
            push_cast
            ring
          rw [hvalue, Option.getD_some, hpow]
          push_cast
          field_simp

theorem text_eq : p.text = (if p.negative then ['-'] else []) ++ p.unsignedText := rfl

theorem mem_text_iff {c : Char} (hc : c ≠ '-') : c ∈ p.text ↔ c ∈ p.unsignedText := by
  rw [text_eq, List.mem_append]
  refine or_iff_right fun hmem => ?_
  split at hmem
  · exact hc (List.mem_singleton.mp hmem)
  · cases hmem

/-- The characters that numbers are written with. -/
def IsPlain (c : Char) : Prop := c.isDigit = true ∨ c ∈ ['-', '+', '.', 'E']

theorem isPlain_exponentText {exponent : ℤ} {c : Char} (hc : c ∈ exponentText exponent) :
    IsPlain c := by
  rcases List.mem_cons.mp hc with rfl | hc
  · exact .inr (by decide)
  rcases List.mem_cons.mp hc with rfl | hc
  · split
    · exact .inr (by decide)
    · exact .inr (by decide)
  · exact .inl (isDigit_toDigits _ c hc)

theorem isPlain_text {c : Char} (hc : c ∈ p.text) : IsPlain c := by
  by_cases hsign : c = '-'
  · exact .inr (by simp [hsign])
  rw [p.mem_text_iff hsign] at hc
  rcases p.unsignedText_cases with ⟨-, htext⟩ | ⟨-, -, whole, fraction, x, hw, hf, htext, -⟩ |
    ⟨-, -, x, htext⟩
  · rw [htext] at hc
    exact .inl (p.areDigits_digits.2 c hc)
  · rw [htext, List.append_assoc, List.mem_append, List.cons_append, List.mem_cons,
      List.mem_append] at hc
    rcases hc with hc | rfl | hc | hc
    · exact .inl (hw.2 c hc)
    · exact .inr (by decide)
    · exact .inl (hf.2 c hc)
    · cases x with
      | none => cases hc
      | some x => exact isPlain_exponentText hc
  · rw [htext, List.mem_append] at hc
    rcases hc with hc | hc
    · exact .inl (p.areDigits_digits.2 c hc)
    · exact isPlain_exponentText hc

theorem point_not_mem_exponentText (exponent : ℤ) : '.' ∉ exponentText exponent := by
  intro hmem
  rcases List.mem_cons.mp hmem with hmem | hmem
  · cases hmem
  rcases List.mem_cons.mp hmem with hmem | hmem
  · split at hmem <;> cases hmem
  · exact (areDigits_toDigits _).not_mem (by decide) hmem

theorem point_mem_text_iff : '.' ∈ p.text ↔ p.exponent ≠ 0 ∧ ¬ p.IsRound := by
  have hdigits := p.areDigits_digits.not_mem (c := '.') (by decide)
  rw [p.mem_text_iff (by decide)]
  rcases p.unsignedText_cases with ⟨hexp, htext⟩ | ⟨hexp, hround, whole, fraction, x, -, -, htext, -⟩ |
    ⟨hexp, hround, x, htext⟩
  · rw [htext]
    exact iff_of_false hdigits fun h => h.1 hexp
  · rw [htext]
    exact iff_of_true (by simp) ⟨hexp, hround⟩
  · rw [htext, List.mem_append]
    exact iff_of_false (fun h => h.elim hdigits (point_not_mem_exponentText x)) fun h => h.2 hround

theorem parseFloat_text (h : '.' ∈ p.text) : parseFloat p.text = some (.finite p.value) := by
  obtain ⟨hexp, hround⟩ := p.point_mem_text_iff.mp h
  rcases p.unsignedText_cases with ⟨hzero, -⟩ | ⟨-, -, whole, fraction, x, hw, hf, htext, hvalue⟩ |
    ⟨-, hyes, -⟩
  · exact absurd hzero hexp
  · rw [text_eq, htext, parseFloat_pointed hw hf, hvalue]
    rfl
  · exact absurd hyes hround

theorem parseInt_text_of_whole (h : p.exponent = 0) :
    ∃ n : ℤ, parseInt p.text = some n ∧ (n : ℚ) = p.value := by
  have htext : p.text = (if p.negative then ['-'] else []) ++ p.digits := by
    rw [text_eq, unsignedText, if_pos h]
  refine ⟨_, htext ▸ parseInt_signed p.areDigits_digits p.negative, ?_⟩
  rw [digits, value_toDigits, Parts.value, h, zpow_zero, mul_one, signed]
  split <;> simp

theorem parseInt_text_of_isRound (h : p.IsRound) : parseInt p.text = none := by
  rcases p.unsignedText_cases with ⟨hzero, -⟩ | ⟨-, hnot, -⟩ | ⟨-, -, x, htext⟩
  · obtain ⟨-, hround⟩ := h
    omega
  · exact absurd h hnot
  · rw [text_eq, htext, parseInt, p.areDigits_digits.takeSign_append]
    have hpart : digitPart (p.digits ++ exponentText x) = none := by
      have hus : '_' ∉ p.digits ++ exponentText x := by
        intro hmem
        rw [exponentText, List.mem_append, List.mem_cons, List.mem_cons] at hmem
        rcases hmem with hmem | hmem | hmem | hmem
        · exact p.areDigits_digits.not_mem (by decide) hmem
        · cases hmem
        · split at hmem <;> cases hmem
        · exact (areDigits_toDigits _).not_mem (by decide) hmem
      rw [digitPart, List.splitOn_eq_singleton hus]
      have hE : (p.digits ++ exponentText x).all Char.isDigit = false :=
        List.all_eq_false.mpr ⟨'E', by simp [exponentText], by decide⟩
      simp [hE]
    simp [hpart]

end Parts

end Decimal

import Mathlib.Algebra.Order.Field.Rat
import Mathlib.Algebra.Order.Floor.Defs
import Mathlib.Data.Rat.Floor
import Mathlib.Data.List.Basic
import Mathlib.Data.List.TakeWhile
import Mathlib.Algebra.Order.Floor.Ring
import Mathlib.Tactic.FieldSimp
import Mathlib.Tactic.Linarith
import Mathlib.Tactic.Ring

/-! # Decimal texts

Integers and rationals written in decimal, and the readers of such texts. A reader accepts more
than the writer writes: signs, underscores between digits, exponents and special values.
-/

namespace Decimal

/-! ## Readers -/

def digitPart (cs : List Char) : Option (List Char) :=
  let groups := cs.splitOn '_'
  if groups.all fun group => !group.isEmpty && group.all Char.isDigit then some groups.flatten
  else none

def takeSign : List Char → Bool × List Char
  | '-' :: cs => (true, cs)
  | '+' :: cs => (false, cs)
  | cs => (false, cs)

def signed (negative : Bool) (q : ℚ) : ℚ := if negative then -q else q

def value (digits : List Char) : ℕ := Nat.ofDigitChars 10 digits 0

def parseInt (cs : List Char) : Option ℤ :=
  let (negative, rest) := takeSign cs
  (digitPart rest).map fun digits => if negative then -(value digits : ℤ) else value digits

/-- A number read from a text; infinities and what is no number are special. -/
inductive Number where
  | finite (q : ℚ)
  | special
  deriving DecidableEq

def digitPart? (cs : List Char) : Option (List Char) := if cs = [] then some [] else digitPart cs

def parseMantissa (cs : List Char) : Option ℚ :=
  match cs.dropWhile (· ≠ '.') with
  | [] => (digitPart cs).map fun digits => (value digits : ℚ)
  | _ :: fraction => do
    let whole ← digitPart? (cs.takeWhile (· ≠ '.'))
    let fraction ← digitPart? fraction
    if whole = [] ∧ fraction = [] then none
    else some (value whole + value fraction / 10 ^ fraction.length)

def parseExponent : List Char → Option ℤ
  | [] => some 0
  | _ :: cs => parseInt cs

def parseUnsigned (cs : List Char) : Option Number :=
  if cs ∈ ["inf".toList, "infinity".toList, "nan".toList] then some .special
  else do
    let mantissa ← parseMantissa (cs.takeWhile (· ≠ 'e'))
    let exponent ← parseExponent (cs.dropWhile (· ≠ 'e'))
    some (.finite (mantissa * 10 ^ exponent))

def parseFloat (cs : List Char) : Option Number :=
  let (negative, rest) := takeSign (cs.map Char.toLower)
  (parseUnsigned rest).map fun
    | .finite q => .finite (signed negative q)
    | .special => .special

/-! ## Writers -/

/-- The last `k` digits of a number. -/
def lastDigits : ℕ → ℕ → List Char
  | 0, _ => []
  | k + 1, n => lastDigits k (n / 10) ++ [Nat.digitChar (n % 10)]

def fixedText (n : ℤ) (decimals : ℕ) : List Char :=
  (if n < 0 then ['-'] else []) ++ Nat.toDigits 10 (n.natAbs / 10 ^ decimals) ++
    '.' :: lastDigits decimals n.natAbs

def trimmed (digits : List Char) : List Char :=
  match (digits.reverse.dropWhile (· = '0')).reverse with
  | [] => ['0']
  | digits => digits

def roundHalfEven (q : ℚ) : ℤ :=
  let below := ⌊q⌋
  if q - below < 1 / 2 then below
  else if 1 / 2 < q - below then below + 1
  else if below % 2 = 0 then below
  else below + 1

theorem sub_half_le_roundHalfEven (q : ℚ) : q - 1 / 2 ≤ roundHalfEven q := by
  have hlow := Int.floor_le q
  have hhigh := Int.lt_floor_add_one q
  unfold roundHalfEven
  dsimp only
  split_ifs
  · linarith
  · push_cast
    linarith
  · linarith
  · push_cast
    linarith

theorem roundHalfEven_le_add_half (q : ℚ) : roundHalfEven q ≤ q + 1 / 2 := by
  have hlow := Int.floor_le q
  unfold roundHalfEven
  dsimp only
  split_ifs
  · linarith
  · push_cast
    linarith
  · linarith
  · push_cast
    linarith

theorem roundHalfEven_mono {q q' : ℚ} (h : q ≤ q') : roundHalfEven q ≤ roundHalfEven q' := by
  rcases h.eq_or_lt with rfl | hlt
  · exact le_rfl
  · have hhigh := roundHalfEven_le_add_half q
    have hlow := sub_half_le_roundHalfEven q'
    have hclose : (roundHalfEven q : ℚ) < roundHalfEven q' + 1 := by linarith
    exact Int.lt_add_one_iff.mp (by exact_mod_cast hclose)

def floatText (q : ℚ) : List Char :=
  let n := roundHalfEven (q * 10 ^ 17)
  (if n < 0 then ['-'] else []) ++ (Nat.toDigits 10 (n.natAbs / 10 ^ 17) ++
    '.' :: trimmed (lastDigits 17 n.natAbs))

/-! ## Reading back -/

theorem digitPart_of_digits {cs : List Char} (hne : cs ≠ []) (h : ∀ c ∈ cs, c.isDigit = true) :
    digitPart cs = some cs := by
  have hmem : '_' ∉ cs := fun hc => absurd (h _ hc) (by decide)
  have hall : cs.all Char.isDigit = true := List.all_eq_true.mpr h
  rw [digitPart, List.splitOn_eq_singleton hmem]
  simp [hne, hall]

theorem isDigit_toDigits (n : ℕ) : ∀ c ∈ Nat.toDigits 10 n, c.isDigit = true :=
  fun _ hc => Nat.isDigit_of_mem_toDigits (by decide) (by decide) hc

theorem value_toDigits (n : ℕ) : value (Nat.toDigits 10 n) = n := Nat.ofDigitChars_ten_toDigits

theorem takeSign_of_digits {cs rest : List Char} (hne : cs ≠ [])
    (h : ∀ c ∈ cs, c.isDigit = true) : takeSign (cs ++ rest) = (false, cs ++ rest) := by
  cases cs with
  | nil => exact absurd rfl hne
  | cons c cs =>
    have hc := h c List.mem_cons_self
    rw [List.cons_append, takeSign.eq_def]
    split
    · rename_i heq
      obtain ⟨rfl, -⟩ := List.cons.inj heq
      cases hc
    · rename_i heq
      obtain ⟨rfl, -⟩ := List.cons.inj heq
      cases hc
    · rfl

theorem parseInt_repr (n : ℤ) : parseInt n.repr.toList = some n := by
  rw [Int.repr_eq_if]
  split
  · rename_i h
    have hsign : takeSign (n.toNat.repr.toList ++ []) = (false, n.toNat.repr.toList ++ []) :=
      Nat.toList_repr ▸ takeSign_of_digits Nat.toDigits_ne_nil (isDigit_toDigits n.toNat)
    rw [List.append_nil] at hsign
    rw [parseInt, hsign, Nat.toList_repr]
    simp [digitPart_of_digits Nat.toDigits_ne_nil (isDigit_toDigits _), value_toDigits, h]
  · rename_i h
    rw [String.toList_append, Nat.toList_repr, parseInt]
    have hsign : takeSign ("-".toList ++ Nat.toDigits 10 (-n).toNat) =
        (true, Nat.toDigits 10 (-n).toNat) := rfl
    rw [hsign]
    simp [digitPart_of_digits Nat.toDigits_ne_nil (isDigit_toDigits _), value_toDigits]
    omega

theorem isDigit_lastDigits (k n : ℕ) : ∀ c ∈ lastDigits k n, c.isDigit = true := by
  induction k generalizing n with
  | zero => exact fun _ h => absurd h List.not_mem_nil
  | succ k ih =>
    intro c hc
    rcases List.mem_append.mp hc with hc | hc
    · exact ih _ c hc
    · rw [List.mem_singleton.mp hc]
      simp [Nat.mod_lt]

theorem length_lastDigits (k n : ℕ) : (lastDigits k n).length = k := by
  induction k generalizing n with
  | zero => rfl
  | succ k ih => simp [lastDigits, ih]

theorem value_lastDigits (k n : ℕ) : value (lastDigits k n) = n % 10 ^ k := by
  induction k generalizing n with
  | zero => simp [lastDigits, value, Nat.mod_one]
  | succ k ih =>
    have hlast : n % 10 < 10 := Nat.mod_lt _ (by decide)
    rw [value, lastDigits, Nat.ofDigitChars_append,
      Nat.ofDigitChars_cons_digitChar_of_lt_ten hlast, Nat.ofDigitChars_nil]
    change 10 * value (lastDigits k (n / 10)) + n % 10 = _
    rw [ih, Nat.pow_succ, Nat.mul_comm (10 ^ k) 10, Nat.mod_mul]
    omega

theorem toLower_of_isDigit {c : Char} (h : c.isDigit = true) : c.toLower = c := by
  simp only [Char.isDigit, Bool.and_eq_true, decide_eq_true_eq, UInt32.le_iff_toNat_le] at h
  refine dif_neg fun hupper => ?_
  simp only [UInt32.le_iff_toNat_le] at hupper
  have hle := h.2.trans (by decide : '9'.val.toNat ≤ 57)
  have hge := (by decide : 65 ≤ 'A'.val.toNat).trans hupper.1
  omega

section Reading

variable {whole fraction rest : List Char} (hwhole : ∀ c ∈ whole, c.isDigit = true)
include hwhole

theorem span_of_digits {d : Char} (hd : d.isDigit = false) :
    (whole ++ d :: rest).takeWhile (· ≠ d) = whole ∧
      (whole ++ d :: rest).dropWhile (· ≠ d) = d :: rest := by
  have hne : ∀ c ∈ whole, (decide (c ≠ d)) = true := by
    intro c hc
    refine decide_eq_true ?_
    rintro rfl
    exact Bool.false_ne_true (hd.symm.trans (hwhole _ hc))
  rw [List.takeWhile_append_of_pos hne, List.dropWhile_append_of_pos hne]
  simp

theorem not_mem_of_digits {d : Char} (hd : d.isDigit = false) : d ∉ whole := fun h =>
  Bool.false_ne_true (hd.symm.trans (hwhole d h))

theorem parseMantissa_whole (hne : whole ≠ []) : parseMantissa whole = some (value whole : ℚ) := by
  have hdrop : whole.dropWhile (· ≠ '.') = [] := by
    refine List.dropWhile_eq_nil_iff.mpr fun c hc => decide_eq_true ?_
    rintro rfl
    exact absurd (hwhole _ hc) (by decide)
  rw [parseMantissa, hdrop, digitPart_of_digits hne hwhole]
  rfl

theorem parseMantissa_point (hne : whole ≠ []) (hf : ∀ c ∈ fraction, c.isDigit = true)
    (hfne : fraction ≠ []) : parseMantissa (whole ++ '.' :: fraction) =
      some ((value whole : ℚ) + value fraction / 10 ^ fraction.length) := by
  obtain ⟨htake, hdrop⟩ : (whole ++ '.' :: fraction).takeWhile (· ≠ '.') = whole ∧
      (whole ++ '.' :: fraction).dropWhile (· ≠ '.') = '.' :: fraction :=
    span_of_digits hwhole (by decide)
  rw [parseMantissa, hdrop, htake]
  simp [digitPart?, hne, hfne, digitPart_of_digits hne hwhole, digitPart_of_digits hfne hf]

end Reading

theorem parseUnsigned_of_mantissa {cs : List Char} {q : ℚ} (hfirst : ∀ c ∈ cs.head?, c.isDigit = true)
    (hexp : 'e' ∉ cs) (h : parseMantissa cs = some q) : parseUnsigned cs = some (.finite q) := by
  have htake : cs.takeWhile (· ≠ 'e') = cs := by
    refine List.takeWhile_eq_self_iff.mpr fun c hc => decide_eq_true ?_
    rintro rfl
    exact hexp hc
  have hdrop : cs.dropWhile (· ≠ 'e') = [] := by
    refine List.dropWhile_eq_nil_iff.mpr fun c hc => decide_eq_true ?_
    rintro rfl
    exact hexp hc
  have hword : cs ∉ ["inf".toList, "infinity".toList, "nan".toList] := by
    intro hw
    simp only [List.mem_cons, List.not_mem_nil, or_false] at hw
    rcases hw with rfl | rfl | rfl <;> exact absurd (hfirst _ rfl) (by decide)
  rw [parseUnsigned, if_neg hword, htake, hdrop, h]
  simp [parseExponent]

theorem parseFloat_of_mantissa {cs : List Char} {q : ℚ} (negative : Bool) (hne : cs ≠ [])
    (hfirst : ∀ c ∈ cs.head?, c.isDigit = true)
    (hcs : ∀ c ∈ cs, c.isDigit = true ∨ c = '.') (h : parseMantissa cs = some q) :
    parseFloat ((if negative then ['-'] else []) ++ cs) = some (.finite (signed negative q)) := by
  have hlower : cs.map Char.toLower = cs := by
    refine (List.map_congr_left fun c hc => ?_).trans (List.map_id cs)
    rcases hcs c hc with hd | rfl
    · exact toLower_of_isDigit hd
    · rfl
  have hexp : 'e' ∉ cs := by
    intro he
    rcases hcs _ he with hd | hd <;> cases hd
  have hsign : takeSign ((if negative then ['-'] else []) ++ cs) = (negative, cs) := by
    cases negative with
    | true => rfl
    | false =>
      cases cs with
      | nil => exact absurd rfl hne
      | cons c cs =>
        have hdigit : ∀ d ∈ [c], d.isDigit = true := fun d hd =>
          List.mem_singleton.mp hd ▸ hfirst c rfl
        have htake : takeSign ([c] ++ cs) = (false, [c] ++ cs) :=
          takeSign_of_digits (List.cons_ne_nil _ _) hdigit
        exact htake
  have hmap : ((if negative then ['-'] else []) ++ cs).map Char.toLower =
      (if negative then ['-'] else []) ++ cs := by
    rw [List.map_append, hlower]
    cases negative <;> rfl
  rw [parseFloat, hmap, hsign]
  simp [parseUnsigned_of_mantissa hfirst hexp h]

theorem signed_natAbs (n : ℤ) : signed (decide (n < 0)) (n.natAbs : ℚ) = n := by
  have habs : ((n.natAbs : ℤ) : ℚ) = (|n| : ℤ) := by rw [Int.natCast_natAbs]
  rw [Int.cast_natCast] at habs
  rw [signed, habs]
  by_cases h : n < 0
  · simp [h, abs_of_neg h]
  · simp [h, abs_of_nonneg (not_lt.mp h)]

theorem head?_toDigits_append (n : ℕ) (rest : List Char) :
    ∀ c ∈ (Nat.toDigits 10 n ++ rest).head?, c.isDigit = true := by
  intro c hc
  cases hdigits : Nat.toDigits 10 n with
  | nil => exact absurd hdigits Nat.toDigits_ne_nil
  | cons d ds =>
    rw [hdigits] at hc
    obtain rfl := Option.some.inj hc
    exact isDigit_toDigits n _ (hdigits ▸ List.mem_cons_self)

theorem repr_toList (n : ℤ) : n.repr.toList =
    (if decide (n < 0) = true then ['-'] else []) ++ Nat.toDigits 10 n.natAbs := by
  rw [Int.repr_eq_if]
  by_cases h : n < 0
  · rw [if_neg (not_le.mpr h), String.toList_append, Nat.toList_repr, if_pos (decide_eq_true h)]
    congr 2
    omega
  · rw [if_pos (not_lt.mp h), Nat.toList_repr, if_neg (by simpa using h), List.nil_append]
    congr 1
    omega

theorem parseFloat_repr (n : ℤ) : parseFloat n.repr.toList = some (.finite n) := by
  rw [repr_toList, parseFloat_of_mantissa _ Nat.toDigits_ne_nil
    (by simpa using head?_toDigits_append n.natAbs []) (fun c hc => .inl (isDigit_toDigits _ c hc))
    (parseMantissa_whole (isDigit_toDigits _) Nat.toDigits_ne_nil), value_toDigits,
    signed_natAbs]

theorem parseFloat_point (n : ℤ) (whole : ℕ) {fraction : List Char} (hne : fraction ≠ [])
    (h : ∀ c ∈ fraction, c.isDigit = true) :
    parseFloat ((if n < 0 then ['-'] else []) ++ (Nat.toDigits 10 whole ++ '.' :: fraction)) =
      some (.finite (signed (decide (n < 0)) (whole + value fraction / 10 ^ fraction.length))) := by
  have hchars : ∀ c ∈ Nat.toDigits 10 whole ++ '.' :: fraction, c.isDigit = true ∨ c = '.' := by
    intro c hc
    rcases List.mem_append.mp hc with hc | hc
    · exact .inl (isDigit_toDigits _ c hc)
    rcases List.mem_cons.mp hc with rfl | hc
    · exact .inr rfl
    · exact .inl (h c hc)
  have hparse := parseFloat_of_mantissa (decide (n < 0)) (by simp)
    (head?_toDigits_append whole ('.' :: fraction)) hchars
    (parseMantissa_point (isDigit_toDigits _) Nat.toDigits_ne_nil h hne)
  simpa only [decide_eq_true_eq, value_toDigits] using hparse

theorem parseFloat_fixedText (n : ℤ) {k : ℕ} (hk : k ≠ 0) :
    parseFloat (fixedText n k) = some (.finite (n / 10 ^ k)) := by
  have hfraction : lastDigits k n.natAbs ≠ [] := by
    intro h
    have hlen := length_lastDigits k n.natAbs
    rw [h] at hlen
    exact hk hlen.symm
  rw [fixedText, List.append_assoc, parseFloat_point n _ hfraction (isDigit_lastDigits _ _),
    value_lastDigits, length_lastDigits]
  have hparts : ((n.natAbs / 10 ^ k : ℕ) : ℚ) + (n.natAbs % 10 ^ k : ℕ) / 10 ^ k =
      n.natAbs / 10 ^ k := by
    have hpow : (10 : ℚ) ^ k ≠ 0 := by positivity
    field_simp
    exact_mod_cast Nat.div_add_mod' n.natAbs (10 ^ k)
  have hsign : ∀ b (q r : ℚ), signed b (q / r) = signed b q / r := by
    intro b q r
    cases b with
    | false => rfl
    | true => exact (neg_div r q).symm
  rw [hparts, hsign, signed_natAbs]

theorem isDigit_trimmed {digits : List Char} (h : ∀ c ∈ digits, c.isDigit = true) :
    trimmed digits ≠ [] ∧ ∀ c ∈ trimmed digits, c.isDigit = true := by
  unfold trimmed
  split
  · exact ⟨List.cons_ne_nil _ _, fun c hc => by rw [List.mem_singleton.mp hc]; rfl⟩
  · rename_i hne
    refine ⟨hne, fun c hc => h c ?_⟩
    exact List.mem_reverse.mp ((List.dropWhile_sublist _).subset (List.mem_reverse.mp hc))

theorem parseFloat_floatText (q : ℚ) : ∃ r, parseFloat (floatText q) = some (.finite r) := by
  obtain ⟨hne, hdigits⟩ := isDigit_trimmed
    (isDigit_lastDigits 17 (roundHalfEven (q * 10 ^ 17)).natAbs)
  exact ⟨_, parseFloat_point _ _ hne hdigits⟩

theorem mem_floatText {q : ℚ} {c : Char} (hc : c ∈ floatText q) :
    c.isDigit = true ∨ c = '-' ∨ c = '.' := by
  simp only [floatText, List.mem_append, List.mem_cons] at hc
  rcases hc with hc | hc | rfl | hc
  · split at hc
    · exact .inr (.inl (List.mem_singleton.mp hc))
    · cases hc
  · exact .inl (isDigit_toDigits _ c hc)
  · exact .inr (.inr rfl)
  · exact .inl ((isDigit_trimmed (isDigit_lastDigits _ _)).2 c hc)

theorem floatText_ne_nil (q : ℚ) : floatText q ≠ [] := by simp [floatText]

end Decimal

import Mathlib.Data.List.Basic

/-! # Bytes and characters

Bytes are decoded one by one. What does not become a character is replaced, each longest beginning
of a character once. Two parts of a text are decoded as the whole is, unless a character lies
across the border; then the parts have more characters than the whole.
-/

namespace Utf8

/-- A character that is begun: the bounds of its next byte, the number of bytes behind that one, and
its bits so far. -/
structure Pending where
  lower : ℕ
  upper : ℕ
  left : ℕ
  code : ℕ
  deriving DecidableEq

def replacement : Char := Char.ofNat 0xFFFD

def begin (b : ℕ) : List Char × Option Pending :=
  if b < 0x80 then ([Char.ofNat b], none)
  else if 0xC2 ≤ b ∧ b ≤ 0xDF then ([], some ⟨0x80, 0xBF, 0, b - 0xC0⟩)
  else if 0xE0 ≤ b ∧ b ≤ 0xEF then
    ([], some ⟨if b = 0xE0 then 0xA0 else 0x80, if b = 0xED then 0x9F else 0xBF, 1, b - 0xE0⟩)
  else if 0xF0 ≤ b ∧ b ≤ 0xF4 then
    ([], some ⟨if b = 0xF0 then 0x90 else 0x80, if b = 0xF4 then 0x8F else 0xBF, 2, b - 0xF0⟩)
  else ([replacement], none)

/-- The byte goes on the character. -/
def Pending.Accepts (p : Pending) (b : ℕ) : Prop :=
  0x80 ≤ b ∧ b ≤ 0xBF ∧ p.lower ≤ b ∧ b ≤ p.upper

instance (p : Pending) (b : ℕ) : Decidable (p.Accepts b) := inferInstanceAs (Decidable (_ ∧ _))

def Pending.push (p : Pending) (b : ℕ) : List Char × Option Pending :=
  let code := 64 * p.code + (b - 0x80)
  if p.left = 0 then ([Char.ofNat code], none)
  else ([], some ⟨0x80, 0xBF, p.left - 1, code⟩)

def flush : Option Pending → List Char
  | none => []
  | some _ => [replacement]

def next (s : Option Pending) (b : ℕ) : List Char × Option Pending :=
  match s with
  | none => begin b
  | some p => if p.Accepts b then p.push b else (replacement :: (begin b).1, (begin b).2)

def decodeFrom (s : Option Pending) : List UInt8 → List Char
  | [] => flush s
  | b :: bs => (next s b.toNat).1 ++ decodeFrom (next s b.toNat).2 bs

/-- `bytes.decode('utf-8', errors='replace')`, which is the strict decoding where that succeeds. -/
def decode (bytes : List UInt8) : List Char := decodeFrom none bytes

def encode (text : List Char) : List UInt8 := text.flatMap String.utf8EncodeChar

section Parts

variable {s : Option Pending} {p : Pending} {b : ℕ} {xs ys : List UInt8}

def run (s : Option Pending) : List UInt8 → List Char × Option Pending
  | [] => ([], s)
  | b :: bs =>
    ((next s b.toNat).1 ++ (run (next s b.toNat).2 bs).1, (run (next s b.toNat).2 bs).2)

theorem decodeFrom_append (s : Option Pending) (xs ys : List UInt8) :
    decodeFrom s (xs ++ ys) = (run s xs).1 ++ decodeFrom (run s xs).2 ys := by
  induction xs generalizing s with
  | nil => rfl
  | cons b xs ih => rw [List.cons_append, decodeFrom, run, ih, List.append_assoc]

theorem decodeFrom_eq (s : Option Pending) (xs : List UInt8) :
    decodeFrom s xs = (run s xs).1 ++ flush (run s xs).2 := by
  have h := decodeFrom_append s xs []
  rwa [List.append_nil, decodeFrom] at h

/-- The bytes go on with the character that is begun. -/
def Continues (s : Option Pending) (ys : List UInt8) : Prop :=
  ∃ p b bs, s = some p ∧ ys = b :: bs ∧ p.Accepts b.toNat

/-- A character lies across the border of two parts. -/
def Across (xs ys : List UInt8) : Prop := Continues (run none xs).2 ys

theorem next_of_accepts (h : p.Accepts b) : next (some p) b = p.push b := if_pos h

theorem next_of_not_accepts (h : ¬p.Accepts b) :
    next (some p) b = (replacement :: (begin b).1, (begin b).2) := if_neg h

theorem decode_eq (xs : List UInt8) : decode xs = (run none xs).1 ++ flush (run none xs).2 :=
  decodeFrom_eq none xs

theorem decodeFrom_of_not_continues (h : ¬Continues s ys) :
    decodeFrom s ys = flush s ++ decode ys := by
  cases s with
  | none => rfl
  | some p =>
    cases ys with
    | nil => rfl
    | cons b ys =>
      have hb : ¬p.Accepts b.toNat := fun hb => h ⟨p, b, ys, rfl, rfl, hb⟩
      rw [decodeFrom, next_of_not_accepts hb]
      rfl

theorem begin_of_accepts (h : p.Accepts b) : begin b = ([replacement], none) := by
  obtain ⟨hlow, hhigh, -⟩ := h
  unfold begin
  rw [if_neg (by omega), if_neg (by omega), if_neg (by omega), if_neg (by omega)]

theorem length_decode_cons_of_accepts {b : UInt8} (h : p.Accepts b.toNat) (ys : List UInt8) :
    (decode (b :: ys)).length = 1 + (decode ys).length := by
  rw [decode, decodeFrom, next, begin_of_accepts h, List.length_append]
  rfl

theorem length_decodeFrom_le (s : Option Pending) (ys : List UInt8) :
    (decodeFrom s ys).length ≤ (flush s).length + (decode ys).length ∧
      (Continues s ys → (decodeFrom s ys).length < (flush s).length + (decode ys).length) := by
  induction ys generalizing s with
  | nil =>
    refine ⟨Nat.le_add_right _ _, ?_⟩
    rintro ⟨p, b, bs, -, hnil, -⟩
    cases hnil
  | cons b ys ih =>
    by_cases hcontinues : Continues s (b :: ys)
    · obtain ⟨p, _, _, rfl, heq, hb⟩ := hcontinues
      obtain ⟨rfl, rfl⟩ := List.cons.inj heq
      have hpush : (decodeFrom (some p) (b :: ys)).length ≤ 1 + (decode ys).length := by
        rw [decodeFrom, next_of_accepts hb, Pending.push]
        split
        · exact Nat.le_of_eq List.length_append
        · exact (ih _).1
      have hcons := length_decode_cons_of_accepts hb ys
      have hflush : (flush (some p)).length = 1 := rfl
      exact ⟨by omega, fun _ => by omega⟩
    · rw [decodeFrom_of_not_continues hcontinues, List.length_append]
      exact ⟨Nat.le_refl _, fun h => absurd h hcontinues⟩

theorem decode_append (h : ¬Across xs ys) : decode (xs ++ ys) = decode xs ++ decode ys := by
  rw [decode_eq xs, List.append_assoc, ← decodeFrom_of_not_continues h]
  exact decodeFrom_append none xs ys

theorem length_decode_append (h : Across xs ys) :
    (decode (xs ++ ys)).length < (decode xs).length + (decode ys).length := by
  have hless := (length_decodeFrom_le (run none xs).2 ys).2 h
  have happend : decode (xs ++ ys) = (run none xs).1 ++ decodeFrom (run none xs).2 ys :=
    decodeFrom_append none xs ys
  rw [happend, decode_eq xs, List.length_append, List.length_append]
  omega

theorem length_decode_append_le (xs ys : List UInt8) :
    (decode (xs ++ ys)).length ≤ (decode xs).length + (decode ys).length := by
  by_cases h : Across xs ys
  · exact Nat.le_of_lt (length_decode_append h)
  · exact Nat.le_of_eq (by rw [decode_append h, List.length_append])

end Parts

section Encoded

variable {s : Option Pending} {c : Char} {ys : List UInt8}

variable {n lower upper left code : ℕ}

theorem accepts_iff : Pending.Accepts ⟨lower, upper, left, code⟩ n ↔
    0x80 ≤ n ∧ n ≤ 0xBF ∧ lower ≤ n ∧ n ≤ upper := Iff.rfl

theorem decodeFrom_ofNat (hn : n < 256) (s : Option Pending) (ys : List UInt8) :
    decodeFrom s (UInt8.ofNat n :: ys) = (next s n).1 ++ decodeFrom (next s n).2 ys := by
  have htoNat : (UInt8.ofNat n).toNat = n := by simp [Nat.mod_eq_of_lt hn]
  rw [decodeFrom, htoNat]

theorem decode_one (h : n < 0x80) (ys : List UInt8) :
    decode (UInt8.ofNat n :: ys) = Char.ofNat n :: decode ys := by
  rw [decode, decodeFrom_ofNat (by omega), next, begin, if_pos h]
  rfl

theorem decode_two (h : 0xC2 ≤ n ∧ n ≤ 0xDF) (ys : List UInt8) :
    decode (UInt8.ofNat n :: ys) = decodeFrom (some ⟨0x80, 0xBF, 0, n - 0xC0⟩) ys := by
  rw [decode, decodeFrom_ofNat (by omega), next, begin, if_neg (by omega), if_pos h]
  rfl

theorem decode_three (h : 0xE0 ≤ n ∧ n ≤ 0xEF) (ys : List UInt8) :
    decode (UInt8.ofNat n :: ys) = decodeFrom (some ⟨if n = 0xE0 then 0xA0 else 0x80,
      if n = 0xED then 0x9F else 0xBF, 1, n - 0xE0⟩) ys := by
  rw [decode, decodeFrom_ofNat (by omega), next, begin, if_neg (by omega), if_neg (by omega),
    if_pos h]
  rfl

theorem decode_four (h : 0xF0 ≤ n ∧ n ≤ 0xF4) (ys : List UInt8) :
    decode (UInt8.ofNat n :: ys) = decodeFrom (some ⟨if n = 0xF0 then 0x90 else 0x80,
      if n = 0xF4 then 0x8F else 0xBF, 2, n - 0xF0⟩) ys := by
  rw [decode, decodeFrom_ofNat (by omega), next, begin, if_neg (by omega), if_neg (by omega),
    if_neg (by omega), if_pos h]
  rfl

theorem decodeFrom_more (h : Pending.Accepts ⟨lower, upper, left + 1, code⟩ n) (ys : List UInt8) :
    decodeFrom (some ⟨lower, upper, left + 1, code⟩) (UInt8.ofNat n :: ys) =
      decodeFrom (some ⟨0x80, 0xBF, left, 64 * code + (n - 0x80)⟩) ys := by
  have hhigh := h.2.1
  rw [decodeFrom_ofNat (by omega), next_of_accepts h, Pending.push, if_neg (Nat.succ_ne_zero _)]
  rfl

theorem decodeFrom_last (h : Pending.Accepts ⟨lower, upper, 0, code⟩ n) (ys : List UInt8) :
    decodeFrom (some ⟨lower, upper, 0, code⟩) (UInt8.ofNat n :: ys) =
      Char.ofNat (64 * code + (n - 0x80)) :: decode ys := by
  have hhigh := h.2.1
  rw [decodeFrom_ofNat (by omega), next_of_accepts h, Pending.push, if_pos rfl]
  rfl

theorem decode_encodeChar (c : Char) (ys : List UInt8) :
    decode (String.utf8EncodeChar c ++ ys) = c :: decode ys := by
  have hvalid : c.val.toNat < 0xD800 ∨ 0xDFFF < c.val.toNat ∧ c.val.toNat < 0x110000 := c.valid
  have hchar : ∀ n, n = c.val.toNat → Char.ofNat n = c := by
    rintro n rfl
    exact Char.ofNat_toNat c
  unfold String.utf8EncodeChar
  generalize c.val.toNat = v at hvalid hchar ⊢
  dsimp only
  split_ifs with h₁ h₂ h₃
  · rw [List.singleton_append, decode_one (by omega), hchar v rfl]
  · rw [List.cons_append, List.singleton_append, decode_two (by omega), decodeFrom_last,
      hchar _ (by omega)]
    rw [accepts_iff]
    omega
  · rw [List.cons_append, List.cons_append, List.singleton_append, decode_three (by omega),
      decodeFrom_more, decodeFrom_last, hchar _ (by omega)]
    · rw [accepts_iff]
      omega
    · rw [accepts_iff]
      split_ifs <;> omega
  · rw [List.cons_append, List.cons_append, List.cons_append, List.singleton_append,
      decode_four (by omega), decodeFrom_more, decodeFrom_more, decodeFrom_last,
      hchar _ (by omega)]
    · rw [accepts_iff]
      omega
    · rw [accepts_iff]
      omega
    · rw [accepts_iff]
      split_ifs <;> omega

theorem decode_encode (text : List Char) : decode (encode text) = text := by
  induction text with
  | nil => rfl
  | cons c text ih =>
    change decode (String.utf8EncodeChar c ++ encode text) = c :: text
    rw [decode_encodeChar, ih]

theorem encodeChar_eq_cons (c : Char) : ∃ n bytes,
    String.utf8EncodeChar c = UInt8.ofNat n :: bytes ∧ n < 256 ∧ ¬(0x80 ≤ n ∧ n ≤ 0xBF) := by
  have hvalid : c.val.toNat < 0xD800 ∨ 0xDFFF < c.val.toNat ∧ c.val.toNat < 0x110000 := c.valid
  unfold String.utf8EncodeChar
  generalize c.val.toNat = v at hvalid ⊢
  dsimp only
  split_ifs
  · exact ⟨v, _, rfl, by omega, by omega⟩
  · exact ⟨v / 64 % 0x20 + 0xC0, _, rfl, by omega, by omega⟩
  · exact ⟨v / 4096 % 0x10 + 0xE0, _, rfl, by omega, by omega⟩
  · exact ⟨v / 262144 % 0x08 + 0xF0, _, rfl, by omega, by omega⟩

theorem not_across_encode (xs : List UInt8) (text : List Char) : ¬Across xs (encode text) := by
  rintro ⟨p, b, bs, -, heq, hlow, hhigh, -⟩
  cases text with
  | nil => cases heq
  | cons c text =>
    obtain ⟨n, bytes, hbytes, hn, hfirst⟩ := encodeChar_eq_cons c
    have hcons : encode (c :: text) = UInt8.ofNat n :: (bytes ++ encode text) := by
      change String.utf8EncodeChar c ++ encode text = _
      rw [hbytes, List.cons_append]
    rw [hcons] at heq
    have hb : b.toNat = n := by
      rw [← (List.cons.inj heq).1]
      simp [Nat.mod_eq_of_lt hn]
    rw [hb] at hlow hhigh
    exact hfirst ⟨hlow, hhigh⟩

theorem decode_append_encode (xs : List UInt8) (text : List Char) :
    decode (xs ++ encode text) = decode xs ++ text := by
  rw [decode_append (not_across_encode xs text), decode_encode]

end Encoded

section LineFeeds

variable {s : Option Pending} {p : Pending} {n : ℕ} {b : UInt8} {xs : List UInt8}

/-- The character that is begun will not be one of the first numbers. -/
def Large : Option Pending → Prop
  | none => True
  | some p => 2 ≤ if p.left = 0 then p.code else 64 * p.code + (p.lower - 0x80)

theorem toNat_ofNat (n : ℕ) : (Char.ofNat n).toNat = n ∨ (Char.ofNat n).toNat = 0 := by
  by_cases h : n.isValidChar
  · have hchar : Char.ofNat n = Char.ofNatAux n h := dif_pos h
    exact Or.inl (congrArg Char.toNat hchar)
  · have hchar : Char.ofNat n = '\x00' := dif_neg h
    exact Or.inr (congrArg Char.toNat hchar)

theorem eq_of_lineFeed_eq (h : '\n' = Char.ofNat n) : n = 10 := by
  have hnat : 10 = (Char.ofNat n).toNat := congrArg Char.toNat h
  rcases toNat_ofNat n with hn | hn <;> omega

theorem large_some {lower upper left code : ℕ} : Large (some ⟨lower, upper, left, code⟩) ↔
    2 ≤ if left = 0 then code else 64 * code + (lower - 0x80) := Iff.rfl

theorem count_singleton (n : ℕ) :
    [Char.ofNat n].count '\n' = if n = 10 then 1 else 0 := by
  by_cases hn : n = 10
  · rw [hn]
    rfl
  · have hne : '\n' ≠ Char.ofNat n := fun h => hn (eq_of_lineFeed_eq h)
    rw [if_neg hn, List.count_eq_zero, List.mem_singleton]
    exact hne

theorem count_begin (n : ℕ) :
    (begin n).1.count '\n' = (if n = 10 then 1 else 0) ∧ Large (begin n).2 := by
  have hmore : ∀ p : Pending, Large (some p) → 0x80 ≤ n →
      ([] : List Char).count '\n' = (if n = 10 then 1 else 0) ∧ Large (some p) := by
    intro p hp hn
    rw [if_neg (by omega)]
    exact ⟨rfl, hp⟩
  unfold begin
  split
  · exact ⟨count_singleton n, trivial⟩
  · split
    · refine hmore _ ?_ (by omega)
      rw [large_some, if_pos rfl]
      omega
    · split
      · refine hmore _ ?_ (by omega)
        rw [large_some, if_neg Nat.one_ne_zero]
        split <;> omega
      · split
        · refine hmore _ ?_ (by omega)
          rw [large_some, if_neg (Nat.succ_ne_zero 1)]
          split <;> omega
        · rw [if_neg (by omega)]
          exact ⟨rfl, trivial⟩

theorem count_next (hs : Large s) (n : ℕ) :
    (next s n).1.count '\n' = (if n = 10 then 1 else 0) ∧ Large (next s n).2 := by
  cases s with
  | none => exact count_begin n
  | some p =>
    by_cases hn : p.Accepts n
    · rw [next_of_accepts hn, Pending.push]
      have hbounds := hn
      unfold Pending.Accepts at hbounds
      change 2 ≤ if p.left = 0 then p.code else 64 * p.code + (p.lower - 0x80) at hs
      rw [if_neg (by omega : n ≠ 10)]
      split
      · rename_i hleft
        rw [if_pos hleft] at hs
        refine ⟨?_, trivial⟩
        rw [count_singleton, if_neg (by omega)]
      · rename_i hleft
        rw [if_neg hleft] at hs
        refine ⟨rfl, ?_⟩
        rw [large_some]
        split <;> omega
    · rw [next_of_not_accepts hn]
      exact count_begin n

theorem count_decodeFrom (hs : Large s) : (decodeFrom s xs).count '\n' = xs.count 10 := by
  induction xs generalizing s with
  | nil => cases s <;> rfl
  | cons b xs ih =>
    obtain ⟨hcount, hlarge⟩ := count_next hs b.toNat
    have hb : (b == 10) = true ↔ b.toNat = 10 := by
      rw [beq_iff_eq, ← UInt8.toNat_inj]
      rfl
    rw [decodeFrom, List.count_append, hcount, ih hlarge, List.count_cons, Nat.add_comm]
    simp only [hb]

theorem count_decode (xs : List UInt8) : (decode xs).count '\n' = xs.count 10 :=
  count_decodeFrom trivial

theorem lineFeed_mem_decodeFrom (hs : Large s) : '\n' ∈ decodeFrom s xs ↔ 10 ∈ xs := by
  rw [← List.count_pos_iff, count_decodeFrom hs, List.count_pos_iff]

theorem lineFeed_mem_decode : '\n' ∈ decode xs ↔ 10 ∈ xs := lineFeed_mem_decodeFrom trivial

theorem large_run (hs : Large s) (xs : List UInt8) : Large (run s xs).2 := by
  induction xs generalizing s with
  | nil => exact hs
  | cons b xs ih => exact ih (count_next hs b.toNat).2

theorem decodeFrom_lineFeed (s : Option Pending) : decodeFrom s [10] = flush s ++ ['\n'] := by
  apply decodeFrom_of_not_continues
  rintro ⟨p, b, bs, -, heq, hlow, -⟩
  rw [← (List.cons.inj heq).1] at hlow
  exact absurd hlow (by decide)

theorem decodeFrom_ne_nil (s : Option Pending) (b : UInt8) : decodeFrom s [b] ≠ [] := by
  cases s with
  | none =>
    change (begin b.toNat).1 ++ flush (begin b.toNat).2 ≠ []
    unfold begin
    split_ifs <;> simp [flush]
  | some p =>
    by_cases hb : p.Accepts b.toNat
    · rw [decodeFrom, next_of_accepts hb, Pending.push]
      split <;> simp [decodeFrom, flush]
    · rw [decodeFrom, next_of_not_accepts hb]
      simp

theorem decode_concat (xs : List UInt8) (b : UInt8) :
    decode (xs ++ [b]) = (run none xs).1 ++ decodeFrom (run none xs).2 [b] :=
  decodeFrom_append none xs [b]

theorem decode_ne_nil (h : xs ≠ []) : decode xs ≠ [] := by
  obtain ⟨xs, b, rfl⟩ := (List.eq_nil_or_concat xs).resolve_left h
  rw [List.concat_eq_append, decode_concat]
  exact List.append_ne_nil_of_right_ne_nil _ (decodeFrom_ne_nil _ b)

theorem getLast?_decode : (decode xs).getLast? = some '\n' ↔ xs.getLast? = some 10 := by
  rcases List.eq_nil_or_concat xs with rfl | ⟨xs, b, rfl⟩
  · simp [decode, decodeFrom, flush]
  · have hlarge := large_run (s := none) trivial xs
    have hmem : '\n' ∈ decodeFrom (run none xs).2 [b] ↔ 10 ∈ [b] :=
      lineFeed_mem_decodeFrom hlarge
    have hlast : (decode (xs ++ [b])).getLast? = (decodeFrom (run none xs).2 [b]).getLast? := by
      rw [decode_concat, List.getLast?_append,
        List.getLast?_eq_some_getLast (decodeFrom_ne_nil (run none xs).2 b), Option.some_or]
    rw [List.concat_eq_append, hlast, List.getLast?_append, List.getLast?_singleton, Option.some_or,
      Option.some_inj]
    constructor
    · intro h
      exact (List.mem_singleton.mp (hmem.mp (List.mem_of_getLast? h))).symm
    · rintro rfl
      rw [decodeFrom_lineFeed, List.getLast?_append, List.getLast?_singleton, Option.some_or]

end LineFeeds

end Utf8

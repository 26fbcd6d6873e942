import Mathlib.Data.Bool.AllAny
import Mathlib.Data.List.Basic
import Mathlib.Data.List.Count
import Mathlib.Data.List.Chain
import Mathlib.Tactic.IntervalCases

/-! # The tokens of JSON texts

A JSON text is read in two passes. The first resolves the escapes and leaves glyphs, each a
character that was escaped or not. The second groups the glyphs into tokens. A writer puts any
blanks between the tokens and escapes a character of a string only if it has to, so what it
wrote reads back as the same tokens, whatever the blanks.
-/

namespace Json

/-- A character of a text, with whether the text spells it as an escape. -/
structure Glyph where
  char : Char
  escaped : Bool
  deriving DecidableEq

inductive Mark where
  | beginObject | endObject | beginArray | endArray | colon | comma
  deriving DecidableEq

def Mark.char : Mark → Char
  | beginObject => '{'
  | endObject => '}'
  | beginArray => '['
  | endArray => ']'
  | colon => ':'
  | comma => ','

def markOf (c : Char) : Option Mark :=
  if c = '{' then some .beginObject
  else if c = '}' then some .endObject
  else if c = '[' then some .beginArray
  else if c = ']' then some .endArray
  else if c = ':' then some .colon
  else if c = ',' then some .comma
  else none

/-- A literal is a number or one of the words `true`, `false` and `null`. -/
inductive Token where
  | mark (m : Mark)
  | literal (text : List Char)
  | string (text : List Char)
  deriving DecidableEq

/-! ## Escapes -/

def hexDigit (n : ℕ) : Char :=
  if n < 10 then Char.ofNat (48 + n) else Char.ofNat (87 + n)

def hexValue (c : Char) : Option ℕ :=
  let n := c.toNat
  if 48 ≤ n ∧ n ≤ 57 then some (n - 48)
  else if 97 ≤ n ∧ n ≤ 102 then some (n - 87)
  else if 65 ≤ n ∧ n ≤ 70 then some (n - 55)
  else none

def hex4 (a b c d : Char) : Option ℕ := do
  let a ← hexValue a
  let b ← hexValue b
  let c ← hexValue c
  let d ← hexValue d
  some (4096 * a + 256 * b + 16 * c + d)

def simpleEscape (c : Char) : Option Char :=
  if c = '"' ∨ c = '\\' ∨ c = '/' then some c
  else if c = 'b' then some (Char.ofNat 8)
  else if c = 'f' then some (Char.ofNat 12)
  else if c = 'n' then some '\n'
  else if c = 'r' then some '\r'
  else if c = 't' then some '\t'
  else none

def glyphs : List Char → Option (List Glyph)
  | [] => some []
  | c :: cs =>
    if c = '\\' then
      match cs with
      | [] => none
      | e :: cs =>
        if e = 'u' then
          match cs with
          | a :: b :: c :: d :: cs =>
            match hex4 a b c d with
            | none => none
            | some n =>
              if 0xDC00 ≤ n ∧ n ≤ 0xDFFF then none
              else if 0xD800 ≤ n ∧ n ≤ 0xDBFF then
                match cs with
                | x :: y :: a :: b :: c :: d :: cs =>
                  match hex4 a b c d with
                  | none => none
                  | some low =>
                    if x = '\\' ∧ y = 'u' ∧ 0xDC00 ≤ low ∧ low ≤ 0xDFFF then
                      (glyphs cs).map
                        (⟨Char.ofNat (0x10000 + 1024 * (n - 0xD800) + (low - 0xDC00)), true⟩ :: ·)
                    else none
                | _ => none
              else (glyphs cs).map (⟨Char.ofNat n, true⟩ :: ·)
          | _ => none
        else
          match simpleEscape e with
          | none => none
          | some c => (glyphs cs).map (⟨c, true⟩ :: ·)
    else (glyphs cs).map (⟨c, false⟩ :: ·)
termination_by structural cs => cs

def needsEscape (c : Char) : Bool := c = '"' || c = '\\' || c.toNat < 32

def escape (c : Char) : List Char :=
  if c = '"' ∨ c = '\\' then ['\\', c]
  else if c = Char.ofNat 8 then ['\\', 'b']
  else if c = Char.ofNat 12 then ['\\', 'f']
  else if c = '\n' then ['\\', 'n']
  else if c = '\r' then ['\\', 'r']
  else if c = '\t' then ['\\', 't']
  else ['\\', 'u', '0', '0', hexDigit (c.toNat / 16), hexDigit (c.toNat % 16)]

namespace Glyph

def spell (u : Glyph) : List Char := if u.escaped then escape u.char else [u.char]

/-- A glyph as a writer spells it. -/
def Written (u : Glyph) : Prop :=
  if u.escaped then needsEscape u.char = true else u.char ≠ '\\'

def plain (c : Char) : Glyph := ⟨c, false⟩

def ofString (c : Char) : Glyph := ⟨c, needsEscape c⟩

end Glyph

def spell (us : List Glyph) : List Char := us.flatMap Glyph.spell

@[simp] theorem spell_nil : spell [] = [] := rfl

@[simp] theorem spell_cons (u : Glyph) (us : List Glyph) :
    spell (u :: us) = u.spell ++ spell us := rfl

@[simp] theorem spell_append (us vs : List Glyph) : spell (us ++ vs) = spell us ++ spell vs :=
  List.flatMap_append

variable {c : Char}

theorem needsEscape_cases (h : needsEscape c = true) :
    c = '"' ∨ c = '\\' ∨ ∃ n < 32, c = Char.ofNat n := by
  simp only [needsEscape, Bool.or_eq_true, decide_eq_true_eq] at h
  rcases h with (h | h) | h
  · exact .inl h
  · exact .inr (.inl h)
  · exact .inr (.inr ⟨c.toNat, h, (Char.ofNat_toNat c).symm⟩)

/-- A property of the characters to be escaped holds of the quote, the backslash and the
control characters. -/
theorem forall_needsEscape {P : Char → Prop} (hquote : P '"') (hback : P '\\')
    (hcontrol : ∀ n < 32, P (Char.ofNat n)) (h : needsEscape c = true) : P c := by
  rcases needsEscape_cases h with rfl | rfl | ⟨n, hn, rfl⟩
  · exact hquote
  · exact hback
  · exact hcontrol n hn

@[simp] theorem Glyph.spell_plain (c : Char) : (Glyph.plain c).spell = [c] := rfl

@[simp] theorem spell_map_plain (cs : List Char) : spell (cs.map Glyph.plain) = cs := by
  induction cs with
  | nil => rfl
  | cons c cs ih => rw [List.map_cons, spell_cons, ih]; rfl

theorem glyphs_escape (h : needsEscape c = true) :
    ∀ rest, glyphs (escape c ++ rest) = (glyphs rest).map (⟨c, true⟩ :: ·) := by
  refine forall_needsEscape (P := fun c => ∀ rest, glyphs (escape c ++ rest) =
    (glyphs rest).map (⟨c, true⟩ :: ·)) ?_ ?_ ?_ h
  · intro rest
    rw [glyphs.eq_def]
    rfl
  · intro rest
    rw [glyphs.eq_def]
    rfl
  · intro n hn rest
    rw [glyphs.eq_def]
    interval_cases n <;> rfl

theorem glyphs_cons (h : c ≠ '\\') (rest : List Char) :
    glyphs (c :: rest) = (glyphs rest).map (⟨c, false⟩ :: ·) := by
  rw [glyphs.eq_def]
  exact if_neg h

variable {us : List Glyph}

theorem glyphs_spell (h : ∀ u ∈ us, u.Written) (rest : List Char) :
    glyphs (spell us ++ rest) = (glyphs rest).map (us ++ ·) := by
  induction us with
  | nil => exact Option.map_id'.symm
  | cons u us ih =>
    obtain ⟨hu, hus⟩ := List.forall_mem_cons.mp h
    obtain ⟨c, escaped⟩ := u
    rw [spell_cons, List.append_assoc]
    have hfirst : glyphs (Glyph.spell ⟨c, escaped⟩ ++ (spell us ++ rest)) =
        (glyphs (spell us ++ rest)).map (⟨c, escaped⟩ :: ·) := by
      cases escaped with
      | true => exact glyphs_escape hu _
      | false => exact glyphs_cons hu _
    rw [hfirst, ih hus, Option.map_map]
    rfl

/-- A character of no escape stands for itself wherever it occurs. -/
def Unescaped (c : Char) : Prop := ∀ d, needsEscape d = true → c ∉ escape d

theorem spell_eq_append_cons (h : ∀ u ∈ us, u.Written) (hc : Unescaped c) {pre post : List Char}
    (heq : spell us = pre ++ c :: post) :
    ∃ vs ws, us = vs ++ .plain c :: ws ∧ spell vs = pre ∧ spell ws = post := by
  induction us generalizing pre with
  | nil => exact absurd heq (by simp)
  | cons u us ih =>
    obtain ⟨hu, hus⟩ := List.forall_mem_cons.mp h
    have hrest : ∀ pre', spell us = pre' ++ c :: post → pre = u.spell ++ pre' →
        ∃ vs ws, u :: us = vs ++ .plain c :: ws ∧ spell vs = pre ∧ spell ws = post := by
      rintro pre' h' rfl
      obtain ⟨vs, ws, rfl, rfl, rfl⟩ := ih hus h'
      exact ⟨u :: vs, ws, rfl, rfl, rfl⟩
    rw [spell_cons] at heq
    rcases List.append_eq_append_iff.mp heq with ⟨pre', hpre, hus'⟩ | ⟨mid, hu', hpost⟩
    · exact hrest pre' hus' hpre
    · cases mid with
      | nil => exact hrest [] hpost.symm (by simpa using hu'.symm)
      | cons d mid =>
        obtain ⟨rfl, rfl⟩ := List.cons.inj hpost
        obtain ⟨d, escaped⟩ := u
        cases escaped with
        | true =>
          have hmem : c ∈ escape d := by
            rw [show escape d = pre ++ c :: mid from hu']
            exact List.mem_append_right _ List.mem_cons_self
          exact absurd hmem (hc d hu)
        | false =>
          obtain ⟨rfl, hu'⟩ | ⟨_, _, hu'⟩ := List.singleton_eq_append_iff.mp hu'
          obtain ⟨rfl, rfl⟩ := List.cons.inj hu'
          exact ⟨[], us, rfl, rfl, rfl⟩

theorem spell_eq_append {cs post : List Char} (h : ∀ c ∈ cs, c ≠ '\\') (heq : spell us = cs ++ post) :
    ∃ ws, us = cs.map .plain ++ ws ∧ spell ws = post := by
  induction cs generalizing us with
  | nil => exact ⟨us, rfl, heq⟩
  | cons c cs ih =>
    obtain ⟨hc, hcs⟩ := List.forall_mem_cons.mp h
    cases us with
    | nil => cases heq
    | cons u us =>
      obtain ⟨d, escaped⟩ := u
      cases escaped with
      | true =>
        have hd : ∃ ds, escape d = '\\' :: ds := by
          unfold escape
          split_ifs <;> exact ⟨_, rfl⟩
        obtain ⟨ds, hd⟩ := hd
        have hfirst : '\\' :: (ds ++ spell us) = c :: (cs ++ post) := by
          rw [← List.cons_append, ← hd]
          exact heq
        exact absurd (List.cons.inj hfirst).1.symm hc
      | false =>
        obtain ⟨rfl, hrest⟩ : d = c ∧ spell us = cs ++ post := List.cons.inj heq
        obtain ⟨ws, rfl, rfl⟩ := ih hcs hrest
        exact ⟨ws, rfl, rfl⟩

theorem infix_spell_iff (h : ∀ u ∈ us, u.Written) {cs : List Char} (hc : Unescaped c)
    (hcs : ∀ d ∈ cs, d ≠ '\\') : c :: cs <:+: spell us ↔ (c :: cs).map .plain <:+: us := by
  constructor
  · rintro ⟨pre, post, heq⟩
    rw [List.append_assoc, List.cons_append] at heq
    obtain ⟨vs, ws, rfl, _, hws⟩ := spell_eq_append_cons h hc heq.symm
    obtain ⟨ws, rfl, _⟩ := spell_eq_append hcs hws
    exact ⟨vs, ws, by simp⟩
  · rintro ⟨vs, ws, rfl⟩
    exact ⟨spell vs, spell ws, by simp only [spell_append, spell_map_plain]⟩

def escapeChars : List Char := "\\\"bfnrtu0123456789abcdef".toList

theorem unescaped_of_not_mem (h : c ∉ escapeChars) : Unescaped c := by
  have hall : ∀ d, needsEscape d = true → (escape d).all (· ∈ escapeChars) = true := by
    intro d hd
    refine forall_needsEscape (P := fun d => (escape d).all (· ∈ escapeChars) = true) ?_ ?_ ?_ hd
    · decide
    · decide
    · decide
  exact fun d hd hc => h (List.all_iff_forall_prop.mp (hall d hd) c hc)

/-! ## Grouping glyphs -/

def isBlank (c : Char) : Bool := c = ' ' || c = '\n' || c = '\r' || c = '\t'

def isLiteralChar (c : Char) : Bool :=
  c.isLower || c.isDigit || c = '+' || c = '-' || c = '.' || c = 'E'

/-- What has been read of the current token. -/
inductive Mode where
  | outside (pending : List Char)
  | inString (text : List Char)

def Mode.text : Mode → List Char
  | outside pending => pending
  | inString text => text

def flush (pending : List Char) : List Token :=
  if pending = [] then [] else [.literal pending]

def group : Mode → List Glyph → Option (List Token)
  | .outside pending, [] => some (flush pending)
  | .inString _, [] => none
  | .outside pending, u :: us =>
    if u.escaped then none
    else if u.char = '"' then (group (.inString []) us).map (flush pending ++ ·)
    else if isBlank u.char then (group (.outside []) us).map (flush pending ++ ·)
    else
      match markOf u.char with
      | some m => (group (.outside []) us).map (flush pending ++ .mark m :: ·)
      | none => if isLiteralChar u.char then group (.outside (pending ++ [u.char])) us else none
  | .inString text, u :: us =>
    if u.escaped then group (.inString (text ++ [u.char])) us
    else if u.char = '"' then (group (.outside []) us).map (.string text :: ·)
    else if u.char.toNat < 32 then none
    else group (.inString (text ++ [u.char])) us

def tokens (cs : List Char) : Option (List Token) := (glyphs cs).bind (group (.outside []))

/-! ## Counting characters -/

def Token.count (c : Char) : Token → ℕ
  | mark _ => 0
  | literal text => text.count c
  | string text => text.count c

def charCount (c : Char) (ts : List Token) : ℕ := (ts.map (Token.count c)).sum

@[simp] theorem charCount_nil (c : Char) : charCount c [] = 0 := rfl

@[simp] theorem charCount_cons (c : Char) (t : Token) (ts : List Token) :
    charCount c (t :: ts) = t.count c + charCount c ts := rfl

@[simp] theorem charCount_append (c : Char) (ts ts' : List Token) :
    charCount c (ts ++ ts') = charCount c ts + charCount c ts' := by
  simp [charCount]

@[simp] theorem charCount_flush (c : Char) (pending : List Char) :
    charCount c (flush pending) = pending.count c := by
  unfold flush
  split
  · rename_i h
    rw [h]
    rfl
  · rfl

def glyphCount (c : Char) (us : List Glyph) : ℕ := (us.map Glyph.char).count c

@[simp] theorem glyphCount_append (c : Char) (us vs : List Glyph) :
    glyphCount c (us ++ vs) = glyphCount c us + glyphCount c vs := by
  simp [glyphCount]

theorem glyphCount_cons (c : Char) (u : Glyph) (us : List Glyph) :
    glyphCount c (u :: us) = [u.char].count c + glyphCount c us :=
  glyphCount_append c [u] us

theorem charCount_group_le (c : Char) {mode : Mode} {ts : List Token} (h : group mode us = some ts) :
    charCount c ts ≤ mode.text.count c + glyphCount c us := by
  induction us generalizing mode ts with
  | nil =>
    cases mode with
    | outside pending =>
      obtain rfl := Option.some.inj h
      exact (charCount_flush c pending).le.trans (Nat.le_add_right _ _)
    | inString text => cases h
  | cons u us ih =>
    have hmap {mode' : Mode} (before : List Token)
        (h : (group mode' us).map (before ++ ·) = some ts) :
        charCount c ts ≤ charCount c before + mode'.text.count c + glyphCount c us := by
      obtain ⟨ts', hts, rfl⟩ := Option.map_eq_some_iff.mp h
      rw [charCount_append, Nat.add_assoc]
      exact Nat.add_le_add_left (ih hts) _
    have hchar {text : List Char} {mode' : Mode} (h : group mode' us = some ts)
        (ht : mode'.text = text ++ [u.char]) :
        charCount c ts ≤ text.count c + ([u.char].count c + glyphCount c us) := by
      have hle := ih h
      rwa [ht, List.count_append, Nat.add_assoc] at hle
    rw [glyphCount_cons]
    cases mode with
    | outside pending =>
      have hflush (after : List Token) {mode' : Mode}
          (h : (group mode' us).map (flush pending ++ after ++ ·) = some ts)
          (ha : charCount c after = 0) (hm : mode'.text = []) :
          charCount c ts ≤ pending.count c + ([u.char].count c + glyphCount c us) := by
        have hle := hmap (flush pending ++ after) h
        rw [charCount_append, charCount_flush, ha, hm, List.count_nil] at hle
        omega
      simp only [group] at h
      split at h
      · cases h
      split at h
      · rw [← List.append_nil (flush pending)] at h
        exact hflush [] h rfl rfl
      split at h
      · rw [← List.append_nil (flush pending)] at h
        exact hflush [] h rfl rfl
      split at h
      · rename_i m _
        exact hflush [.mark m] (by simpa using h) rfl rfl
      split at h
      · exact hchar h rfl
      · cases h
    | inString text =>
      simp only [group] at h
      split at h
      · exact hchar h rfl
      split at h
      · have hle := hmap [.string text] h
        simp only [charCount_cons, charCount_nil, Token.count, Mode.text, List.count_nil] at hle ⊢
        omega
      split at h
      · cases h
      · exact hchar h rfl

end Json

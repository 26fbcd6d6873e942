import Idea.Data.Dict
import Mathlib.Data.List.Count

/-! # The words of shell commands

A shell reads a command in two passes. The first resolves the quoting: it drops quotes, escapes
and comments, and leaves each character of a word with whether it was quoted. The second groups
the characters into words and operators. A command has fixed words if nothing in it is expanded.
-/

namespace Shell

/-- What a character means where it is not quoted. -/
inductive CharClass where
  | escape | single | double | expansion | blank | operator | hash | plain
  deriving DecidableEq

def apostrophe : Char := Char.ofNat 39

def grave : Char := Char.ofNat 96

def operatorChars : List Char := ['\n', '|', '&', ';', '<', '>', '(', ')']

def classOf (c : Char) : CharClass :=
  if c = '\\' then .escape
  else if c = apostrophe then .single
  else if c = '"' then .double
  else if c = '$' ∨ c = grave then .expansion
  else if c = ' ' ∨ c = '\t' then .blank
  else if c ∈ operatorChars then .operator
  else if c = '#' then .hash
  else .plain

/-- Where a reader is: outside of a word or inside, in a quotation, after a backslash, or in a
comment. -/
inductive Mode where
  | outside | inside | single | double | escape (inWord : Bool) | escapeDouble | comment
  deriving DecidableEq

/-- What is left of a character: a quotation begins or goes on a word, also if it is empty. -/
inductive Event where
  | text (c : Char) (quoted : Bool)
  | quotes
  | operator (c : Char)
  | blank
  deriving DecidableEq

def escapable (c : Char) : Bool :=
  c = '$' || c = grave || c = '"' || c = '\\'

def stepUnquoted (inWord : Bool) (c : Char) : Option (Mode × List Event) :=
  match classOf c with
  | .escape => some (.escape inWord, [])
  | .single => some (.single, [.quotes])
  | .double => some (.double, [.quotes])
  | .expansion => none
  | .blank => some (.outside, [.blank])
  | .operator => some (.outside, [.operator c])
  | .hash => if inWord then some (.inside, [.text c false]) else some (.comment, [])
  | .plain => some (.inside, [.text c false])

def step : Mode → Char → Option (Mode × List Event)
  | .outside, c => stepUnquoted false c
  | .inside, c => stepUnquoted true c
  | .single, c =>
    if c = apostrophe then some (.inside, []) else some (.single, [.text c true])
  | .double, c =>
    match classOf c with
    | .double => some (.inside, [])
    | .escape => some (.escapeDouble, [])
    | .expansion => none
    | _ => some (.double, [.text c true])
  -- a line that is continued leaves nothing
  | .escape inWord, c =>
    if c = '\n' then some (if inWord then .inside else .outside, [])
    else some (.inside, [.text c true])
  | .escapeDouble, c =>
    if c = '\n' then some (.double, [])
    else if escapable c then some (.double, [.text c true])
    else some (.double, [.text '\\' true, .text c true])
  | .comment, c =>
    if c = '\n' then some (.outside, [.operator c]) else some (.comment, [])

/-- The first pass; a command that ends in a quotation or after a backslash is unfinished. -/
def scan : Mode → List Char → Option (List Event)
  | .outside, [] | .inside, [] | .comment, [] => some []
  | _, [] => none
  | mode, c :: cs => do
    let (mode', events) ← step mode c
    let rest ← scan mode' cs
    some (events ++ rest)

inductive Token (α : Type) where
  | word (w : α)
  | operator (op : List Char)
  deriving DecidableEq

def operators : List (List Char) :=
  ["&&", "||", ";;", ";&", "<<", ">>", "<&", ">&", "<>", ">|"].map String.toList

/-- A character of a word, with whether it was quoted. -/
abbrev WordChar : Type := Char × Bool

def group (begun : Option (Token (List WordChar))) : List Event → List (Token (List WordChar))
  | [] => begun.toList
  | .blank :: events => begun.toList ++ group none events
  | .quotes :: events =>
    match begun with
    | some (.word w) => group (some (.word w)) events
    | _ => begun.toList ++ group (some (.word [])) events
  | .text c quoted :: events =>
    match begun with
    | some (.word w) => group (some (.word (w ++ [(c, quoted)]))) events
    | _ => begun.toList ++ group (some (.word [(c, quoted)])) events
  | .operator c :: events =>
    match begun with
    | some (.operator op) =>
      if operators.contains (op ++ [c]) then group (some (.operator (op ++ [c]))) events
      else .operator op :: group (some (.operator [c])) events
    | _ => begun.toList ++ group (some (.operator [c])) events

/-- A `[` with a later `]`. -/
def hasBracket : List WordChar → Bool
  | [] => false
  | (c, quoted) :: w => (!quoted && c = '[' && w.any (·.1 = ']')) || hasBracket w

/-- The text of a word, unless it is replaced by a home directory or by the names of files. -/
def literal? (w : List WordChar) : Option (List Char) :=
  if w.head? = some ('~', false) || w.contains ('*', false) || w.contains ('?', false) ||
    hasBracket w then none
  else some (w.map Prod.fst)

/-- The token of the command line, unless it is expanded or begins a here-document. -/
def fixed? : Token (List WordChar) → Option (Token (List Char))
  | .word w => (literal? w).map .word
  | .operator op => if op = "<<".toList then none else some (.operator op)

def read (command : List Char) : Option (List (Token (List Char))) := do
  let events ← scan .outside command
  (group none events).mapM fixed?

variable {mode mode' : Mode} {c : Char} {cs : List Char} {events : List Event}

theorem scan_cons (h : step mode c = some (mode', events)) :
    scan mode (c :: cs) = (scan mode' cs).map (events ++ ·) := by
  rw [scan, h]
  cases hs : scan mode' cs <;> simp [hs]

theorem scan_cons_cases {es : List Event} (h : scan mode (c :: cs) = some es) :
    ∃ mode' events rest, step mode c = some (mode', events) ∧ scan mode' cs = some rest ∧
      es = events ++ rest := by
  cases hstep : step mode c with
  | none => rw [scan, hstep] at h; cases h
  | some p =>
    obtain ⟨mode', events⟩ := p
    rw [scan_cons hstep] at h
    obtain ⟨rest, hrest, rfl⟩ := Option.map_eq_some_iff.mp h
    exact ⟨mode', events, rest, rfl, hrest, rfl⟩

theorem step_double (c : Char) : step .double c =
    match classOf c with
    | .double => some (.inside, [])
    | .escape => some (.escapeDouble, [])
    | .expansion => none
    | _ => some (.double, [.text c true]) := rfl

theorem step_escapeDouble (c : Char) : step .escapeDouble c =
    if c = '\n' then some (.double, [])
    else if escapable c then some (.double, [.text c true])
    else some (.double, [.text '\\' true, .text c true]) := rfl

theorem classOf_eq_hash_iff : classOf c = .hash ↔ c = '#' := by
  constructor
  · intro h
    unfold classOf at h
    split_ifs at h with _ _ _ _ _ _ h'
    exact h'
  · rintro rfl
    decide

theorem classOf_eq_escape_iff : classOf c = .escape ↔ c = '\\' := by
  constructor
  · intro h
    unfold classOf at h
    split_ifs at h with h'
    exact h'
  · rintro rfl
    decide

theorem classOf_eq_single_iff : classOf c = .single ↔ c = apostrophe := by
  constructor
  · intro h
    unfold classOf at h
    split_ifs at h with _ h'
    exact h'
  · rintro rfl
    decide

theorem classOf_eq_double_iff : classOf c = .double ↔ c = '"' := by
  constructor
  · intro h
    unfold classOf at h
    split_ifs at h with _ _ h'
    exact h'
  · rintro rfl
    decide

theorem escapable_iff :
    escapable c = true ↔ classOf c = .expansion ∨ classOf c = .double ∨ classOf c = .escape := by
  rw [classOf_eq_double_iff, classOf_eq_escape_iff]
  have hexpansion : classOf c = .expansion ↔ c = '$' ∨ c = grave := by
    constructor
    · intro h
      unfold classOf at h
      split_ifs at h with _ _ _ h'
      exact h'
    · rintro (rfl | rfl) <;> decide
  rw [hexpansion]
  simp [escapable, or_assoc]

theorem read_eq_some_iff {command : List Char} {tokens : List (Token (List Char))} :
    read command = some tokens ↔
      ∃ events, scan .outside command = some events ∧
        (group none events).map fixed? = tokens.map some := by
  unfold read
  rw [Option.bind_eq_bind, Option.bind_eq_some_iff]
  simp only [Dict.mapM_eq_some_iff]

end Shell

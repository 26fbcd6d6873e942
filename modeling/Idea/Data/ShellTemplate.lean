import Idea.Data.Shell

/-! # Commands with inserted texts

A program builds a command from a template by inserting texts, bare or between quotes. The shell
reads the words of the template if each text is safe where it stands.
-/

namespace Shell

/-- The quotation marks of a template. -/
inductive Quote where
  | single | double
  deriving DecidableEq

def Quote.char : Quote → Char
  | .single => apostrophe
  | .double => '"'

def Quote.mode : Quote → Mode
  | .single => .single
  | .double => .double

/-- A word of a template. -/
inductive Arg where
  | bare (text : List Char)
  | quoted (text : List Char)
  deriving DecidableEq

/-- What stands between two words. -/
inductive Sep where
  | blank | and | redirect | newline
  deriving DecidableEq

structure Template where
  first : Arg
  rest : List (Sep × Arg)

def Arg.text : Arg → List Char
  | .bare text => text
  | .quoted text => text

def Arg.render (q : Quote) : Arg → List Char
  | .bare text => text
  | .quoted text => q.char :: (text ++ [q.char])

def Sep.render : Sep → List Char
  | .blank => [' ']
  | .and => [' ', '&', '&', ' ']
  | .redirect => [' ', '>', ' ']
  | .newline => ['\n']

def Sep.tokens {α : Type} : Sep → List (Token α)
  | .blank => []
  | .and => [.operator ['&', '&']]
  | .redirect => [.operator ['>']]
  | .newline => [.operator ['\n']]

namespace Template

def args (t : Template) : List Arg := t.first :: t.rest.map Prod.snd

def render (q : Quote) (t : Template) : List Char :=
  t.first.render q ++ t.rest.flatMap fun p => p.1.render ++ p.2.render q

def tokens (t : Template) : List (Token (List Char)) :=
  .word t.first.text :: t.rest.flatMap fun p => p.1.tokens ++ [.word p.2.text]

end Template

def doubleSafe : List Char → Bool
  | [] => true
  | c :: cs =>
    match classOf c with
    | .double => false
    | .expansion => false
    | .escape =>
      (match cs with
      | [] => false
      | d :: _ => d ≠ '\n' && !escapable d) && doubleSafe cs
    | _ => doubleSafe cs

def quotedSafe : Quote → List Char → Bool
  | .single, text => text.all (· ≠ apostrophe)
  | .double, text => doubleSafe text

def wordChar (c : Char) : Bool := classOf c = .plain || classOf c = .hash

def bareSafe (text : List Char) : Bool :=
  text ≠ [] && text.all wordChar && text.head? ≠ some '#' &&
    (literal? (text.map fun c => (c, false))).isSome

def Arg.Safe (q : Quote) : Arg → Prop
  | .bare text => bareSafe text = true
  | .quoted text => quotedSafe q text = true

instance (q : Quote) (a : Arg) : Decidable (a.Safe q) := by
  cases a <;> exact inferInstanceAs (Decidable (_ = true))

/-- A text that does not change how the rest of the command is quoted. -/
def Arg.Aligned (q : Quote) : Arg → Prop
  | .bare text => (∀ c ∈ text, wordChar c = true) ∧ text.head? ≠ some '#'
  | .quoted text => quotedSafe q text = true

def Arg.events : Arg → List Event
  | .bare text => text.map (.text · false)
  | .quoted text => .quotes :: text.map (.text · true)

def Arg.wordTokens : Arg → List (Token (List WordChar))
  | .bare [] => []
  | .bare (c :: text) => [.word ((c :: text).map (·, false))]
  | .quoted text => [.word (text.map (·, true))]

def Arg.after : Arg → Mode
  | .bare [] => .outside
  | _ => .inside

def Sep.events : Sep → List Event
  | .blank => [.blank]
  | .and => [.blank, .operator '&', .operator '&', .blank]
  | .redirect => [.blank, .operator '>', .blank]
  | .newline => [.operator '\n']

def Template.events (t : Template) : List Event :=
  t.first.events ++ t.rest.flatMap fun p => p.1.events ++ p.2.events

def Template.wordTokens (t : Template) : List (Token (List WordChar)) :=
  t.first.wordTokens ++ t.rest.flatMap fun p => p.1.tokens ++ p.2.wordTokens

variable {q : Quote} {text cs : List Char} {c : Char} {mode : Mode} {a : Arg} {t : Template}

theorem step_inside_wordChar (h : wordChar c = true) :
    step .inside c = some (.inside, [.text c false]) := by
  unfold wordChar at h
  change stepUnquoted true c = _
  unfold stepUnquoted
  rcases Bool.or_eq_true_iff.mp h with h | h <;> rw [of_decide_eq_true h]
  rfl

theorem step_outside_wordChar (h : wordChar c = true) (hhash : c ≠ '#') :
    step .outside c = some (.inside, [.text c false]) := by
  unfold wordChar at h
  change stepUnquoted false c = _
  unfold stepUnquoted
  rcases Bool.or_eq_true_iff.mp h with h | h
  · rw [of_decide_eq_true h]
  · exact absurd (classOf_eq_hash_iff.mp (of_decide_eq_true h)) hhash

theorem scan_inside_bare (h : ∀ c ∈ text, wordChar c = true) (cs : List Char) :
    scan .inside (text ++ cs) = (scan .inside cs).map ((text.map (.text · false)) ++ ·) := by
  induction text with
  | nil => simp
  | cons c text ih =>
    obtain ⟨hc, htext⟩ := List.forall_mem_cons.mp h
    rw [List.cons_append, scan_cons (step_inside_wordChar hc), ih htext, Option.map_map]
    rfl

theorem scan_single (h : ∀ c ∈ text, c ≠ apostrophe) (cs : List Char) :
    scan .single (text ++ apostrophe :: cs) =
      (scan .inside cs).map ((text.map (.text · true)) ++ ·) := by
  induction text with
  | nil =>
    rw [List.nil_append, scan_cons (show step .single apostrophe = some (.inside, []) from rfl)]
    rfl
  | cons c text ih =>
    obtain ⟨hc, htext⟩ := List.forall_mem_cons.mp h
    have hstep : step .single c = some (.single, [.text c true]) := if_neg hc
    rw [List.cons_append, scan_cons hstep, ih htext, Option.map_map]
    rfl

theorem step_double_escape (h : classOf c = .escape) :
    step .double c = some (.escapeDouble, []) := by
  rw [step_double, h]

theorem step_double_of_not_escapable (h : escapable c = false) :
    step .double c = some (.double, [.text c true]) := by
  have hclass := mt escapable_iff.mpr (Bool.eq_false_iff.mp h)
  rw [step_double]
  cases hc : classOf c <;> simp [hc] at hclass ⊢

/-- Between double quotes a backslash stands for itself before most characters; the one after
it is read as usual. -/
theorem scan_escapeDouble {d : Char} (hline : d ≠ '\n') (h : escapable d = false) (cs : List Char) :
    scan .escapeDouble (d :: cs) = (scan .double (d :: cs)).map (.text '\\' true :: ·) := by
  have hescape : step .escapeDouble d = some (.double, [.text '\\' true, .text d true]) := by
    rw [step_escapeDouble, if_neg hline, h]
    rfl
  rw [scan_cons (step_double_of_not_escapable h), scan_cons hescape, Option.map_map]
  rfl

theorem doubleSafe_cons_iff : doubleSafe (c :: text) = true ↔
    doubleSafe text = true ∧ (escapable c = true → classOf c = .escape ∧
      ∃ d cs, text = d :: cs ∧ d ≠ '\n' ∧ escapable d = false) := by
  rw [escapable_iff, doubleSafe.eq_def]
  cases hc : classOf c <;> cases text <;> simp [hc, and_comm]

theorem escapable_eq_false_iff :
    escapable c = false ↔ (c ≠ '"' ∧ c ≠ '$' ∧ c ≠ grave) ∧ c ≠ '\\' := by
  simp [escapable]
  tauto

theorem doubleSafe_iff : doubleSafe text = true ↔
    (∀ c ∈ text, c ≠ '"' ∧ c ≠ '$' ∧ c ≠ grave) ∧
      ∀ before after, text = before ++ '\\' :: after →
        ∃ d cs, after = d :: cs ∧ d ≠ '\n' ∧ d ≠ '\\' := by
  induction text with
  | nil => simp [doubleSafe]
  | cons c text ih =>
    rw [doubleSafe_cons_iff, ih, List.forall_mem_cons]
    constructor
    · rintro ⟨⟨hunmarked, hbackslash⟩, hescape⟩
      have hc : c ≠ '"' ∧ c ≠ '$' ∧ c ≠ grave := by
        by_cases hescapable : escapable c = true
        · rw [classOf_eq_escape_iff.mp (hescape hescapable).1]
          decide
        · exact (escapable_eq_false_iff.mp (Bool.eq_false_iff.mpr hescapable)).1
      refine ⟨⟨hc, hunmarked⟩, fun before after htext => ?_⟩
      cases before with
      | nil =>
        obtain ⟨rfl, rfl⟩ := List.cons.inj htext
        obtain ⟨-, d, cs, rfl, hline, hd⟩ := hescape (by decide)
        exact ⟨d, cs, rfl, hline, (escapable_eq_false_iff.mp hd).2⟩
      | cons b before => exact hbackslash before after (List.cons.inj htext).2
    · rintro ⟨⟨hc, hunmarked⟩, hbackslash⟩
      refine ⟨⟨hunmarked, fun before after htext => ?_⟩, fun hescapable => ?_⟩
      · exact hbackslash (c :: before) after (congrArg (c :: ·) htext)
      · have hslash : c = '\\' := by
          by_contra hne
          rw [escapable_eq_false_iff.mpr ⟨hc, hne⟩] at hescapable
          cases hescapable
        obtain ⟨d, cs, rfl, hline, hd⟩ := hbackslash [] text (congrArg (· :: text) hslash)
        have hclear := hunmarked d List.mem_cons_self
        exact ⟨classOf_eq_escape_iff.mpr hslash, d, cs, rfl, hline,
          escapable_eq_false_iff.mpr ⟨hclear, hd⟩⟩

theorem scan_double (h : doubleSafe text = true) (cs : List Char) :
    scan .double (text ++ '"' :: cs) =
      (scan .inside cs).map ((text.map (.text · true)) ++ ·) := by
  induction text with
  | nil =>
    rw [List.nil_append, scan_cons (show step .double '"' = some (.inside, []) by decide)]
    rfl
  | cons c text ih =>
    obtain ⟨htext, hescape⟩ := doubleSafe_cons_iff.mp h
    by_cases hc : escapable c = true
    · obtain ⟨hclass, d, text, rfl, hline, hd⟩ := hescape hc
      rw [List.cons_append, scan_cons (step_double_escape hclass), List.cons_append,
        scan_escapeDouble hline hd, ← List.cons_append, ih htext, Option.map_map, Option.map_map,
        classOf_eq_escape_iff.mp hclass]
      rfl
    · rw [List.cons_append, scan_cons (step_double_of_not_escapable (Bool.eq_false_iff.mpr hc)),
        ih htext, Option.map_map]
      rfl

theorem scan_quoted (h : quotedSafe q text = true) (cs : List Char) :
    scan q.mode (text ++ q.char :: cs) = (scan .inside cs).map ((text.map (.text · true)) ++ ·) := by
  cases q with
  | single => exact scan_single (fun c hc => by simpa using List.all_eq_true.mp h c hc) cs
  | double => exact scan_double h cs

theorem step_quote (q : Quote) (inWord : Bool) :
    stepUnquoted inWord q.char = some (q.mode, [.quotes]) := by
  cases q <;> rfl

theorem scan_arg (h : a.Aligned q) (cs : List Char) :
    scan .outside (a.render q ++ cs) = (scan a.after cs).map (a.events ++ ·) := by
  cases a with
  | bare text =>
    cases text with
    | nil => simp [Arg.render, Arg.after, Arg.events]
    | cons c text =>
      obtain ⟨hc, htext⟩ := List.forall_mem_cons.mp h.1
      have hhash : c ≠ '#' := fun hc => h.2 (congrArg some hc)
      change scan .outside (c :: (text ++ cs)) = _
      rw [scan_cons (step_outside_wordChar hc hhash), scan_inside_bare htext, Option.map_map]
      rfl
  | quoted text =>
    have hstep : step .outside q.char = some (q.mode, [.quotes]) := step_quote q false
    change scan .outside (q.char :: (text ++ [q.char]) ++ cs) = _
    rw [List.cons_append, scan_cons hstep, List.append_assoc, List.singleton_append,
      scan_quoted h, Option.map_map]
    rfl

theorem scan_sep (sep : Sep) (hmode : mode = .inside ∨ mode = .outside) (cs : List Char) :
    scan mode (sep.render ++ cs) = (scan .outside cs).map (sep.events ++ ·) := by
  have hblank : step mode ' ' = some (.outside, [.blank]) := by
    rcases hmode with rfl | rfl <;> decide
  have hline : step mode '\n' = some (.outside, [.operator '\n']) := by
    rcases hmode with rfl | rfl <;> decide
  have houtside : step .outside ' ' = some (.outside, [.blank]) := by decide
  have hand : step .outside '&' = some (.outside, [.operator '&']) := by decide
  have hredirect : step .outside '>' = some (.outside, [.operator '>']) := by decide
  cases sep <;>
    simp [Sep.render, Sep.events, scan_cons hblank, scan_cons hline, scan_cons houtside,
      scan_cons hand, scan_cons hredirect, Function.comp_def]

theorem after_eq (a : Arg) : a.after = .inside ∨ a.after = .outside := by
  rcases a with (_ | ⟨c, text⟩) | text
  · exact Or.inr rfl
  · exact Or.inl rfl
  · exact Or.inl rfl

theorem scan_rest (hmode : mode = .inside ∨ mode = .outside) {rest : List (Sep × Arg)}
    (h : ∀ p ∈ rest, p.2.Aligned q) :
    scan mode (rest.flatMap fun p => p.1.render ++ p.2.render q) =
      some (rest.flatMap fun p => p.1.events ++ p.2.events) := by
  induction rest generalizing mode with
  | nil => rcases hmode with rfl | rfl <;> rfl
  | cons p rest ih =>
    obtain ⟨hp, hrest⟩ := List.forall_mem_cons.mp h
    rw [List.flatMap_cons, List.flatMap_cons, List.append_assoc, scan_sep p.1 hmode,
      scan_arg hp, ih (after_eq p.2) hrest]
    simp

theorem scan_render (h : ∀ a ∈ t.args, a.Aligned q) :
    scan .outside (t.render q) = some t.events := by
  obtain ⟨hfirst, hrest⟩ := List.forall_mem_cons.mp h
  rw [Template.render, scan_arg hfirst,
    scan_rest (after_eq t.first) (fun p hp => hrest _ (List.mem_map_of_mem hp))]
  rfl

/-- What is begun before a word of a template. -/
def Between (begun : Option (Token (List WordChar))) : Prop :=
  begun = none ∨ begun = some (.operator ['\n'])

/-- The second pass reads the events as the tokens, of which the last may be unfinished. -/
def Groups (begun : Option (Token (List WordChar))) (events : List Event)
    (begun' : Option (Token (List WordChar))) (tokens : List (Token (List WordChar))) : Prop :=
  ∃ complete, complete ++ begun'.toList = begun.toList ++ tokens ∧
    ∀ later, group begun (events ++ later) = complete ++ group begun' later

section
variable {begun begun' begun'' : Option (Token (List WordChar))} {events events' : List Event}
variable {tokens tokens' : List (Token (List WordChar))}

theorem Groups.refl : Groups begun [] begun [] := ⟨[], by simp, fun _ => rfl⟩

theorem Groups.trans (h : Groups begun events begun' tokens)
    (h' : Groups begun' events' begun'' tokens') :
    Groups begun (events ++ events') begun'' (tokens ++ tokens') := by
  obtain ⟨complete, heq, hgroup⟩ := h
  obtain ⟨complete', heq', hgroup'⟩ := h'
  refine ⟨complete ++ complete', ?_, fun later => ?_⟩
  · rw [List.append_assoc, heq', ← List.append_assoc, heq, List.append_assoc]
  · rw [List.append_assoc, hgroup, hgroup', List.append_assoc]

theorem Groups.group_eq (h : Groups begun events begun' tokens) :
    group begun events = begun.toList ++ tokens := by
  obtain ⟨complete, heq, hgroup⟩ := h
  rw [← List.append_nil events, hgroup, ← heq]
  rfl

end

theorem group_text_word (w : List WordChar) (quoted : Bool) (text : List Char)
    (later : List Event) :
    group (some (.word w)) (text.map (.text · quoted) ++ later) =
      group (some (.word (w ++ text.map (·, quoted)))) later := by
  induction text generalizing w with
  | nil => simp
  | cons c text ih =>
    rw [List.map_cons, List.cons_append, group, ih, List.append_assoc]
    rfl

theorem groups_arg (a : Arg) {begun : Option (Token (List WordChar))} (h : Between begun) :
    ∃ begun', (Between begun' ∨ ∃ w, begun' = some (.word w)) ∧
      Groups begun a.events begun' a.wordTokens := by
  rcases a with (_ | ⟨c, text⟩) | text
  · exact ⟨begun, Or.inl h, Groups.refl⟩
  · refine ⟨some (.word ((c :: text).map (·, false))), Or.inr ⟨_, rfl⟩, begun.toList, rfl,
      fun later => ?_⟩
    have hbegin : group begun (.text c false :: (text.map (.text · false) ++ later)) =
        begun.toList ++ group (some (.word [(c, false)])) (text.map (.text · false) ++ later) := by
      rcases h with rfl | rfl <;> rfl
    exact hbegin.trans (congrArg (begun.toList ++ ·) (group_text_word _ _ _ _))
  · refine ⟨some (.word (text.map (·, true))), Or.inr ⟨_, rfl⟩, begun.toList, rfl,
      fun later => ?_⟩
    have hbegin : group begun (.quotes :: (text.map (.text · true) ++ later)) =
        begun.toList ++ group (some (.word [])) (text.map (.text · true) ++ later) := by
      rcases h with rfl | rfl <;> rfl
    exact hbegin.trans (congrArg (begun.toList ++ ·) (group_text_word _ _ _ _))

theorem groups_sep (sep : Sep) {begun : Option (Token (List WordChar))}
    (h : Between begun ∨ ∃ w, begun = some (.word w)) :
    ∃ begun', Between begun' ∧ Groups begun sep.events begun' sep.tokens := by
  have hblank : ∀ later, group begun (.blank :: later) = begun.toList ++ group none later := by
    intro later
    rcases h with (rfl | rfl) | ⟨w, rfl⟩ <;> rfl
  cases sep with
  | blank => exact ⟨none, Or.inl rfl, begun.toList, by simp [Sep.tokens], hblank⟩
  | and =>
    refine ⟨none, Or.inl rfl, begun.toList ++ Sep.and.tokens, by simp, fun later => ?_⟩
    rw [List.append_assoc]
    exact hblank _
  | redirect =>
    refine ⟨none, Or.inl rfl, begun.toList ++ Sep.redirect.tokens, by simp, fun later => ?_⟩
    rw [List.append_assoc]
    exact hblank _
  | newline =>
    refine ⟨some (.operator ['\n']), Or.inr rfl, begun.toList, rfl, fun later => ?_⟩
    rcases h with (rfl | rfl) | ⟨w, rfl⟩ <;> rfl

theorem groups_rest {begun : Option (Token (List WordChar))}
    (h : Between begun ∨ ∃ w, begun = some (.word w)) (rest : List (Sep × Arg)) :
    ∃ begun', Groups begun (rest.flatMap fun p => p.1.events ++ p.2.events) begun'
      (rest.flatMap fun p => p.1.tokens ++ p.2.wordTokens) := by
  induction rest generalizing begun with
  | nil => exact ⟨begun, Groups.refl⟩
  | cons p rest ih =>
    obtain ⟨between, hbetween, hsep⟩ := groups_sep p.1 h
    obtain ⟨word, hword, harg⟩ := groups_arg p.2 hbetween
    obtain ⟨begun', hrest⟩ := ih hword
    exact ⟨begun', (hsep.trans harg).trans hrest⟩

theorem group_events (t : Template) : group none t.events = t.wordTokens := by
  obtain ⟨word, hword, hfirst⟩ := groups_arg t.first (Or.inl rfl)
  obtain ⟨begun', hrest⟩ := groups_rest hword t.rest
  exact (hfirst.trans hrest).group_eq

theorem hasBracket_quoted (text : List Char) : hasBracket (text.map (·, true)) = false := by
  induction text with
  | nil => rfl
  | cons c text ih => simp [hasBracket, ih]

theorem literal?_quoted (text : List Char) : literal? (text.map (·, true)) = some text := by
  unfold literal?
  rw [hasBracket_quoted]
  cases text <;> simp [Function.comp_def]

theorem literal?_eq_some_iff {w : List WordChar} {text : List Char} :
    literal? w = some text ↔ (literal? w).isSome = true ∧ w.map Prod.fst = text := by
  unfold literal?
  split_ifs <;> simp

theorem map_fixed?_tokens (sep : Sep) : sep.tokens.map fixed? = sep.tokens.map some := by
  cases sep <;> decide

theorem safe_iff : a.Safe q ↔
    a.Aligned q ∧ a.wordTokens.map fixed? = [some (.word a.text)] := by
  rcases a with (_ | ⟨c, text⟩) | text
  · simp [Arg.Safe, bareSafe, Arg.wordTokens]
  · have hword : fixed? (.word ((c :: text).map (·, false))) = some (.word (c :: text)) ↔
        (literal? ((c :: text).map (·, false))).isSome = true := by
      rw [fixed?, Option.map_eq_some_iff]
      simp only [literal?_eq_some_iff, Token.word.injEq, exists_eq_right, List.map_map,
        Function.comp_def, List.map_id', and_true]
    change bareSafe (c :: text) = true ↔ ((∀ d ∈ c :: text, wordChar d = true) ∧
      (c :: text).head? ≠ some '#') ∧ [fixed? (.word ((c :: text).map (·, false)))] = _
    rw [List.cons.injEq, and_iff_left rfl]
    change _ ↔ _ ∧ fixed? (.word ((c :: text).map (·, false))) = some (.word (c :: text))
    rw [hword]
    simp [bareSafe, and_assoc]
  · simp [Arg.Safe, Arg.Aligned, Arg.wordTokens, fixed?, literal?_quoted, Arg.text]

theorem map_fixed?_wordTokens (h : ∀ a ∈ t.args, a.Safe q) :
    t.wordTokens.map fixed? = t.tokens.map some := by
  obtain ⟨hfirst, hrest⟩ := List.forall_mem_cons.mp h
  unfold Template.wordTokens Template.tokens
  rw [List.map_append, (safe_iff.mp hfirst).2, List.map_cons, List.singleton_append,
    List.map_flatMap, List.map_flatMap]
  refine congrArg _ (List.flatMap_congr fun p hp => ?_)
  rw [List.map_append, List.map_append, map_fixed?_tokens,
    (safe_iff.mp (hrest _ (List.mem_map_of_mem hp))).2]
  rfl

theorem read_of_safe (h : ∀ a ∈ t.args, a.Safe q) : read (t.render q) = some t.tokens := by
  refine read_eq_some_iff.mpr ⟨t.events, scan_render fun a ha => (safe_iff.mp (h a ha)).1, ?_⟩
  rw [group_events]
  exact map_fixed?_wordTokens h

theorem not_escapable_of_wordChar (h : wordChar c = true) : escapable c = false := by
  refine Bool.eq_false_iff.mpr fun hescapable => ?_
  unfold wordChar at h
  rcases escapable_iff.mp hescapable with hc | hc | hc <;> simp [hc] at h

theorem doubleSafe_of_wordChar (h : ∀ c ∈ text, wordChar c = true) : doubleSafe text = true := by
  induction text with
  | nil => rfl
  | cons c text ih =>
    obtain ⟨hc, htext⟩ := List.forall_mem_cons.mp h
    refine doubleSafe_cons_iff.mpr ⟨ih htext, fun hescapable => ?_⟩
    rw [not_escapable_of_wordChar hc] at hescapable
    cases hescapable

def steady (c : Char) : Bool := wordChar c && c ∉ ['*', '?', '[', ']']

/-- The reasons for which a word stands for something else. -/
structure Unexpanded (w : List WordChar) : Prop where
  home : w.head? ≠ some ('~', false)
  star : ('*', false) ∉ w
  question : ('?', false) ∉ w
  bracket : hasBracket w = false

theorem literal?_isSome_iff {w : List WordChar} :
    (literal? w).isSome = true ↔ Unexpanded w := by
  unfold literal?
  split_ifs with h
  · simp only [Bool.or_eq_true, decide_eq_true_eq, List.contains_iff_mem] at h
    refine ⟨nofun, fun hw => ?_⟩
    obtain ((h | h) | h) | h := h
    · exact absurd h hw.home
    · exact absurd h hw.star
    · exact absurd h hw.question
    · exact absurd (hw.bracket ▸ h) Bool.false_ne_true
  · simp only [Bool.or_eq_true, decide_eq_true_eq, List.contains_iff_mem, not_or,
      Bool.not_eq_true] at h
    exact ⟨fun _ => ⟨h.1.1.1, h.1.1.2, h.1.2, h.2⟩, fun _ => rfl⟩

theorem hasBracket_append_left {u v : List WordChar} (h : ∀ p ∈ u, p.1 ≠ '[') :
    hasBracket (u ++ v) = hasBracket v := by
  induction u with
  | nil => rfl
  | cons p u ih =>
    obtain ⟨c, quoted⟩ := p
    obtain ⟨hc, hu⟩ := List.forall_mem_cons.mp h
    rw [List.cons_append, hasBracket, ih hu, decide_eq_false hc]
    simp

theorem hasBracket_append_right {u v : List WordChar} (h : ∀ p ∈ v, p.1 ≠ '[' ∧ p.1 ≠ ']') :
    hasBracket (u ++ v) = hasBracket u := by
  induction u with
  | nil =>
    rw [List.nil_append, ← List.append_nil v, hasBracket_append_left fun p hp => (h p hp).1]
  | cons p u ih =>
    obtain ⟨c, quoted⟩ := p
    have hany : v.any (·.1 = ']') = false :=
      List.any_eq_false.mpr fun p hp => by simpa using (h p hp).2
    rw [List.cons_append, hasBracket, ih, List.any_append, hany, Bool.or_false]
    rfl

theorem bareSafe_iff : bareSafe text = true ↔ text ≠ [] ∧ (∀ c ∈ text, wordChar c = true) ∧
    text.head? ≠ some '#' ∧ Unexpanded (text.map (·, false)) := by
  unfold bareSafe
  simp only [Bool.and_eq_true, decide_eq_true_eq, List.all_eq_true, literal?_isSome_iff, and_assoc]

theorem steady_of_isAlphanum (h : c.isAlphanum = true) : steady c = true := by
  have hne : ∀ d : Char, d.isAlphanum = false → c ≠ d := by
    rintro d hd rfl
    rw [h] at hd
    cases hd
  have hspecial : ['\\', apostrophe, '"', '$', grave, ' ', '\t', '\n', '|', '&', ';', '<', '>', '(',
      ')', '#', '*', '?', '[', ']'].all (fun d => d.isAlphanum = false) = true := by
    decide +kernel
  have hne := fun d hd => hne d (of_decide_eq_true (List.all_eq_true.mp hspecial d hd))
  simp only [List.forall_mem_cons, List.not_mem_nil, false_implies, implies_true, and_true] at hne
  unfold steady wordChar classOf operatorChars
  simp [hne]

theorem bareSafe_of_steady (hne : text ≠ []) (h : ∀ c ∈ text, steady c = true)
    (hhash : text.head? ≠ some '#') (hhome : text.head? ≠ some '~') : bareSafe text = true := by
  have hspec : ∀ c ∈ text, wordChar c = true ∧ c ≠ '*' ∧ c ≠ '?' ∧ c ≠ '[' ∧ c ≠ ']' := by
    intro c hc
    simpa [steady] using h c hc
  refine bareSafe_iff.mpr ⟨hne, fun c hc => (hspec c hc).1, hhash, ?_, ?_, ?_, ?_⟩
  · rw [List.head?_map]
    simpa using hhome
  · simpa using fun hmem => (hspec _ hmem).2.1 rfl
  · simpa using fun hmem => (hspec _ hmem).2.2.1 rfl
  · rw [← List.append_nil (text.map (·, false)), hasBracket_append_left]
    · rfl
    · simp only [List.mem_map, forall_exists_index, and_imp, forall_apply_eq_imp_iff₂]
      exact fun c hc => (hspec c hc).2.2.2.1

theorem bareSafe_path {before after : List Char} (hfirst : before.head? = some '/')
    (hbefore : before.all steady = true) (hafter : after.all steady = true)
    (h : bareSafe text = true) : bareSafe (before ++ text ++ after) = true := by
  have hbefore := List.all_eq_true.mp hbefore
  have hafter := List.all_eq_true.mp hafter
  obtain ⟨-, hword, -, hliteral⟩ := bareSafe_iff.mp h
  have hspec : ∀ {c}, steady c = true → wordChar c = true ∧ c ≠ '*' ∧ c ≠ '?' ∧ c ≠ '[' ∧ c ≠ ']' := by
    intro c hc
    simpa [steady] using hc
  have hhead : (before ++ text ++ after).head? = some '/' := by
    cases before with
    | nil => cases hfirst
    | cons c before => exact hfirst
  refine bareSafe_iff.mpr ⟨?_, ?_, ?_, ?_, ?_, ?_, ?_⟩
  · intro hnil
    rw [hnil] at hhead
    cases hhead
  · simp only [List.mem_append]
    rintro c ((hc | hc) | hc)
    exacts [(hspec (hbefore c hc)).1, hword c hc, (hspec (hafter c hc)).1]
  · rw [hhead]
    decide
  · rw [List.head?_map, hhead]
    decide
  · have hstar := hliteral.star
    simp only [List.mem_map, Prod.mk.injEq, and_true, exists_eq_right, List.mem_append] at hstar ⊢
    rintro ((hc | hc) | hc)
    exacts [(hspec (hbefore _ hc)).2.1 rfl, hstar hc, (hspec (hafter _ hc)).2.1 rfl]
  · have hquestion := hliteral.question
    simp only [List.mem_map, Prod.mk.injEq, and_true, exists_eq_right, List.mem_append]
      at hquestion ⊢
    rintro ((hc | hc) | hc)
    exacts [(hspec (hbefore _ hc)).2.2.1 rfl, hquestion hc, (hspec (hafter _ hc)).2.2.1 rfl]
  · rw [List.map_append, List.map_append, hasBracket_append_right, hasBracket_append_left,
      hliteral.bracket]
    · simp only [List.mem_map, forall_exists_index, and_imp, forall_apply_eq_imp_iff₂]
      exact fun c hc => (hspec (hbefore c hc)).2.2.2.1
    · simp only [List.mem_map, forall_exists_index, and_imp, forall_apply_eq_imp_iff₂]
      exact fun c hc => (hspec (hafter c hc)).2.2.2

end Shell

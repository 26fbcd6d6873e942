import Idea.Data.ShellTemplate

/-! # Unsafe texts are not read as they are meant

A text that changes the quoting cannot be made up for by another one: the marks that it adds are
dropped and so are missing from the words. If the words are those that are meant, nothing but the
marks of the template is dropped, and so each text is safe where it stands.
-/

namespace Shell

variable {q : Quote} {text cs : List Char} {c : Char} {mode mode' : Mode} {a : Arg} {t : Template}
variable {events events' : List Event}

def Event.chars : Event → List Char
  | .text c _ => [c]
  | _ => []

def texts (events : List Event) : List Char := events.flatMap Event.chars

@[simp] theorem texts_nil : texts [] = [] := rfl

@[simp] theorem texts_cons (event : Event) (events : List Event) :
    texts (event :: events) = event.chars ++ texts events := rfl

@[simp] theorem texts_append (events events' : List Event) :
    texts (events ++ events') = texts events ++ texts events' := List.flatMap_append

theorem texts_map (text : List Char) (quoted : Bool) :
    texts (text.map (.text · quoted)) = text := by
  induction text with
  | nil => rfl
  | cons c text ih => rw [List.map_cons, texts_cons, ih]; rfl

def foreign (q : Quote) (c : Char) : Bool := c ≠ q.char && c ∉ [' ', '\n', '&', '>']

def weight (q : Quote) (cs : List Char) : ℕ := cs.countP (foreign q)

@[simp] theorem weight_nil : weight q [] = 0 := rfl

@[simp] theorem weight_append (cs cs' : List Char) :
    weight q (cs ++ cs') = weight q cs + weight q cs' := List.countP_append

theorem weight_cons (c : Char) (cs : List Char) :
    weight q (c :: cs) = weight q [c] + weight q cs := weight_append [c] cs

def pending : Mode → ℕ
  | .escapeDouble => 1
  | _ => 0

theorem weight_backslash (q : Quote) : weight q ['\\'] = 1 := by
  cases q <;> decide

theorem weight_hash (q : Quote) : weight q ['#'] = 1 := by
  cases q <;> decide

theorem weight_quote (q : Quote) : weight q [q.char] = 0 := by
  cases q <;> decide

theorem stepUnquoted_weight {inWord : Bool} (h : stepUnquoted inWord c = some (mode', events)) :
    weight q (texts events) + pending mode' ≤ weight q [c] := by
  unfold stepUnquoted at h
  cases hc : classOf c <;> rw [hc] at h <;> try cases inWord
  all_goals simp only [Option.some.injEq, Prod.mk.injEq, reduceCtorEq, Bool.false_eq_true,
    if_true, if_false] at h
  all_goals obtain ⟨rfl, rfl⟩ := h
  all_goals simp [pending, Event.chars]

theorem step_weight (h : step mode c = some (mode', events)) :
    weight q (texts events) + pending mode' ≤ weight q [c] + pending mode := by
  cases mode with
  | outside => exact stepUnquoted_weight h
  | inside => exact stepUnquoted_weight h
  | single =>
    change (if c = apostrophe then _ else _) = _ at h
    split_ifs at h <;> cases h <;> simp [pending, Event.chars]
  | double =>
    rw [step_double] at h
    cases hc : classOf c <;> rw [hc] at h <;> cases h
    · rw [classOf_eq_escape_iff.mp hc, weight_backslash]
      exact Nat.le_refl _
    all_goals simp [pending, Event.chars]
  | escape inWord =>
    change (if c = '\n' then _ else _) = _ at h
    split_ifs at h <;> cases h <;> simp [pending, Event.chars]
  | escapeDouble =>
    rw [step_escapeDouble] at h
    split_ifs at h <;> cases h
    · simp [pending]
    · simp [pending, Event.chars]
    · simp [pending, Event.chars, weight_cons '\\' [c], weight_backslash, Nat.add_comm]
  | comment =>
    change (if c = '\n' then _ else _) = _ at h
    split_ifs at h <;> cases h <;> simp [pending, Event.chars]

theorem scan_weight : ∀ {cs : List Char} {mode : Mode} {events : List Event},
    scan mode cs = some events → weight q (texts events) ≤ weight q cs + pending mode
  | [], mode, events, h => by
    cases mode <;> cases h <;> exact Nat.zero_le _
  | c :: cs, mode, events, h => by
    obtain ⟨mode', events', rest, hstep, hrest, rfl⟩ := scan_cons_cases h
    have hstep := step_weight (q := q) hstep
    have hrest := scan_weight hrest
    rw [texts_append, weight_append, weight_cons]
    omega

/-- Of the characters that the template has none of, all are left. -/
def Tight (q : Quote) (mode : Mode) (cs : List Char) (events : List Event) : Prop :=
  weight q (texts events) = weight q cs + pending mode

theorem tight_cons_cases (h : scan mode (c :: cs) = some events)
    (htight : Tight q mode (c :: cs) events) :
    ∃ mode' es rest, step mode c = some (mode', es) ∧ scan mode' cs = some rest ∧
      events = es ++ rest ∧ weight q (texts es) + pending mode' = weight q [c] + pending mode ∧
      Tight q mode' cs rest := by
  obtain ⟨mode', es, rest, hstep, hrest, rfl⟩ := scan_cons_cases h
  have hle := step_weight (q := q) hstep
  have hle' := scan_weight (q := q) hrest
  unfold Tight at htight ⊢
  rw [texts_append, weight_append, weight_cons] at htight
  exact ⟨mode', es, rest, hstep, hrest, rfl, by omega, by omega⟩

/-- Where a reader is as long as only the quotation marks of the template are used. -/
def OfTemplate (q : Quote) : Mode → Prop
  | .outside | .inside => True
  | .single => q = .single
  | .double | .escapeDouble => q = .double
  | _ => False

theorem classOf_char (q : Quote) : classOf q.char = .single ∨ classOf q.char = .double := by
  cases q
  · exact Or.inl (by decide)
  · exact Or.inr (by decide)

theorem stepUnquoted_tight {inWord : Bool} (h : stepUnquoted inWord c = some (mode', events))
    (htight : weight q (texts events) + pending mode' = weight q [c]) :
    (c = q.char ∧ mode' = q.mode ∧ events = [.quotes]) ∨
    (wordChar c = true ∧ (inWord = false → c ≠ '#') ∧ mode' = .inside ∧
      events = [.text c false]) ∨
    (mode' = .outside ∧ texts events = []) := by
  unfold stepUnquoted at h
  cases hc : classOf c with
  | escape =>
    rw [hc] at h
    cases h
    rw [classOf_eq_escape_iff.mp hc, weight_backslash] at htight
    exact absurd htight (by simp [pending])
  | single =>
    rw [hc] at h
    cases h
    obtain rfl := classOf_eq_single_iff.mp hc
    cases q with
    | single => exact Or.inl ⟨rfl, rfl, rfl⟩
    | double => exact absurd htight (by decide)
  | double =>
    rw [hc] at h
    cases h
    obtain rfl := classOf_eq_double_iff.mp hc
    cases q with
    | single => exact absurd htight (by decide)
    | double => exact Or.inl ⟨rfl, rfl, rfl⟩
  | expansion => rw [hc] at h; cases h
  | blank => rw [hc] at h; cases h; exact Or.inr (Or.inr ⟨rfl, rfl⟩)
  | operator => rw [hc] at h; cases h; exact Or.inr (Or.inr ⟨rfl, rfl⟩)
  | hash =>
    rw [hc] at h
    cases inWord with
    | true => cases h; exact Or.inr (Or.inl ⟨by simp [wordChar, hc], by simp, rfl, rfl⟩)
    | false =>
      cases h
      rw [classOf_eq_hash_iff.mp hc, weight_hash] at htight
      exact absurd htight (by simp [pending])
  | plain =>
    rw [hc] at h
    cases h
    refine Or.inr (Or.inl ⟨by simp [wordChar, hc], fun _ hhash => ?_, rfl, rfl⟩)
    rw [classOf_eq_hash_iff.mpr hhash] at hc
    cases hc

theorem not_mem_texts_of_unquoted {inWord : Bool}
    (h : stepUnquoted inWord c = some (mode', events))
    (htight : weight q (texts events) + pending mode' = weight q [c]) :
    OfTemplate q mode' ∧ q.char ∉ texts events := by
  obtain ⟨rfl, rfl, rfl⟩ | ⟨hc, -, rfl, rfl⟩ | ⟨rfl, htexts⟩ := stepUnquoted_tight h htight
  · cases q <;> exact ⟨rfl, by simp [Event.chars]⟩
  · refine ⟨trivial, fun hmem => ?_⟩
    obtain rfl : q.char = c := by simpa [Event.chars] using hmem
    rcases classOf_char q with hq | hq <;> simp [wordChar, hq] at hc
  · exact ⟨trivial, by simp [htexts]⟩

theorem step_tight (h : step mode c = some (mode', events)) (hmode : OfTemplate q mode)
    (htight : weight q (texts events) + pending mode' = weight q [c] + pending mode) :
    OfTemplate q mode' ∧ q.char ∉ texts events := by
  cases mode with
  | outside => exact not_mem_texts_of_unquoted h htight
  | inside => exact not_mem_texts_of_unquoted h htight
  | single =>
    obtain rfl : q = .single := hmode
    change (if c = apostrophe then _ else _) = _ at h
    split_ifs at h with hc <;> cases h
    · exact ⟨trivial, by simp⟩
    · exact ⟨rfl, by simpa [Event.chars, Quote.char] using Ne.symm hc⟩
  | double =>
    obtain rfl : q = .double := hmode
    rw [step_double] at h
    cases hc : classOf c <;> rw [hc] at h <;> cases h
    · exact ⟨rfl, by simp⟩
    all_goals try exact ⟨trivial, by simp⟩
    all_goals
      refine ⟨rfl, fun hmem => ?_⟩
      obtain rfl : '"' = c := by simpa [Event.chars, Quote.char] using hmem
      cases hc
  | escapeDouble =>
    obtain rfl : q = .double := hmode
    rw [step_escapeDouble] at h
    split_ifs at h with hline hescapable <;> cases h
    · obtain rfl := hline
      exact absurd htight (by decide)
    · exact absurd htight (by simp [pending, Event.chars])
    · refine ⟨rfl, fun hmem => hescapable ?_⟩
      obtain rfl : '"' = c := by simpa [Event.chars, Quote.char] using hmem
      rfl
  | escape => exact absurd hmode id
  | comment => exact absurd hmode id

theorem not_mem_texts : ∀ {cs : List Char} {mode : Mode} {events : List Event},
    scan mode cs = some events → OfTemplate q mode → Tight q mode cs events →
      q.char ∉ texts events
  | [], mode, events, h, _, _ => by
    cases mode <;> cases h <;> simp
  | c :: cs, mode, events, h, hmode, htight => by
    obtain ⟨mode', es, rest, hstep, hrest, rfl, htightStep, htightRest⟩ :=
      tight_cons_cases h htight
    obtain ⟨hmode', hnot⟩ := step_tight hstep hmode htightStep
    rw [texts_append, List.mem_append, not_or]
    exact ⟨hnot, not_mem_texts hrest hmode' htightRest⟩

theorem escapeDouble_tight (h : scan .escapeDouble (c :: cs) = some events)
    (htight : Tight .double .escapeDouble (c :: cs) events) :
    c ≠ '\n' ∧ escapable c = false ∧
      ∃ rest, scan .double (c :: cs) = some rest ∧ Tight .double .double (c :: cs) rest := by
  obtain ⟨mode', es, -, hstep, -, -, htightStep, -⟩ := tight_cons_cases h htight
  rw [step_escapeDouble] at hstep
  split_ifs at hstep with hline hescapable <;> cases hstep
  · obtain rfl := hline
    exact absurd htightStep (by decide)
  · exact absurd htightStep (by simp [pending, Event.chars])
  · have hescapable := Bool.eq_false_iff.mpr hescapable
    rw [scan_escapeDouble hline hescapable] at h
    obtain ⟨rest, hrest, rfl⟩ := Option.map_eq_some_iff.mp h
    refine ⟨hline, hescapable, rest, hrest, ?_⟩
    unfold Tight at htight ⊢
    rw [texts_cons, weight_append] at htight
    change weight .double ['\\'] + _ = _ + 1 at htight
    rw [weight_backslash] at htight
    change _ = _ + 0
    omega

theorem doubleSafe_of_tight (h : scan .double (text ++ '"' :: cs) = some events)
    (htight : Tight .double .double (text ++ '"' :: cs) events) (hmem : '"' ∉ text) :
    doubleSafe text = true := by
  induction text generalizing events with
  | nil => rfl
  | cons c text ih =>
    obtain ⟨hc, hmem⟩ := not_or.mp (mt List.mem_cons.mpr hmem)
    rw [List.cons_append] at h htight
    obtain ⟨mode', es, rest, hstep, hrest, rfl, htightStep, htightRest⟩ :=
      tight_cons_cases h htight
    rw [doubleSafe_cons_iff]
    by_cases hescapable : escapable c = true
    · -- an expansion has no outcome, and the quotation does not end here
      have hclass : classOf c = .escape := by
        rcases escapable_iff.mp hescapable with hclass | hclass | hclass
        · rw [step_double, hclass] at hstep
          cases hstep
        · exact absurd (classOf_eq_double_iff.mp hclass).symm hc
        · exact hclass
      rw [step_double_escape hclass] at hstep
      cases hstep
      cases text with
      | nil => exact absurd (escapeDouble_tight hrest htightRest).2.1 (by decide)
      | cons d text =>
        obtain ⟨hline, hd, later, hlater, htightLater⟩ := escapeDouble_tight hrest htightRest
        exact ⟨ih hlater htightLater hmem, fun _ => ⟨hclass, d, text, rfl, hline, hd⟩⟩
    · rw [step_double_of_not_escapable (Bool.eq_false_iff.mpr hescapable)] at hstep
      cases hstep
      exact ⟨ih hrest htightRest hmem, fun h => absurd h hescapable⟩

/-- A reader that is not in a quotation. -/
def Unquoted (mode : Mode) : Prop := mode = .inside ∨ mode = .outside

theorem quoted_of_tight (h : scan q.mode (text ++ q.char :: cs) = some events)
    (htight : Tight q q.mode (text ++ q.char :: cs) events) (hmem : q.char ∉ text) :
    quotedSafe q text = true ∧ ∃ rest, scan .inside cs = some rest ∧
      Tight q .inside cs rest ∧ texts events = text ++ texts rest := by
  have hsafe : quotedSafe q text = true := by
    cases q with
    | single =>
      refine List.all_eq_true.mpr fun c hc => decide_eq_true ?_
      rintro rfl
      exact hmem hc
    | double => exact doubleSafe_of_tight h htight hmem
  rw [scan_quoted hsafe] at h
  obtain ⟨rest, hrest, rfl⟩ := Option.map_eq_some_iff.mp h
  refine ⟨hsafe, rest, hrest, ?_, by rw [texts_append, texts_map]⟩
  have hpending : pending q.mode = 0 := by cases q <;> rfl
  unfold Tight at htight ⊢
  rw [texts_append, texts_map, weight_append, weight_append, weight_cons, weight_quote,
    hpending] at htight
  change _ = _ + 0
  omega

/-- A text that is not quoted leaves at most its characters, and all of them only if it is a part
of one word. -/
theorem bare_of_tight (hmode : Unquoted mode) (h : scan mode (text ++ cs) = some events)
    (htight : Tight q mode (text ++ cs) events) (hmem : q.char ∉ text) :
    ∃ mode' rest left, Unquoted mode' ∧ scan mode' cs = some rest ∧ Tight q mode' cs rest ∧
      texts events = left ++ texts rest ∧ left.length ≤ text.length ∧
      (left.length = text.length → (∀ c ∈ text, wordChar c = true) ∧
        (mode = .outside → text.head? ≠ some '#')) := by
  induction text generalizing mode events with
  | nil => exact ⟨mode, events, [], hmode, h, htight, rfl, Nat.le_refl _, fun _ => by simp⟩
  | cons c text ih =>
    obtain ⟨hc, hmem⟩ := not_or.mp (mt List.mem_cons.mpr hmem)
    rw [List.cons_append] at h htight
    obtain ⟨mode₁, es, rest₁, hstep, hrest₁, rfl, htightStep, htightRest⟩ :=
      tight_cons_cases h htight
    obtain ⟨inWord, hunquoted, hinWord, hpending⟩ : ∃ inWord,
        stepUnquoted inWord c = some (mode₁, es) ∧ (mode = .outside → inWord = false) ∧
        pending mode = 0 := by
      rcases hmode with rfl | rfl
      · exact ⟨true, hstep, by simp, rfl⟩
      · exact ⟨false, hstep, by simp, rfl⟩
    rw [hpending] at htightStep
    obtain ⟨heq, -, -⟩ | ⟨hword, hhash, rfl, rfl⟩ | ⟨rfl, htexts⟩ :=
      stepUnquoted_tight hunquoted htightStep
    · exact absurd heq.symm hc
    · obtain ⟨mode', rest, left, hmode', hrest, htight', hleft, hle, heq⟩ :=
        ih (Or.inl rfl) hrest₁ htightRest hmem
      refine ⟨mode', rest, c :: left, hmode', hrest, htight', ?_, by simpa using hle, ?_⟩
      · rw [texts_append, hleft]
        rfl
      · intro hlength
        refine ⟨List.forall_mem_cons.mpr ⟨hword, (heq (by simpa using hlength)).1⟩, ?_⟩
        intro hout hhead
        exact hhash (hinWord hout) (by simpa using hhead)
    · obtain ⟨mode', rest, left, hmode', hrest, htight', hleft, hle, -⟩ :=
        ih (Or.inr rfl) hrest₁ htightRest hmem
      refine ⟨mode', rest, left, hmode', hrest, htight', ?_, by simp only [List.length_cons]; omega,
        fun hlength => ?_⟩
      · rw [texts_append, htexts, hleft]
        rfl
      · simp only [List.length_cons] at hlength
        omega

theorem arg_of_tight (h : scan .outside (a.render q ++ cs) = some events)
    (htight : Tight q .outside (a.render q ++ cs) events) (hmem : q.char ∉ a.text) :
    ∃ mode' rest left, Unquoted mode' ∧ scan mode' cs = some rest ∧ Tight q mode' cs rest ∧
      texts events = left ++ texts rest ∧ left.length ≤ a.text.length ∧
      (left.length = a.text.length → a.Aligned q) := by
  cases a with
  | bare text =>
    obtain ⟨mode', rest, left, hmode', hrest, htight', hleft, hle, heq⟩ :=
      bare_of_tight (Or.inr rfl) h htight hmem
    exact ⟨mode', rest, left, hmode', hrest, htight', hleft, hle,
      fun hlength => ⟨(heq hlength).1, (heq hlength).2 rfl⟩⟩
  | quoted text =>
    have hrender : (Arg.quoted text).render q ++ cs = q.char :: (text ++ q.char :: cs) := by
      simp [Arg.render]
    have hquote : step .outside q.char = some (q.mode, [.quotes]) := step_quote q false
    rw [hrender] at h htight
    obtain ⟨mode₁, es, rest₁, hstep, hrest₁, rfl, -, htight₁⟩ := tight_cons_cases h htight
    rw [hquote] at hstep
    cases hstep
    obtain ⟨hsafe, rest, hrest, htight', htexts⟩ := quoted_of_tight hrest₁ htight₁ hmem
    refine ⟨.inside, rest, text, Or.inl rfl, hrest, htight', ?_, Nat.le_refl _, fun _ => hsafe⟩
    rw [texts_append, htexts]
    rfl

theorem rest_of_tight (hmode : Unquoted mode) {rest : List (Sep × Arg)}
    (h : scan mode (rest.flatMap fun p => p.1.render ++ p.2.render q) = some events)
    (htight : Tight q mode (rest.flatMap fun p => p.1.render ++ p.2.render q) events)
    (hmem : ∀ p ∈ rest, q.char ∉ p.2.text) :
    (texts events).length ≤ (rest.flatMap fun p => p.2.text).length ∧
      ((texts events).length = (rest.flatMap fun p => p.2.text).length →
        ∀ p ∈ rest, p.2.Aligned q) := by
  induction rest generalizing mode events with
  | nil =>
    rcases hmode with rfl | rfl <;> cases h <;> simp
  | cons p rest ih =>
    obtain ⟨hp, hmem⟩ := List.forall_mem_cons.mp hmem
    rw [List.flatMap_cons, List.append_assoc] at h htight
    rw [scan_sep p.1 hmode] at h
    obtain ⟨events, hscan, rfl⟩ := Option.map_eq_some_iff.mp h
    have hsep : weight q p.1.render = 0 ∧ texts p.1.events = [] := by
      cases p.1 <;> cases q <;> decide
    have hpending : pending mode = 0 := by rcases hmode with rfl | rfl <;> rfl
    have htight : Tight q .outside (p.2.render q ++
        rest.flatMap fun p => p.1.render ++ p.2.render q) events := by
      unfold Tight at htight ⊢
      rw [texts_append, hsep.2, weight_append p.1.render, hsep.1, hpending] at htight
      simpa [pending] using htight
    obtain ⟨mode', es, left, hmode', hes, htight', htexts, hle, heq⟩ :=
      arg_of_tight hscan htight hp
    obtain ⟨hle', heq'⟩ := ih hmode' hes htight' hmem
    rw [texts_append, hsep.2, List.nil_append, htexts, List.flatMap_cons, List.length_append,
      List.length_append]
    exact ⟨by omega, fun hlength =>
      List.forall_mem_cons.mpr ⟨heq (by omega), heq' (by omega)⟩⟩

theorem weight_arg (a : Arg) : weight q (a.render q) = weight q a.text := by
  cases a with
  | bare text => rfl
  | quoted text =>
    change weight q (q.char :: (text ++ [q.char])) = weight q text
    rw [weight_cons, weight_append, weight_quote, Nat.zero_add, Nat.add_zero]

theorem weight_rest (rest : List (Sep × Arg)) :
    weight q (rest.flatMap fun p => p.1.render ++ p.2.render q) =
      weight q (rest.flatMap fun p => p.2.text) := by
  induction rest with
  | nil => rfl
  | cons p rest ih =>
    have hsep : weight q p.1.render = 0 := by cases p.1 <;> cases q <;> decide
    rw [List.flatMap_cons, List.flatMap_cons, weight_append, weight_append, weight_append, ih, hsep,
      weight_arg, Nat.zero_add]

theorem aligned_of_texts (h : scan .outside (t.render q) = some events)
    (htexts : texts events = t.args.flatMap Arg.text) : ∀ a ∈ t.args, a.Aligned q := by
  have hargs : t.args.flatMap Arg.text = t.first.text ++ t.rest.flatMap fun p => p.2.text := by
    rw [Template.args, List.flatMap_cons, List.flatMap_map]
  have hweight : weight q (t.render q) = weight q (t.args.flatMap Arg.text) := by
    rw [hargs, Template.render, weight_append, weight_append, weight_arg, weight_rest]
  have htight : Tight q .outside (t.render q) events := by
    unfold Tight
    rw [hweight, htexts]
    rfl
  have hmem : ∀ a ∈ t.args, q.char ∉ a.text := by
    intro a ha hq
    refine not_mem_texts h trivial htight ?_
    rw [htexts]
    exact List.mem_flatMap.mpr ⟨a, ha, hq⟩
  obtain ⟨hfirst, hrest⟩ := List.forall_mem_cons.mp hmem
  obtain ⟨mode', es, left, hmode', hes, htight', hleft, hle, heq⟩ := arg_of_tight h htight hfirst
  obtain ⟨hle', heq'⟩ := rest_of_tight hmode' hes htight'
    fun p hp => hrest _ (List.mem_map_of_mem hp)
  have hlength := congrArg List.length htexts
  rw [hleft, hargs, List.length_append, List.length_append] at hlength
  refine List.forall_mem_cons.mpr ⟨heq (by omega), fun a ha => ?_⟩
  obtain ⟨p, hp, rfl⟩ := List.mem_map.mp ha
  exact heq' (by omega) p hp

def Token.chars : Token (List Char) → List Char
  | .word w => w
  | .operator _ => []

def Token.wordChars : Token (List WordChar) → List Char
  | .word w => w.map Prod.fst
  | .operator _ => []

theorem group_chars (begun : Option (Token (List WordChar))) (events : List Event) :
    (group begun events).flatMap Token.wordChars =
      begun.toList.flatMap Token.wordChars ++ texts events := by
  induction events generalizing begun with
  | nil => simp [group]
  | cons event events ih =>
    cases event with
    | blank => simp [group, ih, Event.chars]
    | quotes => rcases begun with _ | (w | op) <;> simp [group, ih, Event.chars, Token.wordChars]
    | text c quoted =>
      rcases begun with _ | (w | op) <;> simp [group, ih, Event.chars, Token.wordChars]
    | operator c =>
      rcases begun with _ | (w | op)
      · simp [group, ih, Event.chars, Token.wordChars]
      · simp [group, ih, Event.chars, Token.wordChars]
      · rw [group]
        split_ifs <;> simp [ih, Event.chars, Token.wordChars]

theorem fixed?_chars {token : Token (List WordChar)} {token' : Token (List Char)}
    (h : fixed? token = some token') : token.wordChars = token'.chars := by
  cases token with
  | word w =>
    obtain ⟨text, htext, rfl⟩ := Option.map_eq_some_iff.mp h
    exact (literal?_eq_some_iff.mp htext).2
  | operator op =>
    rw [fixed?] at h
    split_ifs at h
    cases h
    rfl

theorem map_fixed?_chars {tokens : List (Token (List WordChar))} {tokens' : List (Token (List Char))}
    (h : tokens.map fixed? = tokens'.map some) :
    tokens.flatMap Token.wordChars = tokens'.flatMap Token.chars := by
  induction tokens generalizing tokens' with
  | nil => cases tokens' <;> cases h; rfl
  | cons token tokens ih =>
    cases tokens' with
    | nil => cases h
    | cons token' tokens' =>
      rw [List.map_cons, List.map_cons, List.cons.injEq] at h
      rw [List.flatMap_cons, List.flatMap_cons, fixed?_chars h.1, ih h.2]

theorem tokens_chars (t : Template) : t.tokens.flatMap Token.chars = t.args.flatMap Arg.text := by
  have hsep : ∀ sep : Sep, (sep.tokens.flatMap Token.chars : List Char) = [] := by
    intro sep
    cases sep <;> rfl
  rw [Template.tokens, Template.args, List.flatMap_cons, List.flatMap_cons, List.flatMap_map,
    List.flatMap_assoc]
  refine congrArg (t.first.text ++ ·) (List.flatMap_congr fun p _ => ?_)
  rw [List.flatMap_append, hsep]
  simp [Token.chars]

theorem length_wordTokens_le (a : Arg) : a.wordTokens.length ≤ 1 := by
  rcases a with (_ | ⟨c, text⟩) | text <;> simp [Arg.wordTokens]

theorem length_rest_le (rest : List (Sep × Arg)) :
    (rest.flatMap fun p => p.1.tokens ++ p.2.wordTokens).length ≤
      (rest.flatMap fun p => p.1.tokens ++ [Token.word p.2.text]).length := by
  induction rest with
  | nil => exact Nat.le_refl _
  | cons p rest ih =>
    have hword := length_wordTokens_le p.2
    have hsep : (p.1.tokens : List (Token (List WordChar))).length =
        (p.1.tokens : List (Token (List Char))).length := by
      cases p.1 <;> rfl
    simp only [List.flatMap_cons, List.length_append, List.length_singleton]
    omega

theorem fixed_of_rest {rest : List (Sep × Arg)}
    (h : (rest.flatMap fun p => p.1.tokens ++ p.2.wordTokens).map fixed? =
      (rest.flatMap fun p => p.1.tokens ++ [Token.word p.2.text]).map some) :
    ∀ p ∈ rest, p.2.wordTokens.map fixed? = [some (.word p.2.text)] := by
  induction rest with
  | nil => simp
  | cons p rest ih =>
    have hword := length_wordTokens_le p.2
    have hrest := length_rest_le rest
    have hlength := congrArg List.length h
    simp only [List.flatMap_cons, List.length_append, List.length_map, List.length_singleton,
      List.map_append, List.append_assoc] at hlength h
    rw [map_fixed?_tokens, List.append_cancel_left_eq] at h
    have hsep : (p.1.tokens : List (Token (List WordChar))).length =
        (p.1.tokens : List (Token (List Char))).length := by
      cases p.1 <;> rfl
    obtain ⟨hp, htail⟩ := List.append_inj h (by
      rw [List.length_map, List.length_map, List.length_singleton]; omega)
    exact List.forall_mem_cons.mpr ⟨hp, ih htail⟩

theorem fixed_of_tokens (h : t.wordTokens.map fixed? = t.tokens.map some) :
    ∀ a ∈ t.args, a.wordTokens.map fixed? = [some (.word a.text)] := by
  have hword := length_wordTokens_le t.first
  have hrest := length_rest_le t.rest
  have hlength := congrArg List.length h
  unfold Template.wordTokens Template.tokens at hlength h
  rw [List.length_map, List.length_map, List.length_append, List.length_cons] at hlength
  rw [List.map_append, List.map_cons, ← List.singleton_append] at h
  obtain ⟨hfirst, htail⟩ := List.append_inj h (by
    rw [List.length_map, List.length_singleton]; omega)
  refine List.forall_mem_cons.mpr ⟨hfirst, fun a ha => ?_⟩
  obtain ⟨p, hp, rfl⟩ := List.mem_map.mp ha
  exact fixed_of_rest htail p hp

theorem read_render_iff : read (t.render q) = some t.tokens ↔ ∀ a ∈ t.args, a.Safe q := by
  refine ⟨fun h => ?_, read_of_safe⟩
  obtain ⟨events, hscan, hfixed⟩ := read_eq_some_iff.mp h
  have haligned : ∀ a ∈ t.args, a.Aligned q := by
    refine aligned_of_texts hscan ?_
    rw [← tokens_chars, ← map_fixed?_chars hfixed, group_chars]
    rfl
  rw [scan_render haligned] at hscan
  cases hscan
  rw [group_events] at hfixed
  exact fun a ha => safe_iff.mpr ⟨haligned a ha, fixed_of_tokens hfixed a ha⟩

end Shell

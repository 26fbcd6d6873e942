import Idea.Data.Text
import Idea.Data.Document

/-! # Patterns and lines of documents

A character that only strings can hold occurs in the text of a document exactly where it occurs
in a string, and so does a pattern that begins with one. The lines of the text end where the
document has them end or where a string holds an end, and none begins with two dashes.
-/

namespace Json

/-! ## What strings hold -/

/-- A character that occurs in a text only if a string holds it. -/
structure StringOnly (c : Char) : Prop where
  unescaped : Unescaped c
  verbatim : needsEscape c = false
  not_blank : isBlank c = false
  not_mark : markOf c = none
  not_literal : isLiteralChar c = false

theorem stringOnly {c : Char} (h : c ∉ escapeChars ∧ needsEscape c = false ∧ isBlank c = false ∧
    markOf c = none ∧ isLiteralChar c = false) : StringOnly c :=
  ⟨unescaped_of_not_mem h.1, h.2.1, h.2.2.1, h.2.2.2.1, h.2.2.2.2⟩

namespace StringOnly

variable {c : Char} (h : StringOnly c)
include h

theorem ne_of_needsEscape {d : Char} (hd : needsEscape d = true) : c ≠ d := by
  rintro rfl
  exact Bool.false_ne_true (h.verbatim.symm.trans hd)

theorem not_mem_layout (p : Part) : c ∉ p.layout := fun hc =>
  Bool.false_ne_true (h.not_blank.symm.trans (isBlank_layout p c hc))

theorem ne_mark (m : Mark) : c ≠ m.char := by
  rintro rfl
  have hnone := h.not_mark
  cases m <;> cases hnone

theorem exists_string {t : Token} (hwf : t.WellFormed) (hmem : .plain c ∈ t.glyphs) :
    ∃ text, t = .string text := by
  cases t with
  | mark m => exact absurd (congrArg Glyph.char (List.mem_singleton.mp hmem)) (h.ne_mark m)
  | literal text =>
    obtain ⟨d, hd, heq⟩ := List.mem_map.mp hmem
    obtain rfl : d = c := congrArg Glyph.char heq
    exact absurd (hwf.2.1 d hd) (Bool.eq_false_iff.mp h.not_literal)
  | string text => exact ⟨text, rfl⟩

theorem glyphCount_token (t : Token) : glyphCount c t.glyphs = t.count c := by
  cases t with
  | mark m => exact List.count_eq_zero.mpr fun hmem => h.ne_mark m (List.mem_singleton.mp hmem)
  | literal text => simp [glyphCount, Token.glyphs, Token.count, Glyph.plain, Function.comp_def]
  | string text =>
    have hquote : '"' ≠ c := (h.ne_of_needsEscape rfl).symm
    simp [glyphCount, Token.glyphs, Token.count, Glyph.plain, Glyph.ofString, Function.comp_def,
      hquote]

theorem glyphCount_glyphs (d : Document) : glyphCount c d.glyphs = charCount c d.tokens := by
  have hpart : ∀ p : Part, glyphCount c p.glyphs = p.token.count c := by
    intro p
    have hlayout : glyphCount c (p.layout.map .plain) = 0 := by
      simp only [glyphCount, List.map_map]
      exact List.count_eq_zero.mpr fun hc => h.not_mem_layout p (by simpa [Glyph.plain] using hc)
    rw [Part.glyphs, glyphCount_append, hlayout, Nat.zero_add, h.glyphCount_token]
  have hparts : ∀ parts : List Part, glyphCount c (parts.flatMap Part.glyphs) =
      charCount c (parts.map Part.token) := by
    intro parts
    induction parts with
    | nil => rfl
    | cons p parts ih =>
      rw [List.flatMap_cons, glyphCount_append, hpart, ih, List.map_cons, charCount_cons]
  exact hparts d.parts

end StringOnly

theorem append_cons_of_not_mem {xs ys pre post : List Glyph} {u : Glyph} (h : u ∉ xs)
    (heq : xs ++ ys = pre ++ u :: post) : ∃ mid, pre = xs ++ mid ∧ ys = mid ++ u :: post := by
  rcases List.append_eq_append_iff.mp heq with ⟨mid, hpre, hys⟩ | ⟨mid, hxs, hpost⟩
  · exact ⟨mid, hpre, hys⟩
  · cases mid with
    | nil => exact ⟨[], by simpa using hxs.symm, by simpa using hpost.symm⟩
    | cons v mid =>
      obtain ⟨rfl, rfl⟩ := List.cons.inj hpost
      exact absurd (hxs ▸ List.mem_append_right _ List.mem_cons_self) h

theorem prefix_of_string {text cs : List Char} {rest post : List Glyph} (h : '"' ∉ cs)
    (heq : text.map .ofString ++ .plain '"' :: rest = cs.map .plain ++ post) : cs <+: text := by
  have hchars : ∀ {cs' : List Char} {us : List Glyph},
      text.map .ofString = cs'.map .plain ++ us → cs' <+: text := by
    intro cs' us h
    have hmap := congrArg (List.map Glyph.char) h
    simp only [List.map_append, List.map_map] at hmap
    refine ⟨us.map Glyph.char, ?_⟩
    simpa [Function.comp_def, Glyph.ofString, Glyph.plain] using hmap.symm
  rcases List.append_eq_append_iff.mp heq with ⟨mid, hcs, hmid⟩ | ⟨mid, htext, -⟩
  · cases mid with
    | nil => exact hchars (show text.map Glyph.ofString = cs.map .plain ++ [] by simpa using hcs.symm)
    | cons u mid =>
      obtain ⟨rfl, -⟩ := List.cons.inj hmid
      have hmem : Glyph.plain '"' ∈ cs.map .plain :=
        hcs ▸ List.mem_append_right _ List.mem_cons_self
      obtain ⟨c, hc, heq⟩ := List.mem_map.mp hmem
      obtain rfl : c = '"' := congrArg Glyph.char heq
      exact absurd hc h
  · exact hchars htext

theorem string_eq_append_cons {text : List Char} {c : Char} (hc : StringOnly c)
    {pre post : List Glyph} (heq : Token.glyphs (.string text) = pre ++ .plain c :: post) :
    ∃ before after, text = before ++ c :: after ∧ post = after.map .ofString ++ [.plain '"'] := by
  have hquote : ∀ {us : List Glyph}, us = [.plain '"'] → .plain c ∉ us := by
    rintro _ rfl hmem
    exact hc.ne_of_needsEscape rfl (congrArg Glyph.char (List.mem_singleton.mp hmem))
  have hopen : [Glyph.plain '"'] ++ (text.map .ofString ++ [.plain '"']) =
      pre ++ .plain c :: post := heq
  obtain ⟨pre', rfl, hclose⟩ := append_cons_of_not_mem (hquote rfl) hopen
  rcases List.append_eq_append_iff.mp hclose with ⟨mid, -, hlast⟩ | ⟨mid, htext, hpost⟩
  · exact absurd (hlast ▸ List.mem_append_right _ List.mem_cons_self) (hquote rfl)
  · cases mid with
    | nil => exact absurd List.mem_cons_self (hquote hpost)
    | cons u mid =>
      obtain ⟨rfl, rfl⟩ := List.cons.inj hpost
      obtain ⟨before, after', rfl, -, hafter⟩ := List.map_eq_append_iff.mp htext
      obtain ⟨d, after, rfl, hd, rfl⟩ := List.map_eq_cons_iff.mp hafter
      obtain rfl : d = c := congrArg Glyph.char hd
      exact ⟨before, after, rfl, rfl⟩

theorem infix_string {parts : List Part} (hwf : ∀ p ∈ parts, p.token.WellFormed) {c : Char}
    {cs : List Char} (hc : StringOnly c) (hcs : '"' ∉ cs) {pre post : List Glyph}
    (heq : parts.flatMap Part.glyphs = pre ++ .plain c :: (cs.map .plain ++ post)) :
    ∃ p ∈ parts, ∃ text, p.token = .string text ∧ c :: cs <:+: text := by
  induction parts generalizing pre with
  | nil => exact absurd heq (by simp)
  | cons p parts ih =>
    obtain ⟨hp, hparts⟩ := List.forall_mem_cons.mp hwf
    have hlater : ∀ pre', parts.flatMap Part.glyphs = pre' ++ .plain c :: (cs.map .plain ++ post) →
        ∃ p' ∈ p :: parts, ∃ text, p'.token = .string text ∧ c :: cs <:+: text := by
      intro pre' h
      obtain ⟨p', hp', hstring⟩ := ih hparts h
      exact ⟨p', List.mem_cons_of_mem _ hp', hstring⟩
    rw [List.flatMap_cons] at heq
    rcases List.append_eq_append_iff.mp heq with ⟨pre', -, hrest⟩ | ⟨mid, hpart, hpost⟩
    · exact hlater pre' hrest
    · cases mid with
      | nil => exact hlater [] hpost.symm
      | cons u mid =>
        obtain ⟨rfl, hafter⟩ := List.cons.inj hpost
        have hlayout : Glyph.plain c ∉ p.layout.map Glyph.plain := by
          intro hmem
          obtain ⟨d, hd, hdc⟩ := List.mem_map.mp hmem
          obtain rfl : d = c := congrArg Glyph.char hdc
          exact hc.not_mem_layout p hd
        obtain ⟨pre', -, htoken⟩ := append_cons_of_not_mem hlayout hpart
        obtain ⟨text, ht⟩ := hc.exists_string hp
          (htoken ▸ List.mem_append_right _ List.mem_cons_self)
        rw [ht] at htoken
        obtain ⟨before, after, rfl, rfl⟩ := string_eq_append_cons hc htoken
        have hclosed : after.map .ofString ++ .plain '"' :: parts.flatMap Part.glyphs =
            cs.map .plain ++ post := by
          rw [hafter]
          simp
        obtain ⟨after', rfl⟩ := prefix_of_string hcs hclosed
        exact ⟨p, List.mem_cons_self, _, ht, before, after', by simp⟩

/-- A pattern that begins like no escape, mark, blank or literal occurs in a text exactly when
it occurs in a string. -/
theorem Document.infix_text_iff (d : Document) {c : Char} {cs : List Char} (hc : StringOnly c)
    (hcs : ∀ x ∈ cs, needsEscape x = false) :
    c :: cs <:+: d.text ↔ ∃ text ∈ d.strings, c :: cs <:+: text := by
  have hne : ∀ x ∈ cs, ∀ y, needsEscape y = true → x ≠ y := by
    rintro x hx y hy rfl
    exact Bool.false_ne_true ((hcs x hx).symm.trans hy)
  rw [text, infix_spell_iff d.written hc.unescaped fun x hx => hne x hx _ rfl]
  constructor
  · rintro ⟨pre, post, heq⟩
    rw [List.append_assoc] at heq
    obtain ⟨p, hp, text, ht, hoccurs⟩ :=
      infix_string d.wellFormed hc (fun h => hne _ h _ rfl rfl) heq.symm
    exact ⟨text, d.mem_strings hp ht, hoccurs⟩
  · rintro ⟨text, htext, pre, post, rfl⟩
    obtain ⟨t, ht, hstring⟩ := List.mem_filterMap.mp htext
    obtain ⟨p, hp, rfl⟩ := List.mem_map.mp ht
    have hverbatim : (c :: cs).map Glyph.ofString = (c :: cs).map .plain := by
      refine List.map_congr_left fun x hx => ?_
      have hx' : needsEscape x = false := by
        rcases List.mem_cons.mp hx with rfl | hx
        · exact hc.verbatim
        · exact hcs x hx
      rw [Glyph.ofString, hx']
      rfl
    have hpart : p.glyphs <:+: d.glyphs := by
      obtain ⟨before, after, hparts⟩ := List.append_of_mem hp
      refine ⟨before.flatMap Part.glyphs, after.flatMap Part.glyphs, ?_⟩
      rw [Document.glyphs, hparts]
      simp
    refine List.IsInfix.trans ?_ hpart
    cases htoken : p.token with
    | mark m => rw [htoken] at hstring; cases hstring
    | literal text => rw [htoken] at hstring; cases hstring
    | string text =>
      rw [htoken] at hstring
      obtain rfl := Option.some.inj hstring
      refine ⟨p.layout.map .plain ++ .plain '"' :: pre.map .ofString,
        post.map .ofString ++ [.plain '"'], ?_⟩
      rw [Part.glyphs, htoken, Token.glyphs, ← hverbatim]
      simp

/-! ## Lines -/

open Text

theorem exists_boundary {t : Token} (hwf : t.WellFormed) {c : Char} (hmem : c ∈ spell t.glyphs)
    (hc : isLineBoundary c = true) :
    ∃ text, t = .string text ∧ c ∈ text ∧ needsEscape c = false := by
  obtain ⟨hescape, hliteral, hquote, hmark⟩ : c ∉ escapeChars ∧ isLiteralChar c = false ∧
      c ≠ '"' ∧ markOf c = none :=
    forall_isLineBoundary (P := fun c => c ∉ escapeChars ∧ isLiteralChar c = false ∧
      c ≠ '"' ∧ markOf c = none) (by decide) hc
  have hplain : .plain c ∈ t.glyphs := by
    by_contra h
    exact not_mem_spell (written_token hwf) (unescaped_of_not_mem hescape) h hmem
  cases t with
  | mark m =>
    obtain rfl : c = m.char := congrArg Glyph.char (List.mem_singleton.mp hplain)
    cases m <;> cases hmark
  | literal text =>
    obtain ⟨d, hd, heq⟩ := List.mem_map.mp hplain
    obtain rfl : d = c := congrArg Glyph.char heq
    exact absurd (hwf.2.1 d hd) (Bool.eq_false_iff.mp hliteral)
  | string text =>
    have hends : .plain c ∉ [Glyph.plain '"'] := fun h =>
      hquote (congrArg Glyph.char (List.mem_singleton.mp h))
    rcases List.mem_append.mp (show .plain c ∈ [Glyph.plain '"'] ++ _ from hplain) with h | h
    · exact absurd h hends
    rcases List.mem_append.mp h with h | h
    · obtain ⟨d, hd, heq⟩ := List.mem_map.mp h
      obtain ⟨rfl, hesc⟩ := Glyph.mk.inj heq
      exact ⟨text, rfl, hd, hesc⟩
    · exact absurd h hends

theorem spell_token_ne_nil {t : Token} (h : t.WellFormed) : spell t.glyphs ≠ [] := by
  cases t with
  | mark m => exact List.cons_ne_nil _ _
  | literal text =>
    rw [Token.glyphs, spell_map_plain]
    exact h.1
  | string text => exact List.cons_ne_nil _ _

theorem not_dashes_token {t : Token} (h : t.WellFormed) (line : List Char) :
    ¬ ['-', '-'] <+: spell t.glyphs ++ line := by
  intro hprefix
  cases t with
  | mark m =>
    obtain ⟨hm, -⟩ : '-' = m.char ∧ _ := List.cons_prefix_cons.mp hprefix
    cases m <;> cases hm
  | literal text =>
    rw [Token.glyphs, spell_map_plain] at hprefix
    cases text with
    | nil => exact h.1 rfl
    | cons c text =>
      obtain ⟨rfl, hrest⟩ := List.cons_prefix_cons.mp hprefix
      have hdigit := h.2.2 text rfl
      cases text with
      | nil => cases hdigit
      | cons d text =>
        obtain ⟨rfl, -⟩ := List.cons_prefix_cons.mp hrest
        cases hdigit
  | string text =>
    obtain ⟨hquote, -⟩ : '-' = '"' ∧ _ := List.cons_prefix_cons.mp hprefix
    cases hquote

def Part.body (p : Part) : List Char := List.replicate p.indent ' ' ++ spell p.token.glyphs

theorem spell_part_body (p : Part) :
    spell p.glyphs = (if p.newLine then ['\n'] else []) ++ p.body := by
  rw [spell_part, Part.layout, List.append_assoc]
  rfl

theorem not_dashes_body {p : Part} (h : p.token.WellFormed) (line : List Char) :
    ¬ ['-', '-'] <+: p.body ++ line := by
  intro hprefix
  rw [Part.body, List.append_assoc] at hprefix
  cases hn : p.indent with
  | zero =>
    rw [hn] at hprefix
    exact not_dashes_token h line hprefix
  | succ n =>
    rw [hn] at hprefix
    cases (List.cons_prefix_cons.mp hprefix).1

theorem oneLine_body {p : Part} (hwf : p.token.WellFormed)
    (h : ∀ text, p.token = .string text → ∀ c ∈ text, needsEscape c = false →
      isLineBoundary c = false) : OneLine p.body := by
  intro c hc
  rcases List.mem_append.mp hc with hc | hc
  · rw [List.eq_of_mem_replicate hc]
    rfl
  · refine Bool.eq_false_iff.mpr fun hb => ?_
    obtain ⟨text, ht, hmem, hesc⟩ := exists_boundary hwf hc hb
    exact absurd hb (Bool.eq_false_iff.mp (h text ht c hmem hesc))

theorem not_dashes_splitLines {p : Part} (hwf : p.token.WellFormed) (hone : OneLine p.body)
    {rest : List Char} (hrest : ∀ line ∈ splitLines false rest, ¬ ['-', '-'] <+: line) :
    ∀ line ∈ splitLines false (p.body ++ rest), ¬ ['-', '-'] <+: line := by
  have hne : p.body ≠ [] := List.append_ne_nil_of_right_ne_nil _ (spell_token_ne_nil hwf)
  intro line hline
  rw [splitLines_oneLine_append hone hne] at hline
  cases hlines : splitLines false rest with
  | nil =>
    rw [hlines, List.mem_singleton] at hline
    rw [hline, ← List.append_nil p.body]
    exact not_dashes_body hwf []
  | cons first lines =>
    rw [hlines] at hline
    rcases List.mem_cons.mp hline with rfl | hline
    · exact not_dashes_body hwf first
    · exact hrest line (hlines ▸ List.mem_cons_of_mem _ hline)

theorem Document.not_dashes_line (d : Document)
    (h : ∀ text ∈ d.strings, ∀ c ∈ text, needsEscape c = false → isLineBoundary c = false) :
    ∀ line ∈ splitLines false d.text, ¬ ['-', '-'] <+: line := by
  have hparts : ∀ parts ⊆ d.parts, ∀ line ∈ splitLines false (spell (parts.flatMap Part.glyphs)),
      ¬ ['-', '-'] <+: line := by
    intro parts
    induction parts with
    | nil => exact fun _ _ hline => absurd hline List.not_mem_nil
    | cons p parts ih =>
      intro hsub
      obtain ⟨hp, hparts⟩ := List.cons_subset.mp hsub
      have hone : OneLine p.body := oneLine_body (d.wellFormed p hp) fun text ht =>
        h text (d.mem_strings hp ht)
      have hlines := not_dashes_splitLines (d.wellFormed p hp) hone (ih hparts)
      rw [List.flatMap_cons, spell_append, spell_part_body]
      cases p.newLine with
      | false => exact hlines
      | true =>
        intro line hline
        have hbreak : splitLines false ('\n' :: (p.body ++ spell (parts.flatMap Part.glyphs))) =
            [] :: splitLines false (p.body ++ spell (parts.flatMap Part.glyphs)) :=
          splitLines_boundary rfl (by decide)
        rcases List.mem_cons.mp (hbreak ▸ hline) with rfl | hline
        · simp
        · exact hlines line hline
  exact hparts d.parts (List.Subset.refl _)

theorem Document.boundary_text (d : Document) {c : Char} (hmem : c ∈ d.text)
    (hc : isLineBoundary c = true) :
    c = '\n' ∨ ∃ text ∈ d.strings, c ∈ text ∧ needsEscape c = false := by
  obtain ⟨u, hu, hmem⟩ := List.mem_flatMap.mp hmem
  obtain ⟨p, hp, hu⟩ := List.mem_flatMap.mp hu
  have hpart : c ∈ spell p.glyphs := List.mem_flatMap.mpr ⟨u, hu, hmem⟩
  rw [spell_part] at hpart
  rcases List.mem_append.mp hpart with hlayout | htoken
  · rcases List.mem_append.mp hlayout with h | h
    · split at h
      · exact .inl (List.mem_singleton.mp h)
      · cases h
    · obtain rfl := List.eq_of_mem_replicate h
      cases hc
  · obtain ⟨text, ht, htext, hesc⟩ := exists_boundary (d.wellFormed p hp) htoken hc
    exact .inr ⟨text, d.mem_strings hp ht, htext, hesc⟩

end Json

import Idea.Data.Json

/-! # Documents in JSON

A document is the list of its tokens, each after a blank of at most one line end and an indent.
Its text reads back as its tokens, with or without the line ends.
-/

namespace Json

/-- A token and the blank before it. -/
structure Part where
  newLine : Bool
  indent : ℕ
  token : Token

namespace Token

def WellFormed : Token → Prop
  | literal text => text ≠ [] ∧ (∀ c ∈ text, isLiteralChar c = true) ∧
      ∀ rest, text = '-' :: rest → rest.head?.any Char.isDigit = true
  | _ => True

def isLiteral : Token → Bool
  | literal _ => true
  | _ => false

def string? : Token → Option (List Char)
  | string text => some text
  | _ => none

def glyphs : Token → List Glyph
  | mark m => [.plain m.char]
  | literal text => text.map .plain
  | string text => .plain '"' :: (text.map .ofString ++ [.plain '"'])

end Token

namespace Part

def layout (p : Part) : List Char :=
  (if p.newLine then ['\n'] else []) ++ List.replicate p.indent ' '

def glyphs (p : Part) : List Glyph := p.layout.map .plain ++ p.token.glyphs

def joined (p : Part) : Part := { p with newLine := false }

end Part

/-- Two literals never follow each other without a token between them. -/
structure Document where
  parts : List Part
  nonempty : parts ≠ []
  wellFormed : ∀ p ∈ parts, p.token.WellFormed
  separated : parts.IsChain fun p q => ¬ (p.token.isLiteral ∧ q.token.isLiteral)

namespace Document

def glyphs (d : Document) : List Glyph := d.parts.flatMap Part.glyphs

def text (d : Document) : List Char := spell d.glyphs

def tokens (d : Document) : List Token := d.parts.map Part.token

def strings (d : Document) : List (List Char) := d.tokens.filterMap Token.string?

end Document

/-! ## Reading a document back -/

section Reading

variable {c : Char} {cs pending text : List Char} {us : List Glyph} {ts : List Token}

theorem group_blank (h : isBlank c = true) : group (.outside pending) (.plain c :: us) =
    (group (.outside []) us).map (flush pending ++ ·) := by
  have hq : c ≠ '"' := by
    rintro rfl
    cases h
  simp [group, Glyph.plain, hq, h]

theorem group_blanks (h : ∀ c ∈ cs, isBlank c = true) :
    group (.outside []) (cs.map .plain ++ us) = group (.outside []) us := by
  induction cs with
  | nil => rfl
  | cons c cs ih =>
    obtain ⟨hc, hcs⟩ := List.forall_mem_cons.mp h
    rw [List.map_cons, List.cons_append, group_blank hc, ih hcs]
    exact Option.map_id'

theorem group_layout (h : ∀ c ∈ cs, isBlank c = true) (hout : group (.outside []) us = some ts)
    (hpending : group (.outside pending) us = some (flush pending ++ ts)) :
    group (.outside pending) (cs.map .plain ++ us) = some (flush pending ++ ts) := by
  cases cs with
  | nil => exact hpending
  | cons c cs =>
    obtain ⟨hc, hcs⟩ := List.forall_mem_cons.mp h
    rw [List.map_cons, List.cons_append, group_blank hc, group_blanks hcs, hout]
    rfl

theorem group_mark (m : Mark) : group (.outside pending) (.plain m.char :: us) =
    (group (.outside []) us).map (flush pending ++ .mark m :: ·) := by
  cases m <;> rfl

theorem isLiteralChar_cases (h : isLiteralChar c = true) :
    c ≠ '"' ∧ isBlank c = false ∧ markOf c = none := by
  have hne : ∀ d, isLiteralChar d = false → c ≠ d := by
    rintro d hd rfl
    exact Bool.false_ne_true (hd.symm.trans h)
  refine ⟨hne _ rfl, ?_, ?_⟩
  · simp [isBlank, hne ' ' rfl, hne '\n' rfl, hne '\r' rfl, hne '\t' rfl]
  · simp [markOf, hne '{' rfl, hne '}' rfl, hne '[' rfl, hne ']' rfl, hne ':' rfl, hne ',' rfl]

theorem group_literal (h : ∀ c ∈ text, isLiteralChar c = true) :
    group (.outside pending) (text.map .plain ++ us) = group (.outside (pending ++ text)) us := by
  induction text generalizing pending with
  | nil => rw [List.append_nil]; rfl
  | cons c text ih =>
    obtain ⟨hc, htext⟩ := List.forall_mem_cons.mp h
    obtain ⟨hquote, hblank, hmark⟩ := isLiteralChar_cases hc
    have hfirst : group (.outside pending) (.plain c :: (text.map .plain ++ us)) =
        group (.outside (pending ++ [c])) (text.map .plain ++ us) := by
      simp [group, Glyph.plain, hquote, hblank, hmark, hc]
    rw [List.map_cons, List.cons_append, hfirst, ih htext, List.append_assoc]
    rfl

theorem group_string {before : List Char} :
    group (.inString before) (text.map .ofString ++ .plain '"' :: us) =
      (group (.outside []) us).map (.string (before ++ text) :: ·) := by
  induction text generalizing before with
  | nil => rw [List.append_nil]; rfl
  | cons c text ih =>
    have hfirst : group (.inString before) (.ofString c :: (text.map .ofString ++
        .plain '"' :: us)) = group (.inString (before ++ [c]))
          (text.map .ofString ++ .plain '"' :: us) := by
      cases hc : needsEscape c with
      | true => simp [group, Glyph.ofString, hc]
      | false =>
        have hc' := hc
        simp only [needsEscape, Bool.or_eq_false_iff, decide_eq_false_iff_not] at hc'
        simp [group, Glyph.ofString, hc, hc'.1.1, hc'.2]
    rw [List.map_cons, List.cons_append, hfirst, ih, List.append_assoc]
    rfl

theorem group_token {t : Token} (h : t.WellFormed) (hsep : pending ≠ [] → t.isLiteral = false)
    (hrest : ∀ pending, (pending ≠ [] → t.isLiteral = true) →
      group (.outside pending) us = some (flush pending ++ ts)) :
    group (.outside pending) (t.glyphs ++ us) = some (flush pending ++ t :: ts) := by
  have hout : group (.outside []) us = some ts := hrest [] fun h => absurd rfl h
  cases t with
  | mark m =>
    rw [Token.glyphs, List.singleton_append, group_mark, hout]
    rfl
  | literal text =>
    obtain rfl : pending = [] := by
      by_contra hp
      cases hsep hp
    rw [Token.glyphs, group_literal h.2.1, List.nil_append, hrest text fun _ => rfl, flush,
      if_neg h.1]
    rfl
  | string text =>
    have hopen : group (.outside pending) (Token.glyphs (.string text) ++ us) =
        (group (.inString []) (text.map .ofString ++ .plain '"' :: us)).map
          (flush pending ++ ·) := by
      rw [Token.glyphs, List.cons_append, List.append_assoc]
      rfl
    rw [hopen, group_string, hout]
    rfl

end Reading

theorem isBlank_layout (p : Part) : ∀ c ∈ p.layout, isBlank c = true := by
  intro c hc
  rcases List.mem_append.mp hc with hc | hc
  · split at hc
    · rw [List.mem_singleton.mp hc]
      rfl
    · cases hc
  · rw [List.eq_of_mem_replicate hc]
    rfl

theorem group_parts {parts : List Part} (hwf : ∀ p ∈ parts, p.token.WellFormed)
    (hsep : parts.IsChain fun p q => ¬ (p.token.isLiteral ∧ q.token.isLiteral))
    {pending : List Char}
    (hhead : pending ≠ [] → ∀ p ∈ parts.head?, p.token.isLiteral = false) :
    group (.outside pending) (parts.flatMap Part.glyphs) =
      some (flush pending ++ parts.map Part.token) := by
  induction parts generalizing pending with
  | nil => rw [List.map_nil, List.append_nil]; rfl
  | cons p parts ih =>
    obtain ⟨hp, hparts⟩ := List.forall_mem_cons.mp hwf
    obtain ⟨hnext, hchain⟩ := List.isChain_cons.mp hsep
    have htoken : ∀ pending, (pending ≠ [] → p.token.isLiteral = false) →
        group (.outside pending) (p.token.glyphs ++ parts.flatMap Part.glyphs) =
          some (flush pending ++ p.token :: parts.map Part.token) := by
      intro pending hpending
      refine group_token hp hpending fun pending' hp' => ih hparts hchain fun hne q hq => ?_
      exact Bool.eq_false_iff.mpr fun hlit => hnext q hq ⟨hp' hne, hlit⟩
    rw [List.flatMap_cons, Part.glyphs, List.append_assoc]
    exact group_layout (isBlank_layout p) (htoken [] fun h => absurd rfl h)
      (htoken pending fun h => hhead h p rfl)

theorem written_plain {c : Char} (h : c ≠ '\\') : (Glyph.plain c).Written := h

theorem written_ofString (c : Char) : (Glyph.ofString c).Written := by
  cases hc : needsEscape c with
  | true => simp [Glyph.Written, Glyph.ofString, hc]
  | false =>
    simp only [Glyph.Written, Glyph.ofString, hc, Bool.false_eq_true, if_false]
    rintro rfl
    cases hc

theorem written_token {t : Token} (h : t.WellFormed) : ∀ u ∈ t.glyphs, u.Written := by
  intro u hu
  cases t with
  | mark m =>
    rw [List.mem_singleton.mp hu]
    exact written_plain (by cases m <;> decide)
  | literal text =>
    obtain ⟨c, hc, rfl⟩ := List.mem_map.mp hu
    refine written_plain ?_
    rintro rfl
    exact absurd (h.2.1 _ hc) (by decide)
  | string text =>
    rcases List.mem_cons.mp hu with rfl | hu
    · exact written_plain (by decide)
    rcases List.mem_append.mp hu with hu | hu
    · obtain ⟨c, _, rfl⟩ := List.mem_map.mp hu
      exact written_ofString c
    · rw [List.mem_singleton.mp hu]
      exact written_plain (by decide)

theorem spell_part (p : Part) : spell p.glyphs = p.layout ++ spell p.token.glyphs := by
  rw [Part.glyphs, spell_append, spell_map_plain]

theorem not_mem_spell {us : List Glyph} (h : ∀ u ∈ us, u.Written) {c : Char}
    (hc : Unescaped c) (hplain : .plain c ∉ us) : c ∉ spell us := by
  intro hmem
  obtain ⟨pre, post, heq⟩ := List.append_of_mem hmem
  obtain ⟨vs, ws, rfl, -, -⟩ := spell_eq_append_cons h hc heq
  exact hplain (List.mem_append_right _ List.mem_cons_self)

namespace Document

variable (d : Document)

theorem mem_strings {p : Part} (hp : p ∈ d.parts) {text : List Char}
    (h : p.token = .string text) : text ∈ d.strings :=
  List.mem_filterMap.mpr ⟨p.token, List.mem_map.mpr ⟨p, hp, rfl⟩, by rw [h]; rfl⟩

theorem written : ∀ u ∈ d.glyphs, u.Written := by
  intro u hu
  obtain ⟨p, hp, hu⟩ := List.mem_flatMap.mp hu
  rcases List.mem_append.mp hu with hu | hu
  · obtain ⟨c, hc, rfl⟩ := List.mem_map.mp hu
    refine written_plain ?_
    rintro rfl
    exact absurd (isBlank_layout p _ hc) (by decide)
  · exact written_token (d.wellFormed p hp) u hu

theorem tokens_text : Json.tokens d.text = some d.tokens := by
  have hglyphs : Json.glyphs d.text = some d.glyphs := by
    have h := glyphs_spell d.written []
    rw [List.append_nil] at h
    rw [text, h]
    simp [Json.glyphs]
  rw [Json.tokens, hglyphs]
  exact group_parts d.wellFormed d.separated fun h => absurd rfl h

def joined : Document where
  parts := d.parts.map Part.joined
  nonempty := List.map_eq_nil_iff.not.mpr d.nonempty
  wellFormed := by
    intro p hp
    obtain ⟨q, hq, rfl⟩ := List.mem_map.mp hp
    exact d.wellFormed q hq
  separated := (List.isChain_map _).mpr d.separated

@[simp] theorem tokens_joined : d.joined.tokens = d.tokens := by
  rw [tokens, joined, List.map_map]
  rfl

theorem newLine_not_mem {t : Token} (h : t.WellFormed) : '\n' ∉ spell t.glyphs := by
  refine not_mem_spell (written_token h) (unescaped_of_not_mem (by decide)) fun hmem => ?_
  cases t with
  | mark m =>
    have heq := List.mem_singleton.mp hmem
    cases m <;> cases heq
  | literal text =>
    obtain ⟨c, hc, heq⟩ := List.mem_map.mp hmem
    cases heq
    exact absurd (h.2.1 _ hc) (by decide)
  | string text =>
    rcases List.mem_cons.mp hmem with heq | hmem
    · cases heq
    rcases List.mem_append.mp hmem with hmem | hmem
    · obtain ⟨c, _, heq⟩ := List.mem_map.mp hmem
      obtain ⟨rfl, hesc⟩ := Glyph.mk.inj heq
      exact absurd hesc (by decide)
    · cases List.mem_singleton.mp hmem

theorem text_joined : d.joined.text = d.text.filter (· ≠ '\n') := by
  have hpart : ∀ p ∈ d.parts,
      spell p.joined.glyphs = (spell p.glyphs).filter (· ≠ '\n') := by
    intro p hp
    have htoken : (spell p.token.glyphs).filter (· ≠ '\n') = spell p.token.glyphs := by
      refine List.filter_eq_self.mpr fun c hc => decide_eq_true ?_
      rintro rfl
      exact newLine_not_mem (d.wellFormed p hp) hc
    have hlayout : p.layout.filter (· ≠ '\n') = p.joined.layout := by
      cases hn : p.newLine <;>
        simp [Part.layout, Part.joined, hn]
    rw [spell_part, spell_part, List.filter_append, htoken, hlayout]
    rfl
  have hparts : ∀ parts ⊆ d.parts, spell ((parts.map Part.joined).flatMap Part.glyphs) =
      (spell (parts.flatMap Part.glyphs)).filter (· ≠ '\n') := by
    intro parts
    induction parts with
    | nil => exact fun _ => rfl
    | cons p parts ih =>
      intro hsub
      obtain ⟨hp, hparts⟩ := List.cons_subset.mp hsub
      rw [List.map_cons, List.flatMap_cons, List.flatMap_cons, spell_append, spell_append,
        List.filter_append, hpart p hp, ih hparts]
  exact hparts d.parts (List.Subset.refl _)

end Document

end Json

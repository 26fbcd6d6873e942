import Mathlib.Data.Bool.AllAny
import Mathlib.Data.List.Infix
import Mathlib.Data.List.Basic

/-! # Lines and patterns of texts

Texts are lists of characters. A text is split at every character that ends a line, and a
pattern is taken out from left to right.
-/

namespace Text

def lineBoundaries : List Char :=
  [10, 11, 12, 13, 28, 29, 30, 0x85, 0x2028, 0x2029].map Char.ofNat

def isLineBoundary (c : Char) : Bool := lineBoundaries.contains c

def lineEnd (keepEnds : Bool) (ending : List Char) : List Char := if keepEnds then ending else []

/-- The lines of a text, with or without their ends; a carriage return and a line feed are one
end. -/
def splitLines (keepEnds : Bool) : List Char → List (List Char)
  | [] => []
  | '\r' :: '\n' :: cs => lineEnd keepEnds ['\r', '\n'] :: splitLines keepEnds cs
  | c :: cs =>
    if isLineBoundary c then lineEnd keepEnds [c] :: splitLines keepEnds cs
    else
      match splitLines keepEnds cs with
      | [] => [[c]]
      | line :: lines => (c :: line) :: lines

def removePair (a b : Char) : List Char → List Char
  | [] => []
  | [c] => [c]
  | c :: d :: cs => if c = a ∧ d = b then removePair a b cs else c :: removePair a b (d :: cs)

/-- The parts between the occurrences of a pattern; the characters of an occurrence that are still
to be skipped are counted. -/
def splitText (pattern : List Char) : ℕ → List Char → List Char → List (List Char)
  | _, part, [] => [part]
  | skip + 1, part, _ :: cs => splitText pattern skip part cs
  | 0, part, c :: cs =>
    if pattern.isPrefixOf (c :: cs) then part :: splitText pattern (pattern.length - 1) [] cs
    else splitText pattern 0 (part ++ [c]) cs

def remove (pattern text : List Char) : List Char := (splitText pattern 0 [] text).flatten

variable {keepEnds : Bool} {c : Char} {cs l rest : List Char}

theorem forall_isLineBoundary {P : Char → Prop} [DecidablePred P]
    (h : lineBoundaries.all (fun c => P c) = true) (hc : isLineBoundary c = true) : P c :=
  List.all_iff_forall_prop.mp h c (List.contains_iff_mem.mp hc)

theorem splitLines_boundary (h : isLineBoundary c = true) (hr : c ≠ '\r') :
    splitLines keepEnds (c :: cs) = lineEnd keepEnds [c] :: splitLines keepEnds cs := by
  rw [splitLines.eq_def]
  split
  · rename_i heq
    cases heq
  · rename_i heq
    cases heq
    exact absurd rfl hr
  · rename_i heq
    obtain ⟨rfl, rfl⟩ := List.cons.inj heq
    exact if_pos h

theorem splitLines_plain (h : isLineBoundary c = false) :
    splitLines keepEnds (c :: cs) =
      match splitLines keepEnds cs with
      | [] => [[c]]
      | line :: lines => (c :: line) :: lines := by
  rw [splitLines.eq_def]
  split
  · rename_i heq
    cases heq
  · rename_i heq
    cases heq
    exact absurd h (by decide)
  · rename_i heq
    obtain ⟨rfl, rfl⟩ := List.cons.inj heq
    exact if_neg (Bool.eq_false_iff.mp h)

/-- No character of the text ends a line. -/
def OneLine (cs : List Char) : Prop := ∀ c ∈ cs, isLineBoundary c = false

theorem splitLines_of_oneLine (h : OneLine l) (hne : l ≠ []) : splitLines keepEnds l = [l] := by
  induction l with
  | nil => exact absurd rfl hne
  | cons c l ih =>
    obtain ⟨hc, hl⟩ := List.forall_mem_cons.mp h
    rw [splitLines_plain hc]
    cases l with
    | nil => rfl
    | cons d l => rw [ih hl (List.cons_ne_nil _ _)]

theorem splitLines_append_boundary (h : OneLine l) (hb : isLineBoundary c = true)
    (hr : c ≠ '\r') : splitLines keepEnds (l ++ c :: rest) =
      (l ++ lineEnd keepEnds [c]) :: splitLines keepEnds rest := by
  induction l with
  | nil => exact splitLines_boundary hb hr
  | cons d l ih =>
    obtain ⟨hd, hl⟩ := List.forall_mem_cons.mp h
    rw [List.cons_append, splitLines_plain hd, ih hl]
    rfl

theorem splitLines_lineFeed (h : OneLine l) :
    splitLines false (l ++ '\n' :: rest) = l :: splitLines false rest := by
  rw [splitLines_append_boundary h rfl (by decide), lineEnd, if_neg Bool.false_ne_true,
    List.append_nil]

theorem oneLine_or_split (cs : List Char) :
    OneLine cs ∨ ∃ l c rest, cs = l ++ c :: rest ∧ OneLine l ∧ isLineBoundary c = true := by
  induction cs with
  | nil => exact .inl fun _ h => absurd h List.not_mem_nil
  | cons d cs ih =>
    cases hd : isLineBoundary d with
    | true => exact .inr ⟨[], d, cs, rfl, fun _ h => absurd h List.not_mem_nil, hd⟩
    | false =>
      rcases ih with hcs | ⟨l, c, rest, rfl, hl, hc⟩
      · exact .inl (List.forall_mem_cons.mpr ⟨hd, hcs⟩)
      · exact .inr ⟨d :: l, c, rest, rfl, List.forall_mem_cons.mpr ⟨hd, hl⟩, hc⟩

theorem lines_induction {P : List Char → Prop} (hone : ∀ l, OneLine l → P l)
    (hline : ∀ l c rest, OneLine l → isLineBoundary c = true → P rest → P (l ++ c :: rest))
    (cs : List Char) : P cs := by
  induction hn : cs.length using Nat.strong_induction_on generalizing cs with
  | _ n ih =>
    rcases oneLine_or_split cs with h | ⟨l, c, rest, rfl, hl, hc⟩
    · exact hone cs h
    · exact hline l c rest hl hc (ih rest.length (by simp at hn; omega) rest rfl)

theorem splitLines_oneLine_append (h : OneLine l) (hne : l ≠ []) :
    splitLines keepEnds (l ++ rest) =
      match splitLines keepEnds rest with
      | [] => [l]
      | line :: lines => (l ++ line) :: lines := by
  induction l with
  | nil => exact absurd rfl hne
  | cons c l ih =>
    obtain ⟨hc, hl⟩ := List.forall_mem_cons.mp h
    rw [List.cons_append, splitLines_plain hc]
    cases l with
    | nil => rfl
    | cons d l =>
      rw [ih hl (List.cons_ne_nil _ _)]
      cases splitLines keepEnds rest <;> rfl

theorem flatten_splitLines_eq_filter (cs : List Char) :
    (splitLines false cs).flatten = cs.filter (fun c => !isLineBoundary c) := by
  fun_induction splitLines false cs with
  | case1 => rfl
  | case2 cs ih =>
    rw [List.flatten_cons, ih, List.filter_cons_of_neg (by decide),
      List.filter_cons_of_neg (by decide)]
    rfl
  | case3 c cs _ hc ih =>
    rw [List.flatten_cons, ih, List.filter_cons_of_neg (by simp [hc])]
    rfl
  | case4 c cs _ hc hcs ih =>
    rw [hcs] at ih
    rw [List.filter_cons_of_pos (by simp [hc]), ← ih]
    rfl
  | case5 c cs _ hc line lines hcs ih =>
    rw [hcs] at ih
    rw [List.filter_cons_of_pos (by simp [hc]), ← ih]
    rfl

theorem flatten_splitLines (h : ∀ c ∈ cs, isLineBoundary c = true → c = '\n') :
    (splitLines false cs).flatten = cs.filter (· ≠ '\n') := by
  have hfeed : isLineBoundary '\n' = true := rfl
  rw [flatten_splitLines_eq_filter]
  apply List.filter_congr
  intro c hc
  by_cases hline : c = '\n'
  · simp [hline, hfeed]
  · have hplain : isLineBoundary c = false := Bool.eq_false_iff.mpr fun hb => hline (h c hc hb)
    simp [hline, hplain]

section SplitOn

variable {α : Type*} [DecidableEq α] {a : α} {xs ys part : List α}

theorem length_splitOn (a : α) (xs : List α) : (xs.splitOn a).length = xs.count a + 1 := by
  induction xs with
  | nil => rfl
  | cons x xs ih =>
    rw [List.splitOn_cons_eq_if_modifyHead, List.count_cons]
    split
    · rw [List.length_cons, ih]
    · rw [List.length_modifyHead, ih, Nat.add_zero]

theorem flatten_splitOn (a : α) (xs : List α) :
    (xs.splitOn a).flatten = xs.filter (· ≠ a) := by
  induction xs with
  | nil => rfl
  | cons x xs ih =>
    rw [List.splitOn_cons_eq_if_modifyHead, List.filter_cons]
    by_cases hx : x = a
    · simp [hx, ih]
    · obtain ⟨part, parts, hparts⟩ := List.exists_cons_of_ne_nil (List.splitOn_ne_nil a xs)
      rw [hparts] at ih
      rw [hparts, if_neg (by simp [hx]), if_pos (by simp [hx]), ← ih]
      rfl

theorem length_flatten_splitOn (a : α) (xs : List α) :
    (xs.splitOn a).flatten.length + xs.count a = xs.length := by
  have hcount := List.length_eq_countP_add_countP (· == a) (l := xs)
  have hrest : xs.countP (fun x => decide ¬(x == a) = true) = (xs.filter (· ≠ a)).length := by
    rw [List.countP_eq_length_filter]
    simp
  rw [hrest] at hcount
  rw [flatten_splitOn, hcount, Nat.add_comm]
  rfl

theorem not_mem_of_mem_splitOn (h : part ∈ xs.splitOn a) : a ∉ part := by
  intro ha
  have hmem : a ∈ (xs.splitOn a).flatten := List.mem_flatten.mpr ⟨part, h, ha⟩
  rw [flatten_splitOn] at hmem
  simp at hmem

theorem splitOn_append_of_not_mem (h : a ∉ xs) :
    (xs ++ ys).splitOn a = (ys.splitOn a).modifyHead (xs ++ ·) := by
  induction xs with
  | nil =>
    obtain ⟨first, rest, hsplit⟩ := List.exists_cons_of_ne_nil (List.splitOn_ne_nil a ys)
    simp [hsplit]
  | cons c xs ih =>
    rw [List.mem_cons, not_or] at h
    obtain ⟨first, rest, hsplit⟩ := List.exists_cons_of_ne_nil (List.splitOn_ne_nil a ys)
    rw [List.cons_append, List.splitOn_cons_eq_if_modifyHead, ih h.2, hsplit,
      if_neg (by simpa using fun hc => h.1 hc.symm)]
    rfl

end SplitOn

theorem splitOn_lineFeed (h : ∀ c ∈ cs, isLineBoundary c = true → c = '\n') :
    cs.splitOn '\n' =
      splitLines false cs ++ if cs = [] ∨ cs.getLast? = some '\n' then [[]] else [] := by
  have hfree : ∀ {l}, OneLine l → '\n' ∉ l := fun hl hmem => absurd (hl _ hmem) (by decide)
  induction cs using lines_induction with
  | hone l hl =>
    rw [List.splitOn_eq_singleton (hfree hl)]
    by_cases hnil : l = []
    · rw [hnil, if_pos (Or.inl rfl)]
      rfl
    · have hlast : l.getLast? ≠ some '\n' := fun heq => hfree hl (List.mem_of_getLast? heq)
      rw [splitLines_of_oneLine hl hnil, if_neg (by simp [hnil, hlast]), List.append_nil]
  | hline l c rest hl hc ih =>
    obtain rfl := h c (List.mem_append_right _ List.mem_cons_self) hc
    have hrest := ih fun d hd => h d (List.mem_append_right _ (List.mem_cons_of_mem _ hd))
    have hlast : (l ++ '\n' :: rest).getLast? = some '\n' ↔
        rest = [] ∨ rest.getLast? = some '\n' := by
      rw [List.getLast?_append, List.getLast?_cons]
      cases rest using List.reverseRecOn <;> simp
    have hne : l ++ '\n' :: rest ≠ [] := by simp
    rw [List.splitOn_append_cons_self_of_not_mem (hfree hl), hrest, splitLines_lineFeed hl,
      List.cons_append]
    simp only [hlast, hne, false_or]

theorem splitLines_infix (h : '\r' ∉ cs) : ∀ line ∈ splitLines false cs, line <:+: cs := by
  induction cs using lines_induction with
  | hone l hl =>
    intro line hline
    cases l with
    | nil => exact absurd hline List.not_mem_nil
    | cons c l =>
      rw [splitLines_of_oneLine hl (List.cons_ne_nil _ _), List.mem_singleton] at hline
      rw [hline]
  | hline l c rest hl hc ih =>
    have hr : c ≠ '\r' := by
      rintro rfl
      exact h (List.mem_append_right _ List.mem_cons_self)
    have hrest := ih fun hmem => h (List.mem_append_right _ (List.mem_cons_of_mem _ hmem))
    intro line hline
    rw [splitLines_append_boundary hl hc hr, lineEnd, if_neg Bool.false_ne_true,
      List.append_nil] at hline
    rcases List.mem_cons.mp hline with rfl | hline
    · exact ⟨[], c :: rest, rfl⟩
    · exact (hrest line hline).trans ⟨l ++ [c], [], by simp⟩

theorem infix_append_cons_iff {pat : List Char} (h : c ∉ pat) :
    pat <:+: l ++ c :: rest ↔ pat <:+: l ∨ pat <:+: rest := by
  constructor
  · rintro ⟨pre, post, heq⟩
    rw [List.append_assoc] at heq
    rcases List.append_eq_append_iff.mp heq with ⟨mid, hl, hpost⟩ | ⟨mid, hpre, hrest⟩
    · rcases List.append_eq_append_iff.mp hpost with ⟨mid', hmid, -⟩ | ⟨mid', hpat, hmid⟩
      · exact .inl ⟨pre, mid', by rw [hl, hmid, List.append_assoc]⟩
      · cases mid' with
        | nil => exact .inl ⟨pre, [], by rw [hl, hpat]; simp⟩
        | cons d mid' =>
          obtain ⟨rfl, -⟩ := List.cons.inj hmid
          exact absurd (hpat ▸ List.mem_append_right _ List.mem_cons_self) h
    · cases mid with
      | nil =>
        cases pat with
        | nil => exact .inl (List.nil_infix)
        | cons d pat =>
          obtain ⟨rfl, -⟩ := List.cons.inj hrest
          exact absurd List.mem_cons_self h
      | cons d mid =>
        obtain ⟨-, rfl⟩ := List.cons.inj hrest
        exact .inr ⟨mid, post, List.append_assoc _ _ _⟩
  · rintro (⟨pre, post, rfl⟩ | ⟨pre, post, rfl⟩)
    · exact ⟨pre, post ++ c :: rest, by simp⟩
    · exact ⟨l ++ c :: pre, post, by simp⟩

theorem removePair_of_absent {a b : Char} (h : ¬ [a, b] <:+: cs) : removePair a b cs = cs := by
  induction cs using removePair.induct a b with
  | case1 => rfl
  | case2 c => rfl
  | case3 c d cs hpair ih =>
    obtain ⟨rfl, rfl⟩ := hpair
    exact absurd ⟨[], cs, rfl⟩ h
  | case4 c d cs hpair ih =>
    rw [removePair, if_neg hpair,
      ih fun hoccurs => h (hoccurs.trans (List.suffix_cons c _).isInfix)]

theorem removePair_of_present {a b : Char} (h : [a, b] <:+: cs) :
    ∃ pre rest, cs = pre ++ a :: b :: rest ∧
      removePair a b cs = pre ++ removePair a b rest := by
  induction cs using removePair.induct a b with
  | case1 => simp at h
  | case2 c => exact absurd h.length_le (by simp)
  | case3 c d cs hpair ih =>
    obtain ⟨rfl, rfl⟩ := hpair
    exact ⟨[], cs, rfl, by rw [removePair, if_pos ⟨rfl, rfl⟩]; rfl⟩
  | case4 c d cs hpair ih =>
    rcases List.infix_cons_iff.mp h with hprefix | hoccurs
    · obtain ⟨hac, hrest⟩ := List.cons_prefix_cons.mp hprefix
      obtain ⟨hbd, -⟩ := List.cons_prefix_cons.mp hrest
      exact absurd ⟨hac.symm, hbd.symm⟩ hpair
    · obtain ⟨pre, rest, heq, hremove⟩ := ih hoccurs
      exact ⟨c :: pre, rest, by rw [heq]; rfl, by rw [removePair, if_neg hpair, hremove]; rfl⟩

end Text

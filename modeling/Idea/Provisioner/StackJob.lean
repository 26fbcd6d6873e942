import Idea.Data.DocumentLines
import Idea.Model.Job

/-! # The job in a stack's template

The stack builder appends the job to the template of its stack, as JSON in lines of comments.
The job is recovered from the template by filtering the lines and taking the comment marks out.
-/

namespace Idea

open Text Json

/-- The YAML text of a template. Its lines begin no comment. -/
structure YamlTemplate where
  text : List Char
  begins : ∃ c cs, text = c :: cs ∧ isSpace c = false
  no_comment : ∀ line ∈ splitLines false text, line.head? ≠ some '#'
  no_return : '\r' ∉ text

def ideaJob : List Char := ['I', 'D', 'E', 'A', ' ', 'J', 'o', 'b']

def ruleMark : List Char := ['#', ' ', '-', '-', '-']

namespace CloudFormationStackBuilder

def rule : List Char := ['#', ' '] ++ List.replicate 100 '-'

def overrideNote : Option ℤ → List Char
  | none => []
  | some n => " (TargetCapacity Override: ".toList ++ (toString n).toList ++ [')']

def title (targetCapacityOverride : Option ℤ) : List Char :=
  ['#', ' '] ++ List.replicate 40 ' ' ++ ' ' :: ideaJob ++ overrideNote targetCapacityOverride

def getJobAsYamlComment (targetCapacityOverride : Option ℤ) (jobJson : List Char) : List Char :=
  ['\n', '\n', '\n'] ++ (rule ++ [' ', '\n']) ++ (title targetCapacityOverride ++ ['\n']) ++
    (rule ++ [' ', '\n']) ++ (splitLines true jobJson).flatMap (['#', ' '] ++ ·) ++ ['\n'] ++
    (rule ++ [' ', '\n'])

def getTemplate (toJson : SocaJob → Document) (yamlTemplate : YamlTemplate)
    (targetCapacityOverride : Option ℤ) (job : SocaJob) : List Char :=
  yamlTemplate.text ++ getJobAsYamlComment targetCapacityOverride (toJson job).text

end CloudFormationStackBuilder

namespace AWSUtil

def cloudformationGetTemplate (templateBody : List Char) : Option (List Char) :=
  if stripChars templateBody = [] then none else some (stripChars templateBody)

/-- What the loop over the lines of a template has seen. -/
structure Scan where
  headerBegin : ℤ := -1
  header : ℤ := -1
  headerEnd : ℤ := -1
  jobLines : List (List Char) := []

namespace Scan

def readLine (s : Scan) (index : ℕ) (line : List Char) : Scan :=
  if line.head? ≠ some '#' then s
  else if ruleMark <+: line then
    if 0 ≤ s.header then { s with headerEnd := index } else { s with headerBegin := index }
  else if ideaJob <:+: line then { s with header := index }
  else if 0 ≤ s.headerBegin ∧ 0 < s.header ∧ 0 < s.headerEnd then
    { s with jobLines := s.jobLines ++ [removePair '#' ' ' line] }
  else s

def readLines (s : Scan) (index : ℕ) : List (List Char) → Scan
  | [] => s
  | line :: lines => (s.readLine index line).readLines (index + 1) lines

end Scan

/-- `load` builds the job from the tokens of its JSON text. -/
def getSocaJobFromStack (load : List Token → Except Raised SocaJob)
    (template : Option (List Char)) : Except Raised (Option SocaJob) :=
  match template with
  | none => .ok none
  | some template =>
    let jobLines := (Scan.readLines {} 0 (splitLines false template)).jobLines
    if jobLines.length = 0 then .ok none
    else
      match tokens jobLines.flatten with
      | none => .error .valueError
      | some ts => (load ts).map some

end AWSUtil

/-! ## The lines that are read -/

namespace AWSUtil.Scan

variable {s : Scan} {index : ℕ} {line : List Char} {lines rest : List (List Char)}

def jobLine? (line : List Char) : Option (List Char) :=
  if line.head? ≠ some '#' ∨ ruleMark <+: line ∨ ideaJob <:+: line then none
  else some (removePair '#' ' ' line)

theorem readLine_skip (h : line.head? ≠ some '#') : s.readLine index line = s := if_pos h

theorem readLine_rule (h : ruleMark <+: line) :
    s.readLine index line =
      if 0 ≤ s.header then { s with headerEnd := index } else { s with headerBegin := index } := by
  obtain ⟨post, rfl⟩ := h
  rw [readLine, if_neg (fun h => h rfl), if_pos (List.prefix_append _ _)]

theorem readLine_title (hhead : line.head? = some '#') (hrule : ¬ ruleMark <+: line)
    (hidea : ideaJob <:+: line) : s.readLine index line = { s with header := index } := by
  rw [readLine, if_neg (fun h => h hhead), if_neg hrule, if_pos hidea]

theorem readLines_skip (h : ∀ line ∈ lines, line.head? ≠ some '#') :
    s.readLines index (lines ++ rest) = s.readLines (index + lines.length) rest := by
  induction lines generalizing index with
  | nil => rfl
  | cons line lines ih =>
    obtain ⟨hline, hlines⟩ := List.forall_mem_cons.mp h
    rw [List.cons_append, readLines, readLine_skip hline, ih hlines, List.length_cons,
      Nat.add_right_comm, Nat.add_assoc]

structure InBody (s : Scan) : Prop where
  headerBegin : 0 ≤ s.headerBegin
  header : 0 < s.header
  headerEnd : 0 < s.headerEnd

theorem InBody.readLine (h : s.InBody) (hi : 0 < index) (line : List Char) :
    (s.readLine index line).InBody ∧
      (s.readLine index line).jobLines = s.jobLines ++ (jobLine? line).toList := by
  have hi' : (0 : ℤ) < index := Int.natCast_pos.mpr hi
  unfold Scan.readLine jobLine?
  split
  · rename_i hhead
    rw [if_pos (.inl hhead)]
    exact ⟨h, (List.append_nil _).symm⟩
  split
  · rename_i hrule
    rw [if_pos h.header.le, if_pos (.inr (.inl hrule))]
    exact ⟨⟨h.headerBegin, h.header, hi'⟩, (List.append_nil _).symm⟩
  split
  · rename_i hidea
    rw [if_pos (.inr (.inr hidea))]
    exact ⟨⟨h.headerBegin, hi', h.headerEnd⟩, (List.append_nil _).symm⟩
  · rename_i hhead hrule hidea
    rw [if_pos ⟨h.headerBegin, h.header, h.headerEnd⟩, if_neg (by tauto)]
    exact ⟨⟨h.headerBegin, h.header, h.headerEnd⟩, rfl⟩

theorem InBody.readLines (h : s.InBody) (hi : 0 < index) :
    (s.readLines index lines).jobLines = s.jobLines ++ lines.filterMap jobLine? := by
  induction lines generalizing s index with
  | nil => exact (List.append_nil _).symm
  | cons line lines ih =>
    obtain ⟨hbody, hline⟩ := h.readLine hi line
    rw [Scan.readLines, ih hbody (Nat.succ_pos _), hline, List.append_assoc]
    congr 1
    cases hjob : jobLine? line <;> simp [hjob]

theorem readLines_header (hskip : ∀ line ∈ lines, line.head? ≠ some '#') {rule title : List Char}
    (hrule : ruleMark <+: rule) (hhead : title.head? = some '#')
    (htitle : ¬ ruleMark <+: title) (hidea : ideaJob <:+: title) :
    (readLines {} 0 (lines ++ rule :: title :: rule :: rest)).jobLines =
      rest.filterMap jobLine? := by
  rw [readLines_skip hskip, Nat.zero_add]
  simp only [readLines, readLine_rule hrule, readLine_title hhead htitle hidea]
  rw [if_neg (by decide : ¬ (0 : ℤ) ≤ -1)]
  dsimp only
  rw [if_pos (Int.natCast_nonneg _)]
  refine InBody.readLines ⟨?_, ?_, ?_⟩ (Nat.succ_pos _)
  · exact Int.natCast_nonneg _
  · exact Int.natCast_pos.mpr (Nat.succ_pos _)
  · exact Int.natCast_pos.mpr (Nat.succ_pos _)

end AWSUtil.Scan

/-! ## The lines that are written -/

namespace CloudFormationStackBuilder

open AWSUtil AWSUtil.Scan

theorem splitLines_append_lineFeed {cs : List Char} (h : '\r' ∉ cs) (rest : List Char) :
    ∃ lines, splitLines false (cs ++ '\n' :: rest) = lines ++ splitLines false rest ∧
      ∀ line ∈ lines, line = [] ∨ line ∈ splitLines false cs := by
  induction cs using lines_induction with
  | hone l hl =>
    refine ⟨[l], ?_, ?_⟩
    · rw [splitLines_append_boundary hl rfl (by decide)]
      simp [lineEnd]
    · intro line hline
      rw [List.mem_singleton.mp hline]
      cases l with
      | nil => exact .inl rfl
      | cons c l =>
        rw [splitLines_of_oneLine hl (List.cons_ne_nil _ _)]
        exact .inr List.mem_cons_self
  | hline l c cs hl hc ih =>
    have hr : c ≠ '\r' := by
      rintro rfl
      exact h (List.mem_append_right _ List.mem_cons_self)
    obtain ⟨lines, heq, hlines⟩ :=
      ih fun hmem => h (List.mem_append_right _ (List.mem_cons_of_mem _ hmem))
    refine ⟨(l ++ lineEnd false [c]) :: lines, ?_, ?_⟩
    · rw [List.append_assoc, List.cons_append, splitLines_append_boundary hl hc hr, heq]
      rfl
    · rw [splitLines_append_boundary hl hc hr]
      intro line hline
      rcases List.mem_cons.mp hline with rfl | hline
      · exact .inr List.mem_cons_self
      · exact (hlines line hline).imp_right (List.mem_cons_of_mem _)

theorem filterMap_comment {json : List Char} (h : '\r' ∉ json) (rest : List Char) :
    (splitLines false ((splitLines true json).flatMap (['#', ' '] ++ ·) ++
        '\n' :: rest)).filterMap jobLine? =
      (splitLines false json).filterMap (fun line => jobLine? (['#', ' '] ++ line)) ++
        (splitLines false rest).filterMap jobLine? := by
  have hmark : ∀ {l}, OneLine l → OneLine (['#', ' '] ++ l) := by
    intro l hl c hc
    rcases List.mem_append.mp hc with hc | hc
    · exact (List.all_iff_forall_prop.mp (by decide) :
        ∀ c ∈ ['#', ' '], isLineBoundary c = false) c hc
    · exact hl c hc
  induction json using lines_induction with
  | hone l hl =>
    cases l with
    | nil =>
      have hblank : splitLines false ('\n' :: rest) = [] :: splitLines false rest :=
        splitLines_boundary rfl (by decide)
      change (splitLines false ('\n' :: rest)).filterMap jobLine? = _
      rw [hblank]
      rfl
    | cons c l =>
      rw [splitLines_of_oneLine hl (List.cons_ne_nil _ _),
        splitLines_of_oneLine hl (List.cons_ne_nil _ _), List.flatMap_singleton,
        splitLines_lineFeed (hmark hl), ← List.singleton_append, List.filterMap_append]
      rfl
  | hline l c cs hl hc ih =>
    have hr : c ≠ '\r' := by
      rintro rfl
      exact h (List.mem_append_right _ List.mem_cons_self)
    have hrest := ih fun hmem => h (List.mem_append_right _ (List.mem_cons_of_mem _ hmem))
    have htext : (splitLines true (l ++ c :: cs)).flatMap (['#', ' '] ++ ·) ++ '\n' :: rest =
        (['#', ' '] ++ l) ++ c :: ((splitLines true cs).flatMap (['#', ' '] ++ ·) ++
          '\n' :: rest) := by
      rw [splitLines_append_boundary hl hc hr]
      simp [lineEnd]
    rw [htext, splitLines_append_boundary (hmark hl) hc hr, splitLines_append_boundary hl hc hr,
      lineEnd, if_neg Bool.false_ne_true, List.append_nil, List.append_nil,
      ← List.singleton_append, List.filterMap_append, hrest, ← List.append_assoc,
      ← List.singleton_append (x := l), List.filterMap_append]
    rfl

theorem oneLine_toString (n : ℤ) : OneLine (toString n).toList := by
  have hdigits : ∀ m : ℕ, OneLine m.repr.toList := by
    intro m c hc
    rw [Nat.toList_repr] at hc
    have hdigit := Nat.isDigit_of_mem_toDigits (by decide) (by decide) hc
    refine Bool.eq_false_iff.mpr fun hb => Bool.false_ne_true (Eq.trans ?_ hdigit)
    exact (forall_isLineBoundary (P := fun c => c.isDigit = false) (by decide) hb).symm
  rw [Int.toString_eq_repr, Int.repr_eq_if]
  split
  · exact hdigits _
  · intro c hc
    rw [String.toList_append] at hc
    rcases List.mem_append.mp hc with hc | hc
    · exact (List.all_iff_forall_prop.mp (by decide) :
        ∀ c ∈ "-".toList, isLineBoundary c = false) c hc
    · exact hdigits _ c hc

theorem oneLine_append {xs ys : List Char} (hx : OneLine xs) (hy : OneLine ys) :
    OneLine (xs ++ ys) := fun c hc => (List.mem_append.mp hc).elim (hx c) (hy c)

theorem oneLine_title (targetCapacityOverride : Option ℤ) :
    OneLine (title targetCapacityOverride) := by
  refine oneLine_append ?_ ?_
  · exact List.all_iff_forall_prop.mp (by decide)
  cases targetCapacityOverride with
  | none => exact fun c hc => absurd hc List.not_mem_nil
  | some n =>
    refine oneLine_append (oneLine_append ?_ (oneLine_toString n)) ?_
    · exact List.all_iff_forall_prop.mp (by decide)
    · exact List.all_iff_forall_prop.mp (by decide)

theorem oneLine_rule : OneLine (rule ++ [' ']) := by
  exact List.all_iff_forall_prop.mp (by decide)

theorem head?_title (targetCapacityOverride : Option ℤ) :
    (title targetCapacityOverride).head? = some '#' := rfl

theorem not_ruleMark_title (targetCapacityOverride : Option ℤ) :
    ¬ ruleMark <+: title targetCapacityOverride := by
  rintro ⟨post, h⟩
  cases h

theorem ideaJob_title (targetCapacityOverride : Option ℤ) :
    ideaJob <:+: title targetCapacityOverride := by
  exact ⟨['#', ' '] ++ List.replicate 40 ' ' ++ [' '], overrideNote targetCapacityOverride,
    by simp [title]⟩

variable (toJson : SocaJob → Document) (yamlTemplate : YamlTemplate)
  (targetCapacityOverride : Option ℤ) (job : SocaJob)

def storedTemplate : List Char :=
  yamlTemplate.text ++ '\n' :: '\n' :: '\n' :: ((rule ++ [' ']) ++ '\n' ::
    (title targetCapacityOverride ++ '\n' :: ((rule ++ [' ']) ++ '\n' ::
      ((splitLines true (toJson job).text).flatMap (['#', ' '] ++ ·) ++ '\n' :: rule))))

theorem cloudformationGetTemplate_getTemplate :
    cloudformationGetTemplate (getTemplate toJson yamlTemplate targetCapacityOverride job) =
      some (storedTemplate toJson yamlTemplate targetCapacityOverride job) := by
  set stored := storedTemplate toJson yamlTemplate targetCapacityOverride job with hstored
  have htemplate : getTemplate toJson yamlTemplate targetCapacityOverride job =
      stored ++ [' ', '\n'] := by
    simp [getTemplate, getJobAsYamlComment, hstored, storedTemplate]
  obtain ⟨c, cs, htext, hc⟩ := yamlTemplate.begins
  have hfirst : ∃ cs, stored = c :: cs := ⟨_, by rw [hstored, storedTemplate, htext]; rfl⟩
  have hlast : ∃ cs, stored = cs ++ ['-'] := by
    have hrule : rule = ['#', ' '] ++ List.replicate 99 '-' ++ ['-'] := rfl
    obtain ⟨pre, hpre⟩ : ∃ pre, stored = pre ++ rule := by
      rw [hstored, storedTemplate]
      simp only [← List.append_assoc, ← List.cons_append]
      exact ⟨_, List.append_cons _ _ _⟩
    exact ⟨_, by rw [hpre, hrule, ← List.append_assoc]⟩
  have hstrip : stripChars (stored ++ [' ', '\n']) = stored := by
    obtain ⟨cs, hcs⟩ := hfirst
    obtain ⟨ds, hds⟩ := hlast
    have hstart : (stored ++ [' ', '\n']).dropWhile isSpace = stored ++ [' ', '\n'] := by
      rw [hcs, List.cons_append, List.dropWhile_cons_of_neg (Bool.eq_false_iff.mp hc)]
    have hend : (stored ++ [' ', '\n']).reverse.dropWhile isSpace = stored.reverse := by
      rw [hds]
      simp [isSpace]
    rw [stripChars, hstart, hend, List.reverse_reverse]
  rw [cloudformationGetTemplate, htemplate, hstrip, if_neg]
  obtain ⟨cs, h⟩ := hfirst
  rw [h]
  exact List.cons_ne_nil _ _

def keptLines (json : List Char) : List (List Char) :=
  (splitLines false json).filterMap fun line => jobLine? (['#', ' '] ++ line)

theorem return_not_mem (d : Document) : '\r' ∉ d.text := by
  intro h
  rcases d.boundary_text h rfl with heq | ⟨_, _, _, hverbatim⟩
  · cases heq
  · cases hverbatim

theorem jobLines_storedTemplate :
    (Scan.readLines {} 0 (splitLines false
      (storedTemplate toJson yamlTemplate targetCapacityOverride job))).jobLines =
        keptLines (toJson job).text := by
  have hlast : (splitLines false rule).filterMap jobLine? = [] := by decide
  obtain ⟨lines, hlines, hskip⟩ := splitLines_append_lineFeed yamlTemplate.no_return
    ('\n' :: '\n' :: ((rule ++ [' ']) ++ '\n' :: (title targetCapacityOverride ++ '\n' ::
      ((rule ++ [' ']) ++ '\n' :: ((splitLines true (toJson job).text).flatMap
        (['#', ' '] ++ ·) ++ '\n' :: rule)))))
  have hskip' : ∀ line ∈ lines ++ [[], []], line.head? ≠ some '#' := by
    intro line hline
    rcases List.mem_append.mp hline with hline | hline
    · rcases hskip line hline with rfl | hline
      · exact nofun
      · exact yamlTemplate.no_comment line hline
    · obtain rfl : line = [] := by simpa using hline
      exact nofun
  have hblank : ∀ rest, splitLines false ('\n' :: rest) = [] :: splitLines false rest :=
    fun rest => splitLines_boundary rfl (by decide)
  have hskipped : ∀ rest, lines ++ [] :: [] :: rest = (lines ++ [[], []]) ++ rest := by simp
  rw [storedTemplate, hlines, hblank, hblank, splitLines_lineFeed oneLine_rule,
    splitLines_lineFeed (oneLine_title _), splitLines_lineFeed oneLine_rule, hskipped,
    readLines_header hskip' (by decide) (head?_title _) (not_ruleMark_title _) (ideaJob_title _),
    filterMap_comment (return_not_mem _), hlast, List.append_nil]
  rfl

theorem recovered_iff (load : List Token → Except Raised SocaJob) :
    getSocaJobFromStack load (cloudformationGetTemplate
        (getTemplate toJson yamlTemplate targetCapacityOverride job)) = .ok (some job) ↔
      keptLines (toJson job).text ≠ [] ∧
        ∃ ts, tokens (keptLines (toJson job).text).flatten = some ts ∧ load ts = .ok job := by
  rw [cloudformationGetTemplate_getTemplate, getSocaJobFromStack]
  simp only [jobLines_storedTemplate, List.length_eq_zero_iff]
  split
  · rename_i hnone
    constructor
    · intro h
      cases h
    · rintro ⟨hne, _⟩
      exact absurd hnone hne
  · rename_i hne
    cases htokens : tokens (keptLines (toJson job).text).flatten with
    | none =>
      constructor
      · intro h
        cases h
      · rintro ⟨_, ts, hts, _⟩
        cases hts
    | some ts =>
      dsimp only
      constructor
      · intro h
        refine ⟨hne, ts, rfl, ?_⟩
        cases hload : load ts with
        | error e => rw [hload] at h; cases h
        | ok job' =>
          rw [hload] at h
          exact congrArg _ (Option.some.inj (Except.ok.inj h))
      · rintro ⟨_, ts', hts, hload⟩
        obtain rfl := Option.some.inj hts
        rw [hload]
        rfl

end CloudFormationStackBuilder

/-! ## What is lost -/

namespace StackJob

open AWSUtil.Scan CloudFormationStackBuilder

def lineSeparators : List Char := [0x85, 0x2028, 0x2029].map Char.ofNat

/-- A text that comes back from a comment as it is. -/
structure Recoverable (text : List Char) : Prop where
  no_mark : ¬ ['#', ' '] <:+: text
  no_title : ¬ ideaJob <:+: text
  no_separator : ∀ c ∈ lineSeparators, c ∉ text

def lostChars : List Char := '#' :: 'I' :: lineSeparators

variable {l cs : List Char} {us : List Glyph}

theorem jobLine?_mark (line : List Char) : jobLine? (['#', ' '] ++ line) =
    if ['-', '-', '-'] <+: line ∨ ideaJob <:+: line then none
    else some (removePair '#' ' ' line) := by
  have hrule : ruleMark <+: '#' :: ' ' :: line ↔ ['-', '-', '-'] <+: line := by
    simp [ruleMark]
  have hidea : ideaJob <:+: '#' :: ' ' :: line ↔ ideaJob <:+: line := by
    simp [ideaJob, List.infix_cons_iff, List.cons_prefix_cons]
  have hpair : removePair '#' ' ' ('#' :: ' ' :: line) = removePair '#' ' ' line := by
    rw [removePair, if_pos ⟨rfl, rfl⟩]
  change jobLine? ('#' :: ' ' :: line) = _
  simp only [jobLine?, hrule, hidea, hpair, List.head?_cons, ne_eq, not_true_eq_false, false_or]

def keptLine (l : List Char) : List Char := (jobLine? (['#', ' '] ++ l)).getD []

theorem flatten_filterMap_cons {α β : Type*} (f : α → Option (List β)) (a : α) (as : List α) :
    ((a :: as).filterMap f).flatten = (f a).getD [] ++ (as.filterMap f).flatten := by
  cases h : f a <;> simp [h]

theorem flatten_keptLines_of_oneLine (h : OneLine l) : (keptLines l).flatten = keptLine l := by
  cases l with
  | nil => rfl
  | cons c l =>
    rw [keptLines, splitLines_of_oneLine h (List.cons_ne_nil _ _), flatten_filterMap_cons]
    exact List.append_nil _

variable {c : Char}

theorem flatten_keptLines_append (hl : OneLine l) (hc : isLineBoundary c = true) (hr : c ≠ '\r') :
    (keptLines (l ++ c :: cs)).flatten =
      keptLine l ++ (keptLines cs).flatten := by
  rw [keptLines, splitLines_append_boundary hl hc hr, lineEnd, if_neg Bool.false_ne_true,
    List.append_nil, flatten_filterMap_cons]
  rfl

theorem glyphCount_le {vs : List Glyph} (h : vs.Sublist us) (c : Char) :
    glyphCount c vs ≤ glyphCount c us := (h.map _).count_le c

theorem glyphCount_pos (h : ∀ u ∈ us, u.Written) (hc : Unescaped c) (hmem : c ∈ spell us) :
    0 < glyphCount c us := by
  obtain ⟨pre, post, heq⟩ := List.append_of_mem hmem
  obtain ⟨vs, ws, rfl, -, -⟩ := spell_eq_append_cons h hc heq
  exact List.count_pos_iff.mpr (List.mem_map.mpr
    ⟨.plain c, List.mem_append_right _ List.mem_cons_self, rfl⟩)

theorem stringOnly_of_lost (hc : c ∈ lostChars) : StringOnly c :=
  stringOnly ((List.all_iff_forall_prop.mp (by decide) : ∀ c ∈ lostChars,
    c ∉ escapeChars ∧ needsEscape c = false ∧ isBlank c = false ∧ markOf c = none ∧
      isLiteralChar c = false) c hc)

theorem unescaped_of_lost (hc : c ∈ lostChars) : Unescaped c :=
  (stringOnly_of_lost hc).unescaped

theorem separator_of_boundary (hc : isLineBoundary c = true) (hverbatim : needsEscape c = false) :
    c ∈ lineSeparators := by
  have hcases : needsEscape c = true ∨ c ∈ lineSeparators :=
    forall_isLineBoundary (P := fun c => needsEscape c = true ∨ c ∈ lineSeparators)
      (by decide) hc
  exact hcases.resolve_left (Bool.eq_false_iff.mp hverbatim)

/-- Glyphs that are left, and fewer of some character unless the text comes back as it is. -/
structure LeftOf (us vs : List Glyph) : Prop where
  sublist : vs.Sublist us
  lost : ¬ Recoverable (spell us) → ∃ c ∈ lostChars, glyphCount c vs < glyphCount c us

theorem exists_removePair (h : ∀ u ∈ us, u.Written) :
    ∃ vs, vs.Sublist us ∧ spell vs = removePair '#' ' ' (spell us) ∧
      (['#', ' '] <:+: spell us → glyphCount '#' vs < glyphCount '#' us) := by
  induction hn : us.length using Nat.strong_induction_on generalizing us with
  | _ n ih =>
    by_cases hpair : ['#', ' '] <:+: spell us
    · obtain ⟨pre, rest, heq, hremove⟩ := removePair_of_present hpair
      obtain ⟨before, after, rfl, rfl, hafter⟩ :=
        spell_eq_append_cons h (unescaped_of_lost (by decide)) heq
      obtain ⟨after, rfl, rfl⟩ :=
        spell_eq_append (List.all_iff_forall_prop.mp (by decide) : ∀ c ∈ [' '], c ≠ '\\') (hafter : _ = [' '] ++ rest)
      have hwritten : ∀ u ∈ after, u.Written := fun u hu =>
        h u (by simp [hu])
      obtain ⟨vs, hsub, hvs, -⟩ := ih after.length (by simp at hn; omega) hwritten rfl
      refine ⟨before ++ vs, ?_, ?_, fun _ => ?_⟩
      · exact (List.Sublist.refl before).append
          ((hsub.trans (List.sublist_cons_self _ _)).trans (List.sublist_cons_self _ _))
      · rw [spell_append, hvs, hremove]
      · have hle := glyphCount_le hsub '#'
        simp only [glyphCount_append, glyphCount_cons, List.map_cons, List.map_nil,
          List.cons_append, List.nil_append]
        have hmark : [(Glyph.plain '#').char].count '#' = 1 := rfl
        omega
    · exact ⟨us, List.Sublist.refl us, (removePair_of_absent hpair).symm,
        fun h => absurd h hpair⟩

theorem exists_keptLine (h : ∀ u ∈ us, u.Written) (hone : OneLine (spell us)) :
    ∃ vs, spell vs = keptLine (spell us) ∧ LeftOf us vs := by
  have hseparator : ∀ c ∈ lineSeparators, c ∉ spell us := by
    intro c hc hmem
    have hboundary := (List.all_iff_forall_prop.mp (by decide) :
      ∀ c ∈ lineSeparators, isLineBoundary c = true) c hc
    exact absurd hboundary (Bool.eq_false_iff.mp (hone c hmem))
  rw [keptLine, jobLine?_mark]
  split
  · refine ⟨[], rfl, List.nil_sublist _, fun hlost => ?_⟩
    have hmem : ∀ {c pat}, c ∈ lostChars → c :: pat <:+: spell us →
        ∃ c ∈ lostChars, glyphCount c [] < glyphCount c us := by
      intro c pat hc hoccurs
      exact ⟨c, hc, glyphCount_pos h (unescaped_of_lost hc)
        (hoccurs.subset List.mem_cons_self)⟩
    by_cases hpair : ['#', ' '] <:+: spell us
    · exact hmem (by decide) hpair
    by_cases htitle : ideaJob <:+: spell us
    · exact hmem (by decide) htitle
    exact absurd ⟨hpair, htitle, hseparator⟩ hlost
  · rename_i hkept
    obtain ⟨vs, hsub, hvs, hcount⟩ := exists_removePair h
    refine ⟨vs, hvs, hsub, fun hlost => ⟨'#', by decide, hcount ?_⟩⟩
    by_contra hpair
    exact hlost ⟨hpair, fun htitle => hkept (.inr htitle), hseparator⟩

theorem recoverable_append {l cs : List Char} (hc : c = '\n') (hl : Recoverable l)
    (hcs : Recoverable cs) : Recoverable (l ++ c :: cs) := by
  obtain rfl := hc
  refine ⟨fun h => ?_, fun h => ?_, fun c hc hmem => ?_⟩
  · exact ((infix_append_cons_iff (by decide)).mp h).elim hl.no_mark hcs.no_mark
  · exact ((infix_append_cons_iff (by decide)).mp h).elim hl.no_title hcs.no_title
  · rcases List.mem_append.mp hmem with hmem | hmem
    · exact hl.no_separator c hc hmem
    rcases List.mem_cons.mp hmem with rfl | hmem
    · exact absurd hc (by decide)
    · exact hcs.no_separator c hc hmem

theorem LeftOf.append {us₁ us₂ vs₁ vs₂ : List Glyph} (h₁ : LeftOf us₁ vs₁) (h₂ : LeftOf us₂ vs₂)
    (hc : c = '\n' ∨ c ∈ lineSeparators) : LeftOf (us₁ ++ .plain c :: us₂) (vs₁ ++ vs₂) := by
  refine ⟨h₁.sublist.append (h₂.sublist.trans (List.sublist_cons_self _ _)), fun hlost => ?_⟩
  have hcount : ∀ d, glyphCount d (us₁ ++ .plain c :: us₂) =
      glyphCount d us₁ + ([c].count d + glyphCount d us₂) := by
    intro d
    rw [glyphCount_append, glyphCount_cons]
    rfl
  have hle₁ := glyphCount_le h₁.sublist
  have hle₂ := glyphCount_le h₂.sublist
  rcases hc with hc | hc
  · by_cases hrec₁ : Recoverable (spell us₁)
    · have hrec₂ : ¬ Recoverable (spell us₂) := by
        intro hrec₂
        refine hlost ?_
        rw [spell_append, spell_cons, Glyph.spell_plain]
        exact recoverable_append hc hrec₁ hrec₂
      obtain ⟨d, hd, hlt⟩ := h₂.lost hrec₂
      have hle := hle₁ d
      exact ⟨d, hd, by rw [hcount, glyphCount_append]; omega⟩
    · obtain ⟨d, hd, hlt⟩ := h₁.lost hrec₁
      have hle := hle₂ d
      exact ⟨d, hd, by rw [hcount, glyphCount_append]; omega⟩
  · have h₁ := hle₁ c
    have h₂ := hle₂ c
    have hself : [c].count c = 1 := List.count_singleton_self
    exact ⟨c, List.mem_cons_of_mem _ (List.mem_cons_of_mem _ hc),
      by rw [hcount, glyphCount_append]; omega⟩

theorem exists_keptText (h : ∀ u ∈ us, u.Written) (heq : spell us = cs)
    (hends : ∀ c ∈ cs, isLineBoundary c = true → c = '\n' ∨ c ∈ lineSeparators) :
    ∃ vs, spell vs = (keptLines cs).flatten ∧ LeftOf us vs := by
  induction cs using lines_induction generalizing us with
  | hone l hl =>
    rw [flatten_keptLines_of_oneLine hl, ← heq]
    exact exists_keptLine h (heq ▸ hl)
  | hline l c cs hl hc ih =>
    have hescape : Unescaped c := unescaped_of_not_mem
      (forall_isLineBoundary (P := fun c => c ∉ escapeChars) (by decide) hc)
    have hend : c = '\n' ∨ c ∈ lineSeparators :=
      hends c (List.mem_append_right _ List.mem_cons_self) hc
    have hr : c ≠ '\r' := by
      rintro rfl
      exact absurd hend (by decide)
    obtain ⟨us₁, us₂, rfl, rfl, rfl⟩ := spell_eq_append_cons h hescape heq
    obtain ⟨vs₁, hvs₁, hleft₁⟩ := exists_keptLine
      (fun u hu => h u (List.mem_append_left _ hu)) hl
    obtain ⟨vs₂, hvs₂, hleft₂⟩ := ih
      (fun u hu => h u (List.mem_append_right _ (List.mem_cons_of_mem _ hu))) rfl
      (fun d hd => hends d (List.mem_append_right _ (List.mem_cons_of_mem _ hd)))
    refine ⟨vs₁ ++ vs₂, ?_, hleft₁.append hleft₂ hend⟩
    rw [spell_append, hvs₁, hvs₂, flatten_keptLines_append hl hc hr]

theorem keptLines_of_recoverable (hr : '\r' ∉ cs)
    (hrule : ∀ line ∈ splitLines false cs, ¬ ['-', '-'] <+: line) (h : Recoverable cs) :
    keptLines cs = splitLines false cs := by
  have hline : ∀ line ∈ splitLines false cs, jobLine? (['#', ' '] ++ line) = some line := by
    intro line hmem
    have hpiece := splitLines_infix hr line hmem
    have hpair : ¬ ['#', ' '] <:+: line := fun hp => h.no_mark (hp.trans hpiece)
    rw [jobLine?_mark, removePair_of_absent hpair, if_neg]
    rintro (hdashes | htitle)
    · exact hrule line hmem (List.IsPrefix.trans ⟨['-'], rfl⟩ hdashes)
    · exact h.no_title (htitle.trans hpiece)
  exact (List.filterMap_congr hline).trans List.filterMap_some

section Recovery

variable (d : Document)

theorem mem_text_iff (hc : StringOnly c) : c ∈ d.text ↔ ∃ text ∈ d.strings, c ∈ text := by
  have hsingle : ∀ cs : List Char, c ∈ cs ↔ [c] <:+: cs := by
    intro cs
    constructor
    · intro hmem
      obtain ⟨pre, post, rfl⟩ := List.append_of_mem hmem
      exact ⟨pre, post, by simp⟩
    · exact fun hoccurs => hoccurs.subset List.mem_cons_self
  rw [hsingle, d.infix_text_iff hc fun _ h => absurd h List.not_mem_nil]
  simp only [hsingle]

theorem recoverable_text_iff : Recoverable d.text ↔ ∀ text ∈ d.strings, Recoverable text := by
  have hmark : ['#', ' '] <:+: d.text ↔ ∃ text ∈ d.strings, ['#', ' '] <:+: text :=
    d.infix_text_iff (stringOnly_of_lost (by decide)) (List.all_iff_forall_prop.mp (by decide))
  have htitle : ideaJob <:+: d.text ↔ ∃ text ∈ d.strings, ideaJob <:+: text :=
    d.infix_text_iff (stringOnly_of_lost (by decide)) (List.all_iff_forall_prop.mp (by decide))
  have hseparator : ∀ c ∈ lineSeparators, c ∈ d.text ↔ ∃ text ∈ d.strings, c ∈ text :=
    fun c hc => mem_text_iff d
      (stringOnly_of_lost (List.mem_cons_of_mem _ (List.mem_cons_of_mem _ hc)))
  constructor
  · intro h text htext
    exact ⟨fun hp => h.no_mark (hmark.mpr ⟨text, htext, hp⟩),
      fun ht => h.no_title (htitle.mpr ⟨text, htext, ht⟩),
      fun c hc hmem => h.no_separator c hc ((hseparator c hc).mpr ⟨text, htext, hmem⟩)⟩
  · intro h
    refine ⟨fun hp => ?_, fun ht => ?_, fun c hc hmem => ?_⟩
    · obtain ⟨text, htext, hoccurs⟩ := hmark.mp hp
      exact (h text htext).no_mark hoccurs
    · obtain ⟨text, htext, hoccurs⟩ := htitle.mp ht
      exact (h text htext).no_title hoccurs
    · obtain ⟨text, htext, hmem⟩ := (hseparator c hc).mp hmem
      exact (h text htext).no_separator c hc hmem

theorem boundary_cases (hmem : c ∈ d.text) (hc : isLineBoundary c = true) :
    c = '\n' ∨ c ∈ lineSeparators := by
  rcases d.boundary_text hmem hc with heq | ⟨_, _, _, hverbatim⟩
  · exact .inl heq
  · exact .inr (separator_of_boundary hc hverbatim)

theorem flatten_keptLines_of_recoverable (h : Recoverable d.text) :
    (keptLines d.text).flatten = d.joined.text := by
  have hends : ∀ c ∈ d.text, isLineBoundary c = true → c = '\n' := fun c hmem hc =>
    (boundary_cases d hmem hc).resolve_right fun hsep => h.no_separator c hsep hmem
  have hstrings : ∀ text ∈ d.strings, ∀ c ∈ text, needsEscape c = false →
      isLineBoundary c = false := by
    intro text htext c hmem hverbatim
    refine Bool.eq_false_iff.mpr fun hc => ?_
    exact ((recoverable_text_iff d).mp h text htext).no_separator c
      (separator_of_boundary hc hverbatim) hmem
  rw [keptLines_of_recoverable (return_not_mem d) (d.not_dashes_line hstrings) h,
    flatten_splitLines hends, d.text_joined]

theorem charCount_lt_of_not_recoverable (h : ¬ Recoverable d.text) {ts : List Token}
    (hts : tokens (keptLines d.text).flatten = some ts) :
    ∃ c ∈ lostChars, charCount c ts < charCount c d.tokens := by
  obtain ⟨vs, hvs, hleft⟩ :=
    exists_keptText d.written (rfl : spell d.glyphs = d.text) fun c => boundary_cases d
  have hkept : spell vs = (keptLines d.text).flatten := hvs
  obtain ⟨c, hc, hlt⟩ := hleft.lost h
  have hglyphs := glyphs_spell (fun u hu => d.written u (hleft.sublist.subset hu)) []
  rw [List.append_nil, hkept] at hglyphs
  rw [tokens, hglyphs] at hts
  have hgroup : group (.outside []) vs = some ts := by simpa [glyphs] using hts
  have hle := charCount_group_le c hgroup
  rw [Mode.text, List.count_nil, Nat.zero_add] at hle
  rw [(stringOnly_of_lost hc).glyphCount_glyphs] at hlt
  exact ⟨c, hc, hle.trans_lt hlt⟩

end Recovery

/-- The job is recovered exactly when each text in its JSON comes back from a comment as it is.
`load` reads what was written of the job, and makes up none of the characters that get lost. -/
theorem job_recovered_iff (toJson : SocaJob → Document)
    (load : List Token → Except Raised SocaJob) (yamlTemplate : YamlTemplate)
    (targetCapacityOverride : Option ℤ) (job : SocaJob)
    (hload : load (toJson job).tokens = .ok job)
    (hkeeps : ∀ ts, load ts = .ok job → ∀ c ∈ lostChars,
      charCount c (toJson job).tokens ≤ charCount c ts) :
    AWSUtil.getSocaJobFromStack load (AWSUtil.cloudformationGetTemplate
        (getTemplate toJson yamlTemplate targetCapacityOverride job)) = .ok (some job) ↔
      ∀ text ∈ (toJson job).strings, Recoverable text := by
  rw [recovered_iff, ← recoverable_text_iff]
  constructor
  · rintro ⟨-, ts, hts, hjob⟩
    by_contra h
    obtain ⟨c, hc, hlt⟩ := charCount_lt_of_not_recoverable _ h hts
    exact absurd hlt (hkeeps ts hjob c hc).not_gt
  · intro h
    have htokens : tokens (keptLines (toJson job).text).flatten = some (toJson job).tokens := by
      rw [flatten_keptLines_of_recoverable _ h, Document.tokens_text, Document.tokens_joined]
    refine ⟨fun hnone => ?_, _, htokens, hload⟩
    rw [hnone] at htokens
    exact (toJson job).nonempty (List.map_eq_nil_iff.mp (Option.some.inj htokens).symm)

/-! ## Jobs of texts -/

section Example

def fieldsOf (job : SocaJob) : List (String × String) :=
  [("job_id", job.jobId), ("project", job.project), ("name", job.name),
    ("error_message", job.errorMessage), ("comment", job.comment)].filterMap
      fun field => field.2.map (field.1, ·)

def setField (job : SocaJob) (field : String × String) : SocaJob :=
  if field.1 = "job_id" then { job with jobId := some field.2 }
  else if field.1 = "project" then { job with project := some field.2 }
  else if field.1 = "name" then { job with name := some field.2 }
  else if field.1 = "error_message" then { job with errorMessage := some field.2 }
  else if field.1 = "comment" then { job with comment := some field.2 }
  else job

def fieldParts : List (String × String) → List Part
  | [] => []
  | (key, value) :: fields =>
    [⟨true, 2, .string key.toList⟩, ⟨false, 0, .mark .colon⟩, ⟨false, 1, .string value.toList⟩] ++
      (if fields = [] then [] else [⟨false, 0, .mark .comma⟩]) ++ fieldParts fields

theorem not_isLiteral_fieldParts (fields : List (String × String)) :
    ∀ p ∈ fieldParts fields, p.token.isLiteral = false := by
  induction fields with
  | nil => exact fun _ h => absurd h List.not_mem_nil
  | cons field fields ih =>
    intro p hp
    simp only [fieldParts, List.mem_append, List.mem_cons, List.not_mem_nil, or_false] at hp
    rcases hp with ((rfl | rfl | rfl) | hp) | hp
    · rfl
    · rfl
    · rfl
    · split at hp
      · cases hp
      · rw [List.mem_singleton.mp hp]
        rfl
    · exact ih p hp

def objectParts (fields : List (String × String)) : List Part :=
  ⟨false, 0, .mark .beginObject⟩ :: (fieldParts fields ++ [⟨true, 0, .mark .endObject⟩])

theorem not_isLiteral_objectParts (fields : List (String × String)) :
    ∀ p ∈ objectParts fields, p.token.isLiteral = false := by
  intro p hp
  rcases List.mem_cons.mp hp with rfl | hp
  · rfl
  rcases List.mem_append.mp hp with hp | hp
  · exact not_isLiteral_fieldParts fields p hp
  · rw [List.mem_singleton.mp hp]
    rfl

def objectOf (fields : List (String × String)) : Document where
  parts := objectParts fields
  nonempty := List.cons_ne_nil _ _
  wellFormed := by
    intro p hp
    have hlit := not_isLiteral_objectParts fields p hp
    cases ht : p.token with
    | mark m => trivial
    | literal text => rw [ht] at hlit; cases hlit
    | string text => trivial
  separated := by
    refine (List.pairwise_of_forall_mem_list fun p hp q _ h => ?_).isChain
    exact Bool.false_ne_true ((not_isLiteral_objectParts fields p hp).symm.trans h.1)

def jobToJson (job : SocaJob) : Document := objectOf (fieldsOf job)

def loadFields : List Token → Option (List (String × String))
  | [.mark .endObject] => some []
  | .string key :: .mark .colon :: .string value :: .mark .comma :: ts =>
    (loadFields ts).map ((String.ofList key, String.ofList value) :: ·)
  | [.string key, .mark .colon, .string value, .mark .endObject] =>
    some [(String.ofList key, String.ofList value)]
  | _ => none
termination_by structural ts => ts

def loadJob : List Token → Except Raised SocaJob
  | .mark .beginObject :: ts =>
    match loadFields ts with
    | none => .error .valueError
    | some fields => .ok (fields.foldl setField {})
  | _ => .error .valueError

def emptyTemplate : YamlTemplate where
  text := "Resources: \x7b\x7d\n".toList
  begins := ⟨'R', "esources: \x7b\x7d\n".toList, by decide, by decide⟩
  no_comment := by decide
  no_return := by decide

def quietJob : SocaJob := { jobId := some "7", name := some "nightly", comment := some "--- see below" }

def commentedJob : SocaJob := { jobId := some "7", comment := some "see # 1" }

/-- A job whose texts have no mark in them is recovered. -/
theorem quiet_job_recovered :
    AWSUtil.getSocaJobFromStack loadJob (AWSUtil.cloudformationGetTemplate
        (getTemplate jobToJson emptyTemplate none quietJob)) = .ok (some quietJob) ↔
      ∀ text ∈ (jobToJson quietJob).strings, Recoverable text := by
  refine job_recovered_iff jobToJson loadJob emptyTemplate none quietJob rfl fun ts _ => ?_
  have hnone : ∀ c ∈ lostChars, charCount c (jobToJson quietJob).tokens = 0 :=
    List.all_iff_forall_prop.mp (by decide)
  intro c hc
  rw [hnone c hc]
  exact Nat.zero_le _

/-- A comment mark in a text of the job is taken out. -/
theorem commented_job_not_recovered :
    AWSUtil.getSocaJobFromStack loadJob (AWSUtil.cloudformationGetTemplate
        (getTemplate jobToJson emptyTemplate none commentedJob)) ≠ .ok (some commentedJob) := by
  have hrecovered : AWSUtil.getSocaJobFromStack loadJob (AWSUtil.cloudformationGetTemplate
        (getTemplate jobToJson emptyTemplate none commentedJob)) =
      .ok (some { commentedJob with comment := some "see 1" }) := by decide +kernel
  rw [hrecovered]
  decide

end Example

end StackJob

end Idea

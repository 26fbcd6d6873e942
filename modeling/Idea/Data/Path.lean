import Mathlib.Data.List.TakeWhile

/-! # Paths of files

A path is resolved by its text alone: the steps of the path are gone through from the left, and a
step to the parent takes back the step before it. A file lies directly in a folder if its path
leads to the folder and then one step further.
-/

namespace Path

/-- `os.path.join` of two paths. -/
def join (path next : List Char) : List Char :=
  if next.head? = some '/' then next
  else if path = [] ∨ path.getLast? = some '/' then path ++ next
  else path ++ '/' :: next

def root : List Char → ℕ
  | '/' :: '/' :: '/' :: _ => 1
  | '/' :: '/' :: _ => 2
  | '/' :: _ => 1
  | _ => 0

def follow (absolute : Bool) (steps : List (List Char)) (step : List Char) : List (List Char) :=
  if step = [] ∨ step = ['.'] then steps
  else if step ≠ ['.', '.'] ∨ (!absolute ∧ steps = []) ∨ steps.getLast? = some ['.', '.'] then
    steps ++ [step]
  else steps.dropLast

/-- A normalised path: its root and its steps. -/
structure Location where
  root : ℕ
  steps : List (List Char)
  deriving DecidableEq

/-- `os.path.normpath`. -/
def locate (path : List Char) : Location where
  root := root path
  steps := (path.splitOn '/').foldl (follow (root path ≠ 0)) []

/-- A name of a file in a folder. -/
structure IsName (name : List Char) : Prop where
  not_empty : name ≠ []
  no_slash : '/' ∉ name
  not_current : name ≠ ['.']
  not_parent : name ≠ ['.', '.']

/-- The file lies in the folder itself. -/
def DirectlyIn (path folder : List Char) : Prop :=
  ∃ name, IsName name ∧
    locate path = { locate folder with steps := (locate folder).steps ++ [name] }

def folderPart (path : List Char) : List Char := (path.reverse.dropWhile (· ≠ '/')).reverse

def namePart (path : List Char) : List Char := (path.reverse.takeWhile (· ≠ '/')).reverse

variable {path folder name : List Char}

theorem join_of_names {next : List Char} (hpath : path ≠ []) (hlast : path.getLast? ≠ some '/')
    (hnext : next.head? ≠ some '/') : join path next = path ++ '/' :: next := by
  rw [join, if_neg hnext, if_neg (not_or.mpr ⟨hpath, hlast⟩)]

theorem folderPart_append_namePart (path : List Char) : folderPart path ++ namePart path = path := by
  rw [folderPart, namePart, ← List.reverse_append, List.takeWhile_append_dropWhile,
    List.reverse_reverse]

theorem slash_not_mem_namePart (path : List Char) : '/' ∉ namePart path := by
  intro h
  rw [namePart, List.mem_reverse] at h
  simpa using List.mem_takeWhile_imp h

theorem folderPart_cases (path : List Char) :
    folderPart path = [] ∨ ∃ before, folderPart path = before ++ ['/'] := by
  unfold folderPart
  cases h : path.reverse.dropWhile (· ≠ '/') with
  | nil => exact Or.inl rfl
  | cons c rest =>
    have hc : ¬ decide (c ≠ '/') = true := by
      have := List.head_dropWhile_not (fun c : Char => decide (c ≠ '/')) (l := path.reverse)
      simp_all
    obtain rfl : c = '/' := by simpa using hc
    exact Or.inr ⟨rest.reverse, by simp⟩

theorem follow_name (h : IsName name) (absolute : Bool) (steps : List (List Char)) :
    follow absolute steps name = steps ++ [name] := by
  unfold follow
  rw [if_neg (not_or.mpr ⟨h.not_empty, h.not_current⟩), if_pos (Or.inl h.not_parent)]

theorem root_append_name (h : '/' ∉ name) (hne : name ≠ []) (before : List Char) :
    root (before ++ '/' :: name) = root (before ++ ['/']) := by
  obtain ⟨c, rest, rfl⟩ := List.exists_cons_of_ne_nil hne
  have hc : c ≠ '/' := fun hc => h (hc ▸ List.mem_cons_self)
  -- the root is read from the first three characters
  rcases before with _ | ⟨b, _ | ⟨b', _ | ⟨b'', before⟩⟩⟩
  · simp [root, hc]
  · by_cases hb : b = '/' <;> simp [root, hb, hc]
  · by_cases hb : b = '/' <;> by_cases hb' : b' = '/' <;> simp [root, hb, hb']
  · by_cases hb : b = '/' <;> by_cases hb' : b' = '/' <;> by_cases hb'' : b'' = '/' <;>
      simp [root, hb, hb', hb'']

theorem locate_slash_name (h : IsName name) (before : List Char) :
    locate (before ++ '/' :: name) =
      { locate (before ++ ['/']) with steps := (locate (before ++ ['/'])).steps ++ [name] } := by
  have hsplit : (before ++ '/' :: name).splitOn '/' = before.splitOn '/' ++ [name] := by
    rw [List.splitOn_append_cons_self, List.splitOn_eq_singleton h.no_slash]
  have hfolder : (before ++ ['/']).splitOn '/' = before.splitOn '/' ++ [[]] := by
    rw [List.splitOn_append_cons_self, List.splitOn_nil]
  unfold locate
  rw [root_append_name h.no_slash h.not_empty, hsplit, hfolder, List.foldl_append,
    List.foldl_append, List.foldl_cons, List.foldl_cons, List.foldl_nil, List.foldl_nil,
    follow_name h]
  simp [follow]

theorem join_folderPart (hfolder : folder ≠ []) (hslash : folder.getLast? ≠ some '/')
    (hname : '/' ∉ name) (path : List Char) :
    ∃ before, join folder (folderPart path) = before ++ ['/'] ∧
      join folder (folderPart path ++ name) = before ++ '/' :: name := by
  have hjoin : ∀ next : List Char, next.head? ≠ some '/' →
      join folder next = folder ++ '/' :: next := by
    intro next hnext
    rw [join, if_neg hnext, if_neg (not_or.mpr ⟨hfolder, hslash⟩)]
  have hhead : name.head? ≠ some '/' := fun h => hname (List.mem_of_mem_head? h)
  rcases folderPart_cases path with hpart | ⟨before, hpart⟩
  · rw [hpart]
    exact ⟨folder, hjoin [] (by simp), hjoin name hhead⟩
  · have hsame : (before ++ ['/'] ++ name).head? = (before ++ ['/']).head? := by
      cases before <;> rfl
    rw [hpart]
    by_cases habsolute : (before ++ ['/']).head? = some '/'
    · refine ⟨before, ?_, ?_⟩
      · rw [join, if_pos habsolute]
      · rw [join, if_pos (hsame.trans habsolute), List.append_assoc, List.singleton_append]
    · refine ⟨folder ++ '/' :: before, ?_, ?_⟩
      · rw [hjoin _ habsolute]
        simp
      · rw [hjoin _ (hsame ▸ habsolute)]
        simp

theorem directlyIn_join_iff (hfolder : folder ≠ []) (hslash : folder.getLast? ≠ some '/')
    (hname : IsName name) (path : List Char) :
    DirectlyIn (join folder (folderPart path ++ name)) folder ↔
      locate (join folder (folderPart path)) = locate folder := by
  obtain ⟨before, hbefore, hjoin⟩ :=
    join_folderPart hfolder hslash hname.no_slash path
  rw [hbefore, hjoin]
  unfold DirectlyIn
  rw [locate_slash_name hname]
  constructor
  · rintro ⟨name', -, heq⟩
    obtain ⟨hroot, hsteps⟩ := Location.mk.inj heq
    obtain ⟨hsteps, -⟩ := List.append_inj' hsteps rfl
    cases hl : locate (before ++ ['/'])
    cases hf : locate folder
    simp_all
  · intro heq
    exact ⟨name, hname, by rw [heq]⟩

def names (path : List Char) : List (List Char) :=
  (path.splitOn '/').filter fun step => step ≠ [] ∧ step ≠ ['.']

/-- The folder is passed on the way from the root to the path. -/
def Under (path folder : List Char) : Prop :=
  path.head? = some '/' ∧ folder.head? = some '/' ∧
    (locate folder).steps <+: (locate path).steps

variable {path : List Char}

theorem foldl_follow_of_no_parent (absolute : Bool) {tokens : List (List Char)}
    (h : ['.', '.'] ∉ tokens) (steps : List (List Char)) :
    tokens.foldl (follow absolute) steps =
      steps ++ tokens.filter fun step => step ≠ [] ∧ step ≠ ['.'] := by
  induction tokens generalizing steps with
  | nil => simp
  | cons token tokens ih =>
    rw [List.mem_cons, not_or] at h
    rw [List.foldl_cons, ih h.2]
    by_cases hskip : token = [] ∨ token = ['.']
    · rcases hskip with rfl | rfl <;> simp [follow]
    · have hkeep := hskip
      rw [not_or] at hkeep
      rw [follow, if_neg hskip, if_pos (Or.inl (Ne.symm h.1))]
      simp [hkeep]

theorem steps_of_no_parent (h : ['.', '.'] ∉ path.splitOn '/') :
    (locate path).steps = names path := by
  rw [locate, foldl_follow_of_no_parent _ h, List.nil_append]
  rfl

theorem splitOn_append (before after : List Char) :
    ∃ parts last first rest, before.splitOn '/' = parts ++ [last] ∧
      after.splitOn '/' = first :: rest ∧
      (before ++ after).splitOn '/' = parts ++ (last ++ first) :: rest := by
  obtain ⟨first, rest, hafter⟩ := List.exists_cons_of_ne_nil (List.splitOn_ne_nil '/' after)
  induction before with
  | nil => exact ⟨[], [], first, rest, by simp, hafter, by simpa using hafter⟩
  | cons c before ih =>
    obtain ⟨parts, last, first', rest', hbefore, hafter', hall⟩ := ih
    by_cases hc : c = '/'
    · subst hc
      refine ⟨[] :: parts, last, first', rest', ?_, hafter', ?_⟩
      · simp [List.splitOn_cons_eq_if_modifyHead, hbefore]
      · simp [List.splitOn_cons_eq_if_modifyHead, hall]
    · cases parts with
      | nil =>
        refine ⟨[], c :: last, first', rest', ?_, hafter', ?_⟩
        · simp [List.splitOn_cons_eq_if_modifyHead, hbefore, hc]
        · simp [List.splitOn_cons_eq_if_modifyHead, hall, hc]
      | cons part parts =>
        refine ⟨(c :: part) :: parts, last, first', rest', ?_, hafter', ?_⟩
        · simp [List.splitOn_cons_eq_if_modifyHead, hbefore, hc]
        · simp [List.splitOn_cons_eq_if_modifyHead, hall, hc]

theorem splitOn_eq_nil_cons_iff {rest : List Char} {first : List Char} {tokens : List (List Char)}
    (h : rest.splitOn '/' = first :: tokens) : first = [] ↔ rest = [] ∨ rest.head? = some '/' := by
  cases rest with
  | nil =>
    rw [List.splitOn_nil, List.cons.injEq] at h
    simp [← h.1]
  | cons c rest =>
    obtain ⟨first', tokens', h'⟩ := List.exists_cons_of_ne_nil (List.splitOn_ne_nil '/' rest)
    by_cases hc : c = '/'
    · subst hc
      simp [List.splitOn_cons_eq_if_modifyHead] at h
      simp [← h.1]
    · simp [List.splitOn_cons_eq_if_modifyHead, hc, h'] at h
      simp [← h.1, hc]

/-- The text of the folder ends where a step of the path ends, or where none has begun. -/
def EndsAtStep (folder rest : List Char) : Prop :=
  rest = [] ∨ rest.head? = some '/' ∨ ∃ last ∈ (folder.splitOn '/').getLast?, last = [] ∨ last = ['.']

theorem splitOn_infix (path : List Char) : ∃ first rest, path.splitOn '/' = first :: rest ∧
    first <+: path ∧ ∀ step ∈ rest, step <:+: path := by
  induction path with
  | nil => exact ⟨[], [], by simp, List.nil_prefix, by simp⟩
  | cons c path ih =>
    obtain ⟨first, rest, hsplit, hfirst, hrest⟩ := ih
    have hwithin : ∀ step ∈ rest, step <:+: c :: path := fun step h => List.infix_cons (hrest step h)
    by_cases hc : c = '/'
    · subst hc
      refine ⟨[], first :: rest, ?_, List.nil_prefix, ?_⟩
      · simp [List.splitOn_cons_eq_if_modifyHead, hsplit]
      · rw [List.forall_mem_cons]
        exact ⟨List.infix_cons hfirst.isInfix, hwithin⟩
    · refine ⟨c :: first, rest, ?_, List.prefix_cons_inj c |>.mpr hfirst, hwithin⟩
      simp [List.splitOn_cons_eq_if_modifyHead, hsplit, hc]

theorem infix_of_mem_splitOn {step : List Char} (h : step ∈ path.splitOn '/') : step <:+: path := by
  obtain ⟨first, rest, hsplit, hfirst, hrest⟩ := splitOn_infix path
  rw [hsplit, List.mem_cons] at h
  rcases h with rfl | h
  · exact hfirst.isInfix
  · exact hrest step h

theorem steps_eq_names (h : ¬ ['.', '.'] <:+: path) : (locate path).steps = names path :=
  steps_of_no_parent fun hmem => h (infix_of_mem_splitOn hmem)

theorem under_append_iff {folder rest : List Char} (habsolute : folder.head? = some '/')
    (h : ¬ ['.', '.'] <:+: folder ++ rest) :
    Under (folder ++ rest) folder ↔ EndsAtStep folder rest := by
  obtain ⟨parts, last, first, tokens, hfolder, hrest, hall⟩ := splitOn_append folder rest
  have hpath : (folder ++ rest).head? = some '/' := by
    rw [List.head?_append, habsolute]
    rfl
  have hup : ¬ ['.', '.'] <:+: folder := fun hwithin =>
    h (hwithin.trans (List.prefix_append folder rest).isInfix)
  have hsteps : Under (folder ++ rest) folder ↔ names folder <+: names (folder ++ rest) := by
    rw [Under, steps_eq_names h, steps_eq_names hup]
    simp [hpath, habsolute]
  rw [hsteps, names, names, hfolder, hall, List.filter_append, List.filter_append,
    List.prefix_append_right_inj, EndsAtStep, ← or_assoc, ← splitOn_eq_nil_cons_iff hrest, hfolder]
  by_cases hskip : last = [] ∨ last = ['.']
  · rcases hskip with rfl | rfl <;> simp
  · have hkeep := hskip
    rw [not_or] at hkeep
    have hgrown : last ++ first ≠ [] ∧ last ++ first ≠ ['.'] := by
      obtain ⟨c, last, rfl⟩ := List.exists_cons_of_ne_nil hkeep.1
      refine ⟨by simp, fun heq => hkeep.2 ?_⟩
      simp only [List.cons_append, List.cons.injEq, List.append_eq_nil_iff] at heq
      simp [heq]
    simp [hkeep, hgrown, List.cons_prefix_cons]

end Path

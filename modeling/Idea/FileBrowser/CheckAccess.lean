import Mathlib.Data.List.Infix
import Idea.Data.Path
import Idea.Model.Texts

/-! # Access to files by their paths

A path is refused by its text before the permissions of the file are looked up: if it goes up, or
if it begins with a system folder and does not begin with the directory where the data are mounted.
What the text names is decided by the steps of the path.
-/

namespace Idea.FileBrowser

def RESTRICTED_ROOT_FOLDERS : List String :=
  ["boot", "bin", "dev", "etc", "home", "local", "lib", "lib64", "media", "opt", "proc", "root",
    "run", "srv", "sys", "sbin", "tmp", "usr", "var"]

/-- What the shell is asked about a file on behalf of the user. -/
inductive CheckType where
  | dir
  | read
  | write
  deriving DecidableEq

/-- `exceptions.unauthorized_access` -/
def unauthorizedAccess : Raised := .soca "UNAUTHORIZED_ACCESS" "Unauthorized Access"

/-- `'..' in file` -/
def goesUp (file : String) : Bool := ['.', '.'] <:+: file.toList

def isDataMount (dataMountDir : Option String) (file : String) : Bool :=
  !isEmptyString dataMountDir && (dataMountDir.getD "").toList.isPrefixOf file.toList

def isSystemFolder (file : String) : Bool :=
  match (file.toList.splitOn '/')[1]? with
  | none => false
  | some token => RESTRICTED_ROOT_FOLDERS.contains (String.ofList token)

def requirePermission (check granted : Bool) : Except Raised Unit :=
  if check && !granted then .error unauthorizedAccess else .ok ()

def checkAccess (dataMountDir : Option String) (granted : CheckType → Bool) (file : String)
    (checkDir checkRead checkWrite : Bool) : Except Raised Unit :=
  if isEmptyString (some file) then .error unauthorizedAccess
  else if goesUp file then .error unauthorizedAccess
  else if isSystemFolder file && !isDataMount dataMountDir file then .error unauthorizedAccess
  else do
    requirePermission checkDir (granted .dir)
    requirePermission checkRead (granted .read)
    requirePermission checkWrite (granted .write)

def InSystemFolder (file : String) : Prop :=
  ∃ folder ∈ RESTRICTED_ROOT_FOLDERS, Path.Under file.toList ('/' :: folder.toList)

/-- The path leads to the directory of the data or to something in it. -/
def InDataMount (dataMountDir : Option String) (file : String) : Prop :=
  ∃ dir, dataMountDir = some dir ∧ isEmptyString (some dir) = false ∧
    Path.Under file.toList dir.toList

/-- A path of a system folder is let through since it begins with the directory of the data. -/
def Exempted (dataMountDir : Option String) (file : String) : Prop :=
  isEmptyString (some file) = false ∧ goesUp file = false ∧ isSystemFolder file = true ∧
    isDataMount dataMountDir file = true

/-- System folders are closed, but for the directory of the data. -/
structure Closed (dataMountDir : Option String) (file : String) : Prop where
  refused : InSystemFolder file → ¬ InDataMount dataMountDir file →
    ∀ granted checkDir checkRead checkWrite,
      checkAccess dataMountDir granted file checkDir checkRead checkWrite =
        .error unauthorizedAccess
  exempted : Exempted dataMountDir file → InDataMount dataMountDir file

/-- The first step of the path stands right after the first slash. -/
def BeginsWithStep (file : String) : Prop :=
  ∃ step rest, file.toList.splitOn '/' = [] :: step :: rest ∧ step ≠ [] ∧ step ≠ ['.']

/-- The path is absolute and goes on from the directory of the data where a step ends. -/
def GoesOnFrom (dataMountDir : Option String) (file : String) : Prop :=
  file.toList.head? = some '/' ∧ ∃ dir rest, dataMountDir = some dir ∧
    file.toList = dir.toList ++ rest ∧ Path.EndsAtStep dir.toList rest

/-- The path goes up; or it begins with a step if it leads to a system folder outside the directory
of the data, and if it names a system folder and begins with that directory it goes on from it. -/
def Spelled (dataMountDir : Option String) (file : String) : Prop :=
  goesUp file = true ∨
    ((InSystemFolder file → ¬ InDataMount dataMountDir file → BeginsWithStep file) ∧
      (isDataMount dataMountDir file = true → isSystemFolder file = true ∨ InSystemFolder file →
        GoesOnFrom dataMountDir file))

variable {dataMountDir : Option String} {file : String}

theorem steps_folder : ∀ folder ∈ RESTRICTED_ROOT_FOLDERS,
    (Path.locate ('/' :: folder.toList)).steps = [folder.toList] := by
  decide +kernel

theorem isSystemFolder_iff : isSystemFolder file = true ↔
    ∃ folder ∈ RESTRICTED_ROOT_FOLDERS, (file.toList.splitOn '/')[1]? = some folder.toList := by
  unfold isSystemFolder
  cases (file.toList.splitOn '/')[1]? with
  | none => simp
  | some token =>
    simp only [List.contains_iff_mem, Option.some_inj]
    constructor
    · intro h
      exact ⟨_, h, by simp⟩
    · rintro ⟨folder, hfolder, rfl⟩
      simpa using hfolder

theorem steps_of_not_goesUp (h : goesUp file = false) :
    (Path.locate file.toList).steps = Path.names file.toList :=
  Path.steps_eq_names (by simpa [goesUp] using h)

theorem inSystemFolder_iff (h : goesUp file = false) : InSystemFolder file ↔
    file.toList.head? = some '/' ∧
      ∃ folder ∈ RESTRICTED_ROOT_FOLDERS, [folder.toList] <+: Path.names file.toList := by
  constructor
  · rintro ⟨folder, hfolder, hroot, -, hsteps⟩
    rw [steps_folder folder hfolder, steps_of_not_goesUp h] at hsteps
    exact ⟨hroot, folder, hfolder, hsteps⟩
  · rintro ⟨hroot, folder, hfolder, hsteps⟩
    refine ⟨folder, hfolder, hroot, rfl, ?_⟩
    rwa [steps_folder folder hfolder, steps_of_not_goesUp h]

theorem plain_folder : ∀ folder ∈ RESTRICTED_ROOT_FOLDERS,
    folder.toList ≠ [] ∧ folder.toList ≠ ['.'] := by
  decide +kernel

theorem splitOn_absolute {path : List Char} (h : path.head? = some '/') :
    ∃ rest, path.splitOn '/' = [] :: rest := by
  cases path with
  | nil => cases h
  | cons c path =>
    obtain rfl := Option.some.inj h
    exact ⟨path.splitOn '/', by simp [List.splitOn_cons_eq_if_modifyHead]⟩

theorem isSystemFolder_of_beginsWithStep (h : goesUp file = false) (hfile : InSystemFolder file)
    (hbegins : BeginsWithStep file) : isSystemFolder file = true := by
  obtain ⟨-, folder, hfolder, hsteps⟩ := (inSystemFolder_iff h).mp hfile
  obtain ⟨step, rest, hsplit, hne, hdot⟩ := hbegins
  have hstep : folder.toList = step := by
    simpa [Path.names, hsplit, hne, hdot, List.cons_prefix_cons] using hsteps
  exact isSystemFolder_iff.mpr ⟨folder, hfolder, by simp [hsplit, hstep]⟩

theorem beginsWithStep_of_isSystemFolder (hroot : file.toList.head? = some '/')
    (hsystem : isSystemFolder file = true) : BeginsWithStep file := by
  obtain ⟨folder, hfolder, htoken⟩ := isSystemFolder_iff.mp hsystem
  obtain ⟨rest, hsplit⟩ := splitOn_absolute hroot
  cases rest with
  | nil => simp [hsplit] at htoken
  | cons token rest =>
    obtain rfl : token = folder.toList := by simpa [hsplit] using htoken
    exact ⟨_, rest, hsplit, plain_folder folder hfolder⟩

theorem nonblank_of_isSystemFolder (hsystem : isSystemFolder file = true) :
    isEmptyString (some file) = false := by
  obtain ⟨folder, hfolder, htoken⟩ := isSystemFolder_iff.mp hsystem
  have hvisible : RESTRICTED_ROOT_FOLDERS.all
      (fun folder => folder.toList.any fun c => !isSpace c) = true := by
    decide +kernel
  obtain ⟨c, hc, hspace⟩ := List.any_eq_true.mp (List.all_eq_true.mp hvisible folder hfolder)
  rw [Bool.not_eq_true'] at hspace
  have hwithin := Path.infix_of_mem_splitOn (List.mem_of_getElem? htoken)
  exact isEmptyString_of_mem (hwithin.subset hc) hspace

/-- A path that begins with the text of the directory of the data leads there if it goes on from
it. -/
theorem inDataMount_iff (h : goesUp file = false) (hmount : isDataMount dataMountDir file = true) :
    InDataMount dataMountDir file ↔ GoesOnFrom dataMountDir file := by
  cases dataMountDir with
  | none => cases hmount
  | some dir =>
    simp only [isDataMount, Bool.and_eq_true, Bool.not_eq_true', Option.getD_some,
      List.isPrefixOf_iff_prefix] at hmount
    obtain ⟨hdir, rest, hfile⟩ := hmount
    have hup : ¬ ['.', '.'] <:+: dir.toList ++ rest := by
      rw [hfile]
      simpa [goesUp] using h
    have hne : dir.toList ≠ [] := by
      intro hempty
      simp [isEmptyString, hempty, stripChars] at hdir
    have hhead : file.toList.head? = dir.toList.head? := by
      obtain ⟨c, cs, hcons⟩ := List.exists_cons_of_ne_nil hne
      rw [← hfile, hcons]
      rfl
    constructor
    · rintro ⟨_, ⟨⟩, -, hunder⟩
      refine ⟨hunder.1, dir, rest, rfl, hfile.symm, ?_⟩
      rw [← hfile] at hunder
      exact (Path.under_append_iff hunder.2.1 hup).mp hunder
    · rintro ⟨hroot, _, rest', ⟨⟩, hfile', hends⟩
      obtain rfl : rest' = rest := List.append_cancel_left (hfile'.symm.trans hfile.symm)
      refine ⟨dir, rfl, hdir, ?_⟩
      rw [hfile']
      exact (Path.under_append_iff (hhead ▸ hroot) hup).mpr hends

theorem refused_iff (h : goesUp file = false) (hsystem : InSystemFolder file) :
    (∀ granted checkDir checkRead checkWrite,
      checkAccess dataMountDir granted file checkDir checkRead checkWrite =
        .error unauthorizedAccess) ↔
      isSystemFolder file = true ∧ isDataMount dataMountDir file = false := by
  have hblank : isEmptyString (some file) = false := by
    obtain ⟨folder, -, hroot, -⟩ := hsystem
    exact isEmptyString_of_mem (List.mem_of_mem_head? hroot) (by decide)
  constructor
  · intro hall
    have hopen := hall (fun _ => true) false false false
    by_contra hnot
    have hcond : (isSystemFolder file && !isDataMount dataMountDir file) = false := by
      cases hs : isSystemFolder file <;> cases hd : isDataMount dataMountDir file <;> simp_all
    simp [checkAccess, hblank, h, hcond, requirePermission, bind, Except.bind] at hopen
  · rintro ⟨hs, hd⟩ granted checkDir checkRead checkWrite
    simp [checkAccess, hblank, h, hs, hd]

/-- The system folders are closed to a path exactly if it is spelled so that the check sees where
it leads. -/
theorem closed_iff (dataMountDir : Option String) (file : String) :
    Closed dataMountDir file ↔ Spelled dataMountDir file := by
  cases h : goesUp file with
  | true =>
    refine iff_of_true ⟨fun _ _ granted checkDir checkRead checkWrite => ?_, ?_⟩ (.inl h)
    · unfold checkAccess
      rw [if_pos h, ite_self]
    · rintro ⟨-, hup, -⟩
      simp [h] at hup
  | false =>
    have hmount (hd : isDataMount dataMountDir file = true) :
        InDataMount dataMountDir file ↔ GoesOnFrom dataMountDir file := inDataMount_iff h hd
    constructor
    · intro hclosed
      refine .inr ⟨fun hsystem hout => ?_, fun hd hnamed => ?_⟩
      · have hrefused := (refused_iff h hsystem).mp (hclosed.refused hsystem hout)
        obtain ⟨-, -, hroot, -⟩ := hsystem
        exact beginsWithStep_of_isSystemFolder hroot hrefused.1
      · rw [← hmount hd]
        rcases hnamed with hs | hsystem
        · exact hclosed.exempted ⟨nonblank_of_isSystemFolder hs, h, hs, hd⟩
        · by_contra hout
          have hrefused := (refused_iff h hsystem).mp (hclosed.refused hsystem hout)
          simp [hd] at hrefused
    · intro hspelled
      obtain ⟨hbegins, hgoesOn⟩ := hspelled.resolve_left (by simp [h])
      constructor
      · intro hsystem hout
        have hs := isSystemFolder_of_beginsWithStep h hsystem (hbegins hsystem hout)
        have hd : isDataMount dataMountDir file = false := by
          rw [← Bool.not_eq_true]
          exact fun hd => hout ((hmount hd).mpr (hgoesOn hd (.inl hs)))
        exact (refused_iff h hsystem).mpr ⟨hs, hd⟩
      · rintro ⟨-, -, hs, hd⟩
        exact (hmount hd).mpr (hgoesOn hd (.inl hs))

/-- Two slashes at the beginning, or a directory whose name begins like the one of the data. -/
theorem not_closed_spelled_otherwise :
    (InSystemFolder "//etc/shadow" ∧ ¬ InDataMount (some "/data") "//etc/shadow" ∧
      checkAccess (some "/data") (fun _ => true) "//etc/shadow" false true false = .ok ()) ∧
    (Exempted (some "/opt/data") "/opt/database/passwords" ∧
      ¬ InDataMount (some "/opt/data") "/opt/database/passwords") := by
  have hetc : Path.names "//etc/shadow".toList = ["etc".toList, "shadow".toList] := by
    decide +kernel
  have hdata : (Path.locate "/data".toList).steps = ["data".toList] := by decide +kernel
  have hopt : (Path.locate "/opt/data".toList).steps = ["opt".toList, "data".toList] := by
    decide +kernel
  have hdatabase : (Path.locate "/opt/database/passwords".toList).steps =
      ["opt".toList, "database".toList, "passwords".toList] := by
    decide +kernel
  refine ⟨⟨?_, ?_, by decide +kernel⟩, ?_, ?_⟩
  · refine (inSystemFolder_iff (by decide +kernel)).mpr ⟨rfl, "etc", by decide, ?_⟩
    rw [hetc]
    decide +kernel
  · rintro ⟨_, ⟨⟩, -, -, -, hsteps⟩
    rw [hdata, steps_of_not_goesUp (by decide +kernel), hetc] at hsteps
    revert hsteps
    decide +kernel
  · exact ⟨by decide +kernel, by decide +kernel, by decide +kernel, by decide +kernel⟩
  · rintro ⟨_, ⟨⟩, -, -, -, hsteps⟩
    rw [hopt, hdatabase] at hsteps
    revert hsteps
    decide +kernel

end Idea.FileBrowser

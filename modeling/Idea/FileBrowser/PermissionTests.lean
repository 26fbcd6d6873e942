import Idea.Data.ShellExact
import Idea.FileBrowser.CheckAccess

/-! # Tests of permissions

What a user may do with a file is found out by the shell of the user, with a command that has the
path between double quotes. The test is about the path that is opened afterwards only if the path
stands for itself there.
-/

namespace Idea.FileBrowser

/-- The user, the mount of the data, and which commands of the host return without an error. -/
structure PermissionContext where
  username : String
  dataMountDir : Option String
  invoke : List String → Bool

def CheckType.flag : CheckType → Char
  | .dir => 'd'
  | .read => 'r'
  | .write => 'w'

def testCommand (checkType : CheckType) (file : String) : String :=
  "test -" ++ String.ofList [checkType.flag] ++ " \"" ++ file ++ "\""

def shellCommand (username : String) (checkType : CheckType) (file : String) : List String :=
  ["su", username, "-c", testCommand checkType file]

/-- `_check_shell_permission` when nothing is cached. -/
def checkShellPermission (ctx : PermissionContext) (file : String) (checkType : CheckType) : Bool :=
  ctx.invoke (shellCommand ctx.username checkType file)

/-- `check_access` with the tests by the shell. -/
def checkUserAccess (ctx : PermissionContext) (file : String)
    (checkDir checkRead checkWrite : Bool) : Except Raised Unit :=
  checkAccess ctx.dataMountDir (checkShellPermission ctx file) file checkDir checkRead checkWrite

/-- A directory with the names of its files, as they are met below a directory. -/
structure WalkedDirectory where
  root : String
  files : List String

def filePath (root filename : String) : String :=
  String.ofList (Path.join root.toList filename.toList)

/-- The files that `_add_directory_to_zip` opens: those that the user may read. -/
def archivedFiles (ctx : PermissionContext) (walk : List WalkedDirectory) : List String :=
  walk.flatMap fun directory => (directory.files.map (filePath directory.root)).filter fun file =>
    checkShellPermission ctx file .read

def words (command : String) : Option (List (Shell.Token (List Char))) :=
  if '\x00' ∈ command.toList then none else Shell.read command.toList

def TestsPath (checkType : CheckType) (file : String) : Prop :=
  words (testCommand checkType file) =
    some [.word "test".toList, .word ['-', checkType.flag], .word file.toList]

/-- A text that stands for itself between double quotes: it has no character that ends the
quotation or begins an expansion, and a backslash stands before a character that it does not
escape. -/
structure StandsForItself (file : String) : Prop where
  unmarked : ∀ c ∈ file.toList, c ≠ '\x00' ∧ c ≠ '"' ∧ c ≠ '$' ∧ c ≠ Shell.grave
  backslash : ∀ before after, file.toList = before ++ '\\' :: after →
    ∃ c rest, after = c :: rest ∧ c ≠ '\n' ∧ c ≠ '\\'

def testTemplate (checkType : CheckType) (file : String) : Shell.Template where
  first := .bare "test".toList
  rest := [(.blank, .bare ['-', checkType.flag]), (.blank, .quoted file.toList)]

variable {ctx : PermissionContext} {checkType : CheckType} {file : String}

theorem toList_testCommand :
    (testCommand checkType file).toList = (testTemplate checkType file).render .double := by
  simp [testCommand, testTemplate, Shell.Template.render, Shell.Arg.render, Shell.Sep.render,
    Shell.Quote.char]

theorem read_testCommand_iff : Shell.read (testCommand checkType file).toList =
      some [.word "test".toList, .word ['-', checkType.flag], .word file.toList] ↔
    Shell.doubleSafe file.toList = true := by
  have htest : (Shell.Arg.bare "test".toList).Safe .double := by decide
  have hflag : (Shell.Arg.bare ['-', checkType.flag]).Safe .double := by
    cases checkType <;> decide
  have htokens : (testTemplate checkType file).tokens =
      [.word "test".toList, .word ['-', checkType.flag], .word file.toList] := rfl
  rw [toList_testCommand, ← htokens, Shell.read_render_iff]
  constructor
  · intro hsafe
    exact hsafe (.quoted file.toList) (by simp [Shell.Template.args, testTemplate])
  · intro hsafe
    simp only [Shell.Template.args, testTemplate, List.map_cons, List.map_nil,
      List.forall_mem_cons]
    exact ⟨htest, hflag, hsafe, fun _ h => absurd h List.not_mem_nil⟩

theorem zero_mem_testCommand_iff :
    '\x00' ∈ (testCommand checkType file).toList ↔ '\x00' ∈ file.toList := by
  cases checkType <;> simp [testCommand, CheckType.flag]

theorem standsForItself_iff :
    StandsForItself file ↔ '\x00' ∉ file.toList ∧ Shell.doubleSafe file.toList = true := by
  rw [Shell.doubleSafe_iff]
  constructor
  · intro h
    exact ⟨fun hzero => (h.unmarked _ hzero).1 rfl, fun c hc => (h.unmarked c hc).2, h.backslash⟩
  · rintro ⟨hzero, hunmarked, hbackslash⟩
    refine ⟨fun c hc => ⟨?_, hunmarked c hc⟩, hbackslash⟩
    rintro rfl
    exact hzero hc

theorem testsPath_iff_doubleSafe : TestsPath checkType file ↔
    '\x00' ∉ file.toList ∧ Shell.doubleSafe file.toList = true := by
  rw [TestsPath, words]
  by_cases hzero : '\x00' ∈ file.toList
  · rw [if_pos (zero_mem_testCommand_iff.mpr hzero)]
    simp [hzero]
  · rw [if_neg (mt zero_mem_testCommand_iff.mp hzero), read_testCommand_iff, and_iff_right hzero]

/-- The shell tests the path itself exactly if the path stands for itself between double quotes. -/
theorem testsPath_iff : TestsPath checkType file ↔ StandsForItself file := by
  rw [testsPath_iff_doubleSafe, standsForItself_iff]

/-- A symbolic link may have such a name: the shell reads two commands, and the test is not about
the link. -/
theorem not_testsPath_link :
    let file := filePath "/data/home/u" "x\";true \""
    checkAccess (some "/data") (fun _ => true) file false true false = .ok () ∧
      words (testCommand .read file) = some [.word "test".toList, .word "-r".toList,
        .word "/data/home/u/x".toList, .operator [';'], .word "true".toList, .word []] ∧
      ¬TestsPath .read file := by
  refine ⟨by decide +kernel, by decide +kernel, ?_⟩
  rw [TestsPath]
  decide +kernel

end Idea.FileBrowser

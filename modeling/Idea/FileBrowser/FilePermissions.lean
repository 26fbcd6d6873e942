import Idea.FileBrowser.TailFile

/-! # Permissions before operations

The pages of the file browser ask for the permissions of files before an operation is offered. The
operations check the permissions again, each in its own way. The answer agrees with an operation if
a permitted one is not refused for lack of permission, and one that is done was permitted.
-/

namespace Idea.FileBrowser

/-- What the system answers to the server instead of doing its part. -/
inductive OsError where
  | notFound
  | permission
  | other (text : String)
  deriving DecidableEq

inductive Failure where
  | raised (e : Raised)
  | os (e : OsError)
  | unrecognized
  deriving DecidableEq

/-- The files and the permissions of a user: what the shell of the user says of a path, what a path
is, and what the system answers to the server. -/
structure FileHost where
  config : Config
  granted : String → CheckType → Bool
  isLink : String → Bool
  isDir : String → Bool
  isFile : String → Bool
  exclusive : ∀ file, isFile file = true → isDir file = false
  isBinary : String → Except OsError Bool
  guessType : String → Option String
  read : String → Except OsError String
  write : String → String → Except OsError Unit
  unlink : String → Except OsError Unit
  rmtree : String → Except OsError Unit
  remove : String → Except OsError Unit
  rename : String → String → Except OsError Unit
  chown : String → Except OsError Unit
  normalize : List Char → List Char

namespace FileHost

variable (host : FileHost)

/-- `Utils.is_file` -/
def fileExists (file : String) : Bool := !isEmptyString (some file) && host.isFile file

/-- `Utils.is_dir` -/
def directoryExists (file : String) : Bool := !isEmptyString (some file) && host.isDir file

/-- `Utils.is_symlink` -/
def linkExists (file : String) : Bool := !isEmptyString (some file) && host.isLink file

def access (file : String) (checkDir checkRead checkWrite : Bool) : Except Raised Unit :=
  checkAccess host.config.dataMountDir (host.granted file) file checkDir checkRead checkWrite

end FileHost

/-- `os.path.basename` -/
def basename (file : String) : String := String.ofList (Path.namePart file.toList)

/-- `os.path.dirname`: slashes at the end are left only at the root. -/
def dirname (file : String) : String :=
  let head := Path.folderPart file.toList
  if head.all (· = '/') then String.ofList head
  else String.ofList (head.reverse.dropWhile (· = '/')).reverse

def sibling (file name : String) : String :=
  String.ofList (Path.join (dirname file).toList name.toList)

structure FilePermissionResult where
  file : String
  hasPermission : Bool
  isProtected : Bool
  errorCode : Option String := none
  errorMessage : Option String := none

def userProtectedFolders : List String :=
  [".ssh", "storage-root", "Desktop", "Downloads", "Public", "Music", "Pictures", "Videos",
    "Documents"]

/-- `_is_protected_file` -/
def isProtectedFile (file : String) (userProtectedFolders : List String) : Bool :=
  if file = "" then false
  else if basename file ∈ userProtectedFolders then true
  else dirname file = "/" && basename file ∈ RESTRICTED_ROOT_FOLDERS

def parentDir (file : String) : String := if file ≠ "/" then dirname file else "/"

def checkOperation (host : FileHost) (operation file : String) : Except Raised Unit :=
  if operation = "rename" ∨ operation = "delete" then host.access (parentDir file) true true true
  else if operation = "read" then
    if host.isDir file then host.access file true true false
    else host.access file false true false
  else if operation = "write" then
    if host.isDir file then host.access file true true true
    else host.access file false true true
  else .ok ()

def errorCode : Raised → String
  | .soca errorCode _ => errorCode
  | _ => "PERMISSION_ERROR"

def errorText : Raised → String
  | .soca errorCode message => "[" ++ errorCode ++ "] " ++ message
  | _ => ""

def filePermission (host : FileHost) (operation file : String) : FilePermissionResult :=
  if isProtectedFile file userProtectedFolders then
    { file
      hasPermission := false
      isProtected := true
      errorCode := some "PROTECTED_FILE"
      errorMessage := some "File is protected and cannot be modified" }
  else match checkOperation host operation file with
    | .ok () => { file, hasPermission := true, isProtected := false }
    | .error e =>
      { file
        hasPermission := false
        isProtected := false
        errorCode := some (FileBrowser.errorCode e)
        errorMessage := some (errorText e) }

/-- `check_files_permissions`; without an operation the files are to be renamed. -/
def checkFilesPermissions (host : FileHost) (files : List String) (operation : Option String) :
    List FilePermissionResult :=
  let operation := if operation = none ∨ operation = some "" then "rename"
    else operation.getD "rename"
  files.map (filePermission host operation)

def fileNotFound (file : String) : Raised := .soca FILE_NOT_FOUND ("File not found: " ++ file)

def Failure.raise {α : Type} (e : Raised) : Except Failure α := .error (.raised e)

def checked {α : Type} (x : Except Raised α) : Except Failure α := x.mapError .raised

def answered {α : Type} (x : Except OsError α) : Except Failure α := x.mapError .os

def removal (host : FileHost) (file : String) : Except Failure Unit :=
  if host.isLink file then answered (host.unlink file)
  else if host.directoryExists file then answered (host.rmtree file)
  else if host.fileExists file then answered (host.remove file)
  else .error .unrecognized

def deleteFile (host : FileHost) (file : String) : Except Failure Unit := do
  checked (host.access file false false true)
  removal host file

def deletionError (file : String) : Failure → String
  | .unrecognized => "File not found or unrecognized type: " ++ file
  | .os .notFound => "File not found: " ++ file
  | .os .permission => "Permission denied: " ++ file
  | .os (.other text) => "OS error: " ++ file ++ " - " ++ text
  | .raised e => "Unexpected error: " ++ file ++ " - " ++ errorText e

structure Deletions where
  successfullyDeleted : List String := []
  deletionErrors : List String := []

/-- `delete_files`: one file after another, each with the files that are left. -/
def deleteFiles {σ : Type} (view : σ → FileHost) (after : σ → String → σ) (files : List String)
    (s : σ) : Except Raised Deletions :=
  if files = [] then .error (invalidParams "files[] is required")
  else
    let attempts := files.foldl (fun (state : σ × Deletions) file =>
      (after state.1 file, match deleteFile (view state.1) file with
        | .ok () => { state.2 with
            successfullyDeleted := state.2.successfullyDeleted ++ [file] }
        | .error e => { state.2 with
            deletionErrors := state.2.deletionErrors ++ [deletionError file e] })) (s, {})
    .ok attempts.2

def isSecureChar (c : Char) : Bool := c.isAlphanum || c ∈ ['_', '.', '-', '(', ')']

def splitWords (cs : List Char) : List (List Char) :=
  (cs.splitOnP isSpace).filter (· ≠ [])

/-- `Utils.to_secure_filename` -/
def toSecureFilename (host : FileHost) (file : String) : Option String :=
  let ascii := (host.normalize file.toList).filter fun c => c.toNat < 128
  let blanks := ascii.map fun c => if c = '/' then ' ' else c
  let kept := (['_'].intercalate (splitWords blanks)).filter isSecureChar
  let isEnd := fun c : Char => c = '.' || c = '_'
  let filename := String.ofList ((kept.dropWhile isEnd).reverse.dropWhile isEnd).reverse
  if isEmptyString (some filename) then none else some filename

/-- How `rename_file` raises the errors of the system. -/
def renameError (file : String) : OsError → Raised
  | .notFound => fileNotFound file
  | .permission => unauthorizedAccess
  | .other text => .soca ErrorCodes.GENERAL_ERROR ("Failed to rename file: " ++ text)

def moving (host : FileHost) (file newFilePath : String) : Except Failure Unit :=
  checked ((do
    host.rename file newFilePath
    host.chown newFilePath : Except OsError Unit).mapError (renameError file))

def renameFile (host : FileHost) (file newName : String) : Except Failure Unit := do
  if isEmptyString (some file) then Failure.raise (invalidParams "file is required")
  if isEmptyString (some newName) then Failure.raise (invalidParams "new_name is required")
  if !host.fileExists file && !host.directoryExists file then Failure.raise (fileNotFound file)
  checked (host.access file false true true)
  let originalFilename := newName
  let newName := basename newName
  if originalFilename ≠ newName then
    Failure.raise (invalidParams ("invalid name: " ++ originalFilename ++
      ", name cannot contain \"/\" or special characters"))
  if some originalFilename ≠ toSecureFilename host newName then
    Failure.raise (invalidParams ("invalid characters in name: " ++ originalFilename))
  let newFilePath := sibling file newName
  if host.fileExists newFilePath || host.directoryExists newFilePath then
    Failure.raise (invalidParams ("file or directory with name \"" ++ newName ++
      "\" already exists"))
  if host.linkExists newFilePath then
    Failure.raise (invalidParams ("a symbolic link already exists at: " ++ newFilePath))
  checked (host.access (dirname file) true true true)
  moving host file newFilePath

structure ReadFileResult where
  file : String
  contentType : Option String
  content : String

def contentType (host : FileHost) (file : String) : Option String :=
  if ".que".toList <:+ file.toList ∨ ".ini".toList <:+ file.toList then some "text/plain"
  else host.guessType file

def reading (host : FileHost) (file : String) : Except Failure ReadFileResult := do
  if ← answered (host.isBinary file) then
    Failure.raise (.soca FILE_BROWSER_NOT_A_TEXT_FILE
      "file is not a text file. download the binary file instead")
  let content ← answered (host.read file)
  pure
    { file
      contentType := contentType host file
      content := host.config.base64Encode content }

def readFile (host : FileHost) (file : String) : Except Failure ReadFileResult := do
  if !host.fileExists file then Failure.raise (fileNotFound file)
  checked (host.access file false true false)
  reading host file

def requireText (host : FileHost) (file : String) : Except Failure Unit := do
  if ← answered (host.isBinary file) then
    Failure.raise (invalidParams "file is not a text file. upload the binary file instead")

def saving (host : FileHost) (file content : String) : Except Failure Unit := do
  let content ← checked (host.config.base64Decode content)
  answered (host.write file content)

def saveFile (host : FileHost) (file content : String) : Except Failure Unit := do
  if isEmptyString (some file) then Failure.raise (invalidParams "file is required")
  if !host.fileExists file then Failure.raise (fileNotFound file)
  requireText host file
  checked (host.access file false true true)
  saving host file content

/-- The operations that permissions are asked for, with what they are given besides the path. -/
inductive Operation where
  | delete
  | rename (newName : String)
  | read
  | write (content : String)

def Operation.name : Operation → String
  | .delete => "delete"
  | .rename _ => "rename"
  | .read => "read"
  | .write _ => "write"

def Operation.attempt (host : FileHost) (file : String) : Operation → Except Failure Unit
  | .delete => deleteFile host file
  | .rename newName => renameFile host file newName
  | .read => (readFile host file).map fun _ => ()
  | .write content => saveFile host file content

def Failure.IsRefusal : Failure → Prop
  | .raised e => e = unauthorizedAccess
  | .os .permission => True
  | _ => False

def Done {α : Type} (x : Except Failure α) : Prop := ∃ a, x = .ok a

def Refused {α : Type} (x : Except Failure α) : Prop := ∃ e, x = .error e ∧ e.IsRefusal

def HasPermission (host : FileHost) (operation : Operation) (file : String) : Prop :=
  (filePermission host operation.name file).hasPermission = true

structure Agrees (host : FileHost) (operation : Operation) (file : String) : Prop where
  done : Done (operation.attempt host file) → HasPermission host operation file
  refused : Refused (operation.attempt host file) → ¬HasPermission host operation file

structure FreshName (host : FileHost) (file newName : String) : Prop where
  given : isEmptyString (some newName) = false
  whole : basename newName = newName
  secure : toSecureFilename host newName = some newName
  noFile : host.fileExists (sibling file newName) = false
  noDirectory : host.directoryExists (sibling file newName) = false
  noLink : host.linkExists (sibling file newName) = false

def Operation.IsFresh (host : FileHost) (file : String) : Operation → Prop
  | .rename newName => FreshName host file newName
  | _ => True

/-- The checks of a path let the user through. -/
def Open (host : FileHost) (file : String) (checkDir checkRead checkWrite : Bool) : Prop :=
  host.access file checkDir checkRead checkWrite = .ok ()

def IsProtected (file : String) : Prop := isProtectedFile file userProtectedFolders = true

def Operation.remainder (host : FileHost) (file : String) : Operation → Except Failure Unit
  | .delete => removal host file
  | .rename newName => moving host file (sibling file newName)
  | .read => (reading host file).map fun _ => ()
  | .write content => requireText host file >>= fun _ => saving host file content

def Operation.Applies (host : FileHost) (file : String) : Operation → Prop
  | .delete => True
  | .rename _ => host.fileExists file = true ∨ host.directoryExists file = true
  | .read => host.fileExists file = true
  | .write _ => host.fileExists file = true

/-- An operation that is done is about something that is not protected, and one that is refused is
about something protected. Where the operation checks the path itself and the permission is that
of the parent, the parent is open as well, or closed as well. -/
def Consistent (host : FileHost) (file : String) (operation : Operation) : Prop :=
  let done := Done (operation.remainder host file)
  let refused := Refused (operation.remainder host file)
  operation.Applies host file → match operation with
    | .delete =>
      let parent := Open host (dirname file) true true true
      (Open host file false false true →
        (done → ¬IsProtected file ∧ parent) ∧ (refused → IsProtected file ∨ ¬parent)) ∧
      (¬Open host file false false true → IsProtected file ∨ ¬parent)
    | .rename _ => Open host (dirname file) true true true →
      (Open host file false true true →
        (done → ¬IsProtected file) ∧ (refused → IsProtected file)) ∧
      (¬Open host file false true true → IsProtected file)
    | .read => Open host file false true false →
      (done → ¬IsProtected file) ∧ (refused → IsProtected file)
    | .write _ => Open host file false true true →
      (done → ¬IsProtected file) ∧ (refused → IsProtected file)

section Steps

variable {α β : Type} {x : Except Failure α} {f : α → Except Failure β} {host : FileHost}
  {file : String}

theorem done_bind : Done (x >>= f) ↔ ∃ a, x = .ok a ∧ Done (f a) := by
  cases x <;> simp [Done, bind, Except.bind]

theorem refused_bind : Refused (x >>= f) ↔ Refused x ∨ ∃ a, x = .ok a ∧ Refused (f a) := by
  cases x <;> simp [Refused, bind, Except.bind]

theorem done_map {g : α → β} : Done (x.map g) ↔ Done x := by
  cases x <;> simp [Done, Except.map]

theorem refused_map {g : α → β} : Refused (x.map g) ↔ Refused x := by
  cases x <;> simp [Refused, Except.map]

theorem not_done_error (e : Failure) : ¬Done (.error e : Except Failure α) := by
  rintro ⟨a, ha⟩
  cases ha

theorem refused_error {e : Failure} : Refused (.error e : Except Failure α) ↔ e.IsRefusal := by
  simp [Refused]

theorem invalidParams_not_refusal (info : String) :
    ¬(Failure.raised (invalidParams info)).IsRefusal := by
  simp [Failure.IsRefusal, invalidParams, unauthorizedAccess, ErrorCodes.INVALID_PARAMS]

theorem fileNotFound_not_refusal (file : String) :
    ¬(Failure.raised (fileNotFound file)).IsRefusal := by
  simp [Failure.IsRefusal, fileNotFound, unauthorizedAccess, FILE_NOT_FOUND]

theorem access_cases (host : FileHost) (file : String) (checkDir checkRead checkWrite : Bool) :
    Open host file checkDir checkRead checkWrite ∨
      host.access file checkDir checkRead checkWrite = .error unauthorizedAccess := by
  unfold Open FileHost.access checkAccess requirePermission
  split_ifs <;> simp [bind, Except.bind]

theorem done_access_bind {checkDir checkRead checkWrite : Bool} {next : Except Failure β} :
    Done (checked (host.access file checkDir checkRead checkWrite) >>= fun _ => next) ↔
      Open host file checkDir checkRead checkWrite ∧ Done next := by
  rw [done_bind, Open]
  cases host.access file checkDir checkRead checkWrite <;> simp [checked, Except.mapError]

theorem refused_access_bind {checkDir checkRead checkWrite : Bool} {next : Except Failure β} :
    Refused (checked (host.access file checkDir checkRead checkWrite) >>= fun _ => next) ↔
      (Open host file checkDir checkRead checkWrite → Refused next) := by
  rw [refused_bind]
  rcases access_cases host file checkDir checkRead checkWrite with hopen | herror
  · rw [hopen]
    simp [checked, Except.mapError, Refused, hopen]
  · have hclosed : ¬Open host file checkDir checkRead checkWrite := by
      rw [Open, herror]
      simp
    simp [herror, hclosed, checked, Except.mapError, Refused, Failure.IsRefusal]

end Steps

section Operations

variable {host : FileHost} {file : String}

theorem hasPermission_iff {operation : Operation} : HasPermission host operation file ↔
    ¬IsProtected file ∧ checkOperation host operation.name file = .ok () := by
  unfold HasPermission filePermission IsProtected
  by_cases hprotected : isProtectedFile file userProtectedFolders = true
  · simp [hprotected]
  · rw [if_neg hprotected]
    cases hcheck : checkOperation host operation.name file <;> simp [hprotected]

theorem parentDir_eq (file : String) : parentDir file = dirname file := by
  unfold parentDir
  split
  · rfl
  · rename_i hroot
    rw [not_not.mp hroot]
    decide

theorem hasPermission_parent {operation : Operation}
    (h : operation.name = "rename" ∨ operation.name = "delete") :
    HasPermission host operation file ↔
      ¬IsProtected file ∧ Open host (dirname file) true true true := by
  rw [hasPermission_iff, checkOperation, if_pos h, parentDir_eq, Open]

theorem not_isDir_of_fileExists (h : host.fileExists file = true) : host.isDir file = false :=
  host.exclusive file (Bool.and_eq_true_iff.mp h).2

theorem hasPermission_read (h : host.fileExists file = true) :
    HasPermission host .read file ↔ ¬IsProtected file ∧ Open host file false true false := by
  rw [hasPermission_iff, Open]
  simp [checkOperation, Operation.name, not_isDir_of_fileExists h]

theorem hasPermission_write (h : host.fileExists file = true) (content : String) :
    HasPermission host (.write content) file ↔
      ¬IsProtected file ∧ Open host file false true true := by
  rw [hasPermission_iff, Open]
  simp [checkOperation, Operation.name, not_isDir_of_fileExists h]

theorem agrees_iff_done {operation : Operation} : Agrees host operation file ↔
    (Done (operation.attempt host file) → HasPermission host operation file) ∧
      (Refused (operation.attempt host file) → ¬HasPermission host operation file) :=
  ⟨fun h => ⟨h.done, h.refused⟩, fun h => ⟨h.1, h.2⟩⟩

theorem agrees_delete : Agrees host .delete file ↔ Consistent host file .delete := by
  have hdone : Done (deleteFile host file) ↔
      Open host file false false true ∧ Done (removal host file) := done_access_bind
  have hrefused : Refused (deleteFile host file) ↔
      (Open host file false false true → Refused (removal host file)) := refused_access_bind
  have hpermission : HasPermission host .delete file ↔
      ¬IsProtected file ∧ Open host (dirname file) true true true :=
    hasPermission_parent (Or.inr rfl)
  rw [agrees_iff_done]
  simp only [Operation.attempt, hdone, hrefused, hpermission, Consistent, Operation.Applies,
    Operation.remainder]
  generalize Open host file false false true = isOpen, Open host (dirname file) true true true =
    parent, Done (removal host file) = isDone, Refused (removal host file) = isRefused,
    IsProtected file = isProtected
  clear hdone hrefused hpermission
  tauto

theorem given_of_exists {kind : Bool} (h : (!isEmptyString (some file) && kind) = true) :
    isEmptyString (some file) = false := by
  simpa using (Bool.and_eq_true_iff.mp h).1

theorem renameFile_eq {newName : String} (hfresh : FreshName host file newName)
    (hfile : host.fileExists file = true ∨ host.directoryExists file = true) :
    renameFile host file newName =
      checked (host.access file false true true) >>= fun _ =>
        checked (host.access (dirname file) true true true) >>= fun _ =>
          moving host file (sibling file newName) := by
  have hgiven : isEmptyString (some file) = false := by
    rcases hfile with h | h <;> exact given_of_exists h
  have hexists : (!host.fileExists file && !host.directoryExists file) = false := by
    rcases hfile with h | h <;> simp [h]
  have hfree : (host.fileExists (sibling file newName) ||
      host.directoryExists (sibling file newName)) = false := by
    rw [hfresh.noFile, hfresh.noDirectory]
    rfl
  unfold renameFile
  simp only [hgiven, hfresh.given, hexists, hfresh.whole, hfresh.secure, hfree, hfresh.noLink,
    ne_eq, not_true_eq_false, if_false, Bool.false_eq_true]

theorem renameFile_of_missing {newName : String}
    (hfile : ¬(host.fileExists file = true ∨ host.directoryExists file = true)) :
    ¬Done (renameFile host file newName) ∧ ¬Refused (renameFile host file newName) := by
  have hmissing : (!host.fileExists file && !host.directoryExists file) = true := by
    simpa using hfile
  obtain ⟨e, hrename, he⟩ :
      ∃ e, renameFile host file newName = .error e ∧ ¬e.IsRefusal := by
    unfold renameFile
    by_cases hgiven : isEmptyString (some file) = true
    · exact ⟨_, by rw [if_pos hgiven]; rfl, invalidParams_not_refusal _⟩
    · by_cases hname : isEmptyString (some newName) = true
      · exact ⟨_, by rw [if_neg hgiven, if_pos hname]; rfl, invalidParams_not_refusal _⟩
      · exact ⟨_, by rw [if_neg hgiven, if_neg hname, if_pos hmissing]; rfl,
          fileNotFound_not_refusal _⟩
  rw [hrename, refused_error]
  exact ⟨not_done_error e, he⟩

theorem agrees_rename {newName : String} (hfresh : FreshName host file newName) :
    Agrees host (.rename newName) file ↔ Consistent host file (.rename newName) := by
  have hpermission : HasPermission host (.rename newName) file ↔
      ¬IsProtected file ∧ Open host (dirname file) true true true :=
    hasPermission_parent (Or.inl rfl)
  rw [agrees_iff_done]
  simp only [Operation.attempt, hpermission, Consistent, Operation.Applies, Operation.remainder]
  by_cases hfile : host.fileExists file = true ∨ host.directoryExists file = true
  · rw [renameFile_eq hfresh hfile]
    simp only [done_access_bind, refused_access_bind, hfile, true_imp_iff]
    generalize Open host file false true true = isOpen, Open host (dirname file) true true true =
      parent, Done (moving host file _) = isDone, Refused (moving host file _) = isRefused,
      IsProtected file = isProtected
    clear hpermission
    tauto
  · obtain ⟨hdone, hrefused⟩ : ¬Done (renameFile host file newName) ∧
        ¬Refused (renameFile host file newName) := renameFile_of_missing hfile
    simp [hdone, hrefused, hfile]

theorem agrees_read : Agrees host .read file ↔ Consistent host file .read := by
  rw [agrees_iff_done]
  simp only [Operation.attempt, Consistent, Operation.Applies, Operation.remainder, done_map,
    refused_map]
  by_cases hfile : host.fileExists file = true
  · have hread : readFile host file =
        checked (host.access file false true false) >>= fun _ => reading host file := by
      simp [readFile, hfile]
    simp only [hread, done_access_bind, refused_access_bind, hasPermission_read hfile, hfile,
      true_imp_iff]
    generalize Open host file false true false = isOpen, Done (reading host file) = isDone,
      Refused (reading host file) = isRefused, IsProtected file = isProtected
    tauto
  · have hread : readFile host file = .error (.raised (fileNotFound file)) := by
      simp [readFile, hfile, Failure.raise, bind, Except.bind]
    simp [hread, hfile, not_done_error, refused_error, fileNotFound_not_refusal]

theorem agrees_write (content : String) :
    Agrees host (.write content) file ↔ Consistent host file (.write content) := by
  rw [agrees_iff_done]
  simp only [Operation.attempt, Consistent, Operation.Applies, Operation.remainder]
  by_cases hfile : host.fileExists file = true
  · have hsave : saveFile host file content = requireText host file >>= fun _ =>
        checked (host.access file false true true) >>= fun _ => saving host file content := by
      simp [saveFile, hfile, given_of_exists hfile]
    rw [hsave]
    simp only [hasPermission_write hfile, hfile, true_imp_iff]
    cases requireText host file with
    | error e =>
      change (Done (.error e) → _) ∧ (Refused (.error e) → _) ↔
        (_ → (Done (.error e) → _) ∧ (Refused (.error e) → _))
      simp only [not_done_error, refused_error]
      tauto
    | ok kind =>
      change (Done (checked _ >>= fun _ => _) → _) ∧ (Refused (checked _ >>= fun _ => _) → _) ↔
        (_ → (Done (saving host file content) → _) ∧ (Refused (saving host file content) → _))
      simp only [done_access_bind, refused_access_bind]
      generalize Open host file false true true = isOpen, Done (saving host file content) = isDone,
        Refused (saving host file content) = isRefused, IsProtected file = isProtected
      tauto
  · have hsave : ∃ e, saveFile host file content = .error e ∧ ¬e.IsRefusal := by
      unfold saveFile
      by_cases hgiven : isEmptyString (some file) = true
      · exact ⟨_, by rw [if_pos hgiven]; rfl, invalidParams_not_refusal _⟩
      · exact ⟨_, by rw [if_neg hgiven, if_pos (by simpa using hfile)]; rfl,
          fileNotFound_not_refusal _⟩
    obtain ⟨e, hsave, he⟩ := hsave
    simp [hsave, hfile, not_done_error, refused_error, he]

/-- The answer agrees with an operation exactly if the rules of both are consistent there. -/
theorem agrees_iff_consistent {operation : Operation} (hfresh : operation.IsFresh host file) :
    Agrees host operation file ↔ Consistent host file operation := by
  cases operation with
  | delete => exact agrees_delete
  | rename newName => exact agrees_rename hfresh
  | read => exact agrees_read
  | write content => exact agrees_write content

end Operations

def homeHost : FileHost where
  config := ⟨some "/data", id, .ok⟩
  granted _ _ := true
  isLink _ := false
  isDir file := file ∈ ["/data", "/data/home", "/data/home/u", "/data/home/u/Desktop"]
  isFile file := file = "/data/home/u/a.txt"
  exclusive file h := by
    obtain rfl : file = "/data/home/u/a.txt" := of_decide_eq_true h
    decide
  isBinary _ := .ok false
  guessType _ := some "text/plain"
  read _ := .ok "a"
  write _ _ := .ok ()
  unlink _ := .ok ()
  rmtree _ := .ok ()
  remove _ := .ok ()
  rename _ _ := .ok ()
  chown _ := .ok ()
  normalize := id

theorem agrees_iff_consistent_home :
    Operation.IsFresh homeHost "/data/home/u/a.txt" (.rename "b.txt") ∧
      (Agrees homeHost (.rename "b.txt") "/data/home/u/a.txt" ↔
        Consistent homeHost "/data/home/u/a.txt" (.rename "b.txt")) := by
  have hfresh : Operation.IsFresh homeHost "/data/home/u/a.txt" (.rename "b.txt") :=
    ⟨by decide +kernel, by decide +kernel, by decide +kernel, by decide +kernel,
      by decide +kernel, by decide +kernel⟩
  exact ⟨hfresh, agrees_iff_consistent hfresh⟩

/-- A protected folder is deleted. -/
theorem not_agrees_desktop :
    Done (deleteFile homeHost "/data/home/u/Desktop") ∧
      filePermission homeHost "delete" "/data/home/u/Desktop" =
        { file := "/data/home/u/Desktop"
          hasPermission := false
          isProtected := true
          errorCode := some "PROTECTED_FILE"
          errorMessage := some "File is protected and cannot be modified" } ∧
      ¬Agrees homeHost .delete "/data/home/u/Desktop" := by
  have hdone : Done (deleteFile homeHost "/data/home/u/Desktop") := ⟨(), by decide +kernel⟩
  have hprotected : filePermission homeHost "delete" "/data/home/u/Desktop" =
      ⟨"/data/home/u/Desktop", false, true, some "PROTECTED_FILE",
        some "File is protected and cannot be modified"⟩ := by
    unfold filePermission
    rw [if_pos (by decide +kernel)]
  refine ⟨hdone, hprotected, fun hagrees => ?_⟩
  have hpermission := hagrees.done hdone
  unfold HasPermission at hpermission
  rw [Operation.name, hprotected] at hpermission
  cases hpermission

end Idea.FileBrowser

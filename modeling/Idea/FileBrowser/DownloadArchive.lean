import Mathlib.Data.List.Infix
import Idea.Data.FreshNames
import Idea.FileBrowser.FilePermissions
import Idea.Server.FileUpload

/-! # Download archives

Several files and directories are downloaded as one archive. The selected ones keep their own names
as far as these differ, and what is below a directory keeps its path from there.
-/

namespace Idea.FileBrowser

/-- A directory below another one, by the names that lead to it, with the names of its files. -/
structure Visit where
  rel : List String
  files : List String

/-- What `os.walk` goes through. -/
structure Walk where
  visits : List Visit
  distinct : (visits.map Visit.rel).Nodup
  names : ∀ visit ∈ visits, ∀ name ∈ visit.rel ++ visit.files, name ≠ "" ∧ '/' ∉ name.toList
  files_nodup : ∀ visit ∈ visits, visit.files.Nodup

structure DownloadHost extends FileHost where
  pathExists : String → Bool
  getsize : String → Except OsError ℕ
  readBytes : String → Except OsError (List UInt8)
  walk : String → Walk
  str : Failure → String
  userGroup : Except Raised String
  downloadsDir : String
  makedirs : String → Except OsError Unit
  /-- The path of the archive, which has a name from the selection and the time. -/
  zipFilePath : List String → String
  createZip : String → Except OsError Unit

/-- Where an entry comes from: a selected file, or a directory or a file below a selected directory,
by the name of the selected one in the archive. -/
inductive Place where
  | selected (name : String)
  | directory (top : String) (rel : List String)
  | file (top : String) (rel : List String) (name : String)
  deriving DecidableEq

structure ZipEntry where
  name : String
  place : Place
  source : Option String
  content : List UInt8

structure ZipArchive where
  entries : List ZipEntry
  usedNames : List String

namespace ZipArchive

variable (self : ZipArchive)

def useName (name : String) : ZipArchive := { self with usedNames := self.usedNames ++ [name] }

def write (entry : ZipEntry) : ZipArchive := { self with entries := self.entries ++ [entry] }

end ZipArchive

def archiveFailed (text : String) : Failure :=
  .raised (.soca ErrorCodes.GENERAL_ERROR ("Failed to create download archive: " ++ text))

/-- `path.replace('\\', '/')` -/
def slashed (path : String) : String :=
  String.ofList (path.toList.map fun c => if c = '\\' then '/' else c)

def joined (path next : String) : String := String.ofList (Path.join path.toList next.toList)

def relPath (rel : List String) : String :=
  String.ofList (['/'].intercalate (rel.map String.toList))

def rstripSlashes (path : String) : String :=
  String.ofList (path.toList.reverse.dropWhile (· = '/')).reverse

def fileCandidate (baseName : String) (counter : ℕ) : String :=
  let parts := FileUpload.splitext baseName
  String.ofList (FreshNames.numbered parts.1.toList parts.2.toList counter)

def directoryCandidate (baseDirName : String) (counter : ℕ) : String :=
  String.ofList (FreshNames.numbered baseDirName.toList [] counter)

def baseDirName (directoryPath : String) : String :=
  let name := basename directoryPath
  if name = "" then "directory" else name

def archiveDir (directoryName : String) (rel : List String) : String :=
  if rel = [] then directoryName else slashed (joined directoryName (relPath rel))

def archiveFilePath (directoryName : String) (rel : List String) (filename : String) : String :=
  slashed (joined (archiveDir directoryName rel) filename)

def nestedPath (directoryPath : String) (rel : List String) (filename : String) : String :=
  joined (if rel = [] then directoryPath else joined directoryPath (relPath rel)) filename

section Writing

variable (host : DownloadHost)

/-- `_add_file_to_zip` -/
def addFileToZip (filePath : String) (zip : ZipArchive) : Except Failure ZipArchive :=
  let fileName := FreshNames.fresh (fileCandidate (basename filePath)) zip.usedNames
  match host.getsize filePath with
  | .error e => .error (.os e)
  | .ok _ =>
    match host.readBytes filePath with
    | .error e => .error (archiveFailed (host.str (.os e)))
    | .ok content =>
      .ok ((zip.useName fileName).write ⟨fileName, .selected fileName, some filePath, content⟩)

def addNestedFile (directoryPath directoryName : String) (rel : List String) (zip : ZipArchive)
    (filename : String) : ZipArchive :=
  let filePath := nestedPath directoryPath rel filename
  let name := archiveFilePath directoryName rel filename
  if host.granted filePath .read then
    match host.getsize filePath with
    | .error _ => zip
    | .ok _ =>
      match host.readBytes filePath with
      | .error _ => zip.write ⟨name, .file directoryName rel filename, none, []⟩
      | .ok content => zip.write ⟨name, .file directoryName rel filename, some filePath, content⟩
  else zip

def addVisit (directoryPath directoryName : String) (zip : ZipArchive) (visit : Visit) :
    ZipArchive :=
  let dir := archiveDir directoryName visit.rel
  let zip :=
    if dir ∈ zip.usedNames then zip
    else (zip.write ⟨dir ++ "/", .directory directoryName visit.rel, none, []⟩).useName (dir ++ "/")
  visit.files.foldl (addNestedFile host directoryPath directoryName visit.rel) zip

/-- `_add_directory_to_zip` -/
def addDirectoryToZip (directory : String) (zip : ZipArchive) : Except Failure ZipArchive :=
  let directoryPath := rstripSlashes directory
  let directoryName :=
    FreshNames.fresh (directoryCandidate (baseDirName directoryPath)) zip.usedNames
  if !host.pathExists directoryPath then
    .error (archiveFailed (host.str (.raised (fileNotFound directoryPath))))
  else if !host.isDir directoryPath then
    .error (archiveFailed (host.str (.raised (.soca ErrorCodes.INVALID_PARAMS
      ("Path is not a directory: " ++ directoryPath)))))
  else .ok ((host.walk directoryPath).visits.foldl (addVisit host directoryPath directoryName)
    (zip.useName directoryName))

def addToZip : List String → ZipArchive → Except Failure ZipArchive
  | [], zip => .ok zip
  | downloadItem :: downloadList, zip =>
    if host.fileExists downloadItem then do
      addToZip downloadList (← addFileToZip host downloadItem zip)
    else if host.directoryExists downloadItem then do
      addToZip downloadList (← addDirectoryToZip host downloadItem zip)
    else addToZip downloadList zip

/-- The loop of `download_files` that writes the archive. -/
def zipDownloads (downloadList : List String) : Except Failure ZipArchive :=
  addToZip host downloadList ⟨[], []⟩

/-- What `download_files` takes of one of the files, if it may be read. -/
def checkDownload (file : String) : Except Failure (List String) :=
  if isEmptyString (some file) then .ok []
  else if goesUp file then .error (.raised unauthorizedAccess)
  else if !host.fileExists file && !host.directoryExists file then
    .error (.raised (fileNotFound file))
  else
    match host.access file (!host.fileExists file) true false with
    | .error e => .error (.raised e)
    | .ok () => .ok [file]

def osCall (result : Except OsError Unit) : Except Failure Unit :=
  match result with
  | .error e => .error (.os e)
  | .ok () => .ok ()

/-- `download_files`; sizes are only logged. -/
def downloadFiles (files : List String) : Except Failure ZipArchive :=
  if files = [] then .error (.raised (invalidParams "file is required"))
  else do
    let checked ← files.mapM (checkDownload host)
    match host.userGroup with
    | .error e => .error (.raised e)
    | .ok _ =>
      if host.linkExists host.downloadsDir then
        .error (.raised (invalidParams
          ("a symbolic link already exists at: " ++ host.downloadsDir)))
      else do
        osCall (host.makedirs host.downloadsDir)
        osCall (host.chown host.downloadsDir)
        osCall (host.createZip (host.zipFilePath checked.flatten))
        let zip ← zipDownloads host checked.flatten
        osCall (host.chown (host.zipFilePath checked.flatten))
        .ok zip

end Writing

section Names

variable {used : List String} {base : String}

theorem splitext_append (base : String) :
    (FileUpload.splitext base).1.toList ++ (FileUpload.splitext base).2.toList = base.toList := by
  have hplain : ("" : String).toList = [] := rfl
  have hdrop : ∀ cs : List Char, cs.drop (cs.takeWhile (· ≠ '.')).length =
      cs.dropWhile (· ≠ '.') := by
    intro cs
    induction cs with
    | nil => rfl
    | cons c cs ih =>
      by_cases hc : c = '.'
      · simp [hc]
      · simpa [hc] using ih
  have hback := List.takeWhile_append_dropWhile (p := (· ≠ '.')) (l := base.toList.reverse)
  unfold FileUpload.splitext
  simp only [hdrop]
  split
  · rw [hplain, List.append_nil]
  · rename_i dot before heq
    split
    · rw [hplain, List.append_nil]
    · rw [heq] at hback
      have hbase := congrArg List.reverse hback
      rw [List.reverse_reverse] at hbase
      rw [String.toList_ofList, String.toList_ofList]
      exact Eq.trans (by simp) hbase

theorem fileCandidate_injective (base : String) : Function.Injective (fileCandidate base) :=
  fun _ _ h => FreshNames.numbered_injective _ _ (String.ofList_injective h)

theorem directoryCandidate_injective (base : String) :
    Function.Injective (directoryCandidate base) :=
  fun _ _ h => FreshNames.numbered_injective _ _ (String.ofList_injective h)

theorem mem_numbered {c : Char} {name ext : List Char} {n : ℕ}
    (h : c ∈ FreshNames.numbered name ext n) :
    c ∈ name ++ ext ∨ c = '_' ∨ c.isDigit = true := by
  rw [FreshNames.numbered] at h
  split at h
  · exact Or.inl h
  · rcases List.mem_append.mp h with h | h
    · rcases List.mem_append.mp h with h | h
      · exact Or.inl (List.mem_append_left _ h)
      · rcases List.mem_cons.mp h with rfl | h
        · exact Or.inr (Or.inl rfl)
        · exact Or.inr (Or.inr (Nat.isDigit_of_mem_toDigits (by decide) (by decide) h))
    · exact Or.inl (List.mem_append_right _ h)

theorem not_mem_fileCandidate {c : Char} (hc : c ≠ '_') (hdigit : c.isDigit = false)
    (hbase : c ∉ base.toList) (n : ℕ) : c ∉ (fileCandidate base n).toList := by
  intro h
  rw [fileCandidate, String.toList_ofList] at h
  rcases mem_numbered h with h | h | h
  · rw [splitext_append] at h
    exact hbase h
  · exact hc h
  · rw [hdigit] at h
    cases h

theorem not_mem_directoryCandidate {c : Char} (hc : c ≠ '_') (hdigit : c.isDigit = false)
    (hbase : c ∉ base.toList) (n : ℕ) : c ∉ (directoryCandidate base n).toList := by
  intro h
  rw [directoryCandidate, String.toList_ofList] at h
  rcases mem_numbered h with h | h | h
  · rw [List.append_nil] at h
    exact hbase h
  · exact hc h
  · rw [hdigit] at h
    cases h

theorem directoryCandidate_ne_empty (hbase : base ≠ "") (n : ℕ) :
    directoryCandidate base n ≠ "" := by
  intro h
  have hlist := congrArg String.toList h
  rw [directoryCandidate, String.toList_ofList, FreshNames.numbered] at hlist
  split at hlist
  · rw [List.append_nil] at hlist
    exact hbase (String.toList_injective hlist)
  · simp at hlist

theorem slash_not_mem_basename (path : String) : '/' ∉ (basename path).toList := by
  rw [basename, String.toList_ofList]
  exact Path.slash_not_mem_namePart _

theorem baseDirName_spec (path : String) :
    baseDirName path ≠ "" ∧ '/' ∉ (baseDirName path).toList := by
  rw [baseDirName]
  split
  · exact ⟨by decide, by decide⟩
  · rename_i h
    exact ⟨h, slash_not_mem_basename path⟩

end Names

def Place.archiveName : Place → String
  | .selected name => name
  | .directory top rel => archiveDir top rel ++ "/"
  | .file top rel name => archiveFilePath top rel name

section Plan

variable (host : DownloadHost)

def DownloadHost.sized (path : String) : Bool :=
  match host.getsize path with
  | .error _ => false
  | .ok _ => true

def DownloadHost.fileContent (path : String) : Option (List UInt8) :=
  if host.sized path then
    match host.readBytes path with
    | .error _ => none
    | .ok content => some content
  else none

/-- The entries of one directory below a selected one. It has one of its own unless its path is
that of an entry. -/
def visitPlaces (directoryPath top : String) (used : List String) (visit : Visit) : List Place :=
  (if archiveDir top visit.rel ∈ used then [] else [.directory top visit.rel]) ++
    (visit.files.filter fun name =>
      host.granted (nestedPath directoryPath visit.rel name) .read &&
        host.sized (nestedPath directoryPath visit.rel name)).map (.file top visit.rel)

def usedAfter (top : String) (used : List String) (visit : Visit) : List String :=
  if archiveDir top visit.rel ∈ used then used else used ++ [archiveDir top visit.rel ++ "/"]

def visitsPlaces (directoryPath top : String) : List String → List Visit → List Place
  | _, [] => []
  | used, visit :: visits =>
    visitPlaces host directoryPath top used visit ++
      visitsPlaces directoryPath top (usedAfter top used visit) visits

def places : List String → List String → List Place
  | _, [] => []
  | used, item :: items =>
    if host.fileExists item then
      let name := FreshNames.fresh (fileCandidate (basename item)) used
      .selected name :: places (used ++ [name]) items
    else if host.directoryExists item then
      let path := rstripSlashes item
      let top := FreshNames.fresh (directoryCandidate (baseDirName path)) used
      visitsPlaces host path top (used ++ [top]) (host.walk path).visits ++
        places ((host.walk path).visits.foldl (usedAfter top) (used ++ [top])) items
    else places used items

def visitFiles (directoryPath : String) (visit : Visit) : List (String × List UInt8) :=
  visit.files.filterMap fun name =>
    let path := nestedPath directoryPath visit.rel name
    if host.granted path .read then (host.fileContent path).map fun content => (path, content)
    else none

def itemFiles (item : String) : List (String × List UInt8) :=
  if host.fileExists item then ((host.fileContent item).map fun content => (item, content)).toList
  else if host.directoryExists item then
    (host.walk (rstripSlashes item)).visits.flatMap (visitFiles host (rstripSlashes item))
  else []

end Plan

def ZipEntry.copied (entry : ZipEntry) : Option (String × List UInt8) :=
  entry.source.map fun path => (path, entry.content)

/-- An archive with more entries: where they come from, and the files that were copied. -/
def Extends (zip zip' : ZipArchive) (added : List Place) (copied : List (String × List UInt8)) :
    Prop :=
  ∃ entries, zip'.entries = zip.entries ++ entries ∧ entries.map ZipEntry.place = added ∧
    (∀ entry ∈ entries, entry.name = entry.place.archiveName ∧
      (entry.source = none → entry.content = [])) ∧
    entries.filterMap ZipEntry.copied = copied

variable {place : Place} {content : List UInt8} {path : String}

section Run

variable {host : DownloadHost} {zip zip₁ zip₂ : ZipArchive} {added added' : List Place}
  {copied copied' : List (String × List UInt8)}

theorem Failure.bind_eq_ok {α β : Type} {x : Except Failure α} {f : α → Except Failure β} {b : β} :
    x >>= f = .ok b ↔ ∃ a, x = .ok a ∧ f a = .ok b := by
  cases x <;> simp [bind, Except.bind]

theorem Extends.refl (h : zip₁.entries = zip.entries) : Extends zip zip₁ [] [] :=
  ⟨[], by rw [h, List.append_nil], rfl, fun _ he => absurd he List.not_mem_nil, rfl⟩

theorem Extends.trans (h : Extends zip zip₁ added copied) (h' : Extends zip₁ zip₂ added' copied') :
    Extends zip zip₂ (added ++ added') (copied ++ copied') := by
  obtain ⟨entries, hentries, rfl, hnames, rfl⟩ := h
  obtain ⟨entries', hentries', rfl, hnames', rfl⟩ := h'
  refine ⟨entries ++ entries', ?_, List.map_append, ?_, List.filterMap_append⟩
  · rw [hentries', hentries, List.append_assoc]
  · intro entry he
    rcases List.mem_append.mp he with he | he
    · exact hnames entry he
    · exact hnames' entry he

theorem Extends.write {name : String} {place : Place} {source : Option String}
    {content : List UInt8} (hname : name = place.archiveName)
    (hcontent : source = none → content = [])
    (hentries : zip₁.entries = zip.entries ++ [⟨name, place, source, content⟩]) :
    Extends zip zip₁ [place] (source.map fun path => (path, content)).toList := by
  refine ⟨[⟨name, place, source, content⟩], hentries, rfl, ?_, ?_⟩
  · intro entry he
    rw [List.mem_singleton.mp he]
    exact ⟨hname, hcontent⟩
  · cases source <;> rfl

theorem Extends.copy {name path : String} (hname : name = place.archiveName)
    (hentries : zip₁.entries = zip.entries ++ [⟨name, place, some path, content⟩]) :
    Extends zip zip₁ [place] [(path, content)] :=
  Extends.write hname (by intro h; cases h) hentries

theorem Extends.bare {name : String} (hname : name = place.archiveName)
    (hentries : zip₁.entries = zip.entries ++ [⟨name, place, none, []⟩]) :
    Extends zip zip₁ [place] [] :=
  Extends.write hname (fun _ => rfl) hentries

theorem fileContent_of_readBytes (hsized : host.sized path = true)
    (hread : host.readBytes path = .ok content) : host.fileContent path = some content := by
  rw [DownloadHost.fileContent, if_pos hsized, hread]

theorem addFileToZip_spec (h : addFileToZip host path zip = .ok zip₁) :
    zip₁.usedNames =
        zip.usedNames ++ [FreshNames.fresh (fileCandidate (basename path)) zip.usedNames] ∧
      Extends zip zip₁
        [.selected (FreshNames.fresh (fileCandidate (basename path)) zip.usedNames)]
        ((host.fileContent path).map fun content => (path, content)).toList := by
  rw [addFileToZip] at h
  cases hsize : host.getsize path with
  | error e => simp [hsize] at h
  | ok size =>
    cases hread : host.readBytes path with
    | error e => simp [hsize, hread] at h
    | ok content =>
      simp only [hsize, hread] at h
      have hsized : host.sized path = true := by rw [DownloadHost.sized, hsize]
      rw [fileContent_of_readBytes hsized hread, ← Except.ok.inj h]
      exact ⟨rfl, Extends.copy rfl rfl⟩

theorem addNestedFile_spec (host : DownloadHost) (directoryPath top : String)
    (rel : List String) (zip : ZipArchive) (name : String) :
    (addNestedFile host directoryPath top rel zip name).usedNames = zip.usedNames ∧
      Extends zip (addNestedFile host directoryPath top rel zip name)
        (if host.granted (nestedPath directoryPath rel name) .read &&
            host.sized (nestedPath directoryPath rel name) then [.file top rel name] else [])
        (if host.granted (nestedPath directoryPath rel name) .read then
            ((host.fileContent (nestedPath directoryPath rel name)).map fun content =>
              (nestedPath directoryPath rel name, content)).toList else []) := by
  generalize hpath : nestedPath directoryPath rel name = path
  rw [addNestedFile]
  simp only [hpath]
  cases hgranted : host.granted path .read with
  | false => exact ⟨rfl, Extends.refl rfl⟩
  | true =>
    cases hsize : host.getsize path with
    | error e =>
      have hsized : host.sized path = false := by rw [DownloadHost.sized, hsize]
      simp only [hsized, DownloadHost.fileContent]
      exact ⟨rfl, Extends.refl rfl⟩
    | ok size =>
      have hsized : host.sized path = true := by rw [DownloadHost.sized, hsize]
      cases hread : host.readBytes path with
      | error e =>
        simp only [hsized, DownloadHost.fileContent, hread]
        exact ⟨rfl, Extends.bare rfl rfl⟩
      | ok content =>
        simp only [hsized, fileContent_of_readBytes hsized hread]
        exact ⟨rfl, Extends.copy rfl rfl⟩

theorem addNestedFiles_spec (host : DownloadHost) (directoryPath top : String)
    (rel files : List String) (zip : ZipArchive) :
    (files.foldl (addNestedFile host directoryPath top rel) zip).usedNames = zip.usedNames ∧
      Extends zip (files.foldl (addNestedFile host directoryPath top rel) zip)
        ((files.filter fun name =>
          host.granted (nestedPath directoryPath rel name) .read &&
            host.sized (nestedPath directoryPath rel name)).map (.file top rel))
        (visitFiles host directoryPath ⟨rel, files⟩) := by
  induction files generalizing zip with
  | nil => exact ⟨rfl, Extends.refl rfl⟩
  | cons name files ih =>
    obtain ⟨hused, hextends⟩ := addNestedFile_spec host directoryPath top rel zip name
    obtain ⟨hused', hextends'⟩ := ih (addNestedFile host directoryPath top rel zip name)
    rw [List.foldl_cons]
    refine ⟨hused'.trans hused, ?_⟩
    convert hextends.trans hextends' using 1
    · rw [List.filter_cons]
      split <;> simp
    · simp only [visitFiles, List.filterMap_cons]
      cases host.granted (nestedPath directoryPath rel name) .read with
      | false => rfl
      | true => cases host.fileContent (nestedPath directoryPath rel name) <;> rfl

theorem addVisit_spec (host : DownloadHost) (directoryPath top : String) (zip : ZipArchive)
    (visit : Visit) :
    (addVisit host directoryPath top zip visit).usedNames = usedAfter top zip.usedNames visit ∧
      Extends zip (addVisit host directoryPath top zip visit)
        (visitPlaces host directoryPath top zip.usedNames visit)
        (visitFiles host directoryPath visit) := by
  rw [addVisit, visitPlaces, usedAfter]
  by_cases hused : archiveDir top visit.rel ∈ zip.usedNames
  · simp only [if_pos hused]
    exact addNestedFiles_spec host directoryPath top visit.rel visit.files zip
  · simp only [if_neg hused]
    obtain ⟨hfiles, hextends⟩ := addNestedFiles_spec host directoryPath top visit.rel
      visit.files ((zip.write ⟨archiveDir top visit.rel ++ "/", .directory top visit.rel, none,
        []⟩).useName (archiveDir top visit.rel ++ "/"))
    exact ⟨hfiles, (Extends.bare rfl rfl).trans hextends⟩

theorem addVisits_spec (directoryPath top : String) (visits : List Visit) (zip : ZipArchive) :
    (visits.foldl (addVisit host directoryPath top) zip).usedNames =
        visits.foldl (usedAfter top) zip.usedNames ∧
      Extends zip (visits.foldl (addVisit host directoryPath top) zip)
        (visitsPlaces host directoryPath top zip.usedNames visits)
        (visits.flatMap (visitFiles host directoryPath)) := by
  induction visits generalizing zip with
  | nil => exact ⟨rfl, Extends.refl rfl⟩
  | cons visit visits ih =>
    obtain ⟨hused, hextends⟩ := addVisit_spec host directoryPath top zip visit
    obtain ⟨hused', hextends'⟩ := ih (addVisit host directoryPath top zip visit)
    rw [hused] at hused' hextends'
    exact ⟨hused', hextends.trans hextends'⟩

theorem addDirectoryToZip_spec {directory : String}
    (h : addDirectoryToZip host directory zip = .ok zip₁) :
    zip₁.usedNames = (host.walk (rstripSlashes directory)).visits.foldl
        (usedAfter (FreshNames.fresh (directoryCandidate (baseDirName (rstripSlashes directory)))
          zip.usedNames))
        (zip.usedNames ++ [FreshNames.fresh
          (directoryCandidate (baseDirName (rstripSlashes directory))) zip.usedNames]) ∧
      Extends zip zip₁
        (visitsPlaces host (rstripSlashes directory)
          (FreshNames.fresh (directoryCandidate (baseDirName (rstripSlashes directory)))
            zip.usedNames)
          (zip.usedNames ++ [FreshNames.fresh
            (directoryCandidate (baseDirName (rstripSlashes directory))) zip.usedNames])
          (host.walk (rstripSlashes directory)).visits)
        ((host.walk (rstripSlashes directory)).visits.flatMap
          (visitFiles host (rstripSlashes directory))) := by
  generalize hpath : rstripSlashes directory = path
  rw [addDirectoryToZip] at h
  simp only [hpath] at h
  generalize FreshNames.fresh (directoryCandidate (baseDirName path)) zip.usedNames = top at h ⊢
  split at h
  · cases h
  · split at h
    · cases h
    · rw [← Except.ok.inj h]
      exact addVisits_spec path top (host.walk path).visits (zip.useName top)

theorem addToZip_spec {items : List String} (h : addToZip host items zip = .ok zip₁) :
    Extends zip zip₁ (places host zip.usedNames items) (items.flatMap (itemFiles host)) := by
  induction items generalizing zip with
  | nil =>
    rw [← Except.ok.inj h]
    exact Extends.refl rfl
  | cons item items ih =>
    rw [addToZip] at h
    rw [places, List.flatMap_cons, itemFiles]
    split at h
    · rename_i hfile
      obtain ⟨zip', hadd, hrest⟩ := Failure.bind_eq_ok.mp h
      obtain ⟨hused, hextends⟩ := addFileToZip_spec hadd
      have hrest' := ih hrest
      rw [hused] at hrest'
      rw [if_pos hfile, if_pos hfile]
      exact hextends.trans hrest'
    · rename_i hfile
      rw [if_neg hfile, if_neg hfile]
      split at h
      · rename_i hdirectory
        obtain ⟨zip', hadd, hrest⟩ := Failure.bind_eq_ok.mp h
        obtain ⟨hused, hextends⟩ := addDirectoryToZip_spec hadd
        have hrest' := ih hrest
        rw [hused] at hrest'
        rw [if_pos hdirectory, if_pos hdirectory]
        exact hextends.trans hrest'
      · rename_i hdirectory
        rw [if_neg hdirectory, if_neg hdirectory]
        exact ih h

end Run

section Distinct

variable {host : DownloadHost} {directoryName name : String} {rel : List String}

def Place.top : Place → String
  | .selected name => name
  | .directory top _ => top
  | .file top _ _ => top

def Place.names : Place → List String
  | .selected name => [name]
  | .directory top rel => top :: rel
  | .file top rel name => top :: rel ++ [name]

def Place.IsNested : Place → Prop
  | .selected _ => False
  | _ => True

structure Place.Proper (place : Place) : Prop where
  no_slash : ∀ name ∈ place.names, '/' ∉ name.toList
  not_empty : place.IsNested → ∀ name ∈ place.names, name ≠ ""

theorem head?_ne_slash {cs : List Char} (h : '/' ∉ cs) : cs.head? ≠ some '/' := by
  intro hhead
  exact h (List.mem_of_mem_head? hhead)

theorem getLast?_ne_slash {cs : List Char} (h : '/' ∉ cs) : cs.getLast? ≠ some '/' := by
  intro hlast
  exact h (List.mem_of_getLast? hlast)

theorem toList_ne_nil (h : name ≠ "") : name.toList ≠ [] :=
  fun hnil => h (String.toList_injective hnil)

theorem slash_mem_slashed (h : '/' ∈ path.toList) : '/' ∈ (slashed path).toList := by
  rw [slashed, String.toList_ofList, List.mem_map]
  exact ⟨'/', h, by decide⟩

theorem slash_mem_join {path next : List Char} (hpath : path ≠ []) :
    '/' ∈ Path.join path next := by
  rw [Path.join]
  split
  · rename_i h
    exact List.mem_of_mem_head? h
  · split
    · rename_i h
      rcases h with h | h
      · exact absurd h hpath
      · exact List.mem_append_left _ (List.mem_of_getLast? h)
    · exact List.mem_append_right _ List.mem_cons_self

theorem archiveDir_ne_nil (h : directoryName ≠ "") :
    (archiveDir directoryName rel).toList ≠ [] := by
  rw [archiveDir]
  split
  · exact toList_ne_nil h
  · apply List.ne_nil_of_mem (a := '/')
    apply slash_mem_slashed
    rw [joined, String.toList_ofList]
    exact slash_mem_join (toList_ne_nil h)

theorem slash_mem_archiveName_iff (h : place.Proper) :
    '/' ∈ place.archiveName.toList ↔ place.IsNested := by
  cases place with
  | selected name => exact iff_of_false (h.no_slash name List.mem_cons_self) id
  | directory top rel =>
    refine iff_of_true ?_ trivial
    rw [Place.archiveName, String.toList_append]
    exact List.mem_append_right _ (by decide)
  | file top rel name =>
    refine iff_of_true (slash_mem_slashed ?_) trivial
    rw [joined, String.toList_ofList]
    exact slash_mem_join (archiveDir_ne_nil (h.not_empty trivial top List.mem_cons_self))

/-- No two entries below the selected directories merge. -/
def Separate (places : List Place) : Prop :=
  ∀ p ∈ places, ∀ q ∈ places, p.IsNested → q.IsNested → p.archiveName = q.archiveName → p = q

theorem nodup_archiveNames_iff {places : List Place} (hnodup : places.Nodup)
    (hproper : ∀ place ∈ places, place.Proper) :
    (places.map Place.archiveName).Nodup ↔ Separate places := by
  rw [List.nodup_map_iff_inj_on hnodup]
  constructor
  · exact fun h p hp q hq _ _ heq => h p hp q hq heq
  · intro h p hp q hq heq
    have hiff : p.IsNested ↔ q.IsNested := by
      rw [← slash_mem_archiveName_iff (hproper p hp), ← slash_mem_archiveName_iff (hproper q hq),
        heq]
    by_cases hnested : p.IsNested
    · exact h p hp q hq hnested (hiff.mp hnested) heq
    · cases p with
      | selected name =>
        cases q with
        | selected name' => exact congrArg Place.selected heq
        | directory top rel => exact absurd (hiff.mpr trivial) hnested
        | file top rel name => exact absurd (hiff.mpr trivial) hnested
      | directory top rel => exact absurd trivial hnested
      | file top rel name => exact absurd trivial hnested

theorem slashed_eq (h : '\\' ∉ path.toList) : slashed path = path := by
  apply String.toList_injective
  rw [slashed, String.toList_ofList]
  conv_rhs => rw [← List.map_id path.toList]
  apply List.map_congr_left
  intro c hc
  have hne : c ≠ '\\' := fun heq => h (heq ▸ hc)
  exact if_neg hne

variable {names : List (List Char)}

theorem intercalate_concat (hne : names ≠ []) (last : List Char) :
    ['/'].intercalate (names ++ [last]) = ['/'].intercalate names ++ '/' :: last := by
  induction names with
  | nil => exact absurd rfl hne
  | cons first names ih =>
    cases names with
    | nil => simp
    | cons second names =>
      have hih := ih (by simp)
      simp only [List.cons_append, List.intercalate_cons_cons] at hih ⊢
      rw [hih]
      simp

theorem mem_intercalate {c : Char} (hc : c ≠ '/') (h : c ∈ ['/'].intercalate names) :
    ∃ name ∈ names, c ∈ name := by
  induction names with
  | nil => simp at h
  | cons first names ih =>
    cases names with
    | nil => exact ⟨first, List.mem_cons_self, by simpa using h⟩
    | cons second names =>
      rw [List.intercalate_cons_cons, List.append_assoc, List.mem_append, List.mem_append,
        List.mem_singleton] at h
      rcases h with h | h | h
      · exact ⟨first, List.mem_cons_self, h⟩
      · exact absurd h hc
      · obtain ⟨name, hname, hmem⟩ := ih h
        exact ⟨name, List.mem_cons_of_mem _ hname, hmem⟩

theorem head?_intercalate {first : List Char} (hne : first ≠ []) (names : List (List Char)) :
    (['/'].intercalate (first :: names)).head? = first.head? := by
  obtain ⟨c, cs, rfl⟩ := List.exists_cons_of_ne_nil hne
  cases names with
  | nil => simp
  | cons second names => simp

theorem getLast?_intercalate {last : List Char} (hne : last ≠ []) :
    (['/'].intercalate (names ++ [last])).getLast? = last.getLast? := by
  cases names with
  | nil => simp
  | cons first names =>
    rw [intercalate_concat (List.cons_ne_nil _ _), List.getLast?_append_of_ne_nil _ (by simp)]
    obtain ⟨c, cs, rfl⟩ := List.exists_cons_of_ne_nil hne
    rfl

theorem toList_archiveDir (hnames : ∀ name ∈ directoryName :: rel,
      name ≠ "" ∧ '/' ∉ name.toList ∧ '\\' ∉ name.toList) :
    (archiveDir directoryName rel).toList =
      ['/'].intercalate ((directoryName :: rel).map String.toList) := by
  rw [archiveDir]
  cases rel with
  | nil => simp
  | cons first rel =>
    rw [if_neg (List.cons_ne_nil _ _)]
    have htop := hnames directoryName List.mem_cons_self
    have hfirst := hnames first (List.mem_cons_of_mem _ List.mem_cons_self)
    have hjoin : (joined directoryName (relPath (first :: rel))).toList =
        ['/'].intercalate ((directoryName :: first :: rel).map String.toList) := by
      rw [joined, relPath, String.toList_ofList, String.toList_ofList,
        Path.join_of_names (toList_ne_nil htop.1) (getLast?_ne_slash htop.2.1)]
      · simp
      · rw [List.map_cons, head?_intercalate (toList_ne_nil hfirst.1)]
        exact head?_ne_slash hfirst.2.1
    rw [slashed_eq, hjoin]
    rw [hjoin]
    intro hmem
    obtain ⟨cs, hcs, hmem⟩ := mem_intercalate (by decide) hmem
    obtain ⟨name, hname, rfl⟩ := List.mem_map.mp hcs
    exact (hnames name hname).2.2 hmem

theorem toList_archiveFilePath (hnames : ∀ name' ∈ directoryName :: rel ++ [name],
      name' ≠ "" ∧ '/' ∉ name'.toList ∧ '\\' ∉ name'.toList) :
    (archiveFilePath directoryName rel name).toList =
      ['/'].intercalate ((directoryName :: rel ++ [name]).map String.toList) := by
  have hdir : (archiveDir directoryName rel).toList =
      ['/'].intercalate ((directoryName :: rel).map String.toList) :=
    toList_archiveDir fun name' hmem => hnames name' (List.mem_append_left _ hmem)
  have hname := hnames name (by simp)
  have hlast : (archiveDir directoryName rel).toList.getLast? ≠ some '/' := by
    obtain ⟨before, last, hsplit⟩ : ∃ before last, directoryName :: rel = before ++ [last] :=
      ⟨_, _, (List.dropLast_append_getLast (List.cons_ne_nil directoryName rel)).symm⟩
    have hproper := hnames last (by rw [hsplit]; simp)
    rw [hdir, hsplit, List.map_append, List.map_singleton,
      getLast?_intercalate (toList_ne_nil hproper.1)]
    exact getLast?_ne_slash hproper.2.1
  have hdirNe : (archiveDir directoryName rel).toList ≠ [] :=
    archiveDir_ne_nil (hnames directoryName (by simp)).1
  have hjoin : (joined (archiveDir directoryName rel) name).toList =
      ['/'].intercalate ((directoryName :: rel ++ [name]).map String.toList) := by
    rw [joined, String.toList_ofList,
      Path.join_of_names hdirNe hlast (head?_ne_slash hname.2.1), hdir, List.map_append,
      List.map_singleton, intercalate_concat (by simp)]
  rw [archiveFilePath, slashed_eq, hjoin]
  rw [hjoin]
  intro hmem
  obtain ⟨cs, hcs, hmem⟩ := mem_intercalate (by decide) hmem
  obtain ⟨name', hname', rfl⟩ := List.mem_map.mp hcs
  exact (hnames name' hname').2.2 hmem

def Place.lastStep : Place → List (List Char)
  | .directory _ _ => [[]]
  | _ => []

theorem splitOn_archiveName (h : place.Proper) (hnested : place.IsNested)
    (hplain : ∀ name ∈ place.names, '\\' ∉ name.toList) :
    place.archiveName.toList.splitOn '/' =
      place.names.map String.toList ++ place.lastStep := by
  have hnames : ∀ name ∈ place.names, name ≠ "" ∧ '/' ∉ name.toList ∧ '\\' ∉ name.toList :=
    fun name hmem => ⟨h.not_empty hnested name hmem, h.no_slash name hmem, hplain name hmem⟩
  have hslash : ∀ cs ∈ place.names.map String.toList, '/' ∉ cs := by
    intro cs hcs
    obtain ⟨name, hname, rfl⟩ := List.mem_map.mp hcs
    exact (hnames name hname).2.1
  cases place with
  | selected name => exact hnested.elim
  | directory top rel =>
    have hname : (Place.directory top rel).archiveName.toList =
        ['/'].intercalate ((top :: rel).map String.toList ++ [[]]) := by
      rw [intercalate_concat (by simp), Place.archiveName, String.toList_append,
        toList_archiveDir hnames]
      rfl
    rw [hname, List.splitOn_intercalate]
    · rfl
    · intro cs hcs
      rcases List.mem_append.mp hcs with hcs | hcs
      · exact hslash cs hcs
      · rw [List.mem_singleton.mp hcs]
        exact List.not_mem_nil
    · simp
  | file top rel name =>
    rw [Place.archiveName, toList_archiveFilePath hnames]
    exact (List.splitOn_intercalate '/' hslash (by simp [Place.names])).trans
      (List.append_nil _).symm

theorem separate_of_no_backslash {places : List Place}
    (hproper : ∀ place ∈ places, place.Proper)
    (hplain : ∀ place ∈ places, place.IsNested → ∀ name ∈ place.names, '\\' ∉ name.toList) :
    Separate places := by
  intro p hp q hq hpn hqn heq
  have hsplit := congrArg (fun name : String => name.toList.splitOn '/') heq
  simp only [splitOn_archiveName (hproper p hp) hpn (hplain p hp hpn),
    splitOn_archiveName (hproper q hq) hqn (hplain q hq hqn)] at hsplit
  have hmixed : ∀ (names names' : List String) (name : String), name ≠ "" →
      names.map String.toList ++ [[]] ≠ (names' ++ [name]).map String.toList ++ [] := by
    intro names names' name hne heq
    rw [List.append_nil, List.map_append, List.map_singleton] at heq
    obtain ⟨-, hlast⟩ := List.append_inj' heq rfl
    exact toList_ne_nil hne (List.cons.inj hlast).1.symm
  have hinjective : Function.Injective (List.map String.toList) :=
    List.map_injective_iff.mpr fun _ _ h => String.toList_injective h
  cases p with
  | selected name => exact hpn.elim
  | directory top rel =>
    cases q with
    | selected name => exact hqn.elim
    | directory top' rel' =>
      obtain ⟨rfl, rfl⟩ := List.cons.inj (hinjective (List.append_inj' hsplit rfl).1)
      rfl
    | file top' rel' name' =>
      have hne := (hproper _ hq).not_empty trivial name' (by simp [Place.names])
      exact absurd hsplit (hmixed (top :: rel) (top' :: rel') name' hne)
  | file top rel name =>
    cases q with
    | selected name => exact hqn.elim
    | directory top' rel' =>
      have hne := (hproper _ hp).not_empty trivial name (by simp [Place.names])
      exact absurd hsplit.symm (hmixed (top' :: rel') (top :: rel) name hne)
    | file top' rel' name' =>
      obtain ⟨rfl, hnames⟩ := List.cons.inj (hinjective (List.append_inj' hsplit rfl).1)
      obtain ⟨rfl, hname⟩ := List.append_inj' hnames rfl
      obtain ⟨rfl, -⟩ := List.cons.inj hname
      rfl

theorem mem_visitsPlaces {path top : String} {used : List String} {visits : List Visit}
    (h : place ∈ visitsPlaces host path top used visits) :
    ∃ visit ∈ visits, place = .directory top visit.rel ∨
      ∃ name ∈ visit.files, place = .file top visit.rel name := by
  induction visits generalizing used with
  | nil => exact absurd h List.not_mem_nil
  | cons visit visits ih =>
    rw [visitsPlaces, visitPlaces, List.mem_append, List.mem_append] at h
    rcases h with (h | h) | h
    · refine ⟨visit, List.mem_cons_self, Or.inl ?_⟩
      split at h
      · exact absurd h List.not_mem_nil
      · exact List.mem_singleton.mp h
    · obtain ⟨name, hname, rfl⟩ := List.mem_map.mp h
      exact ⟨visit, List.mem_cons_self, Or.inr ⟨name, List.mem_of_mem_filter hname, rfl⟩⟩
    · obtain ⟨visit', hvisit, hplace⟩ := ih h
      exact ⟨visit', List.mem_cons_of_mem _ hvisit, hplace⟩

theorem nodup_visitsPlaces (path top : String) (used : List String) {visits : List Visit}
    (hrel : (visits.map Visit.rel).Nodup) (hfiles : ∀ visit ∈ visits, visit.files.Nodup) :
    (visitsPlaces host path top used visits).Nodup := by
  induction visits generalizing used with
  | nil => exact List.nodup_nil
  | cons visit visits ih =>
    rw [List.map_cons, List.nodup_cons] at hrel
    obtain ⟨hfirst, hrest⟩ := List.forall_mem_cons.mp hfiles
    rw [visitsPlaces, visitPlaces]
    refine List.Nodup.append ?_ (ih _ hrel.2 hrest) ?_
    · refine List.Nodup.append ?_ ?_ ?_
      · split
        · exact List.nodup_nil
        · exact List.nodup_singleton _
      · exact (hfirst.filter _).map fun _ _ heq => (Place.file.inj heq).2.2
      · intro place hdir hfile
        obtain ⟨name, -, rfl⟩ := List.mem_map.mp hfile
        split at hdir
        · exact absurd hdir List.not_mem_nil
        · exact nomatch List.mem_singleton.mp hdir
    · intro place hplace hlater
      have hsame : ∃ name, place = .directory top visit.rel ∨ place = .file top visit.rel name := by
        rcases List.mem_append.mp hplace with hplace | hplace
        · refine ⟨"", Or.inl ?_⟩
          split at hplace
          · exact absurd hplace List.not_mem_nil
          · exact List.mem_singleton.mp hplace
        · obtain ⟨name, -, rfl⟩ := List.mem_map.mp hplace
          exact ⟨name, Or.inr rfl⟩
      obtain ⟨visit', hvisit, hplace'⟩ := mem_visitsPlaces hlater
      apply hrel.1
      rw [List.mem_map]
      refine ⟨visit', hvisit, ?_⟩
      obtain ⟨name, rfl | rfl⟩ := hsame
      · rcases hplace' with heq | ⟨name', -, heq⟩
        · exact (Place.directory.inj heq).2.symm
        · cases heq
      · rcases hplace' with heq | ⟨name', -, heq⟩
        · cases heq
        · exact (Place.file.inj heq).2.1.symm

theorem subset_usedAfter (top : String) (used : List String) (visits : List Visit) :
    used ⊆ visits.foldl (usedAfter top) used := by
  induction visits generalizing used with
  | nil => exact fun _ h => h
  | cons visit visits ih =>
    intro name hname
    apply ih
    rw [usedAfter]
    split
    · exact hname
    · exact List.mem_append_left _ hname

theorem top_not_mem {used items : List String} (h : place ∈ places host used items) :
    place.top ∉ used := by
  induction items generalizing used with
  | nil => exact absurd h List.not_mem_nil
  | cons item items ih =>
    rw [places] at h
    split at h
    · rcases List.mem_cons.mp h with rfl | h
      · exact FreshNames.fresh_not_mem (fileCandidate_injective _) used
      · exact fun hmem => ih h (List.mem_append_left _ hmem)
    · split at h
      · rcases List.mem_append.mp h with h | h
        · have htop : place.top =
              FreshNames.fresh (directoryCandidate (baseDirName (rstripSlashes item))) used := by
            obtain ⟨visit, -, rfl | ⟨name, -, rfl⟩⟩ := mem_visitsPlaces h
            · rfl
            · rfl
          rw [htop]
          exact FreshNames.fresh_not_mem (directoryCandidate_injective _) used
        · exact fun hmem => ih h (subset_usedAfter _ _ _ (List.mem_append_left _ hmem))
      · exact ih h

theorem nodup_places (used items : List String) : (places host used items).Nodup := by
  induction items generalizing used with
  | nil => exact List.nodup_nil
  | cons item items ih =>
    rw [places]
    split
    · refine List.nodup_cons.mpr ⟨fun h => ?_, ih _⟩
      exact top_not_mem h (List.mem_append_right _ (List.mem_singleton.mpr rfl))
    · split
      · refine List.Nodup.append ?_ (ih _) ?_
        · exact nodup_visitsPlaces _ _ _ (host.walk _).distinct (host.walk _).files_nodup
        · intro place h hlater
          apply top_not_mem hlater
          apply subset_usedAfter
          refine List.mem_append_right _ (List.mem_singleton.mpr ?_)
          obtain ⟨visit, -, rfl | ⟨name, -, rfl⟩⟩ := mem_visitsPlaces h
          · rfl
          · rfl
      · exact ih _

/-- A selected file, or what the walk of a selected directory finds. -/
def FoundBelow (host : DownloadHost) (items : List String) (place : Place) : Prop :=
  (∃ item n, place = .selected (fileCandidate (basename item) n)) ∨
    ∃ item ∈ items, host.directoryExists item = true ∧
      ∃ n, ∃ visit ∈ (host.walk (rstripSlashes item)).visits,
        place = .directory (directoryCandidate (baseDirName (rstripSlashes item)) n) visit.rel ∨
          ∃ name ∈ visit.files, place =
            .file (directoryCandidate (baseDirName (rstripSlashes item)) n) visit.rel name

theorem FoundBelow.cons {items : List String} {place : Place} (item : String)
    (h : FoundBelow host items place) : FoundBelow host (item :: items) place := by
  rcases h with hselected | ⟨item', hitem, hrest⟩
  · exact Or.inl hselected
  · exact Or.inr ⟨item', List.mem_cons_of_mem item hitem, hrest⟩

theorem foundBelow_of_mem_places {used items : List String} (h : place ∈ places host used items) :
    FoundBelow host items place := by
  induction items generalizing used with
  | nil => exact absurd h List.not_mem_nil
  | cons item items ih =>
    rw [places] at h
    split at h
    · rcases List.mem_cons.mp h with rfl | h
      · obtain ⟨n, hn, -⟩ := FreshNames.fresh_spec (fileCandidate_injective (basename item)) used
        exact Or.inl ⟨item, n, congrArg Place.selected hn⟩
      · exact (ih h).cons item
    · split at h
      · rename_i hdirectory
        rcases List.mem_append.mp h with h | h
        · obtain ⟨n, hn, -⟩ := FreshNames.fresh_spec
            (directoryCandidate_injective (baseDirName (rstripSlashes item))) used
          obtain ⟨visit, hvisit, hplace⟩ := mem_visitsPlaces h
          rw [hn] at hplace
          exact Or.inr ⟨item, List.mem_cons_self, hdirectory, n, visit, hvisit, hplace⟩
        · exact (ih h).cons item
      · exact (ih h).cons item

theorem FoundBelow.proper {items : List String} (h : FoundBelow host items place) :
    place.Proper := by
  have htop : ∀ item n,
      directoryCandidate (baseDirName (rstripSlashes item)) n ≠ "" ∧
        '/' ∉ (directoryCandidate (baseDirName (rstripSlashes item)) n).toList := by
    intro item n
    obtain ⟨hne, hslash⟩ := baseDirName_spec (rstripSlashes item)
    exact ⟨directoryCandidate_ne_empty hne n,
      not_mem_directoryCandidate (by decide) (by decide) hslash n⟩
  have hof : ∀ place : Place, (∀ name ∈ place.names, name ≠ "" ∧ '/' ∉ name.toList) →
      place.Proper :=
    fun place h => ⟨fun name hname => (h name hname).2, fun _ name hname => (h name hname).1⟩
  rcases h with ⟨item, n, rfl⟩ | ⟨item, -, -, n, visit, hvisit, rfl | ⟨name, hname, rfl⟩⟩
  · refine ⟨fun name hname => ?_, fun hnested => hnested.elim⟩
    rw [List.mem_singleton.mp hname]
    exact not_mem_fileCandidate (by decide) (by decide) (slash_not_mem_basename item) n
  · apply hof
    intro name hname
    rcases List.mem_cons.mp hname with rfl | hname
    · exact htop item n
    · exact (host.walk _).names visit hvisit name (List.mem_append_left _ hname)
  · apply hof
    intro name' hname'
    rcases List.mem_append.mp hname' with hname' | hname'
    · rcases List.mem_cons.mp hname' with rfl | hname'
      · exact htop item n
      · exact (host.walk _).names visit hvisit name' (List.mem_append_left _ hname')
    · rw [List.mem_singleton.mp hname']
      exact (host.walk _).names visit hvisit name (List.mem_append_right _ hname)

/-- The selected directories and what is below them have no backslash in their names. -/
def WithoutBackslash (host : DownloadHost) (items : List String) : Prop :=
  ∀ item ∈ items, host.directoryExists item = true →
    '\\' ∉ (baseDirName (rstripSlashes item)).toList ∧
      ∀ visit ∈ (host.walk (rstripSlashes item)).visits, ∀ name ∈ visit.rel ++ visit.files,
        '\\' ∉ name.toList

theorem FoundBelow.plain {items : List String} (h : FoundBelow host items place)
    (hplain : WithoutBackslash host items) (hnested : place.IsNested) :
    ∀ name ∈ place.names, '\\' ∉ name.toList := by
  rcases h with ⟨item, n, rfl⟩ | ⟨item, hitem, hdirectory, n, visit, hvisit, hplace⟩
  · exact hnested.elim
  · obtain ⟨hbase, hbelow⟩ := hplain item hitem hdirectory
    have htop : '\\' ∉ (directoryCandidate (baseDirName (rstripSlashes item)) n).toList :=
      not_mem_directoryCandidate (by decide) (by decide) hbase n
    rcases hplace with rfl | ⟨name, hname, rfl⟩
    · intro name hname
      rcases List.mem_cons.mp hname with rfl | hname
      · exact htop
      · exact hbelow visit hvisit name (List.mem_append_left _ hname)
    · intro name' hname'
      rcases List.mem_append.mp hname' with hname' | hname'
      · rcases List.mem_cons.mp hname' with rfl | hname'
        · exact htop
        · exact hbelow visit hvisit name' (List.mem_append_left _ hname')
      · rw [List.mem_singleton.mp hname']
        exact hbelow visit hvisit name (List.mem_append_right _ hname)

theorem separate_of_withoutBackslash {used items : List String}
    (h : WithoutBackslash host items) : Separate (places host used items) :=
  separate_of_no_backslash (fun _ hplace => (foundBelow_of_mem_places hplace).proper)
    fun _ hplace hnested => (foundBelow_of_mem_places hplace).plain h hnested

end Distinct

/-- The search for a name ends, at the first of its candidates that is not used. -/
def SearchEnds (candidate : ℕ → String) (used : List String) : Prop :=
  ∃ n, FreshNames.fresh candidate used = candidate n ∧ candidate n ∉ used ∧
    ∀ m < n, candidate m ∈ used

/-- The entries have different names, and every readable file that is selected has one entry for
each time that it is. -/
structure Lossless (host : DownloadHost) (items : List String) (zip : ZipArchive) : Prop where
  distinct : (zip.entries.map ZipEntry.name).Nodup
  complete : zip.entries.filterMap ZipEntry.copied = items.flatMap (itemFiles host)

/-- The names are searched to an end. The archive loses no file exactly if no two places below the
selected directories merge where a backslash is read as a slash. -/
theorem zipDownloads_lossless_iff (host : DownloadHost) (items : List String) :
    (∀ baseName used, SearchEnds (fileCandidate baseName) used ∧
      SearchEnds (directoryCandidate baseName) used) ∧
    (∀ zip, zipDownloads host items = .ok zip →
      (Lossless host items zip ↔ Separate (places host [] items))) ∧
    (WithoutBackslash host items → Separate (places host [] items)) := by
  refine ⟨fun baseName used => ?_, fun zip h => ?_, separate_of_withoutBackslash⟩
  · exact ⟨FreshNames.fresh_spec (fileCandidate_injective baseName) used,
      FreshNames.fresh_spec (directoryCandidate_injective baseName) used⟩
  · obtain ⟨entries, hentries, hplaces, hnames, hcopied⟩ := addToZip_spec h
    have hproper : ∀ place ∈ places host [] items, place.Proper :=
      fun _ hplace => (foundBelow_of_mem_places hplace).proper
    have hmap : entries.map ZipEntry.name = (places host [] items).map Place.archiveName := by
      rw [← hplaces, List.map_map]
      exact List.map_congr_left fun entry hentry => (hnames entry hentry).1
    rw [← nodup_archiveNames_iff (nodup_places [] items) hproper, ← hmap]
    have hall : zip.entries = entries := hentries
    constructor
    · intro hlossless
      rw [← hall]
      exact hlossless.distinct
    · intro hdistinct
      exact ⟨by rwa [hall], by rw [hall]; exact hcopied⟩

def mergingHost : DownloadHost where
  toFileHost := homeHost
  pathExists _ := true
  getsize _ := .ok 1
  readBytes _ := .ok [0]
  walk _ := {
    visits := [⟨[], ["2024\\app.log"]⟩, ⟨["2024"], ["app.log"]⟩]
    distinct := by decide
    names := by decide
    files_nodup := by decide }
  str _ := ""
  userGroup := .ok "u"
  downloadsDir := "/data/home/u/idea_downloads"
  makedirs _ := .ok ()
  zipFilePath _ := "/data/home/u/idea_downloads/Desktop_2024-01-01_00-00-00.zip"
  createZip _ := .ok ()

theorem names_merged :
    ((zipDownloads mergingHost ["/data/home/u/Desktop"]).toOption.map fun zip =>
      zip.entries.map ZipEntry.name) =
      some ["Desktop/2024/app.log", "Desktop/2024/", "Desktop/2024/app.log"] := by
  decide +kernel

theorem not_lossless_merged :
    ¬ ∀ zip, zipDownloads mergingHost ["/data/home/u/Desktop"] = .ok zip →
      Lossless mergingHost ["/data/home/u/Desktop"] zip := by
  intro h
  have hnames := names_merged
  cases hzip : zipDownloads mergingHost ["/data/home/u/Desktop"] with
  | error e =>
    rw [hzip] at hnames
    cases hnames
  | ok zip =>
    rw [hzip] at hnames
    have heq : zip.entries.map ZipEntry.name =
        ["Desktop/2024/app.log", "Desktop/2024/", "Desktop/2024/app.log"] := Option.some.inj hnames
    have hdistinct := (h zip hzip).distinct
    rw [heq] at hdistinct
    exact absurd hdistinct (by decide)

end Idea.FileBrowser

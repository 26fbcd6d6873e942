import Idea.Data.ShellExact
import Idea.Model.Texts
import Idea.VirtualDesktop.PermissionsFile

/-! # Commands that resume a desktop

To resume a session, the host is sent commands that write the permissions file of the session and
create the session again. On Linux a shell runs them as one script, with a line for each command.
-/

namespace Idea.VirtualDesktop

inductive VirtualDesktopSessionType where
  | console | virtual
  deriving DecidableEq

def VirtualDesktopSessionType.lower : VirtualDesktopSessionType → String
  | console => "console"
  | virtual => "virtual"

structure ResumedSession where
  dcvSessionId : Option String
  name : Option String
  owner : Option String
  type : VirtualDesktopSessionType
  baseOs : VirtualDesktopBaseOS
  deriving DecidableEq

def formatted (value : Option String) : List Char := (value.getD "None").toList

def getStorageRootForBaseOs (baseOs : VirtualDesktopBaseOS) (owner : Option String) : List Char :=
  if !baseOs.isWindows then "/data/home/".toList ++ formatted owner ++ "/storage-root".toList
  else "C:\\session-storage\\".toList ++ formatted owner

def permissionsFolder (session : ResumedSession) : List Char :=
  "/etc/dcv/".toList ++ formatted session.dcvSessionId ++ "/".toList

def permissionsFilePath (session : ResumedSession) : List Char :=
  "/etc/dcv/".toList ++ formatted session.dcvSessionId ++ "/idea.perm".toList

def linuxDcvCommand (session : ResumedSession) : List Char :=
  "dcv create-session --type ".toList ++ session.type.lower.toList ++ " --name \"".toList ++
    formatted session.name ++ "\" --user ".toList ++ formatted session.owner ++
    " --owner ".toList ++ formatted session.owner ++ " --storage-root \"".toList ++
    getStorageRootForBaseOs session.baseOs session.owner ++ "\" ".toList

def linuxCommands (session : ResumedSession) (permissionsContent : String) : List (List Char) :=
  if isEmptyString (some permissionsContent) then
    [linuxDcvCommand session ++ formatted session.dcvSessionId]
  else
    ["mkdir -p ".toList ++ permissionsFolder session,
      "echo \"".toList ++ permissionsContent.toList ++ "\" > ".toList ++
        permissionsFilePath session,
      linuxDcvCommand session ++ "--permissions-file \"".toList ++ permissionsFilePath session ++
        "\" ".toList ++ formatted session.dcvSessionId]

def windowsQuote : List Char := [Shell.grave, '"']

def windowsDcvCommand (session : ResumedSession) : List Char :=
  "cmd.exe /c \"".toList ++ windowsQuote ++
    "C:\\Program Files\\NICE\\DCV\\Server\\bin\\dcv.exe".toList ++ windowsQuote ++
    " create-session --type ".toList ++ session.type.lower.toList ++ " --name ".toList ++
    windowsQuote ++ formatted session.name ++ windowsQuote ++ " --user ".toList ++
    formatted session.owner ++ " --owner ".toList ++ formatted session.owner ++
    " --storage-root ".toList ++ windowsQuote ++
    getStorageRootForBaseOs session.baseOs session.owner ++ windowsQuote ++ " ".toList

def windowsPermissionsFolder (session : ResumedSession) : List Char :=
  "C:\\Program Files\\NICE\\DCV\\".toList ++ formatted session.dcvSessionId ++ "\\".toList

def windowsCommands (session : ResumedSession) (permissionsContent : String) : List (List Char) :=
  let closing := formatted session.dcvSessionId ++ "\"".toList
  if isEmptyString (some permissionsContent) then [windowsDcvCommand session ++ closing]
  else
    let folder := windowsPermissionsFolder session
    ["Start-Sleep -Seconds 10".toList,
      "Remove-Item -Recurse -Force \"".toList ++ folder ++ "\"".toList,
      "New-Item -Path \"".toList ++ folder ++ "\" -ItemType Directory".toList,
      "New-Item -Path \"".toList ++ folder ++
        "\" -Name \"idea.perm\" -ItemType File -Force -Value \"".toList ++
        permissionsContent.toList ++ "\"".toList,
      windowsDcvCommand session ++ "--permissions-file ".toList ++ windowsQuote ++ folder ++
        "idea.perm".toList ++ windowsQuote ++ " ".toList ++ closing]

def getCommandsToExecuteForResumingSession (ctx : PermissionContext)
    (sessionPermissions : List VirtualDesktopSessionPermission) (session : ResumedSession) :
    Option (List (List Char)) := do
  let file ← generatePermissionsForSession ctx session.baseOs sessionPermissions false
  if session.baseOs.isWindows then some (windowsCommands session file.text)
  else some (linuxCommands session file.text)

def script (commands : List (List Char)) : List Char := ['\n'].intercalate commands

def resumeWords (session : ResumedSession) (permissionsContent : List Char) :
    List (Shell.Token (List Char)) :=
  [.word "mkdir".toList, .word "-p".toList, .word (permissionsFolder session),
    .operator ['\n'],
    .word "echo".toList, .word permissionsContent, .operator ['>'],
    .word (permissionsFilePath session), .operator ['\n'],
    .word "dcv".toList, .word "create-session".toList, .word "--type".toList,
    .word session.type.lower.toList, .word "--name".toList, .word (formatted session.name),
    .word "--user".toList, .word (formatted session.owner), .word "--owner".toList,
    .word (formatted session.owner), .word "--storage-root".toList,
    .word (getStorageRootForBaseOs session.baseOs session.owner),
    .word "--permissions-file".toList, .word (permissionsFilePath session),
    .word (formatted session.dcvSessionId)]

def resumeTemplate (session : ResumedSession) (permissionsContent : List Char) :
    Shell.Template where
  first := .bare "mkdir".toList
  rest := [(.blank, .bare "-p".toList), (.blank, .bare (permissionsFolder session)),
    (.newline, .bare "echo".toList), (.blank, .quoted permissionsContent),
    (.redirect, .bare (permissionsFilePath session)),
    (.newline, .bare "dcv".toList), (.blank, .bare "create-session".toList),
    (.blank, .bare "--type".toList), (.blank, .bare session.type.lower.toList),
    (.blank, .bare "--name".toList), (.blank, .quoted (formatted session.name)),
    (.blank, .bare "--user".toList), (.blank, .bare (formatted session.owner)),
    (.blank, .bare "--owner".toList), (.blank, .bare (formatted session.owner)),
    (.blank, .bare "--storage-root".toList),
    (.blank, .quoted (getStorageRootForBaseOs session.baseOs session.owner)),
    (.blank, .bare "--permissions-file".toList), (.blank, .quoted (permissionsFilePath session)),
    (.blank, .bare (formatted session.dcvSessionId))]

theorem tokens_resumeTemplate (session : ResumedSession) (permissionsContent : List Char) :
    (resumeTemplate session permissionsContent).tokens = resumeWords session permissionsContent :=
  rfl

variable {ctx : PermissionContext} {sessionPermissions : List VirtualDesktopSessionPermission}
variable {session : ResumedSession} {content : String} {commands : List (List Char)}

theorem render_words (mkdir parents echo dcv create type name user owner root file value folder
    path storage nameText ownerText idText content : List Char) :
    Shell.Template.render .double ⟨.bare mkdir, [(.blank, .bare parents), (.blank, .bare folder),
      (.newline, .bare echo), (.blank, .quoted content), (.redirect, .bare path),
      (.newline, .bare dcv), (.blank, .bare create), (.blank, .bare type), (.blank, .bare value),
      (.blank, .bare name), (.blank, .quoted nameText), (.blank, .bare user),
      (.blank, .bare ownerText), (.blank, .bare owner), (.blank, .bare ownerText),
      (.blank, .bare root), (.blank, .quoted storage), (.blank, .bare file),
      (.blank, .quoted path), (.blank, .bare idText)]⟩ =
    script [mkdir ++ ' ' :: parents ++ [' '] ++ folder,
      echo ++ [' ', '"'] ++ content ++ ['"', ' ', '>', ' '] ++ path,
      dcv ++ ' ' :: create ++ ' ' :: type ++ [' '] ++ value ++ (' ' :: name ++ [' ', '"']) ++
        nameText ++ ('"' :: ' ' :: user ++ [' ']) ++ ownerText ++ (' ' :: owner ++ [' ']) ++
        ownerText ++ (' ' :: root ++ [' ', '"']) ++ storage ++ ['"', ' '] ++
        (file ++ [' ', '"']) ++ path ++ ['"', ' '] ++ idText] := by
  simp [Shell.Template.render, Shell.Arg.render, Shell.Sep.render, Shell.Quote.char, script,
    List.intercalate]

theorem render_resumeTemplate (h : isEmptyString (some content) = false) :
    (resumeTemplate session content.toList).render .double =
      script (linuxCommands session content) := by
  have hmkdir : "mkdir -p ".toList = "mkdir".toList ++ ' ' :: "-p".toList ++ [' '] := by
    decide +kernel
  have hecho : "echo \"".toList = "echo".toList ++ [' ', '"'] := by decide +kernel
  have hredirect : "\" > ".toList = ['"', ' ', '>', ' '] := by decide +kernel
  have hdcv : "dcv create-session --type ".toList = "dcv".toList ++ ' ' :: "create-session".toList ++
      ' ' :: "--type".toList ++ [' '] := by decide +kernel
  have hname : " --name \"".toList = ' ' :: "--name".toList ++ [' ', '"'] := by decide +kernel
  have huser : "\" --user ".toList = '"' :: ' ' :: "--user".toList ++ [' '] := by decide +kernel
  have howner : " --owner ".toList = ' ' :: "--owner".toList ++ [' '] := by decide +kernel
  have hroot : " --storage-root \"".toList = ' ' :: "--storage-root".toList ++ [' ', '"'] := by
    decide +kernel
  have hfile : "--permissions-file \"".toList = "--permissions-file".toList ++ [' ', '"'] := by
    decide +kernel
  have hclose : "\" ".toList = ['"', ' '] := by decide +kernel
  delta linuxCommands linuxDcvCommand
  rw [h, if_neg Bool.false_ne_true]
  simp only [hmkdir, hecho, hredirect, hdcv, hname, huser, howner, hroot, hfile, hclose]
  exact render_words _ _ _ _ _ _ _ _ _ _ _ _ _ _ _ _ _ _ _

/-- Texts that stand for themselves where the commands have them. -/
structure ResumesSafely (session : ResumedSession) (permissionsContent : List Char) : Prop where
  dcvSessionId : Shell.bareSafe (formatted session.dcvSessionId) = true
  name : Shell.doubleSafe (formatted session.name) = true
  owner : Shell.bareSafe (formatted session.owner) = true
  content : Shell.doubleSafe permissionsContent = true

theorem safe_permissionsFolder (h : Shell.bareSafe (formatted session.dcvSessionId) = true) :
    Shell.bareSafe (permissionsFolder session) = true :=
  Shell.bareSafe_path (by decide +kernel) (by decide +kernel) (by decide +kernel) h

theorem safe_permissionsFilePath (h : Shell.bareSafe (formatted session.dcvSessionId) = true) :
    Shell.bareSafe (permissionsFilePath session) = true :=
  Shell.bareSafe_path (by decide +kernel) (by decide +kernel) (by decide +kernel) h

theorem safe_storageRoot (hlinux : session.baseOs.isWindows = false)
    (h : Shell.bareSafe (formatted session.owner) = true) :
    Shell.bareSafe (getStorageRootForBaseOs session.baseOs session.owner) = true := by
  unfold getStorageRootForBaseOs
  rw [hlinux]
  exact Shell.bareSafe_path (by decide +kernel) (by decide +kernel) (by decide +kernel) h

theorem doubleSafe_of_bareSafe {text : List Char} (h : Shell.bareSafe text = true) :
    Shell.doubleSafe text = true :=
  Shell.doubleSafe_of_wordChar (Shell.bareSafe_iff.mp h).2.1

theorem safe_resumeTemplate_iff (hlinux : session.baseOs.isWindows = false)
    {permissionsContent : List Char} :
    (∀ a ∈ (resumeTemplate session permissionsContent).args, a.Safe .double) ↔
      ResumesSafely session permissionsContent := by
  constructor
  · intro h
    refine ⟨h (.bare _) ?_, h (.quoted _) ?_, h (.bare _) ?_, h (.quoted _) ?_⟩ <;>
      simp [resumeTemplate, Shell.Template.args]
  · intro h
    have hwords : ∀ w ∈ ["mkdir", "-p", "echo", "dcv", "create-session", "--type", "--name",
        "--user", "--owner", "--storage-root", "--permissions-file"],
        Shell.bareSafe w.toList = true := by decide +kernel
    simp only [List.forall_mem_cons, List.not_mem_nil, false_implies, implies_true,
      and_true] at hwords
    obtain ⟨hmkdir, hparents, hecho, hdcv, hcreate, htype, hname, huser, howner, hrootOption,
      hfile⟩ := hwords
    have hvalue : Shell.bareSafe session.type.lower.toList = true := by
      cases session.type <;> decide +kernel
    have hfolder := safe_permissionsFolder h.dcvSessionId
    have hpath := safe_permissionsFilePath h.dcvSessionId
    have hroot := doubleSafe_of_bareSafe (safe_storageRoot hlinux h.owner)
    simp only [resumeTemplate, Shell.Template.args, List.map_cons, List.map_nil,
      List.forall_mem_cons, List.not_mem_nil, false_implies, implies_true, and_true]
    exact ⟨hmkdir, hparents, hfolder, hecho, h.content, hpath, hdcv, hcreate, htype, hvalue,
      hname, h.name, huser, h.owner, howner, h.owner, hrootOption, hroot, hfile,
      doubleSafe_of_bareSafe hpath, h.dcvSessionId⟩

theorem content_not_empty (file : PermissionsFile) :
    isEmptyString (some file.text) = false := by
  have hmem : '[' ∈ file.text.toList := by
    unfold PermissionsFile.text
    simp only [List.cons_append, List.map_cons, String.join_cons, String.toList_append,
      List.mem_append]
    exact Or.inl (Or.inl (by decide +kernel))
  exact isEmptyString_of_mem hmem (by decide)

theorem read_script_iff (hlinux : session.baseOs.isWindows = false) {file : PermissionsFile}
    (hfile : generatePermissionsForSession ctx session.baseOs sessionPermissions false =
      some file) :
    (getCommandsToExecuteForResumingSession ctx sessionPermissions session).bind
        (fun commands => Shell.read (script commands)) =
      some (resumeWords session file.text.toList) ↔ ResumesSafely session file.text.toList := by
  unfold getCommandsToExecuteForResumingSession
  rw [hfile, Option.bind_eq_bind, Option.bind_some, hlinux, if_neg Bool.false_ne_true,
    Option.bind_some, ← render_resumeTemplate (content_not_empty file), ← tokens_resumeTemplate,
    Shell.read_render_iff, safe_resumeTemplate_iff hlinux]

/-- The script of a Linux host is read as the intended commands if and only if the id of the
session and its owner are words that stand for themselves, and so do its name and the permissions
between double quotes. -/
theorem resume_script_words (ctx : PermissionContext)
    (sessionPermissions : List VirtualDesktopSessionPermission) (session : ResumedSession)
    (file : PermissionsFile) (hlinux : session.baseOs.isWindows = false)
    (hfile : generatePermissionsForSession ctx session.baseOs sessionPermissions false =
      some file) :
    (getCommandsToExecuteForResumingSession ctx sessionPermissions session).bind
        (fun commands => Shell.read (script commands)) =
      some (resumeWords session file.text.toList) ↔ ResumesSafely session file.text.toList :=
  read_script_iff hlinux hfile

def rebootSession : ResumedSession where
  dcvSessionId := some "8e2c7d1a"
  name := some "$(reboot)"
  owner := some "alice"
  type := .virtual
  baseOs := .rhel9

theorem generate_observed_resumed :
    generatePermissionsForSession observedContext .rhel9 [observer] false = some observedFile := by
  decide +kernel

theorem resume_script_words_reboot :
    (getCommandsToExecuteForResumingSession observedContext [observer] rebootSession).bind
        (fun commands => Shell.read (script commands)) =
      some (resumeWords rebootSession observedFile.text.toList) ↔
        ResumesSafely rebootSession observedFile.text.toList :=
  resume_script_words observedContext [observer] rebootSession observedFile rfl
    generate_observed_resumed

theorem resume_script_runs_name : ¬ ∀ (ctx : PermissionContext)
    (sessionPermissions : List VirtualDesktopSessionPermission) (session : ResumedSession)
    (file : PermissionsFile), session.baseOs.isWindows = false →
      generatePermissionsForSession ctx session.baseOs sessionPermissions false = some file →
      (getCommandsToExecuteForResumingSession ctx sessionPermissions session).bind
          (fun commands => Shell.read (script commands)) =
        some (resumeWords session file.text.toList) := by
  intro h
  have hsafe := (read_script_iff rfl generate_observed_resumed).mp
    (h _ _ rebootSession _ rfl generate_observed_resumed)
  exact absurd hsafe.name (by decide +kernel)

end Idea.VirtualDesktop

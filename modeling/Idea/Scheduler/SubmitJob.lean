import Idea.Data.Path
import Idea.Data.ShellExact
import Idea.Data.Text
import Idea.Model.Texts
import Idea.System.Stateful

/-! # Submission of a job script

A user submits a script with a request to the scheduler. The scheduler writes the script into the
folder of the jobs of the user, and runs a command as the user that submits it or runs it. The
scheduler writes with the rights of the administrator.
-/

namespace Idea.SubmitJob

def JOB_SUBMISSION_FAILED : String := "JOB_SUBMISSION_FAILED"

/-- A text together with the object that it is; two objects may have the same text. -/
structure TextObject where
  value : String
  object : ℕ
  deriving DecidableEq

structure SubmitJobRequest where
  jobOwner : Option TextObject
  project : Option String
  dryRun : Option Bool
  jobScriptInterpreter : Option String
  jobScript : Option String

inductive JobScriptInterpreter where
  | pbs | bash
  deriving DecidableEq

structure ShortUuid where
  text : List Char
  not_empty : text ≠ []
  alphanumeric : text.all Char.isAlphanum = true

inductive Effect where
  | makedirs (path : List Char)
  | chown (path : List Char) (user group : String)
  | write (path content : List Char)
  | invoke (argv : List (List Char))
  | remove (path : List Char)
  deriving DecidableEq

structure ShellInvocationResult where
  returncode : ℤ
  stdout : String
  text : String

structure SubmitJobResult where
  accepted : Option Bool
  /-- The submitted job, with its id if that is known. -/
  job : Option (Option String)
  deriving DecidableEq

/-- The host of the scheduler: what is there, which effects fail, what texts decode to, and what
the command and the submission tracker answer. -/
structure Host where
  dataDir : String
  isSymlink : List Char → Bool
  isDir : List Char → Bool
  getUserGroup : String → String
  fails : Effect → Option Raised
  base64Decode : String → Except Raised (List Char)
  uid : ShortUuid
  shell : List (List Char) → ShellInvocationResult
  submission : Option (Except Raised SubmitJobResult)

/-- An exception of the request itself, or one of what it calls. -/
inductive SubmitError where
  | own (e : Raised)
  | called (e : Raised)
  deriving DecidableEq

/-- A part of the request: the effects so far, and the outcome. -/
abbrev Submission (α : Type) : Type := Stateful (List Effect) SubmitError α

def perform (host : Host) (effect : Effect) : Submission Unit :=
  match host.fails effect with
  | some e => .raise (.called e)
  | none => .modify (· ++ [effect])

def call {α : Type} (outcome : Except Raised α) : Submission α :=
  .ofExcept (outcome.mapError .called)

def emptyUser : Raised := invalidParams "Empty context user"

def mismatchedUser : Raised := invalidParams "Mismatched user information in job request"

def jobOwner (user : TextObject) (request : SubmitJobRequest) : TextObject :=
  match request.jobOwner with
  | none => user
  | some owner => if isEmptyString (some owner.value) then user else owner

def interpreter? (value : Option String) : Except Raised JobScriptInterpreter :=
  if isEmptyString value then .error (invalidParams "job_script_interpreter is required.")
  else if value = some "pbs" then .ok .pbs
  else if value = some "bash" then .ok .bash
  else .error (invalidParams "job_script_interpreter must be one of [pbs, bash]")

def checkRequest (user : TextObject) (request : SubmitJobRequest) :
    Except Raised (JobScriptInterpreter × String) :=
  if isEmptyString (some user.value) then .error emptyUser
  else if user.object ≠ (jobOwner user request).object then .error mismatchedUser
  else
    match request.jobScript.filter fun script => !isEmptyString (some script) with
    | none =>
      .error (invalidParams "job_script is required in form of base64 encoded job script.")
    | some script => (interpreter? request.jobScriptInterpreter).map (·, script)

def jobSubmissionDir (host : Host) (owner : String) : List Char :=
  [ "home".toList, owner.toList, "jobs".toList ].foldl Path.join host.dataDir.toList

def NAME_DIRECTIVE : List Char := "#PBS -N ".toList

def jobName? (script : List Char) : Option (List Char) :=
  ((script.splitOn '\n').find? NAME_DIRECTIVE.isPrefixOf).map fun line =>
    stripChars (Text.remove NAME_DIRECTIVE line)

def filenameBase (host : Host) (jobName : Option (List Char)) : List Char :=
  match jobName.filter (· ≠ []) with
  | some name => name ++ '_' :: host.uid.text
  | none => host.uid.text

def JobScriptInterpreter.extension : JobScriptInterpreter → List Char
  | pbs => ".que".toList
  | bash => ".sh".toList

def jobSubmitScript (host : Host) (owner : String) (interpreter : JobScriptInterpreter)
    (script : List Char) : List Char :=
  Path.join (jobSubmissionDir host owner)
    (filenameBase host (jobName? script) ++ interpreter.extension)

def symbolicLink (dir : List Char) : Raised :=
  .soca ErrorCodes.GENERAL_ERROR ("a symbolic link exists at location: " ++ String.ofList dir ++
    ". delete the symbolic link and try again.")

def prepareFolder (host : Host) (owner : String) : Submission Unit :=
  let dir := jobSubmissionDir host owner
  if host.isSymlink dir then .raise (.own (symbolicLink dir))
  else if host.isDir dir then pure ()
  else do
    perform host (.makedirs dir)
    perform host (.chown dir owner (host.getUserGroup owner))

def dryRunText (dryRun : Option Bool) : Option (List Char) :=
  if dryRun = some true then some "dry_run=DryRunOption.DEFAULT".toList else none

def project? (request : SubmitJobRequest) : Option String :=
  request.project.filter fun project => !isEmptyString (some project)

def qsubCommand (host : Host) (request : SubmitJobRequest) (dir script : List Char) :
    List (List Char) :=
  ["cd".toList, dir, "&&".toList, "qsub".toList] ++
    (match dryRunText request.dryRun with
      | some text => ["-l".toList, text]
      | none => []) ++
    (match project? request with
      | some project => ["-P".toList, '"' :: (project.toList ++ ['"'])]
      | none => []) ++
    ["-l".toList, "job_uid=".toList ++ host.uid.text, script]

def bashCommand (dir script : List Char) : List (List Char) :=
  ["cd".toList, dir, "&&".toList, "bash".toList, script]

def jobSubmitCommand (host : Host) (request : SubmitJobRequest) (dir script : List Char) :
    JobScriptInterpreter → List (List Char)
  | .pbs => qsubCommand host request dir script
  | .bash => bashCommand dir script

def argv (owner : String) (command : List (List Char)) : List (List Char) :=
  ["su".toList, owner.toList, "-c".toList, [' '].intercalate command]

def submissionFailed (result : ShellInvocationResult) : SubmitError :=
  .own (.soca JOB_SUBMISSION_FAILED ("Failed to submit job: " ++ result.text))

def jobId (result : ShellInvocationResult) : String :=
  String.ofList ((result.stdout.toList.splitOn '.').headD [])

def withJobId (result : ShellInvocationResult) (submitted : SubmitJobResult) :
    Submission SubmitJobResult :=
  if result.returncode = 0 then
    match submitted.job with
    | none => .raise (.own .attributeError)
    | some _ => pure { submitted with job := some (some (jobId result)) }
  else pure submitted

/-- What is answered after `qsub`. -/
def finishQsub (host : Host) (request : SubmitJobRequest) (script : List Char)
    (result : ShellInvocationResult) : Submission SubmitJobResult :=
  if result.returncode ≠ 0 ∧ dryRunText request.dryRun = none then .raise (submissionFailed result)
  else
    match host.submission with
    | some (.error e) => .raise (.called e)
    | none =>
      if result.returncode ≠ 0 then .raise (submissionFailed result)
      else .raise (.own .attributeError)
    | some (.ok submitted) => do
      let submitted ← withJobId result submitted
      if submitted.accepted.getD false then do
        perform host (.remove script)
        pure submitted
      else pure submitted

def finishBash (result : ShellInvocationResult) : Submission SubmitJobResult :=
  if result.returncode = 0 then pure { accepted := some true, job := none }
  else .raise (submissionFailed result)

def submitScript (host : Host) (owner : String) (request : SubmitJobRequest)
    (interpreter : JobScriptInterpreter) (content : List Char) : Submission SubmitJobResult := do
  let script := jobSubmitScript host owner interpreter content
  perform host (.write script (content ++ ['\n']))
  perform host (.chown script owner (host.getUserGroup owner))
  let command := argv owner
    (jobSubmitCommand host request (jobSubmissionDir host owner) script interpreter)
  perform host (.invoke command)
  match interpreter with
  | .pbs => finishQsub host request script (host.shell command)
  | .bash => finishBash (host.shell command)

def submitJob (host : Host) (user : TextObject) (request : SubmitJobRequest) :
    Submission SubmitJobResult := do
  let (interpreter, jobScript) ← .ofExcept ((checkRequest user request).mapError .own)
  let owner := (jobOwner user request).value
  prepareFolder host owner
  let content ← call (host.base64Decode jobScript)
  submitScript host owner request interpreter content

def commandWords (host : Host) (request : SubmitJobRequest) (dir script : List Char) :
    JobScriptInterpreter → List (Shell.Token (List Char))
  | .pbs =>
    [.word "cd".toList, .word dir, .operator ['&', '&'], .word "qsub".toList] ++
      (match dryRunText request.dryRun with
        | some text => [.word "-l".toList, .word text]
        | none => []) ++
      (match project? request with
        | some project => [.word "-P".toList, .word project.toList]
        | none => []) ++
      [.word "-l".toList, .word ("job_uid=".toList ++ host.uid.text), .word script]
  | .bash =>
    [.word "cd".toList, .word dir, .operator ['&', '&'], .word "bash".toList, .word script]

def commandTemplate (host : Host) (request : SubmitJobRequest) (dir script : List Char) :
    JobScriptInterpreter → Shell.Template
  | .pbs =>
    { first := .bare "cd".toList
      rest := [(.blank, .bare dir), (.and, .bare "qsub".toList)] ++
        (match dryRunText request.dryRun with
          | some text => [(.blank, .bare "-l".toList), (.blank, .bare text)]
          | none => []) ++
        (match project? request with
          | some project => [(.blank, .bare "-P".toList), (.blank, .quoted project.toList)]
          | none => []) ++
        [(.blank, .bare "-l".toList), (.blank, .bare ("job_uid=".toList ++ host.uid.text)),
          (.blank, .bare script)] }
  | .bash =>
    { first := .bare "cd".toList
      rest := [(.blank, .bare dir), (.and, .bare "bash".toList), (.blank, .bare script)] }

variable {host : Host} {user : TextObject} {request : SubmitJobRequest}
variable {interpreter : JobScriptInterpreter} {dir script : List Char}

theorem tokens_commandTemplate :
    (commandTemplate host request dir script interpreter).tokens =
      commandWords host request dir script interpreter := by
  cases interpreter with
  | bash => rfl
  | pbs =>
    unfold commandTemplate commandWords Shell.Template.tokens
    cases dryRunText request.dryRun <;> cases project? request <;> rfl

theorem intercalate_blank (first : List Char) (rest : List (List Char)) :
    [' '].intercalate (first :: rest) = first ++ rest.flatMap (' ' :: ·) := by
  induction rest generalizing first with
  | nil => simp
  | cons second rest ih => rw [List.intercalate_cons_cons, ih]; simp

theorem render_commandTemplate :
    (commandTemplate host request dir script interpreter).render .double =
      [' '].intercalate (jobSubmitCommand host request dir script interpreter) := by
  have hand : "&&".toList = ['&', '&'] := by decide
  cases interpreter with
  | bash =>
    unfold commandTemplate jobSubmitCommand bashCommand Shell.Template.render
    rw [intercalate_blank, hand]
    generalize "cd".toList = cd, "bash".toList = bash
    simp [Shell.Arg.render, Shell.Sep.render]
  | pbs =>
    unfold commandTemplate jobSubmitCommand qsubCommand Shell.Template.render
    rw [hand]
    generalize "cd".toList = cd, "qsub".toList = qsub, "-l".toList = resource,
      "-P".toList = projectOption, "job_uid=".toList ++ host.uid.text = uid
    cases dryRunText request.dryRun <;> cases project? request <;>
      simp [Shell.Arg.render, Shell.Sep.render, Shell.Quote.char]

/-- The texts of the request stand for themselves where the command has them. -/
structure CommandSafe (request : SubmitJobRequest) (dir script : List Char)
    (interpreter : JobScriptInterpreter) : Prop where
  dir : Shell.bareSafe dir = true
  script : Shell.bareSafe script = true
  project : interpreter = .pbs → ∀ project, project? request = some project →
    Shell.doubleSafe project.toList = true

theorem safe_jobUid (uid : ShortUuid) :
    Shell.bareSafe ("job_uid=".toList ++ uid.text) = true := by
  have hprefix : "job_uid=".toList.all Shell.steady = true := by decide +kernel
  refine Shell.bareSafe_of_steady (by simp) ?_ (by simp) (by simp)
  intro c hc
  rcases List.mem_append.mp hc with hc | hc
  · exact List.all_eq_true.mp hprefix c hc
  · exact Shell.steady_of_isAlphanum (List.all_eq_true.mp uid.alphanumeric c hc)

theorem safe_commandTemplate_iff :
    (∀ a ∈ (commandTemplate host request dir script interpreter).args, a.Safe .double) ↔
      CommandSafe request dir script interpreter := by
  have huid := safe_jobUid host.uid
  have hwords : ∀ w ∈ ["cd", "qsub", "bash", "-l", "-P"], Shell.bareSafe w.toList = true := by
    decide +kernel
  simp only [List.forall_mem_cons, List.not_mem_nil, false_implies, implies_true,
    and_true] at hwords
  obtain ⟨hcd, hqsub, hbash, hresource, hproject⟩ := hwords
  have hdry : ∀ text, dryRunText request.dryRun = some text → Shell.bareSafe text = true := by
    intro text h
    unfold dryRunText at h
    split_ifs at h
    cases h
    decide +kernel
  cases interpreter with
  | bash =>
    simp only [commandTemplate, Shell.Template.args, List.map_cons, List.map_nil,
      List.forall_mem_cons, List.not_mem_nil, false_implies, implies_true, and_true]
    exact ⟨fun ⟨_, hdir, _, hscript⟩ => ⟨hdir, hscript, nofun⟩,
      fun h => ⟨hcd, h.dir, hbash, h.script⟩⟩
  | pbs =>
    unfold commandTemplate Shell.Template.args
    constructor
    · intro h
      refine ⟨h (.bare dir) (by simp), h (.bare script) (by simp), fun _ project heq => ?_⟩
      exact h (.quoted project.toList) (by simp [heq])
    · rintro ⟨hdir, hscript, hquoted⟩ a ha
      cases hd : dryRunText request.dryRun <;> cases hp : project? request <;>
        simp only [hd, hp, List.append_nil, List.cons_append, List.nil_append, List.map_cons,
          List.map_nil, List.mem_cons, List.not_mem_nil, or_false] at ha
      · rcases ha with rfl | rfl | rfl | rfl | rfl | rfl <;> assumption
      · have hquoted := hquoted rfl _ hp
        rcases ha with rfl | rfl | rfl | rfl | rfl | rfl | rfl | rfl <;> assumption
      · have hdry := hdry _ hd
        rcases ha with rfl | rfl | rfl | rfl | rfl | rfl | rfl | rfl <;> assumption
      · have hquoted := hquoted rfl _ hp
        have hdry := hdry _ hd
        rcases ha with rfl | rfl | rfl | rfl | rfl | rfl | rfl | rfl | rfl | rfl <;> assumption

theorem read_command_iff :
    Shell.read ([' '].intercalate (jobSubmitCommand host request dir script interpreter)) =
        some (commandWords host request dir script interpreter) ↔
      CommandSafe request dir script interpreter := by
  rw [← render_commandTemplate, ← tokens_commandTemplate, Shell.read_render_iff,
    safe_commandTemplate_iff]

def Effect.isOther : Effect → Bool
  | .write _ _ => false
  | .invoke _ => false
  | _ => true

/-- A part of the submission that neither writes a file nor runs a command, and does not blame
the user for the named owner. -/
def Quiet {α : Type} (x : Submission α) : Prop :=
  ∀ effects r effects', x.run effects = (r, effects') →
    (∃ later, effects' = effects ++ later ∧ ∀ e ∈ later, e.isOther = true) ∧
      r ≠ .error (.own mismatchedUser)

variable {effects effects' : List Effect} {effect : Effect}
variable {r : Except SubmitError SubmitJobResult} {content : List Char} {owner : String}

theorem perform_bind_cases {α : Type} {f : Unit → Submission α} {r : Except SubmitError α}
    (h : (perform host effect >>= f).run effects = (r, effects')) :
    (∃ e, host.fails effect = some e ∧ r = .error (.called e) ∧ effects' = effects) ∨
      host.fails effect = none ∧ (f ()).run (effects ++ [effect]) = (r, effects') := by
  unfold perform at h
  cases hfails : host.fails effect with
  | some e =>
    rw [hfails] at h
    obtain ⟨rfl, rfl⟩ := Prod.mk.inj h
    exact .inl ⟨e, rfl, rfl, rfl⟩
  | none =>
    rw [hfails] at h
    exact .inr ⟨rfl, h⟩

theorem quiet_pure {α : Type} (a : α) : Quiet (pure a) := by
  rintro effects r effects' h
  obtain ⟨rfl, rfl⟩ := Prod.mk.inj h
  exact ⟨⟨[], by simp, by simp⟩, nofun⟩

theorem quiet_raise {α : Type} {e : SubmitError} (he : e ≠ .own mismatchedUser) :
    Quiet (.raise e : Submission α) := by
  rintro effects r effects' h
  obtain ⟨rfl, rfl⟩ := Prod.mk.inj h
  exact ⟨⟨[], by simp, by simp⟩, fun heq => he (Except.error.inj heq)⟩

theorem Quiet.bind {α β : Type} {x : Submission α} {f : α → Submission β} (hx : Quiet x)
    (hf : ∀ a, Quiet (f a)) : Quiet (x >>= f) := by
  rintro effects r effects' h
  rcases Stateful.bind_cases h with ⟨e, hx', rfl⟩ | ⟨a, middle, hx', hf'⟩
  · obtain ⟨hlater, hne⟩ := hx _ _ _ hx'
    exact ⟨hlater, fun heq => hne (congrArg Except.error (Except.error.inj heq))⟩
  · obtain ⟨⟨first, rfl, hfirst⟩, -⟩ := hx _ _ _ hx'
    obtain ⟨⟨second, rfl, hsecond⟩, hne⟩ := hf a _ _ _ hf'
    exact ⟨⟨first ++ second, List.append_assoc .., List.forall_mem_append.mpr ⟨hfirst, hsecond⟩⟩,
      hne⟩

theorem quiet_perform (h : effect.isOther = true) : Quiet (perform host effect) := by
  rintro effects r effects' hrun
  unfold perform at hrun
  cases hfails : host.fails effect with
  | some e =>
    rw [hfails] at hrun
    obtain ⟨rfl, rfl⟩ := Prod.mk.inj hrun
    exact ⟨⟨[], by simp, by simp⟩, nofun⟩
  | none =>
    rw [hfails] at hrun
    obtain ⟨rfl, rfl⟩ := Prod.mk.inj hrun
    exact ⟨⟨[effect], rfl, by simpa using h⟩, nofun⟩

theorem quiet_prepareFolder : Quiet (prepareFolder host owner) := by
  unfold prepareFolder
  dsimp only
  split_ifs
  · refine quiet_raise fun h => ?_
    exact absurd (Raised.soca.inj (SubmitError.own.inj h)).1 (by decide)
  · exact quiet_pure _
  · exact (quiet_perform rfl).bind fun _ => quiet_perform rfl

theorem submissionFailed_ne (result : ShellInvocationResult) :
    submissionFailed result ≠ .own mismatchedUser := fun h =>
  absurd (Raised.soca.inj (SubmitError.own.inj h)).1 (by decide)

theorem quiet_withJobId (result : ShellInvocationResult) (submitted : SubmitJobResult) :
    Quiet (withJobId result submitted) := by
  unfold withJobId
  split_ifs
  · cases submitted.job with
    | none => exact quiet_raise (by decide)
    | some job => exact quiet_pure _
  · exact quiet_pure _

theorem quiet_finishQsub (result : ShellInvocationResult) :
    Quiet (finishQsub host request script result) := by
  unfold finishQsub
  by_cases hfailed : result.returncode ≠ 0 ∧ dryRunText request.dryRun = none
  · rw [if_pos hfailed]
    exact quiet_raise (submissionFailed_ne result)
  · rw [if_neg hfailed]
    rcases host.submission with _ | e | submitted
    · dsimp only
      split_ifs
      · exact quiet_raise (submissionFailed_ne result)
      · exact quiet_raise (by decide)
    · exact quiet_raise nofun
    · refine (quiet_withJobId result submitted).bind fun submitted => ?_
      split_ifs
      · exact (quiet_perform rfl).bind fun _ => quiet_pure _
      · exact quiet_pure _

theorem quiet_finishBash (result : ShellInvocationResult) : Quiet (finishBash result) := by
  unfold finishBash
  split_ifs
  · exact quiet_pure _
  · exact quiet_raise (submissionFailed_ne result)

def commandOf (host : Host) (owner : String) (request : SubmitJobRequest)
    (interpreter : JobScriptInterpreter) (content : List Char) : List (List Char) :=
  argv owner (jobSubmitCommand host request (jobSubmissionDir host owner)
    (jobSubmitScript host owner interpreter content) interpreter)

def writeOf (host : Host) (owner : String) (interpreter : JobScriptInterpreter)
    (content : List Char) : Effect :=
  .write (jobSubmitScript host owner interpreter content) (content ++ ['\n'])

def chownOf (host : Host) (owner : String) (interpreter : JobScriptInterpreter)
    (content : List Char) : Effect :=
  .chown (jobSubmitScript host owner interpreter content) owner (host.getUserGroup owner)

theorem submitScript_cases
    (h : (submitScript host owner request interpreter content).run effects = (r, effects')) :
    r ≠ .error (.own mismatchedUser) ∧
      ((∃ e, host.fails (writeOf host owner interpreter content) = some e ∧
          effects' = effects) ∨
        host.fails (writeOf host owner interpreter content) = none ∧
          ((∃ e, host.fails (chownOf host owner interpreter content) = some e ∧
              effects' = effects ++ [writeOf host owner interpreter content]) ∨
            host.fails (chownOf host owner interpreter content) = none ∧
              ((∃ e, host.fails (.invoke (commandOf host owner request interpreter content)) =
                    some e ∧
                  effects' = effects ++ [writeOf host owner interpreter content] ++
                    [chownOf host owner interpreter content]) ∨
                host.fails (.invoke (commandOf host owner request interpreter content)) = none ∧
                  ∃ later, effects' = effects ++ [writeOf host owner interpreter content] ++
                      [chownOf host owner interpreter content] ++
                      [.invoke (commandOf host owner request interpreter content)] ++ later ∧
                    ∀ e ∈ later, e.isOther = true))) := by
  unfold submitScript at h
  rcases perform_bind_cases h with ⟨e, hwrite, rfl, rfl⟩ | ⟨hwrite, h⟩
  · exact ⟨nofun, .inl ⟨e, hwrite, rfl⟩⟩
  rcases perform_bind_cases h with ⟨e, hchown, rfl, rfl⟩ | ⟨hchown, h⟩
  · exact ⟨nofun, .inr ⟨hwrite, .inl ⟨e, hchown, rfl⟩⟩⟩
  rcases perform_bind_cases h with ⟨e, hinvoke, rfl, rfl⟩ | ⟨hinvoke, h⟩
  · exact ⟨nofun, .inr ⟨hwrite, .inr ⟨hchown, .inl ⟨e, hinvoke, rfl⟩⟩⟩⟩
  cases interpreter with
  | pbs =>
    obtain ⟨hlater, hne⟩ := quiet_finishQsub _ _ _ _ h
    exact ⟨hne, .inr ⟨hwrite, .inr ⟨hchown, .inr ⟨hinvoke, hlater⟩⟩⟩⟩
  | bash =>
    obtain ⟨hlater, hne⟩ := quiet_finishBash _ _ _ _ h
    exact ⟨hne, .inr ⟨hwrite, .inr ⟨hchown, .inr ⟨hinvoke, hlater⟩⟩⟩⟩

theorem not_mem_of_other {path text : List Char} (h : ∀ e ∈ effects, e.isOther = true) :
    Effect.write path text ∉ effects :=
  fun hmem => nomatch h _ hmem

theorem invoke_not_mem_of_other {command : List (List Char)}
    (h : ∀ e ∈ effects, e.isOther = true) : Effect.invoke command ∉ effects :=
  fun hmem => nomatch h _ hmem

theorem write_mem_iff
    (h : (submitScript host owner request interpreter content).run effects = (r, effects'))
    (hother : ∀ e ∈ effects, e.isOther = true) (path text : List Char) :
    Effect.write path text ∈ effects' ↔ host.fails (writeOf host owner interpreter content) = none ∧
      Effect.write path text = writeOf host owner interpreter content := by
  have hnot : Effect.write path text ∉ effects := not_mem_of_other hother
  rcases submitScript_cases h with ⟨-, ⟨e, hwrite, rfl⟩ | ⟨hwrite, ⟨e, -, rfl⟩ | ⟨-,
    ⟨e, -, rfl⟩ | ⟨-, later, rfl, hlater⟩⟩⟩⟩
  · simp [hwrite, hnot]
  · simp [hwrite, hnot]
  · simp [hwrite, hnot, chownOf]
  · simp [hwrite, hnot, chownOf, not_mem_of_other hlater]

theorem invoke_mem_iff
    (h : (submitScript host owner request interpreter content).run effects = (r, effects'))
    (hother : ∀ e ∈ effects, e.isOther = true) (command : List (List Char)) :
    Effect.invoke command ∈ effects' ↔ host.fails (writeOf host owner interpreter content) = none ∧
      host.fails (chownOf host owner interpreter content) = none ∧
      host.fails (.invoke (commandOf host owner request interpreter content)) = none ∧
      command = commandOf host owner request interpreter content := by
  have hnot : Effect.invoke command ∉ effects := invoke_not_mem_of_other hother
  have hneWrite : Effect.invoke command ≠ writeOf host owner interpreter content := nofun
  have hneChown : Effect.invoke command ≠ chownOf host owner interpreter content := nofun
  rcases submitScript_cases h with ⟨-, ⟨e, hwrite, rfl⟩ | ⟨hwrite, ⟨e, hchown, rfl⟩ | ⟨hchown,
    ⟨e, hinvoke, rfl⟩ | ⟨hinvoke, later, rfl, hlater⟩⟩⟩⟩
  · simp [hwrite, hnot]
  · simp [hwrite, hchown, hnot, hneWrite]
  · simp [hwrite, hchown, hinvoke, hnot, hneWrite, hneChown]
  · simp [hwrite, hchown, hinvoke, hnot, hneWrite, hneChown, invoke_not_mem_of_other hlater]

/-- A request that gets as far as its script: it passes the checks, the folder is there and the
script is decoded. -/
structure Prepared (host : Host) (user : TextObject) (request : SubmitJobRequest)
    (interpreter : JobScriptInterpreter) (content : List Char) (effects : List Effect) : Prop where
  checked : ∃ jobScript, checkRequest user request = .ok (interpreter, jobScript) ∧
    host.base64Decode jobScript = .ok content
  folder : (prepareFolder host (jobOwner user request).value).run [] = (.ok (), effects)

theorem Prepared.other (h : Prepared host user request interpreter content effects) :
    ∀ e ∈ effects, e.isOther = true := by
  obtain ⟨⟨later, rfl, hlater⟩, -⟩ := quiet_prepareFolder _ _ _ h.folder
  simpa using hlater

/-- A request either fails before its script, without an effect that matters, or goes on with
it. -/
theorem submitJob_cases (h : (submitJob host user request).run [] = (r, effects)) :
    (∃ interpreter content before, Prepared host user request interpreter content before ∧
      (submitScript host (jobOwner user request).value request interpreter content).run before =
        (r, effects)) ∨
    (∀ interpreter content before, ¬ Prepared host user request interpreter content before) ∧
      (∀ e ∈ effects, e.isOther = true) ∧
      (r = .error (.own mismatchedUser) → checkRequest user request = .error mismatchedUser) := by
  unfold submitJob at h
  rcases Stateful.ofExcept_bind_cases h with ⟨e, hcheck, rfl, rfl⟩ | ⟨⟨interpreter, jobScript⟩,
    hcheck, h⟩
  · cases hc : checkRequest user request with
    | ok checked => rw [hc] at hcheck; cases hcheck
    | error e' =>
      rw [hc] at hcheck
      cases hcheck
      refine .inr ⟨fun _ _ _ hprepared => ?_, by simp, fun heq => ?_⟩
      · obtain ⟨jobScript, hok, -⟩ := hprepared.checked
        rw [hc] at hok
        cases hok
      · exact congrArg Except.error (SubmitError.own.inj (Except.error.inj heq))
  have hok : checkRequest user request = .ok (interpreter, jobScript) := by
    cases hc : checkRequest user request with
    | error e => rw [hc] at hcheck; cases hcheck
    | ok checked => rw [hc] at hcheck; cases hcheck; rfl
  rcases Stateful.bind_cases h with ⟨e, hfolder, rfl⟩ | ⟨⟨⟩, before, hfolder, h⟩
  · obtain ⟨⟨later, rfl, hlater⟩, hne⟩ := quiet_prepareFolder _ _ _ hfolder
    refine .inr ⟨fun _ _ _ hprepared => ?_, by simpa using hlater, fun heq => ?_⟩
    · rw [hprepared.folder] at hfolder
      cases hfolder
    · exact absurd (congrArg Except.error (Except.error.inj heq)) hne
  cases hdecode : host.base64Decode jobScript with
  | error e =>
    rw [hdecode] at h
    obtain ⟨rfl, rfl⟩ := Prod.mk.inj h
    obtain ⟨⟨later, rfl, hlater⟩, -⟩ := quiet_prepareFolder _ _ _ hfolder
    refine .inr ⟨fun _ _ _ hprepared => ?_, by simpa using hlater, nofun⟩
    obtain ⟨jobScript', hok', hdecode'⟩ := hprepared.checked
    rw [hok] at hok'
    cases hok'
    rw [hdecode] at hdecode'
    cases hdecode'
  | ok content =>
    rw [hdecode] at h
    exact .inl ⟨interpreter, content, before, ⟨⟨jobScript, hok, hdecode⟩, hfolder⟩, h⟩

def scriptName (uid : ShortUuid) (jobName : List Char) (interpreter : JobScriptInterpreter) :
    List Char :=
  (if jobName = [] then [] else Path.namePart jobName ++ ['_']) ++ uid.text ++
    interpreter.extension

theorem isName_scriptName (uid : ShortUuid) (jobName : List Char)
    (interpreter : JobScriptInterpreter) : Path.IsName (scriptName uid jobName interpreter) := by
  have hextension : 3 ≤ interpreter.extension.length ∧ '/' ∉ interpreter.extension := by
    cases interpreter <;> decide +kernel
  have huid := List.length_pos_of_ne_nil uid.not_empty
  have hlength : 4 ≤ (scriptName uid jobName interpreter).length := by
    simp only [scriptName, List.length_append]
    omega
  refine ⟨fun h => ?_, fun h => ?_, fun h => ?_, fun h => ?_⟩
  · rw [h] at hlength
    exact absurd hlength (by decide)
  · unfold scriptName at h
    rcases List.mem_append.mp h with h | h
    · rcases List.mem_append.mp h with h | h
      · split_ifs at h
        · cases h
        · rcases List.mem_append.mp h with h | h
          · exact Path.slash_not_mem_namePart jobName h
          · exact absurd h (by decide)
      · exact absurd (List.all_eq_true.mp uid.alphanumeric _ h) (by decide)
    · exact hextension.2 h
  · rw [h] at hlength
    exact absurd hlength (by decide)
  · rw [h] at hlength
    exact absurd hlength (by decide)

theorem filenameBase_eq (host : Host) (jobName : Option (List Char)) :
    filenameBase host jobName ++ interpreter.extension =
      Path.folderPart (jobName.getD []) ++
        scriptName host.uid (jobName.getD []) interpreter := by
  unfold filenameBase scriptName
  cases jobName with
  | none => rfl
  | some name =>
    by_cases hname : name = []
    · rw [hname]
      rfl
    · rw [Option.filter_some, if_pos (decide_eq_true hname), Option.getD_some, if_neg hname,
        ← List.append_assoc, ← List.append_assoc, ← List.append_assoc,
        Path.folderPart_append_namePart]
      simp

theorem jobSubmissionDir_spec (host : Host) (owner : String) :
    jobSubmissionDir host owner ≠ [] ∧ (jobSubmissionDir host owner).getLast? ≠ some '/' := by
  have hlast : ∀ path, (Path.join path "jobs".toList).getLast? = some 's' := by
    intro path
    unfold Path.join
    rw [if_neg (by decide)]
    split_ifs <;> simp
  have hdir : (jobSubmissionDir host owner).getLast? = some 's' := hlast _
  refine ⟨fun h => ?_, by rw [hdir]; decide⟩
  rw [h] at hdir
  cases hdir

/-- The job name leads to no other folder. -/
def StaysInFolder (host : Host) (owner : String) (content : List Char) : Prop :=
  Path.locate (Path.join (jobSubmissionDir host owner)
      (Path.folderPart ((jobName? content).getD []))) =
    Path.locate (jobSubmissionDir host owner)

theorem directlyIn_iff :
    Path.DirectlyIn (jobSubmitScript host owner interpreter content)
      (jobSubmissionDir host owner) ↔ StaysInFolder host owner content := by
  obtain ⟨hne, hlast⟩ := jobSubmissionDir_spec host owner
  unfold jobSubmitScript
  rw [filenameBase_eq]
  exact Path.directlyIn_join_iff hne hlast (isName_scriptName _ _ _) _

def submitted (host : Host) (user : TextObject) (request : SubmitJobRequest) :
    Except SubmitError SubmitJobResult × List Effect :=
  (submitJob host user request).run []

/-- Scripts are written into the folder of the user only, the shell reads the words of the
intended command, and the user may be named as the owner. -/
structure TouchesOwnFolder (host : Host) (user : TextObject) (request : SubmitJobRequest) :
    Prop where
  file : ∀ path text, Effect.write path text ∈ (submitted host user request).2 →
    Path.DirectlyIn path (jobSubmissionDir host user.value)
  command : ∀ command, Effect.invoke command ∈ (submitted host user request).2 →
    ∃ interpreter script text, interpreter? request.jobScriptInterpreter = .ok interpreter ∧
      Effect.write script text ∈ (submitted host user request).2 ∧
      ∃ line, command = ["su".toList, user.value.toList, "-c".toList, line] ∧
        Shell.read line = some (commandWords host request (jobSubmissionDir host user.value)
          script interpreter)
  oneself : submitted host user request = submitted host user { request with jobOwner := none }

/-- The owner is not named or is the object of the user, the job name of a script that is written
leads to no other folder, and the texts of a command that is run stand for themselves. -/
structure SafeRequest (host : Host) (user : TextObject) (request : SubmitJobRequest) : Prop where
  owner : (jobOwner user request).object = user.object ∨ isEmptyString (some user.value) = true
  file : ∀ interpreter content effects,
    Prepared host user request interpreter content effects →
    host.fails (writeOf host user.value interpreter content) = none →
    StaysInFolder host user.value content
  command : ∀ interpreter content effects,
    Prepared host user request interpreter content effects →
    host.fails (writeOf host user.value interpreter content) = none →
    host.fails (chownOf host user.value interpreter content) = none →
    host.fails (.invoke (commandOf host user.value request interpreter content)) = none →
    CommandSafe request (jobSubmissionDir host user.value)
      (jobSubmitScript host user.value interpreter content) interpreter

theorem interpreter?_of_prepared
    (h : Prepared host user request interpreter content effects) :
    interpreter? request.jobScriptInterpreter = .ok interpreter := by
  obtain ⟨jobScript, hcheck, -⟩ := h.checked
  unfold checkRequest at hcheck
  split_ifs at hcheck
  cases hscript : request.jobScript.filter fun script => !isEmptyString (some script) with
  | none => rw [hscript] at hcheck; cases hcheck
  | some script =>
    rw [hscript] at hcheck
    cases hi : interpreter? request.jobScriptInterpreter with
    | error e => rw [hi] at hcheck; cases hcheck
    | ok i => rw [hi] at hcheck; cases hcheck; rfl

theorem Prepared.unique {interpreter' : JobScriptInterpreter} {content' : List Char}
    (h : Prepared host user request interpreter content effects)
    (h' : Prepared host user request interpreter' content' effects') :
    interpreter = interpreter' ∧ content = content' ∧ effects = effects' := by
  obtain ⟨jobScript, hcheck, hdecode⟩ := h.checked
  obtain ⟨jobScript', hcheck', hdecode'⟩ := h'.checked
  obtain ⟨rfl, rfl⟩ := Prod.mk.inj (Except.ok.inj (hcheck.symm.trans hcheck'))
  exact ⟨rfl, Except.ok.inj (hdecode.symm.trans hdecode'),
    (Prod.mk.inj (h.folder.symm.trans h'.folder)).2⟩

theorem write_submitted_iff (path text : List Char) :
    Effect.write path text ∈ (submitted host user request).2 ↔
      ∃ interpreter content before, Prepared host user request interpreter content before ∧
        host.fails (writeOf host (jobOwner user request).value interpreter content) = none ∧
        Effect.write path text = writeOf host (jobOwner user request).value interpreter content := by
  rcases hrun : (submitJob host user request).run [] with ⟨r, effects⟩
  have heffects : (submitted host user request).2 = effects := congrArg Prod.snd hrun
  rw [heffects]
  rcases submitJob_cases hrun with ⟨interpreter, content, before, hprepared, hscript⟩ |
    ⟨hnot, hother, -⟩
  · rw [write_mem_iff hscript hprepared.other]
    constructor
    · exact fun h => ⟨interpreter, content, before, hprepared, h⟩
    · rintro ⟨_, _, _, hprepared', h⟩
      obtain ⟨rfl, rfl, rfl⟩ := hprepared.unique hprepared'
      exact h
  · exact ⟨fun hmem => absurd hmem (not_mem_of_other hother),
      fun ⟨_, _, _, hprepared, _⟩ => absurd hprepared (hnot _ _ _)⟩

theorem invoke_submitted_iff (command : List (List Char)) :
    Effect.invoke command ∈ (submitted host user request).2 ↔
      ∃ interpreter content before, Prepared host user request interpreter content before ∧
        host.fails (writeOf host (jobOwner user request).value interpreter content) = none ∧
        host.fails (chownOf host (jobOwner user request).value interpreter content) = none ∧
        host.fails (.invoke (commandOf host (jobOwner user request).value request interpreter
          content)) = none ∧
        command = commandOf host (jobOwner user request).value request interpreter content := by
  rcases hrun : (submitJob host user request).run [] with ⟨r, effects⟩
  have heffects : (submitted host user request).2 = effects := congrArg Prod.snd hrun
  rw [heffects]
  rcases submitJob_cases hrun with ⟨interpreter, content, before, hprepared, hscript⟩ |
    ⟨hnot, hother, -⟩
  · rw [invoke_mem_iff hscript hprepared.other]
    constructor
    · exact fun h => ⟨interpreter, content, before, hprepared, h⟩
    · rintro ⟨_, _, _, hprepared', h⟩
      obtain ⟨rfl, rfl, rfl⟩ := hprepared.unique hprepared'
      exact h
  · exact ⟨fun hmem => absurd hmem (invoke_not_mem_of_other hother),
      fun ⟨_, _, _, hprepared, _⟩ => absurd hprepared (hnot _ _ _)⟩

theorem interpreter?_ne (value : Option String) :
    interpreter? value ≠ .error mismatchedUser := by
  unfold interpreter?
  split_ifs
  · exact fun h => absurd (Except.error.inj h) (by decide)
  · exact nofun
  · exact nofun
  · exact fun h => absurd (Except.error.inj h) (by decide)

theorem checkRequest_without_owner_ne :
    checkRequest user { request with jobOwner := none } ≠ .error mismatchedUser := by
  unfold checkRequest
  split_ifs with hempty hobject
  · exact fun h => absurd (Except.error.inj h) (by decide)
  · exact absurd rfl hobject
  · cases request.jobScript.filter fun script => !isEmptyString (some script) with
    | none => exact fun h => absurd (Except.error.inj h) (by decide)
    | some script =>
      intro h
      cases hi : interpreter? request.jobScriptInterpreter with
      | ok interpreter => rw [hi] at h; cases h
      | error e =>
        rw [hi] at h
        cases h
        exact interpreter?_ne _ hi

theorem oneself_iff (hvalue : (jobOwner user request).value = user.value) :
    submitted host user request = submitted host user { request with jobOwner := none } ↔
      (jobOwner user request).object = user.object ∨ isEmptyString (some user.value) = true := by
  constructor
  · intro heq
    by_contra hobject
    obtain ⟨hobject, hempty⟩ := not_or.mp hobject
    have hcheck : checkRequest user request = .error mismatchedUser := by
      unfold checkRequest
      rw [if_neg hempty, if_pos (Ne.symm hobject)]
    have hsubmitted : submitted host user request = (.error (.own mismatchedUser), []) := by
      unfold submitted submitJob
      rw [hcheck]
      rfl
    rcases hrun : (submitJob host user { request with jobOwner := none }).run [] with ⟨r, effects⟩
    have hr : r = .error (.own mismatchedUser) :=
      congrArg Prod.fst (hrun.symm.trans (heq.symm.trans hsubmitted))
    rcases submitJob_cases hrun with ⟨interpreter, content, before, -, hscript⟩ | ⟨-, -, hcheck'⟩
    · exact (submitScript_cases hscript).1 hr
    · exact checkRequest_without_owner_ne (hcheck' hr)
  · intro hobject
    have hcheck : checkRequest user request =
        checkRequest user { request with jobOwner := none } := by
      have hnone : (jobOwner user { request with jobOwner := none }).object = user.object := rfl
      unfold checkRequest
      rcases hobject with hobject | hempty
      · rw [hobject, hnone]
      · rw [if_pos hempty, if_pos hempty]
    unfold submitted submitJob
    rw [hcheck, hvalue]
    rfl

theorem jobOwner_value
    (h : ∀ owner, request.jobOwner = some owner →
      isEmptyString (some owner.value) = true ∨ owner.value = user.value) :
    (jobOwner user request).value = user.value := by
  unfold jobOwner
  cases howner : request.jobOwner with
  | none => rfl
  | some owner =>
    dsimp only
    split_ifs with hempty
    · rfl
    · exact (h owner howner).resolve_left hempty

theorem touchesOwnFolder_iff (hvalue : (jobOwner user request).value = user.value) :
    TouchesOwnFolder host user request ↔ SafeRequest host user request := by
  have hwrite := @write_submitted_iff host user request
  have hinvoke := @invoke_submitted_iff host user request
  rw [hvalue] at hwrite hinvoke
  constructor
  · intro h
    refine ⟨(oneself_iff hvalue).mp h.oneself, ?_, ?_⟩
    · intro interpreter content effects hprepared hfails
      exact directlyIn_iff.mp (h.file _ _
        ((hwrite _ _).mpr ⟨interpreter, content, effects, hprepared, hfails, rfl⟩))
    · intro interpreter content effects hprepared hwritten hchown hinvoked
      obtain ⟨interpreter', script, text, hinterpreter, hscript, line, hcommand, hread⟩ :=
        h.command _ ((hinvoke _).mpr
          ⟨interpreter, content, effects, hprepared, hwritten, hchown, hinvoked, rfl⟩)
      obtain rfl : interpreter = interpreter' :=
        Except.ok.inj ((interpreter?_of_prepared hprepared).symm.trans hinterpreter)
      obtain ⟨_, _, _, hprepared', -, heq⟩ := (hwrite _ _).mp hscript
      obtain ⟨rfl, rfl, -⟩ := hprepared.unique hprepared'
      obtain ⟨rfl, -⟩ := Effect.write.inj heq
      unfold commandOf argv at hcommand
      simp only [List.cons.injEq, and_true, true_and] at hcommand
      rw [← hcommand] at hread
      exact read_command_iff.mp hread
  · intro h
    refine ⟨?_, ?_, (oneself_iff hvalue).mpr h.owner⟩
    · intro path text hmem
      obtain ⟨interpreter, content, before, hprepared, hfails, heq⟩ := (hwrite _ _).mp hmem
      obtain ⟨rfl, -⟩ := Effect.write.inj heq
      exact directlyIn_iff.mpr (h.file _ _ _ hprepared hfails)
    · intro command hmem
      obtain ⟨interpreter, content, before, hprepared, hwritten, hchown, hinvoked, rfl⟩ :=
        (hinvoke _).mp hmem
      refine ⟨interpreter, jobSubmitScript host user.value interpreter content,
        content ++ ['\n'], interpreter?_of_prepared hprepared,
        (hwrite _ _).mpr ⟨interpreter, content, before, hprepared, hwritten, rfl⟩, _, rfl, ?_⟩
      exact read_command_iff.mpr (h.command _ _ _ hprepared hwritten hchown hinvoked)

/-- A submission touches the folder of the user only, runs only the intended command and lets the
user be named if and only if the request is safe. -/
theorem submit_job_touches_own_folder (host : Host) (user : TextObject)
    (request : SubmitJobRequest)
    (h : ∀ owner, request.jobOwner = some owner →
      isEmptyString (some owner.value) = true ∨ owner.value = user.value) :
    TouchesOwnFolder host user request ↔ SafeRequest host user request :=
  touchesOwnFolder_iff (jobOwner_value h)

/-- A host on which nothing fails; the one script that is sent names a job in the folder of
another user. -/
def openHost : Host where
  dataDir := "/data"
  isSymlink := fun _ => false
  isDir := fun _ => true
  getUserGroup := fun owner => owner ++ "-user-group"
  fails := fun _ => none
  base64Decode := fun text =>
    if text = "I1BCUyAtTiAuLi8uLi9ib2Ivam9icy94Cg==" then .ok "#PBS -N ../../bob/jobs/x\n".toList
    else .error .valueError
  uid := ⟨"vytxeTZskVKR7C7WgdSP3d".toList, by decide +kernel, by decide +kernel⟩
  shell := fun _ => ⟨0, "12.ip-10-0-0-5", ""⟩
  submission := some (.ok ⟨some true, some none⟩)

def alice : TextObject := ⟨"alice", 1⟩

def strayRequest : SubmitJobRequest where
  jobOwner := some alice
  project := none
  dryRun := none
  jobScriptInterpreter := some "pbs"
  jobScript := some "I1BCUyAtTiAuLi8uLi9ib2Ivam9icy94Cg=="

theorem submit_job_touches_own_folder_stray :
    TouchesOwnFolder openHost alice strayRequest ↔ SafeRequest openHost alice strayRequest :=
  submit_job_touches_own_folder openHost alice strayRequest
    fun _ howner => .inr (congrArg TextObject.value (Option.some.inj howner).symm)

theorem submit_job_leaves_folder : ¬ ∀ (host : Host) (user : TextObject)
    (request : SubmitJobRequest), (∀ owner, request.jobOwner = some owner →
        isEmptyString (some owner.value) = true ∨ owner.value = user.value) →
      TouchesOwnFolder host user request := by
  intro h
  have howner : ∀ owner, strayRequest.jobOwner = some owner →
      isEmptyString (some owner.value) = true ∨ owner.value = alice.value :=
    fun _ howner => .inr (congrArg TextObject.value (Option.some.inj howner).symm)
  have hsafe := (touchesOwnFolder_iff (jobOwner_value howner)).mp (h openHost alice strayRequest howner)
  have hprepared : Prepared openHost alice strayRequest .pbs
      "#PBS -N ../../bob/jobs/x\n".toList [] :=
    ⟨⟨"I1BCUyAtTiAuLi8uLi9ib2Ivam9icy94Cg==", by decide +kernel, by decide +kernel⟩, rfl⟩
  have hstays := hsafe.file _ _ _ hprepared rfl
  unfold StaysInFolder at hstays
  revert hstays
  decide +kernel

end Idea.SubmitJob

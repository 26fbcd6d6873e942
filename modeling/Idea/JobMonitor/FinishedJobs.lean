import Idea.JobMonitor.JobsDB

/-! # The finished job processor

A cycle takes the ids of the active jobs from the scheduler, reads the jobs table and
deletes every job that is not active. Only then are the provisioned ones among the deleted
jobs looked up in the scheduler, page by page, and recorded as finished one by one. What the
scheduler's commands answer and which steps raise are arguments.
-/

namespace Idea

namespace ErrorCodes

def QSTAT_ERROR_CODE_ABORTED : ℤ := -2
def QSTAT_ERROR_CODE_JOB_FINISHED : ℤ := 35
def QSTAT_ERROR_CODE_UNKNOWN_JOB_ID : ℤ := 153

end ErrorCodes

/-- A call of `qselect`: its return code and the lines it prints. -/
structure QselectResult where
  returncode : ℤ
  lines : List String

namespace OpenPBSQSelect

def listJobsIds (result : QselectResult) : List String :=
  if result.returncode = 0 then
    result.lines.map fun line => String.ofList (line.toList.takeWhile (· ≠ '.'))
  else []

end OpenPBSQSelect

/-- A call of `qstat`: its return code, the jobs its output is decoded to, and its text. -/
structure QstatResult where
  returncode : ℤ
  jobs : Except Raised (List SocaJob)
  text : String

variable {qstat : ℕ → List (Option String) → QstatResult}

namespace OpenPBSQStat

def pageSize : ℕ := 100

/-- The loop over pages, with the rounds that remain and the start of the page. A page whose
call fails is asked for again in the next round. -/
def pageLoop (qstat : ℕ → List (Option String) → QstatResult) (jobIds : List (Option String)) :
    ℕ → ℕ → QstatResult → Except Raised (List SocaJob × QstatResult)
  | 0, _, last => .ok ([], last)
  | rounds + 1, start, _ =>
    let result := qstat rounds ((jobIds.drop start).take pageSize)
    if result.returncode = 0 then do
      let jobs ← result.jobs
      let rest ← pageLoop qstat jobIds rounds (start + pageSize) result
      .ok (jobs ++ rest.1, rest.2)
    else pageLoop qstat jobIds rounds start result

def lastJobs (result : QstatResult) : Except Raised (List SocaJob) :=
  if result.returncode = 0 then .ok []
  else if result.returncode = ErrorCodes.QSTAT_ERROR_CODE_JOB_FINISHED then
    .error (.soca ErrorCodes.SCHEDULER_JOB_FINISHED result.text)
  else if result.returncode = ErrorCodes.QSTAT_ERROR_CODE_UNKNOWN_JOB_ID then result.jobs
  else if result.returncode = ErrorCodes.QSTAT_ERROR_CODE_ABORTED then .ok []
  else .error (.soca ErrorCodes.SCHEDULER_ERROR result.text)

def listJobs (qstat : ℕ → List (Option String) → QstatResult) (jobIds : List (Option String)) :
    Except Raised (List SocaJob) := do
  let pages ← pageLoop qstat jobIds ((jobIds.length + pageSize - 1) / pageSize) 0 ⟨0, .ok [], ""⟩
  let more ← lastJobs pages.2
  .ok (pages.1 ++ more)

def AnswersAsked (qstat : ℕ → List (Option String) → QstatResult) : Prop :=
  ∀ round jobIds jobs, (qstat round jobIds).jobs = .ok jobs → ∀ job ∈ jobs, job.jobId ∈ jobIds

theorem mem_of_mem_pageLoop (h : AnswersAsked qstat) {jobIds : List (Option String)}
    {rounds start : ℕ} {last : QstatResult} {pages : List SocaJob × QstatResult}
    (hlast : ∀ jobs, last.jobs = .ok jobs → ∀ job ∈ jobs, job.jobId ∈ jobIds)
    (hp : pageLoop qstat jobIds rounds start last = .ok pages) :
    (∀ job ∈ pages.1, job.jobId ∈ jobIds) ∧
      ∀ jobs, pages.2.jobs = .ok jobs → ∀ job ∈ jobs, job.jobId ∈ jobIds := by
  induction rounds generalizing start last pages with
  | zero =>
    cases hp
    exact ⟨fun _ hj => absurd hj List.not_mem_nil, hlast⟩
  | succ rounds ih =>
    have hpage : ∀ jobs, (qstat rounds ((jobIds.drop start).take pageSize)).jobs = .ok jobs →
        ∀ job ∈ jobs, job.jobId ∈ jobIds := fun jobs hj job hm =>
      List.mem_of_mem_drop (List.mem_of_mem_take (h _ _ _ hj job hm))
    unfold pageLoop at hp
    dsimp only at hp
    split at hp
    · obtain ⟨jobs, hj, hp⟩ := Raised.bind_eq_ok.mp hp
      obtain ⟨rest, hr, hp⟩ := Raised.bind_eq_ok.mp hp
      cases hp
      obtain ⟨hrest, hl⟩ := ih hpage hr
      refine ⟨fun job hm => ?_, hl⟩
      rcases List.mem_append.mp hm with hm | hm
      · exact hpage jobs hj job hm
      · exact hrest job hm
    · exact ih hpage hp

theorem mem_of_mem_listJobs (h : AnswersAsked qstat) {jobIds : List (Option String)}
    {jobs : List SocaJob} (hl : listJobs qstat jobIds = .ok jobs) :
    ∀ job ∈ jobs, job.jobId ∈ jobIds := by
  obtain ⟨pages, hp, hl⟩ := Raised.bind_eq_ok.mp hl
  obtain ⟨more, hm, hl⟩ := Raised.bind_eq_ok.mp hl
  cases hl
  have hnil : ∀ jobs, (.ok [] : Except Raised (List SocaJob)) = .ok jobs →
      ∀ job ∈ jobs, job.jobId ∈ jobIds := by
    rintro jobs ⟨⟩
    exact fun _ hj => absurd hj List.not_mem_nil
  obtain ⟨hpages, hlast⟩ := mem_of_mem_pageLoop h hnil hp
  intro job hj
  rcases List.mem_append.mp hj with hj | hj
  · exact hpages job hj
  · unfold lastJobs at hm
    split at hm
    · exact hnil more hm job hj
    split at hm
    · cases hm
    split at hm
    · exact hlast more hm job hj
    split at hm
    · exact hnil more hm job hj
    · cases hm

end OpenPBSQStat

/-- The steps of post-processing a finished job, in the order of `invoke`. -/
inductive ProcessStep where
  | applyJobExecutionContext
  | computeAndApplyEstimatedCosts
  | computeAndApplyBudgetUsage
  | logJobComplete
  | publishJobMetrics
  | publishToJobExportLog
  | sendEmailNotification
  | publishToFinishedJobsDb
  deriving DecidableEq, Repr

namespace ProcessFinishedJob

def steps : List ProcessStep :=
  [.applyJobExecutionContext, .computeAndApplyEstimatedCosts, .computeAndApplyBudgetUsage,
    .logJobComplete, .publishJobMetrics, .publishToJobExportLog, .sendEmailNotification,
    .publishToFinishedJobsDb]

def isGuarded : ProcessStep → Bool
  | .logJobComplete => false
  | _ => true

def stepEffect (job : SocaJob) (db : JobsDB) : ProcessStep → JobsDB
  | .publishToFinishedJobsDb =>
    match db.addFinishedJob job with
    | .ok db' => db'
    | .error _ => db
  | _ => db

def runSteps (raises : ProcessStep → Bool) (job : SocaJob) : List ProcessStep → JobsDB → JobsDB
  | [], db => db
  | step :: rest, db =>
    if raises step then if isGuarded step then runSteps raises job rest db else db
    else runSteps raises job rest (stepEffect job db step)

def invoke (raises : ProcessStep → Bool) (job : SocaJob) (db : JobsDB) : JobsDB :=
  runSteps raises job steps db

def records (raises : ProcessStep → Bool) (job : SocaJob) : Bool :=
  !raises .logJobComplete && !raises .publishToFinishedJobsDb && job.params.isSome &&
    job.state.isSome

theorem stepEffect_publish (job : SocaJob) (db : JobsDB) :
    stepEffect job db .publishToFinishedJobsDb =
      if job.params.isSome && job.state.isSome then
        { db with finishedJobs := db.finishedJobs.set job.jobId job } else db := by
  unfold stepEffect JobsDB.addFinishedJob JobsDB.jobRow SocaJob.desiredCapacity
  cases job.params with
  | none => rfl
  | some params => cases job.state <;> rfl

theorem runSteps_silent (raises : ProcessStep → Bool) (job : SocaJob) {step : ProcessStep}
    (hg : isGuarded step = true) (hs : ∀ db, stepEffect job db step = db)
    (rest : List ProcessStep) (db : JobsDB) :
    runSteps raises job (step :: rest) db = runSteps raises job rest db := by
  rw [runSteps, hg, hs]
  split <;> rfl

theorem invoke_eq (raises : ProcessStep → Bool) (job : SocaJob) (db : JobsDB) :
    invoke raises job db =
      if records raises job then { db with finishedJobs := db.finishedJobs.set job.jobId job }
      else db := by
  have publish : ∀ db, runSteps raises job [.publishJobMetrics, .publishToJobExportLog,
      .sendEmailNotification, .publishToFinishedJobsDb] db =
      if raises .publishToFinishedJobsDb then db
      else stepEffect job db .publishToFinishedJobsDb := by
    intro db
    iterate 3 rw [runSteps_silent raises job rfl fun _ => rfl]
    rfl
  unfold invoke steps
  iterate 3 rw [runSteps_silent raises job rfl fun _ => rfl]
  have hlog : stepEffect job db .logJobComplete = db := rfl
  rw [runSteps, hlog, publish, stepEffect_publish, records]
  cases raises .logJobComplete <;> cases raises .publishToFinishedJobsDb <;> simp [isGuarded]

end ProcessFinishedJob

namespace FinishedJobProcessor

open ProcessFinishedJob

/-- What a cycle decides about a row: it stays, or the job is deleted, as one that finished
if it was provisioned. -/
inductive Verdict where
  | keep
  | delete (jobId : Option String)
  | finish (job : SocaJob)

def verdict (activeJobIds : List String) (entry : Option String × JobRow) : Verdict :=
  if entry.1 ∈ activeJobIds.map some then .keep
  else
    match entry.2.jobData with
    | none => .keep
    | some job =>
      if !job.isProvisioned then .delete job.jobId
      else .finish { job with state := some .finished }

def Verdict.idToDelete : Verdict → Option (Option String)
  | .keep => none
  | .delete jobId => some jobId
  | .finish job => some job.jobId

def Verdict.finishedJob : Verdict → Option SocaJob
  | .finish job => some job
  | _ => none

/-- The ids to delete and the jobs to process of the rows that were read. -/
structure Selection where
  jobIdsToDelete : List (Option String)
  finishedJobs : List SocaJob

def select (activeJobIds : List String) (entries : List (Option String × JobRow)) : Selection where
  jobIdsToDelete := entries.filterMap fun entry => (verdict activeJobIds entry).idToDelete
  finishedJobs := entries.filterMap fun entry => (verdict activeJobIds entry).finishedJob

def deletedIds (failsAfter : Option ℕ) (selection : Selection) : List (Option String) :=
  match failsAfter with
  | none => selection.jobIdsToDelete
  | some n => selection.jobIdsToDelete.take n

theorem deletedIds_subset (failsAfter : Option ℕ) (selection : Selection) :
    deletedIds failsAfter selection ⊆ selection.jobIdsToDelete := by
  intro jobId h
  cases failsAfter with
  | none => exact h
  | some n => exact List.mem_of_mem_take h

def deleteJobs (failsAfter : Option ℕ) (selection : Selection) (db : JobsDB) : JobsDB :=
  db.deleteMany (deletedIds failsAfter selection)

/-- Looks the jobs up and processes those that are found. An exception of the lookup is left
to the handler of the cycle. -/
def processFinishedJobs (qstat : ℕ → List (Option String) → QstatResult)
    (raises : SocaJob → ProcessStep → Bool) (jobs : List SocaJob) (db : JobsDB) : JobsDB :=
  if jobs = [] then db
  else
    match OpenPBSQStat.listJobs qstat (jobs.map SocaJob.jobId) with
    | .error _ => db
    | .ok found => found.foldl (fun db job => invoke (raises job) job db) db

def recordedJobs (qstat : ℕ → List (Option String) → QstatResult)
    (raises : SocaJob → ProcessStep → Bool) (jobs : List SocaJob) : List SocaJob :=
  if jobs = [] then []
  else
    match OpenPBSQStat.listJobs qstat (jobs.map SocaJob.jobId) with
    | .error _ => []
    | .ok found => found.filter fun job => records (raises job) job

def withFinished (jobs : List SocaJob) (db : JobsDB) : JobsDB :=
  let finishedJobs := jobs.foldl (fun table job => table.set job.jobId job) db.finishedJobs
  { db with finishedJobs }

theorem foldl_invoke (raises : SocaJob → ProcessStep → Bool) (found : List SocaJob)
    (db : JobsDB) :
    found.foldl (fun db job => invoke (raises job) job db) db =
      withFinished (found.filter fun job => records (raises job) job) db := by
  induction found generalizing db with
  | nil => rfl
  | cons job found ih =>
    rw [List.foldl_cons, invoke_eq, List.filter_cons, ih]
    cases records (raises job) job <;> rfl

theorem processFinishedJobs_eq (qstat : ℕ → List (Option String) → QstatResult)
    (raises : SocaJob → ProcessStep → Bool) (jobs : List SocaJob) (db : JobsDB) :
    processFinishedJobs qstat raises jobs db =
      withFinished (recordedJobs qstat raises jobs) db := by
  unfold processFinishedJobs recordedJobs
  split
  · rfl
  · cases OpenPBSQStat.listJobs qstat (jobs.map SocaJob.jobId) with
    | error e => rfl
    | ok found => exact foldl_invoke raises found db

theorem jobId_of_mem_recordedJobs (h : OpenPBSQStat.AnswersAsked qstat)
    {raises : SocaJob → ProcessStep → Bool} {jobs : List SocaJob} {job : SocaJob}
    (hj : job ∈ recordedJobs qstat raises jobs) : ∃ asked ∈ jobs, asked.jobId = job.jobId := by
  unfold recordedJobs at hj
  split at hj
  · exact absurd hj List.not_mem_nil
  · cases hl : OpenPBSQStat.listJobs qstat (jobs.map SocaJob.jobId) with
    | error e =>
      rw [hl] at hj
      exact absurd hj List.not_mem_nil
    | ok found =>
      rw [hl] at hj
      have hm := OpenPBSQStat.mem_of_mem_listJobs h hl job (List.mem_of_mem_filter hj)
      exact List.mem_map.mp hm

theorem idToDelete_verdict (table : JobsTable) {activeJobIds : List String}
    {entry : Option String × JobRow} (he : entry ∈ table.rows.entries) (key : Option String) :
    (verdict activeJobIds entry).idToDelete = some key ↔
      entry.1 = key ∧ key ∉ activeJobIds.map some ∧ entry.2.jobData ≠ none := by
  have hrow := Dict.get?_of_mem_entries he
  unfold verdict
  by_cases ha : entry.1 ∈ activeJobIds.map some
  · rw [if_pos ha]
    constructor
    · rintro ⟨⟩
    · rintro ⟨rfl, hn, _⟩
      exact absurd ha hn
  · rw [if_neg ha]
    cases hd : entry.2.jobData with
    | none => simp [Verdict.idToDelete]
    | some job =>
      have hown := table.own _ _ job hrow hd
      have hid : ∀ p : Bool, (if !p then Verdict.delete job.jobId
          else .finish { job with state := some .finished }).idToDelete = some job.jobId := by
        intro p
        cases p <;> rfl
      rw [hid, hown]
      constructor
      · rintro ⟨⟩
        exact ⟨rfl, ha, by simp⟩
      · rintro ⟨rfl, _⟩
        rfl

theorem finishedJob_verdict {activeJobIds : List String} {entry : Option String × JobRow}
    {finished : SocaJob} :
    (verdict activeJobIds entry).finishedJob = some finished ↔
      entry.1 ∉ activeJobIds.map some ∧ ∃ job, entry.2.jobData = some job ∧
        job.isProvisioned = true ∧ { job with state := some .finished } = finished := by
  unfold verdict
  by_cases ha : entry.1 ∈ activeJobIds.map some
  · simp only [ha, if_true, not_true_eq_false, false_and, iff_false]
    rintro ⟨⟩
  · rw [if_neg ha]
    cases hd : entry.2.jobData with
    | none => simp [Verdict.finishedJob]
    | some job =>
      cases hp : job.isProvisioned with
      | false => simp [Verdict.finishedJob, hp]
      | true => simp [Verdict.finishedJob, ha, hp]

/-- What one cycle gets to see: the answer of `qselect`, the number of rows read before an
exit is requested, the deletion after which deleting raises, the answers of `qstat` and the
steps that raise. -/
structure CycleContext where
  qselect : Except Raised QselectResult
  rowsRead : ℕ
  failsAfter : Option ℕ
  qstat : ℕ → List (Option String) → QstatResult
  raises : SocaJob → ProcessStep → Bool

/-- One cycle of `_poll_finished_jobs`. -/
def pollFinishedJobs (ctx : CycleContext) (db : JobsDB) : JobsDB :=
  match ctx.qselect with
  | .error _ => db
  | .ok result =>
    let selection :=
      select (OpenPBSQSelect.listJobsIds result) (db.jobs.rows.entries.take ctx.rowsRead)
    processFinishedJobs ctx.qstat ctx.raises selection.finishedJobs
      (deleteJobs ctx.failsAfter selection db)

end FinishedJobProcessor

end Idea

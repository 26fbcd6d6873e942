import Mathlib.Tactic.Tauto
import Idea.JobMonitor.FinishedJobs

/-! # Records of finished jobs

The jobs of a cycle are deleted before they are looked up and processed. So a deleted job is
recorded exactly when its lookup and its processing go through, and nothing is left to retry
for a job whose processing fails after it was deleted.
-/

namespace Idea.FinishedJobProcessor

/-- What a cycle selects when `qselect` gave `result`. -/
def selection (ctx : CycleContext) (result : QselectResult) (db : JobsDB) : Selection :=
  select (OpenPBSQSelect.listJobsIds result) (db.jobs.rows.entries.take ctx.rowsRead)

/-- The lookup of the jobs returns, it finds the job with params and a state, and neither
logging nor recording it raises. -/
def Processed (ctx : CycleContext) (jobs : List SocaJob) (jobId : Option String) : Prop :=
  ∃ found, OpenPBSQStat.listJobs ctx.qstat (jobs.map SocaJob.jobId) = .ok found ∧
    ∃ job ∈ found, job.jobId = jobId ∧ job.params ≠ none ∧ job.state ≠ none ∧
      ctx.raises job .logJobComplete = false ∧ ctx.raises job .publishToFinishedJobsDb = false

/-- Each provisioned job whose row a cycle deletes is recorded as finished. -/
def DeletedRecorded (ctx : CycleContext) (db : JobsDB) : Prop :=
  ∀ jobId row job, db.jobs.rows.get? jobId = some row → row.jobData = some job →
    job.isProvisioned = true → jobId ∉ (pollFinishedJobs ctx db).jobs.rows.keys →
      jobId ∈ (pollFinishedJobs ctx db).finishedJobs.keys

/-- Each job that a cycle finds finished and fails to process keeps its row. -/
def FailedRetried (ctx : CycleContext) (db : JobsDB) : Prop :=
  ∀ result, ctx.qselect = .ok result → ∀ job ∈ (selection ctx result db).finishedJobs,
    ¬ Processed ctx (selection ctx result db).finishedJobs job.jobId →
      job.jobId ∈ (pollFinishedJobs ctx db).jobs.rows.keys

def DeletedProcessed (ctx : CycleContext) (db : JobsDB) : Prop :=
  ∀ result, ctx.qselect = .ok result → ∀ job ∈ (selection ctx result db).finishedJobs,
    job.jobId ∈ deletedIds ctx.failsAfter (selection ctx result db) →
      Processed ctx (selection ctx result db).finishedJobs job.jobId

variable {ctx : CycleContext} {result : QselectResult} {db : JobsDB} {jobId : Option String}

theorem pollFinishedJobs_eq (h : ctx.qselect = .ok result) :
    pollFinishedJobs ctx db =
      withFinished (recordedJobs ctx.qstat ctx.raises (selection ctx result db).finishedJobs)
        (deleteJobs ctx.failsAfter (selection ctx result db) db) := by
  rw [pollFinishedJobs, h]
  exact processFinishedJobs_eq _ _ _ _

theorem mem_keys_pollFinishedJobs (h : ctx.qselect = .ok result) :
    jobId ∈ (pollFinishedJobs ctx db).jobs.rows.keys ↔
      jobId ∉ deletedIds ctx.failsAfter (selection ctx result db) ∧ jobId ∈ db.jobs.rows.keys := by
  have hrows : (pollFinishedJobs ctx db).jobs.rows =
      (db.deleteMany (deletedIds ctx.failsAfter (selection ctx result db))).jobs.rows := by
    rw [pollFinishedJobs_eq h]
    rfl
  rw [hrows, ← Dict.get?_isSome, ← Dict.get?_isSome, JobsDB.get?_rows_deleteMany]
  split
  · simp [*]
  · simp [*]

theorem records_iff {raises : ProcessStep → Bool} {job : SocaJob} :
    ProcessFinishedJob.records raises job = true ↔ job.params ≠ none ∧ job.state ≠ none ∧
      raises .logJobComplete = false ∧ raises .publishToFinishedJobsDb = false := by
  simp only [ProcessFinishedJob.records, Bool.and_eq_true, Bool.not_eq_true', and_assoc,
    Option.isSome_iff_ne_none]
  tauto

theorem exists_mem_recordedJobs {jobs : List SocaJob} (hn : jobs ≠ [])
    (hp : Processed ctx jobs jobId) :
    ∃ job ∈ recordedJobs ctx.qstat ctx.raises jobs, job.jobId = jobId := by
  obtain ⟨found, hl, job, hm, hid, hrecords⟩ := hp
  refine ⟨job, ?_, hid⟩
  rw [recordedJobs, if_neg hn, hl]
  exact List.mem_filter.mpr ⟨hm, records_iff.mpr hrecords⟩

theorem recorded_of_processed (h : ctx.qselect = .ok result)
    (hn : (selection ctx result db).finishedJobs ≠ [])
    (hp : Processed ctx (selection ctx result db).finishedJobs jobId) :
    jobId ∈ (pollFinishedJobs ctx db).finishedJobs.keys := by
  rw [pollFinishedJobs_eq h, withFinished, Dict.mem_keys_foldl_set]
  exact .inr (exists_mem_recordedJobs hn hp)

theorem mem_keys_of_mem_finishedJobs {job : SocaJob}
    (hj : job ∈ (selection ctx result db).finishedJobs) : job.jobId ∈ db.jobs.rows.keys := by
  obtain ⟨entry, he, hv⟩ := List.mem_filterMap.mp hj
  obtain ⟨_, job', hd, _, rfl⟩ := finishedJob_verdict.mp hv
  have hrow := Dict.get?_of_mem_entries (List.mem_of_mem_take he)
  exact db.jobs.own _ _ _ hrow hd ▸ Dict.mem_keys_of_get? hrow

theorem mem_finishedJobs_of_deleted {row : JobRow} {job : SocaJob}
    (hrow : db.jobs.rows.get? jobId = some row) (hd : row.jobData = some job)
    (hp : job.isProvisioned = true)
    (hdel : jobId ∈ (selection ctx result db).jobIdsToDelete) :
    ∃ finished ∈ (selection ctx result db).finishedJobs, finished.jobId = jobId := by
  obtain ⟨entry, he, hv⟩ := List.mem_filterMap.mp hdel
  have hm := List.mem_of_mem_take he
  obtain ⟨hk, ha, _⟩ := (idToDelete_verdict db.jobs hm jobId).mp hv
  have hrow' : db.jobs.rows.get? jobId = some entry.2 := hk ▸ Dict.get?_of_mem_entries hm
  obtain rfl : row = entry.2 := Option.some.inj (hrow.symm.trans hrow')
  have hown : job.jobId = jobId := db.jobs.own jobId entry.2 job hrow hd
  exact ⟨_, List.mem_filterMap.mpr ⟨entry, he, finishedJob_verdict.mpr
    ⟨hk ▸ ha, job, hd, hp, rfl⟩⟩, hown⟩

/-- No provisioned job vanishes and every failed one is retried, exactly when each finished
job that is deleted is found and processed. -/
theorem no_job_vanishes_iff (ctx : CycleContext) (db : JobsDB) :
    DeletedRecorded ctx db ∧ FailedRetried ctx db ↔ DeletedProcessed ctx db := by
  constructor
  · rintro ⟨_, hretried⟩ result h job hj hdel
    by_contra hfail
    have hkept := hretried result h job hj hfail
    exact ((mem_keys_pollFinishedJobs h).mp hkept).1 hdel
  · intro hprocessed
    constructor
    · intro jobId row job hrow hd hp hgone
      have hmem := Dict.mem_keys_of_get? hrow
      cases h : ctx.qselect with
      | error e =>
        rw [pollFinishedJobs, h] at hgone
        exact absurd hmem hgone
      | ok result =>
        have hdel : jobId ∈ deletedIds ctx.failsAfter (selection ctx result db) := by
          by_contra hn
          exact hgone ((mem_keys_pollFinishedJobs h).mpr ⟨hn, hmem⟩)
        obtain ⟨finished, hf, rfl⟩ :=
          mem_finishedJobs_of_deleted hrow hd hp (deletedIds_subset _ _ hdel)
        exact recorded_of_processed h (List.ne_nil_of_mem hf) (hprocessed result h finished hf hdel)
    · intro result h job hj hfail
      refine (mem_keys_pollFinishedJobs h).mpr ⟨fun hdel => ?_, mem_keys_of_mem_finishedJobs hj⟩
      exact hfail (hprocessed result h job hj hdel)

namespace RecordExample

def job : SocaJob :=
  { jobId := some "7", state := some .running, provisioned := some true, params := some {} }

def row : JobRow :=
  { jobGroup := none, desiredCapacity := 1, state := .running, owner := none, queue := none,
    queueProfile := none, provisioned := true, jobData := some job }

def oneJob : JobsDB := { JobsDB.new with jobs := JobsTable.new.upsert job row rfl }

def lookupFails : CycleContext where
  qselect := .ok ⟨0, []⟩
  rowsRead := 1
  failsAfter := none
  qstat := fun _ _ => ⟨1, .ok [], "qstat: cannot connect to server"⟩
  raises := fun _ _ => false

end RecordExample

/-- A job whose lookup raises is in neither table after the cycle. -/
theorem finished_job_vanishes :
    ¬ (DeletedRecorded RecordExample.lookupFails RecordExample.oneJob ∧
      FailedRetried RecordExample.lookupFails RecordExample.oneJob) := by
  rintro ⟨hrecorded, _⟩
  have hmem := hrecorded (some "7") RecordExample.row RecordExample.job rfl rfl rfl
    (by decide)
  revert hmem
  decide

end Idea.FinishedJobProcessor

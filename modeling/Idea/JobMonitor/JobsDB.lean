import Idea.Data.Dict
import Idea.Model.Job

/-! # The tables of the job cache

The job cache keeps the active jobs, the finished jobs, the licenses that active jobs hold
and the errors met while provisioning them. A row of a job carries the columns that queries
read next to the job itself.
-/

namespace Idea

/-- A row of the jobs table. The job is absent when its text is missing, is `NULL` or cannot
be decoded. -/
structure JobRow where
  jobGroup : Option String
  desiredCapacity : ℤ
  state : SocaJobState
  owner : Option String
  queue : Option String
  queueProfile : Option String
  provisioned : Bool
  jobData : Option SocaJob

structure JobsTable where
  rows : Dict (Option String) JobRow
  own : ∀ key row job, rows.get? key = some row → row.jobData = some job → job.jobId = key

/-- The table of active job licenses: the count of a job id and a license name. -/
abbrev LicenseTable : Type := Dict (String × String) ℤ

structure JobsDB where
  jobs : JobsTable
  finishedJobs : Dict (Option String) SocaJob
  activeJobLicenses : LicenseTable
  jobProvisioningErrors : Dict (Option String) (String × String)

namespace JobsTable

def new : JobsTable := ⟨∅, by simp⟩

def upsert (table : JobsTable) (job : SocaJob) (row : JobRow) (h : row.jobData = some job) :
    JobsTable :=
  ⟨table.rows.set job.jobId row, by
    intro key row' job' hr hj
    rw [Dict.get?_set] at hr
    split at hr
    · rename_i hk
      obtain rfl : row = row' := by simpa using hr
      obtain rfl : job = job' := by simpa using h.symm.trans hj
      exact hk.symm
    · exact table.own key row' job' hr hj⟩

def delete (table : JobsTable) (jobId : Option String) : JobsTable :=
  ⟨table.rows.erase jobId, by
    intro key row job hr hj
    rw [Dict.get?_erase] at hr
    split at hr
    · cases hr
    · exact table.own key row job hr hj⟩

/-- The capacity that the active jobs of a group ask for; the absent group is spelled `None` in
the query. -/
def getDesiredCapacity (table : JobsTable) (jobGroup : Option String) : ℤ :=
  ((table.rows.values.filter fun row => row.jobGroup = some (jobGroup.getD "None")).map
    JobRow.desiredCapacity).sum

end JobsTable

def SocaJob.licenseAsks (job : SocaJob) : List SocaJobLicenseAsk :=
  match job.params with
  | none => []
  | some params => params.licenses.getD []

namespace JobsDB

def new : JobsDB := ⟨.new, ∅, ∅, ∅⟩

variable (db : JobsDB)

def jobRow (job : SocaJob) : Except Raised { row : JobRow // row.jobData = some job } := do
  let desiredCapacity ← job.desiredCapacity
  match job.state with
  | none => .error .attributeError
  | some state =>
    .ok ⟨{ jobGroup := job.jobGroup, desiredCapacity, state, owner := job.owner,
           queue := job.queue, queueProfile := job.queueType,
           provisioned := job.isProvisioned, jobData := some job }, rfl⟩

def add (job : SocaJob) : Except Raised JobsDB := do
  let row ← jobRow job
  .ok { db with jobs := db.jobs.upsert job row.1 row.2 }

def addMany (jobs : List SocaJob) : Except Raised JobsDB :=
  jobs.foldlM add db

def addFinishedJob (job : SocaJob) : Except Raised JobsDB := do
  let _ ← jobRow job
  .ok { db with finishedJobs := db.finishedJobs.set job.jobId job }

def dropLicenses (table : LicenseTable) (jobId : Option String) : LicenseTable :=
  (table.keys.filter fun key => some key.1 = jobId).foldl Dict.erase table

def delete (jobId : Option String) : JobsDB :=
  { db with
    jobs := db.jobs.delete jobId
    activeJobLicenses := dropLicenses db.activeJobLicenses jobId
    jobProvisioningErrors := db.jobProvisioningErrors.erase jobId }

def deleteMany (jobIds : List (Option String)) : JobsDB := jobIds.foldl delete db

def addAsk (jobId : String) (table : LicenseTable) (licenseAsk : SocaJobLicenseAsk) :
    LicenseTable :=
  match licenseAsk.name with
  | none => table
  | some name =>
    if isEmptyString (some name) then table
    else if getAsInt licenseAsk.count 0 ≤ 0 then table
    else table.set (jobId, name) (getAsInt licenseAsk.count 0)

def addJobAsks (table : LicenseTable) (job : SocaJob) : LicenseTable :=
  match job.jobId with
  | none => table
  | some jobId =>
    if isEmptyString (some jobId) then table
    else job.licenseAsks.foldl (addAsk jobId) table

def addLicenseAsk (table : LicenseTable) (jobs : List SocaJob) : LicenseTable :=
  jobs.foldl addJobAsks table

/-- The sum of the counts of a license. License names are resource names of the scheduler,
which hold no quote, and the absent name is spelled `None` in the query. -/
def getActiveLicenseCount (table : LicenseTable) (licenseName : Option String) : ℤ :=
  ((table.entries.filter fun row => row.1.2 = licenseName.getD "None").map Prod.snd).sum

variable {db} {db' : JobsDB}

theorem add_eq_ok {job : SocaJob} :
    db.add job = .ok db' ↔
      ∃ row, jobRow job = .ok row ∧ { db with jobs := db.jobs.upsert job row.1 row.2 } = db' := by
  rw [add, Raised.bind_eq_ok]
  simp

@[simp] theorem finishedJobs_deleteMany (jobIds : List (Option String)) :
    (db.deleteMany jobIds).finishedJobs = db.finishedJobs := by
  induction jobIds generalizing db with
  | nil => rfl
  | cons jobId jobIds ih => exact ih

theorem rows_deleteMany (jobIds : List (Option String)) :
    (db.deleteMany jobIds).jobs.rows = jobIds.foldl Dict.erase db.jobs.rows := by
  induction jobIds generalizing db with
  | nil => rfl
  | cons jobId jobIds ih => exact ih

theorem get?_rows_deleteMany (jobIds : List (Option String)) (key : Option String) :
    (db.deleteMany jobIds).jobs.rows.get? key =
      if key ∈ jobIds then none else db.jobs.rows.get? key := by
  rw [rows_deleteMany, Dict.get?_foldl_erase]
  by_cases h : key ∈ jobIds <;> simp [h]

theorem finishedJobs_addMany {jobs : List SocaJob} (h : db.addMany jobs = .ok db') :
    db'.finishedJobs = db.finishedJobs := by
  induction jobs generalizing db with
  | nil =>
    cases h
    rfl
  | cons job jobs ih =>
    rw [addMany, List.foldlM_cons, Raised.bind_eq_ok] at h
    obtain ⟨mid, ha, h⟩ := h
    obtain ⟨row, _, hmid⟩ := add_eq_ok.mp ha
    rw [ih h, ← hmid]

theorem mem_keys_addMany {jobs : List SocaJob} (h : db.addMany jobs = .ok db')
    (key : Option String) :
    key ∈ db'.jobs.rows.keys ↔ key ∈ db.jobs.rows.keys ∨ ∃ job ∈ jobs, job.jobId = key := by
  induction jobs generalizing db with
  | nil =>
    cases h
    simp
  | cons job jobs ih =>
    rw [addMany, List.foldlM_cons, Raised.bind_eq_ok] at h
    obtain ⟨mid, ha, h⟩ := h
    obtain ⟨row, _, rfl⟩ := add_eq_ok.mp ha
    rw [ih h, List.exists_mem_cons_iff, JobsTable.upsert, Dict.mem_keys_set]
    constructor
    · rintro ((rfl | hk) | hk)
      · exact .inr (.inl rfl)
      · exact .inl hk
      · exact .inr (.inr hk)
    · rintro (hk | rfl | hk)
      · exact .inl (.inr hk)
      · exact .inl (.inl rfl)
      · exact .inr hk

end JobsDB

end Idea

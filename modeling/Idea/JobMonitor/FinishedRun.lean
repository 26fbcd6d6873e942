import Idea.System.Run
import Idea.JobMonitor.FinishedJobs

/-! # The finished job processor among job syncs

Jobs are submitted to the scheduler and end there, the job monitor writes the jobs it saw into
the jobs table, and the finished job processor goes through its cycle, all in any order. The
ids of the active jobs are taken before the table is read, so a job that is submitted and
written in between is missing from them.
-/

namespace Idea

open FinishedJobProcessor

inductive CyclePhase where
  | idle
  | listed (activeJobIds : List String)
  | selected (selection : Selection)
  | deleted (finishedJobs : List SocaJob)

/-- The jobs ever submitted, those active in the scheduler, the tables and the processor. -/
structure MonitorState where
  submitted : List String
  active : List String
  db : JobsDB
  phase : CyclePhase

def MonitorState.new : MonitorState := ⟨[], [], .new, .idle⟩

inductive MonitorOp where
  | submit (jobId : String)
  | finish (jobId : String)
  | sync (jobs : List SocaJob)
  | listActive (qselect : Except Raised QselectResult)
  | readTable (rowsRead : ℕ)
  | deleteJobs (failsAfter : Option ℕ)
  | processJobs (qstat : ℕ → List (Option String) → QstatResult)
      (raises : SocaJob → ProcessStep → Bool)

/-- A successful `qselect` prints the active jobs. -/
def ReportsActive (active : List String) (qselect : Except Raised QselectResult) : Prop :=
  ∀ result, qselect = .ok result → result.returncode = 0 →
    ∀ jobId, jobId ∈ OpenPBSQSelect.listJobsIds result ↔ jobId ∈ active

/-- The phase after `qselect`: a cycle in which it raises is skipped. -/
def phaseAfterList : Except Raised QselectResult → CyclePhase
  | .error _ => .idle
  | .ok result => .listed (OpenPBSQSelect.listJobsIds result)

/-- A step of the scheduler, of the job monitor or of the processor. A job id is never used
again, and the monitor writes jobs that it once saw in the scheduler. -/
def MonitorStep (s : MonitorState) : MonitorOp → MonitorState → Prop
  | .submit jobId, s' => jobId ∉ s.submitted ∧
      s' = { s with submitted := jobId :: s.submitted, active := jobId :: s.active }
  | .finish jobId, s' => s' = { s with active := s.active.filter (· ≠ jobId) }
  | .sync jobs, s' => (∀ job ∈ jobs, ∃ jobId ∈ s.submitted, job.jobId = some jobId) ∧
      ∃ db, s.db.addMany jobs = .ok db ∧ s' = { s with db }
  | .listActive qselect, s' => s.phase = .idle ∧ ReportsActive s.active qselect ∧
      s' = { s with phase := phaseAfterList qselect }
  | .readTable rowsRead, s' => ∃ activeJobIds, s.phase = .listed activeJobIds ∧
      s' = { s with phase := .selected (select activeJobIds (s.db.jobs.rows.entries.take rowsRead)) }
  | .deleteJobs failsAfter, s' => ∃ selection, s.phase = .selected selection ∧
      s' = { s with db := FinishedJobProcessor.deleteJobs failsAfter selection s.db,
                    phase := .deleted selection.finishedJobs }
  | .processJobs qstat raises, s' => ∃ jobs, s.phase = .deleted jobs ∧
      OpenPBSQStat.AnswersAsked qstat ∧
      s' = { s with db := processFinishedJobs qstat raises jobs s.db, phase := .idle }

/-- No step deletes the row of an active job or records an active job as finished. -/
def ActiveUntouched (e : Edge MonitorState MonitorOp) : Prop :=
  ∀ jobId ∈ e.pre.active,
    (some jobId ∈ e.pre.db.jobs.rows.keys → some jobId ∈ e.post.db.jobs.rows.keys) ∧
    e.post.db.finishedJobs.get? (some jobId) = e.pre.db.finishedJobs.get? (some jobId)

/-- The ids taken from the scheduler cover the active jobs of the table: `qselect` returns 0,
unless no job of the table is active, and until the table is read no job is written that is
active and not among the ids. -/
def SnapshotCovers (e : Edge MonitorState MonitorOp) : Prop :=
  (∀ result, e.label = .listActive (.ok result) → result.returncode ≠ 0 →
    ∀ jobId ∈ e.pre.active, some jobId ∉ e.pre.db.jobs.rows.keys) ∧
  ∀ jobs activeJobIds, e.label = .sync jobs → e.pre.phase = .listed activeJobIds →
    ∀ job ∈ jobs, ∀ jobId ∈ e.pre.active, job.jobId = some jobId → jobId ∈ activeJobIds

/-- An id that was submitted and is no longer active. -/
def Ended (s : MonitorState) (key : Option String) : Prop :=
  ∃ jobId ∈ s.submitted, key = some jobId ∧ jobId ∉ s.active

/-- What the processor holds in its phase is about jobs that have ended. -/
def PhaseSound (s : MonitorState) : CyclePhase → Prop
  | .idle => True
  | .listed activeJobIds =>
      ∀ jobId ∈ s.active, some jobId ∈ s.db.jobs.rows.keys → jobId ∈ activeJobIds
  | .selected selection => (∀ key ∈ selection.jobIdsToDelete, Ended s key) ∧
      ∀ job ∈ selection.finishedJobs, Ended s job.jobId
  | .deleted jobs => ∀ job ∈ jobs, Ended s job.jobId

structure MonitorSound (s : MonitorState) : Prop where
  active_submitted : s.active ⊆ s.submitted
  rows_submitted : ∀ key ∈ s.db.jobs.rows.keys, ∃ jobId ∈ s.submitted, key = some jobId
  phase : PhaseSound s s.phase

variable {s s' : MonitorState} {op : MonitorOp}

theorem monitorSound_new : MonitorSound .new where
  active_submitted := List.Subset.refl _
  rows_submitted := by
    intro key hk
    exact absurd hk List.not_mem_nil
  phase := trivial

theorem Ended.mono {key : Option String} (h : Ended s key) (hs : s.submitted ⊆ s'.submitted)
    (ha : ∀ jobId ∈ s.submitted, jobId ∈ s'.active → jobId ∈ s.active) : Ended s' key := by
  obtain ⟨jobId, hm, rfl, hn⟩ := h
  exact ⟨jobId, hs hm, rfl, fun hact => hn (ha jobId hm hact)⟩

theorem PhaseSound.mono {phase : CyclePhase} (h : PhaseSound s phase)
    (hs : s.submitted ⊆ s'.submitted)
    (ha : ∀ jobId ∈ s.submitted, jobId ∈ s'.active → jobId ∈ s.active)
    (hr : ∀ key ∈ s'.db.jobs.rows.keys, key ∈ s.db.jobs.rows.keys)
    (hrs : ∀ key ∈ s.db.jobs.rows.keys, ∃ jobId ∈ s.submitted, key = some jobId) :
    PhaseSound s' phase := by
  cases phase with
  | idle => trivial
  | listed activeJobIds =>
    intro jobId hact hrow
    have hrow' := hr _ hrow
    obtain ⟨jobId', hm, heq⟩ := hrs _ hrow'
    obtain rfl : jobId = jobId' := Option.some.inj heq
    exact h jobId (ha jobId hm hact) hrow'
  | selected selection =>
    exact ⟨fun key hk => (h.1 key hk).mono hs ha, fun job hj => (h.2 job hj).mono hs ha⟩
  | deleted jobs => exact fun job hj => (h job hj).mono hs ha

theorem ended_of_verdict (hsound : MonitorSound s) {activeJobIds : List String}
    (hcover : ∀ jobId ∈ s.active, some jobId ∈ s.db.jobs.rows.keys → jobId ∈ activeJobIds)
    {entry : Option String × JobRow} (he : entry ∈ s.db.jobs.rows.entries)
    (ha : entry.1 ∉ activeJobIds.map some) : Ended s entry.1 := by
  have hkey : entry.1 ∈ s.db.jobs.rows.keys := List.mem_map_of_mem he
  obtain ⟨jobId, hm, hid⟩ := hsound.rows_submitted _ hkey
  refine ⟨jobId, hm, hid, fun hact => ha ?_⟩
  rw [hid] at hkey ⊢
  exact List.mem_map_of_mem (hcover jobId hact hkey)

theorem phaseSound_select (hsound : MonitorSound s) {activeJobIds : List String}
    (hcover : ∀ jobId ∈ s.active, some jobId ∈ s.db.jobs.rows.keys → jobId ∈ activeJobIds)
    (rowsRead : ℕ) :
    PhaseSound s (.selected (select activeJobIds (s.db.jobs.rows.entries.take rowsRead))) := by
  constructor
  · intro key hk
    obtain ⟨entry, he, hv⟩ := List.mem_filterMap.mp hk
    have hm := List.mem_of_mem_take he
    obtain ⟨rfl, ha, _⟩ := (idToDelete_verdict s.db.jobs hm key).mp hv
    exact ended_of_verdict hsound hcover hm ha
  · intro finished hf
    obtain ⟨entry, he, hv⟩ := List.mem_filterMap.mp hf
    have hm := List.mem_of_mem_take he
    obtain ⟨ha, job, hd, _, rfl⟩ := finishedJob_verdict.mp hv
    have hown := s.db.jobs.own _ _ _ (Dict.get?_of_mem_entries hm) hd
    exact hown ▸ ended_of_verdict hsound hcover hm ha

theorem phaseSound_listed {qselect : Except Raised QselectResult}
    (hr : ReportsActive s.active qselect)
    (hc : ∀ result, qselect = .ok result → result.returncode ≠ 0 →
      ∀ jobId ∈ s.active, some jobId ∉ s.db.jobs.rows.keys) :
    PhaseSound s (phaseAfterList qselect) := by
  cases qselect with
  | error e => trivial
  | ok result =>
    intro jobId hact hrow
    by_cases hcode : result.returncode = 0
    · exact (hr result rfl hcode jobId).mpr hact
    · exact absurd hrow (hc result rfl hcode jobId hact)

theorem rows_deleteJobs {failsAfter : Option ℕ} {selection : Selection} {key : Option String}
    (hk : key ∈ (FinishedJobProcessor.deleteJobs failsAfter selection s.db).jobs.rows.keys) :
    key ∈ s.db.jobs.rows.keys := by
  obtain ⟨row, hrow⟩ := Dict.exists_get?_of_mem_keys hk
  rw [FinishedJobProcessor.deleteJobs, JobsDB.get?_rows_deleteMany] at hrow
  split at hrow
  · cases hrow
  · exact Dict.mem_keys_of_get? hrow

theorem MonitorStep.sound (hsound : MonitorSound s) (h : MonitorStep s op s')
    (hc : SnapshotCovers ⟨s, op, s'⟩) : MonitorSound s' := by
  obtain ⟨hact, hrows, hphase⟩ := hsound
  cases op with
  | submit jobId =>
    obtain ⟨hfresh, rfl⟩ := h
    have hmono : ∀ jobId' ∈ s.submitted, jobId' ∈ jobId :: s.active → jobId' ∈ s.active := by
      intro jobId' hm hm'
      rcases List.mem_cons.mp hm' with rfl | hm'
      · exact absurd hm hfresh
      · exact hm'
    refine ⟨List.cons_subset_cons jobId hact, fun key hk => ?_, ?_⟩
    · obtain ⟨jobId', hm, hid⟩ := hrows key hk
      exact ⟨jobId', List.mem_cons_of_mem _ hm, hid⟩
    · exact hphase.mono (List.subset_cons_self _ _) hmono (fun _ hk => hk) hrows
  | finish jobId =>
    obtain rfl := h
    refine ⟨fun jobId' hm => hact (List.mem_of_mem_filter hm), hrows, ?_⟩
    exact hphase.mono (List.Subset.refl _) (fun _ _ hm => List.mem_of_mem_filter hm)
      (fun _ hk => hk) hrows
  | sync jobs =>
    obtain ⟨hjobs, db, hadd, rfl⟩ := h
    refine ⟨hact, fun key hk => ?_, ?_⟩
    · rcases (JobsDB.mem_keys_addMany hadd key).mp hk with hk | ⟨job, hj, rfl⟩
      · exact hrows key hk
      · exact hjobs job hj
    · show PhaseSound _ s.phase
      cases hp : s.phase with
      | idle => trivial
      | listed activeJobIds =>
        rw [hp] at hphase
        intro jobId ha hrow
        rcases (JobsDB.mem_keys_addMany hadd _).mp hrow with hk | ⟨job, hj, hid⟩
        · exact hphase jobId ha hk
        · exact hc.2 jobs activeJobIds rfl hp job hj jobId ha hid
      | selected selection =>
        rw [hp] at hphase
        exact hphase
      | deleted jobs =>
        rw [hp] at hphase
        exact hphase
  | listActive qselect =>
    obtain ⟨_, hr, rfl⟩ := h
    refine ⟨hact, hrows, phaseSound_listed hr fun result hq => hc.1 result (hq ▸ rfl)⟩
  | readTable rowsRead =>
    obtain ⟨activeJobIds, hp, rfl⟩ := h
    rw [hp] at hphase
    exact ⟨hact, hrows, phaseSound_select ⟨hact, hrows, hp ▸ hphase⟩ hphase rowsRead⟩
  | deleteJobs failsAfter =>
    obtain ⟨selection, hp, rfl⟩ := h
    rw [hp] at hphase
    exact ⟨hact, fun key hk => hrows key (rows_deleteJobs hk), hphase.2⟩
  | processJobs qstat raises =>
    obtain ⟨jobs, _, _, rfl⟩ := h
    refine ⟨hact, fun key hk => hrows key ?_, trivial⟩
    rwa [processFinishedJobs_eq] at hk

theorem Ended.not_active {jobId : String} (h : Ended s (some jobId)) : jobId ∉ s.active := by
  obtain ⟨jobId', _, heq, hn⟩ := h
  exact Option.some.inj heq ▸ hn

theorem MonitorStep.activeUntouched (hsound : MonitorSound s) (h : MonitorStep s op s') :
    ActiveUntouched ⟨s, op, s'⟩ := by
  intro jobId hact
  cases op with
  | submit => exact h.2 ▸ ⟨id, rfl⟩
  | finish => exact h ▸ ⟨id, rfl⟩
  | sync jobs =>
    obtain ⟨_, db, hadd, rfl⟩ := h
    constructor
    · exact fun hk => (JobsDB.mem_keys_addMany hadd _).mpr (.inl hk)
    · exact congrArg (fun table => table.get? (some jobId)) (JobsDB.finishedJobs_addMany hadd)
  | listActive => exact h.2.2 ▸ ⟨id, rfl⟩
  | readTable =>
    obtain ⟨_, _, rfl⟩ := h
    exact ⟨id, rfl⟩
  | deleteJobs failsAfter =>
    obtain ⟨selection, hp, rfl⟩ := h
    have hphase : PhaseSound s (.selected selection) := hp ▸ hsound.phase
    constructor
    · intro hk
      rw [← Dict.get?_isSome, FinishedJobProcessor.deleteJobs, JobsDB.get?_rows_deleteMany,
        if_neg, Dict.get?_isSome]
      · exact hk
      · intro hdel
        exact (hphase.1 _ (deletedIds_subset _ _ hdel)).not_active hact
    · exact congrArg (fun table => table.get? (some jobId)) (JobsDB.finishedJobs_deleteMany _)
  | processJobs qstat raises =>
    obtain ⟨jobs, hp, hasked, rfl⟩ := h
    have hphase : PhaseSound s (.deleted jobs) := hp ▸ hsound.phase
    constructor
    · rw [processFinishedJobs_eq]
      exact id
    · rw [processFinishedJobs_eq]
      refine Dict.get?_foldl_set_of_ne _ _ _ fun job hj heq => ?_
      obtain ⟨asked, hm, hid⟩ := jobId_of_mem_recordedJobs hasked hj
      exact ((hid.trans heq) ▸ hphase asked hm).not_active hact

/-- In every run whose snapshots cover the active jobs, none of them is deleted or recorded. -/
theorem active_jobs_untouched {t : List (Edge MonitorState MonitorOp)} {s : MonitorState}
    (h : Run MonitorStep .new t s) (hc : ∀ e ∈ t, SnapshotCovers e) :
    ∀ e ∈ t, ActiveUntouched e :=
  h.forall_edges_of MonitorSound monitorSound_new (fun hs hstep hc => hstep.sound hs hc) hc
    fun hs hstep _ => hstep.activeUntouched hs

namespace RaceExample

def job : SocaJob := { jobId := some "7", state := some .queued, params := some {} }

def row : JobRow :=
  { jobGroup := none, desiredCapacity := 1, state := .queued, owner := none, queue := none,
    queueProfile := none, provisioned := false, jobData := some job }

def stored (phase : CyclePhase) : MonitorState :=
  ⟨["7"], ["7"], { JobsDB.new with jobs := JobsTable.new.upsert job row rfl }, phase⟩

theorem sync_stored (phase : CyclePhase) :
    MonitorStep ⟨["7"], ["7"], .new, phase⟩ (.sync [job]) (stored phase) := by
  refine ⟨?_, (stored phase).db, rfl, rfl⟩
  intro j hj
  obtain rfl := List.mem_singleton.mp hj
  exact ⟨"7", List.mem_singleton_self _, rfl⟩

/-- The job is written before the ids are taken, which then hold it. -/
theorem stored_job_untouched :
    ActiveUntouched ⟨stored .idle, .listActive (.ok ⟨0, ["7.head"]⟩), stored (.listed ["7"])⟩ := by
  have hsubmit : MonitorStep .new (.submit "7") ⟨["7"], ["7"], .new, .idle⟩ :=
    ⟨List.not_mem_nil, rfl⟩
  have hlist : MonitorStep (stored .idle) (.listActive (.ok ⟨0, ["7.head"]⟩))
      (stored (.listed ["7"])) := by
    refine ⟨rfl, ?_, rfl⟩
    rintro result ⟨⟩ _ jobId
    exact Iff.rfl
  refine active_jobs_untouched (((Run.single hsubmit).snoc (sync_stored _)).snoc hlist) ?_ _
    (List.mem_append_right _ (List.mem_singleton_self _))
  intro e he
  simp only [List.mem_append, List.mem_singleton] at he
  rcases he with (rfl | rfl) | rfl
  · exact ⟨by rintro _ ⟨⟩, by rintro _ _ ⟨⟩⟩
  · refine ⟨by rintro _ ⟨⟩, ?_⟩
    rintro _ _ _ ⟨⟩
  · refine ⟨?_, by rintro _ _ ⟨⟩⟩
    rintro _ ⟨⟩ hcode
    exact absurd rfl hcode

end RaceExample

namespace RaceExample

def listing : Except Raised QselectResult := .ok ⟨0, []⟩

theorem listed_before_stored : Run MonitorStep .new
    [⟨.new, .listActive listing, ⟨[], [], .new, .listed []⟩⟩,
      ⟨⟨[], [], .new, .listed []⟩, .submit "7", ⟨["7"], ["7"], .new, .listed []⟩⟩,
      ⟨⟨["7"], ["7"], .new, .listed []⟩, .sync [job], stored (.listed [])⟩]
    (stored (.listed [])) := by
  have hlist : MonitorStep .new (.listActive listing) ⟨[], [], .new, .listed []⟩ := by
    refine ⟨rfl, ?_, rfl⟩
    rintro result ⟨⟩ _ jobId
    exact Iff.rfl
  have hsubmit : MonitorStep ⟨[], [], .new, .listed []⟩ (.submit "7")
      ⟨["7"], ["7"], .new, .listed []⟩ := ⟨List.not_mem_nil, rfl⟩
  exact ((Run.single hlist).snoc hsubmit).snoc (sync_stored _)

end RaceExample

/-- A job that is submitted and written after the snapshot is deleted while it is active. -/
theorem active_job_deleted :
    ¬ ∀ t s, Run MonitorStep .new t s → ∀ e ∈ t, ActiveUntouched e := by
  intro h
  have hread : MonitorStep (RaceExample.stored (.listed [])) (.readTable 1)
      (RaceExample.stored (.selected ⟨[some "7"], []⟩)) := ⟨[], rfl, rfl⟩
  have hdelete : MonitorStep (RaceExample.stored (.selected ⟨[some "7"], []⟩))
      (.deleteJobs none) _ := ⟨_, rfl, rfl⟩
  have hkept := h _ _ ((RaceExample.listed_before_stored.snoc hread).snoc hdelete) _
    (List.mem_append_right _ (List.mem_singleton_self _)) "7" (by decide)
  exact absurd (hkept.1 (by decide)) (by decide)

end Idea

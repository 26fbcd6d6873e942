import Idea.Model.Job

/-! # Synchronizing queued jobs

For a queue with new jobs the monitor lists the ids of the queued jobs in rounds. In a round the ids
that were not looked at yet are looked up in the job cache, and those that it does not have are
fetched from the scheduler. Jobs may come and go between two listings, and whether there is another
round depends on the numbers of ids alone.
-/

namespace Idea

namespace QueuedSync

/-- What the loop asks for: the listings one after the other, and in each round the job cache, the
scheduler and the calls that the jobs are handed to. -/
structure Answers where
  listing : ℕ → List String
  getJob : ℕ → String → Option SocaJob
  listJobs : ℕ → List String → Except Raised (List SocaJob)
  sync : ℕ → List SocaJob → Except Raised Unit
  submitToProvisioningQueue : ℕ → List SocaJob → Except Raised Unit

/-- A cached job has the id that it is looked up by, and the scheduler answers about the jobs that
it is asked for. -/
structure Answers.Lawful (answers : Answers) : Prop where
  cached : ∀ round jobId job, answers.getJob round jobId = some job → job.jobId = some jobId
  asked : ∀ round jobIds jobs, answers.listJobs round jobIds = .ok jobs →
    ∀ job ∈ jobs, ∃ jobId ∈ jobIds, job.jobId = some jobId

/-- The variables of the inner loop of a round. -/
structure Looked where
  processedJobs : List String
  existingJobs : List SocaJob := []
  jobIdsToFetch : List String := []

def lookAt (getJob : String → Option SocaJob) : List String → Looked → Looked
  | [], looked => looked
  | queuedJobId :: queuedJobIds, looked =>
    if queuedJobId ∈ looked.processedJobs then lookAt getJob queuedJobIds looked
    else
      let processedJobs := looked.processedJobs ++ [queuedJobId]
      match getJob queuedJobId with
      | some job => lookAt getJob queuedJobIds
          { looked with processedJobs, existingJobs := looked.existingJobs ++ [job] }
      | none => lookAt getJob queuedJobIds
          { looked with processedJobs, jobIdsToFetch := looked.jobIdsToFetch ++ [queuedJobId] }

/-- The loop between two rounds: the number of listings before the current one, what was looked at
and which jobs were handed on. -/
structure State where
  round : ℕ := 0
  processedJobs : List String := []
  submitted : List SocaJob := []

/-- How a round ends: with the next listing, or with the loop. -/
inductive Turn where
  | again (state : State)
  | stop (state : State)

def Turn.state : Turn → State
  | .again state => state
  | .stop state => state

def turn (answers : Answers) (state : State) : Except Raised Turn :=
  let looked := lookAt (answers.getJob state.round) (answers.listing state.round)
    { processedJobs := state.processedJobs }
  if looked.jobIdsToFetch = [] then .ok (.stop state)
  else do
    let queuedJobs ← answers.listJobs state.round looked.jobIdsToFetch
    answers.sync state.round queuedJobs
    answers.submitToProvisioningQueue state.round (queuedJobs ++ looked.existingJobs)
    let state : State :=
      { round := state.round + 1
        processedJobs := looked.processedJobs
        submitted := state.submitted ++ (queuedJobs ++ looked.existingJobs) }
    if state.processedJobs.length < (answers.listing state.round).length then .ok (.again state)
    else .ok (.stop state)

def rounds (answers : Answers) : ℕ → State → Option (Except Raised State)
  | 0, _ => none
  | fuel + 1, state =>
    match turn answers state with
    | .error e => some (.error e)
    | .ok (.stop state) => some (.ok state)
    | .ok (.again state) => rounds answers fuel state

def syncQueued (answers : Answers) (fuel : ℕ) : Option (Except Raised State) :=
  if answers.listing 0 = [] then some (.ok {}) else rounds answers fuel {}

section Looked

variable {getJob : String → Option SocaJob} {queuedJobIds : List String} {looked : Looked}

theorem mem_processedJobs_lookAt {jobId : String} :
    jobId ∈ (lookAt getJob queuedJobIds looked).processedJobs ↔
      jobId ∈ looked.processedJobs ∨ jobId ∈ queuedJobIds := by
  induction queuedJobIds generalizing looked with
  | nil => simp [lookAt]
  | cons queuedJobId queuedJobIds ih =>
    rw [lookAt]
    split
    · rename_i hseen
      rw [ih, List.mem_cons]
      constructor
      · rintro (h | h)
        · exact .inl h
        · exact .inr (.inr h)
      · rintro (h | rfl | h)
        · exact .inl h
        · exact .inl hseen
        · exact .inr h
    · split <;> rw [ih] <;> simp [or_assoc]

theorem mem_existingJobs_lookAt {job : SocaJob} :
    job ∈ (lookAt getJob queuedJobIds looked).existingJobs ↔ job ∈ looked.existingJobs ∨
      ∃ jobId ∈ queuedJobIds, jobId ∉ looked.processedJobs ∧ getJob jobId = some job := by
  induction queuedJobIds generalizing looked with
  | nil => simp [lookAt]
  | cons queuedJobId queuedJobIds ih =>
    rw [lookAt, List.exists_mem_cons_iff]
    split
    · rename_i hseen
      rw [ih]
      simp [hseen]
    · rename_i hseen
      split
      · rename_i found hfound
        rw [ih]
        simp only [List.mem_append, List.mem_singleton, not_or]
        constructor
        · rintro ((h | rfl) | ⟨jobId, hmem, ⟨hnot, -⟩, hjob⟩)
          · exact .inl h
          · exact .inr (.inl ⟨hseen, hfound⟩)
          · exact .inr (.inr ⟨jobId, hmem, hnot, hjob⟩)
        · rintro (h | ⟨-, hjob⟩ | ⟨jobId, hmem, hnot, hjob⟩)
          · exact .inl (.inl h)
          · exact .inl (.inr (Option.some.inj (hjob.symm.trans hfound)))
          · by_cases hsame : jobId = queuedJobId
            · subst hsame
              exact .inl (.inr (Option.some.inj (hjob.symm.trans hfound)))
            · exact .inr ⟨jobId, hmem, ⟨hnot, hsame⟩, hjob⟩
      · rename_i hnone
        rw [ih]
        simp only [List.mem_append, List.mem_singleton, not_or]
        constructor
        · rintro (h | ⟨jobId, hmem, ⟨hnot, -⟩, hjob⟩)
          · exact .inl h
          · exact .inr (.inr ⟨jobId, hmem, hnot, hjob⟩)
        · rintro (h | ⟨-, hjob⟩ | ⟨jobId, hmem, hnot, hjob⟩)
          · exact .inl h
          · rw [hnone] at hjob
            cases hjob
          · refine .inr ⟨jobId, hmem, ⟨hnot, ?_⟩, hjob⟩
            rintro rfl
            rw [hnone] at hjob
            cases hjob

theorem jobIdsToFetch_lookAt :
    (lookAt getJob queuedJobIds looked).jobIdsToFetch = looked.jobIdsToFetch ++
      (queuedJobIds.filter fun jobId =>
        jobId ∉ looked.processedJobs ∧ getJob jobId = none).eraseDups := by
  induction queuedJobIds generalizing looked with
  | nil => simp [lookAt]
  | cons queuedJobId queuedJobIds ih =>
    rw [lookAt]
    split
    · rename_i hseen
      rw [ih, List.filter_cons_of_neg]
      simp [hseen]
    · rename_i hseen
      split
      · rename_i found hfound
        rw [ih, List.filter_cons_of_neg (by simp [hfound])]
        congr 2
        apply List.filter_congr
        intro jobId _
        by_cases hsame : jobId = queuedJobId
        · subst hsame
          simp [hfound]
        · simp [hsame]
      · rename_i hnone
        rw [ih, List.filter_cons_of_pos (by simp [hseen, hnone]), List.eraseDups_cons,
          List.filter_filter, List.append_assoc, List.singleton_append]
        congr 3
        apply List.filter_congr
        intro jobId _
        by_cases hsame : jobId = queuedJobId
        · subst hsame
          simp
        · simp [hsame]

end Looked

def earlier (answers : Answers) (round : ℕ) : List String :=
  (List.range round).flatMap answers.listing

def unknown (answers : Answers) (round : ℕ) : List String :=
  ((answers.listing round).filter fun jobId =>
    jobId ∉ earlier answers round ∧ answers.getJob round jobId = none).eraseDups

/-- The job is in the cache, or in what the scheduler answers. -/
def Found (answers : Answers) (round : ℕ) (jobId : String) : Prop :=
  (∃ job, answers.getJob round jobId = some job) ∨
    ∃ jobs, answers.listJobs round (unknown answers round) = .ok jobs ∧
      ∃ job ∈ jobs, job.jobId = some jobId

/-- The job was listed before the last listing and found when it first was. -/
def FoundBefore (answers : Answers) (last : ℕ) (jobId : String) : Prop :=
  ∃ round < last, jobId ∈ answers.listing round ∧ jobId ∉ earlier answers round ∧
    Found answers round jobId

/-- Every job of the last listing was handed on. -/
def Complete (answers : Answers) (state : State) : Prop :=
  ∀ jobId ∈ answers.listing state.round, ∃ job ∈ state.submitted, job.jobId = some jobId

structure Invariant (answers : Answers) (state : State) : Prop where
  processed : ∀ jobId, jobId ∈ state.processedJobs ↔ jobId ∈ earlier answers state.round
  submitted : ∀ jobId, (∃ job ∈ state.submitted, job.jobId = some jobId) ↔
    FoundBefore answers state.round jobId

variable {answers : Answers} {state state' : State}

theorem mem_earlier_succ {round : ℕ} {jobId : String} : jobId ∈ earlier answers (round + 1) ↔
    jobId ∈ earlier answers round ∨ jobId ∈ answers.listing round := by
  simp [earlier, List.range_succ]

theorem foundBefore_succ {last : ℕ} {jobId : String} : FoundBefore answers (last + 1) jobId ↔
    FoundBefore answers last jobId ∨ jobId ∈ answers.listing last ∧
      jobId ∉ earlier answers last ∧ Found answers last jobId := by
  constructor
  · rintro ⟨round, hround, h⟩
    rcases Nat.lt_succ_iff_lt_or_eq.mp hround with hlt | rfl
    · exact .inl ⟨round, hlt, h⟩
    · exact .inr h
  · rintro (⟨round, hround, h⟩ | h)
    · exact ⟨round, Nat.lt_succ_of_lt hround, h⟩
    · exact ⟨last, Nat.lt_succ_self last, h⟩

theorem mem_unknown {round : ℕ} {jobId : String} : jobId ∈ unknown answers round ↔
    jobId ∈ answers.listing round ∧ jobId ∉ earlier answers round ∧
      answers.getJob round jobId = none := by
  simp [unknown, List.mem_eraseDups]

theorem Invariant.jobIdsToFetch (h : Invariant answers state) :
    (lookAt (answers.getJob state.round) (answers.listing state.round)
      { processedJobs := state.processedJobs }).jobIdsToFetch = unknown answers state.round := by
  rw [jobIdsToFetch_lookAt, List.nil_append, unknown]
  congr 1
  apply List.filter_congr
  intro jobId _
  simp [h.processed]

theorem Invariant.found (h : Invariant answers state) (hlawful : answers.Lawful)
    {queuedJobs : List SocaJob}
    (hqueued : answers.listJobs state.round (unknown answers state.round) = .ok queuedJobs)
    (jobId : String) :
    (∃ job ∈ queuedJobs ++ (lookAt (answers.getJob state.round) (answers.listing state.round)
        { processedJobs := state.processedJobs }).existingJobs, job.jobId = some jobId) ↔
      jobId ∈ answers.listing state.round ∧ jobId ∉ earlier answers state.round ∧
        Found answers state.round jobId := by
  constructor
  · rintro ⟨job, hmem, hid⟩
    rcases List.mem_append.mp hmem with hmem | hmem
    · obtain ⟨asked, hasked, hasked'⟩ := hlawful.asked _ _ _ hqueued job hmem
      obtain rfl := Option.some.inj (hid.symm.trans hasked')
      obtain ⟨hlisted, hnew, -⟩ := mem_unknown.mp hasked
      exact ⟨hlisted, hnew, .inr ⟨queuedJobs, hqueued, job, hmem, hid⟩⟩
    · rcases mem_existingJobs_lookAt.mp hmem with hmem | ⟨cached, hlisted, hnew, hjob⟩
      · cases hmem
      · obtain rfl := Option.some.inj (hid.symm.trans (hlawful.cached _ _ _ hjob))
        exact ⟨hlisted, fun hearlier => hnew ((h.processed jobId).mpr hearlier), .inl ⟨job, hjob⟩⟩
  · rintro ⟨hlisted, hnew, ⟨job, hjob⟩ | ⟨jobs, hjobs, job, hmem, hid⟩⟩
    · refine ⟨job, List.mem_append_right _ (mem_existingJobs_lookAt.mpr (.inr ?_)),
        hlawful.cached _ _ _ hjob⟩
      exact ⟨jobId, hlisted, fun hseen => hnew ((h.processed jobId).mp hseen), hjob⟩
    · obtain rfl := Except.ok.inj (hqueued.symm.trans hjobs)
      exact ⟨job, List.mem_append_left _ hmem, hid⟩

theorem invariant_initial : Invariant answers {} := by
  constructor
  · intro jobId
    simp [earlier]
  · intro jobId
    constructor
    · rintro ⟨job, hmem, -⟩
      cases hmem
    · rintro ⟨round, hround, -⟩
      exact absurd hround (Nat.not_lt_zero round)

theorem Invariant.turn (h : Invariant answers state) (hlawful : answers.Lawful) {next : Turn}
    (hturn : turn answers state = .ok next) : Invariant answers next.state := by
  unfold QueuedSync.turn at hturn
  dsimp only at hturn
  split at hturn
  · obtain rfl := Except.ok.inj hturn
    exact h
  · obtain ⟨queuedJobs, hqueued, hturn⟩ := Raised.bind_eq_ok.mp hturn
    obtain ⟨_, -, hturn⟩ := Raised.bind_eq_ok.mp hturn
    obtain ⟨_, -, hturn⟩ := Raised.bind_eq_ok.mp hturn
    rw [h.jobIdsToFetch] at hqueued
    have hnext : Invariant answers
        { round := state.round + 1
          processedJobs := (lookAt (answers.getJob state.round) (answers.listing state.round)
            { processedJobs := state.processedJobs }).processedJobs
          submitted := state.submitted ++ (queuedJobs ++
            (lookAt (answers.getJob state.round) (answers.listing state.round)
              { processedJobs := state.processedJobs }).existingJobs) } := by
      constructor
      · intro jobId
        rw [mem_processedJobs_lookAt, mem_earlier_succ, h.processed]
      · intro jobId
        have hsplit : ∀ later : List SocaJob,
            (∃ job ∈ state.submitted ++ later, job.jobId = some jobId) ↔
              (∃ job ∈ state.submitted, job.jobId = some jobId) ∨
                ∃ job ∈ later, job.jobId = some jobId := by
          intro later
          simp only [List.mem_append, or_and_right, exists_or]
        rw [hsplit, foundBefore_succ, h.submitted, h.found hlawful hqueued jobId]
    split at hturn
    · obtain rfl := Except.ok.inj hturn
      exact hnext
    · obtain rfl := Except.ok.inj hturn
      exact hnext

theorem Invariant.rounds (hlawful : answers.Lawful) {fuel : ℕ} (h : Invariant answers state)
    (hrun : rounds answers fuel state = some (.ok state')) : Invariant answers state' := by
  induction fuel generalizing state with
  | zero => cases hrun
  | succ fuel ih =>
    rw [QueuedSync.rounds] at hrun
    cases hturn : QueuedSync.turn answers state with
    | error e =>
      rw [hturn] at hrun
      cases hrun
    | ok next =>
      have hnext := h.turn hlawful hturn
      rw [hturn] at hrun
      cases next with
      | stop last =>
        obtain rfl := Except.ok.inj (Option.some.inj hrun)
        exact hnext
      | again middle => exact ih hnext hrun

/-- The loop has handed on every job of the last listing exactly when each was listed before and
was found when it first was. -/
theorem complete_iff (hlawful : answers.Lawful) {fuel : ℕ}
    (h : syncQueued answers fuel = some (.ok state)) :
    Complete answers state ↔
      ∀ jobId ∈ answers.listing state.round, FoundBefore answers state.round jobId := by
  have hstate : Invariant answers state := by
    unfold syncQueued at h
    split at h
    · obtain rfl := Except.ok.inj (Option.some.inj h)
      exact invariant_initial
    · exact invariant_initial.rounds hlawful h
  exact forall₂_congr fun jobId _ => hstate.submitted jobId

def fetching (listing : ℕ → List String) : Answers where
  listing := listing
  getJob _ _ := none
  listJobs _ jobIds := .ok (jobIds.map fun jobId => { jobId := some jobId })
  sync _ _ := .ok ()
  submitToProvisioningQueue _ _ := .ok ()

theorem lawful_fetching (listing : ℕ → List String) : (fetching listing).Lawful where
  cached := by rintro _ _ _ ⟨⟩
  asked := by
    rintro _ jobIds _ ⟨⟩ job hmem
    obtain ⟨jobId, hjob, rfl⟩ := List.mem_map.mp hmem
    exact ⟨jobId, hjob, rfl⟩

/-- A job that stays listed is handed on. -/
theorem complete_staying :
    ∃ state, syncQueued (fetching fun _ => ["1"]) 2 = some (.ok state) ∧
      Complete (fetching fun _ => ["1"]) state := by
  have hrun : syncQueued (fetching fun _ => ["1"]) 2 = some (.ok ⟨1, ["1"], [{ jobId := "1" }]⟩) :=
    rfl
  refine ⟨_, hrun, (complete_iff (lawful_fetching _) hrun).mpr ?_⟩
  intro jobId hmem
  exact ⟨0, Nat.one_pos, hmem, List.not_mem_nil, .inr ⟨_, rfl, _, List.mem_cons_self,
    congrArg some (List.mem_singleton.mp hmem).symm⟩⟩

/-- A job that comes as another goes is not looked at. -/
theorem not_complete_replaced :
    ∃ state, syncQueued (fetching fun round => if round = 0 then ["1"] else ["2"]) 2 =
        some (.ok state) ∧
      ¬ Complete (fetching fun round => if round = 0 then ["1"] else ["2"]) state := by
  refine ⟨_, rfl, ?_⟩
  intro hcomplete
  obtain ⟨job, hmem, hid⟩ := hcomplete "2" List.mem_cons_self
  obtain rfl := List.mem_singleton.mp hmem
  exact absurd hid (by decide)

end QueuedSync

end Idea

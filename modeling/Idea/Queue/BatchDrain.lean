import Mathlib.Algebra.Order.BigOperators.Group.List
import Mathlib.Algebra.Order.Group.Nat
import Idea.JobMonitor.FinishedJobs
import Idea.Queue.Balance

/-! # Draining a batch queue

Jobs are taken from the provisioning queue into one batch for each job group until the queue is
empty. Then the scheduler is asked how many jobs to expect of each group: a batch that holds more
is reset, and as long as jobs are missing the queue is drained again. Other components work on the
queue all the time.
-/

namespace Idea

def OpenPBSQSelect.getCount (result : QselectResult) : ℕ := (listJobsIds result).length

namespace BatchDrain

abbrev Batches : Type := Dict String (Dict (Option String) SocaJob)

namespace Batches

def find (batches : Batches) (jobGroup : String) (jobId : Option String) : Option SocaJob :=
  (batches.get? jobGroup).bind fun jobs => jobs.get? jobId

def take (digest : String → String) (batches : Batches) (job : SocaJob) :
    Except Raised Batches :=
  if job.isProvisioned then .ok batches
  else do
    let jobGroup ← job.getJobGroup digest
    let jobs := (batches.get? jobGroup).getD ∅
    .ok (batches.set jobGroup (jobs.set job.jobId job))

def checkGroup (select : String → Except Raised QselectResult) (progress : Batches × ℕ)
    (group : String × Dict (Option String) SocaJob) : Except Raised (Batches × ℕ) := do
  let result ← select group.1
  let expectedBatchSize := OpenPBSQSelect.getCount result
  let batches := if expectedBatchSize < group.2.size then progress.1.set group.1 ∅ else progress.1
  .ok (batches, progress.2 + expectedBatchSize)

def totalJobs (batches : Batches) : ℕ := (batches.values.map Dict.size).sum

def check (select : String → Except Raised QselectResult) (batches : Batches) :
    Except Raised (Batches × Bool) := do
  let (batches, jobsToBeProvisioned) ← batches.entries.foldlM (checkGroup select) (batches, 0)
  .ok (batches, batches.totalJobs < jobsToBeProvisioned)

end Batches

/-- Where the loops stand: the outer one looks at the exit event, the inner one gets jobs, and
then the scheduler is asked. -/
inductive Phase where
  | checking | collecting | selecting | returned
  | raised (e : Raised)

structure State where
  queue : JobProvisioningQueue
  batches : Batches
  phase : Phase

def start (queue : JobProvisioningQueue) : State := ⟨queue, ∅, .checking⟩

namespace State

variable (self : State)

def result : Dict String (List SocaJob) :=
  self.batches.filterMap fun _ jobs => some jobs.values

def collectJob (digest : String → String) (job : SocaJob) : State :=
  match self.batches.take digest job with
  | .ok batches => { self with batches }
  | .error e => { self with phase := .raised e }

/-- What the inner loop does after a turn of `get`, which may go on by itself. A queue that was
stopped gives no job, and a queue that is blocked counts as empty. -/
def collect (digest : String → String) (event : JobProvisioningQueue.GetEvent) : State :=
  match event with
  | .took _ (.returned job) => self.collectJob digest job
  | .took _ .missing | .took _ (.notQueued _) | .took _ (.limited .notOk) => self
  | .took _ (.raised e) => if event.continues then self else { self with phase := .raised e }
  | .empty | .took _ (.limited _) => { self with phase := .selecting }
  | .stopped => { self with phase := .raised .attributeError }

def ask (select : String → Except Raised QselectResult) : State :=
  match self.batches.check select with
  | .error e => { self with phase := .raised e }
  | .ok (batches, more) =>
    { self with batches, phase := if more then .checking else .returned }

end State

/-- The steps of a drain, and the operations of other components on the queue. -/
inductive Operation where
  | checkExit (exit : Bool)
  | getTurn (ctx : GetContext) (event : JobProvisioningQueue.GetEvent)
  | select (answers : String → Except Raised QselectResult)
  | other (op : JobProvisioningQueue.Operation)

def Step (self : State) : Operation → State → Prop
  | .checkExit exit, self' => self.phase = .checking ∧
      self' = { self with phase := if exit then .returned else .collecting }
  | .getTurn ctx event, self' => self.phase = .collecting ∧
      ∃ queue, self.queue.getTurn ctx = some (queue, event) ∧
        self' = State.collect { self with queue } ctx.digest event
  | .select answers, self' => self.phase = .selecting ∧ self' = self.ask answers
  | .other op, self' => ∃ queue, JobProvisioningQueue.Step self.queue op queue ∧
      self' = { self with queue }

/-! ## Batches -/

variable {jobGroup : String}

namespace Batches

variable {batches batches' : Batches} {select : String → Except Raised QselectResult}

theorem find_take {digest : String → String} {job : SocaJob}
    (h : batches.take digest job = .ok batches') (hprovisioned : job.isProvisioned = false) :
    ∃ jobGroup, job.getJobGroup digest = .ok jobGroup ∧ ∀ jobGroup' jobId,
      batches'.find jobGroup' jobId =
        if jobGroup' = jobGroup ∧ jobId = job.jobId then some job
        else batches.find jobGroup' jobId := by
  rw [take, if_neg (by simp [hprovisioned]), Raised.bind_eq_ok] at h
  obtain ⟨jobGroup, hgroup, h⟩ := h
  obtain rfl := Except.ok.inj h
  refine ⟨jobGroup, hgroup, fun jobGroup' jobId => ?_⟩
  by_cases hg : jobGroup' = jobGroup
  · subst hg
    by_cases hid : jobId = job.jobId
    · simp [find, Dict.get?_set, hid]
    · cases hjobs : batches.get? jobGroup' with
      | none => simp [find, Dict.get?_set, hjobs, hid]
      | some jobs => simp [find, Dict.get?_set, hjobs, hid]
  · simp [find, hg]

def expectedBatchSize (select : String → Except Raised QselectResult) (jobGroup : String) : ℕ :=
  match select jobGroup with
  | .ok result => OpenPBSQSelect.getCount result
  | .error _ => 0

theorem checkGroup_eq_ok {progress progress' : Batches × ℕ}
    {group : String × Dict (Option String) SocaJob}
    (h : checkGroup select progress group = .ok progress') :
    (∃ result, select group.1 = .ok result) ∧
      progress' = (if expectedBatchSize select group.1 < group.2.size then
          progress.1.set group.1 ∅ else progress.1,
        progress.2 + expectedBatchSize select group.1) := by
  obtain ⟨result, hselect, h⟩ := Raised.bind_eq_ok.mp h
  obtain rfl := Except.ok.inj h
  simp [hselect, expectedBatchSize]

/-- A group with more jobs than the scheduler lists. -/
def Exceeds (select : String → Except Raised QselectResult)
    (groups : List (String × Dict (Option String) SocaJob)) (jobGroup : String) : Prop :=
  ∃ jobs, (jobGroup, jobs) ∈ groups ∧ expectedBatchSize select jobGroup < jobs.size

theorem exceeds_cons {group : String × Dict (Option String) SocaJob}
    {groups : List (String × Dict (Option String) SocaJob)} :
    Exceeds select (group :: groups) jobGroup ↔
      (group.1 = jobGroup ∧ expectedBatchSize select group.1 < group.2.size) ∨
        Exceeds select groups jobGroup := by
  simp only [Exceeds, List.mem_cons, or_and_right, exists_or]
  refine or_congr_left ⟨?_, ?_⟩
  · rintro ⟨jobs, rfl, hlt⟩
    exact ⟨rfl, hlt⟩
  · rintro ⟨rfl, hlt⟩
    exact ⟨group.2, rfl, hlt⟩

theorem foldlM_checkGroup {groups : List (String × Dict (Option String) SocaJob)}
    {progress progress' : Batches × ℕ}
    (h : groups.foldlM (checkGroup select) progress = .ok progress')
    (hkeys : groups.map Prod.fst ⊆ progress.1.keys) :
    (∀ group ∈ groups, ∃ result, select group.1 = .ok result) ∧
      progress'.1.keys = progress.1.keys ∧
      progress'.2 = progress.2 + (groups.map fun group => expectedBatchSize select group.1).sum ∧
      ∀ jobGroup, (Exceeds select groups jobGroup → progress'.1.get? jobGroup = some ∅) ∧
        (¬ Exceeds select groups jobGroup →
          progress'.1.get? jobGroup = progress.1.get? jobGroup) := by
  induction groups generalizing progress with
  | nil =>
    obtain rfl : progress = progress' := Except.ok.inj h
    simp [Exceeds]
  | cons group groups ih =>
    rw [List.foldlM_cons, Raised.bind_eq_ok] at h
    obtain ⟨mid, hmid, h⟩ := h
    obtain ⟨hresult, rfl⟩ := checkGroup_eq_ok hmid
    rw [List.map_cons, List.cons_subset] at hkeys
    have hall {P : String × Dict (Option String) SocaJob → Prop} (h : P group)
        (hs : ∀ group ∈ groups, P group) : ∀ group' ∈ group :: groups, P group' :=
      List.forall_mem_cons.mpr ⟨h, hs⟩
    by_cases hreset : expectedBatchSize select group.1 < group.2.size
    · rw [if_pos hreset] at h
      have hkeys' := Dict.keys_set_of_mem hkeys.1 (∅ : Dict (Option String) SocaJob)
      obtain ⟨hresults, hkeys'', hsum, hget⟩ := ih h (by rw [hkeys']; exact hkeys.2)
      refine ⟨hall hresult hresults, hkeys''.trans hkeys', ?_, fun jobGroup => ?_⟩
      · rw [hsum, List.map_cons, List.sum_cons, Nat.add_assoc]
      · have hg := hget jobGroup
        rw [Dict.get?_set] at hg
        rw [exceeds_cons]
        grind
    · rw [if_neg hreset] at h
      obtain ⟨hresults, hkeys'', hsum, hget⟩ := ih h hkeys.2
      refine ⟨hall hresult hresults, hkeys'', ?_, fun jobGroup => ?_⟩
      · rw [hsum, List.map_cons, List.sum_cons, Nat.add_assoc]
      · rw [exceeds_cons]
        simpa [hreset] using hget jobGroup

theorem check_eq_ok {more : Bool} (h : batches.check select = .ok (batches', more)) :
    (∀ jobGroup ∈ batches.keys, ∃ result, select jobGroup = .ok result) ∧
      batches'.keys = batches.keys ∧
      more = decide (batches'.totalJobs < (batches.keys.map (expectedBatchSize select)).sum) ∧
      ∀ jobGroup, batches'.get? jobGroup = (batches.get? jobGroup).map fun jobs =>
        if expectedBatchSize select jobGroup < jobs.size then ∅ else jobs := by
  obtain ⟨⟨mid, expected⟩, hfold, h⟩ := Raised.bind_eq_ok.mp h
  obtain ⟨rfl, rfl⟩ := Prod.mk.inj (Except.ok.inj h)
  obtain ⟨hresults, hkeys, hsum, hget⟩ := foldlM_checkGroup hfold (List.Subset.refl _)
  refine ⟨?_, hkeys, ?_, fun jobGroup => ?_⟩
  · intro jobGroup hmem
    obtain ⟨group, hgroup, rfl⟩ := List.mem_map.mp hmem
    exact hresults group hgroup
  · simp only at hsum
    rw [hsum, Dict.keys, List.map_map, Nat.zero_add]
    rfl
  · have hg := hget jobGroup
    simp only [Exceeds, Dict.mem_entries] at hg
    cases hjobs : batches.get? jobGroup with
    | none => simpa [hjobs] using hg.2
    | some jobs =>
      rw [hjobs] at hg
      grind

theorem find_check {more : Bool} (h : batches.check select = .ok (batches', more))
    (jobGroup : String) (jobId : Option String) :
    batches'.find jobGroup jobId =
      if ∃ jobs, batches.get? jobGroup = some jobs ∧ expectedBatchSize select jobGroup < jobs.size
      then none else batches.find jobGroup jobId := by
  obtain ⟨_, _, _, hget⟩ := check_eq_ok h
  rw [find, find, hget]
  cases hjobs : batches.get? jobGroup with
  | none => simp
  | some jobs =>
    by_cases hreset : expectedBatchSize select jobGroup < jobs.size
    · simp [hreset]
    · simp [hreset]

theorem size_of_check (h : batches.check select = .ok (batches', false))
    {jobs : Dict (Option String) SocaJob} (hjobs : batches'.get? jobGroup = some jobs) :
    ∃ result, select jobGroup = .ok result ∧ jobs.size = OpenPBSQSelect.getCount result := by
  obtain ⟨hresults, hkeys, hmore, hget⟩ := check_eq_ok h
  obtain ⟨result, hresult⟩ := hresults jobGroup (hkeys ▸ Dict.mem_keys_of_get? hjobs)
  have hle : ∀ group ∈ batches'.entries,
      group.2.size ≤ expectedBatchSize select group.1 := by
    intro group hgroup
    have hg := Dict.mem_entries.mp hgroup
    rw [hget] at hg
    obtain ⟨jobs', _, heq⟩ := Option.map_eq_some_iff.mp hg
    split at heq
    · rw [← heq]
      exact Nat.zero_le _
    · rw [← heq]
      omega
  refine ⟨result, hresult, ?_⟩
  have hexpected : expectedBatchSize select jobGroup = OpenPBSQSelect.getCount result := by
    rw [expectedBatchSize, hresult]
  by_contra hne
  have hmem := Dict.mem_entries_of_get? hjobs
  have hlt := List.sum_lt_sum _ _ hle
    ⟨(jobGroup, jobs), hmem, lt_of_le_of_ne (hle _ hmem) (by rw [hexpected]; exact hne)⟩
  have hsum := of_decide_eq_false hmore.symm
  rw [← hkeys, totalJobs, Dict.values, Dict.keys, List.map_map, List.map_map] at hsum
  exact hsum hlt

end Batches

/-! ## Runs -/

def Takes (e : Edge State Operation) (job : SocaJob) : Prop :=
  ∃ ctx jobId, e.label = .getTurn ctx (.took jobId (.returned job))

/-- A job that a step puts into the batch of a group. -/
def Collects (e : Edge State Operation) (jobGroup : String) (job : SocaJob) : Prop :=
  ∃ ctx jobId, e.label = .getTurn ctx (.took jobId (.returned job)) ∧
    job.isProvisioned = false ∧ job.getJobGroup ctx.digest = .ok jobGroup

/-- The scheduler lists fewer jobs of a group than its batch holds. -/
def Resets (e : Edge State Operation) (jobGroup : String) : Prop :=
  ∃ answers jobs, e.label = .select answers ∧ e.pre.batches.get? jobGroup = some jobs ∧
    Batches.expectedBatchSize answers jobGroup < jobs.size

section Steps

variable {self self' : State} {op : Operation}

theorem Step.of_ended (h : Step self op self')
    (hended : self.phase = .returned ∨ ∃ e, self.phase = .raised e) :
    self'.phase = self.phase ∧ self'.batches = self.batches := by
  cases op with
  | checkExit exit => simp [h.1] at hended
  | getTurn ctx event => simp [h.1] at hended
  | select answers => simp [h.1] at hended
  | other op =>
    obtain ⟨queue, _, rfl⟩ := h
    exact ⟨rfl, rfl⟩

theorem batches_collectJob {digest : String → String} {job : SocaJob}
    (hraised : ∀ e, (self.collectJob digest job).phase ≠ .raised e) :
    self.batches.take digest job = .ok (self.collectJob digest job).batches := by
  rw [State.collectJob] at hraised ⊢
  cases htake : self.batches.take digest job with
  | ok batches => rfl
  | error e => simp [htake] at hraised

theorem batches_collect (digest : String → String) {event : JobProvisioningQueue.GetEvent}
    (h : ∀ jobId job, event ≠ .took jobId (.returned job)) :
    (self.collect digest event).batches = self.batches := by
  unfold State.collect
  split
  · exact absurd rfl (h _ _)
  all_goals try split
  all_goals rfl

theorem Step.take (h : Step self op self') (hraised : ∀ e, self'.phase ≠ .raised e)
    {ctx : GetContext} {jobId : String} {job : SocaJob}
    (hop : op = .getTurn ctx (.took jobId (.returned job))) :
    self.batches.take ctx.digest job = .ok self'.batches := by
  subst hop
  obtain ⟨_, queue, _, rfl⟩ := h
  exact batches_collectJob hraised

theorem Step.find_of_collects (h : Step self op self') (hraised : ∀ e, self'.phase ≠ .raised e)
    {job : SocaJob} (hcollects : Collects ⟨self, op, self'⟩ jobGroup job) :
    self'.batches.find jobGroup job.jobId = some job := by
  obtain ⟨ctx, jobId, hop, hprovisioned, hgroup⟩ := hcollects
  obtain ⟨jobGroup', hgroup', hfind⟩ := Batches.find_take (h.take hraised hop) hprovisioned
  obtain rfl := Except.ok.inj (hgroup.symm.trans hgroup')
  rw [hfind, if_pos ⟨rfl, rfl⟩]

theorem Step.find (h : Step self op self') (hraised : ∀ e, self'.phase ≠ .raised e)
    {jobId : Option String}
    (hcollects : ∀ job, Collects ⟨self, op, self'⟩ jobGroup job → job.jobId ≠ jobId) :
    (Resets ⟨self, op, self'⟩ jobGroup → self'.batches.find jobGroup jobId = none) ∧
      (¬ Resets ⟨self, op, self'⟩ jobGroup →
        self'.batches.find jobGroup jobId = self.batches.find jobGroup jobId) := by
  cases op with
  | checkExit exit =>
    obtain ⟨_, rfl⟩ := h
    exact ⟨by simp [Resets], fun _ => rfl⟩
  | getTurn ctx event =>
    refine ⟨by simp [Resets], fun _ => ?_⟩
    by_cases htook : ∃ id job, event = .took id (.returned job)
    · obtain ⟨id, job, rfl⟩ := htook
      have htake := h.take hraised rfl
      by_cases hprovisioned : job.isProvisioned = true
      · rw [Batches.take, if_pos hprovisioned] at htake
        rw [Except.ok.inj htake]
      · rw [Bool.not_eq_true] at hprovisioned
        obtain ⟨jobGroup', hgroup, hfind⟩ := Batches.find_take htake hprovisioned
        rw [hfind, if_neg]
        rintro ⟨rfl, hid⟩
        exact hcollects job ⟨ctx, id, rfl, hprovisioned, hgroup⟩ hid.symm
    · obtain ⟨_, queue, _, rfl⟩ := h
      rw [batches_collect ctx.digest fun id job h => htook ⟨id, job, h⟩]
  | select answers =>
    obtain ⟨_, rfl⟩ := h
    have hresets : Resets ⟨self, .select answers, self.ask answers⟩ jobGroup ↔
        ∃ jobs, self.batches.get? jobGroup = some jobs ∧
          Batches.expectedBatchSize answers jobGroup < jobs.size := by
      simp [Resets]
    rw [hresets]
    rw [State.ask] at hraised ⊢
    cases hcheck : self.batches.check answers with
    | error e => simp [hcheck] at hraised
    | ok result =>
      obtain ⟨batches, more⟩ := result
      have hfind := Batches.find_check hcheck jobGroup jobId
      exact ⟨fun h => hfind.trans (if_pos h), fun h => hfind.trans (if_neg h)⟩
  | other op =>
    obtain ⟨queue, _, rfl⟩ := h
    exact ⟨by simp [Resets], fun _ => rfl⟩

end Steps

section Runs

variable {self finish : State} {t : List (Edge State Operation)}

theorem not_raised (h : Run Step self t finish) (hreturned : finish.phase = .returned) :
    ∀ e ∈ t, ∀ x, e.post.phase ≠ .raised x := by
  intro e he x hx
  obtain ⟨_, _, _, _, _, hrest⟩ := h.split he
  have hphase := hrest.invariant (fun state => state.phase = .raised x) hx
    fun hphase hs => (hs.of_ended (.inr ⟨x, hphase⟩)).1.trans hphase
  rw [hreturned] at hphase
  cases hphase

theorem batches_of_returned (h : Run Step self t finish) (hreturned : self.phase = .returned) :
    finish.batches = self.batches := by
  refine (h.invariant (fun state => state.phase = .returned ∧ state.batches = self.batches)
    ⟨hreturned, rfl⟩ ?_).2
  rintro state op state' ⟨hphase, hbatches⟩ hs
  obtain ⟨hphase', hbatches'⟩ := hs.of_ended (.inl hphase)
  exact ⟨hphase'.trans hphase, hbatches'.trans hbatches⟩

theorem find_or_reset (h : Run Step self t finish)
    (hraised : ∀ e ∈ t, ∀ x, e.post.phase ≠ .raised x) {job : SocaJob}
    (hcollects : ∀ e ∈ t, ∀ job', Collects e jobGroup job' → job'.jobId ≠ job.jobId)
    (hfind : self.batches.find jobGroup job.jobId = some job) :
    (finish.batches.find jobGroup job.jobId = some job ∧ ∀ e ∈ t, ¬ Resets e jobGroup) ∨
      (finish.batches.find jobGroup job.jobId = none ∧ ∃ e ∈ t, Resets e jobGroup) := by
  induction h with
  | nil => exact .inl ⟨hfind, fun _ he => absurd he List.not_mem_nil⟩
  | @snoc t s op s' _ hs ih =>
    simp only [List.mem_append, List.mem_singleton] at hraised hcollects ⊢
    have hstep := hs.find (hraised _ (.inr rfl)) (hcollects _ (.inr rfl))
    by_cases hreset : Resets ⟨s, op, s'⟩ jobGroup
    · exact .inr ⟨hstep.1 hreset, _, .inr rfl, hreset⟩
    · rw [hstep.2 hreset]
      rcases ih (fun e he => hraised e (.inl he)) (fun e he => hcollects e (.inl he)) with
        ⟨hin, hno⟩ | ⟨hout, e, he, hr⟩
      · refine .inl ⟨hin, ?_⟩
        rintro e (he | rfl)
        · exact hno e he
        · exact hreset
      · exact .inr ⟨hout, e, .inl he, hr⟩

theorem jobId_of_find (h : Run Step self t finish)
    (hraised : ∀ e ∈ t, ∀ x, e.post.phase ≠ .raised x)
    (hself : ∀ jobGroup jobId job, self.batches.find jobGroup jobId = some job →
      job.jobId = jobId) :
    ∀ jobGroup jobId job, finish.batches.find jobGroup jobId = some job → job.jobId = jobId := by
  induction h with
  | nil => exact hself
  | @snoc t s op s' _ hs ih =>
    simp only [List.mem_append, List.mem_singleton] at hraised
    intro jobGroup jobId job hfind
    by_cases hcollects : ∃ job', Collects ⟨s, op, s'⟩ jobGroup job' ∧ job'.jobId = jobId
    · obtain ⟨job', hcollects, rfl⟩ := hcollects
      have hfind' := hs.find_of_collects (hraised _ (.inr rfl)) hcollects
      obtain rfl := Option.some.inj (hfind.symm.trans hfind')
      rfl
    · have hstep := hs.find (hraised _ (.inr rfl))
        fun job' hc hid => hcollects ⟨job', hc, hid⟩
      by_cases hreset : Resets ⟨s, op, s'⟩ jobGroup
      · rw [hstep.1 hreset] at hfind
        cases hfind
      · rw [hstep.2 hreset] at hfind
        exact ih (fun e he => hraised e (.inl he)) jobGroup jobId job hfind

end Runs

def InBatch (finish : State) (jobGroup : String) (job : SocaJob) : Prop :=
  ∃ jobs, finish.result.get? jobGroup = some jobs ∧ job ∈ jobs

theorem inBatch_iff {finish : State} {job : SocaJob} :
    InBatch finish jobGroup job ↔ ∃ jobId, finish.batches.find jobGroup jobId = some job := by
  simp only [InBatch, State.result, Dict.get?_filterMap, Batches.find]
  cases finish.batches.get? jobGroup with
  | none => simp
  | some jobs =>
    simp only [Option.bind_some, Option.some.injEq, exists_eq_left', Dict.values, List.mem_map]
    constructor
    · rintro ⟨entry, hentry, rfl⟩
      exact ⟨entry.1, Dict.mem_entries.mp hentry⟩
    · rintro ⟨jobId, hjob⟩
      exact ⟨(jobId, job), Dict.mem_entries.mpr hjob, rfl⟩

/-- The job is in the batch of its group, which was not reset after it was taken. -/
def Batched (finish : State) (after : List (Edge State Operation)) (jobGroup : String)
    (job : SocaJob) : Prop :=
  InBatch finish jobGroup job ∧ ∀ e ∈ after, ¬ Resets e jobGroup

/-- The job went with its batch when that was reset, and waits for the next refresh cycle. -/
def Dropped (finish : State) (after : List (Edge State Operation)) (jobGroup : String)
    (job : SocaJob) : Prop :=
  (∀ job', InBatch finish jobGroup job' → job'.jobId ≠ job.jobId) ∧ ∃ e ∈ after, Resets e jobGroup

/-- Every job that is taken is provisioned and skipped, or batched or dropped after it was taken
for the last time. A drain that ends by itself returns as many jobs as the scheduler lists. -/
structure Accounts (t : List (Edge State Operation)) (finish : State) : Prop where
  taken : ∀ before e after job, t = before ++ e :: after → Takes e job →
    (job.isProvisioned = true ∧ e.post.batches = e.pre.batches) ∨
      ∃ jobGroup, Collects e jobGroup job ∧
        ((∀ e' ∈ after, ∀ job', Collects e' jobGroup job' → job'.jobId ≠ job.jobId) →
          Batched finish after jobGroup job ∨ Dropped finish after jobGroup job)
  complete : ∀ e ∈ t, ∀ answers, e.label = .select answers → e.post.phase = .returned →
    ∀ jobGroup jobs, finish.result.get? jobGroup = some jobs →
      ∃ result, answers jobGroup = .ok result ∧ jobs.length = OpenPBSQSelect.getCount result

theorem run_accounts {queue : JobProvisioningQueue} {t : List (Edge State Operation)}
    {finish : State} (h : Run Step (start queue) t finish)
    (hreturned : finish.phase = .returned) : Accounts t finish := by
  have hraised := not_raised h hreturned
  have hids := jobId_of_find h hraised fun jobGroup jobId job hfind => by cases hfind
  constructor
  · rintro before e after job rfl ⟨ctx, id, hlabel⟩
    have he : e ∈ before ++ e :: after := List.mem_append_right _ List.mem_cons_self
    obtain ⟨_, hstep, hafter⟩ := h.of_append_cons
    have htake := hstep.take (hraised e he) hlabel
    by_cases hprovisioned : job.isProvisioned = true
    · rw [Batches.take, if_pos hprovisioned] at htake
      exact .inl ⟨hprovisioned, (Except.ok.inj htake).symm⟩
    · rw [Bool.not_eq_true] at hprovisioned
      obtain ⟨jobGroup, hgroup, _⟩ := Batches.find_take htake hprovisioned
      have hcollects : Collects e jobGroup job := ⟨ctx, id, hlabel, hprovisioned, hgroup⟩
      refine .inr ⟨jobGroup, hcollects, fun hlast => ?_⟩
      have hfind := hstep.find_of_collects (hraised e he) hcollects
      have hend := find_or_reset hafter
        (fun e' he' => hraised e' (List.mem_append_right _ (List.mem_cons_of_mem _ he'))) hlast hfind
      rcases hend with ⟨hin, hno⟩ | ⟨hout, hreset⟩
      · exact .inl ⟨inBatch_iff.mpr ⟨_, hin⟩, hno⟩
      · refine .inr ⟨fun job' hjob' hid => ?_, hreset⟩
        obtain ⟨jobId, hfind'⟩ := inBatch_iff.mp hjob'
        rw [← hids _ _ _ hfind', hid, hout] at hfind'
        cases hfind'
  · intro e he answers hlabel hphase jobGroup jobs hjobs
    obtain ⟨_, _, _, _, hstep, hafter⟩ := h.split he
    rw [State.result, Dict.get?_filterMap, batches_of_returned hafter hphase] at hjobs
    obtain ⟨group, hgroup, hvalues⟩ := Option.bind_eq_some_iff.mp hjobs
    rw [hlabel] at hstep
    obtain ⟨_, hpost⟩ := hstep
    rw [State.ask] at hpost
    cases hcheck : e.pre.batches.check answers with
    | error x => simp [hpost, hcheck] at hphase
    | ok result =>
      obtain ⟨batches, more⟩ := result
      cases more with
      | true => simp [hpost, hcheck] at hphase
      | false =>
        simp only [hcheck] at hpost
        rw [hpost] at hgroup
        obtain ⟨result, hresult, hsize⟩ := Batches.size_of_check hcheck hgroup
        refine ⟨result, hresult, ?_⟩
        rw [← hsize, ← Option.some.inj hvalues, Dict.values, List.length_map, Dict.size]

/-! A drain that takes two jobs, of which the scheduler lists one only. -/

/-- A job that an answer of the scheduler does not list is gone. -/
def Unlisted (e : Edge State Operation) (jobGroup : String) (job : SocaJob) : Prop :=
  ∃ answers result, e.label = .select answers ∧ answers jobGroup = .ok result ∧
    ∀ jobId, job.jobId = some jobId → jobId ∉ OpenPBSQSelect.listJobsIds result

/-- A job that was taken is in just one place: in a batch, done with, or back in the queue. -/
def Placed (e : Edge State Operation) (after : List (Edge State Operation)) (finish : State)
    (job : SocaJob) : Prop :=
  let inBatch := ∃ jobGroup job', InBatch finish jobGroup job' ∧ job'.jobId = job.jobId
  let done := job.isProvisioned = true ∨
    ∃ jobGroup, Collects e jobGroup job ∧ ∃ e' ∈ after, Unlisted e' jobGroup job
  let queued := ∃ jobId ∈ finish.queue.queuedJobs.keys, job.jobId = some jobId
  (inBatch ∧ ¬ done ∧ ¬ queued) ∨ (¬ inBatch ∧ done ∧ ¬ queued) ∨ (¬ inBatch ∧ ¬ done ∧ queued)

namespace Example

def job (jobId : String) : SocaJob :=
  { jobId := some jobId
    jobGroup := some "group"
    queue := some "batch"
    state := some .queued
    scalingMode := some .batch
    provisioned := some false
    queueTime := some 100
    params := some { nodes := some 1 }
    provisioningOptions := some { terminateWhenIdle := some 3 } }

def ctx (jobId : String) : GetContext :=
  { computeFairshareScore := fun _ => .ok 0
    digest := id
    getJob := fun _ => .ok (some (job jobId))
    instanceCount := .ok 0
    activeJobs := .ok 0
    setJobProvisioningError := .ok ()
    utcnow := 0 }

def empty : JobProvisioningQueue :=
  .new { name := some "batch", queues := some ["batch"], queueManagementParams := some {} }

def waiting (jobId : String) (priority : ℤ) : JobProvisioningQueue :=
  { empty with
    queue := ⟨⟨[("group", #[jobId])], by simp⟩, 0, by simp [Dict.size]⟩
    queuedJobs := ⟨[(jobId, { priority, jobId, jobGroup := "group" })], by simp⟩ }

def drained : JobProvisioningQueue :=
  { empty with queue := ⟨⟨[("group", #[])], by decide⟩, 0, by decide⟩ }

def one : Batches := ⟨[("group", ⟨[(some "1", job "1")], by decide⟩)], by decide⟩

def both : Batches :=
  ⟨[("group", ⟨[(some "1", job "1"), (some "2", job "2")], by decide⟩)], by decide⟩

def two : Batches := ⟨[("group", ⟨[(some "2", job "2")], by decide⟩)], by decide⟩

def reset : Batches := ⟨[("group", ∅)], by decide⟩

def answers (jobIds : List String) : String → Except Raised QselectResult :=
  fun _ => .ok ⟨0, jobIds⟩

def opening : Edge State Operation :=
  ⟨start (waiting "1" 101), .checkExit false, ⟨waiting "1" 101, ∅, .collecting⟩⟩

def takeOne : Edge State Operation :=
  ⟨⟨waiting "1" 101, ∅, .collecting⟩, .getTurn (ctx "1") (.took "1" (.returned (job "1"))),
    ⟨drained, one, .collecting⟩⟩

def takeTwo : List (Edge State Operation) :=
  [⟨⟨drained, one, .collecting⟩, .other (.put (ctx "2").toPutContext (job "2") none),
      ⟨waiting "2" 102, one, .collecting⟩⟩,
    ⟨⟨waiting "2" 102, one, .collecting⟩, .getTurn (ctx "2") (.took "2" (.returned (job "2"))),
      ⟨drained, both, .collecting⟩⟩,
    ⟨⟨drained, both, .collecting⟩, .getTurn (ctx "1") .empty, ⟨empty, both, .selecting⟩⟩]

theorem run_takeTwo :
    Run Step (start (waiting "1" 101)) (opening :: takeOne :: takeTwo) ⟨empty, both, .selecting⟩ :=
  .snoc (.snoc (.snoc (.snoc (.snoc .nil ⟨rfl, rfl⟩) ⟨rfl, _, rfl, rfl⟩) ⟨_, rfl, rfl⟩)
    ⟨rfl, _, rfl, rfl⟩) ⟨rfl, _, rfl, rfl⟩

def listBoth : List (Edge State Operation) :=
  [⟨⟨empty, both, .selecting⟩, .select (answers ["1", "2"]), ⟨empty, both, .returned⟩⟩]

/-- The scheduler lists the first job only, and the second one is put and taken once more. -/
def listOne : List (Edge State Operation) :=
  [⟨⟨empty, both, .selecting⟩, .select (answers ["1"]), ⟨empty, reset, .checking⟩⟩,
    ⟨⟨empty, reset, .checking⟩, .checkExit false, ⟨empty, reset, .collecting⟩⟩,
    ⟨⟨empty, reset, .collecting⟩, .other (.put (ctx "2").toPutContext (job "2") none),
      ⟨waiting "2" 102, reset, .collecting⟩⟩,
    ⟨⟨waiting "2" 102, reset, .collecting⟩, .getTurn (ctx "2") (.took "2" (.returned (job "2"))),
      ⟨drained, two, .collecting⟩⟩,
    ⟨⟨drained, two, .collecting⟩, .getTurn (ctx "1") .empty, ⟨empty, two, .selecting⟩⟩,
    ⟨⟨empty, two, .selecting⟩, .select (answers ["1"]), ⟨empty, two, .returned⟩⟩]

theorem run_listBoth : Run Step (start (waiting "1" 101))
    (opening :: takeOne :: takeTwo ++ listBoth) ⟨empty, both, .returned⟩ :=
  .snoc run_takeTwo ⟨rfl, rfl⟩

theorem run_listOne : Run Step (start (waiting "1" 101))
    (opening :: takeOne :: takeTwo ++ listOne) ⟨empty, two, .returned⟩ :=
  run_takeTwo.append (.snoc (.snoc (.snoc (.snoc (.snoc (.snoc .nil ⟨rfl, rfl⟩) ⟨rfl, rfl⟩)
    ⟨_, rfl, rfl⟩) ⟨rfl, _, rfl, rfl⟩) ⟨rfl, _, rfl, rfl⟩) ⟨rfl, rfl⟩)

end Example

open Example in
theorem run_accounts_both :
    Accounts (opening :: takeOne :: takeTwo ++ listBoth) ⟨empty, both, .returned⟩ :=
  run_accounts run_listBoth rfl

open Example in
/-- The first job is listed by the scheduler, but it is in no batch and not in the queue. -/
theorem listed_job_dropped :
    ¬ ∀ (queue : JobProvisioningQueue) (t : List (Edge State Operation)) (finish : State),
      Run Step (start queue) t finish → finish.phase = .returned →
      ∀ before e after job, t = before ++ e :: after → Takes e job → Placed e after finish job := by
  intro h
  have hplaced := h _ _ _ run_listOne rfl [opening] takeOne (takeTwo ++ listOne) (job "1") rfl
    ⟨ctx "1", "1", rfl⟩
  have hbatch : ¬ ∃ jobGroup job', InBatch ⟨empty, two, .returned⟩ jobGroup job' ∧
      job'.jobId = (job "1").jobId := by
    rintro ⟨jobGroup, job', hin, hid⟩
    obtain ⟨jobId, hfind⟩ := inBatch_iff.mp hin
    obtain ⟨jobs, hjobs, hjob⟩ := Option.bind_eq_some_iff.mp hfind
    have hmem := Dict.mem_entries_of_get? hjobs
    obtain ⟨rfl, rfl⟩ := Prod.mk.inj (List.mem_singleton.mp hmem)
    have hmem' := Dict.mem_entries_of_get? hjob
    obtain ⟨rfl, rfl⟩ := Prod.mk.inj (List.mem_singleton.mp hmem')
    exact absurd hid (by decide)
  have hlisted : ¬ ∃ jobGroup, Collects takeOne jobGroup (job "1") ∧
      ∃ e' ∈ takeTwo ++ listOne, Unlisted e' jobGroup (job "1") := by
    rintro ⟨jobGroup, _, e', he', answers', result, hlabel, hresult, hunlisted⟩
    have hanswers : answers' = answers ["1"] := by
      simp only [takeTwo, listOne, List.mem_append, List.mem_cons, List.not_mem_nil] at he'
      rcases he' with (rfl | rfl | rfl | h) | (rfl | rfl | rfl | rfl | rfl | rfl | h) <;>
        simp_all
    subst hanswers
    obtain rfl : ⟨0, ["1"]⟩ = result := Except.ok.inj hresult
    exact hunlisted "1" rfl (by decide)
  have hqueue : ¬ ∃ jobId ∈ empty.queuedJobs.keys, (job "1").jobId = some jobId := by
    rintro ⟨jobId, hmem, _⟩
    cases hmem
  rcases hplaced with ⟨hin, _, _⟩ | ⟨_, hdone | hdone, _⟩ | ⟨_, _, hqueued⟩
  · exact hbatch hin
  · cases hdone
  · exact hlisted hdone
  · exact hqueue hqueued

end BatchDrain

end Idea

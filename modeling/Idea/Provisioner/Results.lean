import Idea.Provisioner.ProvisionJobs

/-! # What a successful result means

A job is assigned when the scheduler has accepted its compute node and stack id. A successful
result should mean that all jobs of the batch are assigned, unless their stack is still in
progress. Three branches return it without a look at the jobs.
-/

namespace Idea

open Provisioning

/-- The scheduler accepts attributes of the job in one of the calls. -/
def Assigns (ctx : ProvisionContext) (jobId : Option String) (calls : List ProvisionCall) : Prop :=
  ∃ attributes, .setJobAttributes jobId attributes ∈ calls ∧
    OpenPBSScheduler.Accepts ctx jobId attributes

def AssignsAll (ctx : ProvisionContext) (jobs : List SocaJob) (calls : List ProvisionCall) : Prop :=
  ∀ job ∈ jobs, Assigns ctx job.jobId calls

theorem upward_assigns (ctx : ProvisionContext) (jobId : Option String) :
    Logged.Upward (Assigns ctx jobId) := by
  rintro calls calls' hsub ⟨attributes, hmem, haccepts⟩
  exact ⟨attributes, hsub _ hmem, haccepts⟩

theorem upward_assignsAll (ctx : ProvisionContext) (jobs : List SocaJob) :
    Logged.Upward (AssignsAll ctx jobs) := by
  intro calls calls' hsub h job hjob
  exact upward_assigns ctx job.jobId calls calls' hsub (h job hjob)

variable {jobId : Option String} {result : ProvisionJobsResult} {status : Option ProvisioningStatus}

namespace ProvisionJobs

open JobProvisioningUtil

variable {ctx : ProvisionContext} {batch : JobBatch}

theorem ensures_provisionJobInScheduler (job : SocaJob) (stackId : Option String) :
    (provisionJobInScheduler ctx job stackId).Ensures (Assigns ctx job.jobId) :=
  fun _ h => accepted_of_provisionJobInScheduler h

theorem ensures_provisionOnStack (job : SocaJob) :
    (provisionOnStack ctx batch job).Ensures (Assigns ctx job.jobId) := by
  apply Logged.ensures_bind (upward_assigns ctx job.jobId)
  intro stack _
  cases stack with
  | none => exact fun _ h => absurd h outcome_raise
  | some stack => exact ensures_provisionJobInScheduler job stack.stackId

theorem ensures_forEach_provisionOnStack (jobs : List SocaJob) :
    (Logged.forEach (provisionOnStack ctx batch) jobs).Ensures (AssignsAll ctx jobs) :=
  Logged.ensures_forEach (fun job => upward_assigns ctx job.jobId) jobs ensures_provisionOnStack

theorem provisionedJobs_updateCapacity {result : BatchCapacityResult}
    (h : (JobProvisioningUtil.updateCapacity ctx batch).outcome = .ok result) :
    result.provisionedJobs = batch.jobs := by
  obtain ⟨provisioned, _, h⟩ := Logged.outcome_bind.mp h
  obtain ⟨result', hinvoke, h⟩ := Logged.outcome_bind.mp h
  obtain ⟨_, _, h⟩ := Logged.outcome_bind.mp h
  obtain rfl : result' = result := Except.ok.inj h
  exact (BatchCapacityHelper.invoke_spec (outcome_attempt.mp hinvoke)).1

theorem ensures_updateCapacity :
    (updateCapacity ctx batch).Ensures (AssignsAll ctx batch.jobs) := by
  have hup := upward_assignsAll ctx batch.jobs
  iterate 4
    apply Logged.ensures_bind hup
    intro _ _
  apply Logged.ensures_bind hup
  intro result hresult
  rw [← provisionedJobs_updateCapacity hresult]
  exact (ensures_forEach_provisionOnStack _).bind (upward_assignsAll ctx _) _

theorem ensures_createBatchStack :
    (createBatchStack ctx batch).Ensures (AssignsAll ctx batch.jobs) := by
  have hup := upward_assignsAll ctx batch.jobs
  apply Logged.ensures_bind hup
  intro provisioned _
  apply Logged.ensures_bind hup
  intro result hresult
  apply Logged.ensures_bind hup
  intro stackId _
  rw [← (BatchCapacityHelper.invoke_spec (outcome_attempt.mp hresult)).1]
  have hloop := Logged.ensures_forEach (fun job => upward_assigns ctx job.jobId)
    result.provisionedJobs fun job => ensures_provisionJobInScheduler job (some stackId)
  exact hloop.bind (upward_assignsAll ctx _) _

theorem ensures_createJobStack :
    (createJobStack ctx batch).Ensures (Assigns ctx batch.job.jobId) := by
  have hup := upward_assigns ctx batch.job.jobId
  apply Logged.ensures_bind hup
  intro stackId _
  exact (ensures_provisionJobInScheduler batch.job (some stackId)).bind hup _

theorem ensures_createNewStack_of_isBatch (hbatch : batch.isBatch = true) :
    (createNewStack ctx batch).Ensures (AssignsAll ctx batch.jobs) := by
  have hup := upward_assignsAll ctx batch.jobs
  unfold createNewStack
  rw [if_pos hbatch]
  iterate 5
    apply Logged.ensures_bind hup
    intro _ _
  exact ensures_createBatchStack.bind hup _

theorem ensures_createNewStack_of_not_isBatch (hbatch : batch.isBatch = false) :
    (createNewStack ctx batch).Ensures (Assigns ctx batch.job.jobId) := by
  have hup := upward_assigns ctx batch.job.jobId
  unfold createNewStack
  rw [if_neg (by rw [hbatch]; exact Bool.false_ne_true)]
  iterate 5
    apply Logged.ensures_bind hup
    intro _ _
  exact ensures_createJobStack.bind hup _

theorem ensures_handleCompleted (hephemeral : batch.job.isEphemeralCapacity = false) :
    (handleCompleted ctx batch).Ensures (AssignsAll ctx batch.jobs) := by
  unfold handleCompleted
  rw [if_neg (by rw [hephemeral]; exact Bool.false_ne_true)]
  split
  · exact ensures_updateCapacity
  · have hup := upward_assignsAll ctx batch.jobs
    apply Logged.ensures_bind hup
    intro stack _
    cases stack with
    | none => exact fun _ h => absurd h outcome_raise
    | some stack =>
      apply Logged.ensures_bind hup
      intro _ _
      exact ensures_forEach_provisionOnStack batch.jobs

theorem calls_raiseUnprovisioned (batch : JobBatch) (unprovisionedJobs : List SocaJob) :
    (raiseUnprovisioned batch unprovisionedJobs).calls = [] := by
  unfold raiseUnprovisioned
  split <;> rfl

theorem eq_of_mem_calls_createNewStack (hbatch : batch.isBatch = false) {attributes : JobAttributes}
    (h : .setJobAttributes jobId attributes ∈ (createNewStack ctx batch).calls) :
    jobId = batch.job.jobId := by
  unfold createNewStack at h
  rw [if_neg (by rw [hbatch]; exact Bool.false_ne_true)] at h
  iterate 5
    rcases Logged.mem_calls_bind.mp h with h | ⟨_, _, h⟩
    · exact absurd h List.not_mem_nil
  rcases Logged.mem_calls_bind.mp h with h | ⟨unprovisioned, _, h⟩
  · rcases Logged.mem_calls_bind.mp h with h | ⟨_, _, h⟩
    · cases List.mem_singleton.mp h
    rcases Logged.mem_calls_bind.mp h with h | ⟨_, _, h⟩
    · exact eq_of_mem_calls_provisionJobInScheduler h
    · exact absurd h List.not_mem_nil
  · have hnone := calls_raiseUnprovisioned batch unprovisioned
    exact absurd (hnone ▸ h) List.not_mem_nil

theorem outcome_invoke_of_true (h : (invoke ctx batch).outcome = .ok result)
    (htrue : result.status = some true) :
    ∃ status, checkStatus ctx batch = .ok status ∧
      (handleStatus ctx batch status).outcome = .ok result := by
  rcases Logged.outcome_tryCatch.mp h with h | ⟨failure, y, _, hy, h⟩
  · obtain ⟨status, hstatus, h⟩ := Logged.outcome_bind.mp h
    exact ⟨status, outcome_attempt.mp hstatus, h⟩
  · obtain rfl := Option.some.inj hy
    obtain rfl : resultOf failure = result := Except.ok.inj h
    unfold resultOf at htrue
    split at htrue
    · cases htrue
    · cases htrue

theorem outcome_invoke (hstatus : checkStatus ctx batch = .ok status)
    (h : (handleStatus ctx batch status).outcome = .ok result) :
    (invoke ctx batch).outcome = .ok result := by
  apply Logged.outcome_tryCatch.mpr
  left
  exact Logged.outcome_bind.mpr ⟨status, outcome_attempt.mpr hstatus, h⟩

theorem mem_calls_invoke (hstatus : checkStatus ctx batch = .ok status) {call : ProvisionCall} :
    call ∈ (invoke ctx batch).calls ↔ call ∈ (handleStatus ctx batch status).calls := by
  have hhandler : ∀ failure y, some (pure (resultOf failure) : Provisioning ProvisionJobsResult) =
      some y → y.calls = [] := by
    intro failure y h
    cases h
    rfl
  rw [invoke, Logged.mem_calls_tryCatch hhandler, Logged.mem_calls_bind]
  constructor
  · rintro (h | ⟨status', h', h⟩)
    · exact absurd h List.not_mem_nil
    · obtain rfl : status = status' := Except.ok.inj (hstatus.symm.trans (outcome_attempt.mp h'))
      exact h
  · exact fun h => .inr ⟨status, outcome_attempt.mpr hstatus, h⟩

end ProvisionJobs

/-- A batch between attempts, with the ids of the jobs that are assigned. -/
structure ProvisioningState where
  batch : JobBatch
  assigned : List (Option String)

def assignment (ctx : ProvisionContext) : ProvisionCall → Option (Option String × Option String)
  | .setJobAttributes jobId attributes =>
    match OpenPBSScheduler.alterOutcome (ctx.qalter jobId attributes) with
    | .ok () => some (jobId, attributes.stackId)
    | .error _ => none
  | _ => none

def recorded (ctx : ProvisionContext) (calls : List ProvisionCall) (job : SocaJob) : SocaJob :=
  match (calls.filterMap (assignment ctx)).find? fun entry => entry.1 = job.jobId with
  | none => job
  | some (_, stackId) =>
    let job := job.withStackId stackId
    match job.getComputeStack ctx.digest with
    | .ok computeStack => job.withComputeStack computeStack
    | .error _ => job

namespace ProvisioningState

open ProvisionJobs JobProvisioningUtil

variable (ctx : ProvisionContext) (state : ProvisioningState)

def after : ProvisioningState :=
  let calls := (invoke ctx state.batch).calls
  { batch := ⟨recorded ctx calls state.batch.job,
      state.batch.otherJobs.map (recorded ctx calls)⟩
    assigned := state.assigned ++ (calls.filterMap (assignment ctx)).map Prod.fst }

def AllAssigned (jobs : List SocaJob) : Prop := ∀ job ∈ jobs, job.jobId ∈ state.assigned

def StackInProgress (batch : JobBatch) : Prop :=
  ∃ described status, stack ctx batch = .ok (some described) ∧
    described.stackStatus = some status ∧ status.inProgress = true

/-- A successful result means that the jobs are assigned or wait for their stack, and an
attempt that goes through on a complete stack leaves no job unassigned. -/
structure ProvisionsReported : Prop where
  reported : ∀ result, (invoke ctx state.batch).outcome = .ok result →
    result.status = some true →
      (state.after ctx).AllAssigned state.batch.jobs ∨ StackInProgress ctx state.batch
  retried : checkStatus ctx state.batch = .ok (some .completed) →
    (handleCompleted ctx state.batch).outcome = .ok () →
      (state.after ctx).AllAssigned state.batch.jobs

/-- The branches that do not look at the jobs are taken only where nothing is left to assign:
for a status of the stack that is not listed, for a complete stack of ephemeral capacity, and
for the jobs besides the first that a new stack is not built for. -/
structure NothingSkipped : Prop where
  unlisted : checkStatus ctx state.batch = .ok none →
    state.AllAssigned state.batch.jobs ∨ StackInProgress ctx state.batch
  ephemeral : checkStatus ctx state.batch = .ok (some .completed) →
    state.batch.job.isEphemeralCapacity = true → state.AllAssigned state.batch.jobs
  single : checkStatus ctx state.batch = .ok (some .notProvisioned) →
    state.batch.isBatch = false → (createNewStack ctx state.batch).outcome = .ok () →
      ∀ job ∈ state.batch.otherJobs,
        job.jobId ∈ state.assigned ∨ job.jobId = state.batch.job.jobId

def attempts : List ProvisionContext → ProvisioningState →
    List (ProvisionContext × ProvisioningState)
  | [], _ => []
  | ctx :: contexts, state => (ctx, state) :: attempts contexts (state.after ctx)

variable {ctx state}

theorem mem_assignments {calls : List ProvisionCall} :
    jobId ∈ (calls.filterMap (assignment ctx)).map Prod.fst ↔ Assigns ctx jobId calls := by
  rw [List.mem_map]
  constructor
  · rintro ⟨⟨_, stackId⟩, hmem, rfl⟩
    obtain ⟨call, hcall, hassign⟩ := List.mem_filterMap.mp hmem
    unfold assignment at hassign
    split at hassign
    · rename_i id attributes
      split at hassign
      · rename_i haccepts
        obtain ⟨rfl, rfl⟩ := Prod.mk.inj (Option.some.inj hassign)
        exact ⟨attributes, hcall, OpenPBSScheduler.alterOutcome_eq_ok.mp haccepts⟩
      · cases hassign
    · cases hassign
  · rintro ⟨attributes, hcall, haccepts⟩
    refine ⟨(jobId, attributes.stackId), List.mem_filterMap.mpr ⟨_, hcall, ?_⟩, rfl⟩
    have hok := OpenPBSScheduler.alterOutcome_eq_ok.mpr haccepts
    rw [assignment, hok]

theorem mem_assigned_after :
    jobId ∈ (state.after ctx).assigned ↔
      jobId ∈ state.assigned ∨ Assigns ctx jobId (invoke ctx state.batch).calls := by
  rw [after, List.mem_append, mem_assignments]

theorem mem_assigned_after_of_no_calls (hstatus : checkStatus ctx state.batch = .ok status)
    (hcalls : (handleStatus ctx state.batch status).calls = []) :
    jobId ∈ (state.after ctx).assigned ↔ jobId ∈ state.assigned := by
  rw [mem_assigned_after, or_iff_left]
  rintro ⟨attributes, hmem, _⟩
  rw [mem_calls_invoke hstatus, hcalls] at hmem
  exact absurd hmem List.not_mem_nil

theorem AllAssigned.after {jobs : List SocaJob} (h : state.AllAssigned jobs) :
    (state.after ctx).AllAssigned jobs := by
  intro job hjob
  exact mem_assigned_after.mpr (.inl (h job hjob))

theorem allAssigned_after {jobs : List SocaJob} (hstatus : checkStatus ctx state.batch = .ok status)
    (h : AssignsAll ctx jobs (handleStatus ctx state.batch status).calls) :
    (state.after ctx).AllAssigned jobs := by
  intro job hjob
  apply mem_assigned_after.mpr
  right
  apply upward_assigns ctx job.jobId _ _ _ (h job hjob)
  intro call hcall
  exact (mem_calls_invoke hstatus).mpr hcall

theorem not_stackInProgress {batch : JobBatch} {status : ProvisioningStatus}
    (hstatus : checkStatus ctx batch = .ok (some status))
    (h : status = .completed ∨ status = .notProvisioned) : ¬ StackInProgress ctx batch := by
  rintro ⟨described, stackStatus, hstack, hsome, hprogress⟩
  rw [checkStatus, hstack] at hstatus
  have hof : statusOf ctx described = some status := Except.ok.inj hstatus
  rw [statusOf, hsome] at hof
  cases stackStatus with
  | createComplete => cases hprogress
  | createInProgress =>
    obtain rfl := Option.some.inj hof
    rcases h with h | h <;> cases h
  | deleteInProgress =>
    obtain rfl := Option.some.inj hof
    rcases h with h | h <;> cases h
  | createFailed | rollbackComplete | rollbackFailed => cases hprogress
  | _ => cases hof

theorem handleStatus_notProvisioned
    (h : (handleStatus ctx state.batch (some .notProvisioned)).outcome = .ok result) :
    (createNewStack ctx state.batch).outcome = .ok () := by
  obtain ⟨_, hcreate, _⟩ := Logged.outcome_bind.mp h
  exact hcreate

theorem mem_calls_of_createNewStack {call : ProvisionCall}
    (h : call ∈ (createNewStack ctx state.batch).calls) :
    call ∈ (handleStatus ctx state.batch (some .notProvisioned)).calls :=
  Logged.mem_calls_bind.mpr (.inl h)

theorem allAssigned_of_created (hskip : NothingSkipped ctx state)
    (hstatus : checkStatus ctx state.batch = .ok (some .notProvisioned))
    (hcreate : (createNewStack ctx state.batch).outcome = .ok ()) :
    (state.after ctx).AllAssigned state.batch.jobs := by
  cases hbatch : state.batch.isBatch with
  | true =>
    apply allAssigned_after hstatus
    apply upward_assignsAll ctx _ _ _ (fun call => mem_calls_of_createNewStack)
    exact ensures_createNewStack_of_isBatch hbatch () hcreate
  | false =>
    have hfirst : state.batch.job.jobId ∈ (state.after ctx).assigned := by
      apply mem_assigned_after.mpr
      right
      apply upward_assigns ctx _ _ _ _ (ensures_createNewStack_of_not_isBatch hbatch () hcreate)
      intro call hcall
      exact (mem_calls_invoke hstatus).mpr (mem_calls_of_createNewStack hcall)
    intro job hjob
    rcases List.mem_cons.mp hjob with rfl | hjob
    · exact hfirst
    rcases hskip.single hstatus hbatch hcreate job hjob with h | h
    · exact mem_assigned_after.mpr (.inl h)
    · rw [h]
      exact hfirst

theorem allAssigned_of_completed (hskip : NothingSkipped ctx state)
    (hstatus : checkStatus ctx state.batch = .ok (some .completed))
    (hcomplete : (handleCompleted ctx state.batch).outcome = .ok ()) :
    (state.after ctx).AllAssigned state.batch.jobs := by
  cases hephemeral : state.batch.job.isEphemeralCapacity with
  | true => exact (hskip.ephemeral hstatus hephemeral).after
  | false =>
    apply allAssigned_after hstatus
    apply upward_assignsAll ctx _ _ _ (fun call hcall => Logged.mem_calls_bind.mpr (.inl hcall))
    exact ensures_handleCompleted hephemeral () hcomplete

theorem provisionsReported_of_nothingSkipped (hskip : NothingSkipped ctx state) :
    ProvisionsReported ctx state := by
  constructor
  · intro result h htrue
    obtain ⟨status, hstatus, hbranch⟩ := outcome_invoke_of_true h htrue
    cases status with
    | none =>
      rcases hskip.unlisted hstatus with hall | hprogress
      · exact .inl hall.after
      · exact .inr hprogress
    | some status =>
      cases status with
      | notProvisioned =>
        left
        exact allAssigned_of_created hskip hstatus (handleStatus_notProvisioned hbranch)
      | completed =>
        left
        obtain ⟨_, hcomplete, _⟩ := Logged.outcome_bind.mp hbranch
        exact allAssigned_of_completed hskip hstatus hcomplete
      | _ =>
        obtain rfl := Except.ok.inj hbranch
        cases htrue
  · exact allAssigned_of_completed hskip

theorem nothingSkipped_of_provisionsReported (h : ProvisionsReported ctx state) :
    NothingSkipped ctx state := by
  constructor
  · intro hstatus
    rcases h.reported _ (outcome_invoke hstatus rfl) rfl with hall | hprogress
    · left
      intro job hjob
      exact (mem_assigned_after_of_no_calls hstatus rfl).mp (hall job hjob)
    · exact .inr hprogress
  · intro hstatus hephemeral job hjob
    have hpure : handleCompleted ctx state.batch = pure () := if_pos hephemeral
    have hcalls : (handleStatus ctx state.batch (some .completed)).calls = [] := by
      rw [handleStatus, hpure]
      rfl
    apply (mem_assigned_after_of_no_calls hstatus hcalls).mp
    apply h.retried hstatus _ job hjob
    rw [hpure]
    rfl
  · intro hstatus hbatch hcreate job hjob
    have hresult : (handleStatus ctx state.batch (some .notProvisioned)).outcome =
        .ok { status := some true } := Logged.outcome_bind.mpr ⟨(), hcreate, rfl⟩
    rcases h.reported _ (outcome_invoke hstatus hresult) rfl with hall | hprogress
    · rcases mem_assigned_after.mp (hall job (List.mem_cons_of_mem _ hjob)) with hjob | hjob
      · exact .inl hjob
      · right
        obtain ⟨attributes, hmem, _⟩ := hjob
        rcases Logged.mem_calls_bind.mp ((mem_calls_invoke hstatus).mp hmem) with hmem | ⟨_, _, hm⟩
        · exact eq_of_mem_calls_createNewStack hbatch hmem
        · exact absurd hm List.not_mem_nil
    · exact absurd hprogress (not_stackInProgress hstatus (.inr rfl))

/-- In every run of attempts, successful results mean what they report exactly when no attempt
takes one of the three branches with a job left unassigned. -/
theorem attempts_provision_iff (contexts : List ProvisionContext) (start : ProvisioningState) :
    (∀ attempt ∈ attempts contexts start, ProvisionsReported attempt.1 attempt.2) ↔
      ∀ attempt ∈ attempts contexts start, NothingSkipped attempt.1 attempt.2 :=
  forall₂_congr fun _ _ =>
    ⟨nothingSkipped_of_provisionsReported, provisionsReported_of_nothingSkipped⟩

namespace RetryExample

def job : SocaJob where
  clusterName := some "idea"
  jobId := some "7"
  queue := some "normal"
  queueType := some "compute"
  owner := some "user"
  scalingMode := some .singleJob
  state := some .queued
  queueTime := some 0
  params := some
    { nodes := some 1, instanceTypes := some ["c5.large"],
      customParams := some [("select", some "1:ncpus=1:compute_node=tbd")] }
  provisioningOptions := some {}

def start : ProvisioningState := ⟨⟨job, []⟩, []⟩

def schedulerFails : ProvisionContext where
  digest := id
  utcnow := 100
  currentTimeMs := 100000
  stackProvisioningTimeoutSecs := 1800
  describeStack := fun _ => .ok none
  describeStackResources := fun _ => .ok {}
  describeSpotFleetRequest := fun _ => .ok none
  describeAutoScalingGroup := fun _ => .ok none
  listComputeInstances := fun _ => .ok []
  getNode := fun _ => .ok none
  jobs := .new
  availableLicenses := fun _ => 0
  activeJobLicenses := ∅
  checkBudgetAvailability := fun _ => .ok ()
  runInstancesDryRun := fun _ _ => .error (.clientError "DryRunOperation" "would have succeeded")
  checkServiceQuota := fun _ => .ok ()
  checkReservedInstanceUsage := fun _ => .ok ()
  buildStack := fun _ _ => .ok "stack-id"
  qalter := fun _ _ => some ⟨1, "qalter: cannot connect to server"⟩
  callOutcome := fun _ => .ok ()

def stackCompletes : ProvisionContext :=
  { schedulerFails with
    utcnow := 160
    describeStack := fun _ => .ok (some
      { stackId := some "stack-id", stackStatus := some .createComplete,
        creationTime := some 100 })
    qalter := fun _ _ => some ⟨0, ""⟩ }

end RetryExample

/-- A retry on the complete stack reports success and leaves the job unassigned. -/
theorem retry_skips_unassigned_job :
    ¬ ∀ attempt ∈ attempts [RetryExample.schedulerFails, RetryExample.stackCompletes]
        RetryExample.start, ProvisionsReported attempt.1 attempt.2 := by
  intro h
  have hretry := h (RetryExample.stackCompletes,
    RetryExample.start.after RetryExample.schedulerFails)
    (List.mem_cons_of_mem _ (List.mem_singleton_self _))
  have hassigned := hretry.retried rfl rfl RetryExample.job List.mem_cons_self
  exact absurd hassigned List.not_mem_nil

end ProvisioningState

end Idea

import Idea.Provisioner.Context

/-! # Assigning jobs to stacks in the scheduler

A job is assigned when the scheduler accepts its attributes. The handler for finished jobs is
never entered, because the commands that alter a job report every failure as a scheduler
error.
-/

namespace Idea

def takeBefore (pattern : List Char) : List Char → List Char
  | [] => []
  | c :: cs => if pattern.isPrefixOf (c :: cs) then [] else c :: takeBefore pattern cs

namespace SocaJob

/-- `job.params.custom_params['select'].split(':compute_node')[0]` -/
def selectBeforeComputeNode (job : SocaJob) : Except Raised String :=
  match job.params with
  | none => .error .attributeError
  | some params =>
    match params.customParams with
    | none => .error .typeError
    | some customParams =>
      match customParams.find? fun param => param.1 = "select" with
      | none => .error .keyError
      | some (_, none) => .error .attributeError
      | some (_, some select) =>
        .ok (String.ofList (takeBefore ":compute_node".toList select.toList))

def withStackId (job : SocaJob) (stackId : Option String) : SocaJob :=
  { job with
    provisioned := some true
    params := job.params.map fun params => { params with stackId } }

def withComputeStack (job : SocaJob) (computeStack : String) : SocaJob :=
  { job with params := job.params.map fun params => { params with computeStack } }

end SocaJob

open Provisioning

namespace OpenPBSScheduler

variable (ctx : ProvisionContext)

def alterOutcome : Option CommandResult → Except ProvisioningFailure Unit
  | none => .error ⟨.external, none⟩
  | some result =>
    if result.returncode ≠ 0 then .error ⟨.soca ErrorCodes.SCHEDULER_ERROR result.text, none⟩
    else .ok ()

def setJobAttributes (jobId : Option String) (attributes : JobAttributes) : Provisioning Unit :=
  .call (.setJobAttributes jobId attributes) (alterOutcome (ctx.qalter jobId attributes))

def select (job : SocaJob) : Except Raised String := do
  let select ← job.selectBeforeComputeNode
  let computeStack ← job.getComputeStack ctx.digest
  .ok (select ++ ":compute_node=" ++ computeStack)

def handleFinished (failure : ProvisioningFailure) : Option (Provisioning Unit) :=
  match failure.raised with
  | .soca errorCode _ =>
    if errorCode = ErrorCodes.SCHEDULER_JOB_FINISHED then some (pure ()) else none
  | _ => none

def provisionJob (job : SocaJob) (stackId : Option String) : Provisioning Unit :=
  .tryCatch (do
    let select ← attempt (select ctx job)
    setJobAttributes ctx job.jobId ⟨select, stackId, ctx.currentTimeMs⟩) handleFinished

end OpenPBSScheduler

namespace ProvisionJobs

/-- Assigns a job and records it in the job cache. The pending time that is published in the
end needs the queue time of the job. -/
def provisionJobInScheduler (ctx : ProvisionContext) (job : SocaJob)
    (stackId : Option String) : Provisioning Unit := do
  OpenPBSScheduler.provisionJob ctx job stackId
  let job := job.withStackId stackId
  let computeStack ← attempt (job.getComputeStack ctx.digest)
  let job := job.withComputeStack computeStack
  makeCall ctx (.syncJob job)
  makeCall ctx (.addActiveLicenses job)
  makeCall ctx (.clearJobProvisioningError job.jobId)
  match job.queueTime with
  | none => raise .typeError
  | some _ => pure ()

end ProvisionJobs

def NotFinished {α : Type} (x : Except Raised α) : Prop :=
  ∀ message, x ≠ .error (.soca ErrorCodes.SCHEDULER_JOB_FINISHED message)

theorem notFinished_bind {α β : Type} {x : Except Raised α} {f : α → Except Raised β}
    (hx : NotFinished x) (hf : ∀ a, NotFinished (f a)) : NotFinished (x >>= f) := by
  intro message h
  rcases Raised.bind_eq_error.mp h with h | ⟨a, _, h⟩
  · exact hx message h
  · exact hf a message h

theorem notFinished_ok {α : Type} (a : α) : NotFinished (.ok a : Except Raised α) := by
  rintro _ ⟨⟩

theorem notFinished_invalidJob {α : Type} (info : String) :
    NotFinished (.error (invalidJob info) : Except Raised α) := by
  intro message h
  have hcode : ErrorCodes.SOCA_SCHEDULER_INVALID_JOB = ErrorCodes.SCHEDULER_JOB_FINISHED :=
    (Raised.soca.inj (Except.error.inj h)).1
  exact absurd hcode (by decide)

namespace SocaJob

variable (digest : String → String) (job : SocaJob)

theorem notFinished_require {α : Type} (info : String) (a : Option α) :
    NotFinished (getJobGroup.require info a) := by
  cases a with
  | none => exact notFinished_invalidJob info
  | some a => exact notFinished_ok a

theorem notFinished_capacityType : NotFinished job.capacityType := by
  unfold capacityType
  split
  · exact notFinished_invalidJob _
  · exact notFinished_ok _

theorem notFinished_getJobGroup : NotFinished (job.getJobGroup digest) := by
  unfold getJobGroup
  split
  · exact notFinished_ok _
  split
  · exact notFinished_invalidJob _
  split
  · exact notFinished_ok _
  split
  · exact notFinished_invalidJob _
  iterate 6
    apply notFinished_bind (notFinished_require _ _)
    intro _
  apply notFinished_bind (notFinished_capacityType job)
  intro _
  exact notFinished_ok _

theorem notFinished_newComputeStack : NotFinished (job.newComputeStack digest) := by
  apply notFinished_bind (notFinished_capacityType job)
  intro capacityType
  dsimp only
  split
  · split
    · rintro _ ⟨⟩
    · exact notFinished_ok _
  · apply notFinished_bind
    · unfold stackIdentifier
      split
      · exact notFinished_getJobGroup digest job
      · exact notFinished_ok _
    · exact fun _ => notFinished_ok _

theorem notFinished_getComputeStack : NotFinished (job.getComputeStack digest) := by
  unfold getComputeStack
  split
  · exact notFinished_invalidJob _
  split
  · exact notFinished_newComputeStack digest job
  · split
    · exact notFinished_ok _
    · exact notFinished_newComputeStack digest job

theorem notFinished_selectBeforeComputeNode : NotFinished job.selectBeforeComputeNode := by
  unfold selectBeforeComputeNode
  iterate 3
    split
    · rintro _ ⟨⟩
  · rintro _ ⟨⟩
  · exact notFinished_ok _

end SocaJob

variable {jobId : Option String} {attributes : JobAttributes}

namespace OpenPBSScheduler

variable {ctx : ProvisionContext} {job : SocaJob} {stackId : Option String}

theorem notFinished_select : NotFinished (select ctx job) := by
  apply notFinished_bind (SocaJob.notFinished_selectBeforeComputeNode job)
  intro _
  apply notFinished_bind (SocaJob.notFinished_getComputeStack ctx.digest job)
  exact fun _ => notFinished_ok _

def Accepts (ctx : ProvisionContext) (jobId : Option String) (attributes : JobAttributes) :
    Prop :=
  ∃ result, ctx.qalter jobId attributes = some result ∧ result.returncode = 0

theorem alterOutcome_eq_ok :
    alterOutcome (ctx.qalter jobId attributes) = .ok () ↔ Accepts ctx jobId attributes := by
  unfold Accepts
  cases h : ctx.qalter jobId attributes with
  | none => simp [alterOutcome]
  | some result => simp [alterOutcome]

theorem handleFinished_of_ne {errorCode message : String}
    (h : errorCode ≠ ErrorCodes.SCHEDULER_JOB_FINISHED) :
    handleFinished ⟨.soca errorCode message, none⟩ = none :=
  if_neg h

theorem provisionJob_eq (ctx : ProvisionContext) (job : SocaJob) (stackId : Option String) :
    provisionJob ctx job stackId = (do
      let select ← attempt (select ctx job)
      setJobAttributes ctx job.jobId ⟨select, stackId, ctx.currentTimeMs⟩) := by
  apply Logged.tryCatch_eq_self
  intro failure h
  rcases Logged.outcome_bind_error.mp h with h | ⟨select, _, h⟩
  · obtain ⟨e, he, rfl⟩ := outcome_attempt_error.mp h
    cases e with
    | soca errorCode message =>
      apply handleFinished_of_ne
      rintro rfl
      exact notFinished_select message he
    | _ => rfl
  · have halter : alterOutcome (ctx.qalter job.jobId ⟨select, stackId, ctx.currentTimeMs⟩) =
        .error failure := h
    unfold alterOutcome at halter
    split at halter
    · cases halter
      rfl
    · split at halter
      · cases halter
        exact handleFinished_of_ne (by decide)
      · cases halter

theorem accepted_of_provisionJob (h : (provisionJob ctx job stackId).outcome = .ok ()) :
    ∃ attributes, .setJobAttributes job.jobId attributes ∈ (provisionJob ctx job stackId).calls ∧
      Accepts ctx job.jobId attributes := by
  rw [provisionJob_eq] at h ⊢
  obtain ⟨select, hselect, hset⟩ := Logged.outcome_bind.mp h
  refine ⟨⟨select, stackId, ctx.currentTimeMs⟩, ?_, alterOutcome_eq_ok.mp hset⟩
  apply Logged.mem_calls_bind.mpr
  exact .inr ⟨select, hselect, List.mem_singleton_self _⟩

theorem eq_of_mem_calls_provisionJob
    (h : .setJobAttributes jobId attributes ∈ (provisionJob ctx job stackId).calls) :
    jobId = job.jobId := by
  rw [provisionJob_eq] at h
  rcases Logged.mem_calls_bind.mp h with h | ⟨select, _, h⟩
  · exact absurd h List.not_mem_nil
  · exact (ProvisionCall.setJobAttributes.inj (List.mem_singleton.mp h)).1

end OpenPBSScheduler

namespace ProvisionJobs

variable {ctx : ProvisionContext} {job : SocaJob} {stackId : Option String}

theorem accepted_of_provisionJobInScheduler
    (h : (provisionJobInScheduler ctx job stackId).outcome = .ok ()) :
    ∃ attributes,
      .setJobAttributes job.jobId attributes ∈ (provisionJobInScheduler ctx job stackId).calls ∧
      OpenPBSScheduler.Accepts ctx job.jobId attributes := by
  obtain ⟨_, hprovision, _⟩ := Logged.outcome_bind.mp h
  obtain ⟨attributes, hmem, haccepts⟩ := OpenPBSScheduler.accepted_of_provisionJob hprovision
  exact ⟨attributes, Logged.mem_calls_bind.mpr (.inl hmem), haccepts⟩

theorem eq_of_mem_calls_provisionJobInScheduler
    (h : .setJobAttributes jobId attributes ∈ (provisionJobInScheduler ctx job stackId).calls) :
    jobId = job.jobId := by
  rcases Logged.mem_calls_bind.mp h with h | ⟨_, _, h⟩
  · exact OpenPBSScheduler.eq_of_mem_calls_provisionJob h
  rcases Logged.mem_calls_bind.mp h with h | ⟨_, _, h⟩
  · exact absurd h List.not_mem_nil
  iterate 3
    rcases Logged.mem_calls_bind.mp h with h | ⟨_, _, h⟩
    · cases List.mem_singleton.mp h
  split at h
  · exact absurd h List.not_mem_nil
  · exact absurd h List.not_mem_nil

end ProvisionJobs

end Idea

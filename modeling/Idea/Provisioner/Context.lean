import Idea.System.Logged
import Idea.Provisioner.Licenses
import Idea.Model.Stack

/-! # Provisioning calls

What the provisioning of a batch reads and calls: the stack of the batch, its fleet or auto
scaling group, the instance cache, the job cache and the scheduler. Every lookup and every
call has an arbitrary outcome.
-/

namespace Idea

namespace ErrorCodes

def EC2_DRY_RUN_FAILED : String := "EC2_DRY_RUN_FAILED"
def SHARED_CAPACITY_UNAVAILABLE : String := "SHARED_CAPACITY_UNAVAILABLE"
def SHARED_CAPACITY_INVALID_QUEUE : String := "SHARED_CAPACITY_INVALID_QUEUE"
def SHARED_CAPACITY_MISMATCH : String := "SHARED_CAPACITY_MISMATCH"
def CLOUDFORMATION_STACK_BUILDER_FAILED : String := "CLOUDFORMATION_STACK_BUILDER_FAILED"
def SPOT_FLEET_CAPACITY_UPDATE_IN_PROGRESS : String := "SPOT_FLEET_CAPACITY_UPDATE_IN_PROGRESS"
def MAX_PROVISIONED_INSTANCES_LIMIT : String := "MAX_PROVISIONED_INSTANCES_LIMIT"
def RETRY_JOB_PROVISIONING : String := "RETRY_JOB_PROVISIONING"

end ErrorCodes

/-- The attributes that assign a job to its stack; the time is in milliseconds. -/
structure JobAttributes where
  select : String
  stackId : Option String
  provisioningTime : ℤ

/-- The calls that change stacks, groups, the scheduler or the job cache. -/
inductive ProvisionCall where
  | buildStack (job : SocaJob) (targetCapacityOverride : Option ℤ)
  | modifySpotFleetRequest (spotFleetRequestId : Option String) (targetCapacity : ℤ)
  | updateAutoScalingGroup (autoScalingGroupName : Option String) (desiredCapacity : ℤ)
  | setJobAttributes (jobId : Option String) (attributes : JobAttributes)
  | syncJob (job : SocaJob)
  | addActiveLicenses (job : SocaJob)
  | clearJobProvisioningError (jobId : Option String)

structure CommandResult where
  returncode : ℤ
  text : String

/-- What provisioning reads. A command without a result could not be run. The time `utcnow` is
in microseconds. -/
structure ProvisionContext where
  digest : String → String
  utcnow : ℤ
  currentTimeMs : ℤ
  stackProvisioningTimeoutSecs : ℤ
  describeStack : String → Except Raised (Option CloudFormationStack)
  describeStackResources : String → Except Raised CloudFormationStackResources
  describeSpotFleetRequest : String → Except Raised (Option EC2SpotFleetRequestConfig)
  describeAutoScalingGroup : String → Except Raised (Option AutoScalingGroup)
  listComputeInstances : String → Except Raised (List EC2Instance)
  getNode : Option String → Except Raised (Option SocaComputeNode)
  jobs : JobsTable
  availableLicenses : Option String → ℤ
  activeJobLicenses : LicenseTable
  checkBudgetAvailability : SocaJob → Except Raised Unit
  runInstancesDryRun : SocaJob → String → Except Raised Unit
  checkServiceQuota : List SocaJob → Except Raised Unit
  checkReservedInstanceUsage : List SocaJob → Except Raised Unit
  buildStack : SocaJob → Option ℤ → Except Raised String
  qalter : Option String → JobAttributes → Option CommandResult
  callOutcome : ProvisionCall → Except Raised Unit

structure ProvisioningFailure where
  raised : Raised
  ref : Option (List SocaJob) := none

abbrev Provisioning (α : Type) : Type := Logged ProvisionCall ProvisioningFailure α

namespace Provisioning

variable {α : Type}

def raise (e : Raised) : Provisioning α := .ofExcept (.error ⟨e, none⟩)

def attempt (x : Except Raised α) : Provisioning α := .ofExcept (x.mapError (⟨·, none⟩))

def makeCall (ctx : ProvisionContext) (call : ProvisionCall) : Provisioning Unit :=
  .call call ((ctx.callOutcome call).mapError (⟨·, none⟩))

@[simp] theorem outcome_attempt {x : Except Raised α} {a : α} :
    (attempt x).outcome = .ok a ↔ x = .ok a := by
  cases x <;> simp [attempt, Except.mapError]

theorem outcome_attempt_error {x : Except Raised α} {failure : ProvisioningFailure} :
    (attempt x).outcome = .error failure ↔ ∃ e, x = .error e ∧ ⟨e, none⟩ = failure := by
  cases x <;> simp [attempt, Except.mapError]

@[simp] theorem outcome_raise {e : Raised} {a : α} :
    (raise e : Provisioning α).outcome ≠ .ok a := by
  simp [raise]

end Provisioning

/-- The jobs to provision together, of which the first stands for all. -/
structure JobBatch where
  job : SocaJob
  otherJobs : List SocaJob

namespace JobBatch

variable (batch : JobBatch)

def jobs : List SocaJob := batch.job :: batch.otherJobs

def isBatch : Bool := batch.job.scalingMode = some .batch

end JobBatch

end Idea

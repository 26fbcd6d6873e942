import Idea.Data.Timedelta
import Idea.Provisioner.BatchCapacity
import Idea.Provisioner.Scheduler

/-! # Provisioning a batch of jobs

The status of the stack of a batch decides what happens: a new stack is created, the capacity
of a complete one is shared or updated, or the batch waits. Exceptions end as results.
-/

namespace Idea

inductive ProvisioningStatus where
  | notProvisioned | inProgress | completed | timeout | failed | deleteInProgress
  deriving DecidableEq, Repr

structure ProvisionJobsResult where
  errorCode : Option String := none
  status : Option Bool := none
  unprovisionedJobs : Option (List SocaJob) := none
  exception : Option Raised := none

open Provisioning

namespace JobProvisioningUtil

variable (ctx : ProvisionContext) (batch : JobBatch)

def stackName : Except Raised String := batch.job.getComputeStack ctx.digest

def stack : Except Raised (Option CloudFormationStack) := do
  let stackName ← stackName ctx batch
  ctx.describeStack stackName

def stackResources : Except Raised CloudFormationStackResources := do
  let stackName ← stackName ctx batch
  ctx.describeStackResources stackName

def spotFleet : Except Raised (Option EC2SpotFleetRequestConfig) := do
  let resources ← stackResources ctx batch
  match resources.getSpotFleetRequestId with
  | none => .ok none
  | some spotFleetRequestId => ctx.describeSpotFleetRequest spotFleetRequestId

def autoScalingGroup : Except Raised (Option AutoScalingGroup) := do
  let resources ← stackResources ctx batch
  match resources.getAutoScalingGroupName with
  | none => .ok none
  | some autoScalingGroupName => ctx.describeAutoScalingGroup autoScalingGroupName

def isSpotFleet : Except Raised Bool := do
  let capacityType ← batch.job.capacityType
  .ok (capacityType = .spot)

def canUpdateSpotFleetCapacity : Except Raised Bool := do
  let spotFleet ← spotFleet ctx batch
  match spotFleet with
  | none => .error .attributeError
  | some spotFleet =>
    .ok (spotFleet.activityStatus ∈ ["fulfilled", "pending_fulfillment"].map some &&
      spotFleet.spotFleetRequestState = some "active")

def groupCapacity : Except Raised ℤ := do
  let spot ← isSpotFleet batch
  if spot then do
    let spotFleet ← spotFleet ctx batch
    match spotFleet with
    | none => .error .attributeError
    | some spotFleet => .ok spotFleet.targetCapacity
  else do
    let autoScalingGroup ← autoScalingGroup ctx batch
    match autoScalingGroup with
    | none => .error .attributeError
    | some autoScalingGroup => .ok autoScalingGroup.desiredCapacity

def provisionedCapacity : Except Raised ℤ := do
  let stack ← stack ctx batch
  match stack with
  | none => .ok 0
  | some _ => groupCapacity ctx batch

def setTargetCapacity (targetCapacity : ℤ) : Provisioning Unit :=
  if targetCapacity ≤ 0 then pure ()
  else do
    let spot ← attempt (isSpotFleet batch)
    if spot then do
      let canUpdate ← attempt (canUpdateSpotFleetCapacity ctx batch)
      if canUpdate then do
        let resources ← attempt (stackResources ctx batch)
        makeCall ctx (.modifySpotFleetRequest resources.getSpotFleetRequestId targetCapacity)
      else
        raise (.soca ErrorCodes.SPOT_FLEET_CAPACITY_UPDATE_IN_PROGRESS
          ("Spot fleet capacity cannot can not be updated at this time. " ++
            "Provisioning will be retried."))
    else do
      let resources ← attempt (stackResources ctx batch)
      makeCall ctx (.updateAutoScalingGroup resources.getAutoScalingGroupName targetCapacity)

def updateCapacity : Provisioning BatchCapacityResult := do
  let provisionedCapacity ← attempt (provisionedCapacity ctx batch)
  let result ← attempt (BatchCapacityHelper.invoke ctx batch provisionedCapacity)
  setTargetCapacity ctx batch result.capacityInfo.targetCapacity
  pure result

def isProvisioningTimeout (stack : CloudFormationStack) : Bool :=
  match stack.creationTime with
  | none => false
  | some creationTime =>
    Timedelta.seconds (ctx.utcnow - creationTime) > ctx.stackProvisioningTimeoutSecs

def isStackASharedResource (stack : CloudFormationStack) : Bool :=
  stack.socaKeepForever || stack.socaTerminateWhenIdle > 0

def statusOf (stack : CloudFormationStack) : Option ProvisioningStatus :=
  match stack.stackStatus with
  | some .createComplete =>
    if isStackASharedResource stack then some .completed
    else if isProvisioningTimeout ctx stack then some .timeout
    else some .completed
  | some .createInProgress => some .inProgress
  | some .deleteInProgress => some .deleteInProgress
  | some .createFailed | some .rollbackComplete | some .rollbackFailed => some .failed
  | _ => none

def checkStatus : Except Raised (Option ProvisioningStatus) :=
  match stack ctx batch with
  | .ok none => .ok (some .notProvisioned)
  | .ok (some stack) => .ok (statusOf ctx stack)
  | .error (.clientError code text) =>
    if code = "ValidationError" then .ok (some .notProvisioned)
    else .error (.clientError code text)
  | .error e => .error e

def dryRun (job : SocaJob) (instanceType : String) : Except Raised Unit :=
  match ctx.runInstancesDryRun job instanceType with
  | .error (.clientError code text) =>
    if code = "DryRunOperation" then .ok ()
    else .error (.soca ErrorCodes.EC2_DRY_RUN_FAILED
      ("EC2 dry run failed for instance_type: " ++ instanceType ++ ", Err: " ++ text))
  | result => result

def ec2DryRun : Except Raised Unit :=
  match batch.job.params with
  | none => .error .attributeError
  | some params =>
    match params.instanceTypes with
    | none => .error .typeError
    | some instanceTypes => instanceTypes.forM (dryRun ctx batch.job)

def checkBudgets : Except Raised Unit := ctx.checkBudgetAvailability batch.job

end JobProvisioningUtil

namespace ProvisionJobs

open JobProvisioningUtil

variable (ctx : ProvisionContext) (batch : JobBatch)

def raiseUnprovisioned (unprovisionedJobs : List SocaJob) : Provisioning Unit :=
  if unprovisionedJobs.length > 0 then
    let message := toString unprovisionedJobs.length ++ " of " ++ toString batch.jobs.length ++
      " could not be provisioned at this time. " ++ "Provisioning will be retried for these jobs"
    .ofExcept (.error ⟨.soca ErrorCodes.RETRY_JOB_PROVISIONING message, some unprovisionedJobs⟩)
  else pure ()

def provisionOnStack (job : SocaJob) : Provisioning Unit := do
  let stack ← attempt (stack ctx batch)
  match stack with
  | none => raise .attributeError
  | some stack => provisionJobInScheduler ctx job stack.stackId

def updateCapacity : Provisioning Unit := do
  attempt (checkBudgets ctx batch)
  attempt (ctx.checkServiceQuota batch.jobs)
  attempt (ctx.checkReservedInstanceUsage batch.jobs)
  attempt (checkLicenses ctx.availableLicenses ctx.activeJobLicenses batch.jobs)
  let result ← JobProvisioningUtil.updateCapacity ctx batch
  .forEach (provisionOnStack ctx batch) result.provisionedJobs
  raiseUnprovisioned batch result.unprovisionedJobs

def buildStack (targetCapacityOverride : Option ℤ) : Provisioning String :=
  .call (.buildStack batch.job targetCapacityOverride)
    ((ctx.buildStack batch.job targetCapacityOverride).mapError (⟨·, none⟩))

def createBatchStack : Provisioning (List SocaJob) := do
  let provisionedCapacity ← attempt (provisionedCapacity ctx batch)
  let result ← attempt (BatchCapacityHelper.invoke ctx batch provisionedCapacity)
  let stackId ← buildStack ctx batch (some result.capacityInfo.targetCapacity)
  .forEach (fun job => provisionJobInScheduler ctx job (some stackId)) result.provisionedJobs
  pure result.unprovisionedJobs

def createJobStack : Provisioning (List SocaJob) := do
  let stackId ← buildStack ctx batch none
  provisionJobInScheduler ctx batch.job (some stackId)
  pure []

def createNewStack : Provisioning Unit := do
  attempt (checkBudgets ctx batch)
  attempt (ec2DryRun ctx batch)
  attempt (ctx.checkServiceQuota batch.jobs)
  attempt (ctx.checkReservedInstanceUsage batch.jobs)
  attempt (checkLicenses ctx.availableLicenses ctx.activeJobLicenses batch.jobs)
  let unprovisionedJobs ← if batch.isBatch then createBatchStack ctx batch
    else createJobStack ctx batch
  raiseUnprovisioned batch unprovisionedJobs

def checkSharedStack (stack : CloudFormationStack) : Except Raised Unit := do
  let jobGroup ← batch.job.getJobGroup ctx.digest
  if stack.socaJobGroup ≠ some jobGroup then
    .error (.soca ErrorCodes.SHARED_CAPACITY_MISMATCH
      ("Provisioned capacity does not match the desired capacity requirements." ++
        "Provisioned: " ++ stack.socaJobGroup.getD "None" ++ ", Required: " ++ jobGroup))
  else if batch.job.queue ≠ stack.socaJobQueue then
    .error (.soca ErrorCodes.SHARED_CAPACITY_INVALID_QUEUE
      ("Provisioned capacity queue does not match the desired capacity queue." ++
        "Provisioned: " ++ stack.socaJobQueue.getD "None" ++
        ", Required: " ++ batch.job.queue.getD "None"))
  else do
    let desiredCapacity ← batch.job.desiredCapacity
    let provisionedCapacity ← groupCapacity ctx batch
    if desiredCapacity > provisionedCapacity then
      .error (.soca ErrorCodes.SHARED_CAPACITY_UNAVAILABLE
        ("Not enough capacity available to run job on shared stack." ++
          "desired: " ++ toString desiredCapacity ++
          ", provisioned: " ++ toString provisionedCapacity))
    else .ok ()

def provisionJobOnSharedCapacity : Provisioning Unit := do
  let stack ← attempt (stack ctx batch)
  match stack with
  | none => raise .attributeError
  | some stack => do
    attempt (checkSharedStack ctx batch stack)
    .forEach (provisionOnStack ctx batch) batch.jobs

def handleCompleted : Provisioning Unit :=
  if batch.job.isEphemeralCapacity then pure ()
  else if batch.isBatch then updateCapacity ctx batch
  else provisionJobOnSharedCapacity ctx batch

def handleStatus : Option ProvisioningStatus → Provisioning ProvisionJobsResult
  | some .notProvisioned => do
    createNewStack ctx batch
    pure { status := some true }
  | some .completed => do
    handleCompleted ctx batch
    pure { status := some true }
  | some .inProgress | some .deleteInProgress => pure { status := some false }
  | some .failed | some .timeout =>
    pure { status := some false
           errorCode := some ErrorCodes.CLOUDFORMATION_STACK_BUILDER_FAILED }
  | none => pure { status := some true }

def resultOf (failure : ProvisioningFailure) : ProvisionJobsResult :=
  match failure.raised with
  | .soca errorCode _ =>
    let unprovisionedJobs :=
      if errorCode = ErrorCodes.RETRY_JOB_PROVISIONING then failure.ref else none
    { status := some false, unprovisionedJobs, errorCode := some errorCode,
      exception := some failure.raised }
  | _ =>
    { status := some false, errorCode := some ErrorCodes.GENERAL_ERROR,
      exception := some failure.raised }

def invoke : Provisioning ProvisionJobsResult :=
  .tryCatch (do
    let status ← attempt (checkStatus ctx batch)
    handleStatus ctx batch status) fun failure => some (pure (resultOf failure))

end ProvisionJobs

end Idea

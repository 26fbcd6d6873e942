import Idea.Model.Utils
import Mathlib.Data.Rat.Defs
import Mathlib.Algebra.Order.Ring.Unbundled.Rat

/-! # Jobs and queue profiles

The scheduler's data model: a job with its parameters and provisioning options, the
computed properties the schedulers decide by, and the profile of a queue. A field that
may be absent is an option, as in the source.
-/

namespace Idea

inductive SocaJobState where
  | transition | queued | held | waiting | running | exit | subjobExpired | subjobBegun
  | moved | finished | suspended
  deriving DecidableEq, Repr

inductive SocaMemoryUnit where
  | bytes | kiB | miB | giB | tiB | kb | mb | gb | tb
  deriving DecidableEq, Repr

structure SocaMemory where
  value : ℚ
  unit : SocaMemoryUnit
  deriving DecidableEq

structure SocaAmount where
  amount : ℚ
  unit : String := "USD"
  deriving DecidableEq

inductive SocaSpotAllocationStrategy where
  | capacityOptimized | lowestPrice | diversified
  deriving DecidableEq, Repr

inductive SocaCapacityType where
  | ondemand | spot | mixed
  deriving DecidableEq, Repr

def SocaCapacityType.str : SocaCapacityType → String
  | .ondemand => "on-demand"
  | .spot => "spot"
  | .mixed => "mixed"

inductive SocaScalingMode where
  | singleJob | batch
  deriving DecidableEq, Repr

inductive SocaQueueMode where
  | fifo | fairshare | licenseOptimized
  deriving DecidableEq, Repr

structure SocaFSxLustreConfig where
  enabled : Option Bool := none
  existingFsx : Option String := none
  s3Backend : Option String := none
  importPath : Option String := none
  exportPath : Option String := none
  deploymentType : Option String := none
  perUnitThroughput : Option ℤ := none
  size : Option SocaMemory := none
  deriving DecidableEq

structure SocaJobLicenseAsk where
  name : Option String := none
  count : Option ℤ := none
  deriving DecidableEq

structure SocaJobParams where
  nodes : Option ℤ := none
  cpus : Option ℤ := none
  memory : Option SocaMemory := none
  gpus : Option ℤ := none
  mpiprocs : Option ℤ := none
  walltime : Option String := none
  baseOs : Option String := none
  instanceAmi : Option String := none
  instanceTypes : Option (List String) := none
  forceReservedInstances : Option Bool := none
  spot : Option Bool := none
  spotPrice : Option SocaAmount := none
  spotAllocationCount : Option ℤ := none
  spotAllocationStrategy : Option SocaSpotAllocationStrategy := none
  subnetIds : Option (List String) := none
  securityGroups : Option (List String) := none
  instanceProfile : Option String := none
  keepEbsVolumes : Option Bool := none
  rootStorageSize : Option SocaMemory := none
  enableScratch : Option Bool := none
  scratchProvider : Option String := none
  scratchStorageSize : Option SocaMemory := none
  scratchStorageIops : Option ℤ := none
  fsxLustre : Option SocaFSxLustreConfig := none
  enableInstanceStore : Option Bool := none
  enableEfaSupport : Option Bool := none
  enableHtSupport : Option Bool := none
  enablePlacementGroup : Option Bool := none
  enableSystemMetrics : Option Bool := none
  enableAnonymousMetrics : Option Bool := none
  licenses : Option (List SocaJobLicenseAsk) := none
  computeStack : Option String := none
  stackId : Option String := none
  jobGroup : Option String := none
  jobStartedEmailTemplate : Option String := none
  jobCompletedEmailTemplate : Option String := none
  customParams : Option (List (String × Option String)) := none
  deriving DecidableEq

structure SocaInstanceTypeOptions where
  name : Option String := none
  weightedCapacity : Option ℤ := none
  deriving DecidableEq

structure SocaJobProvisioningOptions where
  keepForever : Option Bool := none
  terminateWhenIdle : Option ℤ := none
  stackUuid : Option String := none
  instanceTypes : Option (List SocaInstanceTypeOptions) := none
  deriving DecidableEq

/-- A job. `queueTime` is the timestamp of its queue time in seconds. -/
structure SocaJob where
  clusterName : Option String := none
  jobId : Option String := none
  jobUid : Option String := none
  jobGroup : Option String := none
  project : Option String := none
  name : Option String := none
  queue : Option String := none
  queueType : Option String := none
  owner : Option String := none
  scalingMode : Option SocaScalingMode := none
  state : Option SocaJobState := none
  provisioned : Option Bool := none
  errorMessage : Option String := none
  queueTime : Option ℤ := none
  comment : Option String := none
  capacityAdded : Option Bool := none
  params : Option SocaJobParams := none
  provisioningOptions : Option SocaJobProvisioningOptions := none
  deriving DecidableEq

namespace SocaJob

def desiredNodes (job : SocaJob) : Except Raised ℤ :=
  match job.params with
  | none => .error (invalidJob "params not found.")
  | some params => .ok (getAsInt params.nodes 1)

def desiredCapacity (job : SocaJob) : Except Raised ℤ :=
  match job.params with
  | none => .error (invalidJob "params not found.")
  | some params => .ok (getAsInt params.nodes 1 * getAsInt params.cpus 1)

def tryExtractJobIdAsInt (job : SocaJob) : Option ℤ :=
  job.jobId.bind fun jobId => intOfDigits (jobId.toList.takeWhile Char.isDigit)

def isProvisioned (job : SocaJob) : Bool :=
  match job.provisioned with
  | some provisioned => provisioned
  | none =>
    match job.params with
    | none => false
    | some params =>
      match params.stackId with
      | none => false
      | some stackId => stackId ≠ "tbd"

def isEphemeralCapacity (job : SocaJob) : Bool :=
  match job.provisioningOptions with
  | none => false
  | some options =>
    if isTrue options.keepForever then false
    else if getAsInt options.terminateWhenIdle 0 > 0 then false
    else true

def isSharedCapacity (job : SocaJob) : Bool := !job.isEphemeralCapacity

def isPersistentCapacity (job : SocaJob) : Bool :=
  match job.provisioningOptions with
  | none => false
  | some options => isTrue options.keepForever

def capacityType (job : SocaJob) : Except Raised SocaCapacityType :=
  match job.params with
  | none => .error (invalidJob "params not found")
  | some params =>
    .ok <| if getAsBool params.spot false then
      if getAsInt params.spotAllocationCount 0 = 0 then .spot else .mixed
    else .ondemand

def ondemandNodes (job : SocaJob) : Except Raised ℤ :=
  match job.params with
  | none => .ok 0
  | some params => do
    let capacityType ← job.capacityType
    if capacityType = .spot then .ok 0
    else .ok (getAsInt params.nodes 0 - getAsInt params.spotAllocationCount 0)

def spotNodes (job : SocaJob) : Except Raised ℤ :=
  match job.params with
  | none => .ok 0
  | some params =>
    match params.nodes with
    | none => .ok 0
    | some nodes => do
      match ← job.capacityType with
      | .mixed => .ok (getAsInt params.spotAllocationCount 0)
      | .spot => .ok nodes
      | .ondemand => .ok 0

def defaultInstanceType (job : SocaJob) : Except Raised String :=
  match job.params with
  | none => .error (invalidJob "params not found")
  | some params =>
    match params.instanceTypes.bind List.head? with
    | none => .error (invalidJob "params.instance_types not found")
    | some instanceType => .ok instanceType

/-- The job group: a given one, or `g` and a digest of what the capacity depends on. -/
def getJobGroup (digest : String → String) (job : SocaJob) : Except Raised String :=
  match job.jobGroup with
  | some jobGroup => .ok jobGroup
  | none =>
    match job.params with
    | none => .error (invalidJob "params not found")
    | some params =>
      match params.jobGroup with
      | some jobGroup => .ok jobGroup
      | none =>
        if job.isProvisioned then .error (invalidJob "params.job_group not found")
        else do
          let clusterName ← require "cluster_name not found" job.clusterName
          let queueType ← require "queue_type not found" job.queueType
          let queue ← require "queue not found" job.queue
          let instanceTypes ← require "params.instance_types not found"
            (params.instanceTypes.filter (· ≠ []))
          let instanceAmi ← require "params.instance_ami not found"
            (params.instanceAmi.filter fun ami => !isEmptyString (some ami))
          let enableHtSupport ← require "params.enable_ht_support not found"
            params.enableHtSupport
          let capacityType ← job.capacityType
          let tokens := [clusterName, queueType, queue] ++ instanceTypes ++
            [instanceAmi, if enableHtSupport then "true" else "false", capacityType.str]
          .ok ("g" ++ digest (":".intercalate tokens))
where
  require {α : Type} (info : String) : Option α → Except Raised α
    | none => .error (invalidJob info)
    | some a => .ok a

/-- Lower case without white space around it, hyphens or underscores. -/
def sanitize (token : String) : String :=
  String.ofList (((stripChars token.toList).map Char.toLower).filter fun c => c ≠ '-' && c ≠ '_')

def stackIdentifier (digest : String → String) (job : SocaJob) : Except Raised String :=
  if job.isSharedCapacity then job.getJobGroup digest else .ok (job.jobId.getD "None")

def newComputeStack (digest : String → String) (job : SocaJob) : Except Raised String := do
  let capacityType ← job.capacityType
  let clusterName := job.clusterName.getD "None"
  if job.isPersistentCapacity then
    match job.provisioningOptions.bind SocaJobProvisioningOptions.stackUuid with
    | none => .error .attributeError
    | some stackUuid => .ok (clusterName ++ "-keepforever-" ++ sanitize stackUuid)
  else do
    let identifier ← job.stackIdentifier digest
    .ok (clusterName ++ "-" ++ job.queueType.getD "None" ++ "-" ++ sanitize capacityType.str ++
      "-" ++ identifier)

def getComputeStack (digest : String → String) (job : SocaJob) : Except Raised String :=
  match job.params with
  | none => .error (invalidJob "params not found")
  | some params =>
    match params.computeStack with
    | none => job.newComputeStack digest
    | some computeStack =>
      if !isEmptyString (some computeStack) && computeStack ≠ "tbd" then .ok computeStack
      else job.newComputeStack digest

def instanceTypeOptions (job : SocaJob) : Except Raised (List SocaInstanceTypeOptions) :=
  match job.provisioningOptions with
  | none => .error (invalidJob "provisioning_options not found")
  | some options =>
    if isEmptyList options.instanceTypes then
      .error (invalidJob "provisioning_options.instance_types not found")
    else .ok (options.instanceTypes.getD [])

def weightedCapacity (job : SocaJob) (instanceType : Option String) :
    Except Raised (Option ℤ) := do
  let options ← job.instanceTypeOptions
  match instanceType with
  | none => .ok (options.head?.bind SocaInstanceTypeOptions.weightedCapacity)
  | some instanceType =>
    match options.find? fun option => option.name = some instanceType with
    | none => .error (invalidJob
        (instanceType ++ " not found in provisioning_options.instance_types[]"))
    | some option => .ok option.weightedCapacity

end SocaJob

structure SocaQueueManagementParams where
  maxRunningJobs : Option ℤ := none
  maxProvisionedInstances : Option ℤ := none
  maxProvisionedCapacity : Option ℤ := none
  waitOnAnyJobWithLicense : Option Bool := none
  allowedInstanceTypes : Option (List String) := none
  excludedInstanceTypes : Option (List String) := none
  restrictedParameters : Option (List String) := none
  allowedSecurityGroups : Option (List String) := none
  allowedInstanceProfiles : Option (List String) := none
  deriving DecidableEq

/-- A reference to a project; queue profiles only use its id. -/
structure Project where
  projectId : Option String := none
  deriving DecidableEq

/-- A queue profile. Dates are in milliseconds since the epoch. -/
structure HpcQueueProfile where
  queueProfileId : Option String := none
  title : Option String := none
  description : Option String := none
  name : Option String := none
  projects : Option (List Project) := none
  queues : Option (List String) := none
  enabled : Option Bool := none
  queueMode : Option SocaQueueMode := none
  scalingMode : Option SocaScalingMode := none
  terminateWhenIdle : Option ℤ := none
  keepForever : Option Bool := none
  stackUuid : Option String := none
  queueManagementParams : Option SocaQueueManagementParams := none
  defaultJobParams : Option SocaJobParams := none
  createdOn : Option ℤ := none
  updatedOn : Option ℤ := none
  deriving DecidableEq

structure QueuedJob where
  priority : ℤ
  jobId : String
  jobGroup : String
  deleted : Option Bool := none
  processed : Option Bool := none
  capacityAdded : Option Bool := none
  deriving DecidableEq

structure LimitCheckResult where
  success : Option Bool := none
  limitType : Option String := none
  queueThreshold : Option ℤ := none
  queueCurrent : ℤ
  deriving DecidableEq

namespace LimitCheckResult

def passed (result : LimitCheckResult) : Bool := getAsBool result.success false

def ok (result : LimitCheckResult) : LimitCheckResult := { result with success := some true }

def fail (result : LimitCheckResult) : LimitCheckResult := { result with success := some false }

def isQueueLimit (result : LimitCheckResult) : Bool :=
  match result.queueThreshold with
  | none => false
  | some queueThreshold => result.queueCurrent > queueThreshold

end LimitCheckResult

end Idea

import Idea.Model.Job
import Idea.Queue.RoundRobin

/-! # The job provisioning queue

Jobs of one queue profile wait here for capacity. `put` queues a job or refreshes one that
is queued, `delete` marks one, and each turn of the loop in `get` takes one out of the
priority queues, looks it up in the job cache, checks the limits and, on every way out,
removes it from the map of queued jobs. What the code reads from other components at that
moment is an argument.
-/

namespace Idea

def LIMIT_TYPE_MAX_PROVISIONED_INSTANCES : String := "max_provisioned_instances"
def LIMIT_TYPE_MAX_RUNNING_JOBS : String := "max_running_jobs"

/-- What a put reads outside the queue: the fair share score of a job and the digest that
names a job group. -/
structure PutContext where
  computeFairshareScore : SocaJob → Except Raised ℤ
  digest : String → String

/-- What one turn of the loop in `get` reads outside the queue: the job cache, the instance
cache, the outcome of recording a provisioning error, and the time in microseconds. -/
structure GetContext extends PutContext where
  getJob : String → Except Raised (Option SocaJob)
  instanceCount : Except Raised ℤ
  activeJobs : Except Raised ℤ
  setJobProvisioningError : Except Raised Unit
  utcnow : ℤ

/-- The state of a provisioning queue. The priority queues hold ids of `queuedJobs`. -/
structure JobProvisioningQueue where
  queueProfile : HpcQueueProfile
  queue : RoundRobinPriorityQueue
  queuedJobs : Dict String QueuedJob
  limitFlagSet : Option ℤ
  limitInfo : Option LimitCheckResult
  isRunning : Bool

namespace JobProvisioningQueue

def new (queueProfile : HpcQueueProfile) : JobProvisioningQueue :=
  ⟨queueProfile, .new, ∅, none, none, false⟩

variable (self : JobProvisioningQueue)

def queueType : Option String := self.queueProfile.name

/-- The loop of `get_queue_order`, whose variable shadows the name it looks for. -/
def queueOrderLoop : List String → ℤ → Option ℤ
  | [], _ => none
  | queueName :: rest, queueOrder =>
    if queueName ≠ queueName then queueOrderLoop rest (queueOrder + 1) else some (queueOrder + 1)

def getQueueOrder (queueName : Option String) : Except Raised ℤ :=
  match self.queueProfile.queues with
  | none => .error .typeError
  | some queues =>
    match queueOrderLoop queues 0 with
    | some queueOrder => .ok queueOrder
    | none => .error <| .soca ErrorCodes.GENERAL_ERROR
        ("queue_name not found: " ++ queueName.getD "None")

def queueMode : SocaQueueMode := self.queueProfile.queueMode.getD .fifo

def priorityBase (ctx : PutContext) (job : SocaJob) : Except Raised ℤ :=
  if self.queueMode = .fairshare then ctx.computeFairshareScore job
  else
    match job.queueTime with
    | some timestamp => .ok timestamp
    | none => .error .attributeError

def getJobPriority (ctx : PutContext) (job : SocaJob) : Except Raised ℤ := do
  let base ← self.priorityBase ctx job
  let queueOrder ← self.getQueueOrder job.queue
  .ok (base * queueOrder + job.tryExtractJobIdAsInt.getD 0)

def isQueueApplicable (queueName : Option String) : Bool :=
  match queueName with
  | none => false
  | some queueName => queueName ∈ self.queueProfile.queues.getD []

def priorityLt (queuedJobs : Dict String QueuedJob) (a b : String) : Bool :=
  match queuedJobs.get? a, queuedJobs.get? b with
  | some a, some b => a.priority < b.priority
  | _, _ => false

def waitingGroup (ctx : PutContext) (job : SocaJob) : Except Raised (Option String) :=
  if job.isEphemeralCapacity then .ok self.queueType else (job.getJobGroup ctx.digest).map some

/-- The entry `put` makes for a job that is not queued yet. -/
def newQueuedJob (ctx : PutContext) (job : SocaJob) : Except Raised QueuedJob := do
  let jobGroup ← self.waitingGroup ctx job
  let priority ← self.getJobPriority ctx job
  match job.jobId, jobGroup with
  | some jobId, some jobGroup =>
    .ok { priority, jobId, jobGroup, capacityAdded := job.capacityAdded }
  | _, _ => .error .validationError

def findQueuedJob (job : SocaJob) : Option (String × QueuedJob) :=
  job.jobId.bind fun jobId => (self.queuedJobs.get? jobId).map fun queuedJob => (jobId, queuedJob)

/-- The queue after `put`, or `none` when the call blocks on a full priority queue. A raised
exception leaves the queue as it was. -/
def put (ctx : PutContext) (job : SocaJob) : Option (Except Raised JobProvisioningQueue) :=
  if !self.isQueueApplicable job.queue then some (.ok self)
  else if job.state ≠ some .queued then some (.ok self)
  else if job.isProvisioned then some (.ok self)
  else
    match self.findQueuedJob job with
    | some (jobId, queuedJob) =>
      some <| (self.getJobPriority ctx job).map fun priority =>
        let queuedJob := { queuedJob with priority, deleted := none }
        { self with queuedJobs := self.queuedJobs.set jobId queuedJob }
    | none =>
      match self.newQueuedJob ctx job with
      | .error e => some (.error e)
      | .ok queuedJob =>
        let queuedJobs := self.queuedJobs.set queuedJob.jobId queuedJob
        (self.queue.put (priorityLt queuedJobs) queuedJob.jobGroup queuedJob.jobId).map
          fun queue => .ok { self with queue, queuedJobs }

def delete (jobId : String) : JobProvisioningQueue :=
  match self.queuedJobs.get? jobId with
  | none => self
  | some queuedJob =>
    let queuedJob := { queuedJob with deleted := some true }
    { self with queuedJobs := self.queuedJobs.set jobId queuedJob }

def removeQueuedJob (jobId : String) : Except Raised JobProvisioningQueue :=
  if self.queuedJobs.has jobId then .ok { self with queuedJobs := self.queuedJobs.erase jobId }
  else .error .keyError

def queueParams : Except Raised SocaQueueManagementParams :=
  match self.queueProfile.queueManagementParams with
  | none => .error .attributeError
  | some queueParams => .ok queueParams

def limitResult (limitType : String) (queueParams : SocaQueueManagementParams)
    (queueCurrent : ℤ) : LimitCheckResult :=
  { limitType := some limitType
    queueThreshold := queueParams.maxProvisionedInstances
    queueCurrent }

def isMaxProvisionedInstancesLimit (ctx : GetContext) (job : SocaJob) :
    Except Raised (Option LimitCheckResult) := do
  let count ← ctx.instanceCount
  let queueParams ← self.queueParams
  let maxProvisionedInstances := getAsInt queueParams.maxProvisionedInstances 0
  if maxProvisionedInstances = 0 then .ok none
  else
    let desiredNodes ← job.desiredNodes
    let result := limitResult LIMIT_TYPE_MAX_PROVISIONED_INSTANCES queueParams
      (count + desiredNodes)
    .ok <| some <|
      if count + desiredNodes > maxProvisionedInstances then result.fail else result.ok

def isMaxRunningJobsLimit (ctx : GetContext) : Except Raised (Option LimitCheckResult) := do
  let queueParams ← self.queueParams
  let maxRunningJobs := getAsInt queueParams.maxRunningJobs 0
  if maxRunningJobs = 0 then .ok none
  else
    let queueTotal ← ctx.activeJobs
    let result := limitResult LIMIT_TYPE_MAX_RUNNING_JOBS queueParams queueTotal
    .ok <| some <| if queueTotal + 1 > maxRunningJobs then result.fail else result.ok

/-- How `_check_limits` ends: true, false, or `queue.Empty` raised to block the queue. -/
inductive LimitVerdict where
  | ok | notOk | blocked
  deriving DecidableEq

/-- `delta.seconds`: what is left of the difference after whole days. -/
def deltaSeconds (utcnow limitFlagSet : ℤ) : ℤ := (utcnow - limitFlagSet) / 1000000 % 86400

/-- The handler of a failed limit: the job is put back and, for a limit of the whole queue,
the queue is blocked. -/
def notOk (ctx : GetContext) (job : SocaJob) (limit : LimitCheckResult) :
    Option (JobProvisioningQueue × Except Raised LimitVerdict) :=
  (self.put ctx.toPutContext job).map fun
    | .error e => (self, .error e)
    | .ok self =>
      if limit.isQueueLimit then
        let stale := match self.limitFlagSet with
          | none => true
          | some limitFlagSet => deltaSeconds ctx.utcnow limitFlagSet > 60
        let self := { self with
          limitInfo := some limit
          limitFlagSet := if stale then some ctx.utcnow else self.limitFlagSet }
        (self, ctx.setJobProvisioningError.map fun _ => .blocked)
      else ({ self with limitFlagSet := none }, .ok .notOk)

def failingLimit (ctx : GetContext) (job : SocaJob) : Except Raised (Option LimitCheckResult) := do
  let result ← self.isMaxProvisionedInstancesLimit ctx job
  match result.filter (!·.passed) with
  | some limit => .ok (some limit)
  | none =>
    let result ← self.isMaxRunningJobsLimit ctx
    .ok (result.filter (!·.passed))

def checkLimits (ctx : GetContext) (job : SocaJob) :
    Option (JobProvisioningQueue × Except Raised LimitVerdict) :=
  match self.failingLimit ctx job with
  | .error e => some (self, .error e)
  | .ok (some limit) => self.notOk ctx job limit
  | .ok none => some ({ self with limitFlagSet := none, limitInfo := none }, .ok .ok)

/-- What a turn of the loop in `get` did with the job it took out. -/
inductive Outcome where
  | returned (job : SocaJob)
  | missing
  | notQueued (job : SocaJob)
  | limited (verdict : LimitVerdict)
  | raised (e : Raised)
  deriving DecidableEq

/-- What a turn of the loop in `get` did. -/
inductive GetEvent where
  | stopped
  | empty
  | took (jobId : String) (outcome : Outcome)
  deriving DecidableEq

/-- The body of the inner `try`, with the job still in `queuedJobs`. -/
def process (ctx : GetContext) (jobId : String) : Option (JobProvisioningQueue × Outcome) :=
  match ctx.getJob jobId with
  | .error e => some (self, .raised e)
  | .ok none => some (self, .missing)
  | .ok (some job) =>
    if job.state ≠ some .queued then some (self, .notQueued job)
    else (self.checkLimits ctx job).map fun
      | (self, .error e) => (self, .raised e)
      | (self, .ok .ok) => (self, .returned job)
      | (self, .ok verdict) => (self, .limited verdict)

/-- The `finally` clause: the job leaves `queuedJobs` on every way out, and a failure to
remove it replaces the outcome. -/
def finish (jobId : String) (outcome : Outcome) : JobProvisioningQueue × GetEvent :=
  match self.removeQueuedJob jobId with
  | .ok self => (self, .took jobId outcome)
  | .error e => (self, .took jobId (.raised e))

/-- One turn of the loop in `get`. -/
def getTurn (ctx : GetContext) : Option (JobProvisioningQueue × GetEvent) :=
  if self.isRunning then some (self, .stopped)
  else
    match self.queue.get (priorityLt self.queuedJobs) with
    | (none, queue) => some ({ self with queue }, .empty)
    | (some jobId, queue) =>
      (process { self with queue } ctx jobId).map fun (self, outcome) =>
        self.finish jobId outcome

/-- Whether the loop in `get` goes on after an event. -/
def GetEvent.continues : GetEvent → Bool
  | .took _ .missing | .took _ (.notQueued _) | .took _ (.limited .notOk) => true
  | .took _ (.raised (.soca errorCode _)) => errorCode = ErrorCodes.SCHEDULER_JOB_FINISHED
  | _ => false

/-- `get`: turns until one ends the loop, each in the context of its own moment. -/
def get (ctxs : ℕ → GetContext) : ℕ → JobProvisioningQueue →
    Option (JobProvisioningQueue × List GetEvent)
  | 0, _ => none
  | fuel + 1, self =>
    (self.getTurn (ctxs 0)).bind fun (self, event) =>
      if event.continues then
        (get (fun i => ctxs (i + 1)) fuel self).map fun (self, events) => (self, event :: events)
      else some (self, [event])

def destroy : JobProvisioningQueue := { self with isRunning := true }

end JobProvisioningQueue

end Idea

import Idea.System.Logged
import Idea.JobMonitor.JobsDB
import Idea.Model.Stack

/-! # A node housekeeping session

A session picks the idle nodes as candidates, takes the ones that are still not busy offline,
computes the capacity that is left to their fleet or auto scaling group, decides which
instances to terminate and which stacks to delete, and then carries it out. The passes are
those of `begin` in its order, which leaves out the pass that compares the present capacity
with the required one.
-/

namespace Idea

/-- The cached instances, each under its own id. -/
structure InstanceTable where
  rows : Dict String EC2Instance
  own : ∀ instanceId i, rows.get? instanceId = some i → i.instanceId = instanceId

structure SetOrder (α : Type) where
  order : List α → List α
  perm : ∀ l, (order l).Perm l

def SetOrder.identity (α : Type) : SetOrder α := ⟨id, fun _ => List.Perm.refl _⟩

inductive GroupKind where
  | spotFleet
  | autoScalingGroup
  deriving DecidableEq, Repr

/-- The calls of a session that change nodes, instances, groups or stacks. -/
inductive SessionCall where
  | setNodeState (host : Option String) (state : SocaComputeNodeState)
  | deleteNode (host : Option String)
  | terminateInstances (instanceIds : List String) (force : Bool)
  | modifySpotFleetRequest (spotFleetRequestId : String) (targetCapacity : ℤ)
  | detachInstances (autoScalingGroupName : String) (instanceIds : List String)
  | updateAutoScalingGroup (autoScalingGroupName : String) (desiredCapacity : ℤ)
  | deleteStack (stackName : Option String)

/-- What a session reads: the nodes as listed in the first pass and as fetched again by host
later, the caches, the scheduler's queue, the groups as described in the passes for present
and desired capacity, the outcomes of its calls, and the order of its sets. Time is in
seconds. -/
structure SessionContext where
  clusterName : String
  utcnow : ℤ
  listNodes : Except Raised (List SocaComputeNode)
  getNode : Option String → Except Raised (Option SocaComputeNode)
  instances : InstanceTable
  jobs : JobsTable
  pendingJobs : Option String → Except Raised ℕ
  describeSpotFleetRequest : Bool → String → Except Raised (Option EC2SpotFleetRequestConfig)
  describeAutoScalingGroup : Bool → String → Except Raised (Option AutoScalingGroup)
  callOutcome : SessionCall → Except Raised Unit
  instanceOrder : SetOrder EC2Instance
  nodeOrder : SetOrder SocaComputeNode
  stackOrder : SetOrder (Option String)

/-- What a session keeps about the spot fleets, and likewise about the auto scaling groups. -/
structure GroupBook where
  instances : Dict String (List EC2Instance) := ∅
  presentCapacities : Dict String ℤ := ∅
  desiredCapacities : Dict String (ℤ × ℤ) := ∅
  updateCapacities : Dict String (ℤ × ℤ) := ∅

structure NodeHouseKeepingSession where
  jobGroups : Dict (Option String) (List EC2Instance) := ∅
  spotFleets : GroupBook := {}
  autoScalingGroups : GroupBook := {}
  nodesToDelete : List SocaComputeNode := []
  instancesToTerminate : List EC2Instance := []
  stacksToDelete : List (Option String) := []
  autoScalingGroupDetachInstances : Dict String (List String) := ∅

structure GroupConfig where
  currentCapacity : ℤ
  weightedCapacities : Option WeightedCapacities

namespace SessionContext

def getInstance (ctx : SessionContext) (instanceId : Option String) : Option EC2Instance :=
  instanceId.bind ctx.instances.rows.get?

def getJob (ctx : SessionContext) (jobId : Option String) : Option SocaJob :=
  (ctx.jobs.rows.get? jobId).bind JobRow.jobData

def describe (ctx : SessionContext) (desired : Bool) :
    GroupKind → String → Except Raised (Option GroupConfig)
  | .spotFleet, id => do
    let result ← ctx.describeSpotFleetRequest desired id
    .ok (result.map fun config =>
      ⟨min config.fulfilledCapacity config.targetCapacity, config.weightedCapacities⟩)
  | .autoScalingGroup, name => do
    let result ← ctx.describeAutoScalingGroup desired name
    .ok (result.map fun config => ⟨config.desiredCapacity, config.weightedCapacities⟩)

end SessionContext

def addInstance (set : List EC2Instance) (instance_ : EC2Instance) : List EC2Instance :=
  if instance_.instanceId ∈ set.map EC2Instance.instanceId then set else set ++ [instance_]

def addNode (set : List SocaComputeNode) (node : SocaComputeNode) : List SocaComputeNode :=
  if node.host ∈ set.map SocaComputeNode.host then set else set ++ [node]

def appendAt {κ α : Type} [DecidableEq κ] (d : Dict κ (List α)) (k : κ) (a : α) :
    Dict κ (List α) :=
  d.set k ((d.get? k).getD [] ++ [a])

namespace NodeHouseKeepingSession

variable (ctx : SessionContext) (self : NodeHouseKeepingSession)

def book : GroupKind → GroupBook
  | .spotFleet => self.spotFleets
  | .autoScalingGroup => self.autoScalingGroups

def modifyBook (kind : GroupKind) (f : GroupBook → GroupBook) : NodeHouseKeepingSession :=
  match kind with
  | .spotFleet => { self with spotFleets := f self.spotFleets }
  | .autoScalingGroup => { self with autoScalingGroups := f self.autoScalingGroups }

def getPresentCapacity (weightedCapacities : Option WeightedCapacities)
    (instances : List EC2Instance) : Except Raised ℤ :=
  match weightedCapacities with
  | none => .ok instances.length
  | some weights => instances.foldlM (fun weightedCapacity instance_ =>
      match weights.get? instance_.instanceType with
      | none => .error .keyError
      | some none => .error .typeError
      | some (some weight) => .ok (weightedCapacity + weight)) 0

def getDesiredCapacity (currentCapacity : ℤ) (weightedCapacities : Option WeightedCapacities)
    (instances : List EC2Instance) : Except Raised ℤ := do
  let capacity ← getPresentCapacity weightedCapacities instances
  .ok (max 0 (currentCapacity - capacity))

def computeCapacities (desired : Bool) (kind : GroupKind) (self : NodeHouseKeepingSession)
    (group : String × List EC2Instance) : Except Raised NodeHouseKeepingSession := do
  let result ← ctx.describe desired kind group.1
  match result with
  | none => .ok self
  | some config =>
    if desired then do
      let capacity ←
        getDesiredCapacity config.currentCapacity config.weightedCapacities group.2
      .ok (self.modifyBook kind fun book =>
        { book with desiredCapacities :=
            book.desiredCapacities.set group.1 (config.currentCapacity, capacity) })
    else do
      let capacity ← getPresentCapacity config.weightedCapacities group.2
      .ok (self.modifyBook kind fun book =>
        { book with presentCapacities := book.presentCapacities.set group.1 capacity })

def computeAllCapacities (desired : Bool) : Except Raised NodeHouseKeepingSession := do
  let self ← self.spotFleets.instances.entries.foldlM (computeCapacities ctx desired .spotFleet)
    self
  self.autoScalingGroups.instances.entries.foldlM
    (computeCapacities ctx desired .autoScalingGroup) self

def addToJobGroup (instance_ : EC2Instance) : NodeHouseKeepingSession :=
  { self with jobGroups := appendAt self.jobGroups instance_.socaJobGroup instance_ }

def lastUsed (node : SocaComputeNode) : Option ℤ :=
  match node.lastUsedTime with
  | some lastUsedTime => some lastUsedTime
  | none => if node.hasState [.free] then node.lastStateChangedTime else none

def canTerminateIdle (instance_ : EC2Instance) (node : SocaComputeNode) : Except Raised Bool :=
  match lastUsed node with
  | none => .ok false
  | some lastUsedTime =>
    if lastUsedTime + 60 * instance_.socaTerminateWhenIdle > ctx.utcnow then .ok false
    else do
      let pendingJobs ← ctx.pendingJobs node.jobGroup
      .ok (pendingJobs = 0)

def hasActiveJob (instance_ : EC2Instance) : Bool :=
  match ctx.getJob instance_.socaJobId with
  | none => false
  | some job => job.state ∈ [some .queued, some .running, some .held]

def canTerminate (instance_ : EC2Instance) (node : SocaComputeNode) : Except Raised Bool :=
  if !instance_.isValidIdeaComputeNode then .ok false
  else if instance_.isSocaEphemeralCapacity && hasActiveJob ctx instance_ then .ok false
  else if instance_.socaKeepForever && instance_.socaTerminateWhenIdle = 0 then .ok false
  else if instance_.socaTerminateWhenIdle > 0 then canTerminateIdle ctx instance_ node
  else .ok true

def groupOf (instance_ : EC2Instance) : Option (GroupKind × String) :=
  if instance_.socaCapacityType = some SocaCapacityType.spot.str then
    instance_.awsEc2spotFleetRequestId.map (.spotFleet, ·)
  else instance_.awsAutoscalingGroupName.map (.autoScalingGroup, ·)

def addCandidateForDeletion (instance_ : EC2Instance) : NodeHouseKeepingSession :=
  match groupOf instance_ with
  | none => self
  | some (kind, id) =>
    self.modifyBook kind fun book =>
      { book with instances := appendAt book.instances id instance_ }

def identifyCandidate (self : NodeHouseKeepingSession) (node : SocaComputeNode) :
    Except Raised NodeHouseKeepingSession :=
  if !node.isProvisioned then .ok self
  else if !node.isValidIdeaComputeNode then .ok self
  else if !node.isCurrentCluster ctx.clusterName then .ok self
  else if node.isBusy then .ok self
  else if !isEmptyList node.jobs then .ok self
  else
    match ctx.getInstance node.instanceId with
    | none => .ok { self with nodesToDelete := addNode self.nodesToDelete node }
    | some instance_ =>
      if instance_.state ∈ ["stopping", "stopped", "shutting-down", "terminated"].map some then
        .ok { self with nodesToDelete := addNode self.nodesToDelete node }
      else do
        let terminate ← canTerminate ctx instance_ node
        .ok <| if terminate then (self.addToJobGroup instance_).addCandidateForDeletion instance_
          else self.addToJobGroup instance_

def pass1IdentifyPotentialCandidatesForDeletion : Except Raised NodeHouseKeepingSession := do
  let nodes ← ctx.listNodes
  nodes.foldlM (identifyCandidate ctx) {}

def pass2ComputePresentCapacities : Except Raised NodeHouseKeepingSession :=
  computeAllCapacities ctx self false

def requiredCapacity (jobGroup : Option String) : ℤ := ctx.jobs.getDesiredCapacity jobGroup

def filterJobGroup (self : NodeHouseKeepingSession)
    (group : Option String × List EC2Instance) : Except Raised NodeHouseKeepingSession :=
  match group.2 with
  | [] => .error .indexError
  | ref :: _ =>
    if ref.isSocaEphemeralCapacity then .ok self
    else
      match groupOf ref with
      | none => .ok self
      | some (kind, id) =>
        match (self.book kind).presentCapacities.get? id with
        | none => .ok self
        | some presentCapacity =>
          if presentCapacity < requiredCapacity ctx ref.socaJobGroup then
            if id ∈ (self.book kind).instances.keys then
              .ok (self.modifyBook kind fun book =>
                { book with instances := book.instances.erase id })
            else .error .keyError
          else .ok self

/-- The third pass, which `begin` does not run. -/
def pass3FilterDeletionCandidates : Except Raised NodeHouseKeepingSession :=
  self.jobGroups.entries.foldlM (filterJobGroup ctx) self

def candidates : List EC2Instance :=
  self.spotFleets.instances.values.flatten ++ self.autoScalingGroups.instances.values.flatten

def addIfIdle (nodesToSetOffline : List EC2Instance) (instance_ : EC2Instance) :
    Except Raised (List EC2Instance) := do
  let node ← ctx.getNode instance_.privateDnsName
  match node with
  | none => .ok nodesToSetOffline
  | some node =>
    .ok (if node.isBusy then nodesToSetOffline else addInstance nodesToSetOffline instance_)

def keepOffline (nodesToSetOffline : List EC2Instance) (instances : List EC2Instance) :
    Option (List EC2Instance) :=
  match ctx.instanceOrder.order ((instances.foldl addInstance []).filter fun instance_ =>
      instance_.instanceId ∈ nodesToSetOffline.map EC2Instance.instanceId) with
  | [] => none
  | kept => some kept

def keepOfflineInstances (nodesToSetOffline : List EC2Instance) : NodeHouseKeepingSession :=
  let keep := fun book : GroupBook =>
    { book with instances :=
        book.instances.filterMap fun _ => keepOffline ctx nodesToSetOffline }
  (self.modifyBook .spotFleet keep).modifyBook .autoScalingGroup keep

def pass4SetOffline : Logged SessionCall Raised NodeHouseKeepingSession := do
  let nodesToSetOffline ← .ofExcept (self.candidates.foldlM (addIfIdle ctx) [])
  .forEach (fun instance_ =>
    let call := .setNodeState instance_.privateDnsName .offline
    .call call (ctx.callOutcome call)) (ctx.instanceOrder.order nodesToSetOffline)
  pure (self.keepOfflineInstances ctx nodesToSetOffline)

def pass5ComputeDesiredCapacities : Except Raised NodeHouseKeepingSession :=
  computeAllCapacities ctx self true

def finalizeGroup (kind : GroupKind) (self : NodeHouseKeepingSession)
    (group : String × (ℤ × ℤ)) : Except Raised NodeHouseKeepingSession :=
  match (self.book kind).instances.get? group.1 with
  | none => .error .keyError
  | some [] => .error .indexError
  | some (ref :: rest) =>
    let instancesToTerminate := (ref :: rest).foldl addInstance self.instancesToTerminate
    let self := { self with instancesToTerminate }
    if group.2.2 = 0 then
      .ok { self with stacksToDelete := self.stacksToDelete.insert ref.socaComputeStack }
    else
      let self := self.modifyBook kind fun book =>
        { book with updateCapacities := book.updateCapacities.set group.1 group.2 }
      match kind with
      | .spotFleet => .ok self
      | .autoScalingGroup =>
        let instanceIds := (ref :: rest).map EC2Instance.instanceId
        let autoScalingGroupDetachInstances :=
          self.autoScalingGroupDetachInstances.set group.1 instanceIds
        .ok { self with autoScalingGroupDetachInstances }

def pass6FinalizeResourcesToDelete : Except Raised NodeHouseKeepingSession := do
  let self ← self.spotFleets.desiredCapacities.entries.foldlM (finalizeGroup .spotFleet) self
  self.autoScalingGroups.desiredCapacities.entries.foldlM (finalizeGroup .autoScalingGroup) self

def makeCall (call : SessionCall) : Logged SessionCall Raised Unit :=
  .call call (ctx.callOutcome call)

def deleteNode (deletionFailedInstances : List (Option String)) (node : SocaComputeNode) :
    Logged SessionCall Raised (List (Option String)) :=
  match ctx.callOutcome (.deleteNode node.host) with
  | .error (.soca _ _) =>
    .call (.deleteNode node.host) (.ok (deletionFailedInstances ++ [node.instanceId]))
  | .error e => .call (.deleteNode node.host) (.error e)
  | .ok () => .call (.deleteNode node.host) (.ok deletionFailedInstances)

/-- An instance that has been stopping or shutting down for over five minutes of its day. -/
def forceTerminate (instance_ : EC2Instance) : Bool :=
  (instance_.state ∈ ["shutting-down", "stopping"].map some) &&
    (match instance_.launchTime with
      | none => false
      | some launchTime => (ctx.utcnow - launchTime) % 86400 > 300)

/-- Terminates an instance unless its node was not deleted. The duration that is reported
afterwards needs the launch time. -/
def terminateInstance (deletionFailedInstances : List (Option String))
    (instance_ : EC2Instance) : Logged SessionCall Raised Unit :=
  if some instance_.instanceId ∈ deletionFailedInstances then pure ()
  else do
    makeCall ctx (.terminateInstances [instance_.instanceId] (forceTerminate ctx instance_))
    .ofExcept (if instance_.launchTime.isSome then .ok () else .error .typeError)

def cleanup : Logged SessionCall Raised Unit := do
  let failed ← .foldEach (deleteNode ctx) (ctx.nodeOrder.order self.nodesToDelete) []
  .forEach (terminateInstance ctx failed) (ctx.instanceOrder.order self.instancesToTerminate)
  .forEach (fun group => makeCall ctx (.modifySpotFleetRequest group.1 group.2.2))
    self.spotFleets.updateCapacities.entries
  .forEach (fun group => makeCall ctx (.detachInstances group.1 group.2))
    self.autoScalingGroupDetachInstances.entries
  .forEach (fun group => makeCall ctx (.updateAutoScalingGroup group.1 group.2.2))
    self.autoScalingGroups.updateCapacities.entries
  .forEach (fun stackName => makeCall ctx (.deleteStack stackName))
    (ctx.stackOrder.order self.stacksToDelete)

def keepCandidates : Logged SessionCall Raised NodeHouseKeepingSession := do
  let self ← .ofExcept (pass1IdentifyPotentialCandidatesForDeletion ctx)
  let self ← .ofExcept (self.pass2ComputePresentCapacities ctx)
  self.pass4SetOffline ctx

def computeDesired : Logged SessionCall Raised NodeHouseKeepingSession := do
  let self ← keepCandidates ctx
  .ofExcept (self.pass5ComputeDesiredCapacities ctx)

def begin : Logged SessionCall Raised Unit := do
  let self ← computeDesired ctx
  let self ← .ofExcept self.pass6FinalizeResourcesToDelete
  self.cleanup ctx

end NodeHouseKeepingSession

end Idea

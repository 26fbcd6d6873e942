import Idea.Model.Texts

/-! # Compute instances and scheduler nodes

An instance carries its properties as tags, which are read with white space removed, and a
blank tag reads as absent. A node is what the scheduler reports about the host of an
instance.
-/

namespace Idea

namespace Tag

def NODE_TYPE : String := "idea:NodeType"
def CLUSTER_NAME : String := "idea:ClusterName"
def MODULE_ID : String := "idea:ModuleId"
def JOB_ID : String := "idea:JobId"
def JOB_GROUP : String := "idea:JobGroup"
def JOB_QUEUE : String := "idea:JobQueue"
def PROJECT : String := "idea:Project"
def QUEUE_TYPE : String := "idea:QueueType"
def KEEP_FOREVER : String := "idea:KeepForever"
def TERMINATE_WHEN_IDLE : String := "idea:TerminateWhenIdle"
def CAPACITY_TYPE : String := "idea:CapacityType"
def COMPUTE_STACK : String := "idea:StackId"
def EC2SPOT_FLEET_REQUEST_ID : String := "aws:ec2spot:fleet-request-id"
def AUTOSCALING_GROUP_NAME : String := "aws:autoscaling:groupName"

end Tag

def NODE_TYPE_COMPUTE : String := "compute-node"

def findTag (tags : Option (List (String × String))) (key : String) : Option String :=
  match (tags.getD []).find? fun tag => getAsString tag.1 = some key with
  | some tag => getAsString tag.2
  | none => none

/-- `ModelUtils.get_as_bool` of a text. -/
def getTextAsBool (value : Option String) (default : Bool) : Bool :=
  match value with
  | none => default
  | some text =>
    let token := (stripChars text.toList).map Char.toLower
    if token ∈ ["true", "yes", "y", "1"].map String.toList then true
    else if token ∈ ["false", "no", "n", "0"].map String.toList then false
    else default

/-- `ModelUtils.get_as_int` of a text that holds a decimal integer, or the default. -/
def getTextAsInt (value : Option String) (default : ℤ) : ℤ :=
  match value.map fun text => stripChars text.toList with
  | some ('-' :: digits) => ((intOfDigits digits).map fun n => -n).getD default
  | some digits => (intOfDigits digits).getD default
  | none => default

/-- A compute instance; `launchTime` is in seconds. -/
structure EC2Instance where
  instanceId : String
  instanceType : Option String := none
  state : Option String := none
  privateDnsName : Option String := none
  launchTime : Option ℤ := none
  spotInstanceRequestId : Option String := none
  placementTenancy : Option String := none
  tags : Option (List (String × String)) := none
  deriving DecidableEq

namespace EC2Instance

def getTag (key : String) (self : EC2Instance) : Option String := findTag self.tags key

def socaClusterName : EC2Instance → Option String := getTag Tag.CLUSTER_NAME
def socaNodeType : EC2Instance → Option String := getTag Tag.NODE_TYPE
def ideaModuleId : EC2Instance → Option String := getTag Tag.MODULE_ID
def socaJobId : EC2Instance → Option String := getTag Tag.JOB_ID
def socaJobGroup : EC2Instance → Option String := getTag Tag.JOB_GROUP
def socaJobQueue : EC2Instance → Option String := getTag Tag.JOB_QUEUE
def socaJobProject : EC2Instance → Option String := getTag Tag.PROJECT
def socaQueueType : EC2Instance → Option String := getTag Tag.QUEUE_TYPE
def socaCapacityType : EC2Instance → Option String := getTag Tag.CAPACITY_TYPE
def socaComputeStack : EC2Instance → Option String := getTag Tag.COMPUTE_STACK
def awsEc2spotFleetRequestId : EC2Instance → Option String := getTag Tag.EC2SPOT_FLEET_REQUEST_ID
def awsAutoscalingGroupName : EC2Instance → Option String := getTag Tag.AUTOSCALING_GROUP_NAME

def socaKeepForever (self : EC2Instance) : Bool :=
  getTextAsBool (self.getTag Tag.KEEP_FOREVER) false

def socaTerminateWhenIdle (self : EC2Instance) : ℤ :=
  getTextAsInt (self.getTag Tag.TERMINATE_WHEN_IDLE) 0

def isSocaEphemeralCapacity (self : EC2Instance) : Bool :=
  if self.socaKeepForever then false
  else if self.socaTerminateWhenIdle > 0 then false
  else true

def isIdeaComputeNode (self : EC2Instance) : Bool := self.socaNodeType = some NODE_TYPE_COMPUTE

def isValidIdeaComputeNode (self : EC2Instance) : Bool :=
  self.isIdeaComputeNode && self.socaJobId.isSome

end EC2Instance

inductive SocaComputeNodeState where
  | busy | down | free | offline | jobBusy | jobExclusive | provisioning | resvExclusive | stale
  | staleUnknown | unresolvable | waitProvisioning | initializing
  deriving DecidableEq, Repr

inductive SocaComputeNodeSharing where
  | defaultExcl | defaultExclhost | defaultShared | forceExcl | forceExclhost | ignoreExcl
  deriving DecidableEq, Repr

structure SocaComputeNodeResources where
  cpus : Option ℤ := none
  memory : Option SocaMemory := none
  deriving DecidableEq

structure OpenPBSInfo where
  name : Option String := none
  version : Option String := none
  momPrivateDns : Option String := none
  momPort : Option ℤ := none
  deriving DecidableEq

/-- A scheduler node; when it was last used and last changed its state is in seconds. -/
structure SocaComputeNode where
  host : Option String := none
  clusterName : Option String := none
  clusterVersion : Option String := none
  states : Option (List SocaComputeNodeState) := none
  queueType : Option String := none
  queue : Option String := none
  provisioningTime : Option DateTime := none
  lastUsedTime : Option ℤ := none
  lastStateChangedTime : Option ℤ := none
  availabilityZone : Option String := none
  subnetId : Option String := none
  instanceId : Option String := none
  instanceType : Option String := none
  instanceAmi : Option String := none
  instanceProfile : Option String := none
  schedulerInfo : Option OpenPBSInfo := none
  sharing : Option SocaComputeNodeSharing := none
  jobId : Option String := none
  jobGroup : Option String := none
  scalingMode : Option SocaScalingMode := none
  keepForever : Option Bool := none
  terminateWhenIdle : Option ℤ := none
  computeStack : Option String := none
  stackId : Option String := none
  lifecycle : Option String := none
  tenancy : Option String := none
  spotFleetRequest : Option String := none
  autoScalingGroup : Option String := none
  spot : Option Bool := none
  spotPrice : Option SocaAmount := none
  baseOs : Option String := none
  enablePlacementGroup : Option Bool := none
  enableHtSupport : Option Bool := none
  keepEbsVolumes : Option Bool := none
  rootStorageSize : Option SocaMemory := none
  scratchStorageSize : Option SocaMemory := none
  scratchStorageIops : Option ℤ := none
  enableEfaSupport : Option Bool := none
  forceReservedInstances : Option Bool := none
  enableSystemMetrics : Option Bool := none
  enableAnonymousMetrics : Option Bool := none
  fsxLustre : Option SocaFSxLustreConfig := none
  resourcesAvailable : Option SocaComputeNodeResources := none
  resourcesAssigned : Option SocaComputeNodeResources := none
  launchTime : Option DateTime := none
  jobs : Option (List String) := none
  deriving DecidableEq

namespace SocaComputeNode

def hasState (self : SocaComputeNode) (states : List SocaComputeNodeState) : Bool :=
  match self.states with
  | none => false
  | some nodeStates => states.any (· ∈ nodeStates)

def isProvisioned (self : SocaComputeNode) : Bool :=
  match self.computeStack with
  | none => false
  | some computeStack => computeStack ≠ "tbd"

def isValidIdeaComputeNode (self : SocaComputeNode) : Bool :=
  !isEmptyString self.clusterName && !isEmptyString self.queueType &&
    !isEmptyString self.instanceId

def isCurrentCluster (self : SocaComputeNode) (clusterName : String) : Bool :=
  !isEmptyString self.clusterName && !isEmptyString (some clusterName) &&
    self.clusterName = some clusterName

def isBusy (self : SocaComputeNode) : Bool := self.hasState [.busy, .jobBusy]

end SocaComputeNode

end Idea

import Idea.Model.Instance
import Idea.QueueProfiles.Codec

/-! # Compute nodes in the scheduler

The scheduler stores the properties of a node as texts, in resources of the node. They are
written when the node is created, and read from the report of the scheduler about the node.
-/

namespace Idea

inductive NodeAttribute where
  | jobId | jobGroup | launchTime | instanceId | instanceType | availabilityZone | subnetId
  | clusterName | clusterVersion | queueType | scalingMode | instanceAmi | instanceProfile
  | lifecycle | tenancy | spotFleetRequest | autoScalingGroup | keepForever | terminateWhenIdle
  | spotPrice | baseOs | placementGroup | htSupport | keepEbs | rootSize | scratchSize
  | scratchIops | efaSupport | forceRi | systemMetrics | anonymousMetrics | computeNode | stackId
  | provisioningTime | fsxLustre | fsxLustreDeploymentType | fsxLustrePerUnitThroughput
  | fsxLustreSize
  deriving DecidableEq, Repr

namespace NodeAttribute

def name : NodeAttribute → String
  | jobId => "job_id"
  | jobGroup => "job_group"
  | launchTime => "launch_time"
  | instanceId => "instance_id"
  | instanceType => "instance_type"
  | availabilityZone => "availability_zone"
  | subnetId => "subnet_id"
  | clusterName => "cluster_name"
  | clusterVersion => "cluster_version"
  | queueType => "queue_type"
  | scalingMode => "scaling_mode"
  | instanceAmi => "instance_ami"
  | instanceProfile => "instance_profile"
  | lifecycle => "lifecycle"
  | tenancy => "tenancy"
  | spotFleetRequest => "spot_fleet_request"
  | autoScalingGroup => "auto_scaling_group"
  | keepForever => "keep_forever"
  | terminateWhenIdle => "terminate_when_idle"
  | spotPrice => "spot_price"
  | baseOs => "base_os"
  | placementGroup => "placement_group"
  | htSupport => "ht_support"
  | keepEbs => "keep_ebs"
  | rootSize => "root_size"
  | scratchSize => "scratch_size"
  | scratchIops => "scratch_iops"
  | efaSupport => "efa_support"
  | forceRi => "force_ri"
  | systemMetrics => "system_metrics"
  | anonymousMetrics => "anonymous_metrics"
  | computeNode => "compute_node"
  | stackId => "stack_id"
  | provisioningTime => "provisioning_time"
  | fsxLustre => "fsx_lustre"
  | fsxLustreDeploymentType => "fsx_lustre_deployment_type"
  | fsxLustrePerUnitThroughput => "fsx_lustre_per_unit_throughput"
  | fsxLustreSize => "fsx_lustre_size"

def all : List NodeAttribute :=
  [jobId, jobGroup, launchTime, instanceId, instanceType, availabilityZone, subnetId, clusterName,
    clusterVersion, queueType, scalingMode, instanceAmi, instanceProfile, lifecycle, tenancy,
    spotFleetRequest, autoScalingGroup, keepForever, terminateWhenIdle, spotPrice, baseOs,
    placementGroup, htSupport, keepEbs, rootSize, scratchSize, scratchIops, efaSupport, forceRi,
    systemMetrics, anonymousMetrics, computeNode, stackId, provisioningTime, fsxLustre,
    fsxLustreDeploymentType, fsxLustrePerUnitThroughput, fsxLustreSize]

end NodeAttribute

def SocaFSxLustreConfig.asJobSubmitParams (self : SocaFSxLustreConfig) :
    NodeAttribute → Option String
  | .fsxLustre =>
    if self.enabled = some false then some "False"
    else
      match self.existingFsx, self.s3Backend, self.exportPath, self.importPath with
      | some existingFsx, _, _, _ => some existingFsx
      | none, some s3Backend, some exportPath, some importPath =>
        some (s3Backend ++ "+" ++ exportPath ++ "+" ++ importPath)
      | none, some s3Backend, some exportPath, none => some (s3Backend ++ "+" ++ exportPath)
      | none, some s3Backend, none, _ => some s3Backend
      | none, none, _, _ => some "True"
  | .fsxLustreDeploymentType =>
    if self.enabled = some false ∨ self.existingFsx ≠ none then none else self.deploymentType
  | .fsxLustrePerUnitThroughput =>
    if self.enabled = some false ∨ self.existingFsx ≠ none ∨
        self.deploymentType ≠ some "persistent_1" then none
    else self.perUnitThroughput.map toString
  | .fsxLustreSize =>
    if self.enabled = some false ∨ self.existingFsx ≠ none then none
    else self.size.map fun size => toString (size.value.num.tdiv size.value.den)
  | _ => none

namespace OpenPBSScheduler

def nodeAttributes (now : DateTime) (node : SocaComputeNode) : NodeAttribute → Option String
  | .jobId => node.jobId
  | .jobGroup => node.jobGroup
  | .launchTime => node.launchTime.map fun launchTime => toString launchTime.seconds
  | .instanceId => node.instanceId
  | .instanceType => node.instanceType
  | .availabilityZone => node.availabilityZone
  | .subnetId => node.subnetId
  | .clusterName => node.clusterName
  | .clusterVersion => node.clusterVersion
  | .queueType => node.queueType
  | .scalingMode => node.scalingMode.map SocaScalingMode.str
  | .instanceAmi => node.instanceAmi
  | .instanceProfile => node.instanceProfile
  | .lifecycle => node.lifecycle
  | .tenancy => node.tenancy
  | .spotFleetRequest => node.spotFleetRequest
  | .autoScalingGroup => node.autoScalingGroup
  | .keepForever => node.keepForever.map boolText
  | .terminateWhenIdle => node.terminateWhenIdle.map toString
  | .spotPrice =>
    if isTrue node.spot then
      match node.spotPrice with
      | some spotPrice => some (String.ofList (Decimal.floatText spotPrice.amount))
      | none => some "auto"
    else none
  | .baseOs => node.baseOs
  | .placementGroup => node.enablePlacementGroup.map boolText
  | .htSupport => node.enableHtSupport.map boolText
  | .keepEbs => node.keepEbsVolumes.map boolText
  | .rootSize => node.rootStorageSize.map SocaMemory.str
  | .scratchSize => node.scratchStorageSize.map SocaMemory.str
  | .scratchIops => node.scratchStorageIops.map toString
  | .efaSupport => node.enableEfaSupport.map boolText
  | .forceRi => node.forceReservedInstances.map boolText
  | .systemMetrics => node.enableSystemMetrics.map boolText
  | .anonymousMetrics => node.enableAnonymousMetrics.map boolText
  | .computeNode => node.computeStack
  | .stackId => node.stackId
  | .provisioningTime => some (toString now.millis)
  | attr => node.fsxLustre.bind fun fsxLustre => fsxLustre.asJobSubmitParams attr

/-- `f'{value}'` of an optional text. -/
def formatted (value : Option String) : String := value.getD "None"

def setNodeAttributes (host : Option String) (attributes : NodeAttribute → Option String) :
    String :=
  let tokens := NodeAttribute.all.filterMap fun attr =>
    (attributes attr).map fun value => "resources_available." ++ attr.name ++ "=" ++ value
  "set node " ++ formatted host ++ " " ++ ",".intercalate tokens

def createNode (now : DateTime) (node : SocaComputeNode) : List String :=
  ["create node " ++ formatted node.host ++ " queue=" ++ formatted node.queue,
    setNodeAttributes node.host (nodeAttributes now node)]

end OpenPBSScheduler

structure NodeReport where
  error : Option String := none
  state : Option String := none
  jobs : Option (List String) := none
  pbsVersion : Option String := none
  port : Option ℤ := none
  lastUsedTime : Option ℤ := none
  lastStateChangeTime : Option ℤ := none
  sharing : Option String := none
  queue : Option String := none
  resourcesAvailable : List (String × String) := []
  resourcesAssigned : List (String × String) := []

namespace OpenPBSConverter

def computeNodeState (token : List Char) : Option SocaComputeNodeState :=
  ([("busy", .busy), ("down", .down), ("free", .free), ("offline", .offline),
    ("job-busy", .jobBusy), ("job-exclusive", .jobExclusive), ("provisioning", .provisioning),
    ("resv-exclusive", .resvExclusive), ("stale", .stale), ("stale-unknown", .staleUnknown),
    ("unresolvable", .unresolvable), ("wait-provisioning", .waitProvisioning),
    ("initializing", .initializing)].find? fun entry : String × SocaComputeNodeState =>
      entry.1.toList = token).map Prod.snd

def toSocaComputeNodeState (state : Option String) :
    Except Raised (Option (List SocaComputeNodeState)) :=
  match state with
  | none => .ok none
  | some state =>
    let tokens := ((stripChars state.toList).map Char.toLower).splitOn ','
    let result := (tokens.filterMap computeNodeState).dedup
    if result = [] then
      .error (.soca ErrorCodes.SCHEDULER_ERROR ("Unknown SocaComputeNode state: " ++ state))
    else .ok (some result)

def toSocaComputeNodeSharing (sharing : Option String) :
    Except Raised (Option SocaComputeNodeSharing) :=
  match sharing with
  | none => .ok none
  | some sharing =>
    match [("default_excl", .defaultExcl), ("default_exclhost", .defaultExclhost),
      ("default_shared", .defaultShared), ("force_excl", .forceExcl),
      ("force_exclhost", .forceExclhost), ("ignore_excl", .ignoreExcl)].find?
        fun entry : String × SocaComputeNodeSharing => entry.1 = sharing with
    | some entry => .ok (some entry.2)
    | none => .error (.soca ErrorCodes.SCHEDULER_ERROR
        ("Unknown SocaComputeNodeSharing value: " ++ sharing))

def text (resources : List (String × String)) (name : String) : Option String :=
  getValueAsString (resources.lookup name)

def readValue {α : Type} (resources : List (String × String)) (name : String)
    (f : String → Except Raised (Option α)) : Except Raised (Option α) :=
  match resources.lookup name with
  | none => .ok none
  | some value => if isEmptyString (some value) then .ok none else f value

def flag (resources : List (String × String)) (name : String) : Option Bool :=
  (resources.lookup name).bind textAsBool

def coerced (resources : List (String × String)) (name : String) : Except Raised (Option Bool) :=
  match text resources name with
  | none => .ok none
  | some value => (coerceBool value).map some

def memory (resources : List (String × String)) (name : String) :
    Except Raised (Option SocaMemory) :=
  match text resources name with
  | none => .ok none
  | some value => SocaMemory.resolve value

def timestamp (resources : List (String × String)) (name : String) :
    Except Raised (Option DateTime) := do
  match ← readValue resources name textAsInt with
  | none => .ok none
  | some t => (DateTime.ofTimestamp t).map some

def toSocaComputeNodeResources (resources : List (String × String)) :
    Except Raised (Option SocaComputeNodeResources) :=
  if resources = [] then .ok none
  else do
    let memory ← memory resources "mem"
    let cpus ←
      match text resources "ncpus" with
      | none => .ok none
      | some cpus =>
        match intOfText cpus with
        | none => .error .validationError
        | some n => .ok (some n)
    .ok (some { cpus, memory })

/-- The spot flag and price. The amount is what `is_float` returns. -/
def spotOf (spotPrice : Option String) : Bool × Option SocaAmount :=
  match spotPrice with
  | none => (false, none)
  | some spotPrice =>
    if spotPrice = "auto" then (true, none)
    else if isFloat spotPrice then (true, some { amount := if isFloat spotPrice then 1 else 0 })
    else (false, none)

def decodeAttributes (resources : List (String × String)) : Except Raised SocaComputeNode := do
  let launchTime ← timestamp resources "launch_time"
  let provisioningTime ← timestamp resources "provisioning_time"
  let terminateWhenIdle ← readValue resources "terminate_when_idle" textAsInt
  let scratchStorageIops ← readValue resources "scratch_iops" textAsInt
  let (spot, spotPrice) := spotOf (text resources "spot_price")
  let rootStorageSize ← memory resources "root_size"
  let scratchStorageSize ← memory resources "scratch_size"
  let enablePlacementGroup ← coerced resources "placement_group"
  let enableHtSupport ← coerced resources "ht_support"
  .ok {
    launchTime, provisioningTime, terminateWhenIdle, scratchStorageIops, spotPrice,
    rootStorageSize, scratchStorageSize, enablePlacementGroup, enableHtSupport
    spot := some spot
    computeStack := text resources "compute_node"
    stackId := text resources "stack_id"
    clusterName := text resources "cluster_name"
    clusterVersion := text resources "cluster_version"
    instanceId := text resources "instance_id"
    instanceType := text resources "instance_type"
    availabilityZone := text resources "availability_zone"
    subnetId := text resources "subnet_id"
    instanceAmi := text resources "instance_ami"
    instanceProfile := text resources "instance_profile"
    lifecycle := text resources "lifecycle"
    tenancy := text resources "tenancy"
    spotFleetRequest := text resources "spot_fleet_request"
    autoScalingGroup := text resources "auto_scaling_group"
    jobId := text resources "job_id"
    jobGroup := text resources "job_group"
    queueType := text resources "queue_type"
    scalingMode := (text resources "scaling_mode").bind SocaScalingMode.resolve
    keepForever := flag resources "keep_forever"
    baseOs := text resources "base_os"
    keepEbsVolumes := flag resources "keep_ebs"
    enableEfaSupport := flag resources "efa_support"
    forceReservedInstances := flag resources "force_ri"
    enableSystemMetrics := flag resources "system_metrics"
    enableAnonymousMetrics := flag resources "anonymous_metrics" }

def seconds (time : Option ℤ) : Except Raised (Option ℤ) :=
  match time with
  | none => .ok none
  | some t => (DateTime.ofTimestamp t).map fun time => some time.seconds

def jobIdOf (pbsJobId : String) : String := String.ofList (pbsJobId.toList.takeWhile (· ≠ '.'))

def toSocaNode (host : String) (node : NodeReport) : Except Raised (Option SocaComputeNode) :=
  if getValueAsString node.error ≠ none then .ok none
  else do
    let states ← toSocaComputeNodeState (getValueAsString node.state)
    let lastUsedTime ← seconds node.lastUsedTime
    let lastStateChangedTime ← seconds node.lastStateChangeTime
    let sharing ← toSocaComputeNodeSharing (getValueAsString node.sharing)
    let attributes ← decodeAttributes node.resourcesAvailable
    let resourcesAvailable ← toSocaComputeNodeResources node.resourcesAvailable
    let resourcesAssigned ← toSocaComputeNodeResources node.resourcesAssigned
    .ok (some { attributes with
      states, lastUsedTime, lastStateChangedTime, sharing, resourcesAvailable, resourcesAssigned
      host := some host
      queue := getValueAsString node.queue
      schedulerInfo := some {
        name := some "openpbs", version := getValueAsString node.pbsVersion,
        momPrivateDns := some host, momPort := node.port }
      jobs := some (((getValueAsList node.jobs).getD []).map jobIdOf) })

end OpenPBSConverter

end Idea

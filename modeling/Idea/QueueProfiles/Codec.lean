import Idea.Model.Job

/-! # The stored form of a queue profile

The item of a profile in the database is flat. The encoder writes the fields that are set, and
the decoder reads the attributes back through helpers that take blank text and empty lists for
absent.
-/

namespace Idea

namespace SocaScalingMode

def str : SocaScalingMode → String
  | .singleJob => "single-job"
  | .batch => "batch"

def resolve (value : String) : Option SocaScalingMode :=
  let token := stripChars (value.toList.map Char.toLower)
  if token ∈ ["single-job", "single_job"].map String.toList then some .singleJob
  else if token ∈ ["batch", "multiple_jobs"].map String.toList then some .batch
  else none

end SocaScalingMode

namespace SocaQueueMode

def str : SocaQueueMode → String
  | .fifo => "fifo"
  | .fairshare => "fairshare"
  | .licenseOptimized => "license-optimized"

def resolve (value : String) : Option SocaQueueMode :=
  let token := (stripChars value.toList).map Char.toLower
  if token = "fairshare".toList then some .fairshare
  else if token = "fifo".toList then some .fifo
  else if token = "license-optimized".toList then some .licenseOptimized
  else none

end SocaQueueMode

namespace SocaMemoryUnit

def str : SocaMemoryUnit → String
  | .bytes => "bytes"
  | .kiB => "kib"
  | .miB => "mib"
  | .giB => "gib"
  | .tiB => "tib"
  | .kb => "kb"
  | .mb => "mb"
  | .gb => "gb"
  | .tb => "tb"

def ofValue (value : String) : Except Raised SocaMemoryUnit :=
  match [bytes, kiB, miB, giB, tiB, kb, mb, gb, tb].find? fun unit => unit.str = value with
  | none => .error .valueError
  | some unit => .ok unit

end SocaMemoryUnit

namespace SocaSpotAllocationStrategy

def str : SocaSpotAllocationStrategy → String
  | .capacityOptimized => "capacity-optimized"
  | .lowestPrice => "lowest-price"
  | .diversified => "diversified"

def ofValue (value : String) : Except Raised SocaSpotAllocationStrategy :=
  match [capacityOptimized, lowestPrice, diversified].find? fun strategy =>
      strategy.str = value with
  | none => .error .valueError
  | some strategy => .ok strategy

end SocaSpotAllocationStrategy

/-- An item of the table. Any attribute may be absent, and each is written with values of one
type only; numbers that are not integers are written as exact decimals. -/
structure DbQueueProfile where
  queueProfileId : Option String := none
  title : Option String := none
  description : Option String := none
  name : Option String := none
  projectIds : Option (List String) := none
  scalingMode : Option String := none
  queueMode : Option String := none
  enabled : Option Bool := none
  queues : Option (List String) := none
  keepForever : Option Bool := none
  terminateWhenIdle : Option ℤ := none
  stackUuid : Option String := none
  maxRunningJobs : Option ℤ := none
  maxProvisionedInstances : Option ℤ := none
  maxProvisionedCapacity : Option ℤ := none
  waitOnAnyJobWithLicense : Option Bool := none
  allowedInstanceTypes : Option (List String) := none
  excludedInstanceTypes : Option (List String) := none
  restrictedParameters : Option (List String) := none
  allowedSecurityGroups : Option (List String) := none
  allowedInstanceProfiles : Option (List String) := none
  paramNodes : Option ℤ := none
  paramCpus : Option ℤ := none
  paramMemory : Option ℚ := none
  paramMemoryUnit : Option String := none
  paramGpus : Option ℤ := none
  paramMpiprocs : Option ℤ := none
  paramWalltime : Option String := none
  paramBaseOs : Option String := none
  paramInstanceAmi : Option String := none
  paramInstanceTypes : Option (List String) := none
  paramForceReservedInstances : Option Bool := none
  paramSpot : Option Bool := none
  paramSpotPrice : Option ℚ := none
  paramSpotAllocationCount : Option ℤ := none
  paramSpotAllocationStrategy : Option String := none
  paramSubnetIds : Option (List String) := none
  paramSecurityGroups : Option (List String) := none
  paramInstanceProfile : Option String := none
  paramKeepEbsVolumes : Option Bool := none
  paramRootStorageSize : Option ℚ := none
  paramRootStorageSizeUnit : Option String := none
  paramEnableScratch : Option Bool := none
  paramScratchProvider : Option String := none
  paramScratchStorageSize : Option ℚ := none
  paramScratchStorageSizeUnit : Option String := none
  paramScratchStorageIops : Option ℤ := none
  paramEnableInstanceStore : Option Bool := none
  paramEnableEfaSupport : Option Bool := none
  paramEnableHtSupport : Option Bool := none
  paramEnablePlacementGroup : Option Bool := none
  paramEnableSystemMetrics : Option Bool := none
  paramEnableAnonymousMetrics : Option Bool := none
  paramComputeStack : Option String := none
  paramStackId : Option String := none
  paramJobGroup : Option String := none
  paramFsxLustreEnabled : Option Bool := none
  paramFsxLustreExistingFsx : Option String := none
  paramFsxLustreS3Backend : Option String := none
  paramFsxLustreImportPath : Option String := none
  paramFsxLustreExportPath : Option String := none
  paramFsxLustreDeploymentType : Option String := none
  paramFsxLustrePerUnitThroughput : Option ℤ := none
  paramFsxLustreSize : Option ℚ := none
  paramFsxLustreSizeUnit : Option String := none

/-- `Utils.get_value_as_string` of an attribute. -/
def getValueAsString (value : Option String) : Option String := value.bind getAsString

/-- `Utils.get_value_as_list` of an attribute. -/
def getValueAsList (value : Option (List String)) : Option (List String) := value.filter (· ≠ [])

namespace HpcQueueProfilesDAO

def projectIds (projects : Option (List Project)) : Option (List String) :=
  match projects with
  | none => none
  | some projects =>
    let projectIds := projects.filterMap fun project =>
      if isEmptyString project.projectId then none else project.projectId
    if projectIds.isEmpty then none else some projectIds

def convertToDb (queueProfile : HpcQueueProfile) : DbQueueProfile :=
  let queueManagementParams := queueProfile.queueManagementParams.getD {}
  let jobParams := queueProfile.defaultJobParams.getD {}
  let fsxLustre := jobParams.fsxLustre.getD {}
  { queueProfileId := queueProfile.queueProfileId
    title := queueProfile.title
    description := queueProfile.description
    name := queueProfile.name
    projectIds := projectIds queueProfile.projects
    scalingMode := queueProfile.scalingMode.map SocaScalingMode.str
    queueMode := queueProfile.queueMode.map SocaQueueMode.str
    enabled := queueProfile.enabled
    queues := queueProfile.queues
    keepForever := queueProfile.keepForever
    terminateWhenIdle := queueProfile.terminateWhenIdle
    stackUuid := queueProfile.stackUuid
    maxRunningJobs := queueManagementParams.maxRunningJobs
    maxProvisionedInstances := queueManagementParams.maxProvisionedInstances
    maxProvisionedCapacity := queueManagementParams.maxProvisionedCapacity
    waitOnAnyJobWithLicense := queueManagementParams.waitOnAnyJobWithLicense
    allowedInstanceTypes := queueManagementParams.allowedInstanceTypes
    excludedInstanceTypes := queueManagementParams.excludedInstanceTypes
    restrictedParameters := queueManagementParams.restrictedParameters
    allowedSecurityGroups := queueManagementParams.allowedSecurityGroups
    allowedInstanceProfiles := queueManagementParams.allowedInstanceProfiles
    paramNodes := jobParams.nodes
    paramCpus := jobParams.cpus
    paramMemory := jobParams.memory.map SocaMemory.value
    paramMemoryUnit := jobParams.memory.map fun memory => memory.unit.str
    paramGpus := jobParams.gpus
    paramMpiprocs := jobParams.mpiprocs
    paramWalltime := jobParams.walltime
    paramBaseOs := jobParams.baseOs
    paramInstanceAmi := jobParams.instanceAmi
    paramInstanceTypes := jobParams.instanceTypes
    paramForceReservedInstances := jobParams.forceReservedInstances
    paramSpot := jobParams.spot
    paramSpotPrice := jobParams.spotPrice.map SocaAmount.amount
    paramSpotAllocationCount := jobParams.spotAllocationCount
    paramSpotAllocationStrategy :=
      jobParams.spotAllocationStrategy.map SocaSpotAllocationStrategy.str
    paramSubnetIds := jobParams.subnetIds
    paramSecurityGroups := jobParams.securityGroups
    paramInstanceProfile := jobParams.instanceProfile
    paramKeepEbsVolumes := jobParams.keepEbsVolumes
    paramRootStorageSize := jobParams.rootStorageSize.map SocaMemory.value
    paramRootStorageSizeUnit := jobParams.rootStorageSize.map fun size => size.unit.str
    paramEnableScratch := jobParams.enableScratch
    paramScratchProvider := jobParams.scratchProvider
    paramScratchStorageSize := jobParams.scratchStorageSize.map SocaMemory.value
    paramScratchStorageSizeUnit := jobParams.scratchStorageSize.map fun size => size.unit.str
    paramScratchStorageIops := jobParams.scratchStorageIops
    paramEnableInstanceStore := jobParams.enableInstanceStore
    paramEnableEfaSupport := jobParams.enableEfaSupport
    paramEnableHtSupport := jobParams.enableHtSupport
    paramEnablePlacementGroup := jobParams.enablePlacementGroup
    paramEnableSystemMetrics := jobParams.enableSystemMetrics
    paramEnableAnonymousMetrics := jobParams.enableAnonymousMetrics
    paramComputeStack := jobParams.computeStack
    paramStackId := jobParams.stackId
    paramJobGroup := jobParams.jobGroup
    paramFsxLustreEnabled := fsxLustre.enabled
    paramFsxLustreExistingFsx := fsxLustre.existingFsx
    paramFsxLustreS3Backend := fsxLustre.s3Backend
    paramFsxLustreImportPath := fsxLustre.importPath
    paramFsxLustreExportPath := fsxLustre.exportPath
    paramFsxLustreDeploymentType := fsxLustre.deploymentType
    paramFsxLustrePerUnitThroughput := fsxLustre.perUnitThroughput
    paramFsxLustreSize := fsxLustre.size.map SocaMemory.value
    paramFsxLustreSizeUnit := fsxLustre.size.map fun size => size.unit.str }

def decodeMemory (value : Option ℚ) (unit : Option String) : Except Raised (Option SocaMemory) :=
  match value, getValueAsString unit with
  | some value, some unit => do
    let unit ← SocaMemoryUnit.ofValue unit
    .ok (some { value, unit })
  | _, _ => .ok none

def decodeStrategy (value : Option String) : Except Raised (Option SocaSpotAllocationStrategy) :=
  match getValueAsString value with
  | none => .ok none
  | some value => do
    let strategy ← SocaSpotAllocationStrategy.ofValue value
    .ok (some strategy)

def decodeFsxLustre (db : DbQueueProfile) : Except Raised (Option SocaFSxLustreConfig) :=
  match db.paramFsxLustreEnabled with
  | none => .ok none
  | some enabled => do
    let size ← decodeMemory db.paramFsxLustreSize db.paramFsxLustreSizeUnit
    .ok (some
      { enabled := some enabled
        existingFsx := getValueAsString db.paramFsxLustreExistingFsx
        s3Backend := getValueAsString db.paramFsxLustreS3Backend
        importPath := getValueAsString db.paramFsxLustreImportPath
        exportPath := getValueAsString db.paramFsxLustreExportPath
        perUnitThroughput := db.paramFsxLustrePerUnitThroughput
        size })

def decodeQueueManagementParams (db : DbQueueProfile) : SocaQueueManagementParams :=
  { maxRunningJobs := db.maxRunningJobs
    maxProvisionedInstances := db.maxProvisionedInstances
    maxProvisionedCapacity := db.maxProvisionedCapacity
    waitOnAnyJobWithLicense := db.waitOnAnyJobWithLicense
    allowedInstanceTypes := getValueAsList db.allowedInstanceTypes
    excludedInstanceTypes := getValueAsList db.excludedInstanceTypes
    restrictedParameters := getValueAsList db.restrictedParameters
    allowedSecurityGroups := getValueAsList db.allowedSecurityGroups
    allowedInstanceProfiles := getValueAsList db.allowedInstanceProfiles }

def decodeJobParams (db : DbQueueProfile) : Except Raised SocaJobParams := do
  let memory ← decodeMemory db.paramMemory db.paramMemoryUnit
  let spotAllocationStrategy ← decodeStrategy db.paramSpotAllocationStrategy
  let rootStorageSize ← decodeMemory db.paramRootStorageSize db.paramRootStorageSizeUnit
  let scratchStorageSize ←
    decodeMemory db.paramScratchStorageSize db.paramScratchStorageSizeUnit
  let fsxLustre ← decodeFsxLustre db
  .ok
    { nodes := db.paramNodes
      cpus := db.paramCpus
      memory
      gpus := db.paramGpus
      mpiprocs := db.paramMpiprocs
      baseOs := getValueAsString db.paramBaseOs
      instanceAmi := getValueAsString db.paramInstanceAmi
      instanceTypes := getValueAsList db.paramInstanceTypes
      forceReservedInstances := db.paramForceReservedInstances
      spot := db.paramSpot
      spotPrice := db.paramSpotPrice.map fun amount => { amount }
      spotAllocationCount := db.paramSpotAllocationCount
      spotAllocationStrategy
      subnetIds := getValueAsList db.paramSubnetIds
      securityGroups := getValueAsList db.paramSecurityGroups
      instanceProfile := getValueAsString db.paramInstanceProfile
      rootStorageSize
      enableScratch := db.paramEnableScratch
      scratchProvider := getValueAsString db.paramScratchProvider
      scratchStorageSize
      scratchStorageIops := db.paramScratchStorageIops
      enableInstanceStore := db.paramEnableInstanceStore
      enableEfaSupport := db.paramEnableEfaSupport
      enableHtSupport := db.paramEnableHtSupport
      enablePlacementGroup := db.paramEnablePlacementGroup
      enableSystemMetrics := db.paramEnableSystemMetrics
      enableAnonymousMetrics := db.paramEnableAnonymousMetrics
      computeStack := getValueAsString db.paramComputeStack
      stackId := getValueAsString db.paramStackId
      jobGroup := getValueAsString db.paramJobGroup
      fsxLustre }

def convertFromDb (db : DbQueueProfile) : Except Raised HpcQueueProfile := do
  let defaultJobParams ← decodeJobParams db
  .ok
    { queueProfileId := getValueAsString db.queueProfileId
      title := getValueAsString db.title
      description := getValueAsString db.description
      name := getValueAsString db.name
      projects := (getValueAsList db.projectIds).map fun projectIds =>
        projectIds.map fun projectId => { projectId := some projectId }
      scalingMode := (getValueAsString db.scalingMode).bind SocaScalingMode.resolve
      queueMode := (getValueAsString db.queueMode).bind SocaQueueMode.resolve
      enabled := db.enabled
      queues := getValueAsList db.queues
      keepForever := db.keepForever
      terminateWhenIdle := db.terminateWhenIdle
      stackUuid := getValueAsString db.stackUuid
      queueManagementParams := some (decodeQueueManagementParams db)
      defaultJobParams := some defaultJobParams }

end HpcQueueProfilesDAO

end Idea

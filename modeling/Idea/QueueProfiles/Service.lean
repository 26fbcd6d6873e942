import Idea.QueueProfiles.Codec
import Idea.QueueProfiles.Create
import Idea.Data.Dict
import Idea.System.Stateful

/-! # The queue profiles service

The service keeps the profiles in a table, caches the profile objects it has read or written
under their id, name and queues, and runs one job provisioner for an enabled profile. A cached
object is shared by its keys. The database and the scheduler may raise at every call.
-/

namespace Idea

namespace ErrorCodes

def SCHEDULER_QUEUE_PROFILE_NOT_FOUND : String := "SCHEDULER_QUEUE_PROFILE_NOT_FOUND"
def SCHEDULER_QUEUE_ALREADY_EXISTS : String := "SCHEDULER_QUEUE_ALREADY_EXISTS"

end ErrorCodes

inductive ProfileKey where
  | id (queueProfileId : String)
  | name (queueProfileName : String)
  | queue (queueName : String)
  deriving DecidableEq

abbrev ProfilesTable : Type := Dict String DbQueueProfile

/-- A provisioner that was created for a profile, with its thread running or stopped. -/
structure Provisioner where
  queueProfileId : Option String
  running : Bool
  deriving DecidableEq

/-- The state of the service. A cached object and a registered provisioner are referred to by
their position. -/
structure ServiceState where
  table : ProfilesTable := ∅
  objects : List HpcQueueProfile := []
  cache : Dict ProfileKey ℕ := ∅
  provisioners : List Provisioner := []
  registered : Dict (Option String) ℕ := ∅
  isRunning : Bool := false

/-- What the service is given: the check of default job parameters, and the order in which a scan
returns the items of the table. -/
structure ServiceContext where
  jobParamsValid : SocaJobParams → Bool
  scan : ProfilesTable → List DbQueueProfile
  scan_perm : ∀ table, (scan table).Perm table.values

/-- What the calls of one request are answered with: new ids, and the exception of each call to
the database or the scheduler that raises. -/
structure Answers where
  uuid : String := ""
  stackUuid : String := ""
  createTable : Option Raised := none
  read : Option Raised := none
  checkRead : ℕ → Option Raised := fun _ => none
  write : Option Raised := none
  createQueue : ℕ → Option Raised := fun _ => none
  deleteQueue : ℕ → Option Raised := fun _ => none

structure ProfileSelector where
  queueProfileId : Option String := none
  queueProfileName : Option String := none
  queueName : Option String := none

def ProfileSelector.key? (selector : ProfileSelector) : Option ProfileKey :=
  if !isEmptyString selector.queueProfileId then selector.queueProfileId.map .id
  else if !isEmptyString selector.queueProfileName then selector.queueProfileName.map .name
  else if !isEmptyString selector.queueName then selector.queueName.map .queue
  else none

def ProfileSelector.withoutQueue (selector : ProfileSelector) : ProfileSelector :=
  { selector with queueName := none }

namespace HpcQueueProfilesDAO

def getQueueProfileByName (ctx : ServiceContext) (table : ProfilesTable) (name : String) :
    Option DbQueueProfile :=
  (ctx.scan table).find? fun item => item.name = some name

def queuesOf (item : DbQueueProfile) : List String := (getValueAsList item.queues).getD []

def getQueueProfileByQueue (ctx : ServiceContext) (table : ProfilesTable) (queueName : String) :
    Option DbQueueProfile :=
  (ctx.scan table).find? fun item => queueName ∈ queuesOf item

def lookup (ctx : ServiceContext) (table : ProfilesTable) : ProfileKey → Option DbQueueProfile
  | .id queueProfileId => table.get? queueProfileId
  | .name queueProfileName => getQueueProfileByName ctx table queueProfileName
  | .queue queueName => getQueueProfileByQueue ctx table queueName

def merge (item updates : DbQueueProfile) : DbQueueProfile :=
  { queueProfileId := item.queueProfileId
    title := updates.title.or item.title
    description := updates.description.or item.description
    name := updates.name.or item.name
    projectIds := updates.projectIds.or item.projectIds
    scalingMode := updates.scalingMode.or item.scalingMode
    queueMode := updates.queueMode.or item.queueMode
    enabled := updates.enabled.or item.enabled
    queues := updates.queues.or item.queues
    keepForever := updates.keepForever.or item.keepForever
    terminateWhenIdle := updates.terminateWhenIdle.or item.terminateWhenIdle
    stackUuid := updates.stackUuid.or item.stackUuid
    maxRunningJobs := updates.maxRunningJobs.or item.maxRunningJobs
    maxProvisionedInstances := updates.maxProvisionedInstances.or item.maxProvisionedInstances
    maxProvisionedCapacity := updates.maxProvisionedCapacity.or item.maxProvisionedCapacity
    waitOnAnyJobWithLicense := updates.waitOnAnyJobWithLicense.or item.waitOnAnyJobWithLicense
    allowedInstanceTypes := updates.allowedInstanceTypes.or item.allowedInstanceTypes
    excludedInstanceTypes := updates.excludedInstanceTypes.or item.excludedInstanceTypes
    restrictedParameters := updates.restrictedParameters.or item.restrictedParameters
    allowedSecurityGroups := updates.allowedSecurityGroups.or item.allowedSecurityGroups
    allowedInstanceProfiles := updates.allowedInstanceProfiles.or item.allowedInstanceProfiles
    paramNodes := updates.paramNodes.or item.paramNodes
    paramCpus := updates.paramCpus.or item.paramCpus
    paramMemory := updates.paramMemory.or item.paramMemory
    paramMemoryUnit := updates.paramMemoryUnit.or item.paramMemoryUnit
    paramGpus := updates.paramGpus.or item.paramGpus
    paramMpiprocs := updates.paramMpiprocs.or item.paramMpiprocs
    paramWalltime := updates.paramWalltime.or item.paramWalltime
    paramBaseOs := updates.paramBaseOs.or item.paramBaseOs
    paramInstanceAmi := updates.paramInstanceAmi.or item.paramInstanceAmi
    paramInstanceTypes := updates.paramInstanceTypes.or item.paramInstanceTypes
    paramForceReservedInstances := updates.paramForceReservedInstances.or item.paramForceReservedInstances
    paramSpot := updates.paramSpot.or item.paramSpot
    paramSpotPrice := updates.paramSpotPrice.or item.paramSpotPrice
    paramSpotAllocationCount := updates.paramSpotAllocationCount.or item.paramSpotAllocationCount
    paramSpotAllocationStrategy := updates.paramSpotAllocationStrategy.or item.paramSpotAllocationStrategy
    paramSubnetIds := updates.paramSubnetIds.or item.paramSubnetIds
    paramSecurityGroups := updates.paramSecurityGroups.or item.paramSecurityGroups
    paramInstanceProfile := updates.paramInstanceProfile.or item.paramInstanceProfile
    paramKeepEbsVolumes := updates.paramKeepEbsVolumes.or item.paramKeepEbsVolumes
    paramRootStorageSize := updates.paramRootStorageSize.or item.paramRootStorageSize
    paramRootStorageSizeUnit := updates.paramRootStorageSizeUnit.or item.paramRootStorageSizeUnit
    paramEnableScratch := updates.paramEnableScratch.or item.paramEnableScratch
    paramScratchProvider := updates.paramScratchProvider.or item.paramScratchProvider
    paramScratchStorageSize := updates.paramScratchStorageSize.or item.paramScratchStorageSize
    paramScratchStorageSizeUnit := updates.paramScratchStorageSizeUnit.or item.paramScratchStorageSizeUnit
    paramScratchStorageIops := updates.paramScratchStorageIops.or item.paramScratchStorageIops
    paramEnableInstanceStore := updates.paramEnableInstanceStore.or item.paramEnableInstanceStore
    paramEnableEfaSupport := updates.paramEnableEfaSupport.or item.paramEnableEfaSupport
    paramEnableHtSupport := updates.paramEnableHtSupport.or item.paramEnableHtSupport
    paramEnablePlacementGroup := updates.paramEnablePlacementGroup.or item.paramEnablePlacementGroup
    paramEnableSystemMetrics := updates.paramEnableSystemMetrics.or item.paramEnableSystemMetrics
    paramEnableAnonymousMetrics := updates.paramEnableAnonymousMetrics.or item.paramEnableAnonymousMetrics
    paramComputeStack := updates.paramComputeStack.or item.paramComputeStack
    paramStackId := updates.paramStackId.or item.paramStackId
    paramJobGroup := updates.paramJobGroup.or item.paramJobGroup
    paramFsxLustreEnabled := updates.paramFsxLustreEnabled.or item.paramFsxLustreEnabled
    paramFsxLustreExistingFsx := updates.paramFsxLustreExistingFsx.or item.paramFsxLustreExistingFsx
    paramFsxLustreS3Backend := updates.paramFsxLustreS3Backend.or item.paramFsxLustreS3Backend
    paramFsxLustreImportPath := updates.paramFsxLustreImportPath.or item.paramFsxLustreImportPath
    paramFsxLustreExportPath := updates.paramFsxLustreExportPath.or item.paramFsxLustreExportPath
    paramFsxLustreDeploymentType := updates.paramFsxLustreDeploymentType.or item.paramFsxLustreDeploymentType
    paramFsxLustrePerUnitThroughput := updates.paramFsxLustrePerUnitThroughput.or item.paramFsxLustrePerUnitThroughput
    paramFsxLustreSize := updates.paramFsxLustreSize.or item.paramFsxLustreSize
    paramFsxLustreSizeUnit := updates.paramFsxLustreSizeUnit.or item.paramFsxLustreSizeUnit }

def createQueueProfile (answers : Answers) (item : DbQueueProfile) :
    Stateful ServiceState Raised DbQueueProfile := do
  Stateful.raiseIf answers.write
  let created := { item with queueProfileId := some answers.uuid }
  Stateful.modify fun s => { s with table := s.table.set answers.uuid created }
  return created

def update (answers : Answers) (queueProfileId : Option String) (updates : DbQueueProfile) :
    Stateful ServiceState Raised DbQueueProfile := do
  if isEmptyString queueProfileId then
    Stateful.raise (invalidParams "queue_profile_id is required")
  else
    let queueProfileId := queueProfileId.getD ""
    Stateful.raiseIf answers.write
    let s ← Stateful.get
    match s.table.get? queueProfileId with
    | none =>
      Stateful.raise (.clientError "ConditionalCheckFailedException"
        "The conditional request failed")
    | some item =>
      let updated := { merge item updates with queueProfileId := some queueProfileId }
      Stateful.modify fun s => { s with table := s.table.set queueProfileId updated }
      return updated

def deleteQueueProfile (answers : Answers) (queueProfileId : Option String) :
    Stateful ServiceState Raised Unit := do
  if isEmptyString queueProfileId then
    Stateful.raise (invalidParams "queue_profile_id is required")
  else
    Stateful.raiseIf answers.write
    Stateful.modify fun s => { s with table := s.table.erase (queueProfileId.getD "") }

end HpcQueueProfilesDAO

namespace QueueProfiles

open HpcQueueProfilesDAO HpcQueueProfilesService

abbrev Serving (α : Type) : Type := Stateful ServiceState Raised α

def iterated (queues : Option (List String)) : Except Raised (List String) :=
  match queues with
  | none => .error .typeError
  | some queues => .ok queues

def keysOf (queueProfile : HpcQueueProfile) : List ProfileKey :=
  .id (queueProfile.queueProfileId.getD "None") :: .name (queueProfile.name.getD "None") ::
    (queueProfile.queues.getD []).map .queue

def cached (s : ServiceState) (queueProfile : HpcQueueProfile) : ServiceState :=
  { s with
    objects := s.objects ++ [queueProfile]
    cache := (keysOf queueProfile).foldl (fun cache key => cache.set key s.objects.length)
      s.cache }

def uncached (s : ServiceState) (queueProfile : HpcQueueProfile) : ServiceState :=
  { s with cache := (keysOf queueProfile).foldl Dict.erase s.cache }

def cacheGet (s : ServiceState) (selector : ProfileSelector) : Option (ℕ × HpcQueueProfile) := do
  let key ← selector.key?
  let ref ← s.cache.get? key
  let queueProfile ← s.objects[ref]?
  some (ref, queueProfile)

def cacheSet (queueProfile : HpcQueueProfile) : Serving ℕ := do
  let s ← Stateful.get
  Stateful.modify (cached · queueProfile)
  if queueProfile.queues.isNone then Stateful.raise .typeError
  else return s.objects.length

def cacheClear (queueProfile : HpcQueueProfile) : Serving Unit := do
  Stateful.modify (uncached · queueProfile)
  if queueProfile.queues.isNone then Stateful.raise .typeError
  else return ()

def notFound : ProfileKey → Raised
  | .id queueProfileId => .soca ErrorCodes.SCHEDULER_QUEUE_PROFILE_NOT_FOUND
      ("queue profile not found for id: " ++ queueProfileId)
  | .name queueProfileName => .soca ErrorCodes.SCHEDULER_QUEUE_PROFILE_NOT_FOUND
      ("queue profile not found for name: " ++ queueProfileName)
  | .queue queueName => .soca ErrorCodes.SCHEDULER_QUEUE_PROFILE_NOT_FOUND
      ("queue profile not found for queue: " ++ queueName)

section

variable (ctx : ServiceContext) (answers : Answers)

/-- What the database answers to a request; one that selects nothing is not sent, and gives a
profile without anything. -/
def readProfile (table : ProfilesTable) (selector : ProfileSelector) :
    Except Raised HpcQueueProfile :=
  match selector.key? with
  | none => convertFromDb {}
  | some key =>
    match answers.read, lookup ctx table key with
    | some e, _ => .error e
    | none, none => .error (notFound key)
    | none, some item => convertFromDb item

def getQueueProfile (selector : ProfileSelector) : Serving (ℕ × HpcQueueProfile) := do
  let s ← Stateful.get
  match cacheGet s selector with
  | some found => return found
  | none =>
    let queueProfile ← Stateful.ofExcept (readProfile ctx answers s.table selector)
    let ref ← cacheSet queueProfile
    return (ref, queueProfile)

def stopped (s : ServiceState) (queueProfileId : Option String) : ServiceState :=
  match s.registered.get? queueProfileId with
  | none => s
  | some ref =>
    { s with
      provisioners := s.provisioners.modify ref fun provisioner =>
        { provisioner with running := false }
      registered := s.registered.erase queueProfileId }

def started (s : ServiceState) (queueProfileId : Option String) : ServiceState :=
  { s with
    provisioners := s.provisioners ++ [{ queueProfileId, running := true }]
    registered := s.registered.set queueProfileId s.provisioners.length }

def stopJobProvisioner (queueProfile : HpcQueueProfile) : Serving Unit :=
  Stateful.modify (stopped · queueProfile.queueProfileId)

def initializeJobProvisioner (queueProfile : HpcQueueProfile) : Serving Unit := do
  if queueProfile.enabled = some false then return ()
  else
    stopJobProvisioner queueProfile
    -- the provisioning queue goes through the queues of the profile
    if queueProfile.queues.isNone then Stateful.raise .typeError
    else Stateful.modify (started · queueProfile.queueProfileId)

def isQueueAlreadyExists : Raised → Bool
  | .soca errorCode _ => errorCode = ErrorCodes.SCHEDULER_QUEUE_ALREADY_EXISTS
  | _ => false

def isSocaException : Raised → Bool
  | .soca _ _ => true
  | _ => false

/-- Creates queues in the scheduler, from the `i`-th call on, and counts them. A queue that exists
counts as created. -/
def createSchedulerQueues (i : ℕ) : List String → Except Raised ℕ
  | [] => .ok 0
  | _ :: queueNames =>
    match answers.createQueue i with
    | none => (createSchedulerQueues (i + 1) queueNames).map (· + 1)
    | some e =>
      if isQueueAlreadyExists e then (createSchedulerQueues (i + 1) queueNames).map (· + 1)
      else .error e

def deleteSchedulerQueues (i : ℕ) : List String → Except Raised ℕ
  | [] => .ok 0
  | _ :: queueNames =>
    match answers.deleteQueue i with
    | none => (deleteSchedulerQueues (i + 1) queueNames).map (· + 1)
    | some e => if isSocaException e then deleteSchedulerQueues (i + 1) queueNames else .error e

def createQueueProfile (request : HpcQueueProfile) : Serving HpcQueueProfile := do
  let queueProfile ← Stateful.ofExcept
    (validateAndSanitizeQueueProfile ctx.jobParamsValid answers.stackUuid request)
  Stateful.raiseIf answers.read
  let s ← Stateful.get
  let name := queueProfile.name.getD "None"
  if (getQueueProfileByName ctx s.table name).isSome then
    Stateful.raise
      (invalidParams ("queue profile already exists for queue profile name: " ++ name))
  else
    let item ← HpcQueueProfilesDAO.createQueueProfile answers
      (convertToDb { queueProfile with enabled := some false })
    let created ← Stateful.ofExcept (convertFromDb item)
    let queues ← Stateful.ofExcept (iterated created.queues)
    let _ ← Stateful.ofExcept (createSchedulerQueues answers 0 queues)
    let _ ← cacheSet created
    return created

def enableQueueProfile (selector : ProfileSelector) : Serving Unit := do
  let (_, queueProfile) ← getQueueProfile ctx answers selector.withoutQueue
  if queueProfile.enabled = some true then return ()
  else
    let item ← update answers queueProfile.queueProfileId { enabled := some true }
    let updated ← Stateful.ofExcept (convertFromDb item)
    let _ ← cacheSet updated
    initializeJobProvisioner updated

def disableQueueProfile (selector : ProfileSelector) : Serving Unit := do
  let (_, queueProfile) ← getQueueProfile ctx answers selector.withoutQueue
  if queueProfile.enabled = some false then return ()
  else
    let item ← update answers queueProfile.queueProfileId { enabled := some false }
    let updated ← Stateful.ofExcept (convertFromDb item)
    let _ ← cacheSet updated
    stopJobProvisioner updated

def replaceSchedulerQueues (existingQueues newQueues : List String) : Except Raised Unit := do
  let _ ← deleteSchedulerQueues answers 0 (existingQueues.dedup.filter (· ∉ newQueues))
  let _ ← createSchedulerQueues answers 0 (newQueues.dedup.filter (· ∉ existingQueues))
  .ok ()

def updateQueueProfile (request : HpcQueueProfile) : Serving HpcQueueProfile := do
  let queueProfile ← Stateful.ofExcept
    (validateAndSanitizeQueueProfile ctx.jobParamsValid answers.stackUuid request)
  let (_, existing) ← getQueueProfile ctx answers {
    queueProfileId := queueProfile.queueProfileId, queueProfileName := queueProfile.name }
  let item ← update answers existing.queueProfileId (convertToDb queueProfile)
  let updated ← Stateful.ofExcept (convertFromDb item)
  Stateful.ofExcept
    (replaceSchedulerQueues answers (existing.queues.getD []) (updated.queues.getD []))
  let _ ← cacheSet updated
  initializeJobProvisioner updated
  return updated

def deleteQueueProfile (selector : ProfileSelector) (deleteQueues : Option Bool) :
    Serving Unit := do
  let (_, queueProfile) ← getQueueProfile ctx answers selector.withoutQueue
  stopJobProvisioner queueProfile
  let queueNames := if getAsBool deleteQueues true then queueProfile.queues.getD [] else []
  let _ ← Stateful.ofExcept (deleteSchedulerQueues answers 0 queueNames)
  cacheClear queueProfile
  HpcQueueProfilesDAO.deleteQueueProfile answers queueProfile.queueProfileId

/-- Refuses queues, from the `i`-th on, that another profile has. -/
def checkExistingProfiles (table : ProfilesTable) (queueProfile : HpcQueueProfile) (i : ℕ) :
    List String → Except Raised Unit
  | [] => .ok ()
  | queueName :: queueNames =>
    if isEmptyString (some queueName) then
      .error (invalidParams "queue_profile_name is required")
    else
      match answers.checkRead i, getQueueProfileByQueue ctx table queueName with
      | some e, _ => .error e
      | none, none => checkExistingProfiles table queueProfile (i + 1) queueNames
      | none, some existing =>
        if existing.queueProfileId = queueProfile.queueProfileId then
          checkExistingProfiles table queueProfile (i + 1) queueNames
        else
          match existing.name with
          | none => .error .keyError
          | some name => .error (invalidParams
              ("queue: " ++ queueName ++ " is already associated with queue profile: " ++ name))

def setQueues (queueProfileId : Option String) (queueNames : List String) :
    Serving HpcQueueProfile := do
  let item ← update answers queueProfileId { queues := some queueNames }
  let queueProfile ← Stateful.ofExcept (convertFromDb item)
  let _ ← cacheSet queueProfile
  return queueProfile

def createQueues (queueNames : List String) (selector : ProfileSelector)
    (updateDb checkExistingProfile : Bool) : Serving Unit := do
  if queueNames = [] then Stateful.raise (invalidParams "queue_names[] is required")
  else
    let (_, queueProfile) ← getQueueProfile ctx answers selector.withoutQueue
    let s ← Stateful.get
    Stateful.ofExcept (if checkExistingProfile then
      checkExistingProfiles ctx answers s.table queueProfile 0 queueNames else .ok ())
    let createdCount ← Stateful.ofExcept (createSchedulerQueues answers 0 queueNames)
    let reinitializeProvisioner ← Stateful.ofExcept
      (if 0 < createdCount then .ok true
      else (iterated queueProfile.queues).map fun existingQueues =>
        queueNames.any (· ∉ existingQueues))
    if reinitializeProvisioner then
      let queueProfile ←
        if updateDb then setQueues answers selector.queueProfileId queueNames
        else pure queueProfile
      initializeJobProvisioner queueProfile
    else return ()

/-- Takes names out of a list one by one, up to one that is not in it: what is left, and the
name. -/
def removeQueues (queues : List String) : List String → List String × Option String
  | [] => (queues, none)
  | queueName :: queueNames =>
    if queueName ∈ queues then removeQueues (queues.erase queueName) queueNames
    else (queues, some queueName)

def deleteQueues (queueNames : List String) (selector : ProfileSelector)
    (updateDb initializeProvisioner : Bool) : Serving Unit := do
  if queueNames = [] then Stateful.raise (invalidParams "queue_names[] is required")
  else
    let (ref, queueProfile) ← getQueueProfile ctx answers selector.withoutQueue
    let queues ← Stateful.ofExcept (iterated queueProfile.queues)
    -- the list is that of the cached object
    let (updatedQueues, missing) := removeQueues queues queueNames
    let remaining := { queueProfile with queues := some updatedQueues }
    Stateful.modify fun s => { s with objects := s.objects.set ref remaining }
    match missing with
    | some queueName => Stateful.raise (invalidParams
        ("queue name: " ++ queueName ++ " is not associated with queue profile: " ++
          queueProfile.name.getD "None"))
    | none =>
      let _ ← Stateful.ofExcept (deleteSchedulerQueues answers 0 queueNames)
      let queueProfile ←
        if updateDb then setQueues answers selector.queueProfileId queueNames
        else pure remaining
      if initializeProvisioner then initializeJobProvisioner queueProfile
      else return ()

/-- Creates the queues of the stored profiles in the scheduler, from the `i`-th call on. -/
def restoreQueues (i : ℕ) : List DbQueueProfile → Except Raised (List HpcQueueProfile)
  | [] => .ok []
  | item :: items => do
    let queueProfile ← convertFromDb item
    let queues ← iterated queueProfile.queues
    let _ ← createSchedulerQueues answers i queues
    let queueProfiles ← restoreQueues (i + queues.length) items
    .ok (queueProfile :: queueProfiles)

def start : Serving Unit := do
  let s ← Stateful.get
  if s.isRunning then return ()
  else
    Stateful.modify fun s => { s with isRunning := true }
    Stateful.raiseIf answers.createTable
    Stateful.raiseIf answers.read
    let queueProfiles ← Stateful.ofExcept (restoreQueues answers 0 (ctx.scan s.table))
    Stateful.forEach initializeJobProvisioner queueProfiles

end

/-- The requests to the service; a cache entry may also expire by itself. -/
inductive Request where
  | start
  | createQueueProfile (queueProfile : HpcQueueProfile)
  | getQueueProfile (selector : ProfileSelector)
  | enableQueueProfile (selector : ProfileSelector)
  | disableQueueProfile (selector : ProfileSelector)
  | updateQueueProfile (queueProfile : HpcQueueProfile)
  | deleteQueueProfile (selector : ProfileSelector) (deleteQueues : Option Bool)
  | createQueues (queueNames : List String) (selector : ProfileSelector)
      (updateDb checkExistingProfile : Bool)
  | deleteQueues (queueNames : List String) (selector : ProfileSelector)
      (updateDb initializeProvisioner : Bool)
  | expire (key : ProfileKey)

def perform (ctx : ServiceContext) (answers : Answers) (s : ServiceState) : Request → ServiceState
  | .start => ((start ctx answers).run s).2
  | .createQueueProfile queueProfile => ((createQueueProfile ctx answers queueProfile).run s).2
  | .getQueueProfile selector => ((getQueueProfile ctx answers selector).run s).2
  | .enableQueueProfile selector => ((enableQueueProfile ctx answers selector).run s).2
  | .disableQueueProfile selector => ((disableQueueProfile ctx answers selector).run s).2
  | .updateQueueProfile queueProfile => ((updateQueueProfile ctx answers queueProfile).run s).2
  | .deleteQueueProfile selector deleteQueues =>
    ((deleteQueueProfile ctx answers selector deleteQueues).run s).2
  | .createQueues queueNames selector updateDb checkExistingProfile =>
    ((createQueues ctx answers queueNames selector updateDb checkExistingProfile).run s).2
  | .deleteQueues queueNames selector updateDb initializeProvisioner =>
    ((deleteQueues ctx answers queueNames selector updateDb initializeProvisioner).run s).2
  | .expire key => { s with cache := s.cache.erase key }

/-- One request with what its calls are answered; an id that is handed out is new. -/
def Step (ctx : ServiceContext) (s : ServiceState) (label : Request × Answers)
    (s' : ServiceState) : Prop :=
  (label.2.uuid ∉ s.table.keys ∧ getAsString label.2.uuid = some label.2.uuid) ∧
    s' = perform ctx label.2 s label.1

end QueueProfiles

end Idea

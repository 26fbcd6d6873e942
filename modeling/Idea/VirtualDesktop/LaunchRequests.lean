import Idea.Directory.ComputerAccounts
import Idea.Model.Memory
import Idea.System.Threads
import Mathlib.Data.List.Infix

/-! # Requests for new desktop sessions

A request is checked against the projects of its owner, the software stack, the types of instances
and the sizes of volumes. An accepted request is completed with defaults, its host is launched and
then its session is stored.
-/

namespace Idea.VirtualDesktop.Launch

open ADAutomation (requiredString CONFIG_KEY_NOT_FOUND)

inductive BaseOS where
  | AMAZON_LINUX2 | AMAZON_LINUX2023 | RHEL8 | RHEL9 | ROCKY8 | ROCKY9 | UBUNTU2204 | UBUNTU2404
  | WINDOWS | WINDOWS2019 | WINDOWS2022 | WINDOWS2025
  deriving DecidableEq, Repr

/-- `str` of a system. -/
def BaseOS.str (self : BaseOS) : String :=
  "VirtualDesktopBaseOS." ++
    match self with
    | AMAZON_LINUX2 => "AMAZON_LINUX2"
    | AMAZON_LINUX2023 => "AMAZON_LINUX2023"
    | RHEL8 => "RHEL8"
    | RHEL9 => "RHEL9"
    | ROCKY8 => "ROCKY8"
    | ROCKY9 => "ROCKY9"
    | UBUNTU2204 => "UBUNTU2204"
    | UBUNTU2404 => "UBUNTU2404"
    | WINDOWS => "WINDOWS"
    | WINDOWS2019 => "WINDOWS2019"
    | WINDOWS2022 => "WINDOWS2022"
    | WINDOWS2025 => "WINDOWS2025"

def BaseOS.isWindows (self : BaseOS) : Bool :=
  decide ("windows".toList <:+: self.str.toList.map Char.toLower)

inductive VirtualDesktopSessionType where
  | CONSOLE | VIRTUAL
  deriving DecidableEq, Repr

inductive VirtualDesktopGPU where
  | NO_GPU | NVIDIA | AMD
  deriving DecidableEq, Repr

def VirtualDesktopGPU.value : VirtualDesktopGPU → String
  | NO_GPU => "NO_GPU"
  | NVIDIA => "NVIDIA"
  | AMD => "AMD"

inductive VirtualDesktopArchitecture where
  | X86_64 | ARM64
  deriving DecidableEq, Repr

def VirtualDesktopArchitecture.value : VirtualDesktopArchitecture → String
  | X86_64 => "x86_64"
  | ARM64 => "arm64"

structure AwsProjectBudget where
  budgetName : Option String
  deriving DecidableEq

structure Project where
  projectId : Option String
  name : Option String
  enableBudgets : Option Bool
  budget : Option AwsProjectBudget
  deriving DecidableEq

def Project.isBudgetsEnabled (self : Project) : Bool :=
  self.enableBudgets.getD false &&
    match self.budget with
    | none => false
    | some budget => !isEmptyString budget.budgetName

structure VirtualDesktopSoftwareStack where
  baseOs : BaseOS
  stackId : String
  minStorage : SocaMemory
  minRam : SocaMemory
  architecture : VirtualDesktopArchitecture
  gpu : VirtualDesktopGPU
  projects : List (Option String)
  allowedInstanceTypes : Option (List String)
  deriving DecidableEq

inductive SessionStack where
  | named (stackId : Option String) (baseOs : Option BaseOS)
  | stored (stack : VirtualDesktopSoftwareStack)
  deriving DecidableEq

def SessionStack.baseOs : SessionStack → Option BaseOS
  | named _ baseOs => baseOs
  | stored stack => some stack.baseOs

/-- `'windows' in str(base_os).lower()` -/
def SessionStack.isWindows (self : SessionStack) : Bool :=
  match self.baseOs with
  | none => false
  | some baseOs => baseOs.isWindows

structure VirtualDesktopServer where
  instanceType : Option String
  rootVolumeSize : Option SocaMemory
  rootVolumeIops : Option ℤ
  instanceProfileArn : Option String
  keyPairName : Option String
  securityGroups : Option (List (Option String))
  instanceId : Option String
  deriving DecidableEq

structure VirtualDesktopSession where
  name : Option String
  owner : Option String
  project : Option Project
  softwareStack : Option SessionStack
  hibernationEnabled : Option Bool
  server : Option VirtualDesktopServer
  type : Option VirtualDesktopSessionType
  ideaSessionId : Option String
  failureReason : Option String
  deriving DecidableEq

structure InstanceTypeInfo where
  instanceType : String
  sizeInMiB : Option ℚ
  hibernationSupported : Option Bool
  supportedArchitectures : List String
  gpus : List String
  deriving DecidableEq

structure InstanceTypes where
  types : List InstanceTypeInfo
  nodup : (types.map InstanceTypeInfo.instanceType).Nodup

/-- What a budget was spent on so far, where it is known, and its limit. -/
structure BudgetAmounts where
  limit : ℚ
  actualSpend : Option ℚ
  deriving DecidableEq

inductive Op where
  | getUserProjects (username : Option String)
  | budgetsGetBudget (budgetName : String)
  | getSoftwareStack (baseOs : BaseOS) (stackId : String)
  | instanceTypes
  | uuid
  | countSessions (username : String)
  | runInstances (owner ideaSessionId : String)
  | createServer (instanceId owner ideaSessionId : String)
  | updateSchedule (day : ℕ) (owner ideaSessionId : String)
  | putSession (owner ideaSessionId : String)
  | triggerCreateEvent (owner ideaSessionId : String)
  deriving DecidableEq

@[reducible] def Answer : Op → Type
  | .getUserProjects _ => Except Raised (List Project)
  | .budgetsGetBudget _ => Except Raised (Option BudgetAmounts)
  | .getSoftwareStack _ _ => Except Raised (Option VirtualDesktopSoftwareStack)
  | .instanceTypes => Except Raised InstanceTypes
  | .uuid => String
  | .countSessions _ => Except Raised ℕ
  | .runInstances _ _ => Except Raised (Option String)
  | _ => Except Raised Unit

/-- An exception, or a session that is turned down. -/
inductive Stop where
  | raised (e : Raised)
  | rejected (session : VirtualDesktopSession)
  deriving DecidableEq

structure Config where
  administratorUsername : Option String
  enforceProjectBudgets : Option Bool
  instanceTypesAllow : List String
  instanceTypesDeny : List String
  maxRootVolumeMemory : Option ℤ
  allowedSessionsPerUser : Option ℤ
  dcvHostInstanceProfileArn : Option String
  sshKeyPair : Option String
  dcvHostSecurityGroupId : Option String
  additionalSecurityGroups : List String
  defaultRootVolIops : ℤ
  /-- The text of an exception. -/
  str : Stop → String

abbrev Request (α : Type) : Type := Program Op Answer Stop α

def need {α : Type} (outcome : Except Raised α) : Request α :=
  Program.ofExcept (outcome.mapError .raised)

def settle {α : Type} (x : Request (Except Raised α)) : Request α := x >>= need

def reject {α : Type} (session : VirtualDesktopSession) (reason : String) : Request α :=
  Program.raise (.rejected { session with failureReason := some reason })

def ask (op : Op) : Request (Answer op) := Program.perform op

def required {α : Type} (value : Option α) : Request α :=
  match value with
  | some a => pure a
  | none => Program.raise (.raised .attributeError)

def configInt (key : String) (value : Option ℤ) : Request ℤ :=
  match value with
  | some n => pure n
  | none => Program.raise (.raised (.soca CONFIG_KEY_NOT_FOUND ("key: " ++ key)))

namespace InstanceTypes

variable (self : InstanceTypes)

def getInstanceTypeInfo (name : String) : Except Raised InstanceTypeInfo :=
  match self.types.find? fun info => info.instanceType = name with
  | some info => .ok info
  | none => .error .keyError

end InstanceTypes

namespace InstanceTypeInfo

variable (self : InstanceTypeInfo)

def ram : SocaMemory := ⟨self.sizeInMiB.getD 0, .miB⟩

def architecture : Option VirtualDesktopArchitecture :=
  self.supportedArchitectures.findSome? fun name =>
    if name = VirtualDesktopArchitecture.ARM64.value then some .ARM64
    else if name = VirtualDesktopArchitecture.X86_64.value then some .X86_64
    else none

def sameManufacturer (gpu : VirtualDesktopGPU) (manufacturer : String) : Bool :=
  manufacturer.toList.map Char.toLower = gpu.value.toList.map Char.toLower

def gpuManufacturer : VirtualDesktopGPU :=
  (self.gpus.findSome? fun manufacturer =>
    if sameManufacturer .NVIDIA manufacturer then some .NVIDIA
    else if sameManufacturer .AMD manufacturer then some .AMD
    else none).getD .NO_GPU

end InstanceTypeInfo

def listed (entries : List String) (instanceType : String) : Bool :=
  (entries.filter fun entry => '.' ∈ entry.toList).contains instanceType ||
    (entries.filter fun entry => '.' ∉ entry.toList).contains
      (String.ofList (instanceType.toList.takeWhile (· ≠ '.')))

def allowedInstanceTypes (config : Config) (stack : VirtualDesktopSoftwareStack) : List String :=
  if isEmptyList stack.allowedInstanceTypes then config.instanceTypesAllow
  else stack.allowedInstanceTypes.getD []

def hasGpu (stack : VirtualDesktopSoftwareStack) (info : InstanceTypeInfo) : Bool :=
  -- The check is off for Windows, whatever the comment of the source says.
  stack.baseOs.isWindows || stack.gpu = .NO_GPU ||
    info.gpus.any (InstanceTypeInfo.sameManufacturer stack.gpu)

/-- `get_valid_instance_types` of a stack. -/
def getValidInstanceTypes (config : Config) (instanceTypes : InstanceTypes)
    (hibernationSupport : Bool) (stack : VirtualDesktopSoftwareStack) : List InstanceTypeInfo :=
  instanceTypes.types.filter fun info =>
    listed (allowedInstanceTypes config stack) info.instanceType &&
      !listed config.instanceTypesDeny info.instanceType &&
      !info.ram.lt stack.minRam &&
      (!hibernationSupport || info.hibernationSupported.getD false) &&
      info.supportedArchitectures.contains stack.architecture.value &&
      hasGpu stack info

section Checks

variable (config : Config) (session : VirtualDesktopSession)

def isClusterAdministrator (owner : Option String) : Except Raised Bool :=
  match owner, config.administratorUsername with
  | none, _ => .error .typeError
  | some owner, administrator =>
    if isEmptyString administrator then .error .typeError
    else .ok (decide (owner.toList <:+: (administrator.getD "").toList) ||
      "clusteradmin".toList.isPrefixOf owner.toList)

/-- `ProjectsClient.get_user_projects` -/
def getUserProjects (username : Option String) : Request (List Project) :=
  if isEmptyString username then Program.raise (.raised (invalidParams "username is required"))
  else settle (ask (.getUserProjects username))

def validateProject : Request VirtualDesktopSession := do
  let projectId := session.project.bind (·.projectId)
  if isEmptyString projectId then reject session "missing session.project.project_id"
  else
    let userProjects ← getUserProjects session.owner
    let _ ← need (requiredString "cluster.administrator_username" config.administratorUsername)
    match userProjects.find? fun project => project.projectId = projectId with
    | some project => pure { session with project := some project }
    | none =>
      if ← need (isClusterAdministrator config session.owner) then pure session
      else reject session ("User " ++ session.owner.getD "None" ++
        " does not belong in project_id " ++ projectId.getD "")

def validateBudget : Request VirtualDesktopSession := do
  let project ← required session.project
  let budgetName := (project.budget.bind (·.budgetName)).bind getAsString
  if config.enforceProjectBudgets.getD true && project.isBudgetsEnabled then
    match budgetName with
    | none => pure session
    | some budgetName =>
      match ← settle (ask (.budgetsGetBudget budgetName)) with
      | none => pure session
      | some amounts =>
        let actualSpend ← required amounts.actualSpend
        if amounts.limit < actualSpend then
          reject session ("Project " ++ budgetName ++ " budget has been exceeded. Unable to " ++
            "start session. Contact your Administrator.")
        else pure session
  else pure session

def validateSoftwareStack : Request VirtualDesktopSession := do
  match session.softwareStack with
  | none => reject session "missing session.software_stack"
  | some (.stored stack) => check stack.stackId stack.baseOs
  | some (.named stackId baseOs) =>
    match stackId, baseOs with
    | some stackId, some baseOs =>
      if isEmptyString (some stackId) then missing else check stackId baseOs
    | _, _ => missing
where
  missing : Request VirtualDesktopSession :=
    reject session
      "missing session.software_stack.stack_id and/or session.software_stack.base_os"
  check (stackId : String) (baseOs : BaseOS) : Request VirtualDesktopSession := do
    match ← settle (ask (.getSoftwareStack baseOs stackId)) with
    | none =>
      reject session ("Invalid session.software_stack.stack_id: " ++ stackId ++
        " and/or session.software_stack.base_os: " ++ baseOs.str)
    | some stack =>
      let project ← required session.project
      if project.projectId ∈ stack.projects then
        pure { session with softwareStack := some (.stored stack) }
      else reject session ("session.software_stack.stack_id: " ++ stackId ++
        " is not part of session.project.project_id: " ++ project.projectId.getD "None")

def storedStack : Request VirtualDesktopSoftwareStack :=
  match session.softwareStack with
  | some (.stored stack) => pure stack
  | _ => Program.raise (.raised .attributeError)

def instanceTypeOf : Option String := session.server.bind (·.instanceType)

def validateInstanceType : Request VirtualDesktopSession := do
  match session.hibernationEnabled with
  | none => reject session "missing session.hibernation_enabled"
  | some hibernation =>
    let instanceType := instanceTypeOf session
    if isEmptyString instanceType then reject session "missing session.server.instance_type"
    else
      let stack ← storedStack session
      let instanceTypes ← settle (ask .instanceTypes)
      if (getValidInstanceTypes config instanceTypes hibernation stack).any fun info =>
          info.instanceType = instanceType.getD "" then pure session
      else reject session ("Invalid session.server.instance_type: " ++ instanceType.getD "" ++
        ". Not allowed for current configuration")

def instanceInfo : Request InstanceTypeInfo := do
  let instanceTypes ← settle (ask .instanceTypes)
  need (instanceTypes.getInstanceTypeInfo ((instanceTypeOf session).getD ""))

def validateHibernation : Request VirtualDesktopSession := do
  let stack ← storedStack session
  if session.hibernationEnabled = some true && stack.baseOs.isWindows then
    let info ← instanceInfo session
    if 16 < (info.ram.asUnit .giB).value then
      reject session ("OS " ++ stack.baseOs.str ++
        " does not support Instance Hibernation for instances with RAM greater than 16GiB.")
    else pure session
  else pure session

def validateSessionType : Request VirtualDesktopSession := do
  let stack ← storedStack session
  let instanceType := (instanceTypeOf session).getD ""
  if session.type = some .VIRTUAL && stack.baseOs.isWindows then
    reject session (stack.baseOs.str ++ " does not support Virtual Sessions")
  else
    let info ← instanceInfo session
    if session.type = some .VIRTUAL && info.gpuManufacturer = .AMD then
      reject session ("Instance type: " ++ instanceType ++
        " with GPU VirtualDesktopGPU.AMD does not support Virtual Sessions")
    else if session.type = some .CONSOLE && info.architecture = some .ARM64 then
      reject session ("Instance type: " ++ instanceType ++ " does not support Console Sessions")
    else pure session

def minRootVolume (stack : VirtualDesktopSoftwareStack) : Request SocaMemory :=
  if session.hibernationEnabled = some true then do
    let info ← instanceInfo session
    pure (stack.minStorage.add info.ram)
  else pure stack.minStorage

def validateRootVolume : Request VirtualDesktopSession := do
  match session.server.bind (·.rootVolumeSize) with
  | none => reject session "missing session.server.root_volume_size"
  | some size =>
    let maxSize ← configInt "virtual-desktop-controller.dcv_session.max_root_volume_memory"
      config.maxRootVolumeMemory
    if size.gtNumber maxSize then
      reject session ("root volume size: " ++ size.str ++
        " is greater than maximum allowed root volume size: " ++ toString maxSize ++ "GB.")
    else
      let stack ← storedStack session
      let minSize ← minRootVolume session stack
      if size.lt minSize then
        reject session ("root volume size: " ++ size.str ++
          " is less than the minimum required root volume size: " ++ minSize.str ++
          " when hibernation is " ++
          (if session.hibernationEnabled = some true then "enabled" else "disabled") ++ ".")
      else pure session

/-- `validate_create_session_request`: the session as it is accepted. -/
def validateCreateSessionRequest : Request VirtualDesktopSession := do
  let session ← validateProject config session
  let session ← validateBudget config session
  let session ← validateSoftwareStack session
  let session ← validateInstanceType config session
  let session ← validateHibernation session
  let session ← validateSessionType session
  validateRootVolume config session

end Checks

/-- `get_string` of a required key: a blank value is no value. -/
def requiredValue (key : String) (value : Option String) : Request (Option String) :=
  match value with
  | none => Program.raise (.raised (.soca CONFIG_KEY_NOT_FOUND ("key: " ++ key)))
  | some value => pure (if isEmptyString (some value) then none else some value)

def orRequired (given : Option String) (key : String) (value : Option String) :
    Request (Option String) :=
  if isEmptyString given then requiredValue key value else pure given

def defaultType (isWindows : Bool) (gpu : VirtualDesktopGPU) : VirtualDesktopSessionType :=
  if isWindows || gpu = .AMD then .CONSOLE else .VIRTUAL

section Completion

variable (config : Config) (username : String) (session : VirtualDesktopSession)

def completeServer (server : VirtualDesktopServer) : Request VirtualDesktopServer := do
  let instanceProfileArn ← orRequired server.instanceProfileArn
    "virtual-desktop-controller.dcv_host_instance_profile_arn" config.dcvHostInstanceProfileArn
  let keyPairName ← orRequired server.keyPairName "cluster.network.ssh_key_pair" config.sshKeyPair
  let securityGroup ← requiredValue "virtual-desktop-controller.dcv_host_security_group_id"
    config.dcvHostSecurityGroupId
  pure { server with
    rootVolumeIops := some (server.rootVolumeIops.getD config.defaultRootVolIops)
    instanceProfileArn := instanceProfileArn
    keyPairName := keyPairName
    securityGroups := some ((server.securityGroups.getD [] ++ [securityGroup] ++
      config.additionalSecurityGroups.map some).dedup) }

def completeName : Request (Option String) :=
  if isEmptyString session.name then do
    let uuid ← ask .uuid
    pure (some uuid)
  else pure session.name

/-- `complete_create_session_request` -/
def completeCreateSessionRequest : Request VirtualDesktopSession := do
  let name ← completeName session
  let info ← instanceInfo session
  let stack ← required session.softwareStack
  let server ← required session.server
  let server ← completeServer config server
  let ideaSessionId ← ask .uuid
  pure { session with
    name := name
    type := some (session.type.getD (defaultType stack.isWindows info.gpuManufacturer))
    owner := if isEmptyString session.owner then some username else session.owner
    server := some server
    ideaSessionId := some ideaSessionId }

end Completion

section Creation

variable (config : Config) (username : String)

/-- `provision_host_for_session`: the id of the instance, if one was launched. -/
def provisionHostForSession (owner ideaSessionId : String) : Request (Option String) := do
  match ← settle (ask (.runInstances owner ideaSessionId)) with
  | none => pure none
  | some instanceId => do
    settle (ask (.createServer instanceId owner ideaSessionId))
    pure (some instanceId)

/-- `VirtualDesktopSessionUtils.create_session` -/
def storeSession (session : VirtualDesktopSession) : Request VirtualDesktopSession := do
  let owner := session.owner.getD ""
  let ideaSessionId := session.ideaSessionId.getD ""
  match ← (provisionHostForSession owner ideaSessionId).attempt with
  | .error e => reject session (config.str e)
  | .ok none => reject session "Unable to create DCV host. Contact the Administrator."
  | .ok (some instanceId) => do
    Program.forEach (fun day => settle (ask (.updateSchedule day owner ideaSessionId)))
      (List.range 7)
    settle (ask (.putSession owner ideaSessionId))
    settle (ask (.triggerCreateEvent owner ideaSessionId))
    pure { session with
      server := session.server.map fun server => { server with instanceId := some instanceId } }

def validateOwner (session : VirtualDesktopSession) : Request VirtualDesktopSession :=
  if !isEmptyString session.owner && session.owner ≠ some username then
    reject session (session.failureReason.getD "" ++
      "Invalid owner provided. Non Admin users can submit requests for themselves only")
  else pure { session with owner := some username }

def VirtualDesktopSession.empty : VirtualDesktopSession :=
  ⟨none, none, none, none, none, none, none, none, none⟩

def validateSessionCount (session : VirtualDesktopSession) : Request Unit := do
  let count ← settle (ask (.countSessions username))
  let allowed ← configInt "virtual-desktop-controller.dcv_session.allowed_sessions_per_user"
    config.allowedSessionsPerUser
  if allowed ≤ count then
    reject session ("User " ++ username ++ " has exceeded the allowed number of sessions: " ++
      toString count ++ ". Please contact the System Administrators if you need to create more " ++
      "sessions.")
  else pure ()

/-- `VirtualDesktopUserAPI.create_session` -/
def createSession (session : Option VirtualDesktopSession) : Request VirtualDesktopSession := do
  match session with
  | none => reject VirtualDesktopSession.empty "Missing Create Session Info"
  | some session => do
    let session ← validateOwner username session
    validateSessionCount config username session
    let session ← validateCreateSessionRequest config session
    let session ← completeCreateSessionRequest config username session
    storeSession config session

end Creation

def sampleConfig : Config where
  administratorUsername := some "clusteradmin"
  enforceProjectBudgets := none
  instanceTypesAllow := ["m5"]
  instanceTypesDeny := []
  maxRootVolumeMemory := some 1000
  allowedSessionsPerUser := some 1
  dcvHostInstanceProfileArn := some "arn:profile"
  sshKeyPair := some "key"
  dcvHostSecurityGroupId := some "sg-1"
  additionalSecurityGroups := []
  defaultRootVolIops := 100
  str _ := "failed"

def sampleProject : Project := ⟨some "project-1", some "research", some false, none⟩

def sampleStack : VirtualDesktopSoftwareStack where
  baseOs := .AMAZON_LINUX2
  stackId := "stack-1"
  minStorage := ⟨10, .gb⟩
  minRam := ⟨4, .gb⟩
  architecture := .X86_64
  gpu := .NO_GPU
  projects := [some "project-1"]
  allowedInstanceTypes := none

def sampleTypes : InstanceTypes where
  types := [⟨"m5.large", some 8192, some true, ["x86_64"], []⟩]
  nodup := by decide

def sampleRequest : VirtualDesktopSession where
  name := some "desk"
  owner := some "ada"
  project := some ⟨some "project-1", none, none, none⟩
  softwareStack := some (.named (some "stack-1") (some .AMAZON_LINUX2))
  hibernationEnabled := some false
  server := some ⟨some "m5.large", some ⟨20, .gb⟩, none, none, none, none, none⟩
  type := none
  ideaSessionId := none
  failureReason := none

def sampleAnswer (uuid : String) : (op : Op) → Answer op
  | .getUserProjects _ => .ok [sampleProject]
  | .budgetsGetBudget _ => .ok none
  | .getSoftwareStack _ _ => .ok (some sampleStack)
  | .instanceTypes => .ok sampleTypes
  | .uuid => uuid
  | .countSessions _ => .ok 0
  | .runInstances _ _ => .ok (some "i-1")
  | .createServer _ _ _ => .ok ()
  | .updateSchedule _ _ _ => .ok ()
  | .putSession _ _ => .ok ()
  | .triggerCreateEvent _ _ => .ok ()

end Idea.VirtualDesktop.Launch

import Idea.QueueProfiles.Codec
import Idea.VirtualDesktop.LaunchRequests
import Idea.VirtualDesktop.Store

/-! # The stored form of a desktop session

The item of a session in the database contains the items of its server and its software stack, the
names of its project and one item for each day of the week. The encoder writes what the session
has, and the decoder reads the attributes back through helpers that take blank text and empty lists
for absent and fill in defaults.
-/

namespace Idea.VirtualDesktop.SessionCodec

open Launch (BaseOS VirtualDesktopGPU VirtualDesktopArchitecture)
open Controller (DayOfWeek VirtualDesktopScheduleType VirtualDesktopSessionState)

inductive VirtualDesktopTenancy where
  | DEFAULT | DEDICATED | HOST
  deriving DecidableEq

structure Project where
  projectId : Option String
  name : Option String
  title : Option String
  deriving DecidableEq

structure VirtualDesktopSoftwareStack where
  baseOs : Option BaseOS
  stackId : Option String
  name : Option String
  description : Option String
  createdOn : Option ℤ
  updatedOn : Option ℤ
  amiId : Option String
  enabled : Option Bool
  minStorage : Option SocaMemory
  minRam : Option SocaMemory
  architecture : Option VirtualDesktopArchitecture
  gpu : Option VirtualDesktopGPU
  projects : Option (List Project)
  poolEnabled : Option Bool
  poolAsgName : Option String
  launchTenancy : Option VirtualDesktopTenancy
  allowedInstanceTypes : Option (List String)

structure VirtualDesktopServer where
  instanceId : Option String
  instanceType : Option String
  ideaSessionId : Option String
  ideaSessionOwner : Option String
  state : Option String
  locked : Option Bool
  deriving DecidableEq

structure VirtualDesktopSchedule where
  scheduleId : Option String
  ideaSessionId : Option String
  ideaSessionOwner : Option String
  dayOfWeek : Option DayOfWeek
  startUpTime : Option String
  shutDownTime : Option String
  scheduleType : Option VirtualDesktopScheduleType
  deriving DecidableEq

abbrev VirtualDesktopWeekSchedule : Type := DayOfWeek → Option VirtualDesktopSchedule

structure VirtualDesktopSession where
  owner : Option String
  ideaSessionId : Option String
  baseOs : Option BaseOS
  name : Option String
  description : Option String
  type : Option Launch.VirtualDesktopSessionType
  state : Option VirtualDesktopSessionState
  dcvSessionId : Option String
  createdOn : Option ℤ
  updatedOn : Option ℤ
  server : Option VirtualDesktopServer
  softwareStack : Option VirtualDesktopSoftwareStack
  project : Option Project
  schedule : Option VirtualDesktopWeekSchedule
  hibernationEnabled : Option Bool
  isLaunchedByAdmin : Option Bool
  locked : Option Bool

structure DbProject where
  projectId : Option String
  title : Option String
  name : Option String
  deriving DecidableEq

structure DbSoftwareStack where
  baseOs : Option String
  stackId : Option String
  name : Option String
  description : Option String
  createdOn : ℤ
  updatedOn : ℤ
  amiId : Option String
  enabled : Option Bool
  minStorageValue : String
  minStorageUnit : String
  minRamValue : String
  minRamUnit : String
  architecture : Option String
  gpu : Option String
  poolEnabled : Option Bool
  poolAsgName : Option String
  launchTenancy : Option String
  allowedInstanceTypes : Option (List String)
  projects : List (Option String)
  deriving DecidableEq

structure DbServer where
  instanceId : Option String
  instanceType : Option String
  ideaSessionId : Option String
  ideaSessionOwner : Option String
  state : Option String
  locked : Bool
  deriving DecidableEq

/-- The times of a day, which only an item of a custom schedule has. -/
structure DbSchedule where
  dayOfWeek : Option String
  scheduleId : Option String
  ideaSessionId : Option String
  ideaSessionOwner : Option String
  scheduleType : Option String
  times : Option (Option String × Option String)
  deriving DecidableEq

/-- An absent server or software stack has an empty item. -/
structure DbSession where
  owner : Option String
  ideaSessionId : Option String
  createdOn : ℤ
  updatedOn : ℤ
  server : Option DbServer
  softwareStack : Option DbSoftwareStack
  baseOs : Option String
  name : Option String
  description : Option String
  dcvSessionId : Option String
  sessionType : Option String
  state : Option String
  locked : Bool
  hibernationEnabled : Option Bool
  isLaunchedByAdmin : Option Bool
  project : DbProject
  schedules : DayOfWeek → DbSchedule

/-- `str` and `float` of numbers: a text reads as the number it was written for. -/
structure FloatText where
  str : ℚ → String
  float : String → Option ℚ
  float_str : ∀ value, float (str value) = some value
  str_plain : ∀ value, getAsString (str value) = some (str value)

structure WorkingHours where
  startUpTime : Except Raised (Option String)
  shutDownTime : Except Raised (Option String)

def memberOf {α : Type} (members : List α) (value : α → String) (e : Raised)
    (text : Option String) : Except Raised α :=
  match text.bind fun text => members.find? (value · = text) with
  | none => .error e
  | some a => .ok a

def BaseOS.value : BaseOS → String
  | .AMAZON_LINUX2 => "amazonlinux2"
  | .AMAZON_LINUX2023 => "amazonlinux2023"
  | .RHEL8 => "rhel8"
  | .RHEL9 => "rhel9"
  | .ROCKY8 => "rocky8"
  | .ROCKY9 => "rocky9"
  | .UBUNTU2204 => "ubuntu2204"
  | .UBUNTU2404 => "ubuntu2404"
  | .WINDOWS => "windows"
  | .WINDOWS2019 => "windows2019"
  | .WINDOWS2022 => "windows2022"
  | .WINDOWS2025 => "windows2025"

def BaseOS.ofValue : Option String → Except Raised BaseOS :=
  memberOf [.AMAZON_LINUX2, .AMAZON_LINUX2023, .RHEL8, .RHEL9, .ROCKY8, .ROCKY9, .UBUNTU2204,
    .UBUNTU2404, .WINDOWS, .WINDOWS2019, .WINDOWS2022, .WINDOWS2025] BaseOS.value .valueError

def VirtualDesktopArchitecture.ofValue : Option String → Except Raised VirtualDesktopArchitecture :=
  memberOf [.X86_64, .ARM64] Launch.VirtualDesktopArchitecture.value .valueError

def VirtualDesktopGPU.ofValue : Option String → Except Raised VirtualDesktopGPU :=
  memberOf [.NO_GPU, .NVIDIA, .AMD] Launch.VirtualDesktopGPU.value .valueError

namespace VirtualDesktopTenancy

def value : VirtualDesktopTenancy → String
  | DEFAULT => "default"
  | DEDICATED => "dedicated"
  | HOST => "host"

def ofValue : Option String → Except Raised VirtualDesktopTenancy :=
  memberOf [DEFAULT, DEDICATED, HOST] value .valueError

end VirtualDesktopTenancy

def VirtualDesktopSessionType.value : Launch.VirtualDesktopSessionType → String
  | .CONSOLE => "CONSOLE"
  | .VIRTUAL => "VIRTUAL"

def VirtualDesktopSessionType.ofName :
    Option String → Except Raised Launch.VirtualDesktopSessionType :=
  memberOf [.CONSOLE, .VIRTUAL] VirtualDesktopSessionType.value .keyError

def VirtualDesktopSessionState.value : VirtualDesktopSessionState → String
  | .PROVISIONING => "PROVISIONING"
  | .CREATING => "CREATING"
  | .INITIALIZING => "INITIALIZING"
  | .READY => "READY"
  | .RESUMING => "RESUMING"
  | .STOPPING => "STOPPING"
  | .STOPPED => "STOPPED"
  | .ERROR => "ERROR"
  | .DELETING => "DELETING"
  | .DELETED => "DELETED"

def VirtualDesktopSessionState.ofName : Option String → Except Raised VirtualDesktopSessionState :=
  memberOf [.PROVISIONING, .CREATING, .INITIALIZING, .READY, .RESUMING, .STOPPING, .STOPPED,
    .ERROR, .DELETING, .DELETED] VirtualDesktopSessionState.value .keyError

def DayOfWeek.value : DayOfWeek → String
  | .monday => "monday"
  | .tuesday => "tuesday"
  | .wednesday => "wednesday"
  | .thursday => "thursday"
  | .friday => "friday"
  | .saturday => "saturday"
  | .sunday => "sunday"

def DayOfWeek.ofText (text : Option String) : Except Raised (Option DayOfWeek) :=
  match text with
  | none => .ok none
  | some text => do
    let day ← memberOf DayOfWeek.all DayOfWeek.value .validationError (some text)
    .ok (some day)

def VirtualDesktopScheduleType.value : VirtualDesktopScheduleType → String
  | .WORKING_HOURS => "WORKING_HOURS"
  | .STOP_ON_IDLE => "STOP_ON_IDLE"
  | .START_ALL_DAY => "START_ALL_DAY"
  | .CUSTOM_SCHEDULE => "CUSTOM_SCHEDULE"
  | .NO_SCHEDULE => "NO_SCHEDULE"

def VirtualDesktopScheduleType.ofValue : Option String → Except Raised VirtualDesktopScheduleType :=
  memberOf [.WORKING_HOURS, .STOP_ON_IDLE, .START_ALL_DAY, .CUSTOM_SCHEDULE, .NO_SCHEDULE]
    VirtualDesktopScheduleType.value .valueError

/-- `Utils.to_milliseconds` -/
def toMilliseconds (time : Option ℤ) : ℤ := time.getD 0

/-- `Utils.to_datetime` reads whole seconds. -/
def toDatetime (milliseconds : ℤ) : Option ℤ := some (milliseconds.tdiv 1000 * 1000)

/-- `Utils.get_value_as_string` with a default. -/
def getStringOr (value : Option String) (default : String) : Option String :=
  some ((getValueAsString value).getD default)

def required {α : Type} (e : Raised) : Option α → Except Raised α
  | none => .error e
  | some a => .ok a

namespace VirtualDesktopServerDB

def convertServerObjectToDbDict (server : VirtualDesktopServer) : DbServer where
  instanceId := server.instanceId
  instanceType := server.instanceType
  ideaSessionId := server.ideaSessionId
  ideaSessionOwner := server.ideaSessionOwner
  state := server.state
  locked := server.locked.getD false

def convertDbEntryToServerObject (dbEntry : DbServer) : VirtualDesktopServer where
  instanceId := getValueAsString dbEntry.instanceId
  instanceType := getValueAsString dbEntry.instanceType
  ideaSessionId := getValueAsString dbEntry.ideaSessionId
  ideaSessionOwner := getValueAsString dbEntry.ideaSessionOwner
  state := none
  locked := some dbEntry.locked

end VirtualDesktopServerDB

namespace VirtualDesktopSoftwareStackDB

def convertSoftwareStackObjectToDbDict (floats : FloatText)
    (softwareStack : VirtualDesktopSoftwareStack) : Except Raised DbSoftwareStack := do
  let minStorage ← required .attributeError softwareStack.minStorage
  let minRam ← required .attributeError softwareStack.minRam
  let projects ← required .typeError softwareStack.projects
  .ok
    { baseOs := softwareStack.baseOs.map BaseOS.value
      stackId := softwareStack.stackId
      name := softwareStack.name
      description := softwareStack.description
      createdOn := toMilliseconds softwareStack.createdOn
      updatedOn := toMilliseconds softwareStack.updatedOn
      amiId := softwareStack.amiId
      enabled := softwareStack.enabled
      minStorageValue := floats.str minStorage.value
      minStorageUnit := minStorage.unit.str
      minRamValue := floats.str minRam.value
      minRamUnit := minRam.unit.str
      architecture := softwareStack.architecture.map Launch.VirtualDesktopArchitecture.value
      gpu := softwareStack.gpu.map Launch.VirtualDesktopGPU.value
      poolEnabled := softwareStack.poolEnabled
      poolAsgName := softwareStack.poolAsgName
      launchTenancy := softwareStack.launchTenancy.map VirtualDesktopTenancy.value
      allowedInstanceTypes := softwareStack.allowedInstanceTypes
      projects := projects.map Project.projectId }

def decodeMemory (floats : FloatText) (value unit : String) : Except Raised SocaMemory := do
  let unit ← required .valueError (getAsString unit)
  let unit ← SocaMemoryUnit.ofValue unit
  let value ← required .validationError ((getAsString value).bind floats.float)
  .ok { value, unit }

def convertDbDictToSoftwareStackObject (floats : FloatText) (dbEntry : DbSoftwareStack) :
    Except Raised VirtualDesktopSoftwareStack := do
  let baseOs ← BaseOS.ofValue (getValueAsString dbEntry.baseOs)
  let minStorage ← decodeMemory floats dbEntry.minStorageValue dbEntry.minStorageUnit
  let minRam ← decodeMemory floats dbEntry.minRamValue dbEntry.minRamUnit
  let architecture ← VirtualDesktopArchitecture.ofValue (getValueAsString dbEntry.architecture)
  let gpu ← VirtualDesktopGPU.ofValue (getValueAsString dbEntry.gpu)
  let launchTenancy ← VirtualDesktopTenancy.ofValue (getStringOr dbEntry.launchTenancy "default")
  .ok
    { baseOs := some baseOs
      stackId := getValueAsString dbEntry.stackId
      name := getValueAsString dbEntry.name
      description := getValueAsString dbEntry.description
      createdOn := toDatetime dbEntry.createdOn
      updatedOn := toDatetime dbEntry.updatedOn
      amiId := getValueAsString dbEntry.amiId
      enabled := dbEntry.enabled
      minStorage := some minStorage
      minRam := some minRam
      architecture := some architecture
      gpu := some gpu
      projects := some (dbEntry.projects.map fun projectId => ⟨projectId, none, none⟩)
      poolEnabled := dbEntry.poolEnabled
      poolAsgName := getValueAsString dbEntry.poolAsgName
      launchTenancy := some launchTenancy
      allowedInstanceTypes := some (dbEntry.allowedInstanceTypes.getD []) }

end VirtualDesktopSoftwareStackDB

namespace VirtualDesktopScheduleDB

def getEmptySchedule (dayOfWeek : Option DayOfWeek) : VirtualDesktopSchedule where
  scheduleId := some ""
  ideaSessionId := none
  ideaSessionOwner := none
  dayOfWeek := dayOfWeek
  startUpTime := none
  shutDownTime := none
  scheduleType := some .NO_SCHEDULE

def convertScheduleObjectToDbDict (schedule : VirtualDesktopSchedule) : DbSchedule where
  dayOfWeek := schedule.dayOfWeek.map DayOfWeek.value
  scheduleId := schedule.scheduleId
  ideaSessionId := schedule.ideaSessionId
  ideaSessionOwner := schedule.ideaSessionOwner
  scheduleType := schedule.scheduleType.map VirtualDesktopScheduleType.value
  times :=
    if schedule.scheduleType = some .CUSTOM_SCHEDULE then
      some (schedule.startUpTime, schedule.shutDownTime)
    else none

def decodeTimes (hours : WorkingHours) (scheduleType : VirtualDesktopScheduleType)
    (times : Option (Option String × Option String)) :
    Except Raised (Option String × Option String) :=
  match scheduleType with
  | .WORKING_HOURS => do
    let startUpTime ← hours.startUpTime
    let shutDownTime ← hours.shutDownTime
    .ok (startUpTime, shutDownTime)
  | .STOP_ON_IDLE => .ok (some "23:59", some "00:00")
  | .START_ALL_DAY => .ok (some "00:00", some "23:59")
  | .CUSTOM_SCHEDULE | .NO_SCHEDULE =>
    .ok (times.bind fun times => getValueAsString times.1,
      times.bind fun times => getValueAsString times.2)

def convertDbDictToScheduleObject (hours : WorkingHours) (dbEntry : DbSchedule) :
    Except Raised VirtualDesktopSchedule :=
  match getValueAsString dbEntry.scheduleId with
  | none => .ok (getEmptySchedule none)
  | some scheduleId => do
    let scheduleType ← VirtualDesktopScheduleType.ofValue (getValueAsString dbEntry.scheduleType)
    let times ← decodeTimes hours scheduleType dbEntry.times
    let dayOfWeek ← DayOfWeek.ofText (getValueAsString dbEntry.dayOfWeek)
    .ok
      { scheduleId := some scheduleId
        ideaSessionId := getValueAsString dbEntry.ideaSessionId
        ideaSessionOwner := getValueAsString dbEntry.ideaSessionOwner
        dayOfWeek := dayOfWeek
        startUpTime := times.1
        shutDownTime := times.2
        scheduleType := some scheduleType }

end VirtualDesktopScheduleDB

def forWeek {α : Type} (f : DayOfWeek → Except Raised α) : Except Raised (DayOfWeek → α) := do
  let monday ← f .monday
  let tuesday ← f .tuesday
  let wednesday ← f .wednesday
  let thursday ← f .thursday
  let friday ← f .friday
  let saturday ← f .saturday
  let sunday ← f .sunday
  .ok fun
    | .monday => monday
    | .tuesday => tuesday
    | .wednesday => wednesday
    | .thursday => thursday
    | .friday => friday
    | .saturday => saturday
    | .sunday => sunday

namespace VirtualDesktopSessionDB

open VirtualDesktopServerDB VirtualDesktopSoftwareStackDB VirtualDesktopScheduleDB

def encodeDay (week : VirtualDesktopWeekSchedule) (day : DayOfWeek) : Except Raised DbSchedule := do
  let schedule ← required .attributeError (week day)
  .ok (convertScheduleObjectToDbDict schedule)

def convertSessionObjectToDbDict (floats : FloatText) (session : VirtualDesktopSession) :
    Except Raised DbSession := do
  let softwareStack ← required .attributeError session.softwareStack
  let dbSoftwareStack ← convertSoftwareStackObjectToDbDict floats softwareStack
  let project ← required .attributeError session.project
  let schedules ← forWeek (encodeDay (session.schedule.getD fun _ => none))
  .ok
    { owner := session.owner
      ideaSessionId := session.ideaSessionId
      createdOn := toMilliseconds session.createdOn
      updatedOn := toMilliseconds session.updatedOn
      server := session.server.map convertServerObjectToDbDict
      softwareStack := some dbSoftwareStack
      baseOs := softwareStack.baseOs.map BaseOS.value
      name := session.name
      description := session.description
      dcvSessionId := session.dcvSessionId
      sessionType := session.type.map VirtualDesktopSessionType.value
      state := session.state.map VirtualDesktopSessionState.value
      locked := session.locked.getD false
      hibernationEnabled := session.hibernationEnabled
      isLaunchedByAdmin := session.isLaunchedByAdmin
      project := ⟨project.projectId, project.title, project.name⟩
      schedules := schedules }

def decodeSoftwareStack (floats : FloatText) :
    Option DbSoftwareStack → Except Raised (Option VirtualDesktopSoftwareStack)
  | none => .ok none
  | some dbEntry => do
    let softwareStack ← convertDbDictToSoftwareStackObject floats dbEntry
    .ok (some softwareStack)

def convertDbDictToSessionObject (floats : FloatText) (hours : WorkingHours)
    (dbEntry : DbSession) : Except Raised VirtualDesktopSession := do
  let baseOs ← BaseOS.ofValue (getValueAsString dbEntry.baseOs)
  let softwareStack ← decodeSoftwareStack floats dbEntry.softwareStack
  let type ← VirtualDesktopSessionType.ofName (getValueAsString dbEntry.sessionType)
  let state ← VirtualDesktopSessionState.ofName (getValueAsString dbEntry.state)
  let schedule ← forWeek fun day =>
    convertDbDictToScheduleObject hours (dbEntry.schedules day)
  .ok
    { owner := getValueAsString dbEntry.owner
      ideaSessionId := getValueAsString dbEntry.ideaSessionId
      baseOs := some baseOs
      name := getValueAsString dbEntry.name
      description := getStringOr dbEntry.description ""
      type := some type
      state := some state
      dcvSessionId := getStringOr dbEntry.dcvSessionId ""
      createdOn := toDatetime dbEntry.createdOn
      updatedOn := toDatetime dbEntry.updatedOn
      server := dbEntry.server.map convertDbEntryToServerObject
      softwareStack := softwareStack
      project := some ⟨getValueAsString dbEntry.project.projectId,
        getValueAsString dbEntry.project.name, getValueAsString dbEntry.project.title⟩
      schedule := some fun day => some (schedule day)
      hibernationEnabled := dbEntry.hibernationEnabled
      isLaunchedByAdmin := dbEntry.isLaunchedByAdmin
      locked := some dbEntry.locked }

def createItem (floats : FloatText) (currentTimeMs : ℤ) (session : VirtualDesktopSession) :
    Except Raised DbSession := do
  let dbEntry ← convertSessionObjectToDbDict floats session
  .ok { dbEntry with createdOn := currentTimeMs, updatedOn := currentTimeMs }

def updateItem (floats : FloatText) (currentTimeMs : ℤ) (session : VirtualDesktopSession) :
    Except Raised DbSession := do
  let dbEntry ← convertSessionObjectToDbDict floats session
  .ok { dbEntry with updatedOn := currentTimeMs }

end VirtualDesktopSessionDB

end Idea.VirtualDesktop.SessionCodec

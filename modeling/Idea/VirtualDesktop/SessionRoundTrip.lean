import Idea.QueueProfiles.RoundTrip
import Idea.VirtualDesktop.SessionCodec

/-! # Desktop sessions through storage

What is read of a stored session is a function of it, which normalizes texts, times and what is
absent. A session that was read once is read again as it is.
-/

namespace Idea.VirtualDesktop.SessionCodec

open Launch (BaseOS VirtualDesktopGPU VirtualDesktopArchitecture)
open Controller (DayOfWeek VirtualDesktopScheduleType VirtualDesktopSessionState)

theorem getValueAsString_getValueAsString (value : Option String) :
    getValueAsString (getValueAsString value) = getValueAsString value := by
  cases h : getValueAsString value with
  | none => rfl
  | some text =>
    obtain ⟨text', -, htext⟩ := Option.bind_eq_some_iff.mp h
    exact getAsString_of_getAsString htext

theorem getStringOr_getStringOr (value : Option String) (default : String)
    (h : getStringOr (some default) default = some default) :
    getStringOr (getStringOr value default) default = getStringOr value default := by
  cases hvalue : getValueAsString value with
  | none =>
    have hread : getStringOr value default = some default := by
      rw [getStringOr, hvalue, Option.getD_none]
    rw [hread, h]
  | some text =>
    have hread : getStringOr value default = getValueAsString value := by
      rw [getStringOr, hvalue, Option.getD_some]
    rw [hread, getStringOr, getValueAsString_getValueAsString, hvalue, Option.getD_some]

def storedTime (time : Option ℤ) : Option ℤ := toDatetime (toMilliseconds time)

theorem storedTime_storedTime (time : Option ℤ) :
    storedTime (storedTime time) = storedTime time := by
  simp [storedTime, toDatetime, toMilliseconds]

theorem BaseOS.ofValue_value (baseOs : BaseOS) :
    BaseOS.ofValue (getValueAsString (some (BaseOS.value baseOs))) = .ok baseOs := by
  cases baseOs <;> rfl

theorem VirtualDesktopArchitecture.ofValue_value (architecture : VirtualDesktopArchitecture) :
    VirtualDesktopArchitecture.ofValue (getValueAsString (some architecture.value)) =
      .ok architecture := by
  cases architecture <;> rfl

theorem VirtualDesktopGPU.ofValue_value (gpu : VirtualDesktopGPU) :
    VirtualDesktopGPU.ofValue (getValueAsString (some gpu.value)) = .ok gpu := by
  cases gpu <;> rfl

theorem VirtualDesktopTenancy.ofValue_value (launchTenancy : Option VirtualDesktopTenancy) :
    VirtualDesktopTenancy.ofValue
        (getStringOr (launchTenancy.map VirtualDesktopTenancy.value) "default") =
      .ok (launchTenancy.getD .DEFAULT) := by
  rcases launchTenancy with - | launchTenancy
  · rfl
  · cases launchTenancy <;> rfl

theorem VirtualDesktopSessionType.ofName_value (type : Launch.VirtualDesktopSessionType) :
    VirtualDesktopSessionType.ofName
      (getValueAsString (some (VirtualDesktopSessionType.value type))) = .ok type := by
  cases type <;> rfl

theorem VirtualDesktopSessionState.ofName_value (state : VirtualDesktopSessionState) :
    VirtualDesktopSessionState.ofName
      (getValueAsString (some (VirtualDesktopSessionState.value state))) = .ok state := by
  cases state <;> rfl

theorem VirtualDesktopScheduleType.ofValue_value (scheduleType : VirtualDesktopScheduleType) :
    VirtualDesktopScheduleType.ofValue
      (getValueAsString (some (VirtualDesktopScheduleType.value scheduleType))) =
        .ok scheduleType := by
  cases scheduleType <;> rfl

theorem DayOfWeek.ofText_value (dayOfWeek : Option DayOfWeek) :
    DayOfWeek.ofText (getValueAsString (dayOfWeek.map DayOfWeek.value)) = .ok dayOfWeek := by
  rcases dayOfWeek with - | day
  · rfl
  · cases day <;> rfl

theorem decodeMemory_encoded (floats : FloatText) (memory : SocaMemory) :
    VirtualDesktopSoftwareStackDB.decodeMemory floats (floats.str memory.value) memory.unit.str =
      .ok memory := by
  simp only [VirtualDesktopSoftwareStackDB.decodeMemory, getAsString_unit, floats.str_plain,
    Option.bind_some, floats.float_str, required]
  rw [Raised.bind_eq_ok]
  refine ⟨_, rfl, ?_⟩
  rw [SocaMemoryUnit.ofValue_str]
  rfl

theorem forWeek_eq_ok {α : Type} {f : DayOfWeek → Except Raised α} {week : DayOfWeek → α}
    (h : ∀ day, f day = .ok (week day)) : forWeek f = .ok week := by
  have hweek : forWeek f = .ok fun day => week day := by
    simp only [forWeek, h]
    apply congrArg Except.ok
    funext day
    cases day <;> rfl
  exact hweek

def storedServer (server : VirtualDesktopServer) : VirtualDesktopServer where
  instanceId := getValueAsString server.instanceId
  instanceType := getValueAsString server.instanceType
  ideaSessionId := getValueAsString server.ideaSessionId
  ideaSessionOwner := getValueAsString server.ideaSessionOwner
  state := none
  locked := some (server.locked.getD false)

def storedSoftwareStack (softwareStack : VirtualDesktopSoftwareStack) :
    VirtualDesktopSoftwareStack :=
  { softwareStack with
    stackId := getValueAsString softwareStack.stackId
    name := getValueAsString softwareStack.name
    description := getValueAsString softwareStack.description
    createdOn := storedTime softwareStack.createdOn
    updatedOn := storedTime softwareStack.updatedOn
    amiId := getValueAsString softwareStack.amiId
    projects := softwareStack.projects.map fun projects =>
      projects.map fun project => ⟨project.projectId, none, none⟩
    poolAsgName := getValueAsString softwareStack.poolAsgName
    launchTenancy := some (softwareStack.launchTenancy.getD .DEFAULT)
    allowedInstanceTypes := some (softwareStack.allowedInstanceTypes.getD []) }

def storedTimes (hours : WorkingHours) (scheduleType : VirtualDesktopScheduleType)
    (times : Option String × Option String) : Option String × Option String :=
  match scheduleType with
  | .WORKING_HOURS => (hours.startUpTime.toOption.join, hours.shutDownTime.toOption.join)
  | .STOP_ON_IDLE => (some "23:59", some "00:00")
  | .START_ALL_DAY => (some "00:00", some "23:59")
  | .CUSTOM_SCHEDULE => (getValueAsString times.1, getValueAsString times.2)
  | .NO_SCHEDULE => (none, none)

def storedSchedule (hours : WorkingHours) (schedule : VirtualDesktopSchedule) :
    VirtualDesktopSchedule :=
  match getValueAsString schedule.scheduleId, schedule.scheduleType with
  | some scheduleId, some scheduleType =>
    let times := storedTimes hours scheduleType (schedule.startUpTime, schedule.shutDownTime)
    { scheduleId := some scheduleId
      ideaSessionId := getValueAsString schedule.ideaSessionId
      ideaSessionOwner := getValueAsString schedule.ideaSessionOwner
      dayOfWeek := schedule.dayOfWeek
      startUpTime := times.1
      shutDownTime := times.2
      scheduleType := some scheduleType }
  | _, _ => VirtualDesktopScheduleDB.getEmptySchedule none

def storedProject (project : Project) : Project where
  projectId := getValueAsString project.projectId
  name := getValueAsString project.name
  title := getValueAsString project.title

def stored (hours : WorkingHours) (session : VirtualDesktopSession) : VirtualDesktopSession :=
  { session with
    owner := getValueAsString session.owner
    ideaSessionId := getValueAsString session.ideaSessionId
    baseOs := session.softwareStack.bind VirtualDesktopSoftwareStack.baseOs
    name := getValueAsString session.name
    description := getStringOr session.description ""
    dcvSessionId := getStringOr session.dcvSessionId ""
    createdOn := storedTime session.createdOn
    updatedOn := storedTime session.updatedOn
    server := session.server.map storedServer
    softwareStack := session.softwareStack.map storedSoftwareStack
    project := session.project.map storedProject
    schedule := session.schedule.map fun week day => (week day).map (storedSchedule hours)
    locked := some (session.locked.getD false) }

/-- A software stack that was read from its own table has all of these. -/
structure StorableSoftwareStack (softwareStack : VirtualDesktopSoftwareStack) : Prop where
  baseOs : softwareStack.baseOs.isSome
  minStorage : softwareStack.minStorage.isSome
  minRam : softwareStack.minRam.isSome
  architecture : softwareStack.architecture.isSome
  gpu : softwareStack.gpu.isSome
  projects : softwareStack.projects.isSome

/-- A schedule with an id has a type, and the hours of its type are configured. -/
structure StorableSchedule (hours : WorkingHours) (schedule : VirtualDesktopSchedule) : Prop where
  scheduleType : getValueAsString schedule.scheduleId ≠ none → schedule.scheduleType.isSome
  configured : schedule.scheduleType = some .WORKING_HOURS →
    hours.startUpTime.isOk ∧ hours.shutDownTime.isOk

/-- What the creation of a session puts into it, where each day of the week has its schedule. -/
structure Storable (hours : WorkingHours) (session : VirtualDesktopSession) : Prop where
  softwareStack : ∃ softwareStack, session.softwareStack = some softwareStack ∧
    StorableSoftwareStack softwareStack
  project : session.project.isSome
  type : session.type.isSome
  state : session.state.isSome
  schedule : ∃ week, session.schedule = some week ∧
    ∀ day, ∃ schedule, week day = some schedule ∧ StorableSchedule hours schedule

variable {schedule : VirtualDesktopSchedule} {session : VirtualDesktopSession}

section Decoding

variable (floats : FloatText) {hours : WorkingHours}

open VirtualDesktopServerDB VirtualDesktopSoftwareStackDB VirtualDesktopScheduleDB
open VirtualDesktopSessionDB

theorem convertSoftwareStack_encoded {softwareStack : VirtualDesktopSoftwareStack}
    (h : StorableSoftwareStack softwareStack) :
    ∃ dbEntry, convertSoftwareStackObjectToDbDict floats softwareStack = .ok dbEntry ∧
      convertDbDictToSoftwareStackObject floats dbEntry =
        .ok (storedSoftwareStack softwareStack) := by
  obtain ⟨baseOs, hbaseOs⟩ := Option.isSome_iff_exists.mp h.baseOs
  obtain ⟨minStorage, hminStorage⟩ := Option.isSome_iff_exists.mp h.minStorage
  obtain ⟨minRam, hminRam⟩ := Option.isSome_iff_exists.mp h.minRam
  obtain ⟨architecture, harchitecture⟩ := Option.isSome_iff_exists.mp h.architecture
  obtain ⟨gpu, hgpu⟩ := Option.isSome_iff_exists.mp h.gpu
  obtain ⟨projects, hprojects⟩ := Option.isSome_iff_exists.mp h.projects
  simp only [convertSoftwareStackObjectToDbDict, hbaseOs, hminStorage, hminRam, harchitecture,
    hgpu, hprojects, required, Option.map_some]
  refine ⟨_, rfl, ?_⟩
  simp only [convertDbDictToSoftwareStackObject, BaseOS.ofValue_value, decodeMemory_encoded,
    VirtualDesktopArchitecture.ofValue_value, VirtualDesktopGPU.ofValue_value,
    VirtualDesktopTenancy.ofValue_value]
  simp only [storedSoftwareStack, hbaseOs, hminStorage, hminRam, harchitecture, hgpu, hprojects,
    Option.map_some, List.map_map]
  rfl

theorem decodeTimes_encoded {scheduleType : VirtualDesktopScheduleType}
    (htype : schedule.scheduleType = some scheduleType) (h : StorableSchedule hours schedule) :
    decodeTimes hours scheduleType (convertScheduleObjectToDbDict schedule).times =
      .ok (storedTimes hours scheduleType (schedule.startUpTime, schedule.shutDownTime)) := by
  cases scheduleType with
  | WORKING_HOURS =>
    obtain ⟨hstart, hshut⟩ := h.configured htype
    rcases hours with ⟨_ | startUpTime, _ | shutDownTime⟩
    · cases hstart
    · cases hstart
    · cases hshut
    · rfl
  | STOP_ON_IDLE => rfl
  | START_ALL_DAY => rfl
  | CUSTOM_SCHEDULE =>
    simp only [convertScheduleObjectToDbDict, htype, if_true]
    rfl
  | NO_SCHEDULE =>
    simp only [convertScheduleObjectToDbDict, htype]
    rfl

theorem convertSchedule_encoded (h : StorableSchedule hours schedule) :
    convertDbDictToScheduleObject hours (convertScheduleObjectToDbDict schedule) =
      .ok (storedSchedule hours schedule) := by
  rw [convertDbDictToScheduleObject, storedSchedule]
  have hid : (convertScheduleObjectToDbDict schedule).scheduleId = schedule.scheduleId := rfl
  rw [hid]
  cases hread : getValueAsString schedule.scheduleId with
  | none => rfl
  | some scheduleId =>
    obtain ⟨scheduleType, htype⟩ := Option.isSome_iff_exists.mp <|
      h.scheduleType (hread ▸ Option.some_ne_none _)
    have hencoded : (convertScheduleObjectToDbDict schedule).scheduleType =
        some (VirtualDesktopScheduleType.value scheduleType) := by
      simp only [convertScheduleObjectToDbDict, htype, Option.map_some]
    have hday : DayOfWeek.ofText
        (getValueAsString (convertScheduleObjectToDbDict schedule).dayOfWeek) =
          .ok schedule.dayOfWeek := DayOfWeek.ofText_value _
    simp only [hencoded, VirtualDesktopScheduleType.ofValue_value, decodeTimes_encoded htype h,
      hday, htype, Raised.ok_bind]
    rfl

theorem convertSession_encoded (h : Storable hours session) :
    ∃ dbEntry, convertSessionObjectToDbDict floats session = .ok dbEntry ∧
      convertDbDictToSessionObject floats hours dbEntry = .ok (stored hours session) := by
  obtain ⟨softwareStack, hstack, hstorable⟩ := h.softwareStack
  obtain ⟨dbSoftwareStack, hencode, hdecode⟩ :=
    convertSoftwareStack_encoded floats hstorable
  obtain ⟨baseOs, hbaseOs⟩ := Option.isSome_iff_exists.mp hstorable.baseOs
  obtain ⟨project, hproject⟩ := Option.isSome_iff_exists.mp h.project
  obtain ⟨type, htype⟩ := Option.isSome_iff_exists.mp h.type
  obtain ⟨state, hstate⟩ := Option.isSome_iff_exists.mp h.state
  obtain ⟨week, hweek, hdays⟩ := h.schedule
  choose schedule hschedule hstorables using hdays
  have hencodeDay : forWeek (encodeDay week) =
      .ok fun day => convertScheduleObjectToDbDict (schedule day) := by
    apply forWeek_eq_ok
    intro day
    rw [encodeDay, hschedule]
    rfl
  have hdecodeDay : (forWeek fun day =>
      convertDbDictToScheduleObject hours (convertScheduleObjectToDbDict (schedule day))) =
        .ok fun day => storedSchedule hours (schedule day) :=
    forWeek_eq_ok fun day => convertSchedule_encoded (hstorables day)
  simp only [convertSessionObjectToDbDict, hstack, hencode, hproject, hweek, required,
    Option.getD_some, hencodeDay, Raised.ok_bind]
  refine ⟨_, rfl, ?_⟩
  simp only [convertDbDictToSessionObject, decodeSoftwareStack, hbaseOs, hdecode, htype, hstate,
    Option.map_some, BaseOS.ofValue_value, VirtualDesktopSessionType.ofName_value,
    VirtualDesktopSessionState.ofName_value, hdecodeDay, Raised.ok_bind]
  simp only [stored, hstack, hbaseOs, hproject, htype, hstate, hweek, hschedule, Option.map_some,
    Option.map_map, Option.bind_some]
  rfl

end Decoding

section Stable

variable {hours : WorkingHours}

theorem storedServer_storedServer (server : VirtualDesktopServer) :
    storedServer (storedServer server) = storedServer server := by
  simp only [storedServer, getValueAsString_getValueAsString, Option.getD_some]

theorem storedSoftwareStack_storedSoftwareStack (softwareStack : VirtualDesktopSoftwareStack) :
    storedSoftwareStack (storedSoftwareStack softwareStack) =
      storedSoftwareStack softwareStack := by
  simp only [storedSoftwareStack, getValueAsString_getValueAsString, storedTime_storedTime,
    Option.getD_some, Option.map_map, Function.comp_def, List.map_map]

theorem storedProject_storedProject (project : Project) :
    storedProject (storedProject project) = storedProject project := by
  simp only [storedProject, getValueAsString_getValueAsString]

theorem storedTimes_storedTimes (scheduleType : VirtualDesktopScheduleType)
    (times : Option String × Option String) :
    storedTimes hours scheduleType (storedTimes hours scheduleType times) =
      storedTimes hours scheduleType times := by
  cases scheduleType with
  | CUSTOM_SCHEDULE => simp only [storedTimes, getValueAsString_getValueAsString]
  | WORKING_HOURS => rfl
  | STOP_ON_IDLE => rfl
  | START_ALL_DAY => rfl
  | NO_SCHEDULE => rfl

theorem storedSchedule_of_blank (h : getValueAsString schedule.scheduleId = none) :
    storedSchedule hours schedule = VirtualDesktopScheduleDB.getEmptySchedule none := by
  rw [storedSchedule, h]

theorem storedSchedule_of_id {scheduleId : String} {scheduleType : VirtualDesktopScheduleType}
    (hid : getValueAsString schedule.scheduleId = some scheduleId)
    (htype : schedule.scheduleType = some scheduleType) :
    storedSchedule hours schedule =
      { scheduleId := some scheduleId
        ideaSessionId := getValueAsString schedule.ideaSessionId
        ideaSessionOwner := getValueAsString schedule.ideaSessionOwner
        dayOfWeek := schedule.dayOfWeek
        startUpTime := (storedTimes hours scheduleType
          (schedule.startUpTime, schedule.shutDownTime)).1
        shutDownTime := (storedTimes hours scheduleType
          (schedule.startUpTime, schedule.shutDownTime)).2
        scheduleType := some scheduleType } := by
  rw [storedSchedule, hid, htype]

theorem storedSchedule_cases (h : StorableSchedule hours schedule) :
    getValueAsString schedule.scheduleId = none ∨
      ∃ scheduleId scheduleType, getValueAsString schedule.scheduleId = some scheduleId ∧
        schedule.scheduleType = some scheduleType := by
  cases hid : getValueAsString schedule.scheduleId with
  | none => exact .inl rfl
  | some scheduleId =>
    obtain ⟨scheduleType, htype⟩ := Option.isSome_iff_exists.mp <|
      h.scheduleType (hid ▸ Option.some_ne_none _)
    exact .inr ⟨scheduleId, scheduleType, rfl, htype⟩

theorem blank_emptySchedule (dayOfWeek : Option DayOfWeek) :
    getValueAsString (VirtualDesktopScheduleDB.getEmptySchedule dayOfWeek).scheduleId = none := rfl

theorem StorableSchedule.stored (h : StorableSchedule hours schedule) :
    StorableSchedule hours (storedSchedule hours schedule) := by
  rcases storedSchedule_cases h with hid | ⟨scheduleId, scheduleType, hid, htype⟩
  · rw [storedSchedule_of_blank hid]
    constructor
    · intro hne
      exact absurd (blank_emptySchedule none) hne
    · intro hworking
      cases hworking
  · rw [storedSchedule_of_id hid htype]
    constructor
    · intro hne
      rfl
    · intro hworking
      exact h.configured (htype.trans hworking)

theorem storedSchedule_storedSchedule (h : StorableSchedule hours schedule) :
    storedSchedule hours (storedSchedule hours schedule) = storedSchedule hours schedule := by
  rcases storedSchedule_cases h with hid | ⟨scheduleId, scheduleType, hid, htype⟩
  · rw [storedSchedule_of_blank hid, storedSchedule_of_blank (blank_emptySchedule none)]
  · have hagain : getValueAsString (some scheduleId) = some scheduleId := by
      rw [← hid, getValueAsString_getValueAsString]
    rw [storedSchedule_of_id hid htype]
    refine (storedSchedule_of_id hagain rfl).trans ?_
    simp only [getValueAsString_getValueAsString, Prod.mk.eta, storedTimes_storedTimes]

theorem Storable.stored (h : Storable hours session) : Storable hours (stored hours session) := by
  obtain ⟨softwareStack, hstack, hstorable⟩ := h.softwareStack
  obtain ⟨week, hweek, hdays⟩ := h.schedule
  constructor
  case softwareStack =>
    refine ⟨storedSoftwareStack softwareStack, ?_, ?_⟩
    · simp only [SessionCodec.stored, hstack, Option.map_some]
    · constructor
      · exact hstorable.baseOs
      · exact hstorable.minStorage
      · exact hstorable.minRam
      · exact hstorable.architecture
      · exact hstorable.gpu
      · simpa only [storedSoftwareStack, Option.isSome_map] using hstorable.projects
  case project => simpa only [SessionCodec.stored, Option.isSome_map] using h.project
  case type => exact h.type
  case state => exact h.state
  case schedule =>
    refine ⟨fun day => (week day).map (storedSchedule hours), ?_, ?_⟩
    · simp only [SessionCodec.stored, hweek, Option.map_some]
    · intro day
      obtain ⟨schedule, hschedule, hday⟩ := hdays day
      refine ⟨storedSchedule hours schedule, ?_, hday.stored⟩
      simp only [hschedule, Option.map_some]

theorem stored_stored (h : Storable hours session) :
    stored hours (stored hours session) = stored hours session := by
  obtain ⟨week, hweek, hdays⟩ := h.schedule
  have hschedule : ∀ day, ((week day).map (storedSchedule hours)).map (storedSchedule hours) =
      (week day).map (storedSchedule hours) := by
    intro day
    obtain ⟨schedule, hschedule, hday⟩ := hdays day
    rw [hschedule, Option.map_some, Option.map_some, storedSchedule_storedSchedule hday]
  have hbaseOs : (session.softwareStack.map storedSoftwareStack).bind
      VirtualDesktopSoftwareStack.baseOs =
        session.softwareStack.bind VirtualDesktopSoftwareStack.baseOs := by
    cases session.softwareStack <;> rfl
  have hempty : getStringOr (some "") "" = some "" := rfl
  simp only [stored, getValueAsString_getValueAsString, getStringOr_getStringOr _ _ hempty,
    storedTime_storedTime, hbaseOs, hweek, Option.map_some, hschedule, Option.getD_some,
    Option.map_map, Function.comp_def, storedServer_storedServer,
    storedSoftwareStack_storedSoftwareStack, storedProject_storedProject]

end Stable

def TimeReadsAs (time read : Option ℤ) : Prop :=
  ∀ milliseconds ∈ time, read = some (milliseconds.tdiv 1000 * 1000)

structure ServerReadsAs (server read : VirtualDesktopServer) : Prop where
  instanceId : read.instanceId = getValueAsString server.instanceId
  instanceType : read.instanceType = getValueAsString server.instanceType
  ideaSessionId : read.ideaSessionId = getValueAsString server.ideaSessionId
  ideaSessionOwner : read.ideaSessionOwner = getValueAsString server.ideaSessionOwner
  locked : read.locked = some (server.locked.getD false)

structure SoftwareStackReadsAs (softwareStack read : VirtualDesktopSoftwareStack) : Prop where
  baseOs : read.baseOs = softwareStack.baseOs
  stackId : read.stackId = getValueAsString softwareStack.stackId
  name : read.name = getValueAsString softwareStack.name
  description : read.description = getValueAsString softwareStack.description
  createdOn : TimeReadsAs softwareStack.createdOn read.createdOn
  updatedOn : TimeReadsAs softwareStack.updatedOn read.updatedOn
  amiId : read.amiId = getValueAsString softwareStack.amiId
  enabled : read.enabled = softwareStack.enabled
  minStorage : read.minStorage = softwareStack.minStorage
  minRam : read.minRam = softwareStack.minRam
  architecture : read.architecture = softwareStack.architecture
  gpu : read.gpu = softwareStack.gpu
  projects : read.projects.map (List.map Project.projectId) =
    softwareStack.projects.map (List.map Project.projectId)
  poolEnabled : read.poolEnabled = softwareStack.poolEnabled
  poolAsgName : read.poolAsgName = getValueAsString softwareStack.poolAsgName
  launchTenancy : read.launchTenancy = some (softwareStack.launchTenancy.getD .DEFAULT)
  allowedInstanceTypes :
    read.allowedInstanceTypes = some (softwareStack.allowedInstanceTypes.getD [])

/-- The hours of a day are stored for a custom schedule. -/
structure ScheduleKept (schedule read : VirtualDesktopSchedule) : Prop where
  scheduleId : read.scheduleId = getValueAsString schedule.scheduleId
  ideaSessionId : read.ideaSessionId = getValueAsString schedule.ideaSessionId
  ideaSessionOwner : read.ideaSessionOwner = getValueAsString schedule.ideaSessionOwner
  dayOfWeek : read.dayOfWeek = schedule.dayOfWeek
  scheduleType : read.scheduleType = schedule.scheduleType
  hours : schedule.scheduleType = some .CUSTOM_SCHEDULE →
    read.startUpTime = getValueAsString schedule.startUpTime ∧
      read.shutDownTime = getValueAsString schedule.shutDownTime

/-- A schedule with an id keeps its fields, and a day without one is read as a day without one. -/
structure ScheduleReadsAs (schedule read : VirtualDesktopSchedule) : Prop where
  kept : getValueAsString schedule.scheduleId ≠ none → ScheduleKept schedule read
  none : getValueAsString schedule.scheduleId = none →
    schedule.scheduleType = some .NO_SCHEDULE →
      read.scheduleType = some .NO_SCHEDULE ∧ getValueAsString read.scheduleId = none

structure ProjectReadsAs (project read : Project) : Prop where
  projectId : read.projectId = getValueAsString project.projectId
  name : read.name = getValueAsString project.name
  title : read.title = getValueAsString project.title

/-- How a session is read, where an absent text is one of white space. -/
structure ReadsAs (session read : VirtualDesktopSession) : Prop where
  owner : read.owner = getValueAsString session.owner
  ideaSessionId : read.ideaSessionId = getValueAsString session.ideaSessionId
  baseOs : read.baseOs = session.softwareStack.bind VirtualDesktopSoftwareStack.baseOs
  name : read.name = getValueAsString session.name
  description : read.description = some ((getValueAsString session.description).getD "")
  type : read.type = session.type
  state : read.state = session.state
  dcvSessionId : read.dcvSessionId = some ((getValueAsString session.dcvSessionId).getD "")
  createdOn : TimeReadsAs session.createdOn read.createdOn
  updatedOn : TimeReadsAs session.updatedOn read.updatedOn
  server : Option.Rel ServerReadsAs session.server read.server
  softwareStack : Option.Rel SoftwareStackReadsAs session.softwareStack read.softwareStack
  project : Option.Rel ProjectReadsAs session.project read.project
  schedule : Option.Rel
    (fun week readWeek => ∀ day, Option.Rel ScheduleReadsAs (week day) (readWeek day))
    session.schedule read.schedule
  hibernationEnabled : read.hibernationEnabled = session.hibernationEnabled
  isLaunchedByAdmin : read.isLaunchedByAdmin = session.isLaunchedByAdmin
  locked : read.locked = some (session.locked.getD false)

theorem timeReadsAs_storedTime (time : Option ℤ) : TimeReadsAs time (storedTime time) := by
  rintro milliseconds rfl
  rfl

theorem rel_map {α : Type} {r : α → α → Prop} {f : α → α} (h : ∀ a, r a (f a)) (value : Option α) :
    Option.Rel r value (value.map f) := by
  cases value with
  | none => exact .none
  | some a => exact .some (h a)

theorem scheduleReadsAs_stored {hours : WorkingHours} (h : StorableSchedule hours schedule) :
    ScheduleReadsAs schedule (storedSchedule hours schedule) := by
  rcases storedSchedule_cases h with hid | ⟨scheduleId, scheduleType, hid, htype⟩
  · constructor
    case kept => exact fun hne => absurd hid hne
    case none =>
      intro _ _
      rw [storedSchedule_of_blank hid]
      exact ⟨rfl, rfl⟩
  · constructor
    case none =>
      intro hnone
      cases hid.symm.trans hnone
    case kept =>
      intro _
      rw [storedSchedule_of_id hid htype]
      constructor
      case scheduleId => exact hid.symm
      case ideaSessionId => rfl
      case ideaSessionOwner => rfl
      case dayOfWeek => rfl
      case scheduleType => exact htype.symm
      case hours =>
        intro hcustom
        obtain rfl := Option.some.inj (htype.symm.trans hcustom)
        exact ⟨rfl, rfl⟩

theorem readsAs_stored {hours : WorkingHours} (h : Storable hours session) :
    ReadsAs session (stored hours session) := by
  obtain ⟨week, hweek, hdays⟩ := h.schedule
  constructor <;> try rfl
  case createdOn => exact timeReadsAs_storedTime _
  case updatedOn => exact timeReadsAs_storedTime _
  case server =>
    apply rel_map
    intro server
    constructor <;> rfl
  case softwareStack =>
    apply rel_map
    intro softwareStack
    constructor <;> try rfl
    case createdOn => exact timeReadsAs_storedTime _
    case updatedOn => exact timeReadsAs_storedTime _
    case projects =>
      simp only [storedSoftwareStack, Option.map_map, Function.comp_def, List.map_map]
  case project =>
    apply rel_map
    intro project
    constructor <;> rfl
  case schedule =>
    rw [stored, hweek]
    refine .some fun day => ?_
    obtain ⟨schedule, hschedule, hday⟩ := hdays day
    simp only [hschedule, Option.map_some]
    exact .some (scheduleReadsAs_stored hday)

def writtenSchedule (schedule : VirtualDesktopSchedule) : VirtualDesktopSchedule :=
  if schedule.scheduleType = some .CUSTOM_SCHEDULE then schedule
  else { schedule with startUpTime := none, shutDownTime := none }

def writtenSoftwareStack (softwareStack : VirtualDesktopSoftwareStack) :
    VirtualDesktopSoftwareStack :=
  { softwareStack with
    projects := softwareStack.projects.map fun projects =>
      projects.map fun project => ⟨project.projectId, none, none⟩ }

def written (session : VirtualDesktopSession) : VirtualDesktopSession :=
  { session with
    baseOs := session.softwareStack.bind VirtualDesktopSoftwareStack.baseOs
    softwareStack := session.softwareStack.map writtenSoftwareStack
    schedule := session.schedule.map fun week day => (week day).map writtenSchedule }

/-- A session is read with the fields that were written, and written again as the same item. -/
def Survives (floats : FloatText) (hours : WorkingHours) (session : VirtualDesktopSession) : Prop :=
  ∃ dbEntry read,
    VirtualDesktopSessionDB.convertSessionObjectToDbDict floats session = .ok dbEntry ∧
    VirtualDesktopSessionDB.convertDbDictToSessionObject floats hours dbEntry = .ok read ∧
    written read = written session ∧
    VirtualDesktopSessionDB.convertSessionObjectToDbDict floats read = .ok dbEntry

theorem encode_writtenSchedule (schedule : VirtualDesktopSchedule) :
    VirtualDesktopScheduleDB.convertScheduleObjectToDbDict (writtenSchedule schedule) =
      VirtualDesktopScheduleDB.convertScheduleObjectToDbDict schedule := by
  unfold writtenSchedule
  split
  · rfl
  · rename_i hcustom
    simp only [VirtualDesktopScheduleDB.convertScheduleObjectToDbDict, if_neg hcustom]

theorem encode_writtenSoftwareStack (floats : FloatText)
    (softwareStack : VirtualDesktopSoftwareStack) :
    VirtualDesktopSoftwareStackDB.convertSoftwareStackObjectToDbDict floats
        (writtenSoftwareStack softwareStack) =
      VirtualDesktopSoftwareStackDB.convertSoftwareStackObjectToDbDict floats softwareStack := by
  unfold VirtualDesktopSoftwareStackDB.convertSoftwareStackObjectToDbDict
  cases hprojects : softwareStack.projects with
  | none => simp only [writtenSoftwareStack, hprojects, Option.map_none]
  | some projects =>
    simp only [writtenSoftwareStack, hprojects, Option.map_some, required, Raised.ok_bind,
      List.map_map]
    rfl

theorem encodeDay_written (week : VirtualDesktopWeekSchedule) :
    VirtualDesktopSessionDB.encodeDay (fun day => (week day).map writtenSchedule) =
      VirtualDesktopSessionDB.encodeDay week := by
  funext day
  unfold VirtualDesktopSessionDB.encodeDay
  cases hday : week day with
  | none => simp only [hday, Option.map_none]
  | some schedule =>
    simp only [hday, Option.map_some, required, Raised.ok_bind, encode_writtenSchedule]

theorem encode_written (floats : FloatText) (session : VirtualDesktopSession) :
    VirtualDesktopSessionDB.convertSessionObjectToDbDict floats (written session) =
      VirtualDesktopSessionDB.convertSessionObjectToDbDict floats session := by
  have hweek : VirtualDesktopSessionDB.encodeDay ((written session).schedule.getD fun _ => none) =
      VirtualDesktopSessionDB.encodeDay (session.schedule.getD fun _ => none) := by
    unfold written
    cases session.schedule with
    | none => rfl
    | some week => exact encodeDay_written week
  unfold VirtualDesktopSessionDB.convertSessionObjectToDbDict
  rw [hweek]
  cases hstack : session.softwareStack with
  | none => simp only [written, hstack, Option.map_none]
  | some softwareStack =>
    simp only [written, hstack, Option.map_some, required, Raised.ok_bind,
      encode_writtenSoftwareStack]
    rfl

/-- A session is stored, and read as it was up to how blank text, absent locks and parts of
seconds are read. It is stored again as the same item where nothing that is written differs, and
what was read is read again as it is from then on. -/
def ReadsBack (floats : FloatText) (hours : WorkingHours) (session : VirtualDesktopSession) :
    Prop :=
  ∃ dbEntry read,
    VirtualDesktopSessionDB.convertSessionObjectToDbDict floats session = .ok dbEntry ∧
    VirtualDesktopSessionDB.convertDbDictToSessionObject floats hours dbEntry = .ok read ∧
    ReadsAs session read ∧
    (written read = written session →
      VirtualDesktopSessionDB.convertSessionObjectToDbDict floats read = .ok dbEntry) ∧
    ∃ dbEntry',
      VirtualDesktopSessionDB.convertSessionObjectToDbDict floats read = .ok dbEntry' ∧
      VirtualDesktopSessionDB.convertDbDictToSessionObject floats hours dbEntry' = .ok read

theorem readsBack_of_storable (floats : FloatText) {hours : WorkingHours}
    {session : VirtualDesktopSession} (h : Storable hours session) :
    ReadsBack floats hours session := by
  obtain ⟨dbEntry, hencode, hdecode⟩ := convertSession_encoded floats h
  obtain ⟨dbEntry', hencode', hdecode'⟩ := convertSession_encoded floats h.stored
  rw [stored_stored h] at hdecode'
  refine ⟨dbEntry, stored hours session, hencode, hdecode, readsAs_stored h, ?_, dbEntry',
    hencode', hdecode'⟩
  intro hwritten
  rw [← encode_written, hwritten, encode_written, hencode]

section Examples

def numberText (value : ℚ) : List Char :=
  if (value * 10).den = 1 then Decimal.fixedText (value * 10).num 1
  else value.num.repr.toList ++ '/' :: (value.den : ℤ).repr.toList

def numberOf (cs : List Char) : Option ℚ :=
  if '/' ∈ cs then
    match Decimal.parseInt (cs.takeWhile (· ≠ '/')),
        Decimal.parseInt (cs.dropWhile (· ≠ '/')).tail with
    | some num, some den => some (num / den)
    | _, _ => none
  else
    match Decimal.parseFloat cs with
    | some (.finite value) => some value
    | _ => none

theorem not_isPlain_slash : ¬ IsPlain '/' := by
  unfold IsPlain
  decide

theorem spaceless_numberText (value : ℚ) : ∀ c ∈ numberText value, isSpace c = false := by
  unfold numberText
  split
  · exact fun c hc => (isPlain_fixedText _ _ c hc).spec.1
  · simp only [List.mem_append, List.mem_cons]
    rintro c (hc | rfl | hc)
    · exact (isPlain_repr _ c hc).spec.1
    · rfl
    · exact (isPlain_repr _ c hc).spec.1

theorem numberText_ne_nil (value : ℚ) : numberText value ≠ [] := by
  unfold numberText Decimal.fixedText
  split <;> simp

theorem numberOf_numberText (value : ℚ) : numberOf (numberText value) = some value := by
  unfold numberText
  split
  · rename_i hden
    have hslash : '/' ∉ Decimal.fixedText (value * 10).num 1 := by
      intro hmem
      exact not_isPlain_slash (isPlain_fixedText _ _ _ hmem)
    have hvalue : ((value * 10).num : ℚ) / 10 ^ 1 = value := by
      rw [Rat.coe_int_num_of_den_eq_one hden]
      norm_num
    rw [numberOf, if_neg hslash, Decimal.parseFloat_fixedText _ one_ne_zero, hvalue]
  · have hnum : ∀ c ∈ value.num.repr.toList, decide (c ≠ '/') = true := by
      intro c hc
      apply decide_eq_true
      rintro rfl
      exact not_isPlain_slash (isPlain_repr _ _ hc)
    have hmem : '/' ∈ value.num.repr.toList ++ '/' :: (value.den : ℤ).repr.toList := by
      simp
    rw [numberOf, if_pos hmem, List.takeWhile_append_of_pos hnum, List.dropWhile_append_of_pos hnum]
    have htake : (('/' :: (value.den : ℤ).repr.toList).takeWhile (· ≠ '/')) = [] := rfl
    have hdrop : (('/' :: (value.den : ℤ).repr.toList).dropWhile (· ≠ '/')) =
        '/' :: (value.den : ℤ).repr.toList := rfl
    rw [htake, hdrop, List.append_nil, List.tail_cons, Decimal.parseInt_repr,
      Decimal.parseInt_repr]
    simp only [Int.cast_natCast, Rat.num_div_den]

def numberTexts : FloatText where
  str value := String.ofList (numberText value)
  float text := numberOf text.toList
  float_str value := by rw [String.toList_ofList, numberOf_numberText]
  str_plain value := by
    have hstrip := stripChars_eq_self (spaceless_numberText value)
    have hempty : isEmptyString (some (String.ofList (numberText value))) = false := by
      simp only [isEmptyString, String.toList_ofList, hstrip]
      simpa using numberText_ne_nil value
    rw [getAsString, hempty, if_neg Bool.false_ne_true, strip, String.toList_ofList, hstrip]

def nineToFive : WorkingHours where
  startUpTime := .ok (some "09:00")
  shutDownTime := .ok (some "17:00")

def freshSession : VirtualDesktopSession where
  owner := some "alice"
  ideaSessionId := some "session-1"
  baseOs := some .AMAZON_LINUX2
  name := some "desktop"
  description := some ""
  type := some .VIRTUAL
  state := some .PROVISIONING
  dcvSessionId := none
  createdOn := some 1700000000000
  updatedOn := some 1700000000000
  server := none
  softwareStack := some
    { baseOs := some .AMAZON_LINUX2
      stackId := some "ss-base"
      name := some "stack"
      description := some "base stack"
      createdOn := some 1600000000000
      updatedOn := some 1600000000000
      amiId := some "ami-1"
      enabled := some true
      minStorage := some ⟨10, .gb⟩
      minRam := some ⟨4, .gb⟩
      architecture := some .X86_64
      gpu := some .NO_GPU
      projects := some []
      poolEnabled := some false
      poolAsgName := none
      launchTenancy := some .DEFAULT
      allowedInstanceTypes := some [] }
  project := some ⟨some "project-1", some "default", some "Default"⟩
  schedule := some fun day => some
    { scheduleId := some "schedule-1"
      ideaSessionId := some "session-1"
      ideaSessionOwner := some "alice"
      dayOfWeek := some day
      startUpTime := some "23:59"
      shutDownTime := some "00:00"
      scheduleType := some .STOP_ON_IDLE }
  hibernationEnabled := some false
  isLaunchedByAdmin := some false
  locked := some false

theorem storable_freshSession : Storable nineToFive freshSession := by
  constructor
  case softwareStack => exact ⟨_, rfl, by constructor <;> rfl⟩
  case project => rfl
  case type => rfl
  case state => rfl
  case schedule =>
    refine ⟨_, rfl, fun day => ⟨_, rfl, ?_⟩⟩
    constructor
    · intro _
      rfl
    · intro hworking
      cases hworking

theorem readsBack_freshSession : ReadsBack numberTexts nineToFive freshSession :=
  readsBack_of_storable numberTexts storable_freshSession

/-- The absent id of the DCV session is read as an empty one. -/
theorem freshSession_not_survives :
    Storable nineToFive freshSession ∧ ¬ Survives numberTexts nineToFive freshSession := by
  refine ⟨storable_freshSession, ?_⟩
  rintro ⟨dbEntry, read, hencode, hdecode, hwritten, -⟩
  obtain ⟨dbEntry', hencode', hdecode'⟩ :=
    convertSession_encoded numberTexts storable_freshSession
  obtain rfl := Except.ok.inj (hencode.symm.trans hencode')
  obtain rfl := Except.ok.inj (hdecode.symm.trans hdecode')
  have hdcv : (some "" : Option String) = none :=
    congrArg VirtualDesktopSession.dcvSessionId hwritten
  cases hdcv

end Examples

end Idea.VirtualDesktop.SessionCodec

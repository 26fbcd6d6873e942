import Idea.VirtualDesktop.Store

/-! # Creation and termination of desktop sessions

A session is created by launching its instance, writing its schedules and only then its entry. It
is terminated the other way round, either at once, or in two steps with the broker of the desktops
in between. Instances are stopped, started and rebooted by the sessions they belong to.
-/

namespace Idea.VirtualDesktop.Controller

variable {config : Config}

def getEmptySchedule (dayOfWeek : Option DayOfWeek) : VirtualDesktopSchedule where
  scheduleId := some ""
  ideaSessionId := none
  ideaSessionOwner := none
  dayOfWeek := dayOfWeek
  scheduleType := some .NO_SCHEDULE

def isSameSchedule (a b : VirtualDesktopSchedule) : Bool :=
  a.scheduleType = b.scheduleType &&
    (a.scheduleType = some .STOP_ON_IDLE || a.scheduleType = some .START_ALL_DAY ||
      a.scheduleType = some .NO_SCHEDULE || a.scheduleType = some .WORKING_HOURS)

def scheduleKey (schedule : VirtualDesktopSchedule) : Option (DayOfWeek × String) :=
  if schedule.scheduleType = some .NO_SCHEDULE || isEmptyString schedule.scheduleId then none
  else schedule.dayOfWeek.map (·, schedule.scheduleId.getD "")

def deleteSchedule (env : Env config) (schedule : VirtualDesktopSchedule) : Action Unit :=
  match scheduleKey schedule with
  | none => pure ()
  | some key => do
    let store ← .get
    perform env (.deleteSchedule key)
    if (store.schedules.get? key).isNone then pure ()
    else triggerDeleteEvent env .schedules "" key.2

def createScheduleForDayOfWeek (env : Env config) (dayOfWeek : DayOfWeek)
    (schedule : VirtualDesktopSchedule) (key : SessionKey) : Action VirtualDesktopSchedule :=
  if schedule.scheduleType = some .NO_SCHEDULE then pure (getEmptySchedule (some dayOfWeek))
  else do
    let row : VirtualDesktopSchedule :=
      { scheduleId := some (env.scheduleUuid dayOfWeek)
        ideaSessionId := some key.2
        ideaSessionOwner := some key.1
        dayOfWeek := some dayOfWeek
        scheduleType := schedule.scheduleType }
    perform env (.putSchedule (dayOfWeek, env.scheduleUuid dayOfWeek) row)
    triggerCreateEvent env .schedules "" (env.scheduleUuid dayOfWeek)
    pure row

/-- A schedule of another type takes the place of the current one. A schedule of the same type that
is not fixed takes its place as it was given. -/
def replaceSchedule (env : Env config) (dayOfWeek : DayOfWeek)
    (current new : VirtualDesktopSchedule) (key : SessionKey) : Action VirtualDesktopSchedule :=
  if new.scheduleType = some .NO_SCHEDULE then pure (getEmptySchedule (some dayOfWeek))
  else if current.scheduleType ≠ new.scheduleType then
    createScheduleForDayOfWeek env dayOfWeek new key
  else pure new

def createOrUpdateScheduleForDayOfWeek (env : Env config) (dayOfWeek : DayOfWeek)
    (current new : Option VirtualDesktopSchedule) (key : SessionKey) :
    Action VirtualDesktopSchedule :=
  let current := current.getD (getEmptySchedule (some dayOfWeek))
  match new with
  | none => pure current
  | some new =>
    if isSameSchedule new current then pure current
    else do
      deleteSchedule env current
      replaceSchedule env dayOfWeek current new key

def updateScheduleForSession (env : Env config)
    (new current : DayOfWeek → Option VirtualDesktopSchedule) (key : SessionKey) :
    Action (DayOfWeek → VirtualDesktopSchedule) := do
  let schedules ← .collect
    (fun day => createOrUpdateScheduleForDayOfWeek env day (current day) (new day) key) DayOfWeek.all
  pure fun day => ((DayOfWeek.all.zip schedules).lookup day).getD (getEmptySchedule (some day))

def deleteSchedulesForSession (env : Env config) (session : VirtualDesktopSession) : Action Unit :=
  .forEach (fun day => deleteSchedule env (session.schedule day)) DayOfWeek.all

def runInstances (env : Env config) (instanceType : Option String) (key : SessionKey) :
    Action (Option String) :=
  match env.runInstances with
  | .error e => .raise e
  | .ok none => pure none
  | .ok (some instanceId) => do
    .modify fun store =>
      { store with
        launched := store.launched ++ [(instanceId, key)]
        instanceTypes := store.instanceTypes.setSome instanceId instanceType }
    pure (some instanceId)

def provisionHostForSession (env : Env config) (server : VirtualDesktopServer)
    (key : SessionKey) : Action (Option VirtualDesktopServer) := do
  let launched ← runInstances env server.instanceType key
  match launched with
  | none => pure none
  | some instanceId => do
    let server ← ServerDB.create env instanceId server key
    pure (some server)

def updateServerState (env : Env config) (state : String) (instanceId : Option String) :
    Action Unit := do
  let server ← ServerDB.get env instanceId
  match server with
  | none => .raise .attributeError
  | some server => ServerDB.update env { server with state := some state }

def stopDcvHosts (env : Env config) (instanceIds : List (Option String)) (hibernate : Bool) :
    Action Unit :=
  if instanceIds.isEmpty then pure ()
  else do
    perform env (.stopInstances instanceIds hibernate)
    .forEach (updateServerState env (if hibernate then "HIBERNATED" else "STOPPING")) instanceIds

def stopOrHibernateServers (env : Env config) (toStop toHibernate : List (Option String)) :
    Action Unit := do
  stopDcvHosts env toStop false
  stopDcvHosts env toHibernate true

def performOrAnswer (env : Env config) (call : Call) : Action (Option String) := do
  let outcome ← .attempt (perform env call)
  match outcome with
  | .ok _ => pure none
  | .error (.clientError _ text) => pure (some text)
  | .error e => .raise e

def removeServer (env : Env config) (instanceId : Option String) : Action Unit := do
  let _ ← ServerDB.get env instanceId
  ServerDB.delete env instanceId

def terminateDcvHosts (env : Env config) (instanceIds : List (Option String)) :
    Action (Option String) :=
  if instanceIds.isEmpty then pure none
  else do
    let answer ← performOrAnswer env (.terminateInstances instanceIds)
    match answer with
    | some text => pure (some text)
    | none => do
      .forEach (removeServer env) instanceIds
      pure none

def sessionEvent (config : Config) (eventType : VirtualDesktopEventType) (key : SessionKey) :
    QueuedEvent :=
  { controllerEvent config eventType with
    ideaSessionId := some key.2
    ideaSessionOwner := some key.1 }

def validateDeletionEvent (config : Config) (key : SessionKey) : QueuedEvent :=
  sessionEvent config .VALIDATE_DCV_SESSION_DELETION_EVENT key

def validateCreationEvent (env : Env config) (key : SessionKey) : QueuedEvent :=
  { sessionEvent config .VALIDATE_DCV_SESSION_CREATION_EVENT key with
    timestamp := some env.currentTimeMs }

def publishValidateDeletion (env : Env config) (key : SessionKey) : Action Unit :=
  perform env (.publish (validateDeletionEvent config key))

def publishValidateCreation (env : Env config) (key : SessionKey) : Action Unit :=
  perform env (.publish (validateCreationEvent env key))

structure NewSession where
  key : SessionKey
  name : Option String
  description : Option String
  hibernationEnabled : Option Bool
  server : VirtualDesktopServer
  schedule : DayOfWeek → Option VirtualDesktopSchedule

def NewSession.entry (new : NewSession) (server : VirtualDesktopServer)
    (schedule : DayOfWeek → VirtualDesktopSchedule) : VirtualDesktopSession where
  owner := new.key.1
  ideaSessionId := new.key.2
  name := new.name
  description := new.description
  state := .PROVISIONING
  dcvSessionId := none
  hibernationEnabled := new.hibernationEnabled
  server := some server
  schedule := schedule
  updatedOn := none
  force := none
  failureReason := none

def createSession (env : Env config) (new : NewSession) :
    Action (Except String VirtualDesktopSession) := do
  let provisioned ← .attempt (provisionHostForSession env new.server new.key)
  match provisioned with
  | .error e => pure (.error (env.str e))
  | .ok none =>
    pure (.error "Unable to create DCV host. Contact the Administrator.")
  | .ok (some server) => do
    perform env .getDefaultSchedules
    let schedule ← updateScheduleForSession env (fun day => some (env.defaultSchedules day))
      new.schedule new.key
    let session ← SessionDB.create env (new.entry server schedule)
    pure (.ok session)

structure SessionRequest where
  owner : Option String
  ideaSessionId : Option String
  force : Option Bool
  deriving DecidableEq

/-- The stored session of a request. A session that is not there is given a failure reason, which
raises. -/
def findSession (env : Env config) (request : SessionRequest) : Action VirtualDesktopSession := do
  let found ← SessionDB.getFromDb env request.owner request.ideaSessionId
  match found with
  | none => .raise .attributeError
  | some session => pure session

def deleteDcvSessions (env : Env config) (sessions : List VirtualDesktopSession) :
    Action (List (Option String) × List (Option String × String)) :=
  if sessions.isEmpty then pure ([], [])
  else do
    perform env (.deleteDcvSessions (sessions.map (·.dcvSessionId)))
    pure (env.deletedSessions (sessions.map (·.dcvSessionId)))

def sessionOfDcvId (sessions : List VirtualDesktopSession) (dcvSessionId : Option String) :
    Action VirtualDesktopSession :=
  match sessions.reverse.find? (·.dcvSessionId = dcvSessionId) with
  | none => .raise .keyError
  | some session => pure session

def failedSessions (sessions : List VirtualDesktopSession)
    (failed : List (Option String × String)) : Action (List VirtualDesktopSession) :=
  .collect (fun entry => do
    let session ← sessionOfDcvId sessions entry.1
    pure { session with failureReason := some entry.2 }) failed

def markForValidation (env : Env config) (state : VirtualDesktopSessionState)
    (sessions : List VirtualDesktopSession) (dcvSessionId : Option String) :
    Action VirtualDesktopSession := do
  let session ← sessionOfDcvId sessions dcvSessionId
  let session ← SessionDB.update env { session with state := state }
  publishValidateDeletion env session.key
  pure session

def deleteSession (env : Env config) (session : VirtualDesktopSession) :
    Action VirtualDesktopSession := do
  deleteSchedulesForSession env session
  deletePermissionsForSession env session
  SessionDB.delete env session
  pure { session with state := .DELETED, updatedOn := some env.currentTimeMs }

def isStopped (session : VirtualDesktopSession) : Bool :=
  isEmptyString session.dcvSessionId || session.state = .STOPPED

def terminateStopped (env : Env config) (stopped : List VirtualDesktopSession) :
    Action (List VirtualDesktopSession) := do
  let _ ← terminateDcvHosts env (stopped.filterMap (·.server) |>.map (·.instanceId))
  .collect (deleteSession env) stopped

def terminateSessions (env : Env config) (requests : List SessionRequest) :
    Action (List VirtualDesktopSession × List VirtualDesktopSession) := do
  let sessions ← .collect (findSession env) requests
  let toDelete := sessions.filter (!isStopped ·)
  let answer ← deleteDcvSessions env toDelete
  let deleting ← .collect (markForValidation env .DELETING toDelete) answer.1
  let deleted ← terminateStopped env (sessions.filter (isStopped ·))
  let failed ← failedSessions toDelete answer.2
  pure (deleting ++ deleted, failed)

def VirtualDesktopSessionState.text : VirtualDesktopSessionState → String
  | .PROVISIONING => "VirtualDesktopSessionState.PROVISIONING"
  | .CREATING => "VirtualDesktopSessionState.CREATING"
  | .INITIALIZING => "VirtualDesktopSessionState.INITIALIZING"
  | .READY => "VirtualDesktopSessionState.READY"
  | .RESUMING => "VirtualDesktopSessionState.RESUMING"
  | .STOPPING => "VirtualDesktopSessionState.STOPPING"
  | .STOPPED => "VirtualDesktopSessionState.STOPPED"
  | .ERROR => "VirtualDesktopSessionState.ERROR"
  | .DELETING => "VirtualDesktopSessionState.DELETING"
  | .DELETED => "VirtualDesktopSessionState.DELETED"

def refused (session : VirtualDesktopSession) (reason : String) : VirtualDesktopSession :=
  { session with
    failureReason := some ("IDEA session id: " ++ session.ideaSessionId ++ ":" ++
      session.name.getD "None" ++ " for user: " ++ session.owner ++ " is in " ++
      session.state.text ++ " state. " ++ reason) }

def stoppable (force : Option Bool) (state : VirtualDesktopSessionState) : Bool :=
  force = some true || state = .READY || state = .RESUMING

def stopWithoutDcv (env : Env config) (session : VirtualDesktopSession) :
    Action VirtualDesktopSession :=
  SessionDB.update env { session with state := .STOPPING }

def instanceIds (sessions : List VirtualDesktopSession) : List (Option String) :=
  sessions.map (·.instanceId)

def stopSessions (env : Env config) (requests : List SessionRequest) :
    Action (List VirtualDesktopSession × List VirtualDesktopSession) := do
  let found ← .collect (fun request => do
    let session ← findSession env request
    pure ({ session with force := request.force }, stoppable request.force session.state)) requests
  let sessions := (found.filter (·.2)).map (·.1)
  let refusedSessions := (found.filter (!·.2)).map fun entry =>
    refused entry.1 "Can't stop. Wait for it to be READY or RESUMING."
  let toDelete := sessions.filter (!isEmptyString ·.dcvSessionId)
  let withoutDcv := sessions.filter (isEmptyString ·.dcvSessionId)
  let answer ← deleteDcvSessions env toDelete
  let stopping ← .collect (markForValidation env .STOPPING toDelete) answer.1
  let stoppingToo ← .collect (stopWithoutDcv env) withoutDcv
  let failed ← failedSessions toDelete answer.2
  stopOrHibernateServers env (instanceIds (withoutDcv.filter (·.hibernationEnabled ≠ some true)))
    (instanceIds (withoutDcv.filter (·.hibernationEnabled = some true)))
  pure (stopping ++ stoppingToo, refusedSessions ++ failed)

def requireHosts (sessions : List VirtualDesktopSession) : Action Unit :=
  if sessions.any (·.server.isNone) then .raise .attributeError
  else if sessions.any (·.instanceId.isNone) then .raise .external
  else pure ()

def findSessionToResume (env : Env config) (request : SessionRequest) :
    Action VirtualDesktopSession := do
  let session ← findSession env request
  if session.state = .STOPPED && session.server.isNone then .raise .attributeError
  else pure session

/-- The map of sessions by their instances, in which a later session takes the place of an
earlier one. -/
def sessionOfInstance (sessions : List VirtualDesktopSession) (instanceId : Option String) :
    Action VirtualDesktopSession :=
  match sessions.reverse.find? (·.instanceId = instanceId) with
  | none => .raise .keyError
  | some session => pure session

def failedToStart (sessions : List VirtualDesktopSession) (text : String)
    (instanceId : Option String) : Action VirtualDesktopSession := do
  let session ← sessionOfInstance sessions instanceId
  pure { session with failureReason := some text }

def markResuming (env : Env config) (sessions : List VirtualDesktopSession)
    (instanceId : Option String) : Action VirtualDesktopSession := do
  let session ← sessionOfInstance sessions instanceId
  SessionDB.update env { session with state := .RESUMING }

def resumeSessions (env : Env config) (requests : List SessionRequest) :
    Action (List VirtualDesktopSession × List VirtualDesktopSession) := do
  let sessions ← .collect (findSessionToResume env) requests
  let toStart := sessions.filter (·.state = .STOPPED)
  let refusedSessions := (sessions.filter (·.state ≠ .STOPPED)).map
    (refused · "Can't resume a session not in STOPPED state")
  requireHosts toStart
  let answer ← performOrAnswer env (.startInstances (instanceIds toStart))
  match answer with
  | some text => do
    let failed ← .collect (failedToStart toStart text) (instanceIds toStart)
    pure ([], refusedSessions ++ failed)
  | none => do
    let resumed ← .collect (markResuming env toStart) (instanceIds toStart)
    pure (resumed, refusedSessions)

def connected (env : Env config) (session : VirtualDesktopSession) : VirtualDesktopSession :=
  { session with
    failureReason := some ("There exists " ++ toString (env.connectionCount session) ++
      " active connection(s) for idea_session_id: " ++ session.ideaSessionId ++ ":" ++
      session.name.getD "None" ++ ". Please terminate.") }

/-- The sessions with the number of their connections, which is only told of the last session with
the same DCV session. -/
def withCounts (env : Env config) :
    List VirtualDesktopSession → List (VirtualDesktopSession × ℤ)
  | [] => []
  | session :: sessions =>
    (session, if sessions.any (·.dcvSessionId = session.dcvSessionId) then 0
      else env.connectionCount session) :: withCounts env sessions

def getActiveCounts (env : Env config) (sessions : List VirtualDesktopSession) :
    Action (List (VirtualDesktopSession × ℤ)) :=
  if sessions.isEmpty then pure []
  else do
    perform env (.countDcvConnections (sessions.map (·.dcvSessionId)))
    pure (withCounts env sessions)

def rebootable (session : VirtualDesktopSession) : Bool :=
  decide (session.state = .READY) || decide (session.state = .ERROR)

def rebootDcvHosts (env : Env config) (sessions : List VirtualDesktopSession) : Action Unit :=
  if sessions.isEmpty then pure ()
  else do
    requireHosts sessions
    perform env (.rebootInstances (instanceIds sessions))

def rebootSessions (env : Env config) (requests : List SessionRequest) :
    Action (List VirtualDesktopSession × List VirtualDesktopSession) := do
  let sessions ← .collect (fun request => do
    let session ← findSession env request
    pure { session with force := request.force }) requests
  let refusedSessions := (sessions.filter (!rebootable ·)).map
    (refused · "Can't reboot. Wait for it to be READY or ERROR.")
  let allowed := sessions.filter (rebootable ·)
  let counted ← getActiveCounts env (allowed.filter (·.force ≠ some true))
  let toReboot := allowed.filter (·.force = some true) ++
    (counted.filter (·.2 ≤ 0)).map (·.1)
  let rebooted ← .collect
    (fun session => SessionDB.update env { session with state := .RESUMING }) toReboot
  rebootDcvHosts env rebooted
  pure (rebooted,
    refusedSessions ++ ((counted.filter (0 < ·.2)).map (·.1)).map (connected env))

end Idea.VirtualDesktop.Controller

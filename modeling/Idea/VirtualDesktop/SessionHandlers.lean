import Idea.VirtualDesktop.SessionApi

/-! # Handlers of the events queue

A handler reads the session that a message names and moves it on. A message is kept as long as its
handler raises, except for a sender that the handler does not accept. So a handler that has to wait
raises, and one that ends normally gives its message away.
-/

namespace Idea.VirtualDesktop.Controller

variable {config : Config}

def SenderId.text (sender : SenderId) : String :=
  match sender.instanceId with
  | none => sender.role
  | some instanceId => sender.role ++ ":" ++ instanceId

def doNotDeleteMessage (message : String) : Raised := .soca DO_NOT_DELETE_MESSAGE message

def messageSourceValidationFailed (message : QueuedEvent) : Raised :=
  .soca MESSAGE_SOURCE_VALIDATION_FAILED
    ("Corrupted sender_id: " ++ message.sender.text ++ ". Ignoring message")

def isSenderControllerRole (config : Config) (message : QueuedEvent) : Bool :=
  !isEmptyString (some message.sender.role) && decide (message.sender.role = config.sender.role)

def fromController (config : Config) (message : QueuedEvent) (handler : Action Unit) :
    Action Unit :=
  if isSenderControllerRole config message then handler
  else .raise (messageSourceValidationFailed message)

def messageSession (env : Env config) (message : QueuedEvent) :
    Action (Option VirtualDesktopSession) :=
  SessionDB.getFromDb env (getValueAsString message.ideaSessionOwner)
    (getValueAsString message.ideaSessionId)

def withSession (env : Env config) (message : QueuedEvent)
    (handler : VirtualDesktopSession → Action Unit) : Action Unit := do
  let found ← messageSession env message
  match found with
  | none => pure ()
  | some session => handler session

def withRequiredSession (env : Env config) (message : QueuedEvent)
    (handler : VirtualDesktopSession → Action Unit) : Action Unit := do
  let found ← messageSession env message
  match found with
  | none => .raise .attributeError
  | some session => handler session

def VirtualDesktopSession.label (session : VirtualDesktopSession) : String :=
  session.ideaSessionId ++ ":" ++ session.name.getD "None"

def enter (env : Env config) (state : VirtualDesktopSessionState)
    (session : VirtualDesktopSession) : Action VirtualDesktopSession :=
  if session.state = state then pure session
  else SessionDB.update env { session with state := state }

namespace DCVHostReady

def SESSION_CREATION_THRESHOLD_COUNT : ℤ := 30

def counterKey (session : VirtualDesktopSession) : CounterKey :=
  (session.ideaSessionId, .DCV_SESSION_CREATION_REQUEST_ACCEPTED_COUNTER)

def clearCounter (env : Env config) (session : VirtualDesktopSession) (counter : ℤ) :
    Action Unit :=
  if counter = 0 then pure () else CounterDB.delete env (counterKey session)

def onAccepted (env : Env config) (session : VirtualDesktopSession)
    (dcvSessionId : Option String) (counter : ℤ) : Action VirtualDesktopSession := do
  let session ← SessionDB.update env
    { session with state := .INITIALIZING, dcvSessionId := dcvSessionId }
  tagSession env session
  publishValidateCreation env session.key
  clearCounter env session counter
  pure session

def onRefused (env : Env config) (session : VirtualDesktopSession) (counter : ℤ) :
    Action VirtualDesktopSession :=
  if counter < SESSION_CREATION_THRESHOLD_COUNT then do
    CounterDB.createOrUpdate env (counterKey session) (counter + 1)
    enter env .CREATING session
  else do
    CounterDB.createOrUpdate env (counterKey session) counter
    SessionDB.update env { session with dcvSessionId := some "", state := .ERROR }

def createSession (env : Env config) (session : VirtualDesktopSession) :
    Action VirtualDesktopSession := do
  perform env (.createDcvSession session.key)
  let counter ← CounterDB.get env (counterKey session)
  if isEmptyString env.createdSession.failureReason then
    onAccepted env session env.createdSession.dcvSessionId counter
  else onRefused env session counter

def awaitsHost (state : VirtualDesktopSessionState) : Bool :=
  state = .PROVISIONING || state = .CREATING || state = .RESUMING

/-- A session that comes back after an error goes through its creation once more. -/
def leaveResuming (env : Env config) (session : VirtualDesktopSession) :
    Action VirtualDesktopSession :=
  if session.state = .RESUMING then SessionDB.update env { session with state := .CREATING }
  else pure session

def proceed (env : Env config) (session : VirtualDesktopSession) : Action Unit := do
  let session ← leaveResuming env session
  let session ← createSession env session
  if session.state = .CREATING then
    .raise (doNotDeleteMessage
      ("Session state is " ++ session.state.text ++ ". Not handling now."))
  else pure ()

def handleEvent (env : Env config) (message : QueuedEvent) : Action Unit :=
  if isEmptyString message.sender.instanceId then .raise (messageSourceValidationFailed message)
  else withSession env message fun session =>
    match session.server with
    | none => .raise .attributeError
    | some server =>
      if server.instanceId ≠ message.sender.instanceId then
        .raise (messageSourceValidationFailed message)
      else if awaitsHost session.state then proceed env session
      else pure ()

end DCVHostReady

namespace DCVHostRebootComplete

def RESUME_REQUEST_COUNT_THRESHOLD : ℤ := 6

def resetCounter (env : Env config) (session : VirtualDesktopSession)
    (counterType : VirtualDesktopSessionCounterType) : Action Unit := do
  let _ ← CounterDB.get env (session.ideaSessionId, counterType)
  CounterDB.createOrUpdate env (session.ideaSessionId, counterType) 0

def leaveError (env : Env config) (session : VirtualDesktopSession) :
    Action VirtualDesktopSession :=
  if session.state = .ERROR then SessionDB.update env { session with state := .RESUMING }
  else pure session

def mightBeStable (session : VirtualDesktopSession) (counter : ℤ) : Raised :=
  doNotDeleteMessage ("Idea session " ++ session.label ++
    " might stable with state: READY. No need to handle event now. Resume request count: " ++
    toString counter ++ ". Threshold: " ++ toString RESUME_REQUEST_COUNT_THRESHOLD)

def countReady (env : Env config) (session : VirtualDesktopSession) : Action Bool := do
  let counter ← CounterDB.get env (session.ideaSessionId, .DCV_SESSION_RESUMED_COUNTER)
  if counter < RESUME_REQUEST_COUNT_THRESHOLD then do
    CounterDB.createOrUpdate env (session.ideaSessionId, .DCV_SESSION_RESUMED_COUNTER)
      (counter + 1)
    .raise (mightBeStable session (counter + 1))
  else do
    CounterDB.delete env (session.ideaSessionId, .DCV_SESSION_RESUMED_COUNTER)
    pure true

def isStable (env : Env config) (session : VirtualDesktopSession) : Action Bool :=
  if session.state ≠ .READY then pure false
  else do
    perform env (.describeDcvSessions session.dcvSessionId)
    if env.dcvState = some "CREATING" then pure true
    else if env.dcvState = some "READY" then countReady env session
    else pure false

def resume (env : Env config) (session : VirtualDesktopSession) : Action Unit :=
  match session.server with
  | none => .raise .attributeError
  | some server => do
    let answer ← performOrAnswer env (.resumeDcvSession session.key)
    match answer with
    | some text =>
      .raise (doNotDeleteMessage ("Issue in resuming session: Instance " ++
        server.instanceId.getD "None" ++ " is not yet ready to run ssm commands, because " ++ text ++
        ". Will try again later"))
    | none => updateServerState env "CREATED" server.instanceId

def handles (state : VirtualDesktopSessionState) : Bool :=
  state = .RESUMING || state = .READY || state = .ERROR || state = .STOPPED

def proceed (env : Env config) (session : VirtualDesktopSession) : Action Unit := do
  resetCounter env session .VALIDATE_DCV_SESSION_CREATED_COUNTER
  resetCounter env session .DCV_SESSION_CREATION_REQUEST_ACCEPTED_COUNTER
  let session ← leaveError env session
  let stable ← isStable env session
  if stable then pure () else resume env session

def handleEvent (env : Env config) (message : QueuedEvent) : Action Unit :=
  if isEmptyString message.sender.instanceId then .raise (messageSourceValidationFailed message)
  else withSession env message fun session =>
    if handles session.state then proceed env session else pure ()

end DCVHostRebootComplete

namespace ValidateDCVSessionCreation

def VALIDATION_REQUEST_THRESHOLD : ℤ := 30

def SESSION_DELETED_THRESHOLD : ℤ := 4

def counterKey (session : VirtualDesktopSession) : CounterKey :=
  (session.ideaSessionId, .VALIDATE_DCV_SESSION_CREATED_COUNTER)

def hasFailed (env : Env config) (counter : ℤ) : Bool :=
  decide (SESSION_DELETED_THRESHOLD < counter) && decide (env.dcvState = some "DELETED") ||
    decide (VALIDATION_REQUEST_THRESHOLD < counter)

def validateAgain (env : Env config) (session : VirtualDesktopSession) (counter : ℤ) :
    Action Unit := do
  let _ ← enter env .INITIALIZING session
  CounterDB.createOrUpdate env (counterKey session) (counter + 1)
  .raise (doNotDeleteMessage ("Idea session " ++ session.label ++
    " is not stable with state: " ++ env.dcvState.getD "None" ++ ". " ++ toString (counter + 1) ++
    " times already validated. Will continue to validate"))

def validate (env : Env config) (session : VirtualDesktopSession) (counter : ℤ) : Action Unit :=
  if env.dcvState = some "READY" then do
    let _ ← SessionDB.update env { session with state := .READY }
    CounterDB.delete env (counterKey session)
  else if hasFailed env counter then markError env session
  else if session.state = .STOPPING then pure ()
  else validateAgain env session counter

def proceed (env : Env config) (session : VirtualDesktopSession) : Action Unit := do
  let counter ← CounterDB.get env (counterKey session)
  if session.state = .DELETING || session.state = .DELETED then
    CounterDB.delete env (counterKey session)
  else do
    perform env (.describeDcvSessions session.dcvSessionId)
    validate env session counter

def handleEvent (env : Env config) (message : QueuedEvent) : Action Unit :=
  fromController config message (withSession env message (proceed env))

end ValidateDCVSessionCreation

namespace ValidateDCVSessionDeletion

def confirmStopped (env : Env config) (instanceId : Option String) : Action Bool := do
  perform env (.describeInstances instanceId)
  if env.instanceState ≠ some "stopped" then pure false
  else do
    let server ← ServerDB.get env instanceId
    match server with
    | none => pure true
    | some server => do
      ServerDB.update env { server with state := some "STOPPED" }
      pure true

def stopInstance (env : Env config) (session : VirtualDesktopSession) :
    Action VirtualDesktopSessionState :=
  if session.hibernationEnabled = some true then do
    stopOrHibernateServers env [] [session.instanceId]
    pure .STOPPED
  else do
    stopOrHibernateServers env [session.instanceId] []
    let stopped ← .attempt (confirmStopped env session.instanceId)
    match stopped with
    | .ok true => pure .STOPPED
    | _ => pure .STOPPING

def continueStopSession (env : Env config) (session : VirtualDesktopSession) : Action Unit := do
  let state ← stopInstance env session
  let _ ← SessionDB.update env { session with state := state }
  pure ()

def deleteAndTerminate (env : Env config) (session : VirtualDesktopSession) : Action Unit := do
  deleteSchedulesForSession env session
  deletePermissionsForSession env session
  SessionDB.delete env session
  match session.server with
  | none => pure ()
  | some server => do
    let _ ← terminateDcvHosts env [server.instanceId]
    pure ()

def continueDeleteSession (env : Env config) (session : VirtualDesktopSession) : Action Unit := do
  let _ ← .attempt (deleteAndTerminate env session)
  pure ()

def hasExceededValidationTimeout (env : Env config) (session : VirtualDesktopSession) : Bool :=
  match session.updatedOn with
  | none => true
  | some updatedOn =>
    config.dcvValidationTimeoutMinutes * 60 * 1000 < env.currentTimeMs - updatedOn

def mayProceed (env : Env config) (session : VirtualDesktopSession) : Bool :=
  isEmptyString env.dcvState || env.dcvState = some "DELETED" ||
    hasExceededValidationTimeout env session

def proceed (env : Env config) (session : VirtualDesktopSession) : Action Unit := do
  perform env (.describeDcvSessions session.dcvSessionId)
  if !mayProceed env session then
    .raise (doNotDeleteMessage ("Idea session " ++ session.label ++
      " is not deleted with state: " ++ env.dcvState.getD "None" ++
      ". Not doing anything will try again."))
  else if session.state = .DELETING then continueDeleteSession env session
  else continueStopSession env session

def handleEvent (env : Env config) (message : QueuedEvent) : Action Unit :=
  fromController config message <| withSession env message fun session =>
    if session.state = .STOPPING || session.state = .DELETING then proceed env session
    else pure ()

end ValidateDCVSessionDeletion

namespace EC2StateChange

def onStopping (env : Env config) (message : QueuedEvent) (session : VirtualDesktopSession) :
    Action Unit :=
  match session.state with
  | .STOPPED | .DELETING | .DELETED | .ERROR => pure ()
  | .PROVISIONING | .CREATING | .INITIALIZING | .RESUMING => markError env session
  | .READY | .STOPPING => do
    let server ← ServerDB.get env (getValueAsString message.instanceId)
    match server with
    | none => .raise .attributeError
    | some server =>
      if getValueAsString message.status = some "stopping" then do
        let _ ← SessionDB.update env { session with state := .STOPPING }
        pure ()
      else do
        ServerDB.update env { server with state := some "STOPPED" }
        let _ ← SessionDB.update env { session with state := .STOPPED }
        pure ()

def rebootCompleteEvent (config : Config) (message : QueuedEvent) : QueuedEvent :=
  { controllerEvent config .DCV_HOST_REBOOT_COMPLETE_EVENT with
    ideaSessionId := getValueAsString message.ideaSessionId
    ideaSessionOwner := getValueAsString message.ideaSessionOwner
    instanceId := getValueAsString message.instanceId }

def announceReboot (env : Env config) (message : QueuedEvent) (session : VirtualDesktopSession) :
    Action Unit :=
  if session.hibernationEnabled = some true ∧ session.state = .RESUMING then
    perform env (.publish (rebootCompleteEvent config message))
  else pure ()

def onRunning (env : Env config) (message : QueuedEvent) (session : VirtualDesktopSession) :
    Action Unit := do
  announceReboot env message session
  updateServerState env "CREATED" (getValueAsString message.instanceId)

def handleEvent (env : Env config) (message : QueuedEvent) : Action Unit :=
  fromController config message <|
    if isEmptyString message.instanceId then pure ()
    else match getValueAsString message.status with
    | some "stopping" | some "stopped" => withSession env message (onStopping env message)
    | some "running" => withSession env message (onRunning env message)
    | _ => pure ()

end EC2StateChange

namespace CommandProgress

def isFinal (message : QueuedEvent) : Bool :=
  getValueAsString message.status = some "Success" ||
    getValueAsString message.status = some "Failed"

def isSuccess (message : QueuedEvent) : Bool := getValueAsString message.status = some "Success"

def deleteCommand (env : Env config) (message : QueuedEvent) : Action Unit :=
  perform env (.deleteSsmCommand (getValueAsString message.commandId))

def onResumed (env : Env config) (message : QueuedEvent) (session : VirtualDesktopSession) :
    Action Unit := do
  publishValidateCreation env session.key
  deleteCommand env message
  let _ ← SessionDB.update env { session with state := .INITIALIZING }
  pure ()

def handleResume (env : Env config) (message : QueuedEvent) : Action Unit :=
  fromController config message <|
    if isFinal message then withRequiredSession env message fun session =>
      if isSuccess message then onResumed env message session else markError env session
    else pure ()

def continueSoftwareStackCreation (env : Env config) (message : QueuedEvent)
    (session : VirtualDesktopSession) : Action Unit := do
  perform env (.getSoftwareStack (getValueAsString message.softwareStackId))
  perform env (.createImage session.instanceId)
  perform env .updateSoftwareStack
  perform env (.publish (validateSoftwareStackEvent env session
    (getValueAsString message.softwareStackId)))

def handleEnableUserdata (env : Env config) (message : QueuedEvent) : Action Unit :=
  fromController config message <|
    if isFinal message then withRequiredSession env message fun session =>
      if isSuccess message then do
        deleteCommand env message
        continueSoftwareStackCreation env message session
        storeSession env session
      else storeSession env { session with state := .ERROR }
    else pure ()

def handleDisableUserdata (env : Env config) (message : QueuedEvent) : Action Unit :=
  fromController config message <|
    if isFinal message then withRequiredSession env message fun session =>
      if isSuccess message then do
        deleteCommand env message
        storeSession env session
      else storeSession env { session with state := .ERROR }
    else pure ()

def request (session : VirtualDesktopSession) : SessionRequest where
  owner := some session.owner
  ideaSessionId := some session.ideaSessionId
  force := session.force

def stopOrWait (env : Env config) (session : VirtualDesktopSession) : Action Unit := do
  let answer ← stopSessions env [request session]
  match answer.2 with
  | [] => pure ()
  | failed :: _ =>
    .raise (doNotDeleteMessage ("Error in stopping idea_session_id: " ++ failed.label ++
      ". Error: " ++ failed.failureReason.getD "None" ++
      ". NOT stopping the session now. Will handle later"))

def handleCpuUtilization (env : Env config) (message : QueuedEvent) : Action Unit :=
  fromController config message <|
    if isFinal message then do
      let found ← messageSession env message
      if isSuccess message then do
        perform env (.getCpuUtilization
          ((getValueAsString message.ideaSessionOwner).getD "",
            (getValueAsString message.ideaSessionId).getD ""))
        if env.isIdle then
          match found with
          | none => .raise .attributeError
          | some session => stopOrWait env session
        else pure ()
      else pure ()
    else pure ()

end CommandProgress

namespace SessionState

def handleScheduledStop (env : Env config) (message : QueuedEvent) : Action Unit :=
  fromController config message <| withSession env message fun session =>
    if session.state ≠ .READY ∧ session.state ≠ .RESUMING then pure ()
    else if message.force ≠ some true then perform env (.submitSsmCommand session.key)
    else CommandProgress.stopOrWait env { session with force := some true }

def handleScheduledResume (env : Env config) (message : QueuedEvent) : Action Unit :=
  fromController config message <| withSession env message fun session =>
    if session.state ≠ .STOPPED ∧ session.state ≠ .ERROR then pure ()
    else do
      let answer ← resumeSessions env [CommandProgress.request session]
      match answer.2 with
      | [] => pure ()
      | failed :: _ =>
        .raise (doNotDeleteMessage ("Error in resuming idea_session_id: " ++ failed.label ++
          ". Error: " ++ failed.failureReason.getD "None"))

def terminateRequest (message : QueuedEvent) : SessionRequest where
  owner := getValueAsString message.ideaSessionOwner
  ideaSessionId := getValueAsString message.ideaSessionId
  force := some (message.force.getD false)

def handleTerminate (env : Env config) (message : QueuedEvent) : Action Unit :=
  fromController config message do
    let answer ← terminateSessions env [terminateRequest message]
    match answer.2 with
    | [] => pure ()
    | failed :: _ =>
      .raise (doNotDeleteMessage ("Error in stopping idea_session_id: " ++ failed.label ++
        ". Error: " ++ failed.failureReason.getD "None" ++
        ". NOT terminating the session now. Will handle later"))

end SessionState

namespace SoftwareStackEvents

/-- The entry is written with the new software stack, which is no part of the sessions here. -/
def handleUpdated (env : Env config) (message : QueuedEvent) : Action Unit :=
  fromController config message <| withSession env message fun session => do
    let _ ← SessionDB.update env session
    pure ()

def unlockSession (env : Env config) (session : VirtualDesktopSession) : Action Unit := do
  let _ ← SessionDB.update env session
  writeServer env session

def notReady (env : Env config) (stack : SoftwareStack) : Raised :=
  doNotDeleteMessage ("AMI " ++ stack.amiId ++ " is not yet ready to use with status " ++
    env.imageStatus.getD "None")

def useStack (env : Env config) (message : QueuedEvent) (stack : SoftwareStack) :
    Action Unit := do
  perform env (.describeImage stack.amiId)
  if env.imageStatus ≠ some "available" then .raise (notReady env stack)
  else do
    perform env .updateSoftwareStack
    if stack.isWindows then
      perform env (.submitSsmCommand ((getValueAsString message.ideaSessionOwner).getD "",
        (getValueAsString message.ideaSessionId).getD ""))
    else withRequiredSession env message (unlockSession env)

def handleValidation (env : Env config) (message : QueuedEvent) : Action Unit :=
  fromController config message <|
    if isEmptyString message.softwareStackId then pure ()
    else do
      perform env (.getSoftwareStack (getValueAsString message.softwareStackId))
      match env.softwareStack with
      | none => pure ()
      | some stack => useStack env message stack

end SoftwareStackEvents

/-- What the handlers that write no session may do: publish events, change permissions and send
commands to hosts. -/
def Call.isHousekeeping : Call → Bool
  | .publish _ | .updatePermission _ | .deletePermission _ | .submitSsmCommand _ => true
  | _ => false

def housekeep (env : Env config) (message : QueuedEvent) : Action Unit :=
  if env.acceptsSender then .forEach (perform env) (env.housekeeping.filter (·.isHousekeeping))
  else .raise (messageSourceValidationFailed message)

def handleEvent (env : Env config) (message : QueuedEvent) : Action Unit :=
  match message.eventType with
  | .DCV_HOST_READY_EVENT => DCVHostReady.handleEvent env message
  | .DCV_HOST_REBOOT_COMPLETE_EVENT => DCVHostRebootComplete.handleEvent env message
  | .VALIDATE_DCV_SESSION_CREATION_EVENT => ValidateDCVSessionCreation.handleEvent env message
  | .VALIDATE_DCV_SESSION_DELETION_EVENT => ValidateDCVSessionDeletion.handleEvent env message
  | .EC2_INSTANCE_STATE_CHANGED_EVENT => EC2StateChange.handleEvent env message
  | .IDEA_SESSION_RESUME_SESSION_COMMAND_PROGRESS_EVENT => CommandProgress.handleResume env message
  | .IDEA_SESSION_CPU_UTILIZATION_COMMAND_PROGRESS_EVENT =>
    CommandProgress.handleCpuUtilization env message
  | .ENABLE_USERDATA_WINDOWS_COMMAND_PROGRESS_EVENT =>
    CommandProgress.handleEnableUserdata env message
  | .DISABLE_USERDATA_WINDOWS_COMMAND_PROGRESS_EVENT =>
    CommandProgress.handleDisableUserdata env message
  | .IDEA_SESSION_SCHEDULED_STOP_EVENT => SessionState.handleScheduledStop env message
  | .IDEA_SESSION_SCHEDULED_RESUME_EVENT => SessionState.handleScheduledResume env message
  | .IDEA_SESSION_TERMINATE_EVENT => SessionState.handleTerminate env message
  | .IDEA_SESSION_SOFTWARE_STACK_UPDATED_EVENT => SoftwareStackEvents.handleUpdated env message
  | .VALIDATE_SOFTWARE_STACK_CREATION_EVENT => SoftwareStackEvents.handleValidation env message
  | .SCHEDULED_EVENT | .USER_CREATED_EVENT | .USER_DISABLED_EVENT | .DB_ENTRY_CREATED_EVENT
  | .DB_ENTRY_UPDATED_EVENT | .DB_ENTRY_DELETED_EVENT | .IDEA_SESSION_PERMISSIONS_ENFORCE_EVENT
  | .IDEA_SESSION_PERMISSIONS_UPDATE_EVENT | .DCV_BROKER_USERDATA_EXECUTION_COMPLETE_EVENT =>
    housekeep env message

end Idea.VirtualDesktop.Controller

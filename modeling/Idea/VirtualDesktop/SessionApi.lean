import Idea.VirtualDesktop.SessionUtils

/-! # Changing a session and connecting to it

A client may change the name, the description, the instance type and the schedules of a session.
It names the instance by an id of its own. A connection that the broker refuses puts the session
that the client names into an error state.
-/

namespace Idea.VirtualDesktop.Controller

variable {config : Config}

structure SessionUpdate where
  owner : Option String
  ideaSessionId : Option String
  name : Option String
  description : Option String
  server : Option VirtualDesktopServer
  schedule : Option (DayOfWeek → Option VirtualDesktopSchedule)

def changeInstanceType (env : Env config) (instanceId instanceType : Option String) :
    Action (Option String) :=
  if isEmptyString instanceId || isEmptyString instanceType then
    pure (some ("Invalid " ++ instanceId.getD "None" ++ " or " ++ instanceType.getD "None"))
  else do
    let outcome ← .attempt
      (perform env (.changeInstanceType (instanceId.getD "") (instanceType.getD "")))
    match outcome with
    | .ok _ => pure none
    | .error e => pure (some (env.repr e))

def replaceText (old new : Option String) : Option String :=
  if isEmptyString new then old else new

def SessionUpdate.changesTexts (new : SessionUpdate) (old : VirtualDesktopSession) : Bool :=
  decide (replaceText old.name new.name ≠ old.name ∨
    replaceText old.description new.description ≠ old.description)

def setInstanceType (session : VirtualDesktopSession) (instanceType : Option String) :
    Action VirtualDesktopSession :=
  match session.server with
  | none => .raise .attributeError
  | some server =>
    pure { session with server := some { server with instanceType := instanceType } }

def hibernationRefusal (ideaSessionId : Option String) : String :=
  "Not allowed to change Instance type for session: " ++ ideaSessionId.getD "None" ++
    " because hibernation is enabled"

/-- Why the instance type of a session was not changed, or the session and whether its server was
changed. -/
def updateInstanceType (env : Env config) (old : VirtualDesktopSession) (new : SessionUpdate)
    (server : VirtualDesktopServer) :
    Action (Except String (VirtualDesktopSession × Bool)) := do
  let oldServer ← ServerDB.get env server.instanceId
  match oldServer with
  | none => pure (.ok (old, false))
  | some oldServer =>
    if oldServer.instanceType = server.instanceType then pure (.ok (old, false))
    else if old.hibernationEnabled = some true then
      pure (.error (hibernationRefusal new.ideaSessionId))
    else do
      let refusal ← changeInstanceType env server.instanceId server.instanceType
      match refusal with
      | some reason => pure (.error reason)
      | none => do
        let session ← setInstanceType old server.instanceType
        pure (.ok (session, true))

def updateServer (env : Env config) (old : VirtualDesktopSession) (new : SessionUpdate) :
    Action (Except String (VirtualDesktopSession × Bool)) :=
  match new.server with
  | none => pure (.ok (old, false))
  | some server =>
    if isEmptyString server.instanceType then pure (.ok (old, false))
    else updateInstanceType env old new server

def updateSchedules (env : Env config) (session : VirtualDesktopSession) (new : SessionUpdate) :
    Action VirtualDesktopSession :=
  match new.schedule with
  | none => pure session
  | some schedule => do
    let schedule ← updateScheduleForSession env schedule (fun day => some (session.schedule day))
      session.key
    pure { session with schedule := schedule }

def writeServer (env : Env config) (session : VirtualDesktopSession) : Action Unit :=
  match session.server with
  | none => .raise .attributeError
  | some server => ServerDB.update env server

def tagSession (env : Env config) (session : VirtualDesktopSession) : Action Unit :=
  match session.server with
  | none => .raise .attributeError
  | some server => perform env (.createTag server.instanceId)

def storeServer (env : Env config) (session : VirtualDesktopSession) (isServerUpdated : Bool) :
    Action Unit :=
  if isServerUpdated then writeServer env session else pure ()

def storeUpdate (env : Env config) (session : VirtualDesktopSession)
    (isServerUpdated isSessionUpdated : Bool) : Action Unit := do
  storeServer env session isServerUpdated
  if isSessionUpdated then do
    let session ← SessionDB.update env session
    tagSession env session
  else pure ()

def invalidSession (new : SessionUpdate) : String :=
  "invalid IDEA session id: " ++ new.ideaSessionId.getD "None" ++ ":" ++
    new.name.getD "None" ++ " or owner " ++ new.owner.getD "None" ++ ". Not updating the session."

/-- `VirtualDesktopAPI._update_session`; why it failed, if it did. -/
def updateSession (env : Env config) (new : SessionUpdate) : Action (Option String) := do
  let found ← SessionDB.getFromDb env new.owner new.ideaSessionId
  match found with
  | none => pure (some (invalidSession new))
  | some old => do
    let updated ← updateServer env
      { old with
        name := replaceText old.name new.name
        description := replaceText old.description new.description } new
    match updated with
    | .error reason => pure (some reason)
    | .ok (session, isServerUpdated) => do
      let session ← updateSchedules env session new
      storeUpdate env session isServerUpdated
        (new.changesTexts old || isServerUpdated || new.schedule.isSome)
      pure none

structure ConnectionInfoRequest where
  dcvSessionId : Option String
  ideaSessionId : Option String
  ideaSessionOwner : Option String
  username : Option String

def findReadySession (env : Env config) (request : ConnectionInfoRequest) :
    Action (Except String VirtualDesktopSession) := do
  let found ← SessionDB.getFromDb env request.ideaSessionOwner request.ideaSessionId
  match found with
  | none =>
    pure (.error ("Invalid IDEA session id: " ++ request.ideaSessionId.getD "None" ++
      " for user: " ++ request.username.getD "None" ++ "."))
  | some session =>
    if session.state = .READY then pure (.ok session)
    else
      pure (.error ("session " ++ request.ideaSessionId.getD "None" ++ " status is " ++
        session.state.text))

def markError (env : Env config) (session : VirtualDesktopSession) : Action Unit := do
  let _ ← SessionDB.update env { session with state := .ERROR }
  pure ()

def blameSession (env : Env config) (request : ConnectionInfoRequest)
    (session : Option VirtualDesktopSession) : Action Unit :=
  match session with
  | some session => markError env session
  | none =>
    if isEmptyString request.ideaSessionId then pure ()
    else do
      let found ← SessionDB.getFromDb env request.ideaSessionOwner request.ideaSessionId
      match found with
      | none => pure ()
      | some session => markError env session

def connect (env : Env config) (request : ConnectionInfoRequest) (dcvSessionId : Option String)
    (session : Option VirtualDesktopSession) : Action (Option String) := do
  perform env (.getConnectionData dcvSessionId request.username)
  match env.connectionFailure dcvSessionId request.username with
  | none => pure none
  | some reason => do
    blameSession env request session
    pure (some reason)

/-- `VirtualDesktopAPI._get_session_connection_info`; why it failed, if it did. -/
def getSessionConnectionInfo (env : Env config) (request : ConnectionInfoRequest) :
    Action (Option String) :=
  if isEmptyString request.dcvSessionId then do
    let found ← findReadySession env request
    match found with
    | .error reason => pure (some reason)
    | .ok session => connect env request session.dcvSessionId (some session)
  else connect env request request.dcvSessionId none

def storeSession (env : Env config) (session : VirtualDesktopSession) : Action Unit := do
  writeServer env session
  let _ ← SessionDB.update env session
  pure ()

def validateSoftwareStackEvent (env : Env config) (session : VirtualDesktopSession)
    (softwareStackId : Option String) : QueuedEvent :=
  { sessionEvent config .VALIDATE_SOFTWARE_STACK_CREATION_EVENT session.key with
    instanceId := session.instanceId
    softwareStackId := softwareStackId
    timestamp := some env.currentTimeMs }

def createImage (env : Env config) (session : VirtualDesktopSession) : Action Bool :=
  if env.isWindows then pure true
  else do
    perform env (.createImage session.instanceId)
    pure (!isEmptyString env.imageId)

def announceSoftwareStack (env : Env config) (session : VirtualDesktopSession)
    (softwareStackId : Option String) : Action Unit :=
  if env.isWindows then perform env (.submitSsmCommand session.key)
  else perform env (.publish (validateSoftwareStackEvent env session softwareStackId))

/-- `VirtualDesktopAPI._create_software_stack_from_session` for a new software stack that is valid;
why it failed, if it did. -/
def createSoftwareStackFromSession (env : Env config) (owner ideaSessionId : Option String)
    (softwareStackId : Option String) : Action (Option String) := do
  let found ← SessionDB.getFromDb env owner ideaSessionId
  match found with
  | none => .raise .attributeError
  | some session => do
    let hasImage ← createImage env session
    if !hasImage then
      pure (some ("Unable to create AMI for InstanceID: " ++ session.instanceId.getD "None" ++
        " for some reason. Please contact Administrators."))
    else do
      perform env .updateSoftwareStack
      announceSoftwareStack env session softwareStackId
      storeSession env session
      pure none

end Idea.VirtualDesktop.Controller

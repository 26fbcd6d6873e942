import Idea.Data.Dict
import Idea.System.Triple
import Idea.VirtualDesktop.QueuePollers

/-! # What the desktop controller stores

The controller keeps its tables in a database, sends events to a queue that it reads itself, and
has instances launched and terminated. Each call to another party either raises and changes
nothing, or is done. A write to a table is one call, and the event that tells of it is the next.
-/

namespace Idea.VirtualDesktop.Controller

inductive VirtualDesktopSessionState where
  | PROVISIONING | CREATING | INITIALIZING | READY | RESUMING | STOPPING | STOPPED | ERROR
  | DELETING | DELETED
  deriving DecidableEq

inductive DayOfWeek where
  | monday | tuesday | wednesday | thursday | friday | saturday | sunday
  deriving DecidableEq

def DayOfWeek.all : List DayOfWeek :=
  [monday, tuesday, wednesday, thursday, friday, saturday, sunday]

inductive VirtualDesktopScheduleType where
  | WORKING_HOURS | STOP_ON_IDLE | START_ALL_DAY | CUSTOM_SCHEDULE | NO_SCHEDULE
  deriving DecidableEq

structure VirtualDesktopServer where
  instanceId : Option String
  instanceType : Option String
  ideaSessionId : Option String
  ideaSessionOwner : Option String
  state : Option String
  deriving DecidableEq

structure VirtualDesktopSchedule where
  scheduleId : Option String
  ideaSessionId : Option String
  ideaSessionOwner : Option String
  dayOfWeek : Option DayOfWeek
  scheduleType : Option VirtualDesktopScheduleType
  deriving DecidableEq

abbrev SessionKey : Type := String × String

structure VirtualDesktopSession where
  owner : String
  ideaSessionId : String
  name : Option String
  description : Option String
  state : VirtualDesktopSessionState
  dcvSessionId : Option String
  hibernationEnabled : Option Bool
  server : Option VirtualDesktopServer
  schedule : DayOfWeek → VirtualDesktopSchedule
  updatedOn : Option ℤ
  /-- Not stored. -/
  force : Option Bool
  /-- Not stored. -/
  failureReason : Option String

def VirtualDesktopSession.key (session : VirtualDesktopSession) : SessionKey :=
  (session.owner, session.ideaSessionId)

def VirtualDesktopSession.instanceId (session : VirtualDesktopSession) : Option String :=
  session.server.bind (·.instanceId)

structure SessionPermission where
  ideaSessionId : String
  actorName : String
  ideaSessionOwner : Option String
  profileId : Option String
  deriving DecidableEq

def SessionPermission.key (permission : SessionPermission) : String × String :=
  (permission.ideaSessionId, permission.actorName)

inductive VirtualDesktopSessionCounterType where
  | VALIDATE_DCV_SESSION_CREATED_COUNTER
  | DCV_SESSION_CREATION_REQUEST_ACCEPTED_COUNTER
  | DCV_SESSION_RESUMED_COUNTER
  deriving DecidableEq

abbrev CounterKey : Type := String × VirtualDesktopSessionCounterType

/-- The role that sent a message and the instance that had the role. -/
structure SenderId where
  role : String
  instanceId : Option String
  deriving DecidableEq

inductive Table where
  | sessions | servers | schedules | sessionPermissions
  deriving DecidableEq

structure TableEntry where
  table : Table
  hashKey : String
  rangeKey : String
  deriving DecidableEq

/-- A message of the events queue with the details that the handlers read. -/
structure QueuedEvent where
  sender : SenderId
  eventType : VirtualDesktopEventType
  ideaSessionId : Option String
  ideaSessionOwner : Option String
  instanceId : Option String
  /-- The state of an instance or the status of a command. -/
  status : Option String
  commandId : Option String
  softwareStackId : Option String
  force : Option Bool
  timestamp : Option ℤ
  entry : Option TableEntry
  deriving DecidableEq

structure Config where
  /-- The role and instance of the controller. -/
  sender : SenderId
  sender_role : isEmptyString (some sender.role) = false
  dcvValidationTimeoutMinutes : ℤ

/-- The tables, the events queue and the events ever sent to it, and the instances: those launched,
each for a session, those whose termination was accepted, and the type of each. -/
structure Store where
  sessions : Dict SessionKey VirtualDesktopSession
  servers : Dict String VirtualDesktopServer
  schedules : Dict (DayOfWeek × String) VirtualDesktopSchedule
  permissions : Dict (String × String) SessionPermission
  counters : Dict CounterKey ℤ
  queue : List QueuedEvent
  published : List QueuedEvent
  launched : List (String × SessionKey)
  terminated : List String
  instanceTypes : Dict String String

inductive Call where
  | getSession (key : SessionKey)
  | putSession (session : VirtualDesktopSession)
  | updateSession (session : VirtualDesktopSession)
  | deleteSession (key : SessionKey)
  | getServer (instanceId : String)
  | putServer (instanceId : String) (server : VirtualDesktopServer)
  | updateServer (instanceId : String) (server : VirtualDesktopServer)
  | deleteServer (instanceId : String)
  | getDefaultSchedules
  | putSchedule (key : DayOfWeek × String) (schedule : VirtualDesktopSchedule)
  | deleteSchedule (key : DayOfWeek × String)
  | putPermission (permission : SessionPermission)
  | updatePermission (permission : SessionPermission)
  | deletePermission (key : String × String)
  | getCounter (key : CounterKey)
  | updateCounter (key : CounterKey) (counter : ℤ)
  | deleteCounter (key : CounterKey)
  | deleteSsmCommand (commandId : Option String)
  | publish (event : QueuedEvent)
  | terminateInstances (instanceIds : List (Option String))
  | stopInstances (instanceIds : List (Option String)) (hibernate : Bool)
  | startInstances (instanceIds : List (Option String))
  | rebootInstances (instanceIds : List (Option String))
  | describeInstances (instanceId : Option String)
  | changeInstanceType (instanceId instanceType : String)
  | createTag (instanceId : Option String)
  | createDcvSession (key : SessionKey)
  | resumeDcvSession (key : SessionKey)
  | describeDcvSessions (dcvSessionId : Option String)
  | deleteDcvSessions (dcvSessionIds : List (Option String))
  | countDcvConnections (dcvSessionIds : List (Option String))
  | getConnectionData (dcvSessionId username : Option String)
  | submitSsmCommand (key : SessionKey)
  | getCpuUtilization (key : SessionKey)
  | getSoftwareStack (stackId : Option String)
  | updateSoftwareStack
  | createImage (instanceId : Option String)
  | describeImage (amiId : String)

/-- How the broker answers the request to create a session. -/
structure DcvCreation where
  dcvSessionId : Option String
  failureReason : Option String

structure SoftwareStack where
  amiId : String
  isWindows : Bool

/-- What the other parties do during one operation: which calls raise, and what they answer. No
call raises what asks for the deletion of a message. -/
structure Env (config : Config) where
  raises : Call → Option Raised
  raises_keeps : ∀ call e, raises call = some e → deletesAfter (.error e) = false
  /-- The text of an exception. -/
  str : Raised → String
  repr : Raised → String
  currentTimeMs : ℤ
  scheduleUuid : DayOfWeek → String
  /-- The queue takes an event that was sent before for a repetition. -/
  repeats : QueuedEvent → Bool
  /-- The permissions of a session can be queried. -/
  queriesPermissions : Bool
  defaultSchedules : DayOfWeek → VirtualDesktopSchedule
  /-- The instance that a request to launch one starts, if it starts one. -/
  runInstances : Except Raised (Option String)
  /-- The state of the described instance, if it is found. -/
  instanceState : Option String
  createdSession : DcvCreation
  /-- The state that the broker reports of a session. -/
  dcvState : Option String
  /-- The DCV sessions that the broker deletes, and those that it does not, with the reason. -/
  deletedSessions : List (Option String) → List (Option String) × List (Option String × String)
  connectionCount : VirtualDesktopSession → ℤ
  /-- A session uses little of its processor and nobody has been connected to it for some time. -/
  isIdle : Bool
  /-- The software stack that an event names, if there is one. -/
  softwareStack : Option SoftwareStack
  imageStatus : Option String
  /-- The image that is made of an instance. -/
  imageId : Option String
  /-- The sessions run Windows. -/
  isWindows : Bool
  acceptsSender : Bool
  /-- The calls of a handler that writes no session. -/
  housekeeping : List Call
  /-- Why a user cannot connect to a DCV session. -/
  connectionFailure : Option String → Option String → Option String

variable {config : Config}

def Store.send (env : Env config) (event : QueuedEvent) (store : Store) : Store :=
  if env.repeats event && store.published.contains event then store
  else
    { store with
      queue := store.queue ++ [event]
      published := store.published ++ [event] }

def VirtualDesktopSession.stored (env : Env config) (session : VirtualDesktopSession) :
    VirtualDesktopSession :=
  { session with updatedOn := some env.currentTimeMs, force := none, failureReason := none }

def Store.after (env : Env config) (store : Store) : Call → Store
  | .putSession session =>
    { store with sessions := store.sessions.set session.key (session.stored env) }
  | .updateSession session =>
    { store with sessions := store.sessions.set session.key (session.stored env) }
  | .deleteSession key => { store with sessions := store.sessions.erase key }
  | .putServer instanceId server => { store with servers := store.servers.set instanceId server }
  | .updateServer instanceId server =>
    { store with servers := store.servers.set instanceId server }
  | .deleteServer instanceId => { store with servers := store.servers.erase instanceId }
  | .putSchedule key schedule => { store with schedules := store.schedules.set key schedule }
  | .deleteSchedule key => { store with schedules := store.schedules.erase key }
  | .putPermission permission =>
    { store with permissions := store.permissions.set permission.key permission }
  | .updatePermission permission =>
    { store with permissions := store.permissions.set permission.key permission }
  | .deletePermission key => { store with permissions := store.permissions.erase key }
  | .updateCounter key counter => { store with counters := store.counters.set key counter }
  | .deleteCounter key => { store with counters := store.counters.erase key }
  | .changeInstanceType instanceId instanceType =>
    { store with instanceTypes := store.instanceTypes.set instanceId instanceType }
  | .publish event => store.send env event
  | .terminateInstances instanceIds =>
    { store with terminated := store.terminated ++ instanceIds.filterMap id }
  | _ => store

abbrev Action (α : Type) : Type := Stateful Store Raised α

def perform (env : Env config) (call : Call) : Action Unit :=
  match env.raises call with
  | some e => .raise e
  | none => .modify (·.after env call)

theorem perform_triple {P : Store → Prop} {Q : Unit → Store → Prop} {E : Raised → Store → Prop}
    {env : Env config} {call : Call}
    (hok : ∀ store, P store → env.raises call = none → Q () (store.after env call))
    (herror : ∀ store e, P store → env.raises call = some e → E e store) :
    Stateful.Triple P (perform env call) Q E := by
  unfold perform
  cases hraises : env.raises call with
  | none => exact .modify fun store hs => hok store hs hraises
  | some e => exact .raise fun store hs => herror store e hs hraises

def controllerEvent (config : Config) (eventType : VirtualDesktopEventType) : QueuedEvent where
  sender := config.sender
  eventType := eventType
  ideaSessionId := none
  ideaSessionOwner := none
  instanceId := none
  status := none
  commandId := none
  softwareStackId := none
  force := none
  timestamp := none
  entry := none

def entryEvent (config : Config) (eventType : VirtualDesktopEventType) (table : Table)
    (hashKey rangeKey : String) : QueuedEvent :=
  { controllerEvent config eventType with entry := some ⟨table, hashKey, rangeKey⟩ }

def triggerCreateEvent (env : Env config) (table : Table) (hashKey rangeKey : String) :
    Action Unit :=
  perform env (.publish (entryEvent config .DB_ENTRY_CREATED_EVENT table hashKey rangeKey))

def triggerUpdateEvent (env : Env config) (table : Table) (hashKey rangeKey : String) :
    Action Unit :=
  perform env (.publish (entryEvent config .DB_ENTRY_UPDATED_EVENT table hashKey rangeKey))

def triggerDeleteEvent (env : Env config) (table : Table) (hashKey rangeKey : String) :
    Action Unit :=
  perform env (.publish (entryEvent config .DB_ENTRY_DELETED_EVENT table hashKey rangeKey))

namespace SessionDB

def sessionKey (owner ideaSessionId : Option String) : Option SessionKey :=
  if isEmptyString owner || isEmptyString ideaSessionId then none
  else some (owner.getD "", ideaSessionId.getD "")

def readServer (server : VirtualDesktopServer) : VirtualDesktopServer :=
  { server with state := none }

def readSession (session : VirtualDesktopSession) : VirtualDesktopSession :=
  { session with server := session.server.map readServer }

def readEntry (key : SessionKey) (session : VirtualDesktopSession) : VirtualDesktopSession :=
  { readSession session with owner := key.1, ideaSessionId := key.2 }

def getFromDb (env : Env config) (owner ideaSessionId : Option String) :
    Action (Option VirtualDesktopSession) :=
  match sessionKey owner ideaSessionId with
  | none => pure none
  | some key => do
    perform env (.getSession key)
    let store ← .get
    pure ((store.sessions.get? key).map (readEntry key))

def create (env : Env config) (session : VirtualDesktopSession) :
    Action VirtualDesktopSession := do
  perform env (.putSession session)
  triggerCreateEvent env .sessions session.owner session.ideaSessionId
  pure (readSession (session.stored env))

def update (env : Env config) (session : VirtualDesktopSession) :
    Action VirtualDesktopSession := do
  let store ← .get
  perform env (.updateSession session)
  if (store.sessions.get? session.key).isNone then .raise .keyError
  else do
    triggerUpdateEvent env .sessions session.owner session.ideaSessionId
    pure (readSession (session.stored env))

def delete (env : Env config) (session : VirtualDesktopSession) : Action Unit :=
  if isEmptyString (some session.ideaSessionId) || isEmptyString (some session.owner) then
    .raise (invalidParams "idea_session_id and owner is required")
  else do
    let store ← .get
    perform env (.deleteSession session.key)
    if (store.sessions.get? session.key).isNone then .raise .keyError
    else triggerDeleteEvent env .sessions session.owner session.ideaSessionId

end SessionDB

namespace ServerDB

def instanceIdRequired : Raised := invalidParams "instance_id is required"

def create (env : Env config) (instanceId : String) (server : VirtualDesktopServer)
    (key : SessionKey) : Action VirtualDesktopServer := do
  let row : VirtualDesktopServer :=
    { server with
      instanceId := some instanceId
      ideaSessionOwner := some key.1
      ideaSessionId := some key.2
      state := some "CREATED" }
  perform env (.putServer instanceId row)
  triggerCreateEvent env .servers instanceId ""
  pure (SessionDB.readServer row)

def readEntry (instanceId : String) (server : VirtualDesktopServer) : VirtualDesktopServer :=
  { SessionDB.readServer server with instanceId := some instanceId }

def get (env : Env config) (instanceId : Option String) : Action (Option VirtualDesktopServer) :=
  match instanceId with
  | none => .raise instanceIdRequired
  | some key =>
    if isEmptyString (some key) then .raise instanceIdRequired
    else do
      perform env (.getServer key)
      let store ← .get
      pure ((store.servers.get? key).map (readEntry key))

def update (env : Env config) (server : VirtualDesktopServer) : Action Unit :=
  match server.instanceId with
  | none => .raise .external
  | some instanceId => do
    perform env (.updateServer instanceId server)
    triggerUpdateEvent env .servers instanceId ""

def delete (env : Env config) (instanceId : Option String) : Action Unit :=
  match instanceId with
  | none => .raise instanceIdRequired
  | some key =>
    if isEmptyString (some key) then .raise instanceIdRequired
    else do
      let store ← .get
      perform env (.deleteServer key)
      if (store.servers.get? key).isNone then .raise .keyError
      else triggerDeleteEvent env .servers key ""

end ServerDB

namespace CounterDB

def get (env : Env config) (key : CounterKey) : Action ℤ := do
  perform env (.getCounter key)
  let store ← .get
  pure ((store.counters.get? key).getD 0)

def createOrUpdate (env : Env config) (key : CounterKey) (counter : ℤ) : Action Unit :=
  perform env (.updateCounter key counter)

def delete (env : Env config) (key : CounterKey) : Action Unit :=
  perform env (.deleteCounter key)

end CounterDB

namespace PermissionDB

def delete (env : Env config) (key : String × String) : Action Unit :=
  if isEmptyString (some key.1) || isEmptyString (some key.2) then
    .raise (invalidParams "idea_session_id and actor_name is required")
  else do
    let store ← .get
    perform env (.deletePermission key)
    if (store.permissions.get? key).isNone then .raise .keyError
    else triggerDeleteEvent env .sessionPermissions key.1 key.2

def getForSession (env : Env config) (ideaSessionId : String) : Action (List (String × String)) := do
  let store ← .get
  pure (if env.queriesPermissions then store.permissions.keys.filter (·.1 = ideaSessionId) else [])

end PermissionDB

def deletePermissionsForSession (env : Env config) (session : VirtualDesktopSession) :
    Action Unit := do
  let keys ← PermissionDB.getForSession env session.ideaSessionId
  .forEach (PermissionDB.delete env) keys

end Idea.VirtualDesktop.Controller

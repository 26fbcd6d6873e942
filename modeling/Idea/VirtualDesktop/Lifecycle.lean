import Idea.System.Run
import Idea.VirtualDesktop.HandlerRules

/-! # The desktop controller at work

The API changes sessions, messages arrive from the hosts and other parties, and the messages of the
queue are handled in any order. One operation follows the other. In each of them the other parties
may answer and raise as they like.
-/

namespace Idea.VirtualDesktop.Controller

open Stateful (Triple Ends Yields Keeps)

variable {config : Config}

inductive Operation where
  | createSession (new : NewSession)
  | terminateSessions (requests : List SessionRequest)
  | stopSessions (requests : List SessionRequest)
  | resumeSessions (requests : List SessionRequest)
  | rebootSessions (requests : List SessionRequest)
  | updateSession (new : SessionUpdate)
  | getSessionConnectionInfo (request : ConnectionInfoRequest)
  | createSoftwareStack (owner ideaSessionId softwareStackId : Option String)
  | arrive (message : QueuedEvent)
  | deliver (message : QueuedEvent)

/-- An operation with what the other parties do meanwhile. -/
structure Step (config : Config) where
  operation : Operation
  env : Env config

def settle (message : QueuedEvent) (outcome : Except Raised Unit × Store) : Store :=
  if deletesAfter outcome.1 then
    { outcome.2 with queue := outcome.2.queue.erase message }
  else outcome.2

def deliver (env : Env config) (message : QueuedEvent) (store : Store) : Store :=
  if message ∈ store.queue then settle message ((handleEvent env message).run store) else store

def Store.receive (message : QueuedEvent) (store : Store) : Store :=
  { store with
    queue := store.queue ++ [message]
    published := store.published ++ [message] }

def Step.apply (store : Store) (step : Step config) : Store :=
  match step.operation with
  | .createSession new => ((createSession step.env new).run store).2
  | .terminateSessions requests => ((terminateSessions step.env requests).run store).2
  | .stopSessions requests => ((stopSessions step.env requests).run store).2
  | .resumeSessions requests => ((resumeSessions step.env requests).run store).2
  | .rebootSessions requests => ((rebootSessions step.env requests).run store).2
  | .updateSession new => ((updateSession step.env new).run store).2
  | .getSessionConnectionInfo request =>
    ((getSessionConnectionInfo step.env request).run store).2
  | .createSoftwareStack owner ideaSessionId softwareStackId =>
    ((createSoftwareStackFromSession step.env owner ideaSessionId softwareStackId).run store).2
  | .arrive message => store.receive message
  | .deliver message => deliver step.env message store

def IsPlain (text : String) : Prop := getAsString text = some text

/-- The id of a new session was never used, and its owner is a user. -/
def Store.Admits (store : Store) : Operation → Prop
  | .createSession new =>
    IsPlain new.key.1 ∧ IsPlain new.key.2 ∧ new.key ∉ store.launched.map (·.2) ∧
      store.sessions.get? new.key = none
  | _ => True

inductive Takes : Store → Step config → Store → Prop
  | step {store : Store} {step : Step config} : store.Admits step.operation →
      Takes store step (step.apply store)

def Store.empty : Store where
  sessions := ∅
  servers := ∅
  schedules := ∅
  permissions := ∅
  counters := ∅
  queue := []
  published := []
  launched := []
  terminated := []
  instanceTypes := ∅

def Env.untroubled (config : Config) : Env config where
  raises _ := none
  raises_keeps _ _ h := nomatch h
  str _ := ""
  repr _ := ""
  currentTimeMs := 0
  scheduleUuid _ := "schedule-1"
  repeats _ := false
  queriesPermissions := false
  defaultSchedules day := getEmptySchedule (some day)
  runInstances := .ok (some "i-1")
  instanceState := some "stopped"
  createdSession := ⟨some "dcv-1", none⟩
  dcvState := none
  deletedSessions ids := (ids, [])
  connectionCount _ := 0
  isIdle := false
  softwareStack := none
  imageStatus := none
  imageId := none
  isWindows := false
  acceptsSender := true
  housekeeping := []
  connectionFailure _ _ := none

def controllerConfig : Config where
  sender := ⟨"idea-vdc-controller-role", none⟩
  sender_role := by decide +kernel
  dcvValidationTimeoutMinutes := 5

def newDesktop : NewSession where
  key := ("ada", "session-1")
  name := none
  description := none
  hibernationEnabled := none
  server := ⟨none, some "m5.large", none, none, none⟩
  schedule _ := none

theorem newDesktop_admitted : Store.empty.Admits (.createSession newDesktop) :=
  ⟨by unfold IsPlain; decide +kernel, by unfold IsPlain; decide +kernel, by decide, rfl⟩

def creation : Step controllerConfig :=
  ⟨.createSession newDesktop, Env.untroubled controllerConfig⟩

theorem run_keeps {α : Type} {I : Store → Prop} {x : Action α} (h : Keeps I x) {store : Store}
    (hs : I store) : I (x.run store).2 :=
  Yields.invariant h hs rfl

/-- The event types whose handlers neither create, validate, delete nor start a session. -/
def isRoutine : VirtualDesktopEventType → Bool
  | .DCV_HOST_READY_EVENT | .VALIDATE_DCV_SESSION_CREATION_EVENT
  | .VALIDATE_DCV_SESSION_DELETION_EVENT | .IDEA_SESSION_TERMINATE_EVENT
  | .IDEA_SESSION_RESUME_SESSION_COMMAND_PROGRESS_EVENT => false
  | _ => true

/-- The states that sessions are not expected to leave by an event of the queue alone. -/
structure EntersRoutineStates (G : VirtualDesktopSession → Prop) : Prop where
  resuming : Rules.Enters G .RESUMING
  error : Rules.Enters G .ERROR
  stopping : Rules.Enters G .STOPPING
  stopped : Rules.Enters G .STOPPED

variable {env : Env config} {I : Store → Prop} {G : VirtualDesktopSession → Prop}

theorem handleEvent_keeps (rules : EntryRules env I G) (hG : EntersRoutineStates G)
    {message : QueuedEvent} (h : isRoutine message.eventType = true) :
    Keeps I (handleEvent env message) := by
  unfold handleEvent
  split <;> rename_i hevent <;> rw [hevent] at h
  · cases h
  · exact rules.rebootComplete_keeps hG.resuming
  · cases h
  · cases h
  · exact rules.ec2StateChange_keeps hG.error hG.stopping hG.stopped
  · cases h
  · exact rules.cpuUtilization_keeps hG.stopping
  · exact rules.enableUserdata_keeps hG.error
  · exact rules.disableUserdata_keeps hG.error
  · exact rules.scheduledStop_keeps hG.stopping
  · exact rules.scheduledResume_keeps hG.resuming
  · cases h
  · exact rules.stackUpdated_keeps
  · exact rules.stackValidation_keeps
  all_goals exact rules.housekeep_keeps

def Operation.isRoutine : Operation → Bool
  | .createSession _ | .terminateSessions _ | .arrive _ | .deliver _ => false
  | _ => true

theorem apply_keeps {step : Step config} (rules : EntryRules step.env I G)
    (hG : EntersRoutineStates G) (h : step.operation.isRoutine = true) {store : Store}
    (hs : I store) : I (step.apply store) := by
  obtain ⟨operation, env⟩ := step
  cases operation with
  | createSession _ | terminateSessions _ | arrive _ | deliver _ => cases h
  | stopSessions requests =>
    exact run_keeps (rules.toRules.stopSessions_keeps (fun _ _ _ _ => trivial) hG.stopping) hs
  | resumeSessions requests =>
    exact run_keeps (rules.toRules.resumeSessions_keeps (fun _ _ _ _ => trivial) hG.resuming) hs
  | rebootSessions requests =>
    exact run_keeps (rules.toRules.rebootSessions_keeps (fun _ _ _ _ => trivial) hG.resuming) hs
  | updateSession new =>
    exact run_keeps (Rules.updateSession_keeps (rules.toUpdateRules new) fun _ _ => trivial) hs
  | getSessionConnectionInfo request =>
    exact run_keeps
      (rules.toRules.getSessionConnectionInfo_keeps hG.error fun _ _ => trivial) hs
  | createSoftwareStack owner ideaSessionId softwareStackId =>
    exact run_keeps
      (rules.createSoftwareStackFromSession_keeps owner ideaSessionId softwareStackId) hs

end Idea.VirtualDesktop.Controller

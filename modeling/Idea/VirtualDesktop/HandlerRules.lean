import Idea.VirtualDesktop.SessionRules

/-! # What the handlers keep

A property of the store that only the entries of sessions matter to is kept by each handler once it
is kept when a session that was read is written in one of the states the handler may leave it in.
-/

namespace Idea.VirtualDesktop.Controller

open Stateful (Triple Ends Yields Keeps)

variable {config : Config}

def Call.isEntryWrite : Call → Bool
  | .putSession _ | .updateSession _ | .deleteSession _ => true
  | _ => false

/-- What the other calls leave to the sessions: terminations and messages are only added, and what
is sent is in the queue. -/
structure Store.Extends (s s' : Store) : Prop where
  sessions : s'.sessions = s.sessions
  launched : s'.launched = s.launched
  terminated : s.terminated ⊆ s'.terminated
  queue : s.queue <+: s'.queue
  sent : ∀ event ∈ s'.published, event ∈ s.published ∨ event ∈ s'.queue

theorem send_extends {env : Env config} (event : QueuedEvent) (s : Store) :
    s.Extends (s.send env event) := by
  unfold Store.send
  split
  · exact ⟨rfl, rfl, List.Subset.refl _, List.prefix_rfl, fun _ => .inl⟩
  · refine ⟨rfl, rfl, List.Subset.refl _, List.prefix_append _ _, fun e he => ?_⟩
    exact (List.mem_append.mp he).imp_right (List.mem_append_right _)

theorem after_extends {env : Env config} {call : Call} (h : call.isEntryWrite = false)
    (s : Store) : s.Extends (s.after env call) := by
  cases call with
  | putSession _ | updateSession _ | deleteSession _ => cases h
  | publish event => exact send_extends event s
  | terminateInstances instanceIds =>
    exact ⟨rfl, rfl, List.subset_append_left _ _, List.prefix_rfl, fun _ => .inl⟩
  | _ => exact ⟨rfl, rfl, List.Subset.refl _, List.prefix_rfl, fun _ => .inl⟩

/-- The rules for a property that only the entries of sessions matter to, and of a session only its
key, its instance and its state. -/
structure EntryRules (env : Env config) (I : Store → Prop) (G : VirtualDesktopSession → Prop) :
    Prop where
  other : ∀ {call s}, call.isEntryWrite = false → I s → I (s.after env call)
  read : ∀ {key s row}, I s → s.sessions.get? key = some row → G (SessionDB.readEntry key row)
  same : ∀ {a b : VirtualDesktopSession}, G a → b.key = a.key → b.instanceId = a.instanceId →
    b.state = a.state → G b
  update : ∀ {session s}, G session → I s → I (s.after env (.updateSession session))

namespace EntryRules

open Rules (Enters UpdateRules CreationRules)

variable {env : Env config} {I : Store → Prop} {G : VirtualDesktopSession → Prop}
  (rules : EntryRules env I G)
include rules

theorem and {J : Store → Prop} {H : VirtualDesktopSession → Prop} (rules' : EntryRules env J H) :
    EntryRules env (fun s => I s ∧ J s) fun session => G session ∧ H session where
  other hcall h := ⟨rules.other hcall h.1, rules'.other hcall h.2⟩
  read h hrow := ⟨rules.read h.1 hrow, rules'.read h.2 hrow⟩
  same hG hkey hi hstate := ⟨rules.same hG.1 hkey hi hstate, rules'.same hG.2 hkey hi hstate⟩
  update hG h := ⟨rules.update hG.1 h.1, rules'.update hG.2 h.2⟩

theorem toRules : Rules env I (fun _ => True) G where
  quiet {call s} h := rules.other (by cases call <;> first | rfl | cases h)
  read _ := rules.read
  written hG := rules.same hG rfl (instanceId_readSession _) rfl
  force hG := rules.same hG rfl rfl rfl
  update := rules.update
  server _ _ _ _ hs := ⟨fun _ => rules.other rfl hs, rules.other rfl hs⟩
  deleteSchedule _ _ := rules.other rfl
  deletePermission _ _ := rules.other rfl

theorem toUpdateRules (new : SessionUpdate) : UpdateRules env I (fun _ => True) G new where
  toRules := rules.toRules
  rename hG := rules.same hG rfl rfl rfl
  setInstanceType {session server instanceType} hG hserver := by
    refine rules.same hG rfl ?_ rfl
    simp [VirtualDesktopSession.instanceId, hserver]
  reschedule hG _ _ := rules.same hG rfl rfl rfl
  changeInstanceType _ _ := rules.other rfl
  putSchedule _ _ := rules.other rfl

theorem writable (instanceId : Option String) : Writable env I instanceId :=
  fun _ _ _ hs => ⟨fun _ => rules.other rfl hs, rules.other rfl hs⟩

theorem perform_keeps {call : Call} (h : call.isEntryWrite = false) :
    Keeps I (perform env call) :=
  Rules.perform_keeps fun _ => rules.other h

variable {session : VirtualDesktopSession}

theorem update_yields (hG : G session) : Yields I (SessionDB.update env session) G :=
  rules.toRules.updateSession_yields hG

variable {message : QueuedEvent}

omit rules in
theorem fromController_keeps {handler : Action Unit} (h : Keeps I handler) :
    Keeps I (fromController config message handler) :=
  .ite (fun _ => h) fun _ => Yields.raise

theorem messageSession_yields (message : QueuedEvent) :
    Yields I (messageSession env message) fun r => ∀ session, r = some session → G session :=
  rules.toRules.getFromDb_yields fun _ _ => trivial

theorem withSession_keeps {handler : VirtualDesktopSession → Action Unit}
    (h : ∀ session, G session → Keeps I (handler session)) :
    Keeps I (withSession env message handler) := by
  refine (rules.messageSession_yields message).bind fun found hfound => ?_
  cases found with
  | none => exact .pure trivial
  | some session => exact h session (hfound session rfl)

theorem withRequiredSession_keeps {handler : VirtualDesktopSession → Action Unit}
    (h : ∀ session, G session → Keeps I (handler session)) :
    Keeps I (withRequiredSession env message handler) := by
  refine (rules.messageSession_yields message).bind fun found hfound => ?_
  cases found with
  | none => exact Yields.raise
  | some session => exact h session (hfound session rfl)

theorem enter_yields {state : VirtualDesktopSessionState} (hstate : Enters G state) (hG : G session) :
    Yields I (enter env state session) G :=
  .ite (fun _ => .pure hG) fun _ => rules.update_yields (hstate session hG)

theorem tagSession_keeps (session : VirtualDesktopSession) : Keeps I (tagSession env session) := by
  unfold tagSession
  split
  · exact Yields.raise
  · exact rules.perform_keeps rfl

theorem markError_keeps (hstate : Enters G .ERROR) (hG : G session) :
    Keeps I (markError env session) :=
  rules.toRules.markError_keeps hstate hG

theorem writeServer_keeps (session : VirtualDesktopSession) :
    Keeps I (writeServer env session) := by
  unfold writeServer
  split
  · exact Yields.raise
  · exact rules.toRules.writeServerEntry_keeps (rules.writable _)

theorem storeSession_keeps (hG : G session) : Keeps I (storeSession env session) :=
  (rules.writeServer_keeps session).bind fun _ _ =>
    (rules.update_yields hG).bind fun _ _ => .pure trivial

theorem createSoftwareStackFromSession_keeps (owner ideaSessionId softwareStackId : Option String) :
    Keeps I (createSoftwareStackFromSession env owner ideaSessionId softwareStackId) := by
  refine (rules.toRules.getFromDb_yields fun _ _ => trivial).bind fun found hfound => ?_
  cases found with
  | none => exact Yields.raise
  | some session =>
    have himage : Keeps I (createImage env session) :=
      .ite (fun _ => .pure trivial) fun _ => (rules.perform_keeps rfl).bind fun _ _ => .pure trivial
    have hannounce : Keeps I (announceSoftwareStack env session softwareStackId) :=
      .ite (fun _ => rules.perform_keeps rfl) fun _ => rules.perform_keeps rfl
    refine himage.bind fun hasImage _ => .ite (fun _ => .pure trivial) fun _ => ?_
    refine (rules.perform_keeps rfl).bind fun _ _ => hannounce.bind fun _ _ => ?_
    exact (rules.storeSession_keeps (hfound session rfl)).bind fun _ _ => .pure trivial

theorem onAccepted_yields (hstate : Enters G .INITIALIZING) (hG : G session)
    (dcvSessionId : Option String) (counter : ℤ) :
    Yields I (DCVHostReady.onAccepted env session dcvSessionId counter) G := by
  have hwrite : G { session with state := .INITIALIZING, dcvSessionId := dcvSessionId } :=
    rules.same (hstate session hG) rfl rfl rfl
  refine (rules.update_yields hwrite).bind fun session hG => ?_
  refine (rules.tagSession_keeps session).bind fun _ _ => ?_
  refine (rules.perform_keeps rfl).bind fun _ _ => ?_
  refine Ends.bind (p := fun _ => True) ?_ fun _ _ => .pure hG
  exact .ite (fun _ => .pure trivial) fun _ => rules.perform_keeps rfl

theorem onRefused_yields (hcreating : Enters G .CREATING) (herror : Enters G .ERROR)
    (hG : G session) (counter : ℤ) : Yields I (DCVHostReady.onRefused env session counter) G := by
  refine .ite (fun _ => ?_) fun _ => ?_
  · exact (rules.perform_keeps rfl).bind fun _ _ => rules.enter_yields hcreating hG
  · refine (rules.perform_keeps rfl).bind fun _ _ => rules.update_yields ?_
    exact rules.same (herror session hG) rfl rfl rfl

theorem hostReady_keeps (hcreating : Enters G .CREATING) (hinitializing : Enters G .INITIALIZING)
    (herror : Enters G .ERROR) : Keeps I (DCVHostReady.handleEvent env message) := by
  refine .ite (fun _ => Yields.raise) fun _ => rules.withSession_keeps fun session hG => ?_
  split
  · exact Yields.raise
  refine .ite (fun _ => Yields.raise) fun _ => .ite (fun _ => ?_) fun _ => .pure trivial
  have hleave : Yields I (DCVHostReady.leaveResuming env session) G :=
    .ite (fun _ => rules.update_yields (hcreating session hG)) fun _ => .pure hG
  refine hleave.bind fun session hG => Ends.bind (p := G) ?_ fun _ _ =>
    .ite (fun _ => Yields.raise) fun _ => .pure trivial
  refine (rules.perform_keeps rfl).bind fun _ _ => ?_
  refine (rules.toRules.getCounter_keeps _).bind fun counter _ => ?_
  exact .ite (fun _ => rules.onAccepted_yields hinitializing hG _ counter)
    fun _ => rules.onRefused_yields hcreating herror hG counter

theorem resetCounter_keeps (session : VirtualDesktopSession)
    (counterType : VirtualDesktopSessionCounterType) :
    Keeps I (DCVHostRebootComplete.resetCounter env session counterType) :=
  (rules.toRules.getCounter_keeps _).bind fun _ _ => rules.perform_keeps rfl

theorem isStable_keeps (session : VirtualDesktopSession) :
    Keeps I (DCVHostRebootComplete.isStable env session) := by
  refine .ite (fun _ => .pure trivial) fun _ => (rules.perform_keeps rfl).bind fun _ _ => ?_
  refine .ite (fun _ => .pure trivial) fun _ => .ite (fun _ => ?_) fun _ => .pure trivial
  refine (rules.toRules.getCounter_keeps _).bind fun counter _ => .ite (fun _ => ?_) fun _ => ?_
  · exact (rules.perform_keeps rfl).bind fun _ _ => Yields.raise
  · exact (rules.perform_keeps rfl).bind fun _ _ => .pure trivial

theorem resume_keeps (session : VirtualDesktopSession) :
    Keeps I (DCVHostRebootComplete.resume env session) := by
  unfold DCVHostRebootComplete.resume
  split
  · exact Yields.raise
  · refine (rules.toRules.performOrAnswer_keeps rfl).bind fun answer _ => ?_
    cases answer with
    | some text => exact Yields.raise
    | none => exact rules.toRules.updateServerState_keeps (rules.writable _)

theorem rebootComplete_keeps (hresuming : Enters G .RESUMING) :
    Keeps I (DCVHostRebootComplete.handleEvent env message) := by
  refine .ite (fun _ => Yields.raise) fun _ => rules.withSession_keeps fun session hG => ?_
  refine .ite (fun _ => ?_) fun _ => .pure trivial
  refine (rules.resetCounter_keeps _ _).bind fun _ _ => ?_
  refine (rules.resetCounter_keeps _ _).bind fun _ _ => ?_
  have hleave : Yields I (DCVHostRebootComplete.leaveError env session) G :=
    .ite (fun _ => rules.update_yields (hresuming session hG)) fun _ => .pure hG
  refine hleave.bind fun session _ => (rules.isStable_keeps session).bind fun stable _ => ?_
  exact .ite (fun _ => .pure trivial) fun _ => rules.resume_keeps session

theorem validateCreation_keeps (hready : Enters G .READY) (hinitializing : Enters G .INITIALIZING)
    (herror : Enters G .ERROR) : Keeps I (ValidateDCVSessionCreation.handleEvent env message) := by
  refine fromController_keeps (rules.withSession_keeps fun session hG => ?_)
  refine (rules.toRules.getCounter_keeps _).bind fun counter _ => ?_
  refine .ite (fun _ => rules.perform_keeps rfl) fun _ => ?_
  refine (rules.perform_keeps rfl).bind fun _ _ => .ite (fun _ => ?_) fun _ => ?_
  · refine (rules.update_yields (hready session hG)).bind fun _ _ => ?_
    exact rules.perform_keeps rfl
  refine .ite (fun _ => rules.markError_keeps herror hG) fun _ => ?_
  refine .ite (fun _ => .pure trivial) fun _ => ?_
  refine (rules.enter_yields hinitializing hG).bind fun _ _ => ?_
  exact (rules.perform_keeps rfl).bind fun _ _ => Yields.raise

theorem stopInstance_yields (session : VirtualDesktopSession) :
    Yields I (ValidateDCVSessionDeletion.stopInstance env session) fun state =>
      state = .STOPPED ∨ state = .STOPPING := by
  have hservers : ∀ toStop toHibernate,
      Keeps I (stopOrHibernateServers env toStop toHibernate) := fun toStop toHibernate =>
    rules.toRules.stopOrHibernateServers_keeps (fun i _ => rules.writable i)
      fun i _ => rules.writable i
  refine .ite (fun _ => (hservers _ _).bind fun _ _ => .pure (.inl rfl)) fun _ => ?_
  refine (hservers _ _).bind fun _ _ => ?_
  have hconfirm : Keeps I (ValidateDCVSessionDeletion.confirmStopped env session.instanceId) := by
    refine (rules.perform_keeps rfl).bind fun _ _ => .ite (fun _ => .pure trivial) fun _ => ?_
    refine (rules.toRules.getServer_yields _).bind fun server _ => ?_
    cases server with
    | none => exact .pure trivial
    | some server =>
      exact (rules.toRules.writeServerEntry_keeps (rules.writable _)).bind fun _ _ => .pure trivial
  refine hconfirm.attempt.bind fun stopped _ => ?_
  split
  · exact .pure (.inl rfl)
  · exact .pure (.inr rfl)

theorem continueStopSession_keeps (hstopped : Enters G .STOPPED) (hstopping : Enters G .STOPPING)
    (hG : G session) : Keeps I (ValidateDCVSessionDeletion.continueStopSession env session) := by
  refine (rules.stopInstance_yields session).bind fun state hstate => ?_
  refine (rules.update_yields ?_).bind fun _ _ => .pure trivial
  rcases hstate with rfl | rfl
  · exact hstopped session hG
  · exact hstopping session hG

theorem deleteSession_keeps (hG : G session)
    (hdelete : Keeps I (perform env (.deleteSession session.key))) :
    Keeps I (deleteSession env session) := by
  refine (rules.toRules.deleteSchedulesForSession_keeps hG).bind fun _ _ => ?_
  refine (rules.toRules.deletePermissionsForSession_keeps hG).bind fun _ _ => ?_
  exact (Rules.deleteEntry_keeps hdelete (rules.perform_keeps rfl)).bind fun _ _ => .pure trivial

theorem terminateServer_keeps (server : Option VirtualDesktopServer) :
    Keeps I (match server with
      | none => pure ()
      | some server => do
        let _ ← terminateDcvHosts env [server.instanceId]
        pure () : Action Unit) := by
  split
  · exact .pure trivial
  · exact (rules.toRules.terminateDcvHosts_keeps fun i _ => rules.writable i).bind
      fun _ _ => .pure trivial

theorem deleteAndTerminate_keeps (hG : G session)
    (hdelete : Keeps I (perform env (.deleteSession session.key))) :
    Keeps I (ValidateDCVSessionDeletion.deleteAndTerminate env session) := by
  refine (rules.toRules.deleteSchedulesForSession_keeps hG).bind fun _ _ => ?_
  refine (rules.toRules.deletePermissionsForSession_keeps hG).bind fun _ _ => ?_
  exact (Rules.deleteEntry_keeps hdelete (rules.perform_keeps rfl)).bind fun _ _ =>
    rules.terminateServer_keeps session.server

theorem onStopping_keeps (herror : Enters G .ERROR) (hstopping : Enters G .STOPPING)
    (hstopped : Enters G .STOPPED) (hG : G session) :
    Keeps I (EC2StateChange.onStopping env message session) := by
  have hexpected : Keeps I (do
      let server ← ServerDB.get env (getValueAsString message.instanceId)
      match server with
      | none => .raise .attributeError
      | some server =>
        if getValueAsString message.status = some "stopping" then do
          let _ ← SessionDB.update env { session with state := .STOPPING }
          pure ()
        else do
          ServerDB.update env { server with state := some "STOPPED" }
          let _ ← SessionDB.update env { session with state := .STOPPED }
          pure () : Action Unit) := by
    refine (rules.toRules.getServer_yields _).bind fun server _ => ?_
    cases server with
    | none => exact Yields.raise
    | some server =>
      refine .ite (fun _ => ?_) fun _ => ?_
      · exact (rules.update_yields (hstopping session hG)).bind fun _ _ => .pure trivial
      · refine (rules.toRules.writeServerEntry_keeps (rules.writable _)).bind fun _ _ => ?_
        exact (rules.update_yields (hstopped session hG)).bind fun _ _ => .pure trivial
  unfold EC2StateChange.onStopping
  cases session.state with
  | STOPPED | DELETING | DELETED | ERROR => exact .pure trivial
  | PROVISIONING | CREATING | INITIALIZING | RESUMING => exact rules.markError_keeps herror hG
  | READY | STOPPING => exact hexpected

theorem ec2StateChange_keeps (herror : Enters G .ERROR) (hstopping : Enters G .STOPPING)
    (hstopped : Enters G .STOPPED) : Keeps I (EC2StateChange.handleEvent env message) := by
  refine fromController_keeps (.ite (fun _ => .pure trivial) fun _ => ?_)
  have hrunning : Keeps I (withSession env message (EC2StateChange.onRunning env message)) := by
    refine rules.withSession_keeps fun session _ => Ends.bind (p := fun _ => True) ?_ fun _ _ => ?_
    · exact .ite (fun _ => rules.perform_keeps rfl) fun _ => .pure trivial
    · exact rules.toRules.updateServerState_keeps (rules.writable _)
  have hstop : Keeps I (withSession env message (EC2StateChange.onStopping env message)) :=
    rules.withSession_keeps fun session hG =>
      rules.onStopping_keeps herror hstopping hstopped hG
  split
  · exact hstop
  · exact hstop
  · exact hrunning
  · exact .pure trivial

theorem resumeProgress_keeps (hinitializing : Enters G .INITIALIZING) (herror : Enters G .ERROR) :
    Keeps I (CommandProgress.handleResume env message) := by
  refine fromController_keeps (.ite (fun _ => ?_) fun _ => .pure trivial)
  refine rules.withRequiredSession_keeps fun session hG => .ite (fun _ => ?_) fun _ => ?_
  · refine (rules.perform_keeps rfl).bind fun _ _ => (rules.perform_keeps rfl).bind fun _ _ => ?_
    exact (rules.update_yields (hinitializing session hG)).bind fun _ _ => .pure trivial
  · exact rules.markError_keeps herror hG

theorem enableUserdata_keeps (herror : Enters G .ERROR) :
    Keeps I (CommandProgress.handleEnableUserdata env message) := by
  refine fromController_keeps (.ite (fun _ => ?_) fun _ => .pure trivial)
  refine rules.withRequiredSession_keeps fun session hG => .ite (fun _ => ?_) fun _ => ?_
  · refine (rules.perform_keeps rfl).bind fun _ _ => Ends.bind (p := fun _ => True) ?_ fun _ _ =>
      rules.storeSession_keeps hG
    refine (rules.perform_keeps rfl).bind fun _ _ => (rules.perform_keeps rfl).bind fun _ _ => ?_
    exact (rules.perform_keeps rfl).bind fun _ _ => rules.perform_keeps rfl
  · exact rules.storeSession_keeps (herror session hG)

theorem disableUserdata_keeps (herror : Enters G .ERROR) :
    Keeps I (CommandProgress.handleDisableUserdata env message) := by
  refine fromController_keeps (.ite (fun _ => ?_) fun _ => .pure trivial)
  refine rules.withRequiredSession_keeps fun session hG => .ite (fun _ => ?_) fun _ => ?_
  · exact (rules.perform_keeps rfl).bind fun _ _ => rules.storeSession_keeps hG
  · exact rules.storeSession_keeps (herror session hG)

theorem stopOrWait_keeps (hstopping : Enters G .STOPPING) :
    Keeps I (CommandProgress.stopOrWait env session) := by
  refine (rules.toRules.stopSessions_keeps (fun _ _ _ _ => trivial) hstopping).bind fun answer _ => ?_
  split
  · exact .pure trivial
  · exact Yields.raise

theorem cpuUtilization_keeps (hstopping : Enters G .STOPPING) :
    Keeps I (CommandProgress.handleCpuUtilization env message) := by
  refine fromController_keeps (.ite (fun _ => ?_) fun _ => .pure trivial)
  refine (rules.messageSession_yields message).bind fun found _ => ?_
  refine .ite (fun _ => ?_) fun _ => .pure trivial
  refine (rules.perform_keeps rfl).bind fun _ _ => .ite (fun _ => ?_) fun _ => .pure trivial
  cases found with
  | none => exact Yields.raise
  | some session => exact rules.stopOrWait_keeps hstopping

theorem scheduledStop_keeps (hstopping : Enters G .STOPPING) :
    Keeps I (SessionState.handleScheduledStop env message) := by
  refine fromController_keeps (rules.withSession_keeps fun session _ => ?_)
  refine .ite (fun _ => .pure trivial) fun _ => ?_
  exact .ite (fun _ => rules.perform_keeps rfl) fun _ => rules.stopOrWait_keeps hstopping

theorem scheduledResume_keeps (hresuming : Enters G .RESUMING) :
    Keeps I (SessionState.handleScheduledResume env message) := by
  refine fromController_keeps (rules.withSession_keeps fun session _ => ?_)
  refine .ite (fun _ => .pure trivial) fun _ => ?_
  refine (rules.toRules.resumeSessions_keeps (fun _ _ _ _ => trivial) hresuming).bind fun answer _ => ?_
  split
  · exact .pure trivial
  · exact Yields.raise

theorem stackUpdated_keeps : Keeps I (SoftwareStackEvents.handleUpdated env message) :=
  fromController_keeps (rules.withSession_keeps fun _ hG =>
    (rules.update_yields hG).bind fun _ _ => .pure trivial)

theorem stackValidation_keeps : Keeps I (SoftwareStackEvents.handleValidation env message) := by
  refine fromController_keeps (.ite (fun _ => .pure trivial) fun _ => ?_)
  refine (rules.perform_keeps rfl).bind fun _ _ => ?_
  split
  · exact .pure trivial
  refine (rules.perform_keeps rfl).bind fun _ _ => .ite (fun _ => Yields.raise) fun _ => ?_
  refine (rules.perform_keeps rfl).bind fun _ _ => .ite (fun _ => rules.perform_keeps rfl) fun _ => ?_
  refine rules.withRequiredSession_keeps fun session hG => ?_
  exact (rules.update_yields hG).bind fun _ _ => rules.writeServer_keeps session

theorem housekeep_keeps : Keeps I (housekeep env message) := by
  refine .ite (fun _ => ?_) fun _ => Yields.raise
  refine .forEach fun call hcall => rules.perform_keeps ?_
  have hcall := (List.mem_filter.mp hcall).2
  cases call <;> first | rfl | cases hcall

end EntryRules

end Idea.VirtualDesktop.Controller

import Idea.VirtualDesktop.Lifecycle
import Idea.VirtualDesktop.SessionRoundTrip

/-! # The states of server rows

The row of a server has a state, which the handlers of instance events keep. The state is not read
back from a row, so a server that was read and is written again has none, unless it is given one.
-/

namespace Idea.VirtualDesktop.Controller

open Stateful (Triple Ends Yields Keeps)

variable {config : Config}

inductive ServerOperation where
  | provision (server : VirtualDesktopServer) (key : SessionKey)
  | ec2Event (message : QueuedEvent)
  | stop (toStop toHibernate : List (Option String))
  | updateSession (new : SessionUpdate)
  /-- The session is locked while an image is made of its host. -/
  | lock (owner ideaSessionId softwareStackId : Option String)
  | unlock (message : QueuedEvent)
  | unlockWindows (message : QueuedEvent)
  /-- Whatever else happens, to sessions for instance. -/
  | elsewhere (change : Store → Store)

structure ServerStep (config : Config) where
  operation : ServerOperation
  env : Env config

def ServerStep.apply (store : Store) (step : ServerStep config) : Store :=
  match step.operation with
  | .provision server key => ((provisionHostForSession step.env server key).run store).2
  | .ec2Event message => ((EC2StateChange.handleEvent step.env message).run store).2
  | .stop toStop toHibernate =>
    ((stopOrHibernateServers step.env toStop toHibernate).run store).2
  | .updateSession new => ((Controller.updateSession step.env new).run store).2
  | .lock owner ideaSessionId softwareStackId =>
    ((createSoftwareStackFromSession step.env owner ideaSessionId softwareStackId).run store).2
  | .unlock message => ((SoftwareStackEvents.handleValidation step.env message).run store).2
  | .unlockWindows message => ((CommandProgress.handleDisableUserdata step.env message).run store).2
  | .elsewhere change => { change store with servers := store.servers }

def Store.Stated (s : Store) : Prop :=
  ∀ id row, s.servers.get? id = some row → row.state.isSome = true

def awaitsStop (state : VirtualDesktopSessionState) : Bool := state = .READY || state = .STOPPING

/-- The state that corresponds to the event of an instance, unless the handler ignores the event or
takes it for a failure of the session. -/
def recordedState (message : QueuedEvent) (session : VirtualDesktopSession) : Option String :=
  if isEmptyString message.instanceId then none
  else match getValueAsString message.status with
  | some "running" => some "CREATED"
  | some "stopping" => if awaitsStop session.state then some "STOPPING" else none
  | some "stopped" => if awaitsStop session.state then some "STOPPED" else none
  | _ => none

def Store.HasState (s : Store) (message : QueuedEvent) (state : String) : Prop :=
  ∃ id row, getValueAsString message.instanceId = some id ∧ s.servers.get? id = some row ∧
    row.state = some state

/-- After an event that is handled the row has the state of the event. -/
def Records (e : Edge Store (ServerStep config)) : Prop :=
  ∀ message, e.label.operation = .ec2Event message →
    ((EC2StateChange.handleEvent e.label.env message).run e.pre).1 = .ok () →
    ∀ session state, e.pre.named message = some session →
      recordedState message session = some state → e.post.HasState message state

/-- The server of the session is one that the table takes. -/
def IsWritten (env : Env config) (session : VirtualDesktopSession) : Prop :=
  ∃ server id, session.server = some server ∧ server.instanceId = some id ∧
    env.raises (.updateServer id server) = none

/-- The instance of the session gets another type. -/
def ChangesType (env : Env config) (s : Store) (new : SessionUpdate) : Prop :=
  ∃ session server held id row, s.find new.owner new.ideaSessionId = some session ∧
    session.hibernationEnabled ≠ some true ∧ new.server = some server ∧
    isEmptyString server.instanceType = false ∧ server.instanceId = some id ∧
    s.servers.get? id = some row ∧ row.instanceType ≠ server.instanceType ∧
    env.raises (.changeInstanceType id (server.instanceType.getD "")) = none ∧
    session.server = some held ∧
    IsWritten env
      { session with server := some { held with instanceType := server.instanceType } }

def announcement (env : Env config) (session : VirtualDesktopSession)
    (softwareStackId : Option String) : Call :=
  if env.isWindows then .submitSsmCommand session.key
  else .publish (validateSoftwareStackEvent env session softwareStackId)

/-- An image is made of the host of the session. -/
def Locks (env : Env config) (s : Store) (owner ideaSessionId softwareStackId : Option String) :
    Prop :=
  ∃ session, s.find owner ideaSessionId = some session ∧
    (env.isWindows = true ∨
      env.raises (.createImage session.instanceId) = none ∧ isEmptyString env.imageId = false) ∧
    env.raises .updateSoftwareStack = none ∧
    env.raises (announcement env session softwareStackId) = none ∧ IsWritten env session

def Unlocks (env : Env config) (s : Store) (message : QueuedEvent) : Prop :=
  ∃ session stack, s.named message = some session ∧
    isEmptyString message.softwareStackId = false ∧ env.softwareStack = some stack ∧
    env.imageStatus = some "available" ∧ stack.isWindows = false ∧
    env.raises (.describeImage stack.amiId) = none ∧ env.raises .updateSoftwareStack = none ∧
    env.raises (.updateSession session) = none ∧ IsWritten env session

/-- The command that comes after the image of a Windows host is done. -/
def UnlocksWindows (env : Env config) (s : Store) (message : QueuedEvent) : Prop :=
  ∃ session, s.named message = some session ∧ CommandProgress.isFinal message = true ∧
    IsWritten env session

/-- An instance that is reported to be stopping was asked to stop. -/
def StopAnnounced (s : Store) (message : QueuedEvent) : Prop :=
  getValueAsString message.status = some "stopping" → ∀ session, s.named message = some session →
    awaitsStop session.state = true → ∀ id row, getValueAsString message.instanceId = some id →
      s.servers.get? id = some row → row.state = some "STOPPING"

/-- No server that was read is written without a state, and a stopping instance was asked to
stop. -/
def ServerStep.KeepsStates (s : Store) (step : ServerStep config) : Prop :=
  match step.operation with
  | .ec2Event message => StopAnnounced s message
  | .updateSession new => ¬ ChangesType step.env s new
  | .lock owner ideaSessionId softwareStackId =>
    ¬ Locks step.env s owner ideaSessionId softwareStackId
  | .unlock message => ¬ Unlocks step.env s message
  | .unlockWindows message => ¬ UnlocksWindows step.env s message
  | _ => True

def Call.writesServer : Call → Bool
  | .putServer _ _ | .updateServer _ _ | .deleteServer _ => true
  | _ => false

def SameServers (servers : Dict String VirtualDesktopServer) (s : Store) : Prop :=
  s.servers = servers

variable {session : VirtualDesktopSession}

section Same

variable {env : Env config} {servers : Dict String VirtualDesktopServer} {α : Type}

theorem servers_after {call : Call} (h : call.writesServer = false) (s : Store) :
    (s.after env call).servers = s.servers := by
  cases call with
  | putServer _ _ | updateServer _ _ | deleteServer _ => cases h
  | publish event =>
    show (s.send env event).servers = s.servers
    unfold Store.send
    split <;> rfl
  | _ => rfl

theorem perform_yields {call : Call} (h : call.writesServer = false) :
    Yields (SameServers servers) (perform env call) fun _ => env.raises call = none :=
  perform_triple (fun s hs hraises => ⟨(servers_after h s).trans hs, hraises⟩) fun _ _ hs _ => hs

theorem perform_same {call : Call} (h : call.writesServer = false) :
    Keeps (SameServers servers) (perform env call) :=
  (perform_yields h).keeps

theorem updateEntry_yields (session : VirtualDesktopSession) :
    Yields (SameServers servers) (SessionDB.update env session) fun _ =>
      env.raises (.updateSession session) = none := by
  refine Ends.get_bind fun _ => (perform_yields rfl).bind fun _ hraises => ?_
  refine Ends.ite (fun _ => Yields.raise) fun _ => ?_
  exact Ends.bind (perform_same rfl) fun _ _ => .pure hraises

theorem updateEntry_same (session : VirtualDesktopSession) :
    Keeps (SameServers servers) (SessionDB.update env session) :=
  (updateEntry_yields session).keeps

theorem tagSession_same (session : VirtualDesktopSession) :
    Keeps (SameServers servers) (tagSession env session) := by
  unfold tagSession
  split
  · exact Yields.raise
  · exact perform_same rfl

theorem getServer_reads (instanceId : Option String) :
    Yields (SameServers servers) (ServerDB.get env instanceId) fun r =>
      ∃ id, instanceId = some id ∧ r = (servers.get? id).map (ServerDB.readEntry id) := by
  unfold ServerDB.get
  split
  · exact Yields.raise
  · next id =>
    refine .ite (fun _ => Yields.raise) fun _ => (perform_same rfl).bind fun _ _ => ?_
    exact Triple.get_bind fun s hs => Triple.pure fun s' hs' =>
      ⟨hs' ▸ hs, id, rfl, by rw [show s.servers = servers from hs]⟩

theorem writeServer_same (h : ¬ IsWritten env session) :
    Keeps (SameServers servers) (writeServer env session) := by
  unfold writeServer
  split
  · exact Yields.raise
  · next server hserver =>
    unfold ServerDB.update
    split
    · exact Yields.raise
    · next id hid =>
      obtain ⟨e, he⟩ := Option.ne_none_iff_exists'.mp fun hraises =>
        h ⟨server, id, hserver, hid, hraises⟩
      refine Ends.bind (p := fun _ => False) ?_ fun _ h => h.elim
      rw [perform, he]
      exact Yields.raise

theorem storeSession_same (h : ¬ IsWritten env session) :
    Keeps (SameServers servers) (storeSession env session) :=
  (writeServer_same h).bind fun _ _ => (updateEntry_same _).bind fun _ _ => .pure trivial

theorem updateSchedules_same (session : VirtualDesktopSession) (new : SessionUpdate) :
    Yields (SameServers servers) (updateSchedules env session new) fun r =>
      ∃ schedule, r = { session with schedule := schedule } := by
  unfold updateSchedules
  split
  · exact .pure ⟨session.schedule, rfl⟩
  · refine (Rules.updateScheduleForSession_ends ?_).bind fun schedule _ => .pure ⟨schedule, rfl⟩
    exact
      { deleteSchedule := fun _ _ => perform_same rfl
        deleteEvent := fun _ _ => perform_same rfl
        putSchedule := fun _ => perform_same rfl
        createEvent := perform_same rfl }

end Same

variable {server : VirtualDesktopServer}

section Operations

variable {env : Env config} {s₀ : Store}

/-- What holds of the state before an operation that only goes on with a session it finds. -/
theorem find_bind_same {α : Type} {owner ideaSessionId : Option String}
    {f : Option VirtualDesktopSession → Action α}
    (h : Keeps (SameServers s₀.servers) (f (s₀.find owner ideaSessionId))) :
    Triple (· = s₀) (SessionDB.getFromDb env owner ideaSessionId >>= f)
      (fun _ => SameServers s₀.servers) fun _ => SameServers s₀.servers := by
  have hfind : Triple (· = s₀) (SessionDB.getFromDb env owner ideaSessionId)
      (fun r s' => s' = s₀ ∧ s₀.find owner ideaSessionId = r)
      fun _ => SameServers s₀.servers :=
    Rules.getFromDb_reads.consequence (fun _ h => h) (fun _ _ h => h)
      fun _ _ h => congrArg Store.servers h
  refine hfind.bind fun found => Triple.of_forall ?_
  rintro _ ⟨rfl, rfl⟩
  exact (h.triple fun _ _ h => h).pre fun _ hs => congrArg Store.servers hs

theorem setInstanceType_same {old : VirtualDesktopSession} {instanceType : Option String} :
    Yields (SameServers s₀.servers) (setInstanceType old instanceType) fun session =>
      ∃ held, old.server = some held ∧
        session = { old with server := some { held with instanceType := instanceType } } := by
  unfold setInstanceType
  split
  · exact Yields.raise
  · exact .pure ⟨_, ‹_›, rfl⟩

/-- What is said of a session whose server was changed holds of one that was left alone. -/
theorem updated_of_unchanged {old : VirtualDesktopSession} {p : VirtualDesktopSession → Prop} :
    ∀ session, (.ok (old, false) : Except String (VirtualDesktopSession × Bool)) =
      .ok (session, true) → p session := by
  rintro _ ⟨⟩

theorem updateInstanceType_same {old found : VirtualDesktopSession} {new : SessionUpdate}
    (hserver : new.server = some server) (hblank : isEmptyString server.instanceType = false)
    (hfound : s₀.find new.owner new.ideaSessionId = some found)
    (hhibernation : found.hibernationEnabled = old.hibernationEnabled)
    (hheld : found.server = old.server) (h : ¬ ChangesType env s₀ new) :
    Yields (SameServers s₀.servers) (updateInstanceType env old new server) fun r =>
      ∀ session, r = .ok (session, true) → ¬ IsWritten env session := by
  refine (getServer_reads _).bind ?_
  rintro _ ⟨id, hid, rfl⟩
  cases hrow : s₀.servers.get? id with
  | none => exact .pure updated_of_unchanged
  | some row =>
    refine .ite (fun _ => .pure updated_of_unchanged) fun htype =>
      .ite (fun _ => .pure fun _ h => nomatch h) fun hallowed => ?_
    have hchange : Yields (SameServers s₀.servers)
        (Controller.changeInstanceType env server.instanceId server.instanceType) fun refusal =>
          refusal = none →
            env.raises (.changeInstanceType id (server.instanceType.getD "")) = none := by
      refine .ite (fun _ => .pure fun h => nomatch h) fun _ => ?_
      have hcall : Yields (SameServers s₀.servers)
          (perform env (.changeInstanceType (server.instanceId.getD "")
            (server.instanceType.getD ""))) fun _ => env.raises (.changeInstanceType
              (server.instanceId.getD "") (server.instanceType.getD "")) = none :=
        perform_yields rfl
      refine hcall.attempt.bind fun r hr => ?_
      cases r with
      | ok _ => exact .pure fun _ => by simpa only [hid, Option.getD_some] using hr _ rfl
      | error e => exact .pure fun h => nomatch h
    refine hchange.bind fun refusal hrefusal => ?_
    cases refusal with
    | some reason => exact .pure fun _ h => nomatch h
    | none =>
      refine setInstanceType_same.bind ?_
      rintro _ ⟨held, hold, rfl⟩
      refine .pure fun session hsession hwritten => ?_
      obtain ⟨rfl, -⟩ := Prod.mk.inj (Except.ok.inj hsession)
      exact h ⟨found, server, held, id, row, hfound, hhibernation ▸ hallowed, hserver, hblank, hid,
        hrow, htype, hrefusal rfl, hheld.trans hold, hwritten⟩

theorem updateSession_same {new : SessionUpdate} (h : ¬ ChangesType env s₀ new) :
    Triple (· = s₀) (updateSession env new) (fun _ => SameServers s₀.servers)
      fun _ => SameServers s₀.servers := by
  refine find_bind_same ?_
  cases hfound : s₀.find new.owner new.ideaSessionId with
  | none => exact .pure trivial
  | some old =>
    have hserver : ∀ session : VirtualDesktopSession,
        old.hibernationEnabled = session.hibernationEnabled → old.server = session.server →
          Yields (SameServers s₀.servers) (updateServer env session new) fun r =>
            ∀ session, r = .ok (session, true) → ¬ IsWritten env session := by
      intro session hhibernation hheld
      unfold updateServer
      split
      · exact .pure updated_of_unchanged
      · next server hserver =>
        refine .ite (fun _ => .pure updated_of_unchanged) fun hblank => ?_
        exact updateInstanceType_same hserver (Bool.eq_false_iff.mpr hblank) hfound hhibernation
          hheld h
    refine (hserver { old with
      name := replaceText old.name new.name
      description := replaceText old.description new.description } rfl rfl).bind
        fun updated hupdated => ?_
    cases updated with
    | error reason => exact .pure trivial
    | ok updated =>
      obtain ⟨session, isServerUpdated⟩ := updated
      refine (updateSchedules_same session new).bind ?_
      rintro _ ⟨schedule, rfl⟩
      have hstore : Keeps (SameServers s₀.servers)
          (storeServer env { session with schedule := schedule } isServerUpdated) := by
        refine .ite (fun hchanged => ?_) fun _ => .pure trivial
        subst hchanged
        exact writeServer_same (hupdated session rfl)
      refine Ends.bind (p := fun _ => True) ?_ fun _ _ => .pure trivial
      refine hstore.bind fun _ _ => .ite (fun _ => ?_) fun _ => .pure trivial
      exact (updateEntry_same _).bind fun session _ => tagSession_same session

theorem lock_same {owner ideaSessionId softwareStackId : Option String}
    (h : ¬ Locks env s₀ owner ideaSessionId softwareStackId) :
    Triple (· = s₀) (createSoftwareStackFromSession env owner ideaSessionId softwareStackId)
      (fun _ => SameServers s₀.servers) fun _ => SameServers s₀.servers := by
  refine find_bind_same ?_
  cases hfound : s₀.find owner ideaSessionId with
  | none => exact Yields.raise
  | some session =>
    have himage : Yields (SameServers s₀.servers) (createImage env session) fun hasImage =>
        hasImage = true → env.isWindows = true ∨
          env.raises (.createImage session.instanceId) = none ∧
            isEmptyString env.imageId = false :=
      .ite (fun hwindows => .pure fun _ => .inl hwindows) fun _ =>
        (perform_yields rfl).bind fun _ hraises =>
          .pure fun hasImage => .inr ⟨hraises, by simpa using hasImage⟩
    have hannounce : Yields (SameServers s₀.servers)
        (announceSoftwareStack env session softwareStackId) fun _ =>
          env.raises (announcement env session softwareStackId) = none := by
      unfold announceSoftwareStack announcement
      split <;> exact perform_yields rfl
    refine himage.bind fun hasImage hmade => .ite (fun _ => .pure trivial) fun hasImage => ?_
    refine (perform_yields rfl).bind fun _ hstack => hannounce.bind fun _ hannounced => ?_
    refine (storeSession_same fun hwritten => h ⟨session, hfound, hmade ?_, hstack, hannounced,
      hwritten⟩).bind fun _ _ => .pure trivial
    simpa using hasImage

end Operations

section Unlocking

variable {env : Env config} {s₀ : Store} {message : QueuedEvent}

theorem perform_unchanged {call : Call} (h : ∀ s : Store, s.after env call = s) :
    Triple (· = s₀) (perform env call) (fun _ s => s = s₀ ∧ env.raises call = none)
      fun _ => SameServers s₀.servers :=
  perform_triple (fun _ hs hraises => ⟨(h _).trans hs, hraises⟩)
    fun _ _ hs _ => congrArg Store.servers hs

theorem withRequiredSession_same {handler : VirtualDesktopSession → Action Unit}
    (h : ∀ session, s₀.named message = some session →
      Keeps (SameServers s₀.servers) (handler session)) :
    Triple (· = s₀) (withRequiredSession env message handler)
      (fun _ => SameServers s₀.servers) fun _ => SameServers s₀.servers := by
  refine find_bind_same ?_
  cases hfound : s₀.find (getValueAsString message.ideaSessionOwner)
      (getValueAsString message.ideaSessionId) with
  | none => exact Yields.raise
  | some session => exact h session hfound

theorem fromController_same {handler : Action Unit}
    (h : Triple (· = s₀) handler (fun _ => SameServers s₀.servers)
      fun _ => SameServers s₀.servers) :
    Triple (· = s₀) (fromController config message handler) (fun _ => SameServers s₀.servers)
      fun _ => SameServers s₀.servers :=
  .ite (fun _ => h) fun _ => .raise fun _ hs => congrArg Store.servers hs

theorem unlock_same (h : ¬ Unlocks env s₀ message) :
    Triple (· = s₀) (SoftwareStackEvents.handleValidation env message)
      (fun _ => SameServers s₀.servers) fun _ => SameServers s₀.servers := by
  have hstay : ∀ s, s = s₀ → SameServers s₀.servers s := fun _ hs => congrArg Store.servers hs
  refine fromController_same (.ite (fun _ => .pure hstay) fun hid => ?_)
  refine (perform_unchanged fun _ => rfl).bind fun _ => ?_
  cases hstack : env.softwareStack with
  | none => exact .pure fun _ hs => hstay _ hs.1
  | some stack =>
    refine ((perform_unchanged fun _ => rfl).pre fun _ hs => hs.1).bind fun _ => ?_
    refine .ite (fun _ => .raise fun _ hs => hstay _ hs.1) fun hstatus => ?_
    refine Triple.of_forall ?_
    rintro s ⟨rfl, himage⟩
    refine (perform_unchanged fun _ => rfl).bind fun _ => .ite (fun _ => ?_) fun hwindows => ?_
    · exact ((perform_same rfl).triple fun _ _ h => h).pre fun _ hs => hstay _ hs.1
    · refine Triple.of_forall ?_
      rintro s ⟨rfl, hupdated⟩
      refine withRequiredSession_same fun session hsession => ?_
      refine (updateEntry_yields session).bind fun _ hentry => writeServer_same fun hwritten => ?_
      exact h ⟨session, stack, hsession, Bool.eq_false_iff.mpr hid, hstack, of_not_not hstatus,
        Bool.eq_false_iff.mpr hwindows, himage, hupdated, hentry, hwritten⟩

theorem unlockWindows_same (h : ¬ UnlocksWindows env s₀ message) :
    Triple (· = s₀) (CommandProgress.handleDisableUserdata env message)
      (fun _ => SameServers s₀.servers) fun _ => SameServers s₀.servers := by
  have hstay : ∀ s, s = s₀ → SameServers s₀.servers s := fun _ hs => congrArg Store.servers hs
  refine fromController_same (.ite (fun hfinal => ?_) fun _ => .pure hstay)
  refine withRequiredSession_same fun session hsession => ?_
  have hwritten : ¬ IsWritten env session := fun hwritten => h ⟨session, hsession, hfinal, hwritten⟩
  refine .ite (fun _ => ?_) fun _ => storeSession_same hwritten
  exact (perform_same rfl).bind fun _ _ => storeSession_same hwritten

end Unlocking

section States

variable {env : Env config} {α : Type}

theorem keeps_of_same {x : Action α} {P : Dict String VirtualDesktopServer → Prop}
    (h : ∀ servers, Keeps (SameServers servers) x) : Keeps (fun s => P s.servers) x := by
  refine Triple.of_forall fun s hs => (h s.servers).consequence ?_ ?_ ?_
  · rintro _ rfl
    exact rfl
  · rintro _ s' ⟨hsame, -⟩
    refine ⟨?_, trivial⟩
    show P s'.servers
    rwa [show s'.servers = s.servers from hsame]
  · intro _ s' hsame
    show P s'.servers
    rwa [show s'.servers = s.servers from hsame]

theorem stated_of_same {x : Action α} (h : ∀ servers, Keeps (SameServers servers) x) :
    Keeps Store.Stated x :=
  keeps_of_same (P := fun servers =>
    ∀ id row, servers.get? id = some row → row.state.isSome = true) h

theorem stated_set {s : Store} (hs : s.Stated) {id : String} (h : server.state.isSome = true) :
    Store.Stated { s with servers := s.servers.set id server } := by
  intro key row hrow
  rw [Dict.get?_set] at hrow
  split at hrow
  · obtain rfl := Option.some.inj hrow
    exact h
  · exact hs key row hrow

theorem updateServer_stated (h : server.state.isSome = true) :
    Keeps Store.Stated (ServerDB.update env server) := by
  unfold ServerDB.update
  split
  · exact Yields.raise
  · next id _ =>
    refine (Rules.perform_keeps fun s hs => stated_set hs h).bind fun _ _ => ?_
    exact stated_of_same fun _ => perform_same rfl

theorem updateServerState_stated {state : String} {instanceId : Option String} :
    Keeps Store.Stated (updateServerState env state instanceId) := by
  have hget : Keeps Store.Stated (ServerDB.get env instanceId) :=
    stated_of_same fun _ => (getServer_reads instanceId).keeps
  refine hget.bind fun server _ => ?_
  cases server with
  | none => exact Yields.raise
  | some server => exact updateServer_stated rfl

theorem provision_stated {key : SessionKey} :
    Keeps Store.Stated (provisionHostForSession env server key) := by
  have hrun : Keeps Store.Stated (runInstances env server.instanceType key) := by
    unfold runInstances
    split
    · exact Yields.raise
    · exact .pure trivial
    · exact Ends.bind (p := fun _ => True) (Ends.modify fun s hs => hs) fun _ _ => .pure trivial
  refine hrun.bind fun launched _ => ?_
  cases launched with
  | none => exact .pure trivial
  | some id =>
    have hcreate : Keeps Store.Stated (ServerDB.create env id server key) := by
      refine (Rules.perform_keeps fun s hs => stated_set hs rfl).bind fun _ _ => ?_
      exact (stated_of_same fun _ => perform_same rfl).bind fun _ _ => .pure trivial
    exact hcreate.bind fun _ _ => .pure trivial

theorem stop_stated {toStop toHibernate : List (Option String)} :
    Keeps Store.Stated (stopOrHibernateServers env toStop toHibernate) := by
  have hhosts : ∀ ids hibernate, Keeps Store.Stated (stopDcvHosts env ids hibernate) :=
    fun ids hibernate => .ite (fun _ => .pure trivial) fun _ =>
      (stated_of_same fun _ => perform_same rfl).bind fun _ _ =>
        .forEach fun _ _ => updateServerState_stated
  exact (hhosts _ _).bind fun _ _ => hhosts _ _

theorem withSession_stated {message : QueuedEvent}
    {handler : VirtualDesktopSession → Action Unit}
    (h : ∀ session, Keeps Store.Stated (handler session)) :
    Keeps Store.Stated (withSession env message handler) := by
  have hread : Keeps Store.Stated (messageSession env message) := by
    refine Triple.of_forall fun s hs => ?_
    refine Rules.getFromDb_reads.consequence (fun _ h => h) ?_ ?_
    · rintro _ _ ⟨rfl, -⟩
      exact ⟨hs, trivial⟩
    · rintro _ _ rfl
      exact hs
  refine hread.bind fun found _ => ?_
  cases found with
  | none => exact .pure trivial
  | some session => exact h session

theorem onStopping_stated {message : QueuedEvent} (session : VirtualDesktopSession) :
    Keeps Store.Stated (EC2StateChange.onStopping env message session) := by
  have hupdate : ∀ session, Keeps Store.Stated (do
      let _ ← SessionDB.update env session
      pure () : Action Unit) := fun session =>
    (stated_of_same fun _ => updateEntry_same session).bind fun _ _ => .pure trivial
  unfold EC2StateChange.onStopping
  split
  all_goals first
    | exact .pure trivial
    | exact hupdate _
    | skip
  all_goals
    refine Ends.bind (p := fun _ => True) (stated_of_same fun _ => (getServer_reads _).keeps)
      fun server _ => ?_
    cases server with
    | none => exact Yields.raise
    | some server =>
      refine .ite (fun _ => hupdate _) fun _ => ?_
      exact Ends.bind (updateServer_stated rfl) fun _ _ => hupdate _

theorem ec2Event_stated {message : QueuedEvent} :
    Keeps Store.Stated (EC2StateChange.handleEvent env message) := by
  refine .ite (fun _ => .ite (fun _ => .pure trivial) fun _ => ?_) fun _ => Yields.raise
  have hstop : Keeps Store.Stated (withSession env message
      (EC2StateChange.onStopping env message)) := withSession_stated onStopping_stated
  split
  · exact hstop
  · exact hstop
  · refine withSession_stated fun session => Ends.bind (p := fun _ => True) ?_ fun _ _ =>
      updateServerState_stated
    exact .ite (fun _ => stated_of_same fun _ => perform_same rfl) fun _ => .pure trivial
  · exact .pure trivial

end States

section Events

variable {env : Env config} {s₀ : Store} {message : QueuedEvent} {state : String}

theorem hasState_of_same {α : Type} {x : Action α}
    (h : ∀ servers, Keeps (SameServers servers) x) : Keeps (·.HasState message state) x :=
  keeps_of_same (P := fun servers => ∃ id row, getValueAsString message.instanceId = some id ∧
    servers.get? id = some row ∧ row.state = some state) h

theorem updateServer_hasState (hid : server.instanceId = getValueAsString message.instanceId)
    (hstate : server.state = some state) :
    Triple (fun _ => True) (ServerDB.update env server) (fun _ s => s.HasState message state)
      fun _ _ => True := by
  unfold ServerDB.update
  split
  · exact .raise fun _ _ => trivial
  · next id hserver =>
    have hwrite : Triple (fun _ => True) (perform env (.updateServer id server))
        (fun _ s => s.HasState message state) fun _ _ => True := by
      refine perform_triple (fun s _ _ => ⟨id, server, hid ▸ hserver, ?_, hstate⟩)
        fun _ _ _ _ => trivial
      exact (Dict.get?_set _ _ _ _).trans (if_pos rfl)
    refine hwrite.bind fun _ => ?_
    exact (hasState_of_same fun _ => perform_same rfl).triple fun _ _ _ => trivial

theorem updateServerState_hasState :
    Triple (fun _ => True)
      (updateServerState env state (getValueAsString message.instanceId))
      (fun _ s => s.HasState message state) fun _ _ => True := by
  refine Triple.of_forall fun s _ => ?_
  have hread : Triple (· = s) (ServerDB.get env (getValueAsString message.instanceId))
      (fun r _ => ∃ id, getValueAsString message.instanceId = some id ∧
        r = (s.servers.get? id).map (ServerDB.readEntry id)) fun _ _ => True :=
    (getServer_reads _).consequence (fun _ hs => congrArg Store.servers hs) (fun _ _ h => h.2)
      fun _ _ _ => trivial
  refine hread.bind fun server => Triple.of_forall ?_
  rintro _ ⟨id, hid, rfl⟩
  cases s.servers.get? id with
  | none => exact .raise fun _ _ => trivial
  | some row => exact (updateServer_hasState hid.symm rfl).pre fun _ _ => trivial

theorem triple_trivial {α : Type} {P : Store → Prop} {x : Action α} :
    Triple P x (fun _ _ => True) fun _ _ => True :=
  fun _ _ _ _ _ => ⟨fun _ _ => trivial, fun _ _ => trivial⟩

abbrev RecordedFor (message : QueuedEvent) (session : VirtualDesktopSession) (s : Store) : Prop :=
  ∀ state, recordedState message session = some state → s.HasState message state

theorem recorded_of_none {x : Action Unit} (h : recordedState message session = none) :
    Triple (· = s₀) x (fun _ => RecordedFor message session) fun _ _ => True :=
  triple_trivial.post fun _ _ _ _ hstate => nomatch h.symm.trans hstate

theorem onStopping_records (hblank : ¬ isEmptyString message.instanceId = true)
    (hstatus : getValueAsString message.status = some "stopping" ∨
      getValueAsString message.status = some "stopped") (hsession : s₀.named message = some session)
    (hannounced : StopAnnounced s₀ message) :
    Triple (· = s₀) (EC2StateChange.onStopping env message session)
      (fun _ => RecordedFor message session) fun _ _ => True := by
  by_cases hawaits : awaitsStop session.state = true
  · have hexpected : ∀ handler : Option VirtualDesktopServer → Action Unit,
        handler none = .raise .attributeError →
        (∀ server, handler (some server) =
          if getValueAsString message.status = some "stopping" then do
            let _ ← SessionDB.update env { session with state := .STOPPING }
            pure ()
          else do
            ServerDB.update env { server with state := some "STOPPED" }
            let _ ← SessionDB.update env { session with state := .STOPPED }
            pure ()) →
        Triple (· = s₀) (ServerDB.get env (getValueAsString message.instanceId) >>= handler)
          (fun _ => RecordedFor message session) fun _ _ => True := by
      intro handler hnone hsome
      have hread : Triple (· = s₀) (ServerDB.get env (getValueAsString message.instanceId))
          (fun r s => SameServers s₀.servers s ∧
            ∃ id, getValueAsString message.instanceId = some id ∧
              r = (s₀.servers.get? id).map (ServerDB.readEntry id)) fun _ _ => True :=
        (getServer_reads _).consequence (fun _ hs => congrArg Store.servers hs)
          (fun _ _ h => h) fun _ _ _ => trivial
      refine hread.bind fun server => Triple.of_forall ?_
      rintro s ⟨hs, id, hid, rfl⟩
      cases hrow : s₀.servers.get? id with
      | none => exact hnone ▸ .raise fun _ _ => trivial
      | some row =>
        refine hsome _ ▸ .ite (fun hstopping => ?_) fun hstopping => ?_
        · have hstate := hannounced hstopping session hsession hawaits id row hid hrow
          refine ((updateEntry_same _).pre (by rintro _ rfl; exact hs)).consequence
            (fun _ h => h) (fun _ _ h => h.1) (fun _ _ _ => trivial)
            |>.bind fun _ => .pure fun s' hs' => ?_
          intro state hrecorded
          rw [recordedState, if_neg hblank, hstopping] at hrecorded
          obtain rfl := Option.some.inj ((if_pos hawaits).symm.trans hrecorded)
          exact ⟨id, row, hid, hs' ▸ hrow, hstate⟩
        · have hstopped := hstatus.resolve_left hstopping
          refine ((updateServer_hasState hid.symm rfl).pre fun _ _ => trivial).bind fun _ => ?_
          refine ((hasState_of_same fun _ => updateEntry_same _).triple
            fun _ _ _ => trivial).bind fun _ => .pure fun s' hs' => ?_
          intro state hrecorded
          rw [recordedState, if_neg hblank, hstopped] at hrecorded
          obtain rfl := Option.some.inj ((if_pos hawaits).symm.trans hrecorded)
          exact hs'
    unfold EC2StateChange.onStopping
    revert hawaits
    cases session.state <;> intro hawaits
    all_goals first
      | exact hexpected _ rfl fun _ => rfl
      | cases hawaits
  · refine recorded_of_none ?_
    rw [recordedState, if_neg hblank]
    rcases hstatus with hstatus | hstatus <;> rw [hstatus] <;> exact if_neg hawaits

theorem ec2Event_records (hannounced : StopAnnounced s₀ message) :
    Triple (· = s₀) (EC2StateChange.handleEvent env message)
      (fun _ s => ∀ session, s₀.named message = some session → RecordedFor message session s)
      fun _ _ => True := by
  have hfind : ∀ {handler : VirtualDesktopSession → Action Unit},
      (∀ session, s₀.named message = some session → Triple (· = s₀) (handler session)
        (fun _ => RecordedFor message session) fun _ _ => True) →
      Triple (· = s₀) (withSession env message handler)
        (fun _ s => ∀ session, s₀.named message = some session → RecordedFor message session s)
        fun _ _ => True := by
    intro handler h
    have hread : Triple (· = s₀) (messageSession env message)
        (fun r s => s = s₀ ∧ s₀.named message = r) fun _ _ => True :=
      Rules.getFromDb_reads.consequence (fun _ h => h) (fun _ _ h => h) fun _ _ _ => trivial
    refine hread.bind fun found => Triple.of_forall ?_
    rintro s ⟨rfl, hfound⟩
    cases found with
    | none => exact .pure fun _ _ session hsession => nomatch hfound.symm.trans hsession
    | some session =>
      refine (h session hfound).post fun _ _ hrecorded session' hsession' => ?_
      rwa [← Option.some.inj (hfound.symm.trans hsession')]
  refine .ite (fun _ => .ite (fun hblank => ?_) fun hblank => ?_) fun _ => .raise fun _ _ => trivial
  · refine .pure fun _ _ session _ state hstate => ?_
    rw [recordedState, if_pos hblank] at hstate
    cases hstate
  · split
    · next hstatus =>
      exact hfind fun session hsession =>
        onStopping_records hblank (.inl hstatus) hsession hannounced
    · next hstatus =>
      exact hfind fun session hsession =>
        onStopping_records hblank (.inr hstatus) hsession hannounced
    · next hstatus =>
      refine hfind fun session _ => ?_
      refine Triple.bind (Q := fun _ _ => True) triple_trivial fun _ => ?_
      refine updateServerState_hasState.post fun _ s hs state hstate => ?_
      rw [recordedState, if_neg hblank, hstatus] at hstate
      obtain rfl := Option.some.inj hstate
      exact hs
    · next hnot₁ hnot₂ hnot₃ =>
      refine .pure fun _ _ session _ state hstate => ?_
      rw [recordedState, if_neg hblank] at hstate
      split at hstate
      · exact absurd ‹_› hnot₃
      · exact absurd ‹_› hnot₁
      · exact absurd ‹_› hnot₂
      · cases hstate

end Events

section Runs

def PlainRow (row : SessionCodec.DbServer) : Prop :=
  ∀ text ∈ [row.instanceId, row.instanceType, row.ideaSessionId, row.ideaSessionOwner],
    getValueAsString text = text

theorem convert_convert (row : SessionCodec.DbServer) :
    SessionCodec.VirtualDesktopServerDB.convertServerObjectToDbDict
        (SessionCodec.VirtualDesktopServerDB.convertDbEntryToServerObject row) = row ↔
      row.state = none ∧ PlainRow row := by
  obtain ⟨instanceId, instanceType, ideaSessionId, ideaSessionOwner, state, locked⟩ := row
  simp only [SessionCodec.VirtualDesktopServerDB.convertServerObjectToDbDict,
    SessionCodec.VirtualDesktopServerDB.convertDbEntryToServerObject, PlainRow,
    SessionCodec.DbServer.mk.injEq, Option.getD_some, List.forall_mem_cons, List.not_mem_nil,
    false_implies, implies_true, and_true]
  constructor
  · rintro ⟨hid, htype, hsession, howner, hstate⟩
    exact ⟨hstate.symm, hid, htype, hsession, howner⟩
  · rintro ⟨hstate, hid, htype, hsession, howner⟩
    exact ⟨hid, htype, hsession, howner, hstate.symm⟩

variable {s : Store} {step : ServerStep config}

theorem stated_after {α : Type} {x : Action α}
    (h : Triple (· = s) x (fun _ => SameServers s.servers) fun _ => SameServers s.servers)
    (hs : s.Stated) : Store.Stated (x.run s).2 := by
  have hsame : (x.run s).2.servers = s.servers := h.any rfl rfl
  unfold Store.Stated
  rwa [hsame]

theorem apply_stated (hs : s.Stated) (h : step.KeepsStates s) : (step.apply s).Stated := by
  obtain ⟨operation, env⟩ := step
  cases operation with
  | provision server key => exact run_keeps provision_stated hs
  | ec2Event message => exact run_keeps ec2Event_stated hs
  | stop toStop toHibernate => exact run_keeps stop_stated hs
  | updateSession new => exact stated_after (updateSession_same h) hs
  | lock owner ideaSessionId softwareStackId => exact stated_after (lock_same h) hs
  | unlock message => exact stated_after (unlock_same h) hs
  | unlockWindows message => exact stated_after (unlockWindows_same h) hs
  | elsewhere change => exact hs

theorem records_of_announced (h : step.KeepsStates s) : Records ⟨s, step, step.apply s⟩ := by
  obtain ⟨operation, env⟩ := step
  rintro message hmessage hok session state hsession hstate
  obtain rfl : operation = .ec2Event message := hmessage
  exact (ec2Event_records h).ok rfl (Prod.ext hok rfl) session hsession state hstate

def ServerStep.Takes (s : Store) (step : ServerStep config) (s' : Store) : Prop :=
  s' = step.apply s

variable {t : List (Edge Store (ServerStep config))}

/-- A row that is read and written again keeps its state only if it has none. In a run that writes
no server read from a row, and in which instances stop as they are asked to, rows have states, and
those of the events that were handled. -/
theorem states_kept (run : Run ServerStep.Takes Store.empty t s)
    (h : ∀ e ∈ t, e.label.KeepsStates e.pre) :
    s.Stated ∧ (∀ e ∈ t, Records e) ∧ ∀ row : SessionCodec.DbServer,
      SessionCodec.VirtualDesktopServerDB.convertServerObjectToDbDict
          (SessionCodec.VirtualDesktopServerDB.convertDbEntryToServerObject row) = row ↔
        row.state = none ∧ PlainRow row := by
  have hempty : Store.Stated Store.empty := by
    intro id row hrow
    cases hrow
  refine ⟨?_, ?_, convert_convert⟩
  · refine run.invariant_of Store.Stated hempty ?_ h
    rintro s step _ hs rfl hkeeps
    exact apply_stated hs hkeeps
  · refine run.forall_edges_of (fun _ => True) trivial (fun _ _ _ => trivial) h ?_
    rintro s step _ - rfl hkeeps
    exact records_of_announced hkeeps

def desktopServer : VirtualDesktopServer where
  instanceId := some "i-1"
  instanceType := some "m5.large"
  ideaSessionId := some "session-1"
  ideaSessionOwner := some "ada"
  state := none

def runningDesktop : VirtualDesktopSession :=
  { newDesktop.entry desktopServer (getEmptySchedule ∘ some) with
    state := .READY
    dcvSessionId := some "dcv-1" }

def instanceEvent (state : String) : QueuedEvent :=
  { controllerEvent controllerConfig .EC2_INSTANCE_STATE_CHANGED_EVENT with
    ideaSessionId := some "session-1"
    ideaSessionOwner := some "ada"
    instanceId := some "i-1"
    status := some state }

def largerType : SessionUpdate where
  owner := some "ada"
  ideaSessionId := some "session-1"
  name := none
  description := none
  server := some { desktopServer with instanceType := some "m5.xlarge" }
  schedule := none

def untroubledStep (operation : ServerOperation) : ServerStep controllerConfig :=
  ⟨operation, Env.untroubled controllerConfig⟩

def desktopIsReady : List (ServerStep controllerConfig) :=
  [untroubledStep (.provision desktopServer newDesktop.key),
    untroubledStep (.elsewhere fun s =>
      { s with sessions := s.sessions.set newDesktop.key runningDesktop })]

def storeAfter (steps : List (ServerStep controllerConfig)) : Store :=
  steps.foldl ServerStep.apply Store.empty

theorem run_after (steps : List (ServerStep controllerConfig)) :
    Run ServerStep.Takes Store.empty (Run.edges ServerStep.apply Store.empty steps)
      (storeAfter steps) :=
  Run.of_edges ServerStep.apply Store.empty steps

theorem keepsStates_running (e : Edge Store (ServerStep controllerConfig))
    (he : e ∈ Run.edges ServerStep.apply Store.empty
      (desktopIsReady ++ [untroubledStep (.ec2Event (instanceEvent "running"))])) :
    e.label.KeepsStates e.pre := by
  simp only [desktopIsReady, List.cons_append, List.nil_append, Run.edges, List.mem_cons,
    List.not_mem_nil, or_false] at he
  obtain rfl | rfl | rfl := he
  · exact trivial
  · exact trivial
  · intro hstopping
    exact absurd hstopping (by decide +kernel)

theorem states_kept_running :
    (storeAfter (desktopIsReady ++
      [untroubledStep (.ec2Event (instanceEvent "running"))])).Stated :=
  (states_kept (run_after _) keepsStates_running).1

/-- The row of an instance that is reported to be stopping. -/
theorem not_records_stopping :
    ¬ Records ⟨storeAfter desktopIsReady, untroubledStep (.ec2Event (instanceEvent "stopping")),
      storeAfter (desktopIsReady ++ [untroubledStep (.ec2Event (instanceEvent "stopping"))])⟩ := by
  intro h
  have hready : ((storeAfter desktopIsReady).named (instanceEvent "stopping")).map (·.state) =
      some .READY := by
    decide +kernel
  obtain ⟨session, hsession, hstate⟩ := Option.map_eq_some_iff.mp hready
  have hrecorded : recordedState (instanceEvent "stopping") session = some "STOPPING" := by
    have hstatus : getValueAsString (instanceEvent "stopping").status = some "stopping" := by
      decide +kernel
    rw [recordedState, if_neg (by decide +kernel), hstatus]
    exact if_pos (by rw [awaitsStop, hstate]; rfl)
  obtain ⟨id, row, hid, hrow, hstopping⟩ := h _ rfl (by decide +kernel) session _ hsession hrecorded
  obtain rfl : id = "i-1" := Option.some.inj (hid.symm.trans (by decide +kernel))
  have hstored : ((storeAfter (desktopIsReady ++
      [untroubledStep (.ec2Event (instanceEvent "stopping"))])).servers.get? "i-1").map (·.state) =
        some (some "CREATED") := by
    decide +kernel
  obtain ⟨row', hrow', hcreated⟩ := Option.map_eq_some_iff.mp hstored
  obtain rfl := Option.some.inj (hrow.symm.trans hrow')
  rw [hcreated] at hstopping
  exact absurd hstopping (by decide)

theorem states_lost : ∃ (t : List (Edge Store (ServerStep controllerConfig))) (s : Store),
    Run ServerStep.Takes Store.empty t s ∧ ¬ s.Stated ∧ ¬ ∀ e ∈ t, Records e := by
  refine ⟨_, _, run_after (desktopIsReady ++
    [untroubledStep (.ec2Event (instanceEvent "stopping")),
      untroubledStep (.updateSession largerType)]), fun h => ?_, fun h => ?_⟩
  · have hstored : ((storeAfter (desktopIsReady ++
        [untroubledStep (.ec2Event (instanceEvent "stopping")),
          untroubledStep (.updateSession largerType)])).servers.get? "i-1").map (·.state) =
          some none := by
      decide +kernel
    obtain ⟨row, hrow, hstate⟩ := Option.map_eq_some_iff.mp hstored
    have hstated := h "i-1" row hrow
    rw [hstate] at hstated
    cases hstated
  · refine not_records_stopping (h _ ?_)
    simp only [desktopIsReady, List.cons_append, List.nil_append, Run.edges, List.mem_cons]
    exact .inr (.inr (.inl rfl))

end Runs

end Idea.VirtualDesktop.Controller

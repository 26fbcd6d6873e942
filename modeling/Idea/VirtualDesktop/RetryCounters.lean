import Idea.VirtualDesktop.Lifecycle

/-! # The counters of retries

An event about a session that is not yet ready is put back, and counted. The counter limits how
often. It is cleared where the session got ready or was rebooted, but not where it failed or was
stopped.
-/

namespace Idea.VirtualDesktop.Controller.RetryCounters

open Stateful (Triple Ends Yields Keeps)

variable {config : Config}

inductive RetryOperation where
  | hostReady (message : QueuedEvent)
  | validateCreation (message : QueuedEvent)
  | rebootComplete (message : QueuedEvent)
  /-- Whatever else happens, stops and resumes for instance. Nothing else counts. -/
  | other (change : Store → Store)

/-- A handler raised its own exception, so that the message is handled again. -/
def isPutBack : Except Raised Unit → Bool
  | .error (.soca errorCode _) => errorCode = DO_NOT_DELETE_MESSAGE
  | _ => false

/-- The exception of the handlers is not raised by the calls. -/
def RaisesOther (env : Env config) : Prop :=
  ∀ call e, env.raises call = some e → isPutBack (.error e) = false

structure RetryStep (config : Config) where
  operation : RetryOperation
  env : Env config
  raises_other : RaisesOther env

def RetryStep.outcome (s : Store) (step : RetryStep config) : Except Raised Unit × Store :=
  match step.operation with
  | .hostReady message => (DCVHostReady.handleEvent step.env message).run s
  | .validateCreation message => (ValidateDCVSessionCreation.handleEvent step.env message).run s
  | .rebootComplete message => (DCVHostRebootComplete.handleEvent step.env message).run s
  | .other change => (.ok (), { change s with counters := s.counters })

def RetryStep.Takes (s : Store) (step : RetryStep config) (s' : Store) : Prop :=
  s' = (step.outcome s).2

def counterOf (s : Store) (key : CounterKey) : ℤ := (s.counters.get? key).getD 0

def retryLimit : VirtualDesktopSessionCounterType → ℤ
  | .DCV_SESSION_CREATION_REQUEST_ACCEPTED_COUNTER => 30
  | .VALIDATE_DCV_SESSION_CREATED_COUNTER => 31
  | .DCV_SESSION_RESUMED_COUNTER => 6

def attemptState : VirtualDesktopSessionCounterType → VirtualDesktopSessionState
  | .DCV_SESSION_CREATION_REQUEST_ACCEPTED_COUNTER => .CREATING
  | _ => .INITIALIZING

/-- A session with the id of the counter is not in the state of an attempt. -/
def OutsideAttempt (key : CounterKey) (s : Store) : Prop :=
  ∃ owner row, s.sessions.get? (owner, key.1) = some row ∧ row.state ≠ attemptState key.2

def RetryStep.concerns (s : Store) (step : RetryStep config) (key : CounterKey) : Bool :=
  match step.operation, key.2 with
  | .hostReady message, .DCV_SESSION_CREATION_REQUEST_ACCEPTED_COUNTER
  | .validateCreation message, .VALIDATE_DCV_SESSION_CREATED_COUNTER =>
    (s.named message).any (·.ideaSessionId = key.1)
  | _, _ => false

def putsBack (key : CounterKey) (e : Edge Store (RetryStep config)) : Bool :=
  e.label.concerns e.pre key && isPutBack (e.label.outcome e.pre).1

/-- The host of the session reports that it is ready, and is awaited. -/
structure Reports (s : Store) (message : QueuedEvent) (session : VirtualDesktopSession) : Prop where
  sender : isEmptyString message.sender.instanceId = false
  named : s.named message = some session
  server : ∃ server, session.server = some server ∧ server.instanceId = message.sender.instanceId
  awaited : DCVHostReady.awaitsHost session.state = true

/-- A creation is to be validated. -/
structure Validates (config : Config) (s : Store) (message : QueuedEvent)
    (session : VirtualDesktopSession) : Prop where
  sender : isSenderControllerRole config message = true
  named : s.named message = some session

/-- The host of the session was rebooted. -/
structure Reboots (s : Store) (message : QueuedEvent) (session : VirtualDesktopSession) : Prop where
  sender : isEmptyString message.sender.instanceId = false
  named : s.named message = some session
  handled : DCVHostRebootComplete.handles session.state = true

abbrev creationKey (session : VirtualDesktopSession) : CounterKey :=
  DCVHostReady.counterKey session

abbrev validationKey (session : VirtualDesktopSession) : CounterKey :=
  ValidateDCVSessionCreation.counterKey session

/-- The broker creates the session. -/
abbrev Accepts (env : Env config) : Prop :=
  isEmptyString env.createdSession.failureReason = true

abbrev Refuses (env : Env config) : Prop :=
  isEmptyString env.createdSession.failureReason = false

def isDeleted (session : VirtualDesktopSession) : Bool :=
  session.state = .DELETING || session.state = .DELETED

/-- The broker refuses to create the session, or does not say that it is ready. -/
inductive Retries (e : Edge Store (RetryStep config)) : CounterKey → Prop
  | creation {message session} : e.label.operation = .hostReady message →
      Reports e.pre message session →
      Refuses e.label.env →
      Retries e (creationKey session)
  | validation {message session} : e.label.operation = .validateCreation message →
      Validates config e.pre message session → isDeleted session = false →
      e.label.env.dcvState ≠ some "READY" → session.state ≠ .STOPPING →
      Retries e (validationKey session)

/-- The creation is accepted, the session is ready or deleted, or its host was rebooted. -/
inductive Clears (e : Edge Store (RetryStep config)) : CounterKey → Prop
  | accepted {message session} : e.label.operation = .hostReady message →
      Reports e.pre message session →
      Accepts e.label.env →
      (e.label.outcome e.pre).1 = .ok () → Clears e (creationKey session)
  | ended {message session} : e.label.operation = .validateCreation message →
      Validates config e.pre message session →
      (isDeleted session = true ∨ e.label.env.dcvState = some "READY") →
      (e.label.outcome e.pre).1 = .ok () →
      Clears e (validationKey session)
  | rebooted {message session type} : e.label.operation = .rebootComplete message →
      Reboots e.pre message session → type ≠ .DCV_SESSION_RESUMED_COUNTER →
      ((e.label.outcome e.pre).1 = .ok () ∨ isPutBack (e.label.outcome e.pre).1 = true) →
      Clears e (session.ideaSessionId, type)

/-- A host reports for the first time, or a session gets to where it is validated. -/
inductive Starts (e : Edge Store (RetryStep config)) : CounterKey → Prop
  | creation {message session} : e.label.operation = .hostReady message →
      Reports e.pre message session → session.state ≠ .CREATING →
      Starts e (creationKey session)
  | validation {owner ideaSessionId row row'} :
      (∀ message, e.label.operation ≠ .validateCreation message) →
      e.pre.sessions.get? (owner, ideaSessionId) = some row → row.state ≠ .INITIALIZING →
      e.post.sessions.get? (owner, ideaSessionId) = some row' → row'.state = .INITIALIZING →
      Starts e (ideaSessionId, .VALIDATE_DCV_SESSION_CREATED_COUNTER)

/-- Before an attempt starts, what earlier ones have counted was cleared. -/
def StartsCleared (t : List (Edge Store (RetryStep config))) : Prop :=
  ∀ key t₁ e t₂, t = t₁ ++ e :: t₂ → Starts e key → ∀ u r v, t₁ = u ++ r :: v → Retries r key →
    ∃ c ∈ v, Clears c key

/-- One counter has a value, and the others are as they were. -/
def Becomes (s₀ : Store) (key : CounterKey) (n : ℤ) (s : Store) : Prop :=
  ∀ k, counterOf s k = if k = key then n else counterOf s₀ k

section Values

variable {s s₀ : Store} {key : CounterKey} {n : ℤ}

theorem becomes_of_same (h : s.counters = s₀.counters) :
    Becomes s₀ key (counterOf s₀ key) s := by
  intro k
  rw [counterOf, h]
  split
  · next hk => rw [hk]; rfl
  · rfl

theorem becomes_of_set (h : s.counters = s₀.counters.set key n) : Becomes s₀ key n s := by
  intro k
  rw [counterOf, h, Dict.get?_set]
  split
  · exact Option.getD_some
  · rfl

theorem becomes_of_erase (h : s.counters = s₀.counters.erase key) : Becomes s₀ key 0 s := by
  intro k
  rw [counterOf, h, Dict.get?_erase]
  split
  · exact Option.getD_none
  · rfl

end Values

/-- The counter is left alone, counts once more, or is deleted outside of an attempt. -/
inductive Counts (s₀ : Store) (key : CounterKey) (retries clears : Prop) (r : Except Raised Unit)
    (s : Store) : Prop
  | same : Becomes s₀ key (counterOf s₀ key) s → isPutBack r = false →
      (r = .ok () → clears → counterOf s₀ key = 0) → Counts s₀ key retries clears r s
  | again : retries → ¬ clears → Becomes s₀ key (counterOf s₀ key + 1) s →
      counterOf s₀ key + 1 ≤ retryLimit key.2 → Counts s₀ key retries clears r s
  | cleared : Becomes s₀ key 0 s → OutsideAttempt key s → isPutBack r = false →
      Counts s₀ key retries clears r s

/-- What a handler does to the counter that belongs to it. -/
abbrev CountsTo (I : Store → Prop) (x : Action Unit) (s₀ : Store) (key : CounterKey) (P Q : Prop) :
    Prop :=
  Triple I x (fun _ => Counts s₀ key P Q (.ok ())) fun e => Counts s₀ key P Q (.error e)

def Call.writesRow : Call → Bool
  | .putSession _ | .updateSession _ | .deleteSession _ | .updateCounter _ _ | .deleteCounter _ =>
    true
  | _ => false

/-- The property is one of the counters and the sessions. -/
def OfRows (I : Store → Prop) : Prop :=
  ∀ s s' : Store, s'.counters = s.counters → s'.sessions = s.sessions → I s → I s'

/-- The property still holds, and the exception is not one of the handlers. -/
abbrev Fails (I : Store → Prop) (e : Raised) (s : Store) : Prop :=
  I s ∧ isPutBack (.error e) = false

section Calls

variable {env : Env config} {I : Store → Prop} {s₀ : Store} {c : Dict CounterKey ℤ}

theorem after_of_rows {call : Call} (hI : OfRows I) (h : Call.writesRow call = false) {s : Store}
    (hs : I s) : I (s.after env call) := by
  have hrows : (s.after env call).counters = s.counters ∧
      (s.after env call).sessions = s.sessions := by
    cases call with
    | publish event =>
      show (s.send env event).counters = s.counters ∧ (s.send env event).sessions = s.sessions
      unfold Store.send
      split <;> exact ⟨rfl, rfl⟩
    | putSession _ | updateSession _ | deleteSession _ | updateCounter _ _ | deleteCounter _ =>
      cases h
    | _ => exact ⟨rfl, rfl⟩
  exact hI s _ hrows.1 hrows.2 hs

theorem perform_keepsRows {call : Call} (hI : OfRows I) (h : Call.writesRow call = false) :
    Keeps I (perform env call) :=
  Rules.perform_keeps fun _ hs => after_of_rows hI h hs

theorem updateServerState_keepsRows {state : String} {instanceId : Option String} (hI : OfRows I) :
    Keeps I (updateServerState env state instanceId) := by
  have hget : Keeps I (ServerDB.get env instanceId) := by
    unfold ServerDB.get
    split
    · exact Yields.raise
    · exact .ite (fun _ => Yields.raise) fun _ => (perform_keepsRows hI rfl).bind fun _ _ =>
        Ends.get_bind fun _ => .pure trivial
  refine hget.bind fun server _ => ?_
  split
  · exact Yields.raise
  · unfold ServerDB.update
    split
    · exact Yields.raise
    · exact (perform_keepsRows hI rfl).bind fun _ _ => perform_keepsRows hI rfl

def SameCounters (c : Dict CounterKey ℤ) (s : Store) : Prop := s.counters = c

theorem ofRows_sameCounters : OfRows (SameCounters c) := fun _ _ hc _ hs => hc.trans hs

/-- The counters are the same, and a session is in a state. -/
def Stands (c : Dict CounterKey ℤ) (key : SessionKey) (state : VirtualDesktopSessionState)
    (s : Store) : Prop :=
  s.counters = c ∧ ∃ row, s.sessions.get? key = some row ∧ row.state = state

theorem ofRows_stands {key : SessionKey} {state : VirtualDesktopSessionState} :
    OfRows (Stands c key state) := by
  rintro s s' hcounters hsessions ⟨hc, hrow⟩
  exact ⟨hcounters.trans hc, hsessions ▸ hrow⟩

variable (hraises : RaisesOther env)
include hraises

theorem perform_rows {call : Call} (hI : OfRows I) (h : Call.writesRow call = false) :
    Ends I (Fails I) (perform env call) fun _ => True :=
  perform_triple (fun _ hs _ => ⟨after_of_rows hI h hs, trivial⟩)
    fun _ e hs he => ⟨hs, hraises call e he⟩

theorem getCounter_rows {key : CounterKey} {n : ℤ} (hI : OfRows I)
    (hn : ∀ s, I s → counterOf s key = n) :
    Ends I (Fails I) (CounterDB.get env key) (· = n) :=
  (perform_rows hraises hI rfl).bind fun _ _ =>
    Triple.get_bind fun s hs => .pure fun _ hs' => ⟨hs' ▸ hs, hn s hs⟩

theorem updateEntry_stands {session : VirtualDesktopSession} :
    Triple (SameCounters c) (SessionDB.update env session)
      (fun r s => Stands c session.key session.state s ∧
        r = SessionDB.readSession (session.stored env)) (Fails (SameCounters c)) := by
  refine Triple.get_bind fun s₀ hs₀ => ?_
  have hwrite : Triple (· = s₀) (perform env (.updateSession session))
      (fun _ => Stands c session.key session.state) (Fails (SameCounters c)) := by
    refine perform_triple (fun s hs _ => ⟨hs ▸ hs₀, session.stored env, ?_, rfl⟩)
      fun s e hs he => ⟨hs ▸ hs₀, hraises _ e he⟩
    exact (Dict.get?_set _ _ _ _).trans (if_pos rfl)
  refine hwrite.bind fun _ => Triple.ite (fun _ => .raise fun _ hs => ⟨hs.1, rfl⟩) fun _ => ?_
  have hevent : Ends (Stands c session.key session.state)
      (Fails (Stands c session.key session.state))
      (triggerUpdateEvent env .sessions session.owner session.ideaSessionId) fun _ => True :=
    perform_rows hraises ofRows_stands rfl
  exact (hevent.triple fun _ _ h => ⟨h.1.1, h.2⟩).bind fun _ => .pure fun _ hs => ⟨hs, rfl⟩

theorem getFromDb_rows {owner ideaSessionId : Option String} :
    Triple (· = s₀) (SessionDB.getFromDb env owner ideaSessionId)
      (fun r s => s = s₀ ∧ s₀.find owner ideaSessionId = r) (Fails (· = s₀)) := by
  unfold SessionDB.getFromDb Store.find
  split
  · next hkey => exact .pure fun _ hs => ⟨hs, by rw [hkey]; rfl⟩
  · next key hkey =>
    have hget : Triple (· = s₀) (perform env (.getSession key)) (fun _ s => s = s₀)
        (Fails (· = s₀)) :=
      perform_triple (fun _ hs _ => hs) fun _ e hs he => ⟨hs, hraises _ e he⟩
    refine hget.bind fun _ => Triple.get_bind ?_
    rintro _ rfl
    exact Triple.pure fun _ hs => ⟨hs, by rw [hkey]; rfl⟩

end Calls

theorem counts_of_fails {s₀ s : Store} {key : CounterKey} {P Q : Prop} {e : Raised}
    (h : Fails (SameCounters s₀.counters) e s) : Counts s₀ key P Q (.error e) s :=
  .same (becomes_of_same h.1) h.2 fun h => nomatch h

section HostReady

variable {env : Env config} {s₀ : Store} {session : VirtualDesktopSession}
  (hraises : RaisesOther env)
include hraises

/-- A session that is still in creation was counted. -/
abbrev Created (s₀ : Store) (key : CounterKey) (P Q : Prop) (session : VirtualDesktopSession)
    (s : Store) : Prop :=
  (session.state = .CREATING → ∀ r, Counts s₀ key P Q r s) ∧
    (session.state ≠ .CREATING → Counts s₀ key P Q (.ok ()) s)

theorem onAccepted_counts {P Q : Prop} {dcvSessionId : Option String} :
    Triple (SameCounters s₀.counters) (DCVHostReady.onAccepted env session dcvSessionId
        (counterOf s₀ (creationKey session)))
      (Created s₀ (creationKey session) P Q)
      fun e => Counts s₀ (creationKey session) P Q (.error e) := by
  have hfails : ∀ e s, Fails (Stands s₀.counters session.key .INITIALIZING) e s →
      Counts s₀ (creationKey session) P Q (.error e) s :=
    fun _ _ h => counts_of_fails ⟨h.1.1, h.2⟩
  refine Triple.bind ((updateEntry_stands hraises).consequence (fun _ h => h) (fun _ _ h => h)
    fun _ _ h => counts_of_fails h) fun updated => Triple.of_forall ?_
  rintro s ⟨hs, rfl⟩
  refine Triple.of_state (P := Stands s₀.counters session.key .INITIALIZING) hs ?_
  have htag : Ends (Stands s₀.counters session.key .INITIALIZING)
      (Fails (Stands s₀.counters session.key .INITIALIZING)) (tagSession env
        (SessionDB.readSession (({ session with
          state := .INITIALIZING, dcvSessionId := dcvSessionId } : VirtualDesktopSession).stored
            env))) fun _ => True := by
    unfold tagSession
    split
    · exact Triple.raise fun _ hs => ⟨hs, rfl⟩
    · exact perform_rows hraises ofRows_stands rfl
  refine Triple.bind (htag.triple hfails) fun _ => ?_
  refine Triple.bind (Ends.triple (perform_rows hraises ofRows_stands rfl) hfails) fun _ => ?_
  refine Triple.bind (Q := fun _ => Counts s₀ (creationKey session) P Q (.ok ()))
    ?_ fun _ => .pure fun s hs => ⟨fun h => (nomatch h), fun _ => hs⟩
  refine Triple.ite (fun hzero => .pure fun s hs => ?_) fun _ => ?_
  · exact .same (becomes_of_same hs.1) rfl fun _ _ => hzero
  · refine perform_triple (fun s hs _ => ?_) fun s e hs he => hfails e s ⟨hs, hraises _ e he⟩
    obtain ⟨hcounters, row, hrow, hstate⟩ := hs
    refine .cleared (becomes_of_erase (congrArg (Dict.erase · _) hcounters)) ?_ rfl
    exact ⟨_, row, hrow, fun h => nomatch hstate.symm.trans h⟩

theorem onRefused_counts {P Q : Prop} (hP : P) (hQ : ¬ Q) :
    Triple (SameCounters s₀.counters) (DCVHostReady.onRefused env session
        (counterOf s₀ (creationKey session)))
      (Created s₀ (creationKey session) P Q)
      fun e => Counts s₀ (creationKey session) P Q (.error e) := by
  have hwrite : ∀ n : ℤ, Triple (SameCounters s₀.counters)
      (CounterDB.createOrUpdate env (creationKey session) n)
      (fun _ => SameCounters (s₀.counters.set (creationKey session) n))
      fun e => Counts s₀ (creationKey session) P Q (.error e) := fun n =>
    perform_triple (fun s hs _ => congrArg (Dict.set · _ n) (show s.counters = _ from hs))
      fun s e hs he => counts_of_fails ⟨hs, hraises _ e he⟩
  refine Triple.ite (fun hlimit => (hwrite _).bind fun _ => ?_) fun _ => (hwrite _).bind fun _ => ?_
  · have hagain : ∀ r s, SameCounters (s₀.counters.set (creationKey session)
        (counterOf s₀ (creationKey session) + 1)) s →
          Counts s₀ (creationKey session) P Q r s :=
      fun r s hs => .again hP hQ (becomes_of_set hs) (Int.add_one_le_of_lt hlimit)
    refine Triple.ite (fun _ => .pure fun s hs => ?_) fun _ => ?_
    · exact ⟨fun _ r => hagain r s hs, fun _ => hagain _ s hs⟩
    · refine (updateEntry_stands hraises).consequence (fun _ h => h) (fun r s h => ?_)
        fun e s h => hagain _ s h.1
      exact ⟨fun _ r => hagain r s h.1.1, fun _ => hagain _ s h.1.1⟩
  · refine (updateEntry_stands hraises).consequence (fun _ h => h) ?_ fun e s h =>
      .same (becomes_of_set h.1) h.2 fun h => nomatch h
    rintro _ s ⟨hs, rfl⟩
    exact ⟨fun h => (nomatch h), fun _ => .same (becomes_of_set hs.1) rfl fun _ h => absurd h hQ⟩

theorem proceed_counts :
    CountsTo (· = s₀) (DCVHostReady.proceed env session) s₀ (creationKey session) (Refuses env)
      (Accepts env) := by
  have hleave : Triple (· = s₀) (DCVHostReady.leaveResuming env session)
      (fun r s => SameCounters s₀.counters s ∧
        creationKey r = creationKey session)
      (Fails (SameCounters s₀.counters)) := by
    refine Triple.ite (fun _ => ?_) fun _ => .pure fun s hs => ⟨congrArg Store.counters hs, rfl⟩
    refine (updateEntry_stands hraises).consequence (fun s hs => congrArg Store.counters hs) ?_
      fun _ _ h => h
    rintro _ s ⟨hs, rfl⟩
    exact ⟨hs.1, rfl⟩
  refine Triple.bind (hleave.consequence (fun _ h => h) (fun _ _ h => h)
    fun _ _ => counts_of_fails) fun session' => Triple.of_forall ?_
  rintro s ⟨hs, hkey⟩
  refine Triple.of_state (P := SameCounters s₀.counters) hs ?_
  rw [← hkey]
  refine Triple.bind (Q := Created s₀ (creationKey session')
    (Refuses env)
    (Accepts env)) ?_ fun r => ?_
  · refine Triple.bind ((perform_rows hraises ofRows_sameCounters rfl).triple
      fun _ _ => counts_of_fails) fun _ => ?_
    have hget : Ends (SameCounters s₀.counters) (Fails (SameCounters s₀.counters))
        (CounterDB.get env (creationKey session'))
        (· = counterOf s₀ (creationKey session')) :=
      getCounter_rows hraises ofRows_sameCounters fun s hs => by rw [counterOf, hs]; rfl
    refine Triple.bind (Triple.consequence hget (fun _ h => h) (fun _ _ h => h)
      fun _ _ => counts_of_fails) fun n => Triple.of_forall ?_
    rintro s ⟨hs, rfl⟩
    refine Triple.of_state (P := SameCounters s₀.counters) hs ?_
    refine Triple.ite (fun _ => onAccepted_counts hraises) fun hrefused => ?_
    exact onRefused_counts hraises (Bool.eq_false_iff.mpr hrefused) hrefused
  · exact Triple.ite (fun hstate => .raise fun _ h => h.1 hstate _)
      fun hstate => .pure fun _ h => h.2 hstate

end HostReady

section Validation

variable {env : Env config} {s₀ : Store} {message : QueuedEvent} {session : VirtualDesktopSession}

theorem named_row (h : s₀.named message = some session) :
    ∃ row, s₀.sessions.get? session.key = some row ∧ row.state = session.state := by
  obtain ⟨_, row, -, hrow, rfl⟩ := Store.find_eq_some h
  exact ⟨row, hrow, rfl⟩

theorem validate_counts (hraises : RaisesOther env)
    (hsession : s₀.named message = some session) {P Q : Prop}
    (hP : isDeleted session = false → env.dcvState ≠ some "READY" → session.state ≠ .STOPPING → P)
    (hQ : Q → isDeleted session = true ∨ env.dcvState = some "READY") :
    CountsTo (· = s₀) (ValidateDCVSessionCreation.proceed env session) s₀ (validationKey session)
      P Q := by
  obtain ⟨row, hrow, hstate⟩ := named_row hsession
  have hfound : Stands s₀.counters session.key session.state s₀ := ⟨rfl, row, hrow, hstate⟩
  have hfails : ∀ {state} e s, Fails (Stands s₀.counters session.key state) e s →
      Counts s₀ (validationKey session) P Q (.error e) s :=
    fun _ _ h => counts_of_fails ⟨h.1.1, h.2⟩
  have hdelete : ∀ state, state ≠ .INITIALIZING →
      CountsTo (Stands s₀.counters session.key state) (CounterDB.delete env (validationKey session))
        s₀ (validationKey session) P Q := by
    intro state hother
    refine perform_triple ?_ fun s e hs he => hfails e s ⟨hs, hraises _ e he⟩
    rintro s ⟨hcounters, row, hrow, rfl⟩ -
    exact .cleared (becomes_of_erase (congrArg (Dict.erase · _) hcounters)) ⟨_, row, hrow, hother⟩
      rfl
  have hget : Ends (Stands s₀.counters session.key session.state)
      (Fails (Stands s₀.counters session.key session.state))
      (CounterDB.get env (validationKey session))
      (· = counterOf s₀ (validationKey session)) :=
    getCounter_rows hraises ofRows_stands fun s hs => by rw [counterOf, hs.1]; rfl
  refine Triple.bind (Triple.consequence hget (by rintro _ rfl; exact hfound) (fun _ _ h => h)
    hfails) fun n => Triple.of_forall ?_
  rintro s ⟨hs, rfl⟩
  refine Triple.of_state (P := Stands s₀.counters session.key session.state) hs ?_
  refine Triple.ite (fun hdeleted => hdelete _ ?_) fun hdeleted => ?_
  · rintro h
    rw [h] at hdeleted
    cases hdeleted
  have hnot : isDeleted session = false :=
    Bool.eq_false_iff.mpr (by simpa [isDeleted] using hdeleted)
  refine Triple.bind ((perform_rows hraises ofRows_stands rfl).triple hfails) fun _ => ?_
  have hupdate : ∀ state, Triple (Stands s₀.counters session.key session.state)
      (SessionDB.update env { session with state := state })
      (fun _ => Stands s₀.counters session.key state)
      fun e => Counts s₀ (validationKey session) P Q (.error e) :=
    fun state => (updateEntry_stands hraises).consequence (fun _ hs => hs.1) (fun _ _ h => h.1)
      fun _ _ h => counts_of_fails h
  refine Triple.ite (fun _ => (hupdate _).bind fun _ => hdelete _ (fun h => nomatch h))
    fun hready => ?_
  have hsame : ∀ {state} s, Stands s₀.counters session.key state s →
      Counts s₀ (validationKey session) P Q (.ok ()) s := by
    refine fun s hs => .same (becomes_of_same hs.1) rfl fun _ hclears => ?_
    rcases hQ hclears with h | h
    · cases hnot.symm.trans h
    · exact absurd h hready
  refine Triple.ite (fun _ => (hupdate _).bind fun _ => .pure hsame) fun hfailed => ?_
  refine Triple.ite (fun _ => .pure hsame) fun hstopping => ?_
  have henter : Triple (Stands s₀.counters session.key session.state)
      (enter env .INITIALIZING session) (fun _ => SameCounters s₀.counters)
      fun e => Counts s₀ (validationKey session) P Q (.error e) :=
    Triple.ite (fun _ => .pure fun _ hs => hs.1) fun _ => (hupdate _).post fun _ _ hs => hs.1
  refine henter.bind fun _ => Triple.bind (Q := fun _ => SameCounters (s₀.counters.set
    (validationKey session)
      (counterOf s₀ (validationKey session) + 1)))
    (perform_triple (fun s hs _ => congrArg (Dict.set · _ _) (show s.counters = _ from hs))
      fun s e hs he => counts_of_fails ⟨hs, hraises _ e he⟩) fun _ => .raise fun s hs => ?_
  refine .again (hP hnot hready hstopping) (fun hclears => ?_) (becomes_of_set hs) ?_
  · rcases hQ hclears with h | h
    · cases hnot.symm.trans h
    · exact absurd h hready
  · have hlimit : ¬ 30 < counterOf s₀ (validationKey session) := by
      intro h
      refine hfailed (Bool.or_eq_true_iff.mpr (.inr (decide_eq_true h)))
    show _ ≤ (31 : ℤ)
    omega

end Validation

section Reboot

variable {env : Env config} {s₀ : Store} {message : QueuedEvent} {session : VirtualDesktopSession}
  {key : CounterKey}

/-- A session is in no state of an attempt. -/
def Rests (key : SessionKey) (s : Store) : Prop :=
  ∃ row, s.sessions.get? key = some row ∧ row.state ≠ .CREATING ∧ row.state ≠ .INITIALIZING

/-- The counter is as it was, or it is that of the session and cleared. -/
def Resets (s₀ : Store) (session : VirtualDesktopSession) (key : CounterKey) (s : Store) : Prop :=
  Rests session.key s ∧ (counterOf s key = counterOf s₀ key ∨
    key.1 = session.ideaSessionId ∧ counterOf s key = 0)

def HasReset (s₀ : Store) (session : VirtualDesktopSession) (key : CounterKey)
    (types : List VirtualDesktopSessionCounterType) (s : Store) : Prop :=
  Resets s₀ session key s ∧
    (key.1 = session.ideaSessionId → key.2 ∈ types → counterOf s key = 0)

theorem ofRows_hasReset {types : List VirtualDesktopSessionCounterType} :
    OfRows (HasReset s₀ session key types) := by
  intro s s' hcounters hsessions hs
  simpa only [HasReset, Resets, Rests, counterOf, hcounters, hsessions] using hs

theorem resetCounter_resets (hraises : RaisesOther env)
    {types : List VirtualDesktopSessionCounterType} {type : VirtualDesktopSessionCounterType} :
    Triple (HasReset s₀ session key types) (DCVHostRebootComplete.resetCounter env session type)
      (fun _ => HasReset s₀ session key (type :: types))
      (Fails (HasReset s₀ session key types)) := by
  have hget : Ends (HasReset s₀ session key types) (Fails (HasReset s₀ session key types))
      (CounterDB.get env (session.ideaSessionId, type)) fun _ => True :=
    (perform_rows hraises ofRows_hasReset rfl).bind fun _ _ =>
      Triple.get_bind fun s hs => .pure fun _ hs' => ⟨hs' ▸ hs, trivial⟩
  refine (hget.triple fun _ _ h => h).bind fun _ =>
    perform_triple (fun s hs _ => ?_) fun s e hs he => ⟨hs, hraises _ e he⟩
  have hcounter : ∀ k, counterOf (s.after env (.updateCounter (session.ideaSessionId, type) 0)) k =
      if k = (session.ideaSessionId, type) then 0 else counterOf s k := by
    intro k
    rw [counterOf, Store.after, Dict.get?_set]
    split <;> rfl
  obtain ⟨⟨hrests, hvalue⟩, hzero⟩ := hs
  refine ⟨⟨hrests, ?_⟩, fun hid htype => ?_⟩
  · rw [hcounter]
    split
    · next hkey => exact .inr ⟨congrArg Prod.fst hkey, rfl⟩
    · exact hvalue
  · rw [hcounter]
    split
    · rfl
    · next hkey =>
      refine hzero hid ((List.mem_cons.mp htype).resolve_left fun h => hkey ?_)
      exact Prod.ext hid h

theorem reboot_resets (hraises : RaisesOther env) (hkey : key.2 ≠ .DCV_SESSION_RESUMED_COUNTER)
    (hsession : s₀.named message = some session)
    (hhandles : DCVHostRebootComplete.handles session.state = true) :
    Triple (· = s₀) (DCVHostRebootComplete.proceed env session)
      (fun _ s => Resets s₀ session key s ∧
        (key.1 = session.ideaSessionId → counterOf s key = 0))
      fun e s => Resets s₀ session key s ∧
        (isPutBack (.error e) = true → key.1 = session.ideaSessionId → counterOf s key = 0) := by
  have hstart : HasReset s₀ session key [] s₀ := by
    obtain ⟨row, hrow, hstate⟩ := named_row hsession
    refine ⟨⟨⟨row, hrow, ?_⟩, .inl rfl⟩, fun _ h => absurd h List.not_mem_nil⟩
    rw [hstate]
    revert hhandles
    cases session.state <;> decide
  have hfails : ∀ types e s, Fails (HasReset s₀ session key types) e s → Resets s₀ session key s ∧
      (isPutBack (.error e) = true → key.1 = session.ideaSessionId → counterOf s key = 0) :=
    fun _ _ _ h => ⟨h.1.1, fun hput => nomatch h.2.symm.trans hput⟩
  let J := HasReset s₀ session key
    [.DCV_SESSION_CREATION_REQUEST_ACCEPTED_COUNTER, .VALIDATE_DCV_SESSION_CREATED_COUNTER]
  have hzero : ∀ s, J s → key.1 = session.ideaSessionId → counterOf s key = 0 := by
    intro s hs hid
    refine hs.2 hid ?_
    revert hkey
    cases key.2 <;> decide
  have hfirst : Triple (HasReset s₀ session key []) (DCVHostRebootComplete.resetCounter env session
      .VALIDATE_DCV_SESSION_CREATED_COUNTER) _ _ := resetCounter_resets hraises
  refine Triple.bind (hfirst.consequence (by rintro _ rfl; exact hstart) (fun _ _ h => h)
    (hfails _)) fun _ => ?_
  refine Triple.bind ((resetCounter_resets hraises).consequence (fun _ h => h) (fun _ _ h => h)
    (hfails _)) fun _ => ?_
  suffices h : Keeps J (DCVHostRebootComplete.leaveError env session >>= fun session =>
      DCVHostRebootComplete.isStable env session >>= fun stable =>
        if stable then pure () else DCVHostRebootComplete.resume env session) from
    Triple.consequence h (fun _ h => h) (fun _ s h => ⟨h.1.1, hzero s h.1⟩)
      fun _ s h => ⟨h.1, fun _ => hzero s h⟩
  have hquiet : ∀ {call}, Call.writesRow call = false → Keeps J (perform env call) :=
    perform_keepsRows ofRows_hasReset
  have hother : ∀ {call}, (∀ s : Store, (s.after env call).sessions = s.sessions ∧
      counterOf (s.after env call) key = counterOf s key) → Keeps J (perform env call) := by
    refine fun h => Rules.perform_keeps fun s hs => ?_
    simpa only [J, HasReset, Resets, Rests, h s] using hs
  have hresumed : key ≠ (session.ideaSessionId, .DCV_SESSION_RESUMED_COUNTER) :=
    fun h => hkey (congrArg Prod.snd h)
  have hleave : Yields J (DCVHostRebootComplete.leaveError env session) fun session' =>
      session'.ideaSessionId = session.ideaSessionId := by
    refine .ite (fun _ => ?_) fun _ => .pure rfl
    refine (Rules.updateSession_returns (Rules.perform_keeps fun s hs => ?_) (fun _ hs => hs)
      (hquiet rfl)).weaken (by rintro _ rfl; rfl)
    refine ⟨⟨⟨_, (Dict.get?_set _ _ _ _).trans (if_pos rfl), fun h => (nomatch h),
      fun h => nomatch h⟩, hs.1.2⟩, hs.2⟩
  refine hleave.bind fun session' hid => ?_
  have hstable : Keeps J (DCVHostRebootComplete.isStable env session') := by
    refine .ite (fun _ => .pure trivial) fun _ => (hquiet rfl).bind fun _ _ => ?_
    refine .ite (fun _ => .pure trivial) fun _ => .ite (fun _ => ?_) fun _ => .pure trivial
    unfold DCVHostRebootComplete.countReady
    rw [hid]
    have hget : Keeps J (CounterDB.get env (session.ideaSessionId, .DCV_SESSION_RESUMED_COUNTER)) :=
      (hquiet rfl).bind fun _ _ => Ends.get_bind fun _ => .pure trivial
    refine hget.bind fun n _ => .ite (fun _ => ?_) fun _ => ?_
    · refine Ends.bind (hother fun s => ⟨rfl, ?_⟩) fun _ _ => Yields.raise
      exact congrArg (Option.getD · 0) (Dict.get?_set_ne _ hresumed _)
    · refine Ends.bind (hother fun s => ⟨rfl, ?_⟩) fun _ _ => .pure trivial
      exact congrArg (Option.getD · 0) (Dict.get?_erase_ne _ hresumed)
  refine hstable.bind fun _ _ => .ite (fun _ => .pure trivial) fun _ => ?_
  unfold DCVHostRebootComplete.resume
  split
  · exact Yields.raise
  · have hanswer : Keeps J (performOrAnswer env (.resumeDcvSession session'.key)) := by
      refine (hquiet rfl).attempt.bind fun r _ => ?_
      split
      · exact .pure trivial
      · exact .pure trivial
      · exact Yields.raise
    refine hanswer.bind fun answer _ => ?_
    cases answer with
    | some text => exact Yields.raise
    | none => exact updateServerState_keepsRows ofRows_hasReset

end Reboot

section Handlers

variable {env : Env config} {s₀ : Store} {message : QueuedEvent}
  (hraises : RaisesOther env)

/-- Either no session is found, or the call for it fails, or the counter of the session counts. -/
def Handled (s₀ : Store) (found : VirtualDesktopSession → Prop)
    (keyOf : VirtualDesktopSession → CounterKey) (P Q : VirtualDesktopSession → Prop)
    (r : Except Raised Unit) (s : Store) : Prop :=
  (s.counters = s₀.counters ∧ isPutBack r = false ∧ (r = .ok () → ∀ session, ¬ found session)) ∨
    ∃ session, found session ∧ Counts s₀ (keyOf session) (P session) (Q session) r s

abbrev HandlesTo (s₀ : Store) (x : Action Unit) (found : VirtualDesktopSession → Prop)
    (keyOf : VirtualDesktopSession → CounterKey) (P Q : VirtualDesktopSession → Prop) : Prop :=
  Triple (· = s₀) x (fun _ => Handled s₀ found keyOf P Q (.ok ()))
    fun e => Handled s₀ found keyOf P Q (.error e)

include hraises

theorem withSession_handled {handler : VirtualDesktopSession → Action Unit}
    {R : Except Raised Unit → Store → Prop}
    (hfails : ∀ e, isPutBack (.error e) = false → R (.error e) s₀)
    (hnone : s₀.named message = none → R (.ok ()) s₀)
    (h : ∀ session, s₀.named message = some session →
      Triple (· = s₀) (handler session) (fun _ => R (.ok ())) fun e => R (.error e)) :
    Triple (· = s₀) (withSession env message handler) (fun _ => R (.ok ()))
      fun e => R (.error e) := by
  refine Triple.bind ((getFromDb_rows hraises).consequence (fun _ h => h) (fun _ _ h => h)
    (by rintro e _ ⟨rfl, he⟩; exact hfails e he)) fun found => Triple.of_forall ?_
  rintro _ ⟨rfl, hfound⟩
  cases found with
  | none => exact .pure (by rintro _ rfl; exact hnone hfound)
  | some session => exact h session hfound

theorem hostReady_handled :
    HandlesTo s₀ (DCVHostReady.handleEvent env message) (Reports s₀ message) creationKey
      (fun _ => Refuses env) fun _ => Accepts env := by
  have hraised : ∀ {e} s, isPutBack (.error e) = false → s = s₀ → Handled s₀ (Reports s₀ message)
      creationKey (fun _ => Refuses env) (fun _ => Accepts env) (.error e) s :=
    fun s he hs => .inl ⟨congrArg Store.counters hs, he, fun h => nomatch h⟩
  refine Triple.ite (fun _ => .raise fun s => hraised s rfl) fun hsender => ?_
  refine withSession_handled hraises (fun e he => hraised s₀ he rfl) (fun hnone => ?_)
    fun session hsession => ?_
  · exact .inl ⟨rfl, rfl, fun _ _ h => nomatch hnone.symm.trans h.named⟩
  split
  · exact .raise fun s => hraised s rfl
  · next server hserver =>
    refine Triple.ite (fun _ => .raise fun s => hraised s rfl) fun hinstance => ?_
    refine Triple.ite (fun hawaits => ?_) fun hawaits => .pure ?_
    · have hreports : Reports s₀ message session :=
        ⟨Bool.eq_false_iff.mpr hsender, hsession, ⟨server, hserver, of_not_not hinstance⟩, hawaits⟩
      exact (proceed_counts hraises).consequence (fun _ h => h)
        (fun _ _ h => .inr ⟨session, hreports, h⟩) fun _ _ h => .inr ⟨session, hreports, h⟩
    · rintro _ rfl
      refine .inl ⟨rfl, rfl, fun _ session' h => hawaits ?_⟩
      obtain rfl := Option.some.inj (hsession.symm.trans h.named)
      exact h.awaited

theorem validateCreation_handled :
    HandlesTo s₀ (ValidateDCVSessionCreation.handleEvent env message) (Validates config s₀ message)
      validationKey
      (fun session => isDeleted session = false ∧ env.dcvState ≠ some "READY" ∧
        session.state ≠ .STOPPING)
      fun session => isDeleted session = true ∨ env.dcvState = some "READY" := by
  refine Triple.ite (fun hsender => ?_) fun _ => .raise ?_
  · refine withSession_handled hraises (fun e he => .inl ⟨rfl, he, fun h => nomatch h⟩)
      (fun hnone => .inl ⟨rfl, rfl, fun _ _ h => nomatch hnone.symm.trans h.named⟩)
      fun session hsession => ?_
    have hvalidates : Validates config s₀ message session := ⟨hsender, hsession⟩
    exact (validate_counts hraises hsession (fun h₁ h₂ h₃ => ⟨h₁, h₂, h₃⟩) fun h => h).consequence
      (fun _ h => h) (fun _ _ h => .inr ⟨session, hvalidates, h⟩)
      fun _ _ h => .inr ⟨session, hvalidates, h⟩
  · rintro _ rfl
    exact .inl ⟨rfl, rfl, fun h => nomatch h⟩

def RebootHandled (s₀ : Store) (message : QueuedEvent) (key : CounterKey) (r : Except Raised Unit)
    (s : Store) : Prop :=
  (s.counters = s₀.counters ∧ isPutBack r = false ∧
    (r = .ok () → ∀ session, ¬ Reboots s₀ message session)) ∨
  ∃ session, Reboots s₀ message session ∧ Resets s₀ session key s ∧
    (r = .ok () ∨ isPutBack r = true → key.1 = session.ideaSessionId → counterOf s key = 0)

theorem rebootComplete_handled {key : CounterKey} (hkey : key.2 ≠ .DCV_SESSION_RESUMED_COUNTER) :
    Triple (· = s₀) (DCVHostRebootComplete.handleEvent env message)
      (fun _ => RebootHandled s₀ message key (.ok ()))
      fun e => RebootHandled s₀ message key (.error e) := by
  refine Triple.ite (fun _ => .raise ?_) fun hsender => ?_
  · rintro _ rfl
    exact .inl ⟨rfl, rfl, fun h => nomatch h⟩
  refine withSession_handled hraises (fun e he => .inl ⟨rfl, he, fun h => nomatch h⟩)
    (fun hnone => .inl ⟨rfl, rfl, fun _ _ h => nomatch hnone.symm.trans h.named⟩)
    fun session hsession => Triple.ite (fun hhandles => ?_) fun hhandles => .pure ?_
  · have hreboots : Reboots s₀ message session :=
      ⟨Bool.eq_false_iff.mpr hsender, hsession, hhandles⟩
    refine (reboot_resets hraises hkey hsession hhandles).consequence (fun _ h => h)
      (fun _ _ h => .inr ⟨session, hreboots, h.1, fun _ => h.2⟩) fun _ _ h => ?_
    exact .inr ⟨session, hreboots, h.1, fun hr => h.2 (hr.resolve_left fun h => nomatch h)⟩
  · rintro _ rfl
    refine .inl ⟨rfl, rfl, fun _ session' h => hhandles ?_⟩
    obtain rfl := Option.some.inj (hsession.symm.trans h.named)
    exact h.handled

end Handlers

section Edges

variable {s s' : Store} {step : RetryStep config} {key : CounterKey}
  {e : Edge Store (RetryStep config)}

/-- A counter changes only by a retry, or is cleared where no attempt goes on. -/
structure EdgeCounts (key : CounterKey) (e : Edge Store (RetryStep config)) : Prop where
  change : counterOf e.post key = counterOf e.pre key ∨
    counterOf e.post key = 0 ∧ OutsideAttempt key e.post ∨
    Retries e key ∧ counterOf e.post key = counterOf e.pre key + 1 ∧
      counterOf e.post key ≤ retryLimit key.2
  putBack : putsBack key e = true → counterOf e.post key = counterOf e.pre key + 1
  clears : Clears e key → counterOf e.post key = 0

theorem edgeCounts_of_handled {found : VirtualDesktopSession → Prop}
    {keyOf : VirtualDesktopSession → CounterKey} {P Q : VirtualDesktopSession → Prop}
    (h : Handled e.pre found keyOf P Q (e.label.outcome e.pre).1 e.post)
    (hunique : ∀ a b, found a → found b → a = b)
    (hretries : ∀ session, found session → P session → Retries e (keyOf session))
    (hclears : Clears e key → (e.label.outcome e.pre).1 = .ok () ∧
      ∃ session, found session ∧ Q session ∧ keyOf session = key)
    (hputs : putsBack key e = true → ∀ session, found session → keyOf session = key) :
    EdgeCounts key e := by
  have hput : putsBack key e = true → isPutBack (e.label.outcome e.pre).1 = true :=
    fun h => (Bool.and_eq_true_iff.mp h).2
  rcases h with ⟨hsame, hnot, hnone⟩ | ⟨session, hfound, hcounts⟩
  · refine ⟨.inl (by rw [counterOf, hsame]; rfl), fun h => (nomatch hnot.symm.trans (hput h)),
      fun h => ?_⟩
    obtain ⟨hok, session, hfound, -⟩ := hclears h
    exact absurd hfound (hnone hok session)
  cases hcounts with
  | same hbecomes hnot hzero =>
    have hvalue : counterOf e.post key = counterOf e.pre key := by
      rw [hbecomes key]
      split
      · next hkey => rw [hkey]
      · rfl
    refine ⟨.inl hvalue, fun h => (nomatch hnot.symm.trans (hput h)), fun h => ?_⟩
    obtain ⟨hok, session', hfound', hq, rfl⟩ := hclears h
    obtain rfl := hunique _ _ hfound hfound'
    exact hvalue.trans (hzero hok hq)
  | again hp hq hbecomes hlimit =>
    have hclear : ¬ (∃ session', found session' ∧ Q session' ∧ keyOf session' = key) := by
      rintro ⟨session', hfound', hq', -⟩
      obtain rfl := hunique _ _ hfound hfound'
      exact hq hq'
    by_cases hkey : key = keyOf session
    · subst hkey
      have hvalue := (hbecomes (keyOf session)).trans (if_pos rfl)
      exact ⟨.inr (.inr ⟨hretries session hfound hp, hvalue, hvalue.trans_le hlimit⟩),
        fun _ => hvalue, fun h => absurd (hclears h).2 hclear⟩
    · exact ⟨.inl ((hbecomes key).trans (if_neg hkey)),
        fun h => absurd (hputs h session hfound).symm hkey, fun h => absurd (hclears h).2 hclear⟩
  | cleared hbecomes houtside hnot =>
    refine ⟨?_, fun h => (nomatch hnot.symm.trans (hput h)), fun h => ?_⟩
    · by_cases hkey : key = keyOf session
      · exact .inr (.inl ⟨(hbecomes key).trans (if_pos hkey), hkey ▸ houtside⟩)
      · exact .inl ((hbecomes key).trans (if_neg hkey))
    · obtain ⟨-, session', hfound', -, rfl⟩ := hclears h
      obtain rfl := hunique _ _ hfound hfound'
      exact (hbecomes _).trans (if_pos rfl)

theorem eq_of_named {message : QueuedEvent} {a b : VirtualDesktopSession}
    (ha : s.named message = some a) (hb : s.named message = some b) : a = b :=
  Option.some.inj (ha.symm.trans hb)

theorem handled_of_triple {x : Action Unit} {R : Except Raised Unit → Store → Prop}
    (h : Triple (· = s) x (fun _ => R (.ok ())) fun e => R (.error e)) :
    R (x.run s).1 (x.run s).2 := by
  rcases hr : (x.run s).1 with e | ⟨⟩
  · exact h.error rfl (Prod.ext hr rfl)
  · exact h.ok rfl (Prod.ext hr rfl)

theorem edge_counts (hkey : key.2 ≠ .DCV_SESSION_RESUMED_COUNTER)
    (h : RetryStep.Takes s step s') : EdgeCounts key ⟨s, step, s'⟩ := by
  obtain rfl := h
  obtain ⟨operation, env, hraises⟩ := step
  cases operation with
  | hostReady message =>
    refine edgeCounts_of_handled (handled_of_triple (hostReady_handled hraises))
      (fun _ _ ha hb => eq_of_named ha.named hb.named) (fun _ h hp => .creation rfl h hp) ?_ ?_
    · rintro (⟨hmessage, hfound, hq, hok⟩ | ⟨hmessage, _⟩ | ⟨hmessage, _⟩)
      · obtain rfl := RetryOperation.hostReady.inj hmessage
        exact ⟨hok, _, hfound, hq, rfl⟩
      all_goals cases hmessage
    · intro hputs session hfound
      obtain ⟨id, type⟩ := key
      cases type <;> simp [putsBack, RetryStep.concerns, hfound.named] at hputs
      exact Prod.ext hputs.1 rfl
  | validateCreation message =>
    refine edgeCounts_of_handled (handled_of_triple (validateCreation_handled hraises))
      (fun _ _ ha hb => eq_of_named ha.named hb.named)
      (fun _ h hp => .validation rfl h hp.1 hp.2.1 hp.2.2) ?_ ?_
    · rintro (⟨hmessage, _⟩ | ⟨hmessage, hfound, hq, hok⟩ | ⟨hmessage, _⟩)
      · cases hmessage
      · obtain rfl := RetryOperation.validateCreation.inj hmessage
        exact ⟨hok, _, hfound, hq, rfl⟩
      · cases hmessage
    · intro hputs session hfound
      obtain ⟨id, type⟩ := key
      cases type <;> simp [putsBack, RetryStep.concerns, hfound.named] at hputs
      exact Prod.ext hputs.1 rfl
  | rebootComplete message =>
    have hnotPut : ∀ s', putsBack key ⟨s, ⟨.rebootComplete message, env, hraises⟩, s'⟩ = true →
        False := by
      obtain ⟨id, type⟩ := key
      cases type <;> exact fun _ h => nomatch h
    rcases handled_of_triple (rebootComplete_handled hraises hkey) with
      ⟨hsame, hput, hnone⟩ | ⟨session, hreboots, ⟨⟨row, hrow, hstate⟩, hvalue⟩, hzero⟩
    · refine ⟨.inl (congrArg (fun c => (Dict.get? c key).getD 0) hsame),
        fun h => (hnotPut _ h).elim, fun h => ?_⟩
      rcases h with ⟨hmessage, _⟩ | ⟨hmessage, _⟩ | ⟨hmessage, hreboots, _, hended⟩
      · cases hmessage
      · cases hmessage
      · obtain rfl := RetryOperation.rebootComplete.inj hmessage
        rcases hended with hok | hended
        · exact absurd hreboots (hnone hok _)
        · cases hput.symm.trans hended
    · refine ⟨?_, fun h => (hnotPut _ h).elim, fun h => ?_⟩
      · rcases hvalue with h | ⟨hid, h⟩
        · exact .inl h
        · refine .inr (.inl ⟨h, session.owner, row, hid ▸ hrow, ?_⟩)
          cases key.2
          · exact hstate.2
          · exact hstate.1
          · exact hstate.2
      · rcases h with ⟨hmessage, _⟩ | ⟨hmessage, _⟩ | ⟨hmessage, hreboots', _, hended⟩
        · cases hmessage
        · cases hmessage
        · obtain rfl := RetryOperation.rebootComplete.inj hmessage
          have hsession := eq_of_named hreboots'.named hreboots.named
          exact hzero hended (congrArg VirtualDesktopSession.ideaSessionId hsession)
  | other change =>
    refine ⟨.inl rfl, fun h => ?_, fun h => ?_⟩
    · obtain ⟨id, type⟩ := key
      cases type <;> cases h
    · rcases h with ⟨hmessage, _⟩ | ⟨hmessage, _⟩ | ⟨hmessage, _⟩ <;> cases hmessage

end Edges

section Runs

variable {s₁ s : Store} {t : List (Edge Store (RetryStep config))} {key : CounterKey}
  (hkey : key.2 ≠ .DCV_SESSION_RESUMED_COUNTER)
include hkey

theorem counter_bounded (run : Run RetryStep.Takes Store.empty t s) :
    0 ≤ counterOf s key ∧ counterOf s key ≤ retryLimit key.2 := by
  have hlimit : 0 ≤ retryLimit key.2 := by
    cases key.2 <;> decide
  refine run.invariant (fun s => 0 ≤ counterOf s key ∧ counterOf s key ≤ retryLimit key.2)
    ⟨le_rfl, hlimit⟩ ?_
  intro s step s' hs hstep
  have hvalue : counterOf s' key = counterOf s key ∨ counterOf s' key = 0 ∧ _ ∨
    _ ∧ counterOf s' key = counterOf s key + 1 ∧ counterOf s' key ≤ retryLimit key.2 :=
    (edge_counts hkey hstep).change
  rcases hvalue with h | ⟨h, -⟩ | ⟨-, h, hlimit⟩
  · rwa [h]
  · rw [h]
    exact ⟨le_rfl, hlimit⟩
  · exact ⟨by omega, hlimit⟩

/-- While an attempt goes on, each retry counts. -/
theorem retries_counted (run : Run RetryStep.Takes s₁ t s)
    (h : ∀ e ∈ t, ¬ OutsideAttempt key e.post) :
    t.countP (putsBack key) + counterOf s₁ key ≤ counterOf s key := by
  induction run with
  | nil => simp
  | @snoc t s step s' run hstep ih =>
    have ih := ih fun e he => h e (List.mem_append_left _ he)
    have hinside : ¬ OutsideAttempt key s' := h ⟨s, step, s'⟩ (by simp)
    obtain ⟨hchange, hputs, -⟩ := edge_counts hkey hstep
    have hgrows : counterOf s key ≤ counterOf s' key := by
      rcases hchange with h | ⟨-, h⟩ | ⟨-, h, -⟩
      · exact h.ge
      · exact absurd h hinside
      · have hone : counterOf s' key = counterOf s key + 1 := h
        omega
    rw [List.countP_append, List.countP_singleton]
    split
    · next hput =>
      have hone : counterOf s' key = counterOf s key + 1 := hputs hput
      push_cast
      omega
    · push_cast
      omega

theorem exists_retry (run : Run RetryStep.Takes Store.empty t s) (h : counterOf s key ≠ 0) :
    ∃ u r v, t = u ++ r :: v ∧ Retries r key ∧ ∀ c ∈ v, ¬ Clears c key := by
  induction run with
  | nil => exact absurd rfl h
  | @snoc t s step s' run hstep ih =>
    obtain ⟨hchange, -, hclears⟩ := edge_counts hkey hstep
    rcases hchange with hsame | ⟨hzero, -⟩ | ⟨hretries, -⟩
    · obtain ⟨u, r, v, rfl, hr, hv⟩ := ih fun hzero => h (hsame.trans hzero)
      refine ⟨u, r, v ++ [⟨s, step, s'⟩], by simp, hr, fun c hc => ?_⟩
      rcases List.mem_append.mp hc with hc | hc
      · exact hv c hc
      · obtain rfl := List.mem_singleton.mp hc
        exact fun hclear => h (hclears hclear)
    · exact absurd hzero h
    · exact ⟨t, _, [], rfl, hretries, fun _ hc => absurd hc List.not_mem_nil⟩

/-- The events of an attempt are put back as often as they may be at most, and where earlier
retries were cleared before an attempt starts, it has all its own. -/
theorem retries_bounded (run : Run RetryStep.Takes Store.empty t s) (h : StartsCleared t) :
    (∀ t₁ t₂, t = t₁ ++ t₂ → (∀ e ∈ t₂, ¬ OutsideAttempt key e.post) →
      t₂.countP (putsBack key) ≤ retryLimit key.2) ∧
      ∀ e ∈ t, Starts e key → counterOf e.pre key = 0 := by
  constructor
  · rintro t₁ t₂ rfl hinside
    have hend := counter_bounded hkey run
    cases t₂ with
    | nil => exact (hend.1.trans hend.2).trans' (by simp)
    | cons e t₂ =>
      obtain ⟨hbefore, hstep, hafter⟩ := run.of_append_cons
      have hcount : ((e :: t₂).countP (putsBack key) : ℤ) + counterOf e.pre key ≤
          counterOf s key := retries_counted hkey ((Run.single hstep).append hafter) hinside
      have hstart := (counter_bounded hkey hbefore).1
      omega
  · intro e he hstarts
    obtain ⟨t₁, t₂, rfl, hbefore, -, -⟩ := run.split he
    by_contra hcounter
    obtain ⟨u, r, v, rfl, hr, hv⟩ := exists_retry hkey hbefore hcounter
    obtain ⟨c, hc, hclears⟩ := h key _ e t₂ rfl hstarts u r v rfl hr
    exact hv c hc hclears

end Runs

def desktop (state : VirtualDesktopSessionState) : VirtualDesktopSession :=
  { newDesktop.entry { newDesktop.server with instanceId := some "i-1" }
      (getEmptySchedule ∘ some) with
    state := state }

def validation : QueuedEvent :=
  { controllerEvent controllerConfig .VALIDATE_DCV_SESSION_CREATION_EVENT with
    ideaSessionId := some "session-1"
    ideaSessionOwner := some "ada" }

def report : QueuedEvent :=
  { validation with sender := ⟨"idea-vdc-host-role", some "i-1"⟩ }

def untroubled (operation : RetryOperation) : RetryStep controllerConfig :=
  ⟨operation, Env.untroubled controllerConfig, fun _ _ h => nomatch h⟩

def goesTo (state : VirtualDesktopSessionState) : RetryStep controllerConfig :=
  untroubled (.other fun s => { s with sessions := s.sessions.set newDesktop.key (desktop state) })

def after (s : Store) (step : RetryStep controllerConfig) : Store := (step.outcome s).2

theorem startsCleared_of_first {e : Edge Store (RetryStep config)}
    {t : List (Edge Store (RetryStep config))} (h : ∀ e' ∈ t, ∀ key, ¬ Starts e' key) :
    StartsCleared (e :: t) := by
  rintro key t₁ e' t₂ ht hstarts u r v rfl -
  have he' : e' ∈ t := by cases u <;> simp_all
  exact absurd hstarts (h e' he' key)

theorem retries_bounded_validation :
    (Run.edges after (after Store.empty (goesTo .INITIALIZING))
      [untroubled (.validateCreation validation)]).countP
        (putsBack ("session-1", .VALIDATE_DCV_SESSION_CREATED_COUNTER)) ≤ 31 ∧
    ∀ e ∈ Run.edges after Store.empty
      [goesTo .INITIALIZING, untroubled (.validateCreation validation)],
      Starts e ("session-1", .VALIDATE_DCV_SESSION_CREATED_COUNTER) →
        counterOf e.pre ("session-1", .VALIDATE_DCV_SESSION_CREATED_COUNTER) = 0 := by
  have hcleared : StartsCleared (Run.edges after Store.empty
      [goesTo .INITIALIZING, untroubled (.validateCreation validation)]) := by
    refine startsCleared_of_first ?_
    simp only [Run.edges, List.forall_mem_singleton]
    rintro key (⟨hmessage, _⟩ | ⟨hmessage, _⟩)
    · cases hmessage
    · exact hmessage _ rfl
  obtain ⟨hbounded, hzero⟩ :=
    @retries_bounded _ _ _ ("session-1", .VALIDATE_DCV_SESSION_CREATED_COUNTER) (by decide)
      (Run.of_edges after Store.empty _) hcleared
  refine ⟨Int.ofNat_le.mp (hbounded [_] _ rfl ?_), hzero⟩
  simp only [Run.edges, List.forall_mem_singleton]
  rintro ⟨owner, row, hrow, hstate⟩
  have hsessions : (after (after Store.empty (goesTo .INITIALIZING))
      (untroubled (.validateCreation validation))).sessions =
      Dict.set ∅ newDesktop.key (desktop .INITIALIZING) := rfl
  rw [hsessions, Dict.get?_set] at hrow
  split at hrow
  · cases hrow
    exact hstate rfl
  · cases hrow

/-- The message that validates the creation is put back once, before the desktop is stopped. -/
def stoppedSteps : List (RetryStep controllerConfig) :=
  [goesTo .INITIALIZING, untroubled (.validateCreation validation), goesTo .STOPPED,
    goesTo .RESUMING]

theorem starts_counted : ∃ (t : List (Edge Store (RetryStep controllerConfig))) (s : Store),
    Run RetryStep.Takes Store.empty t s ∧ ∃ e ∈ t, ∃ key : CounterKey,
      key.2 ≠ .DCV_SESSION_RESUMED_COUNTER ∧ Starts e key ∧ counterOf e.pre key ≠ 0 := by
  let s := stoppedSteps.foldl after Store.empty
  have hpre : (s.sessions.get? ("ada", "session-1")).map (·.state) = some .RESUMING := by
    decide +kernel
  have hpost : ((after s (untroubled (.hostReady report))).sessions.get?
      ("ada", "session-1")).map (·.state) = some .INITIALIZING := by
    decide +kernel
  obtain ⟨row, hrow, hstate⟩ := Option.map_eq_some_iff.mp hpre
  obtain ⟨row', hrow', hstate'⟩ := Option.map_eq_some_iff.mp hpost
  refine ⟨_, _, Run.of_edges after Store.empty (stoppedSteps ++ [untroubled (.hostReady report)]),
    ⟨s, untroubled (.hostReady report), after s (untroubled (.hostReady report))⟩, ?_,
    ("session-1", .VALIDATE_DCV_SESSION_CREATED_COUNTER), by decide, ?_, by decide +kernel⟩
  · simp only [stoppedSteps, List.cons_append, List.nil_append, Run.edges, List.mem_cons]
    exact .inr (.inr (.inr (.inr (.inl rfl))))
  · refine .validation (fun _ h => ?_) hrow (by rw [hstate]; decide) hrow' hstate'
    cases h

end Idea.VirtualDesktop.Controller.RetryCounters

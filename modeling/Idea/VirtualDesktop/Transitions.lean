import Idea.VirtualDesktop.Lifecycle

/-! # Sessions in a transition

A session that is created, validated or deleted waits for a message of the queue. Its state and the
message are written one after the other, so that a call that raises in between leaves a session that
no message moves on.
-/

namespace Idea.VirtualDesktop.Controller

open Stateful (Triple Ends Yields Keeps)

variable {config : Config}

def isTransition : VirtualDesktopSessionState → Bool
  | .CREATING | .INITIALIZING | .DELETING => true
  | _ => false

/-- The handler of the message is the one that a session in the state waits for. -/
def Serves (config : Config) (message : QueuedEvent) (key : SessionKey)
    (state : VirtualDesktopSessionState) (instanceId : Option String) : Prop :=
  messageKey message = some key ∧
    match state with
    | .CREATING =>
      message.eventType = .DCV_HOST_READY_EVENT ∧ message.sender.instanceId = instanceId ∧
        isEmptyString instanceId = false
    | .INITIALIZING =>
      message.eventType = .VALIDATE_DCV_SESSION_CREATION_EVENT ∧
        isSenderControllerRole config message = true
    | .DELETING =>
      message.eventType = .VALIDATE_DCV_SESSION_DELETION_EVENT ∧
        isSenderControllerRole config message = true
    | _ => False

def ServedBy (config : Config) (messages : List QueuedEvent) (key : SessionKey)
    (state : VirtualDesktopSessionState) (instanceId : Option String) : Prop :=
  ∃ message ∈ messages, Serves config message key state instanceId

/-- Each session in a transition is served by a message of the queue. -/
structure Store.Attended (config : Config) (s : Store) : Prop where
  plain : ∀ {key row}, s.sessions.get? key = some row → IsPlain key.1 ∧ IsPlain key.2
  served : ∀ {key row}, s.sessions.get? key = some row → isTransition row.state = true →
    ServedBy config s.queue key row.state row.instanceId

/-- The queue does not take the event for a repetition of one that it holds no more. -/
def Store.Accepts (env : Env config) (s : Store) (event : QueuedEvent) : Prop :=
  env.repeats event = true → event ∈ s.published → event ∈ s.queue

/-- No entry of the session can be written with the state. -/
def Unwritable (env : Env config) (key : SessionKey) (state : VirtualDesktopSessionState) : Prop :=
  ∀ session : VirtualDesktopSession, session.key = key → session.state = state →
    (env.raises (.updateSession session)).isSome

/-- An entry is written with the state only if a message is there for it or the calls from then on
until the event is sent are done. -/
def MovesWith (env : Env config) (s : Store) (key : SessionKey)
    (state : VirtualDesktopSessionState) (calls : List Call) (event : QueuedEvent) : Prop :=
  Unwritable env key state ∨ ServedBy config s.queue key state none ∨
    (∀ call ∈ calls ++ [.publish event], env.raises call = none) ∧ s.Accepts env event

def updateEvent (config : Config) (key : SessionKey) : QueuedEvent :=
  entryEvent config .DB_ENTRY_UPDATED_EVENT .sessions key.1 key.2

/-- A session whose DCV session was created is validated. -/
def HostReadyAnnounces (env : Env config) (message : QueuedEvent) (s : Store) : Prop :=
  ∀ session, s.named message = some session → isEmptyString message.sender.instanceId = false →
    session.instanceId = message.sender.instanceId →
    DCVHostReady.awaitsHost session.state = true →
    isEmptyString env.createdSession.failureReason = true →
      MovesWith env s session.key .INITIALIZING
        [.publish (updateEvent config session.key), .createTag session.instanceId]
        (validateCreationEvent env session.key)

/-- A session that comes back is validated. -/
def ResumeAnnounces (env : Env config) (message : QueuedEvent) (s : Store) : Prop :=
  ∀ session, s.named message = some session → isSenderControllerRole config message = true →
    CommandProgress.isSuccess message = true →
      Unwritable env session.key .INITIALIZING ∨
      ServedBy config s.queue session.key .INITIALIZING none ∨
      (env.raises (.publish (validateCreationEvent env session.key))).isSome ∨
      s.Accepts env (validateCreationEvent env session.key)

def DeletionReaches (env : Env config) (s : Store) (session : VirtualDesktopSession) : Prop :=
  (∀ day key, scheduleKey (session.schedule day) = some key →
    env.raises (.deleteSchedule key) = none ∧
      env.raises (.publish (entryEvent config .DB_ENTRY_DELETED_EVENT .schedules "" key.2)) =
        none) ∧
  (env.queriesPermissions = true → ∀ key ∈ s.permissions.keys, key.1 = session.ideaSessionId →
    isEmptyString (some key.2) = false ∧ env.raises (.deletePermission key) = none ∧
      env.raises (.publish
        (entryEvent config .DB_ENTRY_DELETED_EVENT .sessionPermissions key.1 key.2)) = none) ∧
  env.raises (.deleteSession session.key) = none

/-- A deletion is either done or asked for by another message. -/
def DeletionAnnounces (env : Env config) (message : QueuedEvent) (s : Store) : Prop :=
  ∀ session, s.named message = some session → isSenderControllerRole config message = true →
    session.state = .DELETING → ValidateDCVSessionDeletion.mayProceed env session = true →
      ServedBy config (s.queue.erase message) session.key .DELETING none ∨
        DeletionReaches env s session

def Store.running (s : Store) (requests : List SessionRequest) : List VirtualDesktopSession :=
  (requests.filterMap s.requested).filter (!isStopped ·)

/-- Sessions that are marked for deletion are validated. -/
def TerminationAnnounces (env : Env config) (s : Store) (requests : List SessionRequest) : Prop :=
  ∀ id ∈ (env.deletedSessions ((s.running requests).map (·.dcvSessionId))).1, ∀ session,
    (s.running requests).reverse.find? (·.dcvSessionId = id) = some session →
      MovesWith env s session.key .DELETING [.publish (updateEvent config session.key)]
        (validateDeletionEvent config session.key)

/-- No call fails between the write of a state and the event that the state waits for, and no
deletion fails before the entry is gone. -/
def Step.Announces (s : Store) (step : Step config) : Prop :=
  match step.operation with
  | .terminateSessions requests => TerminationAnnounces step.env s requests
  | .deliver message =>
    (message.eventType = .DCV_HOST_READY_EVENT → HostReadyAnnounces step.env message s) ∧
    (message.eventType = .IDEA_SESSION_RESUME_SESSION_COMMAND_PROGRESS_EVENT →
      ResumeAnnounces step.env message s) ∧
    (message.eventType = .VALIDATE_DCV_SESSION_DELETION_EVENT →
      DeletionAnnounces step.env message s) ∧
    (message.eventType = .IDEA_SESSION_TERMINATE_EVENT →
      TerminationAnnounces step.env s [SessionState.terminateRequest message])
  | _ => True

/-- The messages of the first list are still in the queue and those of the second were added. Each
session in a transition is accounted for. -/
structure Awaiting (K M : List QueuedEvent) (P : QueuedEvent → Prop)
    (A : SessionKey → VirtualDesktopSessionState → Option String → Prop) (s : Store) : Prop where
  queue : K <+: s.queue
  added : M ⊆ s.queue
  sent : ∀ event ∈ s.published, event ∈ s.queue ∨ P event
  plain : ∀ {key row}, s.sessions.get? key = some row → IsPlain key.1 ∧ IsPlain key.2
  awaited : ∀ {key row}, s.sessions.get? key = some row → isTransition row.state = true →
    A key row.state row.instanceId

structure Expected (A : SessionKey → VirtualDesktopSessionState → Option String → Prop)
    (session : VirtualDesktopSession) : Prop where
  plain : IsPlain session.key.1 ∧ IsPlain session.key.2
  awaited : isTransition session.state = true → A session.key session.state session.instanceId

section Awaiting

variable {env : Env config} {K M M' : List QueuedEvent} {P : QueuedEvent → Prop}
  {A A' : SessionKey → VirtualDesktopSessionState → Option String → Prop} {s : Store}
  {session : VirtualDesktopSession} {message : QueuedEvent}

theorem Awaiting.of_extends {s' : Store} (h : Awaiting K M P A s) (hs : s.Extends s') :
    Awaiting K M P A s' where
  queue := h.queue.trans hs.queue
  added := List.Subset.trans h.added hs.queue.subset
  sent event hevent := by
    rcases hs.sent event hevent with hold | hnew
    · exact (h.sent event hold).imp_left fun hq => hs.queue.subset hq
    · exact .inl hnew
  plain := by
    rw [hs.sessions]
    exact h.plain
  awaited := by
    rw [hs.sessions]
    exact h.awaited

theorem Awaiting.overwrite (h : Awaiting K M P A s) (hG : Expected A' session)
    (hA : ∀ key state i, key ≠ session.key → A key state i → A' key state i) :
    Awaiting K M P A' (s.after env (.updateSession session)) where
  queue := h.queue
  added := h.added
  sent := h.sent
  plain {key row} hrow := by
    simp only [Store.after, Dict.get?_set] at hrow
    split at hrow
    · next hkey => exact hkey ▸ hG.plain
    · exact h.plain hrow
  awaited {key row} hrow hstate := by
    simp only [Store.after, Dict.get?_set] at hrow
    split at hrow
    · next hkey =>
      obtain rfl := Option.some.inj hrow
      exact hkey ▸ hG.awaited hstate
    · next hkey => exact hA _ _ _ hkey (h.awaited hrow hstate)

variable {key : SessionKey}

theorem Awaiting.erase (h : Awaiting K M P A s)
    (hA : ∀ k state i, k ≠ key → A k state i → A' k state i) :
    Awaiting K M P A' (s.after env (.deleteSession key)) where
  queue := h.queue
  added := h.added
  sent := h.sent
  plain {k row} hrow := by
    simp only [Store.after, Dict.get?_erase] at hrow
    split at hrow
    · cases hrow
    · exact h.plain hrow
  awaited {k row} hrow hstate := by
    simp only [Store.after, Dict.get?_erase] at hrow
    split at hrow
    · cases hrow
    · next hkey => exact hA _ _ _ hkey (h.awaited hrow hstate)

theorem Awaiting.write (h : Awaiting K M P A s) (hG : Expected A session) :
    Awaiting K M P A (s.after env (.updateSession session)) :=
  h.overwrite hG fun _ _ _ _ hA => hA

theorem Awaiting.mono (h : Awaiting K M P A s) (hA : ∀ key state i, A key state i → A' key state i) :
    Awaiting K M P A' s :=
  ⟨h.queue, h.added, h.sent, h.plain, fun hrow hstate => hA _ _ _ (h.awaited hrow hstate)⟩

theorem Expected.mono (h : Expected A session)
    (hA : ∀ key state i, A key state i → A' key state i) : Expected A' session :=
  ⟨h.plain, fun hstate => hA _ _ _ (h.awaited hstate)⟩

theorem Awaiting.publish {event : QueuedEvent} (h : Awaiting K M P A s)
    (haccepts : env.repeats event = true → ¬ P event) :
    Awaiting K (event :: M) P A (s.after env (.publish event)) := by
  have hsend : s.Extends (s.send env event) := send_extends event s
  have hextended := h.of_extends hsend
  refine ⟨hextended.queue, ?_, hextended.sent, hextended.plain, hextended.awaited⟩
  refine List.cons_subset.mpr ⟨?_, hextended.added⟩
  change event ∈ (s.send env event).queue
  unfold Store.send
  split
  · next hrepeats =>
    obtain ⟨hrepeats, hcontains⟩ := Bool.and_eq_true_iff.mp hrepeats
    exact (h.sent event (List.contains_iff_mem.mp hcontains)).resolve_right (haccepts hrepeats)
  · exact List.mem_append_right _ (List.mem_singleton.mpr rfl)

theorem Awaiting.expected {row : VirtualDesktopSession} (h : Awaiting K M P A s)
    (hrow : s.sessions.get? key = some row) : Expected A (SessionDB.readEntry key row) := by
  refine ⟨h.plain hrow, fun hstate => ?_⟩
  rw [readEntry_instanceId]
  exact h.awaited hrow hstate

theorem awaitingRules : EntryRules env (Awaiting K M P A) (Expected A) where
  other hcall h := h.of_extends (after_extends hcall _)
  read h hrow := h.expected hrow
  same {a b} hG hkey hi hstate := by
    refine ⟨hkey ▸ hG.plain, fun h => ?_⟩
    rw [hkey, hi, hstate]
    exact hG.awaited (hstate ▸ h)
  update hG h := h.write hG

variable {state : VirtualDesktopSessionState}

theorem Expected.enters (A : SessionKey → VirtualDesktopSessionState → Option String → Prop)
    (h : isTransition state = false) : Rules.Enters (Expected A) state := fun _ hG =>
  ⟨hG.plain, fun hstate => nomatch h.symm.trans hstate⟩

theorem Expected.entersRoutineStates : EntersRoutineStates (Expected A) :=
  ⟨enters A rfl, enters A rfl, enters A rfl, enters A rfl⟩

/-- An event was sent and is in the queue no more. -/
def Store.Gone (s : Store) (event : QueuedEvent) : Prop :=
  event ∈ s.published ∧ event ∉ s.queue

theorem Store.Accepts.not_gone {event : QueuedEvent} (h : s.Accepts env event) :
    env.repeats event = true → ¬ s.Gone event := fun hrepeats hgone =>
  hgone.2 (h hrepeats hgone.1)

abbrev Spared (config : Config) (K M : List QueuedEvent) (message : QueuedEvent) :
    SessionKey → VirtualDesktopSessionState → Option String → Prop :=
  ServedBy config (K.erase message ++ M)

def Needed (config : Config) (K M : List QueuedEvent) (message : QueuedEvent) (key : SessionKey)
    (state : VirtualDesktopSessionState) (instanceId : Option String) : Prop :=
  Spared config K M message key state instanceId ∨ Serves config message key state instanceId

def Store.Released (config : Config) (message : QueuedEvent) (s : Store) : Prop :=
  Store.Attended config { s with queue := s.queue.erase message }

theorem Store.Attended.awaiting (h : s.Attended config) :
    Awaiting s.queue [] s.Gone (Needed config s.queue [] message) s where
  queue := List.prefix_rfl
  added := List.nil_subset _
  sent event hevent := by
    by_cases hq : event ∈ s.queue
    · exact .inl hq
    · exact .inr ⟨hevent, hq⟩
  plain := h.plain
  awaited hrow hstate := by
    obtain ⟨m, hm, hserves⟩ := h.served hrow hstate
    by_cases heq : m = message
    · exact .inr (heq ▸ hserves)
    · exact .inl ⟨m, List.mem_append_left _ ((List.mem_erase_of_ne heq).mpr hm), hserves⟩

theorem Awaiting.attended (h : Awaiting K M P (Needed config K M message) s)
    (hmessage : message ∈ K) : s.Attended config where
  plain := h.plain
  served hrow hstate := by
    rcases h.awaited hrow hstate with ⟨m, hm, hserves⟩ | hserves
    · refine ⟨m, ?_, hserves⟩
      rcases List.mem_append.mp hm with hm | hm
      · exact h.queue.subset (List.mem_of_mem_erase hm)
      · exact h.added hm
    · exact ⟨message, h.queue.subset hmessage, hserves⟩

theorem Awaiting.released (h : Awaiting K M P (Spared config K M message) s)
    (hmessage : message ∈ K) (hM : ∀ m ∈ M, m ≠ message) : s.Released config message where
  plain := h.plain
  served hrow hstate := by
    obtain ⟨m, hm, hserves⟩ := h.awaited hrow hstate
    refine ⟨m, ?_, hserves⟩
    rcases List.mem_append.mp hm with hm | hm
    · obtain ⟨l, hl⟩ := h.queue
      rw [← hl, List.erase_append_left _ hmessage]
      exact List.mem_append_left _ hm
    · exact (List.mem_erase_of_ne (hM m hm)).mpr (h.added hm)

theorem Awaiting.spared (h : Awaiting K M P (Spared config K M message) s)
    (hmessage : message ∈ K) (hM : ∀ m ∈ M, m ≠ message) :
    s.Released config message ∧ s.Attended config :=
  ⟨h.released hmessage hM, (h.mono fun _ _ _ => .inl).attended hmessage⟩

theorem Awaiting.spare (h : Awaiting K M P (Needed config K M message) s)
    (hserves : ∀ {key row}, s.sessions.get? key = some row →
      ¬ Serves config message key row.state row.instanceId) :
    Awaiting K M P (Spared config K M message) s :=
  ⟨h.queue, h.added, h.sent, h.plain, fun hrow hstate =>
    (h.awaited hrow hstate).resolve_right (hserves hrow)⟩

variable {i : Option String}

theorem Serves.named {row : VirtualDesktopSession} (h : Serves config message key state i)
    (hrow : s.sessions.get? key = some row) :
    s.named message = some (SessionDB.readEntry key row) := by
  have hkey : SessionDB.sessionKey (getValueAsString message.ideaSessionOwner)
      (getValueAsString message.ideaSessionId) = some key := h.1
  rw [Store.named, Store.find, hkey, Option.bind_some, hrow]
  rfl

theorem Serves.creating (h : Serves config message key state i)
    (htype : message.eventType = .DCV_HOST_READY_EVENT) :
    state = .CREATING ∧ message.sender.instanceId = i ∧ isEmptyString i = false := by
  obtain ⟨-, h⟩ := h
  cases state with
  | CREATING => exact ⟨rfl, h.2⟩
  | INITIALIZING | DELETING => exact nomatch htype.symm.trans h.1
  | _ => exact h.elim

theorem Serves.initializing (h : Serves config message key state i)
    (htype : message.eventType = .VALIDATE_DCV_SESSION_CREATION_EVENT) :
    state = .INITIALIZING ∧ isSenderControllerRole config message = true := by
  obtain ⟨-, h⟩ := h
  cases state with
  | INITIALIZING => exact ⟨rfl, h.2⟩
  | CREATING | DELETING => exact nomatch htype.symm.trans h.1
  | _ => exact h.elim

theorem Serves.deleting (h : Serves config message key state i)
    (htype : message.eventType = .VALIDATE_DCV_SESSION_DELETION_EVENT) :
    state = .DELETING ∧ isSenderControllerRole config message = true := by
  obtain ⟨-, h⟩ := h
  cases state with
  | DELETING => exact ⟨rfl, h.2⟩
  | CREATING | INITIALIZING => exact nomatch htype.symm.trans h.1
  | _ => exact h.elim

def isAwaited : VirtualDesktopEventType → Bool
  | .DCV_HOST_READY_EVENT | .VALIDATE_DCV_SESSION_CREATION_EVENT
  | .VALIDATE_DCV_SESSION_DELETION_EVENT => true
  | _ => false

theorem Serves.isAwaited (h : Serves config message key state i) :
    isAwaited message.eventType = true := by
  obtain ⟨-, h⟩ := h
  cases state with
  | CREATING | INITIALIZING | DELETING =>
    rw [h.1]
    rfl
  | _ => exact h.elim

theorem isEmptyString_of_isPlain {text : String} (h : IsPlain text) :
    isEmptyString (some text) = false := by
  unfold IsPlain getAsString at h
  split at h
  · cases h
  · next hblank => exact Bool.eq_false_iff.mpr hblank

theorem sessionKey_of_isPlain (h : IsPlain key.1 ∧ IsPlain key.2) :
    SessionDB.sessionKey (getValueAsString (some key.1)) (getValueAsString (some key.2)) =
      some key := by
  have howner : getValueAsString (some key.1) = some key.1 := h.1
  have hid : getValueAsString (some key.2) = some key.2 := h.2
  rw [howner, hid, SessionDB.sessionKey, isEmptyString_of_isPlain h.1, isEmptyString_of_isPlain h.2]
  rfl

theorem isSenderControllerRole_self {event : QueuedEvent} (h : event.sender = config.sender) :
    isSenderControllerRole config event = true := by
  rw [isSenderControllerRole, h, config.sender_role]
  simp

theorem serves_validateCreation (h : IsPlain key.1 ∧ IsPlain key.2) (i : Option String) :
    Serves config (validateCreationEvent env key) key .INITIALIZING i :=
  ⟨sessionKey_of_isPlain h, rfl, isSenderControllerRole_self rfl⟩

theorem serves_validateDeletion (h : IsPlain key.1 ∧ IsPlain key.2) (i : Option String) :
    Serves config (validateDeletionEvent config key) key .DELETING i :=
  ⟨sessionKey_of_isPlain h, rfl, isSenderControllerRole_self rfl⟩

end Awaiting

end Idea.VirtualDesktop.Controller

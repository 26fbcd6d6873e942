import Idea.VirtualDesktop.Lifecycle

/-! # Instances and the sessions they were launched for

An instance is launched before the entry of its session is written, and the handler of deletions
deletes the entry before it terminates the instance. So an instance without an entry is left when a
call between the two raises. A termination of stopped sessions asks for the termination first, but
goes on when it is refused.
-/

namespace Idea.VirtualDesktop.Controller

open Stateful (Triple Ends Yields Keeps)

open Rules (CreationRules ScheduleRules)

variable {config : Config}

/-- Each instance that was launched and whose termination was not accepted is named by the entry of
its session. -/
def Store.NoOrphan (store : Store) : Prop :=
  ∀ i key, (i, key) ∈ store.launched → i ∉ store.terminated →
    ∃ row, store.sessions.get? key = some row ∧ row.instanceId = some i

/-- The calls of a creation between the launch of the instance and the entry of the session. -/
inductive CreationCall (env : Env config) (new : NewSession) (i : String) : Call → Prop
  | putServer {server} : CreationCall env new i (.putServer i server)
  | serverEvent :
      CreationCall env new i (.publish (entryEvent config .DB_ENTRY_CREATED_EVENT .servers i ""))
  | getDefaultSchedules : CreationCall env new i .getDefaultSchedules
  | deleteSchedule {day schedule k} : new.schedule day = some schedule →
      scheduleKey schedule = some k → CreationCall env new i (.deleteSchedule k)
  | deleteEvent {day schedule k} : new.schedule day = some schedule →
      scheduleKey schedule = some k → CreationCall env new i
        (.publish (entryEvent config .DB_ENTRY_DELETED_EVENT .schedules "" k.2))
  | putSchedule {day schedule} : schedule.ideaSessionOwner = some new.key.1 →
      CreationCall env new i (.putSchedule (day, env.scheduleUuid day) schedule)
  | createEvent {day} : CreationCall env new i
      (.publish (entryEvent config .DB_ENTRY_CREATED_EVENT .schedules "" (env.scheduleUuid day)))
  | putSession {session} : session.key = new.key → CreationCall env new i (.putSession session)

/-- Once the instance is launched, the creation gets to the entry of the session. -/
def CreationCompletes (env : Env config) (new : NewSession) : Prop :=
  ∀ i, env.runInstances = .ok (some i) → ∀ call, CreationCall env new i call →
    env.raises call = none

def Store.stoppedSessions (store : Store) (requests : List SessionRequest) :
    List VirtualDesktopSession :=
  (requests.filterMap store.requested).filter (isStopped ·)

/-- The termination of stopped sessions is not answered by a client error, or else their entries
cannot be deleted. -/
def TerminationAccepted (env : Env config) (store : Store) (requests : List SessionRequest) :
    Prop :=
  ∀ code text,
    env.raises (.terminateInstances
        (((store.stoppedSessions requests).filterMap (·.server)).map (·.instanceId))) =
      some (.clientError code text) →
    ∀ session ∈ store.stoppedSessions requests, (env.raises (.deleteSession session.key)).isSome

/-- The entry of a session cannot be deleted, or nothing raises until its instance is
terminated. -/
def DeletionCompletes (env : Env config) (key : SessionKey) (i : String) : Prop :=
  (env.raises (.deleteSession key)).isSome ∨
    env.raises (.publish (entryEvent config .DB_ENTRY_DELETED_EVENT .sessions key.1 key.2)) = none ∧
      env.raises (.terminateInstances [some i]) = none

def ValidationCompletes (env : Env config) (message : QueuedEvent) (store : Store) : Prop :=
  ∀ key row i, messageKey message = some key → store.sessions.get? key = some row →
    row.state = .DELETING → row.instanceId = some i →
      ValidateDCVSessionDeletion.mayProceed env (SessionDB.readEntry key row) = true →
        DeletionCompletes env key i

/-- No call fails between the two parts of an operation that launches or terminates an instance. -/
def Step.Completes (store : Store) (step : Step config) : Prop :=
  match step.operation with
  | .createSession new => CreationCompletes step.env new
  | .terminateSessions requests => TerminationAccepted step.env store requests
  | .deliver message =>
    (message.eventType = .IDEA_SESSION_TERMINATE_EVENT →
        TerminationAccepted step.env store [SessionState.terminateRequest message]) ∧
      (message.eventType = .VALIDATE_DCV_SESSION_DELETION_EVENT →
        ValidationCompletes step.env message store)
  | _ => True

/-- The launched instances; those of the second list that are not in the third are named by the
entries of their sessions. -/
structure Held (L P : List (String × SessionKey)) (T : List String) (s : Store) : Prop where
  launched : s.launched = L
  terminated : T ⊆ s.terminated
  entry : ∀ {i key}, (i, key) ∈ P → i ∉ T →
    ∃ row, s.sessions.get? key = some row ∧ row.instanceId = some i

def Matches (P : List (String × SessionKey)) (T : List String)
    (session : VirtualDesktopSession) : Prop :=
  ∀ i, (i, session.key) ∈ P → i ∉ T → session.instanceId = some i

variable {message : QueuedEvent}

section Held

variable {env : Env config} {L P : List (String × SessionKey)} {T T' : List String}
  {s : Store} {session : VirtualDesktopSession}

theorem Store.NoOrphan.held (h : s.NoOrphan) : Held s.launched s.launched s.terminated s :=
  ⟨rfl, List.Subset.refl _, fun hl ht => h _ _ hl ht⟩

theorem Held.noOrphan (h : Held L L T s) : s.NoOrphan := by
  intro i key hl ht
  exact h.entry (h.launched ▸ hl) fun hmem => ht (h.terminated hmem)

theorem Held.of_extends {s' : Store} (h : Held L P T s) (hs : s.Extends s') : Held L P T s' where
  launched := hs.launched.trans h.launched
  terminated := List.Subset.trans h.terminated hs.terminated
  entry hl ht := hs.sessions ▸ h.entry hl ht

theorem Matches.mono (h : Matches P T session) (hT : T ⊆ T') : Matches P T' session :=
  fun i hi ht => h i hi fun hmem => ht (hT hmem)

theorem Held.write (h : Held L P T s) (hm : Matches P T session) :
    Held L P T { s with sessions := s.sessions.set session.key (session.stored env) } where
  launched := h.launched
  terminated := h.terminated
  entry {i key} hl ht := by
    simp only [Dict.get?_set]
    split
    · next hkey => exact ⟨_, rfl, hm i (hkey ▸ hl) ht⟩
    · exact h.entry hl ht

theorem Held.erase {key : SessionKey} (h : Held L P T s)
    (hkey : ∀ i, (i, key) ∈ P → i ∈ T) :
    Held L P T { s with sessions := s.sessions.erase key } where
  launched := h.launched
  terminated := h.terminated
  entry {i k} hl ht := by
    have hne : k ≠ key := by
      rintro rfl
      exact ht (hkey i hl)
    simpa only [Dict.get?_erase_ne _ hne] using h.entry hl ht

theorem heldRules : EntryRules env (Held L P T) (Matches P T) where
  other hcall h := h.of_extends (after_extends hcall _)
  read {key s row} h hrow i hl ht := by
    obtain ⟨row', hrow', hi⟩ := h.entry hl ht
    obtain rfl := Option.some.inj (hrow.symm.trans hrow')
    exact (readEntry_instanceId key row).trans hi
  same {a b} hm hkey hi _ i hl ht := by
    rw [hi]
    exact hm i (hkey ▸ hl) ht
  update hm h := h.write hm

theorem enters (state : VirtualDesktopSessionState) : Rules.Enters (Matches P T) state :=
  fun _ h => h

theorem entersRoutineStates : EntersRoutineStates (Matches P T) :=
  ⟨enters _, enters _, enters _, enters _⟩

theorem Held.create {i : String} (h : Held L P T s) (hkey : session.key ∉ P.map (·.2))
    (hi : session.instanceId = some i) :
    Held L (P ++ [(i, session.key)]) T
      { s with sessions := s.sessions.set session.key (session.stored env) } := by
  have hm : Matches P T session := fun i' hl _ => absurd (List.mem_map.mpr ⟨_, hl, rfl⟩) hkey
  have hwrite : Held L P T { s with sessions := s.sessions.set session.key (session.stored env) } :=
    h.write hm
  refine ⟨hwrite.launched, hwrite.terminated, fun {i' key} hl ht => ?_⟩
  rcases List.mem_append.mp hl with hl | hl
  · exact hwrite.entry hl ht
  · obtain ⟨rfl, rfl⟩ := Prod.mk.inj (List.mem_singleton.mp hl)
    refine ⟨session.stored env, ?_, hi⟩
    simp only [Dict.get?_set, if_pos]

theorem creationRules {new : NewSession} (hrun : ∀ i, env.runInstances ≠ .ok (some i))
    (hkey : new.key ∉ P.map (·.2)) : CreationRules env (Held L P T) new where
  quiet hcall h := heldRules.toRules.quiet hcall h
  launch h _ := absurd h (hrun _)
  putServer h _ := absurd h (hrun _)
  deleteSchedule _ _ h := heldRules.other rfl h
  putSchedule _ h := heldRules.other rfl h
  putSession {session s} hk _ _ _ h := by
    refine h.write fun i hl _ => absurd ?_ hkey
    exact List.mem_map.mpr ⟨_, hl, hk⟩

theorem perform_ends {I : Store → Prop} {call : Call} (hnone : env.raises call = none)
    (h : ∀ s, I s → I (s.after env call)) :
    Ends I (fun _ _ => False) (perform env call) fun _ => True :=
  perform_triple (fun s hs _ => ⟨h s hs, trivial⟩) fun _ _ _ he => by cases hnone.symm.trans he

theorem launchedRules {new : NewSession} {i : String}
    (hcalls : ∀ call, CreationCall env new i call → env.raises call = none) :
    ScheduleRules env (Held L P T) (fun _ _ => False) new.key new.schedule where
  deleteSchedule hcurrent hk :=
    perform_ends (hcalls _ (.deleteSchedule hcurrent hk)) fun _ => heldRules.other rfl
  deleteEvent hcurrent hk :=
    perform_ends (hcalls _ (.deleteEvent hcurrent hk)) fun _ => heldRules.other rfl
  putSchedule howner := perform_ends (hcalls _ (.putSchedule howner)) fun _ => heldRules.other rfl
  createEvent := perform_ends (hcalls _ .createEvent) fun _ => heldRules.other rfl

section Launched

variable {new : NewSession} {i : String}

theorem provisionHostForSession_launched (hrun : env.runInstances = .ok (some i))
    (hcalls : ∀ call, CreationCall env new i call → env.raises call = none) :
    Triple (Held L P T) (provisionHostForSession env new.server new.key)
      (fun r s => Held (L ++ [(i, new.key)]) P T s ∧
        ∃ server, r = some server ∧ server.instanceId = some i) fun _ _ => False := by
  simp only [provisionHostForSession, runInstances, hrun]
  refine Triple.bind (Q := fun r s => r = some i ∧ Held (L ++ [(i, new.key)]) P T s) ?_ fun r => ?_
  · refine Triple.bind (Q := fun _ => Held (L ++ [(i, new.key)]) P T) ?_ fun _ => ?_
    · exact Triple.modify fun s h => ⟨by rw [h.launched], h.terminated, h.entry⟩
    · exact Triple.pure fun s h => ⟨rfl, h⟩
  refine Triple.of_forall ?_
  rintro s ⟨rfl, hs⟩
  refine Triple.pre ?_ (by rintro _ rfl; exact hs)
  have hcreate : Ends (Held (L ++ [(i, new.key)]) P T) (fun _ _ => False)
      (ServerDB.create env i new.server new.key) fun server => server.instanceId = some i := by
    refine (perform_ends (hcalls _ .putServer) fun _ => heldRules.other rfl).bind fun _ _ => ?_
    refine (perform_ends (hcalls _ .serverEvent) fun _ => heldRules.other rfl).bind fun _ _ => ?_
    exact .pure rfl
  exact Triple.bind hcreate fun server => Triple.pure fun s h => ⟨h.1, server, rfl, h.2⟩

theorem createEntry_launched (hkey : session.key ∉ P.map (·.2))
    (hi : session.instanceId = some i) (hput : env.raises (.putSession session) = none) :
    Triple (Held L P T) (SessionDB.create env session)
      (fun _ => Held L (P ++ [(i, session.key)]) T)
      (fun _ => Held L (P ++ [(i, session.key)]) T) := by
  have hwrite : Triple (Held L P T) (perform env (.putSession session))
      (fun _ => Held L (P ++ [(i, session.key)]) T)
      (fun _ => Held L (P ++ [(i, session.key)]) T) :=
    perform_triple (fun s h _ => h.create hkey hi) fun _ _ _ he => by cases hput.symm.trans he
  have hevent : Keeps (Held L (P ++ [(i, session.key)]) T)
      (triggerCreateEvent env .sessions session.owner session.ideaSessionId) :=
    heldRules.perform_keeps rfl
  exact hwrite.bind fun _ => (hevent.triple fun _ _ h => h).bind fun _ => Triple.pure fun _ h => h

theorem createSession_launched (hrun : env.runInstances = .ok (some i))
    (hcalls : ∀ call, CreationCall env new i call → env.raises call = none)
    (hkey : new.key ∉ P.map (·.2)) :
    Triple (Held L P T) (createSession env new)
      (fun _ => Held (L ++ [(i, new.key)]) (P ++ [(i, new.key)]) T)
      (fun _ => Held (L ++ [(i, new.key)]) (P ++ [(i, new.key)]) T) := by
  refine Triple.bind (Q := fun r s => Held (L ++ [(i, new.key)]) P T s ∧
    ∃ server, r = .ok (some server) ∧ server.instanceId = some i) ?_ fun r => ?_
  · refine (Triple.attempt (provisionHostForSession_launched hrun hcalls)).post fun r s h => ?_
    rcases r with e | r
    · exact (h.2 e rfl).elim
    · obtain ⟨hs, server, rfl, hi⟩ := h.1 r rfl
      exact ⟨hs, server, rfl, hi⟩
  refine Triple.of_forall ?_
  rintro s ⟨hs, server, rfl, hi⟩
  refine Triple.pre ?_ (by rintro _ rfl; exact hs)
  have hdefaults : Ends (Held (L ++ [(i, new.key)]) P T) (fun _ _ => False)
      (perform env .getDefaultSchedules) fun _ => True :=
    perform_ends (hcalls _ .getDefaultSchedules) fun _ => heldRules.other rfl
  refine Triple.bind (hdefaults.triple fun _ _ h => h.elim) fun _ => ?_
  refine Triple.bind ((Rules.updateScheduleForSession_ends (launchedRules hcalls)).triple
    fun _ _ h => h.elim) fun schedule => ?_
  have hentry : Triple (Held (L ++ [(i, new.key)]) P T)
      (SessionDB.create env (new.entry server schedule))
      (fun _ => Held (L ++ [(i, new.key)]) (P ++ [(i, new.key)]) T)
      (fun _ => Held (L ++ [(i, new.key)]) (P ++ [(i, new.key)]) T) :=
    createEntry_launched hkey hi (hcalls _ (.putSession rfl))
  exact hentry.bind fun _ => Triple.pure fun _ h => h

end Launched

theorem deleteSession_keeps (hm : Matches P T session)
    (h : (env.raises (.deleteSession session.key)).isSome ∨
      ∀ i, (i, session.key) ∈ P → i ∈ T) :
    Keeps (Held L P T) (deleteSession env session) := by
  refine (heldRules.toRules.deleteSchedulesForSession_keeps hm).bind fun _ _ => ?_
  refine (heldRules.toRules.deletePermissionsForSession_keeps hm).bind fun _ _ => ?_
  refine (Rules.deleteEntry_keeps ?_ (heldRules.perform_keeps rfl)).bind fun _ _ => .pure trivial
  refine perform_triple (fun s hs hnone => ⟨?_, trivial⟩) fun _ _ hs _ => hs
  rcases h with h | h
  · rw [hnone] at h
    cases h
  · exact hs.erase h

/-- The held instances whose termination was accepted in the meantime need no entry. -/
def HeldStill (L P : List (String × SessionKey)) (T : List String) (s : Store) : Prop :=
  ∃ T', T ⊆ T' ∧ Held L P T' s

theorem Held.still (h : Held L P T s) : HeldStill L P T s := ⟨T, List.Subset.refl _, h⟩

variable {instanceIds : List (Option String)}

theorem Held.terminate (h : Held L P T s) :
    Held L P (T ++ instanceIds.filterMap id) (s.after env (.terminateInstances instanceIds)) where
  launched := h.launched
  terminated := List.append_subset.mpr
    ⟨List.Subset.trans h.terminated (List.subset_append_left _ _), List.subset_append_right _ _⟩
  entry hl ht := h.entry hl fun hmem => ht (List.mem_append_left _ hmem)

theorem performOrAnswer_terminate :
    Triple (Held L P T) (performOrAnswer env (.terminateInstances instanceIds))
      (fun answer s => (∃ code text,
          env.raises (.terminateInstances instanceIds) = some (.clientError code text)) ∧
          answer.isSome ∧ Held L P T s ∨
        answer = none ∧ Held L P (T ++ instanceIds.filterMap id) s)
      fun _ s => (env.raises (.terminateInstances instanceIds)).isSome ∧ Held L P T s := by
  have hcall : Triple (Held L P T) (perform env (.terminateInstances instanceIds))
      (fun _ => Held L P (T ++ instanceIds.filterMap id))
      (fun e s => env.raises (.terminateInstances instanceIds) = some e ∧ Held L P T s) :=
    perform_triple (fun _ h _ => h.terminate) fun _ _ h he => ⟨he, h⟩
  refine Triple.bind (Triple.attempt hcall) fun outcome => ?_
  refine Triple.of_forall fun s h => ?_
  split
  · refine Triple.pure ?_
    rintro _ rfl
    exact .inr ⟨rfl, h.1 _ rfl⟩
  · refine Triple.pure ?_
    rintro _ rfl
    exact .inl ⟨⟨_, _, (h.2 _ rfl).1⟩, rfl, (h.2 _ rfl).2⟩
  · refine Triple.raise ?_
    rintro _ rfl
    exact ⟨Option.isSome_iff_exists.mpr ⟨_, (h.2 _ rfl).1⟩, (h.2 _ rfl).2⟩

theorem terminateDcvHosts_held :
    Triple (Held L P T) (terminateDcvHosts env instanceIds)
      (fun _ s => (∃ code text,
          env.raises (.terminateInstances instanceIds) = some (.clientError code text)) ∧
          Held L P T s ∨
        Held L P (T ++ instanceIds.filterMap id) s)
      fun _ s => (env.raises (.terminateInstances instanceIds)).isSome ∧ Held L P T s ∨
        Held L P (T ++ instanceIds.filterMap id) s := by
  unfold terminateDcvHosts
  refine Triple.ite (fun hempty => ?_) fun _ => ?_
  · rw [List.isEmpty_iff] at hempty
    subst hempty
    exact Triple.pure fun s h => .inr (by simpa using h)
  refine Triple.bind (performOrAnswer_terminate.consequence (fun _ h => h) (fun _ _ h => h)
    fun _ _ h => .inl h) fun answer => Triple.of_forall fun s h => ?_
  rcases h with ⟨hclient, hanswer, hs⟩ | ⟨rfl, hs⟩
  · obtain ⟨text, rfl⟩ := Option.isSome_iff_exists.mp hanswer
    exact Triple.pure fun s' hs' => .inl ⟨hclient, hs' ▸ hs⟩
  · have hloop : Keeps (Held L P (T ++ instanceIds.filterMap id))
        (Stateful.forEach (removeServer env) instanceIds) :=
      .forEach fun i _ => heldRules.toRules.removeServer_keeps (heldRules.writable i)
    refine Triple.pre ?_ (by rintro _ rfl; exact hs)
    exact Triple.bind (hloop.triple fun _ _ h => .inr h) fun _ => Triple.pure fun _ h => .inr h

theorem terminateStopped_held {stopped : List VirtualDesktopSession}
    (haccepted : ∀ code text,
      env.raises (.terminateInstances ((stopped.filterMap (·.server)).map (·.instanceId))) =
        some (.clientError code text) →
      ∀ session ∈ stopped, (env.raises (.deleteSession session.key)).isSome)
    (hstopped : ∀ session ∈ stopped, Matches P T session) :
    Triple (Held L P T) (terminateStopped env stopped) (fun _ => HeldStill L P T)
      fun _ => HeldStill L P T := by
  refine Triple.bind (terminateDcvHosts_held.consequence (fun _ h => h) (fun _ _ h => h) ?_)
    fun answer => Triple.of_forall fun s h => ?_
  · rintro _ s (⟨-, hs⟩ | hs)
    · exact hs.still
    · exact ⟨_, List.subset_append_left _ _, hs⟩
  rcases h with ⟨⟨code, text, hclient⟩, hs⟩ | hs
  · have hdelete : Keeps (Held L P T) (Stateful.collect (deleteSession env) stopped) :=
      Yields.keeps (Ends.collect (q := fun _ => True) fun session hsession =>
        deleteSession_keeps (hstopped session hsession) (.inl (haccepted _ _ hclient session hsession)))
    refine Triple.pre ?_ (by rintro _ rfl; exact hs)
    exact (hdelete.triple fun _ _ h => h).consequence (fun _ h => h) (fun _ _ h => h.still)
      fun _ _ h => h.still
  · have hdelete : Keeps
        (Held L P (T ++ ((stopped.filterMap (·.server)).map (·.instanceId)).filterMap id))
        (Stateful.collect (deleteSession env) stopped) := by
      refine Yields.keeps (Ends.collect (q := fun _ => True) fun session hsession => ?_)
      have hm := hstopped session hsession
      refine deleteSession_keeps (hm.mono (List.subset_append_left _ _)) (.inr fun i hl => ?_)
      by_cases ht : i ∈ T
      · exact List.mem_append_left _ ht
      obtain ⟨server, hserver, hi⟩ := Option.bind_eq_some_iff.mp (hm i hl ht)
      refine List.mem_append_right _ (List.mem_filterMap.mpr ⟨some i, ?_, rfl⟩)
      exact List.mem_map.mpr ⟨server, List.mem_filterMap.mpr ⟨session, hsession, hserver⟩, hi⟩
    refine Triple.pre ?_ (by rintro _ rfl; exact hs)
    exact (hdelete.triple fun _ _ h => h).consequence (fun _ h => h)
      (fun _ _ h => ⟨_, List.subset_append_left _ _, h⟩)
      fun _ _ h => ⟨_, List.subset_append_left _ _, h⟩

theorem terminateSessions_held {requests : List SessionRequest} (hs : Held L P T s)
    (haccepted : TerminationAccepted env s requests) :
    Triple (· = s) (terminateSessions env requests) (fun _ => HeldStill L P T)
      fun _ => HeldStill L P T := by
  have hstill : ∀ (e : Raised) s, Held L P T s → HeldStill L P T s := fun _ _ h => h.still
  refine Triple.bind (Rules.findSessions_reads.consequence (fun _ h => h) (fun _ _ h => h)
    fun _ _ h => h ▸ hs.still) fun sessions => Triple.of_forall ?_
  rintro s ⟨rfl, rfl⟩
  have hsessions : ∀ session ∈ requests.filterMap s.requested, Matches P T session := by
    intro session hsession
    obtain ⟨request, -, hrequest⟩ := List.mem_filterMap.mp hsession
    have rules : EntryRules env (Held L P T) (Matches P T) := heldRules
    exact rules.toRules.requested hs (fun _ _ => trivial) hrequest
  refine Triple.pre ?_ (by rintro _ rfl; exact hs)
  refine Triple.bind ((heldRules.toRules.deleteDcvSessions_keeps _).triple hstill) fun answer => ?_
  have hmark : Yields (Held L P T) (Stateful.collect (markForValidation env .DELETING
      ((requests.filterMap s.requested).filter (!isStopped ·))) answer.1) fun _ => True :=
    Yields.keeps (Ends.collect fun _ _ => heldRules.toRules.markForValidation_yields (enters _)
      fun session h => hsessions session (List.mem_filter.mp h).1)
  refine Triple.bind (hmark.triple hstill) fun deleting => ?_
  refine Triple.bind (terminateStopped_held haccepted fun session h =>
    hsessions session (List.mem_filter.mp h).1) fun deleted => ?_
  refine Triple.of_forall fun s' ⟨T', hT, hs'⟩ => Triple.pre ?_ (by rintro _ rfl; exact hs')
  have hfailed : Keeps (Held L P T') (failedSessions
      ((requests.filterMap s.requested).filter (!isStopped ·)) answer.2) :=
    Rules.failedSessions_keeps _ _
  exact Triple.bind (hfailed.triple fun _ _ h => ⟨T', hT, h⟩) fun _ =>
    Triple.pure fun _ h => ⟨T', hT, h⟩

theorem Held.forget {key : SessionKey} (h : Held L P T s) :
    Held L (P.filter (·.2 ≠ key)) T { s with sessions := s.sessions.erase key } where
  launched := h.launched
  terminated := h.terminated
  entry {i k} hl ht := by
    obtain ⟨hl, hne⟩ := List.mem_filter.mp hl
    have hne : k ≠ key := of_decide_eq_true hne
    simpa only [Dict.get?_erase_ne _ hne] using h.entry hl ht

theorem Held.restore {i : String} (h : Held L (P.filter (·.2 ≠ session.key)) T' s) (hT : T ⊆ T')
    (hm : Matches P T session) (hi : session.instanceId = some i) (hterminated : i ∈ T') :
    Held L P T' s where
  launched := h.launched
  terminated := h.terminated
  entry {i' k} hl ht := by
    by_cases hk : k = session.key
    · subst hk
      have hi' := hm i' hl fun hmem => ht (hT hmem)
      obtain rfl := Option.some.inj (hi.symm.trans hi')
      exact absurd hterminated ht
    · exact h.entry (List.mem_filter.mpr ⟨hl, decide_eq_true hk⟩) ht

theorem Held.erase_absent {key : SessionKey} (h : Held L P T s)
    (habsent : s.sessions.get? key = none) :
    Held L P T { s with sessions := s.sessions.erase key } := by
  refine h.erase fun i hl => ?_
  by_contra ht
  obtain ⟨row, hrow, -⟩ := h.entry hl ht
  rw [habsent] at hrow
  cases hrow

theorem deleteEntryAndTerminate_held {i : String} (hm : Matches P T session)
    (hi : session.instanceId = some i)
    (hpublish : env.raises (.publish (entryEvent config .DB_ENTRY_DELETED_EVENT .sessions
      session.key.1 session.key.2)) = none)
    (hterminate : env.raises (.terminateInstances [some i]) = none) :
    Triple (Held L P T) (do
        SessionDB.delete env session
        let _ ← terminateDcvHosts env [some i]
        pure ())
      (fun _ => HeldStill L P T) fun _ => HeldStill L P T := by
  have hdelete : Triple (Held L P T) (SessionDB.delete env session)
      (fun _ => Held L (P.filter (·.2 ≠ session.key)) T) fun _ => Held L P T := by
    refine Triple.ite (fun _ => Triple.raise fun _ h => h) fun _ => Triple.get_bind fun s hs => ?_
    refine Triple.bind (Q := fun _ s' => s' = { s with sessions := s.sessions.erase session.key })
      ?_ fun _ => ?_
    · refine perform_triple ?_ ?_
      · rintro _ rfl _
        rfl
      · rintro _ _ rfl _
        exact hs
    refine Triple.ite (fun habsent => ?_) fun _ => ?_
    · refine Triple.raise ?_
      rintro _ rfl
      exact hs.erase_absent (Option.isNone_iff_eq_none.mp habsent)
    · refine Triple.pre ?_ (by rintro _ rfl; exact hs.forget)
      exact (perform_ends hpublish fun _ => heldRules.other rfl).triple fun _ _ h => h.elim
  refine Triple.bind (hdelete.consequence (fun _ h => h) (fun _ _ h => h) fun _ _ h => h.still)
    fun _ => ?_
  have hrestore : ∀ {T' s}, T ++ [i] ⊆ T' → Held L (P.filter (·.2 ≠ session.key)) T' s →
      HeldStill L P T s := fun {T' s} hT h => by
    have hTT' := List.Subset.trans (List.subset_append_left _ _) hT
    refine ⟨T', hTT', h.restore hTT' hm hi (hT ?_)⟩
    exact List.mem_append_right _ (List.mem_singleton.mpr rfl)
  have hhosts : Triple (Held L (P.filter (·.2 ≠ session.key)) T) (terminateDcvHosts env [some i])
      (fun _ => HeldStill L P T) fun _ => HeldStill L P T := by
    refine terminateDcvHosts_held.consequence (fun _ h => h) ?_ ?_
    · rintro _ s (⟨⟨code, text, hclient⟩, -⟩ | hs)
      · cases hterminate.symm.trans hclient
      · exact hrestore (List.Subset.refl _) hs
    · rintro _ s (⟨hraises, -⟩ | hs)
      · rw [hterminate] at hraises
        cases hraises
      · exact hrestore (List.Subset.refl _) hs
  exact Triple.bind hhosts fun _ => Triple.pure fun _ h => h

theorem deleteAndTerminate_held (hm : Matches P T session)
    (h : ∀ i, session.instanceId = some i → DeletionCompletes env session.key i) :
    Triple (Held L P T) (ValidateDCVSessionDeletion.deleteAndTerminate env session)
      (fun _ => HeldStill L P T) fun _ => HeldStill L P T := by
  have hstill : ∀ (e : Raised) s, Held L P T s → HeldStill L P T s := fun _ _ h => h.still
  refine Triple.bind ((heldRules.toRules.deleteSchedulesForSession_keeps hm).triple hstill)
    fun _ => ?_
  refine Triple.bind ((heldRules.toRules.deletePermissionsForSession_keeps hm).triple hstill)
    fun _ => ?_
  have hkept : (env.raises (.deleteSession session.key)).isSome ∨
      (∀ i, (i, session.key) ∈ P → i ∈ T) →
      Keeps (Held L P T) (SessionDB.delete env session) := fun h => by
    refine Rules.deleteEntry_keeps (perform_triple (fun s hs hnone => ⟨?_, trivial⟩) fun _ _ hs _ => hs)
      (heldRules.perform_keeps rfl)
    rcases h with h | h
    · rw [hnone] at h
      cases h
    · exact hs.erase h
  have hunterminated : ∀ rest : Action Unit, Keeps (Held L P T) rest →
      (env.raises (.deleteSession session.key)).isSome ∨ (∀ i, (i, session.key) ∈ P → i ∈ T) →
      Triple (Held L P T) (do
        SessionDB.delete env session
        rest) (fun _ => HeldStill L P T) fun _ => HeldStill L P T := fun rest hrest h =>
    Triple.bind ((hkept h).triple hstill) fun _ =>
      Triple.consequence hrest (fun _ h => h) (fun _ _ h => h.1.still) hstill
  have hterminates : ∀ server : VirtualDesktopServer,
      Keeps (Held L P T) (do
        let _ ← terminateDcvHosts env [server.instanceId]
        pure ()) := fun server =>
    (heldRules.toRules.terminateDcvHosts_keeps fun i _ => heldRules.writable i).bind
      fun _ _ => .pure trivial
  cases hi : session.instanceId with
  | none =>
    refine hunterminated _ ?_ (.inr fun i hl => ?_)
    · split
      · exact .pure trivial
      · exact hterminates _
    · by_contra ht
      cases hi.symm.trans (hm i hl ht)
  | some i =>
    rcases h i hi with hraises | ⟨hpublish, hterminate⟩
    · refine hunterminated _ ?_ (.inl hraises)
      split
      · exact .pure trivial
      · exact hterminates _
    · obtain ⟨server, hserver, hserverId⟩ := Option.bind_eq_some_iff.mp hi
      simp only [hserver, hserverId]
      exact deleteEntryAndTerminate_held hm hi hpublish hterminate

theorem validateDeletion_held (hs : Held L P T s) (h : ValidationCompletes env message s) :
    Triple (· = s) (ValidateDCVSessionDeletion.handleEvent env message)
      (fun _ => HeldStill L P T) fun _ => HeldStill L P T := by
  have hstill : ∀ (e : Raised) s, Held L P T s → HeldStill L P T s := fun _ _ h => h.still
  refine Triple.ite (fun _ => ?_) fun _ => Triple.raise fun _ h => h ▸ hs.still
  refine Triple.bind (Rules.getFromDb_reads.consequence (fun _ h => h) (fun _ _ h => h)
    fun _ _ h => h ▸ hs.still) fun found => Triple.of_forall ?_
  rintro _ ⟨rfl, hfound⟩
  cases found with
  | none => exact Triple.pure fun _ h => h ▸ hs.still
  | some session =>
    obtain ⟨key, row, hkey, hrow, rfl⟩ := Store.find_eq_some hfound
    have rules : EntryRules env (Held L P T) (Matches P T) := heldRules
    have hm : Matches P T (SessionDB.readEntry key row) := rules.read hs hrow
    refine Triple.ite (fun _ => ?_) fun _ => Triple.pure fun _ h => h ▸ hs.still
    refine Triple.pre ?_ (by rintro _ rfl; exact hs)
    have hdescribe : Keeps (Held L P T)
        (perform env (.describeDcvSessions (SessionDB.readEntry key row).dcvSessionId)) :=
      heldRules.perform_keeps rfl
    refine Triple.bind (hdescribe.triple hstill) fun _ => ?_
    refine Triple.ite (fun _ => Triple.raise fun _ h => h.still) fun hproceed => ?_
    refine Triple.ite (fun hdeleting => ?_) fun _ => ?_
    · refine Triple.bind (Triple.attempt (deleteAndTerminate_held hm fun i hi => ?_))
        fun outcome => Triple.pure fun s' h' => ?_
      · refine h key row i hkey hrow hdeleting ?_ (by simpa using hproceed)
        rwa [readEntry_instanceId] at hi
      · rcases outcome with e | a
        · exact h'.2 e rfl
        · exact h'.1 a rfl
    · have hstop : Keeps (Held L P T) (ValidateDCVSessionDeletion.continueStopSession env
          (SessionDB.readEntry key row)) :=
        heldRules.continueStopSession_keeps (enters _) (enters _) hm
      exact Triple.consequence hstop (fun _ h => h) (fun _ _ h => h.1.still) hstill

theorem handleTerminate_held (hs : Held L P T s)
    (h : TerminationAccepted env s [SessionState.terminateRequest message]) :
    Triple (· = s) (SessionState.handleTerminate env message)
      (fun _ => HeldStill L P T) fun _ => HeldStill L P T := by
  refine Triple.ite (fun _ => ?_) fun _ => Triple.raise fun _ h => h ▸ hs.still
  refine Triple.bind (terminateSessions_held hs h) fun answer => ?_
  split
  · exact Triple.pure fun _ h => h
  · exact Triple.raise fun _ h => h

end Held

theorem HeldStill.noOrphan {L : List (String × SessionKey)} {T : List String} {s : Store}
    (h : HeldStill L L T s) : s.NoOrphan := by
  obtain ⟨T', -, h⟩ := h
  exact h.noOrphan

theorem noOrphan_run {α : Type} {x : Action α} {s : Store}
    (h : Triple (· = s) x (fun _ => HeldStill s.launched s.launched s.terminated)
      fun _ => HeldStill s.launched s.launched s.terminated) : (x.run s).2.NoOrphan :=
  (Triple.any h rfl rfl).noOrphan

theorem noOrphan_settle {outcome : Except Raised Unit × Store} (h : outcome.2.NoOrphan) :
    (settle message outcome).NoOrphan := by
  unfold settle
  split
  · exact h
  · exact h

theorem createSession_noOrphan {env : Env config} {new : NewSession} {s : Store}
    (hs : s.NoOrphan) (hkey : new.key ∉ s.launched.map (·.2)) (h : CreationCompletes env new) :
    ((createSession env new).run s).2.NoOrphan := by
  by_cases hrun : ∃ i, env.runInstances = .ok (some i)
  · obtain ⟨i, hrun⟩ := hrun
    exact (Triple.any (createSession_launched hrun (h i hrun) hkey) hs.held rfl).noOrphan
  · have hrules := creationRules (L := s.launched) (T := s.terminated) (not_exists.mp hrun) hkey
    exact (run_keeps (Rules.createSession_keeps hrules) hs.held).noOrphan

theorem handleEvent_noOrphan {env : Env config} {s : Store} (hs : s.NoOrphan)
    (hterminate : message.eventType = .IDEA_SESSION_TERMINATE_EVENT →
      TerminationAccepted env s [SessionState.terminateRequest message])
    (hdelete : message.eventType = .VALIDATE_DCV_SESSION_DELETION_EVENT →
      ValidationCompletes env message s) : ((handleEvent env message).run s).2.NoOrphan := by
  cases hroutine : isRoutine message.eventType with
  | true =>
    exact (run_keeps (handleEvent_keeps heldRules entersRoutineStates hroutine) hs.held).noOrphan
  | false =>
    unfold handleEvent
    split <;> rename_i hevent <;> rw [hevent] at hroutine
    · exact (run_keeps (heldRules.hostReady_keeps (enters _) (enters _) (enters _))
        hs.held).noOrphan
    · cases hroutine
    · exact (run_keeps (heldRules.validateCreation_keeps (enters _) (enters _) (enters _))
        hs.held).noOrphan
    · exact noOrphan_run (validateDeletion_held hs.held (hdelete hevent))
    · cases hroutine
    · exact (run_keeps (heldRules.resumeProgress_keeps (enters _) (enters _)) hs.held).noOrphan
    all_goals first
      | cases hroutine; done
      | exact noOrphan_run (handleTerminate_held hs.held (hterminate hevent))

theorem step_noOrphan {s s' : Store} {step : Step config} (h : Takes s step s')
    (hs : s.NoOrphan) (hcompletes : step.Completes s) : s'.NoOrphan := by
  cases h with
  | step hadmits =>
    obtain ⟨operation, env⟩ := step
    cases hroutine : operation.isRoutine with
    | true => exact (apply_keeps heldRules entersRoutineStates hroutine hs.held).noOrphan
    | false =>
      cases operation with
      | createSession new => exact createSession_noOrphan hs hadmits.2.2.1 hcompletes
      | terminateSessions requests =>
        exact noOrphan_run (terminateSessions_held hs.held hcompletes)
      | arrive message => exact hs
      | deliver message =>
        change (deliver env message s).NoOrphan
        unfold deliver
        split
        · exact noOrphan_settle (handleEvent_noOrphan hs hcompletes.1 hcompletes.2)
        · exact hs
      | _ => cases hroutine

/-- In a run in which no call fails between the two parts of a launch or a termination, no instance
is orphaned. -/
theorem run_noOrphan {s₀ s : Store} {t : List (Edge Store (Step config))}
    (h : Run Takes s₀ t s) (h₀ : s₀.NoOrphan) (hcompletes : ∀ e ∈ t, e.label.Completes e.pre) :
    s.NoOrphan :=
  h.invariant_of Store.NoOrphan h₀ (fun hs hstep hc => step_noOrphan hstep hs hc) hcompletes

theorem empty_noOrphan : Store.empty.NoOrphan := fun _ _ hl => by cases hl

theorem run_noOrphan_creation : (creation.apply Store.empty).NoOrphan :=
  run_noOrphan (.single (.step newDesktop_admitted)) empty_noOrphan (by
    intro e he
    obtain rfl := List.mem_singleton.mp he
    intro i hi call hcall
    rfl)

def Env.refusing (config : Config) : Env config :=
  { Env.untroubled config with
    raises := fun call => match call with
      | .terminateInstances _ => some (.clientError "UnauthorizedOperation" "Not authorized")
      | _ => none
    raises_keeps := by
      intro call e h
      cases call <;> first | cases h; done | (obtain rfl := Option.some.inj h; rfl) }

def refusedTermination : Step controllerConfig :=
  ⟨.terminateSessions [⟨some "ada", some "session-1", none⟩], Env.refusing controllerConfig⟩

/-- The session of a refused termination is deleted, so that no later request finds its
instance. -/
theorem refused_termination_orphans : ¬ ∀ (t : List (Edge Store (Step controllerConfig))) s,
    Run Takes Store.empty t s → s.NoOrphan := by
  intro h
  have hcreate : Takes Store.empty creation (creation.apply Store.empty) :=
    .step newDesktop_admitted
  have hterminate : Takes (creation.apply Store.empty) refusedTermination
      (refusedTermination.apply (creation.apply Store.empty)) := .step trivial
  obtain ⟨row, hrow, -⟩ := h _ _ ((Run.single hcreate).append (.single hterminate)) "i-1"
    ("ada", "session-1") (by decide +kernel) (by decide +kernel)
  have hnone : ((refusedTermination.apply (creation.apply Store.empty)).sessions.get?
      ("ada", "session-1")).isNone = true := by decide +kernel
  rw [Option.isNone_iff_eq_none] at hnone
  cases hnone.symm.trans hrow

end Idea.VirtualDesktop.Controller

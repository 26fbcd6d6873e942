import Idea.VirtualDesktop.Transitions

/-! # The messages that sessions wait for are kept

A handler that raises keeps its message, and one that ends normally has moved its session out of
the state that the message is for. A session that enters such a state gets its message in the same
step unless a call raises in between.
-/

namespace Idea.VirtualDesktop.Controller

open Stateful (Triple Ends Yields Keeps)

variable {config : Config} {env : Env config}

def Kept (e : Raised) : Prop := deletesAfter (.error e) = false

abbrev RaisesKept {α : Type} (x : Action α) : Prop :=
  Ends (fun _ => True) (fun e _ => Kept e) x fun _ => True

theorem raise_kept {α : Type} {e : Raised} (h : Kept e) :
    RaisesKept (Stateful.raise e : Action α) :=
  Triple.raise fun _ _ => h

theorem perform_kept (call : Call) : RaisesKept (perform env call) :=
  perform_triple (fun _ _ _ => ⟨trivial, trivial⟩) fun _ _ _ h => env.raises_keeps _ _ h

theorem updateSession_kept (session : VirtualDesktopSession) :
    RaisesKept (SessionDB.update env session) :=
  (Rules.updateSession_returns (perform_kept _) (fun _ _ => rfl) (perform_kept _)).weaken
    fun _ _ => trivial

theorem getFromDb_kept (owner ideaSessionId : Option String) :
    RaisesKept (SessionDB.getFromDb env owner ideaSessionId) := by
  unfold SessionDB.getFromDb
  split
  · exact .pure trivial
  · exact (perform_kept _).bind fun _ _ => .get_bind fun _ => .pure trivial

theorem getCounter_kept (key : CounterKey) : RaisesKept (CounterDB.get env key) :=
  (perform_kept _).bind fun _ _ => .get_bind fun _ => .pure trivial

theorem enter_kept (state : VirtualDesktopSessionState) (session : VirtualDesktopSession) :
    RaisesKept (enter env state session) :=
  .ite (fun _ => .pure trivial) fun _ => updateSession_kept _

theorem onAccepted_kept (session : VirtualDesktopSession) (dcvSessionId : Option String)
    (counter : ℤ) : RaisesKept (DCVHostReady.onAccepted env session dcvSessionId counter) := by
  refine (updateSession_kept _).bind fun session _ => Ends.bind (p := fun _ => True) ?_ fun _ _ => ?_
  · unfold tagSession
    split
    · exact raise_kept rfl
    · exact perform_kept _
  refine (perform_kept _).bind fun _ _ => Ends.bind (p := fun _ => True) ?_ fun _ _ => .pure trivial
  exact .ite (fun _ => .pure trivial) fun _ => perform_kept _

theorem hostReady_kept (session : VirtualDesktopSession) :
    RaisesKept (DCVHostReady.proceed env session) := by
  refine Ends.bind (p := fun _ => True) ?_ fun session _ => ?_
  · exact .ite (fun _ => updateSession_kept _) fun _ => .pure trivial
  refine Ends.bind (p := fun _ => True) ?_ fun session _ =>
    .ite (fun _ => raise_kept rfl) fun _ => .pure trivial
  refine (perform_kept _).bind fun _ _ => (getCounter_kept _).bind fun counter _ => ?_
  refine .ite (fun _ => onAccepted_kept _ _ _) fun _ => .ite (fun _ => ?_) fun _ => ?_
  · exact (perform_kept _).bind fun _ _ => enter_kept _ _
  · exact (perform_kept _).bind fun _ _ => updateSession_kept _

theorem validateCreation_kept (session : VirtualDesktopSession) :
    RaisesKept (ValidateDCVSessionCreation.proceed env session) := by
  refine (getCounter_kept _).bind fun counter _ => .ite (fun _ => perform_kept _) fun _ => ?_
  refine (perform_kept _).bind fun _ _ => .ite (fun _ => ?_) fun _ => ?_
  · exact (updateSession_kept _).bind fun _ _ => perform_kept _
  refine .ite (fun _ => ?_) fun _ => .ite (fun _ => .pure trivial) fun _ => ?_
  · exact (updateSession_kept _).bind fun _ _ => .pure trivial
  · exact (enter_kept _ _).bind fun _ _ => (perform_kept _).bind fun _ _ => raise_kept rfl

/-- What an exception leaves: the message is deleted if the exception asks for it. -/
def Settles (config : Config) (message : QueuedEvent) (e : Raised) (s : Store) : Prop :=
  (deletesAfter (.error e) = true → s.Released config message) ∧
    (deletesAfter (.error e) = false → s.Attended config)

abbrev Handles (config : Config) (message : QueuedEvent) (s : Store) (x : Action Unit) : Prop :=
  Triple (· = s) x (fun _ => Store.Released config message) (Settles config message)

variable {K M : List QueuedEvent} {P : QueuedEvent → Prop}
  {A B : SessionKey → VirtualDesktopSessionState → Option String → Prop} {s : Store}
  {session : VirtualDesktopSession} {message : QueuedEvent}

theorem Handles.settle {x : Action Unit} (h : Handles config message s x) :
    (settle message (x.run s)).Attended config := by
  unfold Controller.settle
  rcases hrun : x.run s with ⟨e | a, s'⟩
  · obtain ⟨hdelete, hkeep⟩ := h.error rfl hrun
    split
    · next hdeletes => exact hdelete hdeletes
    · next hdeletes => exact hkeep (Bool.eq_false_iff.mpr hdeletes)
  · exact h.ok rfl hrun

theorem Settles.kept {e : Raised} (h : Kept e) (hs : s.Attended config) :
    Settles config message e s :=
  ⟨fun hdelete => (by cases h.symm.trans hdelete), fun _ => hs⟩

theorem Awaiting.settles (h : Awaiting K M P (Spared config K M message) s) (hm : message ∈ K)
    (hM : ∀ m ∈ M, m ≠ message) (e : Raised) : Settles config message e s :=
  ⟨fun _ => (h.spared hm hM).1, fun _ => (h.spared hm hM).2⟩

theorem Handles.of_keeps {x : Action Unit}
    (hs : Awaiting K M P (Spared config K M message) s) (hm : message ∈ K)
    (hM : ∀ m ∈ M, m ≠ message) (h : Keeps (Awaiting K M P (Spared config K M message)) x) :
    Handles config message s x :=
  Triple.consequence h (by rintro _ rfl; exact hs) (fun _ _ h => (h.1.spared hm hM).1)
    fun e _ h => h.settles hm hM e

theorem Handles.ignore {e : Raised} (hs : s.Attended config) (hm : message ∈ s.queue)
    (hserves : ∀ {key row}, s.sessions.get? key = some row →
      ¬ Serves config message key row.state row.instanceId) :
    Handles config message s (.raise e) :=
  Handles.of_keeps (hs.awaiting.spare hserves) hm (fun _ h => by cases h) Yields.raise

theorem Handles.skip (hs : s.Attended config) (hm : message ∈ s.queue)
    (hserves : ∀ {key row}, s.sessions.get? key = some row →
      ¬ Serves config message key row.state row.instanceId) :
    Handles config message s (pure ()) :=
  Handles.of_keeps (hs.awaiting.spare hserves) hm (fun _ h => by cases h) (.pure trivial)

theorem Handles.raise {e : Raised} (hs : s.Attended config) (he : Kept e) :
    Handles config message s (.raise e) :=
  Triple.raise (by rintro _ rfl; exact .kept he hs)

theorem Handles.read {handler : Option VirtualDesktopSession → Action Unit}
    (hs : s.Attended config)
    (h : ∀ found, s.named message = found → Handles config message s (handler found)) :
    Handles config message s (messageSession env message >>= handler) := by
  have hfind : Triple (· = s) (messageSession env message)
      (fun r s' => s' = s ∧ s.named message = r) fun _ s' => s' = s := Rules.getFromDb_reads
  have hread := hfind.and (Triple.pre (getFromDb_kept _ _) fun _ _ => trivial)
  refine Triple.bind (hread.consequence (fun _ h => h) (fun _ _ h => h.1) ?_) fun found =>
    Triple.of_forall ?_
  · rintro e _ ⟨rfl, he⟩
    exact .kept he hs
  · rintro _ ⟨rfl, hfound⟩
    exact h found hfound

theorem Handles.withSession {handler : VirtualDesktopSession → Action Unit}
    (hs : s.Attended config) (hm : message ∈ s.queue)
    (h : ∀ session, s.named message = some session →
      Handles config message s (handler session)) :
    Handles config message s (withSession env message handler) := by
  refine Handles.read hs fun found hfound => ?_
  cases found with
  | none =>
    refine Handles.skip hs hm fun hrow hserves => ?_
    cases hfound.symm.trans (hserves.named hrow)
  | some session => exact h session hfound

theorem Handles.withRequiredSession {handler : VirtualDesktopSession → Action Unit}
    (hs : s.Attended config)
    (h : ∀ session, s.named message = some session →
      Handles config message s (handler session)) :
    Handles config message s (withRequiredSession env message handler) := by
  refine Handles.read hs fun found hfound => ?_
  cases found with
  | none => exact Handles.raise hs rfl
  | some session => exact h session hfound

theorem Handles.fromController {handler : Action Unit} (hs : s.Attended config)
    (hm : message ∈ s.queue)
    (hsender : ∀ {key row}, s.sessions.get? key = some row →
      Serves config message key row.state row.instanceId →
        isSenderControllerRole config message = true)
    (h : isSenderControllerRole config message = true → Handles config message s handler) :
    Handles config message s (fromController config message handler) :=
  Triple.ite h fun hother => Handles.ignore hs hm fun hrow hserves => hother (hsender hrow hserves)

def Present (key : SessionKey) (s : Store) : Prop := (s.sessions.get? key).isSome

theorem Store.named_key (h : s.named message = some session) :
    messageKey message = some session.key ∧ Present session.key s ∧
      ∃ row, s.sessions.get? session.key = some row ∧
        session = SessionDB.readEntry session.key row := by
  obtain ⟨key, row, hkey, hrow, rfl⟩ := Store.find_eq_some h
  refine ⟨hkey, ?_, row, hrow, rfl⟩
  change (s.sessions.get? key).isSome
  rw [hrow]
  rfl

theorem presentRules (key : SessionKey) : EntryRules env (Present key) fun _ => True where
  other hcall h := by
    rw [Present, (after_extends hcall _).sessions]
    exact h
  read _ _ := trivial
  same _ _ _ _ := trivial
  update {session s} _ h := by
    simp only [Present, Store.after, Dict.get?_set]
    split
    · rfl
    · exact h

variable {E : Raised → Store → Prop}

theorem updateSession_triple {I J R : Store → Prop} (hpresent : ∀ s, I s → Present session.key s)
    (hwrite : Triple I (perform env (.updateSession session)) (fun _ => J) E) (hevent : Triple J
      (triggerUpdateEvent env .sessions session.owner session.ideaSessionId) (fun _ => R) E) :
    Triple I (SessionDB.update env session)
      (fun r s => r = SessionDB.readSession (session.stored env) ∧ R s) E := by
  refine Triple.get_bind fun s hs => ?_
  refine Triple.bind (hwrite.pre (by rintro _ rfl; exact hs)) fun _ => ?_
  refine Triple.ite (fun hmissing => ?_) fun _ => ?_
  · have hsome := hpresent s hs
    rw [Present, Option.isSome_iff_ne_none] at hsome
    exact absurd (Option.isNone_iff_eq_none.mp hmissing) hsome
  · exact Triple.bind hevent fun _ => Triple.pure fun _ h => ⟨rfl, h⟩

variable {I : Store → Prop}

theorem perform_done {call : Call} (h : env.raises call = none)
    (hI : ∀ s, I s → I (s.after env call)) : Triple I (perform env call) (fun _ => I) E :=
  perform_triple (fun s hs _ => hI s hs) fun _ _ _ he => by cases h.symm.trans he

/-- What is awaited while the message for a session is still to be sent. -/
def Owed (A : SessionKey → VirtualDesktopSessionState → Option String → Prop) (key : SessionKey)
    (state : VirtualDesktopSessionState) (k : SessionKey) (st : VirtualDesktopSessionState)
    (i : Option String) : Prop :=
  A k st i ∨ k = key ∧ st = state

/-- A session that is written in a state is served by a message then, or what is left to do until
the event is sent does not raise. -/
theorem moveSession_triple (session : VirtualDesktopSession) {s₀ : Store} {calls : List Call}
    {event : QueuedEvent}
    (hmoves : MovesWith env s₀ session.key session.state
      (.publish (updateEvent config session.key) :: calls) event)
    (hplain : IsPlain session.key.1 ∧ IsPlain session.key.2)
    (hA : ∀ key state i, key ≠ session.key → A key state i → B key state i)
    (hserved : ServedBy config s₀.queue session.key session.state none →
      ∀ i, B session.key session.state i) :
    Triple (fun s => Awaiting K M P A s ∧ Present session.key s) (SessionDB.update env session)
      (fun r s => r = SessionDB.readSession (session.stored env) ∧
        (Awaiting K M P B s ∨
          (∀ call ∈ calls ++ [.publish event], env.raises call = none) ∧ s₀.Accepts env event ∧
            Awaiting K M P (Owed B session.key session.state) s))
      fun _ s => Awaiting K M P A s ∨ Awaiting K M P B s := by
  rcases hmoves with hunwritable | hmessage | ⟨hcalls, haccepts⟩
  · have hwrite : Triple (fun s => Awaiting K M P A s ∧ Present session.key s)
        (perform env (.updateSession session)) (fun _ _ => False)
        fun _ s => Awaiting K M P A s ∨ Awaiting K M P B s := by
      refine perform_triple (fun _ _ hnone => ?_) fun _ _ hs _ => .inl hs.1
      have hraises := hunwritable session rfl rfl
      rw [hnone] at hraises
      cases hraises
    exact updateSession_triple (fun _ hs => hs.2) hwrite (Triple.of_forall fun _ h => h.elim)
  · have hexpected : Expected B session := ⟨hplain, fun _ => hserved hmessage _⟩
    have hwrite : Triple (fun s => Awaiting K M P A s ∧ Present session.key s)
        (perform env (.updateSession session)) (fun _ => Awaiting K M P B)
        fun _ s => Awaiting K M P A s ∨ Awaiting K M P B s :=
      perform_triple (fun _ hs _ => hs.1.overwrite hexpected hA) fun _ _ hs _ => .inl hs.1
    refine updateSession_triple (fun _ hs => hs.2) hwrite ?_
    exact perform_triple (fun _ hs _ => .inl (awaitingRules.other rfl hs)) fun _ _ hs _ => .inr hs
  · have hexpected : Expected (Owed B session.key session.state) session :=
      ⟨hplain, fun _ => .inr ⟨rfl, rfl⟩⟩
    have hwrite : Triple (fun s => Awaiting K M P A s ∧ Present session.key s)
        (perform env (.updateSession session))
        (fun _ => Awaiting K M P (Owed B session.key session.state))
        fun _ s => Awaiting K M P A s ∨ Awaiting K M P B s :=
      perform_triple (fun _ hs _ => hs.1.overwrite hexpected fun k st i hk h => .inl (hA k st i hk h))
        fun _ _ hs _ => .inl hs.1
    refine (updateSession_triple (fun _ hs => hs.2) hwrite
      (perform_done (hcalls _ List.mem_cons_self) fun _ hs => awaitingRules.other rfl hs)).post ?_
    exact fun r s h => ⟨h.1, .inr ⟨fun call hcall => hcalls call (List.mem_cons_of_mem _ hcall),
      haccepts, h.2⟩⟩

theorem Awaiting.served {event : QueuedEvent} {key : SessionKey} {state : VirtualDesktopSessionState}
    (h : Awaiting K (event :: M) P (Owed A key state) s)
    (hserves : ∀ i, Serves config event key state i)
    (hA : ∀ k st i, A k st i → ServedBy config (K.erase message ++ (event :: M)) k st i) :
    Awaiting K (event :: M) P (Spared config K (event :: M) message) s := by
  refine h.mono fun k st i hk => ?_
  rcases hk with hk | ⟨rfl, rfl⟩
  · exact hA k st i hk
  · exact ⟨event, List.mem_append_right _ List.mem_cons_self, hserves i⟩

variable {st : VirtualDesktopSessionState}

theorem needed_other {key : SessionKey} (hkey : messageKey message = some key) {k : SessionKey}
    {i : Option String} (hne : k ≠ key) (h : Needed config K M message k st i) :
    Spared config K M message k st i :=
  h.resolve_right fun hserves => hne (Option.some.inj (hserves.1.symm.trans hkey))

theorem spared_of_served {key : SessionKey} {i j : Option String} (h : ServedBy config K key st i)
    (hserves : ∀ m, Serves config m key st i → Serves config m key st j ∧ m ≠ message) :
    Spared config K M message key st j := by
  obtain ⟨m, hm, hserved⟩ := h
  obtain ⟨hj, hne⟩ := hserves m hserved
  exact ⟨m, List.mem_append_left _ ((List.mem_erase_of_ne hne).mpr hm), hj⟩

section Handlers

variable {s₀ : Store} {i : Option String}

theorem clearCounter_keeps {G : VirtualDesktopSession → Prop} (rules : EntryRules env I G)
    (session : VirtualDesktopSession) (counter : ℤ) :
    Keeps I (DCVHostReady.clearCounter env session counter) :=
  .ite (fun _ => .pure trivial) fun _ => rules.perform_keeps rfl

theorem tagSession_done (h : env.raises (.createTag session.instanceId) = none)
    (hi : isEmptyString session.instanceId = false)
    (hI : ∀ s, I s → I (s.after env (.createTag session.instanceId))) :
    Triple I (tagSession env session) (fun _ => I) E := by
  unfold tagSession
  split
  · next hserver =>
    rw [VirtualDesktopSession.instanceId, hserver] at hi
    cases hi
  · next server hserver =>
    rw [VirtualDesktopSession.instanceId, hserver] at h hI
    exact perform_done h hI

theorem publish_done {event : QueuedEvent} (h : env.raises (.publish event) = none)
    (haccepts : env.repeats event = true → ¬ P event) :
    Triple (Awaiting K M P A) (perform env (.publish event))
      (fun _ => Awaiting K (event :: M) P A) E :=
  perform_triple (fun _ hs _ => hs.publish haccepts) fun _ _ _ he => by cases h.symm.trans he

theorem served_of_subset {L : List QueuedEvent} (h : K ⊆ L) {k : SessionKey} {i : Option String}
    (hk : ServedBy config K k st i) : ServedBy config L k st i := by
  obtain ⟨m, hm, hserves⟩ := hk
  exact ⟨m, h hm, hserves⟩

/-- From the state on the queue may lose the message. -/
abbrev Spares (config : Config) (s₀ : Store) (M : List QueuedEvent) (message : QueuedEvent) :
    Store → Prop :=
  Awaiting s₀.queue M s₀.Gone (Spared config s₀.queue M message)

abbrev Needs (config : Config) (s₀ : Store) (message : QueuedEvent) : Store → Prop :=
  Awaiting s₀.queue [] s₀.Gone (Needed config s₀.queue [] message)

abbrev Owes (config : Config) (s₀ : Store) (M : List QueuedEvent) (message : QueuedEvent)
    (key : SessionKey) (state : VirtualDesktopSessionState) : Store → Prop :=
  Awaiting s₀.queue M s₀.Gone (Owed (Spared config s₀.queue [] message) key state)

theorem sparesRules : EntryRules env (Spares config s₀ M message)
    (Expected (Spared config s₀.queue M message)) :=
  awaitingRules

theorem onAccepted_triple (hm : message ∈ s₀.queue)
    (htype : message.eventType = .DCV_HOST_READY_EVENT)
    (hkey : messageKey message = some session.key)
    (hplain : IsPlain session.key.1 ∧ IsPlain session.key.2)
    (hi : isEmptyString session.instanceId = false)
    (hmoves : MovesWith env s₀ session.key .INITIALIZING
      [.publish (updateEvent config session.key), .createTag session.instanceId]
      (validateCreationEvent env session.key)) (dcvSessionId : Option String) (counter : ℤ) :
    Triple (fun s => Needs config s₀ message s ∧ Present session.key s)
      (DCVHostReady.onAccepted env session dcvSessionId counter)
      (fun r s => r.state = .INITIALIZING ∧ s.Released config message)
      fun _ s => s.Attended config := by
  have hother : ∀ {m : QueuedEvent}, m.eventType = .VALIDATE_DCV_SESSION_CREATION_EVENT →
      m ≠ message := by
    rintro m hcreation rfl
    cases hcreation.symm.trans htype
  have hnil : ∀ m ∈ ([] : List QueuedEvent), m ≠ message := fun _ h => by cases h
  have hsent : ∀ m ∈ [validateCreationEvent env session.key], m ≠ message := by
    intro m hmem
    obtain rfl := List.mem_singleton.mp hmem
    exact hother rfl
  have hwrite := moveSession_triple
    { session with state := .INITIALIZING, dcvSessionId := dcvSessionId }
    (A := Needed config s₀.queue [] message) (B := Spared config s₀.queue [] message)
    (K := s₀.queue) (M := []) (P := s₀.Gone) hmoves hplain
    (fun k st i hne => needed_other hkey hne) fun hmessage i => spared_of_served hmessage
      fun m hserves => ⟨hserves, hother hserves.2.1⟩
  refine Triple.bind (hwrite.consequence (fun _ h => h) (fun _ _ h => h) ?_) fun r =>
    Triple.of_forall ?_
  · rintro _ s (h | h)
    · exact h.attended hm
    · exact (h.spared hm hnil).2
  rintro s ⟨rfl, hs⟩
  have hclear : ∀ M, (∀ m ∈ M, m ≠ message) → Triple (Spares config s₀ M message)
      (do
        DCVHostReady.clearCounter env (SessionDB.readSession
          ({ session with state := .INITIALIZING, dcvSessionId := dcvSessionId }.stored env)) counter
        pure (SessionDB.readSession
          ({ session with state := .INITIALIZING, dcvSessionId := dcvSessionId }.stored env)))
      (fun r s => r.state = .INITIALIZING ∧ s.Released config message)
      fun _ s => s.Attended config := fun M hM =>
    Triple.bind ((clearCounter_keeps sparesRules _ _).triple fun _ _ h => (h.spared hm hM).2)
      fun _ => Triple.pure fun _ h => ⟨rfl, (h.spared hm hM).1⟩
  rcases hs with h | ⟨hcalls, haccepts, h⟩
  · refine Triple.of_state h ?_
    refine Triple.bind ((sparesRules.tagSession_keeps _).triple fun _ _ h => (h.spared hm hnil).2)
      fun _ => ?_
    have hpublish : Keeps (Spares config s₀ [] message)
        (publishValidateCreation env session.key) := sparesRules.perform_keeps rfl
    exact Triple.bind (hpublish.triple fun _ _ h => (h.spared hm hnil).2) fun _ => hclear [] hnil
  · refine Triple.of_state (P := Owes config s₀ [] message session.key .INITIALIZING) h ?_
    refine Triple.bind (tagSession_done ?_ ?_ fun _ hs => awaitingRules.other rfl hs) fun _ => ?_
    · rw [instanceId_readSession]
      exact hcalls _ (by simp [VirtualDesktopSession.stored, VirtualDesktopSession.instanceId])
    · exact (congrArg isEmptyString (instanceId_readSession _)).trans hi
    have hpublish : Triple (Owes config s₀ [] message session.key .INITIALIZING)
        (publishValidateCreation env session.key)
        (fun _ => Owes config s₀ [validateCreationEvent env session.key] message session.key
          .INITIALIZING) fun _ s => s.Attended config :=
      publish_done (hcalls _ (by simp)) haccepts.not_gone
    refine Triple.bind (hpublish.post fun _ _ h => h.served (serves_validateCreation hplain)
      fun k st i => served_of_subset ?_) fun _ => hclear _ hsent
    exact List.append_subset.mpr ⟨List.subset_append_left _ _, fun _ h => (by cases h)⟩

theorem needsRules (key : SessionKey) : EntryRules env
    (fun s => Needs config s₀ message s ∧ Present key s)
    fun session => Expected (Needed config s₀.queue [] message) session ∧ True :=
  awaitingRules.and (presentRules key)

theorem leave_triple (session : VirtualDesktopSession) (hm : message ∈ s₀.queue) (hkey : messageKey message = some session.key)
    (hplain : IsPlain session.key.1 ∧ IsPlain session.key.2)
    (hstate : isTransition session.state = false) :
    Triple (fun s => Needs config s₀ message s ∧ Present session.key s)
      (SessionDB.update env session)
      (fun r s => r = SessionDB.readSession (session.stored env) ∧ Spares config s₀ [] message s)
      fun _ s => s.Attended config := by
  have hexpected : Expected (Spared config s₀.queue [] message) session :=
    ⟨hplain, fun h => by cases hstate.symm.trans h⟩
  refine updateSession_triple (J := Spares config s₀ [] message) (fun _ hs => hs.2) ?_ ?_
  · refine perform_triple (fun s hs _ => ?_) fun s _ hs _ => hs.1.attended hm
    exact hs.1.overwrite hexpected fun k st i hne => needed_other hkey hne
  · exact perform_triple (fun s hs _ => sparesRules.other rfl hs)
      fun s _ hs _ => (hs.spared hm fun _ h => by cases h).2

theorem createSession_triple (hm : message ∈ s₀.queue)
    (htype : message.eventType = .DCV_HOST_READY_EVENT)
    (hkey : messageKey message = some session.key)
    (hplain : IsPlain session.key.1 ∧ IsPlain session.key.2)
    (hsender : message.sender.instanceId = session.instanceId)
    (hi : isEmptyString session.instanceId = false)
    (hmoves : isEmptyString env.createdSession.failureReason = true →
      MovesWith env s₀ session.key .INITIALIZING
        [.publish (updateEvent config session.key), .createTag session.instanceId]
        (validateCreationEvent env session.key)) :
    Triple (fun s => Needs config s₀ message s ∧ Present session.key s)
      (DCVHostReady.createSession env session)
      (fun r s => r.state = .CREATING ∧ s.Attended config ∨
        r.state ≠ .CREATING ∧ s.Released config message)
      fun _ s => s.Attended config := by
  have hattended : ∀ (e : Raised) s, Needs config s₀ message s ∧ Present session.key s →
      s.Attended config := fun _ _ h => h.1.attended hm
  have rules : EntryRules env (fun s => Needs config s₀ message s ∧ Present session.key s) _ :=
    needsRules session.key
  have hcreating : Expected (Needed config s₀.queue [] message)
      { session with state := .CREATING } :=
    ⟨hplain, fun _ => .inr ⟨hkey, htype, hsender, hi⟩⟩
  refine Triple.bind ((rules.perform_keeps rfl).triple hattended) fun _ => ?_
  refine Triple.bind ((rules.toRules.getCounter_keeps _).triple hattended) fun counter => ?_
  refine Triple.ite (fun haccepted => ?_) fun _ => Triple.ite (fun _ => ?_) fun _ => ?_
  · refine (onAccepted_triple hm htype hkey hplain hi (hmoves haccepted) _ counter).post ?_
    rintro r s ⟨hstate, hs⟩
    exact .inr ⟨by simp [hstate], hs⟩
  · refine Triple.bind ((rules.perform_keeps rfl).triple hattended) fun _ => ?_
    refine Triple.ite (fun hstate => ?_) fun _ => ?_
    · exact Triple.pure fun s hs => .inl ⟨hstate, hs.1.attended hm⟩
    · refine Triple.consequence (Rules.updateSession_returns
        (Rules.perform_keeps fun s hs => rules.update ⟨hcreating, trivial⟩ hs) (fun _ hs => hs)
        (rules.perform_keeps rfl)) (fun _ h => h) ?_ hattended
      rintro _ s ⟨hs, rfl⟩
      exact .inl ⟨rfl, hs.1.attended hm⟩
  · refine Triple.bind ((rules.perform_keeps rfl).triple hattended) fun _ => ?_
    refine (leave_triple { session with dcvSessionId := some "", state := .ERROR } hm hkey hplain
      rfl).post ?_
    rintro _ s ⟨rfl, hs⟩
    exact .inr ⟨fun h => (by cases h), (hs.spared hm fun _ h => by cases h).1⟩

theorem hostReady_proceed_triple (hm : message ∈ s₀.queue)
    (htype : message.eventType = .DCV_HOST_READY_EVENT)
    (hkey : messageKey message = some session.key)
    (hplain : IsPlain session.key.1 ∧ IsPlain session.key.2)
    (hsender : message.sender.instanceId = session.instanceId)
    (hi : isEmptyString session.instanceId = false)
    (hmoves : isEmptyString env.createdSession.failureReason = true →
      MovesWith env s₀ session.key .INITIALIZING
        [.publish (updateEvent config session.key), .createTag session.instanceId]
        (validateCreationEvent env session.key)) :
    Triple (fun s => Needs config s₀ message s ∧ Present session.key s)
      (DCVHostReady.proceed env session) (fun _ s => s.Released config message)
      fun _ s => s.Attended config := by
  have hattended : ∀ (e : Raised) s, Needs config s₀ message s ∧ Present session.key s →
      s.Attended config := fun _ _ h => h.1.attended hm
  have rules : EntryRules env (fun s => Needs config s₀ message s ∧ Present session.key s) _ :=
    needsRules session.key
  have hleave : Ends (fun s => Needs config s₀ message s ∧ Present session.key s)
      (fun _ s => s.Attended config) (DCVHostReady.leaveResuming env session)
      fun r => r.key = session.key ∧ r.instanceId = session.instanceId := by
    refine .ite (fun _ => ?_) fun _ => .pure ⟨rfl, rfl⟩
    have hcreating : Expected (Needed config s₀.queue [] message)
        { session with state := .CREATING } :=
      ⟨hplain, fun _ => .inr ⟨hkey, htype, hsender, hi⟩⟩
    have hwrite := Rules.updateSession_returns
      (Rules.perform_keeps fun s hs => rules.update ⟨hcreating, trivial⟩ hs) (fun _ hs => hs)
      (rules.perform_keeps rfl)
    refine Triple.consequence hwrite (fun _ h => h) ?_ hattended
    rintro _ s ⟨hs, rfl⟩
    exact ⟨hs, rfl, instanceId_readSession _⟩
  refine Triple.bind hleave fun r => Triple.of_forall ?_
  rintro s ⟨hs, hrkey, hri⟩
  rw [← hrkey] at hkey hplain hmoves hs
  rw [← hri] at hsender hi hmoves
  refine Triple.of_state hs (Triple.bind (createSession_triple hm htype hkey hplain hsender hi hmoves)
    fun created => Triple.ite (fun hstate => ?_) fun hstate => ?_)
  · refine Triple.raise fun s hs => ?_
    rcases hs with ⟨-, hs⟩ | ⟨hne, -⟩
    · exact hs
    · exact absurd hstate hne
  · refine Triple.pure fun s hs => ?_
    rcases hs with ⟨heq, -⟩ | ⟨-, hs⟩
    · exact absurd heq hstate
    · exact hs

theorem hostReady_handles (hs : s₀.Attended config) (hm : message ∈ s₀.queue)
    (htype : message.eventType = .DCV_HOST_READY_EVENT)
    (hannounces : HostReadyAnnounces env message s₀) :
    Handles config message s₀ (DCVHostReady.handleEvent env message) := by
  refine Triple.ite (fun hblank => Handles.ignore hs hm fun hrow hserves => ?_) fun hsender => ?_
  · obtain ⟨-, hi, hi'⟩ := hserves.creating htype
    rw [← hi, hblank] at hi'
    cases hi'
  refine Handles.withSession hs hm fun session hsession => ?_
  obtain ⟨hkey, hpresent, row, hrow, hread⟩ := Store.named_key hsession
  -- A row that the message serves is the one that was read.
  have hserved : ∀ {key r}, s₀.sessions.get? key = some r →
      Serves config message key r.state r.instanceId →
        session.state = .CREATING ∧ message.sender.instanceId = session.instanceId := by
    intro key r hr hserves
    obtain rfl := Option.some.inj (hsession.symm.trans (hserves.named hr))
    obtain ⟨hstate, hi, -⟩ := hserves.creating htype
    exact ⟨hstate, hi.trans (readEntry_instanceId key r).symm⟩
  split
  · exact Handles.raise hs rfl
  next server hserver =>
  have hinstance : session.instanceId = server.instanceId := by
    rw [VirtualDesktopSession.instanceId, hserver, Option.bind_some]
  refine Triple.ite (fun hother => Handles.ignore hs hm fun hr hserves => ?_) fun hsame => ?_
  · exact hother (hinstance.symm.trans (hserved hr hserves).2.symm)
  have hsame : message.sender.instanceId = session.instanceId := by
    rw [hinstance, not_not.mp hsame]
  refine Triple.ite (fun hawaits => ?_) fun hawaits => Handles.skip hs hm fun hr hserves => ?_
  · have hplain := hs.plain hrow
    have hi : isEmptyString session.instanceId = false := by
      rw [← hsame]
      exact Bool.eq_false_iff.mpr hsender
    have hproceed : Triple _ (DCVHostReady.proceed env session) _ _ :=
      hostReady_proceed_triple hm htype hkey hplain hsame hi fun haccepted =>
        hannounces session hsession (hsame ▸ hi) hsame.symm hawaits haccepted
    have hstart : Needs config s₀ message s₀ ∧ Present session.key s₀ := ⟨hs.awaiting, hpresent⟩
    refine Triple.consequence (Triple.and (hproceed.of_state hstart)
      (Triple.pre (hostReady_kept session) fun _ _ => trivial)) (fun _ h => h)
      (fun _ _ h => h.1) ?_
    exact fun e s h => .kept h.2 h.1
  · rw [(hserved hr hserves).1] at hawaits
    exact hawaits rfl

/-- The queue needs the message at most as long as the session is in the state. -/
abbrev NeedsIn (config : Config) (s₀ : Store) (message : QueuedEvent)
    (session : VirtualDesktopSession) (state : VirtualDesktopSessionState) (s : Store) : Prop :=
  (Needs config s₀ message s ∧ Present session.key s) ∧
    (session.state ≠ state → Spares config s₀ [] message s)

theorem validateCreation_proceed_triple (hm : message ∈ s₀.queue)
    (htype : message.eventType = .VALIDATE_DCV_SESSION_CREATION_EVENT)
    (hsender : isSenderControllerRole config message = true)
    (hkey : messageKey message = some session.key)
    (hplain : IsPlain session.key.1 ∧ IsPlain session.key.2) :
    Triple (NeedsIn config s₀ message session .INITIALIZING)
      (ValidateDCVSessionCreation.proceed env session) (fun _ s => s.Released config message)
      fun _ s => s.Attended config := by
  have hnil : ∀ m ∈ ([] : List QueuedEvent), m ≠ message := fun _ h => by cases h
  have rules : EntryRules env (fun s => Needs config s₀ message s ∧ Present session.key s) _ :=
    needsRules session.key
  have hquiet : ∀ {call : Call}, call.isEntryWrite = false →
      Triple (NeedsIn config s₀ message session .INITIALIZING) (perform env call)
        (fun _ => NeedsIn config s₀ message session .INITIALIZING)
        fun _ s => s.Attended config := fun hcall =>
    perform_triple (fun s hs _ => ⟨rules.other hcall hs.1, fun h => sparesRules.other hcall (hs.2 h)⟩)
      fun _ _ hs _ => hs.1.1.attended hm
  have hleave : ∀ state, isTransition state = false →
      Triple (NeedsIn config s₀ message session .INITIALIZING)
        (SessionDB.update env { session with state := state })
        (fun _ => Spares config s₀ [] message) fun _ s => s.Attended config := fun state hstate =>
    (leave_triple { session with state := state } hm hkey hplain hstate).consequence
      (fun _ hs => hs.1) (fun _ _ h => h.2) fun _ _ h => h
  have hcounter : Triple (NeedsIn config s₀ message session .INITIALIZING)
      (CounterDB.get env (ValidateDCVSessionCreation.counterKey session))
      (fun _ => NeedsIn config s₀ message session .INITIALIZING) fun _ s => s.Attended config :=
    Triple.bind (hquiet rfl) fun _ => Triple.get_bind fun s hs =>
      Triple.pure (by rintro _ rfl; exact hs)
  refine Triple.bind hcounter fun counter => ?_
  refine Triple.ite (fun hdeleting => ?_) fun _ => ?_
  · refine Triple.post (hquiet rfl) fun _ s hs => ((hs.2 ?_).spared hm hnil).1
    rintro hstate
    simp [hstate] at hdeleting
  refine Triple.bind (hquiet rfl) fun _ => Triple.ite (fun _ => ?_) fun _ => ?_
  · refine Triple.bind (hleave .READY rfl) fun _ => ?_
    exact perform_triple (fun s hs _ => ((sparesRules.other rfl hs).spared hm hnil).1)
      fun _ _ hs _ => (hs.spared hm hnil).2
  refine Triple.ite (fun _ => ?_) fun _ => Triple.ite (fun hstopping => ?_) fun _ => ?_
  · exact Triple.bind (hleave .ERROR rfl) fun _ => Triple.pure fun _ hs => (hs.spared hm hnil).1
  · refine Triple.pure fun s hs => ((hs.2 ?_).spared hm hnil).1
    rw [hstopping]
    exact fun h => by cases h
  · have hinitializing : Expected (Needed config s₀.queue [] message)
        { session with state := .INITIALIZING } :=
      ⟨hplain, fun _ => .inr ⟨hkey, htype, hsender⟩⟩
    have henter : Keeps (fun s => Needs config s₀ message s ∧ Present session.key s)
        (enter env .INITIALIZING session) :=
      .ite (fun _ => .pure trivial) fun _ => (rules.update_yields ⟨hinitializing, trivial⟩).keeps
    have hattended : ∀ (e : Raised) s, Needs config s₀ message s ∧ Present session.key s →
        s.Attended config := fun _ _ h => h.1.attended hm
    refine Triple.pre ?_ fun _ hs => hs.1
    refine Triple.bind (henter.triple hattended) fun _ => ?_
    exact Triple.bind ((rules.perform_keeps rfl).triple hattended) fun _ =>
      Triple.raise fun _ hs => hs.1.attended hm

theorem validateCreation_handles (hs : s₀.Attended config) (hm : message ∈ s₀.queue)
    (htype : message.eventType = .VALIDATE_DCV_SESSION_CREATION_EVENT) :
    Handles config message s₀ (ValidateDCVSessionCreation.handleEvent env message) := by
  refine Handles.fromController hs hm (fun _ hserves => (hserves.initializing htype).2)
    fun hsender => Handles.withSession hs hm fun session hsession => ?_
  obtain ⟨hkey, hpresent, row, hrow, hread⟩ := Store.named_key hsession
  have hstart : NeedsIn config s₀ message session .INITIALIZING s₀ := by
    refine ⟨⟨hs.awaiting, hpresent⟩, fun hstate => hs.awaiting.spare fun hr hserves => hstate ?_⟩
    obtain rfl := Option.some.inj (hsession.symm.trans (hserves.named hr))
    exact (hserves.initializing htype).1
  have hproceed : Triple _ (ValidateDCVSessionCreation.proceed env session) _ _ :=
    validateCreation_proceed_triple hm htype hsender hkey (hs.plain hrow)
  refine Triple.consequence (Triple.and (hproceed.of_state hstart)
    (Triple.pre (validateCreation_kept session) fun _ _ => trivial)) (fun _ h => h)
    (fun _ _ h => h.1) ?_
  exact fun e s h => .kept h.2 h.1

theorem deleteSchedule_done {schedule : VirtualDesktopSchedule}
    (h : ∀ key, scheduleKey schedule = some key → env.raises (.deleteSchedule key) = none ∧
      env.raises (.publish (entryEvent config .DB_ENTRY_DELETED_EVENT .schedules "" key.2)) = none)
    (hdelete : ∀ key s, I s → I (s.after env (.deleteSchedule key)))
    (hpublish : ∀ event s, I s → I (s.after env (.publish event))) :
    Triple I (deleteSchedule env schedule) (fun _ => I) E := by
  unfold deleteSchedule
  split
  · exact Triple.pure fun _ h => h
  · next key hkey =>
    obtain ⟨hd, hp⟩ := h key hkey
    refine Triple.get_bind fun s hs => Triple.of_state hs ?_
    refine Triple.bind (perform_done hd (hdelete key)) fun _ => ?_
    exact Triple.ite (fun _ => Triple.pure fun _ h => h) fun _ => perform_done hp (hpublish _)

theorem deletePermissions_done {keys : List (String × String)} (hnodup : keys.Nodup)
    (h : ∀ key ∈ keys, isEmptyString (some key.1) = false ∧ isEmptyString (some key.2) = false ∧
      env.raises (.deletePermission key) = none ∧ env.raises (.publish
        (entryEvent config .DB_ENTRY_DELETED_EVENT .sessionPermissions key.1 key.2)) = none)
    (hdelete : ∀ key s, I s → I (s.after env (.deletePermission key)))
    (hpublish : ∀ event s, I s → I (s.after env (.publish event))) :
    Triple (fun s => I s ∧ ∀ key ∈ keys, (s.permissions.get? key).isSome)
      (Stateful.forEach (PermissionDB.delete env) keys) (fun _ => I) E := by
  induction keys with
  | nil => exact Triple.pure fun _ hs => hs.1
  | cons key keys ih =>
    obtain ⟨hnot, hnodup⟩ := List.nodup_cons.mp hnodup
    rw [List.forall_mem_cons] at h
    obtain ⟨⟨hid, hactor, hd, hp⟩, hrest⟩ := h
    refine Triple.bind (Q := fun _ s => I s ∧ ∀ k ∈ keys, (s.permissions.get? k).isSome) ?_
      fun _ => ih hnodup hrest
    unfold PermissionDB.delete
    rw [hid, hactor]
    refine Triple.get_bind fun s hs => ?_
    obtain ⟨hI, hkeys⟩ := hs
    rw [List.forall_mem_cons] at hkeys
    refine Triple.bind (Q := fun _ s => I s ∧ ∀ k ∈ keys, (s.permissions.get? k).isSome) ?_
      fun _ => Triple.ite (fun hmissing => ?_) fun _ => ?_
    · refine perform_triple ?_ fun _ _ _ he => by cases hd.symm.trans he
      rintro _ rfl _
      refine ⟨hdelete key _ hI, fun k hk => ?_⟩
      have hne : k ≠ key := fun heq => hnot (heq ▸ hk)
      simpa only [Store.after, Dict.get?_erase_ne _ hne] using hkeys.2 k hk
    · rw [Option.isNone_iff_eq_none] at hmissing
      rw [hmissing] at hkeys
      cases hkeys.1
    · refine perform_done hp fun s hs => ⟨hpublish _ s hs.1, fun k hk => ?_⟩
      have hsame : (s.send env (entryEvent config .DB_ENTRY_DELETED_EVENT .sessionPermissions
          key.1 key.2)).permissions = s.permissions := by
        unfold Store.send
        split <;> rfl
      simpa only [Store.after, hsame] using hs.2 k hk

theorem deletePermissionsForSession_done (hplain : IsPlain session.key.1 ∧ IsPlain session.key.2)
    (h : DeletionReaches env s₀ session) :
    Triple (fun s => Needs config s₀ message s ∧ s.permissions = s₀.permissions)
      (deletePermissionsForSession env session) (fun _ => Needs config s₀ message) E := by
  have hkeys : Triple (fun s => Needs config s₀ message s ∧ s.permissions = s₀.permissions)
      (PermissionDB.getForSession env session.ideaSessionId)
      (fun keys s => (Needs config s₀ message s ∧ ∀ key ∈ keys, (s.permissions.get? key).isSome) ∧
        keys.Nodup ∧ ∀ key ∈ keys, isEmptyString (some key.1) = false ∧
          isEmptyString (some key.2) = false ∧ env.raises (.deletePermission key) = none ∧
          env.raises (.publish
            (entryEvent config .DB_ENTRY_DELETED_EVENT .sessionPermissions key.1 key.2)) = none) E := by
    refine Triple.get_bind fun s hs => Triple.pure ?_
    rintro _ rfl
    split
    · next hqueries =>
      refine ⟨⟨hs.1, fun key hkey => Dict.get?_isSome.mpr (List.mem_filter.mp hkey).1⟩,
        List.Nodup.filter _ (Dict.nodup_keys _), fun key hkey => ?_⟩
      obtain ⟨hkey, hid⟩ := List.mem_filter.mp hkey
      have hid : key.1 = session.ideaSessionId := of_decide_eq_true hid
      obtain ⟨hactor, hd, hp⟩ := h.2.1 hqueries key (hs.2 ▸ hkey) hid
      exact ⟨hid ▸ isEmptyString_of_isPlain hplain.2, hactor, hd, hp⟩
    · exact ⟨⟨hs.1, fun _ h => by cases h⟩, List.nodup_nil, fun _ h => by cases h⟩
  refine Triple.bind hkeys fun keys => Triple.of_forall ?_
  rintro s ⟨hs, hnodup, hok⟩
  exact Triple.of_state hs (deletePermissions_done hnodup hok
    (fun _ _ hs => awaitingRules.other rfl hs) fun _ _ hs => awaitingRules.other rfl hs)

theorem deleteEntry_releases (hkey : messageKey message = some session.key)
    (hplain : IsPlain session.key.1 ∧ IsPlain session.key.2)
    (h : env.raises (.deleteSession session.key) = none) :
    Triple (Needs config s₀ message) (SessionDB.delete env session)
      (fun _ => Spares config s₀ [] message) fun _ => Spares config s₀ [] message := by
  have hid : isEmptyString (some session.ideaSessionId) = false :=
    isEmptyString_of_isPlain hplain.2
  have howner : isEmptyString (some session.owner) = false := isEmptyString_of_isPlain hplain.1
  unfold SessionDB.delete
  rw [hid, howner]
  refine Triple.get_bind fun s hs => Triple.of_state hs ?_
  refine Triple.bind (Q := fun _ => Spares config s₀ [] message) ?_ fun _ =>
    Triple.ite (fun _ => Triple.raise fun _ hs => hs) fun _ => ?_
  · exact perform_triple (fun s hs _ => hs.erase fun k st i hne => needed_other hkey hne)
      fun _ _ _ he => by cases h.symm.trans he
  · exact perform_triple (fun s hs _ => sparesRules.other rfl hs) fun _ _ hs _ => hs

theorem deleteAndTerminate_releases (hkey : messageKey message = some session.key)
    (hplain : IsPlain session.key.1 ∧ IsPlain session.key.2)
    (h : DeletionReaches env s₀ session) :
    Triple (fun s => Needs config s₀ message s ∧ s.permissions = s₀.permissions)
      (ValidateDCVSessionDeletion.deleteAndTerminate env session)
      (fun _ => Spares config s₀ [] message) fun _ => Spares config s₀ [] message := by
  have hschedules : Triple (fun s => Needs config s₀ message s ∧ s.permissions = s₀.permissions)
      (deleteSchedulesForSession env session)
      (fun _ s => Needs config s₀ message s ∧ s.permissions = s₀.permissions)
      fun _ => Spares config s₀ [] message :=
    Triple.forEach fun day _ => deleteSchedule_done (h.1 day)
      (fun key s hs => ⟨awaitingRules.other rfl hs.1, hs.2⟩) fun event s hs => by
        refine ⟨awaitingRules.other rfl hs.1, ?_⟩
        rw [Store.after, Store.send]
        split
        · exact hs.2
        · exact hs.2
  refine Triple.bind hschedules fun _ => ?_
  refine Triple.bind (deletePermissionsForSession_done hplain h) fun _ => ?_
  refine Triple.bind (deleteEntry_releases hkey hplain h.2.2) fun _ => ?_
  have rules : EntryRules env (Spares config s₀ [] message) _ := sparesRules
  exact (rules.terminateServer_keeps session.server).triple fun _ _ hs => hs

theorem validateDeletion_handles (hs : s₀.Attended config) (hm : message ∈ s₀.queue)
    (htype : message.eventType = .VALIDATE_DCV_SESSION_DELETION_EVENT)
    (hannounces : DeletionAnnounces env message s₀) :
    Handles config message s₀ (ValidateDCVSessionDeletion.handleEvent env message) := by
  have hnil : ∀ m ∈ ([] : List QueuedEvent), m ≠ message := fun _ h => by cases h
  refine Handles.fromController hs hm (fun _ hserves => (hserves.deleting htype).2)
    fun hsender => Handles.withSession hs hm fun session hsession => ?_
  obtain ⟨hkey, hpresent, row, hrow, hread⟩ := Store.named_key hsession
  have hspares : session.state ≠ .DELETING → Spares config s₀ [] message s₀ := fun hstate =>
    hs.awaiting.spare fun hr hserves => by
      obtain rfl := Option.some.inj (hsession.symm.trans (hserves.named hr))
      exact hstate (hserves.deleting htype).1
  refine Triple.ite (fun _ => ?_) fun hother => ?_
  · by_cases hdeleting : session.state = .DELETING
    · have hdescribe : Triple (· = s₀) (perform env (.describeDcvSessions session.dcvSessionId))
          (fun _ s => s = s₀) fun e s => s = s₀ ∧ Kept e :=
        perform_triple (fun _ hs _ => hs) fun _ _ hs he => ⟨hs, env.raises_keeps _ _ he⟩
      refine Triple.bind (hdescribe.consequence (fun _ h => h) (fun _ _ h => h) ?_) fun _ => ?_
      · rintro e _ ⟨rfl, he⟩
        exact .kept he hs
      refine Triple.ite (fun _ => Handles.raise hs rfl) fun hproceed => ?_
      have hproceed : ValidateDCVSessionDeletion.mayProceed env session = true := by
        simpa using hproceed
      refine Triple.ite (fun _ => ?_) fun h => absurd hdeleting h
      have hreleases : Triple (· = s₀) (ValidateDCVSessionDeletion.deleteAndTerminate env session)
          (fun _ => Spares config s₀ [] message) fun _ => Spares config s₀ [] message := by
        rcases hannounces session hsession hsender hdeleting hproceed with hother | hreaches
        · have hstart : Spares config s₀ [] message s₀ := hs.awaiting.mono fun k st i hneeded => by
            refine hneeded.elim id fun hserves => ?_
            obtain rfl := Option.some.inj (hkey.symm.trans hserves.1)
            obtain ⟨rfl, -⟩ := hserves.deleting htype
            obtain ⟨m, hm, hserved⟩ := hother
            exact ⟨m, List.mem_append_left _ hm, hserved⟩
          have hkeeps : Keeps (Spares config s₀ [] message)
              (ValidateDCVSessionDeletion.deleteAndTerminate env session) :=
            sparesRules.deleteAndTerminate_keeps (hread ▸ hstart.expected hrow)
              (Rules.perform_keeps fun s hs => hs.erase fun _ _ _ _ h => h)
          exact Triple.of_state hstart (hkeeps.triple fun _ _ h => h)
        · exact Triple.of_state ⟨hs.awaiting, rfl⟩
            (deleteAndTerminate_releases hkey (hs.plain hrow) hreaches)
      refine Triple.bind (Triple.attempt hreleases) fun outcome => Triple.pure fun s h => ?_
      rcases outcome with e | a
      · exact ((h.2 e rfl).spared hm hnil).1
      · exact ((h.1 a rfl).spared hm hnil).1
    · have hstart := hspares hdeleting
      refine Handles.of_keeps hstart hm hnil ?_
      refine (sparesRules.perform_keeps rfl).bind fun _ _ => .ite (fun _ => Yields.raise) fun _ => ?_
      refine .ite (fun h => absurd h hdeleting) fun _ => ?_
      exact sparesRules.continueStopSession_keeps (Expected.enters _ rfl) (Expected.enters _ rfl)
        (hread ▸ hstart.expected hrow)
  · refine Handles.skip hs hm fun hr hserves => hother ?_
    obtain rfl := Option.some.inj (hsession.symm.trans (hserves.named hr))
    exact (Bool.or_eq_true _ _).mpr (.inr (decide_eq_true (hserves.deleting htype).1))

theorem Store.Attended.spares (hs : s₀.Attended config)
    (htype : isAwaited message.eventType = false) : Spares config s₀ [] message s₀ :=
  hs.awaiting.spare fun _ hserves => by cases htype.symm.trans hserves.isAwaited

theorem onResumed_handles (hs : s₀.Attended config) (hm : message ∈ s₀.queue)
    (htype : message.eventType = .IDEA_SESSION_RESUME_SESSION_COMMAND_PROGRESS_EVENT)
    (hsession : s₀.named message = some session)
    (hannounces : Unwritable env session.key .INITIALIZING ∨
      ServedBy config s₀.queue session.key .INITIALIZING none ∨
      (env.raises (.publish (validateCreationEvent env session.key))).isSome ∨
      s₀.Accepts env (validateCreationEvent env session.key)) :
    Handles config message s₀ (CommandProgress.onResumed env message session) := by
  obtain ⟨-, -, row, hrow, -⟩ := Store.named_key hsession
  have hplain := hs.plain hrow
  have hstart : Spares config s₀ [] message s₀ := hs.spares (by rw [htype]; rfl)
  have hnil : ∀ m ∈ ([] : List QueuedEvent), m ≠ message := fun _ h => by cases h
  have hother : ∀ {m : QueuedEvent}, m.eventType = .VALIDATE_DCV_SESSION_CREATION_EVENT →
      m ≠ message := by
    rintro m hcreation rfl
    cases hcreation.symm.trans htype
  have hrest : ∀ M, Keeps (Spares config s₀ M message)
      (perform env (.updateSession { session with state := .INITIALIZING })) →
      Keeps (Spares config s₀ M message) (do
        CommandProgress.deleteCommand env message
        let _ ← SessionDB.update env { session with state := .INITIALIZING }
        pure () : Action Unit) := fun M hwrite =>
    (sparesRules.perform_keeps rfl).bind fun _ _ =>
      (Rules.updateSession_returns hwrite (fun _ hs => hs) (sparesRules.perform_keeps rfl)).bind
        fun _ _ => .pure trivial
  have hpublish : Keeps (Spares config s₀ [] message) (publishValidateCreation env session.key) :=
    sparesRules.perform_keeps rfl
  rcases hannounces with hunwritable | hserved | hraises | haccepts
  · refine Handles.of_keeps hstart hm hnil (hpublish.bind fun _ _ => hrest [] ?_)
    refine perform_triple (fun _ _ hnone => ?_) fun _ _ hs _ => hs
    have hsome := hunwritable { session with state := .INITIALIZING } rfl rfl
    rw [hnone] at hsome
    cases hsome
  · refine Handles.of_keeps hstart hm hnil (hpublish.bind fun _ _ => hrest [] ?_)
    refine Rules.perform_keeps fun s hs => sparesRules.update ⟨hplain, fun _ => ?_⟩ hs
    exact spared_of_served hserved fun m hserves => ⟨hserves, hother hserves.2.1⟩
  · refine Triple.bind (Q := fun _ _ => False) ?_ fun _ => Triple.of_forall fun _ h => h.elim
    refine Triple.of_state hstart (perform_triple (fun _ _ hnone => ?_) fun _ e hs _ =>
      hs.settles hm hnil e)
    rw [hnone] at hraises
    cases hraises
  · have hsent : ∀ m ∈ [validateCreationEvent env session.key], m ≠ message := by
      intro m hmem
      obtain rfl := List.mem_singleton.mp hmem
      exact hother rfl
    have hpublish : Triple (· = s₀) (publishValidateCreation env session.key)
        (fun _ => Spares config s₀ [validateCreationEvent env session.key] message)
        (Settles config message) := by
      refine Triple.of_state hstart (perform_triple (fun s hs _ => ?_) fun _ e hs _ =>
        hs.settles hm hnil e)
      refine (hs.publish haccepts.not_gone).mono fun k st i => served_of_subset ?_
      exact List.append_subset.mpr ⟨List.subset_append_left _ _, fun _ h => (by cases h)⟩
    refine Triple.bind hpublish fun _ => Triple.consequence (hrest _ ?_) (fun _ h => h)
      (fun _ _ h => (h.1.spared hm hsent).1) fun e _ h => h.settles hm hsent e
    refine Rules.perform_keeps fun s hs => sparesRules.update ⟨hplain, fun _ => ?_⟩ hs
    exact ⟨_, List.mem_append_right _ (List.mem_singleton.mpr rfl), serves_validateCreation hplain _⟩

theorem resumeProgress_handles (hs : s₀.Attended config) (hm : message ∈ s₀.queue)
    (htype : message.eventType = .IDEA_SESSION_RESUME_SESSION_COMMAND_PROGRESS_EVENT)
    (hannounces : ResumeAnnounces env message s₀) :
    Handles config message s₀ (CommandProgress.handleResume env message) := by
  have hstart : Spares config s₀ [] message s₀ := hs.spares (by rw [htype]; rfl)
  have hnil : ∀ m ∈ ([] : List QueuedEvent), m ≠ message := fun _ h => by cases h
  refine Triple.ite (fun hsender => ?_) fun _ => Handles.of_keeps hstart hm hnil Yields.raise
  refine Triple.ite (fun _ => ?_) fun _ => Handles.of_keeps hstart hm hnil (.pure trivial)
  refine Handles.withRequiredSession hs fun session hsession => Triple.ite (fun hsuccess => ?_)
    fun _ => Handles.of_keeps hstart hm hnil ?_
  · exact onResumed_handles hs hm htype hsession (hannounces session hsession hsender hsuccess)
  · obtain ⟨-, -, row, hrow, hread⟩ := Store.named_key hsession
    exact sparesRules.markError_keeps (Expected.enters _ rfl) (hread ▸ hstart.expected hrow)

end Handlers

end Idea.VirtualDesktop.Controller

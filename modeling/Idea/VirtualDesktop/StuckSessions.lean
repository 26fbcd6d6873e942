import Idea.VirtualDesktop.Attendance

/-! # Sessions that no message moves on

Over a run in which each step announces what it writes, each session in a transition is served by a
message of the queue, and a message that serves a session can move it on.
-/

namespace Idea.VirtualDesktop.Controller

open Stateful (Triple Ends Yields Keeps)

variable {config : Config} {env : Env config} {s₀ s : Store} {session : VirtualDesktopSession}
  {message : QueuedEvent}

/-- Some messages that ask for a deletion were added, and each session in a transition is served by
one of them or of the list. -/
def Terminating (config : Config) (s₀ : Store) (L : List QueuedEvent) (s : Store) : Prop :=
  ∃ M, (∀ m ∈ M, m.eventType = .VALIDATE_DCV_SESSION_DELETION_EVENT) ∧
    Awaiting s₀.queue M s₀.Gone (ServedBy config (L ++ M)) s

variable {L M : List QueuedEvent}

theorem Terminating.of_awaiting
    (hM : ∀ m ∈ M, m.eventType = .VALIDATE_DCV_SESSION_DELETION_EVENT)
    (h : Awaiting s₀.queue M s₀.Gone (ServedBy config (L ++ M)) s) : Terminating config s₀ L s :=
  ⟨M, hM, h⟩

theorem markDeleting_triple (hM : ∀ m ∈ M, m.eventType = .VALIDATE_DCV_SESSION_DELETION_EVENT)
    (hL : ∀ m ∈ s₀.queue, isAwaited m.eventType = true → m ∈ L)
    (hplain : IsPlain session.key.1 ∧ IsPlain session.key.2)
    (hmoves : MovesWith env s₀ session.key .DELETING [.publish (updateEvent config session.key)]
      (validateDeletionEvent config session.key)) :
    Triple (fun s => Awaiting s₀.queue M s₀.Gone (ServedBy config (L ++ M)) s ∧
        Present session.key s)
      (do
        let session ← SessionDB.update env { session with state := .DELETING }
        publishValidateDeletion env session.key
        pure session)
      (fun _ => Terminating config s₀ L) fun _ => Terminating config s₀ L := by
  have hwrite := moveSession_triple { session with state := .DELETING }
    (A := ServedBy config (L ++ M)) (B := ServedBy config (L ++ M)) (K := s₀.queue) (M := M)
    (P := s₀.Gone) hmoves hplain (fun _ _ _ _ h => h) fun hmessage i => by
      obtain ⟨m, hm, hserves⟩ := hmessage
      exact ⟨m, List.mem_append_left _ (hL m hm hserves.isAwaited), hserves⟩
  refine Triple.bind (hwrite.consequence (fun _ h => h) (fun _ _ h => h) ?_) fun r =>
    Triple.of_forall ?_
  · rintro _ s (h | h)
    · exact .of_awaiting hM h
    · exact .of_awaiting hM h
  rintro s ⟨rfl, h | ⟨hcalls, haccepts, h⟩⟩
  · have hpublish : Keeps (Awaiting s₀.queue M s₀.Gone (ServedBy config (L ++ M)))
        (publishValidateDeletion env session.key) :=
      Rules.perform_keeps fun _ hs => awaitingRules.other rfl hs
    exact Triple.of_state h (Triple.bind (hpublish.triple fun _ _ hs => .of_awaiting hM hs) fun _ =>
      Triple.pure fun _ hs => .of_awaiting hM hs)
  · have hpublish : Triple (Awaiting s₀.queue M s₀.Gone
          (Owed (ServedBy config (L ++ M)) session.key .DELETING))
        (publishValidateDeletion env session.key)
        (fun _ => Terminating config s₀ L) fun _ => Terminating config s₀ L := by
      refine (publish_done (hcalls _ (by simp)) haccepts.not_gone).post fun _ s hs =>
        .of_awaiting (M := validateDeletionEvent config session.key :: M)
          (List.forall_mem_cons.mpr ⟨rfl, hM⟩) (hs.mono ?_)
      rintro k st i (hk | ⟨rfl, rfl⟩)
      · exact served_of_subset (List.append_subset.mpr ⟨List.subset_append_left _ _, fun _ h =>
          List.mem_append_right _ (List.mem_cons_of_mem _ h)⟩) hk
      · exact ⟨_, List.mem_append_right _ List.mem_cons_self, serves_validateDeletion hplain i⟩
    exact Triple.of_state h (Triple.bind hpublish fun _ => Triple.pure fun _ hs => hs)

def AllPresent (sessions : List VirtualDesktopSession) (s : Store) : Prop :=
  ∀ session ∈ sessions, Present session.key s

theorem allPresentRules (sessions : List VirtualDesktopSession) :
    EntryRules env (AllPresent sessions) fun _ => True where
  other hcall h session hsession := (presentRules session.key).other hcall (h session hsession)
  read _ _ := trivial
  same _ _ _ _ := trivial
  update _ h session hsession := (presentRules session.key).update trivial (h session hsession)

theorem markForValidation_terminating {sessions : List VirtualDesktopSession}
    {dcvSessionId : Option String}
    (hL : ∀ m ∈ s₀.queue, isAwaited m.eventType = true → m ∈ L)
    (hplain : ∀ session ∈ sessions, IsPlain session.key.1 ∧ IsPlain session.key.2)
    (hmoves : ∀ session, sessions.reverse.find? (·.dcvSessionId = dcvSessionId) = some session →
      MovesWith env s₀ session.key .DELETING [.publish (updateEvent config session.key)]
        (validateDeletionEvent config session.key)) :
    Keeps (fun s => Terminating config s₀ L s ∧ AllPresent sessions s)
      (markForValidation env .DELETING sessions dcvSessionId) := by
  have hpresent : Keeps (AllPresent sessions)
      (markForValidation env .DELETING sessions dcvSessionId) :=
    ((allPresentRules sessions).toRules.markForValidation_yields (fun _ _ => trivial)
      fun _ _ => trivial).keeps
  unfold markForValidation sessionOfDcvId at hpresent ⊢
  split at hpresent
  · exact Yields.raise
  · next session hsession =>
    have hmem : session ∈ sessions := List.mem_reverse.mp (List.mem_of_find?_eq_some hsession)
    refine Triple.of_forall fun s ⟨⟨M, hM, hs⟩, hall⟩ => ?_
    have hmark := markDeleting_triple hM hL (hplain session hmem) (hmoves session hsession)
    refine Triple.consequence (Triple.and (hmark.of_state ⟨hs, hall session hmem⟩)
      (hpresent.of_state hall)) (fun _ h => h) (fun _ _ h => ⟨⟨h.1, h.2.1⟩, trivial⟩) fun _ _ h => h

theorem terminateStopped_keeps {stopped : List VirtualDesktopSession}
    (hstopped : ∀ session ∈ stopped, Expected (ServedBy config (L ++ M)) session) :
    Keeps (Awaiting s₀.queue M s₀.Gone (ServedBy config (L ++ M)))
      (terminateStopped env stopped) := by
  have rules : EntryRules env (Awaiting s₀.queue M s₀.Gone (ServedBy config (L ++ M))) _ :=
    awaitingRules
  refine (rules.toRules.terminateDcvHosts_keeps fun i _ => rules.writable i).bind fun _ _ => ?_
  refine Yields.keeps (Ends.collect (q := fun _ => True) fun session hsession => ?_)
  exact rules.deleteSession_keeps (hstopped session hsession)
    (Rules.perform_keeps fun s hs => hs.erase fun _ _ _ _ h => h)

theorem terminateSessions_terminating {requests : List SessionRequest}
    (hL : ∀ m ∈ s₀.queue, isAwaited m.eventType = true → m ∈ L)
    (hs : Awaiting s₀.queue [] s₀.Gone (ServedBy config (L ++ [])) s₀)
    (hannounces : TerminationAnnounces env s₀ requests) :
    Triple (· = s₀) (terminateSessions env requests) (fun _ => Terminating config s₀ L)
      fun _ => Terminating config s₀ L := by
  have hstart : Terminating config s₀ L s₀ := .of_awaiting (fun _ h => absurd h List.not_mem_nil) hs
  refine Triple.bind (Rules.findSessions_reads.consequence (fun _ h => h) (fun _ _ h => h)
    fun _ _ h => h ▸ hstart) fun sessions => Triple.of_forall ?_
  rintro s ⟨rfl, rfl⟩
  have hfound : ∀ session ∈ requests.filterMap s.requested,
      Expected (ServedBy config (L ++ [])) session ∧ Present session.key s := by
    intro session hsession
    obtain ⟨request, -, hrequest⟩ := List.mem_filterMap.mp hsession
    obtain ⟨key, row, -, hrow, rfl⟩ := Store.find_eq_some hrequest
    refine ⟨hs.expected hrow, ?_⟩
    change (s.sessions.get? key).isSome
    rw [hrow]
    rfl
  have hrunning : ∀ session ∈ s.running requests, session ∈ requests.filterMap s.requested :=
    fun session h => (List.mem_filter.mp h).1
  have hI : Terminating config s L s ∧ AllPresent (s.running requests) s :=
    ⟨hstart, fun session h => (hfound session (hrunning session h)).2⟩
  have hanswer : Ends (fun s' => Terminating config s L s' ∧ AllPresent (s.running requests) s')
      (fun _ => Terminating config s L) (deleteDcvSessions env (s.running requests))
      fun answer => ∀ id ∈ answer.1,
        id ∈ (env.deletedSessions ((s.running requests).map (·.dcvSessionId))).1 := by
    refine .ite (fun _ => .pure fun _ h => by cases h) fun _ => ?_
    refine Ends.bind (p := fun _ => True) (perform_triple (fun s' hs' _ => ⟨?_, trivial⟩)
      fun _ _ hs' _ => hs'.1) fun _ _ => .pure fun _ h => h
    obtain ⟨⟨M, hM, hawaiting⟩, hall⟩ := hs'
    exact ⟨.of_awaiting hM (awaitingRules.other rfl hawaiting),
      (allPresentRules _).other rfl hall⟩
  refine Triple.of_state hI (Triple.bind hanswer fun answer => Triple.of_forall ?_)
  rintro s' ⟨hs', hids⟩
  have hmark : Keeps (fun s' => Terminating config s L s' ∧ AllPresent (s.running requests) s')
      (Stateful.collect (markForValidation env .DELETING (s.running requests)) answer.1) := by
    refine Yields.keeps (Ends.collect (q := fun _ => True) fun id hid => ?_)
    exact markForValidation_terminating hL
      (fun session h => (hfound session (hrunning session h)).1.plain)
      fun session hsession => hannounces id (hids id hid) session hsession
  refine Triple.of_state hs' (Triple.bind (hmark.triple fun _ _ h => h.1) fun deleting =>
    Triple.of_forall ?_)
  rintro s'' ⟨⟨M, hM, hs''⟩, -⟩
  have hstopped : ∀ session ∈ (requests.filterMap s.requested).filter (isStopped ·),
      Expected (ServedBy config (L ++ M)) session := fun session h =>
    (hfound session (List.mem_filter.mp h).1).1.mono fun k st i =>
      served_of_subset (List.append_subset.mpr ⟨List.subset_append_left _ _, fun _ h => absurd h List.not_mem_nil⟩)
  refine Triple.of_state hs'' (Triple.bind ((terminateStopped_keeps hstopped).triple fun _ _ h =>
    .of_awaiting hM h) fun deleted => ?_)
  have hfailed : Keeps (Awaiting s.queue M s.Gone (ServedBy config (L ++ M)))
      (failedSessions (s.running requests) answer.2) := Rules.failedSessions_keeps _ _
  exact Triple.bind (hfailed.triple fun _ _ h => .of_awaiting hM h) fun _ =>
    Triple.pure fun _ h => .of_awaiting hM h

theorem Store.Attended.holds (hs : s.Attended config) :
    Awaiting s.queue [] s.Gone (ServedBy config (s.queue ++ [])) s := by
  refine ⟨List.prefix_rfl, List.nil_subset _, fun event hevent => ?_, hs.plain, fun hrow h => ?_⟩
  · by_cases hq : event ∈ s.queue
    · exact .inl hq
    · exact .inr ⟨hevent, hq⟩
  · exact served_of_subset (List.subset_append_left _ _) (hs.served hrow h)

theorem Awaiting.of_holds {K : List QueuedEvent} {P : QueuedEvent → Prop}
    (h : Awaiting K M P (ServedBy config (K ++ M)) s) : s.Attended config :=
  ⟨h.plain, fun hrow hstate => served_of_subset
    (List.append_subset.mpr ⟨h.queue.subset, h.added⟩) (h.awaited hrow hstate)⟩

theorem terminateSessions_attended {requests : List SessionRequest} (hs : s₀.Attended config)
    (hannounces : TerminationAnnounces env s₀ requests) :
    ((terminateSessions env requests).run s₀).2.Attended config := by
  obtain ⟨M, -, h⟩ := Triple.any
    (terminateSessions_terminating (fun m hm _ => hm) hs.holds hannounces) rfl rfl
  exact h.of_holds

theorem handleTerminate_handles (hs : s₀.Attended config) (hm : message ∈ s₀.queue)
    (htype : message.eventType = .IDEA_SESSION_TERMINATE_EVENT)
    (hannounces : TerminationAnnounces env s₀ [SessionState.terminateRequest message]) :
    Handles config message s₀ (SessionState.handleTerminate env message) := by
  have hstart : Spares config s₀ [] message s₀ := hs.spares (by rw [htype]; rfl)
  have hnil : ∀ m ∈ ([] : List QueuedEvent), m ≠ message := fun _ h => by cases h
  have hL : ∀ m ∈ s₀.queue, isAwaited m.eventType = true → m ∈ s₀.queue.erase message := by
    intro m hm hawaited
    refine (List.mem_erase_of_ne ?_).mpr hm
    rintro rfl
    rw [htype] at hawaited
    cases hawaited
  have hspared : ∀ s, Terminating config s₀ (s₀.queue.erase message) s →
      s.Released config message ∧ s.Attended config := by
    rintro s ⟨M, hM, h⟩
    refine Awaiting.spared h hm fun m hmem => ?_
    rintro rfl
    cases htype.symm.trans (hM m hmem)
  refine Triple.ite (fun _ => ?_) fun _ => Handles.of_keeps hstart hm hnil Yields.raise
  have hterminate := terminateSessions_terminating hL hstart hannounces
  refine Triple.bind (hterminate.consequence (fun _ h => h) (fun _ _ h => h) ?_) fun answer => ?_
  · exact fun e s h => ⟨fun _ => (hspared s h).1, fun _ => (hspared s h).2⟩
  · split
    · exact Triple.pure fun s h => (hspared s h).1
    · exact Triple.raise fun s h => ⟨fun _ => (hspared s h).1, fun _ => (hspared s h).2⟩

theorem createSession_attended {new : NewSession} (hs : s₀.Attended config)
    (hplain : IsPlain new.key.1 ∧ IsPlain new.key.2) :
    ((createSession env new).run s₀).2.Attended config := by
  have rules : EntryRules env (Awaiting s₀.queue [] s₀.Gone (ServedBy config (s₀.queue ++ []))) _ :=
    awaitingRules
  have creationRules : Rules.CreationRules env
      (Awaiting s₀.queue [] s₀.Gone (ServedBy config (s₀.queue ++ []))) new :=
    { quiet := fun hcall => rules.toRules.quiet hcall
      launch := fun _ h => ⟨h.queue, h.added, h.sent, h.plain, h.awaited⟩
      putServer := fun _ => rules.other rfl
      deleteSchedule := fun _ _ => rules.other rfl
      putSchedule := fun _ => rules.other rfl
      putSession := fun {session s} hkey hstate _ _ h => by
        refine rules.update ⟨hkey ▸ hplain, fun h => ?_⟩ h
        rw [hstate] at h
        cases h }
  exact Awaiting.of_holds (run_keeps (Rules.createSession_keeps creationRules) hs.holds)

theorem isAwaited_of_isRoutine {eventType : VirtualDesktopEventType}
    (h : isRoutine eventType = true) : isAwaited eventType = false := by
  cases eventType <;> first | rfl | cases h

theorem handleEvent_handles (hs : s.Attended config) (hm : message ∈ s.queue)
    (hannounces : (⟨.deliver message, env⟩ : Step config).Announces s) :
    Handles config message s (handleEvent env message) := by
  obtain ⟨hready, hresume, hdelete, hterminate⟩ := hannounces
  cases hroutine : isRoutine message.eventType with
  | true =>
    exact Handles.of_keeps (hs.spares (isAwaited_of_isRoutine hroutine)) hm (fun _ h => by cases h)
      (handleEvent_keeps sparesRules Expected.entersRoutineStates hroutine)
  | false =>
    unfold handleEvent
    split <;> rename_i hevent <;> rw [hevent] at hroutine
    · exact hostReady_handles hs hm hevent (hready hevent)
    · cases hroutine
    · exact validateCreation_handles hs hm hevent
    · exact validateDeletion_handles hs hm hevent (hdelete hevent)
    · cases hroutine
    · exact resumeProgress_handles hs hm hevent (hresume hevent)
    all_goals first
      | cases hroutine; done
      | exact handleTerminate_handles hs hm hevent (hterminate hevent)

theorem step_attended {s' : Store} {step : Step config} (h : Takes s step s')
    (hs : s.Attended config) (hannounces : step.Announces s) : s'.Attended config := by
  cases h with
  | step hadmits =>
    obtain ⟨operation, env⟩ := step
    cases hroutine : operation.isRoutine with
    | true =>
      exact (apply_keeps awaitingRules Expected.entersRoutineStates hroutine hs.holds).of_holds
    | false =>
      cases operation with
      | createSession new => exact createSession_attended hs ⟨hadmits.1, hadmits.2.1⟩
      | terminateSessions requests => exact terminateSessions_attended hs hannounces
      | arrive message =>
        exact ⟨hs.plain, fun hrow h =>
          served_of_subset (List.subset_append_left _ _) (hs.served hrow h)⟩
      | deliver message =>
        change (deliver env message s).Attended config
        unfold deliver
        split
        · next hm => exact (handleEvent_handles hs hm hannounces).settle
        · exact hs
      | _ => cases hroutine

theorem run_attended {s₀ s : Store} {t : List (Edge Store (Step config))}
    (h : Run Takes s₀ t s) (h₀ : s₀.Attended config)
    (hannounces : ∀ e ∈ t, e.label.Announces e.pre) : s.Attended config :=
  h.invariant_of (Store.Attended config) h₀ (fun hs hstep hc => step_attended hstep hs hc)
    hannounces

def MovedOn (key : SessionKey) (state : VirtualDesktopSessionState) (s : Store) : Prop :=
  ∀ row, s.sessions.get? key = some row → row.state ≠ state

/-- The handler of the message can move the session to another state, or delete it. -/
def Store.CanMove (config : Config) (s : Store) (message : QueuedEvent) (key : SessionKey)
    (state : VirtualDesktopSessionState) : Prop :=
  ∃ env : Env config, MovedOn key state ((handleEvent env message).run s).2

/-- Each session in a transition has a message in the queue that can move it on. -/
def Store.Unstuck (config : Config) (s : Store) : Prop :=
  ∀ key row, s.sessions.get? key = some row → isTransition row.state = true →
    ∃ message ∈ s.queue, s.CanMove config message key row.state

variable {key : SessionKey} {state : VirtualDesktopSessionState}

theorem movedOnRules : EntryRules env (MovedOn key state)
    fun session => session.key = key → session.state ≠ state where
  other hcall h := by
    rw [MovedOn, (after_extends hcall _).sessions]
    exact h
  read {k s row} h hrow hkey := by
    obtain rfl : k = key := hkey
    exact h row hrow
  same hG hkey _ hstate := by
    rw [hkey, hstate]
    exact hG
  update hG h row hrow := by
    simp only [Store.after, Dict.get?_set] at hrow
    split at hrow
    · next hkey =>
      obtain rfl := Option.some.inj hrow
      exact hG hkey.symm
    · exact h row hrow

theorem movedOn_write (hkey : session.key = key) (hstate : session.state ≠ state) (s : Store) :
    MovedOn key state (s.after env (.updateSession session)) := by
  intro row hrow
  simp only [Store.after, Dict.get?_set, hkey, if_true] at hrow
  obtain rfl := Option.some.inj hrow
  exact hstate

abbrev MovesOn {α : Type} (key : SessionKey) (state : VirtualDesktopSessionState)
    (P : Store → Prop) (x : Action α) : Prop :=
  Triple P x (fun _ => MovedOn key state) fun _ => MovedOn key state

theorem updateSession_movesOn {P : Store → Prop}
    (hquiet : env.raises (.updateSession session) = none) (hkey : session.key = key)
    (hstate : session.state ≠ state) : MovesOn key state P (SessionDB.update env session) := by
  refine Triple.get_bind fun s hs => Triple.bind (Q := fun _ => MovedOn key state) ?_ fun _ => ?_
  · exact perform_triple (fun s _ _ => movedOn_write hkey hstate s)
      fun _ _ _ he => by cases hquiet.symm.trans he
  · have hevent : Keeps (MovedOn key state)
        (triggerUpdateEvent env .sessions session.owner session.ideaSessionId) :=
      movedOnRules.perform_keeps rfl
    exact Triple.ite (fun _ => Triple.raise fun _ h => h) fun _ => Triple.bind
      (hevent.triple fun _ _ h => h) fun _ => Triple.pure fun _ h => h

theorem withSession_movesOn {handler : VirtualDesktopSession → Action Unit}
    (hquiet : ∀ call, env.raises call = none) (hsession : s.named message = some session)
    (h : MovesOn key state (· = s) (handler session)) :
    MovesOn key state (· = s) (withSession env message handler) := by
  have hread : Triple (· = s) (messageSession env message) (fun r s' => s' = s ∧ r = some session)
      fun _ => MovedOn key state := by
    rw [← hsession]
    unfold messageSession SessionDB.getFromDb Store.named Store.find
    split
    · next hkey => exact Triple.pure fun _ h => ⟨h, by rw [hkey]; rfl⟩
    · next key hkey =>
      refine Triple.bind (Q := fun _ s' => s' = s) ?_ fun _ => Triple.get_bind ?_
      · exact perform_triple (fun _ hs _ => hs) fun _ _ _ he => by cases (hquiet _).symm.trans he
      · rintro _ rfl
        exact Triple.pure fun s' h => ⟨h, by rw [hkey]; rfl⟩
  refine Triple.bind hread fun found => Triple.of_forall ?_
  rintro _ ⟨rfl, rfl⟩
  exact h

theorem getCounter_movesOn {counterKey : CounterKey} (hquiet : ∀ call, env.raises call = none) :
    Triple (· = s) (CounterDB.get env counterKey) (fun _ s' => s' = s)
      fun _ => MovedOn key state := by
  refine Triple.bind (Q := fun _ s' => s' = s) ?_ fun _ => Triple.get_bind ?_
  · exact perform_triple (fun _ hs _ => hs) fun _ _ _ he => by cases (hquiet _).symm.trans he
  · rintro _ rfl
    exact Triple.pure fun _ h => h

theorem hostReady_movesOn (hserves : Serves config message key .CREATING session.instanceId)
    (hsession : s.named message = some session) (hkey : session.key = key)
    (hstate : session.state = .CREATING) :
    MovesOn key .CREATING (· = s)
      (DCVHostReady.handleEvent (Env.untroubled config) message) := by
  obtain ⟨-, htype, hsender, hi⟩ := hserves
  have hquiet : ∀ call, (Env.untroubled config).raises call = none := fun _ => rfl
  unfold DCVHostReady.handleEvent
  rw [hsender, if_neg (by rw [hi]; exact Bool.false_ne_true)]
  refine withSession_movesOn hquiet hsession ?_
  split
  · next hserver =>
    rw [VirtualDesktopSession.instanceId, hserver] at hi
    cases hi
  next server hserver =>
  have hinstance : session.instanceId = server.instanceId := by
    rw [VirtualDesktopSession.instanceId, hserver, Option.bind_some]
  refine Triple.ite (fun h => absurd hinstance.symm h) fun _ => ?_
  refine Triple.ite (fun _ => ?_) fun hawaits => absurd (by rw [hstate]; rfl) hawaits
  have hcreate : MovesOn key .CREATING (· = s)
      (DCVHostReady.createSession (Env.untroubled config) session) := by
    refine Triple.bind (Q := fun _ s' => s' = s)
      (perform_triple (fun _ hs _ => hs) fun _ _ _ he => by cases he) fun _ => ?_
    refine Triple.bind (getCounter_movesOn hquiet) fun counter => ?_
    refine Triple.ite (fun _ => ?_) fun hrefused => absurd rfl hrefused
    refine Triple.bind (updateSession_movesOn (hquiet _) hkey (fun h => by cases h)) fun updated => ?_
    refine Triple.bind ((movedOnRules.tagSession_keeps _).triple fun _ _ h => h) fun _ => ?_
    have hpublish : Keeps (MovedOn key .CREATING)
        (publishValidateCreation (Env.untroubled config) updated.key) :=
      movedOnRules.perform_keeps rfl
    refine Triple.bind (hpublish.triple fun _ _ h => h) fun _ => ?_
    refine Triple.bind ((clearCounter_keeps movedOnRules _ _).triple fun _ _ h => h) fun _ => ?_
    exact Triple.pure fun _ h => h
  refine Triple.bind (Q := fun r s' => s' = s ∧ r = session) ?_ fun r => Triple.of_forall ?_
  · refine Triple.ite (fun hresuming => ?_) fun _ => Triple.pure fun _ h => ⟨h, rfl⟩
    cases hstate.symm.trans hresuming
  · rintro _ ⟨rfl, rfl⟩
    refine Triple.bind hcreate fun _ => Triple.ite (fun _ => ?_) fun _ => ?_
    · exact Triple.raise fun _ h => h
    · exact Triple.pure fun _ h => h

def Env.ready (config : Config) : Env config :=
  { Env.untroubled config with dcvState := some "READY" }

theorem validateCreation_movesOn (hsender : isSenderControllerRole config message = true)
    (hsession : s.named message = some session) (hkey : session.key = key)
    (hstate : session.state = .INITIALIZING) :
    MovesOn key .INITIALIZING (· = s)
      (ValidateDCVSessionCreation.handleEvent (Env.ready config) message) := by
  have hquiet : ∀ call, (Env.ready config).raises call = none := fun _ => rfl
  refine Triple.ite (fun _ => withSession_movesOn hquiet hsession ?_) fun h => absurd hsender h
  refine Triple.bind (getCounter_movesOn hquiet) fun counter => ?_
  refine Triple.ite (fun h => ?_) fun _ => ?_
  · rw [hstate] at h
    cases h
  refine Triple.bind (Q := fun _ s' => s' = s)
    (perform_triple (fun _ hs _ => hs) fun _ _ _ he => by cases he) fun _ => ?_
  refine Triple.ite (fun _ => ?_) fun h => absurd rfl h
  refine Triple.bind (updateSession_movesOn (hquiet _) hkey (fun h => by cases h)) fun _ => ?_
  have hdelete : Keeps (MovedOn key .INITIALIZING) (CounterDB.delete (Env.ready config)
      (ValidateDCVSessionCreation.counterKey session)) := movedOnRules.perform_keeps rfl
  exact hdelete.triple fun _ _ h => h

theorem movedOn_erase (s : Store) : MovedOn key state (s.after env (.deleteSession key)) := by
  intro row hrow
  simp only [Store.after, Dict.get?_erase, if_true] at hrow
  cases hrow

theorem deleteAndTerminate_movesOn (hplain : IsPlain session.key.1 ∧ IsPlain session.key.2) :
    MovesOn session.key state (· = s)
      (ValidateDCVSessionDeletion.deleteAndTerminate (Env.untroubled config) session) := by
  have hid : isEmptyString (some session.ideaSessionId) = false :=
    isEmptyString_of_isPlain hplain.2
  have howner : isEmptyString (some session.owner) = false := isEmptyString_of_isPlain hplain.1
  have hschedules : Triple (fun _ => True)
      (deleteSchedulesForSession (Env.untroubled config) session) (fun _ _ => True)
      fun _ => MovedOn session.key state :=
    Triple.forEach fun day _ => deleteSchedule_done (fun _ _ => ⟨rfl, rfl⟩)
      (fun _ _ _ => trivial) fun _ _ _ => trivial
  have hpermissions : Triple (fun _ => True)
      (deletePermissionsForSession (Env.untroubled config) session) (fun _ _ => True)
      fun _ => MovedOn session.key state :=
    Triple.bind (Q := fun keys _ => keys = [])
      (Triple.get_bind fun _ _ => Triple.pure fun _ _ => rfl) fun keys => Triple.of_forall (by
        rintro _ rfl
        exact Triple.pure fun _ _ => trivial)
  have hdelete : MovesOn session.key state (fun _ => True)
      (SessionDB.delete (Env.untroubled config) session) := by
    unfold SessionDB.delete
    rw [hid, howner]
    refine Triple.get_bind fun s _ => Triple.bind (Q := fun _ => MovedOn session.key state) ?_
      fun _ => Triple.ite (fun _ => Triple.raise fun _ h => h) fun _ => ?_
    · exact perform_triple (fun s _ _ => movedOn_erase s) fun _ _ _ he => by cases he
    · have hevent : Keeps (MovedOn session.key state) (triggerDeleteEvent (Env.untroubled config)
          .sessions session.owner session.ideaSessionId) := movedOnRules.perform_keeps rfl
      exact hevent.triple fun _ _ h => h
  refine Triple.bind (hschedules.pre fun _ _ => trivial) fun _ => ?_
  refine Triple.bind hpermissions fun _ => Triple.bind hdelete fun _ => ?_
  exact (movedOnRules.terminateServer_keeps session.server).triple fun _ _ h => h

theorem validateDeletion_movesOn (hsender : isSenderControllerRole config message = true)
    (hsession : s.named message = some session)
    (hplain : IsPlain session.key.1 ∧ IsPlain session.key.2) (hstate : session.state = .DELETING) :
    MovesOn session.key .DELETING (· = s)
      (ValidateDCVSessionDeletion.handleEvent (Env.untroubled config) message) := by
  have hquiet : ∀ call, (Env.untroubled config).raises call = none := fun _ => rfl
  refine Triple.ite (fun _ => withSession_movesOn hquiet hsession ?_) fun h => absurd hsender h
  refine Triple.ite (fun _ => ?_) fun h => absurd (by rw [hstate]; rfl) h
  refine Triple.bind (Q := fun _ s' => s' = s)
    (perform_triple (fun _ hs _ => hs) fun _ _ _ he => by cases he) fun _ => ?_
  refine Triple.ite (fun h => absurd h Bool.false_ne_true) fun _ => ?_
  refine Triple.ite (fun _ => ?_) fun h => absurd hstate h
  have hdelete : MovesOn session.key .DELETING (· = s)
      (ValidateDCVSessionDeletion.deleteAndTerminate (Env.untroubled config) session) :=
    deleteAndTerminate_movesOn hplain
  refine Triple.bind (Triple.attempt hdelete) fun outcome => Triple.pure fun s' h => ?_
  rcases outcome with e | a
  · exact h.2 e rfl
  · exact h.1 a rfl

theorem Store.Attended.unstuck (hs : s.Attended config) : s.Unstuck config := by
  intro key row hrow hstate
  obtain ⟨message, hm, hserves⟩ := hs.served hrow hstate
  refine ⟨message, hm, ?_⟩
  have hsession := hserves.named hrow
  cases hrowState : row.state with
  | CREATING =>
    rw [hrowState] at hserves
    have hi : (SessionDB.readEntry key row).instanceId = row.instanceId := readEntry_instanceId key row
    have hmoves := hostReady_movesOn (hi ▸ hserves) hsession rfl hrowState
    refine ⟨Env.untroubled config, ?_⟩
    unfold handleEvent
    rw [hserves.2.1]
    exact Triple.any hmoves rfl rfl
  | INITIALIZING =>
    rw [hrowState] at hserves
    have hmoves := validateCreation_movesOn hserves.2.2 hsession rfl hrowState
    refine ⟨Env.ready config, ?_⟩
    unfold handleEvent
    rw [hserves.2.1]
    exact Triple.any hmoves rfl rfl
  | DELETING =>
    rw [hrowState] at hserves
    have hmoves := validateDeletion_movesOn hserves.2.2 hsession (hs.plain hrow) hrowState
    refine ⟨Env.untroubled config, ?_⟩
    unfold handleEvent
    rw [hserves.2.1]
    exact Triple.any hmoves rfl rfl
  | _ =>
    rw [hrowState] at hstate
    cases hstate

theorem empty_attended : Store.empty.Attended config :=
  ⟨fun h => (by cases h), fun h => (by cases h)⟩

/-- In a run in which no call fails between the write of a state and the event that the state waits
for, no session is stuck in a transition. -/
theorem run_unstuck {s : Store} {t : List (Edge Store (Step config))}
    (h : Run Takes Store.empty t s) (hannounces : ∀ e ∈ t, e.label.Announces e.pre) :
    s.Unstuck config :=
  (run_attended h empty_attended hannounces).unstuck

def hostReady : QueuedEvent :=
  { controllerEvent controllerConfig .DCV_HOST_READY_EVENT with
    sender := ⟨"idea-vdc-host-role", some "i-1"⟩
    ideaSessionId := some "session-1"
    ideaSessionOwner := some "ada" }

def reportReady : Step controllerConfig := ⟨.arrive hostReady, Env.untroubled controllerConfig⟩

def deliverQuietly (message : QueuedEvent) : Step controllerConfig :=
  ⟨.deliver message, Env.untroubled controllerConfig⟩

def Env.withoutValidation (config : Config) : Env config :=
  { Env.untroubled config with
    raises := fun call => match call with
      | .publish event =>
        if event.eventType = .VALIDATE_DCV_SESSION_CREATION_EVENT then some .external else none
      | _ => none
    raises_keeps := by
      intro call e h
      cases call with
      | publish event =>
        dsimp only at h
        split at h
        · obtain rfl := Option.some.inj h
          rfl
        · cases h
      | _ => cases h }

theorem Takes.of_deliver (s : Store) (message : QueuedEvent) (env : Env config) :
    Takes s ⟨.deliver message, env⟩ (Step.apply s ⟨.deliver message, env⟩) := .step trivial

theorem run_unstuck_announced :
    ((deliverQuietly hostReady).apply (reportReady.apply (creation.apply Store.empty))).Unstuck
      controllerConfig := by
  have hcreate : Takes Store.empty creation (creation.apply Store.empty) := .step newDesktop_admitted
  have hready : Takes (creation.apply Store.empty) reportReady
    (reportReady.apply (creation.apply Store.empty)) := .step trivial
  refine run_unstuck ((Run.single hcreate).append ((Run.single hready).append
    (.single (.of_deliver _ hostReady _)))) ?_
  intro e he
  simp only [List.singleton_append, List.mem_cons, List.not_mem_nil, or_false] at he
  obtain rfl | rfl | rfl := he
  · trivial
  · trivial
  · refine ⟨fun _ session _ _ _ _ _ => ?_, fun h => ?_, fun h => ?_, fun h => ?_⟩
    · exact .inr (.inr ⟨fun _ _ => rfl, fun h => by cases h⟩)
    all_goals cases h

def leftover : List QueuedEvent :=
  [entryEvent controllerConfig .DB_ENTRY_CREATED_EVENT .servers "i-1" "",
    entryEvent controllerConfig .DB_ENTRY_CREATED_EVENT .sessions "ada" "session-1", hostReady,
    updateEvent controllerConfig ("ada", "session-1")]

theorem run_deliver (messages : List QueuedEvent) (s : Store) :
    ∃ t : List (Edge Store (Step controllerConfig)), Run Takes s t
      (messages.foldl (fun s message => (deliverQuietly message).apply s) s) := by
  induction messages generalizing s with
  | nil => exact ⟨[], .nil⟩
  | cons message messages ih =>
    obtain ⟨t, ht⟩ := ih ((deliverQuietly message).apply s)
    exact ⟨_, (Run.single (.of_deliver s message _)).append ht⟩

def unannounced : Store :=
  Step.apply (reportReady.apply (creation.apply Store.empty))
    ⟨.deliver hostReady, Env.withoutValidation controllerConfig⟩

/-- A host that is ready is handled again after its session was written without the event, and then
no message is left. -/
theorem unannounced_validation_sticks : ¬ ∀ (t : List (Edge Store (Step controllerConfig))) s,
    Run Takes Store.empty t s → s.Unstuck controllerConfig := by
  intro h
  have hcreate : Takes Store.empty creation (creation.apply Store.empty) := .step newDesktop_admitted
  have hready : Takes (creation.apply Store.empty) reportReady
    (reportReady.apply (creation.apply Store.empty)) := .step trivial
  obtain ⟨t, ht⟩ := run_deliver leftover unannounced
  have hrun := (Run.single hcreate).append ((Run.single hready).append
    ((Run.single (.of_deliver _ hostReady (Env.withoutValidation controllerConfig))).append ht))
  have hstate : ((leftover.foldl (fun s message => (deliverQuietly message).apply s)
      unannounced).sessions.get? ("ada", "session-1")).map (·.state) = some .INITIALIZING := by
    decide +kernel
  have hqueue : (leftover.foldl (fun s message => (deliverQuietly message).apply s)
      unannounced).queue = [] := by decide +kernel
  obtain ⟨row, hrow, hinitializing⟩ := Option.map_eq_some_iff.mp hstate
  obtain ⟨message, hm, -⟩ := h _ _ hrun _ row hrow (by rw [hinitializing]; rfl)
  rw [hqueue] at hm
  cases hm

end Idea.VirtualDesktop.Controller

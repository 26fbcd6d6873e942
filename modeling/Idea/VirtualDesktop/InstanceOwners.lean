import Idea.VirtualDesktop.Lifecycle

/-! # The instances that entries name

An instance is launched for one session, and the entry that names it gets the key of that session.
Later operations write the instance back with the entry they read it from. So no request for one
session ever reaches the host of another, in whatever order the operations come and whichever calls
raise.
-/

namespace Idea.VirtualDesktop.Controller

open Stateful (Triple Ends Yields Keeps)

variable {config : Config} {env : Env config}

/-- The launched instances; the instance that an entry names is one of them, launched for the
session of the entry. -/
structure Owned (L : List (String × SessionKey)) (s : Store) : Prop where
  launched : s.launched = L
  entry : ∀ {key row i}, s.sessions.get? key = some row → row.instanceId = some i → (i, key) ∈ L

def OwnedBy (L : List (String × SessionKey)) (session : VirtualDesktopSession) : Prop :=
  ∀ i, session.instanceId = some i → (i, session.key) ∈ L

variable {L : List (String × SessionKey)} {s : Store} {session : VirtualDesktopSession}

theorem Owned.of_extends {s' : Store} (h : Owned L s) (hs : s.Extends s') : Owned L s' where
  launched := hs.launched.trans h.launched
  entry hrow hi := h.entry (hs.sessions ▸ hrow) hi

theorem Owned.write (h : Owned L s) (hG : OwnedBy L session) :
    Owned L { s with sessions := s.sessions.set session.key (session.stored env) } where
  launched := h.launched
  entry {key row i} hrow hi := by
    rw [Dict.get?_set] at hrow
    split at hrow
    · next hkey =>
      obtain rfl := Option.some.inj hrow
      exact hkey ▸ hG i hi
    · exact h.entry hrow hi

theorem Owned.erase (h : Owned L s) (key : SessionKey) :
    Owned L { s with sessions := s.sessions.erase key } where
  launched := h.launched
  entry {k row i} hrow hi := by
    rw [Dict.get?_erase] at hrow
    split at hrow
    · cases hrow
    · exact h.entry hrow hi

theorem Owned.launch (h : Owned L s) (entry : String × SessionKey) (types : Dict String String) :
    Owned (L ++ [entry]) { s with
      launched := s.launched ++ [entry]
      instanceTypes := types } where
  launched := congrArg (· ++ [entry]) h.launched
  entry hrow hi := List.mem_append_left _ (h.entry hrow hi)

theorem ownedRules : EntryRules env (Owned L) (OwnedBy L) where
  other hcall h := h.of_extends (after_extends hcall _)
  read {key _ row} h hrow _ hi := h.entry hrow ((readEntry_instanceId key row).symm.trans hi)
  same hG hkey hi _ i hb := hkey ▸ hG i (hi ▸ hb)
  update hG h := h.write hG

theorem ownedBy_enters (state : VirtualDesktopSessionState) : Rules.Enters (OwnedBy L) state :=
  fun _ h => h

theorem ownedBy_routine : EntersRoutineStates (OwnedBy L) :=
  ⟨ownedBy_enters _, ownedBy_enters _, ownedBy_enters _, ownedBy_enters _⟩

section Deletion

variable {I : Store → Prop} {G : VirtualDesktopSession → Prop} (rules : EntryRules env I G)
  (hdelete : ∀ key, Keeps I (perform env (.deleteSession key)))
include rules hdelete

theorem EntryRules.terminateSessions_keeps (hdeleting : Rules.Enters G .DELETING)
    (requests : List SessionRequest) : Keeps I (terminateSessions env requests) := by
  refine (Ends.collect fun request _ =>
    rules.toRules.findSession_yields fun _ _ => trivial).bind fun sessions hsessions => ?_
  have hof : ∀ {p : VirtualDesktopSession → Bool}, ∀ session ∈ sessions.filter p, G session :=
    fun session h => hsessions session (List.mem_filter.mp h).1
  refine (rules.toRules.deleteDcvSessions_keeps _).bind fun answer _ => ?_
  refine (Ends.collect fun _ _ =>
    rules.toRules.markForValidation_yields hdeleting hof).bind fun _ _ => ?_
  have hstopped : Keeps I (terminateStopped env (sessions.filter (isStopped ·))) := by
    refine (rules.toRules.terminateDcvHosts_keeps fun i _ => rules.writable i).bind fun _ _ => ?_
    exact Yields.keeps (Ends.collect (q := fun _ => True) fun session h =>
      rules.deleteSession_keeps (hof session h) (hdelete _))
  refine hstopped.bind fun _ _ => ?_
  exact (Rules.failedSessions_keeps _ _).bind fun _ _ => .pure trivial

variable {message : QueuedEvent}

theorem EntryRules.handleTerminate_keeps (hdeleting : Rules.Enters G .DELETING) :
    Keeps I (SessionState.handleTerminate env message) := by
  refine EntryRules.fromController_keeps ?_
  refine (rules.terminateSessions_keeps hdelete hdeleting _).bind fun answer _ => ?_
  split
  · exact .pure trivial
  · exact Yields.raise

theorem EntryRules.validateDeletion_keeps (hG : EntersRoutineStates G) :
    Keeps I (ValidateDCVSessionDeletion.handleEvent env message) := by
  refine EntryRules.fromController_keeps (rules.withSession_keeps fun session hsession => ?_)
  refine .ite (fun _ => ?_) fun _ => .pure trivial
  refine (rules.perform_keeps rfl).bind fun _ _ => .ite (fun _ => Yields.raise) fun _ => ?_
  refine .ite (fun _ => ?_) fun _ => ?_
  · exact (rules.deleteAndTerminate_keeps hsession (hdelete _)).attempt.bind fun _ _ =>
      .pure trivial
  · exact rules.continueStopSession_keeps hG.stopped hG.stopping hsession

end Deletion

theorem deleteEntry_owned (key : SessionKey) :
    Keeps (Owned L) (perform env (.deleteSession key)) :=
  Rules.perform_keeps fun _ h => h.erase key

theorem handleEvent_owned (message : QueuedEvent) : Keeps (Owned L) (handleEvent env message) := by
  cases h : isRoutine message.eventType with
  | true => exact handleEvent_keeps ownedRules ownedBy_routine h
  | false =>
    unfold handleEvent
    split <;> rename_i hevent <;> rw [hevent] at h
    · exact ownedRules.hostReady_keeps (ownedBy_enters _) (ownedBy_enters _) (ownedBy_enters _)
    · cases h
    · exact ownedRules.validateCreation_keeps (ownedBy_enters _) (ownedBy_enters _)
        (ownedBy_enters _)
    · exact ownedRules.validateDeletion_keeps deleteEntry_owned ownedBy_routine
    · cases h
    · exact ownedRules.resumeProgress_keeps (ownedBy_enters _) (ownedBy_enters _)
    all_goals first
      | cases h; done
      | exact ownedRules.handleTerminate_keeps deleteEntry_owned (ownedBy_enters _)

section Creation

variable {new : NewSession} {i : String}

theorem provisionHostForSession_owned (hrun : env.runInstances = .ok (some i)) :
    Triple (Owned L) (provisionHostForSession env new.server new.key)
      (fun r s => Owned (L ++ [(i, new.key)]) s ∧
        ∀ server, r = some server → server.instanceId = some i)
      fun _ => Owned (L ++ [(i, new.key)]) := by
  simp only [provisionHostForSession, runInstances, hrun]
  refine Triple.bind (Q := fun r s => r = some i ∧ Owned (L ++ [(i, new.key)]) s) ?_ fun r => ?_
  · refine Triple.bind (Q := fun _ => Owned (L ++ [(i, new.key)])) ?_ fun _ => ?_
    · exact Triple.modify fun s h => h.launch _ _
    · exact Triple.pure fun _ h => ⟨rfl, h⟩
  refine Triple.of_forall ?_
  rintro s ⟨rfl, hs⟩
  have hcreate : Yields (Owned (L ++ [(i, new.key)])) (ServerDB.create env i new.server new.key)
      fun server => server.instanceId = some i :=
    (ownedRules.perform_keeps rfl).bind fun _ _ =>
      (ownedRules.perform_keeps rfl).bind fun _ _ => .pure rfl
  refine Triple.pre (Triple.bind hcreate fun server => Triple.pure fun s h => ⟨h.1, ?_⟩)
    (by rintro _ rfl; exact hs)
  rintro _ ⟨⟩
  exact h.2

/-- The rest of a creation keeps the new instance, whose entry it may write. -/
theorem createSession_owned (hrun : env.runInstances = .ok (some i)) :
    Triple (Owned L) (createSession env new) (fun _ => Owned (L ++ [(i, new.key)]))
      fun _ => Owned (L ++ [(i, new.key)]) := by
  refine (Triple.attempt (provisionHostForSession_owned hrun)).bind fun r => ?_
  refine Triple.of_forall fun s h => ?_
  rcases r with e | _ | server
  · exact Triple.pure fun _ hs => hs ▸ h.2 e rfl
  · exact Triple.pure fun _ hs => hs ▸ (h.1 _ rfl).1
  have hschedules : Rules.ScheduleRules env (Owned (L ++ [(i, new.key)]))
      (fun _ => Owned (L ++ [(i, new.key)])) new.key new.schedule :=
    ⟨fun _ _ => ownedRules.perform_keeps rfl, fun _ _ => ownedRules.perform_keeps rfl,
      fun _ => ownedRules.perform_keeps rfl, ownedRules.perform_keeps rfl⟩
  have hrest : Keeps (Owned (L ++ [(i, new.key)])) (do
      perform env .getDefaultSchedules
      let schedule ← updateScheduleForSession env (fun day => some (env.defaultSchedules day))
        new.schedule new.key
      let session ← SessionDB.create env (new.entry server schedule)
      pure (.ok session : Except String VirtualDesktopSession)) := by
    refine (ownedRules.perform_keeps rfl).bind fun _ _ => ?_
    refine (Rules.updateScheduleForSession_ends hschedules).bind fun schedule _ => ?_
    have hentry : OwnedBy (L ++ [(i, new.key)]) (new.entry server schedule) := by
      intro i' hi
      obtain rfl := Option.some.inj (hi.symm.trans ((h.1 _ rfl).2 server rfl))
      exact List.mem_append_right _ (List.mem_singleton.mpr rfl)
    have hput : Keeps (Owned (L ++ [(i, new.key)]))
        (SessionDB.create env (new.entry server schedule)) :=
      (Rules.perform_keeps fun _ hs => hs.write hentry).bind fun _ _ =>
        (ownedRules.perform_keeps rfl).bind fun _ _ => .pure trivial
    exact hput.bind fun _ _ => .pure trivial
  exact Triple.pre (hrest.consequence (fun _ h => h) (fun _ _ h => h.1) fun _ _ h => h)
    (by rintro _ rfl; exact (h.1 _ rfl).1)

theorem createSession_unlaunched (hrun : ∀ i, env.runInstances ≠ .ok (some i)) :
    Keeps (Owned L) (createSession env new) :=
  Rules.createSession_keeps
    { quiet := fun hcall h => ownedRules.toRules.quiet hcall h
      launch := fun h _ => absurd h (hrun _)
      putServer := fun h _ => absurd h (hrun _)
      deleteSchedule := fun _ _ h => ownedRules.other rfl h
      putSchedule := fun _ h => ownedRules.other rfl h
      putSession := fun _ _ hi _ h => h.write fun _ hsome => absurd (hsome ▸ hi) (hrun _) }

end Creation

/-- No session has an instance that was launched for another, and none is launched twice. -/
def Store.OwnInstances (store : Store) : Prop :=
  Owned store.launched store ∧ (store.launched.map (·.2)).Nodup

theorem Owned.own (h : Owned L s) (hL : (L.map (·.2)).Nodup) : s.OwnInstances := by
  obtain rfl := h.launched
  exact ⟨h, hL⟩

theorem step_ownInstances {s' : Store} {step : Step config} (h : Takes s step s')
    (hs : s.OwnInstances) : s'.OwnInstances := by
  cases h with
  | step hadmits =>
    obtain ⟨operation, env⟩ := step
    cases hroutine : operation.isRoutine with
    | true => exact (apply_keeps ownedRules ownedBy_routine hroutine hs.1).own hs.2
    | false =>
      cases operation with
      | createSession new =>
        by_cases hrun : ∃ i, env.runInstances = .ok (some i)
        · obtain ⟨i, hrun⟩ := hrun
          refine (Triple.any (createSession_owned hrun) hs.1 rfl).own ?_
          simpa using List.Nodup.concat hadmits.2.2.1 hs.2
        · exact (run_keeps (createSession_unlaunched (not_exists.mp hrun)) hs.1).own hs.2
      | terminateSessions requests =>
        exact (run_keeps (ownedRules.terminateSessions_keeps deleteEntry_owned (ownedBy_enters _)
          requests) hs.1).own hs.2
      | arrive message => exact ⟨⟨rfl, hs.1.entry⟩, hs.2⟩
      | deliver message =>
        have hrun : (deliver env message s).OwnInstances := by
          unfold deliver settle
          have hhandled : Owned s.launched ((handleEvent env message).run s).2 :=
            run_keeps (handleEvent_owned message) hs.1
          split
          · split
            · exact Owned.own (L := s.launched) ⟨hhandled.launched, hhandled.entry⟩ hs.2
            · exact hhandled.own hs.2
          · exact hs
        exact hrun
      | _ => cases hroutine

/-- In every run of the desktop controller, whichever calls raise, an entry names no instance but
the one that was launched for its session. -/
theorem run_ownInstances {t : List (Edge Store (Step config))} (h : Run Takes .empty t s) :
    (s.launched.map (·.2)).Nodup ∧ ∀ key row i, s.sessions.get? key = some row →
      row.instanceId = some i → (i, key) ∈ s.launched := by
  have hempty : Store.empty.OwnInstances := ⟨⟨rfl, fun h => by cases h⟩, List.nodup_nil⟩
  have hs := h.invariant Store.OwnInstances hempty fun hs hstep => step_ownInstances hstep hs
  exact ⟨hs.2, fun _ _ _ hrow hi => hs.1.entry hrow hi⟩

theorem run_ownInstances_creation :
    ((creation.apply .empty).launched.map (·.2)).Nodup ∧ ∀ key row i,
      (creation.apply .empty).sessions.get? key = some row → row.instanceId = some i →
        (i, key) ∈ (creation.apply .empty).launched :=
  run_ownInstances (.single (.step newDesktop_admitted))

end Idea.VirtualDesktop.Controller

import Idea.VirtualDesktop.SessionHandlers

/-! # What the operations on sessions keep

An operation reads sessions, and what it writes are the sessions it read, their servers, their
schedules and their permissions. So a property of the store is kept by all operations once it is
kept by each of these writes.
-/

namespace Idea.VirtualDesktop.Controller

open Stateful (Triple Ends Yields Keeps)

variable {config : Config}

/-- The calls that change no table of sessions, servers, schedules or permissions, and no instance
type. -/
def Call.isQuiet : Call → Bool
  | .putSession _ | .updateSession _ | .deleteSession _ | .putServer _ _ | .updateServer _ _
  | .deleteServer _ | .putSchedule _ _ | .deleteSchedule _ | .putPermission _
  | .updatePermission _ | .deletePermission _ | .changeInstanceType _ _ => false
  | _ => true

def Store.find (store : Store) (owner ideaSessionId : Option String) :
    Option VirtualDesktopSession :=
  (SessionDB.sessionKey owner ideaSessionId).bind fun key =>
    (store.sessions.get? key).map (SessionDB.readEntry key)

def Store.requested (store : Store) (request : SessionRequest) : Option VirtualDesktopSession :=
  store.find request.owner request.ideaSessionId

def messageKey (message : QueuedEvent) : Option SessionKey :=
  SessionDB.sessionKey (getValueAsString message.ideaSessionOwner)
    (getValueAsString message.ideaSessionId)

def Store.named (store : Store) (message : QueuedEvent) : Option VirtualDesktopSession :=
  store.find (getValueAsString message.ideaSessionOwner) (getValueAsString message.ideaSessionId)

variable {owner ideaSessionId : Option String} {session : VirtualDesktopSession}

theorem Store.find_eq_some {store : Store} (h : store.find owner ideaSessionId = some session) :
    ∃ key row, SessionDB.sessionKey owner ideaSessionId = some key ∧
      store.sessions.get? key = some row ∧ session = SessionDB.readEntry key row := by
  obtain ⟨key, hkey, hmap⟩ := Option.bind_eq_some_iff.mp h
  obtain ⟨row, hrow, rfl⟩ := Option.map_eq_some_iff.mp hmap
  exact ⟨key, row, hkey, hrow, rfl⟩

theorem instanceId_readSession (session : VirtualDesktopSession) :
    (SessionDB.readSession session).instanceId = session.instanceId := by
  cases h : session.server <;>
    simp [VirtualDesktopSession.instanceId, SessionDB.readSession, SessionDB.readServer, h]

theorem readEntry_instanceId (key : SessionKey) (row : VirtualDesktopSession) :
    (SessionDB.readEntry key row).instanceId = row.instanceId :=
  instanceId_readSession row

/-- The property is kept when the entry of the instance is written or deleted. -/
def Writable (env : Env config) (I : Store → Prop) (instanceId : Option String) : Prop :=
  ∀ i s, instanceId = some i → I s →
    (∀ server, I (s.after env (.updateServer i server))) ∧ I (s.after env (.deleteServer i))

/-- The sessions that are read have the second property, and the store keeps the first when such a
session or what belongs to it is written. -/
structure Rules (env : Env config) (I : Store → Prop) (R : SessionKey → Prop)
    (G : VirtualDesktopSession → Prop) : Prop where
  quiet : ∀ {call s}, call.isQuiet = true → I s → I (s.after env call)
  read : ∀ {key s row}, R key → I s → s.sessions.get? key = some row →
    G (SessionDB.readEntry key row)
  written : ∀ {session}, G session → G (SessionDB.readSession (session.stored env))
  force : ∀ {session f}, G session → G { session with force := f }
  update : ∀ {session s}, G session → I s → I (s.after env (.updateSession session))
  server : ∀ {session}, G session → Writable env I session.instanceId
  deleteSchedule : ∀ {session : VirtualDesktopSession} {day key s}, G session →
    scheduleKey (session.schedule day) = some key → I s → I (s.after env (.deleteSchedule key))
  deletePermission : ∀ {session : VirtualDesktopSession} {key s}, G session →
    key.1 = session.ideaSessionId → I s → I (s.after env (.deletePermission key))

namespace Rules

variable {env : Env config} {I : Store → Prop} {R : SessionKey → Prop}
  {G : VirtualDesktopSession → Prop}

/-- The sessions may take a state. -/
def Enters (G : VirtualDesktopSession → Prop) (state : VirtualDesktopSessionState) : Prop :=
  ∀ session, G session → G { session with state := state }

theorem perform_keeps {call : Call} (h : ∀ s, I s → I (s.after env call)) :
    Keeps I (perform env call) :=
  perform_triple (fun s hs _ => ⟨h s hs, trivial⟩) fun _ _ hs _ => hs

variable {server : VirtualDesktopServer}

section

variable (rules : Rules env I R G)
include rules

theorem perform_quiet {call : Call} (h : call.isQuiet = true) : Keeps I (perform env call) :=
  perform_keeps fun _ => rules.quiet h

theorem getFromDb_yields (hR : ∀ key, SessionDB.sessionKey owner ideaSessionId = some key → R key) :
    Yields I (SessionDB.getFromDb env owner ideaSessionId) fun r =>
      ∀ session, r = some session → G session := by
  unfold SessionDB.getFromDb
  split
  · exact .pure fun _ h => nomatch h
  · next key hkey =>
    refine (rules.perform_quiet rfl).bind fun _ _ => Triple.get_bind fun s hs => ?_
    refine Triple.pure fun s' hs' => ⟨hs' ▸ hs, fun session hsession => ?_⟩
    obtain ⟨row, hrow, rfl⟩ := Option.map_eq_some_iff.mp hsession
    exact rules.read (hR key hkey) hs hrow

omit rules in
theorem getFromDb_reads {s : Store} :
    Triple (· = s) (SessionDB.getFromDb env owner ideaSessionId)
      (fun r s' => s' = s ∧ s.find owner ideaSessionId = r) fun _ s' => s' = s := by
  unfold SessionDB.getFromDb Store.find
  split
  · next hkey => exact .pure fun _ hs => ⟨hs, by rw [hkey]; rfl⟩
  · next key hkey =>
    have hget : Triple (· = s) (perform env (.getSession key)) (fun _ s' => s' = s)
        fun _ s' => s' = s :=
      perform_triple (fun _ hs _ => hs) fun _ _ hs _ => hs
    refine hget.bind fun _ => Triple.get_bind ?_
    rintro _ rfl
    exact Triple.pure fun s' hs' => ⟨hs', by rw [hkey]; rfl⟩

theorem requested {s : Store} (hs : I s) {request : SessionRequest}
    (hR : ∀ key, SessionDB.sessionKey request.owner request.ideaSessionId = some key → R key)
    (h : s.requested request = some session) : G session := by
  obtain ⟨key, row, hkey, hrow, rfl⟩ := Store.find_eq_some h
  exact rules.read (hR key hkey) hs hrow

omit rules in
theorem updateSession_returns {E : Raised → Store → Prop}
    (hwrite : Ends I E (perform env (.updateSession session)) fun _ => True)
    (hmissing : ∀ s, I s → E .keyError s)
    (hevent : Ends I E (triggerUpdateEvent env .sessions session.owner session.ideaSessionId)
      fun _ => True) :
    Ends I E (SessionDB.update env session) (· = SessionDB.readSession (session.stored env)) :=
  Ends.get_bind fun _ => hwrite.bind fun _ _ => Ends.ite (fun _ => Triple.raise hmissing) fun _ =>
    hevent.bind fun _ _ => .pure rfl

theorem updateSession_yields (hG : G session) : Yields I (SessionDB.update env session) G :=
  (updateSession_returns (perform_keeps fun _ => rules.update hG) (fun _ hs => hs)
    (rules.perform_quiet rfl)).weaken (by rintro _ rfl; exact rules.written hG)

omit rules in
theorem deleteEntry_keeps (hdelete : Keeps I (perform env (.deleteSession session.key)))
    (hevent : Keeps I (triggerDeleteEvent env .sessions session.owner session.ideaSessionId)) :
    Keeps I (SessionDB.delete env session) :=
  .ite (fun _ => Yields.raise) fun _ => .get_bind fun _ => hdelete.bind fun _ _ =>
    .ite (fun _ => Yields.raise) fun _ => hevent

theorem getServer_yields (instanceId : Option String) :
    Yields I (ServerDB.get env instanceId) fun r =>
      ∀ server, r = some server → server.instanceId = instanceId := by
  unfold ServerDB.get
  split
  · exact Yields.raise
  · next key =>
    refine .ite (fun _ => Yields.raise) fun _ => ?_
    refine (rules.perform_quiet rfl).bind fun _ _ => .get_bind fun s => .pure ?_
    intro server hserver
    obtain ⟨row, -, rfl⟩ := Option.map_eq_some_iff.mp hserver
    rfl

theorem writeServerEntry_keeps (h : Writable env I server.instanceId) :
    Keeps I (ServerDB.update env server) := by
  unfold ServerDB.update
  split
  · exact Yields.raise
  · next i hserver =>
    refine (perform_keeps fun _ hs => (h i _ hserver hs).1 server).bind fun _ _ => ?_
    exact rules.perform_quiet rfl

variable {instanceId : Option String}

theorem deleteServerEntry_keeps (h : Writable env I instanceId) :
    Keeps I (ServerDB.delete env instanceId) := by
  unfold ServerDB.delete
  split
  · exact Yields.raise
  · refine .ite (fun _ => Yields.raise) fun _ => .get_bind fun s => ?_
    refine (perform_keeps fun _ hs => (h _ _ rfl hs).2).bind fun _ _ => ?_
    exact .ite (fun _ => Yields.raise) fun _ => rules.perform_quiet rfl

theorem getCounter_keeps (key : CounterKey) : Keeps I (CounterDB.get env key) :=
  (rules.perform_quiet rfl).bind fun _ _ => .get_bind fun _ => .pure trivial

theorem deleteSchedulesForSession_keeps (hG : G session) :
    Keeps I (deleteSchedulesForSession env session) := by
  refine .forEach fun day _ => ?_
  unfold Controller.deleteSchedule
  split
  · exact .pure trivial
  · next key hkey =>
    refine .get_bind fun s => ?_
    refine (perform_keeps fun _ => rules.deleteSchedule hG hkey).bind fun _ _ => ?_
    exact .ite (fun _ => .pure trivial) fun _ => rules.perform_quiet rfl

theorem deletePermissionsForSession_keeps (hG : G session) :
    Keeps I (deletePermissionsForSession env session) := by
  have hkeys : Yields I (PermissionDB.getForSession env session.ideaSessionId) fun keys =>
      ∀ key ∈ keys, key.1 = session.ideaSessionId := by
    refine .get_bind fun s => .pure fun key hkey => ?_
    split at hkey
    · exact of_decide_eq_true (List.mem_filter.mp hkey).2
    · exact absurd hkey List.not_mem_nil
  refine hkeys.bind fun keys hkeys => .forEach fun key hkey => ?_
  refine .ite (fun _ => Yields.raise) fun _ => .get_bind fun s => ?_
  refine (perform_keeps fun _ => rules.deletePermission hG (hkeys key hkey)).bind fun _ _ => ?_
  exact .ite (fun _ => Yields.raise) fun _ => rules.perform_quiet rfl

theorem updateServerState_keeps {state : String} (h : Writable env I instanceId) :
    Keeps I (updateServerState env state instanceId) := by
  refine (rules.getServer_yields instanceId).bind fun server hserver => ?_
  cases server with
  | none => exact Yields.raise
  | some server =>
    have hwrite : Writable env I server.instanceId := by rwa [hserver server rfl]
    exact rules.writeServerEntry_keeps hwrite

theorem stopDcvHosts_keeps {instanceIds : List (Option String)} {hibernate : Bool}
    (h : ∀ i ∈ instanceIds, Writable env I i) : Keeps I (stopDcvHosts env instanceIds hibernate) :=
  .ite (fun _ => .pure trivial) fun _ => (rules.perform_quiet rfl).bind fun _ _ =>
    .forEach fun i hi => rules.updateServerState_keeps (h i hi)

theorem stopOrHibernateServers_keeps {toStop toHibernate : List (Option String)}
    (hstop : ∀ i ∈ toStop, Writable env I i) (hhibernate : ∀ i ∈ toHibernate, Writable env I i) :
    Keeps I (stopOrHibernateServers env toStop toHibernate) :=
  (rules.stopDcvHosts_keeps hstop).bind fun _ _ => rules.stopDcvHosts_keeps hhibernate

theorem performOrAnswer_keeps {call : Call} (h : call.isQuiet = true) :
    Keeps I (performOrAnswer env call) := by
  refine (rules.perform_quiet h).attempt.bind fun r _ => ?_
  split
  · exact .pure trivial
  · exact .pure trivial
  · exact Yields.raise

theorem removeServer_keeps (h : Writable env I instanceId) :
    Keeps I (removeServer env instanceId) :=
  (rules.getServer_yields instanceId).bind fun _ _ => rules.deleteServerEntry_keeps h

theorem terminateDcvHosts_keeps {instanceIds : List (Option String)}
    (h : ∀ i ∈ instanceIds, Writable env I i) : Keeps I (terminateDcvHosts env instanceIds) := by
  refine .ite (fun _ => .pure trivial) fun _ => ?_
  refine (rules.performOrAnswer_keeps rfl).bind fun answer _ => ?_
  cases answer with
  | some text => exact .pure trivial
  | none => exact (Ends.forEach fun i hi => rules.removeServer_keeps (h i hi)).bind fun _ _ => .pure trivial

theorem findSession_yields {request : SessionRequest}
    (hR : ∀ key, SessionDB.sessionKey request.owner request.ideaSessionId = some key → R key) :
    Yields I (findSession env request) G := by
  refine (rules.getFromDb_yields hR).bind fun found hfound => ?_
  cases found with
  | none => exact Yields.raise
  | some session => exact .pure (hfound session rfl)

variable {requests : List SessionRequest}

omit rules in
theorem findSessions_reads {s : Store} :
    Triple (· = s) (Stateful.collect (findSession env) requests)
      (fun sessions s' => s' = s ∧ requests.filterMap s.requested = sessions)
      fun _ s' => s' = s := by
  have hfind : ∀ request ∈ requests, Ends (· = s) (fun _ s' => s' = s) (findSession env request)
      fun session => s.requested request = some session := by
    intro request _
    refine getFromDb_reads.bind fun found => Triple.of_forall ?_
    rintro _ ⟨rfl, hfound⟩
    cases found with
    | none => exact Yields.raise
    | some session => exact Triple.pure fun _ hs => ⟨hs, hfound⟩
  refine (Ends.collect_forall₂ hfind).post ?_
  rintro sessions _ ⟨hs, hsessions⟩
  refine ⟨hs, ?_⟩
  induction hsessions with
  | nil => rfl
  | cons hrequest _ ih =>
    rw [List.filterMap_cons, hrequest]
    exact congrArg _ (ih fun request h => hfind request (List.mem_cons_of_mem _ h))

/-- The sessions that a list of requests names may be read. -/
def Readable (R : SessionKey → Prop) (requests : List SessionRequest) : Prop :=
  ∀ request ∈ requests, ∀ key,
    SessionDB.sessionKey request.owner request.ideaSessionId = some key → R key

variable {sessions : List VirtualDesktopSession} {dcvSessionId : Option String}

omit rules in
theorem sessionOfDcvId_yields (h : ∀ session ∈ sessions, G session) :
    Yields I (sessionOfDcvId sessions dcvSessionId) G := by
  unfold sessionOfDcvId
  split
  · exact Yields.raise
  · next session hsession =>
    exact .pure (h session (List.mem_reverse.mp (List.mem_of_find?_eq_some hsession)))

theorem deleteDcvSessions_keeps (sessions : List VirtualDesktopSession) :
    Keeps I (deleteDcvSessions env sessions) :=
  .ite (fun _ => .pure trivial) fun _ => (rules.perform_quiet rfl).bind fun _ _ => .pure trivial

omit rules in
theorem failedSessions_keeps (sessions : List VirtualDesktopSession)
    (failed : List (Option String × String)) : Keeps I (failedSessions sessions failed) := by
  refine Yields.keeps (Ends.collect (q := fun _ => True) fun entry _ => ?_)
  exact (sessionOfDcvId_yields (G := fun _ => True) fun _ _ => trivial).bind fun _ _ => .pure trivial

theorem markForValidation_yields {state : VirtualDesktopSessionState} (hstate : Enters G state)
    (h : ∀ session ∈ sessions, G session) :
    Yields I (markForValidation env state sessions dcvSessionId) G := by
  refine (sessionOfDcvId_yields h).bind fun session hG => ?_
  refine (rules.updateSession_yields (hstate session hG)).bind fun session hG => ?_
  exact (rules.perform_quiet rfl).bind fun _ _ => .pure hG

theorem stopSessions_keeps (hR : Readable R requests) (hstate : Enters G .STOPPING) :
    Keeps I (stopSessions env requests) := by
  have hfound : Yields I (Stateful.collect (fun request => do
      let session ← findSession env request
      pure ({ session with force := request.force }, stoppable request.force session.state))
        requests) fun found => ∀ entry ∈ found, G entry.1 := by
    refine .collect fun request hrequest => ?_
    exact (rules.findSession_yields (hR request hrequest)).bind fun session hG => .pure (rules.force hG)
  refine hfound.bind fun found hfound => ?_
  have hsessions : ∀ session ∈ (found.filter (·.2)).map (·.1), G session := by
    intro session hsession
    obtain ⟨entry, hentry, rfl⟩ := List.mem_map.mp hsession
    exact hfound entry (List.mem_filter.mp hentry).1
  have hfilter : ∀ {p : VirtualDesktopSession → Bool}, ∀ session ∈
      ((found.filter (·.2)).map (·.1)).filter p, G session :=
    fun session h => hsessions session (List.mem_filter.mp h).1
  have hids : ∀ {p q : VirtualDesktopSession → Bool}, ∀ i ∈ instanceIds
      ((((found.filter (·.2)).map (·.1)).filter p).filter q), Writable env I i := by
    intro p q i hi
    obtain ⟨session, hsession, rfl⟩ := List.mem_map.mp hi
    exact rules.server (hfilter session (List.mem_filter.mp hsession).1)
  refine (rules.deleteDcvSessions_keeps _).bind fun answer _ => ?_
  refine (Ends.collect fun id _ => rules.markForValidation_yields hstate hfilter).bind fun _ _ => ?_
  refine (Ends.collect fun session hsession =>
    rules.updateSession_yields (hstate session (hfilter session hsession))).bind fun _ _ => ?_
  refine (failedSessions_keeps _ _).bind fun _ _ => ?_
  exact (rules.stopOrHibernateServers_keeps hids hids).bind fun _ _ => .pure trivial

omit rules in
theorem requireHosts_keeps (sessions : List VirtualDesktopSession) :
    Keeps I (requireHosts sessions) :=
  .ite (fun _ => Yields.raise) fun _ => .ite (fun _ => Yields.raise) fun _ => .pure trivial

omit rules in
theorem sessionOfInstance_yields (h : ∀ session ∈ sessions, G session) :
    Yields I (sessionOfInstance sessions instanceId) G := by
  unfold sessionOfInstance
  split
  · exact Yields.raise
  · next session hsession =>
    exact .pure (h session (List.mem_reverse.mp (List.mem_of_find?_eq_some hsession)))

theorem resumeSessions_keeps (hR : Readable R requests) (hstate : Enters G .RESUMING) :
    Keeps I (resumeSessions env requests) := by
  have hfind : ∀ request ∈ requests, Yields I (findSessionToResume env request) G :=
    fun request hrequest => (rules.findSession_yields (hR request hrequest)).bind fun session hG =>
      .ite (fun _ => Yields.raise) fun _ => .pure hG
  refine (Ends.collect hfind).bind fun sessions hsessions => ?_
  have htoStart : ∀ session ∈ sessions.filter (·.state = .STOPPED), G session :=
    fun session hsession => hsessions session (List.mem_filter.mp hsession).1
  refine (requireHosts_keeps _).bind fun _ _ => ?_
  refine (rules.performOrAnswer_keeps rfl).bind fun answer _ => ?_
  cases answer with
  | some text =>
    refine (Ends.collect (q := fun _ => True) fun id _ => ?_).bind fun _ _ => .pure trivial
    exact (sessionOfInstance_yields htoStart).bind fun session _ => .pure trivial
  | none =>
    refine (Ends.collect (q := G) fun id _ => ?_).bind fun _ _ => .pure trivial
    exact (sessionOfInstance_yields htoStart).bind fun session hG =>
      rules.updateSession_yields (hstate session hG)

omit rules in
theorem fst_withCounts (sessions : List VirtualDesktopSession) :
    (withCounts env sessions).map Prod.fst = sessions := by
  induction sessions with
  | nil => rfl
  | cons session sessions ih => rw [withCounts, List.map_cons, ih]

theorem getActiveCounts_yields (h : ∀ session ∈ sessions, G session) :
    Yields I (getActiveCounts env sessions) fun counted => ∀ entry ∈ counted, G entry.1 := by
  refine .ite (fun _ => .pure fun _ hentry => absurd hentry List.not_mem_nil) fun _ => ?_
  refine (rules.perform_quiet rfl).bind fun _ _ => .pure fun entry hentry => h entry.1 ?_
  have hfst : (withCounts env sessions).map Prod.fst = sessions := fst_withCounts sessions
  rw [← hfst]
  exact List.mem_map_of_mem hentry

theorem rebootSessions_keeps (hR : Readable R requests) (hstate : Enters G .RESUMING) :
    Keeps I (rebootSessions env requests) := by
  have hfound : Yields I (Stateful.collect (fun request => do
      let session ← findSession env request
      pure { session with force := request.force }) requests)
      fun sessions => ∀ session ∈ sessions, G session := by
    refine .collect fun request hrequest => ?_
    exact (rules.findSession_yields (hR request hrequest)).bind fun session hG => .pure (rules.force hG)
  refine hfound.bind fun sessions hsessions => ?_
  have hallowed : ∀ {p : VirtualDesktopSession → Bool},
      ∀ session ∈ (sessions.filter (rebootable ·)).filter p, G session :=
    fun session h => hsessions session (List.mem_filter.mp (List.mem_filter.mp h).1).1
  refine (rules.getActiveCounts_yields hallowed).bind fun counted hcounted => ?_
  refine (Ends.collect (q := G) fun session hsession => rules.updateSession_yields ?_).bind fun _ _ => ?_
  · refine hstate session ?_
    rcases List.mem_append.mp hsession with h | h
    · exact hallowed session h
    · obtain ⟨entry, hentry, rfl⟩ := List.mem_map.mp h
      exact hcounted entry (List.mem_filter.mp hentry).1
  · refine Ends.bind (p := fun _ => True) (.ite (fun _ => .pure trivial) fun _ => ?_)
      fun _ _ => .pure trivial
    exact (requireHosts_keeps _).bind fun _ _ => rules.perform_quiet rfl

theorem markError_keeps (hstate : Enters G .ERROR) (hG : G session) :
    Keeps I (markError env session) :=
  (rules.updateSession_yields (hstate session hG)).bind fun _ _ => .pure trivial

theorem connect_keeps {request : ConnectionInfoRequest} {session : Option VirtualDesktopSession}
    (hstate : Enters G .ERROR)
    (hR : ∀ key, SessionDB.sessionKey request.ideaSessionOwner request.ideaSessionId = some key →
      R key) (hsession : ∀ found, session = some found → G found) :
    Keeps I (connect env request dcvSessionId session) := by
  refine (rules.perform_quiet rfl).bind fun _ _ => ?_
  split
  · exact .pure trivial
  · refine Ends.bind (p := fun _ => True) ?_ fun _ _ => .pure trivial
    cases session with
    | some session => exact rules.markError_keeps hstate (hsession session rfl)
    | none =>
      refine .ite (fun _ => .pure trivial) fun _ => ?_
      refine (rules.getFromDb_yields hR).bind fun found hfound => ?_
      cases found with
      | none => exact .pure trivial
      | some session => exact rules.markError_keeps hstate (hfound session rfl)

theorem getSessionConnectionInfo_keeps {request : ConnectionInfoRequest}
    (hstate : Enters G .ERROR)
    (hR : ∀ key, SessionDB.sessionKey request.ideaSessionOwner request.ideaSessionId = some key →
      R key) : Keeps I (getSessionConnectionInfo env request) := by
  refine .ite (fun _ => ?_) fun _ => rules.connect_keeps hstate hR fun _ h => nomatch h
  have hready : Yields I (findReadySession env request) fun r =>
      ∀ session, r = .ok session → G session := by
    refine (rules.getFromDb_yields hR).bind fun found hfound => ?_
    cases found with
    | none => exact .pure fun _ h => nomatch h
    | some session =>
      refine .ite (fun _ => .pure ?_) fun _ => .pure fun _ h => nomatch h
      rintro _ ⟨⟩
      exact hfound session rfl
  refine hready.bind fun found hfound => ?_
  cases found with
  | error reason => exact .pure trivial
  | ok session =>
    refine rules.connect_keeps hstate hR ?_
    rintro _ ⟨⟩
    exact hfound session rfl

end

/-- The schedules of a day that an update can end with: the current one, one whose entry is new, and
the given one. -/
inductive Rescheduled (env : Env config) (current new : Option VirtualDesktopSchedule)
    (day : DayOfWeek) (schedule : VirtualDesktopSchedule) : Prop
  | current : current = some schedule → Rescheduled env current new day schedule
  | created : (∀ k, scheduleKey schedule = some k → k = (day, env.scheduleUuid day)) →
      Rescheduled env current new day schedule
  | given : new = some schedule → Rescheduled env current new day schedule

/-- What the calls that change the schedules of a session have to keep. -/
structure ScheduleRules (env : Env config) (I : Store → Prop) (E : Raised → Store → Prop)
    (key : SessionKey) (current : DayOfWeek → Option VirtualDesktopSchedule) : Prop where
  deleteSchedule : ∀ {day schedule k}, current day = some schedule →
    scheduleKey schedule = some k → Ends I E (perform env (.deleteSchedule k)) fun _ => True
  deleteEvent : ∀ {day schedule k}, current day = some schedule →
    scheduleKey schedule = some k →
      Ends I E (triggerDeleteEvent env .schedules "" k.2) fun _ => True
  putSchedule : ∀ {day schedule}, schedule.ideaSessionOwner = some key.1 →
    Ends I E (perform env (.putSchedule (day, env.scheduleUuid day) schedule)) fun _ => True
  createEvent : ∀ {day},
    Ends I E (triggerCreateEvent env .schedules "" (env.scheduleUuid day)) fun _ => True

theorem scheduleKey_getEmptySchedule (day : Option DayOfWeek) :
    scheduleKey (getEmptySchedule day) = none := by
  simp [scheduleKey, getEmptySchedule]

theorem Rescheduled.empty {current new : Option VirtualDesktopSchedule} {day : DayOfWeek} :
    Rescheduled env current new day (getEmptySchedule (some day)) := by
  refine .created fun k hk => ?_
  rw [scheduleKey_getEmptySchedule] at hk
  cases hk

theorem scheduleKey_eq {schedule : VirtualDesktopSchedule} {k : DayOfWeek × String}
    (h : scheduleKey schedule = some k) :
    schedule.dayOfWeek = some k.1 ∧ schedule.scheduleId = some k.2 := by
  unfold scheduleKey at h
  split at h
  · cases h
  · next hblank =>
    obtain ⟨day, hday, rfl⟩ := Option.map_eq_some_iff.mp h
    refine ⟨hday, ?_⟩
    cases hid : schedule.scheduleId with
    | none => simp [hid, isEmptyString] at hblank
    | some id => rfl

section Schedules

variable {key : SessionKey} {current new : DayOfWeek → Option VirtualDesktopSchedule}
  {E : Raised → Store → Prop} (rules : ScheduleRules env I E key current)
include rules

theorem createScheduleForDayOfWeek_ends (day : DayOfWeek)
    (schedule : VirtualDesktopSchedule) {o n : Option VirtualDesktopSchedule} :
    Ends I E (createScheduleForDayOfWeek env day schedule key) (Rescheduled env o n day) := by
  refine .ite (fun _ => .pure .empty) fun _ => ?_
  refine (rules.putSchedule rfl).bind fun _ _ => ?_
  refine rules.createEvent.bind fun _ _ => .pure (.created fun k hk => ?_)
  obtain ⟨hday, hid⟩ := scheduleKey_eq hk
  exact Prod.ext (Option.some.inj hday).symm (Option.some.inj hid).symm

theorem deleteSchedule_ends (day : DayOfWeek) :
    Ends I E (Controller.deleteSchedule env
      ((current day).getD (getEmptySchedule (some day)))) fun _ => True := by
  cases hcurrent : current day with
  | none =>
    rw [Option.getD_none, Controller.deleteSchedule, scheduleKey_getEmptySchedule]
    exact .pure trivial
  | some schedule =>
    rw [Option.getD_some]
    unfold Controller.deleteSchedule
    split
    · exact .pure trivial
    · next k hk =>
      refine .get_bind fun s => (rules.deleteSchedule hcurrent hk).bind fun _ _ => ?_
      exact .ite (fun _ => .pure trivial) fun _ => rules.deleteEvent hcurrent hk

theorem createOrUpdateScheduleForDayOfWeek_ends (day : DayOfWeek) :
    Ends I E (createOrUpdateScheduleForDayOfWeek env day (current day) (new day) key)
      (Rescheduled env (current day) (new day) day) := by
  have hkeep : Rescheduled env (current day) (new day) day
      ((current day).getD (getEmptySchedule (some day))) := by
    cases current day with
    | none => exact .empty
    | some schedule => exact .current rfl
  unfold createOrUpdateScheduleForDayOfWeek
  dsimp only
  split
  · exact .pure hkeep
  · next schedule hnew =>
    refine .ite (fun _ => .pure hkeep) fun _ => ?_
    refine (deleteSchedule_ends rules day).bind fun _ _ => ?_
    refine .ite (fun _ => .pure .empty) fun _ => ?_
    exact .ite (fun _ => createScheduleForDayOfWeek_ends rules day schedule)
      fun _ => .pure (.given hnew)

theorem updateScheduleForSession_ends :
    Ends I E (updateScheduleForSession env new current key) fun schedule =>
      ∀ day, Rescheduled env (current day) (new day) day (schedule day) := by
  refine (Ends.collect_forall₂ fun day _ =>
    createOrUpdateScheduleForDayOfWeek_ends rules day).bind fun schedules hschedules => ?_
  refine .pure fun day => ?_
  cases hlookup : (DayOfWeek.all.zip schedules).lookup day with
  | none => exact .empty
  | some schedule =>
    obtain ⟨l₁, l₂, hl, -⟩ := List.lookup_eq_some_iff.mp hlookup
    have hmem : (day, schedule) ∈ DayOfWeek.all.zip schedules := by simp [hl]
    exact (List.forall₂_iff_zip.mp hschedules).2 hmem

end Schedules

/-- What the sessions and the store have to keep when a client changes a session. -/
structure UpdateRules (env : Env config) (I : Store → Prop) (R : SessionKey → Prop)
    (G : VirtualDesktopSession → Prop) (new : SessionUpdate) : Prop extends Rules env I R G where
  rename : ∀ {session name description}, G session →
    G { session with name := name, description := description }
  setInstanceType : ∀ {session server instanceType}, G session → session.server = some server →
    G { session with server := some { server with instanceType := instanceType } }
  reschedule : ∀ {session schedule requested}, G session → new.schedule = some requested →
    (∀ day, Rescheduled env (some (session.schedule day)) (requested day) day (schedule day)) →
      G { session with schedule := schedule }
  changeInstanceType : ∀ {server i instanceType s}, new.server = some server →
    server.instanceId = some i → I s → I (s.after env (.changeInstanceType i instanceType))
  putSchedule : ∀ {session day schedule s}, G session →
    schedule.ideaSessionOwner = some session.owner → I s →
      I (s.after env (.putSchedule (day, env.scheduleUuid day) schedule))

section Updates

variable {new : SessionUpdate} (rules : UpdateRules env I R G new)
include rules

theorem changeInstanceType_keeps (hserver : new.server = some server) (instanceType : Option String)
    :
    Keeps I (Controller.changeInstanceType env server.instanceId instanceType) := by
  refine .ite (fun _ => .pure trivial) fun hblank => ?_
  refine (perform_keeps fun s hs => ?_).attempt.bind fun r _ => ?_
  · cases hi : server.instanceId with
    | none => simp [hi, isEmptyString] at hblank
    | some i => exact rules.changeInstanceType hserver hi hs
  · cases r with
    | error e => exact .pure trivial
    | ok _ => exact .pure trivial

theorem updateInstanceType_yields {old : VirtualDesktopSession} (hserver : new.server = some server)
    (hG : G old) :
    Yields I (updateInstanceType env old new server) fun r =>
      ∀ session, r = .ok session → G session.1 := by
  have hsame : ∀ session, (.ok (old, false) : Except String _) = .ok session → G session.1 := by
    rintro _ ⟨⟩
    exact hG
  refine (rules.getServer_yields _).bind fun oldServer _ => ?_
  cases oldServer with
  | none => exact .pure hsame
  | some oldServer =>
    refine .ite (fun _ => .pure hsame) fun _ => .ite (fun _ => .pure fun _ h => nomatch h) fun _ => ?_
    refine (changeInstanceType_keeps rules hserver _).bind fun refusal _ => ?_
    cases refusal with
    | some reason => exact .pure fun _ h => nomatch h
    | none =>
      refine Ends.bind (p := G) ?_ fun session hG => .pure ?_
      · unfold Controller.setInstanceType
        split
        · exact Yields.raise
        · next server hserver => exact .pure (rules.setInstanceType hG hserver)
      · rintro _ ⟨⟩
        exact hG

theorem updateServer_yields {old : VirtualDesktopSession} (hG : G old) :
    Yields I (Controller.updateServer env old new) fun r =>
      ∀ session, r = .ok session → G session.1 := by
  have hsame : ∀ session, (.ok (old, false) : Except String _) = .ok session → G session.1 := by
    rintro _ ⟨⟩
    exact hG
  unfold Controller.updateServer
  split
  · exact .pure hsame
  · next server hserver =>
    exact .ite (fun _ => .pure hsame) fun _ => updateInstanceType_yields rules hserver hG

theorem updateSchedules_yields (hG : G session) : Yields I (updateSchedules env session new) G := by
  unfold updateSchedules
  split
  · exact .pure hG
  · next requested hrequested =>
    refine (updateScheduleForSession_ends ?_).bind fun schedule hschedule =>
      .pure (rules.reschedule hG hrequested hschedule)
    exact
      { deleteSchedule := fun {day schedule k} hcurrent hk => perform_keeps fun s hs => by
          obtain rfl := Option.some.inj hcurrent
          exact rules.deleteSchedule hG hk hs
        deleteEvent := fun _ _ => rules.perform_quiet rfl
        putSchedule := fun howner => perform_keeps fun s => rules.putSchedule hG howner
        createEvent := rules.perform_quiet rfl }

theorem writeServer_keeps (hG : G session) : Keeps I (writeServer env session) := by
  unfold writeServer
  split
  · exact Yields.raise
  · next server hserver =>
    have hwrite := rules.server hG
    rw [VirtualDesktopSession.instanceId, hserver] at hwrite
    exact rules.writeServerEntry_keeps hwrite

theorem storeUpdate_keeps (hG : G session) (isServerUpdated isSessionUpdated : Bool) :
    Keeps I (storeUpdate env session isServerUpdated isSessionUpdated) := by
  have hserver : Keeps I (storeServer env session isServerUpdated) :=
    .ite (fun _ => writeServer_keeps rules hG) fun _ => .pure trivial
  refine hserver.bind fun _ _ => ?_
  refine .ite (fun _ => ?_) fun _ => .pure trivial
  refine (rules.updateSession_yields hG).bind fun session _ => ?_
  unfold tagSession
  split
  · exact Yields.raise
  · exact rules.perform_quiet rfl

theorem updateSession_keeps
    (hR : ∀ key, SessionDB.sessionKey new.owner new.ideaSessionId = some key → R key) :
    Keeps I (updateSession env new) := by
  refine (rules.getFromDb_yields hR).bind fun found hfound => ?_
  cases found with
  | none => exact .pure trivial
  | some old =>
    refine (updateServer_yields rules (rules.rename (hfound old rfl))).bind fun updated hupdated => ?_
    cases updated with
    | error reason => exact .pure trivial
    | ok updated =>
      refine (updateSchedules_yields rules (hupdated updated rfl)).bind fun session hG => ?_
      exact (storeUpdate_keeps rules hG _ _).bind fun _ _ => .pure trivial

end Updates

structure CreationRules (env : Env config) (I : Store → Prop) (new : NewSession) : Prop where
  quiet : ∀ {call s}, call.isQuiet = true → I s → I (s.after env call)
  launch : ∀ {i instanceType s}, env.runInstances = .ok (some i) → I s →
    I { s with
        launched := s.launched ++ [(i, new.key)]
        instanceTypes := s.instanceTypes.setSome i instanceType }
  putServer : ∀ {i server s}, env.runInstances = .ok (some i) → I s →
    I (s.after env (.putServer i server))
  deleteSchedule : ∀ {day schedule k s}, new.schedule day = some schedule →
    scheduleKey schedule = some k → I s → I (s.after env (.deleteSchedule k))
  putSchedule : ∀ {day schedule s}, schedule.ideaSessionOwner = some new.key.1 → I s →
    I (s.after env (.putSchedule (day, env.scheduleUuid day) schedule))
  putSession : ∀ {session s}, session.key = new.key → session.state = .PROVISIONING →
    env.runInstances = .ok session.instanceId →
    (∀ day, Rescheduled env (new.schedule day) (some (env.defaultSchedules day)) day
      (session.schedule day)) → I s → I (s.after env (.putSession session))

theorem CreationRules.toScheduleRules {new : NewSession} (rules : CreationRules env I new) :
    ScheduleRules env I (fun _ => I) new.key new.schedule where
  deleteSchedule hcurrent hk := perform_keeps fun _ => rules.deleteSchedule hcurrent hk
  deleteEvent _ _ := perform_keeps fun _ => rules.quiet rfl
  putSchedule howner := perform_keeps fun _ => rules.putSchedule howner
  createEvent := perform_keeps fun _ => rules.quiet rfl

section Creation

variable {new : NewSession} (rules : CreationRules env I new)
include rules

theorem runInstances_yields (instanceType : Option String) :
    Yields I (runInstances env instanceType new.key) fun r => env.runInstances = .ok r := by
  unfold runInstances
  split
  · exact Yields.raise
  · next hrun => exact .pure hrun
  · next i hrun =>
    exact (Ends.modify fun s hs => rules.launch hrun hs).bind fun _ _ => .pure hrun

theorem provisionHostForSession_yields :
    Yields I (provisionHostForSession env new.server new.key) fun r =>
      ∀ server, r = some server → env.runInstances = .ok server.instanceId := by
  refine (runInstances_yields rules _).bind fun launched hrun => ?_
  cases launched with
  | none => exact .pure fun _ h => nomatch h
  | some i =>
    have hcreate : Yields I (ServerDB.create env i new.server new.key)
        fun server => server.instanceId = some i := by
      refine (perform_keeps (I := I) fun s hs => rules.putServer hrun hs).bind fun _ _ => ?_
      exact (perform_keeps fun s => rules.quiet rfl).bind fun _ _ => .pure rfl
    refine hcreate.bind fun server hserver => .pure ?_
    rintro _ ⟨⟩
    rw [hserver, hrun]

theorem createSession_keeps : Keeps I (createSession env new) := by
  refine (provisionHostForSession_yields rules).attempt.bind fun provisioned hprovisioned => ?_
  split
  · exact .pure trivial
  · exact .pure trivial
  · next server =>
    refine (perform_keeps fun s => rules.quiet rfl).bind fun _ _ => ?_
    refine (updateScheduleForSession_ends rules.toScheduleRules).bind fun schedule hschedule => ?_
    refine Ends.bind (p := fun _ => True) ?_ fun _ _ => .pure trivial
    refine (perform_keeps fun s => rules.putSession rfl rfl ?_ hschedule).bind fun _ _ => ?_
    · exact hprovisioned _ rfl server rfl
    · exact (perform_keeps fun s => rules.quiet rfl).bind fun _ _ => .pure trivial

end Creation

end Rules

end Idea.VirtualDesktop.Controller

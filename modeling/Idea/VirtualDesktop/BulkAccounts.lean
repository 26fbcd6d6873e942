import Idea.VirtualDesktop.BulkRemovals
import Idea.VirtualDesktop.Lifecycle

/-! # What becomes of each request of an operation on many sessions

An operation on a list of requests returns the sessions it dealt with and those it did not, with
the reason. When it ends normally, the keys of both lists follow from the requests, the store and
the answers of the other parties. A request is lost when the maps of sessions take another session
for its own, and it is answered twice when a repeated request was sorted in two ways.
-/

namespace Idea.VirtualDesktop.Controller

open Stateful (Returns returns_bind returns_pure returns_collect_cons returns_collect_nil
  returns_collect_of_reads)

variable {config : Config} {env : Env config} {s s' store : Store} {requests : List SessionRequest}

def SessionRequest.Names (request : SessionRequest) (session : VirtualDesktopSession) : Prop :=
  request.owner = some session.owner ∧ request.ideaSessionId = some session.ideaSessionId

/-- Each request is answered in exactly one of two lists, and the sessions of the second one are as
they were. -/
structure Accounts (store : Store) (requests : List SessionRequest)
    (success failure : List VirtualDesktopSession) (store' : Store) : Prop where
  once : ∀ request ∈ requests, Xor (∃ session ∈ success, request.Names session)
    (∃ session ∈ failure, request.Names session)
  unchanged : ∀ session ∈ failure,
    store'.sessions.get? session.key = store.sessions.get? session.key

/-- The operation ends normally and accounts for each request. -/
def Accounted (store : Store) (requests : List SessionRequest)
    (operation : Action (List VirtualDesktopSession × List VirtualDesktopSession)) : Prop :=
  ∃ success failure store', Returns operation store (success, failure) store' ∧
    Accounts store requests success failure store'

def Store.HasAll (store : Store) (requests : List SessionRequest) : Prop :=
  ∀ request ∈ requests, (store.requested request).isSome

def keysOf (sessions : List VirtualDesktopSession) : List SessionKey :=
  sessions.map VirtualDesktopSession.key

def Store.asked {β : Type} (store : Store) (requests : List SessionRequest)
    (g : SessionRequest → VirtualDesktopSession → β) : List β :=
  requests.filterMap fun request => (store.requested request).map (g request)

/-- What an operation does that ends normally exactly under a condition. -/
structure EndsWith (store : Store) (requests : List SessionRequest) (condition : Prop)
    (success failure : List SessionKey)
    (operation : Action (List VirtualDesktopSession × List VirtualDesktopSession)) : Prop where
  found : ∀ outcome store', Returns operation store outcome store' → store.HasAll requests
  ends : store.HasAll requests →
    ((∃ outcome store', Returns operation store outcome store') ↔ condition)
  keys : store.HasAll requests → ∀ outcome store', Returns operation store outcome store' →
    keysOf outcome.1 = success ∧ keysOf outcome.2 = failure ∧
      ∀ key ∉ success, store'.sessions.get? key = store.sessions.get? key
  named : ∀ key ∈ failure, ∃ request ∈ requests, ∃ session,
    store.requested request = some session ∧ session.key = key

theorem sessionKey_eq_some {owner ideaSessionId : Option String} {key : SessionKey} :
    SessionDB.sessionKey owner ideaSessionId = some key ↔ owner = some key.1 ∧
      ideaSessionId = some key.2 ∧ isEmptyString (some key.1) = false ∧
      isEmptyString (some key.2) = false := by
  cases owner with
  | none => simp [SessionDB.sessionKey, isEmptyString]
  | some owner =>
    cases ideaSessionId with
    | none => simp [SessionDB.sessionKey, isEmptyString]
    | some ideaSessionId =>
      rw [SessionDB.sessionKey]
      constructor
      · intro h
        split at h
        · cases h
        · rename_i hnamed
          simp only [Bool.or_eq_true, not_or, Bool.not_eq_true] at hnamed
          obtain rfl := Option.some.inj h
          exact ⟨rfl, rfl, hnamed⟩
      · rintro ⟨howner, hid, hnamed⟩
        obtain rfl := Option.some.inj howner
        obtain rfl := Option.some.inj hid
        rw [if_neg (by simp [hnamed])]
        rfl

/-- What is known of a session that was read: its entry has the same DCV session, state and
instance. -/
def Store.Reads (s : Store) (session : VirtualDesktopSession) : Prop :=
  ∃ row, s.sessions.get? session.key = some row ∧ session.dcvSessionId = row.dcvSessionId ∧
    session.state = row.state ∧ session.instanceId = row.instanceId

theorem requested_eq_some {request : SessionRequest} {session : VirtualDesktopSession}
    (h : s.requested request = some session) :
    request.Names session ∧ (isEmptyString (some session.owner) = false ∧
      isEmptyString (some session.ideaSessionId) = false) ∧ s.Reads session := by
  obtain ⟨key, row, hkey, hrow, rfl⟩ := Store.find_eq_some h
  obtain ⟨howner, hid, hnamed⟩ := sessionKey_eq_some.mp hkey
  exact ⟨⟨howner, hid⟩, hnamed, row, hrow, rfl, rfl, readEntry_instanceId key row⟩

theorem names_iff {request : SessionRequest} {session other : VirtualDesktopSession}
    (h : request.Names session) : request.Names other ↔ other.key = session.key := by
  rw [SessionRequest.Names, h.1, h.2, Option.some.injEq, Option.some.injEq]
  constructor
  · rintro ⟨howner, hid⟩
    exact Prod.ext howner.symm hid.symm
  · intro hkey
    obtain ⟨howner, hid⟩ := Prod.mk.inj hkey
    exact ⟨howner.symm, hid.symm⟩

theorem Store.Reads.held {session : VirtualDesktopSession} (h : s.Reads session) :
    s.Holds session.key := by
  obtain ⟨row, hrow, _⟩ := h
  rw [Store.Holds, hrow]
  rfl

theorem Store.Reads.same {session other : VirtualDesktopSession} (h : s.Reads session)
    (h' : s.Reads other) (hkey : session.key = other.key) :
    session.dcvSessionId = other.dcvSessionId ∧ session.state = other.state ∧
      session.instanceId = other.instanceId := by
  obtain ⟨row, hrow, hdcv, hstate, hinstance⟩ := h
  obtain ⟨row', hrow', hdcv', hstate', hinstance'⟩ := h'
  rw [hkey, hrow'] at hrow
  obtain rfl := Option.some.inj hrow
  exact ⟨hdcv.trans hdcv'.symm, hstate.trans hstate'.symm, hinstance.trans hinstance'.symm⟩

theorem EndsWith.accounted_iff {condition : Prop} {success failure : List SessionKey}
    {operation : Action (List VirtualDesktopSession × List VirtualDesktopSession)}
    (h : EndsWith store requests condition success failure operation) :
    Accounted store requests operation ↔ store.HasAll requests ∧ condition ∧
      ∀ request ∈ requests, ∀ session, store.requested request = some session →
        Xor (session.key ∈ success) (session.key ∈ failure) := by
  have hmem : ∀ (sessions : List VirtualDesktopSession) request session,
      store.requested request = some session →
      ((∃ other ∈ sessions, request.Names other) ↔ session.key ∈ keysOf sessions) := by
    intro sessions request session hsession
    simp only [names_iff (requested_eq_some hsession).1, keysOf, List.mem_map]
  constructor
  · rintro ⟨out, failed, store', hreturns, haccounts⟩
    have hfound := h.found _ _ hreturns
    obtain ⟨hsuccess, hfailure, _⟩ := h.keys hfound _ _ hreturns
    refine ⟨hfound, (h.ends hfound).mp ⟨_, _, hreturns⟩, ?_⟩
    intro request hrequest session hsession
    rw [← hsuccess, ← hfailure, ← hmem _ _ _ hsession, ← hmem _ _ _ hsession]
    exact haccounts.once request hrequest
  · rintro ⟨hfound, hcondition, honce⟩
    obtain ⟨⟨out, failed⟩, store', hreturns⟩ := (h.ends hfound).mpr hcondition
    obtain ⟨hsuccess, hfailure, hothers⟩ := h.keys hfound _ _ hreturns
    refine ⟨out, failed, store', hreturns, fun request hrequest => ?_, fun session hsession => ?_⟩
    · obtain ⟨session, hsession⟩ := Option.isSome_iff_exists.mp (hfound request hrequest)
      rw [hmem _ _ _ hsession, hmem _ _ _ hsession, hsuccess, hfailure]
      exact honce request hrequest session hsession
    · have hfailed : session.key ∈ failure := hfailure ▸ List.mem_map_of_mem hsession
      obtain ⟨request, hrequest, found, hreads, hkey⟩ := h.named _ hfailed
      refine hothers _ fun hsucceeds => ?_
      rcases honce request hrequest found hreads with ⟨_, hnot⟩ | ⟨_, hnot⟩
      · exact hnot (hkey ▸ hfailed)
      · exact hnot (hkey ▸ hsucceeds)

section Maps

variable {id : VirtualDesktopSession → Option String} {sessions : List VirtualDesktopSession}
  {values : List (Option String)}

theorem key_of_mem_lastKeys (hvalues : ∀ value ∈ values, value ∈ sessions.map id) {key : SessionKey}
    (h : key ∈ values.map (lastKey id sessions)) :
    ∃ session ∈ sessions, session.key = key ∧ id session ∈ values := by
  obtain ⟨value, hvalue, rfl⟩ := List.mem_map.mp h
  obtain ⟨session, hsession, _, hid, hkey⟩ := exists_lastWith (hvalues value hvalue)
  exact ⟨session, hsession, hkey.symm, hid.symm ▸ hvalue⟩

/-- A session whose key decides its id is among those that a map has for some ids exactly if its id
is one of them and the map has it. -/
theorem mem_lastKeys (hvalues : ∀ value ∈ values, value ∈ sessions.map id)
    {session : VirtualDesktopSession}
    (hid : ∀ other ∈ sessions, other.key = session.key → id other = id session) :
    session.key ∈ values.map (lastKey id sessions) ↔
      id session ∈ values ∧ lastKey id sessions (id session) = session.key := by
  constructor
  · intro h
    obtain ⟨value, hvalue, hkey⟩ := List.mem_map.mp h
    obtain ⟨other, hother, _, rfl, hlast⟩ := exists_lastWith (hvalues value hvalue)
    rw [hid other hother (hlast.symm.trans hkey)] at hvalue hkey
    exact ⟨hvalue, hkey⟩
  · rintro ⟨hvalue, hkey⟩
    exact List.mem_map.mpr ⟨_, hvalue, hkey⟩

end Maps

section Broker

variable {sessions : List VirtualDesktopSession} {session : VirtualDesktopSession}

def lastDcvKey (sessions : List VirtualDesktopSession) (value : Option String) : SessionKey :=
  lastKey VirtualDesktopSession.dcvSessionId sessions value

def deletedKeys (env : Env config) (sessions : List VirtualDesktopSession) : List SessionKey :=
  (brokerAnswer env sessions).1.map (lastDcvKey sessions)

def failedKeys (env : Env config) (sessions : List VirtualDesktopSession) : List SessionKey :=
  ((brokerAnswer env sessions).2.map Prod.fst).map (lastDcvKey sessions)

theorem key_of_mem_brokerKeys (hsplits : env.Splits) {key : SessionKey}
    (h : key ∈ deletedKeys env sessions ∨ key ∈ failedKeys env sessions) :
    ∃ session ∈ sessions, session.key = key := by
  rcases h with h | h
  · obtain ⟨session, hsession, hkey, _⟩ :=
      key_of_mem_lastKeys (fun value hvalue => ((hsplits _).1 value).mpr (.inl hvalue)) h
    exact ⟨session, hsession, hkey⟩
  · obtain ⟨session, hsession, hkey, _⟩ :=
      key_of_mem_lastKeys (fun value hvalue => ((hsplits _).1 value).mpr (.inr hvalue)) h
    exact ⟨session, hsession, hkey⟩

/-- The answer of the broker accounts for a session exactly if the map has it for its DCV session,
and then for one of the two outcomes. -/
theorem broker_accounts (hsplits : env.Splits) (hreads : ∀ session ∈ sessions, s.Reads session)
    (hsession : session ∈ sessions) :
    (session.key ∈ deletedKeys env sessions ∨ session.key ∈ failedKeys env sessions ↔
        lastDcvKey sessions session.dcvSessionId = session.key) ∧
      (session.key ∈ deletedKeys env sessions → session.key ∉ failedKeys env sessions) := by
  obtain ⟨hall, hapart⟩ := hsplits (sessions.map VirtualDesktopSession.dcvSessionId)
  have hid : ∀ other ∈ sessions, other.key = session.key →
      other.dcvSessionId = session.dcvSessionId :=
    fun other hother hkey => ((hreads other hother).same (hreads session hsession) hkey).1
  have hdeleted : session.key ∈ deletedKeys env sessions ↔
      session.dcvSessionId ∈ (brokerAnswer env sessions).1 ∧
        lastDcvKey sessions session.dcvSessionId = session.key :=
    mem_lastKeys (fun value hvalue => (hall value).mpr (.inl hvalue)) hid
  have hfailed : session.key ∈ failedKeys env sessions ↔
      session.dcvSessionId ∈ (brokerAnswer env sessions).2.map Prod.fst ∧
        lastDcvKey sessions session.dcvSessionId = session.key :=
    mem_lastKeys (fun value hvalue => (hall value).mpr (.inr hvalue)) hid
  have hanswer := (hall session.dcvSessionId).mp (List.mem_map_of_mem hsession)
  rw [hdeleted, hfailed]
  constructor
  · rw [← or_and_right]
    exact and_iff_right hanswer
  · rintro ⟨hmem, _⟩ ⟨hmem', _⟩
    exact hapart _ hmem hmem'

end Broker

theorem asked_returns {β : Type} (hserves : env.Serves) (hfound : store.HasAll requests)
    (g : SessionRequest → VirtualDesktopSession → β) :
    Returns (Stateful.collect (fun request => do
        let session ← findSession env request
        pure (g request session)) requests) store (store.asked requests g) store :=
  (returns_collect_find hserves).mpr ⟨rfl, hfound, rfl⟩

def askedToStop (store : Store) (requests : List SessionRequest) :
    List (VirtualDesktopSession × Bool) :=
  store.asked requests fun request session =>
    ({ session with force := request.force }, stoppable request.force session.state)

def toStop (store : Store) (requests : List SessionRequest) : List VirtualDesktopSession :=
  ((askedToStop store requests).filter (·.2)).map (·.1)

def notToStop (store : Store) (requests : List SessionRequest) : List VirtualDesktopSession :=
  ((askedToStop store requests).filter (!·.2)).map (·.1)

def toStopByBroker (store : Store) (requests : List SessionRequest) : List VirtualDesktopSession :=
  (toStop store requests).filter (!isEmptyString ·.dcvSessionId)

def toStopDirectly (store : Store) (requests : List SessionRequest) : List VirtualDesktopSession :=
  (toStop store requests).filter (isEmptyString ·.dcvSessionId)

theorem mem_toStop {session : VirtualDesktopSession} :
    session ∈ toStop store requests ↔ ∃ request ∈ requests, ∃ found,
      store.requested request = some found ∧ stoppable request.force found.state = true ∧
        session = { found with force := request.force } := by
  simp only [toStop, askedToStop, Store.asked, List.mem_map, List.mem_filter, List.mem_filterMap,
    Option.map_eq_some_iff]
  constructor
  · rintro ⟨_, ⟨⟨request, hrequest, found, hfound, rfl⟩, hstop⟩, rfl⟩
    exact ⟨request, hrequest, found, hfound, hstop, rfl⟩
  · rintro ⟨request, hrequest, found, hfound, hstop, rfl⟩
    exact ⟨_, ⟨⟨request, hrequest, found, hfound, rfl⟩, hstop⟩, rfl⟩

theorem mem_notToStop {session : VirtualDesktopSession} :
    session ∈ notToStop store requests ↔ ∃ request ∈ requests, ∃ found,
      store.requested request = some found ∧ stoppable request.force found.state = false ∧
        session = { found with force := request.force } := by
  simp only [notToStop, askedToStop, Store.asked, List.mem_map, List.mem_filter,
    List.mem_filterMap, Option.map_eq_some_iff, Bool.not_eq_true']
  constructor
  · rintro ⟨_, ⟨⟨request, hrequest, found, hfound, rfl⟩, hstop⟩, rfl⟩
    exact ⟨request, hrequest, found, hfound, hstop, rfl⟩
  · rintro ⟨request, hrequest, found, hfound, hstop, rfl⟩
    exact ⟨_, ⟨⟨request, hrequest, found, hfound, rfl⟩, hstop⟩, rfl⟩

theorem reads_of_mem_toStop {session : VirtualDesktopSession}
    (h : session ∈ toStop store requests) : store.Reads session := by
  obtain ⟨request, _, found, hfound, _, rfl⟩ := mem_toStop.mp h
  exact (requested_eq_some hfound).2.2

theorem Writes.hasServer {keys : List SessionKey} (h : Writes keys s s') {id : Option String} :
    s'.HasServer id ↔ s.HasServer id := by
  rw [Store.HasServer, Store.HasServer, h.servers]

theorem stopWithoutDcv_writes (hserves : env.Serves) {sessions : List VirtualDesktopSession}
    (hheld : ∀ session ∈ sessions, s.Holds session.key) :
    ∃ stopping s', Returns (Stateful.collect (stopWithoutDcv env) sessions) s stopping s' ∧
      keysOf stopping = keysOf sessions ∧ Writes (keysOf sessions) s s' := by
  refine collect_writes fun session hsession s₁ hs₁ => ?_
  obtain ⟨s₂, hupdate, hwrites⟩ := update_returns hserves { session with state := .STOPPING }
    (hs₁ _ (hheld session hsession))
  exact ⟨_, s₂, hupdate, rfl, hwrites⟩

def stoppedKeys (env : Env config) (store : Store) (requests : List SessionRequest) :
    List SessionKey :=
  deletedKeys env (toStopByBroker store requests) ++ keysOf (toStopDirectly store requests)

def notStoppedKeys (env : Env config) (store : Store) (requests : List SessionRequest) :
    List SessionKey :=
  keysOf (notToStop store requests) ++ failedKeys env (toStopByBroker store requests)

theorem stopSessions_reaches (hserves : env.Serves) (hsplits : env.Splits)
    (hfound : store.HasAll requests) :
    ∃ success failure s₁, keysOf success = stoppedKeys env store requests ∧
      keysOf failure = notStoppedKeys env store requests ∧
      Writes (stoppedKeys env store requests) store s₁ ∧
      ∀ outcome s', Returns (stopSessions env requests) store outcome s' ↔
        Returns (stopOrHibernateServers env
          (instanceIds ((toStopDirectly store requests).filter (·.hibernationEnabled ≠ some true)))
          (instanceIds ((toStopDirectly store requests).filter (·.hibernationEnabled = some true))))
          s₁ () s' ∧ outcome = (success, failure) := by
  have hheld : ∀ session ∈ toStop store requests, store.Holds session.key :=
    fun session hsession => (reads_of_mem_toStop hsession).held
  have hask := asked_returns hserves hfound fun request session =>
    ({ session with force := request.force }, stoppable request.force session.state)
  have hanswer := deleteDcvSessions_returns (s := store) hserves hsplits
    (toStopByBroker store requests)
  obtain ⟨stopping, s₁, hmark, hkeys, hwrites⟩ :=
    collect_markForValidation hserves hsplits .STOPPING
      fun session hsession => hheld session (List.mem_filter.mp hsession).1
  obtain ⟨stoppingToo, s₂, hdirect, hkeys', hwrites'⟩ := stopWithoutDcv_writes hserves
    fun session hsession => hwrites.held _ (hheld session (List.mem_filter.mp hsession).1)
  obtain ⟨failed, hfailed, hkeys''⟩ := failedSessions_returns hsplits
    (toStopByBroker store requests)
  let refusedSessions := ((askedToStop store requests).filter (!·.2)).map fun entry =>
    refused entry.1 "Can't stop. Wait for it to be READY or RESUMING."
  refine ⟨stopping ++ stoppingToo, refusedSessions ++ failed, s₂, ?_, ?_, hwrites.trans hwrites',
    fun outcome s' => ?_⟩
  · rw [keysOf, List.map_append, hkeys]
    exact congrArg _ hkeys'
  · have hrefused : keysOf refusedSessions = keysOf (notToStop store requests) := by
      simp only [keysOf, notToStop, refusedSessions, List.map_map]
      rfl
    rw [keysOf, List.map_append, hkeys'']
    exact congrArg (· ++ _) hrefused
  · refine hask.bind_iff.trans (hanswer.bind_iff.trans (hmark.bind_iff.trans ?_))
    refine hdirect.bind_iff.trans ((hfailed s₂).bind_iff.trans ?_)
    constructor
    · intro h
      obtain ⟨_, s₃, hstop, hrest⟩ := returns_bind.mp h
      obtain ⟨rfl, rfl⟩ := returns_pure.mp hrest
      exact ⟨hstop, rfl⟩
    · rintro ⟨hstop, rfl⟩
      exact hstop.bind (returns_pure.mpr ⟨rfl, rfl⟩)

theorem forall_mem_instanceIds {sessions : List VirtualDesktopSession} {p : Option String → Prop} :
    (∀ id ∈ instanceIds (sessions.filter (·.hibernationEnabled ≠ some true)) ++
        instanceIds (sessions.filter (·.hibernationEnabled = some true)), p id) ↔
      ∀ session ∈ sessions, p session.instanceId := by
  simp only [instanceIds, List.mem_append, List.mem_map, List.mem_filter, decide_eq_true_eq]
  constructor
  · intro h session hsession
    by_cases hhibernate : session.hibernationEnabled = some true
    · exact h _ (.inr ⟨session, ⟨hsession, hhibernate⟩, rfl⟩)
    · exact h _ (.inl ⟨session, ⟨hsession, hhibernate⟩, rfl⟩)
  · rintro h _ (⟨session, ⟨hsession, _⟩, rfl⟩ | ⟨session, ⟨hsession, _⟩, rfl⟩)
    · exact h session hsession
    · exact h session hsession

theorem stopSessions_endsWith (hserves : env.Serves) (hsplits : env.Splits) :
    EndsWith store requests
      (∀ session ∈ toStopDirectly store requests, store.HasServer session.instanceId)
      (stoppedKeys env store requests) (notStoppedKeys env store requests)
      (stopSessions env requests) := by
  constructor
  · intro outcome s' h
    obtain ⟨_, s₁, hask, _⟩ := returns_bind.mp h
    exact ((returns_collect_find hserves).mp hask).2.1
  · intro hfound
    obtain ⟨success, failure, s₁, _, _, hwrites, hreturns⟩ :=
      stopSessions_reaches hserves hsplits hfound
    simp only [hreturns, ← hwrites.hasServer, ← forall_mem_instanceIds]
    constructor
    · rintro ⟨_, s', hstop, _⟩
      exact ((returns_stopOrHibernateServers hserves).1 s' hstop).1
    · intro hservers
      obtain ⟨s', hstop⟩ := (returns_stopOrHibernateServers hserves).2 hservers
      exact ⟨_, s', hstop, rfl⟩
  · intro hfound outcome s' h
    obtain ⟨success, failure, s₁, hsuccess, hfailure, hwrites, hreturns⟩ :=
      stopSessions_reaches hserves hsplits hfound
    obtain ⟨hstop, rfl⟩ := (hreturns outcome s').mp h
    have hsame := ((returns_stopOrHibernateServers hserves).1 s' hstop).2
    refine ⟨hsuccess, hfailure, fun key hkey => ?_⟩
    rw [hsame.sessions]
    exact hwrites.sessions key hkey
  · intro key hkey
    rcases List.mem_append.mp hkey with h | h
    · obtain ⟨session, hsession, rfl⟩ := List.mem_map.mp h
      obtain ⟨request, hrequest, found, hfound, _, rfl⟩ := mem_notToStop.mp hsession
      exact ⟨request, hrequest, found, hfound, rfl⟩
    · obtain ⟨session, hsession, rfl⟩ := key_of_mem_brokerKeys hsplits (.inr h)
      obtain ⟨request, hrequest, found, hfound, _, rfl⟩ :=
        mem_toStop.mp (List.mem_filter.mp hsession).1
      exact ⟨request, hrequest, found, hfound, rfl⟩

structure StopsAll (env : Env config) (store : Store) (requests : List SessionRequest) : Prop where
  found : store.HasAll requests
  /-- The sessions without a DCV session have a server. -/
  hosts : ∀ session ∈ toStopDirectly store requests, store.HasServer session.instanceId
  /-- The map of the DCV sessions has each session, except for those that are also refused. -/
  mapped : ∀ session ∈ toStopByBroker store requests,
    lastDcvKey (toStopByBroker store requests) session.dcvSessionId = session.key ∨
      session.key ∈ keysOf (notToStop store requests)
  /-- No session that is refused is also stopped. -/
  apart : ∀ session ∈ notToStop store requests, session.key ∉ stoppedKeys env store requests

theorem direct_ne_broker {session other : VirtualDesktopSession}
    (hsession : session ∈ toStopDirectly store requests)
    (hother : other ∈ toStopByBroker store requests) : session.key ≠ other.key := by
  obtain ⟨hstop, hwithout⟩ := List.mem_filter.mp hsession
  obtain ⟨hstop', hwith⟩ := List.mem_filter.mp hother
  intro hkey
  rw [((reads_of_mem_toStop hstop).same (reads_of_mem_toStop hstop') hkey).1] at hwithout
  simp [hwithout] at hwith

/-- Each key is among those stopped or those not stopped, but not among both, exactly if the map
of the DCV sessions loses none that is not also refused, and no refused one is stopped. -/
theorem stoppedKeys_or_not (hsplits : env.Splits) :
    (∀ request ∈ requests, ∀ session, store.requested request = some session →
        Xor (session.key ∈ stoppedKeys env store requests)
          (session.key ∈ notStoppedKeys env store requests)) ↔
      (∀ session ∈ toStopByBroker store requests,
        lastDcvKey (toStopByBroker store requests) session.dcvSessionId = session.key ∨
          session.key ∈ keysOf (notToStop store requests)) ∧
      ∀ session ∈ notToStop store requests, session.key ∉ stoppedKeys env store requests := by
  have hbroker := fun session (hsession : session ∈ toStopByBroker store requests) =>
    broker_accounts (s := store) hsplits (fun session hsession =>
      reads_of_mem_toStop (List.mem_filter.mp hsession).1) hsession
  constructor
  · intro honce
    constructor
    · intro session hsession
      obtain ⟨request, hrequest, found, hfound, _, rfl⟩ :=
        mem_toStop.mp (List.mem_filter.mp hsession).1
      have hanswered : found.key ∈ stoppedKeys env store requests ∨
          found.key ∈ notStoppedKeys env store requests :=
        (honce request hrequest found hfound).or
      rw [stoppedKeys, notStoppedKeys, List.mem_append, List.mem_append] at hanswered
      rcases hanswered with (hdeleted | hdirect) | (hrefused | hfailed)
      · exact .inl ((hbroker _ hsession).1.mp (.inl hdeleted))
      · obtain ⟨other, hother, hkey⟩ := List.mem_map.mp hdirect
        exact (direct_ne_broker hother hsession hkey).elim
      · exact .inr hrefused
      · exact .inl ((hbroker _ hsession).1.mp (.inr hfailed))
    · intro session hsession
      obtain ⟨request, hrequest, found, hfound, _, rfl⟩ := mem_notToStop.mp hsession
      have hrefused : found.key ∈ notStoppedKeys env store requests :=
        List.mem_append_left _ (List.mem_map.mpr ⟨_, hsession, rfl⟩)
      rcases honce request hrequest found hfound with ⟨_, hnot⟩ | ⟨_, hnot⟩
      · exact absurd hrefused hnot
      · exact hnot
  · rintro ⟨hmapped, hapart⟩ request hrequest found hfound
    by_cases hrefused : found.key ∈ keysOf (notToStop store requests)
    · obtain ⟨session, hsession, hkey⟩ := List.mem_map.mp hrefused
      exact .inr ⟨List.mem_append_left _ hrefused, hkey ▸ hapart session hsession⟩
    let session : VirtualDesktopSession := { found with force := request.force }
    have hstop : session ∈ toStop store requests := by
      cases hstoppable : stoppable request.force found.state with
      | true => exact mem_toStop.mpr ⟨request, hrequest, found, hfound, hstoppable, rfl⟩
      | false =>
        have hnot := mem_notToStop.mpr ⟨request, hrequest, found, hfound, hstoppable, rfl⟩
        exact absurd (List.mem_map.mpr ⟨_, hnot, rfl⟩) hrefused
    rw [stoppedKeys, notStoppedKeys, List.mem_append, List.mem_append]
    cases hempty : isEmptyString session.dcvSessionId with
    | true =>
      have hdirect : session ∈ toStopDirectly store requests := List.mem_filter.mpr ⟨hstop, hempty⟩
      have hfailed : session.key ∉ failedKeys env (toStopByBroker store requests) := by
        intro hfailed
        obtain ⟨other, hother, hkey⟩ := key_of_mem_brokerKeys hsplits (.inr hfailed)
        exact direct_ne_broker hdirect hother hkey.symm
      exact .inl ⟨.inr (List.mem_map.mpr ⟨session, hdirect, rfl⟩), not_or.mpr ⟨hrefused, hfailed⟩⟩
    | false =>
      have hbrokers : session ∈ toStopByBroker store requests :=
        List.mem_filter.mpr ⟨hstop, by rw [hempty]; rfl⟩
      have hdirect : session.key ∉ keysOf (toStopDirectly store requests) := by
        intro hdirect
        obtain ⟨other, hother, hkey⟩ := List.mem_map.mp hdirect
        exact direct_ne_broker hother hbrokers hkey
      have hmap := (hmapped session hbrokers).resolve_right hrefused
      obtain ⟨hanswered, hdisjoint⟩ := hbroker session hbrokers
      rcases hanswered.mpr hmap with hdeleted | hfailed
      · exact .inl ⟨.inl hdeleted, not_or.mpr ⟨hrefused, hdisjoint hdeleted⟩⟩
      · have hdeleted : session.key ∉ deletedKeys env (toStopByBroker store requests) :=
          fun hdeleted => hdisjoint hdeleted hfailed
        exact .inr ⟨.inr hfailed, not_or.mpr ⟨hdeleted, hdirect⟩⟩

theorem accounted_stopSessions_iff (hserves : env.Serves) (hsplits : env.Splits) :
    Accounted store requests (stopSessions env requests) ↔ StopsAll env store requests := by
  rw [(stopSessions_endsWith hserves hsplits).accounted_iff, stoppedKeys_or_not hsplits]
  constructor
  · rintro ⟨hfound, hhosts, hmapped, hapart⟩
    exact ⟨hfound, hhosts, hmapped, hapart⟩
  · intro h
    exact ⟨h.found, h.hosts, h.mapped, h.apart⟩

end Idea.VirtualDesktop.Controller

import Idea.System.Returns
import Idea.VirtualDesktop.SessionRules

/-! # How operations on many sessions end

An operation on a list of requests reads the session of each, sorts the sessions and writes some
of them. While the other parties do what they are asked for, what it returns and which entries it
writes follow from the requests, the store and the answer of the broker. What may keep it from
ending normally are sessions that are not there and sessions without a server.
-/

namespace Idea.VirtualDesktop.Controller

open Stateful (Returns returns_bind returns_pure returns_collect_cons returns_collect_nil
  returns_collect_of_reads returns_forEach_cons)

variable {config : Config}

/-- Every call is done, except that requests to start or to terminate instances may be refused. -/
def Env.Serves (env : Env config) : Prop :=
  ∀ call e, env.raises call = some e → (∃ code text, e = .clientError code text) ∧
    ∃ ids, call = .startInstances ids ∨ call = .terminateInstances ids

/-- The broker deletes a DCV session it is asked to delete, or it gives a reason why not. -/
def Env.Splits (env : Env config) : Prop :=
  ∀ ids, (∀ id, id ∈ ids ↔ id ∈ (env.deletedSessions ids).1 ∨
      id ∈ (env.deletedSessions ids).2.map Prod.fst) ∧
    ∀ id ∈ (env.deletedSessions ids).1, id ∉ (env.deletedSessions ids).2.map Prod.fst

def Store.Holds (s : Store) (key : SessionKey) : Prop := (s.sessions.get? key).isSome

theorem holds_iff {s : Store} {key : SessionKey} :
    s.Holds key ↔ ¬ (s.sessions.get? key).isNone = true := by
  rw [Store.Holds, Option.isNone_iff_eq_none, Option.isSome_iff_ne_none]

/-- Only the entries of some sessions change, and none is removed. -/
structure Writes (keys : List SessionKey) (s s' : Store) : Prop where
  sessions : ∀ key, key ∉ keys → s'.sessions.get? key = s.sessions.get? key
  held : ∀ key, s.Holds key → s'.Holds key
  servers : s'.servers = s.servers
  permissions : s'.permissions = s.permissions

namespace Writes

variable {keys keys' : List SessionKey} {s s' s'' : Store}

theorem refl (s : Store) : Writes [] s s := ⟨fun _ _ => rfl, fun _ h => h, rfl, rfl⟩

theorem trans (h : Writes keys s s') (h' : Writes keys' s' s'') :
    Writes (keys ++ keys') s s'' where
  sessions key hkey := by
    rw [List.mem_append, not_or] at hkey
    rw [h'.sessions key hkey.2, h.sessions key hkey.1]
  held key hkey := h'.held key (h.held key hkey)
  servers := h'.servers.trans h.servers
  permissions := h'.permissions.trans h.permissions

end Writes

section Parts

variable {env : Env config} {s s' : Store}

theorem returns_perform {call : Call} (h : env.raises call = none) {a : Unit} :
    Returns (perform env call) s a s' ↔ s' = s.after env call := by
  rw [perform, h]
  exact ⟨fun h => (Prod.mk.inj h).2.symm, fun h => h ▸ rfl⟩

theorem perform_returns {call : Call} (h : env.raises call = none) :
    Returns (perform env call) s () (s.after env call) :=
  (returns_perform h).mpr rfl

theorem performOrAnswer_returns {call : Call}
    (h : ∀ e, env.raises call = some e → ∃ code text, e = .clientError code text) :
    ∃ answer, Returns (performOrAnswer env call) s answer
        (if answer = none then s.after env call else s) ∧
      (answer = none ↔ env.raises call = none) := by
  cases hraises : env.raises call with
  | none =>
    have hrun : (perform env call).run s = (.ok (), s.after env call) := by
      rw [perform, hraises]
      rfl
    exact ⟨none, (Stateful.returns_attempt.mpr hrun).bind (returns_pure.mpr ⟨rfl, rfl⟩), by simp⟩
  | some e =>
    obtain ⟨code, text, rfl⟩ := h e hraises
    have hrun : (perform env call).run s = (.error (.clientError code text), s) := by
      rw [perform, hraises]
      rfl
    exact ⟨some text, (Stateful.returns_attempt.mpr hrun).bind (returns_pure.mpr ⟨rfl, rfl⟩),
      by simp⟩

theorem Env.Serves.done (hserves : env.Serves) {call : Call}
    (h : ∀ ids, call ≠ .startInstances ids ∧ call ≠ .terminateInstances ids) :
    env.raises call = none := by
  cases hraises : env.raises call with
  | none => rfl
  | some e =>
    obtain ⟨_, ids, hcall | hcall⟩ := hserves call e hraises
    · exact absurd hcall (h ids).1
    · exact absurd hcall (h ids).2

theorem writes_send (event : QueuedEvent) : Writes [] s (s.send env event) := by
  unfold Store.send
  split
  · exact .refl s
  · exact ⟨fun _ _ => rfl, fun _ h => h, rfl, rfl⟩

theorem returns_getFromDb (hserves : env.Serves) {owner ideaSessionId : Option String}
    {found : Option VirtualDesktopSession} :
    Returns (SessionDB.getFromDb env owner ideaSessionId) s found s' ↔
      s' = s ∧ found = s.find owner ideaSessionId := by
  rw [Store.find, SessionDB.getFromDb]
  cases SessionDB.sessionKey owner ideaSessionId with
  | none => simp [and_comm]
  | some key =>
    have hdone : env.raises (.getSession key) = none := hserves.done (by simp)
    rw [returns_bind]
    constructor
    · rintro ⟨_, s₁, hperform, hrest⟩
      obtain rfl := (returns_perform hdone).mp hperform
      obtain ⟨rfl, rfl⟩ := returns_pure.mp hrest
      exact ⟨rfl, rfl⟩
    · rintro ⟨rfl, rfl⟩
      exact ⟨(), s', perform_returns hdone, returns_pure.mpr ⟨rfl, rfl⟩⟩

variable {session : VirtualDesktopSession}

theorem returns_findSession (hserves : env.Serves) {request : SessionRequest} :
    Returns (findSession env request) s session s' ↔
      s' = s ∧ s.requested request = some session := by
  rw [findSession, Store.requested, returns_bind]
  constructor
  · rintro ⟨found, s₁, hget, hrest⟩
    obtain ⟨rfl, rfl⟩ := (returns_getFromDb hserves).mp hget
    cases hfind : s₁.find request.owner request.ideaSessionId with
    | none => simp [hfind] at hrest
    | some found =>
      rw [hfind] at hrest
      obtain ⟨rfl, rfl⟩ := returns_pure.mp hrest
      exact ⟨rfl, rfl⟩
  · rintro ⟨rfl, hfind⟩
    refine ⟨_, s', (returns_getFromDb hserves).mpr ⟨rfl, rfl⟩, ?_⟩
    rw [hfind]
    exact returns_pure.mpr ⟨rfl, rfl⟩

theorem returns_collect_find {β : Type} (hserves : env.Serves) {requests : List SessionRequest}
    {g : SessionRequest → VirtualDesktopSession → β} {out : List β} :
    Returns (Stateful.collect (fun request => do
        let session ← findSession env request
        pure (g request session)) requests) s out s' ↔
      s' = s ∧ (∀ request ∈ requests, (s.requested request).isSome) ∧
        out = requests.filterMap fun request => (s.requested request).map (g request) := by
  rw [returns_collect_of_reads fun request => (s.requested request).map (g request)]
  · simp only [Option.isSome_map]
  · intro request _ b s₁
    rw [returns_bind]
    constructor
    · rintro ⟨session, s₂, hfind, hrest⟩
      obtain ⟨rfl, hfound⟩ := (returns_findSession hserves).mp hfind
      obtain ⟨rfl, rfl⟩ := returns_pure.mp hrest
      exact ⟨rfl, by rw [hfound]; rfl⟩
    · rintro ⟨rfl, hmap⟩
      obtain ⟨session, hfound, rfl⟩ := Option.map_eq_some_iff.mp hmap
      exact ⟨session, s₁, (returns_findSession hserves).mpr ⟨rfl, hfound⟩,
        returns_pure.mpr ⟨rfl, rfl⟩⟩

theorem writes_updateSession (session : VirtualDesktopSession) :
    Writes [session.key] s (s.after env (.updateSession session)) where
  sessions key hkey := Dict.get?_set_ne _ (by simpa using hkey) _
  held key hkey := by
    rw [Store.Holds, Store.after, Dict.get?_set]
    split
    · rfl
    · exact hkey
  servers := rfl
  permissions := rfl

theorem update_returns (hserves : env.Serves) (session : VirtualDesktopSession)
    (hheld : s.Holds session.key) :
    ∃ s', Returns (SessionDB.update env session) s
        (SessionDB.readSession (session.stored env)) s' ∧ Writes [session.key] s s' := by
  have hupdate : env.raises (.updateSession session) = none := hserves.done (by simp)
  let event := entryEvent config .DB_ENTRY_UPDATED_EVENT .sessions session.owner
    session.ideaSessionId
  have hpublish : env.raises (.publish event) = none := hserves.done (by simp)
  refine ⟨(s.after env (.updateSession session)).send env event, ?_, ?_⟩
  · rw [SessionDB.update, Stateful.returns_get_bind]
    refine (perform_returns hupdate).bind ?_
    rw [if_neg (holds_iff.mp hheld)]
    exact (perform_returns hpublish).bind (returns_pure.mpr ⟨rfl, rfl⟩)
  · exact (writes_updateSession session).trans (writes_send event)

/-- A loop each round of which writes the entry of one session and returns the session, of which
something is known. -/
theorem collect_writes {α γ : Type} {f : α → Action VirtualDesktopSession} {key : α → SessionKey}
    {φ : VirtualDesktopSession → γ} {ψ : α → γ} {l : List α}
    (h : ∀ a ∈ l, ∀ s₁, (∀ key, s.Holds key → s₁.Holds key) →
      ∃ session s₂, Returns (f a) s₁ session s₂ ∧ φ session = ψ a ∧ Writes [key a] s₁ s₂) :
    ∃ sessions s', Returns (Stateful.collect f l) s sessions s' ∧
      sessions.map φ = l.map ψ ∧ Writes (l.map key) s s' := by
  induction l generalizing s with
  | nil => exact ⟨[], s, returns_collect_nil.mpr ⟨rfl, rfl⟩, rfl, .refl s⟩
  | cons a l ih =>
    rw [List.forall_mem_cons] at h
    obtain ⟨session, s₁, hreturns, hsession, hwrites⟩ := h.1 s fun _ h => h
    obtain ⟨sessions, s', hrest, hsessions, hwrites'⟩ := ih fun a ha s₂ hs₂ =>
      h.2 a ha s₂ fun key hheld => hs₂ key (hwrites.held key hheld)
    exact ⟨session :: sessions, s', returns_collect_cons.mpr ⟨_, _, _, hreturns, hrest, rfl⟩,
      by rw [List.map_cons, List.map_cons, hsession, hsessions], hwrites.trans hwrites'⟩

def lastWith (id : VirtualDesktopSession → Option String) (sessions : List VirtualDesktopSession)
    (value : Option String) : Option VirtualDesktopSession :=
  sessions.reverse.find? (id · = value)

def lastKey (id : VirtualDesktopSession → Option String) (sessions : List VirtualDesktopSession)
    (value : Option String) : SessionKey :=
  ((lastWith id sessions value).map VirtualDesktopSession.key).getD ("", "")

variable {sessions : List VirtualDesktopSession} {value : Option String}

theorem exists_lastWith {id : VirtualDesktopSession → Option String} (h : value ∈ sessions.map id) :
    ∃ session ∈ sessions, lastWith id sessions value = some session ∧ id session = value ∧
      lastKey id sessions value = session.key := by
  obtain ⟨session, hsession, hid⟩ := List.mem_map.mp h
  cases hlast : lastWith id sessions value with
  | none =>
    have hno := List.find?_eq_none.mp hlast session (List.mem_reverse.mpr hsession)
    simp [hid] at hno
  | some last =>
    refine ⟨last, List.mem_reverse.mp (List.mem_of_find?_eq_some hlast), rfl, ?_, ?_⟩
    · simpa using List.find?_some hlast
    · rw [lastKey, hlast]
      rfl

theorem returns_sessionOfDcvId
    (h : lastWith VirtualDesktopSession.dcvSessionId sessions value = some session) :
    Returns (sessionOfDcvId sessions value) s session s := by
  rw [lastWith] at h
  rw [sessionOfDcvId, h]
  exact returns_pure.mpr ⟨rfl, rfl⟩

theorem returns_sessionOfInstance
    (h : lastWith VirtualDesktopSession.instanceId sessions value = some session) :
    Returns (sessionOfInstance sessions value) s session s := by
  rw [lastWith] at h
  rw [sessionOfInstance, h]
  exact returns_pure.mpr ⟨rfl, rfl⟩

def brokerAnswer (env : Env config) (sessions : List VirtualDesktopSession) :
    List (Option String) × List (Option String × String) :=
  env.deletedSessions (sessions.map (·.dcvSessionId))

theorem deleteDcvSessions_returns (hserves : env.Serves) (hsplits : env.Splits)
    (sessions : List VirtualDesktopSession) :
    Returns (deleteDcvSessions env sessions) s (brokerAnswer env sessions) s := by
  unfold deleteDcvSessions
  split
  · rename_i hempty
    obtain rfl := List.isEmpty_iff.mp hempty
    have hids := (hsplits []).1
    have hdeleted : (env.deletedSessions []).1 = [] :=
      List.eq_nil_iff_forall_not_mem.mpr fun id h => by simpa using (hids id).mpr (.inl h)
    have hfailed : (env.deletedSessions []).2 = [] :=
      List.eq_nil_iff_forall_not_mem.mpr fun entry h => by
        simpa using (hids entry.1).mpr (.inr (List.mem_map_of_mem h))
    exact returns_pure.mpr ⟨Prod.ext hdeleted hfailed, rfl⟩
  · have hdone : env.raises (.deleteDcvSessions (sessions.map (·.dcvSessionId))) = none :=
      hserves.done (by simp)
    exact (perform_returns hdone).bind (returns_pure.mpr ⟨rfl, rfl⟩)

theorem markForValidation_returns (hserves : env.Serves) (state : VirtualDesktopSessionState)
    (hlast : lastWith VirtualDesktopSession.dcvSessionId sessions value = some session)
    (hheld : s.Holds session.key) :
    ∃ session' s', Returns (markForValidation env state sessions value) s session' s' ∧
      session'.key = session.key ∧ Writes [session.key] s s' := by
  have hpublish : env.raises (.publish (validateDeletionEvent config session.key)) = none :=
    hserves.done (by simp)
  obtain ⟨s₁, hupdate, hwrites⟩ := update_returns hserves { session with state := state } hheld
  let updated := SessionDB.readSession
    (({ session with state := state } : VirtualDesktopSession).stored env)
  let event := validateDeletionEvent config session.key
  refine ⟨updated, s₁.send env event, ?_, rfl, hwrites.trans (writes_send event)⟩
  refine (returns_sessionOfDcvId hlast).bind (hupdate.bind ?_)
  exact (perform_returns hpublish).bind (returns_pure.mpr ⟨rfl, rfl⟩)

theorem collect_markForValidation (hserves : env.Serves) (hsplits : env.Splits)
    (state : VirtualDesktopSessionState) (hheld : ∀ session ∈ sessions, s.Holds session.key) :
    ∃ out s', Returns (Stateful.collect (markForValidation env state sessions)
        (brokerAnswer env sessions).1) s out s' ∧
      out.map VirtualDesktopSession.key = (brokerAnswer env sessions).1.map
        (lastKey VirtualDesktopSession.dcvSessionId sessions) ∧
      Writes ((brokerAnswer env sessions).1.map
        (lastKey VirtualDesktopSession.dcvSessionId sessions)) s s' := by
  refine collect_writes fun id hid s₁ hs₁ => ?_
  obtain ⟨session, hsession, hlast, _, hkey⟩ := exists_lastWith (((hsplits _).1 id).mpr (.inl hid))
  rw [hkey]
  exact markForValidation_returns hserves state hlast (hs₁ _ (hheld session hsession))

theorem failedSessions_returns (hsplits : env.Splits) (sessions : List VirtualDesktopSession) :
    ∃ out, (∀ s, Returns (failedSessions sessions (brokerAnswer env sessions).2) s out s) ∧
      out.map VirtualDesktopSession.key = ((brokerAnswer env sessions).2.map Prod.fst).map
        (lastKey VirtualDesktopSession.dcvSessionId sessions) := by
  rw [List.map_map]
  refine Stateful.exists_returns_collect fun entry hentry => ?_
  obtain ⟨session, _, hlast, _, hkey⟩ :=
    exists_lastWith (((hsplits _).1 entry.1).mpr (.inr (List.mem_map_of_mem hentry)))
  exact ⟨{ session with failureReason := some entry.2 },
    fun s => (returns_sessionOfDcvId hlast).bind (returns_pure.mpr ⟨rfl, rfl⟩), hkey.symm⟩

def Store.HasServer (s : Store) (instanceId : Option String) : Prop :=
  ∃ key, instanceId = some key ∧ isEmptyString (some key) = false ∧ (s.servers.get? key).isSome

/-- The entries of the sessions and the instances that have an entry stay. -/
structure SameHosts (s s' : Store) : Prop where
  sessions : s'.sessions = s.sessions
  hosts : ∀ instanceId, s'.HasServer instanceId ↔ s.HasServer instanceId

theorem SameHosts.trans {s₁ s₂ s₃ : Store} (h : SameHosts s₁ s₂) (h' : SameHosts s₂ s₃) :
    SameHosts s₁ s₃ :=
  ⟨h'.sessions.trans h.sessions, fun id => (h'.hosts id).trans (h.hosts id)⟩

theorem sameHosts_send (event : QueuedEvent) : SameHosts s (s.send env event) := by
  unfold Store.send
  split
  · exact ⟨rfl, fun _ => Iff.rfl⟩
  · exact ⟨rfl, fun _ => Iff.rfl⟩

theorem sameHosts_updateServer {key : String} (server : VirtualDesktopServer)
    (hkey : (s.servers.get? key).isSome) :
    SameHosts s (s.after env (.updateServer key server)) := by
  refine ⟨rfl, fun instanceId => ?_⟩
  simp only [Store.HasServer, Store.after, Dict.get?_set]
  refine exists_congr fun key' => and_congr_right fun _ => and_congr_right fun _ => ?_
  split
  · rename_i heq
    rw [heq]
    exact ⟨fun _ => hkey, fun _ => rfl⟩
  · exact Iff.rfl

theorem returns_getServer (hserves : env.Serves) {instanceId : Option String}
    {found : Option VirtualDesktopServer} :
    Returns (ServerDB.get env instanceId) s found s' ↔ s' = s ∧
      ∃ key, instanceId = some key ∧ isEmptyString (some key) = false ∧
        found = (s.servers.get? key).map (ServerDB.readEntry key) := by
  cases instanceId with
  | none => simp [ServerDB.get]
  | some key =>
    rw [ServerDB.get]
    cases hempty : isEmptyString (some key) with
    | true => simp [hempty]
    | false =>
      have hdone : env.raises (.getServer key) = none := hserves.done (by simp)
      rw [if_neg Bool.false_ne_true, returns_bind]
      constructor
      · rintro ⟨_, s₁, hperform, hrest⟩
        obtain rfl := (returns_perform hdone).mp hperform
        obtain ⟨rfl, rfl⟩ := returns_pure.mp hrest
        exact ⟨rfl, key, rfl, hempty, rfl⟩
      · rintro ⟨rfl, key', hkey, _, rfl⟩
        obtain rfl := Option.some.inj hkey
        exact ⟨(), s', perform_returns hdone, returns_pure.mpr ⟨rfl, rfl⟩⟩

def Store.recorded (env : Env config) (store : Store) (state key : String)
    (server : VirtualDesktopServer) : Store :=
  let updated := { ServerDB.readEntry key server with state := some state }
  (store.after env (.updateServer key updated)).send env
    (entryEvent config .DB_ENTRY_UPDATED_EVENT .servers key "")

theorem returns_updateServerState (hserves : env.Serves) {state : String}
    {instanceId : Option String} :
    Returns (updateServerState env state instanceId) s () s' ↔
      ∃ key server, instanceId = some key ∧ isEmptyString (some key) = false ∧
        s.servers.get? key = some server ∧ s' = s.recorded env state key server := by
  have hupdate : ∀ key server, env.raises (.updateServer key server) = none :=
    fun key server => hserves.done (by simp)
  have hpublish : ∀ event, env.raises (.publish event) = none :=
    fun event => hserves.done (by simp)
  rw [updateServerState, returns_bind]
  constructor
  · rintro ⟨found, s₁, hget, hrest⟩
    obtain ⟨rfl, key, rfl, hempty, rfl⟩ := (returns_getServer hserves).mp hget
    cases hserver : s₁.servers.get? key with
    | none => simp [hserver] at hrest
    | some server =>
      rw [hserver] at hrest
      obtain ⟨_, s₂, hwrite, hevent⟩ := returns_bind.mp hrest
      obtain rfl := (returns_perform (hupdate _ _)).mp hwrite
      obtain rfl := (returns_perform (hpublish _)).mp hevent
      exact ⟨key, server, rfl, hempty, hserver, rfl⟩
  · rintro ⟨key, server, rfl, hempty, hserver, rfl⟩
    refine ⟨_, s, (returns_getServer hserves).mpr ⟨rfl, key, rfl, hempty, rfl⟩, ?_⟩
    rw [hserver]
    exact (perform_returns (hupdate _ _)).bind (perform_returns (hpublish _))

theorem updateServerState_returns (hserves : env.Serves) {state : String}
    {instanceId : Option String} :
    (∀ s', Returns (updateServerState env state instanceId) s () s' →
        s.HasServer instanceId ∧ SameHosts s s') ∧
      (s.HasServer instanceId →
        ∃ s', Returns (updateServerState env state instanceId) s () s') := by
  constructor
  · intro s' h
    obtain ⟨key, server, rfl, hempty, hserver, rfl⟩ := (returns_updateServerState hserves).mp h
    have hsome : (s.servers.get? key).isSome := by rw [hserver]; rfl
    exact ⟨⟨key, rfl, hempty, hsome⟩, (sameHosts_updateServer _ hsome).trans (sameHosts_send _)⟩
  · rintro ⟨key, rfl, hempty, hsome⟩
    obtain ⟨server, hserver⟩ := Option.isSome_iff_exists.mp hsome
    exact ⟨_, (returns_updateServerState hserves).mpr ⟨key, server, rfl, hempty, hserver, rfl⟩⟩

theorem returns_forEach_updateServerState (hserves : env.Serves) {state : String}
    {instanceIds : List (Option String)} :
    (∀ s', Returns (Stateful.forEach (updateServerState env state) instanceIds) s () s' →
        (∀ id ∈ instanceIds, s.HasServer id) ∧ SameHosts s s') ∧
      ((∀ id ∈ instanceIds, s.HasServer id) →
        ∃ s', Returns (Stateful.forEach (updateServerState env state) instanceIds) s () s') := by
  induction instanceIds generalizing s with
  | nil =>
    constructor
    · intro s' h
      obtain ⟨_, rfl⟩ := returns_pure.mp h
      exact ⟨fun _ h => absurd h List.not_mem_nil, rfl, fun _ => Iff.rfl⟩
    · intro _
      exact ⟨s, returns_pure.mpr ⟨rfl, rfl⟩⟩
  | cons instanceId instanceIds ih =>
    simp only [returns_forEach_cons, List.forall_mem_cons]
    obtain ⟨hnecessary, hsufficient⟩ :=
      @updateServerState_returns _ env s hserves state instanceId
    constructor
    · rintro s' ⟨s₁, hfirst, hrest⟩
      obtain ⟨hserver, hsame⟩ := hnecessary s₁ hfirst
      obtain ⟨hservers, hsame'⟩ := ih.1 s' hrest
      exact ⟨⟨hserver, fun id hid => (hsame.hosts id).mp (hservers id hid)⟩, hsame.trans hsame'⟩
    · rintro ⟨hserver, hservers⟩
      obtain ⟨s₁, hfirst⟩ := hsufficient hserver
      have hsame := (hnecessary s₁ hfirst).2
      obtain ⟨s', hrest⟩ := ih.2 fun id hid => (hsame.hosts id).mpr (hservers id hid)
      exact ⟨s', s₁, hfirst, hrest⟩

theorem returns_stopDcvHosts (hserves : env.Serves) {instanceIds : List (Option String)}
    {hibernate : Bool} :
    (∀ s', Returns (stopDcvHosts env instanceIds hibernate) s () s' →
        (∀ id ∈ instanceIds, s.HasServer id) ∧ SameHosts s s') ∧
      ((∀ id ∈ instanceIds, s.HasServer id) →
        ∃ s', Returns (stopDcvHosts env instanceIds hibernate) s () s') := by
  have hdone : env.raises (.stopInstances instanceIds hibernate) = none := hserves.done (by simp)
  rw [stopDcvHosts]
  split
  · rename_i hempty
    obtain rfl := List.isEmpty_iff.mp hempty
    exact @returns_forEach_updateServerState config env s hserves "STOPPING" []
  · constructor
    · intro s' h
      obtain ⟨_, s₁, hstop, hrest⟩ := returns_bind.mp h
      obtain rfl := (returns_perform hdone).mp hstop
      exact (returns_forEach_updateServerState hserves).1 s' hrest
    · intro hall
      obtain ⟨s', hrest⟩ := (returns_forEach_updateServerState hserves).2 hall
      exact ⟨s', (perform_returns hdone).bind hrest⟩

theorem returns_stopOrHibernateServers (hserves : env.Serves)
    {toStop toHibernate : List (Option String)} :
    (∀ s', Returns (stopOrHibernateServers env toStop toHibernate) s () s' →
        (∀ id ∈ toStop ++ toHibernate, s.HasServer id) ∧ SameHosts s s') ∧
      ((∀ id ∈ toStop ++ toHibernate, s.HasServer id) →
        ∃ s', Returns (stopOrHibernateServers env toStop toHibernate) s () s') := by
  simp only [stopOrHibernateServers, returns_bind, List.forall_mem_append]
  constructor
  · rintro s' ⟨_, s₁, hstop, hhibernate⟩
    obtain ⟨hservers, hsame⟩ := (returns_stopDcvHosts hserves).1 s₁ hstop
    obtain ⟨hservers', hsame'⟩ := (returns_stopDcvHosts hserves).1 s' hhibernate
    exact ⟨⟨hservers, fun id hid => (hsame.hosts id).mp (hservers' id hid)⟩, hsame.trans hsame'⟩
  · rintro ⟨hservers, hservers'⟩
    obtain ⟨s₁, hstop⟩ := (returns_stopDcvHosts hserves).2 hservers
    have hsame := ((returns_stopDcvHosts hserves).1 s₁ hstop).2
    obtain ⟨s', hhibernate⟩ := (returns_stopDcvHosts hserves).2 fun id hid =>
      (hsame.hosts id).mpr (hservers' id hid)
    exact ⟨s', (), s₁, hstop, hhibernate⟩

end Parts

end Idea.VirtualDesktop.Controller

import Idea.VirtualDesktop.BulkAccounts

/-! # When operations on many sessions account for every request

Sessions are resumed by their instances, rebooted by themselves and terminated by their DCV
sessions. In each case the requests that are accounted for are those that are found, that have the
hosts the operation needs, that the maps of the operation do not lose and that are not sorted in two
ways.
-/

namespace Idea.VirtualDesktop.Controller

open Stateful (Returns returns_bind returns_pure returns_collect_cons returns_collect_nil
  returns_collect_of_reads)

variable {config : Config} {env : Env config} {s s' store : Store} {requests : List SessionRequest}

def Store.found (store : Store) (requests : List SessionRequest) : List VirtualDesktopSession :=
  requests.filterMap store.requested

variable {session : VirtualDesktopSession}

theorem mem_found :
    session ∈ store.found requests ↔
      ∃ request ∈ requests, store.requested request = some session :=
  List.mem_filterMap

theorem reads_of_mem_found (h : session ∈ store.found requests) : store.Reads session := by
  obtain ⟨request, _, hfound⟩ := mem_found.mp h
  exact (requested_eq_some hfound).2.2

def toResume (store : Store) (requests : List SessionRequest) : List VirtualDesktopSession :=
  (store.found requests).filter (·.state = .STOPPED)

def notToResume (store : Store) (requests : List SessionRequest) : List VirtualDesktopSession :=
  (store.found requests).filter (·.state ≠ .STOPPED)

def lastInstanceKey (sessions : List VirtualDesktopSession) (value : Option String) : SessionKey :=
  lastKey VirtualDesktopSession.instanceId sessions value

def startsHosts (env : Env config) (sessions : List VirtualDesktopSession) : Bool :=
  (env.raises (.startInstances (instanceIds sessions))).isNone

def mappedKeys (sessions : List VirtualDesktopSession) : List SessionKey :=
  (instanceIds sessions).map (lastInstanceKey sessions)

def resumedKeys (env : Env config) (store : Store) (requests : List SessionRequest) :
    List SessionKey :=
  if startsHosts env (toResume store requests) then mappedKeys (toResume store requests) else []

def notResumedKeys (env : Env config) (store : Store) (requests : List SessionRequest) :
    List SessionKey :=
  keysOf (notToResume store requests) ++
    if startsHosts env (toResume store requests) then [] else mappedKeys (toResume store requests)

def lacksServer (session : VirtualDesktopSession) : Bool :=
  decide (session.state = .STOPPED) && session.server.isNone

theorem lacksServer_eq_false :
    lacksServer session = false ↔ (session.state = .STOPPED → session.server.isSome) := by
  simp [lacksServer]

theorem returns_findSessionToResume (hserves : env.Serves) {request : SessionRequest} :
    Returns (findSessionToResume env request) s session s' ↔
      s' = s ∧ (s.requested request).filter (!lacksServer ·) = some session := by
  rw [findSessionToResume, returns_bind, Option.filter_eq_some_iff, Bool.not_eq_true']
  constructor
  · rintro ⟨found, s₁, hfind, hrest⟩
    obtain ⟨rfl, hfound⟩ := (returns_findSession hserves).mp hfind
    split at hrest
    · exact absurd hrest Stateful.returns_raise
    · rename_i hserver
      obtain ⟨rfl, rfl⟩ := returns_pure.mp hrest
      exact ⟨rfl, hfound, Bool.eq_false_of_not_eq_true hserver⟩
  · rintro ⟨rfl, hfound, hserver⟩
    refine ⟨session, s', (returns_findSession hserves).mpr ⟨rfl, hfound⟩, ?_⟩
    rw [lacksServer] at hserver
    rw [hserver, if_neg Bool.false_ne_true]
    exact returns_pure.mpr ⟨rfl, rfl⟩

theorem returns_findSessionsToResume (hserves : env.Serves) {out : List VirtualDesktopSession} :
    Returns (Stateful.collect (findSessionToResume env) requests) s out s' ↔
      s' = s ∧ s.HasAll requests ∧ (∀ session ∈ toResume s requests, session.server.isSome) ∧
        out = s.found requests := by
  rw [returns_collect_of_reads _ fun request _ _ _ => returns_findSessionToResume hserves]
  constructor
  · rintro ⟨rfl, hall, rfl⟩
    have hserved : ∀ request ∈ requests, ∃ session, s'.requested request = some session ∧
        lacksServer session = false := by
      intro request hrequest
      obtain ⟨session, hfilter⟩ := Option.isSome_iff_exists.mp (hall request hrequest)
      obtain ⟨hfound, hserver⟩ := Option.filter_eq_some_iff.mp hfilter
      exact ⟨session, hfound, Bool.not_eq_true' _ ▸ hserver⟩
    refine ⟨rfl, fun request hrequest => ?_, fun session hsession => ?_, ?_⟩
    · obtain ⟨session, hfound, _⟩ := hserved request hrequest
      rw [hfound]
      rfl
    · obtain ⟨hmem, hstopped⟩ := List.mem_filter.mp hsession
      obtain ⟨request, hrequest, hfound⟩ := mem_found.mp hmem
      obtain ⟨other, hother, hserver⟩ := hserved request hrequest
      obtain rfl := Option.some.inj (hfound.symm.trans hother)
      exact lacksServer_eq_false.mp hserver (of_decide_eq_true hstopped)
    · refine List.filterMap_congr fun request hrequest => ?_
      obtain ⟨session, hfound, hserver⟩ := hserved request hrequest
      rw [hfound, Option.filter_some, hserver]
      rfl
  · rintro ⟨rfl, hall, hservers, rfl⟩
    have hsame : ∀ request ∈ requests,
        (s'.requested request).filter (!lacksServer ·) = s'.requested request := by
      intro request hrequest
      obtain ⟨session, hfound⟩ := Option.isSome_iff_exists.mp (hall request hrequest)
      have hserver : lacksServer session = false := lacksServer_eq_false.mpr fun hstopped =>
        hservers session (List.mem_filter.mpr
          ⟨mem_found.mpr ⟨request, hrequest, hfound⟩, decide_eq_true hstopped⟩)
      rw [hfound, Option.filter_some, hserver]
      rfl
    exact ⟨rfl, fun request hrequest => by rw [hsame request hrequest]; exact hall request hrequest,
      (List.filterMap_congr hsame).symm⟩

variable {sessions : List VirtualDesktopSession}

theorem returns_requireHosts :
    Returns (requireHosts sessions) s () s' ↔
      s' = s ∧ ∀ session ∈ sessions, session.instanceId.isSome := by
  rw [requireHosts]
  split
  · rename_i hserver
    obtain ⟨session, hsession, hnone⟩ := List.any_eq_true.mp hserver
    rw [Option.isNone_iff_eq_none] at hnone
    simp only [Stateful.returns_raise, false_iff, not_and]
    intro _ hall
    simpa [VirtualDesktopSession.instanceId, hnone] using hall session hsession
  · split
    · rename_i hinstance
      obtain ⟨session, hsession, hnone⟩ := List.any_eq_true.mp hinstance
      rw [Option.isNone_iff_eq_none] at hnone
      simp only [Stateful.returns_raise, false_iff, not_and]
      intro _ hall
      simpa [hnone] using hall session hsession
    · rename_i hinstance
      simp only [returns_pure, true_and]
      refine (and_iff_left fun session hsession => ?_).symm
      have hsome : ¬ session.instanceId.isNone = true :=
        fun h => hinstance (List.any_eq_true.mpr ⟨session, hsession, h⟩)
      simpa [Option.isSome_iff_ne_none] using hsome

theorem hosts_of_instances (h : ∀ session ∈ sessions, session.instanceId.isSome) :
    ∀ session ∈ sessions, session.server.isSome := by
  intro session hsession
  obtain ⟨instanceId, hinstance⟩ := Option.isSome_iff_exists.mp (h session hsession)
  obtain ⟨server, hserver, _⟩ := Option.bind_eq_some_iff.mp hinstance
  rw [hserver]
  rfl

theorem exists_lastInstance {id : Option String} (h : id ∈ instanceIds sessions) :
    ∃ session ∈ sessions, lastWith VirtualDesktopSession.instanceId sessions id = some session ∧
      session.key = lastInstanceKey sessions id := by
  obtain ⟨session, hsession, hlast, _, hkey⟩ := exists_lastWith h
  exact ⟨session, hsession, hlast, hkey.symm⟩

theorem key_of_mem_mappedKeys {key : SessionKey} (h : key ∈ mappedKeys sessions) :
    ∃ session ∈ sessions, session.key = key := by
  obtain ⟨id, hid, rfl⟩ := List.mem_map.mp h
  obtain ⟨session, hsession, _, hkey⟩ := exists_lastInstance hid
  exact ⟨session, hsession, hkey⟩

theorem collect_markResuming (hserves : env.Serves)
    (hheld : ∀ session ∈ sessions, s.Holds session.key) :
    ∃ resumed s', Returns (Stateful.collect (markResuming env sessions) (instanceIds sessions))
        s resumed s' ∧ keysOf resumed = mappedKeys sessions ∧
      Writes (mappedKeys sessions) s s' := by
  refine collect_writes fun id hid s₁ hs₁ => ?_
  obtain ⟨session, hsession, hlast, hkey⟩ := exists_lastInstance hid
  obtain ⟨s₂, hupdate, hwrites⟩ := update_returns hserves { session with state := .RESUMING }
    (hs₁ _ (hheld session hsession))
  exact ⟨_, s₂, (returns_sessionOfInstance hlast).bind hupdate, hkey, hkey ▸ hwrites⟩

theorem collect_failedToStart (sessions : List VirtualDesktopSession) (text : String) :
    ∃ failed, (∀ s : Store, Returns (Stateful.collect (failedToStart sessions text)
        (instanceIds sessions)) s failed s) ∧ keysOf failed = mappedKeys sessions := by
  refine Stateful.exists_returns_collect fun id hid => ?_
  obtain ⟨session, _, hlast, hkey⟩ := exists_lastInstance hid
  exact ⟨{ session with failureReason := some text },
    fun s => (returns_sessionOfInstance hlast).bind (returns_pure.mpr ⟨rfl, rfl⟩), hkey⟩

theorem resumeSessions_reaches (hserves : env.Serves) (hfound : store.HasAll requests)
    (hhosts : ∀ session ∈ toResume store requests, session.instanceId.isSome) :
    ∃ success failure s', Returns (resumeSessions env requests) store (success, failure) s' ∧
      keysOf success = resumedKeys env store requests ∧
      keysOf failure = notResumedKeys env store requests ∧
      ∀ key ∉ resumedKeys env store requests, s'.sessions.get? key = store.sessions.get? key := by
  have hread := (returns_findSessionsToResume hserves).mpr
    ⟨rfl, hfound, hosts_of_instances hhosts, rfl⟩
  have hrequire : Returns (requireHosts (toResume store requests)) store () store :=
    returns_requireHosts.mpr ⟨rfl, hhosts⟩
  let call : Call := .startInstances (instanceIds (toResume store requests))
  obtain ⟨answer, hanswer, hnone⟩ := performOrAnswer_returns (s := store) fun e he =>
    (hserves call e he).1
  have hheld : ∀ session ∈ toResume store requests, store.Holds session.key :=
    fun session hsession => (reads_of_mem_found (List.mem_filter.mp hsession).1).held
  let refusedSessions := (notToResume store requests).map
    (refused · "Can't resume a session not in STOPPED state")
  have hrefused : keysOf refusedSessions = keysOf (notToResume store requests) := by
    simp only [keysOf, refusedSessions, List.map_map]
    rfl
  cases answer with
  | some text =>
    have hstarts : startsHosts env (toResume store requests) = false := by
      rw [startsHosts, Option.isNone_eq_false_iff, Option.isSome_iff_ne_none]
      exact fun h => by simpa using hnone.mpr h
    obtain ⟨failed, hfailed, hkeys⟩ := collect_failedToStart (toResume store requests) text
    refine ⟨[], refusedSessions ++ failed, store, ?_, ?_, ?_, fun _ _ => rfl⟩
    · refine hread.bind (hrequire.bind (hanswer.bind ?_))
      exact (hfailed store).bind (returns_pure.mpr ⟨rfl, rfl⟩)
    · rw [resumedKeys, hstarts]
      rfl
    · rw [notResumedKeys, hstarts, keysOf, List.map_append]
      exact congrArg₂ _ hrefused hkeys
  | none =>
    have hstarts : startsHosts env (toResume store requests) = true := by
      rw [startsHosts, Option.isNone_iff_eq_none]
      exact hnone.mp rfl
    obtain ⟨resumed, s', hresumed, hkeys, hwrites⟩ := collect_markResuming hserves hheld
    refine ⟨resumed, refusedSessions, s', ?_, ?_, ?_, ?_⟩
    · refine hread.bind (hrequire.bind (hanswer.bind ?_))
      exact hresumed.bind (returns_pure.mpr ⟨rfl, rfl⟩)
    · rw [resumedKeys, hstarts]
      exact hkeys
    · rw [notResumedKeys, hstarts, hrefused]
      exact (List.append_nil _).symm
    · rw [resumedKeys, hstarts]
      exact hwrites.sessions

theorem resumeSessions_endsWith (hserves : env.Serves) :
    EndsWith store requests (∀ session ∈ toResume store requests, session.instanceId.isSome)
      (resumedKeys env store requests) (notResumedKeys env store requests)
      (resumeSessions env requests) := by
  have hparts : ∀ outcome s', Returns (resumeSessions env requests) store outcome s' →
      store.HasAll requests ∧ ∀ session ∈ toResume store requests, session.instanceId.isSome := by
    intro outcome s' h
    obtain ⟨_, s₁, hread, h⟩ := returns_bind.mp h
    obtain ⟨rfl, hfound, _, rfl⟩ := (returns_findSessionsToResume hserves).mp hread
    obtain ⟨_, s₂, hrequire, _⟩ := returns_bind.mp h
    exact ⟨hfound, (returns_requireHosts.mp hrequire).2⟩
  constructor
  · intro outcome s' h
    exact (hparts outcome s' h).1
  · intro hfound
    constructor
    · rintro ⟨outcome, s', h⟩
      exact (hparts outcome s' h).2
    · intro hhosts
      obtain ⟨success, failure, s', h, _⟩ := resumeSessions_reaches hserves hfound hhosts
      exact ⟨_, s', h⟩
  · intro hfound outcome s' h
    obtain ⟨success, failure, s₁, hreturns, hkeys⟩ :=
      resumeSessions_reaches hserves hfound (hparts outcome s' h).2
    obtain ⟨rfl, rfl⟩ := hreturns.unique h
    exact hkeys
  · intro key hkey
    have hmem : ∃ session ∈ store.found requests, session.key = key := by
      rcases List.mem_append.mp hkey with h | h
      · obtain ⟨session, hsession, rfl⟩ := List.mem_map.mp h
        exact ⟨session, (List.mem_filter.mp hsession).1, rfl⟩
      · split at h
        · exact absurd h List.not_mem_nil
        · obtain ⟨session, hsession, hkey⟩ := key_of_mem_mappedKeys h
          exact ⟨session, (List.mem_filter.mp hsession).1, hkey⟩
    obtain ⟨session, hsession, rfl⟩ := hmem
    obtain ⟨request, hrequest, hfound⟩ := mem_found.mp hsession
    exact ⟨request, hrequest, session, hfound, rfl⟩

structure ResumesAll (store : Store) (requests : List SessionRequest) : Prop where
  found : store.HasAll requests
  hosts : ∀ session ∈ toResume store requests, session.instanceId.isSome
  /-- The map of the instances has each session. -/
  mapped : ∀ session ∈ toResume store requests,
    lastInstanceKey (toResume store requests) session.instanceId = session.key

variable {session other : VirtualDesktopSession}

theorem resume_ne (hsession : session ∈ toResume store requests)
    (hother : other ∈ notToResume store requests) : session.key ≠ other.key := by
  obtain ⟨hmem, hstopped⟩ := List.mem_filter.mp hsession
  obtain ⟨hmem', hother⟩ := List.mem_filter.mp hother
  intro hkey
  have hstate := ((reads_of_mem_found hmem).same (reads_of_mem_found hmem') hkey).2.1
  rw [decide_eq_true_eq] at hstopped hother
  exact hother (hstate.symm.trans hstopped)

theorem mem_mappedKeys (h : session ∈ toResume store requests) :
    session.key ∈ mappedKeys (toResume store requests) ↔
      lastInstanceKey (toResume store requests) session.instanceId = session.key := by
  have hid : ∀ other ∈ toResume store requests, other.key = session.key →
      other.instanceId = session.instanceId := fun other hother hkey =>
    ((reads_of_mem_found (List.mem_filter.mp hother).1).same
      (reads_of_mem_found (List.mem_filter.mp h).1) hkey).2.2
  have hmem : session.key ∈ mappedKeys (toResume store requests) ↔
      session.instanceId ∈ instanceIds (toResume store requests) ∧
        lastInstanceKey (toResume store requests) session.instanceId = session.key :=
    mem_lastKeys (fun _ h => h) hid
  exact hmem.trans (and_iff_right (List.mem_map_of_mem h))

theorem resumedKeys_or_not :
    (∀ request ∈ requests, ∀ session, store.requested request = some session →
        Xor (session.key ∈ resumedKeys env store requests)
          (session.key ∈ notResumedKeys env store requests)) ↔
      ∀ session ∈ toResume store requests,
        lastInstanceKey (toResume store requests) session.instanceId = session.key := by
  have hresume : ∀ session ∈ toResume store requests,
      (Xor (session.key ∈ resumedKeys env store requests)
        (session.key ∈ notResumedKeys env store requests) ↔
      lastInstanceKey (toResume store requests) session.instanceId = session.key) := by
    intro session hsession
    have hnot : session.key ∉ keysOf (notToResume store requests) := by
      intro h
      obtain ⟨other, hother, hkey⟩ := List.mem_map.mp h
      exact resume_ne hsession hother hkey.symm
    rw [← mem_mappedKeys hsession, resumedKeys, notResumedKeys, List.mem_append]
    cases startsHosts env (toResume store requests) <;> simp [Xor, hnot]
  have hrefuse : ∀ session ∈ notToResume store requests,
      Xor (session.key ∈ resumedKeys env store requests)
        (session.key ∈ notResumedKeys env store requests) := by
    intro session hsession
    have hnot : session.key ∉ mappedKeys (toResume store requests) := by
      intro h
      obtain ⟨other, hother, hkey⟩ := key_of_mem_mappedKeys h
      exact resume_ne hother hsession hkey
    refine .inr ⟨List.mem_append_left _ (List.mem_map_of_mem hsession), ?_⟩
    rw [resumedKeys]
    split
    · exact hnot
    · exact List.not_mem_nil
  constructor
  · intro honce session hsession
    obtain ⟨request, hrequest, hfound⟩ := mem_found.mp (List.mem_filter.mp hsession).1
    exact (hresume session hsession).mp (honce request hrequest session hfound)
  · intro hmapped request hrequest session hfound
    have hmem := mem_found.mpr ⟨request, hrequest, hfound⟩
    by_cases hstopped : session.state = .STOPPED
    · have hsession : session ∈ toResume store requests :=
        List.mem_filter.mpr ⟨hmem, decide_eq_true hstopped⟩
      exact (hresume session hsession).mpr (hmapped session hsession)
    · exact hrefuse session (List.mem_filter.mpr ⟨hmem, decide_eq_true hstopped⟩)

theorem accounted_resumeSessions_iff (hserves : env.Serves) :
    Accounted store requests (resumeSessions env requests) ↔ ResumesAll store requests := by
  rw [(resumeSessions_endsWith hserves).accounted_iff, resumedKeys_or_not]
  constructor
  · rintro ⟨hfound, hhosts, hmapped⟩
    exact ⟨hfound, hhosts, hmapped⟩
  · intro h
    exact ⟨h.found, h.hosts, h.mapped⟩

def askedToReboot (store : Store) (requests : List SessionRequest) : List VirtualDesktopSession :=
  store.asked requests fun request session => { session with force := request.force }

def notRebootable (store : Store) (requests : List SessionRequest) : List VirtualDesktopSession :=
  (askedToReboot store requests).filter (!rebootable ·)

def rebootAllowed (store : Store) (requests : List SessionRequest) : List VirtualDesktopSession :=
  (askedToReboot store requests).filter (rebootable ·)

def countedToReboot (env : Env config) (store : Store) (requests : List SessionRequest) :
    List (VirtualDesktopSession × ℤ) :=
  withCounts env ((rebootAllowed store requests).filter (·.force ≠ some true))

def toReboot (env : Env config) (store : Store) (requests : List SessionRequest) :
    List VirtualDesktopSession :=
  (rebootAllowed store requests).filter (·.force = some true) ++
    ((countedToReboot env store requests).filter (·.2 ≤ 0)).map (·.1)

def connectedToReboot (env : Env config) (store : Store) (requests : List SessionRequest) :
    List VirtualDesktopSession :=
  ((countedToReboot env store requests).filter (0 < ·.2)).map (·.1)

theorem mem_askedToReboot :
    session ∈ askedToReboot store requests ↔ ∃ request ∈ requests, ∃ found,
      store.requested request = some found ∧ session = { found with force := request.force } := by
  simp only [askedToReboot, Store.asked, List.mem_filterMap, Option.map_eq_some_iff]
  constructor
  · rintro ⟨request, hrequest, found, hfound, rfl⟩
    exact ⟨request, hrequest, found, hfound, rfl⟩
  · rintro ⟨request, hrequest, found, hfound, rfl⟩
    exact ⟨request, hrequest, found, hfound, rfl⟩

theorem reads_of_mem_askedToReboot (h : session ∈ askedToReboot store requests) :
    store.Reads session := by
  obtain ⟨request, _, found, hfound, rfl⟩ := mem_askedToReboot.mp h
  exact (requested_eq_some hfound).2.2

theorem mem_rebootAllowed :
    session ∈ rebootAllowed store requests ↔
      session ∈ toReboot env store requests ∨ session ∈ connectedToReboot env store requests := by
  have hcounted : ∀ session, session ∈ (rebootAllowed store requests).filter (·.force ≠ some true) ↔
      ∃ entry ∈ countedToReboot env store requests, entry.1 = session := by
    intro session
    rw [← List.mem_map, countedToReboot, Rules.fst_withCounts]
  simp only [toReboot, connectedToReboot, List.mem_append, List.mem_map]
  constructor
  · intro h
    by_cases hforce : session.force = some true
    · exact .inl (.inl (List.mem_filter.mpr ⟨h, decide_eq_true hforce⟩))
    · obtain ⟨entry, hentry, rfl⟩ :=
        (hcounted session).mp (List.mem_filter.mpr ⟨h, decide_eq_true hforce⟩)
      rcases le_or_gt entry.2 0 with hnone | hsome
      · exact .inl (.inr ⟨entry, List.mem_filter.mpr ⟨hentry, decide_eq_true hnone⟩, rfl⟩)
      · exact .inr ⟨entry, List.mem_filter.mpr ⟨hentry, decide_eq_true hsome⟩, rfl⟩
  · rintro ((h | ⟨entry, hentry, rfl⟩) | ⟨entry, hentry, rfl⟩)
    · exact (List.mem_filter.mp h).1
    · have hmem := (hcounted entry.1).mpr ⟨entry, (List.mem_filter.mp hentry).1, rfl⟩
      exact (List.mem_filter.mp hmem).1
    · have hmem := (hcounted entry.1).mpr ⟨entry, (List.mem_filter.mp hentry).1, rfl⟩
      exact (List.mem_filter.mp hmem).1

theorem getActiveCounts_returns (hserves : env.Serves) (sessions : List VirtualDesktopSession) :
    Returns (getActiveCounts env sessions) s (withCounts env sessions) s := by
  rw [getActiveCounts]
  split
  · rename_i hempty
    obtain rfl := List.isEmpty_iff.mp hempty
    exact returns_pure.mpr ⟨rfl, rfl⟩
  · have hdone : env.raises (.countDcvConnections (sessions.map (·.dcvSessionId))) = none :=
      hserves.done (by simp)
    exact (perform_returns hdone).bind (returns_pure.mpr ⟨rfl, rfl⟩)

theorem returns_rebootDcvHosts (hserves : env.Serves) :
    Returns (rebootDcvHosts env sessions) s () s' ↔
      s' = s ∧ ∀ session ∈ sessions, session.instanceId.isSome := by
  have hdone : env.raises (.rebootInstances (instanceIds sessions)) = none :=
    hserves.done (by simp)
  rw [rebootDcvHosts]
  split
  · rename_i hempty
    obtain rfl := List.isEmpty_iff.mp hempty
    simp
  · rw [returns_bind]
    constructor
    · rintro ⟨_, s₁, hrequire, hreboot⟩
      obtain ⟨rfl, hall⟩ := returns_requireHosts.mp hrequire
      exact ⟨(returns_perform hdone).mp hreboot, hall⟩
    · rintro ⟨rfl, hall⟩
      exact ⟨(), s', returns_requireHosts.mpr ⟨rfl, hall⟩, perform_returns hdone⟩

def notRebootedKeys (env : Env config) (store : Store) (requests : List SessionRequest) :
    List SessionKey :=
  keysOf (notRebootable store requests) ++ keysOf (connectedToReboot env store requests)

theorem rebootSessions_reaches (hserves : env.Serves) (hfound : store.HasAll requests) :
    ∃ success failure s₁, keysOf success = keysOf (toReboot env store requests) ∧
      keysOf failure = notRebootedKeys env store requests ∧
      Writes (keysOf (toReboot env store requests)) store s₁ ∧
      ∀ outcome s', Returns (rebootSessions env requests) store outcome s' ↔
        (s' = s₁ ∧ ∀ session ∈ toReboot env store requests, session.instanceId.isSome) ∧
          outcome = (success, failure) := by
  have hask := asked_returns hserves hfound fun request session =>
    ({ session with force := request.force } : VirtualDesktopSession)
  have hcount := getActiveCounts_returns (s := store) hserves
    ((rebootAllowed store requests).filter (·.force ≠ some true))
  have hheld : ∀ session ∈ toReboot env store requests, store.Holds session.key := by
    intro session hsession
    have hallowed : session ∈ rebootAllowed store requests :=
      mem_rebootAllowed.mpr (.inl hsession)
    exact (reads_of_mem_askedToReboot (List.mem_filter.mp hallowed).1).held
  let kept := fun session : VirtualDesktopSession => (session.key, session.instanceId)
  obtain ⟨rebooted, s₁, hreboot, hkept, hwrites⟩ : ∃ rebooted s₁, Returns (Stateful.collect
      (fun session => SessionDB.update env { session with state := .RESUMING })
      (toReboot env store requests)) store rebooted s₁ ∧
      rebooted.map kept = (toReboot env store requests).map kept ∧
      Writes (keysOf (toReboot env store requests)) store s₁ := by
    refine collect_writes fun session hsession s₁ hs₁ => ?_
    obtain ⟨s₂, hupdate, hwrites⟩ := update_returns hserves { session with state := .RESUMING }
      (hs₁ _ (hheld session hsession))
    exact ⟨_, s₂, hupdate, Prod.ext rfl (instanceId_readSession _), hwrites⟩
  have hkeys : keysOf rebooted = keysOf (toReboot env store requests) := by
    have hfst := congrArg (List.map Prod.fst) hkept
    rwa [List.map_map, List.map_map] at hfst
  have hinstances : (∀ session ∈ rebooted, session.instanceId.isSome) ↔
      ∀ session ∈ toReboot env store requests, session.instanceId.isSome := by
    have hsnd := congrArg (List.map Prod.snd) hkept
    rw [List.map_map, List.map_map] at hsnd
    have hids : rebooted.map VirtualDesktopSession.instanceId =
      (toReboot env store requests).map VirtualDesktopSession.instanceId := hsnd
    have hall : ∀ sessions : List VirtualDesktopSession,
        (∀ session ∈ sessions, session.instanceId.isSome) ↔
          ∀ id ∈ sessions.map VirtualDesktopSession.instanceId, id.isSome := by
      intro sessions
      rw [List.forall_mem_map]
    rw [hall, hall, hids]
  let refusedSessions := (notRebootable store requests).map
    (refused · "Can't reboot. Wait for it to be READY or ERROR.")
  refine ⟨rebooted, refusedSessions ++ (connectedToReboot env store requests).map (connected env),
    s₁, hkeys, ?_, hwrites, fun outcome s' => ?_⟩
  · simp only [keysOf, notRebootedKeys, refusedSessions, List.map_append, List.map_map]
    rfl
  · rw [← hinstances, ← returns_rebootDcvHosts hserves]
    refine hask.bind_iff.trans (hcount.bind_iff.trans (hreboot.bind_iff.trans ?_))
    constructor
    · intro h
      obtain ⟨_, s₂, hhosts, hrest⟩ := returns_bind.mp h
      obtain ⟨rfl, rfl⟩ := returns_pure.mp hrest
      exact ⟨hhosts, rfl⟩
    · rintro ⟨hhosts, rfl⟩
      exact hhosts.bind (returns_pure.mpr ⟨rfl, rfl⟩)

theorem rebootSessions_endsWith (hserves : env.Serves) :
    EndsWith store requests (∀ session ∈ toReboot env store requests, session.instanceId.isSome)
      (keysOf (toReboot env store requests)) (notRebootedKeys env store requests)
      (rebootSessions env requests) := by
  constructor
  · intro outcome s' h
    obtain ⟨_, s₁, hask, _⟩ := returns_bind.mp h
    exact ((returns_collect_find hserves).mp hask).2.1
  · intro hfound
    obtain ⟨success, failure, s₁, _, _, _, hreturns⟩ := rebootSessions_reaches hserves hfound
    simp only [hreturns]
    constructor
    · rintro ⟨_, s', ⟨_, hhosts⟩, _⟩
      exact hhosts
    · intro hhosts
      exact ⟨_, s₁, ⟨rfl, hhosts⟩, rfl⟩
  · intro hfound outcome s' h
    obtain ⟨success, failure, s₁, hsuccess, hfailure, hwrites, hreturns⟩ :=
      rebootSessions_reaches hserves hfound
    obtain ⟨⟨rfl, _⟩, rfl⟩ := (hreturns outcome s').mp h
    exact ⟨hsuccess, hfailure, hwrites.sessions⟩
  · intro key hkey
    have hmem : ∃ session ∈ askedToReboot store requests, session.key = key := by
      rcases List.mem_append.mp hkey with h | h
      · obtain ⟨session, hsession, rfl⟩ := List.mem_map.mp h
        exact ⟨session, (List.mem_filter.mp hsession).1, rfl⟩
      · obtain ⟨session, hsession, rfl⟩ := List.mem_map.mp h
        have hallowed := mem_rebootAllowed.mpr (.inr hsession)
        exact ⟨session, (List.mem_filter.mp hallowed).1, rfl⟩
    obtain ⟨session, hsession, rfl⟩ := hmem
    obtain ⟨request, hrequest, found, hfound, rfl⟩ := mem_askedToReboot.mp hsession
    exact ⟨request, hrequest, found, hfound, rfl⟩

structure RebootsAll (env : Env config) (store : Store) (requests : List SessionRequest) :
    Prop where
  found : store.HasAll requests
  hosts : ∀ session ∈ toReboot env store requests, session.instanceId.isSome
  /-- No session that is kept for its connections is also rebooted. -/
  apart : ∀ session ∈ connectedToReboot env store requests,
    session.key ∉ keysOf (toReboot env store requests)

theorem reboot_ne (hsession : session ∈ rebootAllowed store requests)
    (hother : other ∈ notRebootable store requests) : session.key ≠ other.key := by
  obtain ⟨hmem, hallowed⟩ := List.mem_filter.mp hsession
  obtain ⟨hmem', hnot⟩ := List.mem_filter.mp hother
  intro hkey
  have hstate :=
    ((reads_of_mem_askedToReboot hmem).same (reads_of_mem_askedToReboot hmem') hkey).2.1
  rw [rebootable, hstate] at hallowed
  rw [rebootable, hallowed] at hnot
  cases hnot

theorem rebootedKeys_or_not :
    (∀ request ∈ requests, ∀ session, store.requested request = some session →
        Xor (session.key ∈ keysOf (toReboot env store requests))
          (session.key ∈ notRebootedKeys env store requests)) ↔
      ∀ session ∈ connectedToReboot env store requests,
        session.key ∉ keysOf (toReboot env store requests) := by
  constructor
  · intro honce session hsession
    have hallowed := mem_rebootAllowed.mpr (.inr hsession)
    obtain ⟨request, hrequest, found, hfound, rfl⟩ :=
      mem_askedToReboot.mp (List.mem_filter.mp hallowed).1
    have hkept : found.key ∈ notRebootedKeys env store requests :=
      List.mem_append_right _ (List.mem_map.mpr ⟨_, hsession, rfl⟩)
    rcases honce request hrequest found hfound with ⟨_, hnot⟩ | ⟨_, hnot⟩
    · exact absurd hkept hnot
    · exact hnot
  · intro hapart request hrequest found hfound
    let session : VirtualDesktopSession := { found with force := request.force }
    have hmem : session ∈ askedToReboot store requests :=
      mem_askedToReboot.mpr ⟨request, hrequest, found, hfound, rfl⟩
    cases hallowed : rebootable session with
    | false =>
      have hsession : session ∈ notRebootable store requests :=
        List.mem_filter.mpr ⟨hmem, by rw [hallowed]; rfl⟩
      refine .inr ⟨List.mem_append_left _ (List.mem_map.mpr ⟨session, hsession, rfl⟩), fun h => ?_⟩
      obtain ⟨other, hother, hkey⟩ := List.mem_map.mp h
      exact reboot_ne (mem_rebootAllowed.mpr (.inl hother)) hsession hkey
    | true =>
      have hsession : session ∈ rebootAllowed store requests :=
        List.mem_filter.mpr ⟨hmem, hallowed⟩
      have hcase : session ∈ toReboot env store requests ∨
          session ∈ connectedToReboot env store requests := mem_rebootAllowed.mp hsession
      rcases hcase with hreboot | hkept
      · refine .inl ⟨List.mem_map.mpr ⟨session, hreboot, rfl⟩, fun h => ?_⟩
        rcases List.mem_append.mp h with h | h
        · obtain ⟨other, hother, hkey⟩ := List.mem_map.mp h
          exact reboot_ne hsession hother hkey.symm
        · obtain ⟨other, hother, hkey⟩ := List.mem_map.mp h
          exact hapart other hother (List.mem_map.mpr ⟨session, hreboot, hkey.symm⟩)
      · exact .inr ⟨List.mem_append_right _ (List.mem_map.mpr ⟨session, hkept, rfl⟩),
          hapart session hkept⟩

theorem accounted_rebootSessions_iff (hserves : env.Serves) :
    Accounted store requests (rebootSessions env requests) ↔ RebootsAll env store requests := by
  rw [(rebootSessions_endsWith hserves).accounted_iff, rebootedKeys_or_not]
  constructor
  · rintro ⟨hfound, hhosts, hapart⟩
    exact ⟨hfound, hhosts, hapart⟩
  · intro h
    exact ⟨h.found, h.hosts, h.apart⟩

def toTerminate (store : Store) (requests : List SessionRequest) : List VirtualDesktopSession :=
  (store.found requests).filter (!isStopped ·)

def toDeleteAtOnce (store : Store) (requests : List SessionRequest) :
    List VirtualDesktopSession :=
  (store.found requests).filter (isStopped ·)

def serverIds (sessions : List VirtualDesktopSession) : List (Option String) :=
  sessions.filterMap (·.server) |>.map (·.instanceId)

def terminatedKeys (env : Env config) (store : Store) (requests : List SessionRequest) :
    List SessionKey :=
  deletedKeys env (toTerminate store requests) ++ keysOf (toDeleteAtOnce store requests)

/-- What the sessions that are deleted at once need: their instances can be terminated, each is
requested once and their permissions are for somebody. -/
structure DeletableAtOnce (env : Env config) (store : Store)
    (sessions : List VirtualDesktopSession) : Prop where
  hosts : Terminable env store (serverIds sessions)
  distinct : (keysOf sessions).Nodup
  permissions : ∀ session ∈ sessions, PermissionsNamed env store session.ideaSessionId

theorem nonblank_of_mem_found (h : session ∈ store.found requests) :
    isEmptyString (some session.owner) = false ∧
      isEmptyString (some session.ideaSessionId) = false := by
  obtain ⟨request, _, hfound⟩ := mem_found.mp h
  exact (requested_eq_some hfound).2.1

theorem returns_terminateStopped (hserves : env.Serves)
    (hnonblank : ∀ session ∈ sessions, isEmptyString (some session.owner) = false ∧
      isEmptyString (some session.ideaSessionId) = false)
    (hheld : ∀ session ∈ sessions, s.Holds session.key) :
    (∀ deleted s', Returns (terminateStopped env sessions) s deleted s' →
        DeletableAtOnce env s sessions ∧ keysOf deleted = keysOf sessions ∧
          ∀ key ∉ keysOf sessions, s'.sessions.get? key = s.sessions.get? key) ∧
      (DeletableAtOnce env s sessions →
        ∃ deleted s', Returns (terminateStopped env sessions) s deleted s') := by
  rw [terminateStopped]
  constructor
  · intro deleted s' h
    obtain ⟨answer, s₁, hterminate, hdelete⟩ := returns_bind.mp h
    obtain ⟨hhosts, hsame⟩ := (returns_terminateDcvHosts hserves).1 answer s₁ hterminate
    obtain ⟨⟨hdistinct, hall⟩, hkeys, hothers⟩ :=
      (returns_collect_deleteSession hserves hnonblank).1 deleted s' hdelete
    refine ⟨⟨hhosts, hdistinct, fun session hsession => ?_⟩, hkeys, fun key hkey => ?_⟩
    · exact (permissionsNamed_congr hsame.permissions).mp (hall session hsession).2
    · rw [hothers key hkey, hsame.sessions]
  · intro h
    obtain ⟨answer, s₁, hterminate⟩ := (returns_terminateDcvHosts hserves).2 h.hosts
    have hsame := ((returns_terminateDcvHosts hserves).1 answer s₁ hterminate).2
    obtain ⟨deleted, s', hdelete⟩ := (returns_collect_deleteSession hserves hnonblank).2 h.distinct
      fun session hsession => by
        rw [Store.Holds, hsame.sessions]
        exact ⟨hheld session hsession,
          (permissionsNamed_congr hsame.permissions).mpr (h.permissions session hsession)⟩
    exact ⟨deleted, s', hterminate.bind hdelete⟩

theorem Writes.deletableAtOnce {keys : List SessionKey} (h : Writes keys s s') :
    DeletableAtOnce env s' sessions ↔ DeletableAtOnce env s sessions := by
  have hhosts : Terminable env s' (serverIds sessions) ↔ Terminable env s (serverIds sessions) := by
    simp only [Terminable, h.hasServer]
  have hnamed : ∀ id, PermissionsNamed env s' id ↔ PermissionsNamed env s id :=
    fun id => permissionsNamed_congr h.permissions
  constructor
  · intro h
    exact ⟨hhosts.mp h.hosts, h.distinct, fun session hsession =>
      (hnamed _).mp (h.permissions session hsession)⟩
  · intro h
    exact ⟨hhosts.mpr h.hosts, h.distinct, fun session hsession =>
      (hnamed _).mpr (h.permissions session hsession)⟩

theorem returns_findSessions (hserves : env.Serves) {out : List VirtualDesktopSession} :
    Returns (Stateful.collect (findSession env) requests) s out s' ↔
      s' = s ∧ s.HasAll requests ∧ out = s.found requests :=
  returns_collect_of_reads _ fun _ _ _ _ => returns_findSession hserves

theorem terminateSessions_reaches (hserves : env.Serves) (hsplits : env.Splits)
    (hfound : store.HasAll requests) :
    ∃ deleting failed s₁, keysOf deleting = deletedKeys env (toTerminate store requests) ∧
      keysOf failed = failedKeys env (toTerminate store requests) ∧
      Writes (deletedKeys env (toTerminate store requests)) store s₁ ∧
      ∀ outcome s', Returns (terminateSessions env requests) store outcome s' ↔
        ∃ deleted, Returns (terminateStopped env (toDeleteAtOnce store requests)) s₁ deleted s' ∧
          outcome = (deleting ++ deleted, failed) := by
  have hread : Returns (Stateful.collect (findSession env) requests) store
      (store.found requests) store := (returns_findSessions hserves).mpr ⟨rfl, hfound, rfl⟩
  have hanswer := deleteDcvSessions_returns (s := store) hserves hsplits
    (toTerminate store requests)
  have hheld : ∀ session ∈ toTerminate store requests, store.Holds session.key :=
    fun session hsession => (reads_of_mem_found (List.mem_filter.mp hsession).1).held
  obtain ⟨deleting, s₁, hmark, hkeys, hwrites⟩ :=
    collect_markForValidation hserves hsplits .DELETING hheld
  obtain ⟨failed, hfailed, hkeys'⟩ := failedSessions_returns hsplits (toTerminate store requests)
  refine ⟨deleting, failed, s₁, hkeys, hkeys', hwrites, fun outcome s' => ?_⟩
  refine hread.bind_iff.trans (hanswer.bind_iff.trans (hmark.bind_iff.trans ?_))
  constructor
  · intro h
    obtain ⟨deleted, s₂, hdeleted, hrest⟩ := returns_bind.mp h
    have hpair := (hfailed s₂).bind_iff.mp hrest
    obtain ⟨rfl, rfl⟩ := returns_pure.mp hpair
    exact ⟨deleted, hdeleted, rfl⟩
  · rintro ⟨deleted, hdeleted, rfl⟩
    exact hdeleted.bind ((hfailed s').bind (returns_pure.mpr ⟨rfl, rfl⟩))

theorem terminateSessions_endsWith (hserves : env.Serves) (hsplits : env.Splits) :
    EndsWith store requests (DeletableAtOnce env store (toDeleteAtOnce store requests))
      (terminatedKeys env store requests) (failedKeys env (toTerminate store requests))
      (terminateSessions env requests) := by
  have hnonblank := fun session (h : session ∈ toDeleteAtOnce store requests) =>
    nonblank_of_mem_found (List.mem_filter.mp h).1
  have hheld := fun session (h : session ∈ toDeleteAtOnce store requests) =>
    (reads_of_mem_found (List.mem_filter.mp h).1).held
  constructor
  · intro outcome s' h
    obtain ⟨_, s₁, hread, _⟩ := returns_bind.mp h
    exact ((returns_findSessions hserves).mp hread).2.1
  · intro hfound
    obtain ⟨deleting, failed, s₁, _, _, hwrites, hreturns⟩ :=
      terminateSessions_reaches hserves hsplits hfound
    obtain ⟨hnecessary, hsufficient⟩ := returns_terminateStopped hserves hnonblank
      fun session h => hwrites.held _ (hheld session h)
    simp only [hreturns, ← hwrites.deletableAtOnce]
    constructor
    · rintro ⟨_, s', deleted, hdeleted, _⟩
      exact (hnecessary deleted s' hdeleted).1
    · intro h
      obtain ⟨deleted, s', hdeleted⟩ := hsufficient h
      exact ⟨_, s', deleted, hdeleted, rfl⟩
  · intro hfound outcome s' h
    obtain ⟨deleting, failed, s₁, hdeleting, hfailed, hwrites, hreturns⟩ :=
      terminateSessions_reaches hserves hsplits hfound
    obtain ⟨deleted, hdeleted, rfl⟩ := (hreturns outcome s').mp h
    obtain ⟨_, hkeys, hothers⟩ := (returns_terminateStopped hserves hnonblank
      fun session h => hwrites.held _ (hheld session h)).1 deleted s' hdeleted
    refine ⟨?_, hfailed, fun key hkey => ?_⟩
    · rw [terminatedKeys, ← hdeleting, ← hkeys, keysOf, List.map_append]
      rfl
    · rw [terminatedKeys, List.mem_append, not_or] at hkey
      rw [hothers key hkey.2, hwrites.sessions key hkey.1]
  · intro key hkey
    obtain ⟨session, hsession, rfl⟩ := key_of_mem_brokerKeys hsplits (.inr hkey)
    obtain ⟨request, hrequest, hfound⟩ := mem_found.mp (List.mem_filter.mp hsession).1
    exact ⟨request, hrequest, session, hfound, rfl⟩

structure TerminatesAll (env : Env config) (store : Store) (requests : List SessionRequest) :
    Prop where
  found : store.HasAll requests
  deletable : DeletableAtOnce env store (toDeleteAtOnce store requests)
  /-- The map of the DCV sessions has each session. -/
  mapped : ∀ session ∈ toTerminate store requests,
    lastDcvKey (toTerminate store requests) session.dcvSessionId = session.key

theorem terminate_ne (hsession : session ∈ toDeleteAtOnce store requests)
    (hother : other ∈ toTerminate store requests) : session.key ≠ other.key := by
  obtain ⟨hmem, hstopped⟩ := List.mem_filter.mp hsession
  obtain ⟨hmem', hnot⟩ := List.mem_filter.mp hother
  intro hkey
  obtain ⟨hdcv, hstate, _⟩ := (reads_of_mem_found hmem).same (reads_of_mem_found hmem') hkey
  rw [isStopped, hdcv, hstate] at hstopped
  rw [isStopped, hstopped] at hnot
  cases hnot

theorem terminatedKeys_or_not (hsplits : env.Splits) :
    (∀ request ∈ requests, ∀ session, store.requested request = some session →
        Xor (session.key ∈ terminatedKeys env store requests)
          (session.key ∈ failedKeys env (toTerminate store requests))) ↔
      ∀ session ∈ toTerminate store requests,
        lastDcvKey (toTerminate store requests) session.dcvSessionId = session.key := by
  have hbroker := fun session (hsession : session ∈ toTerminate store requests) =>
    broker_accounts (s := store) hsplits (fun session hsession =>
      reads_of_mem_found (List.mem_filter.mp hsession).1) hsession
  have hnotDirect : ∀ session ∈ toTerminate store requests,
      session.key ∉ keysOf (toDeleteAtOnce store requests) := by
    intro session hsession h
    obtain ⟨other, hother, hkey⟩ := List.mem_map.mp h
    exact terminate_ne hother hsession hkey
  constructor
  · intro honce session hsession
    obtain ⟨request, hrequest, hfound⟩ := mem_found.mp (List.mem_filter.mp hsession).1
    have hanswered := (honce request hrequest session hfound).or
    rw [terminatedKeys, List.mem_append, or_iff_left (hnotDirect session hsession)] at hanswered
    exact (hbroker session hsession).1.mp hanswered
  · intro hmapped request hrequest session hfound
    have hmem := mem_found.mpr ⟨request, hrequest, hfound⟩
    rw [terminatedKeys, List.mem_append]
    cases hstopped : isStopped session with
    | true =>
      have hsession : session ∈ toDeleteAtOnce store requests :=
        List.mem_filter.mpr ⟨hmem, hstopped⟩
      refine .inl ⟨.inr (List.mem_map_of_mem hsession), fun h => ?_⟩
      obtain ⟨other, hother, hkey⟩ := key_of_mem_brokerKeys hsplits (.inr h)
      exact terminate_ne hsession hother hkey.symm
    | false =>
      have hsession : session ∈ toTerminate store requests :=
        List.mem_filter.mpr ⟨hmem, by rw [hstopped]; rfl⟩
      obtain ⟨hanswered, hdisjoint⟩ := hbroker session hsession
      rw [or_iff_left (hnotDirect session hsession)]
      rcases hanswered.mpr (hmapped session hsession) with hdeleted | hfailed
      · exact .inl ⟨hdeleted, hdisjoint hdeleted⟩
      · exact .inr ⟨hfailed, fun hdeleted => hdisjoint hdeleted hfailed⟩

theorem accounted_terminateSessions_iff (hserves : env.Serves) (hsplits : env.Splits) :
    Accounted store requests (terminateSessions env requests) ↔
      TerminatesAll env store requests := by
  rw [(terminateSessions_endsWith hserves hsplits).accounted_iff, terminatedKeys_or_not hsplits]
  constructor
  · rintro ⟨hfound, hdeletable, hmapped⟩
    exact ⟨hfound, hdeletable, hmapped⟩
  · intro h
    exact ⟨h.found, h.deletable, h.mapped⟩

/-- The exact conditions under which the operations on many sessions end normally, answer each
request once and leave the sessions they fail for as they are. -/
theorem operations_account_iff (hserves : env.Serves) (hsplits : env.Splits) :
    (Accounted store requests (stopSessions env requests) ↔ StopsAll env store requests) ∧
    (Accounted store requests (resumeSessions env requests) ↔ ResumesAll store requests) ∧
    (Accounted store requests (rebootSessions env requests) ↔ RebootsAll env store requests) ∧
    (Accounted store requests (terminateSessions env requests) ↔
      TerminatesAll env store requests) :=
  ⟨accounted_stopSessions_iff hserves hsplits, accounted_resumeSessions_iff hserves,
    accounted_rebootSessions_iff hserves, accounted_terminateSessions_iff hserves hsplits⟩

theorem untroubled_serves : (Env.untroubled config).Serves :=
  fun _ _ h => nomatch h

theorem untroubled_splits : (Env.untroubled config).Splits := by
  intro ids
  simp [Env.untroubled]

def readyDesktop : VirtualDesktopSession :=
  { newDesktop.entry newDesktop.server (getEmptySchedule ∘ some) with
    state := .READY
    dcvSessionId := some "dcv-1" }

def readyStore : Store :=
  { Store.empty with sessions := Dict.empty.set readyDesktop.key readyDesktop }

def readyRequest : SessionRequest := ⟨some "ada", some "session-1", none⟩

theorem readyStore_hasAll : readyStore.HasAll [readyRequest] := by
  intro request hrequest
  obtain rfl := List.mem_singleton.mp hrequest
  decide +kernel

theorem operations_account_readyDesktop :
    Accounted readyStore [readyRequest]
        (stopSessions (Env.untroubled controllerConfig) [readyRequest]) ∧
      Accounted readyStore [readyRequest]
        (terminateSessions (Env.untroubled controllerConfig) [readyRequest]) := by
  obtain ⟨hstop, _, _, hterminate⟩ :=
    @operations_account_iff _ (Env.untroubled controllerConfig) readyStore [readyRequest]
      untroubled_serves untroubled_splits
  have hnone : toStopDirectly readyStore [readyRequest] = [] :=
    List.isEmpty_iff.mp (by decide +kernel)
  have hnone' : toDeleteAtOnce readyStore [readyRequest] = [] :=
    List.isEmpty_iff.mp (by decide +kernel)
  refine ⟨hstop.mpr ⟨readyStore_hasAll, ?_, by decide +kernel, by decide +kernel⟩,
    hterminate.mpr ⟨readyStore_hasAll, ?_, by decide +kernel⟩⟩
  · rw [hnone]
    exact fun _ h => absurd h List.not_mem_nil
  · rw [hnone']
    exact ⟨fun _ => ⟨List.nodup_nil, fun _ h => absurd h List.not_mem_nil⟩, List.nodup_nil,
      fun _ h => absurd h List.not_mem_nil⟩

/-- A request for a session that is not there makes every operation raise. -/
theorem missing_session_raises :
    ¬ Accounted Store.empty [readyRequest]
        (stopSessions (Env.untroubled controllerConfig) [readyRequest]) ∧
      ¬ Accounted Store.empty [readyRequest]
        (resumeSessions (Env.untroubled controllerConfig) [readyRequest]) ∧
      ¬ Accounted Store.empty [readyRequest]
        (rebootSessions (Env.untroubled controllerConfig) [readyRequest]) ∧
      ¬ Accounted Store.empty [readyRequest]
        (terminateSessions (Env.untroubled controllerConfig) [readyRequest]) := by
  have hmissing : ¬ Store.empty.HasAll [readyRequest] := fun h =>
    absurd (h readyRequest (List.mem_singleton_self _)) (by decide +kernel)
  refine ⟨?_, ?_, ?_, ?_⟩
  · rw [accounted_stopSessions_iff untroubled_serves untroubled_splits]
    exact fun h => hmissing h.found
  · rw [accounted_resumeSessions_iff untroubled_serves]
    exact fun h => hmissing h.found
  · rw [accounted_rebootSessions_iff untroubled_serves]
    exact fun h => hmissing h.found
  · rw [accounted_terminateSessions_iff untroubled_serves untroubled_splits]
    exact fun h => hmissing h.found

end Idea.VirtualDesktop.Controller

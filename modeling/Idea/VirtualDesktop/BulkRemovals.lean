import Idea.VirtualDesktop.BulkOperations

/-! # How the removal of sessions ends

A removal misses what is not there: an instance or a session that was removed before, and a
permission that is stored for nobody. Nothing else keeps it from ending normally while the calls
are done.
-/

namespace Idea.VirtualDesktop.Controller

open Stateful (Returns returns_bind returns_pure returns_collect_cons returns_collect_nil
  returns_forEach_cons)

variable {config : Config} {env : Env config} {s s' : Store}

structure SameEntries (s s' : Store) : Prop where
  sessions : s'.sessions = s.sessions
  permissions : s'.permissions = s.permissions

theorem SameEntries.refl (s : Store) : SameEntries s s := ⟨rfl, rfl⟩

theorem SameEntries.trans {s₁ s₂ s₃ : Store} (h : SameEntries s₁ s₂) (h' : SameEntries s₂ s₃) :
    SameEntries s₁ s₃ :=
  ⟨h'.sessions.trans h.sessions, h'.permissions.trans h.permissions⟩

theorem sameEntries_send (event : QueuedEvent) : SameEntries s (s.send env event) := by
  unfold Store.send
  split
  · exact .refl s
  · exact ⟨rfl, rfl⟩

theorem returns_removeServer (hserves : env.Serves) {instanceId : Option String} :
    Returns (removeServer env instanceId) s () s' ↔
      ∃ key, instanceId = some key ∧ isEmptyString (some key) = false ∧
        (s.servers.get? key).isSome ∧ s' = (s.after env (.deleteServer key)).send env
          (entryEvent config .DB_ENTRY_DELETED_EVENT .servers key "") := by
  rw [removeServer, returns_bind]
  constructor
  · rintro ⟨_, s₁, hget, hdelete⟩
    obtain ⟨rfl, key, rfl, hempty, _⟩ := (returns_getServer hserves).mp hget
    have hdone : env.raises (.deleteServer key) = none := hserves.done (by simp)
    have hpublish : ∀ event, env.raises (.publish event) = none :=
      fun event => hserves.done (by simp)
    rw [ServerDB.delete, if_neg (by simp [hempty]), Stateful.returns_get_bind,
      (perform_returns hdone).bind_iff] at hdelete
    split at hdelete
    · exact absurd hdelete Stateful.returns_raise
    · rename_i hsome
      refine ⟨key, rfl, hempty, ?_, (returns_perform (hpublish _)).mp hdelete⟩
      simpa [Option.isSome_iff_ne_none] using hsome
  · rintro ⟨key, rfl, hempty, hsome, rfl⟩
    have hdone : env.raises (.deleteServer key) = none := hserves.done (by simp)
    have hpublish : ∀ event, env.raises (.publish event) = none :=
      fun event => hserves.done (by simp)
    refine ⟨_, s, (returns_getServer hserves).mpr ⟨rfl, key, rfl, hempty, rfl⟩, ?_⟩
    rw [ServerDB.delete, if_neg (by simp [hempty]), Stateful.returns_get_bind,
      (perform_returns hdone).bind_iff, if_neg (by simpa [Option.isSome_iff_ne_none] using hsome)]
    exact perform_returns (hpublish _)

theorem hasServer_send {event : QueuedEvent} {instanceId : Option String} :
    (s.send env event).HasServer instanceId ↔ s.HasServer instanceId :=
  (sameHosts_send event).hosts instanceId

theorem hasServer_deleteServer {key : String} {instanceId : Option String} :
    (s.after env (.deleteServer key)).HasServer instanceId ↔
      s.HasServer instanceId ∧ instanceId ≠ some key := by
  simp only [Store.HasServer, Store.after, Dict.get?_erase]
  constructor
  · rintro ⟨key', rfl, hempty, hsome⟩
    split at hsome
    · cases hsome
    · rename_i hne
      exact ⟨⟨key', rfl, hempty, hsome⟩, fun h => hne (Option.some.inj h)⟩
  · rintro ⟨⟨key', rfl, hempty, hsome⟩, hne⟩
    refine ⟨key', rfl, hempty, ?_⟩
    rwa [if_neg fun h => hne (congrArg some h)]

theorem returns_forEach_removeServer (hserves : env.Serves) {instanceIds : List (Option String)} :
    (∀ s', Returns (Stateful.forEach (removeServer env) instanceIds) s () s' →
        (instanceIds.Nodup ∧ ∀ id ∈ instanceIds, s.HasServer id) ∧ SameEntries s s') ∧
      (instanceIds.Nodup → (∀ id ∈ instanceIds, s.HasServer id) →
        ∃ s', Returns (Stateful.forEach (removeServer env) instanceIds) s () s') := by
  induction instanceIds generalizing s with
  | nil =>
    constructor
    · intro s' h
      obtain ⟨_, rfl⟩ := returns_pure.mp h
      exact ⟨⟨List.nodup_nil, fun _ h => absurd h List.not_mem_nil⟩, .refl _⟩
    · intro _ _
      exact ⟨s, returns_pure.mpr ⟨rfl, rfl⟩⟩
  | cons instanceId instanceIds ih =>
    simp only [returns_forEach_cons, List.forall_mem_cons, List.nodup_cons]
    constructor
    · rintro s' ⟨s₁, hfirst, hrest⟩
      obtain ⟨key, rfl, hempty, hsome, rfl⟩ := (returns_removeServer hserves).mp hfirst
      obtain ⟨⟨hnodup, hall⟩, hsame⟩ := ih.1 s' hrest
      simp only [hasServer_send, hasServer_deleteServer] at hall
      refine ⟨⟨⟨fun hmem => (hall _ hmem).2 rfl, hnodup⟩, ⟨key, rfl, hempty, hsome⟩,
        fun id hid => (hall id hid).1⟩, ?_⟩
      have hdelete : SameEntries s (s.after env (.deleteServer key)) := ⟨rfl, rfl⟩
      exact (hdelete.trans (sameEntries_send _)).trans hsame
    · rintro ⟨hnotMem, hnodup⟩ ⟨⟨key, rfl, hempty, hsome⟩, hall⟩
      obtain ⟨s', hrest⟩ : ∃ s', Returns (Stateful.forEach (removeServer env) instanceIds)
          ((s.after env (.deleteServer key)).send env
            (entryEvent config .DB_ENTRY_DELETED_EVENT .servers key "")) () s' := by
        refine ih.2 hnodup fun id hid => ?_
        rw [hasServer_send, hasServer_deleteServer]
        exact ⟨hall id hid, fun h => hnotMem (h ▸ hid)⟩
      exact ⟨s', _, (returns_removeServer hserves).mpr ⟨key, rfl, hempty, hsome, rfl⟩, hrest⟩

/-- If instances are terminated then each of them has an entry and is named once. -/
def Terminable (env : Env config) (s : Store) (instanceIds : List (Option String)) : Prop :=
  env.raises (.terminateInstances instanceIds) = none →
    instanceIds.Nodup ∧ ∀ id ∈ instanceIds, s.HasServer id

theorem returns_terminateDcvHosts (hserves : env.Serves) {instanceIds : List (Option String)} :
    (∀ answer s', Returns (terminateDcvHosts env instanceIds) s answer s' →
        Terminable env s instanceIds ∧ SameEntries s s') ∧
      (Terminable env s instanceIds →
        ∃ answer s', Returns (terminateDcvHosts env instanceIds) s answer s') := by
  rw [terminateDcvHosts]
  split
  · rename_i hempty
    obtain rfl := List.isEmpty_iff.mp hempty
    constructor
    · intro answer s' h
      obtain ⟨_, rfl⟩ := returns_pure.mp h
      exact ⟨fun _ => ⟨List.nodup_nil, fun _ h => absurd h List.not_mem_nil⟩, .refl _⟩
    · intro _
      exact ⟨none, s, returns_pure.mpr ⟨rfl, rfl⟩⟩
  · obtain ⟨answer, hanswer, hnone⟩ := performOrAnswer_returns (s := s) fun e he =>
      (hserves (.terminateInstances instanceIds) e he).1
    simp only [hanswer.bind_iff]
    cases answer with
    | some text =>
      have hrefused : env.raises (.terminateInstances instanceIds) ≠ none :=
        fun h => by simpa using hnone.mpr h
      constructor
      · intro answer s' h
        obtain ⟨_, rfl⟩ := returns_pure.mp h
        exact ⟨fun h => absurd h hrefused, .refl _⟩
      · intro _
        exact ⟨_, _, returns_pure.mpr ⟨rfl, rfl⟩⟩
    | none =>
      have hdone := hnone.mp rfl
      constructor
      · intro answer s' h
        obtain ⟨_, s₁, hloop, hrest⟩ := returns_bind.mp h
        obtain ⟨_, rfl⟩ := returns_pure.mp hrest
        obtain ⟨hall, hsame⟩ := (returns_forEach_removeServer hserves).1 _ hloop
        exact ⟨fun _ => hall, hsame.sessions, hsame.permissions⟩
      · intro hall
        obtain ⟨s', hloop⟩ : ∃ s', Returns (Stateful.forEach (removeServer env) instanceIds)
            (s.after env (.terminateInstances instanceIds)) () s' :=
          (returns_forEach_removeServer hserves).2 (hall hdone).1 (hall hdone).2
        exact ⟨none, s', hloop.bind (returns_pure.mpr ⟨rfl, rfl⟩)⟩

theorem deleteSchedule_returns (hserves : env.Serves) (schedule : VirtualDesktopSchedule) :
    ∃ s', Returns (deleteSchedule env schedule) s () s' ∧ SameEntries s s' := by
  unfold deleteSchedule
  cases scheduleKey schedule with
  | none => exact ⟨s, returns_pure.mpr ⟨rfl, rfl⟩, .refl s⟩
  | some key =>
    have hdone : env.raises (.deleteSchedule key) = none := hserves.done (by simp)
    have hpublish : ∀ event, env.raises (.publish event) = none :=
      fun event => hserves.done (by simp)
    have hdelete : SameEntries s (s.after env (.deleteSchedule key)) := ⟨rfl, rfl⟩
    simp only [Stateful.returns_get_bind, (perform_returns hdone).bind_iff]
    split
    · exact ⟨_, returns_pure.mpr ⟨rfl, rfl⟩, hdelete⟩
    · exact ⟨_, perform_returns (hpublish _), hdelete.trans (sameEntries_send _)⟩

theorem deleteSchedulesForSession_returns (hserves : env.Serves) (session : VirtualDesktopSession) :
    ∃ s', Returns (deleteSchedulesForSession env session) s () s' ∧ SameEntries s s' := by
  rw [deleteSchedulesForSession]
  induction DayOfWeek.all generalizing s with
  | nil => exact ⟨s, returns_pure.mpr ⟨rfl, rfl⟩, .refl s⟩
  | cons day days ih =>
    obtain ⟨s₁, hfirst, hsame⟩ := deleteSchedule_returns hserves (s := s) (session.schedule day)
    obtain ⟨s', hrest, hsame'⟩ := ih (s := s₁)
    exact ⟨s', returns_forEach_cons.mpr ⟨s₁, hfirst, hrest⟩, hsame.trans hsame'⟩

theorem returns_deletePermission (hserves : env.Serves) {key : String × String} :
    Returns (PermissionDB.delete env key) s () s' ↔
      (isEmptyString (some key.1) = false ∧ isEmptyString (some key.2) = false) ∧
        key ∈ s.permissions.keys ∧ s' = (s.after env (.deletePermission key)).send env
          (entryEvent config .DB_ENTRY_DELETED_EVENT .sessionPermissions key.1 key.2) := by
  have hdone : env.raises (.deletePermission key) = none := hserves.done (by simp)
  have hpublish : ∀ event, env.raises (.publish event) = none :=
    fun event => hserves.done (by simp)
  rw [PermissionDB.delete]
  split
  · rename_i hblank
    simp only [Bool.or_eq_true] at hblank
    rcases hblank with h | h <;> simp [h]
  · rename_i hnamed
    simp only [Bool.or_eq_true, not_or, Bool.not_eq_true] at hnamed
    rw [Stateful.returns_get_bind, (perform_returns hdone).bind_iff]
    cases hget : s.permissions.get? key with
    | none =>
      have hkey : key ∉ s.permissions.keys := Dict.get?_eq_none.mp hget
      simp [hkey]
    | some permission =>
      rw [if_neg (by simp), triggerDeleteEvent, returns_perform (hpublish _)]
      simp [hnamed, Dict.mem_keys_of_get? hget, Store.after]

theorem keys_permissions_send {event : QueuedEvent} :
    (s.send env event).permissions.keys = s.permissions.keys :=
  congrArg Dict.keys (sameEntries_send event).permissions

theorem returns_forEach_deletePermission (hserves : env.Serves) {keys : List (String × String)} :
    (∀ s', Returns (Stateful.forEach (PermissionDB.delete env) keys) s () s' →
        (∀ key ∈ keys, isEmptyString (some key.2) = false) ∧ s'.sessions = s.sessions ∧
          ∀ key, key ∈ s'.permissions.keys ↔ key ∈ s.permissions.keys ∧ key ∉ keys) ∧
      (keys.Nodup → (∀ key ∈ keys, (isEmptyString (some key.1) = false ∧
          isEmptyString (some key.2) = false) ∧ key ∈ s.permissions.keys) →
        ∃ s', Returns (Stateful.forEach (PermissionDB.delete env) keys) s () s') := by
  induction keys generalizing s with
  | nil =>
    constructor
    · intro s' h
      obtain ⟨_, rfl⟩ := returns_pure.mp h
      simp
    · intro _ _
      exact ⟨s, returns_pure.mpr ⟨rfl, rfl⟩⟩
  | cons key keys ih =>
    simp only [returns_forEach_cons, List.forall_mem_cons, List.nodup_cons]
    constructor
    · rintro s' ⟨s₁, hfirst, hrest⟩
      obtain ⟨hnamed, _, rfl⟩ := (returns_deletePermission hserves).mp hfirst
      obtain ⟨hall, hsessions, hkeys⟩ := ih.1 s' hrest
      refine ⟨⟨hnamed.2, hall⟩, hsessions.trans (sameEntries_send _).sessions, fun key' => ?_⟩
      rw [hkeys, keys_permissions_send, List.mem_cons, not_or, ← and_assoc]
      exact and_congr_left fun _ => Dict.mem_keys_erase
    · rintro ⟨hnotMem, hnodup⟩ ⟨⟨hnamed, hkey⟩, hall⟩
      let s₁ := (s.after env (.deletePermission key)).send env
        (entryEvent config .DB_ENTRY_DELETED_EVENT .sessionPermissions key.1 key.2)
      have hrest : ∀ key' ∈ keys, key' ∈ s₁.permissions.keys := by
        intro key' hkey'
        rw [keys_permissions_send]
        exact Dict.mem_keys_erase.mpr ⟨(hall key' hkey').2, fun h => hnotMem (h ▸ hkey')⟩
      obtain ⟨s', hloop⟩ := ih.2 hnodup fun key' hkey' => ⟨(hall key' hkey').1, hrest key' hkey'⟩
      exact ⟨s', s₁, (returns_deletePermission hserves).mpr ⟨hnamed, hkey, rfl⟩, hloop⟩

def PermissionsNamed (env : Env config) (s : Store) (ideaSessionId : String) : Prop :=
  env.queriesPermissions = true → ∀ actorName, (ideaSessionId, actorName) ∈ s.permissions.keys →
    isEmptyString (some actorName) = false

theorem permissionsNamed_congr {ideaSessionId : String} (h : s'.permissions = s.permissions) :
    PermissionsNamed env s' ideaSessionId ↔ PermissionsNamed env s ideaSessionId := by
  rw [PermissionsNamed, PermissionsNamed, h]

theorem returns_deletePermissionsForSession (hserves : env.Serves) {session : VirtualDesktopSession}
    (hid : isEmptyString (some session.ideaSessionId) = false) :
    (∀ s', Returns (deletePermissionsForSession env session) s () s' →
        PermissionsNamed env s session.ideaSessionId ∧ s'.sessions = s.sessions ∧
          ∀ id, PermissionsNamed env s' id ↔ PermissionsNamed env s id) ∧
      (PermissionsNamed env s session.ideaSessionId →
        ∃ s', Returns (deletePermissionsForSession env session) s () s') := by
  let keys := if env.queriesPermissions = true then
    s.permissions.keys.filter (·.1 = session.ideaSessionId) else []
  have hkeys : Returns (PermissionDB.getForSession env session.ideaSessionId) s keys s :=
    returns_pure.mpr ⟨rfl, rfl⟩
  simp only [deletePermissionsForSession, hkeys.bind_iff]
  constructor
  · intro s' h
    obtain ⟨hnamed, hsessions, hrest⟩ := (returns_forEach_deletePermission hserves).1 s' h
    have hown : PermissionsNamed env s session.ideaSessionId := by
      intro hquery actorName hmem
      refine hnamed (session.ideaSessionId, actorName) ?_
      simp [keys, hquery, hmem]
    refine ⟨hown, hsessions, fun id => ⟨fun h hquery actorName hmem => ?_, fun h hquery actorName
      hmem => h hquery actorName ((hrest _).mp hmem).1⟩⟩
    by_cases hsame : id = session.ideaSessionId
    · exact hown hquery actorName (hsame ▸ hmem)
    · refine h hquery actorName ((hrest _).mpr ⟨hmem, ?_⟩)
      simp [keys, hsame]
  · intro hnamed
    refine (returns_forEach_deletePermission hserves).2 ?_ ?_
    · unfold keys
      split
      · exact (Dict.nodup_keys _).filter _
      · exact List.nodup_nil
    · intro key hkey
      unfold keys at hkey
      split at hkey
      · rename_i hquery
        obtain ⟨hmem, howner⟩ := List.mem_filter.mp hkey
        rw [decide_eq_true_eq] at howner
        exact ⟨⟨by rw [howner]; exact hid, hnamed hquery key.2 (howner ▸ hmem)⟩, hmem⟩
      · exact absurd hkey List.not_mem_nil

theorem returns_deleteSession (hserves : env.Serves) {session : VirtualDesktopSession}
    (howner : isEmptyString (some session.owner) = false)
    (hid : isEmptyString (some session.ideaSessionId) = false) :
    (∀ deleted s', Returns (deleteSession env session) s deleted s' →
        (s.Holds session.key ∧ PermissionsNamed env s session.ideaSessionId) ∧
          deleted.key = session.key ∧
          (∀ key, s'.sessions.get? key =
            if key = session.key then none else s.sessions.get? key) ∧
          ∀ id, PermissionsNamed env s' id ↔ PermissionsNamed env s id) ∧
      (s.Holds session.key → PermissionsNamed env s session.ideaSessionId →
        ∃ deleted s', Returns (deleteSession env session) s deleted s') := by
  obtain ⟨s₁, hschedules, hsame⟩ := deleteSchedulesForSession_returns hserves (s := s) session
  have hnamed : ∀ id, PermissionsNamed env s₁ id ↔ PermissionsNamed env s id :=
    fun id => permissionsNamed_congr hsame.permissions
  have hdone : env.raises (.deleteSession session.key) = none := hserves.done (by simp)
  have hpublish : ∀ event, env.raises (.publish event) = none :=
    fun event => hserves.done (by simp)
  obtain ⟨hnecessary, hsufficient⟩ := returns_deletePermissionsForSession hserves (s := s₁) hid
  simp only [deleteSession, hschedules.bind_iff]
  constructor
  · intro deleted s' h
    obtain ⟨_, s₂, hpermissions, h⟩ := returns_bind.mp h
    obtain ⟨hown, hsessions, hids⟩ := hnecessary s₂ hpermissions
    obtain ⟨_, s₃, hdelete, h⟩ := returns_bind.mp h
    obtain ⟨rfl, rfl⟩ := returns_pure.mp h
    rw [SessionDB.delete, if_neg (by simp [howner, hid]), Stateful.returns_get_bind,
      (perform_returns hdone).bind_iff] at hdelete
    split at hdelete
    · exact absurd hdelete Stateful.returns_raise
    · rename_i hheld
      obtain rfl := (returns_perform (hpublish _)).mp hdelete
      have hstays : s₂.sessions = s.sessions := hsessions.trans hsame.sessions
      refine ⟨⟨?_, (hnamed _).mp hown⟩, rfl, fun key => ?_, fun id => ?_⟩
      · rw [Store.Holds, ← hstays]
        exact holds_iff.mpr hheld
      · rw [← hstays]
        exact (congrArg (Dict.get? · key) (sameEntries_send _).sessions).trans
          (Dict.get?_erase _ _ _)
      · rw [← hnamed, ← hids]
        exact permissionsNamed_congr (sameEntries_send _).permissions
  · intro hheld hown
    obtain ⟨s₂, hpermissions⟩ := hsufficient ((hnamed _).mpr hown)
    have hstays : s₂.sessions = s.sessions :=
      (hnecessary s₂ hpermissions).2.1.trans hsame.sessions
    have hdelete : Returns (SessionDB.delete env session) s₂ () ((s₂.after env
        (.deleteSession session.key)).send env (entryEvent config .DB_ENTRY_DELETED_EVENT .sessions
          session.owner session.ideaSessionId)) := by
      rw [SessionDB.delete, if_neg (by simp [howner, hid]), Stateful.returns_get_bind,
        (perform_returns hdone).bind_iff, hstays,
        if_neg (holds_iff.mp hheld)]
      exact perform_returns (hpublish _)
    exact ⟨_, _, hpermissions.bind (hdelete.bind (returns_pure.mpr ⟨rfl, rfl⟩))⟩

theorem returns_collect_deleteSession (hserves : env.Serves) {sessions : List VirtualDesktopSession}
    (hkeys : ∀ session ∈ sessions, isEmptyString (some session.owner) = false ∧
      isEmptyString (some session.ideaSessionId) = false) :
    (∀ deleted s', Returns (Stateful.collect (deleteSession env) sessions) s deleted s' →
        ((sessions.map VirtualDesktopSession.key).Nodup ∧ ∀ session ∈ sessions,
          s.Holds session.key ∧ PermissionsNamed env s session.ideaSessionId) ∧
        deleted.map VirtualDesktopSession.key = sessions.map VirtualDesktopSession.key ∧
        ∀ key ∉ sessions.map VirtualDesktopSession.key,
          s'.sessions.get? key = s.sessions.get? key) ∧
      ((sessions.map VirtualDesktopSession.key).Nodup →
        (∀ session ∈ sessions, s.Holds session.key ∧
          PermissionsNamed env s session.ideaSessionId) →
        ∃ deleted s', Returns (Stateful.collect (deleteSession env) sessions) s deleted s') := by
  induction sessions generalizing s with
  | nil =>
    constructor
    · intro deleted s' h
      obtain ⟨rfl, rfl⟩ := returns_collect_nil.mp h
      simp
    · intro _ _
      exact ⟨[], s, returns_collect_nil.mpr ⟨rfl, rfl⟩⟩
  | cons session sessions ih =>
    rw [List.forall_mem_cons] at hkeys
    obtain ⟨hnecessary, hsufficient⟩ := returns_deleteSession hserves (s := s) hkeys.1.1 hkeys.1.2
    simp only [returns_collect_cons, List.forall_mem_cons, List.map_cons, List.nodup_cons]
    constructor
    · rintro deleted s' ⟨first, rest, s₁, hfirst, hrest, rfl⟩
      obtain ⟨hown, hkey, hget, hnamed⟩ := hnecessary first s₁ hfirst
      obtain ⟨⟨hnodup, hall⟩, hrestKeys, hothers⟩ := (ih hkeys.2).1 rest s' hrest
      have hne : ∀ other ∈ sessions, other.key ≠ session.key := by
        intro other hother heq
        have hheld := (hall other hother).1
        rw [Store.Holds, hget, if_pos heq] at hheld
        cases hheld
      refine ⟨⟨⟨fun hmem => ?_, hnodup⟩, hown, fun other hother => ?_⟩, ?_, fun key hkey' => ?_⟩
      · obtain ⟨other, hother, heq⟩ := List.mem_map.mp hmem
        exact hne other hother heq
      · have hheld := (hall other hother).1
        rw [Store.Holds, hget, if_neg (hne other hother)] at hheld
        exact ⟨hheld, (hnamed _).mp (hall other hother).2⟩
      · rw [List.map_cons, hkey, hrestKeys]
      · rw [List.mem_cons, not_or] at hkey'
        rw [hothers key hkey'.2, hget, if_neg hkey'.1]
    · rintro ⟨hnotMem, hnodup⟩ ⟨hown, hall⟩
      obtain ⟨first, s₁, hfirst⟩ := hsufficient hown.1 hown.2
      obtain ⟨_, _, hget, hnamed⟩ := hnecessary first s₁ hfirst
      obtain ⟨rest, s', hrest⟩ := (ih hkeys.2).2 hnodup fun other hother => by
        have hne : other.key ≠ session.key :=
          fun heq => hnotMem (List.mem_map.mpr ⟨other, hother, heq⟩)
        rw [Store.Holds, hget, if_neg hne]
        exact ⟨(hall other hother).1, (hnamed _).mpr (hall other hother).2⟩
      exact ⟨first :: rest, s', first, rest, s₁, hfirst, hrest, rfl⟩

end Idea.VirtualDesktop.Controller

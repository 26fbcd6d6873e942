import Idea.Accounts.Calls

/-! # Deleting a user again

When a deletion breaks off, it is started again. The second one goes through the same steps, some of
which have been done.
-/

namespace Idea.Accounts

open Program (Does Execution record)

/-- A call was made and carried out, whatever was answered. -/
def Carried (op : Op) (log : List (Op × CallOutcome Raised)) : Prop :=
  ∃ call ∈ log, call.1 = op ∧ ∀ e, call.2 ≠ .refused e

variable {op : Op} {log : List (Op × CallOutcome Raised)}

@[simp] theorem carried_append {call : Op × CallOutcome Raised} :
    Carried op (log ++ [call]) ↔ Carried op log ∨ call.1 = op ∧ ∀ e, call.2 ≠ .refused e := by
  simp [Carried, or_and_right, exists_or]

theorem not_carried_nil : ¬ Carried op [] := by
  simp [Carried]

/-- Neither the user nor the group is deleted yet. -/
structure Before (u : Username) (groupName : String) (I : Store → Prop) (r : Recorded) : Prop where
  store : I r.store
  group : ¬ Carried (.deleteGroup groupName) r.log
  user : ¬ Carried (.deleteUser u) r.log

variable {α : Type} {u : Username} {groupName : String} {lapses : Raised → Prop}
  {I J E : Store → Prop}

theorem Before.mono {r : Recorded} (h : Before u groupName I r) (hIJ : ∀ s, I s → J s) :
    Before u groupName J r :=
  ⟨hIJ _ h.store, h.group, h.user⟩

theorem Before.append {r : Recorded} {s : Store} {fate : CallOutcome Raised}
    (h : Before u groupName I r) (hgroup : op ≠ .deleteGroup groupName) (huser : op ≠ .deleteUser u)
    (hs : J s) : Before u groupName J ⟨s, r.log ++ [(op, fate)]⟩ :=
  ⟨hs, by simp [h.group, hgroup], by simp [h.user, huser]⟩

theorem does_ask_before {Q : Result op → Store → Prop} (hgroup : op ≠ .deleteGroup groupName)
    (huser : op ≠ .deleteUser u)
    (h : ∀ s a s', I s → serves op s a s' → E s ∧ ∃ v, a = .ok v ∧ Q v s' ∧ E s') :
    Does (record serves lapses) (Before u groupName I) (ask op) (fun v => Before u groupName (Q v))
      fun e r => lapses e ∧ Before u groupName E r := by
  refine .ask_record ?_ ?_ ?_ ?_
  · rintro r a s' hr hserves
    obtain ⟨-, v, ha, hQ, -⟩ := h _ _ _ hr.store hserves
    cases ha
    exact hr.append hgroup huser hQ
  · rintro r e s' hr hserves
    obtain ⟨-, v, ha, -⟩ := h _ _ _ hr.store hserves
    cases ha
  · rintro r e hr he
    refine ⟨he, hr.append hgroup huser ?_⟩
    obtain ⟨hE, -⟩ := h _ _ _ hr.store (serves_reply op r.store)
    exact hE
  · rintro r e a s' hr he hserves
    obtain ⟨-, -, -, -, hE⟩ := h _ _ _ hr.store hserves
    exact ⟨he, hr.append hgroup huser hE⟩

section Equations

variable {username : String}

theorem requireNonempty_eq {value message : String} (h : isEmptyString (some value) = false) :
    requireNonempty value message = pure () := by
  simp [requireNonempty, whenever, h]

theorem getUser_eq (h : sanitizeUsername username = .ok u) :
    UserDAO.getUser username = ask (.getUser u) := by
  simp only [UserDAO.getUser, h]
  rfl

theorem updateUser_eq (h : sanitizeUsername username = .ok u) (updates : UserUpdates) :
    UserDAO.updateUser username updates = ask (.updateUser u updates) := by
  simp only [UserDAO.updateUser, h]
  rfl

theorem deleteUser_eq (h : sanitizeUsername username = .ok u) :
    UserDAO.deleteUser username = ask (.deleteUser u) := by
  simp only [UserDAO.deleteUser, h]
  rfl

theorem getGroup_eq (h : isEmptyString (some groupName) = false) :
    GroupDAO.getGroup groupName = ask (.getGroup groupName) := by
  simp only [GroupDAO.getGroup, requireNonempty_eq h]
  rfl

theorem setEnabled_eq (h : isEmptyString (some groupName) = false) (enabled : Bool) :
    GroupDAO.setEnabled groupName enabled = ask (.setGroupEnabled groupName enabled) := by
  simp only [GroupDAO.setEnabled, requireNonempty_eq h]
  rfl

theorem deleteGroup_eq (h : isEmptyString (some groupName) = false) :
    GroupDAO.deleteGroup groupName = ask (.deleteGroup groupName) := by
  simp only [GroupDAO.deleteGroup, requireNonempty_eq h]
  rfl

theorem deleteMembership_eq (hu : sanitizeUsername username = .ok u)
    (h : isEmptyString (some groupName) = false) :
    GroupMembersDAO.deleteMembership groupName username = ask (.deleteMember groupName u) := by
  simp only [GroupMembersDAO.deleteMembership, hu, requireNonempty_eq h]
  rfl

theorem getUsernamesInGroup_eq (h : isEmptyString (some groupName) = false) :
    GroupMembersDAO.getUsernamesInGroup groupName = ask (.queryMembers groupName) := by
  simp only [GroupMembersDAO.getUsernamesInGroup, requireNonempty_eq h]
  rfl

theorem adminRemoveUserFromGroup_eq (hu : isEmptyString (some username) = false)
    (h : isEmptyString (some groupName) = false) :
    CognitoUserPool.adminRemoveUserFromGroup username groupName =
      ask (.adminRemoveUserFromGroup username groupName) := by
  simp only [CognitoUserPool.adminRemoveUserFromGroup, requireNonempty_eq hu, requireNonempty_eq h]
  rfl

theorem adminDisableUser_eq (hu : isEmptyString (some username) = false) :
    CognitoUserPool.adminDisableUser username = ask (.adminDisableUser username) := by
  simp only [CognitoUserPool.adminDisableUser, requireNonempty_eq hu]
  rfl

end Equations

/-- A group that a user can leave, if it exists and is enabled. -/
def Leavable (s : Store) (groupName : String) : Prop :=
  isEmptyString (some groupName) = false ∧ ∀ group, s.groups.get? groupName = some group →
    group.enabled = true → group.pooled = true → groupName ∈ s.pool.groups

/-- A stored user with a group of its own. The pool has the user and the groups that it leaves,
unless the user is disabled and leaves none. -/
structure Deletable (username : String) (u : Username) (fields : UserFields) (s : Store) : Prop where
  row : s.users.get? u = some fields
  personal : ∃ group, s.groups.get? fields.groupName = some group ∧ group.pooled = false
  entry : fields.enabled = true → ∃ entry, s.poolUser? username = some entry
  leavable : fields.enabled = true →
    ∀ g ∈ fields.additionalGroups.erase fields.groupName, Leavable s g

/-- Some fields of a user are such, and they name the group. -/
def Ready (username : String) (u : Username) (groupName : String) (s : Store) : Prop :=
  ∃ fields, fields.groupName = groupName ∧ Deletable username u fields s

def Disabled (username : String) (u : Username) (groupName : String) (s : Store) : Prop :=
  ∃ fields, fields.groupName = groupName ∧ fields.enabled = false ∧ Deletable username u fields s

variable {username : String} {fields : UserFields} {s s' : Store}

variable {group : Group}

namespace Deletable

theorem ready (h : Deletable username u fields s) : Ready username u fields.groupName s :=
  ⟨fields, rfl, h⟩

theorem congr (h : Deletable username u fields s) (husers : s'.users = s.users)
    (hgroups : s'.groups = s.groups) (hpool : s'.pool = s.pool) :
    Deletable username u fields s' := by
  obtain ⟨hrow, hpersonal, hentry, hleavable⟩ := h
  constructor
  · rwa [husers]
  · rwa [hgroups]
  · simpa only [Store.poolUser?, hpool] using hentry
  · simpa only [Leavable, hgroups, hpool] using hleavable

theorem setPoolUser (h : Deletable username u fields s) (name : String) (entry : PoolUser) :
    Deletable username u fields (s.setPoolUser name entry) := by
  refine ⟨h.row, h.personal, fun henabled => ?_, h.leavable⟩
  obtain ⟨entry', hentry'⟩ := h.entry henabled
  simp only [Store.setPoolUser, Store.poolUser?, Dict.get?_set]
  split
  · exact ⟨entry, rfl⟩
  · exact ⟨entry', hentry'⟩

theorem update (h : Deletable username u fields s) {updates : UserUpdates}
    (hleaves : ∀ l, updates.additionalGroups = some l → l.Sublist fields.additionalGroups)
    (hdisables : ∀ b, updates.enabled = some b → b = false) :
    Deletable username u (fields.update updates)
      { s with users := s.users.set u (fields.update updates) } := by
  have henabled : (fields.update updates).enabled = true → fields.enabled = true := by
    cases hb : updates.enabled with
    | none => simp [UserFields.update, hb]
    | some b => simp [UserFields.update, hb, hdisables b hb]
  refine ⟨by simp [Dict.get?_set], h.personal, fun he => h.entry (henabled he), fun he g hg => ?_⟩
  refine h.leavable (henabled he) g ?_
  cases hl : updates.additionalGroups with
  | none => simpa [UserFields.update, hl] using hg
  | some l =>
    simp only [UserFields.update, hl, Option.getD_some] at hg
    exact ((hleaves l hl).erase _).subset hg

theorem setUser (h : Deletable username u fields s) {v : Username} (hv : v ≠ u)
    (fields' : UserFields) : Deletable username u fields { s with users := s.users.set v fields' } :=
  ⟨(Dict.get?_set_ne _ hv.symm _).trans h.row, h.personal, h.entry, h.leavable⟩

theorem disableGroup (h : Deletable username u fields s) {groupName : String}
    (hgroup : s.groups.get? groupName = some group) :
    Deletable username u fields
      { s with groups := s.groups.set groupName { group with enabled := false } } := by
  obtain ⟨personal, hpersonal, hpooled⟩ := h.personal
  refine ⟨h.row, ?_, h.entry, fun henabled g hg => ⟨(h.leavable henabled g hg).1, ?_⟩⟩
  · simp only [Dict.get?_set]
    split
    · next heq =>
      rw [heq, hgroup] at hpersonal
      cases hpersonal
      exact ⟨_, rfl, hpooled⟩
    · exact ⟨personal, hpersonal, hpooled⟩
  · intro group' hgroup' henabled'
    simp only [Dict.get?_set] at hgroup'
    split at hgroup'
    · cases hgroup'
      cases henabled'
    · exact (h.leavable henabled g hg).2 group' hgroup' henabled'

end Deletable

/-- The name of a user that is not deleted yet, and what its calls may fail with. -/
structure Given (username : String) (u : Username) (groupName : String) (lapses : Raised → Prop) :
    Prop where
  name : sanitizeUsername username = .ok u
  lower : lower username = u.text
  group : isEmptyString (some groupName) = false
  fails : ∀ e, lapses e → fails e

theorem Given.nonempty (h : Given username u groupName lapses) :
    isEmptyString (some username) = false := by
  rcases sanitizeUsername_cases username with ⟨he, -⟩ | ⟨_, -, -, hnonempty⟩
  · rw [h.name] at he
    cases he
  · exact hnonempty

abbrev Halted (username : String) (u : Username) (groupName : String) (lapses : Raised → Prop)
    (e : Raised) (r : Recorded) : Prop :=
  lapses e ∧ Before u groupName (Ready username u groupName) r

theorem does_send {task : Task} (hI : ∀ s, I s → Ready username u groupName s)
    (hsend : ∀ s, I s → I { s with tasks := s.tasks ++ [task] }) :
    Does (record serves lapses) (Before u groupName I) (send task) (fun _ => Before u groupName I)
      (Halted username u groupName lapses) := by
  refine does_ask_before (by simp) (by simp) ?_
  rintro s a s' hs ⟨rfl, rfl⟩
  exact ⟨hI s hs, (), rfl, hsend s hs, hI _ (hsend s hs)⟩

theorem does_getUser (hI : ∀ s, I s → Ready username u groupName s) (v : Username) :
    Does (record serves lapses) (Before u groupName I) (ask (.getUser v))
      (fun found => Before u groupName fun s => I s ∧ s.user? v = found)
      (Halted username u groupName lapses) := by
  refine does_ask_before (by simp) (by simp) ?_
  rintro s a s' hs ⟨rfl, rfl⟩
  exact ⟨hI _ hs, _, rfl, ⟨hs, rfl⟩, hI _ hs⟩

theorem does_getGroup (hI : ∀ s, I s → Ready username u groupName s) (g : String) :
    Does (record serves lapses) (Before u groupName I) (ask (.getGroup g))
      (fun found => Before u groupName fun s => I s ∧ s.groups.get? g = found)
      (Halted username u groupName lapses) := by
  refine does_ask_before (by simp) (by simp) ?_
  rintro s a s' hs ⟨rfl, rfl⟩
  exact ⟨hI _ hs, _, rfl, ⟨hs, rfl⟩, hI _ hs⟩

variable {config : Config} {groupName' : String} {l : List String}

theorem serves_adminRemove {a : Except Raised Unit}
    (hentry : ∃ entry, s.poolUser? username = some entry) (hgroup : groupName' ∈ s.pool.groups)
    (h : serves (.adminRemoveUserFromGroup username groupName') s a s') :
    a = .ok () ∧ ∃ entry, s' = s.setPoolUser username entry := by
  obtain ⟨entry, hentry⟩ := hentry
  simp only [serves, requests, hentry] at h
  rcases h with ⟨-, rfl, rfl⟩ | ⟨hnot, -⟩
  · exact ⟨rfl, _, rfl⟩
  · exact absurd hgroup hnot

/-- The stored user, and a group as it is found. -/
abbrev Leaving (username : String) (u : Username) (fields : UserFields) (groupName' : String)
    (group : Group) (s : Store) : Prop :=
  Deletable username u fields s ∧ s.groups.get? groupName' = some group

theorem Leaving.ready (hgroup : fields.groupName = groupName)
    (h : Leaving username u fields groupName' group s) : Ready username u groupName s :=
  hgroup ▸ h.1.ready

theorem does_deleteMembership (given : Given username u groupName lapses)
    (hgroup : fields.groupName = groupName) (hnonempty : isEmptyString (some groupName') = false) :
    Does (record serves lapses) (Before u groupName (Leaving username u fields groupName' group))
      (GroupMembersDAO.deleteMembership groupName' username)
      (fun _ => Before u groupName (Leaving username u fields groupName' group))
      (Halted username u groupName lapses) := by
  rw [deleteMembership_eq given.name hnonempty]
  refine does_ask_before (by simp) (by simp) ?_
  rintro s a s' hs ⟨rfl, rfl⟩
  have hs' : Leaving username u fields groupName' group
      { s with members := s.members.erase (groupName', u) } := ⟨hs.1.congr rfl rfl rfl, hs.2⟩
  exact ⟨hs.ready hgroup, (), rfl, hs', hs'.ready hgroup⟩

theorem does_membershipRemoved (given : Given username u groupName lapses)
    (hgroup : fields.groupName = groupName) (henabled : fields.enabled = true)
    (hmem : groupName' ∈ fields.additionalGroups.erase fields.groupName)
    (hnonempty : isEmptyString (some groupName') = false) (hon : group.enabled = true) :
    Does (record serves lapses) (Before u groupName (Leaving username u fields groupName' group))
      (groupMembershipUpdated group groupName' username .remove)
      (fun _ => Before u groupName (Leaving username u fields groupName' group))
      (Halted username u groupName lapses) := by
  refine .bind (Q := fun _ => Before u groupName (Leaving username u fields groupName' group))
    (.ite (fun hpool => ?_) fun _ => .pure fun _ hr => hr) fun _ => does_send
      (fun s hs => hs.ready hgroup) fun s hs => ⟨hs.1.congr rfl rfl rfl, hs.2⟩
  simp only [changePoolMembership, adminRemoveUserFromGroup_eq given.nonempty hnonempty]
  refine does_ask_before (by simp) (by simp) ?_
  intro s a s' hs hserves
  obtain ⟨rfl, entry, rfl⟩ := serves_adminRemove (hs.1.entry henabled)
    ((hs.1.leavable henabled _ hmem).2 group hs.2 hon hpool) hserves
  have hs' : Leaving username u fields groupName' group (s.setPoolUser username entry) :=
    ⟨hs.1.setPoolUser username entry, hs.2⟩
  exact ⟨hs.ready hgroup, (), rfl, hs', hs'.ready hgroup⟩

/-- The stored user, and the groups that are left of those of the row. -/
abbrev Left (username : String) (u : Username) (fields : UserFields) (l : List String)
    (s : Store) : Prop :=
  Deletable username u fields s ∧ l.Sublist fields.additionalGroups

theorem does_removeUserFrom (given : Given username u groupName lapses)
    (hgroup : fields.groupName = groupName) (henabled : fields.enabled = true)
    (hmem : groupName' ∈ fields.additionalGroups.erase fields.groupName)
    (hl : l.Sublist fields.additionalGroups) :
    Does (record serves lapses) (Before u groupName (Deletable username u fields))
      (removeUserFrom username l groupName')
      (fun l' => Before u groupName (Left username u fields l'))
      (Halted username u groupName lapses) := by
  refine .of_forall fun r hr => ?_
  obtain ⟨hnonempty, -⟩ := hr.store.leavable henabled _ hmem
  refine .of_state (P := Before u groupName (Deletable username u fields)) hr ?_
  unfold removeUserFrom
  rw [getGroup_eq hnonempty]
  refine .bind (does_getGroup (fun s hs => hgroup ▸ hs.ready) groupName') fun found => ?_
  cases found with
  | none => exact .pure fun _ hr => hr.mono fun _ hs => ⟨hs.1, hl⟩
  | some group =>
    refine .ite (fun _ => .pure fun _ hr => hr.mono fun _ hs => ⟨hs.1, hl⟩) fun hon => ?_
    refine .bind (does_deleteMembership given hgroup hnonempty) fun _ => ?_
    refine .bind (does_membershipRemoved given hgroup henabled hmem hnonempty (by simpa using hon))
      fun _ => .pure fun _ hr => hr.mono fun _ hs => ⟨hs.1, ?_⟩
    exact List.erase_sublist.trans hl

theorem does_getRow (hI : ∀ s, I s → Deletable username u fields s)
    (hgroup : fields.groupName = groupName) :
    Does (record serves lapses) (Before u groupName I) (ask (.getUser u))
      (fun found r => Before u groupName I r ∧ found = some ⟨fields, u⟩)
      (Halted username u groupName lapses) := by
  refine (does_getUser (fun s hs => hgroup ▸ (hI s hs).ready) u).post ?_ fun _ _ h => h
  intro found r hr
  obtain ⟨hs, rfl⟩ := hr.store
  exact ⟨hr.mono fun _ h => h.1, by simp [Store.user?, (hI _ hs).row]⟩

theorem mem_dedupe {names : List String} {name : String} :
    name ∈ dedupe names ↔ name ∈ names := by
  have h : ∀ kept : List String, name ∈ names.foldl
      (fun kept name => if name ∈ kept then kept else kept ++ [name]) kept ↔
        name ∈ kept ∨ name ∈ names := by
    induction names with
    | nil => simp
    | cons first names ih =>
      intro kept
      rw [List.foldl_cons, ih]
      split
      · next hin =>
        constructor
        · rintro (h | h) <;> simp [h]
        · rintro (h | h)
          · exact .inl h
          · rcases List.mem_cons.mp h with rfl | h
            · exact .inl hin
            · exact .inr h
      · simp [or_assoc]
  simp [dedupe, h]

theorem does_removeUserFromGroups (given : Given username u groupName lapses)
    (hgroup : fields.groupName = groupName)
    (hne : fields.additionalGroups.erase fields.groupName ≠ []) :
    Does (record serves lapses) (Before u groupName (Deletable username u fields))
      (removeUserFromGroups username (fields.additionalGroups.erase fields.groupName))
      (fun _ => Before u groupName (Ready username u groupName))
      fun e r => (lapses e ∨ e = userIsDisabled username) ∧
        Before u groupName (Ready username u groupName) r := by
  have hready : ∀ s, Deletable username u fields s → Ready username u groupName s :=
    fun s hs => hgroup ▸ hs.ready
  have hhalted : ∀ e r, Halted username u groupName lapses e r →
      (lapses e ∨ e = userIsDisabled username) ∧
        Before u groupName (Ready username u groupName) r := fun e r h => ⟨.inl h.1, h.2⟩
  unfold removeUserFromGroups
  rw [requireNonempty_eq given.nonempty, getUser_eq given.name]
  refine .ite (fun hempty => absurd (List.isEmpty_iff.mp hempty) hne) fun _ => ?_
  refine .bind ((does_getRow (fun _ hs => hs) hgroup).post (fun _ _ h => h) hhalted) fun found =>
    .of_imp ?_
  rintro rfl
  refine .ite (fun _ => .raise fun r hr => ⟨.inr rfl, hr.mono hready⟩) fun henabled => ?_
  have hloop : Does (record serves lapses) (Before u groupName (Left username u fields
      fields.additionalGroups)) (Program.foldEach (removeUserFrom username) fields.additionalGroups
        (dedupe (fields.additionalGroups.erase fields.groupName)))
      (fun l => Before u groupName (Left username u fields l))
      (Halted username u groupName lapses) := by
    refine Does.foldEach (I := fun l => Before u groupName (Left username u fields l))
      fun g hg l => .of_forall fun r hr => ?_
    exact .of_state (P := Before u groupName (Deletable username u fields))
      (hr.mono fun _ hs => hs.1)
      (does_removeUserFrom given hgroup (by simpa using henabled) (mem_dedupe.mp hg) hr.store.2)
  refine .bind ((hloop.pre fun r hr => hr.mono fun _ hs => ⟨hs, .refl _⟩).post (fun _ _ h => h)
    hhalted) fun l => ?_
  rw [updateUser_eq given.name]
  refine .bind ((does_ask_before (Q := fun _ => Ready username u groupName) (by simp) (by simp)
    ?_).post (fun _ _ h => h) hhalted) fun _ => .pure fun _ hr => hr
  rintro s a s' ⟨hs, hl⟩ hserves
  simp only [serves, hs.row] at hserves
  obtain ⟨rfl, rfl⟩ := hserves
  have hs' : Ready username u groupName { s with users := s.users.set u _ } :=
    ⟨fields.update { additionalGroups := some l }, hgroup,
      hs.update (by rintro _ ⟨⟩; exact hl) (by rintro _ ⟨⟩)⟩
  exact ⟨hready s hs, _, rfl, hs', hs'⟩

theorem does_leaveGroups (given : Given username u groupName lapses)
    (hgroup : fields.groupName = groupName) :
    Does (record serves lapses) (Before u groupName (Deletable username u fields))
      (leaveGroups username (fields.additionalGroups.erase fields.groupName))
      (fun _ => Before u groupName (Ready username u groupName))
      (Halted username u groupName lapses) := by
  refine .ite (fun _ => .pure fun r hr => hr.mono fun s hs => hgroup ▸ hs.ready) fun hne => ?_
  refine .tryCatch (does_removeUserFromGroups given hgroup (by simpa using hne)) ?_
  rintro e
  refine .of_forall ?_
  rintro r ⟨he | rfl, hr⟩
  · have hnot := (given.fails e he).1
    cases e with
    | soca code message => exact absurd rfl (hnot code message)
    | _ => exact .raise (by rintro _ rfl; exact ⟨he, hr⟩)
  · exact .ite (fun _ => .pure (by rintro _ rfl; exact hr)) fun hcode => absurd rfl hcode

theorem Disabled.ready (h : Disabled username u groupName s) : Ready username u groupName s := by
  obtain ⟨fields, hgroup, -, hs⟩ := h
  exact ⟨fields, hgroup, hs⟩

theorem Disabled.congr (h : Disabled username u groupName s) (husers : s'.users = s.users)
    (hgroups : s'.groups = s.groups) : Disabled username u groupName s' := by
  obtain ⟨fields, hgroup, hdisabled, hs⟩ := h
  have henabled : fields.enabled ≠ true := by simp [hdisabled]
  exact ⟨fields, hgroup, hdisabled, by rw [husers]; exact hs.row, by rw [hgroups]; exact hs.personal,
    fun h => absurd h henabled, fun h => absurd h henabled⟩

theorem does_disableUser (given : Given username u groupName lapses)
    (hadministrator : config.isClusterAdministrator username = false) :
    Does (record serves lapses) (Before u groupName (Ready username u groupName))
      (disableUser config username) (fun _ => Before u groupName (Disabled username u groupName))
      (Halted username u groupName lapses) := by
  refine .of_forall fun r hr => ?_
  obtain ⟨fields, hgroup, hs⟩ := hr.store
  refine .of_state (P := Before u groupName (Deletable username u fields))
    ⟨hs, hr.group, hr.user⟩ ?_
  have hready : ∀ s, Deletable username u fields s → Ready username u groupName s :=
    fun s hs => hgroup ▸ hs.ready
  unfold disableUser
  rw [requireNonempty_eq given.nonempty, getUser_eq given.name]
  refine .ite (fun h => absurd h (by simp [hadministrator])) fun _ => ?_
  refine .bind (does_getRow (fun _ hs => hs) hgroup) fun found => .of_imp ?_
  rintro rfl
  refine .ite (fun hoff => .pure fun r hr => hr.mono fun s hs => ?_) fun hon => ?_
  · exact ⟨fields, hgroup, by simpa using hoff, hs⟩
  · have henabled : fields.enabled = true := by simpa using hon
    rw [adminDisableUser_eq given.nonempty, updateUser_eq given.name]
    refine .bind (Q := fun _ => Before u groupName (Deletable username u fields))
      (does_ask_before (by simp) (by simp) ?_) fun _ => ?_
    · intro s a s' hs hserves
      obtain ⟨entry, hentry⟩ := hs.entry henabled
      simp only [serves, requests, hentry, not_true_eq_false, false_and, or_false] at hserves
      obtain ⟨-, rfl, rfl⟩ := hserves
      have hs' := hs.setPoolUser username { entry with enabled := false }
      exact ⟨hready s hs, _, rfl, hs', hready _ hs'⟩
    refine .bind (Q := fun _ => Before u groupName (Disabled username u groupName))
      (does_ask_before (by simp) (by simp) ?_) fun _ => ?_
    · intro s a s' hs hserves
      simp only [serves, hs.row] at hserves
      obtain ⟨rfl, rfl⟩ := hserves
      have hs' : Disabled username u groupName { s with users := s.users.set u _ } :=
        ⟨fields.update { enabled := some false }, hgroup, rfl,
          hs.update (by rintro _ ⟨⟩) (by rintro _ ⟨⟩; rfl)⟩
      exact ⟨hready s hs, _, rfl, hs', hs'.ready⟩
    rw [setEnabled_eq (hgroup ▸ given.group)]
    refine .bind (Q := fun _ => Before u groupName (Disabled username u groupName))
      (does_ask_before (by simp) (by simp) ?_) fun _ => ?_
    · intro s a s' hs hserves
      obtain ⟨fields', hgroup', hdisabled, hs⟩ := hs
      obtain ⟨group, hfound, -⟩ := hs.personal
      rw [hgroup', ← hgroup] at hfound
      simp only [serves, hfound] at hserves
      obtain ⟨rfl, rfl⟩ := hserves
      have hs' : Disabled username u groupName
          { s with groups := s.groups.set fields.groupName { group with enabled := false } } :=
        ⟨fields', hgroup', hdisabled, hs.disableGroup hfound⟩
      exact ⟨⟨fields', hgroup', hs⟩, _, rfl, hs', hs'.ready⟩
    refine .bind (does_send (fun _ h => h.ready) fun s h => h.congr rfl rfl) fun _ => ?_
    refine does_ask_before (by simp) (by simp) ?_
    rintro s a s' hs ⟨rfl, rfl⟩
    exact ⟨hs.ready, _, rfl, hs, hs.ready⟩

def Dismissed (username : String) (u : Username) (groupName : String) (s : Store) : Prop :=
  Disabled username u groupName s ∧ s.poolUser? username = none

theorem does_adminDeleteUser (given : Given username u groupName lapses) :
    Does (record serves lapses) (Before u groupName (Disabled username u groupName))
      (CognitoUserPool.adminDeleteUser username)
      (fun _ => Before u groupName (Dismissed username u groupName))
      (Halted username u groupName lapses) := by
  have hserves : ∀ s a s', Disabled username u groupName s →
      serves (.adminDeleteUser username) s a s' → Dismissed username u groupName s' ∧
        (a = .ok () ∨ ∃ text, a = .error (.clientError USER_NOT_FOUND text)) := by
    intro s a s' hs h
    simp only [serves] at h
    split at h
    · obtain ⟨rfl, rfl⟩ := h
      exact ⟨⟨hs.congr rfl rfl, by simp [Store.poolUser?, Dict.get?_erase]⟩, .inl rfl⟩
    · next hnone =>
      obtain ⟨htext, rfl⟩ := h
      exact ⟨⟨hs, hnone⟩, .inr htext⟩
  have hcall : Does (record serves lapses) (Before u groupName (Disabled username u groupName))
      (ask (.adminDeleteUser username))
      (fun _ => Before u groupName (Dismissed username u groupName))
      fun e r => Halted username u groupName lapses e r ∨
        (∃ text, e = .clientError USER_NOT_FOUND text) ∧
          Before u groupName (Dismissed username u groupName) r := by
    refine .ask_record ?_ ?_ ?_ ?_
    · intro r a s' hr h
      exact hr.append (by simp) (by simp) (hserves _ _ _ hr.store h).1
    · intro r e s' hr h
      obtain ⟨hs', ha | ⟨text, ha⟩⟩ := hserves _ _ _ hr.store h
      · cases ha
      · cases ha
        exact .inr ⟨⟨text, rfl⟩, hr.append (by simp) (by simp) hs'⟩
    · intro r e hr he
      exact .inl ⟨he, hr.append (by simp) (by simp) hr.store.ready⟩
    · intro r e a s' hr he h
      exact .inl ⟨he, hr.append (by simp) (by simp) (hserves _ _ _ hr.store h).1.1.ready⟩
  unfold CognitoUserPool.adminDeleteUser
  rw [requireNonempty_eq given.nonempty]
  refine .tryCatch hcall fun e => .of_forall ?_
  rintro r (⟨he, hr⟩ | ⟨⟨text, rfl⟩, hr⟩)
  · have hnot := (given.fails e he).2
    cases e with
    | clientError code text =>
      refine .ite (fun hcode => ?_) fun _ => .raise (by rintro _ rfl; exact ⟨he, hr⟩)
      subst hcode
      exact absurd rfl (hnot text)
    | _ => exact .raise (by rintro _ rfl; exact ⟨he, hr⟩)
  · exact .ite (fun _ => .pure (by rintro _ rfl; exact hr)) fun hcode => absurd rfl hcode

theorem Dismissed.ready (h : Dismissed username u groupName s) : Ready username u groupName s :=
  h.1.ready

theorem Dismissed.congr (h : Dismissed username u groupName s) (husers : s'.users = s.users)
    (hgroups : s'.groups = s.groups) (hpool : s'.pool = s.pool) :
    Dismissed username u groupName s' :=
  ⟨h.1.congr husers hgroups, by rw [Store.poolUser?, hpool]; exact h.2⟩

theorem Dismissed.updateUser (h : Dismissed username u groupName s) {v : Username}
    {fields' : UserFields} (hrow : s.users.get? v = some fields') (l : List String) :
    Dismissed username u groupName
      { s with users := s.users.set v (fields'.update { additionalGroups := some l }) } := by
  obtain ⟨⟨fields, hgroup, hdisabled, hs⟩, hpool⟩ := h
  refine ⟨?_, hpool⟩
  by_cases hv : v = u
  · subst hv
    cases hs.row.symm.trans hrow
    have henabled : (fields'.update { additionalGroups := some l }).enabled ≠ true := by
      simp [UserFields.update, hdisabled]
    exact ⟨fields'.update { additionalGroups := some l }, hgroup, hdisabled,
      by simp [Dict.get?_set], hs.personal, fun h => absurd h henabled, fun h => absurd h henabled⟩
  · exact ⟨fields, hgroup, hdisabled, hs.setUser hv _⟩

abbrev Closing (username : String) (u : Username) (groupName : String) (group : Group)
    (s : Store) : Prop :=
  Dismissed username u groupName s ∧ s.groups.get? groupName = some group

def Listed (users : List User) (s : Store) : Prop :=
  ∀ user ∈ users, ∃ fields, s.users.get? user.username = some fields

theorem does_admittedUsers (hI : ∀ s, I s → Ready username u groupName s)
    (usernames : List Username) :
    Does (record serves lapses) (Before u groupName I)
      (admittedUsers (admission true) (usernames.map Username.text))
      (fun users => Before u groupName fun s => I s ∧ Listed users s)
      (Halted username u groupName lapses) := by
  induction usernames generalizing I with
  | nil => exact .pure fun r hr => hr.mono fun s hs => ⟨hs, by simp [Listed]⟩
  | cons v usernames ih =>
    simp only [List.map_cons, admittedUsers, getUser_eq (sanitizeUsername_text v)]
    refine .bind (does_getUser hI v) fun found => ?_
    have hadmission : admission true v.text found = .ok found := by
      cases found <;> simp [admission]
    rw [hadmission]
    refine .bind (Q := fun admitted r => Before u groupName (fun s => I s ∧ s.user? v = found) r ∧
      admitted = found) (.ofExcept (fun _ _ ha hr => ⟨hr, (Except.ok.inj ha).symm⟩)
        (by rintro _ _ ⟨⟩)) fun admitted => .of_imp ?_
    rintro rfl
    refine .bind (ih (I := fun s => I s ∧ s.user? v = admitted) fun s hs => hI s hs.1)
      fun users => ?_
    refine .pure fun r hr => hr.mono fun s hs => ⟨hs.1.1, fun user huser => ?_⟩
    rcases List.mem_append.mp huser with huser | huser
    · rw [Option.mem_toList.mp huser] at hs
      obtain ⟨fields, hfields, rfl⟩ := Option.map_eq_some_iff.mp hs.1.2
      exact ⟨fields, hfields⟩
    · exact hs.2 user huser

theorem does_removeFromGroup {user : User} {users : List User}
    (given : Given username u groupName lapses) (hpooled : group.pooled = false)
    (huser : user ∈ users) :
    Does (record serves lapses)
      (Before u groupName fun s => Dismissed username u groupName s ∧ Listed users s)
      (removeUserFromGroup group groupName user)
      (fun _ => Before u groupName fun s => Dismissed username u groupName s ∧ Listed users s)
      (Halted username u groupName lapses) := by
  unfold removeUserFromGroup
  rw [updateUser_eq (sanitizeUsername_text _), deleteMembership_eq (sanitizeUsername_text _)
    given.group]
  refine .bind (Q := fun _ => Before u groupName fun s => Dismissed username u groupName s ∧
    Listed users s) (does_ask_before (by simp) (by simp) ?_) fun _ => ?_
  · rintro s a s' ⟨hs, hlisted⟩ hserves
    obtain ⟨fields, hfields⟩ := hlisted user huser
    simp only [serves, hfields] at hserves
    obtain ⟨rfl, rfl⟩ := hserves
    have hs' := hs.updateUser hfields (user.additionalGroups.erase groupName)
    refine ⟨hs.ready, _, rfl, ⟨hs', fun user' huser' => ?_⟩, hs'.ready⟩
    simp only [Dict.get?_set]
    split
    · exact ⟨_, rfl⟩
    · exact hlisted user' huser'
  refine .bind (Q := fun _ => Before u groupName fun s => Dismissed username u groupName s ∧
    Listed users s) (does_ask_before (by simp) (by simp) ?_) fun _ => ?_
  · rintro s a s' ⟨hs, hlisted⟩ ⟨rfl, rfl⟩
    exact ⟨hs.ready, (), rfl, ⟨hs.congr rfl rfl rfl, hlisted⟩,
      Dismissed.ready (hs.congr rfl rfl rfl)⟩
  refine .bind (.ite (fun hpool => by simp [hpooled] at hpool) fun _ => .pure fun _ hr => hr)
    fun _ => does_send (fun _ hs => hs.1.ready) fun _ hs => ⟨hs.1.congr rfl rfl rfl, hs.2⟩

theorem does_removeUsersFromGroup {usernames : List Username}
    (given : Given username u groupName lapses) (hpooled : group.pooled = false)
    (hne : usernames ≠ []) :
    Does (record serves lapses)
      (Before u groupName (Closing username u groupName group))
      (removeUsersFromGroup (usernames.map Username.text) groupName true)
      (fun _ => Before u groupName (Dismissed username u groupName))
      (Halted username u groupName lapses) := by
  unfold removeUsersFromGroup
  rw [requireNonempty_eq given.group, getGroup_eq given.group]
  refine .ite (fun hempty => absurd hempty (by simpa using hne)) fun _ => ?_
  refine .bind (Q := fun _ => Before u groupName (Closing username u groupName group))
    (.pure fun _ hr => hr) fun _ => ?_
  refine .bind (Q := fun found r => Before u groupName (Dismissed username u groupName) r ∧
    found = some group) ((does_getGroup (fun _ hs => hs.1.ready) groupName).post ?_ fun _ _ h => h)
    fun found => .of_imp ?_
  · intro found r hr
    exact ⟨hr.mono fun _ hs => hs.1.1, hr.store.2.symm.trans hr.store.1.2⟩
  · rintro rfl
    refine .ite (fun hforce => by simp at hforce) fun _ => ?_
    refine .bind (does_admittedUsers (fun _ hs => hs.ready) usernames) fun users => ?_
    refine (Does.forEach fun user huser => ?_).post (fun _ _ hr => hr.mono fun _ hs => hs.1)
      fun _ _ h => h
    exact does_removeFromGroup given hpooled huser

theorem does_deleteMembers (given : Given username u groupName lapses)
    (hpooled : group.pooled = false) :
    Does (record serves lapses)
      (Before u groupName (Closing username u groupName group))
      (deleteMembers groupName true)
      (fun _ => Before u groupName (Dismissed username u groupName))
      (Halted username u groupName lapses) := by
  unfold deleteMembers
  rw [getUsernamesInGroup_eq given.group]
  refine .bind (Q := fun b => Before u groupName fun s => Closing username u groupName group s ∧
    (b = true → s.membersOf groupName ≠ []))
    (does_ask_before (by simp) (by simp) ?_) fun b => ?_
  · rintro s a s' hs ⟨rfl, rfl⟩
    exact ⟨hs.1.ready, _, rfl, ⟨hs, by simp⟩, hs.1.ready⟩
  refine .ite (fun hmembers => .ite (fun _ => ?_) fun hforce => absurd rfl hforce)
    fun _ => .pure fun r hr => hr.mono fun _ hs => hs.1.1
  refine .bind (Q := fun usernames r => Before u groupName (Closing username u groupName group) r ∧
    usernames ≠ []) ?_ fun usernames => .of_imp (does_removeUsersFromGroup given hpooled)
  refine (does_ask_before (Q := fun (usernames : List Username) s =>
    Closing username u groupName group s ∧ usernames ≠ []) (by simp) (by simp) ?_).post (fun _ r hr => ⟨hr.mono fun _ hs => hs.1, hr.store.2⟩)
    fun _ _ h => h
  rintro s a s' ⟨hs, hne⟩ ⟨⟨usernames, hperm, rfl⟩, rfl⟩
  refine ⟨hs.1.ready, _, rfl, ⟨hs, ?_⟩, hs.1.ready⟩
  rintro rfl
  exact hne hmembers hperm.nil_eq.symm

/-- The user has lost the group, and is still there. -/
structure Stranded (username : String) (u : Username) (groupName : String) (r : Recorded) : Prop where
  row : ∃ fields, r.store.users.get? u = some fields ∧ fields.groupName = groupName
  personal : r.store.groups.get? groupName = none
  entry : r.store.poolUser? username = none
  group : Carried (.deleteGroup groupName) r.log
  user : ¬ Carried (.deleteUser u) r.log

structure Gone (u : Username) (groupName : String) (s : Store) : Prop where
  row : s.users.get? u = none
  personal : s.groups.get? groupName = none
  entry : s.poolUser? u.text = none

theorem Stranded.append {r : Recorded} {s : Store} {fate : CallOutcome Raised}
    (h : Stranded username u groupName r) (huser : op ≠ .deleteUser u)
    (husers : s.users = r.store.users) (hgroups : s.groups = r.store.groups)
    (hpool : s.pool = r.store.pool) : Stranded username u groupName ⟨s, r.log ++ [(op, fate)]⟩ := by
  constructor
  · simpa only [husers] using h.row
  · simpa only [hgroups] using h.personal
  · simpa only [Store.poolUser?, hpool] using h.entry
  · simp [h.group]
  · simp [h.user, huser]

theorem does_deleteGroupRow (given : Given username u groupName lapses) :
    Does (record serves lapses) (Before u groupName (Dismissed username u groupName))
      (GroupDAO.deleteGroup groupName) (fun _ => Stranded username u groupName)
      fun e r => Halted username u groupName lapses e r ∨
        lapses e ∧ Stranded username u groupName r := by
  rw [deleteGroup_eq given.group]
  have hcarried : ∀ r a s' fate, Before u groupName (Dismissed username u groupName) r →
      serves (.deleteGroup groupName) r.store a s' → (∀ e, fate ≠ CallOutcome.refused e) →
      Stranded username u groupName ⟨s', r.log ++ [(.deleteGroup groupName, fate)]⟩ := by
    rintro r a s' fate hr ⟨rfl, rfl⟩ hfate
    obtain ⟨⟨fields, hgroup, -, hs⟩, hentry⟩ := hr.store
    refine ⟨⟨fields, hs.row, hgroup⟩, by simp [Dict.get?_erase], hentry, ?_, ?_⟩
    · simp [hfate]
    · simp [hr.user]
  refine .ask_record ?_ ?_ ?_ ?_
  · intro r a s' hr h
    exact hcarried r _ s' _ hr h (by simp)
  · rintro r e s' hr ⟨⟨⟩, -⟩
  · intro r e hr he
    refine .inl ⟨he, hr.store.ready, ?_, ?_⟩
    · simp [hr.group]
    · simp [hr.user]
  · intro r e a s' hr he h
    exact .inr ⟨he, hcarried r _ s' _ hr h (by simp)⟩

theorem does_deleteGroup (given : Given username u groupName lapses) :
    Does (record serves lapses) (Before u groupName (Dismissed username u groupName))
      (deleteGroup groupName true) (fun _ => Stranded username u groupName)
      fun e r => Halted username u groupName lapses e r ∨
        lapses e ∧ Stranded username u groupName r := by
  unfold deleteGroup
  rw [requireNonempty_eq given.group, getGroup_eq given.group]
  refine .bind (Q := fun _ => Before u groupName (Dismissed username u groupName))
    (.pure fun _ hr => hr) fun _ => ?_
  refine .bind ((does_getGroup (fun _ hs => hs.ready) groupName).post (fun _ _ h => h)
    fun _ _ h => .inl h) fun found => .of_forall fun r hr => ?_
  obtain ⟨⟨⟨fields, hgroup, -, hs⟩, -⟩, hfound⟩ := hr.store
  obtain ⟨group, hpersonal, hpooled⟩ := hs.personal
  rw [hgroup, hfound] at hpersonal
  subst hpersonal
  refine .of_state (P := Before u groupName (Closing username u groupName group)) hr ?_
  refine .bind ((does_deleteMembers given hpooled).post (fun _ _ h => h) fun _ _ h => .inl h)
    fun _ => .bind (does_deleteGroupRow given) fun _ => .ask_record ?_ ?_ ?_ ?_
  · rintro r a s' hr ⟨-, rfl⟩
    exact hr.append (by simp) rfl rfl rfl
  · rintro r e s' hr ⟨⟨⟩, -⟩
  · intro r e hr he
    exact .inr ⟨he, hr.append (by simp) rfl rfl rfl⟩
  · rintro r e a s' hr he ⟨-, rfl⟩
    exact .inr ⟨he, hr.append (by simp) rfl rfl rfl⟩

/-- Where a deletion may stand that breaks off. -/
inductive Standing (username : String) (u : Username) (groupName : String) (r : Recorded) : Prop
  | ready (h : Before u groupName (Ready username u groupName) r)
  | stranded (h : Stranded username u groupName r)
  | gone (h : Gone u groupName r.store) (hcarried : Carried (.deleteUser u) r.log)

theorem does_deleteUserRow (given : Given username u groupName lapses) :
    Does (record serves lapses) (Stranded username u groupName) (UserDAO.deleteUser username)
      (fun _ r => Gone u groupName r.store ∧ Carried (.deleteUser u) r.log)
      fun e r => lapses e ∧ Standing username u groupName r := by
  rw [deleteUser_eq given.name]
  have hcarried : ∀ r a s' fate, Stranded username u groupName r →
      serves (.deleteUser u) r.store a s' → (∀ e, fate ≠ CallOutcome.refused e) →
      Gone u groupName s' ∧ Carried (.deleteUser u) (r.log ++ [(.deleteUser u, fate)]) := by
    rintro r a s' fate hr ⟨rfl, rfl⟩ hfate
    refine ⟨⟨by simp [Dict.get?_erase], hr.personal, ?_⟩, by simp [hfate]⟩
    simpa only [Store.poolUser?, given.lower, u.lower_text] using hr.entry
  refine .ask_record ?_ ?_ ?_ ?_
  · intro r a s' hr h
    exact hcarried r _ s' _ hr h (by simp)
  · rintro r e s' hr ⟨⟨⟩, -⟩
  · intro r e hr he
    refine ⟨he, .stranded ⟨hr.row, hr.personal, hr.entry, ?_, ?_⟩⟩
    · simp [hr.group]
    · simp [hr.user]
  · intro r e a s' hr he h
    obtain ⟨hgone, hlog⟩ := hcarried r _ s' (.lost e) hr h (by simp)
    exact ⟨he, .gone hgone hlog⟩

/-- A user that is ready to be deleted is gone at the end. A deletion that breaks off leaves it
ready, without its group, or gone. -/
theorem does_deleteUser (given : Given username u groupName lapses)
    (hadministrator : config.isClusterAdministrator username = false) :
    Does (record serves lapses) (Before u groupName (Ready username u groupName))
      (deleteUser config username)
      (fun _ r => Gone u groupName r.store ∧ Carried (.deleteUser u) r.log)
      fun e r => lapses e ∧ Standing username u groupName r := by
  have hhalted : ∀ e r, Halted username u groupName lapses e r →
      lapses e ∧ Standing username u groupName r := fun e r h => ⟨h.1, .ready h.2⟩
  refine .of_forall fun r hr => ?_
  obtain ⟨fields, hgroup, hs⟩ := hr.store
  refine .of_state (P := Before u groupName (Deletable username u fields))
    ⟨hs, hr.group, hr.user⟩ ?_
  unfold deleteUser
  rw [getUser_eq given.name]
  refine .ite (fun h => absurd h (by simp [hadministrator])) fun _ => ?_
  refine .bind ((does_getRow (fun _ hs => hs) hgroup).post (fun _ _ h => h) hhalted)
    fun found => .of_imp ?_
  rintro rfl
  refine .bind ((does_leaveGroups given hgroup).post (fun _ _ h => h) hhalted) fun _ => ?_
  refine .bind ((does_disableUser given hadministrator).post (fun _ _ h => h) hhalted) fun _ => ?_
  refine .bind ((does_adminDeleteUser given).post (fun _ _ h => h) hhalted) fun _ => ?_
  simp only [hgroup]
  refine .bind ((does_deleteGroup given).post (fun _ _ h => h) ?_) fun _ => does_deleteUserRow given
  rintro e r (h | ⟨he, h⟩)
  · exact hhalted e r h
  · exact ⟨he, .stranded h⟩

def Op.MakesGroup : Op → Prop
  | .putGroup _ _ => True
  | _ => False

theorem missing_of_serves {a : Except Raised (Result op)} (h : ¬ op.MakesGroup)
    (hserves : serves op s a s') (hmissing : s.groups.get? groupName = none) :
    s'.groups.get? groupName = none := by
  cases op with
  | putGroup _ _ => exact absurd trivial h
  | setGroupEnabled name enabled =>
    simp only [serves] at hserves
    split at hserves
    · next group hfound =>
      have hne : groupName ≠ name := by
        rintro rfl
        simp [hmissing] at hfound
      rw [hserves.2, Dict.get?_set_ne _ hne, hmissing]
    · rw [hserves.2, hmissing]
  | deleteGroup name =>
    obtain ⟨-, rfl⟩ := hserves
    simp only [Dict.get?_erase, hmissing, ite_self]
  | _ => rw [groups_of_serves hserves not_false, hmissing]

theorem Op.Quiet.not_makesGroup (h : op.Quiet) : ¬ op.MakesGroup := by
  cases op with
  | putGroup _ _ => exact h.elim
  | _ => exact not_false

theorem onlyCalls_removeUserFrom (username : String) (l : List String) (g : String) :
    (removeUserFrom username l g).OnlyCalls fun op => ¬ op.MakesGroup := by
  refine onlyCalls_bind ((onlyCalls_getGroup g).mono fun _ h => h.not_makesGroup) fun found => ?_
  cases found with
  | none => trivial
  | some group =>
    dsimp only
    split
    · trivial
    · refine onlyCalls_bind (onlyCalls_bind trivial fun _ => onlyCalls_bind
        (onlyCalls_requireNonempty _ _) fun _ => onlyCalls_ask not_false) fun _ => ?_
      refine onlyCalls_bind (onlyCalls_bind (onlyCalls_whenever fun _ => ?_) fun _ =>
        onlyCalls_ask not_false) fun _ => trivial
      exact onlyCalls_adminRemoveUserFromGroup not_false

theorem onlyCalls_foldEach {β γ : Type} {p : Op → Prop} {f : β → γ → Operation β}
    (h : ∀ b c, (f b c).OnlyCalls p) (b : β) (l : List γ) :
    (Program.foldEach f b l).OnlyCalls p := by
  induction l generalizing b with
  | nil => trivial
  | cons c l ih => exact onlyCalls_bind (h b c) fun b => ih b

theorem onlyCalls_updateUser (username : String) (updates : UserUpdates) :
    (UserDAO.updateUser username updates).OnlyCalls fun op => ¬ op.MakesGroup :=
  onlyCalls_bind trivial fun _ => onlyCalls_ask not_false

theorem onlyCalls_leaveGroups (username : String) (groups : List String) :
    (leaveGroups username groups).OnlyCalls fun op => ¬ op.MakesGroup := by
  unfold leaveGroups
  split
  · trivial
  refine onlyCalls_tryCatch (onlyCalls_bind (onlyCalls_requireNonempty _ _) fun _ => ?_) fun e => ?_
  · split
    · trivial
    refine onlyCalls_bind ((onlyCalls_getUser username).mono fun _ h => h.not_makesGroup)
      fun found => ?_
    cases found with
    | none => trivial
    | some user =>
      dsimp only
      split
      · trivial
      exact onlyCalls_bind (onlyCalls_foldEach (onlyCalls_removeUserFrom username) _ _) fun _ =>
        onlyCalls_bind (onlyCalls_updateUser _ _) fun _ => trivial
  · cases e with
    | soca code message =>
      dsimp only
      split <;> trivial
    | _ => trivial

theorem onlyCalls_disableUser (config : Config) (username : String) :
    (disableUser config username).OnlyCalls fun op => ¬ op.MakesGroup := by
  refine onlyCalls_bind (onlyCalls_requireNonempty _ _) fun _ => ?_
  split
  · trivial
  refine onlyCalls_bind ((onlyCalls_getUser username).mono fun _ h => h.not_makesGroup)
    fun found => ?_
  cases found with
  | none => trivial
  | some user =>
    dsimp only
    split
    · trivial
    refine onlyCalls_bind (onlyCalls_bind (onlyCalls_requireNonempty _ _) fun _ =>
      onlyCalls_ask not_false) fun _ => ?_
    refine onlyCalls_bind (onlyCalls_updateUser _ _) fun _ => ?_
    refine onlyCalls_bind (onlyCalls_bind (onlyCalls_requireNonempty _ _) fun _ =>
      onlyCalls_ask not_false) fun _ => ?_
    exact onlyCalls_bind (onlyCalls_ask not_false) fun _ => onlyCalls_ask not_false

/-- A deletion in which no call fails comes to an end, and nothing is left of the user. -/
def Resumes (config : Config) (username : String) (u : Username) (groupName : String)
    (s : Store) : Prop :=
  (∃ r, Execution (record serves fun _ => False) (deleteUser config username) ⟨s, []⟩ (.ok ()) r) ∧
  ∀ outcome r, Execution (record serves fun _ => False) (deleteUser config username) ⟨s, []⟩
    outcome r → outcome = .ok () ∧ Gone u groupName r.store

theorem exists_execution {α : Type} (x : Operation α) (s : Store) :
    ∃ outcome r, Execution (record serves fun _ => False) x ⟨s, []⟩ outcome r :=
  ⟨_, _, Program.execution_runAlone (@effect_replyWith (fun _ => .done) _ fun _ => trivial) x _⟩

theorem resumes_of_does {P : Recorded → Prop} (hs : P ⟨s, []⟩)
    (h : Does (record serves fun _ => False) P (deleteUser config username)
      (fun _ r => Gone u groupName r.store) fun _ _ => False) :
    Resumes config username u groupName s := by
  have hall : ∀ outcome r, Execution (record serves fun _ => False) (deleteUser config username)
      ⟨s, []⟩ outcome r → outcome = .ok () ∧ Gone u groupName r.store := by
    intro outcome r hrun
    have hends := h.execution hs hrun
    cases outcome with
    | ok _ => exact ⟨rfl, hends⟩
    | error e => exact hends.elim
  obtain ⟨outcome, r, hrun⟩ := exists_execution (deleteUser config username) s
  exact ⟨⟨r, (hall outcome r hrun).1 ▸ hrun⟩, hall⟩

theorem Given.mono (given : Given username u groupName Idea.Accounts.fails) :
    Given username u groupName fun _ => False :=
  ⟨given.name, given.lower, given.group, fun _ h => h.elim⟩

theorem resumes_of_ready (given : Given username u groupName Idea.Accounts.fails)
    (hadministrator : config.isClusterAdministrator username = false)
    (hs : Ready username u groupName s) : Resumes config username u groupName s :=
  resumes_of_does ⟨hs, not_carried_nil, not_carried_nil⟩
    ((does_deleteUser given.mono hadministrator).post (fun _ _ h => h.1) fun _ _ h => h.1)

theorem resumes_of_gone (given : Given username u groupName Idea.Accounts.fails)
    (hadministrator : config.isClusterAdministrator username = false)
    (hs : Gone u groupName s) : Resumes config username u groupName s := by
  refine resumes_of_does (P := fun r => r.store = s) rfl ?_
  unfold deleteUser
  rw [getUser_eq given.name]
  refine .ite (fun h => absurd h (by simp [hadministrator])) fun _ => ?_
  refine .bind (Q := fun found r => r.store = s ∧ found = none) (.ask_record ?_ ?_ ?_ ?_)
    fun found => .of_imp ?_
  · rintro r a s' rfl ⟨ha, rfl⟩
    exact ⟨rfl, (Except.ok.inj ha).trans (by simp [Store.user?, hs.row])⟩
  · rintro r e s' hr ⟨⟨⟩, -⟩
  · intro _ _ _ h
    exact h
  · intro _ _ _ _ _ h _
    exact h
  · rintro rfl
    exact .pure (by rintro r rfl; exact hs)

theorem not_resumes_of_missing (given : Given username u groupName Idea.Accounts.fails)
    (hadministrator : config.isClusterAdministrator username = false)
    (hrow : ∃ fields, s.users.get? u = some fields ∧ fields.groupName = groupName)
    (hmissing : s.groups.get? groupName = none) : ¬ Resumes config username u groupName s := by
  obtain ⟨fields, hfields, hgroup⟩ := hrow
  have hkeeps : ∀ x : Operation Unit, (x.OnlyCalls fun op => ¬ op.MakesGroup) →
      Leads (fun s => s.groups.get? groupName = none) x
        (fun _ s => s.groups.get? groupName = none) fun _ _ => True := fun x hx =>
    (Leads.of_onlyCalls hx fun _ hop _ _ _ hs hserves => missing_of_serves hop hserves hs).post
      (fun _ _ h => h) fun _ _ _ => trivial
  have hnever : Leads (· = s) (deleteUser config username) (fun _ _ => False)
      fun _ _ => True := by
    refine .ite (fun h => absurd h (by simp [hadministrator])) fun _ => ?_
    refine .bind ((leads_getUser username).post (fun _ _ h => h) fun _ _ _ => trivial)
      fun found => .of_imp ?_
    rintro rfl
    have hfind : s.find username = some ⟨fields, u⟩ := by
      simp [Store.find, given.name, Store.user?, hfields]
    rw [hfind]
    refine .of_state (P := fun s => s.groups.get? groupName = none) hmissing ?_
    refine .bind (hkeeps _ (onlyCalls_leaveGroups _ _)) fun _ => ?_
    refine .bind (hkeeps _ (onlyCalls_disableUser _ _)) fun _ => ?_
    refine .bind (hkeeps _ (onlyCalls_adminDeleteUser not_false)) fun _ => ?_
    refine .bind (Q := fun _ _ => False) ?_ fun _ => .of_forall fun _ h => h.elim
    refine .bind (hkeeps _ (onlyCalls_requireNonempty _ _)) fun _ => .of_forall fun s' hs' => ?_
    refine .bind ((leads_getGroup _).post (fun _ _ h => h) fun _ _ _ => trivial)
      fun found => .of_imp ?_
    rintro rfl
    rw [show s'.groups.get? fields.groupName = none by rw [hgroup]; exact hs']
    exact .raise fun _ _ => trivial
  rintro ⟨⟨r, hrun⟩, -⟩
  exact hnever.execution rfl (hrun.mono fun _ _ _ _ h => Program.record_of_never h _)

variable {s₁ : Store} {outcome : Except Raised Unit}

/-- A deletion can be started again if and only if it did not break off after the group of the user
was deleted and before the user was. -/
theorem deleteUser_resumes_iff (given : Given username u groupName Idea.Accounts.fails)
    (hadministrator : config.isClusterAdministrator username = false)
    (hready : Ready username u groupName s)
    (hrun : Execution effect (deleteUser config username) ⟨s, []⟩ outcome ⟨s₁, log⟩) :
    Resumes config username u groupName s₁ ↔
      (Carried (.deleteGroup groupName) log → Carried (.deleteUser u) log) := by
  have hends := (does_deleteUser given hadministrator).execution
    ⟨hready, not_carried_nil, not_carried_nil⟩ hrun
  have hstanding : Standing username u groupName ⟨s₁, log⟩ := by
    cases outcome with
    | ok _ => exact .gone hends.1 hends.2
    | error e => exact hends.2
  cases hstanding with
  | ready h =>
    exact iff_of_true (resumes_of_ready given hadministrator h.store) fun hg => absurd hg h.group
  | stranded h =>
    exact iff_of_false (not_resumes_of_missing given hadministrator h.row h.personal)
      fun hi => h.user (hi h.group)
  | gone h hcarried =>
    exact iff_of_true (resumes_of_gone given hadministrator h) fun _ => hcarried

def enrolled : Store where
  users := Dict.empty.set alice { userFields "alice" false with
    additionalGroups := ["alice-user-group", "default-project-group"] }
  groups := (Dict.empty.set "alice-user-group" ⟨"alice's Personal User Group", 5000, .user,
    some "alice", true⟩).set "default-project-group" ⟨"Default Project Group", 5001, .project,
    some "default", true⟩
  members := (Dict.empty.set ("alice-user-group", alice) ()).set ("default-project-group", alice) ()
  pool := ⟨Dict.empty.set "alice" ⟨true, []⟩, ["admins-cluster-group"],
    ⟨8, true, true, true, true⟩, fun _ => true⟩
  tasks := []

def broken (n : ℕ) : Except Raised Unit × Recorded :=
  (deleteUser cluster "alice").runAlone
    (replyWith fun k => if k = n then .refused .external else .done) ⟨enrolled, []⟩

theorem execution_broken (n : ℕ) : Execution effect (deleteUser cluster "alice") ⟨enrolled, []⟩
    (broken n).1 (broken n).2 := by
  refine Program.execution_runAlone (effect_replyWith fun k => ?_) _ _
  split
  · exact ⟨fun _ _ h => (by cases h), fun _ h => (by cases h)⟩
  · trivial

theorem given_alice : Given "alice" alice "alice-user-group" Idea.Accounts.fails := by
  have hlower : lower "alice" = alice.text := by decide +kernel
  have hgroup : isEmptyString (some "alice-user-group") = false := by decide +kernel
  exact ⟨sanitizeUsername_text alice, hlower, hgroup, fun _ h => h⟩

theorem ready_enrolled : Ready "alice" alice "alice-user-group" enrolled := by
  have hpersonal : enrolled.groups.get? "alice-user-group" =
      some ⟨"alice's Personal User Group", 5000, .user, some "alice", true⟩ := by decide +kernel
  have hproject : enrolled.groups.get? "default-project-group" =
      some ⟨"Default Project Group", 5001, .project, some "default", true⟩ := by decide +kernel
  have hname : isEmptyString (some "default-project-group") = false := by decide +kernel
  have hentry : enrolled.poolUser? "alice" = some ⟨true, []⟩ := by decide +kernel
  have hrow : enrolled.users.get? alice = some { userFields "alice" false with
      additionalGroups := ["alice-user-group", "default-project-group"] } := by decide +kernel
  refine ⟨_, by decide +kernel, hrow, ⟨_, hpersonal, rfl⟩, fun _ => ⟨_, hentry⟩, fun _ g hg => ?_⟩
  obtain rfl : g = "default-project-group" := by
    rw [show (["alice-user-group", "default-project-group"] : List String).erase
      (userFields "alice" false).groupName = ["default-project-group"] by decide +kernel] at hg
    exact List.mem_singleton.mp hg
  refine ⟨hname, fun group hgroup _ hpooled => ?_⟩
  obtain rfl := Option.some.inj (hproject.symm.trans hgroup)
  cases hpooled

/-- A deletion that breaks off when the user is to be disabled in the pool is done again. -/
theorem deleteUser_resumes_alice : Resumes cluster "alice" alice "alice-user-group"
    (broken 7).2.store := by
  have hadministrator : cluster.isClusterAdministrator "alice" = false := by decide +kernel
  have hcarried : ¬ ∃ call ∈ (broken 7).2.log, call.1 = .deleteGroup "alice-user-group" := by
    decide +kernel
  have hrun : Execution effect (deleteUser cluster "alice") ⟨enrolled, []⟩ (broken 7).1
      ⟨(broken 7).2.store, (broken 7).2.log⟩ := execution_broken 7
  apply (deleteUser_resumes_iff given_alice hadministrator ready_enrolled hrun).mpr
  intro h
  obtain ⟨call, hcall, hop, -⟩ := h
  exact absurd ⟨call, hcall, hop⟩ hcarried

/-- The task for the directory is refused after the group was deleted. -/
theorem deleteUser_stuck : enrolled.find "alice" ≠ none ∧
    cluster.isClusterAdministrator "alice" = false ∧
    Execution effect (deleteUser cluster "alice") ⟨enrolled, []⟩ (broken 22).1 (broken 22).2 ∧
    ¬ Resumes cluster "alice" alice "alice-user-group" (broken 22).2.store := by
  have hfound : enrolled.find "alice" ≠ none := by decide +kernel
  have hadministrator : cluster.isClusterAdministrator "alice" = false := by decide +kernel
  have hmissing : (broken 22).2.store.groups.get? "alice-user-group" = none := by decide +kernel
  have hrow : ((broken 22).2.store.users.get? alice).map UserFields.groupName =
      some "alice-user-group" := by decide +kernel
  exact ⟨hfound, hadministrator, execution_broken 22,
    not_resumes_of_missing given_alice hadministrator (Option.map_eq_some_iff.mp hrow) hmissing⟩

end Idea.Accounts

import Idea.Accounts.DeleteUser
import Idea.Accounts.TaskManager
import Idea.System.Run

/-! # Members of a group in the directory

A user is added to a group and removed from it, and the tasks for the directory run in the order of
their messages. The directory comes to have the members that the table has, unless the queue drops
the message of an operation that it has heard of before another one undid it.
-/

namespace Idea.Accounts

open Program (Does)

section Operations

variable {u : Username} {groupName username : String} {s : Store} {group : Group}

structure Admits (u : Username) (groupName : String) (s : Store) : Prop where
  group : ∃ group, s.groups.get? groupName = some group ∧ group.enabled = true
  user : ∃ fields, s.users.get? u = some fields ∧ fields.enabled = true

def PoolTakes (u : Username) (groupName : String) (s : Store) : Prop :=
  ∀ group, s.groups.get? groupName = some group → group.pooled = true →
    (∃ entry, s.poolUser? u.text = some entry) ∧ groupName ∈ s.pool.groups

def membershipTask (u : Username) (groupName : String) (operation : MembershipOperation) : Task :=
  .groupMembershipUpdated groupName u.text operation

/-- A change in the pool with the task that follows it, if the pool takes it. -/
structure Announced (u : Username) (groupName : String) (operation : MembershipOperation)
    (s s' : Store) : Prop where
  users : s'.users = s.users
  groups : s'.groups = s.groups
  members : s'.members = s.members
  tasks : PoolTakes u groupName s ∧ s'.tasks = s.tasks ++ [membershipTask u groupName operation] ∨
    ¬ PoolTakes u groupName s ∧ s'.tasks = s.tasks

theorem does_sendMessage (task : Task) :
    Does serves (· = s) (send task) (fun _ s' => s' = { s with tasks := s.tasks ++ [task] })
      fun _ _ => False := by
  refine .ask ?_ ?_
  · rintro _ a s' rfl ⟨-, rfl⟩
    rfl
  · rintro _ e s' rfl ⟨⟨⟩, -⟩

theorem changePoolMembership_add (hname : isEmptyString (some groupName) = false) :
    changePoolMembership groupName u.text .add = ask (.adminAddUserToGroup u.text groupName) := by
  simp only [changePoolMembership, CognitoUserPool.adminAddUserToGroup,
    requireNonempty_eq u.nonempty, requireNonempty_eq hname]
  rfl

theorem changePoolMembership_remove (hname : isEmptyString (some groupName) = false) :
    changePoolMembership groupName u.text .remove =
      ask (.adminRemoveUserFromGroup u.text groupName) :=
  adminRemoveUserFromGroup_eq u.nonempty hname

theorem requests_of_refused {s s' : Store} {username code : String} {condition : Prop}
    {change : PoolUser → PoolUser} {a : Except Raised Unit}
    (h : requests username condition code change s a s') :
    (∃ entry, s.poolUser? username = some entry ∧ condition ∧ a = .ok () ∧
      s' = s.setPoolUser username (change entry)) ∨
    ¬ ((∃ entry, s.poolUser? username = some entry) ∧ condition) ∧ (∃ e, a = .error e) ∧ s' = s := by
  unfold requests at h
  cases hentry : s.poolUser? username with
  | none =>
    rw [hentry] at h
    obtain ⟨⟨text, rfl⟩, rfl⟩ := h
    exact .inr ⟨by simp, ⟨_, rfl⟩, rfl⟩
  | some entry =>
    rw [hentry] at h
    rcases h with ⟨hcondition, rfl, rfl⟩ | ⟨hcondition, ⟨text, rfl⟩, rfl⟩
    · exact .inl ⟨entry, rfl, hcondition, rfl, rfl⟩
    · exact .inr ⟨fun h => hcondition h.2, ⟨_, rfl⟩, rfl⟩

theorem does_changePoolMembership (hname : isEmptyString (some groupName) = false)
    (operation : MembershipOperation) :
    Does serves (· = s) (changePoolMembership groupName u.text operation)
      (fun _ s' => ((∃ entry, s.poolUser? u.text = some entry) ∧ groupName ∈ s.pool.groups) ∧
        ∃ entry, s' = s.setPoolUser u.text entry)
      (fun _ s' => ¬ ((∃ entry, s.poolUser? u.text = some entry) ∧ groupName ∈ s.pool.groups) ∧
        s' = s) := by
  have hrequest : ∀ {change : PoolUser → PoolUser} {code : String} {a : Except Raised Unit}
      {s' : Store}, requests u.text (groupName ∈ s.pool.groups) code change s a s' →
      Program.ends (fun _ s' => ((∃ entry, s.poolUser? u.text = some entry) ∧
        groupName ∈ s.pool.groups) ∧ ∃ entry, s' = s.setPoolUser u.text entry)
        (fun _ s' => ¬ ((∃ entry, s.poolUser? u.text = some entry) ∧ groupName ∈ s.pool.groups) ∧
          s' = s) a s' := by
    intro change code a s' h
    rcases requests_of_refused h with ⟨entry, hentry, hgroup, rfl, rfl⟩ | ⟨hnot, ⟨e, rfl⟩, rfl⟩
    · exact ⟨⟨⟨entry, hentry⟩, hgroup⟩, _, rfl⟩
    · exact ⟨hnot, rfl⟩
  cases operation with
  | add =>
    rw [changePoolMembership_add hname]
    refine .ask ?_ ?_
    · rintro _ a s' rfl hserves
      exact hrequest hserves
    · rintro _ e s' rfl hserves
      exact hrequest hserves
  | remove =>
    rw [changePoolMembership_remove hname]
    refine .ask ?_ ?_
    · rintro _ a s' rfl hserves
      exact hrequest hserves
    · rintro _ e s' rfl hserves
      exact hrequest hserves

theorem does_groupMembershipUpdated (hname : isEmptyString (some groupName) = false)
    (hgroup : s.groups.get? groupName = some group) (operation : MembershipOperation) :
    Does serves (· = s) (groupMembershipUpdated group groupName u.text operation)
      (fun _ => Announced u groupName operation s) fun _ => Announced u groupName operation s := by
  refine .bind (Q := fun _ s' => PoolTakes u groupName s ∧ s'.users = s.users ∧
      s'.groups = s.groups ∧ s'.members = s.members ∧ s'.tasks = s.tasks) ?_ fun _ => ?_
  · refine .ite (fun hpooled => ?_) fun hpooled => .pure ?_
    · refine (does_changePoolMembership hname operation).post ?_ ?_
      · rintro _ _ ⟨htakes, entry, rfl⟩
        exact ⟨fun group' hgroup' _ => htakes, rfl, rfl, rfl, rfl⟩
      · rintro _ _ ⟨hrefuses, rfl⟩
        exact ⟨rfl, rfl, rfl, .inr ⟨fun h => hrefuses (h group hgroup hpooled), rfl⟩⟩
    · rintro _ rfl
      refine ⟨fun group' hgroup' hpooled' => absurd hpooled' ?_, rfl, rfl, rfl, rfl⟩
      rwa [← Option.some.inj (hgroup.symm.trans hgroup')]
  · refine .of_forall fun s' hs' => (does_sendMessage _).post ?_ fun _ _ h => h.elim
    rintro _ _ rfl
    obtain ⟨htakes, husers, hgroups, hmembers, htasks⟩ := hs'
    refine ⟨husers, hgroups, hmembers, .inl ⟨htakes, ?_⟩⟩
    rw [← htasks]
    rfl

/-- What an operation leaves, whether or not it ends with an exception of the pool. -/
structure Operated (u : Username) (groupName : String) (operation : MembershipOperation)
    (s s' : Store) : Prop where
  admits : Admits u groupName s'
  groups : s'.groups = s.groups
  member : (groupName, u) ∈ s'.members.keys ↔ operation = .add
  tasks : PoolTakes u groupName s ∧ s'.tasks = s.tasks ++ [membershipTask u groupName operation] ∨
    ¬ PoolTakes u groupName s ∧ s'.tasks = s.tasks

/-- The rows of the user and of the member are written, and the rest is as before. -/
structure Written (u : Username) (groupName : String) (operation : MembershipOperation)
    (s s' : Store) : Prop where
  user : ∃ fields, s'.users.get? u = some fields ∧ fields.enabled = true
  groups : s'.groups = s.groups
  pool : s'.pool = s.pool
  tasks : s'.tasks = s.tasks
  member : (groupName, u) ∈ s'.members.keys ↔ operation = .add

theorem Written.operated {s₁ s' : Store} {operation : MembershipOperation}
    (h : Written u groupName operation s s₁)
    (hgroup : ∃ group, s.groups.get? groupName = some group ∧ group.enabled = true)
    (h' : Announced u groupName operation s₁ s') : Operated u groupName operation s s' := by
  have htakes : PoolTakes u groupName s₁ ↔ PoolTakes u groupName s := by
    simp only [PoolTakes, Store.poolUser?, h.groups, h.pool]
  constructor
  · constructor
    · rwa [h'.groups, h.groups]
    · rw [h'.users]
      exact h.user
  · exact h'.groups.trans h.groups
  · rw [h'.members]
    exact h.member
  · rw [← htakes, ← h.tasks]
    exact h'.tasks

theorem createMembership_eq (hname : isEmptyString (some groupName) = false) :
    GroupMembersDAO.createMembership groupName u.text = ask (.putMember groupName u) := by
  simp only [GroupMembersDAO.createMembership, sanitizeUsername_text, requireNonempty_eq hname]
  rfl

theorem does_updateGroups {fields : UserFields} (hfields : s.users.get? u = some fields)
    (additionalGroups : List String) :
    Does serves (· = s) (UserDAO.updateUser u.text { additionalGroups := some additionalGroups })
      (fun _ s' => s' = { s with users := s.users.set u { fields with additionalGroups } })
      fun _ _ => False := by
  rw [updateUser_eq (sanitizeUsername_text u)]
  refine .ask ?_ ?_
  · rintro _ a s' rfl hserves
    simp only [serves, hfields] at hserves
    exact hserves.2
  · rintro _ e s' rfl hserves
    simp only [serves, hfields] at hserves
    cases hserves.1

variable {fields : UserFields}

theorem does_addUserToGroup (hname : isEmptyString (some groupName) = false)
    (hgroup : s.groups.get? groupName = some group) (hon : group.enabled = true)
    (hfields : s.users.get? u = some fields) (henabled : fields.enabled = true) :
    Does serves (· = s) (addUserToGroup group groupName ⟨fields, u⟩)
      (fun _ => Operated u groupName .add s) fun _ => Operated u groupName .add s := by
  unfold addUserToGroup
  rw [createMembership_eq hname]
  refine .bind ((does_updateGroups hfields _).post (fun _ _ h => h) fun _ _ h => h.elim) fun _ => ?_
  refine .bind (Q := fun _ s₁ => Written u groupName .add s s₁) (.ask ?_ ?_) fun _ => ?_
  · rintro _ a s' rfl ⟨-, rfl⟩
    exact ⟨⟨_, (Dict.get?_set _ _ _ _).trans (if_pos rfl), henabled⟩, rfl, rfl, rfl, by simp⟩
  · rintro _ e s' rfl ⟨⟨⟩, -⟩
  · refine .of_forall fun s₁ hs₁ => (does_groupMembershipUpdated hname
      (hs₁.groups ▸ hgroup) .add).post ?_ ?_
    · exact fun _ _ h => hs₁.operated ⟨group, hgroup, hon⟩ h
    · exact fun _ _ h => hs₁.operated ⟨group, hgroup, hon⟩ h

theorem does_removeUserFromGroup (hname : isEmptyString (some groupName) = false)
    (hgroup : s.groups.get? groupName = some group) (hon : group.enabled = true)
    (hfields : s.users.get? u = some fields) (henabled : fields.enabled = true) :
    Does serves (· = s) (removeUserFromGroup group groupName ⟨fields, u⟩)
      (fun _ => Operated u groupName .remove s) fun _ => Operated u groupName .remove s := by
  unfold removeUserFromGroup
  rw [deleteMembership_eq (sanitizeUsername_text u) hname]
  refine .bind ((does_updateGroups hfields _).post (fun _ _ h => h) fun _ _ h => h.elim) fun _ => ?_
  refine .bind (Q := fun _ s₁ => Written u groupName .remove s s₁) (.ask ?_ ?_) fun _ => ?_
  · rintro _ a s' rfl ⟨-, rfl⟩
    exact ⟨⟨_, (Dict.get?_set _ _ _ _).trans (if_pos rfl), henabled⟩, rfl, rfl, rfl, by simp⟩
  · rintro _ e s' rfl ⟨⟨⟩, -⟩
  · refine .of_forall fun s₁ hs₁ => (does_groupMembershipUpdated hname
      (hs₁.groups ▸ hgroup) .remove).post ?_ ?_
    · exact fun _ _ h => hs₁.operated ⟨group, hgroup, hon⟩ h
    · exact fun _ _ h => hs₁.operated ⟨group, hgroup, hon⟩ h

theorem does_admittedUser (hu : sanitizeUsername username = .ok u)
    (hfields : s.users.get? u = some fields) (henabled : fields.enabled = true) (force : Bool) :
    Does serves (· = s) (admittedUsers (admission force) [username])
      (fun users s' => s' = s ∧ users = [⟨fields, u⟩]) fun _ _ => False := by
  unfold admittedUsers
  rw [getUser_eq hu]
  refine .bind (Q := fun user s' => s' = s ∧ user = some ⟨fields, u⟩) (.ask ?_ ?_)
    fun user => .of_imp ?_
  · rintro _ a s' rfl ⟨ha, rfl⟩
    refine ⟨rfl, (Except.ok.inj ha).trans ?_⟩
    rw [Store.user?, hfields]
    rfl
  · rintro _ e s' rfl ⟨⟨⟩, -⟩
  · rintro rfl
    have hadmission : admission force username (some ⟨fields, u⟩) = .ok (some ⟨fields, u⟩) := by
      simp [admission, henabled]
    rw [hadmission]
    exact .pure fun _ hs => ⟨hs, rfl⟩

theorem does_foundGroup (hname : isEmptyString (some groupName) = false)
    (hgroup : s.groups.get? groupName = some group) :
    Does serves (· = s) (GroupDAO.getGroup groupName)
      (fun found s' => s' = s ∧ found = some group) fun _ _ => False := by
  rw [getGroup_eq hname]
  refine .ask ?_ ?_
  · rintro _ a s' rfl ⟨ha, rfl⟩
    exact ⟨rfl, (Except.ok.inj ha).trans hgroup⟩
  · rintro _ e s' rfl ⟨⟨⟩, -⟩

def membershipOperation (operation : MembershipOperation) (username groupName : String)
    (force : Bool) : Operation Unit :=
  match operation with
  | .add => addUsersToGroup [username] groupName
  | .remove => removeUsersFromGroup [username] groupName force

theorem does_membershipOperation (hu : sanitizeUsername username = .ok u)
    (hname : isEmptyString (some groupName) = false) (hs : Admits u groupName s)
    (operation : MembershipOperation) (force : Bool) :
    Does serves (· = s) (membershipOperation operation username groupName force)
      (fun _ => Operated u groupName operation s) fun _ => Operated u groupName operation s := by
  obtain ⟨⟨group, hgroup, hon⟩, fields, hfields, henabled⟩ := hs
  cases operation with
  | add =>
    simp only [membershipOperation]
    unfold addUsersToGroup
    rw [requireNonempty_eq hname]
    refine .ite (fun h => by simp at h) fun _ => .bind (Q := fun _ => (· = s)) (.pure fun _ hs => hs)
      fun _ => ?_
    refine .bind ((does_foundGroup hname hgroup).post (fun _ _ h => h) fun _ _ h => h.elim)
      fun found => .of_imp ?_
    rintro rfl
    refine .ite (fun h => by simp [hon] at h) fun _ => ?_
    refine .bind ((does_admittedUser hu hfields henabled false).post (fun _ _ h => h)
      fun _ _ h => h.elim) fun users => .of_imp ?_
    rintro rfl
    exact .bind (does_addUserToGroup hname hgroup hon hfields henabled) fun _ => .pure fun _ h => h
  | remove =>
    simp only [membershipOperation]
    unfold removeUsersFromGroup
    rw [requireNonempty_eq hname]
    refine .ite (fun h => by simp at h) fun _ => .bind (Q := fun _ => (· = s)) (.pure fun _ hs => hs)
      fun _ => ?_
    refine .bind ((does_foundGroup hname hgroup).post (fun _ _ h => h) fun _ _ h => h.elim)
      fun found => .of_imp ?_
    rintro rfl
    refine .ite (fun h => by simp [hon] at h) fun _ => ?_
    refine .bind ((does_admittedUser hu hfields henabled force).post (fun _ _ h => h)
      fun _ _ h => h.elim) fun users => .of_imp ?_
    rintro rfl
    exact .bind (does_removeUserFromGroup hname hgroup hon hfields henabled)
      fun _ => .pure fun _ h => h

end Operations

/-- The accounts with the queue of their tasks, and the time of the last operation. -/
structure Memberships extends World where
  queue : TaskManager.Queue
  clock : ℕ

inductive MembershipAction where
  | operate (operation : MembershipOperation) (username : String) (force : Bool) (now : ℕ)
  | deliver (givenUp : Bool)

/-- The first task of the queue runs. If it raises, its message stays, up to the time when it is
given up. -/
inductive Delivery : Memberships → Bool → Memberships → Prop
  | deliver {s : Memberships} {payload : MembershipPayload} {rest : List MembershipPayload}
      {givenUp : Bool} : s.queue.messages = payload :: rest →
      Delivery s givenUp
        { s with
          toWorld := (TaskManager.executeTask payload s.toWorld).2
          queue := if (TaskManager.executeTask payload s.toWorld).1 || givenUp then s.queue.delete
            else s.queue }

section Runs

variable (sha256 : String → String) (renews : Bool) (u : Username) (groupName : String)

/-- An operation on the user, at a time when its messages come to the queue, or a task. -/
inductive MembershipStep : Memberships → MembershipAction → Memberships → Prop
  | operate {s : Memberships} {operation : MembershipOperation} {username : String} {force : Bool}
      {now : ℕ} {outcome : Except Raised Unit} {store : Store} {sent : List Task} :
      sanitizeUsername username = .ok u → s.clock ≤ now →
      Program.Execution serves (membershipOperation operation username groupName force) s.store
        outcome store →
      store.tasks = s.store.tasks ++ sent →
      MembershipStep s (.operate operation username force now)
        { s with
          store
          queue := (sent.filterMap Task.membershipPayload?).foldl
            (TaskManager.send sha256 renews now) s.queue
          clock := now }
  | deliver {s s' : Memberships} {givenUp : Bool} : Delivery s givenUp s' →
      MembershipStep s (.deliver givenUp) s'

def Memberships.inTable (s : Memberships) : Bool := decide ((groupName, u) ∈ s.store.members.keys)

def Memberships.inDirectory (s : Memberships) : Bool := s.directory.isMember groupName u.text

/-- Whenever all the tasks have run, the directory has the user if and only if the table has. -/
def Memberships.Converges (s : Memberships) : Prop :=
  ∀ t s', Run Delivery s t s' → s'.queue.messages = [] →
    s'.inDirectory u groupName = s'.inTable u groupName

def Memberships.told (s : Memberships) : Bool :=
  if s.directory.readonly then s.inDirectory u groupName
  else FifoQueue.settled (fun payload => decide (payload.operation = .add)) s.queue.messages
    (s.inDirectory u groupName)

/-- The message of an operation comes to a directory that is written. The queue has not taken the
same one in the last five minutes, and the pool lets the operation come to its message. -/
def Memberships.Hears (s : Memberships) (operation : MembershipOperation) (now : ℕ) : Prop :=
  s.directory.readonly = false ∧ PoolTakes u groupName s.store ∧
    s.queue.repeats (TaskManager.rules renews)
      (TaskManager.messageDedupeId sha256 ⟨groupName, u.text, operation⟩) now = false

/-- The directory hears of the operation, or has been told the same before. -/
def Heard (e : Edge Memberships MembershipAction) : Prop :=
  match e.label with
  | .operate operation _ _ now => e.pre.Hears sha256 renews u groupName operation now ∨
      e.pre.told u groupName = decide (operation = .add)
  | .deliver _ => True

/-- The user and the group are there, and the tasks are about them. -/
structure Memberships.Serving (s : Memberships) : Prop where
  has : s.toWorld.Has groupName
  admits : Admits u groupName s.store
  messages : ∀ payload ∈ s.queue.messages, payload.groupName = groupName ∧ payload.username = u.text

structure Memberships.Start (s : Memberships) : Prop extends s.Serving u groupName where
  idle : s.queue.messages = []
  agrees : s.inDirectory u groupName = s.inTable u groupName

end Runs

section Steps

variable {sha256 : String → String} {renews : Bool} {u : Username} {groupName : String}
  {s s' : Memberships}

open Memberships

theorem Memberships.told_of_idle (h : s.queue.messages = []) :
    s.told u groupName = s.inDirectory u groupName := by
  simp [told, h]

theorem Memberships.Serving.delivery (h : s.Serving u groupName) {givenUp : Bool}
    (hstep : Delivery s givenUp s') : s'.Serving u groupName ∧
      s'.inTable u groupName = s.inTable u groupName ∧
      s'.told u groupName = s.told u groupName := by
  cases hstep with
  | @deliver payload rest _ hmessages =>
    obtain ⟨rfl, huser⟩ := h.messages payload (by simp [hmessages])
    obtain ⟨hstore, hreadonly, hentry, hmember⟩ := TaskManager.told_executeTask h.has
    rw [huser] at hmember
    refine ⟨⟨⟨h.has.name, ?_, hentry⟩, ?_, ?_⟩, ?_, ?_⟩
    · simpa only [hstore] using h.has.group
    · simpa only [hstore] using h.admits
    · intro message hmessage
      refine h.messages message ?_
      split at hmessage
      · exact List.mem_of_mem_tail hmessage
      · exact hmessage
    · simp only [inTable, hstore]
    · simp only [told, inDirectory, hreadonly, hmember, World.after, huser]
      cases s.directory.readonly with
      | true => rfl
      | false =>
        simp only [Bool.false_eq_true, if_false, hmessages]
        split <;> simp [FifoQueue.delete, hmessages]

theorem Memberships.Serving.operate (h : s.Serving u groupName) {operation : MembershipOperation}
    {username : String} {force : Bool} {now : ℕ}
    (hstep : MembershipStep sha256 renews u groupName s (.operate operation username force now) s') :
    s'.Serving u groupName ∧ s'.inTable u groupName = decide (operation = .add) ∧
      (s.Hears sha256 renews u groupName operation now ∧
          s'.told u groupName = decide (operation = .add) ∨
        ¬ s.Hears sha256 renews u groupName operation now ∧
          s'.told u groupName = s.told u groupName) := by
  cases hstep with
  | @operate _ _ _ _ outcome store sent hu hclock hrun htasks =>
    have hdone : Operated u groupName operation s.store store := by
      have hends := (does_membershipOperation hu h.has.name h.admits operation force).execution rfl
        hrun
      cases outcome <;> exact hends
    have hsent : (PoolTakes u groupName s.store ∧ sent = [membershipTask u groupName operation]) ∨
        ¬ PoolTakes u groupName s.store ∧ sent = [] := by
      rcases hdone.tasks with ⟨htakes, htask⟩ | ⟨hrefuses, htask⟩
      · exact .inl ⟨htakes, List.append_cancel_left (htasks.symm.trans htask)⟩
      · exact .inr ⟨hrefuses, List.append_cancel_left
          (htasks.symm.trans (htask.trans (List.append_nil _).symm))⟩
    have hserving : ∀ queue : TaskManager.Queue,
        (∀ payload ∈ queue.messages, payload ∈ s.queue.messages ∨
          payload = ⟨groupName, u.text, operation⟩) →
        Memberships.Serving u groupName { s with store, queue, clock := now } := by
      refine fun queue hqueue => ⟨⟨h.has.name, hdone.admits.group, h.has.entry⟩, hdone.admits,
        fun payload hpayload => ?_⟩
      rcases hqueue payload hpayload with hmem | rfl
      · exact h.messages payload hmem
      · exact ⟨rfl, rfl⟩
    have htable : decide ((groupName, u) ∈ store.members.keys) = decide (operation = .add) := by
      simp only [hdone.member]
    rcases hsent with ⟨htakes, rfl⟩ | ⟨hrefuses, rfl⟩
    · simp only [membershipTask, List.filterMap_cons, List.filterMap_nil, Task.membershipPayload?,
        List.foldl_cons, List.foldl_nil, TaskManager.send]
      refine ⟨hserving _ fun payload hpayload => ?_, htable, ?_⟩
      · rw [FifoQueue.messages_send] at hpayload
        split at hpayload
        · exact .inl hpayload
        · simpa using hpayload
      · simp only [told, inDirectory, FifoQueue.messages_send]
        cases hreadonly : s.directory.readonly with
        | true => exact .inr ⟨fun hhears => Bool.noConfusion (hreadonly.symm.trans hhears.1), rfl⟩
        | false =>
          simp only [Bool.false_eq_true, if_false]
          split
          · next hrepeats =>
            exact .inr ⟨fun hhears => Bool.noConfusion (hrepeats.symm.trans hhears.2.2), rfl⟩
          · next hrepeats =>
            exact .inl ⟨⟨hreadonly, htakes, Bool.eq_false_iff.mpr hrepeats⟩, by simp⟩
    · exact ⟨hserving s.queue fun payload hpayload => .inl hpayload, htable,
        .inr ⟨fun hhears => hrefuses hhears.2.1, rfl⟩⟩

theorem Memberships.exists_idle (s : Memberships) :
    ∃ t s', Run Delivery s t s' ∧ s'.queue.messages = [] := by
  generalize hlength : s.queue.messages.length = n
  induction n generalizing s with
  | zero => exact ⟨[], s, .nil, List.length_eq_zero_iff.mp hlength⟩
  | succ n ih =>
    obtain ⟨payload, rest, hmessages⟩ := List.exists_cons_of_length_eq_add_one hlength
    have hstep : Delivery s true { s with
        toWorld := (TaskManager.executeTask payload s.toWorld).2, queue := s.queue.delete } := by
      have hdelivery := @Delivery.deliver s payload rest true hmessages
      rwa [Bool.or_true, if_pos rfl] at hdelivery
    have hrest : s.queue.delete.messages.length = n := by simp [FifoQueue.delete, hlength]
    obtain ⟨t, s', hrun, hidle⟩ := ih { s with
      toWorld := (TaskManager.executeTask payload s.toWorld).2, queue := s.queue.delete } hrest
    exact ⟨_, s', (Run.single hstep).append hrun, hidle⟩

theorem Memberships.Serving.deliveries (h : s.Serving u groupName) {t : List (Edge Memberships Bool)}
    (hrun : Run Delivery s t s') : s'.Serving u groupName ∧
      s'.inTable u groupName = s.inTable u groupName ∧ s'.told u groupName = s.told u groupName := by
  refine hrun.invariant (fun s₁ => s₁.Serving u groupName ∧
    s₁.inTable u groupName = s.inTable u groupName ∧ s₁.told u groupName = s.told u groupName)
    ⟨h, rfl, rfl⟩ ?_
  rintro s₁ givenUp s₂ ⟨hserving, htable, htold⟩ hstep
  obtain ⟨hserving', htable', htold'⟩ := hserving.delivery hstep
  exact ⟨hserving', htable'.trans htable, htold'.trans htold⟩

theorem Memberships.Serving.converges_iff (h : s.Serving u groupName) :
    s.Converges u groupName ↔ s.told u groupName = s.inTable u groupName := by
  constructor
  · intro hconverges
    obtain ⟨t, s', hrun, hidle⟩ := s.exists_idle
    obtain ⟨-, htable, htold⟩ := h.deliveries hrun
    rw [← htable, ← htold, told_of_idle hidle]
    exact hconverges t s' hrun hidle
  · intro hagrees t s' hrun hidle
    obtain ⟨-, htable, htold⟩ := h.deliveries hrun
    rw [htable, ← hagrees, ← htold, told_of_idle hidle]

theorem Memberships.Serving.step (h : s.Serving u groupName) {a : MembershipAction}
    (hstep : MembershipStep sha256 renews u groupName s a s') : s'.Serving u groupName := by
  cases a with
  | operate operation username force now => exact (h.operate hstep).1
  | deliver givenUp =>
    cases hstep with
    | deliver hdelivery => exact (h.delivery hdelivery).1

/-- After an operation the tasks make the directory agree if and only if it hears of the operation,
or knows. -/
theorem Memberships.Serving.converges_operate_iff (h : s.Serving u groupName)
    {operation : MembershipOperation} {username : String} {force : Bool} {now : ℕ}
    (hstep : MembershipStep sha256 renews u groupName s (.operate operation username force now) s') :
    s'.Converges u groupName ↔
      Heard sha256 renews u groupName ⟨s, .operate operation username force now, s'⟩ := by
  obtain ⟨hserving, htable, htold⟩ := h.operate hstep
  rw [hserving.converges_iff, htable]
  rcases htold with ⟨hhears, htold⟩ | ⟨hhears, htold⟩
  · exact iff_of_true htold (.inl hhears)
  · rw [htold]
    exact ⟨.inr, fun hheard => hheard.resolve_left hhears⟩

/-- The directory comes to agree with the table after every step of a run if and only if each
operation is heard of, or says what the directory knows. -/
theorem directory_follows_iff {s₀ : Memberships} {t : List (Edge Memberships MembershipAction)}
    (hrun : Run (MembershipStep sha256 renews u groupName) s₀ t s) (h₀ : s₀.Start u groupName) :
    (∀ e ∈ t, e.post.Converges u groupName) ↔ ∀ e ∈ t, Heard sha256 renews u groupName e := by
  constructor
  · have hedges : ∀ e ∈ t, e.post.Converges u groupName → Heard sha256 renews u groupName e := by
      refine hrun.forall_edges (Serving u groupName) h₀.toServing
        (fun hserving hstep => hserving.step hstep) ?_
      intro s a s' hserving hstep hconverges
      cases a with
      | operate operation username force now =>
        exact (hserving.converges_operate_iff hstep).mp hconverges
      | deliver givenUp => trivial
    exact fun hall e he => hedges e he (hall e he)
  · intro hheard
    have hstep : ∀ {s : Memberships} {a : MembershipAction} {s' : Memberships},
        s.Serving u groupName ∧ s.Converges u groupName →
        MembershipStep sha256 renews u groupName s a s' → Heard sha256 renews u groupName ⟨s, a, s'⟩ →
        s'.Serving u groupName ∧ s'.Converges u groupName := by
      rintro s a s' ⟨hserving, hconverges⟩ hstep hheard
      refine ⟨hserving.step hstep, ?_⟩
      cases a with
      | operate operation username force now =>
        exact (hserving.converges_operate_iff hstep).mpr hheard
      | deliver givenUp =>
        cases hstep with
        | deliver hdelivery =>
          obtain ⟨hserving', htable, htold⟩ := hserving.delivery hdelivery
          rw [hserving'.converges_iff, htable, htold]
          exact hserving.converges_iff.mp hconverges
    have hstart : s₀.Converges u groupName := by
      rw [h₀.toServing.converges_iff, told_of_idle h₀.idle]
      exact h₀.agrees
    exact hrun.forall_edges_of (fun s => s.Serving u groupName ∧ s.Converges u groupName)
      ⟨h₀.toServing, hstart⟩ hstep hheard fun hI hs hP => (hstep hI hs hP).2

end Steps

def physics : Group := ⟨"Physics Project Group", 5002, .project, some "physics", true⟩

def newcomer : Memberships where
  store := { enrolled with groups := Dict.empty.set "physics-project-group" physics }
  directory := ⟨false, Dict.empty.set "physics-project-group" ∅⟩
  projects := ⟨[("physics-project-group", "physics")], Dict.empty⟩
  queue := ⟨[], []⟩
  clock := 0

def Memberships.afterOperation (operation : MembershipOperation) (now : ℕ) (s : Memberships) :
    Memberships :=
  let store :=
    ((membershipOperation operation "alice" "physics-project-group" false).runAlone reply s.store).2
  { s with
    store
    queue := ((store.tasks.drop s.store.tasks.length).filterMap Task.membershipPayload?).foldl
      (TaskManager.send (fun text => text) false now) s.queue
    clock := now }

def Memberships.afterTask (s : Memberships) : Memberships :=
  match s.queue.messages with
  | [] => s
  | payload :: _ =>
    { s with
      toWorld := (TaskManager.executeTask payload s.toWorld).2
      queue := if (TaskManager.executeTask payload s.toWorld).1 || false then s.queue.delete
        else s.queue }

open Memberships

abbrev aliceStep : Memberships → MembershipAction → Memberships → Prop :=
  MembershipStep (fun text => text) false alice "physics-project-group"

theorem step_afterOperation {s : Memberships} {operation : MembershipOperation} {now : ℕ}
    (hclock : s.clock ≤ now) (htasks : s.store.tasks <+: (s.afterOperation operation now).store.tasks) :
    aliceStep s (.operate operation "alice" false now) (s.afterOperation operation now) := by
  refine .operate (sanitizeUsername_text alice) hclock
    (Program.execution_runAlone serves_reply _ _) ?_
  exact List.prefix_iff_eq_append.mp htasks |>.symm

theorem step_afterTask {s : Memberships} (h : s.queue.messages ≠ []) :
    aliceStep s (.deliver false) s.afterTask := by
  unfold afterTask
  split
  · next hnil => exact absurd hnil h
  · next hcons => exact .deliver (.deliver hcons)

def added : Memberships := (newcomer.afterOperation .add 0).afterTask

def removed : Memberships := (added.afterOperation .remove 60000).afterTask

def addedAgain : Memberships := removed.afterOperation .add 120000

def visit : List (Edge Memberships MembershipAction) :=
  [⟨newcomer, .operate .add "alice" false 0, newcomer.afterOperation .add 0⟩,
    ⟨newcomer.afterOperation .add 0, .deliver false, added⟩,
    ⟨added, .operate .remove "alice" false 60000, added.afterOperation .remove 60000⟩,
    ⟨added.afterOperation .remove 60000, .deliver false, removed⟩,
    ⟨removed, .operate .add "alice" false 120000, addedAgain⟩]

theorem run_visit : Run aliceStep newcomer visit addedAgain := by
  have h₁ : aliceStep newcomer (.operate .add "alice" false 0) (newcomer.afterOperation .add 0) :=
    step_afterOperation (by decide +kernel) (by decide +kernel)
  have h₂ : aliceStep (newcomer.afterOperation .add 0) (.deliver false) added :=
    step_afterTask (by decide +kernel)
  have h₃ : aliceStep added (.operate .remove "alice" false 60000)
      (added.afterOperation .remove 60000) :=
    step_afterOperation (by decide +kernel) (by decide +kernel)
  have h₄ : aliceStep (added.afterOperation .remove 60000) (.deliver false) removed :=
    step_afterTask (by decide +kernel)
  have h₅ : aliceStep removed (.operate .add "alice" false 120000) addedAgain :=
    step_afterOperation (by decide +kernel) (by decide +kernel)
  exact ((((Run.single h₁).snoc h₂).snoc h₃).snoc h₄).snoc h₅

theorem start_newcomer : newcomer.Start alice "physics-project-group" where
  has := ⟨by decide +kernel, ⟨_, rfl, rfl⟩, fun _ => by decide +kernel⟩
  admits := ⟨⟨_, rfl, rfl⟩, ⟨_, rfl, rfl⟩⟩
  messages := by simp [newcomer]
  idle := rfl
  agrees := by decide +kernel

theorem directory_follows_visit :
    (∀ e ∈ visit, e.post.Converges alice "physics-project-group") ↔
      ∀ e ∈ visit, Heard (fun text => text) false alice "physics-project-group" e :=
  directory_follows_iff run_visit start_newcomer

/-- The message that the user is added again is dropped. -/
theorem directory_lags : newcomer.Start alice "physics-project-group" ∧
    Run aliceStep newcomer visit addedAgain ∧ addedAgain.queue.messages = [] ∧
      addedAgain.inTable alice "physics-project-group" = true ∧
      addedAgain.inDirectory alice "physics-project-group" = false :=
  ⟨start_newcomer, run_visit, by decide +kernel, by decide +kernel, by decide +kernel⟩

end Idea.Accounts

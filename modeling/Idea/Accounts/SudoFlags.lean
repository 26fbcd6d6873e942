import Mathlib.Logic.Function.Basic
import Idea.Accounts.Calls

/-! # The rights of administrators

Whether a user is an administrator is stored with the user, and again in the user pool as the
membership in a group.
-/

namespace Idea.Accounts

@[ext] structure Flags where
  stored : Username → Option Bool
  pool : Username → Bool

def Flags.setStored (self : Flags) (u : Username) (b : Bool) : Flags :=
  { self with stored := Function.update self.stored u (some b) }

def Flags.setPool (self : Flags) (u : Username) (b : Bool) : Flags :=
  { self with pool := Function.update self.pool u b }

def flags (group : String) (s : Store) : Flags where
  stored u := (s.users.get? u).map UserFields.sudoUser
  pool u := (s.poolUser? u.text).any fun entry => entry.groups.contains group

variable {group : String} {s s' : Store} {f : Flags}

theorem poolUser?_setPoolUser (s : Store) (username name : String) (entry : PoolUser) :
    (s.setPoolUser username entry).poolUser? name =
      if lower name = lower username then some entry else s.poolUser? name :=
  Dict.get?_set s.pool.users (lower username) (lower name) entry

theorem flags_setPoolUser (s : Store) (username : String) (entry : PoolUser) :
    flags group (s.setPoolUser username entry) =
      { flags group s with
        pool := fun u => if u.text = lower username then entry.groups.contains group
          else (flags group s).pool u } := by
  refine Flags.ext rfl (funext fun u => ?_)
  simp only [flags, poolUser?_setPoolUser, u.lower_text]
  split <;> rfl

theorem flags_setPoolUser_of_contains {username : String} {entry entry' : PoolUser}
    (hentry : s.poolUser? username = some entry)
    (h : (∃ u : Username, u.text = lower username) →
      entry'.groups.contains group = entry.groups.contains group) :
    flags group (s.setPoolUser username entry') = flags group s := by
  rw [flags_setPoolUser]
  refine Flags.ext rfl (funext fun u => ?_)
  by_cases hu : u.text = lower username
  · have hlookup : s.poolUser? u.text = some entry := by
      rw [← hentry, Store.poolUser?, Store.poolUser?, u.lower_text, hu]
    simp only [if_pos hu, h ⟨u, hu⟩, flags, hlookup, Option.any_some]
  · simp only [if_neg hu]

def Op.KeepsFlags (group : String) (f : Flags) : Op → Prop
  | .putUser _ | .deleteUser _ | .adminCreateUser _ _ => False
  | .updateUser username updates => ∀ b b', updates.sudoUser = some b →
      f.stored username = some b' → b = b'
  | .adminAddUserToGroup username groupName =>
    groupName = group → ∀ u : Username, u.text = lower username → f.pool u = true
  | .adminRemoveUserFromGroup _ groupName => groupName ≠ group
  | .adminDeleteUser username => ∀ u : Username, u.text = lower username → f.pool u = false
  | _ => True

variable {a : Except Raised Unit}

theorem flags_of_requests {username code : String} {condition : Prop} {change : PoolUser → PoolUser}
    (h : requests username condition code change s a s')
    (hchange : ∀ entry, s.poolUser? username = some entry →
      (∃ u : Username, u.text = lower username) →
      (change entry).groups.contains group = entry.groups.contains group) :
    flags group s' = flags group s := by
  rcases requests_cases h with ⟨entry, hentry, -, -, rfl⟩ | ⟨-, rfl⟩
  · exact flags_setPoolUser_of_contains hentry (hchange entry hentry)
  · rfl

theorem flags_of_keeps {op : Op} {a : Except Raised (Result op)}
    (h : op.KeepsFlags group (flags group s)) (hserves : serves op s a s') :
    flags group s' = flags group s := by
  cases op with
  | putUser _ | deleteUser _ | adminCreateUser _ _ => exact h.elim
  | adminDeleteUser username =>
    simp only [serves] at hserves
    cases hentry : s.poolUser? username with
    | none =>
      rw [hentry] at hserves
      rw [hserves.2]
    | some entry =>
      rw [hentry] at hserves
      rw [hserves.2]
      refine Flags.ext rfl (funext fun u => ?_)
      by_cases hu : u.text = lower username
      · rw [h u hu]
        simp only [flags, Store.poolUser?, u.lower_text, Dict.get?_erase]
        rw [if_pos hu, Option.any_none]
      · simp only [flags, Store.poolUser?, u.lower_text, Dict.get?_erase]
        rw [if_neg hu]
  | updateUser username updates =>
    simp only [serves] at hserves
    cases hfields : s.users.get? username with
    | none =>
      rw [hfields] at hserves
      rw [hserves.2]
    | some fields =>
      rw [hfields] at hserves
      rw [hserves.2]
      refine Flags.ext (funext fun u => ?_) rfl
      simp only [flags, Dict.get?_set]
      split
      · next hu =>
        subst hu
        rw [hfields, Option.map_some, Option.map_some, UserFields.update]
        cases hb : updates.sudoUser with
        | none => rfl
        | some b =>
          have hstored : (flags group s).stored u = some fields.sudoUser := by
            simp only [flags, hfields, Option.map_some]
          rw [h b _ hb hstored, Option.getD_some]
      · rfl
  | adminAddUserToGroup username groupName =>
    refine flags_of_requests hserves fun entry hentry hname => ?_
    by_cases hgroup : groupName = group
    · obtain ⟨u, hu⟩ := hname
      have hpool := h hgroup u hu
      have hlookup : s.poolUser? u.text = some entry := by
        rw [← hentry, Store.poolUser?, Store.poolUser?, u.lower_text, hu]
      simp only [flags, hlookup, Option.any_some] at hpool
      rw [hpool, PoolUser.join, hgroup]
      simp
    · have hne : ¬ group = groupName := fun heq => hgroup heq.symm
      simp [PoolUser.join, List.contains_eq_mem, hne]
  | adminRemoveUserFromGroup username groupName =>
    have hne : ¬ group = groupName := fun heq => h heq.symm
    refine flags_of_requests hserves fun entry _ _ => ?_
    simp [PoolUser.leave, List.contains_eq_mem, hne]
  | adminSetUserPassword _ _ | adminLinkProviderForUser _ _ =>
    exact flags_of_requests hserves fun _ _ _ => rfl
  | adminUpdateUserAttributes _ | adminDisableUser _ =>
    exact flags_of_requests hserves fun _ _ _ => rfl
  | putGroup _ _ =>
    rcases hserves with ⟨-, -, rfl⟩ | ⟨-, -, rfl⟩ <;> rfl
  | setGroupEnabled groupName enabled =>
    simp only [serves] at hserves
    cases hfound : s.groups.get? groupName with
    | none =>
      rw [hfound] at hserves
      rw [hserves.2]
    | some found =>
      rw [hfound] at hserves
      rw [hserves.2]
      rfl
  | _ =>
    obtain ⟨-, rfl⟩ := hserves
    rfl

theorem Op.Quiet.keepsFlags {op : Op} (h : op.Quiet) : op.KeepsFlags group f := by
  cases op with
  | putUser _ | updateUser _ _ | deleteUser _ | adminCreateUser _ _ => exact h.elim
  | adminAddUserToGroup _ _ | adminRemoveUserFromGroup _ _ => exact h.elim
  | adminDeleteUser _ => exact h.elim
  | _ => trivial

theorem leads_keeps {α : Type} {x : Operation α} (hx : x.OnlyCalls (Op.KeepsFlags group f)) :
    Leads (fun s => flags group s = f) x (fun _ s => flags group s = f)
      fun _ s => flags group s = f :=
  .of_onlyCalls hx fun _ hop _ _ _ hs hserves => (flags_of_keeps (hs ▸ hop) hserves).trans hs

theorem leads_quiet {α : Type} {x : Operation α} (hx : x.OnlyCalls Op.Quiet) :
    Leads (fun s => flags group s = f) x (fun _ s => flags group s = f)
      fun _ s => flags group s = f :=
  leads_keeps (hx.mono fun _ => Op.Quiet.keepsFlags)

variable {u : Username}

theorem flags_setPoolUser_text (s : Store) (u : Username) (entry : PoolUser) :
    flags group (s.setPoolUser u.text entry) =
      (flags group s).setPool u (entry.groups.contains group) := by
  rw [flags_setPoolUser]
  refine Flags.ext rfl (funext fun v => ?_)
  simp only [Flags.setPool, Function.update_apply, u.lower_text, Username.text_inj]

@[simp] theorem setPool_setPool (f : Flags) (u : Username) (b b' : Bool) :
    (f.setPool u b).setPool u b' = f.setPool u b' := by
  simp [Flags.setPool]

@[simp] theorem setPool_self (f : Flags) (u : Username) : f.setPool u (f.pool u) = f := by
  simp [Flags.setPool]

theorem flags_of_membership {code : String} {condition : Prop} {change : PoolUser → PoolUser}
    {b : Bool} (h : requests u.text condition code change s a s')
    (hchange : ∀ entry, (change entry).groups.contains group = b) :
    a = .ok () ∧ flags group s' = (flags group s).setPool u b ∨ (∃ e, a = .error e) ∧ s' = s := by
  rcases requests_cases h with ⟨entry, -, -, rfl, rfl⟩ | ⟨he, rfl⟩
  · exact .inl ⟨rfl, by rw [flags_setPoolUser_text, hchange]⟩
  · exact .inr ⟨he, rfl⟩

theorem contains_join (entry : PoolUser) : (entry.join group).groups.contains group = true := by
  simp [PoolUser.join]

theorem contains_leave (entry : PoolUser) : (entry.leave group).groups.contains group = false := by
  simp [PoolUser.leave]

theorem flags_adminCreateUser {email : String} (h : serves (.adminCreateUser u.text email) s a s') :
    a = .ok () ∧ flags group s' = (flags group s).setPool u false ∨
      (∃ e, a = .error e) ∧ s' = s := by
  rcases h with ⟨-, rfl, rfl⟩ | ⟨-, ⟨text, rfl⟩, rfl⟩
  · exact .inl ⟨rfl, flags_setPoolUser_text s u _⟩
  · exact .inr ⟨⟨_, rfl⟩, rfl⟩

theorem leads_ask_change {op : Op} {f' : Flags}
    (h : ∀ s a s', flags group s = f → serves op s a s' →
      (∃ r, a = .ok r) ∧ flags group s' = f' ∨ (∃ e, a = .error e) ∧ s' = s) :
    Leads (fun s => flags group s = f) (ask op) (fun _ s => flags group s = f')
      fun _ s => flags group s = f ∨ flags group s = f' := by
  refine .ask (fun s a s' hs hserves => ?_) (fun s e s' hs hserves => ?_) (fun s e hs _ => .inl hs)
    fun s e a s' hs _ hserves => ?_
  · rcases h s _ s' hs hserves with ⟨-, hf⟩ | ⟨⟨e, he⟩, -⟩
    · exact hf
    · cases he
  · rcases h s _ s' hs hserves with ⟨-, hf⟩ | ⟨-, rfl⟩
    · exact .inr hf
    · exact .inl hs
  · rcases h s _ s' hs hserves with ⟨-, hf⟩ | ⟨-, rfl⟩
    · exact .inr hf
    · exact .inl hs

theorem leads_require {value message : String} :
    Leads (fun s => flags group s = f) (requireNonempty value message)
      (fun _ s => flags group s = f) fun _ s => flags group s = f :=
  leads_quiet (onlyCalls_requireNonempty value message)

section Administrators

variable {config : Config}

theorem leads_adminAddSudoUser :
    Leads (fun s => flags config.getClusterAdministratorsGroup s = f)
      (CognitoUserPool.adminAddSudoUser config u.text)
      (fun _ s => flags config.getClusterAdministratorsGroup s = f.setPool u true)
      fun _ s => flags config.getClusterAdministratorsGroup s = f ∨
        flags config.getClusterAdministratorsGroup s = f.setPool u true := by
  refine .bind (leads_require.post (fun _ _ h => h) fun _ _ h => .inl h) fun _ => ?_
  refine .bind (leads_require.post (fun _ _ h => h) fun _ _ h => .inl h) fun _ => ?_
  refine leads_ask_change fun s a s' hs hserves => ?_
  subst hs
  rcases flags_of_membership hserves contains_join with ⟨ha, hf⟩ | hkept
  · exact .inl ⟨⟨(), ha⟩, hf⟩
  · exact .inr hkept

theorem leads_createPoolEntry {email password : String} {emailVerified sudoUser : Bool} :
    Leads (fun s => flags config.getClusterAdministratorsGroup s = f)
      (createPoolEntry config u.text email password emailVerified sudoUser)
      (fun _ s => flags config.getClusterAdministratorsGroup s = f.setPool u sudoUser)
      fun _ s => ∃ b, flags config.getClusterAdministratorsGroup s = f.setPool u b := by
  have hpool : (f.setPool u false).pool u = false := by
    simp [Flags.setPool]
  have hsame : f = f.setPool u (f.pool u) := (setPool_self f u).symm
  unfold createPoolEntry CognitoUserPool.adminCreateUser
  refine .bind (Q := fun _ s => flags config.getClusterAdministratorsGroup s = f.setPool u false)
    (.ite (fun _ => .raise fun s hs => ⟨_, hs.trans hsame⟩) fun _ => ?_) fun _ => ?_
  · refine .bind (Q := fun _ s => flags config.getClusterAdministratorsGroup s =
      f.setPool u false) ((leads_ask_change fun s a s' hs hserves => ?_).post (fun _ _ h => h) ?_)
      fun _ => ?_
    · subst hs
      rcases flags_adminCreateUser hserves with ⟨ha, hf⟩ | hkept
      · exact .inl ⟨⟨(), ha⟩, hf⟩
      · exact .inr hkept
    · rintro _ s (hs | hs)
      · exact ⟨_, hs.trans hsame⟩
      · exact ⟨_, hs⟩
    · refine (leads_keeps (onlyCalls_whenever fun _ => ?_)).post (fun _ _ h => h) fun _ _ h => ⟨_, h⟩
      refine onlyCalls_adminSetPassword trivial (fun v hv => ?_) trivial
      rw [u.lower_text, Username.text_inj] at hv
      exact hv ▸ hpool
  · refine .bind ((leads_keeps (onlyCalls_whenever fun _ =>
      onlyCalls_adminLinkIdpForUser trivial)).post (fun _ _ h => h)
      fun _ _ h => ⟨_, h⟩) fun _ => ?_
    unfold whenever
    refine .ite (fun h => ?_) fun h => .pure fun s hs => ?_
    · rw [h]
      refine leads_adminAddSudoUser.post (fun _ s hs => ?_) fun _ s hs => ?_
      · rw [hs, setPool_setPool]
      · rcases hs with hs | hs
        · exact ⟨_, hs⟩
        · exact ⟨true, by rw [hs, setPool_setPool]⟩
    · rw [hs, Bool.eq_false_iff.mpr h]

theorem suffix_getClusterAdministratorsGroup (config : Config) :
    "cluster-group".toList <:+ config.getClusterAdministratorsGroup.toList := by
  unfold Config.getClusterAdministratorsGroup
  split
  · assumption
  · refine ⟨(config.administratorsGroupName ++ "-").toList, ?_⟩
    simp only [buildGroupName, GroupType.text, String.toList_append, List.append_assoc]
    rfl

theorem buildGroupName_ne (config : Config) {groupType : GroupType} (name : String)
    (h : ¬ "cluster-group".toList <:+ ("-" ++ groupType.text ++ "-group").toList ∧
      ¬ ("-" ++ groupType.text ++ "-group").toList <:+ "cluster-group".toList) :
    buildGroupName groupType name ≠ config.getClusterAdministratorsGroup := by
  intro heq
  have hsuffix := suffix_getClusterAdministratorsGroup config
  rw [← heq] at hsuffix
  have hown : ("-" ++ groupType.text ++ "-group").toList <:+
      (buildGroupName groupType name).toList := by
    refine ⟨name.toList, ?_⟩
    simp only [buildGroupName, String.toList_append, List.append_assoc]
  rcases Nat.le_total "cluster-group".toList.length
      ("-" ++ groupType.text ++ "-group").toList.length with hle | hle
  · exact h.1 (List.suffix_of_suffix_length_le hsuffix hown hle)
  · exact h.2 (List.suffix_of_suffix_length_le hown hsuffix hle)

theorem getUserGroup_ne (config : Config) (username : String) :
    getUserGroup username ≠ config.getClusterAdministratorsGroup :=
  buildGroupName_ne config username (by decide)

theorem getDefaultProjectGroup_ne (config : Config) :
    getDefaultProjectGroup ≠ config.getClusterAdministratorsGroup :=
  buildGroupName_ne config "default" (by decide)

/-- What the groups of the administrators allow a user who is added to them: the pool is not told,
or it has the user in its group anyway. -/
def Joins (config : Config) (f : Flags) (u : Username) (row : Option Group) (groupName : String) :
    Prop :=
  groupName = config.getClusterAdministratorsGroup → f.pool u = true ∨
    ∀ group, row = some group → group.enabled = true → group.pooled = false

/-- The flags, and the group of the administrators as it is stored. -/
def Unchanged (config : Config) (f : Flags) (row : Option Group) (s : Store) : Prop :=
  flags config.getClusterAdministratorsGroup s = f ∧
    s.groups.get? config.getClusterAdministratorsGroup = row

def Op.LeavesGroup (group : String) : Op → Prop
  | .putGroup groupName _ | .setGroupEnabled groupName _ | .deleteGroup groupName =>
    groupName ≠ group
  | _ => True

theorem group_of_leaves {op : Op} {a : Except Raised (Result op)} (h : op.LeavesGroup group)
    (hserves : serves op s a s') : s'.groups.get? group = s.groups.get? group := by
  cases op with
  | putGroup groupName _ =>
    rcases hserves with ⟨-, -, rfl⟩ | ⟨-, -, rfl⟩
    · exact Dict.get?_set_ne _ (Ne.symm h) _
    · rfl
  | setGroupEnabled groupName enabled =>
    simp only [serves] at hserves
    split at hserves
    · rw [hserves.2]
      exact Dict.get?_set_ne _ (Ne.symm h) _
    · rw [hserves.2]
  | deleteGroup groupName =>
    obtain ⟨-, rfl⟩ := hserves
    exact Dict.get?_erase_ne _ (Ne.symm h)
  | _ => rw [groups_of_serves hserves not_false]

variable {row : Option Group}

theorem leads_unchanged {α : Type} {x : Operation α}
    (hx : x.OnlyCalls fun op => op.KeepsFlags config.getClusterAdministratorsGroup f ∧
      op.LeavesGroup config.getClusterAdministratorsGroup) :
    Leads (Unchanged config f row) x (fun _ => Unchanged config f row)
      fun _ => Unchanged config f row := by
  refine .of_onlyCalls hx fun op hop s a s' hs hserves => ⟨?_, ?_⟩
  · exact (flags_of_keeps (hs.1 ▸ hop.1) hserves).trans hs.1
  · exact (group_of_leaves hop.2 hserves).trans hs.2

theorem Op.Quiet.unchanged {op : Op} (h : op.Quiet) :
    op.KeepsFlags group f ∧ op.LeavesGroup group := by
  refine ⟨h.keepsFlags, ?_⟩
  cases op with
  | putGroup _ _ | setGroupEnabled _ _ | deleteGroup _ => exact h.elim
  | _ => trivial

theorem leads_read {α : Type} {x : Operation α} (hx : x.OnlyCalls Op.Quiet) :
    Leads (Unchanged config f row) x (fun _ => Unchanged config f row)
      fun _ => Unchanged config f row :=
  leads_unchanged (hx.mono fun _ h => h.unchanged)

theorem find_text (s : Store) (u : Username) : s.find u.text = s.user? u := by
  simp only [Store.find, sanitizeUsername_text]

theorem leads_addUserToGroup {found : Group} {groupName : String} {user : User}
    (h : groupName = config.getClusterAdministratorsGroup → found.pooled = true →
      f.pool user.username = true) :
    Leads (Unchanged config f row) (addUserToGroup found groupName user)
      (fun _ => Unchanged config f row) fun _ => Unchanged config f row := by
  refine leads_unchanged (onlyCalls_bind (onlyCalls_bind trivial fun _ => onlyCalls_ask ?_)
    fun _ => onlyCalls_bind ?_ fun _ => onlyCalls_bind (onlyCalls_whenever fun hpooled => ?_)
      fun _ => onlyCalls_ask ⟨trivial, trivial⟩)
  · exact ⟨fun b b' hb => (by cases hb), trivial⟩
  · exact onlyCalls_bind trivial fun _ => onlyCalls_bind (onlyCalls_requireNonempty _ _)
      fun _ => onlyCalls_ask ⟨trivial, trivial⟩
  · refine onlyCalls_adminAddUserToGroup ⟨?_, trivial⟩
    intro hgroup v hv
    rw [user.username.lower_text, Username.text_inj] at hv
    rw [hv]
    exact h hgroup hpooled

theorem leads_addUsersToGroup {groupName : String} (h : Joins config f u row groupName) :
    Leads (Unchanged config f row) (addUsersToGroup [u.text] groupName)
      (fun _ => Unchanged config f row) fun _ => Unchanged config f row := by
  refine .ite (fun _ => .raise fun _ hs => hs) fun _ => ?_
  refine .bind (leads_read (onlyCalls_requireNonempty _ _)) fun _ => .of_forall fun s hs => ?_
  refine .bind ((leads_getGroup groupName).post (fun _ _ h => h) ?_) fun found => ?_
  · rintro _ _ rfl
    exact hs
  · refine .of_imp fun hfound => ?_
    cases found with
    | none => exact .raise (by rintro _ rfl; exact hs)
    | some found =>
      refine .ite (fun _ => .raise (by rintro _ rfl; exact hs)) fun henabled => ?_
      refine .bind ((leads_admittedUsers false [u.text]).post (fun _ _ h => h) ?_) fun users => ?_
      · rintro _ _ rfl
        exact hs
      · refine .of_imp fun husers => .of_state hs (.forEach fun user huser => ?_)
        refine leads_addUserToGroup fun hgroup hpooled => ?_
        have husername : user.username = u := by
          rw [husers.1] at huser
          obtain ⟨name, hname, huser⟩ := List.mem_filterMap.mp huser
          obtain rfl := List.mem_singleton.mp hname
          have hok := (Store.find_eq_some huser).1
          rw [sanitizeUsername_text] at hok
          exact (Except.ok.inj hok).symm
        rcases h hgroup with hpool | hrow
        · exact husername ▸ hpool
        · have hlookup : row = some found := by
            rw [← hs.2, ← hgroup]
            exact hfound.symm
          rw [hrow found hlookup (by simpa using henabled)] at hpooled
          cases hpooled

theorem joins_of_ne {groupName : String} (h : groupName ≠ config.getClusterAdministratorsGroup) :
    Joins config f u row groupName :=
  fun hg => absurd hg h

theorem leads_joinGroups {username : String} {additionalGroups : List String}
    (h : ∀ g ∈ additionalGroups, Joins config f u row g) :
    Leads (Unchanged config f row) (joinGroups u.text (getUserGroup username) additionalGroups)
      (fun _ => Unchanged config f row) fun _ => Unchanged config f row := by
  refine .bind (leads_addUsersToGroup (joins_of_ne (getUserGroup_ne config username))) fun _ => ?_
  refine .bind (leads_addUsersToGroup (joins_of_ne (getDefaultProjectGroup_ne config))) fun _ => ?_
  exact .forEach fun g hg => leads_addUsersToGroup (h g hg)

/-- The two stores say the same of every stored user. -/
def Flags.Agree (f : Flags) : Prop := ∀ u b, f.stored u = some b → b = f.pool u

/-- Flags that agree do so afterwards, and the cluster administrator keeps the flag. -/
structure Flags.Next (config : Config) (f f' : Flags) : Prop where
  agree : f.Agree → f'.Agree
  administrator : ∀ u : Username, u.text = sanitized config.clusterAdministrator →
    f.stored u = some true → f'.stored u = some true

theorem Flags.Next.refl (config : Config) (f : Flags) : f.Next config f := ⟨fun h => h, fun _ _ h => h⟩

theorem Flags.next_setPool (b : Bool) (hu : f.stored u = none) : f.Next config (f.setPool u b) := by
  refine ⟨fun h v b' hv => ?_, fun _ _ h => h⟩
  have hne : v ≠ u := by
    rintro rfl
    rw [show (f.setPool v b).stored v = none from hu] at hv
    cases hv
  simp only [Flags.setPool, Function.update_of_ne hne]
  exact h v b' hv

theorem Flags.next_set (b : Bool)
    (hadministrator : u.text = sanitized config.clusterAdministrator → f.stored u = some true →
      b = true) : f.Next config ((f.setPool u b).setStored u b) := by
  refine ⟨fun h v b' hv => ?_, fun v hv hstored => ?_⟩
  · by_cases hvu : v = u
    · subst hvu
      simpa [Flags.setStored, Flags.setPool, eq_comm] using hv
    · simp only [Flags.setStored, Flags.setPool, Function.update_of_ne hvu] at hv ⊢
      exact h v b' hv
  · by_cases hvu : v = u
    · subst hvu
      simp [Flags.setStored, hadministrator hv hstored]
    · simp only [Flags.setStored, Flags.setPool, Function.update_of_ne hvu]
      exact hstored

theorem flags_stored (s : Store) (u : Username) :
    (flags group s).stored u = (s.user? u).map fun user => user.sudoUser := by
  simp only [flags, Store.user?, Option.map_map]
  rfl

theorem leads_createUserGroup {username groupName : String} {gid : ℤ}
    (h : groupName ≠ config.getClusterAdministratorsGroup) :
    Leads (Unchanged config f row) (createUserGroup username groupName gid)
      (fun _ => Unchanged config f row) fun _ => Unchanged config f row := by
  refine leads_unchanged (onlyCalls_bind ((onlyCalls_getGroup groupName).mono
    fun _ hq => hq.unchanged) fun found => ?_)
  cases found with
  | some _ => trivial
  | none =>
    exact onlyCalls_bind (onlyCalls_requireNonempty _ _) fun _ => onlyCalls_ask ⟨trivial, h⟩

theorem onlyCalls_createPoolEntry (config : Config) (username email password : String)
    (emailVerified sudoUser : Bool) :
    (createPoolEntry config username email password emailVerified sudoUser).OnlyCalls
      (Op.LeavesGroup group) := by
  refine onlyCalls_bind ?_ fun _ => onlyCalls_bind (onlyCalls_whenever fun _ =>
    onlyCalls_adminLinkIdpForUser trivial) fun _ => onlyCalls_whenever fun _ =>
    onlyCalls_adminAddUserToGroup trivial
  unfold CognitoUserPool.adminCreateUser
  split
  · trivial
  · exact onlyCalls_bind (onlyCalls_ask trivial) fun _ => onlyCalls_whenever fun _ =>
      onlyCalls_adminSetPassword trivial trivial trivial

theorem leads_createPoolEntry_unchanged {email password : String} {emailVerified sudoUser : Bool} :
    Leads (Unchanged config f row)
      (createPoolEntry config u.text email password emailVerified sudoUser)
      (fun _ => Unchanged config (f.setPool u sudoUser) row)
      fun _ s => ∃ b, Unchanged config (f.setPool u b) row s := by
  have hrow : Leads (fun s => s.groups.get? config.getClusterAdministratorsGroup = row)
      (createPoolEntry config u.text email password emailVerified sudoUser)
      (fun _ s => s.groups.get? config.getClusterAdministratorsGroup = row)
      fun _ s => s.groups.get? config.getClusterAdministratorsGroup = row :=
    .of_onlyCalls (onlyCalls_createPoolEntry config u.text email password emailVerified sudoUser)
      fun _ hop _ _ _ hs hserves => (group_of_leaves hop hserves).trans hs
  refine ((leads_createPoolEntry.pre fun _ hs => hs.1).and (hrow.pre fun _ hs => hs.2)).post
    (fun _ _ hs => hs) fun _ _ hs => ?_
  obtain ⟨⟨b, hb⟩, hs⟩ := hs
  exact ⟨b, hb, hs⟩

theorem flags_setUser (s : Store) (u : Username) (fields : UserFields) :
    flags group { s with users := s.users.set u fields } =
      (flags group s).setStored u fields.sudoUser := by
  refine Flags.ext (funext fun v => ?_) rfl
  simp only [flags, Flags.setStored, Dict.get?_set, Function.update_apply]
  split <;> rfl

theorem leads_putUser {user : User} {g : Flags} (hg : g = f.setStored user.username user.sudoUser) :
    Leads (Unchanged config f row) (ask (.putUser user)) (fun _ => Unchanged config g row)
      fun _ s => Unchanged config f row s ∨ Unchanged config g row s := by
  have hput : ∀ s a s', Unchanged config f row s → serves (.putUser user) s a s' →
      a = .ok () ∧ Unchanged config g row s' ∨ (∃ e, a = .error e) ∧ s' = s := by
    rintro s a s' ⟨rfl, hrow⟩ (⟨-, rfl, rfl⟩ | ⟨-, rfl, rfl⟩)
    · exact .inl ⟨rfl, (flags_setUser s _ _).trans hg.symm, hrow⟩
    · exact .inr ⟨⟨_, rfl⟩, rfl⟩
  refine .ask (fun s a s' hs h => ?_) (fun s e s' hs h => ?_) (fun _ _ hs _ => .inl hs)
    fun s e a s' hs _ h => ?_
  · rcases hput s _ s' hs h with ⟨-, hs'⟩ | ⟨⟨e, he⟩, -⟩
    · exact hs'
    · cases he
  · rcases hput s _ s' hs h with ⟨he, -⟩ | ⟨-, rfl⟩
    · cases he
    · exact .inl hs
  · rcases hput s _ s' hs h with ⟨-, hs'⟩ | ⟨-, rfl⟩
    · exact .inr hs'
    · exact .inl hs

/-- The new user is an administrator, or the pool is not told when the user joins a group of the
administrators. -/
def MayCreate (config : Config) (s : Store) (request : CreateUserRequest) : Prop :=
  request.sudoUser.getD false = true ∨
    (config.getClusterAdministratorsGroup ∈ request.additionalGroups.getD [] →
      ∀ group, s.groups.get? config.getClusterAdministratorsGroup = some group →
        group.enabled = true → group.pooled = false)

/-- The stores as an operation leaves them, compared with what they said before. -/
def Ended (config : Config) (s s' : Store) : Prop :=
  (flags config.getClusterAdministratorsGroup s).Next config
    (flags config.getClusterAdministratorsGroup s')

theorem Ended.of_flags (h : flags config.getClusterAdministratorsGroup s' =
    flags config.getClusterAdministratorsGroup s) : Ended config s s' := by
  rw [Ended, h]
  exact .refl config _

theorem Ended.of_unchanged {f f' : Flags} (hf : flags config.getClusterAdministratorsGroup s = f)
    (hnext : f.Next config f') (h : Unchanged config f' row s') : Ended config s s' := by
  rw [Ended, h.1, hf]
  exact hnext

theorem leads_createUser {request : CreateUserRequest} (hmay : MayCreate config s request) :
    Leads (· = s) (createUser config request) (fun _ => Ended config s)
      fun _ => Ended config s := by
  have hrefl : ∀ s', s' = s → Ended config s s' := fun s' h => .of_flags (by rw [h])
  refine .bind (.ofExcept (Q := fun _ s' => s' = s) (fun _ _ _ hs => hs)
    fun _ s' _ hs => hrefl s' hs) fun u => ?_
  refine .bind (.ofExcept (Q := fun _ s' => s' = s) (fun _ _ _ hs => hs)
    fun _ s' _ hs => hrefl s' hs) fun _ => ?_
  refine .bind ((leads_getUser u.text).post (fun _ _ h => h) fun _ s' hs => hrefl s' hs)
    fun found => .of_imp fun hfound => ?_
  cases found with
  | some _ => exact .raise hrefl
  | none =>
    have hu : (flags config.getClusterAdministratorsGroup s).stored u = none := by
      rw [flags_stored, ← find_text, ← hfound, Option.map_none]
    generalize hf : flags config.getClusterAdministratorsGroup s = f at hu
    generalize hrow : s.groups.get? config.getClusterAdministratorsGroup = row
    have hunchanged : ∀ s', Unchanged config f row s' → Ended config s s' :=
      fun _ => .of_unchanged hf (.refl config f)
    refine .of_state (P := Unchanged config f row) ⟨hf, hrow⟩ ?_
    refine .bind (.ofExcept (Q := fun _ => Unchanged config f row) (fun _ _ _ hs => hs)
      fun _ s' _ hs => hunchanged s' hs) fun email => ?_
    refine .bind ((leads_read (onlyCalls_newPassword request)).post (fun _ _ h => h)
      fun _ s' hs => hunchanged s' hs) fun password => ?_
    refine .bind ((leads_read (onlyCalls_givenOr (onlyCalls_ask trivial))).post (fun _ _ h => h)
      fun _ s' hs => hunchanged s' hs) fun uid => ?_
    refine .bind ((leads_read (onlyCalls_givenOr (onlyCalls_ask trivial))).post (fun _ _ h => h)
      fun _ s' hs => hunchanged s' hs) fun gid => ?_
    generalize hb : request.sudoUser.getD false = b
    have hpool : ∀ b' s', Unchanged config (f.setPool u b') row s' → Ended config s s' :=
      fun b' _ => .of_unchanged hf (Flags.next_setPool b' hu)
    have hstored : ∀ s', Unchanged config ((f.setPool u b).setStored u b) row s' →
        Ended config s s' :=
      fun _ => .of_unchanged hf (Flags.next_set b fun _ h => by rw [hu] at h; cases h)
    refine .bind (leads_createPoolEntry_unchanged.post (fun _ _ hs => hs)
      (by rintro _ s' ⟨b', hs⟩; exact hpool b' s' hs)) fun _ => ?_
    refine .bind ((leads_createUserGroup (getUserGroup_ne config u.text)).post (fun _ _ h => h)
      fun _ s' hs => hpool b s' hs) fun _ => ?_
    refine .bind (Q := fun _ => Unchanged config ((f.setPool u b).setStored u b) row)
      ((leads_putUser rfl).post (fun _ _ h => h) fun _ s' hs => hs.elim (hpool b s') (hstored s'))
      fun _ => ?_
    refine .bind ((leads_read (onlyCalls_send _)).post (fun _ _ h => h)
      fun _ s' hs => hstored s' hs) fun _ => ?_
    refine .bind ((leads_joinGroups fun g hg => ?_).post (fun _ _ h => h)
      fun _ s' hs => hstored s' hs) fun _ => ?_
    · intro hgroup
      rcases hmay with hsudo | hgroups
      · left
        rw [hb] at hsudo
        simp [Flags.setStored, Flags.setPool, hsudo]
      · right
        exact hrow ▸ hgroups (hgroup ▸ List.mem_of_mem_erase hg)
    refine .bind ((leads_read (onlyCalls_send _)).post (fun _ _ h => h)
      fun _ s' hs => hstored s' hs) fun _ => ?_
    refine .bind ((leads_read (onlyCalls_whenever fun _ => onlyCalls_changeLdapPassword _ _)).post
      (fun _ _ h => h) fun _ s' hs => hstored s' hs) fun _ => ?_
    exact .pure hstored

end Administrators

end Idea.Accounts

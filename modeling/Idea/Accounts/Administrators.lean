import Idea.Accounts.SudoFlags
import Idea.System.Run

/-! # Runs of the operations on administrators

While no operation writes one of the two stores alone, they say the same after each of them.
-/

namespace Idea.Accounts

open Program (Does Execution)

variable {config : Config} {s s' : Store} {u : Username} {f : Flags}

def MayModify (s : Store) (request : ModifyUserRequest) : Prop :=
  ∀ user, s.find request.username = some user → user.enabled = true →
    ∀ b, request.sudoUser = some b → b = user.sudoUser

theorem onlyCalls_modifyEmail {username : String} {existing : User} {email : Option String} :
    (modifyEmail config username existing email).OnlyCalls fun op =>
      op.KeepsFlags config.getClusterAdministratorsGroup f := by
  unfold modifyEmail
  split
  · trivial
  · refine onlyCalls_bind trivial fun newEmail => ?_
    split
    · trivial
    · exact onlyCalls_bind (onlyCalls_ask trivial) fun _ => onlyCalls_bind (onlyCalls_whenever
        fun _ => onlyCalls_adminLinkIdpForUser trivial) fun _ => trivial

theorem leads_modifyUser {request : ModifyUserRequest} (hmay : MayModify s request) :
    Leads (· = s) (modifyUser config request) (fun _ => Ended config s)
      fun _ => Ended config s := by
  have hrefl : ∀ s', s' = s → Ended config s s' := fun s' h => .of_flags (by rw [h])
  refine .bind (Q := fun u s' => s' = s ∧ sanitizeUsername request.username = .ok u)
    (.ofExcept (fun _ _ hu hs => ⟨hs, hu⟩) fun _ s' _ hs => hrefl s' hs) fun u =>
    .of_imp fun hu => ?_
  refine .bind ((leads_getUser u.text).post (fun _ _ h => h) fun _ s' hs => hrefl s' hs)
    fun found => .of_imp fun hfound => ?_
  have hfind : s.find request.username = found := by
    rw [hfound, find_text]
    simp only [Store.find, hu]
  cases found with
  | none => exact .raise hrefl
  | some user =>
    refine .ite (fun _ => .raise hrefl) fun henabled => ?_
    have hstored : (flags config.getClusterAdministratorsGroup s).stored u =
        some user.sudoUser := by
      rw [flags_stored, ← find_text, ← hfound, Option.map_some]
    have hflag : ∀ b b', request.sudoUser = some b →
        (flags config.getClusterAdministratorsGroup s).stored u = some b' → b = b' := by
      intro b b' hb hb'
      rw [hmay user hfind (by simpa using henabled) b hb]
      exact Option.some.inj (hstored.symm.trans hb')
    refine .of_state (P := fun s' => flags config.getClusterAdministratorsGroup s' =
      flags config.getClusterAdministratorsGroup s) rfl
      ((leads_keeps ?_).post (fun _ _ => Ended.of_flags) fun _ _ => Ended.of_flags)
    refine onlyCalls_bind onlyCalls_modifyEmail fun email => onlyCalls_bind ?_ fun updated =>
      onlyCalls_bind (onlyCalls_ask trivial) fun _ => trivial
    unfold UserDAO.updateUser
    rw [sanitizeUsername_text]
    exact onlyCalls_ask hflag

def splits : Op × CallOutcome Raised → Bool
  | (.updateUser _ _, .lost _) => true
  | (.adminAddUserToGroup _ _, .refused _) => true
  | (.adminRemoveUserFromGroup _ _, .refused _) => true
  | _ => false

def Whole (log : List (Op × CallOutcome Raised)) : Prop := ∀ call ∈ log, splits call = false

instance (log : List (Op × CallOutcome Raised)) : Decidable (Whole log) :=
  inferInstanceAs (Decidable (∀ call ∈ log, splits call = false))

theorem not_whole_append {log : List (Op × CallOutcome Raised)} {call : Op × CallOutcome Raised}
    (h : splits call = true) : ¬ Whole (log ++ [call]) :=
  fun hwhole => Bool.false_ne_true ((hwhole call (by simp)).symm.trans h)

/-- A name under which the table and the pool have the same user, and the pool has the group. -/
structure Known (config : Config) (s : Store) (username : String) : Prop where
  name : lower username = sanitized username
  entry : ∃ entry, s.poolUser? username = some entry
  group : config.getClusterAdministratorsGroup ∈ s.pool.groups

theorem isEmptyString_getClusterAdministratorsGroup (config : Config) :
    isEmptyString (some config.getClusterAdministratorsGroup) = false := by
  refine isEmptyString_of_mem (c := 'c') ?_ (by decide)
  exact (suffix_getClusterAdministratorsGroup config).mem (by decide)

theorem requests_known {username code : String} {change : PoolUser → PoolUser}
    {a : Except Raised Unit} {b : Bool} (hu : lower username = u.text)
    (hknown : Known config s username)
    (h : requests username (config.getClusterAdministratorsGroup ∈ s.pool.groups) code change
      s a s')
    (hchange : ∀ entry, (change entry).groups.contains config.getClusterAdministratorsGroup = b) :
    (∃ r, a = .ok r) ∧ flags config.getClusterAdministratorsGroup s' =
      (flags config.getClusterAdministratorsGroup s).setPool u b := by
  obtain ⟨entry, hentry⟩ := hknown.entry
  rcases requests_cases h with ⟨entry, -, -, rfl, rfl⟩ | ⟨⟨e, rfl⟩, rfl⟩
  · refine ⟨⟨(), rfl⟩, ?_⟩
    rw [show s.setPoolUser username (change entry) = s.setPoolUser u.text (change entry) by
      rw [Store.setPoolUser, Store.setPoolUser, hu, u.lower_text], flags_setPoolUser_text, hchange]
  · unfold requests at h
    rw [hentry] at h
    rcases h with ⟨-, he, -⟩ | ⟨hgroup, -, -⟩
    · cases he
    · exact absurd hknown.group hgroup

theorem does_ask_membership {op : Op} {b : Bool} (hsplits : ∀ e, splits (op, .refused e) = true)
    (hserves : ∀ a s', serves op s a s' → (∃ r, a = .ok r) ∧
      flags config.getClusterAdministratorsGroup s' =
        (flags config.getClusterAdministratorsGroup s).setPool u b) :
    Does effect (fun r => r.store = s) (ask op)
      (fun _ r => flags config.getClusterAdministratorsGroup r.store =
        (flags config.getClusterAdministratorsGroup s).setPool u b)
      fun _ r => Whole r.log → flags config.getClusterAdministratorsGroup r.store =
        (flags config.getClusterAdministratorsGroup s).setPool u b := by
  refine .ask_record (fun r a s' hr h => ?_) (fun r e s' hr h => ?_)
    (fun r e hr _ hwhole => absurd hwhole (not_whole_append (hsplits e)))
    fun r e a s' hr _ h _ => ?_
  · exact (hserves _ s' (hr ▸ h)).2
  · obtain ⟨⟨_, ha⟩, -⟩ := hserves _ s' (hr ▸ h)
    cases ha
  · exact (hserves _ s' (hr ▸ h)).2

variable {username : String} {b : Bool}

theorem does_setFlag {x : Operation Unit} {user : User} (hu : sanitizeUsername username = .ok u)
    (huser : s.user? u = some user)
    (hadministrator : u.text = sanitized config.clusterAdministrator → b = true)
    (hx : ∀ s₁ : Store, s₁.pool = s.pool → Does effect (fun r => r.store = s₁) x
      (fun _ r => flags config.getClusterAdministratorsGroup r.store =
        (flags config.getClusterAdministratorsGroup s₁).setPool u b)
      fun _ r => Whole r.log → flags config.getClusterAdministratorsGroup r.store =
        (flags config.getClusterAdministratorsGroup s₁).setPool u b) :
    Does effect (fun r => r.store = s)
      (do
        let _ ← UserDAO.updateUser username { sudoUser := some b }
        x
        send (.syncUser username))
      (fun _ r => Whole r.log → Ended config s r.store)
      fun _ r => Whole r.log → Ended config s r.store := by
  obtain ⟨fields, hfields, rfl⟩ := Option.map_eq_some_iff.mp huser
  obtain ⟨s₁, hs₁⟩ : ∃ s₁ : Store, s₁ =
    { s with users := s.users.set u (fields.update { sudoUser := some b }) } := ⟨_, rfl⟩
  have hnext : ∀ s', flags config.getClusterAdministratorsGroup s' =
      (flags config.getClusterAdministratorsGroup s₁).setPool u b → Ended config s s' := by
    intro s' h
    rw [Ended, h, hs₁, flags_setUser]
    exact Flags.next_set b fun hv _ => hadministrator hv
  unfold UserDAO.updateUser
  rw [hu]
  refine .bind (Q := fun _ r => r.store = s₁)
    (.ask_record (fun r a s' hr h => ?_) (fun r e s' hr h => ?_) (fun r e hr _ _ => ?_)
      fun r e a s' hr _ h hwhole => absurd hwhole (not_whole_append rfl)) fun _ => ?_
  · simp only [serves, hr, hfields] at h
    exact h.2.trans hs₁.symm
  · simp only [serves, hr, hfields] at h
    cases h.1
  · exact .of_flags (by rw [hr])
  · have hpool : s₁.pool = s.pool := by rw [hs₁]
    refine .bind ((hx s₁ hpool).post (fun _ _ h => h) fun _ r h hwhole => hnext _ (h hwhole))
      fun _ => ?_
    exact (leads_quiet (onlyCalls_send _)).does.post (fun _ _ h _ => hnext _ h)
      fun _ _ h _ => hnext _ h

/-- What a change of the flag asks for, where it is one. The administrator of the cluster is known
by the name as it is given. -/
def MayChange (config : Config) (s : Store) (username : String) (b : Bool) : Prop :=
  ∀ user, s.find username = some user → user.sudoUser ≠ b → Known config s username ∧
    (b = false → sanitized username = sanitized config.clusterAdministrator →
      username = config.clusterAdministrator)

theorem Known.of_pool {s₁ : Store} (h : Known config s username) (hpool : s₁.pool = s.pool) :
    Known config s₁ username := by
  refine ⟨h.name, ?_, hpool ▸ h.group⟩
  rw [Store.poolUser?, hpool]
  exact h.entry

theorem ask_adminAddSudoUser (hu : isEmptyString (some username) = false) :
    CognitoUserPool.adminAddSudoUser config username =
      ask (.adminAddUserToGroup username config.getClusterAdministratorsGroup) := by
  simp only [CognitoUserPool.adminAddSudoUser, CognitoUserPool.adminAddUserToGroup,
    requireNonempty, hu, isEmptyString_getClusterAdministratorsGroup, whenever]
  rfl

theorem ask_adminRemoveSudoUser (hu : isEmptyString (some username) = false) :
    CognitoUserPool.adminRemoveSudoUser config username =
      ask (.adminRemoveUserFromGroup username config.getClusterAdministratorsGroup) := by
  simp only [CognitoUserPool.adminRemoveSudoUser, CognitoUserPool.adminRemoveUserFromGroup,
    requireNonempty, hu, isEmptyString_getClusterAdministratorsGroup, whenever]
  rfl

theorem does_addSudoUser (hmay : MayChange config s username true) :
    Does effect (fun r => r.store = s) (addSudoUser config username)
      (fun _ r => Whole r.log → Ended config s r.store)
      fun _ r => Whole r.log → Ended config s r.store := by
  have hrefl : ∀ r : Recorded, r.store = s → Whole r.log → Ended config s r.store :=
    fun r h _ => .of_flags (by rw [h])
  refine .bind ((leads_requireNonempty _ _).does.post (fun _ _ h => h) fun _ r h => hrefl r h.1)
    fun _ => .of_imp fun hnonempty => ?_
  refine .bind ((leads_getUser username).does.post (fun _ _ h => h) fun _ r h => hrefl r h)
    fun found => .of_imp fun hfound => ?_
  cases found with
  | none => exact .raise hrefl
  | some user =>
    refine .ite (fun _ => .pure hrefl) fun hflag => ?_
    obtain ⟨hu, huser, -⟩ := Store.find_eq_some hfound.symm
    obtain ⟨hknown, -⟩ := hmay user hfound.symm hflag
    have hname := hknown.name.trans (sanitizeUsername_eq_ok hu).symm
    rw [ask_adminAddSudoUser hnonempty]
    refine does_setFlag hu huser (fun _ => rfl) fun s₁ hpool => ?_
    refine does_ask_membership (fun _ => rfl) fun a s' h => ?_
    exact requests_known hname (hknown.of_pool hpool) h contains_join

theorem does_removeSudoUser (hmay : MayChange config s username false) :
    Does effect (fun r => r.store = s) (removeSudoUser config username)
      (fun _ r => Whole r.log → Ended config s r.store)
      fun _ r => Whole r.log → Ended config s r.store := by
  have hrefl : ∀ r : Recorded, r.store = s → Whole r.log → Ended config s r.store :=
    fun r h _ => .of_flags (by rw [h])
  refine .bind ((leads_requireNonempty _ _).does.post (fun _ _ h => h) fun _ r h => hrefl r h.1)
    fun _ => .of_imp fun hnonempty => ?_
  refine .ite (fun _ => .raise hrefl) fun hadministrator => ?_
  refine .bind ((leads_getUser username).does.post (fun _ _ h => h) fun _ r h => hrefl r h)
    fun found => .of_imp fun hfound => ?_
  cases found with
  | none => exact .raise hrefl
  | some user =>
    refine .ite (fun _ => .pure hrefl) fun hflag => ?_
    obtain ⟨hu, huser, -⟩ := Store.find_eq_some hfound.symm
    obtain ⟨hknown, hguard⟩ := hmay user hfound.symm (by simpa using hflag)
    have hname := hknown.name.trans (sanitizeUsername_eq_ok hu).symm
    rw [ask_adminRemoveSudoUser hnonempty]
    refine does_setFlag hu huser (fun hadm => ?_) fun s₁ hpool => ?_
    · rw [sanitizeUsername_eq_ok hu] at hadm
      exact absurd (decide_eq_true (hguard rfl hadm)) hadministrator
    · refine does_ask_membership (fun _ => rfl) fun a s' h => ?_
      exact requests_known hname (hknown.of_pool hpool) h contains_leave

inductive Request where
  | createUser (request : CreateUserRequest)
  | modifyUser (request : ModifyUserRequest)
  | addSudoUser (username : String)
  | removeSudoUser (username : String)

def Request.operation (config : Config) : Request → Operation Unit
  | .createUser request => do
    let _ ← Idea.Accounts.createUser config request
    pure ()
  | .modifyUser request => do
    let _ ← Idea.Accounts.modifyUser config request
    pure ()
  | .addSudoUser username => Idea.Accounts.addSudoUser config username
  | .removeSudoUser username => Idea.Accounts.removeSudoUser config username

/-- A request, and what became of the calls that were made for it. -/
structure Handled where
  request : Request
  log : List (Op × CallOutcome Raised)

def Step (config : Config) (s : Store) (handled : Handled) (s' : Store) : Prop :=
  ∃ outcome, Execution effect (handled.request.operation config) ⟨s, []⟩ outcome ⟨s', handled.log⟩

/-- The requests that write none of the two stores alone. -/
def Careful (config : Config) (s : Store) (handled : Handled) : Prop :=
  match handled.request with
  | .createUser request => MayCreate config s request
  | .modifyUser request => MayModify s request
  | .addSudoUser username => MayChange config s username true ∧ Whole handled.log
  | .removeSudoUser username => MayChange config s username false ∧ Whole handled.log

theorem leads_discard {α : Type} {x : Operation α} {P Q : Store → Prop} {E : Raised → Store → Prop}
    (h : Leads P x (fun _ => Q) E) : Leads P (do let _ ← x; pure ()) (fun _ => Q) E :=
  .bind h fun _ => .pure fun _ hs => hs

theorem Step.ended {handled : Handled} (h : Step config s handled s')
    (hcareful : Careful config s handled) : Ended config s s' := by
  obtain ⟨outcome, h⟩ := h
  obtain ⟨request, log⟩ := handled
  cases request with
  | createUser request =>
    have hends := (leads_discard (leads_createUser hcareful)).execution rfl h
    cases outcome <;> exact hends
  | modifyUser request =>
    have hends := (leads_discard (leads_modifyUser hcareful)).execution rfl h
    cases outcome <;> exact hends
  | addSudoUser username =>
    have hends := (does_addSudoUser hcareful.1).execution rfl h
    cases outcome <;> exact hends hcareful.2
  | removeSudoUser username =>
    have hends := (does_removeSudoUser hcareful.1).execution rfl h
    cases outcome <;> exact hends hcareful.2

/-- The stored flag of a user tells whether the pool has the user in the group. -/
def SameRights (config : Config) (s : Store) : Prop :=
  ∀ u fields, s.users.get? u = some fields →
    (fields.sudoUser = true ↔ s.inPoolGroup u.text config.getClusterAdministratorsGroup)

/-- The flag of the administrator of the cluster is not turned off. -/
def KeepsAdministrator (config : Config) (s s' : Store) : Prop :=
  ∀ u fields, u.text = sanitized config.clusterAdministrator → s.users.get? u = some fields →
    fields.sudoUser = true → ∃ fields', s'.users.get? u = some fields' ∧ fields'.sudoUser = true

theorem sameRights_iff :
    SameRights config s ↔ (flags config.getClusterAdministratorsGroup s).Agree := by
  have hpool : ∀ u : Username, (flags config.getClusterAdministratorsGroup s).pool u = true ↔
      s.inPoolGroup u.text config.getClusterAdministratorsGroup := by
    intro u
    simp [flags, Store.inPoolGroup, Option.any_eq_true]
  refine ⟨fun h u b hb => ?_, fun h u fields hfields => ?_⟩
  · obtain ⟨fields, hfields, rfl⟩ := Option.map_eq_some_iff.mp hb
    exact Bool.eq_iff_iff.mpr ((h u fields hfields).trans (hpool u).symm)
  · rw [← hpool u, h u fields.sudoUser (by simp only [flags, hfields, Option.map_some])]

theorem Ended.keepsAdministrator (h : Ended config s s') : KeepsAdministrator config s s' := by
  intro u fields hu hfields hflag
  have hstored := h.administrator u hu (by simp only [flags, hfields, Option.map_some, hflag])
  exact Option.map_eq_some_iff.mp hstored

variable {s₀ : Store} {t : List (Edge Store Handled)}

/-- While no request writes one of the stores alone, a user is an administrator in the table if and
only if it is one in the pool, and the administrator of the cluster stays one. -/
theorem sudo_flags_agree (h₀ : SameRights config s₀) (hrun : Run (Step config) s₀ t s)
    (hcareful : ∀ e ∈ t, Careful config e.pre e.label) :
    SameRights config s ∧ ∀ e ∈ t, KeepsAdministrator config e.pre e.post := by
  have hstep : ∀ {s handled s'}, SameRights config s → Step config s handled s' →
      Careful config s handled → SameRights config s' := fun h hs hc =>
    sameRights_iff.mpr ((hs.ended hc).agree (sameRights_iff.mp h))
  exact ⟨hrun.invariant_of (SameRights config) h₀ hstep hcareful,
    hrun.forall_edges_of (SameRights config) h₀ hstep hcareful
      fun _ hs hc => (hs.ended hc).keepsAdministrator⟩

def started : Store where
  users := (Dict.empty.set administrator (userFields "clusteradmin" true)).set alice
    (userFields "alice" false)
  groups := ∅
  members := ∅
  pool := ⟨(Dict.empty.set "clusteradmin" ⟨true, ["admins-cluster-group"]⟩).set "alice" ⟨true, []⟩,
    ["admins-cluster-group"], ⟨8, true, true, true, true⟩, fun _ => true⟩
  tasks := []

def served (request : Request) (s : Store) : Recorded :=
  ((request.operation cluster).runAlone (replyWith fun _ => .done) ⟨s, []⟩).2

theorem step_served (request : Request) (s : Store) :
    Step cluster s ⟨request, (served request s).log⟩ (served request s).store :=
  ⟨_, Program.execution_runAlone (@effect_replyWith (fun _ => .done) _ fun _ => trivial) _ _⟩

theorem sameRights_started : SameRights cluster started := by
  refine sameRights_iff.mpr fun u b hb => ?_
  obtain ⟨fields, hfields, rfl⟩ := Option.map_eq_some_iff.mp hb
  have hentries : ∀ e ∈ started.users.entries,
      e.2.sudoUser = (flags cluster.getClusterAdministratorsGroup started).pool e.1 := by
    decide +kernel
  exact hentries (u, fields) (Dict.mem_entries_of_get? hfields)

/-- A user is made an administrator. -/
theorem sudo_flags_agree_alice : ∃ t s, Run (Step cluster) started t s ∧
    (flags cluster.getClusterAdministratorsGroup s).stored alice = some true ∧
    SameRights cluster s ∧ ∀ e ∈ t, KeepsAdministrator cluster e.pre e.post := by
  have hrun := Run.single (step_served (.addSudoUser "alice") started)
  refine ⟨_, _, hrun, by decide +kernel, sudo_flags_agree sameRights_started hrun fun e he => ?_⟩
  obtain rfl := List.mem_singleton.mp he
  have hwhole : Whole (served (.addSudoUser "alice") started).log := by decide +kernel
  have hname : lower "alice" = sanitized "alice" := by decide +kernel
  have hgroup : cluster.getClusterAdministratorsGroup ∈ started.pool.groups := by decide +kernel
  have hentry : started.poolUser? "alice" = some ⟨true, []⟩ := by decide +kernel
  exact ⟨fun _ _ _ => ⟨⟨hname, ⟨_, hentry⟩, hgroup⟩, fun h => by cases h⟩, hwhole⟩

/-- The administrator of the cluster is no longer one in the table, and still one in the pool. -/
theorem modifyUser_revokes : ∃ t s, Run (Step cluster) started t s ∧ SameRights cluster started ∧
    ¬ SameRights cluster s ∧ ∃ e ∈ t, ¬ KeepsAdministrator cluster e.pre e.post := by
  have hrun := Run.single
    (step_served (.modifyUser ⟨"clusteradmin", none, none, none, none, some false⟩) started)
  have hstored : (flags cluster.getClusterAdministratorsGroup (served (.modifyUser
      ⟨"clusteradmin", none, none, none, none, some false⟩) started).store).stored administrator =
      some false := by decide +kernel
  have hpool : (flags cluster.getClusterAdministratorsGroup (served (.modifyUser
      ⟨"clusteradmin", none, none, none, none, some false⟩) started).store).pool administrator =
      true := by decide +kernel
  have hbefore : started.users.get? administrator = some (userFields "clusteradmin" true) := by
    decide +kernel
  refine ⟨_, _, hrun, sameRights_started, fun h => ?_, _, List.mem_singleton_self _, fun h => ?_⟩
  · have hagree := sameRights_iff.mp h administrator false hstored
    rw [hpool] at hagree
    cases hagree
  · have hsame : administrator.text = sanitized cluster.clusterAdministrator := by decide +kernel
    obtain ⟨fields, hfields, hflag⟩ := h administrator _ hsame hbefore rfl
    simp only [flags, hfields, Option.map_some, hflag] at hstored
    cases hstored

end Idea.Accounts

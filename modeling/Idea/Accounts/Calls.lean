import Idea.Accounts.AccountsService

/-! # Rules for account operations

What the calls of an operation do to the stores, without a word on the record of the calls.
-/

namespace Idea.Accounts

open Program (Does)

/-- From stores with `P` an operation ends normally with `Q`, or raises with `E`. -/
def Leads {α : Type} (P : Store → Prop) (x : Operation α) (Q : α → Store → Prop)
    (E : Raised → Store → Prop) : Prop :=
  Does effect (fun s => P s.store) x (fun a s => Q a s.store) fun e s => E e s.store

variable {α β : Type} {P P' : Store → Prop} {x : Operation α} {f : α → Operation β}
  {Q Q' : α → Store → Prop} {R : β → Store → Prop} {E E' : Raised → Store → Prop}

namespace Leads

theorem consequence (h : Leads P' x Q' E') (hpre : ∀ s, P s → P' s)
    (hok : ∀ a s, Q' a s → Q a s) (herror : ∀ e s, E' e s → E e s) : Leads P x Q E :=
  Does.consequence h (fun s => hpre s.store) (fun a s => hok a s.store) fun e s => herror e s.store

theorem pre (h : Leads P' x Q E) (hpre : ∀ s, P s → P' s) : Leads P x Q E :=
  h.consequence hpre (fun _ _ h => h) fun _ _ h => h

theorem post (h : Leads P x Q' E') (hok : ∀ a s, Q' a s → Q a s)
    (herror : ∀ e s, E' e s → E e s) : Leads P x Q E :=
  h.consequence (fun _ h => h) hok herror

theorem and (h : Leads P x Q E) (h' : Leads P x Q' E') :
    Leads P x (fun a s => Q a s ∧ Q' a s) fun e s => E e s ∧ E' e s :=
  Does.and h h'

theorem of_forall (h : ∀ s, P s → Leads (· = s) x Q E) : Leads P x Q E :=
  fun s hs => h s.store hs s rfl

theorem of_state {s : Store} (hs : P s) (h : Leads P x Q E) : Leads (· = s) x Q E :=
  h.pre (by rintro _ rfl; exact hs)

theorem of_imp {p : Prop} (h : p → Leads P x Q E) : Leads (fun s => P s ∧ p) x Q E :=
  fun s hs => h hs.2 s hs.1

theorem pure {a : α} (h : ∀ s, P s → Q a s) : Leads P (Pure.pure a : Operation α) Q E :=
  Does.pure fun s => h s.store

theorem raise {e : Raised} (h : ∀ s, P s → E e s) : Leads P (raise e : Operation α) Q E :=
  Does.raise fun s => h s.store

theorem ofExcept {outcome : Except Raised α} (hok : ∀ a s, outcome = .ok a → P s → Q a s)
    (herror : ∀ e s, outcome = .error e → P s → E e s) :
    Leads P (Program.ofExcept outcome : Operation α) Q E :=
  Does.ofExcept (fun a s => hok a s.store) fun e s => herror e s.store

theorem bind (hx : Leads P x Q E) (hf : ∀ a, Leads (Q a) (f a) R E) : Leads P (x >>= f) R E :=
  Does.bind hx hf

theorem ite {c : Prop} [Decidable c] {y : Operation α} (hx : c → Leads P x Q E)
    (hy : ¬ c → Leads P y Q E) : Leads P (if c then x else y) Q E :=
  Does.ite hx hy

theorem forEach {I : Store → Prop} {f : β → Operation Unit} {l : List β}
    (h : ∀ b ∈ l, Leads I (f b) (fun _ => I) E) :
    Leads I (Program.forEach f l) (fun _ => I) E :=
  Does.forEach h

theorem ask {op : Op} {Q : Result op → Store → Prop}
    (hok : ∀ s a s', P s → serves op s (.ok a) s' → Q a s')
    (hrejected : ∀ s e s', P s → serves op s (.error e) s' → E e s')
    (hrefused : ∀ s e, P s → fails e → E e s)
    (hlost : ∀ s e a s', P s → fails e → serves op s a s' → E e s') :
    Leads P (ask op) Q E :=
  Does.ask_record (fun s a s' => hok s.store a s') (fun s e s' => hrejected s.store e s')
    (fun s e => hrefused s.store e) fun s e a s' => hlost s.store e a s'

theorem of_onlyCalls {p : Op → Prop} (hx : x.OnlyCalls p)
    (h : ∀ op, p op → ∀ s a s', P s → serves op s a s' → P s') :
    Leads P x (fun _ => P) fun _ => P := by
  refine Does.of_onlyCalls hx fun op hop s a s' hs heffect => ?_
  obtain ⟨fate, -, hmeets, -⟩ := heffect
  cases fate with
  | done => exact h op hop _ a _ hs hmeets
  | refused e => exact hmeets.2 ▸ hs
  | lost e =>
    obtain ⟨-, a', hserves⟩ := hmeets
    exact h op hop _ a' _ hs hserves

theorem does (h : Leads P x Q E) :
    Does effect (fun s => P s.store) x (fun a s => Q a s.store) fun e s => E e s.store :=
  h

theorem execution (h : Leads P x Q E) {s s' : Recorded} {outcome : Except Raised α}
    (hs : P s.store) (hrun : Program.Execution effect x s outcome s') :
    Program.ends Q E outcome s'.store := by
  have hends := Does.execution h hs hrun
  cases outcome <;> exact hends

end Leads

-- An operation on fixed texts would otherwise be evaluated when two of these are compared.
attribute [irreducible] Leads

def Op.Quiet : Op → Prop
  | .getUser _ | .getGroup _ | .hasMembers _ | .queryMembers _ | .describeUserPool => True
  | .nextUid | .nextGid | .generatePassword | .savePassword _ | .isExistingUser _ => True
  | .sendMessage _ | .publishUserDisabledEvent _ => True
  | _ => False

theorem requests_cases {s s' : Store} {username code : String} {condition : Prop} {change : PoolUser → PoolUser}
    {a : Except Raised Unit} (h : requests username condition code change s a s') :
    (∃ entry, s.poolUser? username = some entry ∧ condition ∧ a = .ok () ∧
      s' = s.setPoolUser username (change entry)) ∨
    (∃ e, a = .error e) ∧ s' = s := by
  unfold requests at h
  cases hentry : s.poolUser? username with
  | none =>
    rw [hentry] at h
    obtain ⟨⟨text, rfl⟩, rfl⟩ := h
    exact .inr ⟨⟨_, rfl⟩, rfl⟩
  | some entry =>
    rw [hentry] at h
    rcases h with ⟨hcondition, rfl, rfl⟩ | ⟨-, ⟨text, rfl⟩, rfl⟩
    · exact .inl ⟨entry, rfl, hcondition, rfl, rfl⟩
    · exact .inr ⟨⟨_, rfl⟩, rfl⟩

def Op.WritesGroup : Op → Prop
  | .putGroup _ _ | .setGroupEnabled _ _ | .deleteGroup _ => True
  | _ => False

theorem groups_of_serves {op : Op} {s s' : Store}
    {a : Except Raised (Result op)} (hserves : serves op s a s') (h : ¬ op.WritesGroup) :
    s'.groups = s.groups := by
  cases op with
  | putGroup _ _ | setGroupEnabled _ _ | deleteGroup _ => exact absurd trivial h
  | putUser _ => rcases hserves with ⟨-, -, rfl⟩ | ⟨-, -, rfl⟩ <;> rfl
  | adminCreateUser _ _ => rcases hserves with ⟨-, -, rfl⟩ | ⟨-, -, rfl⟩ <;> rfl
  | updateUser username updates =>
    simp only [serves] at hserves
    split at hserves <;> rw [hserves.2]
  | adminDeleteUser username =>
    simp only [serves] at hserves
    split at hserves <;> rw [hserves.2]
  | adminSetUserPassword _ _ | adminUpdateUserAttributes _ =>
    rcases requests_cases hserves with ⟨_, -, -, -, rfl⟩ | ⟨-, rfl⟩ <;> rfl
  | adminLinkProviderForUser _ _ | adminDisableUser _ =>
    rcases requests_cases hserves with ⟨_, -, -, -, rfl⟩ | ⟨-, rfl⟩ <;> rfl
  | adminAddUserToGroup _ _ | adminRemoveUserFromGroup _ _ =>
    rcases requests_cases hserves with ⟨_, -, -, -, rfl⟩ | ⟨-, rfl⟩ <;> rfl
  | _ =>
    obtain ⟨-, rfl⟩ := hserves
    rfl

section OnlyCalls

variable {p : Op → Prop}

theorem onlyCalls_ask {op : Op} (h : p op) : (ask op).OnlyCalls p :=
  .bind (.perform h) fun _ => trivial

theorem onlyCalls_whenever {condition : Bool} {x : Operation Unit}
    (h : condition = true → x.OnlyCalls p) : (whenever condition x).OnlyCalls p := by
  unfold whenever
  split
  · next hc => exact h hc
  · trivial

theorem onlyCalls_requireNonempty (value message : String) :
    (requireNonempty value message).OnlyCalls p :=
  onlyCalls_whenever fun _ => trivial

theorem onlyCalls_tryCatch {handler : Raised → Operation α} (hx : x.OnlyCalls p)
    (h : ∀ e, (handler e).OnlyCalls p) : (x.tryCatch handler).OnlyCalls p := by
  refine Program.OnlyCalls.andThen hx fun outcome => ?_
  cases outcome with
  | ok a => trivial
  | error e => exact h e

theorem onlyCalls_bind {x : Operation α} {f : α → Operation β} (hx : x.OnlyCalls p)
    (hf : ∀ a, (f a).OnlyCalls p) : (x >>= f).OnlyCalls p :=
  .bind hx hf

theorem onlyCalls_send (task : Task) : (send task).OnlyCalls Op.Quiet :=
  onlyCalls_ask trivial

theorem onlyCalls_getUser (username : String) : (UserDAO.getUser username).OnlyCalls Op.Quiet :=
  onlyCalls_bind trivial fun _ => onlyCalls_ask trivial

theorem onlyCalls_getGroup (groupName : String) : (GroupDAO.getGroup groupName).OnlyCalls Op.Quiet :=
  onlyCalls_bind (onlyCalls_requireNonempty _ _) fun _ => onlyCalls_ask trivial

theorem onlyCalls_adminAddUserToGroup {username groupName : String}
    (h : p (.adminAddUserToGroup username groupName)) :
    (CognitoUserPool.adminAddUserToGroup username groupName).OnlyCalls p :=
  onlyCalls_bind (onlyCalls_requireNonempty _ _) fun _ =>
    onlyCalls_bind (onlyCalls_requireNonempty _ _) fun _ => onlyCalls_ask h

theorem onlyCalls_adminRemoveUserFromGroup {username groupName : String}
    (h : p (.adminRemoveUserFromGroup username groupName)) :
    (CognitoUserPool.adminRemoveUserFromGroup username groupName).OnlyCalls p :=
  onlyCalls_bind (onlyCalls_requireNonempty _ _) fun _ =>
    onlyCalls_bind (onlyCalls_requireNonempty _ _) fun _ => onlyCalls_ask h

theorem onlyCalls_adminDeleteUser {username : String} (h : p (.adminDeleteUser username)) :
    (CognitoUserPool.adminDeleteUser username).OnlyCalls p := by
  refine onlyCalls_bind (onlyCalls_requireNonempty _ _) fun _ =>
    onlyCalls_tryCatch (onlyCalls_ask h) fun e => ?_
  cases e with
  | clientError code text =>
    dsimp only
    split <;> trivial
  | _ => trivial

theorem onlyCalls_adminSetPassword {config : Config} {username password : String}
    (hset : p (.adminSetUserPassword username password)) (hdelete : p (.adminDeleteUser username))
    (hupdate : p (.adminUpdateUserAttributes username)) :
    (CognitoUserPool.adminSetPassword config username password).OnlyCalls p := by
  refine onlyCalls_bind (onlyCalls_tryCatch (onlyCalls_ask hset) fun e => ?_) fun _ =>
    onlyCalls_whenever fun _ => onlyCalls_ask hupdate
  cases e with
  | clientError code text =>
    dsimp only
    split
    · exact onlyCalls_bind (onlyCalls_adminDeleteUser hdelete) fun _ => trivial
    · trivial
  | _ => trivial

theorem onlyCalls_adminLinkIdpForUser {config : Config} {username email : String}
    (h : p (.adminLinkProviderForUser username email)) :
    (CognitoUserPool.adminLinkIdpForUser config username email).OnlyCalls p := by
  refine onlyCalls_bind (onlyCalls_requireNonempty _ _) fun _ => ?_
  split
  · trivial
  · exact onlyCalls_ask h

theorem onlyCalls_newPassword (request : CreateUserRequest) :
    (newPassword request).OnlyCalls Op.Quiet := by
  unfold newPassword
  split
  · split
    · trivial
    · exact onlyCalls_bind (onlyCalls_ask trivial) fun _ => onlyCalls_bind trivial fun _ => trivial
  · exact onlyCalls_ask trivial

theorem onlyCalls_givenOr {value : Option ℤ} {next : Operation ℤ} (h : next.OnlyCalls Op.Quiet) :
    (givenOr value next).OnlyCalls Op.Quiet := by
  cases value with
  | none => exact h
  | some value => trivial

theorem onlyCalls_changeLdapPassword (username password : String) :
    (changeLdapPassword username password).OnlyCalls Op.Quiet :=
  onlyCalls_bind (onlyCalls_ask trivial) fun _ => onlyCalls_bind (onlyCalls_ask trivial) fun _ =>
    onlyCalls_bind (onlyCalls_whenever fun _ => onlyCalls_ask trivial) fun _ => onlyCalls_ask trivial

end OnlyCalls

variable {s : Store}

theorem leads_ask_read {op : Op} {value : Result op}
    (h : ∀ s' a, serves op s a s' → a = .ok value ∧ s' = s) :
    Leads (· = s) (ask op) (fun r s' => s' = s ∧ r = value) fun _ s' => s' = s := by
  refine .ask (fun s₁ a s' hs hserves => ?_) (fun s₁ e s' hs hserves => ?_) (fun _ _ hs _ => hs)
    fun s₁ e a s' hs _ hserves => ?_
  · subst hs
    obtain ⟨ha, rfl⟩ := h s' _ hserves
    exact ⟨rfl, Except.ok.inj ha⟩
  · subst hs
    cases (h s' _ hserves).1
  · subst hs
    exact (h s' _ hserves).2

theorem leads_requireNonempty (value message : String) :
    Leads (· = s) (requireNonempty value message)
      (fun _ s' => s' = s ∧ isEmptyString (some value) = false)
      fun e s' => s' = s ∧ e = invalidParams message ∧ isEmptyString (some value) = true := by
  refine .ite (fun h => .raise fun _ hs => ⟨hs, rfl, h⟩) fun h => .pure fun _ hs => ⟨hs, ?_⟩
  exact Bool.eq_false_iff.mpr h

def Store.find (s : Store) (username : String) : Option User :=
  match sanitizeUsername username with
  | .ok u => s.user? u
  | .error _ => none

theorem Store.find_eq_some {username : String} {user : User} (h : s.find username = some user) :
    sanitizeUsername username = .ok user.username ∧ s.user? user.username = some user ∧
      s.users.get? user.username = some user.toUserFields := by
  unfold Store.find at h
  split at h
  · next u hu =>
    obtain ⟨fields, hfields, rfl⟩ := Option.map_eq_some_iff.mp h
    exact ⟨hu, h, hfields⟩
  · cases h

theorem leads_getUser (username : String) :
    Leads (· = s) (UserDAO.getUser username) (fun r s' => s' = s ∧ r = s.find username)
      fun _ s' => s' = s := by
  rcases sanitizeUsername_cases username with ⟨he, -⟩ | ⟨u, hu, -, -⟩
  · simp only [UserDAO.getUser, he]
    exact .raise fun _ hs => hs
  · have hfind : s.find username = s.user? u := by simp only [Store.find, hu]
    simp only [UserDAO.getUser, hu, hfind]
    exact leads_ask_read fun _ _ h => h

theorem leads_getGroup (groupName : String) :
    Leads (· = s) (GroupDAO.getGroup groupName)
      (fun r s' => s' = s ∧ r = s.groups.get? groupName) fun _ s' => s' = s := by
  refine .bind ((leads_requireNonempty _ _).post (fun _ _ h => h.1) fun _ _ h => h.1) fun _ => ?_
  exact leads_ask_read fun _ _ h => h

theorem leads_admittedUsers (force : Bool) (usernames : List String) :
    Leads (· = s) (admittedUsers (admission force) usernames)
      (fun users s' => s' = s ∧ users = usernames.filterMap s.find ∧
        ∀ user ∈ users, user.enabled = true ∨ force = true) fun _ s' => s' = s := by
  induction usernames with
  | nil => exact .pure fun _ hs => ⟨hs, rfl, fun _ h => absurd h List.not_mem_nil⟩
  | cons username usernames ih =>
    refine .bind (leads_getUser username) fun user => .of_imp fun huser => ?_
    subst huser
    refine .bind (Q := fun admitted s' => s' = s ∧ admitted = s.find username ∧
        ∀ user ∈ admitted, user.enabled = true ∨ force = true)
      (.ofExcept (fun admitted s' h hs => ⟨hs, ?_⟩) fun _ _ _ hs => hs) fun admitted => ?_
    · cases hfound : s.find username with
      | none =>
        rw [hfound, admission] at h
        split at h
        · cases h
          exact ⟨rfl, fun _ h => by cases h⟩
        · cases h
      | some user =>
        rw [hfound, admission] at h
        split at h
        · next hc =>
          cases h
          refine ⟨rfl, fun user' h => ?_⟩
          cases h
          exact Bool.or_eq_true _ _ ▸ hc
        · cases h
    · refine .of_imp fun hadmitted => .bind ih fun users => .of_imp fun husers => .pure fun s' hs => ?_
      refine ⟨hs, ?_, fun user huser => ?_⟩
      · rw [List.filterMap_cons, ← hadmitted.1, husers.1]
        cases admitted <;> rfl
      · rcases List.mem_append.mp huser with huser | huser
        · exact hadmitted.2 user (Option.mem_toList.mp huser)
        · exact husers.2 user huser

def administrator : Username := ⟨"clusteradmin", by decide +kernel, by decide +kernel⟩

def alice : Username := ⟨"alice", by decide +kernel, by decide +kernel⟩

def cluster : Config := ⟨"clusteradmin", "admins", false, false, fun _ => true⟩

def userFields (username : String) (sudoUser : Bool) : UserFields :=
  ⟨"", 5000, 5000, getUserGroup username, [], DEFAULT_LOGIN_SHELL, "/data/home/" ++ username,
    sudoUser, true⟩

end Idea.Accounts

import Idea.Directory.ComputerAccounts
import Idea.System.Threads

/-! # The password of the directory administrator

Each node checks whether the password expires and resets it under a lock that the nodes share. The
new password is sent to the directory, and what the directory accepted is stored.
-/

namespace Idea.ADAutomationAgent

open ADAutomation (requiredString)

def AUTH_USER_NOT_FOUND : String := "AUTH_USER_NOT_FOUND"

def DIRECTORYSERVICE_ACTIVE_DIRECTORY : String := "activedirectory"

def DIRECTORYSERVICE_AWS_MANAGED_ACTIVE_DIRECTORY : String := "aws_managed_activedirectory"

/-- What is known of the password of a user: when it was set, in seconds, and for how many days it
may be kept. -/
structure LdapUser where
  passwordLastSet : Option ℚ
  passwordMaxAge : Option ℚ
  deriving DecidableEq

/-- Where a password is stored: with the options of a client, in a file, as a secret, and by the
client for its connections. -/
inductive Place where
  | options
  | file (name : String)
  | secret (arn : String)
  | client
  deriving DecidableEq

/-- What an agent asks of others. A reset carries its number among the attempts. -/
inductive Op where
  | ldapRootUsername
  | getUser (username : String)
  | utcnow
  | sleep
  | acquire
  | release
  | refreshRootUsernamePassword
  | generatePassword
  | resetUserPassword (username password : String) (currentRetry : ℕ)
  | isFile (name : String)
  | store (place : Place) (password : String)
  deriving DecidableEq

@[reducible] def Answer : Op → Type
  | .ldapRootUsername => String
  | .getUser _ => Except Raised (Option LdapUser)
  | .utcnow => DateTime
  | .sleep => Unit
  | .generatePassword => String
  | .isFile _ => Bool
  | _ => Except Raised Unit

abbrev Agent (α : Type) : Type := Program Op Answer Raised α

def ask (op : Op) : Agent (Answer op) := Program.perform op

def day : ℤ := 86400 * 1000000

/-- `shift` of a time by days. -/
def shiftDays (time : DateTime) (days : ℤ) : Except Raised DateTime :=
  DateTime.ofMicros (time.micros + days * day)

/-- `get_value_as_int` of a number. -/
def intOf (value : ℚ) : ℤ := value.num.tdiv value.den

/-- The time at which the password expires; `none` where it was never set. -/
def passwordExpiryDate (user : LdapUser) : Except Raised (Option DateTime) :=
  let passwordLastSet := (user.passwordLastSet.map intOf).getD 0
  if passwordLastSet = 0 then .ok none
  else do
    let lastSetDate ← DateTime.ofTimestamp passwordLastSet
    match user.passwordMaxAge with
    | none => .error .typeError
    | some maxAge => (shiftDays lastSetDate (intOf maxAge)).map some

def isPasswordExpired : Agent Bool := do
  let rootUsername ← ask .ldapRootUsername
  let user ← Program.orRaise (ask (.getUser rootUsername))
  match user with
  | none => Program.raise (.soca ErrorCodes.GENERAL_ERROR "ActiveDirectory admin user not found")
  | some user =>
    match ← Program.ofExcept (passwordExpiryDate user) with
    | none => pure true
    | some expiry => do
      let now ← ask .utcnow
      let nowMinus2Days ← Program.ofExcept (shiftDays now (-2))
      pure (!decide (nowMinus2Days.micros < expiry.micros))

/-- The configuration of a client; `provider` is the configured directory service. -/
structure ClientOptions where
  provider : Option String
  rootPassword : Option String
  rootPasswordFile : Option String
  rootPasswordSecretArn : Option String

/-- `ActiveDirectoryClient.change_password` -/
def changePassword (options : ClientOptions) (username password : String) (currentRetry : ℕ) :
    Agent Unit := do
  let adProvider ← Program.ofExcept (requiredString "directoryservice.provider" options.provider)
  if adProvider = DIRECTORYSERVICE_ACTIVE_DIRECTORY then pure ()
  else if adProvider = DIRECTORYSERVICE_AWS_MANAGED_ACTIVE_DIRECTORY then
    Program.tryCatch (Program.orRaise (ask (.resetUserPassword username password currentRetry)))
      fun
      | .clientError "UserDoesNotExistException" _ =>
        Program.raise (.soca AUTH_USER_NOT_FOUND (username ++ " is not yet synced with AD Domain " ++
          "Controllers. Please wait for a few minutes and try again."))
      | e => Program.raise e
  else
    Program.raise (.soca ErrorCodes.VALIDATION_FAILED
      ("Unable to update password. Active Directory provider is unsupported: " ++ adProvider))

def maxRetries : ℕ := 4

def resetAttempts (options : ClientOptions) (username newPassword : String) : ℕ → Agent Unit
  | 0 => pure ()
  | left + 1 => do
    let success ← Program.tryCatch
      (do
        changePassword options username newPassword (maxRetries - (left + 1))
        let _ ← ask .sleep
        pure true)
      fun
      | .soca errorCode message =>
        if errorCode = AUTH_USER_NOT_FOUND then do
          let _ ← ask .sleep
          pure false
        else Program.raise (.soca errorCode message)
      | e => Program.raise e
    if success then pure () else resetAttempts options username newPassword left

def store (place : Place) (password : String) : Agent Unit :=
  Program.orRaise (ask (.store place password))

def storeWhen (condition : Bool) (place : Place) (password : String) : Agent Unit :=
  if condition then store place password else pure ()

def hasFile (file : Option String) : Agent Bool :=
  if isEmptyString file then pure false else ask (.isFile (file.getD ""))

/-- `AbstractLDAPClient.update_root_password` -/
def updateRootPassword (options : ClientOptions) (password : String) : Agent Unit := do
  storeWhen (!isEmptyString options.rootPassword) .options password
  let isFile ← hasFile options.rootPasswordFile
  storeWhen isFile (.file (options.rootPasswordFile.getD "")) password
  storeWhen (!isEmptyString options.rootPasswordSecretArn)
    (.secret (options.rootPasswordSecretArn.getD "")) password
  store .client password

def checkAndResetAdminPassword (options : ClientOptions) : Agent Unit := do
  if ← isPasswordExpired then
    Program.tryFinally
      (do
        let _ ← ask .sleep
        Program.orRaise (ask .acquire)
        if ← isPasswordExpired then
          let username ← ask .ldapRootUsername
          let newPassword ← ask .generatePassword
          resetAttempts options username newPassword maxRetries
          updateRootPassword options newPassword
        else Program.orRaise (ask .refreshRootUsernamePassword))
      (Program.orRaise (ask .release))

/-- The passwords of the directory and those that it accepted so far, and the node that has the
lock. A lock may lapse when its node does not renew the lease. -/
structure Directory (ι : Type) where
  password : String → Option String
  accepted : List (String × String)
  holder : Option ι
  lapsed : Bool

variable {ι : Type}

def Directory.accept (self : Directory ι) (username password : String) : Directory ι :=
  { self with
    password := fun name => if name = username then some password else self.password name
    accepted := (username, password) :: self.accepted }

def userDoesNotExist (text : String) : Raised := .clientError "UserDoesNotExistException" text

/-- What a call of a node does. A call that fails may have been carried out, unless the directory
answers that it has no such user; its answers are no exceptions of the application. -/
def effect (i : ι) : (op : Op) → Directory ι → Answer op → Directory ι → Prop
  | .acquire, s, answer, s' =>
    (answer = .ok () → s.holder = none) ∧ (s' = s ∧ answer ≠ .ok () ∨
      s.holder = none ∧ s' = { s with holder := some i })
  | .release, s, _, s' => s' = s ∨ s.holder = some i ∧ s' = { s with holder := none }
  | .resetUserPassword username password _, s, answer, s' =>
    (∀ code message, answer ≠ .error (.soca code message)) ∧
      (s' = s.accept username password ∧ (∀ text, answer ≠ .error (userDoesNotExist text)) ∨
        s' = s ∧ answer ≠ .ok ())
  | _, s, _, s' => s' = s

def lapse (s s' : Directory ι) : Prop := s' = { s with holder := none, lapsed := true }

def agents (options : ι → ClientOptions) :
    ThreadSystem ι Op Answer Raised Unit (Directory ι) where
  starts i program := program = checkAndResetAdminPassword (options i)
  effect := effect
  outside := lapse

/-- What another node does: the accepted passwords stay, and while no lease runs out the node that
has the lock keeps it, and the passwords stay as they are. -/
structure Rely (i : ι) (s s' : Directory ι) : Prop where
  accepted : ∀ x ∈ s.accepted, x ∈ s'.accepted
  lapsed : s'.lapsed = false → s.lapsed = false
  holder : s'.lapsed = false → s.holder = some i → s'.holder = some i ∧ s'.password = s.password

theorem Rely.refl (i : ι) (s : Directory ι) : Rely i s s :=
  ⟨fun _ h => h, fun h => h, fun _ h => ⟨h, rfl⟩⟩

theorem Rely.trans (i : ι) {s s' s'' : Directory ι} (h : Rely i s s') (h' : Rely i s' s'') :
    Rely i s s'' where
  accepted x hx := h'.accepted x (h.accepted x hx)
  lapsed hl := h.lapsed (h'.lapsed hl)
  holder hl hi := by
    obtain ⟨hholder, hpassword⟩ := h.holder (h'.lapsed hl) hi
    obtain ⟨hholder', hpassword'⟩ := h'.holder hl hholder
    exact ⟨hholder', hpassword'.trans hpassword⟩

/-- The fourth attempt is not answered by a directory that has no such user. -/
def NotAllMissed (_ : ι) : (op : Op) → Directory ι → Answer op → Prop
  | .resetUserPassword _ _ currentRetry, _, answer =>
    currentRetry + 1 = maxRetries → ∀ text, answer ≠ .error (userDoesNotExist text)
  | _, _, _ => True

/-- A password is stored after the directory accepted it and, unless a lock lapsed, while the
directory has it. -/
def StoresAccepted (_ : ι) : (op : Op) → Directory ι → Answer op → Prop
  | .store _ password, s, _ => ∃ username, (username, password) ∈ s.accepted ∧
      (s.lapsed = false → s.password username = some password)
  | _, _, _ => True

variable {options : ι → ClientOptions}

def nodes (options : ι → ClientOptions) : ThreadSystem.Contract (agents options) where
  rely := Rely
  rely_refl := Rely.refl
  rely_trans := Rely.trans
  rely_outside i s s' h := by
    obtain rfl := h
    exact ⟨fun _ h => h, fun h => (nomatch h), fun h => (nomatch h)⟩
  allowed := NotAllMissed
  meets := StoresAccepted
  idle _ _ := True

section Calls

variable {i : ι}

/-- The node has the lock, as long as none lapsed. -/
def Holds (i : ι) (s : Directory ι) : Prop := s.lapsed = false → s.holder = some i

/-- The directory accepted the password, and the lock is still held. -/
def Accepted (i : ι) (username password : String) (s : Directory ι) : Prop :=
  (username, password) ∈ s.accepted ∧
    (s.lapsed = false → s.holder = some i ∧ s.password username = some password)

variable {P : Directory ι → Prop} {E : Raised → Directory ι → Prop}

theorem holds_stable : Program.Stable ((nodes options).terms i) (Holds i) :=
  fun _ _ h hs hl => (hs.holder hl (h (hs.lapsed hl))).1

variable {username password : String}

theorem accepted_stable :
    Program.Stable ((nodes options).terms i) (Accepted i username password) := by
  refine fun s s' h hs => ⟨hs.accepted _ h.1, fun hl => ?_⟩
  obtain ⟨hholder, hpassword⟩ := h.2 (hs.lapsed hl)
  obtain ⟨hholder', hsame⟩ := hs.holder hl hholder
  exact ⟨hholder', hsame ▸ hpassword⟩

theorem true_stable : Program.Stable ((nodes options).terms i) fun _ => True :=
  fun _ _ _ _ => trivial

def Op.Quiet : Op → Prop
  | .acquire | .release | .resetUserPassword .. | .store .. => False
  | _ => True

theorem ask_quiet {op : Op} (hop : op.Quiet) (hP : Program.Stable ((nodes options).terms i) P) :
    Program.Ensures ((nodes options).terms i) P (ask op) (fun _ => P) E := by
  refine .perform hP (fun _ => hP) fun s a s' hs ⟨heffect, _⟩ => ?_
  cases op with
  | acquire | release => exact hop.elim
  | resetUserPassword _ _ _ => exact hop.elim
  | store _ _ => exact hop.elim
  | _ =>
    obtain rfl := heffect
    exact ⟨fun j _ => Rely.refl j _, trivial, hs⟩

theorem orRaise_ensures {α : Type} {x : Agent (Except Raised α)}
    {Q : Except Raised α → Directory ι → Prop} {R : α → Directory ι → Prop}
    (hx : Program.Ensures ((nodes options).terms i) P x Q E)
    (hE : ∀ e, Program.Stable ((nodes options).terms i) (E e))
    (hQ : ∀ r, Program.Stable ((nodes options).terms i) (Q r))
    (hok : ∀ a s, Q (.ok a) s → R a s) (herror : ∀ e s, Q (.error e) s → E e s) :
    Program.Ensures ((nodes options).terms i) P x.orRaise R E := by
  refine .bind (Rely.refl i) hE hx fun r => ?_
  refine .ofExcept (hQ r) (fun a s hr h => hok a s (hr ▸ h)) fun e s hr h => herror e s (hr ▸ h)

theorem isPasswordExpired_quiet (hP : Program.Stable ((nodes options).terms i) P) :
    Program.Ensures ((nodes options).terms i) P isPasswordExpired (fun _ => P) fun _ => P := by
  refine .bind (Rely.refl i) (fun _ => hP) (ask_quiet trivial hP) fun username => ?_
  refine .bind (Rely.refl i) (fun _ => hP) (orRaise_ensures (ask_quiet trivial hP) (fun _ => hP)
    (fun _ => hP) (fun _ _ h => h) fun _ _ h => h) fun user => ?_
  cases user with
  | none => exact .raise hP fun _ h => h
  | some user =>
    refine .bind (Rely.refl i) (fun _ => hP) (.ofExcept hP (fun _ _ _ h => h) fun _ _ _ h => h)
      fun expiry => ?_
    cases expiry with
    | none => exact .pure hP fun _ h => h
    | some expiry =>
      refine .bind (Rely.refl i) (fun _ => hP) (ask_quiet trivial hP) fun now => ?_
      refine .bind (Rely.refl i) (fun _ => hP) (.ofExcept hP (fun _ _ _ h => h) fun _ _ _ h => h)
        fun _ => ?_
      exact .pure hP fun _ h => h

theorem acquire_holds :
    Program.Ensures ((nodes options).terms i) (fun _ => True) (Program.orRaise (ask .acquire))
      (fun _ => Holds i) fun _ _ => True := by
  refine orRaise_ensures (Q := fun r s => r = .ok () → Holds i s) ?_ (fun _ => true_stable)
    (fun r s s' h hs hr => holds_stable s s' (h hr) hs) (fun _ s h => h rfl) fun _ _ _ => trivial
  refine .perform true_stable (fun r s s' h hs hr => holds_stable s s' (h hr) hs)
    fun s answer s' _ ⟨⟨_, heffect⟩, _⟩ => ?_
  rcases heffect with ⟨rfl, hne⟩ | ⟨hfree, rfl⟩
  · exact ⟨fun j _ => Rely.refl j s', trivial, fun hr => absurd hr hne⟩
  · refine ⟨fun j _ => ⟨fun _ h => h, fun h => h, fun _ hj => ?_⟩, trivial, fun _ _ => rfl⟩
    rw [hfree] at hj
    cases hj

theorem release_ensures :
    Program.Ensures ((nodes options).terms i) (fun _ => True) (Program.orRaise (ask .release))
      (fun _ _ => True) fun _ _ => True := by
  refine orRaise_ensures (Q := fun _ _ => True) ?_ (fun _ => true_stable) (fun _ => true_stable)
    (fun _ _ _ => trivial) fun _ _ _ => trivial
  refine .perform true_stable (fun _ => true_stable) fun s answer s' _ ⟨heffect, _⟩ => ?_
  rcases heffect with rfl | ⟨hholder, rfl⟩
  · exact ⟨fun j _ => Rely.refl j s', trivial, trivial⟩
  · refine ⟨fun j hj => ⟨fun _ h => h, fun h => h, fun _ h => ?_⟩, trivial, trivial⟩
    exact absurd (Option.some.inj (h.symm.trans hholder)) hj

theorem store_ensures {place : Place} :
    Program.Ensures ((nodes options).terms i) (Accepted i username password)
      (store place password) (fun _ => Accepted i username password) fun _ _ => True := by
  refine orRaise_ensures (Q := fun _ => Accepted i username password) ?_ (fun _ => true_stable)
    (fun _ => accepted_stable) (fun _ _ h => h) fun _ _ _ => trivial
  refine .perform accepted_stable (fun _ => accepted_stable) fun s _ s' hs ⟨heffect, _⟩ => ?_
  obtain rfl := heffect
  exact ⟨fun j _ => Rely.refl j s', ⟨username, hs.1, fun hl => (hs.2 hl).2⟩, hs⟩

theorem storeWhen_ensures (condition : Bool) {place : Place} :
    Program.Ensures ((nodes options).terms i) (Accepted i username password)
      (storeWhen condition place password) (fun _ => Accepted i username password)
      fun _ _ => True :=
  .ite (fun _ => store_ensures) fun _ => .pure accepted_stable fun _ h => h

theorem updateRootPassword_ensures (client : ClientOptions) :
    Program.Ensures ((nodes options).terms i) (Accepted i username password)
      (updateRootPassword client password) (fun _ => Accepted i username password)
      fun _ _ => True := by
  refine .bind (Rely.refl i) (fun _ => true_stable) (storeWhen_ensures _) fun _ => ?_
  refine .bind (Q := fun _ => Accepted i username password) (Rely.refl i) (fun _ => true_stable) ?_
    fun isFile => ?_
  · exact .ite (fun _ => .pure accepted_stable fun _ h => h)
      fun _ => ask_quiet trivial accepted_stable
  refine .bind (Rely.refl i) (fun _ => true_stable) (storeWhen_ensures _) fun _ => ?_
  exact .bind (Rely.refl i) (fun _ => true_stable) (storeWhen_ensures _) fun _ => store_ensures

theorem provider_ne {provider : Option String} {v : String}
    (hprovider : provider ≠ some DIRECTORYSERVICE_ACTIVE_DIRECTORY)
    (h : requiredString "directoryservice.provider" provider = .ok v) :
    v ≠ DIRECTORYSERVICE_ACTIVE_DIRECTORY := by
  cases provider with
  | none => cases h
  | some provider =>
    obtain rfl := Except.ok.inj h
    split
    · decide
    · exact fun hv => hprovider (hv ▸ rfl)

/-- How a reset by the directory may fail. -/
def Refused (i : ι) (currentRetry : ℕ) (e : Raised) (s : Directory ι) : Prop :=
  Holds i s ∧ (currentRetry + 1 = maxRetries → ∀ text, e ≠ userDoesNotExist text) ∧
    ∀ code message, e ≠ .soca code message

def Failed (i : ι) (currentRetry : ℕ) (e : Raised) (s : Directory ι) : Prop :=
  Holds i s ∧ (currentRetry + 1 = maxRetries → ∀ message, e ≠ .soca AUTH_USER_NOT_FOUND message)

variable {currentRetry : ℕ}

theorem refused_stable (e : Raised) :
    Program.Stable ((nodes options).terms i) (Refused i currentRetry e) :=
  fun s s' h hs => ⟨holds_stable s s' h.1 hs, h.2⟩

theorem failed_stable (e : Raised) :
    Program.Stable ((nodes options).terms i) (Failed i currentRetry e) :=
  fun s s' h hs => ⟨holds_stable s s' h.1 hs, h.2⟩

theorem resetUserPassword_ensures :
    Program.Ensures ((nodes options).terms i) (Holds i)
      (Program.orRaise (ask (.resetUserPassword username password currentRetry)))
      (fun _ => Accepted i username password) (Refused i currentRetry) := by
  refine orRaise_ensures
    (Q := fun r s => (∀ a, r = .ok a → Accepted i username password s) ∧
      ∀ e, r = .error e → Refused i currentRetry e s) ?_ refused_stable
    (fun r s s' h hs => ⟨fun a hr => accepted_stable s s' (h.1 a hr) hs,
      fun e hr => refused_stable e s s' (h.2 e hr) hs⟩)
    (fun a s h => h.1 a rfl) fun e s h => h.2 e rfl
  refine .perform holds_stable
    (fun r s s' h hs => ⟨fun a hr => accepted_stable s s' (h.1 a hr) hs,
      fun e hr => refused_stable e s s' (h.2 e hr) hs⟩)
    fun s answer s' hs ⟨⟨hsoca, heffect⟩, hallowed⟩ => ?_
  have hrefused : ∀ e, answer = .error e → ∀ s', Holds i s' → Refused i currentRetry e s' := by
    rintro e rfl s' hs'
    exact ⟨hs', fun hr text he => hallowed hr text (congrArg _ he),
      fun code message he => hsoca code message (congrArg _ he)⟩
  rcases heffect with ⟨rfl, -⟩ | ⟨rfl, hne⟩
  · refine ⟨fun j hj => ⟨fun _ h => List.mem_cons_of_mem _ h, fun h => h, fun hl hholder => ?_⟩,
      trivial, fun _ _ => ?_, fun e he => hrefused e he _ hs⟩
    · exact absurd (Option.some.inj (hholder.symm.trans (hs hl))) hj
    · exact ⟨List.mem_cons_self, fun hl => ⟨hs hl, if_pos rfl⟩⟩
  · exact ⟨fun j _ => Rely.refl j s', trivial, fun _ ha => absurd ha hne,
      fun e he => hrefused e he _ hs⟩

variable {client : ClientOptions}

/-- An attempt that ends normally was accepted, and the fourth one does not end with a missing
user. -/
theorem changePassword_ensures
    (hprovider : client.provider ≠ some DIRECTORYSERVICE_ACTIVE_DIRECTORY) :
    Program.Ensures ((nodes options).terms i) (Holds i)
      (changePassword client username password currentRetry)
      (fun _ => Accepted i username password) (Failed i currentRetry) := by
  refine .bind (Q := fun v s => Holds i s ∧ v ≠ DIRECTORYSERVICE_ACTIVE_DIRECTORY) (Rely.refl i)
    failed_stable (.ofExcept holds_stable (fun v s hv hs => ⟨hs, provider_ne hprovider hv⟩)
      fun e s he hs => ⟨hs, fun _ message h => ?_⟩) fun v => ?_
  · cases hp : client.provider with
    | none =>
      rw [hp] at he
      exact absurd (Raised.soca.inj ((Except.error.inj he).trans h)).1 (by decide)
    | some provider =>
      rw [hp] at he
      cases he
  refine .ite (fun hv s hs => absurd hv hs.2) fun _ => .ite (fun _ => ?_) fun _ => ?_
  · refine .pre (?_ : Program.Ensures _ (Holds i) _ _ _) fun s hs => hs.1
    refine .tryCatch (Rely.refl i) resetUserPassword_ensures (fun _ => accepted_stable) fun e => ?_
    split
    · refine .raise (refused_stable _) fun s hs => ⟨hs.1, fun hr _ _ => ?_⟩
      exact hs.2.1 hr _ rfl
    · exact .raise (refused_stable _) fun s hs => ⟨hs.1, fun _ message => hs.2.2 _ message⟩
  · refine .pre (?_ : Program.Ensures _ (Holds i) _ _ _) fun s hs => hs.1
    refine .raise holds_stable fun s hs => ⟨hs, fun _ _ h => ?_⟩
    exact absurd (Raised.soca.inj h).1 (by decide)

theorem resetAttempts_ensures (hprovider : client.provider ≠ some DIRECTORYSERVICE_ACTIVE_DIRECTORY)
    {left : ℕ} (hleft : left ≠ 0) (hmax : left ≤ maxRetries) :
    Program.Ensures ((nodes options).terms i) (Holds i)
      (resetAttempts client username password left) (fun _ => Accepted i username password)
      fun _ _ => True := by
  induction left with
  | zero => exact absurd rfl hleft
  | succ left ih =>
    have hcurrent : maxRetries - (left + 1) + 1 = maxRetries ↔ left = 0 := by
      unfold maxRetries at hmax ⊢
      omega
    refine .bind (Q := fun success s => (success = true → Accepted i username password s) ∧
      (success = false → Holds i s ∧ left ≠ 0)) (Rely.refl i) (fun _ => true_stable) ?_
      fun success => ?_
    · refine .tryCatch (N := Failed i (maxRetries - (left + 1))) (Rely.refl i) ?_ ?_ fun e => ?_
      · refine .bind (Rely.refl i) failed_stable (changePassword_ensures hprovider) fun _ => ?_
        refine .bind (Rely.refl i) failed_stable (ask_quiet trivial accepted_stable) fun _ => ?_
        exact .pure accepted_stable fun s hs => ⟨fun _ => hs, fun h => (nomatch h)⟩
      · exact fun success s s' h hs => ⟨fun ht => accepted_stable s s' (h.1 ht) hs,
          fun hf => ⟨holds_stable s s' (h.2 hf).1 hs, (h.2 hf).2⟩⟩
      · split
        · next errorCode message =>
          refine .ite (fun hcode => ?_) fun _ => .raise (failed_stable _) fun _ _ => trivial
          refine .bind (Rely.refl i) (fun _ => true_stable) (ask_quiet trivial (failed_stable _))
            fun _ => ?_
          refine .pure (failed_stable _) fun s hs => ⟨fun h => (nomatch h), fun _ => ⟨hs.1, ?_⟩⟩
          -- The fourth attempt does not get here.
          exact fun hzero => hs.2 (hcurrent.mpr hzero) message (by rw [hcode])
        · exact .raise (failed_stable _) fun _ _ => trivial
    · cases success with
      | true =>
        have hstable : Program.Stable ((nodes options).terms i) fun s =>
            (true = true → Accepted i username password s) ∧
              (true = false → Holds i s ∧ left ≠ 0) :=
          fun s s' h hs => ⟨fun _ => accepted_stable s s' (h.1 rfl) hs, fun h => (nomatch h)⟩
        exact .pure hstable fun _ h => h.1 rfl
      | false =>
        intro s hs
        obtain ⟨hholds, hne⟩ := hs.2 rfl
        exact ih hne (by omega) s hholds

theorem checkAndResetAdminPassword_ensures
    (hprovider : client.provider ≠ some DIRECTORYSERVICE_ACTIVE_DIRECTORY) :
    Program.Ensures ((nodes options).terms i) (fun _ => True) (checkAndResetAdminPassword client)
      (fun _ _ => True) fun _ _ => True := by
  refine .bind (Rely.refl i) (fun _ => true_stable) (isPasswordExpired_quiet true_stable)
    fun expired => .ite (fun _ => ?_) fun _ => .pure true_stable fun _ h => h
  refine .tryFinally (M := fun _ _ => True) (N := fun _ _ => True) (Rely.refl i) ?_
    (fun _ => true_stable) (fun _ => true_stable) (fun _ => release_ensures)
    fun _ => release_ensures
  refine .bind (Rely.refl i) (fun _ => true_stable) (ask_quiet trivial true_stable) fun _ => ?_
  refine .bind (Rely.refl i) (fun _ => true_stable) acquire_holds fun _ => ?_
  refine .bind (Rely.refl i) (fun _ => true_stable)
    ((isPasswordExpired_quiet holds_stable).consequence (fun _ h => h) (fun _ _ h => h)
      fun _ _ _ => trivial) fun expired => .ite (fun _ => ?_) fun _ => ?_
  · refine .bind (Rely.refl i) (fun _ => true_stable) (ask_quiet trivial holds_stable)
      fun username => ?_
    refine .bind (Rely.refl i) (fun _ => true_stable) (ask_quiet trivial holds_stable)
      fun newPassword => ?_
    refine .bind (Rely.refl i) (fun _ => true_stable)
      (resetAttempts_ensures hprovider (by decide) le_rfl) fun _ => ?_
    exact (updateRootPassword_ensures client).consequence (fun _ h => h) (fun _ _ _ => trivial)
      fun _ _ h => h
  · exact orRaise_ensures (ask_quiet trivial holds_stable) (fun _ => true_stable)
      (fun _ => holds_stable) (fun _ _ _ => trivial) fun _ _ _ => trivial

end Calls

structure Reads (answer : ∀ op, Answer op) (user : LdapUser) (now : DateTime) : Prop where
  user : ∀ username, answer (.getUser username) = .ok (some user)
  now : answer .utcnow = now

/-- The check triggers a reset at the time, if that is not earlier than two days before the
password expires. -/
def TriggersWhenDue (user : LdapUser) (expiry now : DateTime) : Prop :=
  expiry.micros - 2 * day ≤ now.micros →
    ∀ answer, Reads answer user now → isPasswordExpired.eval answer = .ok true

theorem eval_isPasswordExpired {answer : ∀ op, Answer op} {user : LdapUser}
    {expiry now : DateTime} (hreads : Reads answer user now)
    (hexpiry : passwordExpiryDate user = .ok (some expiry)) :
    isPasswordExpired.eval answer =
      (shiftDays now (-2)).map fun nowMinus2Days =>
        !decide (nowMinus2Days.micros < expiry.micros) := by
  have huser : (Program.orRaise (ask (.getUser (answer .ldapRootUsername)))).eval answer =
      .ok (some user) := by
    rw [Program.eval_orRaise, ask, Program.eval_perform, hreads.user]
    rfl
  have hnow : (ask .utcnow).eval answer = .ok now := by
    rw [ask, Program.eval_perform, hreads.now]
  have husername : (ask .ldapRootUsername).eval answer = .ok (answer .ldapRootUsername) := rfl
  unfold isPasswordExpired
  rw [Program.eval_bind_of_ok husername, Program.eval_bind_of_ok huser]
  dsimp only
  rw [Program.eval_bind_of_ok (a := some expiry) (by rw [hexpiry]; rfl)]
  dsimp only
  rw [Program.eval_bind_of_ok hnow, Program.eval_bind]
  cases hshift : shiftDays now (-2) <;> rfl

def reading (user : LdapUser) (now : DateTime) : (op : Op) → Answer op
  | .ldapRootUsername => "Admin"
  | .getUser _ => .ok (some user)
  | .utcnow => now
  | .generatePassword => ""
  | .isFile _ => false
  | .sleep => ()
  | .acquire => .ok ()
  | .release => .ok ()
  | .refreshRootUsernamePassword => .ok ()
  | .resetUserPassword .. => .ok ()
  | .store .. => .ok ()

theorem reads_reading (user : LdapUser) (now : DateTime) : Reads (reading user now) user now :=
  ⟨fun _ => rfl, rfl⟩

theorem shiftDays_eq_ok {time time' : DateTime} {days : ℤ} (h : shiftDays time days = .ok time') :
    time'.micros = time.micros + days * day := by
  unfold shiftDays DateTime.ofMicros at h
  split at h
  · rw [← Except.ok.inj h]
  · cases h

theorem triggersWhenDue_iff {user : LdapUser} {expiry : DateTime}
    (hexpiry : passwordExpiryDate user = .ok (some expiry)) (now : DateTime) :
    TriggersWhenDue user expiry now ↔
      ¬ (expiry.micros - 2 * day ≤ now.micros ∧ now.micros < expiry.micros + 2 * day) := by
  constructor
  · rintro h ⟨hdue, hearly⟩
    have heval := h hdue _ (reads_reading user now)
    rw [eval_isPasswordExpired (reads_reading user now) hexpiry] at heval
    cases hshift : shiftDays now (-2) with
    | error e =>
      rw [hshift] at heval
      cases heval
    | ok time =>
      rw [hshift] at heval
      have htime := shiftDays_eq_ok hshift
      have hlate : decide (time.micros < expiry.micros) = false := by
        simpa using Except.ok.inj heval
      have := of_decide_eq_false hlate
      omega
  · intro h hdue answer hreads
    have hlate : expiry.micros + 2 * day ≤ now.micros := by
      by_contra hearly
      exact h ⟨hdue, by omega⟩
    have hbounds : -62135596800000000 ≤ now.micros + -2 * day ∧
        now.micros + -2 * day ≤ 253402300799999999 := by
      have := expiry.lower
      have := now.upper
      unfold day at *
      omega
    rw [eval_isPasswordExpired hreads hexpiry, shiftDays, DateTime.ofMicros, dif_pos hbounds]
    have hnot : ¬ now.micros + -2 * day < expiry.micros := by omega
    simp only [Except.map, hnot, decide_false, Bool.not_false]

section Runs

open ThreadSystem

variable [DecidableEq ι]

/-- Where the directory accepts resets and no node is told four times that there is no such user,
only accepted passwords are stored. The check is in time outside of the four days around the
expiry. -/
theorem run_storesAccepted
    (hprovider : ∀ i, (options i).provider ≠ some DIRECTORYSERVICE_ACTIVE_DIRECTORY)
    {s₀ s : Threads ι Op Answer Raised Unit (Directory ι)}
    {t : List (Edge (Threads ι Op Answer Raised Unit (Directory ι)) (Act ι Op Answer Raised Unit))}
    (hidle : ∀ i, ∃ outcome, s₀.thread i = .done outcome)
    (hrun : Run (Step (agents options)) s₀ t s) (hallowed : ∀ e ∈ t, onCalls NotAllMissed e) :
    (∀ e ∈ t, onCalls StoresAccepted e) ∧
      ∀ user expiry now, passwordExpiryDate user = .ok (some expiry) →
        (TriggersWhenDue user expiry now ↔
          ¬ (expiry.micros - 2 * day ≤ now.micros ∧ now.micros < expiry.micros + 2 * day)) := by
  have hkept : (nodes options).Kept s₀ := by
    intro i
    obtain ⟨outcome, hdone⟩ := hidle i
    rw [hdone]
    exact fun _ _ => trivial
  refine ⟨(hkept.run ?_ hrun hallowed).2,
    fun user expiry now h => triggersWhenDue_iff h now⟩
  rintro i program shared rfl -
  refine (checkAndResetAdminPassword_ensures (hprovider i) shared trivial).post ?_
  exact fun _ _ _ => trivial

end Runs

def sampleUser : LdapUser := ⟨some 1700000000, some 42⟩

def sampleExpiry : DateTime := ⟨1703628800000000, by decide, by decide⟩

def daysAfterExpiry (days : ℤ) (h : -42 ≤ days ∧ days ≤ 42) : DateTime :=
  ⟨1703628800000000 + days * day, by unfold day; omega, by unfold day; omega⟩

def managedClient : ClientOptions where
  provider := some DIRECTORYSERVICE_AWS_MANAGED_ACTIVE_DIRECTORY
  rootPassword := some "initial"
  rootPasswordFile := none
  rootPasswordSecretArn := none

def oracle (accepts : Bool) : (op : Op) → Directory Unit → Answer op × Directory Unit
  | .resetUserPassword username password _, s =>
    if accepts then (.ok (), s.accept username password)
    else (.error (userDoesNotExist "not found"), s)
  | .acquire, s =>
    if s.holder = none then (.ok (), { s with holder := some () }) else (.error .external, s)
  | .release, s => if s.holder = some () then (.ok (), { s with holder := none }) else (.ok (), s)
  | op, s => (reading sampleUser (daysAfterExpiry 3 (by decide)) op, s)

theorem effect_oracle (accepts : Bool) (op : Op) (s : Directory Unit) :
    effect () op s (oracle accepts op s).1 (oracle accepts op s).2 := by
  cases op with
  | resetUserPassword username password currentRetry =>
    cases accepts with
    | true => exact ⟨fun _ _ h => (nomatch h), .inl ⟨rfl, fun _ h => (nomatch h)⟩⟩
    | false => exact ⟨fun _ _ h => (nomatch h), .inr ⟨rfl, fun h => (nomatch h)⟩⟩
  | acquire =>
    by_cases h : s.holder = none
    · simp only [oracle, if_pos h]
      exact ⟨fun _ => h, .inr ⟨h, rfl⟩⟩
    · simp only [oracle, if_neg h]
      exact ⟨fun h => (nomatch h), .inl ⟨rfl, fun h => (nomatch h)⟩⟩
  | release =>
    by_cases h : s.holder = some ()
    · simp only [oracle, if_pos h]
      exact .inr ⟨h, rfl⟩
    · simp only [oracle, if_neg h]
      exact .inl rfl
  | _ => rfl

def oneNode : Threads Unit Op Answer Raised Unit (Directory Unit) where
  shared := ⟨fun _ => some "initial", [("Admin", "initial")], none, false⟩
  thread _ := .done (.ok ())

def started : Threads Unit Op Answer Raised Unit (Directory Unit) :=
  ⟨oneNode.shared, Function.update oneNode.thread () (checkAndResetAdminPassword managedClient)⟩

theorem exists_run (accepts : Bool) :
    ∃ t s, Run (ThreadSystem.Step (agents fun _ => managedClient)) oneNode t s ∧
      ∀ P : Unit → (op : Op) → Directory Unit → Answer op → Prop,
        (∀ e ∈ t, ThreadSystem.onCalls P e) ↔
          ∀ made ∈ (checkAndResetAdminPassword managedClient).calls (oracle accepts) oneNode.shared,
            P () made.op made.pre made.answer := by
  have hstart : ThreadSystem.Step (agents fun _ => managedClient) oneNode
      (.start () (checkAndResetAdminPassword managedClient)) started := .start rfl rfl
  obtain ⟨t, s, hrun, hcalls⟩ :=
    ThreadSystem.exists_run_alone (agents fun _ => managedClient) (effect_oracle accepts)
      (checkAndResetAdminPassword managedClient) started rfl
  refine ⟨_, s, (Run.single hstart).append hrun, fun P => ?_⟩
  rw [List.singleton_append, List.forall_mem_cons, hcalls P]
  exact ⟨fun h => h.2, fun h => ⟨trivial, h⟩⟩

theorem expiry_sampleUser : passwordExpiryDate sampleUser = .ok (some sampleExpiry) := by
  decide +kernel

/-- A directory that accepts the reset. -/
theorem run_storesAccepted_accepting :
    (∃ t s, Run (ThreadSystem.Step (agents fun _ => managedClient)) oneNode t s ∧
      ∀ e ∈ t, ThreadSystem.onCalls StoresAccepted e) ∧
      TriggersWhenDue sampleUser sampleExpiry (daysAfterExpiry 3 (by decide)) := by
  obtain ⟨t, s, hrun, hcalls⟩ := exists_run true
  have hallowed : ∀ e ∈ t, ThreadSystem.onCalls NotAllMissed e := by
    refine (hcalls NotAllMissed).mpr fun made hmade => ?_
    rw [Program.mem_calls hmade]
    cases made.op with
    | resetUserPassword _ _ _ => exact fun _ _ h => (nomatch h)
    | _ => trivial
  obtain ⟨hstores, htriggers⟩ := run_storesAccepted
    (fun _ => by decide) (fun _ => ⟨_, rfl⟩) hrun hallowed
  exact ⟨⟨t, s, hrun, hstores⟩, (htriggers _ _ _ expiry_sampleUser).mpr (by decide)⟩

def isRefusedStore (made : Program.Made Op Answer (Directory Unit)) : Bool :=
  match made.op with
  | .store _ password => !made.pre.accepted.any fun accepted => accepted.2 = password
  | _ => false

/-- After four answers that there is no such user, the new password is stored all the same; and one
day before the expiry the check does not trigger. -/
theorem stores_refused_password :
    (∃ t s, Run (ThreadSystem.Step (agents fun _ => managedClient)) oneNode t s ∧
      ¬ ∀ e ∈ t, ThreadSystem.onCalls StoresAccepted e) ∧
      ¬ TriggersWhenDue sampleUser sampleExpiry (daysAfterExpiry (-1) (by decide)) := by
  constructor
  · obtain ⟨t, s, hrun, hcalls⟩ := exists_run false
    refine ⟨t, s, hrun, fun h => ?_⟩
    have hrefused : ((checkAndResetAdminPassword managedClient).calls (oracle false)
        oneNode.shared).any isRefusedStore = true := by decide +kernel
    obtain ⟨made, hmade, hstore⟩ := List.any_eq_true.mp hrefused
    have haccepted := (hcalls StoresAccepted).mp h made hmade
    obtain ⟨op, pre, answer⟩ := made
    cases op with
    | store place password =>
      obtain ⟨username, haccepted, -⟩ := haccepted
      have hany : pre.accepted.any (fun accepted => accepted.2 = password) = true :=
        List.any_eq_true.mpr ⟨_, haccepted, decide_eq_true rfl⟩
      simp only [isRefusedStore, hany, Bool.not_true] at hstore
      exact absurd hstore Bool.false_ne_true
    | _ => exact absurd hstore Bool.false_ne_true
  · intro h
    have heval : isPasswordExpired.eval
        (reading sampleUser (daysAfterExpiry (-1) (by decide))) = .ok false := by decide +kernel
    have := h (by decide) _ (reads_reading _ _)
    rw [heval] at this
    cases this

end Idea.ADAutomationAgent

import Idea.Provisioner.ProvisionJobs

/-! # The retry of stuck provisioning

The housekeeper goes through the queued and held jobs. It deletes the stack of a job whose
provisioning failed or timed out and resets the job, so that it is provisioned again. Both the
status check and the housekeeper read the age of a stack as the seconds of its last day, so a
stack that has timed out counts as a new one again at every full day of its age.
-/

namespace Idea

/-- The calls that change queues, stacks or the scheduler. -/
inductive CleanupCall where
  | jobModified (job : SocaJob)
  | putJob (job : SocaJob)
  | deleteStack (stackName : String)
  | resetJob (jobId : Option String)

/-- What the housekeeper reads while it looks at one entry of the jobs table, and how its calls
end. The status check reads `util`; the time `utcnow` is read after it. -/
structure CleanupContext where
  entry : Except Raised (Option SocaJob)
  getJob : Option String → Except Raised (Option SocaJob)
  hasProvisioningQueue : Option String → Bool
  util : ProvisionContext
  utcnow : ℤ
  stackProvisioningTimeoutSecs : Option ℤ
  callOutcome : CleanupCall → Except Raised Unit

/-- What is done about a provisioned job. -/
inductive CleanupAction where
  | wait | reset | deleteAndReset
  deriving DecidableEq, Repr

/-- The statuses of the stacks that were looked up so far. -/
abbrev ComputeStacks : Type := Dict String (Option ProvisioningStatus)

namespace RetryCleanup

open JobProvisioningUtil

variable (ctx : CleanupContext)

def makeCall (call : CleanupCall) : Logged CleanupCall Raised Unit :=
  .call call (ctx.callOutcome call)

def batchOf (job : SocaJob) : JobBatch := ⟨job, []⟩

def completedAction (job : SocaJob) : Except Raised CleanupAction := do
  let stack ← stack ctx.util (batchOf job)
  match stack with
  | none => .error .attributeError
  | some stack =>
    match stack.creationTime, ctx.stackProvisioningTimeoutSecs with
    | none, _ => .ok .wait
    | some _, none => .error .typeError
    | some creationTime, some timeout =>
      .ok (if Timedelta.seconds (ctx.utcnow - creationTime) < timeout then .wait
        else .deleteAndReset)

def cleanupAction (job : SocaJob) : Option ProvisioningStatus → Except Raised CleanupAction
  | some .inProgress | some .deleteInProgress => .ok .wait
  | some .completed => if job.isSharedCapacity then .ok .wait else completedAction ctx job
  | some .failed | some .timeout => .ok .deleteAndReset
  | some .notProvisioned | none => .ok .reset

def resetJob (job : SocaJob) : Logged CleanupCall Raised Unit := do
  makeCall ctx (.resetJob job.jobId)
  (makeCall ctx (.jobModified job)).tryCatch fun _ => some (pure ())

def act (job : SocaJob) (computeStack : String) :
    CleanupAction → Logged CleanupCall Raised Unit
  | .wait => pure ()
  | .reset => resetJob ctx job
  | .deleteAndReset => do
    (makeCall ctx (.deleteStack computeStack)).tryCatch fun _ => some (pure ())
    resetJob ctx job

def stackStatus (computeStacks : ComputeStacks) (job : SocaJob) (computeStack : String) :
    Except Raised (Option ProvisioningStatus) :=
  match computeStacks.get? computeStack with
  | some provisioningStatus => .ok provisioningStatus
  | none => checkStatus ctx.util (batchOf job)

def lookAtProvisioned (computeStacks : ComputeStacks) (job : SocaJob) :
    Logged CleanupCall Raised ComputeStacks :=
  match job.getComputeStack ctx.util.digest with
  | .error _ => pure computeStacks
  | .ok computeStack =>
    match stackStatus ctx computeStacks job computeStack with
    | .error _ => pure computeStacks
    | .ok provisioningStatus =>
      let acted := .ofExcept (cleanupAction ctx job provisioningStatus) >>=
        act ctx job computeStack
      ⟨acted.calls, .ok (computeStacks.set computeStack provisioningStatus)⟩

def lookAtHeld (job : SocaJob) : Logged CleanupCall Raised Unit :=
  match ctx.getJob job.jobId with
  | .error e => .ofExcept (.error e)
  | .ok none => .ofExcept (.error .attributeError)
  | .ok (some job) =>
    if job.state = some .held then pure () else makeCall ctx (.jobModified job)

def lookAtUnprovisioned (job : SocaJob) : Logged CleanupCall Raised Unit :=
  if ctx.hasProvisioningQueue job.queueType then makeCall ctx (.putJob job) else pure ()

def lookAt (computeStacks : ComputeStacks) (ctx : CleanupContext) :
    Logged CleanupCall Raised ComputeStacks :=
  match ctx.entry with
  | .error _ | .ok none => pure computeStacks
  | .ok (some job) =>
    if job.state = some .held then ⟨(lookAtHeld ctx job).calls, .ok computeStacks⟩
    else if !job.isProvisioned then ⟨(lookAtUnprovisioned ctx job).calls, .ok computeStacks⟩
    else lookAtProvisioned ctx computeStacks job

def retryProvisioningCleanup (looks : List CleanupContext) :
    Logged CleanupCall Raised ComputeStacks :=
  .foldEach lookAt looks ∅

variable {ctx} {computeStacks computeStacks' : ComputeStacks} {look : CleanupContext}
  {job : SocaJob} {computeStack : String}

theorem lookAt_computeStacks (computeStacks : ComputeStacks) (look : CleanupContext) :
    ∃ computeStacks', (lookAt computeStacks look).outcome = .ok computeStacks' ∧
      ∀ name ∈ computeStacks'.keys, name ∈ computeStacks.keys ∨
        ∃ job, look.entry = .ok (some job) ∧ job.getComputeStack look.util.digest = .ok name := by
  unfold lookAt
  split
  · exact ⟨_, rfl, fun _ h => .inl h⟩
  · exact ⟨_, rfl, fun _ h => .inl h⟩
  · rename_i job hentry
    split
    · exact ⟨_, rfl, fun _ h => .inl h⟩
    · split
      · exact ⟨_, rfl, fun _ h => .inl h⟩
      · unfold lookAtProvisioned
        split
        · exact ⟨_, rfl, fun _ h => .inl h⟩
        · rename_i computeStack hname
          split
          · exact ⟨_, rfl, fun _ h => .inl h⟩
          · refine ⟨_, rfl, fun name h => ?_⟩
            rcases (Dict.mem_keys_set ..).mp h with rfl | h
            · exact .inr ⟨job, hentry, hname⟩
            · exact .inl h

theorem mem_calls_foldEach {before after : List CleanupContext} {call : CleanupCall}
    {name : String} (hnew : name ∉ computeStacks.keys)
    (hbefore : ∀ look ∈ before, ∀ job, look.entry = .ok (some job) →
      job.getComputeStack look.util.digest ≠ .ok name)
    (hcall : ∀ computeStacks : ComputeStacks, name ∉ computeStacks.keys →
      call ∈ (lookAt computeStacks look).calls) :
    call ∈ (Logged.foldEach lookAt (before ++ look :: after) computeStacks).calls := by
  induction before generalizing computeStacks with
  | nil => exact Logged.mem_calls_bind.mpr (.inl (hcall _ hnew))
  | cons earlier before ih =>
    rw [List.forall_mem_cons] at hbefore
    obtain ⟨next, hnext, hkeys⟩ := lookAt_computeStacks computeStacks earlier
    refine Logged.mem_calls_bind.mpr (.inr ⟨next, hnext, ih (fun h => ?_) hbefore.2⟩)
    rcases hkeys name h with h | ⟨job, hentry, hname⟩
    · exact hnew h
    · exact hbefore.1 job hentry hname

/-- A look at a queued job whose complete stack is of its own and was created at the time
`creationTime`, made at the time `now`. -/
structure Sees (look : CleanupContext) (name : String) (creationTime now timeout : ℤ) : Prop where
  entry : ∃ job, look.entry = .ok (some job) ∧ job.state = some .queued ∧
    job.isProvisioned = true ∧ job.isSharedCapacity = false ∧
    job.getComputeStack look.util.digest = .ok name
  stack : ∃ stack, look.util.describeStack name = .ok (some stack) ∧
    stack.stackStatus = some .createComplete ∧ isStackASharedResource stack = false ∧
    stack.creationTime = some creationTime
  now : look.util.utcnow = now
  timeout : look.util.stackProvisioningTimeoutSecs = timeout ∧
    look.stackProvisioningTimeoutSecs = some timeout

theorem Sees.deletes {name : String} {creationTime now timeout : ℤ}
    (h : Sees look name creationTime now timeout) (hnew : name ∉ computeStacks.keys)
    (htime : timeout < Timedelta.seconds (now - creationTime)) :
    .deleteStack name ∈ (lookAt computeStacks look).calls := by
  obtain ⟨⟨job, hentry, hstate, hprovisioned, _, hname⟩, ⟨stack, hstack, hcomplete, hown, hcreated⟩,
    rfl, rfl, _⟩ := h
  have hstatus : stackStatus look computeStacks job name = .ok (some .timeout) := by
    have hfound : JobProvisioningUtil.stack look.util (batchOf job) = .ok (some stack) := by
      simp only [JobProvisioningUtil.stack, stackName, batchOf, Raised.bind_eq_ok]
      exact ⟨name, hname, hstack⟩
    have htest : isProvisioningTimeout look.util stack = true := by
      simpa [isProvisioningTimeout, hcreated] using htime
    simp [stackStatus, Dict.get?_eq_none.mpr hnew, checkStatus, hfound, statusOf, hcomplete, hown,
      htest]
  have hheld : job.state ≠ some .held := by simp [hstate]
  simp only [lookAt, hentry, if_neg hheld, hprovisioned, Bool.not_true, Bool.false_eq_true,
    if_false, lookAtProvisioned, hname, hstatus]
  refine Logged.mem_calls_bind.mpr (.inr ⟨.deleteAndReset, rfl, ?_⟩)
  refine Logged.mem_calls_bind.mpr (.inl ((Logged.mem_calls_tryCatch ?_).mpr ?_))
  · rintro _ _ ⟨⟩
    rfl
  · exact List.mem_singleton_self _

section Timeout

variable (ctx : ProvisionContext) (stack : CloudFormationStack) (creationTime : ℤ)

/-- The timeout test of a stack created at `creationTime`, made at the time `now`. -/
def testAt (now : ℤ) : Bool :=
  isProvisioningTimeout { ctx with utcnow := now } { stack with creationTime := some creationTime }

/-- The age of the stack is over the timeout. -/
def TimedOut (timeout age : ℤ) : Prop := timeout * 1000000 < age

/-- Every pass that looks at the stack for the first time at the time `now` deletes it. -/
def DeletesAt (timeout now : ℤ) : Prop :=
  ∀ before look after name, Sees look name creationTime now timeout →
    (∀ earlier ∈ before, ∀ job, earlier.entry = .ok (some job) →
      job.getComputeStack earlier.util.digest ≠ .ok name) →
    .deleteStack name ∈ (retryProvisioningCleanup (before ++ look :: after)).calls

/-- The timeout test is the comparison of the age with the timeout, once true it stays so, and
what has timed out is deleted. -/
structure TimeoutLasts (t₁ t₂ : ℤ) : Prop where
  lasts : t₁ ≤ t₂ → testAt ctx stack creationTime t₁ = true →
    testAt ctx stack creationTime t₂ = true
  compares : ∀ t ∈ [t₁, t₂], (testAt ctx stack creationTime t = true ↔
    TimedOut ctx.stackProvisioningTimeoutSecs (t - creationTime))
  deletes : ∀ t ∈ [t₁, t₂], TimedOut ctx.stackProvisioningTimeoutSecs (t - creationTime) →
    DeletesAt creationTime ctx.stackProvisioningTimeoutSecs t

/-- An age over the timeout falls into the part of some day after the timeout has passed, and
one that is not over it is not negative or falls outside these parts. -/
def DecidedByDay (timeout age : ℤ) : Prop :=
  (TimedOut timeout age ∧ Timedelta.InWindow timeout age) ∨
    (¬ TimedOut timeout age ∧ (0 ≤ age ∨ ¬ Timedelta.InWindow timeout age))

variable {ctx stack creationTime}

theorem testAt_iff {now : ℤ} : testAt ctx stack creationTime now = true ↔
    Timedelta.InWindow ctx.stackProvisioningTimeoutSecs (now - creationTime) := by
  rw [← Timedelta.lt_seconds_iff]
  simp [testAt, isProvisioningTimeout]

theorem testAt_compares_iff {now : ℤ} :
    (testAt ctx stack creationTime now = true ↔
      TimedOut ctx.stackProvisioningTimeoutSecs (now - creationTime)) ↔
    DecidedByDay ctx.stackProvisioningTimeoutSecs (now - creationTime) := by
  rw [testAt_iff]
  generalize now - creationTime = age
  unfold DecidedByDay
  by_cases h : TimedOut ctx.stackProvisioningTimeoutSecs age
  · simp [h]
  · have hout : 0 ≤ age → ¬ Timedelta.InWindow ctx.stackProvisioningTimeoutSecs age := by
      intro hage hin
      have hlt := Timedelta.lt_seconds_iff.mpr hin
      have hle := Timedelta.seconds_le hage
      exact h (show _ < _ by omega)
    constructor
    · intro hiff
      exact .inr ⟨h, .inr fun hin => h (hiff.mp hin)⟩
    · rintro (⟨htimed, _⟩ | ⟨_, hage | hin⟩)
      · exact absurd htimed h
      · exact iff_of_false (hout hage) h
      · exact iff_of_false hin h

theorem TimedOut.mono {timeout age age' : ℤ} (h : TimedOut timeout age) (hle : age ≤ age') :
    TimedOut timeout age' :=
  lt_of_lt_of_le h hle

theorem deletesAt_of_testAt {now : ℤ} (h : testAt ctx stack creationTime now = true) :
    DeletesAt creationTime ctx.stackProvisioningTimeoutSecs now := by
  intro before look after name hsees hbefore
  refine mem_calls_foldEach (by simp) hbefore fun computeStacks hnew => hsees.deletes hnew ?_
  exact Timedelta.lt_seconds_iff.mpr (testAt_iff.mp h)

/-- The timeout lasts exactly when both ages are decided by their days. -/
theorem timeout_lasts_iff (ctx : ProvisionContext) (stack : CloudFormationStack)
    (creationTime t₁ t₂ : ℤ) :
    TimeoutLasts ctx stack creationTime t₁ t₂ ↔
      ∀ t ∈ [t₁, t₂], DecidedByDay ctx.stackProvisioningTimeoutSecs (t - creationTime) := by
  constructor
  · intro h t ht
    exact testAt_compares_iff.mp (h.compares t ht)
  · intro h
    have hcompares : ∀ t ∈ [t₁, t₂], (testAt ctx stack creationTime t = true ↔
        TimedOut ctx.stackProvisioningTimeoutSecs (t - creationTime)) :=
      fun t ht => testAt_compares_iff.mpr (h t ht)
    have h₁ := hcompares t₁ (by simp)
    have h₂ := hcompares t₂ (by simp)
    constructor
    · intro hle htest
      exact h₂.mpr ((h₁.mp htest).mono (by omega))
    · exact hcompares
    · intro t ht htimed
      exact deletesAt_of_testAt ((hcompares t ht).mpr htimed)

end Timeout

/-- With a timeout of half an hour the test is true after 2000 seconds and false at one day. -/
theorem timeout_forgotten_at_a_day :
    ¬ ∀ (ctx : ProvisionContext) (stack : CloudFormationStack) (creationTime t₁ t₂ : ℤ),
      TimeoutLasts ctx stack creationTime t₁ t₂ := by
  intro h
  let ctx : ProvisionContext :=
    { digest := id
      utcnow := 0
      currentTimeMs := 0
      stackProvisioningTimeoutSecs := 1800
      describeStack := fun _ => .ok none
      describeStackResources := fun _ => .ok {}
      describeSpotFleetRequest := fun _ => .ok none
      describeAutoScalingGroup := fun _ => .ok none
      listComputeInstances := fun _ => .ok []
      getNode := fun _ => .ok none
      jobs := .new
      availableLicenses := fun _ => 0
      activeJobLicenses := ∅
      checkBudgetAvailability := fun _ => .ok ()
      runInstancesDryRun := fun _ _ => .ok ()
      checkServiceQuota := fun _ => .ok ()
      checkReservedInstanceUsage := fun _ => .ok ()
      buildStack := fun _ _ => .ok ""
      qalter := fun _ _ => none
      callOutcome := fun _ => .ok () }
  have hlasts := (h ctx {} 0 2000000000 86400000000).lasts (by decide) (by decide)
  exact absurd hlasts (by decide)

end RetryCleanup

end Idea

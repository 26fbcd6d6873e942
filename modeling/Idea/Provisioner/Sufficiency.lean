import Mathlib.Algebra.BigOperators.Group.List.Basic
import Idea.Provisioner.ProvisionJobs

/-! # Whether the capacity of a batch is sufficient

The jobs of a batch take idle capacity in order, as far as they fit. The last job that does not
fit sets the target: the desired capacity of the group without the idle capacity that is left,
unless more is provisioned. No job is left out and no capacity is given up, but the target may
be smaller than what the batch asks for, since the idle capacity is part of the target.
-/

namespace Idea

def fitsInto (available size : ℤ) : Prop := 0 < available ∧ size ≤ available

instance (available size : ℤ) : Decidable (fitsInto available size) :=
  inferInstanceAs (Decidable (_ ∧ _))

def leftAtMisfit : ℤ → List ℤ → Option ℤ
  | _, [] => none
  | available, size :: sizes =>
    if fitsInto available size then leftAtMisfit (available - size) sizes
    else (leftAtMisfit available sizes).or (some available)

namespace BatchCapacityHelper

variable {ctx : ProvisionContext} {batch : JobBatch} {provisionedCapacity groupCapacity : ℤ}
  {counts : CapacityCounts} {jobs : List SocaJob} {sizes : List ℤ}

def resultingCapacity (provisionedCapacity : ℤ) (capacityInfo : ProvisioningCapacityInfo) : ℤ :=
  if capacityInfo.targetCapacity > 0 then capacityInfo.targetCapacity else provisionedCapacity

theorem mapM_cons_eq_ok {job : SocaJob} (h : (job :: jobs).mapM SocaJob.desiredCapacity = .ok sizes) :
    ∃ size rest, job.desiredCapacity = .ok size ∧ jobs.mapM SocaJob.desiredCapacity = .ok rest ∧
      sizes = size :: rest := by
  rw [List.mapM_cons, Raised.bind_eq_ok] at h
  obtain ⟨size, hsize, h⟩ := h
  rw [Raised.bind_eq_ok] at h
  obtain ⟨rest, hrest, h⟩ := h
  exact ⟨size, rest, hsize, hrest, (Except.ok.inj h).symm⟩

theorem placeJob_eq {progress : BatchProgress} {job : SocaJob} {size : ℤ}
    (h : job.desiredCapacity = .ok size) :
    placeJob provisionedCapacity groupCapacity progress job = .ok
      (if fitsInto progress.availableCapacity size then
        { progress with
          availableCapacity := progress.availableCapacity - size
          provisionedJobs := progress.provisionedJobs ++ [job] }
      else
        { progress with
          targetCapacity :=
            max 0 (max provisionedCapacity (groupCapacity - progress.availableCapacity))
          provisionedJobs := progress.provisionedJobs ++ [job] }) := by
  by_cases hfits : 0 < progress.availableCapacity ∧ size ≤ progress.availableCapacity
  · simp [placeJob, h, bind, Except.bind, fitsInto, hfits]
  · simp [placeJob, h, bind, Except.bind, fitsInto, hfits]

theorem foldlM_placeJob (provisionedCapacity groupCapacity : ℤ) (progress : BatchProgress)
    (h : jobs.mapM SocaJob.desiredCapacity = .ok sizes) :
    ∃ progress', jobs.foldlM (placeJob provisionedCapacity groupCapacity) progress =
        .ok progress' ∧
      progress'.targetCapacity =
        ((leftAtMisfit progress.availableCapacity sizes).map fun left =>
          max 0 (max provisionedCapacity (groupCapacity - left))).getD progress.targetCapacity := by
  induction jobs generalizing progress sizes with
  | nil =>
    obtain rfl : [] = sizes := Except.ok.inj h
    exact ⟨progress, rfl, rfl⟩
  | cons job jobs ih =>
    obtain ⟨size, rest, hsize, hrest, rfl⟩ := mapM_cons_eq_ok h
    rw [List.foldlM_cons, placeJob_eq hsize]
    obtain ⟨progress', hfold, htarget⟩ := ih _ hrest
    refine ⟨progress', hfold, ?_⟩
    rw [htarget, leftAtMisfit]
    split
    · rfl
    · cases hleft : leftAtMisfit progress.availableCapacity rest with
      | none => simp
      | some left => simp

theorem availableCapacity_nonneg {progress progress' : BatchProgress}
    (h : jobs.foldlM (placeJob provisionedCapacity groupCapacity) progress = .ok progress')
    (hstart : 0 ≤ progress.availableCapacity) : 0 ≤ progress'.availableCapacity := by
  refine Raised.foldlM_invariant (fun progress => 0 ≤ progress.availableCapacity) h hstart ?_
  intro job _ before after hbefore hplace
  obtain ⟨size, hsize, _⟩ := Raised.bind_eq_ok.mp hplace
  rw [placeJob_eq hsize] at hplace
  obtain rfl := Except.ok.inj hplace
  split
  · rename_i hfits
    dsimp only
    have := hfits.2
    omega
  · exact hbefore

/-- What is decided for a batch: no job is left out, idle capacity is never overdrawn, no capacity
that is provisioned is given up, and there is enough for all jobs if the group is large enough. -/
structure Sufficient (ctx : ProvisionContext) (batch : JobBatch) (provisionedCapacity : ℤ)
    (counts : CapacityCounts) (sizes : List ℤ) (result : BatchCapacityResult) : Prop where
  partition : result.provisionedJobs ++ result.unprovisionedJobs = batch.jobs
  available : ∀ jobs progress, jobs <+: batch.jobs →
    jobs.foldlM (placeJob provisionedCapacity (ctx.jobs.getDesiredCapacity batch.job.jobGroup))
      { availableCapacity := counts.idleCapacity } = .ok progress →
    0 ≤ progress.availableCapacity
  kept : provisionedCapacity ≤ resultingCapacity provisionedCapacity result.capacityInfo
  enough : sizes.sum ≤ ctx.jobs.getDesiredCapacity batch.job.jobGroup →
    sizes.sum ≤ resultingCapacity provisionedCapacity result.capacityInfo

/-- The target of the last misfit is enough for the sizes. -/
def Covered (idleCapacity provisionedCapacity groupCapacity : ℤ) (sizes : List ℤ) : Prop :=
  groupCapacity < sizes.sum ∨
    ∀ left, leftAtMisfit idleCapacity sizes = some left →
      provisionedCapacity = 0 ∧ groupCapacity ≤ left ∨
        sizes.sum ≤ max provisionedCapacity (groupCapacity - left)

def targetOf (idleCapacity provisionedCapacity groupCapacity : ℤ) (sizes : List ℤ) : ℤ :=
  (finalTarget provisionedCapacity groupCapacity
    (((leftAtMisfit idleCapacity sizes).map fun left =>
      max 0 (max provisionedCapacity (groupCapacity - left))).getD 0)).1

theorem invoke_eq (provisionedCapacity : ℤ) (hcounts : findAvailableCapacity ctx batch = .ok counts)
    (hsizes : batch.jobs.mapM SocaJob.desiredCapacity = .ok sizes) :
    ∃ result, invoke ctx batch provisionedCapacity = .ok result ∧
      result.capacityInfo.targetCapacity = targetOf counts.idleCapacity provisionedCapacity
        (ctx.jobs.getDesiredCapacity batch.job.jobGroup) sizes := by
  obtain ⟨progress, hfold, htarget⟩ := foldlM_placeJob provisionedCapacity
    (ctx.jobs.getDesiredCapacity batch.job.jobGroup)
    { availableCapacity := counts.idleCapacity } hsizes
  simp only [invoke, hcounts, bind, Except.bind, computeBatchCapacity] at hfold ⊢
  rw [hfold]
  exact ⟨_, rfl, congrArg (fun target => (finalTarget _ _ target).1) htarget⟩

theorem le_targetOf_iff {idleCapacity : ℤ} (hprovisioned : 0 ≤ provisionedCapacity)
    {capacityInfo : ProvisioningCapacityInfo}
    (h : capacityInfo.targetCapacity =
      targetOf idleCapacity provisionedCapacity groupCapacity sizes) :
    provisionedCapacity ≤ resultingCapacity provisionedCapacity capacityInfo ∧
      ((sizes.sum ≤ groupCapacity →
          sizes.sum ≤ resultingCapacity provisionedCapacity capacityInfo) ↔
        Covered idleCapacity provisionedCapacity groupCapacity sizes) := by
  rw [resultingCapacity, h, targetOf, Covered]
  cases hleft : leftAtMisfit idleCapacity sizes with
  | none =>
    simp only [Option.map_none, Option.getD_none, finalTarget]
    constructor
    · grind
    · simp
      grind
  | some left =>
    simp only [Option.map_some, Option.getD_some, finalTarget, Option.some.injEq, forall_eq']
    constructor
    · grind
    · grind

/-- The capacity suffices exactly when the target of the last job that does not fit covers the
batch: its idle capacity is subtracted although it is part of the target. -/
theorem sufficient_iff (hcounts : findAvailableCapacity ctx batch = .ok counts)
    (hidle : 0 ≤ counts.idleCapacity) (hprovisioned : 0 ≤ provisionedCapacity)
    (hsizes : batch.jobs.mapM SocaJob.desiredCapacity = .ok sizes) :
    (∃ result, invoke ctx batch provisionedCapacity = .ok result ∧
        Sufficient ctx batch provisionedCapacity counts sizes result) ↔
      Covered counts.idleCapacity provisionedCapacity
        (ctx.jobs.getDesiredCapacity batch.job.jobGroup) sizes := by
  obtain ⟨result, hinvoke, htarget⟩ := invoke_eq provisionedCapacity hcounts hsizes
  have hle := le_targetOf_iff hprovisioned htarget
  constructor
  · rintro ⟨result', hinvoke', hsufficient⟩
    obtain rfl : result = result' := Except.ok.inj (hinvoke.symm.trans hinvoke')
    exact hle.2.mp hsufficient.enough
  · intro hcovered
    refine ⟨result, hinvoke, ?_⟩
    obtain ⟨hjobs, hnone⟩ := invoke_spec hinvoke
    constructor
    · rw [hjobs, hnone, List.append_nil]
    · intro jobs progress _ hfold
      exact availableCapacity_nonneg hfold hidle
    · exact hle.1
    · exact hle.2.mpr hcovered

namespace SufficiencyExample

def job : SocaJob where
  jobId := some "7"
  jobGroup := some "group"
  params := some { nodes := some 5, instanceTypes := some ["c5.large"] }
  provisioningOptions := some
    { instanceTypes := some [{ name := some "c5.large", weightedCapacity := some 3 }] }

def context : ProvisionContext where
  digest := id
  utcnow := 0
  currentTimeMs := 0
  stackProvisioningTimeoutSecs := 1800
  describeStack := fun _ => .ok none
  describeStackResources := fun _ => .ok {}
  describeSpotFleetRequest := fun _ => .ok none
  describeAutoScalingGroup := fun _ => .ok none
  listComputeInstances := fun _ =>
    .ok [{ instanceId := "i-1", instanceType := some "c5.large", privateDnsName := some "host" }]
  getNode := fun _ => .ok (some { states := some [.free], jobs := some [] })
  jobs := JobsTable.new.upsert job
    { jobGroup := some "group", desiredCapacity := 5, state := .queued, owner := none,
      queue := none, queueProfile := none, provisioned := false, jobData := some job } rfl
  availableLicenses := fun _ => 0
  activeJobLicenses := ∅
  checkBudgetAvailability := fun _ => .ok ()
  runInstancesDryRun := fun _ _ => .ok ()
  checkServiceQuota := fun _ => .ok ()
  checkReservedInstanceUsage := fun _ => .ok ()
  buildStack := fun _ _ => .ok ""
  qalter := fun _ _ => none
  callOutcome := fun _ => .ok ()

def oneIdle : CapacityCounts where
  existingCapacity := 3
  idleCapacity := 3
  totalInstances := 1
  idleInstances := 1

end SufficiencyExample

open SufficiencyExample in
theorem sufficient_of_none_provisioned :
    (∃ result, invoke context ⟨job, []⟩ 5 = .ok result ∧
        Sufficient context ⟨job, []⟩ 5 oneIdle [5] result) ↔ Covered 3 5 5 [5] :=
  have hcounts : findAvailableCapacity context ⟨job, []⟩ = .ok oneIdle := rfl
  sufficient_iff hcounts (by decide) (by decide) rfl

open SufficiencyExample in
/-- The three that are idle are subtracted from the five that are asked for, and three stay. -/
theorem idle_capacity_subtracted :
    ¬ ∀ (ctx : ProvisionContext) (batch : JobBatch) (provisionedCapacity : ℤ)
        (counts : CapacityCounts) (sizes : List ℤ),
      findAvailableCapacity ctx batch = .ok counts →
      batch.jobs.mapM SocaJob.desiredCapacity = .ok sizes →
      0 ≤ counts.existingCapacity → 0 ≤ counts.idleCapacity → 0 ≤ provisionedCapacity →
      0 ≤ ctx.jobs.getDesiredCapacity batch.job.jobGroup →
      ∃ result, invoke ctx batch provisionedCapacity = .ok result ∧
        Sufficient ctx batch provisionedCapacity counts sizes result := by
  intro h
  obtain ⟨result, hinvoke, hsufficient⟩ := h context ⟨job, []⟩ 3 oneIdle [5] rfl rfl (by decide)
    (by decide) (by decide) (by decide)
  have hcounts : findAvailableCapacity context ⟨job, []⟩ = .ok oneIdle := rfl
  have hsizes : (JobBatch.mk job []).jobs.mapM SocaJob.desiredCapacity = .ok [5] := rfl
  obtain ⟨result', hinvoke', htarget⟩ := invoke_eq 3 hcounts hsizes
  obtain rfl : result' = result := Except.ok.inj (hinvoke'.symm.trans hinvoke)
  have henough := hsufficient.enough (by decide)
  rw [resultingCapacity, htarget] at henough
  exact absurd henough (by decide)

end BatchCapacityHelper

end Idea

import Idea.Provisioner.Context

/-! # The capacity of a batch

The capacity a batch needs is compared with what the idle instances of its job group offer.
Whatever the comparison gives, all jobs of the batch are provisioned.
-/

namespace Idea

/-- What the instances of a job group amount to. -/
structure CapacityCounts where
  existingCapacity : ℤ := 0
  idleCapacity : ℤ := 0
  busyCapacity : ℤ := 0
  pendingCapacity : ℤ := 0
  totalInstances : ℤ := 0
  idleInstances : ℤ := 0
  busyInstances : ℤ := 0
  pendingInstances : ℤ := 0

/-- The part of the capacity information that is filled in for a batch. -/
structure ProvisioningCapacityInfo where
  targetCapacity : ℤ
  totalInstances : ℤ
  idleInstances : ℤ
  busyInstances : ℤ
  pendingInstances : ℤ
  comment : String

structure BatchCapacityResult where
  provisionedJobs : List SocaJob
  unprovisionedJobs : List SocaJob
  capacityInfo : ProvisioningCapacityInfo

/-- What the loop over the jobs of a batch keeps. -/
structure BatchProgress where
  availableCapacity : ℤ
  targetCapacity : ℤ := 0
  provisionedJobs : List SocaJob := []

namespace BatchCapacityHelper

variable (ctx : ProvisionContext) (batch : JobBatch)

def countNode (counts : CapacityCounts) (instanceCapacity : ℤ) (node : SocaComputeNode) :
    Except Raised CapacityCounts :=
  let counts := { counts with existingCapacity := counts.existingCapacity + instanceCapacity }
  if node.hasState [.free] then
    match node.jobs with
    | none => .error .typeError
    | some jobs =>
      let idleCapacity := counts.idleCapacity + (instanceCapacity - jobs.length)
      .ok { counts with idleCapacity, idleInstances := counts.idleInstances + 1 }
  else if node.hasState [.busy, .jobBusy] then
    let busyCapacity := counts.busyCapacity + instanceCapacity
    .ok { counts with busyCapacity, busyInstances := counts.busyInstances + 1 }
  else if !node.hasState [.offline] then
    let pendingCapacity := counts.pendingCapacity + instanceCapacity
    .ok { counts with pendingCapacity, pendingInstances := counts.pendingInstances + 1 }
  else .ok counts

def countInstance (counts : CapacityCounts) (instance_ : EC2Instance) :
    Except Raised CapacityCounts := do
  let counts := { counts with totalInstances := counts.totalInstances + 1 }
  let instanceCapacity ← batch.job.weightedCapacity instance_.instanceType
  let node ← ctx.getNode instance_.privateDnsName
  match instanceCapacity with
  | none => .error .typeError
  | some instanceCapacity =>
    match node with
    | some node => countNode counts instanceCapacity node
    | none =>
      let pendingCapacity := counts.pendingCapacity + instanceCapacity
      .ok { counts with pendingCapacity, pendingInstances := counts.pendingInstances + 1 }

def findAvailableCapacity : Except Raised CapacityCounts := do
  let jobGroup ← batch.job.getJobGroup ctx.digest
  let instances ← ctx.listComputeInstances jobGroup
  instances.foldlM (countInstance ctx batch) {}

def placeJob (provisionedCapacity groupCapacity : ℤ) (progress : BatchProgress)
    (currentJob : SocaJob) : Except Raised BatchProgress := do
  let desiredCapacity ← currentJob.desiredCapacity
  let provisionedJobs := progress.provisionedJobs ++ [currentJob]
  if progress.availableCapacity > 0 && progress.availableCapacity ≥ desiredCapacity then
    let availableCapacity := progress.availableCapacity - desiredCapacity
    .ok { progress with availableCapacity, provisionedJobs }
  else
    let targetCapacity :=
      max 0 (max provisionedCapacity (groupCapacity - progress.availableCapacity))
    .ok { progress with targetCapacity, provisionedJobs }

def finalTarget (provisionedCapacity groupCapacity targetCapacity : ℤ) : ℤ × String :=
  if targetCapacity > 0 then (targetCapacity, "Updating target_capacity")
  else if provisionedCapacity < groupCapacity then
    (groupCapacity,
      "Set target_capacity to match desired_group_capacity: " ++ toString groupCapacity)
  else (targetCapacity, "Re-using available_capacity")

def computeBatchCapacity (provisionedCapacity groupCapacity : ℤ) (counts : CapacityCounts) :
    Except Raised BatchCapacityResult := do
  let progress ← batch.jobs.foldlM (placeJob provisionedCapacity groupCapacity)
    { availableCapacity := counts.idleCapacity }
  let target := finalTarget provisionedCapacity groupCapacity progress.targetCapacity
  -- the rest starts at the last job that was gone through
  let unprovisionedJobs := if progress.provisionedJobs.length < batch.jobs.length then
    batch.jobs.drop (batch.jobs.length - 1) else []
  let capacityInfo :=
    { targetCapacity := target.1, totalInstances := counts.totalInstances,
      idleInstances := counts.idleInstances, busyInstances := counts.busyInstances,
      pendingInstances := counts.pendingInstances, comment := target.2 }
  .ok { provisionedJobs := progress.provisionedJobs, unprovisionedJobs, capacityInfo }

def invoke (provisionedCapacity : ℤ) : Except Raised BatchCapacityResult := do
  let counts ← findAvailableCapacity ctx batch
  let groupCapacity := ctx.jobs.getDesiredCapacity batch.job.jobGroup
  computeBatchCapacity batch provisionedCapacity groupCapacity counts

variable {ctx batch} {provisionedCapacity groupCapacity : ℤ}

theorem provisionedJobs_placeJob {progress progress' : BatchProgress} {job : SocaJob}
    (h : placeJob provisionedCapacity groupCapacity progress job = .ok progress') :
    progress'.provisionedJobs = progress.provisionedJobs ++ [job] := by
  obtain ⟨desired, _, h⟩ := Raised.bind_eq_ok.mp h
  dsimp only at h
  split at h
  · obtain rfl := Except.ok.inj h
    rfl
  · obtain rfl := Except.ok.inj h
    rfl

theorem provisionedJobs_foldlM_placeJob {jobs : List SocaJob} {progress progress' : BatchProgress}
    (h : jobs.foldlM (placeJob provisionedCapacity groupCapacity) progress = .ok progress') :
    progress'.provisionedJobs = progress.provisionedJobs ++ jobs := by
  induction jobs generalizing progress with
  | nil =>
    obtain rfl : progress = progress' := Except.ok.inj h
    rw [List.append_nil]
  | cons job jobs ih =>
    rw [List.foldlM_cons, Raised.bind_eq_ok] at h
    obtain ⟨mid, hm, h⟩ := h
    rw [ih h, provisionedJobs_placeJob hm, List.append_assoc, List.singleton_append]

theorem invoke_spec {result : BatchCapacityResult}
    (h : invoke ctx batch provisionedCapacity = .ok result) :
    result.provisionedJobs = batch.jobs ∧ result.unprovisionedJobs = [] := by
  obtain ⟨counts, _, h⟩ := Raised.bind_eq_ok.mp h
  obtain ⟨progress, hp, h⟩ := Raised.bind_eq_ok.mp h
  obtain rfl := Except.ok.inj h
  have hjobs : progress.provisionedJobs = batch.jobs := provisionedJobs_foldlM_placeJob hp
  refine ⟨hjobs, if_neg ?_⟩
  rw [hjobs]
  exact lt_irrefl _

end BatchCapacityHelper

end Idea

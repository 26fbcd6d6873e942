import Idea.HouseKeeping.Removal

/-! # Shared capacity that active jobs need

The third pass compares the present capacity of a shared group with the capacity that its
active jobs require, but `begin` does not run it. So a session terminates the candidates of a
group that is short of capacity unless their nodes become busy before they are set offline.
-/

namespace Idea

open NodeHouseKeepingSession

def remainingInstances (ctx : SessionContext) (first : NodeHouseKeepingSession)
    (jobGroup : Option String) : List EC2Instance :=
  ctx.instances.rows.values.filter fun i => isLive i && i.socaJobGroup = jobGroup &&
    !(first.candidates.map EC2Instance.instanceId).contains i.instanceId

/-- What a job group has left without its candidates is less than its active jobs require. -/
def Short (ctx : SessionContext) (first : NodeHouseKeepingSession) (kind : GroupKind)
    (id : String) (jobGroup : Option String) : Prop :=
  ∃ config remaining, ctx.describe false kind id = .ok (some config) ∧
    getPresentCapacity config.weightedCapacities (remainingInstances ctx first jobGroup) =
      .ok remaining ∧
    remaining < requiredCapacity ctx jobGroup

/-- A candidate of shared capacity whose job group would be short without its candidates. -/
def StillNeeded (ctx : SessionContext) (first : NodeHouseKeepingSession) (i : EC2Instance) :
    Prop :=
  ∃ kind id, first.InGroup kind id i ∧ i.isSocaEphemeralCapacity = false ∧
    Short ctx first kind id i.socaJobGroup

/-- The session spares the candidates that are still needed. -/
def RespectsSharedCapacity (ctx : SessionContext) : Prop :=
  ∀ first, pass1IdentifyPotentialCandidatesForDeletion ctx = .ok first →
    ∀ i, StillNeeded ctx first i → Spares ctx i

/-- If the session gets to its last pass, no candidate that is still needed is idle in a group
that is described, and if the candidates of such a group take up its current capacity, then
the stack of the first holds no candidate that is still needed. -/
def NeededBecomeBusy (ctx : SessionContext) : Prop :=
  ∀ first s, pass1IdentifyPotentialCandidatesForDeletion ctx = .ok first →
    (computeDesired ctx).outcome = .ok s → ∀ kind group instances config weight,
    (s.book kind).instances.get? group = some instances →
    ctx.describe true kind group = .ok (some config) →
    getPresentCapacity config.weightedCapacities instances = .ok weight →
      (∀ i, first.InGroup kind group i → StillNeeded ctx first i → ¬ Idle ctx i) ∧
      (config.currentCapacity ≤ weight → ∀ i, StillNeeded ctx first i →
        i.socaComputeStack ≠ none →
          instances.head?.map EC2Instance.socaComputeStack ≠ some i.socaComputeStack)

variable {ctx : SessionContext} {first s s' : NodeHouseKeepingSession} {i : EC2Instance}

theorem StillNeeded.cached (h : StillNeeded ctx first i) (hi : Identified ctx first) :
    Cached ctx i := by
  obtain ⟨kind, id, hin, _⟩ := h
  exact (hi.member kind id i hin).1

/-- A session respects shared capacity exactly when the candidates that are still needed become
busy in time. -/
theorem session_respects_shared_capacity_iff (ctx : SessionContext) :
    RespectsSharedCapacity ctx ↔ NeededBecomeBusy ctx := by
  constructor
  · intro hrespects first s h₁ hs kind group instances config weight hget hd hw
    obtain ⟨first', h₁', hready⟩ := ready_of_computeDesired hs
    obtain rfl : first = first' := Except.ok.inj (h₁.symm.trans h₁')
    have hspared := fun i (hneed : StillNeeded ctx first i) =>
      (spares_iff (hneed.cached hready.identified)).mp (hrespects first h₁ i hneed) s hs kind
        group instances config weight hget hd hw
    constructor
    · intro i hin hneed hidle
      obtain ⟨instances', hget', hmem⟩ := (hready.kept_iff kind group i).mpr ⟨hin, hidle⟩
      obtain rfl := Option.some.inj (hget.symm.trans hget')
      exact (hspared i hneed).1 hmem
    · intro hle i hneed
      exact (hspared i hneed).2 hle
  · intro hbusy first h₁ i hneed
    apply (spares_iff (hneed.cached (identified_of_pass1 h₁))).mpr
    intro s hs kind group instances config weight hget hd hw
    obtain ⟨first', h₁', hready⟩ := ready_of_computeDesired hs
    obtain rfl : first = first' := Except.ok.inj (h₁.symm.trans h₁')
    obtain ⟨hidle, hstacks⟩ := hbusy first s h₁ hs kind group instances config weight hget hd hw
    constructor
    · intro hmem
      obtain ⟨hin, hi⟩ := (hready.kept_iff kind group i).mp ⟨instances, hget, hmem⟩
      exact hidle i hin hneed hi
    · intro hle
      exact hstacks hle i hneed

namespace SharedCapacityExample

def instance_ : EC2Instance where
  instanceId := "i-1"
  state := some "running"
  privateDnsName := some "ip-1"
  launchTime := some 0
  tags := some [(Tag.NODE_TYPE, NODE_TYPE_COMPUTE), (Tag.JOB_ID, "5"), (Tag.JOB_GROUP, "group"),
    (Tag.TERMINATE_WHEN_IDLE, "1"), (Tag.CAPACITY_TYPE, "on-demand"),
    (Tag.AUTOSCALING_GROUP_NAME, "asg"), (Tag.COMPUTE_STACK, "stack")]

def node : SocaComputeNode where
  host := some "ip-1"
  clusterName := some "idea"
  states := some [.free]
  queueType := some "normal"
  instanceId := some "i-1"
  jobGroup := some "group"
  computeStack := some "stack"
  lastUsedTime := some 0

def job : SocaJob where
  jobId := some "7"
  jobGroup := some "group"
  queue := some "normal"
  queueType := some "normal"
  owner := some "user"
  state := some .queued
  provisioned := some true
  params := some { nodes := some 2 }

def row : JobRow where
  jobGroup := some "group"
  desiredCapacity := 2
  state := .queued
  owner := some "user"
  queue := some "normal"
  queueProfile := some "normal"
  provisioned := true
  jobData := some job

def scalingUp : SessionContext where
  clusterName := "idea"
  utcnow := 100
  listNodes := .ok [node]
  getNode := fun _ => .ok (some node)
  instances := ⟨⟨[("i-1", instance_)], by simp⟩, by
    intro instanceId i h
    obtain ⟨rfl, rfl⟩ : instanceId = "i-1" ∧ i = instance_ := by
      have hm := Dict.mem_entries_of_get? h
      simpa using hm
    rfl⟩
  jobs := JobsTable.new.upsert job row rfl
  pendingJobs := fun _ => .ok 0
  describeSpotFleetRequest := fun _ _ => .ok none
  describeAutoScalingGroup := fun _ _ => .ok (some ⟨2, none⟩)
  callOutcome := fun _ => .ok ()
  instanceOrder := .identity _
  nodeOrder := .identity _
  stackOrder := .identity _

def identified : NodeHouseKeepingSession where
  jobGroups := ⟨[(some "group", [instance_])], by simp⟩
  autoScalingGroups := { instances := ⟨[("asg", [instance_])], by simp⟩ }

end SharedCapacityExample

/-- The idle instance of a group that is scaling up is terminated. -/
theorem needed_candidate_terminated :
    ¬ RespectsSharedCapacity SharedCapacityExample.scalingUp := by
  intro h
  have hneed : StillNeeded SharedCapacityExample.scalingUp SharedCapacityExample.identified
      SharedCapacityExample.instance_ := by
    refine ⟨.autoScalingGroup, "asg", ⟨_, rfl, List.mem_singleton_self _⟩, rfl, ⟨2, none⟩, 0, rfl,
      rfl, ?_⟩
    decide
  have hcall : SessionCall.terminateInstances ["i-1"] false ∈
      (begin SharedCapacityExample.scalingUp).calls := by
    have hcalls : (begin SharedCapacityExample.scalingUp).calls =
        [.setNodeState (some "ip-1") .offline, .terminateInstances ["i-1"] false,
          .detachInstances "asg" ["i-1"], .updateAutoScalingGroup "asg" 1] := by rfl
    rw [hcalls]
    simp
  exact (h SharedCapacityExample.identified rfl SharedCapacityExample.instance_ hneed).2 _ hcall
    (List.mem_singleton_self _)

end Idea

import Idea.HouseKeeping.Removal

/-! # Capacity reductions

The desired capacity of a group is its current capacity less the capacity of the kept
candidates, and at least zero. It covers the other members of the group when the current
capacity counts all members, and a desired capacity of zero means that the stack has only
candidates left when no instance of the stack is missing from the current capacity.
-/

namespace Idea

open NodeHouseKeepingSession

def isMember (kind : GroupKind) (id : String) (i : EC2Instance) : Bool :=
  match kind with
  | .spotFleet => i.awsEc2spotFleetRequestId = some id
  | .autoScalingGroup => i.awsAutoscalingGroupName = some id

def otherMembers (ctx : SessionContext) (kind : GroupKind) (id : String)
    (candidates : List EC2Instance) : List EC2Instance :=
  ctx.instances.rows.values.filter fun i => isLive i && isMember kind id i &&
    !(candidates.map EC2Instance.instanceId).contains i.instanceId

/-- A desired capacity of a group that keeps candidates covers its other members. -/
def DesiredCoversOthers (ctx : SessionContext) : Prop :=
  ∀ s, (keepCandidates ctx).outcome = .ok s → ∀ kind id instances config desired others,
    (s.book kind).instances.get? id = some instances →
    ctx.describe true kind id = .ok (some config) →
    getDesiredCapacity config.currentCapacity config.weightedCapacities instances = .ok desired →
    getPresentCapacity config.weightedCapacities (otherMembers ctx kind id instances) = .ok others →
      others ≤ desired

/-- A stack is marked for deletion only when its pending and running instances are all
candidates. -/
def DeletesEmptyStacks (ctx : SessionContext) : Prop :=
  ∀ s s', (computeDesired ctx).outcome = .ok s → s.pass6FinalizeResourcesToDelete = .ok s' →
    ∀ stack, some stack ∈ s'.stacksToDelete → ∀ i, Cached ctx i → isLive i = true →
      i.socaComputeStack = some stack → ∃ kind id, s.InGroup kind id i

/-- The current capacity of a group that keeps candidates counts candidates and others, or
there are no others. -/
def CurrentCoversMembers (ctx : SessionContext) : Prop :=
  ∀ s, (keepCandidates ctx).outcome = .ok s → ∀ kind id instances config weight others,
    (s.book kind).instances.get? id = some instances →
    ctx.describe true kind id = .ok (some config) →
    getPresentCapacity config.weightedCapacities instances = .ok weight →
    getPresentCapacity config.weightedCapacities (otherMembers ctx kind id instances) = .ok others →
      others ≤ 0 ∨ weight + others ≤ config.currentCapacity

/-- When the candidates of a group take up its current capacity, the pending and running
instances in the stack of the first are all candidates. -/
def UsedUpStacksEmpty (ctx : SessionContext) : Prop :=
  ∀ s, (computeDesired ctx).outcome = .ok s → ∀ kind id instances config weight stack,
    (s.book kind).instances.get? id = some instances →
    ctx.describe true kind id = .ok (some config) →
    getPresentCapacity config.weightedCapacities instances = .ok weight →
    config.currentCapacity ≤ weight →
    instances.head?.map EC2Instance.socaComputeStack = some (some stack) →
      ∀ i, Cached ctx i → isLive i = true → i.socaComputeStack = some stack →
        ∃ kind id, s.InGroup kind id i

theorem le_max_sub_iff {current weight others : ℤ} :
    others ≤ max 0 (current - weight) ↔ others ≤ 0 ∨ weight + others ≤ current := by
  omega

theorem desiredCoversOthers_iff (ctx : SessionContext) :
    DesiredCoversOthers ctx ↔ CurrentCoversMembers ctx := by
  constructor
  · intro h s hs kind id instances config weight others hget hd hw ho
    apply le_max_sub_iff.mp
    apply h s hs kind id instances config _ others hget hd _ ho
    exact getDesiredCapacity_eq_ok.mpr ⟨weight, hw, rfl⟩
  · intro h s hs kind id instances config desired others hget hd hdes ho
    obtain ⟨weight, hw, rfl⟩ := getDesiredCapacity_eq_ok.mp hdes
    apply le_max_sub_iff.mpr
    exact h s hs kind id instances config weight others hget hd hw ho

theorem deletesEmptyStacks_iff (ctx : SessionContext) :
    DeletesEmptyStacks ctx ↔ UsedUpStacksEmpty ctx := by
  constructor
  · intro h s hs kind id instances config weight stack hget hd hw hle hhead
    obtain ⟨first, _, hready⟩ := ready_of_computeDesired hs
    obtain ⟨s', hs', _, hstacks, _⟩ := pass6_spec hready
    have hzero : max 0 (config.currentCapacity - weight) = 0 := by omega
    apply h s s' hs hs' stack
    exact (hstacks _).mpr ⟨kind, id, instances, 0,
      decided_iff.mpr ⟨hget, config, weight, hd, hw, hzero⟩, rfl, hhead⟩
  · intro h s s' hs hs' stack hstack
    obtain ⟨first, _, hready⟩ := ready_of_computeDesired hs
    obtain ⟨s'', hs'', _, hstacks, _⟩ := pass6_spec hready
    obtain rfl : s' = s'' := Except.ok.inj (hs'.symm.trans hs'')
    obtain ⟨kind, id, instances, capacity, hdec, hz, hhead⟩ := (hstacks _).mp hstack
    obtain ⟨hget, config, weight, hd, hw, hmax⟩ := decided_iff.mp hdec
    have hle : config.currentCapacity ≤ weight := by omega
    exact h s hs kind id instances config weight stack hget hd hw hle hhead

/-- Reductions hit candidates only, exactly when the current capacities cover the members of
their groups and no stack with another instance is used up by candidates. -/
theorem session_reductions_iff (ctx : SessionContext) :
    DesiredCoversOthers ctx ∧ DeletesEmptyStacks ctx ↔
      CurrentCoversMembers ctx ∧ UsedUpStacksEmpty ctx :=
  and_congr (desiredCoversOthers_iff ctx) (deletesEmptyStacks_iff ctx)

namespace ReductionExample

def instance_ (instanceId host : String) : EC2Instance where
  instanceId := instanceId
  state := some "running"
  privateDnsName := some host
  launchTime := some 0
  tags := some [(Tag.NODE_TYPE, NODE_TYPE_COMPUTE), (Tag.JOB_ID, "5"),
    (Tag.CAPACITY_TYPE, "spot"), (Tag.EC2SPOT_FLEET_REQUEST_ID, "sfr"),
    (Tag.COMPUTE_STACK, "stack")]

def node (instanceId host : String) (states : List SocaComputeNodeState) : SocaComputeNode where
  host := some host
  clusterName := some "idea"
  states := some states
  queueType := some "normal"
  instanceId := some instanceId
  computeStack := some "stack"

/-- A spot fleet of two instances, one idle and one busy, of which one is fulfilled so far. -/
def laggingFleet : SessionContext where
  clusterName := "idea"
  utcnow := 100
  listNodes := .ok [node "i-1" "ip-1" [.free], node "i-2" "ip-2" [.jobBusy]]
  getNode := fun host =>
    .ok (if host = some "ip-1" then node "i-1" "ip-1" [.free]
      else node "i-2" "ip-2" [.jobBusy])
  instances := ⟨⟨[("i-1", instance_ "i-1" "ip-1"), ("i-2", instance_ "i-2" "ip-2")], by simp⟩, by
    intro instanceId i h
    have hm := Dict.mem_entries_of_get? h
    simp only [List.mem_cons, Prod.mk.injEq, List.not_mem_nil, or_false] at hm
    rcases hm with ⟨rfl, rfl⟩ | ⟨rfl, rfl⟩
    · rfl
    · rfl⟩
  jobs := .new
  pendingJobs := fun _ => .ok 0
  describeSpotFleetRequest := fun _ _ => .ok (some { fulfilledCapacity := 1, targetCapacity := 2 })
  describeAutoScalingGroup := fun _ _ => .ok none
  callOutcome := fun _ => .ok ()
  instanceOrder := .identity _
  nodeOrder := .identity _
  stackOrder := .identity _

def kept : NodeHouseKeepingSession where
  jobGroups := ⟨[(none, [instance_ "i-1" "ip-1"])], by simp⟩
  spotFleets := {
    instances := ⟨[("sfr", [instance_ "i-1" "ip-1"])], by simp⟩
    presentCapacities := ⟨[("sfr", 1)], by simp⟩ }

end ReductionExample

/-- The desired capacity of the lagging fleet is zero while a busy instance belongs to it. -/
theorem desired_capacity_misses_busy_instance :
    ¬ (DesiredCoversOthers ReductionExample.laggingFleet ∧
      DeletesEmptyStacks ReductionExample.laggingFleet) := by
  rintro ⟨h, _⟩
  have hle := h ReductionExample.kept rfl .spotFleet "sfr"
    [ReductionExample.instance_ "i-1" "ip-1"] ⟨1, none⟩ 0 1 rfl rfl rfl rfl
  omega

end Idea

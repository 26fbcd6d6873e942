import Idea.JobParams.PlacementGroups

/-! # On-demand and spot nodes

The nodes of a job are split into on-demand and spot nodes by its capacity type, and the template of
its stack asks for the capacity of the two parts. The capacity of a node is the weight of the first
instance type of the job.
-/

namespace Idea

def Built.job (built : Built) : SocaJob where
  params := some built.params
  provisioningOptions := some
    { keepForever := built.keepForever
      terminateWhenIdle := built.terminateWhenIdle
      instanceTypes := some (built.instanceTypes.map fun option =>
        { name := some option.name, weightedCapacity := option.weightedCapacity }) }

namespace SocaJob

def capacityOf (job : SocaJob) (nodes : ℤ) : Except Raised ℤ := do
  let weight ← job.weightedCapacity none
  let weight ← Raised.required .typeError weight
  .ok (nodes * weight)

def ondemandCapacity (job : SocaJob) : Except Raised ℤ := do
  let nodes ← job.ondemandNodes
  job.capacityOf nodes

def spotCapacity (job : SocaJob) : Except Raised ℤ := do
  let nodes ← job.spotNodes
  job.capacityOf nodes

end SocaJob

/-- The target capacities of a template: of a spot fleet, or of an auto scaling group, where the
instances above the on-demand base are spot instances if there is one. -/
inductive TargetCapacity where
  | spotFleet (targetCapacity : ℤ)
  | autoScalingGroup (minSize maxSize desiredCapacity : ℤ) (onDemandBaseCapacity : Option ℤ)
  deriving DecidableEq

namespace CloudFormationStackBuilder

variable (job : SocaJob) (targetCapacityOverride : Option ℤ)

def buildSpotFleet : Except Raised TargetCapacity :=
  match targetCapacityOverride with
  | some targetCapacity => .ok (.spotFleet targetCapacity)
  | none => do
    let targetCapacity ← job.spotCapacity
    .ok (.spotFleet targetCapacity)

def autoScalingCapacity : Except Raised ℤ :=
  match targetCapacityOverride with
  | some targetCapacity => .ok targetCapacity
  | none => do
    let ondemandCapacity ← job.ondemandCapacity
    let spotCapacity ← job.spotCapacity
    .ok (ondemandCapacity + spotCapacity)

def buildAutoScalingGroup : Except Raised TargetCapacity := do
  let targetCapacity ← autoScalingCapacity job targetCapacityOverride
  let capacityType ← job.capacityType
  if capacityType = .mixed then do
    let ondemandCapacity ← job.ondemandCapacity
    .ok (.autoScalingGroup targetCapacity targetCapacity targetCapacity (some ondemandCapacity))
  else .ok (.autoScalingGroup targetCapacity targetCapacity targetCapacity none)

def buildTemplate : Except Raised TargetCapacity := do
  let capacityType ← job.capacityType
  if capacityType = .spot then buildSpotFleet job targetCapacityOverride
  else buildAutoScalingGroup job targetCapacityOverride

end CloudFormationStackBuilder

def SocaCapacityType.targets (capacityType : SocaCapacityType)
    (ondemandNodes spotNodes weight : ℤ) : TargetCapacity :=
  let total := (ondemandNodes + spotNodes) * weight
  match capacityType with
  | .spot => .spotFleet (spotNodes * weight)
  | .mixed => .autoScalingGroup total total total (some (ondemandNodes * weight))
  | .ondemand => .autoScalingGroup total total total none

namespace SocaJob

/-- The nodes of a job without a spot allocation count, or with one between zero and its nodes if
it is one for spot instances, are split into on-demand and spot nodes. -/
theorem split_nodes {job : SocaJob} {params : SocaJobParams} {nodes : ℤ} {spot : Bool}
    (hparams : job.params = some params) (hnodes : params.nodes = some nodes)
    (hspot : params.spot = some spot)
    (hcount : 0 ≤ params.spotAllocationCount.getD 0 ∧ params.spotAllocationCount.getD 0 ≤ nodes)
    (hondemand : spot = false → params.spotAllocationCount.getD 0 = 0) :
    ∃ ondemandNodes spotNodes, job.ondemandNodes = .ok ondemandNodes ∧
      job.spotNodes = .ok spotNodes ∧ job.desiredNodes = .ok (ondemandNodes + spotNodes) ∧
      0 ≤ ondemandNodes ∧ 0 ≤ spotNodes ∧
      (job.capacityType = .ok .ondemand → spotNodes = 0) ∧
      (job.capacityType = .ok .spot → ondemandNodes = 0) := by
  obtain ⟨hnonneg, hle⟩ := hcount
  have htype : job.capacityType = .ok (if spot then
      if params.spotAllocationCount.getD 0 = 0 then .spot else .mixed else .ondemand) := by
    rw [capacityType, hparams]
    simp only [getAsBool, getAsInt, hspot, Option.getD_some]
    rfl
  have hdesired : job.desiredNodes = .ok nodes := by
    simp [desiredNodes, hparams, getAsInt, hnodes]
  cases spot with
  | false =>
    have hzero := hondemand rfl
    refine ⟨nodes, 0, ?_, ?_, by simpa using hdesired, by omega, le_rfl, fun _ => rfl, ?_⟩
    · simp [ondemandNodes, hparams, htype, getAsInt, hnodes, hzero]
    · simp [spotNodes, hparams, hnodes, htype]
    · simp [htype]
  | true =>
    by_cases hzero : params.spotAllocationCount.getD 0 = 0
    · refine ⟨0, nodes, ?_, ?_, by simpa using hdesired, le_rfl, by omega, ?_, fun _ => rfl⟩
      · simp [ondemandNodes, hparams, htype, hzero]
      · simp [spotNodes, hparams, hnodes, htype, hzero]
      · simp [htype, hzero]
    · refine ⟨nodes - params.spotAllocationCount.getD 0, params.spotAllocationCount.getD 0,
        ?_, ?_, by simpa using hdesired, by omega, hnonneg, ?_, ?_⟩
      · simp [ondemandNodes, hparams, htype, hzero, getAsInt, hnodes]
      · simp [spotNodes, hparams, hnodes, htype, hzero, getAsInt]
      · simp [htype, hzero]
      · simp [htype, hzero]

theorem buildTemplate_eq {job : SocaJob} {ondemandNodes spotNodes weight : ℤ}
    {capacityType : SocaCapacityType} (htype : job.capacityType = .ok capacityType)
    (hondemand : job.ondemandNodes = .ok ondemandNodes) (hspot : job.spotNodes = .ok spotNodes)
    (hweight : job.weightedCapacity none = .ok (some weight)) :
    CloudFormationStackBuilder.buildTemplate job none =
      .ok (capacityType.targets ondemandNodes spotNodes weight) := by
  have hcapacity (nodes : ℤ) : job.capacityOf nodes = .ok (nodes * weight) := by
    simp [capacityOf, hweight, Raised.required]
  have hondemandCapacity : job.ondemandCapacity = .ok (ondemandNodes * weight) := by
    simp [ondemandCapacity, hondemand, hcapacity]
  have hspotCapacity : job.spotCapacity = .ok (spotNodes * weight) := by
    simp [spotCapacity, hspot, hcapacity]
  have htotal : CloudFormationStackBuilder.autoScalingCapacity job none =
      .ok ((ondemandNodes + spotNodes) * weight) := by
    simp [CloudFormationStackBuilder.autoScalingCapacity, hondemandCapacity, hspotCapacity, add_mul]
  cases capacityType with
  | spot =>
    simp [CloudFormationStackBuilder.buildTemplate, htype, SocaCapacityType.targets,
      CloudFormationStackBuilder.buildSpotFleet, hspotCapacity]
  | mixed =>
    simp [CloudFormationStackBuilder.buildTemplate, htype, SocaCapacityType.targets,
      CloudFormationStackBuilder.buildAutoScalingGroup, htotal, hondemandCapacity]
  | ondemand =>
    simp [CloudFormationStackBuilder.buildTemplate, htype, SocaCapacityType.targets,
      CloudFormationStackBuilder.buildAutoScalingGroup, htotal]

end SocaJob

namespace SocaJobBuilder

variable {ctx : BuilderContext}

theorem exists_verdict_spotAllocationCount (hvalid : validate ctx = .ok []) :
    ∃ verdict, SpotAllocationCountParamBuilder.validate ctx [] = .ok verdict ∧
      verdict.entries = [] :=
  validate_eq_nil.mp hvalid
    ⟨"spot_allocation_count", SpotAllocationCountParamBuilder.validate ctx,
      fun _ => SpotAllocationCountParamBuilder.apply ctx⟩ (by simp [builders])

theorem count_lt_nodes {value : ℤ} (hvalid : validate ctx = .ok [])
    (hvalue : SpotAllocationCountParamBuilder.get ctx = .ok (some value)) :
    ∃ nodes, NodesParamBuilder.get ctx = .ok (some nodes) ∧ 0 ≤ value ∧ value < nodes := by
  obtain ⟨verdict, hverdict, hentries⟩ := exists_verdict_spotAllocationCount hvalid
  unfold SpotAllocationCountParamBuilder.validate at hverdict
  rw [hvalue, Raised.ok_bind] at hverdict
  have h := BuilderContext.unlessRestricted_valid hverdict hentries
  rw [isFailed, if_neg (by simp)] at h
  split at h
  next hnegative =>
    obtain rfl := Except.ok.inj h
    rw [evalPositiveInt, Verdict.check_entries] at hentries
    simp [evalPositiveInt, hentries, Verdict.check, Verdict.pass] at hnegative
  next hpositive =>
    obtain ⟨spotPrice, -, h⟩ := Raised.bind_eq_ok.mp h
    split at h
    · obtain rfl := Except.ok.inj h
      contradiction
    obtain ⟨given, hgiven, h⟩ := Raised.bind_eq_ok.mp h
    obtain ⟨nodes, hnodes, h⟩ := Raised.bind_eq_ok.mp h
    obtain rfl := Raised.required_eq_ok.mp hnodes
    obtain rfl := Except.ok.inj h
    rw [Verdict.check_entries, decide_eq_true_iff] at hentries
    refine ⟨nodes, hgiven, ?_, hentries⟩
    by_contra hneg
    simp [evalPositiveInt, Verdict.check, Verdict.fail, hneg] at hpositive

/-- The counts that are not checked: a job without spot instances has none, and one that is only the
default of the queue is between zero and the nodes of the job. -/
structure SplitsNodes (ctx : BuilderContext) : Prop where
  ondemand : ∀ spot count, SpotParamBuilder.get ctx = .ok spot →
    SpotAllocationCountParamBuilder.get ctx = .ok count →
    spot.getD (SpotParamBuilder.default ctx) = false →
    (count.or (SpotAllocationCountParamBuilder.default ctx)).getD 0 = 0
  defaulted : ∀ nodes, NodesParamBuilder.get ctx = .ok nodes →
    SpotAllocationCountParamBuilder.get ctx = .ok none →
    0 ≤ (SpotAllocationCountParamBuilder.default ctx).getD 0 ∧
      (SpotAllocationCountParamBuilder.default ctx).getD 0 ≤
        nodes.getD (NodesParamBuilder.default ctx)

/-- The nodes of a valid job are split into on-demand and spot nodes, and its template asks for
their capacity. -/
theorem splits_built_nodes {built : Built} (hvalid : validate ctx = .ok [])
    (hbuild : build ctx [] = .ok built) (hsplits : SplitsNodes ctx) :
    ∃ capacityType ondemandNodes spotNodes, built.job.capacityType = .ok capacityType ∧
      built.job.ondemandNodes = .ok ondemandNodes ∧ built.job.spotNodes = .ok spotNodes ∧
      built.job.desiredNodes = .ok (ondemandNodes + spotNodes) ∧
      0 ≤ ondemandNodes ∧ 0 ≤ spotNodes ∧ (capacityType = .ondemand → spotNodes = 0) ∧
      (capacityType = .spot → ondemandNodes = 0) ∧
      ∀ weight, built.job.weightedCapacity none = .ok (some weight) →
        CloudFormationStackBuilder.buildTemplate built.job none =
          .ok (capacityType.targets ondemandNodes spotNodes weight) := by
  obtain ⟨⟨nodes, hnodes, hbuiltNodes⟩, ⟨spot, hspot, hbuiltSpot⟩, ⟨count, hcount, hbuiltCount⟩,
    -, -⟩ := fills_of_build hbuild
  have hbounds : 0 ≤ built.params.spotAllocationCount.getD 0 ∧
      built.params.spotAllocationCount.getD 0 ≤ nodes.getD (NodesParamBuilder.default ctx) := by
    rw [hbuiltCount]
    cases count with
    | none => exact hsplits.defaulted nodes hnodes hcount
    | some value =>
      obtain ⟨given, hgiven, hnonneg, hlt⟩ := count_lt_nodes hvalid hcount
      obtain rfl := Except.ok.inj (hnodes.symm.trans hgiven)
      exact ⟨hnonneg, hlt.le⟩
  have hondemand : spot.getD (SpotParamBuilder.default ctx) = false →
      built.params.spotAllocationCount.getD 0 = 0 := by
    rw [hbuiltCount]
    exact hsplits.ondemand spot count hspot hcount
  have hparams : built.job.params = some built.params := rfl
  obtain ⟨ondemandNodes, spotNodes, hsplitOndemand, hsplitSpot, hdesired, hnonneg, hnonneg',
    hzero, hzero'⟩ := SocaJob.split_nodes hparams hbuiltNodes hbuiltSpot hbounds hondemand
  obtain ⟨capacityType, htype⟩ : ∃ capacityType, built.job.capacityType = .ok capacityType :=
    ⟨_, rfl⟩
  refine ⟨capacityType, ondemandNodes, spotNodes, htype, hsplitOndemand, hsplitSpot, hdesired,
    hnonneg, hnonneg', ?_, ?_, fun weight hweight =>
      SocaJob.buildTemplate_eq htype hsplitOndemand hsplitSpot hweight⟩
  · rintro rfl
    exact hzero htype
  · rintro rfl
    exact hzero' htype

def twoOndemandNodes : BuilderContext where
  params := { values := ⟨[("nodes", .text "2")], List.nodup_singleton _⟩, repr := fun _ => "" }
  queue := some { defaultJobParams := some { instanceTypes := some ["c5n.large"] } }
  soca := sampleSoca

theorem exists_built_twoOndemandNodes : ∃ built, build twoOndemandNodes [] = .ok built ∧
    built.job.ondemandNodes = .ok 2 ∧ built.job.spotNodes = .ok 0 ∧
    CloudFormationStackBuilder.buildTemplate built.job none =
      .ok (.autoScalingGroup 4 4 4 none) := by
  have h : (build twoOndemandNodes []).map (fun built =>
      (built.job.ondemandNodes, built.job.spotNodes,
        CloudFormationStackBuilder.buildTemplate built.job none)) =
      .ok (.ok 2, .ok 0, .ok (.autoScalingGroup 4 4 4 none)) := by decide +kernel
  cases hbuild : build twoOndemandNodes [] with
  | error e =>
    rw [hbuild] at h
    cases h
  | ok built =>
    rw [hbuild] at h
    have hall := Except.ok.inj h
    exact ⟨built, rfl, congrArg Prod.fst hall, congrArg (·.2.1) hall, congrArg (·.2.2) hall⟩

/-- The group of two nodes has a target capacity of four. -/
theorem not_targets_twoOndemandNodes : ∃ built, validate twoOndemandNodes = .ok [] ∧
    build twoOndemandNodes [] = .ok built ∧ built.job.ondemandNodes = .ok 2 ∧
    built.job.spotNodes = .ok 0 ∧ CloudFormationStackBuilder.buildTemplate built.job none ≠
      .ok (.autoScalingGroup 2 2 2 none) := by
  obtain ⟨built, hbuild, hondemand, hspot, htemplate⟩ := exists_built_twoOndemandNodes
  refine ⟨built, by decide +kernel, hbuild, hondemand, hspot, ?_⟩
  rw [htemplate]
  simp

theorem splitsNodes_twoOndemandNodes : SplitsNodes twoOndemandNodes where
  ondemand spot count _ hcount _ := by
    have hnone : SpotAllocationCountParamBuilder.get twoOndemandNodes = .ok none := by
      decide +kernel
    obtain rfl := Except.ok.inj (hcount.symm.trans hnone)
    rfl
  defaulted nodes hnodes _ := by
    have htwo : NodesParamBuilder.get twoOndemandNodes = .ok (some 2) := by decide +kernel
    obtain rfl := Except.ok.inj (hnodes.symm.trans htwo)
    decide

theorem splits_built_twoOndemandNodes : ∃ built, build twoOndemandNodes [] = .ok built ∧
    ∃ capacityType ondemandNodes spotNodes, built.job.capacityType = .ok capacityType ∧
      built.job.ondemandNodes = .ok ondemandNodes ∧ built.job.spotNodes = .ok spotNodes ∧
      built.job.desiredNodes = .ok (ondemandNodes + spotNodes) := by
  obtain ⟨built, hbuild, -⟩ := exists_built_twoOndemandNodes
  obtain ⟨capacityType, ondemandNodes, spotNodes, htype, hondemand, hspot, hdesired, -⟩ :=
    splits_built_nodes (by decide +kernel) hbuild splitsNodes_twoOndemandNodes
  exact ⟨built, hbuild, capacityType, ondemandNodes, spotNodes, htype, hondemand, hspot, hdesired⟩

end SocaJobBuilder

end Idea

import Idea.JobParams.JobBuilder

/-! # What a built job holds

Nodes, capacity and subnets of a built job are those that their own builders fill in: every other
builder leaves them alone.
-/

namespace Idea

/-- The part of a built job that decides its nodes and where they run. -/
structure JobCapacity where
  nodes : Option ℤ
  spot : Option Bool
  spotAllocationCount : Option ℤ
  enablePlacementGroup : Option Bool
  subnetIds : Option (List String)

def Built.capacity (built : Built) : JobCapacity where
  nodes := built.params.nodes
  spot := built.params.spot
  spotAllocationCount := built.params.spotAllocationCount
  enablePlacementGroup := built.params.enablePlacementGroup
  subnetIds := built.params.subnetIds

def LeavesCapacity (apply : Built → Except Raised Built) : Prop :=
  ∀ ⦃built built'⦄, apply built = .ok built' → built'.capacity = built.capacity

namespace LeavesCapacity

theorem of_ok {update : Built → Built} (h : ∀ built, (update built).capacity = built.capacity) :
    LeavesCapacity fun built => .ok (update built) := by
  intro built built' hbuilt
  obtain rfl := Except.ok.inj hbuilt
  exact h built

theorem of_bind {α : Type} {x : Except Raised α} {f : α → Built → Except Raised Built}
    (h : ∀ a, LeavesCapacity (f a)) : LeavesCapacity fun built => x >>= fun a => f a built := by
  intro built built' hbuilt
  obtain ⟨a, -, ha⟩ := Raised.bind_eq_ok.mp hbuilt
  exact h a ha

end LeavesCapacity

namespace SocaJobBuilder

variable {ctx : BuilderContext} {failed : List String}

variable {built built' : Built}

theorem capacity_of_buildFrom {builders : List ParamBuilder}
    (h : buildFrom failed builders built = .ok built')
    (hleaves : ∀ builder ∈ builders, LeavesCapacity (builder.apply failed)) :
    built'.capacity = built.capacity :=
  Raised.foldlM_invariant (·.capacity = built.capacity) h rfl
    fun builder hbuilder _ _ hcapacity hstep => (hleaves builder hbuilder hstep).trans hcapacity

theorem sizeBuilders_leave : ∀ builder ∈ sizeBuilders ctx, LeavesCapacity (builder.apply failed) := by
  simp only [sizeBuilders, List.forall_mem_cons, List.not_mem_nil, false_implies, implies_true,
    and_true]
  refine ⟨?_, ?_, ?_, ?_, ?_, ?_⟩
  · exact .of_bind fun _ => .of_ok fun _ => rfl
  · refine .of_bind fun ask => ?_
    cases ask
    · exact .of_ok fun _ => rfl
    · exact .of_ok fun _ => rfl
  · exact .of_bind fun _ => .of_ok fun _ => rfl
  · exact .of_bind fun _ => .of_ok fun _ => rfl
  · exact .of_ok fun _ => rfl
  · exact .of_ok fun _ => rfl

theorem purchaseBuilders_leave :
    ∀ builder ∈ purchaseBuilders ctx, LeavesCapacity (builder.apply failed) := by
  simp only [purchaseBuilders, List.forall_mem_cons, List.not_mem_nil, false_implies, implies_true,
    and_true]
  refine ⟨?_, ?_, ?_, ?_⟩
  · refine .of_bind fun strategy => ?_
    cases strategy
    · exact .of_bind fun _ => .of_ok fun _ => rfl
    · exact .of_ok fun _ => rfl
  · exact .of_ok fun _ => rfl
  · exact .of_ok fun _ => rfl
  · exact .of_bind fun _ => .of_ok fun _ => rfl

theorem optionBuilders_leave :
    ∀ builder ∈ optionBuilders ctx, LeavesCapacity (builder.apply failed) := by
  simp only [optionBuilders, List.forall_mem_cons, List.not_mem_nil, false_implies, implies_true,
    and_true]
  refine ⟨.of_ok fun _ => rfl, .of_bind fun _ => .of_bind fun _ => .of_ok fun _ => rfl,
    .of_ok fun _ => rfl, .of_bind fun _ => .of_ok fun _ => rfl, ?_,
    .of_bind fun _ => .of_ok fun _ => rfl, .of_bind fun _ => .of_ok fun _ => rfl,
    .of_ok fun _ => rfl, .of_ok fun _ => rfl, .of_ok fun _ => rfl,
    .of_bind fun _ => .of_ok fun _ => rfl, .of_ok fun _ => rfl,
    .of_bind fun _ => .of_ok fun _ => rfl, .of_ok fun _ => rfl, .of_ok fun _ => rfl,
    .of_ok fun _ => rfl, .of_ok fun _ => rfl, .of_ok fun _ => rfl, .of_ok fun _ => rfl,
    .of_ok fun _ => rfl⟩
  -- The size of the scratch storage may set its provider besides.
  refine .of_bind fun value => .of_ok fun built => ?_
  split
  · rfl
  · rfl

theorem nodes_apply (h : NodesParamBuilder.apply ctx built = .ok built') :
    ∃ given, NodesParamBuilder.get ctx = .ok given ∧ built'.capacity =
      { built.capacity with nodes := some (given.getD (NodesParamBuilder.default ctx)) } := by
  obtain ⟨given, hgiven, hbuilt⟩ := Raised.bind_eq_ok.mp h
  obtain rfl := Except.ok.inj hbuilt
  exact ⟨given, hgiven, rfl⟩

theorem instanceTypes_leaves : LeavesCapacity (InstanceTypesParamBuilder.apply ctx) := by
  refine .of_bind fun given => ?_
  split
  · intro built built' h
    cases h
  · exact .of_bind fun _ => .of_ok fun _ => rfl

theorem enableHtSupport_leaves :
    LeavesCapacity fun built => .ok (EnableHtSupportParamBuilder.apply ctx built) := by
  refine .of_ok fun built => ?_
  unfold EnableHtSupportParamBuilder.apply
  dsimp only
  split
  · rfl
  · rfl

theorem enablePlacementGroup_apply
    (h : EnablePlacementGroupParamBuilder.apply ctx failed built = .ok built') :
    ∃ enabled, (EnablePlacementGroupParamBuilder.get ctx = some enabled ∨
        EnablePlacementGroupParamBuilder.get ctx = none ∧
          EnablePlacementGroupParamBuilder.default ctx failed = .ok enabled) ∧
      built'.capacity = { built.capacity with enablePlacementGroup := some enabled } := by
  unfold EnablePlacementGroupParamBuilder.apply at h
  split at h
  next enabled hgiven =>
    obtain rfl := Except.ok.inj h
    exact ⟨enabled, Or.inl hgiven, rfl⟩
  next hgiven =>
    obtain ⟨enabled, henabled, hbuilt⟩ := Raised.bind_eq_ok.mp h
    obtain rfl := Except.ok.inj hbuilt
    exact ⟨enabled, Or.inr ⟨hgiven, henabled⟩, rfl⟩

theorem spot_apply (h : SpotParamBuilder.apply ctx built = .ok built') :
    ∃ given, SpotParamBuilder.get ctx = .ok given ∧ built'.capacity =
      { built.capacity with spot := some (given.getD (SpotParamBuilder.default ctx)) } := by
  obtain ⟨given, hgiven, hbuilt⟩ := Raised.bind_eq_ok.mp h
  obtain rfl := Except.ok.inj hbuilt
  exact ⟨given, hgiven, rfl⟩

theorem spotPrice_leaves : LeavesCapacity (SpotPriceParamBuilder.apply ctx) := by
  refine .of_bind fun given => ?_
  match given with
  | some (.amount _) => exact .of_ok fun _ => rfl
  | some (.text _) => exact .of_ok fun _ => rfl
  | none =>
    dsimp only
    split
    · exact .of_ok fun _ => rfl
    · exact .of_ok fun _ => rfl

theorem spotAllocationCount_apply (h : SpotAllocationCountParamBuilder.apply ctx built = .ok built')
    :
    ∃ given, SpotAllocationCountParamBuilder.get ctx = .ok given ∧ built'.capacity =
      { built.capacity with
        spotAllocationCount := given.or (SpotAllocationCountParamBuilder.default ctx) } := by
  obtain ⟨given, hgiven, hbuilt⟩ := Raised.bind_eq_ok.mp h
  obtain rfl := Except.ok.inj hbuilt
  exact ⟨given, hgiven, rfl⟩

theorem subnetIds_apply (h : SubnetIdsParamBuilder.apply ctx failed built = .ok built') :
    ∃ given subnetIds, SubnetIdsParamBuilder.get ctx = .ok given ∧
      (given.filter (· ≠ []) = some subnetIds ∨ given.filter (· ≠ []) = none ∧
        SubnetIdsParamBuilder.default ctx failed = .ok subnetIds) ∧
      built'.capacity = { built.capacity with subnetIds := some subnetIds } := by
  obtain ⟨given, hgiven, hbuilt⟩ := Raised.bind_eq_ok.mp h
  split at hbuilt
  next subnetIds hsome =>
    obtain rfl := Except.ok.inj hbuilt
    exact ⟨given, subnetIds, hgiven, Or.inl hsome, rfl⟩
  next hnone =>
    obtain ⟨subnetIds, hdefault, hbuilt⟩ := Raised.bind_eq_ok.mp hbuilt
    obtain rfl := Except.ok.inj hbuilt
    exact ⟨given, subnetIds, hgiven, Or.inr ⟨hnone, hdefault⟩, rfl⟩

structure Fills (ctx : BuilderContext) (failed : List String) (built : Built) : Prop where
  nodes : ∃ given, NodesParamBuilder.get ctx = .ok given ∧
    built.params.nodes = some (given.getD (NodesParamBuilder.default ctx))
  spot : ∃ given, SpotParamBuilder.get ctx = .ok given ∧
    built.params.spot = some (given.getD (SpotParamBuilder.default ctx))
  spotAllocationCount : ∃ given, SpotAllocationCountParamBuilder.get ctx = .ok given ∧
    built.params.spotAllocationCount = given.or (SpotAllocationCountParamBuilder.default ctx)
  enablePlacementGroup : ∃ enabled, (EnablePlacementGroupParamBuilder.get ctx = some enabled ∨
      EnablePlacementGroupParamBuilder.get ctx = none ∧
        EnablePlacementGroupParamBuilder.default ctx failed = .ok enabled) ∧
    built.params.enablePlacementGroup = some enabled
  subnetIds : ∃ given subnetIds, SubnetIdsParamBuilder.get ctx = .ok given ∧
    (given.filter (· ≠ []) = some subnetIds ∨ given.filter (· ≠ []) = none ∧
      SubnetIdsParamBuilder.default ctx failed = .ok subnetIds) ∧
    built.params.subnetIds = some subnetIds

theorem buildFrom_cons {builder : ParamBuilder} {builders : List ParamBuilder} :
    buildFrom failed (builder :: builders) built = .ok built' ↔
      ∃ next, builder.apply failed built = .ok next ∧
        buildFrom failed builders next = .ok built' := by
  rw [buildFrom, List.foldlM_cons, Raised.bind_eq_ok]
  rfl

theorem buildFrom_append {first second : List ParamBuilder} :
    buildFrom failed (first ++ second) built = .ok built' ↔
      ∃ next, buildFrom failed first built = .ok next ∧
        buildFrom failed second next = .ok built' := by
  rw [buildFrom, List.foldlM_append, Raised.bind_eq_ok]
  rfl

theorem buildFrom_nil : buildFrom failed [] built = .ok built' ↔ built = built' := by
  simp [buildFrom, pure, Except.pure]

theorem fills_of_build {results : List JobValidationResultEntry} {built : Built}
    (h : build ctx results = .ok built) : Fills ctx (failedParams results) built := by
  unfold build builders at h
  simp only [buildFrom_append, buildFrom_cons, buildFrom_nil] at h
  obtain ⟨b₉, ⟨b₈, ⟨b₇, ⟨b₆, ⟨b₅, ⟨b₁, hnodes, b₂, htypes, b₃, hht, rfl⟩, hsizes⟩, b₁₀, hgroup, b₁₁,
    hspot, b₁₂, hprice, b₁₃, hcount, rfl⟩, hpurchase⟩, b₁₄, hsubnets, rfl⟩, hoptions⟩ := h
  obtain ⟨nodes, hnodes, h₁⟩ := nodes_apply hnodes
  obtain ⟨enabled, henabled, h₁₀⟩ := enablePlacementGroup_apply hgroup
  obtain ⟨spot, hspot, h₁₁⟩ := spot_apply hspot
  obtain ⟨count, hcount, h₁₃⟩ := spotAllocationCount_apply hcount
  obtain ⟨given, subnetIds, hgiven, hsubnetIds, h₁₄⟩ := subnetIds_apply hsubnets
  have hcapacity : built.capacity =
      { nodes := some (nodes.getD (NodesParamBuilder.default ctx))
        spot := some (spot.getD (SpotParamBuilder.default ctx))
        spotAllocationCount := count.or (SpotAllocationCountParamBuilder.default ctx)
        enablePlacementGroup := some enabled
        subnetIds := some subnetIds } := by
    rw [capacity_of_buildFrom hoptions optionBuilders_leave, h₁₄,
      capacity_of_buildFrom hpurchase purchaseBuilders_leave, h₁₃, spotPrice_leaves hprice, h₁₁,
      h₁₀, capacity_of_buildFrom hsizes sizeBuilders_leave, enableHtSupport_leaves hht,
      instanceTypes_leaves htypes, h₁]
  exact ⟨⟨nodes, hnodes, congrArg JobCapacity.nodes hcapacity⟩,
    ⟨spot, hspot, congrArg JobCapacity.spot hcapacity⟩,
    ⟨count, hcount, congrArg JobCapacity.spotAllocationCount hcapacity⟩,
    ⟨enabled, henabled, congrArg JobCapacity.enablePlacementGroup hcapacity⟩,
    ⟨given, subnetIds, hgiven, hsubnetIds, congrArg JobCapacity.subnetIds hcapacity⟩⟩

end SocaJobBuilder

end Idea

import Idea.JobParams.Succeeds

/-! # When the builders return

A validation is not to raise. What each builder needs of the parameters, the queue and the cluster
for its validation to return, where the parameters that failed before are given.
-/

namespace Idea

variable {ctx : BuilderContext} {failed : List String}

open BuilderContext

namespace InstanceTypesParamBuilder

/-- Numbers and flags are not gone through. -/
def Iterable : ParamValue → Prop
  | .int _ | .float _ | .bool _ => False
  | _ => True

/-- The instance types are texts, lists or dictionaries. -/
def Readable (ctx : BuilderContext) : Prop :=
  ∀ value, ctx.params.getEither "instance_type" "instance_types" = some value → Iterable value

/-- The lookup of an instance type either finds it or says that there is no such type. -/
def Known (ctx : BuilderContext) (instanceType : String) : Prop :=
  ∀ e, ctx.soca.ec2InstanceType instanceType = .error e →
    ∃ message, e = .soca ErrorCodes.INVALID_EC2_INSTANCE_TYPE message

/-- The queue does not keep an instance type from being used. -/
def Admitted (ctx : BuilderContext) (instanceType : String) : Prop :=
  ∀ params, ctx.queueManagement = some params →
    params.isAllowedInstanceType instanceType = true ∧
      params.isExcludedInstanceType instanceType = false

/-- The given instance types can be checked. -/
def Checkable (ctx : BuilderContext) : Prop :=
  ctx.MaySubmit "instance_types" → ∀ instanceTypes, get ctx = .ok (some instanceTypes) →
    ∀ instanceType ∈ instanceTypes, instanceType ∈ ctx.soca.allInstanceTypes →
      Admitted ctx instanceType → Known ctx instanceType

/-- Instance types are given or are the default, and something is known of each of them. -/
def AllApplicable (ctx : BuilderContext) (P : EC2InstanceType → Prop) : Prop :=
  ∃ instanceTypes, applicable ctx = .ok instanceTypes ∧ ∀ instanceType ∈ instanceTypes,
    ∃ info, ctx.soca.ec2InstanceType instanceType = .ok info ∧ P info

end InstanceTypesParamBuilder

open InstanceTypesParamBuilder (AllApplicable)

namespace CpusParamBuilder

/-- The number of CPUs of an instance type is known. -/
def HasCpus (enableHtSupport : Bool) (info : EC2InstanceType) : Prop :=
  (if enableHtSupport then info.defaultVcpus else info.defaultCores).isSome = true

def htSupport (ctx : BuilderContext) : Bool :=
  (EnableHtSupportParamBuilder.get ctx).getD (EnableHtSupportParamBuilder.default ctx)

/-- Where CPUs are compared with instance types, those of every instance type are known. -/
def Comparable (ctx : BuilderContext) (typesFailed htFailed : Prop) : Prop :=
  ∀ cpus, get ctx = .ok (some cpus) → ctx.MaySubmit "cpus" → 0 < cpus → ¬ typesFailed →
    ¬ htFailed → AllApplicable ctx (HasCpus (htSupport ctx))

end CpusParamBuilder

namespace MemoryParamBuilder

/-- The text of the memory is not taken for an integer that is no float. -/
def Readable (ctx : BuilderContext) : Prop :=
  ∀ memory, ctx.params.getValueAsString "memory" = some memory →
    ∀ e, resolve memory = .error e → ∃ code message, e = .soca code message

/-- Where memory is compared with instance types, there are some, the memory of every one is known,
and the memory that is asked for is finite. -/
def Comparable (ctx : BuilderContext) (typesFailed : Prop) : Prop :=
  ∀ ask, read ctx = .ok (some ask) → ctx.MaySubmit "memory" → ask.value.positive = true →
    ¬ typesFailed →
      AllApplicable ctx (fun info => info.memorySizeInMib.isSome = true) ∧
        InstanceTypesParamBuilder.applicable ctx ≠ .ok [] ∧ ∃ value, ask.value = .finite value

end MemoryParamBuilder

namespace SpotPriceParamBuilder

end SpotPriceParamBuilder

namespace SpotParamBuilder

end SpotParamBuilder

namespace SpotAllocationCountParamBuilder

/-- A count of spot nodes is only compared with nodes that were submitted. -/
def Comparable (ctx : BuilderContext) (nodesFailed priceFailed : Prop) : Prop :=
  ∀ value, get ctx = .ok (some value) → ctx.MaySubmit "spot_allocation_count" →
    ¬ nodesFailed → ¬ priceFailed → 0 ≤ value →
      (SpotPriceParamBuilder.get ctx ≠ .ok none ∨ SpotPriceParamBuilder.default ctx ≠ none) →
        ∃ nodes, NodesParamBuilder.get ctx = .ok (some nodes)

end SpotAllocationCountParamBuilder

namespace SpotAllocationStrategyParamBuilder

end SpotAllocationStrategyParamBuilder

end Idea

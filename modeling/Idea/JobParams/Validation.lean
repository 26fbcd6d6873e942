import Idea.JobParams.NetworkChecks
import Idea.JobParams.StorageChecks
import Mathlib.Data.List.Basic

/-! # Validations that return

Some builders look at what failed before them, so whether the validation of a job returns depends
on the order of the builders. The parameters whose failures are looked at are tracked through it.
-/

namespace Idea

def Verdict.codes (verdict : Verdict) : List String := verdict.entries.map (·.errorCode)

def aliases (param : String) : List String := param :: (providerNames.lookup param).toList

/-- A validation only adds entries for these parameters. -/
def AddsOnly (params : List String) (x : Except Raised Verdict) : Prop :=
  ∀ verdict, x = .ok verdict → ∀ code ∈ verdict.codes, code ∈ params

variable {verdict : Verdict}

section Codes

variable {ctx : BuilderContext} {params : List String} {param message : String}

@[simp]
theorem codes_pass : Verdict.pass.codes = [] := rfl

@[simp]
theorem codes_refuse : Verdict.refuse.codes = [] := rfl

end Codes

section Builders

variable {ctx : BuilderContext} {failed : List String}

namespace NodesParamBuilder

/-- A number of nodes is given, and it is restricted or not positive. -/
def Fails (ctx : BuilderContext) : Prop :=
  ∃ nodes, get ctx = .ok (some nodes) ∧
    (ctx.restrictedName? "nodes" = some "nodes" ∨ ctx.MaySubmit "nodes" ∧ nodes ≤ 0)

end NodesParamBuilder

namespace EnableHtSupportParamBuilder

/-- Hyper-threading is restricted under the name of its builder. -/
def Fails (ctx : BuilderContext) : Prop :=
  get ctx ≠ none ∧ ctx.restrictedName? "enable_ht_support" = some "enable_ht_support"

end EnableHtSupportParamBuilder

namespace SpotPriceParamBuilder

/-- A price that is neither positive nor automatic. -/
def IsBad : SpotPriceAsk → Prop
  | .amount value => value.positive = false
  | .text value => value ≠ Constants.SPOT_PRICE_AUTO

/-- A price is given, and it is restricted or bad. -/
def Fails (ctx : BuilderContext) : Prop :=
  ∃ ask, get ctx = .ok (some ask) ∧ (ctx.restrictedName? "spot_price" = some "spot_price" ∨
    ctx.MaySubmit "spot_price" ∧ IsBad ask)

end SpotPriceParamBuilder

namespace SpotParamBuilder

end SpotParamBuilder

namespace InstanceTypesParamBuilder

/-- An instance type that is not offered, not admitted by the queue or unknown. -/
def Objectionable (ctx : BuilderContext) (instanceType : String) : Prop :=
  instanceType ∉ ctx.soca.allInstanceTypes ∨ ¬ Admitted ctx instanceType ∨
    ¬ Succeeds (ctx.soca.ec2InstanceType instanceType)

/-- Instance types are given, and they are restricted or one of them is objectionable. -/
def Fails (ctx : BuilderContext) : Prop :=
  ∃ instanceTypes, get ctx = .ok (some instanceTypes) ∧
    (ctx.restrictedName? "instance_types" = some "instance_types" ∨
      ctx.MaySubmit "instance_types" ∧ ∃ instanceType ∈ instanceTypes,
        Objectionable ctx instanceType)

variable {instanceType : String}

end InstanceTypesParamBuilder

end Builders

namespace SocaJobBuilder

/-- The tracked parameters that have failed are those that are said to fail. -/
def Agrees (tracked failed : List String) (fails : String → Prop) : Prop :=
  ∀ param ∈ tracked, (param ∈ failed ↔ fails param)

/-- What the builders need for their validations to return, one after the other. What a builder
needs and marks as failed may depend on what the builders before it have marked. -/
inductive Checked : List String → (String → Prop) → List ParamBuilder → Prop → Prop
  | nil {tracked : List String} {fails : String → Prop} : Checked tracked fails [] True
  | cons {tracked : List String} {fails marks : String → Prop} {builder : ParamBuilder}
      {builders : List ParamBuilder} {needs rest : Prop}
      (hneeds : ∀ failed, Agrees tracked failed fails →
        (Succeeds (builder.validate failed) ↔ needs))
      (hmarks : needs → ∀ failed verdict, builder.validate failed = .ok verdict →
        ∀ param ∈ tracked, (param ∈ verdict.codes ↔ marks param))
      (hrest : needs → Checked tracked (fun param => fails param ∨ marks param) builders rest) :
      Checked tracked fails (builder :: builders) (needs ∧ rest)
  | narrow {tracked tracked' : List String} {fails : String → Prop} {builders : List ParamBuilder}
      {needs : Prop} (h : tracked' ⊆ tracked) (hrest : Checked tracked' fails builders needs) :
      Checked tracked fails builders needs

namespace Checked

variable {tracked : List String} {fails : String → Prop} {builder : ParamBuilder}
  {builders : List ParamBuilder} {needs rest : Prop}

theorem unmarked {params : List String} (hneeds : ∀ failed, Agrees tracked failed fails →
      (Succeeds (builder.validate failed) ↔ needs))
    (hadds : ∀ failed, AddsOnly params (builder.validate failed))
    (hdisjoint : ∀ param ∈ tracked, param ∉ params)
    (hrest : needs → Checked tracked fails builders rest) :
    Checked tracked fails (builder :: builders) (needs ∧ rest) := by
  refine @cons tracked fails (fun _ => False) builder builders needs rest hneeds ?_ ?_
  · intro _ failed verdict hverdict param hparam
    exact iff_of_false
      (fun hcode => hdisjoint param hparam (hadds failed verdict hverdict param hcode)) id
  · intro hneeded
    simpa using hrest hneeded

theorem free (h : Checked tracked fails builders (True ∧ rest)) :
    Checked tracked fails builders rest := by
  rwa [true_and] at h

theorem alone (hneeds : ∀ failed, Succeeds (builder.validate failed) ↔ needs)
    (hrest : needs → Checked [] fails builders rest) :
    Checked [] fails (builder :: builders) (needs ∧ rest) := by
  refine @cons [] fails (fun _ => False) builder builders needs rest (fun failed _ => hneeds failed)
    (by simp) ?_
  intro hneeded
  simpa using hrest hneeded

end Checked

variable {ctx : BuilderContext}

section Stages

variable {fails : String → Prop} {needs : Prop}

end Stages

/-- The validation of a job returns: the parameters can be read, and what they are compared with and
looked up in is there. -/
structure Validates (ctx : BuilderContext) : Prop where
  counts : ∀ param ∈ ["nodes", "cpus", "gpus", "mpiprocs", "spot_allocation_count",
    "terminate_when_idle"], ctx.params.HasInt param
  licenses : LicensesParamBuilder.Readable ctx
  spotPrice : ctx.params.HasFloat "spot_price"
  memory : MemoryParamBuilder.Readable ctx
  instanceTypes : InstanceTypesParamBuilder.Readable ctx
  subnets : SubnetIdsParamBuilder.Readable ctx
  rootSize : SizeReadable ctx "root_size" "root_storage_size"
  scratchSize : SizeReadable ctx "scratch_size" "scratch_storage_size"
  scratchIops : ScratchIopsParamBuilder.Readable ctx
  fsxLustre : FsxLustreParamBuilder.Readable ctx
  bucket : FsxLustreParamBuilder.Checkable ctx
  givenTypes : InstanceTypesParamBuilder.Checkable ctx
  securityGroups : SecurityGroupsParamBuilder.Checkable ctx
  instanceProfile : InstanceProfileParamBuilder.Checkable ctx
  comparedCpus : CpusParamBuilder.Comparable ctx (InstanceTypesParamBuilder.Fails ctx)
    (EnableHtSupportParamBuilder.Fails ctx)
  comparedMemory : MemoryParamBuilder.Comparable ctx (InstanceTypesParamBuilder.Fails ctx)
  spotCount : SpotAllocationCountParamBuilder.Comparable ctx (NodesParamBuilder.Fails ctx)
    (SpotPriceParamBuilder.Fails ctx)
  askedGroup : EnablePlacementGroupParamBuilder.AskedComparable ctx
  defaultGroup : EnablePlacementGroupParamBuilder.get ctx = none →
    ¬ NodesParamBuilder.Fails ctx → ¬ InstanceTypesParamBuilder.Fails ctx →
    EnablePlacementGroupParamBuilder.default ctx [] = .ok true →
      InstanceTypesParamBuilder.AllApplicable ctx fun _ => True
  efa : EnableEfaParamBuilder.Comparable ctx (InstanceTypesParamBuilder.Fails ctx)
    (SpotPriceParamBuilder.Fails ctx)

end SocaJobBuilder

end Idea

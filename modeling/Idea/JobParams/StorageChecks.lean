import Idea.JobParams.Succeeds

/-! # When the builders for storage and the other parameters return

Volumes, scratch storage, the FSx for Lustre file system, licenses and the walltime.
-/

namespace Idea

variable {ctx : BuilderContext}

open BuilderContext

/-- The size of a volume is an integer that a float holds, or a dictionary. -/
structure SizeReadable (ctx : BuilderContext) (name other : String) : Prop where
  hasInt : ctx.params.EitherHasInt name other
  holds : ∀ n, ctx.params.getEitherAsInt name other = .ok (some n) → FloatValue.Holds n
  dictionary : ctx.params.getEitherAsInt name other = .ok none →
    ∀ value, ctx.params.getAnyValue other = some value → ∃ size, value = .memory size

namespace RootStorageSizeParamBuilder

end RootStorageSizeParamBuilder

namespace ScratchStorageSizeParamBuilder

end ScratchStorageSizeParamBuilder

namespace ScratchIopsParamBuilder

/-- A number of operations is divided by the size of a volume as a float. -/
def Divisible (ctx : BuilderContext) (iops : ℤ) : Prop :=
  ∀ given, ScratchStorageSizeParamBuilder.get ctx = .ok given →
    (given.getD (ScratchStorageSizeParamBuilder.default ctx)).gtNumber 0 = true →
      FloatValue.Holds iops

/-- The number of operations, which is a default or was submitted, can be read and divided. -/
structure Readable (ctx : BuilderContext) : Prop where
  hasInt : ctx.params.EitherHasInt "scratch_iops" "scratch_storage_iops"
  default : get ctx = .ok none → Divisible ctx (default ctx)
  submitted : ∀ value, get ctx = .ok (some value) → ctx.MaySubmit "scratch_storage_iops" →
    0 ≤ value → Divisible ctx value

end ScratchIopsParamBuilder

namespace FsxLustreParamBuilder

/-- The size of a file system is a number of gigabytes that a float holds, or a dictionary. -/
def SizeGiven : ParamValue → Prop
  | .memory _ => True
  | value => ∃ n, value.asInt = .ok (some n) ∧ FloatValue.Holds n

/-- The file system is a dictionary, or its numbers can be read. -/
def Readable (ctx : BuilderContext) : Prop :=
  ctx.params.fsxLustre = none →
    (∀ value, ctx.params.getAnyValue "fsx_lustre_size" = some value → SizeGiven value) ∧
      ctx.params.HasInt "fsx_lustre_per_unit_throughput"

/-- The lookup of the bucket returns where a file system that may be submitted has one. -/
def Checkable (ctx : BuilderContext) : Prop :=
  ∀ config, get ctx = .ok (some config) → config.enabled ≠ some false →
    (∀ param ∈ askedParams config, ctx.MaySubmit param) →
      ∀ bucket, config.s3Backend = some bucket → bucket ≠ "" →
        Succeeds (ctx.soca.s3BucketError ((bucket.splitOn "s3://").getLastD ""))

end FsxLustreParamBuilder

namespace EnableScratchParamBuilder

end EnableScratchParamBuilder

namespace TerminateWhenIdleOptionBuilder

end TerminateWhenIdleOptionBuilder

namespace LicensesParamBuilder

/-- The counts of all licenses can be read. -/
def Readable (ctx : BuilderContext) : Prop :=
  ∀ key ∈ ctx.params.values.keys, isLicense key = true → ctx.params.HasInt key

end LicensesParamBuilder

namespace WalltimeParamBuilder

end WalltimeParamBuilder

end Idea

import Idea.JobParams.Options

/-! # Validating and building a job

The builders validate and build a job one after the other. A job is valid if no builder adds an
entry, and then each builder found nothing to object to on its own.
-/

namespace Idea

/-- A builder of a job parameter. It sees which parameters have failed before. -/
structure ParamBuilder where
  jobParam : String
  validate : List String → Except Raised Verdict
  apply : List String → Built → Except Raised Built

namespace SocaJobBuilder

section Builders

variable (ctx : BuilderContext)

def sizeBuilders : List ParamBuilder := [
  ⟨"cpus", CpusParamBuilder.validate ctx, fun _ => CpusParamBuilder.apply ctx⟩,
  ⟨"memory", MemoryParamBuilder.validate ctx, fun _ => MemoryParamBuilder.apply ctx⟩,
  ⟨"gpus", fun _ => GpusParamBuilder.validate ctx, fun _ => GpusParamBuilder.apply ctx⟩,
  ⟨"mpiprocs", fun _ => MpiprocsParamBuilder.validate ctx,
    fun _ => MpiprocsParamBuilder.apply ctx⟩,
  ⟨"base_os", fun _ => BaseOsParamBuilder.validate ctx,
    fun _ built => .ok (BaseOsParamBuilder.apply ctx built)⟩,
  ⟨"instance_ami", fun _ => InstanceAmiParamBuilder.validate ctx,
    fun _ built => .ok (InstanceAmiParamBuilder.apply ctx built)⟩]

def purchaseBuilders : List ParamBuilder := [
  ⟨"spot_allocation_strategy", SpotAllocationStrategyParamBuilder.validate ctx,
    SpotAllocationStrategyParamBuilder.apply ctx⟩,
  ⟨"force_reserved_instances", fun _ => ForceReservedInstancesParamBuilder.validate ctx,
    fun _ built => .ok (ForceReservedInstancesParamBuilder.apply ctx built)⟩,
  ⟨"enable_efa_support", EnableEfaParamBuilder.validate ctx,
    fun _ built => .ok (EnableEfaParamBuilder.apply ctx built)⟩,
  ⟨"fsx_lustre", fun _ => FsxLustreParamBuilder.validate ctx,
    fun _ => FsxLustreParamBuilder.apply ctx⟩]

def optionBuilders : List ParamBuilder := [
  ⟨"security_groups", fun _ => SecurityGroupsParamBuilder.validate ctx,
    fun _ built => .ok (SecurityGroupsParamBuilder.apply ctx built)⟩,
  ⟨"instance_profile", fun _ => InstanceProfileParamBuilder.validate ctx,
    fun _ => InstanceProfileParamBuilder.apply ctx⟩,
  ⟨"keep_ebs_volumes", fun _ => KeepEbsVolumesParamBuilder.validate ctx,
    fun _ built => .ok (KeepEbsVolumesParamBuilder.apply ctx built)⟩,
  ⟨"root_storage_size", fun _ => RootStorageSizeParamBuilder.validate ctx,
    fun _ => RootStorageSizeParamBuilder.apply ctx⟩,
  ⟨"scratch_storage_size", fun _ => ScratchStorageSizeParamBuilder.validate ctx,
    fun _ => ScratchStorageSizeParamBuilder.apply ctx⟩,
  ⟨"scratch_storage_iops", fun _ => ScratchIopsParamBuilder.validate ctx,
    fun _ => ScratchIopsParamBuilder.apply ctx⟩,
  ⟨"enable_scratch", fun _ => EnableScratchParamBuilder.validate ctx,
    fun _ => EnableScratchParamBuilder.apply ctx⟩,
  ⟨"enable_system_metrics", fun _ => EnableSystemMetricsParamBuilder.validate ctx,
    fun _ built => .ok (EnableSystemMetricsParamBuilder.apply ctx built)⟩,
  ⟨"enable_anonymous_metrics", fun _ => EnableAnonymousMetricsParamBuilder.validate ctx,
    fun _ built => .ok (EnableAnonymousMetricsParamBuilder.apply ctx built)⟩,
  ⟨"keep_forever", fun _ => KeepForeverOptionBuilder.validate,
    fun _ built => .ok (KeepForeverOptionBuilder.apply ctx built)⟩,
  ⟨"terminate_when_idle", fun _ => TerminateWhenIdleOptionBuilder.validate ctx,
    fun _ => TerminateWhenIdleOptionBuilder.apply ctx⟩,
  ⟨"tags", fun _ => TagsOptionBuilder.validate ctx,
    fun _ built => .ok (TagsOptionBuilder.apply ctx built)⟩,
  ⟨"licenses", fun _ => LicensesParamBuilder.validate ctx,
    fun _ => LicensesParamBuilder.apply ctx⟩,
  ⟨"compute_stack", fun _ => ComputeStackParamBuilder.validate ctx,
    fun _ built => .ok (ComputeStackParamBuilder.apply ctx built)⟩,
  ⟨"stack_id", fun _ => StackIdParamBuilder.validate ctx,
    fun _ built => .ok (StackIdParamBuilder.apply ctx built)⟩,
  ⟨"job_group", fun _ => JobGroupParamBuilder.validate ctx,
    fun _ built => .ok (JobGroupParamBuilder.apply ctx built)⟩,
  ⟨"job_started_email_template", fun _ => JobStartedEmailTemplateParamBuilder.validate ctx,
    fun _ built => .ok (JobStartedEmailTemplateParamBuilder.apply ctx built)⟩,
  ⟨"job_completed_email_template", fun _ => JobCompletedEmailTemplateParamBuilder.validate ctx,
    fun _ built => .ok (JobCompletedEmailTemplateParamBuilder.apply ctx built)⟩,
  ⟨"walltime", fun _ => WalltimeParamBuilder.validate ctx,
    fun _ built => .ok (WalltimeParamBuilder.apply ctx built)⟩,
  ⟨"custom_params", fun _ => CustomParamsParamBuilder.validate,
    fun _ built => .ok (CustomParamsParamBuilder.apply built)⟩]

def builders : List ParamBuilder := [
  ⟨"nodes", fun _ => NodesParamBuilder.validate ctx, fun _ => NodesParamBuilder.apply ctx⟩,
  ⟨"instance_types", fun _ => InstanceTypesParamBuilder.validate ctx,
    fun _ => InstanceTypesParamBuilder.apply ctx⟩,
  ⟨"enable_ht_support", EnableHtSupportParamBuilder.validate ctx,
    fun _ built => .ok (EnableHtSupportParamBuilder.apply ctx built)⟩] ++ sizeBuilders ctx ++ [
  ⟨"enable_placement_group", EnablePlacementGroupParamBuilder.validate ctx,
    EnablePlacementGroupParamBuilder.apply ctx⟩,
  ⟨"spot", fun _ => SpotParamBuilder.validate ctx, fun _ => SpotParamBuilder.apply ctx⟩,
  ⟨"spot_price", fun _ => SpotPriceParamBuilder.validate ctx,
    fun _ => SpotPriceParamBuilder.apply ctx⟩,
  ⟨"spot_allocation_count", SpotAllocationCountParamBuilder.validate ctx,
    fun _ => SpotAllocationCountParamBuilder.apply ctx⟩] ++ purchaseBuilders ctx ++ [
  ⟨"subnet_ids", SubnetIdsParamBuilder.validate ctx, SubnetIdsParamBuilder.apply ctx⟩] ++
  optionBuilders ctx

end Builders

def failedParams (results : List JobValidationResultEntry) : List String :=
  results.map (·.errorCode)

def addValidationEntry (results : List JobValidationResultEntry)
    (entry : JobValidationResultEntry) : List JobValidationResultEntry :=
  if entry.errorCode ∈ failedParams results then results else results ++ [entry]

def validateParam (results : List JobValidationResultEntry) (builder : ParamBuilder) :
    Except Raised (List JobValidationResultEntry) := do
  let verdict ← builder.validate (failedParams results)
  .ok (verdict.entries.foldl addValidationEntry results)

def validate (ctx : BuilderContext) : Except Raised (List JobValidationResultEntry) :=
  (builders ctx).foldlM validateParam []

def buildFrom (failed : List String) (builders : List ParamBuilder) (built : Built) :
    Except Raised Built :=
  builders.foldlM (fun built builder => builder.apply failed built) built

def build (ctx : BuilderContext) (results : List JobValidationResultEntry) :
    Except Raised Built :=
  buildFrom (failedParams results) (builders ctx) {}

theorem addValidationEntry_ne_nil (results : List JobValidationResultEntry)
    (entry : JobValidationResultEntry) : addValidationEntry results entry ≠ [] := by
  unfold addValidationEntry
  split
  · rintro rfl
    contradiction
  · simp

theorem foldl_addValidationEntry_eq_nil {entries results : List JobValidationResultEntry} :
    entries.foldl addValidationEntry results = [] ↔ entries = [] ∧ results = [] := by
  induction entries generalizing results with
  | nil => simp
  | cons entry entries ih => simp [ih, addValidationEntry_ne_nil]

theorem validateParam_eq_nil {results : List JobValidationResultEntry} {builder : ParamBuilder} :
    validateParam results builder = .ok [] ↔
      results = [] ∧ ∃ verdict, builder.validate [] = .ok verdict ∧ verdict.entries = [] := by
  rw [validateParam, Raised.bind_eq_ok]
  simp only [Except.ok.injEq, foldl_addValidationEntry_eq_nil]
  constructor
  · rintro ⟨verdict, hverdict, hentries, rfl⟩
    exact ⟨rfl, verdict, hverdict, hentries⟩
  · rintro ⟨rfl, verdict, hverdict, hentries⟩
    exact ⟨verdict, hverdict, hentries, rfl⟩

theorem foldlM_validateParam_eq_nil {builders : List ParamBuilder}
    {results : List JobValidationResultEntry} :
    builders.foldlM validateParam results = .ok [] ↔ results = [] ∧ ∀ builder ∈ builders,
      ∃ verdict, builder.validate [] = .ok verdict ∧ verdict.entries = [] := by
  induction builders generalizing results with
  | nil => simp [pure, Except.pure]
  | cons builder builders ih =>
    rw [List.foldlM_cons, Raised.bind_eq_ok]
    simp only [ih, List.forall_mem_cons]
    constructor
    · rintro ⟨results', h, rfl, hrest⟩
      obtain ⟨rfl, hbuilder⟩ := validateParam_eq_nil.mp h
      exact ⟨rfl, hbuilder, hrest⟩
    · rintro ⟨rfl, hbuilder, hrest⟩
      exact ⟨[], validateParam_eq_nil.mpr ⟨rfl, hbuilder⟩, rfl, hrest⟩

theorem validate_eq_nil {ctx : BuilderContext} :
    validate ctx = .ok [] ↔ ∀ builder ∈ builders ctx,
      ∃ verdict, builder.validate [] = .ok verdict ∧ verdict.entries = [] := by
  rw [validate, foldlM_validateParam_eq_nil]
  simp

end SocaJobBuilder

end Idea

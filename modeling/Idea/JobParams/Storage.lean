import Idea.JobParams.Capacity

/-! # The builders for storage

Volumes, scratch storage and the FSx for Lustre file system of a job.
-/

namespace Idea

namespace Constants

def DEFAULT_KEEP_EBS_VOLUMES : Bool := false
def DEFAULT_ROOT_STORAGE_SIZE : ℚ := 10
def DEFAULT_SCRATCH_STORAGE_SIZE : ℚ := 0
def DEFAULT_SCRATCH_IOPS : ℤ := 0
def DEFAULT_ENABLE_SCRATCH : Bool := false
def DEFAULT_FSX_LUSTRE_PER_UNIT_THROUGHPUT : ℤ := 200
def DEFAULT_FSX_LUSTRE_SIZE_GB : ℚ := 1200
def FSX_LUSTRE_DEPLOYMENT_TYPE_PERSISTENT_1 : String := "persistent_1"
def FSX_LUSTRE_DEPLOYMENT_TYPE_PERSISTENT_2 : String := "persistent_2"
def FSX_LUSTRE_DEPLOYMENT_TYPE_SCRATCH_1 : String := "scratch_1"
def FSX_LUSTRE_DEPLOYMENT_TYPE_SCRATCH_2 : String := "scratch_2"
def DEFAULT_FSX_LUSTRE_DEPLOYMENT_TYPE : String := FSX_LUSTRE_DEPLOYMENT_TYPE_SCRATCH_2
def FSX_LUSTRE_PER_UNIT_THROUGHPUT_TYPES : List String :=
  [FSX_LUSTRE_DEPLOYMENT_TYPE_PERSISTENT_1, FSX_LUSTRE_DEPLOYMENT_TYPE_PERSISTENT_2]

end Constants

namespace KeepEbsVolumesParamBuilder

variable (ctx : BuilderContext)

def get : Option Bool := ctx.params.getEitherAsBool "keep_ebs" "keep_ebs_volumes"

def default : Bool :=
  (ctx.queueDefault (·.keepEbsVolumes)).getD Constants.DEFAULT_KEEP_EBS_VOLUMES

def validate : Except Raised Verdict := ctx.validateGiven "keep_ebs_volumes" (get ctx)

def apply (built : Built) : Built :=
  { built with params.keepEbsVolumes := some ((get ctx).getD (default ctx)) }

end KeepEbsVolumesParamBuilder

def storageSize (ctx : BuilderContext) (name other : String) :
    Except Raised (Option SocaMemory) := do
  match ← ctx.params.getEitherAsInt name other with
  | some n =>
    let value ← FloatValue.ofInt n
    .ok (some ⟨value, .gb⟩)
  | none =>
    match ctx.params.getAnyValue other with
    | none => .ok none
    | some (.memory size) => .ok (some size)
    | some _ => .error .validationError

namespace RootStorageSizeParamBuilder

variable (ctx : BuilderContext)

def get : Except Raised (Option SocaMemory) := storageSize ctx "root_size" "root_storage_size"

def default : SocaMemory :=
  (ctx.queueDefault (·.rootStorageSize)).getD ⟨Constants.DEFAULT_ROOT_STORAGE_SIZE, .gb⟩

def validate : Except Raised Verdict := do
  match ← get ctx with
  | none => .ok .pass
  | some value => ctx.unlessRestricted "root_storage_size" do
    .ok (.check (value.gtNumber 0) "root_storage_size"
      ("root_storage_size must be greater than 0: (" ++ value.str ++ ")"))

def apply (built : Built) : Except Raised Built := do
  let value ← get ctx
  .ok { built with params.rootStorageSize := some (value.getD (default ctx)) }

end RootStorageSizeParamBuilder

namespace ScratchStorageSizeParamBuilder

variable (ctx : BuilderContext)

def get : Except Raised (Option SocaMemory) :=
  storageSize ctx "scratch_size" "scratch_storage_size"

def default : SocaMemory :=
  (ctx.queueDefault (·.scratchStorageSize)).getD ⟨Constants.DEFAULT_SCRATCH_STORAGE_SIZE, .gb⟩

def validate : Except Raised Verdict := do
  match ← get ctx with
  | none => .ok .pass
  | some value => ctx.unlessRestricted "scratch_storage_size" do
    .ok (.check (0 ≤ value.value) "scratch_storage_size"
      ("scratch_storage_size must be a positive number: (" ++ value.str ++ ")"))

def apply (built : Built) : Except Raised Built := do
  let value ← get ctx
  let value := value.getD (default ctx)
  let built := { built with params.scratchStorageSize := some value }
  .ok (if 0 < value.value then { built with params.scratchProvider := some "ebs" } else built)

end ScratchStorageSizeParamBuilder

namespace ScratchIopsParamBuilder

variable (ctx : BuilderContext)

def get : Except Raised (Option ℤ) :=
  ctx.params.getEitherAsInt "scratch_iops" "scratch_storage_iops"

def default : ℤ := (ctx.queueDefault (·.scratchStorageIops)).getD Constants.DEFAULT_SCRATCH_IOPS

/-- The operations per second are limited by the size of the volume, whatever its unit is. -/
def checkRatio (value : ℤ) : Except Raised Verdict := do
  let given ← ScratchStorageSizeParamBuilder.get ctx
  let size := given.getD (ScratchStorageSizeParamBuilder.default ctx)
  if !size.gtNumber 0 then .ok .pass
  else do
    let iops ← FloatValue.ofInt value
    let ratio := iops / size.value
    .ok (.check (ratio ≤ 50) "scratch_storage_iops"
      ("Iops to volume size ratio of " ++ ctx.soca.floatText (.finite ratio) ++
        " is too high; maximum is 50. Either reduce the Iops or increase the scratch storage " ++
        "volume size."))

def validate : Except Raised Verdict := do
  match ← get ctx with
  | none => checkRatio ctx (default ctx)
  | some value => ctx.unlessRestricted "scratch_storage_iops" do
    if !(evalPositiveInt "scratch_storage_iops" value).success then
      .ok (evalPositiveInt "scratch_storage_iops" value)
    else checkRatio ctx value

def apply (built : Built) : Except Raised Built := do
  let value ← get ctx
  .ok { built with params.scratchStorageIops := some (value.getD (default ctx)) }

end ScratchIopsParamBuilder

namespace SocaFSxLustreConfig

def allowedDeploymentTypes : List String := ["scratch_1", "scratch_2", "persistent_1", "persistent_2"]

def allowedPerUnitThroughputs : List ℤ := [50, 100, 200]

def allowedSizesGb : List ℤ := 1200 :: (List.range 41).map fun n => 2400 * (n + 1 : ℤ)

end SocaFSxLustreConfig

namespace FsxLustreParamBuilder

variable (ctx : BuilderContext)

def requestedSize : Except Raised (Option SocaMemory) :=
  match ctx.params.getAnyValue "fsx_lustre_size" with
  | none => .ok none
  | some (.memory size) => .ok (some size)
  | some value => do
    let given ← value.asInt
    let sizeGb ← Raised.required .validationError given
    let size ← FloatValue.ofInt sizeGb
    .ok (some ⟨size, .gb⟩)

def hasPrefix (text given : String) : Bool := text.toList.isPrefixOf given.toList

def lower (text : String) : String := String.ofList (text.toList.map Char.toLower)

def withMark (bucket : String) : String :=
  if hasPrefix "s3://" bucket then bucket else "s3://" ++ bucket

/-- The file system that a text which is no flag stands for: an existing one, or one with a bucket
and the paths after it. -/
def ofText (text : String) (requested : SocaFSxLustreConfig) : SocaFSxLustreConfig :=
  if hasPrefix "fs-" text || hasPrefix "fc-" text then
    { enabled := some true, existingFsx := some text }
  else
    let tokens := splitPlus text
    { requested with
      s3Backend := some (withMark (tokens.headD ""))
      exportPath := tokens[1]?
      importPath := tokens[2]? }

def get : Except Raised (Option SocaFSxLustreConfig) :=
  match ctx.params.fsxLustre with
  | some config => .ok (some config)
  | none => do
    let size ← requestedSize ctx
    let perUnitThroughput ← ctx.params.getValueAsInt "fsx_lustre_per_unit_throughput"
    let deploymentType := (ctx.params.getValueAsString "fsx_lustre_deployment_type").map lower
    let requested : SocaFSxLustreConfig :=
      { enabled := some true, size, perUnitThroughput, deploymentType }
    match ctx.params.getValueAsBool "fsx_lustre", ctx.params.getValueAsString "fsx_lustre" with
    | some false, _ => .ok (some { enabled := some false })
    | some true, _ => .ok (some requested)
    | none, none => .ok none
    | none, some text => .ok (some (ofText text requested))

def default (s3Backend : Option String) : SocaFSxLustreConfig :=
  let config := (ctx.queueDefault (·.fsxLustre)).getD {}
  match config.existingFsx with
  | some existingFsx => { existingFsx := some existingFsx }
  | none =>
    let deploymentType := config.deploymentType.getD Constants.DEFAULT_FSX_LUSTRE_DEPLOYMENT_TYPE
    { s3Backend := s3Backend.or config.s3Backend
      deploymentType := some deploymentType
      perUnitThroughput :=
        if deploymentType ∈ Constants.FSX_LUSTRE_PER_UNIT_THROUGHPUT_TYPES then
          some Constants.DEFAULT_FSX_LUSTRE_PER_UNIT_THROUGHPUT
        else none
      size := some (config.size.getD ⟨Constants.DEFAULT_FSX_LUSTRE_SIZE_GB, .gb⟩) }

def withDefaults (config defaults : SocaFSxLustreConfig) : SocaFSxLustreConfig :=
  { config with
    s3Backend := config.s3Backend.or defaults.s3Backend
    importPath := config.importPath.or defaults.importPath
    exportPath := config.exportPath.or defaults.exportPath
    deploymentType := config.deploymentType.or defaults.deploymentType
    perUnitThroughput := config.perUnitThroughput.or defaults.perUnitThroughput
    size := config.size.or defaults.size }

/-- The configuration that is built from a submitted one, and the provider of the scratch storage
if it decides it. -/
def configure : Option SocaFSxLustreConfig → SocaFSxLustreConfig × Option String
  | none => ({ enabled := some false }, none)
  | some config =>
    if config.enabled = some false then ({ enabled := some false }, none)
    else if config.existingFsx.isSome then (config, some "fsx-lustre-existing")
    else if config.enabled = some true then
      (withDefaults config (default ctx config.s3Backend), some "fsx-lustre-new")
    else (config, none)

def apply (built : Built) : Except Raised Built := do
  let config ← get ctx
  let configured := configure ctx config
  .ok { built with
    params.fsxLustre := some configured.1
    params.scratchProvider := configured.2.or built.params.scratchProvider }

def checkConfig (config : SocaFSxLustreConfig) : Verdict :=
  let sizeText := ctx.params.getValueAsString "fsx_lustre_size"
  let throughputText := ctx.params.getValueAsString "fsx_lustre_per_unit_throughput"
  .both
    (match config.size, sizeText with
    | none, some text => .fail "fsx_lustre_size"
        ("fsx_lustre_size must be a valid integer: (" ++ text ++ ")")
    | none, none => .pass
    | some size, _ =>
      .check (SocaMemory.truncate size.value ∈ SocaFSxLustreConfig.allowedSizesGb) "fsx_lustre_size"
        ("Invalid fsx_lustre_size: (" ++ sizeText.getD "None" ++ "). Allowed values: [" ++
          ", ".intercalate (SocaFSxLustreConfig.allowedSizesGb.map toString) ++ "]"))
    (.both
      (match config.deploymentType with
      | none => .pass
      | some deploymentType =>
        .check (deploymentType ∈ SocaFSxLustreConfig.allowedDeploymentTypes)
          "fsx_lustre_deployment_type"
          ("Invalid fsx_lustre_deployment_type: (" ++ deploymentType ++ "). Allowed values: [" ++
            ", ".intercalate SocaFSxLustreConfig.allowedDeploymentTypes ++ "]"))
      (if config.deploymentType = some Constants.FSX_LUSTRE_DEPLOYMENT_TYPE_PERSISTENT_1 then
        match config.perUnitThroughput, throughputText with
        | none, some text => .fail "fsx_lustre_per_unit_throughput"
            ("fsx_lustre_per_unit_throughput must be a valid integer: (" ++ text ++ ").")
        | none, none => .pass
        | some throughput, _ =>
          .check (throughput ∈ SocaFSxLustreConfig.allowedPerUnitThroughputs)
            "fsx_lustre_per_unit_throughput"
            ("Invalid fsx_lustre_per_unit_throughput: (" ++ toString throughput ++
              "). Allowed values: [" ++
              ", ".intercalate (SocaFSxLustreConfig.allowedPerUnitThroughputs.map toString) ++ "]")
      else .pass))

def checkBucket (s3Backend : Option String) : Except Raised Verdict :=
  match s3Backend.filter (· ≠ "") with
  | none => .ok .pass
  | some s3Backend => do
    let bucketName := (s3Backend.splitOn "s3://").getLastD ""
    let errorCode ← ctx.soca.s3BucketError bucketName
    .ok { success := false
          entries := match errorCode with
            | some "AccessDenied" => [⟨"fsx_lustre_s3_backend",
                "IDEA does not have access to this bucket: " ++ bucketName ++ "."⟩]
            | some "NoSuchBucket" => [⟨"fsx_lustre_s3_backend",
                "Invalid fsx_lustre_s3_backend: (" ++ bucketName ++ "). Bucket does not exist."⟩]
            | _ => [] }

def askedParams (config : SocaFSxLustreConfig) : List String :=
  ["fsx_lustre"] ++ (if config.size.isSome then ["fsx_lustre_size"] else []) ++
    (if config.deploymentType.isSome then ["fsx_lustre_deployment_type"] else []) ++
    (if config.perUnitThroughput.isSome then ["fsx_lustre_per_unit_throughput"] else [])

def validate : Except Raised Verdict := do
  match ← get ctx with
  | none => .ok .pass
  | some config =>
    if config.enabled = some false then .ok .pass
    else
      (askedParams config).foldr ctx.unlessRestricted do
        let bucket ← checkBucket ctx config.s3Backend
        .ok (.both (checkConfig ctx config) bucket)

end FsxLustreParamBuilder

namespace EnableScratchParamBuilder

variable (ctx : BuilderContext)

def default : Bool := (ctx.queueDefault (·.enableScratch)).getD Constants.DEFAULT_ENABLE_SCRATCH

/-- A flag that is not given follows from the other storage of the job, or else is the default. -/
def get : Except Raised Bool :=
  match ctx.params.getValueAsBool "enable_scratch" with
  | some enabled => .ok enabled
  | none => do
    let size ← ScratchStorageSizeParamBuilder.get ctx
    let config ← FsxLustreParamBuilder.get ctx
    if size.any (·.gtNumber 0) || isTrue (config.bind (·.enabled)) then .ok true
    else .ok (default ctx)

def validate : Except Raised Verdict := do
  let enabled ← get ctx
  ctx.validateGiven "enable_scratch" (some enabled)

def apply (built : Built) : Except Raised Built := do
  let enabled ← get ctx
  .ok { built with params.enableScratch := some enabled }

end EnableScratchParamBuilder

end Idea

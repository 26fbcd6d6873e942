import Idea.JobParams.Context

/-! # The builders for nodes and capacity

How many nodes of which instance types a job asks for, and whether they are spot instances.
-/

namespace Idea

namespace Constants

def DEFAULT_NODES : ℤ := 1
def DEFAULT_CPUS : ℤ := 1
def DEFAULT_FORCE_RESERVED_INSTANCES : Bool := false
def DEFAULT_ENABLE_SPOT : Bool := false
def DEFAULT_ENABLE_HT_SUPPORT : Bool := false
def SPOT_PRICE_AUTO : String := "auto"
def ALLOWED_BASEOS : List String :=
  ["amazonlinux2", "amazonlinux2023", "rhel8", "rhel9", "rocky8", "rocky9", "ubuntu2204",
    "ubuntu2404"]

end Constants

namespace ErrorCodes

def INVALID_EC2_INSTANCE_TYPE : String := "INVALID_EC2_INSTANCE_TYPE"

end ErrorCodes

structure InstanceTypeOptions where
  name : String
  defaultCoreCount : Option ℤ
  defaultVcpuCount : Option ℤ
  weightedCapacity : Option ℤ

structure MemoryAsk where
  value : FloatValue
  unit : SocaMemoryUnit

/-- What the builders fill in. Memory and the spot price, which need not be finite numbers, are kept
beside the parameters. -/
structure Built where
  params : SocaJobParams := {}
  memory : Option MemoryAsk := none
  spotPrice : Option FloatValue := none
  instanceTypes : List InstanceTypeOptions := []
  keepForever : Option Bool := none
  terminateWhenIdle : Option ℤ := none
  tags : Option (List (String × String)) := none

def validateCount (ctx : BuilderContext) (param : String) (value : Option ℤ) :
    Except Raised Verdict :=
  match value with
  | none => .ok .pass
  | some n => ctx.unlessRestricted param (.ok (evalPositiveNonzeroInt param n))

namespace NodesParamBuilder

variable (ctx : BuilderContext)

def get : Except Raised (Option ℤ) := ctx.params.getValueAsInt "nodes"

def default : ℤ := (ctx.queueDefault (·.nodes)).getD Constants.DEFAULT_NODES

def validate : Except Raised Verdict := do
  let nodes ← get ctx
  validateCount ctx "nodes" nodes

def apply (built : Built) : Except Raised Built := do
  let nodes ← get ctx
  .ok { built with params.nodes := some (nodes.getD (default ctx)) }

end NodesParamBuilder

namespace SocaQueueManagementParams

def lists (instanceTypes : List String) (instanceType : String) : Bool :=
  instanceType ∈ instanceTypes ||
    String.ofList (instanceType.toList.takeWhile (· ≠ '.')) ∈
      instanceTypes.filter fun listed => '.' ∉ listed.toList

def isAllowedInstanceType (params : SocaQueueManagementParams) (instanceType : String) : Bool :=
  isEmptyList params.allowedInstanceTypes ||
    lists (params.allowedInstanceTypes.getD []) instanceType

def isExcludedInstanceType (params : SocaQueueManagementParams) (instanceType : String) : Bool :=
  !isEmptyList params.excludedInstanceTypes &&
    lists (params.excludedInstanceTypes.getD []) instanceType

end SocaQueueManagementParams

namespace InstanceTypesParamBuilder

variable (ctx : BuilderContext)

/-- The names that are gone through of a value: a text is gone through character by character, and
a dictionary by its keys. -/
def names : ParamValue → Except Raised (List String)
  | .text value => .ok (value.toList.map String.singleton)
  | .list items => .ok items
  | .amount _ => .ok ["amount", "unit"]
  | .memory _ => .ok ["value", "unit"]
  | _ => .error .typeError

/-- Only under the name of the scheduler the instance types are separated by plus signs. -/
def get : Except Raised (Option (List String)) :=
  match ctx.params.getAnyValue "instance_type" with
  | some (.text value) => .ok (some (splitPlus value).eraseDups)
  | instanceType =>
    match instanceType.or (ctx.params.getAnyValue "instance_types") with
    | none => .ok none
    | some value => do
      let names ← names value
      .ok (some names.eraseDups)

def default : Option (List String) := ctx.queueDefault (·.instanceTypes)

/-- What keeps an instance type from being used. -/
structure Objections where
  invalid : Bool := false
  notAllowed : Bool := false
  excluded : Bool := false

/-- `is_instance_type_valid` -/
def isValid (instanceType : String) : Except Raised Bool :=
  match ctx.soca.ec2InstanceType instanceType with
  | .ok _ => .ok true
  | .error (.soca code message) =>
    if code = ErrorCodes.INVALID_EC2_INSTANCE_TYPE then .ok false
    else .error (.soca code message)
  | .error e => .error e

def objections (instanceType : String) : Except Raised Objections :=
  if instanceType ∉ ctx.soca.allInstanceTypes then .ok { invalid := true }
  else
    let notAllowed := ctx.queueManagement.any fun params =>
      !params.isAllowedInstanceType instanceType
    let excluded := ctx.queueManagement.any fun params =>
      params.isExcludedInstanceType instanceType
    if notAllowed || excluded then .ok { notAllowed, excluded }
    else do
      let valid ← isValid ctx instanceType
      .ok { invalid := !valid }

def validate : Except Raised Verdict := do
  match ← get ctx with
  | none => .ok .pass
  | some instanceTypes => ctx.unlessRestricted "instance_types" do
    let found ← instanceTypes.mapM (objections ctx)
    let named (p : Objections → Bool) : String :=
      ", ".intercalate (((instanceTypes.zip found).filter fun pair => p pair.2).map Prod.fst)
    let queueManagement := ctx.queueManagement.getD {}
    .ok <| .both
      (.check (!found.any (·.invalid)) "instance_types"
        ("Instance types invalid or not found: [" ++ named (·.invalid) ++ "]"))
      (.both
        (.check (!found.any (·.notAllowed)) "instance_types"
          ("Instance types not allowed for this queue: [" ++ named (·.notAllowed) ++
            "]. Allowed instance types are: [" ++
            ", ".intercalate (queueManagement.allowedInstanceTypes.getD []) ++ "]"))
        (.check (!found.any (·.excluded)) "instance_types"
          ("One of more of given instance types are excluded for this queue: [" ++
            named (·.excluded) ++ "]. Excluded instance types are: [" ++
            ", ".intercalate (queueManagement.excludedInstanceTypes.getD []) ++ "]")))

def options (instanceType : String) : Except Raised InstanceTypeOptions := do
  let ec2InstanceType ← ctx.soca.ec2InstanceType instanceType
  .ok { name := instanceType
        defaultCoreCount := ec2InstanceType.defaultCores
        defaultVcpuCount := ec2InstanceType.defaultVcpus
        weightedCapacity := ec2InstanceType.defaultCores }

def apply (built : Built) : Except Raised Built := do
  let given ← get ctx
  match (given.or (default ctx)).filter (· ≠ []) with
  | none => .error (.soca ErrorCodes.INVALID_PARAMS "instance_types is a required job parameter.")
  | some instanceTypes =>
    let options ← instanceTypes.mapM (options ctx)
    .ok { built with params.instanceTypes := some instanceTypes, instanceTypes := options }

/-- The instance types that the other builders check. A list has to be there to go through it. -/
def applicable : Except Raised (List String) := do
  let given ← get ctx
  Raised.required .typeError ((given.filter (· ≠ [])).or (default ctx))

end InstanceTypesParamBuilder

namespace EnableHtSupportParamBuilder

variable (ctx : BuilderContext)

def get : Option Bool := ctx.params.getEitherAsBool "ht_support" "enable_ht_support"

def default : Bool :=
  (ctx.queueDefault (·.enableHtSupport)).getD Constants.DEFAULT_ENABLE_HT_SUPPORT

def validate (failed : List String) : Except Raised Verdict :=
  match get ctx with
  | none => .ok .pass
  | some enabled => ctx.unlessRestricted "enable_ht_support" <|
    .ok (if enabled && isFailed failed ["instance_types"] then .refuse else .pass)

def apply (built : Built) : Built :=
  let enabled := (get ctx).getD (default ctx)
  let built := { built with params.enableHtSupport := some enabled }
  if enabled then
    { built with
      instanceTypes := built.instanceTypes.map fun option =>
        { option with weightedCapacity := option.defaultVcpuCount } }
  else built

end EnableHtSupportParamBuilder

namespace CpusParamBuilder

variable (ctx : BuilderContext)

def get : Except Raised (Option ℤ) := ctx.params.getValueAsInt "cpus"

def default : ℤ := (ctx.queueDefault (·.cpus)).getD Constants.DEFAULT_CPUS

def minCpus (enableHtSupport : Bool) (instanceTypes : List String) : Except Raised ℤ :=
  instanceTypes.foldlM (fun minCpus instanceType => do
    let ec2InstanceType ← ctx.soca.ec2InstanceType instanceType
    let cpus ← Raised.required .typeError
      (if enableHtSupport then ec2InstanceType.defaultVcpus else ec2InstanceType.defaultCores)
    .ok (min minCpus cpus)) 9999999

def validate (failed : List String) : Except Raised Verdict := do
  match ← get ctx with
  | none => .ok .pass
  | some cpus => ctx.unlessRestricted "cpus" <|
    if !(evalPositiveNonzeroInt "cpus" cpus).success then .ok (evalPositiveNonzeroInt "cpus" cpus)
    else if isFailed failed ["instance_types", "enable_ht_support"] then .ok .refuse
    else do
      let instanceTypes ← InstanceTypesParamBuilder.applicable ctx
      let enableHtSupport :=
        (EnableHtSupportParamBuilder.get ctx).getD (EnableHtSupportParamBuilder.default ctx)
      let minCpus ← minCpus ctx enableHtSupport instanceTypes
      .ok (.check (cpus ≤ minCpus) "cpus"
        ("Invalid cpus: (" ++ toString cpus ++ "). One of the instance types: [" ++
          ",".intercalate instanceTypes ++ "] do not have enough CPUs: (" ++ toString minCpus ++
          "). ht_support=" ++ boolText enableHtSupport))

def apply (built : Built) : Except Raised Built := do
  let cpus ← get ctx
  .ok { built with params.cpus := some (cpus.getD (default ctx)) }

end CpusParamBuilder

namespace MemoryAsk

def str (soca : SocaContext) (ask : MemoryAsk) : String :=
  match ask.value with
  | .finite value => SocaMemory.str ⟨value, ask.unit⟩
  | value => soca.floatText value ++ String.ofList ask.unit.suffix

def finite (ask : MemoryAsk) : Except Raised SocaMemory :=
  match ask.value with
  | .finite value => .ok ⟨value, ask.unit⟩
  | _ => .error .valueError

end MemoryAsk

namespace MemoryParamBuilder

variable (ctx : BuilderContext)

/-- `SocaMemory.resolve` with mebibytes as the unit of a number without one. -/
def resolve (value : String) : Except Raised MemoryAsk :=
  let text := stripChars (value.toList.map Char.toLower)
  let found := SocaMemory.units.find? fun unit => unit.suffix.isSuffixOf text
  let unit := found.getD .miB
  let memory := stripChars (match found with
    | some unit => stripSet unit.suffix text
    | none => text)
  match FloatValue.ofText? (String.ofList memory) with
  | some value => .ok { value, unit }
  | none =>
    if (Decimal.parseInt memory).isNone then .error (SocaMemory.invalidValue memory)
    else .error .valueError

def read : Except Raised (Option MemoryAsk) :=
  match ctx.params.getValueAsString "memory" with
  | none => .ok none
  | some memory => do
    let ask ← resolve memory
    .ok (some ask)

def get : Except Raised (Option MemoryAsk) :=
  match read ctx with
  | .error (.soca _ _) => .ok none
  | result => result

def default : Option SocaMemory := ctx.queueDefault (·.memory)

/-- `min` of sizes: the first of the smallest ones. -/
def smallest : List SocaMemory → Except Raised SocaMemory
  | [] => .error .valueError
  | size :: sizes =>
    .ok (sizes.foldl (fun least size => if size.lt least then size else least) size)

def sizeOf (instanceType : String) : Except Raised SocaMemory := do
  let ec2InstanceType ← ctx.soca.ec2InstanceType instanceType
  let mib ← Raised.required .validationError ec2InstanceType.memorySizeInMib
  .ok ⟨mib, .miB⟩

def validate (failed : List String) : Except Raised Verdict :=
  match read ctx with
  | .error (.soca _ message) =>
    .ok (.fail "memory" ("failed to parse memory value. " ++ message))
  | .error e => .error e
  | .ok none => .ok .pass
  | .ok (some ask) => ctx.unlessRestricted "memory" <|
    -- The entry of a size that is not positive is one for the CPUs.
    if !ask.value.positive then
      .ok (.fail "cpus" ("cpus must be greater than 0: (" ++ ask.str ctx.soca ++ ")"))
    else if isFailed failed ["instance_types"] then .ok .refuse
    else do
      let instanceTypes ← InstanceTypesParamBuilder.applicable ctx
      let sizes ← instanceTypes.mapM (sizeOf ctx)
      let minMemory ← smallest sizes
      let memory ← ask.finite
      .ok (.check (memory.bytes ≤ minMemory.bytes) "memory"
        ("applicable instance types do not have sufficient memory requested for this job. " ++
          "requested memory: " ++ memory.str ++ ", instance type memory (min): " ++
          minMemory.str))

def apply (built : Built) : Except Raised Built := do
  match ← get ctx with
  | some ask => .ok { built with memory := some ask }
  | none =>
    let memory := (default ctx).map fun memory => ⟨.finite memory.value, memory.unit⟩
    .ok { built with memory }

end MemoryParamBuilder

namespace GpusParamBuilder

variable (ctx : BuilderContext)

def get : Except Raised (Option ℤ) := ctx.params.getValueAsInt "gpus"

def default : Option ℤ := ctx.queueDefault (·.gpus)

def validate : Except Raised Verdict := do
  let gpus ← get ctx
  validateCount ctx "gpus" gpus

def apply (built : Built) : Except Raised Built := do
  let gpus ← get ctx
  .ok { built with params.gpus := gpus.or (default ctx) }

end GpusParamBuilder

namespace MpiprocsParamBuilder

variable (ctx : BuilderContext)

def get : Except Raised (Option ℤ) := ctx.params.getValueAsInt "mpiprocs"

def default : Option ℤ := ctx.queueDefault (·.mpiprocs)

def validate : Except Raised Verdict := do
  let mpiprocs ← get ctx
  validateCount ctx "mpiprocs" mpiprocs

def apply (built : Built) : Except Raised Built := do
  let mpiprocs ← get ctx
  .ok { built with params.mpiprocs := mpiprocs.or (default ctx) }

end MpiprocsParamBuilder

namespace BaseOsParamBuilder

variable (ctx : BuilderContext)

def get : Option String := ctx.params.getValueAsString "base_os"

def default : Option String := (ctx.queueDefault (·.baseOs)).or ctx.soca.computeNodeOs

/-- An operating system that is not allowed gives an entry, although the validation returns that it
succeeded. -/
def validate : Except Raised Verdict :=
  match get ctx with
  | none => .ok .pass
  | some baseOs => ctx.unlessRestricted "base_os" <|
    .ok { success := true
          entries := (Verdict.check (baseOs ∈ Constants.ALLOWED_BASEOS) "base_os"
            ("base_os: (" ++ baseOs ++ ") must be one of the following values: " ++
              ", ".intercalate Constants.ALLOWED_BASEOS)).entries }

def apply (built : Built) : Built :=
  { built with params.baseOs := (get ctx).or (default ctx) }

end BaseOsParamBuilder

namespace InstanceAmiParamBuilder

variable (ctx : BuilderContext)

def get : Option String := ctx.params.getValueAsString "instance_ami"

def default : Option String := (ctx.queueDefault (·.instanceAmi)).or ctx.soca.computeNodeAmi

def validate : Except Raised Verdict :=
  match get ctx with
  | none => .ok .pass
  | some instanceAmi => ctx.unlessRestricted "instance_ami" <|
    .ok (.check ("ami-".toList.isPrefixOf instanceAmi.toList) "instance_ami"
      ("invalid instance_ami: (" ++ instanceAmi ++ ")"))

def apply (built : Built) : Built :=
  { built with params.instanceAmi := (get ctx).or (default ctx) }

end InstanceAmiParamBuilder

inductive SpotPriceAsk where
  | amount (value : FloatValue)
  | text (value : String)
  deriving DecidableEq

namespace SpotPriceParamBuilder

variable (ctx : BuilderContext)

def get : Except Raised (Option SpotPriceAsk) :=
  match ctx.params.getAnyValue "spot_price" with
  | some (.amount price) =>
    .ok (some (if price.amount = 0 then .text Constants.SPOT_PRICE_AUTO
      else .amount (.finite price.amount)))
  | _ => do
    match ← ctx.params.getValueAsFloat "spot_price" with
    | some value => .ok (some (.amount value))
    | none => .ok ((ctx.params.getValueAsString "spot_price").map .text)

def default : Option SocaAmount := ctx.queueDefault (·.spotPrice)

def validate : Except Raised Verdict := do
  match ← get ctx with
  | none => .ok .pass
  | some spotPrice => ctx.unlessRestricted "spot_price" <| .ok <|
    match spotPrice with
    | .amount value => .check value.positive "spot_price"
        ("spot_price must be greater than 0: (" ++ ctx.soca.floatText value ++ ")")
    | .text value => .check (value = Constants.SPOT_PRICE_AUTO) "spot_price"
        ("invalid spot price: " ++ value ++
          ". spot_price must be (auto) or a [float] value.")

def apply (built : Built) : Except Raised Built := do
  match ← get ctx with
  | some (.amount value) => .ok { built with spotPrice := some value }
  | some (.text _) => .ok built
  | none =>
    match default ctx with
    | some price => .ok { built with spotPrice := some (.finite price.amount) }
    | none => .ok built

end SpotPriceParamBuilder

namespace SpotParamBuilder

variable (ctx : BuilderContext)

def get : Except Raised (Option Bool) := do
  match ← SpotPriceParamBuilder.get ctx with
  | some _ => .ok (some true)
  | none => .ok (ctx.params.getValueAsBool "spot")

def default : Bool := (ctx.queueDefault (·.spot)).getD Constants.DEFAULT_ENABLE_SPOT

def validate : Except Raised Verdict := do
  let enableSpot ← get ctx
  ctx.validateGiven "spot" enableSpot

def apply (built : Built) : Except Raised Built := do
  let enableSpot ← get ctx
  .ok { built with params.spot := some (enableSpot.getD (default ctx)) }

end SpotParamBuilder

namespace SpotAllocationCountParamBuilder

variable (ctx : BuilderContext)

def get : Except Raised (Option ℤ) := do
  let value ← ctx.params.getValueAsInt "spot_allocation_count"
  .ok (value.filter (· ≠ 0))

def default : Option ℤ := ctx.queueDefault (·.spotAllocationCount)

def validate (failed : List String) : Except Raised Verdict := do
  match ← get ctx with
  | none => .ok .pass
  | some value => ctx.unlessRestricted "spot_allocation_count" do
    if isFailed failed ["nodes", "spot_price"] then .ok .refuse
    else if !(evalPositiveInt "spot_allocation_count" value).success then
      .ok (evalPositiveInt "spot_allocation_count" value)
    else
      let spotPrice ← SpotPriceParamBuilder.get ctx
      if spotPrice.isNone && (SpotPriceParamBuilder.default ctx).isNone then
        .ok (.fail "spot_allocation_count"
          "spot_price is required if spot_allocation_count is provided.")
      else
        let given ← NodesParamBuilder.get ctx
        let nodes ← Raised.required .typeError given
        .ok (.check (value < nodes) "spot_allocation_count"
          ("spot_allocation_count: (" ++ toString value ++ ") must be lower than the number of " ++
            "nodes to be provisioned for this job: (" ++ toString nodes ++ ")"))

def apply (built : Built) : Except Raised Built := do
  let value ← get ctx
  .ok { built with params.spotAllocationCount := value.or (default ctx) }

end SpotAllocationCountParamBuilder

def getCapacityType (ctx : BuilderContext) (failed : List String) :
    Except Raised (Option SocaCapacityType) :=
  if isFailed failed ["nodes", "spot", "spot_allocation_count"] then .ok none
  else do
    match ← NodesParamBuilder.get ctx with
    | none => .ok none
    | some _ =>
      let spot ← SpotParamBuilder.get ctx
      if !isTrue spot then .ok (some .ondemand)
      else do
        let spotAllocationCount ← SpotAllocationCountParamBuilder.get ctx
        .ok (some (if 0 < spotAllocationCount.getD 0 then .mixed else .spot))

def usesSpotCapacity (ctx : BuilderContext) (failed : List String) : Except Raised Bool := do
  let capacityType ← getCapacityType ctx failed
  .ok (capacityType = some .spot || capacityType = some .mixed)

def SocaSpotAllocationStrategy.resolve (value : String) : Option SocaSpotAllocationStrategy :=
  let token := (stripChars value.toList).map Char.toLower
  if token ∈ ["lowest-price", "lowestprice"].map String.toList then some .lowestPrice
  else if token = "diversified".toList then some .diversified
  else if token ∈ ["capacityoptimized", "capacity-optimized", "optimized"].map String.toList then
    some .capacityOptimized
  else none

namespace SpotAllocationStrategyParamBuilder

variable (ctx : BuilderContext)

def submitted (failed : List String) : Except Raised (Option String) :=
  if isFailed failed ["spot"] then .ok none
  else do
    let spot ← SpotParamBuilder.get ctx
    if spot = some false then .ok none
    else .ok (ctx.params.getValueAsString "spot_allocation_strategy")

def get (failed : List String) : Except Raised (Option SocaSpotAllocationStrategy) := do
  let value ← submitted ctx failed
  .ok (value.bind SocaSpotAllocationStrategy.resolve)

def default (failed : List String) : Except Raised (Option SocaSpotAllocationStrategy) := do
  let usesSpot ← usesSpotCapacity ctx failed
  .ok (if usesSpot then
    (ctx.queueDefault (·.spotAllocationStrategy)).or (some .capacityOptimized)
  else none)

def validate (failed : List String) : Except Raised Verdict := do
  match ← submitted ctx failed with
  | none => .ok .pass
  | some value =>
    match SocaSpotAllocationStrategy.resolve value with
    | none => .ok (.fail "spot_allocation_strategy"
        ("Invalid spot_allocation_strategy: (None). Must be one of: " ++
          "[capacity-optimized, lowest-price, diversified]"))
    | some _ => ctx.unlessRestricted "spot_allocation_strategy" (.ok .pass)

def apply (failed : List String) (built : Built) : Except Raised Built := do
  match ← get ctx failed with
  | some strategy => .ok { built with params.spotAllocationStrategy := some strategy }
  | none =>
    let strategy ← default ctx failed
    .ok { built with params.spotAllocationStrategy := strategy }

end SpotAllocationStrategyParamBuilder

namespace ForceReservedInstancesParamBuilder

variable (ctx : BuilderContext)

def get : Option Bool := ctx.params.getEitherAsBool "force_ri" "force_reserved_instances"

def default : Bool :=
  (ctx.queueDefault (·.forceReservedInstances)).getD Constants.DEFAULT_FORCE_RESERVED_INSTANCES

def validate : Except Raised Verdict :=
  ctx.validateGiven "force_reserved_instances" (get ctx)

def apply (built : Built) : Built :=
  { built with params.forceReservedInstances := some ((get ctx).getD (default ctx)) }

end ForceReservedInstancesParamBuilder

end Idea

import Idea.Data.Dict
import Idea.Model.Memory

/-! # Submitted job parameters

The parameters of a job are texts, numbers and flags by name. A builder for each parameter reads
them, together with the profile of the queue and what is known of the cluster, checks what was
submitted and fills in defaults.
-/

namespace Idea

/-- A floating point number. Finite ones are exact here. -/
inductive FloatValue where
  | finite (value : ℚ)
  | infinite (negative : Bool)
  | nan
  deriving DecidableEq

namespace FloatValue

def bound : ℚ := 2 ^ 1024 - 2 ^ 970

def ofRat (value : ℚ) : FloatValue :=
  if bound ≤ value then .infinite false
  else if value ≤ -bound then .infinite true
  else .finite value

/-- `float` of a text. -/
def ofText? (text : String) : Option FloatValue :=
  match floatOfText text with
  | none => none
  | some (.finite value) => some (ofRat value)
  | some .special =>
    let (negative, rest) := Decimal.takeSign (stripChars text.toList)
    if rest.map Char.toLower = "nan".toList then some .nan else some (.infinite negative)

/-- `int` of a float. -/
def toInt : FloatValue → Except Raised ℤ
  | .finite value => .ok (SocaMemory.truncate value)
  | _ => .error .valueError

/-- `float` of an integer. -/
def ofInt (n : ℤ) : Except Raised ℚ :=
  if bound ≤ (n : ℚ) || (n : ℚ) ≤ -bound then .error .valueError else .ok n

def positive : FloatValue → Bool
  | .finite value => 0 < value
  | .infinite negative => !negative
  | .nan => false

end FloatValue

/-- The value of a parameter. A price and a size may be dictionaries. -/
inductive ParamValue where
  | text (value : String)
  | int (value : ℤ)
  | float (value : ℚ)
  | bool (value : Bool)
  | list (items : List String)
  | amount (value : SocaAmount)
  | memory (value : SocaMemory)
  deriving DecidableEq

namespace ParamValue

def isPresent : ParamValue → Bool
  | .text value => !isEmptyString (some value)
  | .list items => items ≠ []
  | _ => true

/-- `ModelUtils.get_as_int` -/
def asInt : ParamValue → Except Raised (Option ℤ)
  | .text value =>
    match intOfText value with
    | some n => .ok (some n)
    | none =>
      match FloatValue.ofText? value with
      | some number => do
        let n ← number.toInt
        .ok (some n)
      | none => .ok none
  | .int n => .ok (some n)
  | .float value => .ok (some (SocaMemory.truncate value))
  | .bool value => .ok (some (if value then 1 else 0))
  | _ => .ok none

/-- `ModelUtils.get_as_float`. An integer that is too large for a float raises. -/
def asFloat : ParamValue → Except Raised (Option FloatValue)
  | .text value => .ok (FloatValue.ofText? value)
  | .int n => do
    let value ← FloatValue.ofInt n
    .ok (some (.finite value))
  | .float value => .ok (some (.finite value))
  | .bool value => .ok (some (.finite (if value then 1 else 0)))
  | _ => .ok none

/-- `ModelUtils.get_as_bool` -/
def asBool : ParamValue → Option Bool
  | .text value => textAsBool value
  | .int n => some (n ≠ 0)
  | .bool value => some value
  | _ => none

/-- `ModelUtils.get_as_string`, given how floats, lists and dictionaries are written. -/
def asString (repr : ParamValue → String) : ParamValue → Option String
  | .text value => getAsString value
  | .int n => some (toString n)
  | .bool value => some (boolText value)
  | value => some (repr value)

end ParamValue

/-- The submitted parameters, and the file system if it is described by a dictionary of its own;
`repr` is how floats, lists and dictionaries are written. -/
structure SubmittedParams where
  values : Dict String ParamValue
  repr : ParamValue → String
  fsxLustre : Option SocaFSxLustreConfig := none

namespace SubmittedParams

variable (params : SubmittedParams) (key : String)

def getAnyValue : Option ParamValue := (params.values.get? key).filter (·.isPresent)

def getValueAsInt : Except Raised (Option ℤ) :=
  match params.getAnyValue key with
  | none => .ok none
  | some value => value.asInt

def getValueAsFloat : Except Raised (Option FloatValue) :=
  match params.getAnyValue key with
  | none => .ok none
  | some value => value.asFloat

def getValueAsBool : Option Bool := (params.getAnyValue key).bind ParamValue.asBool

def getValueAsString : Option String :=
  (params.getAnyValue key).bind (ParamValue.asString params.repr)

def getEitherAsInt (other : String) : Except Raised (Option ℤ) := do
  match ← params.getValueAsInt key with
  | some n => .ok (some n)
  | none => params.getValueAsInt other

def getEitherAsBool (other : String) : Option Bool :=
  (params.getValueAsBool key).or (params.getValueAsBool other)

def getEither (other : String) : Option ParamValue :=
  (params.getAnyValue key).or (params.getAnyValue other)

end SubmittedParams

def splitPlus (text : String) : List String := (text.toList.splitOn '+').map String.ofList

theorem splitPlus_ne_nil (text : String) : splitPlus text ≠ [] := by
  simp [splitPlus, List.splitOn_ne_nil]

structure EC2InstanceType where
  defaultCores : Option ℤ := none
  defaultVcpus : Option ℤ := none
  memorySizeInMib : Option ℤ := none
  efaSupported : Option Bool := none
  placementGroupStrategies : Option (List String) := none

/-- The name of a cluster that has been set up. Its stacks carry it in their names. -/
structure ClusterName where
  text : String
  plain : ∀ c ∈ text.toList, c.isAlphanum ∨ c = '-'

/-- The settings of the cluster, and what is asked of AWS and of the libraries: `random.choice` of
a list that is not empty, `literal_eval` and how a float is written. -/
structure SocaContext where
  provider : String
  clusterName : ClusterName
  privateSubnets : List String
  computeNodeOs : Option String
  computeNodeAmi : Option String
  computeNodeSecurityGroupIds : List String
  computeNodeInstanceProfileArn : Option String
  enableSolutionMetrics : Bool
  allInstanceTypes : List String
  ec2InstanceType : String → Except Raised EC2InstanceType
  isSecurityGroupValid : String → Except Raised Bool
  instanceProfileArn : String → Except Raised (Option String)
  /-- The code of the error that keeps a bucket from being read. -/
  s3BucketError : String → Except Raised (Option String)
  choice : List String → String
  /-- The dictionary that a text is a literal of, or the error. -/
  literalEval : String → Except String (List (String × String))
  floatText : FloatValue → String

structure JobValidationResultEntry where
  errorCode : String
  message : String
  deriving DecidableEq

/-- What a builder returns from a validation and the entries that it adds. -/
structure Verdict where
  success : Bool
  entries : List JobValidationResultEntry := []
  deriving DecidableEq

namespace Verdict

def pass : Verdict := { success := true }

def refuse : Verdict := { success := false }

def fail (param message : String) : Verdict :=
  { success := false, entries := [{ errorCode := param, message }] }

def check (condition : Bool) (param message : String) : Verdict :=
  if condition then pass else fail param message

def both (first second : Verdict) : Verdict :=
  { success := first.success && second.success, entries := first.entries ++ second.entries }

end Verdict

def providerNames : List (String × String) :=
  [("instance_types", "instance_type"), ("force_reserved_instances", "force_ri"),
    ("subnet_ids", "subnet_id"), ("keep_ebs_volumes", "keep_ebs"),
    ("root_storage_size", "root_size"), ("scratch_storage_size", "scratch_size"),
    ("scratch_storage_iops", "scratch_iops"), ("enable_efa_support", "efa_support"),
    ("enable_ht_support", "ht_support"), ("enable_placement_group", "placement_group"),
    ("enable_system_metrics", "system_metrics"),
    ("enable_anonymous_metrics", "anonymous_metrics")]

structure BuilderContext where
  params : SubmittedParams
  queue : Option HpcQueueProfile
  soca : SocaContext

namespace BuilderContext

variable (ctx : BuilderContext)

def queueManagement : Option SocaQueueManagementParams :=
  ctx.queue.bind (·.queueManagementParams)

def defaultJobParams : Option SocaJobParams := ctx.queue.bind (·.defaultJobParams)

def queueDefault {α : Type} (field : SocaJobParams → Option α) : Option α :=
  ctx.defaultJobParams.bind field

def paramNames (param : String) : List String :=
  match providerNames.lookup param with
  | some providerName =>
    if ctx.soca.provider = "openpbs" then [param, providerName] else [param]
  | none => [param]

def restrictedName? (param : String) : Option String := do
  let queueManagement ← ctx.queueManagement
  let restricted ← queueManagement.restrictedParameters
  (ctx.paramNames param).find? fun name => name ∈ restricted

def queueName : String := (ctx.queue.bind (·.name)).getD "None"

def unlessRestricted (param : String) (verdict : Except Raised Verdict) : Except Raised Verdict :=
  match ctx.restrictedName? param with
  | some name => .ok (.fail name (name ++ " is restricted for queue: (" ++ ctx.queueName ++
      ") and cannot be submitted as a job parameter by the user."))
  | none => verdict

def validateGiven {α : Type} (param : String) (value : Option α) : Except Raised Verdict :=
  match value with
  | none => .ok .pass
  | some _ => ctx.unlessRestricted param (.ok .pass)

end BuilderContext

def isFailed (failed params : List String) : Bool := params.any (· ∈ failed)

def evalPositiveNonzeroInt (param : String) (value : ℤ) : Verdict :=
  .check (0 < value) param (param ++ " must be greater than 0: (" ++ toString value ++ ")")

def evalPositiveInt (param : String) (value : ℤ) : Verdict :=
  .check (0 ≤ value) param (param ++ " must be a positive number: (" ++ toString value ++ ")")

/-- A cluster with two private subnets and one instance type, which supports everything. -/
def sampleSoca : SocaContext where
  provider := "openpbs"
  clusterName := ⟨"idea-test", by simp⟩
  privateSubnets := ["subnet-a", "subnet-b"]
  computeNodeOs := some "rhel9"
  computeNodeAmi := some "ami-1"
  computeNodeSecurityGroupIds := ["sg-1"]
  computeNodeInstanceProfileArn := some "arn:aws:iam::1:instance-profile/p"
  enableSolutionMetrics := true
  allInstanceTypes := ["c5n.large"]
  ec2InstanceType _ := .ok
    { defaultCores := some 2, defaultVcpus := some 4, memorySizeInMib := some 4096,
      efaSupported := some true, placementGroupStrategies := some ["cluster"] }
  isSecurityGroupValid _ := .ok true
  instanceProfileArn _ := .ok none
  s3BucketError _ := .ok none
  choice subnets := subnets.headD ""
  literalEval _ := .ok []
  floatText _ := ""

end Idea

import Idea.JobParams.Storage

/-! # The builders for the network

The placement group, EFA, the subnets, the security groups and the instance profile of a job. The
first three read each other's parameters and defaults.
-/

namespace Idea

namespace Constants

def DEFAULT_ENABLE_EFA_SUPPORT : Bool := false
def DEFAULT_ENABLE_PLACEMENT_GROUP : Bool := false
def EC2_PLACEMENT_GROUP_STRATEGY_CLUSTER : String := "cluster"
def MAX_SECURITY_GROUPS : ℕ := 4

end Constants

namespace SubnetIdsParamBuilder

variable (ctx : BuilderContext)

/-- `ModelUtils.is_int` of a value, and the integer. -/
def asCount : ParamValue → Option ℤ
  | .text value => intOfText value
  | .int n => some n
  | .float value => some (SocaMemory.truncate value)
  | .bool value => some (if value then 1 else 0)
  | _ => none

def privateSubnets : Except Raised (List String) :=
  if ctx.soca.privateSubnets = [] then .error .typeError else .ok ctx.soca.privateSubnets

def read : Except Raised (Option (List String)) :=
  match ctx.params.getEither "subnet_id" "subnet_ids" with
  | none => .ok none
  | some value =>
    match asCount value, value with
    | some n, _ => do
      let subnets ← privateSubnets ctx
      if 0 < n ∧ n ≤ subnets.length then .ok (some (subnets.take n.toNat))
      else .error (.soca ErrorCodes.INVALID_PARAMS
        ("subnet_ids value must be between 1 and " ++ toString subnets.length))
    | none, .list items => .ok (some items)
    | none, .text value => .ok (some (splitPlus value))
    | none, _ => .ok none

def get : Except Raised (Option (List String)) :=
  match read ctx with
  | .error (.soca _ _) => .ok none
  | result => result

end SubnetIdsParamBuilder

namespace EnablePlacementGroupParamBuilder

variable (ctx : BuilderContext)

def get : Option Bool := ctx.params.getEitherAsBool "placement_group" "enable_placement_group"

/-- A single node, several subnets and spot instances rule a placement group out. -/
def default (failed : List String) : Except Raised Bool := do
  let nodes ← NodesParamBuilder.get ctx
  if nodes = some 1 then .ok false
  else do
    let subnetIds ← SubnetIdsParamBuilder.get ctx
    if subnetIds.any fun subnetIds => 1 < subnetIds.length then .ok false
    else do
      let usesSpot ← usesSpotCapacity ctx failed
      .ok (if usesSpot then false
        else (ctx.queueDefault (·.enablePlacementGroup)).getD
          Constants.DEFAULT_ENABLE_PLACEMENT_GROUP)

def supports (instanceType : String) : Except Raised Bool := do
  let ec2InstanceType ← ctx.soca.ec2InstanceType instanceType
  .ok (Constants.EC2_PLACEMENT_GROUP_STRATEGY_CLUSTER ∈
    ec2InstanceType.placementGroupStrategies.getD [])

def checkInstanceTypes : Except Raised Verdict := do
  let instanceTypes ← InstanceTypesParamBuilder.applicable ctx
  let supported ← instanceTypes.mapM (supports ctx)
  .ok (.check (supported.all id) "enable_placement_group"
    ("Placement group is enabled, but given instance types: [" ++
      ",".intercalate (((instanceTypes.zip supported).filter (!·.2)).map Prod.fst) ++
      "] do not support placement group strategy: " ++
      Constants.EC2_PLACEMENT_GROUP_STRATEGY_CLUSTER))

def validate (failed : List String) : Except Raised Verdict :=
  match get ctx with
  | some enabled => ctx.unlessRestricted "enable_placement_group" <|
    if enabled then checkInstanceTypes ctx else .ok .pass
  | none =>
    if isFailed failed ["nodes", "subnet_ids", "instance_types"] then .ok .refuse
    else do
      let enabled ← default ctx failed
      if enabled then checkInstanceTypes ctx else .ok .pass

def apply (failed : List String) (built : Built) : Except Raised Built :=
  match get ctx with
  | some enabled => .ok { built with params.enablePlacementGroup := some enabled }
  | none => do
    let enabled ← default ctx failed
    .ok { built with params.enablePlacementGroup := some enabled }

end EnablePlacementGroupParamBuilder

namespace EnableEfaParamBuilder

variable (ctx : BuilderContext)

def get : Option Bool := ctx.params.getEitherAsBool "efa_support" "enable_efa_support"

def default : Bool :=
  (ctx.queueDefault (·.enableEfaSupport)).getD Constants.DEFAULT_ENABLE_EFA_SUPPORT

def supports (instanceType : String) : Except Raised Bool := do
  let ec2InstanceType ← ctx.soca.ec2InstanceType instanceType
  .ok (isTrue ec2InstanceType.efaSupported)

def checkInstanceTypes : Except Raised Verdict := do
  let given ← InstanceTypesParamBuilder.get ctx
  let instanceTypes ← Raised.required .typeError
    (given.or (InstanceTypesParamBuilder.default ctx))
  let supported ← instanceTypes.mapM (supports ctx)
  .ok (.check (supported.all id) "enable_efa_support"
    ("You have requested EFA support but given instance types [" ++
      ", ".intercalate (((instanceTypes.zip supported).filter (!·.2)).map Prod.fst) ++
      "] do not support EFA."))

def validate (failed : List String) : Except Raised Verdict :=
  ctx.unlessRestricted "enable_efa_support" <|
    if !(get ctx).getD (default ctx) then .ok .pass
    else if isFailed failed ["instance_types", "spot_price"] then .ok .refuse
    else checkInstanceTypes ctx

def apply (built : Built) : Built :=
  { built with params.enableEfaSupport := some ((get ctx).getD (default ctx)) }

end EnableEfaParamBuilder

namespace SubnetIdsParamBuilder

variable (ctx : BuilderContext)

def validate (failed : List String) : Except Raised Verdict :=
  match read ctx with
  | .error (.soca _ message) => .ok (.fail "subnet_ids" message)
  | .error e => .error e
  | .ok none => .ok .pass
  | .ok (some subnetIds) => ctx.unlessRestricted "subnet_ids" <|
    if isFailed failed ["enable_placement_group", "enable_efa_support"] then .ok .refuse
    else
      .ok (.both
        (.check (!(isTrue (EnablePlacementGroupParamBuilder.get ctx) && 1 < subnetIds.length))
          "subnet_ids"
          "When placement group is enabled, no. of subnet_ids cannot be more than (1).")
        (.check (!(isTrue (EnableEfaParamBuilder.get ctx) && 1 < subnetIds.length)) "subnet_ids"
          "When EFA support is enabled, no. of subnet_ids cannot be more than (1)."))

/-- The subnets of the queue, or else of the cluster: all of them where that is fine for the
capacity, and one of them otherwise. -/
def candidates (failed : List String) (nodes : ℤ) : Except Raised (List String) :=
  match (ctx.queueDefault (·.subnetIds)).filter (· ≠ []) with
  | some subnetIds => .ok subnetIds
  | none => do
    let usesSpot ← usesSpotCapacity ctx failed
    let subnets ← privateSubnets ctx
    .ok (if usesSpot || nodes = 1 then subnets else [ctx.soca.choice subnets])

/-- Of several candidates one is left for FSx for Lustre, and for EFA and a placement group if they
are asked for. -/
def default (failed : List String) : Except Raised (List String) := do
  let given ← NodesParamBuilder.get ctx
  let nodes := given.getD (NodesParamBuilder.default ctx)
  let subnetIds ← candidates ctx failed nodes
  if subnetIds.length = 1 then .ok subnetIds
  else do
    let fsxLustre ← FsxLustreParamBuilder.get ctx
    if isTrue (fsxLustre.bind (·.enabled)) then do
      let first ← Raised.required .indexError subnetIds.head?
      .ok [first]
    else if isTrue (EnableEfaParamBuilder.get ctx) && 1 < subnetIds.length && 1 < nodes then
      .ok [ctx.soca.choice subnetIds]
    else if isTrue (EnablePlacementGroupParamBuilder.get ctx) && 1 < subnetIds.length then
      .ok [ctx.soca.choice subnetIds]
    else .ok subnetIds

def apply (failed : List String) (built : Built) : Except Raised Built := do
  let given ← get ctx
  match given.filter (· ≠ []) with
  | some subnetIds => .ok { built with params.subnetIds := some subnetIds }
  | none =>
    let subnetIds ← default ctx failed
    .ok { built with params.subnetIds := some subnetIds }

end SubnetIdsParamBuilder

namespace SocaQueueManagementParams

def isAllowedSecurityGroup (params : SocaQueueManagementParams) (securityGroup : String) : Bool :=
  isEmptyList params.allowedSecurityGroups ||
    securityGroup ∈ params.allowedSecurityGroups.getD []

def isAllowedInstanceProfile (params : SocaQueueManagementParams) (instanceProfile : String) :
    Bool :=
  isEmptyList params.allowedInstanceProfiles ||
    instanceProfile ∈ params.allowedInstanceProfiles.getD []

end SocaQueueManagementParams

namespace SecurityGroupsParamBuilder

variable (ctx : BuilderContext)

def get : Option (List String) :=
  match ctx.params.getAnyValue "security_groups" with
  | some (.list items) => some items
  | some (.text value) => some (splitPlus value)
  | _ => none

def default : List String :=
  ((ctx.queueDefault (·.securityGroups)).filter (· ≠ [])).getD ctx.soca.computeNodeSecurityGroupIds

inductive Finding where
  | fine | blocked | invalid
  deriving DecidableEq

def find (securityGroup : String) : Except Raised Finding :=
  if !"sg-".toList.isPrefixOf securityGroup.toList then .ok .invalid
  else if ctx.queueManagement.any fun params => !params.isAllowedSecurityGroup securityGroup then
    .ok .blocked
  else do
    let valid ← ctx.soca.isSecurityGroupValid securityGroup
    .ok (if valid then .fine else .invalid)

def validate : Except Raised Verdict :=
  match get ctx with
  | none => .ok .pass
  | some securityGroups => ctx.unlessRestricted "security_groups" <|
    if Constants.MAX_SECURITY_GROUPS < securityGroups.length then
      .ok (.fail "security_groups"
        ("security_groups cannot be more than " ++ toString Constants.MAX_SECURITY_GROUPS))
    else do
      let findings ← securityGroups.mapM (find ctx)
      let named (finding : Finding) : List String :=
        ((securityGroups.zip findings).filter (·.2 = finding)).map Prod.fst
      .ok (.both
        (.check (.blocked ∉ findings) "security_groups"
          ("Security groups [" ++ ",".intercalate (named .blocked) ++
            "] are not authorized for queue: (" ++ ctx.queueName ++
            "). List of valid security groups for this queue are: [" ++
            ", ".intercalate ((ctx.queueManagement.bind (·.allowedSecurityGroups)).getD []) ++
            "]."))
        (.check (.invalid ∉ findings) "security_groups"
          ("Security groups not found or invalid: [" ++ ", ".intercalate (named .invalid) ++ "]")))

/-- The order of a set is left open by the source; here it is the order of first occurrence. -/
def apply (built : Built) : Built :=
  let securityGroups := match get ctx with
    | none => default ctx
    | some additional => (default ctx ++ additional).eraseDups
  { built with params.securityGroups := some securityGroups }

end SecurityGroupsParamBuilder

namespace InstanceProfileParamBuilder

variable (ctx : BuilderContext)

def get : Option String := ctx.params.getValueAsString "instance_profile"

def default : Option String :=
  (ctx.queueDefault (·.instanceProfile)).or ctx.soca.computeNodeInstanceProfileArn

def isArn (instanceProfile : String) : Bool := "arn:".toList.isPrefixOf instanceProfile.toList

def nameOf (instanceProfile : String) : Except Raised String :=
  if isArn instanceProfile then
    Raised.required .indexError (instanceProfile.splitOn ":instance-profile/")[1]?
  else .ok instanceProfile

def validate : Except Raised Verdict :=
  match get ctx with
  | none => .ok .pass
  | some instanceProfile => ctx.unlessRestricted "instance_profile" <|
    if ctx.queueManagement.any fun params => !params.isAllowedInstanceProfile instanceProfile then
      .ok (.fail "instance_profile"
        ("IAM instance profile: (" ++ instanceProfile ++ ") is not authorized for queue: (" ++
          ctx.queueName ++ "). List of valid instance profiles for this queue are: [" ++
          ", ".intercalate ((ctx.queueManagement.bind (·.allowedInstanceProfiles)).getD []) ++
          "]."))
    else do
      let name ← nameOf instanceProfile
      let arn ← ctx.soca.instanceProfileArn name
      .ok (.check arn.isSome "instance_profile" ("instance_profile not found: (" ++ name ++ ")"))

def getArn (instanceProfile : String) : Except Raised String := do
  match ← ctx.soca.instanceProfileArn instanceProfile with
  | some arn => .ok arn
  | none => .error (.soca ErrorCodes.GENERAL_ERROR
      ("Instance profile not found: (" ++ instanceProfile ++ ")"))

def arnOf (instanceProfile : String) : Except Raised String :=
  if isArn instanceProfile then .ok instanceProfile else getArn ctx instanceProfile

def apply (built : Built) : Except Raised Built := do
  let instanceProfile ← Raised.required .attributeError ((get ctx).or (default ctx))
  let arn ← arnOf ctx instanceProfile
  .ok { built with params.instanceProfile := some arn }

end InstanceProfileParamBuilder

end Idea

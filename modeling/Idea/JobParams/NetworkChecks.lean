import Idea.JobParams.CapacityChecks

/-! # When the builders for the network return

The subnets, the placement group, EFA, the security groups and the instance profile.
-/

namespace Idea

variable {ctx : BuilderContext} {failed : List String}

open BuilderContext
open InstanceTypesParamBuilder (AllApplicable)

namespace SubnetIdsParamBuilder

/-- A number of subnets is only submitted where the cluster has private subnets. -/
def Readable (ctx : BuilderContext) : Prop :=
  ∀ value, ctx.params.getEither "subnet_id" "subnet_ids" = some value →
    (asCount value).isSome = true → ctx.soca.privateSubnets ≠ []

end SubnetIdsParamBuilder

namespace EnablePlacementGroupParamBuilder

/-- Every instance type is known where a placement group is asked for. -/
def AskedComparable (ctx : BuilderContext) : Prop :=
  get ctx = some true → ctx.MaySubmit "enable_placement_group" → AllApplicable ctx fun _ => True

end EnablePlacementGroupParamBuilder

namespace EnableEfaParamBuilder

/-- Every instance type is known where EFA is asked for or the default. -/
def Comparable (ctx : BuilderContext) (typesFailed priceFailed : Prop) : Prop :=
  ctx.MaySubmit "enable_efa_support" → (get ctx).getD (default ctx) = true →
    ¬ typesFailed → ¬ priceFailed →
      ∃ given instanceTypes, InstanceTypesParamBuilder.get ctx = .ok given ∧
        given.or (InstanceTypesParamBuilder.default ctx) = some instanceTypes ∧
          ∀ instanceType ∈ instanceTypes, Succeeds (ctx.soca.ec2InstanceType instanceType)

end EnableEfaParamBuilder

namespace SecurityGroupsParamBuilder

/-- The lookup of each security group that the queue allows returns. -/
def Checkable (ctx : BuilderContext) : Prop :=
  ctx.MaySubmit "security_groups" → ∀ securityGroups, get ctx = some securityGroups →
    securityGroups.length ≤ Constants.MAX_SECURITY_GROUPS →
      ∀ securityGroup ∈ securityGroups, "sg-".toList.isPrefixOf securityGroup.toList = true →
        (∀ params, ctx.queueManagement = some params →
          params.isAllowedSecurityGroup securityGroup = true) →
        Succeeds (ctx.soca.isSecurityGroupValid securityGroup)

end SecurityGroupsParamBuilder

namespace InstanceProfileParamBuilder

/-- An ARN has the mark of an instance profile, and the lookup of an allowed one returns. -/
def Checkable (ctx : BuilderContext) : Prop :=
  ctx.MaySubmit "instance_profile" → ∀ instanceProfile, get ctx = some instanceProfile →
    (∀ params, ctx.queueManagement = some params →
      params.isAllowedInstanceProfile instanceProfile = true) →
    ∃ name, nameOf instanceProfile = .ok name ∧ Succeeds (ctx.soca.instanceProfileArn name)

end InstanceProfileParamBuilder

end Idea

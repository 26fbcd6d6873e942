import Idea.Data.Dict
import Idea.Model.Instance

/-! # Stacks and the groups that launch instances

A stack holds one spot fleet or one auto scaling group. Its tags say whether it is shared by
jobs.
-/

namespace Idea

inductive StackStatus where
  | createInProgress | createFailed | createComplete
  | rollbackInProgress | rollbackFailed | rollbackComplete
  | deleteInProgress | deleteFailed | deleteComplete
  | updateInProgress | updateCompleteCleanupInProgress | updateComplete | updateFailed
  | updateRollbackInProgress | updateRollbackFailed | updateRollbackCompleteCleanupInProgress
  | updateRollbackComplete
  | reviewInProgress
  | importInProgress | importComplete
  | importRollbackInProgress | importRollbackFailed | importRollbackComplete
  deriving DecidableEq, Repr

def StackStatus.inProgress (status : StackStatus) : Bool :=
  status ∈ [createInProgress, rollbackInProgress, deleteInProgress, updateInProgress,
    updateCompleteCleanupInProgress, updateRollbackInProgress,
    updateRollbackCompleteCleanupInProgress, reviewInProgress, importInProgress,
    importRollbackInProgress]

/-- A stack; `creationTime` is in microseconds. -/
structure CloudFormationStack where
  stackId : Option String := none
  stackStatus : Option StackStatus := none
  creationTime : Option ℤ := none
  tags : Option (List (String × String)) := none

namespace CloudFormationStack

variable (self : CloudFormationStack)

def socaKeepForever : Bool := getTextAsBool (findTag self.tags Tag.KEEP_FOREVER) false

def socaTerminateWhenIdle : ℤ := getTextAsInt (findTag self.tags Tag.TERMINATE_WHEN_IDLE) 0

def socaJobGroup : Option String := findTag self.tags Tag.JOB_GROUP

def socaJobQueue : Option String := findTag self.tags Tag.JOB_QUEUE

end CloudFormationStack

structure StackResource where
  resourceType : Option String
  physicalResourceId : Option String

structure CloudFormationStackResources where
  stackResources : Option (List StackResource) := none

namespace CloudFormationStackResources

variable (self : CloudFormationStackResources)

def findResource (resourceType : String) : Option String :=
  ((self.stackResources.getD []).find? fun resource =>
    resource.resourceType = some resourceType).bind StackResource.physicalResourceId

def getSpotFleetRequestId : Option String := self.findResource "AWS::EC2::SpotFleet"

def getAutoScalingGroupName : Option String :=
  self.findResource "AWS::AutoScaling::AutoScalingGroup"

end CloudFormationStackResources

/-- The weights of instance types, where a weight may be missing from a type's entry. -/
abbrev WeightedCapacities : Type := Dict (Option String) (Option ℤ)

structure EC2SpotFleetRequestConfig where
  fulfilledCapacity : ℤ
  targetCapacity : ℤ
  weightedCapacities : Option WeightedCapacities := none
  activityStatus : Option String := none
  spotFleetRequestState : Option String := none

structure AutoScalingGroup where
  desiredCapacity : ℤ
  weightedCapacities : Option WeightedCapacities := none

end Idea

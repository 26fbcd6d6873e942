import Idea.Model.Job

/-! # Creating a queue profile

What the API checks before it stores a profile. The checks of the default job parameters are
those of a job submission, and stand here for any predicate.
-/

namespace Idea.HpcQueueProfilesService

def withStackUuid (uuid : String) (queueProfile : HpcQueueProfile) : HpcQueueProfile :=
  if getAsBool queueProfile.keepForever false && queueProfile.stackUuid.isNone then
    { queueProfile with stackUuid := some uuid }
  else queueProfile

def checkTerminateWhenIdle (queueProfile : HpcQueueProfile) : Except Raised Unit :=
  match queueProfile.scalingMode, queueProfile.terminateWhenIdle with
  | some .batch, none => .error (invalidParams
      "queue_profile.terminate_when_idle must be required and > 0 when scaling_mode == BATCH")
  | some .batch, some terminateWhenIdle =>
    if terminateWhenIdle ≤ 0 then .error (invalidParams
      "queue_profile.terminate_when_idle must be required and > 0 when scaling_mode == BATCH")
    else .ok ()
  | some .singleJob, some terminateWhenIdle =>
    if terminateWhenIdle > 0 then .error (invalidParams
      "queue_profile.terminate_when_idle must be 0 when scaling_mode == SINGLE_JOB")
    else .ok ()
  | _, _ => .ok ()

def validateAndSanitizeQueueProfile (jobParamsValid : SocaJobParams → Bool) (uuid : String)
    (queueProfile : HpcQueueProfile) : Except Raised HpcQueueProfile :=
  if isEmptyString queueProfile.name then
    .error (invalidParams "queue_profile.name is required")
  else if isEmptyList queueProfile.queues then
    .error (invalidParams "queue_profile.queues is required")
  else if queueProfile.scalingMode.isNone && !getAsBool queueProfile.keepForever false then
    .error (invalidParams "queue_profile.scaling_mode is required")
  else if queueProfile.queueMode.isNone then
    .error (invalidParams "queue_profile.queue_mode is required")
  else if isEmptyList queueProfile.projects then
    .error (invalidParams "queue_profile.projects[] is required")
  else if (queueProfile.projects.getD []).any fun project => isEmptyString project.projectId then
    .error (invalidParams "queue_profile.projects[] is required")
  else do
    checkTerminateWhenIdle queueProfile
    if jobParamsValid (queueProfile.defaultJobParams.getD {}) then
      .ok (withStackUuid uuid queueProfile)
    else .error (.soca ErrorCodes.VALIDATION_FAILED "Job Parameter validation failed")

def createQueueProfile (jobParamsValid : SocaJobParams → Bool) (nameExists : String → Bool)
    (uuid : String) (queueProfile : HpcQueueProfile) : Except Raised HpcQueueProfile := do
  let queueProfile ← validateAndSanitizeQueueProfile jobParamsValid uuid queueProfile
  let name := queueProfile.name.getD "None"
  if nameExists name then
    .error (invalidParams ("queue profile already exists for queue profile name: " ++ name))
  else .ok { queueProfile with enabled := some false }

variable {jobParamsValid : SocaJobParams → Bool} {nameExists : String → Bool} {uuid : String}
  {request queueProfile : HpcQueueProfile}

end Idea.HpcQueueProfilesService

import Idea.Queue.Balance

/-! # The loop of get

A call of `get` is a run of its turns, so whatever holds along runs holds across calls. When
the job cache answers with the job it was asked for, a put on the way only refreshes an
entry: no turn blocks, and each turn that goes on has made the priority queues smaller. Then
one turn more than there are items is enough for the call to end.
-/

namespace Idea

namespace JobProvisioningQueue

variable {self self' : JobProvisioningQueue}

/-- The job cache answers with the job it was asked for. -/
def Keyed (ctx : GetContext) : Prop :=
  ∀ jobId job, ctx.getJob jobId = .ok (some job) → job.jobId = some jobId

theorem put_of_mem (ctx : PutContext) {job : SocaJob} {jobId : String}
    (hid : job.jobId = some jobId) (hm : jobId ∈ self.queuedJobs.keys) :
    ∃ result, self.put ctx job = some result ∧
      ∀ after, result = .ok after → after.queue = self.queue := by
  cases hput : self.put ctx job with
  | none =>
    obtain ⟨queuedJob, hg⟩ := Dict.exists_get?_of_mem_keys hm
    have hfind : self.findQueuedJob job = some (jobId, queuedJob) := by
      simp [findQueuedJob, hid, hg]
    unfold put at hput
    simp only [hfind] at hput
    split at hput
    · simp at hput
    · split at hput
      · simp at hput
      · split at hput <;> simp at hput
  | some result =>
    refine ⟨result, rfl, fun after ha => ?_⟩
    subst ha
    obtain ⟨_, ⟨hq, _⟩ | ⟨jobId', hid', hm', _⟩⟩ := put_cases hput
    · exact hq
    · obtain rfl := Option.some.inj (hid.symm.trans hid')
      exact absurd hm hm'

theorem checkLimits_of_mem (ctx : GetContext) {job : SocaJob} {jobId : String}
    (hid : job.jobId = some jobId) (hm : jobId ∈ self.queuedJobs.keys) :
    ∃ after result, self.checkLimits ctx job = some (after, result) ∧
      after.queue = self.queue := by
  unfold checkLimits
  split
  · exact ⟨_, _, rfl, rfl⟩
  · rename_i limit _
    obtain ⟨result, hput, hq⟩ := put_of_mem ctx.toPutContext hid hm
    simp only [notOk, hput, Option.map_some]
    cases result with
    | error e => exact ⟨_, _, rfl, rfl⟩
    | ok after =>
      dsimp only
      split <;> exact ⟨_, _, rfl, hq after rfl⟩
  · exact ⟨_, _, rfl, rfl⟩

end JobProvisioningQueue

end Idea

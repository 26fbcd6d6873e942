import Mathlib.Data.Prod.Lex
import Idea.Queue.Provisioning

/-! # Priorities and ranks

In FIFO mode the jobs of a profile rank by the position of their queue in the profile, then by
their queue time and then by their id. The priority of a job is a single number: its queue time
times the position found for its queue, plus its id. The position found is that of the first
queue for every job, so the number orders jobs by the sum of queue time and id alone.
-/

namespace Idea

namespace JobProvisioningQueue

variable {self : JobProvisioningQueue} {ctx : PutContext} {queues : List String}
  {job job' : SocaJob} {position position' : ℕ} {timestamp timestamp' jobId jobId' : ℤ}

abbrev Rank : Type := ℕ ×ₗ (ℤ ×ₗ ℤ)

def rank (position : ℕ) (timestamp jobId : ℤ) : Rank :=
  toLex (position, toLex (timestamp, jobId))

theorem rank_lt_rank : rank position timestamp jobId < rank position' timestamp' jobId' ↔
    position < position' ∨
      position = position' ∧ (timestamp < timestamp' ∨ timestamp = timestamp' ∧ jobId < jobId') := by
  simp only [rank, Prod.Lex.toLex_lt_toLex]

/-- A job with a numeric id, in the queue at a position of the list. -/
structure Arrives (queues : List String) (job : SocaJob) (position : ℕ)
    (timestamp jobId : ℤ) : Prop where
  queue : ∃ queueName ∈ queues, job.queue = some queueName ∧ queues.idxOf queueName = position
  queueTime : job.queueTime = some timestamp
  jobId : job.tryExtractJobIdAsInt = some jobId

/-- Both jobs have a priority, and the priorities are ordered as the ranks are. -/
def FollowsRanks (self : JobProvisioningQueue) (ctx : PutContext) (job job' : SocaJob)
    (r r' : Rank) : Prop :=
  ∃ priority priority', self.getJobPriority ctx job = .ok priority ∧
    self.getJobPriority ctx job' = .ok priority' ∧
    (priority < priority' ↔ r < r') ∧ (priority' < priority ↔ r' < r)

theorem getQueueOrder_eq_one (hqueues : self.queueProfile.queues = some queues)
    (hne : queues ≠ []) (queueName : Option String) : self.getQueueOrder queueName = .ok 1 := by
  obtain ⟨first, rest, rfl⟩ := List.exists_cons_of_ne_nil hne
  simp [getQueueOrder, hqueues, queueOrderLoop]

theorem getJobPriority_fifo (hmode : self.queueMode = .fifo)
    (hqueues : self.queueProfile.queues = some queues)
    (hjob : Arrives queues job position timestamp jobId) :
    self.getJobPriority ctx job = .ok (timestamp + jobId) := by
  obtain ⟨queueName, hmem, _⟩ := hjob.queue
  have horder := getQueueOrder_eq_one hqueues (List.ne_nil_of_mem hmem) job.queue
  have hbase : self.priorityBase ctx job = .ok timestamp := by
    simp [priorityBase, hmode, hjob.queueTime]
  simp [getJobPriority, hbase, horder, hjob.jobId, bind, Except.bind]

/-- The sums of queue time and id are ordered as the ranks are: between two queues the job of
the earlier one has the smaller sum, and within a queue the ids do not outweigh the times. -/
def SumsFollow (position : ℕ) (timestamp jobId : ℤ) (position' : ℕ)
    (timestamp' jobId' : ℤ) : Prop :=
  (position < position' ∧ timestamp + jobId < timestamp' + jobId') ∨
  (position' < position ∧ timestamp' + jobId' < timestamp + jobId) ∨
  (position = position' ∧
    (timestamp = timestamp' ∨
      timestamp < timestamp' ∧ jobId - jobId' < timestamp' - timestamp ∨
      timestamp' < timestamp ∧ jobId' - jobId < timestamp - timestamp'))

/-- The priorities of two jobs follow their ranks exactly when the sums do. -/
theorem priorities_follow_ranks_iff (hmode : self.queueMode = .fifo)
    (hqueues : self.queueProfile.queues = some queues)
    (hjob : Arrives queues job position timestamp jobId)
    (hjob' : Arrives queues job' position' timestamp' jobId') :
    FollowsRanks self ctx job job' (rank position timestamp jobId)
        (rank position' timestamp' jobId') ↔
      SumsFollow position timestamp jobId position' timestamp' jobId' := by
  have hpriority : self.getJobPriority ctx job = .ok (timestamp + jobId) :=
    getJobPriority_fifo hmode hqueues hjob
  have hpriority' : self.getJobPriority ctx job' = .ok (timestamp' + jobId') :=
    getJobPriority_fifo hmode hqueues hjob'
  constructor
  · rintro ⟨_, _, h, h', hlt, hlt'⟩
    obtain rfl := Except.ok.inj (hpriority.symm.trans h)
    obtain rfl := Except.ok.inj (hpriority'.symm.trans h')
    rw [rank_lt_rank] at hlt hlt'
    unfold SumsFollow
    omega
  · intro h
    refine ⟨_, _, hpriority, hpriority', ?_, ?_⟩
    all_goals
      rw [rank_lt_rank]
      unfold SumsFollow at h
      omega

namespace PriorityExample

def profile : HpcQueueProfile := { name := some "normal", queues := some ["high", "low"] }

def jobAt (queueName : String) (jobId : String) (timestamp : ℤ) : SocaJob :=
  { jobId := some jobId, queue := some queueName, queueTime := some timestamp }

def fifoContext : PutContext := { computeFairshareScore := fun _ => .ok 0, digest := id }

theorem arrives_high : Arrives ["high", "low"] (jobAt "high" "2" 200) 0 200 2 :=
  ⟨⟨"high", by decide, rfl, by decide⟩, rfl, by decide⟩

theorem arrives_low : Arrives ["high", "low"] (jobAt "low" "1" 100) 1 100 1 :=
  ⟨⟨"low", by decide, rfl, by decide⟩, rfl, by decide⟩

theorem arrives_next : Arrives ["high", "low"] (jobAt "low" "3" 150) 1 150 3 :=
  ⟨⟨"low", by decide, rfl, by decide⟩, rfl, by decide⟩

end PriorityExample

open PriorityExample in
/-- Two jobs of one queue whose ids follow their queue times. -/
theorem priorities_follow_ranks_in_queue :
    FollowsRanks (new profile) fifoContext (jobAt "low" "1" 100) (jobAt "low" "3" 150)
      (rank 1 100 1) (rank 1 150 3) :=
  (priorities_follow_ranks_iff rfl rfl arrives_low arrives_next).mpr (by unfold SumsFollow; omega)

open PriorityExample in
/-- A job of the second queue that came first goes before a job of the first queue. -/
theorem priorities_ignore_queue :
    ¬ ∀ (self : JobProvisioningQueue) (ctx : PutContext) (queues : List String)
      (job job' : SocaJob) (position position' : ℕ) (timestamp timestamp' jobId jobId' : ℤ),
      self.queueMode = .fifo → self.queueProfile.queues = some queues →
      Arrives queues job position timestamp jobId →
      Arrives queues job' position' timestamp' jobId' →
      FollowsRanks self ctx job job' (rank position timestamp jobId)
        (rank position' timestamp' jobId') := by
  intro h
  obtain ⟨_, _, hp, hp', hlt, _⟩ :=
    h (new profile) fifoContext _ _ _ _ _ _ _ _ _ rfl rfl arrives_high arrives_low
  have hhigh : (new profile).getJobPriority fifoContext (jobAt "high" "2" 200) = .ok 202 :=
    getJobPriority_fifo rfl rfl arrives_high
  have hlow : (new profile).getJobPriority fifoContext (jobAt "low" "1" 100) = .ok 101 :=
    getJobPriority_fifo rfl rfl arrives_low
  obtain rfl := Except.ok.inj (hhigh.symm.trans hp)
  obtain rfl := Except.ok.inj (hlow.symm.trans hp')
  have hrank : rank 0 200 2 < rank 1 100 1 := rank_lt_rank.mpr (by omega)
  exact absurd (hlt.mpr hrank) (by omega)

end JobProvisioningQueue

end Idea

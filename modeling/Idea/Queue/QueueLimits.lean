import Idea.Queue.Conservation
import Idea.Queue.GetLoop

/-! # The limits of the whole queue

A failed check is meant to be recognised as a limit of the whole queue: the queue is blocked,
the error is recorded on the job and no job of the profile is returned while the counts stay.
The result of a check classifies itself by the threshold it carries. The check of the instance
limit carries its own, but the check of running jobs carries the instance limit and compares it
with the jobs that run, without the one that would be added.
-/

namespace Idea

def LimitCheckResult.str (result : LimitCheckResult) : String :=
  result.limitType.getD "None" ++
    (if result.passed then " limit ok. " else " limit exceeded. ") ++
    match result.queueThreshold with
    | none => ""
    | some queueThreshold =>
      if 0 < queueThreshold ∧ queueThreshold < result.queueCurrent then
        "QueueLimit: " ++ toString queueThreshold
      else ""

structure ProvisioningError where
  jobId : Option String
  errorCode : Option String
  message : String

namespace JobProvisioningQueue

variable {self self' : JobProvisioningQueue} {ctx : GetContext} {jobId : String} {job : SocaJob}
  {params : SocaQueueManagementParams} {count total nodes : ℤ}

def isQueueBlockedByLimits (self : JobProvisioningQueue) : Bool := self.limitFlagSet.isSome

def recordedError (self : JobProvisioningQueue) (ctx : GetContext) (job : SocaJob) :
    Option ProvisioningError :=
  match self.checkLimits ctx job, self.failingLimit ctx job with
  | some (_, .ok .blocked), .ok (some limit) =>
    some { jobId := job.jobId, errorCode := limit.limitType, message := limit.str }
  | _, _ => none

/-- A turn that takes out a queued job of a profile with limits, and the counts it finds. -/
structure LimitTurn (queue : JobProvisioningQueue) (ctx : GetContext) (jobId : String)
    (job : SocaJob) (params : SocaQueueManagementParams) (count total nodes : ℤ) : Prop where
  consistent : queue.Consistent
  next : queue.nextJobId = some jobId
  getJob : ctx.getJob jobId = .ok (some job)
  jobId : job.jobId = some jobId
  state : job.state = some .queued
  params : queue.queueProfile.queueManagementParams = some params
  count : ctx.instanceCount = .ok count
  total : ctx.activeJobs = .ok total
  nodes : job.desiredNodes = .ok nodes

/-- The instance limit is set and exceeded by the nodes of the job. -/
def OverInstances (params : SocaQueueManagementParams) (count nodes : ℤ) : Prop :=
  getAsInt params.maxProvisionedInstances 0 ≠ 0 ∧
    getAsInt params.maxProvisionedInstances 0 < count + nodes

/-- The limit of running jobs is set and exceeded by one more job. -/
def OverRunning (params : SocaQueueManagementParams) (total : ℤ) : Prop :=
  getAsInt params.maxRunningJobs 0 ≠ 0 ∧ getAsInt params.maxRunningJobs 0 < total + 1

instance : Decidable (OverInstances params count nodes) := inferInstanceAs (Decidable (_ ∧ _))

instance : Decidable (OverRunning params total) := inferInstanceAs (Decidable (_ ∧ _))

def failedResult (params : SocaQueueManagementParams) (count total nodes : ℤ) :
    LimitCheckResult :=
  if OverInstances params count nodes then
    (limitResult LIMIT_TYPE_MAX_PROVISIONED_INSTANCES params (count + nodes)).fail
  else (limitResult LIMIT_TYPE_MAX_RUNNING_JOBS params total).fail

def failedThreshold (params : SocaQueueManagementParams) (count nodes : ℤ) : Option ℤ :=
  if OverInstances params count nodes then params.maxProvisionedInstances
  else params.maxRunningJobs

theorem failingLimit_eq (hparams : self.queueProfile.queueManagementParams = some params)
    (hcount : ctx.instanceCount = .ok count) (htotal : ctx.activeJobs = .ok total)
    (hnodes : job.desiredNodes = .ok nodes) :
    self.failingLimit ctx job = .ok
      (if OverInstances params count nodes ∨ OverRunning params total then
        some (failedResult params count total nodes) else none) := by
  have hpassed : ∀ limit : LimitCheckResult, limit.ok.passed = true := fun _ => rfl
  have hfailed : ∀ limit : LimitCheckResult, limit.fail.passed = false := fun _ => rfl
  have hrunning : self.isMaxRunningJobsLimit ctx = .ok
      (if getAsInt params.maxRunningJobs 0 = 0 then none else
        some (if OverRunning params total then
          (limitResult LIMIT_TYPE_MAX_RUNNING_JOBS params total).fail else
          (limitResult LIMIT_TYPE_MAX_RUNNING_JOBS params total).ok)) := by
    by_cases hm : getAsInt params.maxRunningJobs 0 = 0
    · simp [isMaxRunningJobsLimit, queueParams, hparams, bind, Except.bind, hm]
    · simp [isMaxRunningJobsLimit, queueParams, hparams, htotal, bind, Except.bind, hm,
        OverRunning]
  have hafter : (do
      let result ← self.isMaxRunningJobsLimit ctx
      Except.ok (result.filter (!·.passed)) : Except Raised _) = .ok
        (if OverRunning params total then
          some (limitResult LIMIT_TYPE_MAX_RUNNING_JOBS params total).fail else none) := by
    rw [hrunning]
    by_cases hm : getAsInt params.maxRunningJobs 0 = 0
    · simp [bind, Except.bind, hm, OverRunning]
    · by_cases ho : OverRunning params total
      · simp [bind, Except.bind, hm, ho, Option.filter, hfailed]
      · simp [bind, Except.bind, hm, ho, Option.filter, hpassed]
  by_cases ho : OverInstances params count nodes
  · have hm := ho.1
    have hlt := ho.2
    simp [failingLimit, isMaxProvisionedInstancesLimit, queueParams, hparams, hcount, hnodes,
      bind, Except.bind, hm, hlt, Option.filter, hfailed, failedResult, ho]
  · have hinstances : ∃ result, self.isMaxProvisionedInstancesLimit ctx job = .ok result ∧
        result.filter (!·.passed) = none := by
      by_cases hm : getAsInt params.maxProvisionedInstances 0 = 0
      · exact ⟨none, by simp [isMaxProvisionedInstancesLimit, queueParams, hparams, hcount, bind,
          Except.bind, hm], rfl⟩
      · have hle : ¬ getAsInt params.maxProvisionedInstances 0 < count + nodes :=
          fun hlt => ho ⟨hm, hlt⟩
        refine ⟨some (limitResult LIMIT_TYPE_MAX_PROVISIONED_INSTANCES params (count + nodes)).ok,
          ?_, ?_⟩
        · simp [isMaxProvisionedInstancesLimit, queueParams, hparams, hcount, hnodes, bind,
            Except.bind, hm, hle]
        · simp [Option.filter, hpassed]
    obtain ⟨result, hresult, hnone⟩ := hinstances
    unfold failingLimit
    rw [hresult]
    simp only [bind, Except.bind, hnone]
    simp only [bind, Except.bind] at hafter
    rw [hafter]
    simp [failedResult, ho]

/-- No turn returns a job with at least one node while the counts stay the same, whatever waits
in a queue of the profile by then. -/
def KeepsBlocked (queueProfile : HpcQueueProfile) (ctx : GetContext) : Prop :=
  ∀ (other : JobProvisioningQueue) (ctx' : GetContext) (after : JobProvisioningQueue)
    (jobId : String) (job : SocaJob) (nodes : ℤ), other.Consistent →
    other.queueProfile = queueProfile → ctx'.instanceCount = ctx.instanceCount →
    ctx'.activeJobs = ctx.activeJobs → job.desiredNodes = .ok nodes → 1 ≤ nodes →
      other.getTurn ctx' ≠ some (after, .took jobId (.returned job))

/-- The failed limit is one of the whole queue, with its own threshold; the turn blocks the
queue, the error is on the job, and the queue stays blocked. -/
structure Recognised (queue : JobProvisioningQueue) (ctx : GetContext) (jobId : String)
    (job : SocaJob) (threshold : Option ℤ) (limit : LimitCheckResult)
    (after : JobProvisioningQueue) : Prop where
  failed : queue.failingLimit ctx job = .ok (some limit)
  queueLimit : limit.isQueueLimit = true
  threshold : limit.queueThreshold = threshold
  turn : queue.getTurn ctx = some (after, .took jobId (.limited .blocked))
  blocked : after.isQueueBlockedByLimits = true
  info : after.limitInfo = some limit
  recorded : queue.taking.recordedError ctx job =
    some { jobId := some jobId, errorCode := limit.limitType, message := limit.str }
  later : KeepsBlocked queue.queueProfile ctx

/-- A put of a job in the map succeeds when it has nothing to refresh or the priority of the
job can be computed. -/
def PutsBack (self : JobProvisioningQueue) (ctx : PutContext) (job : SocaJob) : Prop :=
  self.isQueueApplicable job.queue = false ∨ job.isProvisioned = true ∨
    ∃ priority, self.getJobPriority ctx job = .ok priority

theorem put_ok_iff {ctx : PutContext} (hid : job.jobId = some jobId)
    (hmem : jobId ∈ self.queuedJobs.keys) (hstate : job.state = some .queued) :
    (∃ after, self.put ctx job = some (.ok after)) ↔ PutsBack self ctx job := by
  obtain ⟨queuedJob, hq⟩ := Dict.exists_get?_of_mem_keys hmem
  have hfind : self.findQueuedJob job = some (jobId, queuedJob) := by
    simp [findQueuedJob, hid, hq]
  unfold put PutsBack
  cases happlicable : self.isQueueApplicable job.queue with
  | false => simp
  | true =>
    cases hprovisioned : job.isProvisioned with
    | true => simp [hstate]
    | false =>
      cases hpriority : self.getJobPriority ctx job with
      | error e => simp [hstate, hfind, Except.map]
      | ok priority => simp [hstate, hfind, Except.map]

def waitingOne (queueProfile : HpcQueueProfile) : JobProvisioningQueue :=
  { new queueProfile with
    queue := ⟨⟨[("group", #["1"])], by decide⟩, 0, by decide⟩
    queuedJobs := ⟨[("1", { priority := 1, jobId := "1", jobGroup := "group" })], by decide⟩ }

def oneNodeJob : SocaJob :=
  { jobId := some "1", state := some .queued, params := some { nodes := some 1 } }

def oneNodeContext (ctx : GetContext) : GetContext :=
  { ctx with getJob := fun _ => .ok (some oneNodeJob) }

theorem getTurn_waitingOne {queueProfile : HpcQueueProfile}
    (h : (waitingOne queueProfile).taking.failingLimit (oneNodeContext ctx) oneNodeJob =
      .ok none) :
    ∃ after, (waitingOne queueProfile).getTurn (oneNodeContext ctx) =
      some (after, .took "1" (.returned oneNodeJob)) := by
  have hturn : (waitingOne queueProfile).getTurn (oneNodeContext ctx) =
      ((waitingOne queueProfile).taking.process (oneNodeContext ctx) "1").map
        fun result => result.1.finish "1" result.2 := rfl
  have hjob : (oneNodeContext ctx).getJob "1" = .ok (some oneNodeJob) := rfl
  have hstate : oneNodeJob.state = some .queued := rfl
  rw [hturn]
  simp only [process, hjob, hstate, ne_eq, not_true_eq_false, if_false, checkLimits, h,
    Option.map_some]
  exact ⟨_, rfl⟩

/-- The queue stays blocked when the running jobs have reached their limit or the instances
have, so that not even one node fits. -/
theorem keepsBlocked_iff {queueProfile : HpcQueueProfile}
    (hparams : queueProfile.queueManagementParams = some params)
    (hcount : ctx.instanceCount = .ok count) (htotal : ctx.activeJobs = .ok total) :
    KeepsBlocked queueProfile ctx ↔ OverInstances params count 1 ∨ OverRunning params total := by
  constructor
  · intro hkeeps
    by_contra hnot
    have hnodes : oneNodeJob.desiredNodes = .ok 1 := rfl
    have hparams' : (waitingOne queueProfile).taking.queueProfile.queueManagementParams =
        some params := hparams
    have hcount' : (oneNodeContext ctx).instanceCount = .ok count := hcount
    have htotal' : (oneNodeContext ctx).activeJobs = .ok total := htotal
    have hnone := failingLimit_eq hparams' hcount' htotal' hnodes
    rw [if_neg hnot] at hnone
    obtain ⟨after, hturn⟩ := getTurn_waitingOne hnone
    have hc : (waitingOne queueProfile).Consistent := List.Perm.refl _
    exact hkeeps _ (oneNodeContext ctx) after "1" oneNodeJob 1 hc rfl rfl rfl hnodes (le_refl 1)
      hturn
  · intro hover other ctx' after jobId job nodes hc hprofile hcount' htotal' hnodes hone hturn
    obtain ⟨_, _, _, _, mid, hp⟩ := mem_keys_of_took hc hturn
    obtain ⟨_, _, hnone⟩ := (process_returned_iff hp).mp rfl
    have hparams' : other.taking.queueProfile.queueManagementParams = some params :=
      (congrArg HpcQueueProfile.queueManagementParams hprofile).trans hparams
    rw [failingLimit_eq hparams' (hcount'.trans hcount) (htotal'.trans htotal) hnodes] at hnone
    have hover' : OverInstances params count nodes ∨ OverRunning params total := by
      rcases hover with ⟨hm, hlt⟩ | hover
      · exact .inl ⟨hm, by omega⟩
      · exact .inr hover
    rw [if_pos hover'] at hnone
    simp at hnone

/-- What the job needs for its error to be recorded: it can be put back, and the job cache
records the error. -/
def CanRecord (self : JobProvisioningQueue) (ctx : GetContext) (job : SocaJob) : Prop :=
  PutsBack self ctx.toPutContext job ∧ ctx.setJobProvisioningError = .ok ()

theorem notOk_blocked_iff {limit : LimitCheckResult} (hid : job.jobId = some jobId)
    (hmem : jobId ∈ self.queuedJobs.keys) (hstate : job.state = some .queued)
    (hlimit : limit.isQueueLimit = true) :
    (∃ after, self.notOk ctx job limit = some (after, .ok .blocked) ∧
      after.isQueueBlockedByLimits = true ∧ after.limitInfo = some limit) ↔
      CanRecord self ctx job := by
  unfold CanRecord
  rw [← put_ok_iff hid hmem hstate]
  obtain ⟨result, hput, _⟩ := put_of_mem ctx.toPutContext hid hmem
  unfold notOk
  simp only [hput, Option.map_some]
  cases result with
  | error e => simp
  | ok after =>
    simp only [hlimit, if_true]
    cases hrecord : ctx.setJobProvisioningError with
    | error e => simp [Except.map]
    | ok _ =>
      refine iff_of_true ⟨_, rfl, ?_, rfl⟩ ⟨⟨after, rfl⟩, rfl⟩
      cases hflag : after.limitFlagSet with
      | none => simp [isQueueBlockedByLimits]
      | some limitFlagSet =>
        dsimp only [isQueueBlockedByLimits]
        split <;> rfl

/-- The result of the checks is one of the whole queue and carries its own threshold when it
is about the instances, or when both limits are equal and more jobs run than they allow. -/
theorem failedResult_iff (hover : OverInstances params count nodes ∨ OverRunning params total) :
    (failedResult params count total nodes).isQueueLimit = true ∧
        (failedResult params count total nodes).queueThreshold =
          failedThreshold params count nodes ↔
      OverInstances params count nodes ∨
        (params.maxProvisionedInstances = params.maxRunningJobs ∧
          getAsInt params.maxRunningJobs 0 < total) := by
  unfold failedResult failedThreshold
  by_cases ho : OverInstances params count nodes
  · rw [if_pos ho, if_pos ho]
    refine iff_of_true ⟨?_, rfl⟩ (.inl ho)
    obtain ⟨hm, hlt⟩ := ho
    cases hp : params.maxProvisionedInstances with
    | none => simp [hp, getAsInt] at hm
    | some threshold =>
      have hlt' : threshold < count + nodes := by simpa [hp, getAsInt] using hlt
      simpa [limitResult, LimitCheckResult.fail, LimitCheckResult.isQueueLimit, hp] using hlt'
  · obtain ⟨hr, _⟩ := hover.resolve_left ho
    rw [if_neg ho, if_neg ho, or_iff_right ho]
    simp only [limitResult, LimitCheckResult.fail, LimitCheckResult.isQueueLimit]
    cases hp : params.maxRunningJobs with
    | none => simp [hp, getAsInt] at hr
    | some threshold =>
      cases hi : params.maxProvisionedInstances with
      | none => simp
      | some instances =>
        simp only [Option.some.injEq, getAsInt, Option.getD_some]
        constructor
        · rintro ⟨hlt, rfl⟩
          exact ⟨rfl, of_decide_eq_true hlt⟩
        · rintro ⟨rfl, hlt⟩
          exact ⟨decide_eq_true hlt, rfl⟩

/-- Which failed limits are recognised: an exceeded instance limit under which not even one
node fits or with the running jobs at their limit, and an exceeded limit of running jobs that
equals the instance limit and is exceeded by the jobs that run. -/
def Recognisable (params : SocaQueueManagementParams) (count total nodes : ℤ) : Prop :=
  (OverInstances params count nodes ∧
      (OverInstances params count 1 ∨ OverRunning params total)) ∨
    (¬ OverInstances params count nodes ∧
      params.maxProvisionedInstances = params.maxRunningJobs ∧
      getAsInt params.maxRunningJobs 0 < total)

theorem LimitTurn.get_eq (h : LimitTurn self ctx jobId job params count total nodes) :
    self.isRunning = false ∧ self.queue.get (priorityLt self.queuedJobs) =
      (some jobId, self.taking.queue) := by
  have hnext := h.next
  unfold nextJobId at hnext
  split at hnext
  · simp at hnext
  · rename_i hrunning
    exact ⟨by simpa using hrunning, Prod.ext hnext rfl⟩

theorem LimitTurn.balanced (h : LimitTurn self ctx jobId job params count total nodes) :
    self.taking.Balanced [jobId] :=
  (RoundRobinPriorityQueue.get_some h.get_eq.2).symm.trans h.consistent

theorem LimitTurn.mem (h : LimitTurn self ctx jobId job params count total nodes) :
    jobId ∈ self.taking.queuedJobs.keys :=
  h.balanced.subset List.mem_cons_self

theorem LimitTurn.getTurn_eq (h : LimitTurn self ctx jobId job params count total nodes)
    {mid : JobProvisioningQueue} {outcome : Outcome}
    (hprocess : self.taking.process ctx jobId = some (mid, outcome)) :
    self.getTurn ctx =
      some ({ mid with queuedJobs := mid.queuedJobs.erase jobId }, .took jobId outcome) := by
  obtain ⟨hrunning, hget⟩ := h.get_eq
  have hprocess' : process { self with queue := self.taking.queue } ctx jobId =
      some (mid, outcome) := hprocess
  have hfinish := (finish_of_balanced ((process_extends hprocess).balanced h.balanced) outcome).1
  unfold JobProvisioningQueue.getTurn
  rw [if_neg (by simp [hrunning]), hget]
  dsimp only
  rw [hprocess', Option.map_some, hfinish]

/-- The turn blocks the queue when the result classifies as a queue limit and the error can be
recorded. -/
theorem LimitTurn.blocked_iff (h : LimitTurn self ctx jobId job params count total nodes)
    {limit : LimitCheckResult} (hfailed : self.failingLimit ctx job = .ok (some limit))
    (hlimit : limit.isQueueLimit = true) :
    (∃ after, self.getTurn ctx = some (after, .took jobId (.limited .blocked)) ∧
      after.isQueueBlockedByLimits = true ∧ after.limitInfo = some limit ∧
      self.taking.recordedError ctx job =
        some { jobId := some jobId, errorCode := limit.limitType, message := limit.str }) ↔
      CanRecord self ctx job := by
  have hfailed' : self.taking.failingLimit ctx job = .ok (some limit) := hfailed
  have hcheck : self.taking.checkLimits ctx job = self.taking.notOk ctx job limit := by
    simp [checkLimits, hfailed']
  obtain ⟨mid, result, hresult, _⟩ := checkLimits_of_mem ctx h.jobId h.mem
  have hnotOk : (∃ after, self.taking.notOk ctx job limit = some (after, .ok .blocked) ∧
      after.isQueueBlockedByLimits = true ∧ after.limitInfo = some limit) ↔
      CanRecord self ctx job := notOk_blocked_iff h.jobId h.mem h.state hlimit
  rw [← hnotOk, ← hcheck, hresult]
  constructor
  · rintro ⟨after, hturn, hblocked, hinfo, hrecorded⟩
    obtain rfl : result = .ok .blocked := by
      unfold recordedError at hrecorded
      rw [hresult] at hrecorded
      split at hrecorded
      · rename_i heq _
        simpa using congrArg (Option.map Prod.snd) heq
      · simp at hrecorded
    have hprocess : self.taking.process ctx jobId = some (mid, .limited .blocked) := by
      simp only [process, h.getJob, h.state, ne_eq, not_true_eq_false, if_false, hresult,
        Option.map_some]
    rw [h.getTurn_eq hprocess] at hturn
    obtain ⟨rfl, _⟩ := Prod.mk.inj (Option.some.inj hturn)
    exact ⟨mid, rfl, hblocked, hinfo⟩
  · rintro ⟨_, heq, hblocked, hinfo⟩
    obtain ⟨rfl, rfl⟩ := Prod.mk.inj (Option.some.inj heq)
    have hprocess : self.taking.process ctx jobId = some (mid, .limited .blocked) := by
      simp only [process, h.getJob, h.state, ne_eq, not_true_eq_false, if_false, hresult,
        Option.map_some]
    refine ⟨_, h.getTurn_eq hprocess, hblocked, hinfo, ?_⟩
    simp only [recordedError, hresult, hfailed', h.jobId]

/-- When a check of a profile fails for a job, the limit is recognised exactly when it is
recognisable and its error can be recorded. -/
theorem queue_limit_recognised_iff
    (h : LimitTurn self ctx jobId job params count total nodes)
    (hover : OverInstances params count nodes ∨ OverRunning params total) :
    (∃ limit after,
      Recognised self ctx jobId job (failedThreshold params count nodes) limit after) ↔
      Recognisable params count total nodes ∧ CanRecord self ctx job := by
  have hfailed := failingLimit_eq h.params h.count h.total h.nodes
  rw [if_pos hover] at hfailed
  have hlater := keepsBlocked_iff h.params h.count h.total
  have hresult := failedResult_iff hover
  constructor
  · rintro ⟨limit, after, hr⟩
    obtain rfl := Option.some.inj (Except.ok.inj (hfailed.symm.trans hr.failed))
    have hclass := hresult.mp ⟨hr.queueLimit, hr.threshold⟩
    refine ⟨?_, (h.blocked_iff hfailed hr.queueLimit).mp
      ⟨after, hr.turn, hr.blocked, hr.info, hr.recorded⟩⟩
    by_cases ho : OverInstances params count nodes
    · exact .inl ⟨ho, hlater.mp hr.later⟩
    · exact .inr ⟨ho, hclass.resolve_left ho⟩
  · rintro ⟨hrecognisable, hcan⟩
    have hclass : OverInstances params count nodes ∨
        (params.maxProvisionedInstances = params.maxRunningJobs ∧
          getAsInt params.maxRunningJobs 0 < total) := by
      rcases hrecognisable with ⟨ho, _⟩ | ⟨_, heq⟩
      · exact .inl ho
      · exact .inr heq
    obtain ⟨hlimit, hthreshold⟩ := hresult.mpr hclass
    obtain ⟨after, hturn, hblocked, hinfo, hrecorded⟩ := (h.blocked_iff hfailed hlimit).mpr hcan
    have hkeeps : OverInstances params count 1 ∨ OverRunning params total := by
      rcases hrecognisable with ⟨_, hkeeps⟩ | ⟨ho, _⟩
      · exact hkeeps
      · exact .inr (hover.resolve_left ho)
    exact ⟨_, after, hfailed, hlimit, hthreshold, hturn, hblocked, hinfo, hrecorded,
      hlater.mpr hkeeps⟩

open Example in
/-- An instance limit of one that is reached is recognised. -/
theorem queue_limit_recognised_full :
    ∃ limit after, Recognised (waiting 1) Example.ctx "7" Example.job (some 1) limit after := by
  have hturn : LimitTurn (waiting 1) Example.ctx "7" Example.job
      { maxProvisionedInstances := some 1 } 1 0 1 :=
    ⟨List.Perm.refl _, rfl, rfl, rfl, rfl, rfl, rfl, rfl, rfl⟩
  apply (queue_limit_recognised_iff hturn (.inl (by decide))).mpr
  exact ⟨.inl ⟨by decide, .inl (by decide)⟩, .inr (.inr ⟨107, rfl⟩), rfl⟩

namespace RunningExample

def oneRunning : SocaQueueManagementParams :=
  { maxRunningJobs := some 1, maxProvisionedInstances := some 10 }

def waiting : JobProvisioningQueue :=
  { Example.waiting 10 with
    queueProfile := { Example.profile 10 with queueManagementParams := some oneRunning } }

def running : GetContext := { Example.ctx with activeJobs := .ok 1 }

end RunningExample

/-- The limit of running jobs is reached and the result does not count as a queue limit. -/
theorem running_limit_not_recognised :
    ¬ ∀ (self : JobProvisioningQueue) (ctx : GetContext) (jobId : String) (job : SocaJob)
      (params : SocaQueueManagementParams) (count total nodes : ℤ),
      LimitTurn self ctx jobId job params count total nodes → CanRecord self ctx job →
      OverInstances params count nodes ∨ OverRunning params total →
        ∃ limit after,
          Recognised self ctx jobId job (failedThreshold params count nodes) limit after := by
  intro h
  have hturn : LimitTurn RunningExample.waiting RunningExample.running "7" Example.job
      RunningExample.oneRunning 1 1 1 :=
    ⟨List.Perm.refl _, rfl, rfl, rfl, rfl, rfl, rfl, rfl, rfl⟩
  obtain ⟨limit, after, hr⟩ := h _ _ _ _ _ _ _ _ hturn ⟨.inr (.inr ⟨107, rfl⟩), rfl⟩
    (.inr (by decide))
  have hfailed := failingLimit_eq hturn.params hturn.count hturn.total hturn.nodes
  rw [if_pos (.inr (by decide))] at hfailed
  obtain rfl := Option.some.inj (Except.ok.inj (hfailed.symm.trans hr.failed))
  exact absurd hr.queueLimit (by decide)

end JobProvisioningQueue

end Idea

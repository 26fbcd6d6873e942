import Idea.Queue.Provisioning

/-! # The limits of a queue profile

A job is within its limits when the provisioned instances and its own nodes fit under the
instance limit and one more running job fits under the limit of running jobs. The checks of
the provisioning queue pass, fail or raise exactly as this arithmetic says.
-/

namespace Idea

namespace JobProvisioningQueue

/-- The provisioned instances and the nodes of the job stay within the profile's limit. -/
def WithinInstanceLimit (profile : HpcQueueProfile) (ctx : GetContext) (job : SocaJob) : Prop :=
  ∃ params count, profile.queueManagementParams = some params ∧ ctx.instanceCount = .ok count ∧
    (getAsInt params.maxProvisionedInstances 0 = 0 ∨
      ∃ nodes, job.desiredNodes = .ok nodes ∧
        count + nodes ≤ getAsInt params.maxProvisionedInstances 0)

def OverInstanceLimit (profile : HpcQueueProfile) (ctx : GetContext) (job : SocaJob) : Prop :=
  ∃ params count nodes, profile.queueManagementParams = some params ∧
    ctx.instanceCount = .ok count ∧ job.desiredNodes = .ok nodes ∧
    getAsInt params.maxProvisionedInstances 0 ≠ 0 ∧
    getAsInt params.maxProvisionedInstances 0 < count + nodes

/-- One more running job stays within the profile's limit. -/
def WithinRunningLimit (profile : HpcQueueProfile) (ctx : GetContext) : Prop :=
  ∃ params, profile.queueManagementParams = some params ∧
    (getAsInt params.maxRunningJobs 0 = 0 ∨
      ∃ total, ctx.activeJobs = .ok total ∧ total + 1 ≤ getAsInt params.maxRunningJobs 0)

def OverRunningLimit (profile : HpcQueueProfile) (ctx : GetContext) : Prop :=
  ∃ params total, profile.queueManagementParams = some params ∧ ctx.activeJobs = .ok total ∧
    getAsInt params.maxRunningJobs 0 ≠ 0 ∧ getAsInt params.maxRunningJobs 0 < total + 1

def WithinLimits (profile : HpcQueueProfile) (ctx : GetContext) (job : SocaJob) : Prop :=
  WithinInstanceLimit profile ctx job ∧ WithinRunningLimit profile ctx

def OverLimit (profile : HpcQueueProfile) (ctx : GetContext) (job : SocaJob) : Prop :=
  OverInstanceLimit profile ctx job ∨
    (WithinInstanceLimit profile ctx job ∧ OverRunningLimit profile ctx)

theorem instanceLimit_spec (self : JobProvisioningQueue) (ctx : GetContext) (job : SocaJob) :
    (∃ result, self.isMaxProvisionedInstancesLimit ctx job = .ok result ∧
        result.filter (!·.passed) = none ∧ WithinInstanceLimit self.queueProfile ctx job ∧
        ¬ OverInstanceLimit self.queueProfile ctx job) ∨
      (∃ limit, self.isMaxProvisionedInstancesLimit ctx job = .ok (some limit) ∧
        limit.passed = false ∧ OverInstanceLimit self.queueProfile ctx job ∧
        ¬ WithinInstanceLimit self.queueProfile ctx job) ∨
      (∃ e, self.isMaxProvisionedInstancesLimit ctx job = .error e ∧
        ¬ WithinInstanceLimit self.queueProfile ctx job ∧
        ¬ OverInstanceLimit self.queueProfile ctx job) := by
  unfold isMaxProvisionedInstancesLimit queueParams WithinInstanceLimit OverInstanceLimit
  cases hc : ctx.instanceCount with
  | error e => exact .inr (.inr ⟨e, rfl, by simp, by simp⟩)
  | ok count =>
    cases hp : self.queueProfile.queueManagementParams with
    | none => exact .inr (.inr ⟨.attributeError, rfl, by simp, by simp⟩)
    | some params =>
      by_cases hm : getAsInt params.maxProvisionedInstances 0 = 0
      · refine .inl ⟨none, by simp [bind, Except.bind, hm], rfl, ?_, ?_⟩ <;> simp [hm]
      · cases hd : job.desiredNodes with
        | error e =>
          exact .inr (.inr ⟨e, by simp [bind, Except.bind, hm], by simp [hm], by simp⟩)
        | ok nodes =>
          by_cases hn : count + nodes > getAsInt params.maxProvisionedInstances 0
          · refine .inr (.inl ⟨(limitResult LIMIT_TYPE_MAX_PROVISIONED_INSTANCES params
              (count + nodes)).fail, by simp [bind, Except.bind, hm, hn], rfl, ?_, ?_⟩)
            · exact ⟨params, count, nodes, rfl, rfl, rfl, hm, hn⟩
            · simpa [hm] using hn
          · refine .inl ⟨some (limitResult LIMIT_TYPE_MAX_PROVISIONED_INSTANCES params
              (count + nodes)).ok, by simp [bind, Except.bind, hm, hn], rfl, ?_, ?_⟩
            · exact ⟨params, count, rfl, rfl, .inr ⟨nodes, rfl, by omega⟩⟩
            · simpa [hm] using hn

theorem runningLimit_spec (self : JobProvisioningQueue) (ctx : GetContext) :
    (∃ result, self.isMaxRunningJobsLimit ctx = .ok result ∧
        result.filter (!·.passed) = none ∧ WithinRunningLimit self.queueProfile ctx ∧
        ¬ OverRunningLimit self.queueProfile ctx) ∨
      (∃ limit, self.isMaxRunningJobsLimit ctx = .ok (some limit) ∧ limit.passed = false ∧
        OverRunningLimit self.queueProfile ctx ∧ ¬ WithinRunningLimit self.queueProfile ctx) ∨
      (∃ e, self.isMaxRunningJobsLimit ctx = .error e ∧
        ¬ WithinRunningLimit self.queueProfile ctx ∧
        ¬ OverRunningLimit self.queueProfile ctx) := by
  unfold isMaxRunningJobsLimit queueParams WithinRunningLimit OverRunningLimit
  cases hp : self.queueProfile.queueManagementParams with
  | none => exact .inr (.inr ⟨.attributeError, rfl, by simp, by simp⟩)
  | some params =>
    by_cases hm : getAsInt params.maxRunningJobs 0 = 0
    · refine .inl ⟨none, by simp [bind, Except.bind, hm], rfl, ?_, ?_⟩ <;> simp [hm]
    · cases ha : ctx.activeJobs with
      | error e => exact .inr (.inr ⟨e, by simp [bind, Except.bind, hm], by simp [hm], by simp⟩)
      | ok total =>
        by_cases hn : total + 1 > getAsInt params.maxRunningJobs 0
        · refine .inr (.inl ⟨(limitResult LIMIT_TYPE_MAX_RUNNING_JOBS params total).fail,
            by simp [bind, Except.bind, hm, hn], rfl, ⟨params, total, rfl, rfl, hm, hn⟩, ?_⟩)
          simp only [Option.some.injEq, exists_eq_left', Except.ok.injEq]
          omega
        · refine .inl ⟨some (limitResult LIMIT_TYPE_MAX_RUNNING_JOBS params total).ok,
            by simp [bind, Except.bind, hm, hn], rfl, ⟨params, rfl, .inr ⟨total, rfl, ?_⟩⟩, ?_⟩
          · omega
          · simp only [Option.some.injEq, exists_and_left, exists_eq_left', Except.ok.injEq]
            omega

theorem failingLimit_spec (self : JobProvisioningQueue) (ctx : GetContext) (job : SocaJob) :
    (self.failingLimit ctx job = .ok none ∧ WithinLimits self.queueProfile ctx job ∧
        ¬ OverLimit self.queueProfile ctx job) ∨
      (∃ limit, self.failingLimit ctx job = .ok (some limit) ∧
        OverLimit self.queueProfile ctx job ∧ ¬ WithinLimits self.queueProfile ctx job) ∨
      (∃ e, self.failingLimit ctx job = .error e ∧ ¬ WithinLimits self.queueProfile ctx job ∧
        ¬ OverLimit self.queueProfile ctx job) := by
  unfold failingLimit WithinLimits OverLimit
  rcases instanceLimit_spec self ctx job with ⟨result, hr, hf, hw, ho⟩ | ⟨limit, hr, hf, ho, hw⟩ |
    ⟨e, hr, hw, ho⟩
  · rcases runningLimit_spec self ctx with ⟨result', hr', hf', hw', ho'⟩ |
      ⟨limit, hr', hf', ho', hw'⟩ | ⟨e, hr', hw', ho'⟩
    · exact .inl ⟨by simp [hr, hf, hr', hf', bind, Except.bind], ⟨hw, hw'⟩, by tauto⟩
    · exact .inr (.inl ⟨limit, by simp [hr, hf, hr', hf', bind, Except.bind], .inr ⟨hw, ho'⟩,
        by tauto⟩)
    · exact .inr (.inr ⟨e, by simp [hr, hf, hr', bind, Except.bind], by tauto, by tauto⟩)
  · have hl : (some limit).filter (!·.passed) = some limit := by simp [Option.filter, hf]
    exact .inr (.inl ⟨limit, by simp [hr, hl, bind, Except.bind], .inl ho, by tauto⟩)
  · exact .inr (.inr ⟨e, by simp [hr, bind, Except.bind], by tauto, by tauto⟩)

end JobProvisioningQueue

end Idea

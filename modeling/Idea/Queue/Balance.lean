import Idea.Queue.Provisioning
import Idea.System.Run

/-! # The two books of the provisioning queue

The ids in the priority queues are the keys of the map of queued jobs, each once, in every
state of every run. A job taken out by `get` counts as owed to the map until the `finally`
clause removes it: a put and every step of the processing in between add the same ids on
both sides and remove none.
-/

namespace Idea

namespace JobProvisioningQueue

variable {self self' : JobProvisioningQueue}

/-- The priority queues hold the keys of the map, except for the ids already taken out. -/
def Balanced (taken : List String) (self : JobProvisioningQueue) : Prop :=
  (taken ++ self.queue.items).Perm self.queuedJobs.keys

/-- The priority queues hold exactly the keys of the map, each once. -/
def Consistent (self : JobProvisioningQueue) : Prop := Balanced [] self

theorem consistent_new (queueProfile : HpcQueueProfile) : (new queueProfile).Consistent :=
  List.Perm.refl _

variable {job : SocaJob}

theorem jobId_newQueuedJob {ctx : PutContext} {queuedJob : QueuedJob}
    (h : self.newQueuedJob ctx job = .ok queuedJob) : job.jobId = some queuedJob.jobId := by
  simp only [newQueuedJob, Raised.bind_eq_ok] at h
  obtain ⟨jobGroup, _, priority, _, h⟩ := h
  split at h
  · rename_i hid _
    obtain rfl := Except.ok.inj h
    exact hid
  · simp at h

variable {jobId : String}

theorem findQueuedJob_eq_none (hid : job.jobId = some jobId) :
    self.findQueuedJob job = none ↔ jobId ∉ self.queuedJobs.keys := by
  simp [findQueuedJob, hid, Dict.get?_eq_none]

theorem mem_keys_of_findQueuedJob {queuedJob : QueuedJob}
    (h : self.findQueuedJob job = some (jobId, queuedJob)) : jobId ∈ self.queuedJobs.keys := by
  simp only [findQueuedJob, Option.bind_eq_some_iff, Option.map_eq_some_iff] at h
  obtain ⟨_, _, entry, he, hp⟩ := h
  obtain ⟨rfl, rfl⟩ := Prod.mk.inj hp
  exact Dict.mem_keys_of_get? he

theorem put_cases {ctx : PutContext} (h : self.put ctx job = some (.ok self')) :
    self'.queueProfile = self.queueProfile ∧
      (self'.queue = self.queue ∧ self'.queuedJobs.keys = self.queuedJobs.keys ∨
        ∃ jobId, job.jobId = some jobId ∧ jobId ∉ self.queuedJobs.keys ∧
          self'.queue.items.Perm (jobId :: self.queue.items) ∧
          self'.queuedJobs.keys = self.queuedJobs.keys ++ [jobId]) := by
  unfold put at h
  split at h
  · simp_all
  · split at h
    · simp_all
    · split at h
      · simp_all
      · split at h
        · rename_i jobId queuedJob hfind
          cases hp : self.getJobPriority ctx job with
          | error e => simp [hp, Except.map] at h
          | ok priority =>
            simp only [hp, Except.map, Option.some.injEq, Except.ok.injEq] at h
            subst h
            exact ⟨rfl, .inl ⟨rfl, Dict.keys_set_of_mem (mem_keys_of_findQueuedJob hfind) _⟩⟩
        · rename_i hfind
          split at h
          · simp at h
          · rename_i queuedJob hnew
            simp only [Option.map_eq_some_iff, Except.ok.injEq] at h
            obtain ⟨queue, hq, rfl⟩ := h
            have hid := jobId_newQueuedJob hnew
            have hmem := (findQueuedJob_eq_none hid).mp hfind
            exact ⟨rfl, .inr ⟨queuedJob.jobId, hid, hmem, RoundRobinPriorityQueue.put_items hq,
              Dict.keys_set_of_not_mem hmem _⟩⟩

/-- The same ids have been added to the priority queues and to the map, and none removed. -/
def Extends (self self' : JobProvisioningQueue) : Prop :=
  ∃ added : List String, self'.queueProfile = self.queueProfile ∧
    self'.queue.items.Perm (added ++ self.queue.items) ∧
    self'.queuedJobs.keys = self.queuedJobs.keys ++ added

theorem Extends.of_eq (hp : self'.queueProfile = self.queueProfile)
    (hq : self'.queue = self.queue) (hk : self'.queuedJobs.keys = self.queuedJobs.keys) :
    Extends self self' :=
  ⟨[], hp, by simp [hq], by simp [hk]⟩

theorem Extends.refl (self : JobProvisioningQueue) : Extends self self := .of_eq rfl rfl rfl

theorem Extends.keys_subset (h : Extends self self') :
    self.queuedJobs.keys ⊆ self'.queuedJobs.keys := by
  obtain ⟨_, _, _, hk⟩ := h
  rw [hk]
  exact List.subset_append_left _ _

theorem Extends.balanced {taken : List String} (h : Extends self self')
    (hb : self.Balanced taken) : self'.Balanced taken := by
  obtain ⟨added, _, hq, hk⟩ := h
  unfold Balanced at hb ⊢
  rw [hk]
  calc (taken ++ self'.queue.items).Perm (taken ++ (added ++ self.queue.items)) :=
        hq.append_left taken
    _ = (taken ++ added) ++ self.queue.items := (List.append_assoc ..).symm
    List.Perm _ ((added ++ taken) ++ self.queue.items) :=
        List.perm_append_comm.append_right _
    _ = added ++ (taken ++ self.queue.items) := List.append_assoc ..
    List.Perm _ (added ++ self.queuedJobs.keys) := hb.append_left added
    List.Perm _ (self.queuedJobs.keys ++ added) := List.perm_append_comm

theorem put_extends {ctx : PutContext} (h : self.put ctx job = some (.ok self')) :
    Extends self self' := by
  obtain ⟨hp, ⟨hq, hk⟩ | ⟨jobId, _, _, hq, hk⟩⟩ := put_cases h
  · exact .of_eq hp hq hk
  · exact ⟨[jobId], hp, hq, hk⟩

variable {ctx : GetContext}

theorem notOk_extends {limit : LimitCheckResult} {result : Except Raised LimitVerdict}
    (h : self.notOk ctx job limit = some (self', result)) : Extends self self' := by
  simp only [notOk, Option.map_eq_some_iff] at h
  obtain ⟨put, hput, h⟩ := h
  cases put with
  | error e =>
    obtain ⟨rfl, _⟩ := Prod.mk.inj h
    exact .refl _
  | ok queue =>
    have hq := put_extends hput
    dsimp only at h
    split at h <;> (obtain ⟨rfl, _⟩ := Prod.mk.inj h; exact hq)

theorem checkLimits_extends {result : Except Raised LimitVerdict}
    (h : self.checkLimits ctx job = some (self', result)) : Extends self self' := by
  unfold checkLimits at h
  split at h
  · obtain ⟨rfl, _⟩ := Prod.mk.inj (Option.some.inj h)
    exact .refl _
  · exact notOk_extends h
  · obtain ⟨rfl, _⟩ := Prod.mk.inj (Option.some.inj h)
    exact .of_eq rfl rfl rfl

theorem process_extends {outcome : Outcome} (h : self.process ctx jobId = some (self', outcome)) :
    Extends self self' := by
  unfold process at h
  split at h
  · obtain ⟨rfl, _⟩ := Prod.mk.inj (Option.some.inj h)
    exact .refl _
  · obtain ⟨rfl, _⟩ := Prod.mk.inj (Option.some.inj h)
    exact .refl _
  · split at h
    · obtain ⟨rfl, _⟩ := Prod.mk.inj (Option.some.inj h)
      exact .refl _
    · simp only [Option.map_eq_some_iff] at h
      obtain ⟨⟨queue, result⟩, hc, h⟩ := h
      have he := checkLimits_extends hc
      split at h <;> (obtain ⟨rfl, _⟩ := Prod.mk.inj h; simp_all)

/-- The job the next turn of `get` takes out. -/
def nextJobId (self : JobProvisioningQueue) : Option String :=
  if self.isRunning then none else (self.queue.get (priorityLt self.queuedJobs)).1

/-- The queue while a turn of `get` works on the job it took out. -/
def taking (self : JobProvisioningQueue) : JobProvisioningQueue :=
  { self with queue := (self.queue.get (priorityLt self.queuedJobs)).2 }

theorem finish_of_balanced (hb : self.Balanced [jobId]) (outcome : Outcome) :
    self.finish jobId outcome =
        ({ self with queuedJobs := self.queuedJobs.erase jobId }, .took jobId outcome) ∧
      Consistent { self with queuedJobs := self.queuedJobs.erase jobId } := by
  have hm : jobId ∈ self.queuedJobs.keys := hb.subset (by simp)
  refine ⟨by simp [finish, removeQueuedJob, hm], ?_⟩
  exact (hb.trans (Dict.keys_perm_cons_erase hm)).cons_inv

/-- What a turn of `get` does to a consistent queue: nothing, the removal of an empty priority
queue, or the removal of one job from both places after the job was processed. -/
theorem getTurn_cases {event : GetEvent} (hc : self.Consistent)
    (h : self.getTurn ctx = some (self', event)) :
    (event = .stopped ∧ self.nextJobId = none ∧ self' = self) ∨
      (event = .empty ∧ self.nextJobId = none ∧ self' = self.taking ∧ self'.Consistent) ∨
        ∃ jobId outcome mid, event = .took jobId outcome ∧ self.nextJobId = some jobId ∧
          self.taking.Balanced [jobId] ∧ self.taking.process ctx jobId = some (mid, outcome) ∧
          self' = { mid with queuedJobs := mid.queuedJobs.erase jobId } ∧ self'.Consistent := by
  unfold getTurn at h
  split at h
  · rename_i hr
    obtain ⟨rfl, rfl⟩ := Prod.mk.inj (Option.some.inj h)
    exact .inl ⟨rfl, by simp [nextJobId, hr], rfl⟩
  · rename_i hr
    split at h
    · rename_i queue hq
      obtain ⟨rfl, rfl⟩ := Prod.mk.inj (Option.some.inj h)
      refine .inr (.inl ⟨rfl, by simp [nextJobId, hr, hq], by simp [taking, hq], ?_⟩)
      exact (RoundRobinPriorityQueue.get_none hq).symm.trans hc
    · rename_i jobId queue hq
      have ht : { self with queue } = self.taking := by simp [taking, hq]
      rw [ht] at h
      obtain ⟨⟨mid, outcome⟩, hp, h⟩ := Option.map_eq_some_iff.mp h
      have hb : self.taking.Balanced [jobId] := by
        have hi := RoundRobinPriorityQueue.get_some hq
        simpa [Balanced, ← ht] using hi.symm.trans hc
      obtain ⟨hf, hc'⟩ := finish_of_balanced ((process_extends hp).balanced hb) outcome
      obtain ⟨rfl, rfl⟩ := Prod.mk.inj (hf.symm.trans h)
      exact .inr (.inr ⟨jobId, outcome, mid, rfl, by simp [nextJobId, hr, hq], hb, hp, rfl, hc'⟩)

/-! ## Runs -/

inductive Operation where
  | put (ctx : PutContext) (job : SocaJob) (raised : Option Raised)
  | delete (jobId : String)
  | getTurn (ctx : GetContext) (event : GetEvent)
  | destroy

def Step (self : JobProvisioningQueue) : Operation → JobProvisioningQueue → Prop
  | .put ctx job none, self' => self.put ctx job = some (.ok self')
  | .put ctx job (some e), self' => self.put ctx job = some (.error e) ∧ self' = self
  | .delete jobId, self' => self' = self.delete jobId
  | .getTurn ctx event, self' => self.getTurn ctx = some (self', event)
  | .destroy, self' => self' = self.destroy

theorem keys_delete (self : JobProvisioningQueue) (jobId : String) :
    (self.delete jobId).queuedJobs.keys = self.queuedJobs.keys := by
  unfold delete
  split
  · rfl
  · rename_i hg
    exact Dict.keys_set_of_mem (Dict.mem_keys_of_get? hg) _

theorem delete_extends (self : JobProvisioningQueue) (jobId : String) :
    Extends self (self.delete jobId) := by
  refine .of_eq ?_ ?_ (keys_delete self jobId) <;> (unfold delete; split <;> rfl)

theorem Step.consistent {op : Operation} (hc : self.Consistent) (h : Step self op self') :
    self'.Consistent := by
  cases op with
  | put ctx job raised =>
    cases raised with
    | none => exact (put_extends h).balanced hc
    | some e => exact h.2 ▸ hc
  | delete jobId => exact h ▸ (delete_extends self jobId).balanced hc
  | getTurn ctx event =>
    rcases getTurn_cases hc h with ⟨_, _, rfl⟩ | ⟨_, _, _, hc'⟩ | ⟨_, _, _, _, _, _, _, _, hc'⟩
    · exact hc
    · exact hc'
    · exact hc'
  | destroy => exact h ▸ hc

end JobProvisioningQueue

end Idea

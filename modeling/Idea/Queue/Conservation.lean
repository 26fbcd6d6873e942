import Idea.Queue.Balance
import Idea.Queue.Limits

/-! # Which jobs leave the provisioning queue

A turn of `get` removes the job it took on every way out of the processing. The handler of a
failed limit puts the job back while the map still has it, which only refreshes its entry,
so the job is lost. The runs that lose no job are those in which every job a turn takes out
is within its limits or no longer queued, and its checks raise only after a delete.
-/

namespace Idea

namespace JobProvisioningQueue

variable {self self' : JobProvisioningQueue}

/-- `delete` was called for the job, and no put has refreshed it since. -/
def MarkedDeleted (self : JobProvisioningQueue) (jobId : String) : Prop :=
  ∃ queuedJob, self.queuedJobs.get? jobId = some queuedJob ∧ queuedJob.deleted = some true

/-- The jobs that a step may remove: returned by it, no longer queued in the job cache, or
deleted before. -/
def released (e : Edge JobProvisioningQueue Operation) : Set String :=
  {jobId | MarkedDeleted e.pre jobId ∨
    ∃ ctx outcome, e.label = .getTurn ctx (.took jobId outcome) ∧
      ((∃ job, outcome = .returned job) ∨
        ∃ found, ctx.getJob jobId = .ok found ∧ ∀ job, found = some job → job.state ≠ some .queued)}

/-- A turn of `get` found a failing limit for the job. -/
def FoundFailingLimit (e : Edge JobProvisioningQueue Operation) (jobId : String) : Prop :=
  ∃ ctx outcome job limit, e.label = .getTurn ctx (.took jobId outcome) ∧
    ctx.getJob jobId = .ok (some job) ∧ job.state = some .queued ∧
    e.pre.failingLimit ctx job = .ok (some limit)

/-- A step removes only what it may, and keeps a job with a failing limit. -/
def Conserves (e : Edge JobProvisioningQueue Operation) : Prop :=
  (∀ jobId ∈ e.pre.queuedJobs.keys, jobId ∈ e.post.queuedJobs.keys ∨ jobId ∈ released e) ∧
    ∀ jobId, FoundFailingLimit e jobId → jobId ∈ e.post.queuedJobs.keys

/-- The job a turn takes out is not over a limit, and unless it was deleted, its lookup and
its limit checks do not raise. -/
def SafeTurn (self : JobProvisioningQueue) (ctx : GetContext) (jobId : String) : Prop :=
  (∀ job, ctx.getJob jobId = .ok (some job) → job.state = some .queued →
      ¬ OverLimit self.queueProfile ctx job) ∧
    (MarkedDeleted self jobId ∨ ∃ found, ctx.getJob jobId = .ok found ∧
      ∀ job, found = some job → job.state = some .queued → WithinLimits self.queueProfile ctx job)

/-- A step that is not a turn of `get`, or one that takes out nothing or a safe job. -/
def Safe (e : Edge JobProvisioningQueue Operation) : Prop :=
  ∀ ctx event, e.label = .getTurn ctx event →
    ∀ jobId, e.pre.nextJobId = some jobId → SafeTurn e.pre ctx jobId

theorem notOk_ne_ok {ctx : GetContext} {job : SocaJob} {limit : LimitCheckResult}
    {result : Except Raised LimitVerdict} (h : self.notOk ctx job limit = some (self', result)) :
    result ≠ .ok .ok := by
  simp only [notOk, Option.map_eq_some_iff] at h
  obtain ⟨put, _, h⟩ := h
  cases put with
  | error e =>
    obtain ⟨_, rfl⟩ := Prod.mk.inj h
    simp
  | ok queue =>
    dsimp only at h
    split at h
    · obtain ⟨_, rfl⟩ := Prod.mk.inj h
      cases ctx.setJobProvisioningError <;> simp [Except.map]
    · obtain ⟨_, rfl⟩ := Prod.mk.inj h
      simp

theorem checkLimits_ok_iff {ctx : GetContext} {job : SocaJob} {result : Except Raised LimitVerdict}
    (h : self.checkLimits ctx job = some (self', result)) :
    result = .ok .ok ↔ self.failingLimit ctx job = .ok none := by
  unfold checkLimits at h
  split at h
  · rename_i e hf
    obtain ⟨_, rfl⟩ := Prod.mk.inj (Option.some.inj h)
    simp [hf]
  · rename_i limit hf
    simp [hf, notOk_ne_ok h]
  · rename_i hf
    obtain ⟨_, rfl⟩ := Prod.mk.inj (Option.some.inj h)
    simp [hf]

theorem process_returned_iff {ctx : GetContext} {jobId : String} {outcome : Outcome}
    {job : SocaJob} (h : self.process ctx jobId = some (self', outcome)) :
    outcome = .returned job ↔ ctx.getJob jobId = .ok (some job) ∧
      job.state = some .queued ∧ self.failingLimit ctx job = .ok none := by
  unfold process at h
  split at h
  · rename_i e hl
    obtain ⟨_, rfl⟩ := Prod.mk.inj (Option.some.inj h)
    simp [hl]
  · rename_i hl
    obtain ⟨_, rfl⟩ := Prod.mk.inj (Option.some.inj h)
    simp [hl]
  · rename_i found hl
    split at h
    · rename_i hs
      obtain ⟨_, rfl⟩ := Prod.mk.inj (Option.some.inj h)
      simp only [hl, Except.ok.injEq, Option.some.injEq, reduceCtorEq, false_iff, not_and]
      rintro rfl hq
      exact absurd hq hs
    · rename_i hs
      simp only [ne_eq, not_not] at hs
      obtain ⟨⟨queue, result⟩, hc, h⟩ := Option.map_eq_some_iff.mp h
      have hok := checkLimits_ok_iff hc
      simp only [hl, Except.ok.injEq, Option.some.injEq]
      constructor
      · rintro rfl
        split at h
        · simp at h
        · obtain ⟨_, hj⟩ := Prod.mk.inj h
          obtain rfl := Outcome.returned.inj hj
          exact ⟨rfl, hs, hok.mp (by simp_all)⟩
        · simp at h
      · rintro ⟨rfl, _, hf⟩
        obtain rfl := hok.mpr hf
        exact (Prod.mk.inj h).2.symm

theorem mem_keys_of_took {ctx : GetContext} {jobId : String} {outcome : Outcome}
    (hc : self.Consistent) (h : self.getTurn ctx = some (self', .took jobId outcome)) :
    self.nextJobId = some jobId ∧ jobId ∈ self.queuedJobs.keys ∧ jobId ∉ self'.queuedJobs.keys ∧
      (∀ other ∈ self.queuedJobs.keys, other ≠ jobId → other ∈ self'.queuedJobs.keys) ∧
      ∃ mid, self.taking.process ctx jobId = some (mid, outcome) := by
  rcases getTurn_cases hc h with ⟨he, _⟩ | ⟨he, _⟩ | ⟨jobId', outcome', mid, he, hn, hb, hp, rfl, _⟩
  · simp at he
  · simp at he
  · obtain ⟨rfl, rfl⟩ : jobId = jobId' ∧ outcome = outcome' := by simpa using he
    refine ⟨hn, hb.subset (by simp), by simp, fun other ho hne => ?_, mid, hp⟩
    exact Dict.mem_keys_erase.mpr ⟨(process_extends hp).keys_subset ho, hne⟩

theorem turn_conserves_iff {ctx : GetContext} {jobId : String} {outcome : Outcome}
    (hc : self.Consistent) (h : self.getTurn ctx = some (self', .took jobId outcome)) :
    Conserves ⟨self, .getTurn ctx (.took jobId outcome), self'⟩ ↔ SafeTurn self ctx jobId := by
  obtain ⟨hn, hin, hout, hkeep, mid, hp⟩ := mem_keys_of_took hc h
  have hret : (∃ job, outcome = .returned job) ↔ ∃ job, ctx.getJob jobId = .ok (some job) ∧
      job.state = some .queued ∧ self.taking.failingLimit ctx job = .ok none :=
    exists_congr fun _ => process_returned_iff hp
  have hfl : ∀ job, self.taking.failingLimit ctx job = self.failingLimit ctx job := fun _ => rfl
  simp only [hfl] at hret
  constructor
  · rintro ⟨hleave, hfail⟩
    have hover : ∀ job, ctx.getJob jobId = .ok (some job) → job.state = some .queued →
        ¬ OverLimit self.queueProfile ctx job := by
      intro job hl hs ho
      rcases failingLimit_spec self ctx job with ⟨_, _, hno⟩ | ⟨limit, hf, _⟩ | ⟨_, _, _, hno⟩
      · exact hno ho
      · exact hout (hfail jobId ⟨ctx, outcome, job, limit, rfl, hl, hs, hf⟩)
      · exact hno ho
    refine ⟨hover, or_iff_not_imp_left.mpr fun hm => ?_⟩
    rcases (hleave jobId hin).resolve_left hout with hd | ⟨ctx', outcome', he, hx⟩
    · exact absurd hd hm
    · obtain ⟨rfl, rfl⟩ : ctx = ctx' ∧ outcome = outcome' := by simpa using he
      rcases hx with hx | ⟨found, hl, hns⟩
      · obtain ⟨job, hl, hs, hf⟩ := hret.mp hx
        refine ⟨some job, hl, fun job' hj _ => ?_⟩
        obtain rfl := Option.some.inj hj
        rcases failingLimit_spec self ctx job with ⟨_, hw, _⟩ | ⟨_, hf', _⟩ | ⟨_, hf', _⟩
        · exact hw
        · simp [hf] at hf'
        · simp [hf] at hf'
      · exact ⟨found, hl, fun job hj hs => absurd hs (hns job hj)⟩
  · rintro ⟨hover, hsafe⟩
    refine ⟨fun other ho => ?_, ?_⟩
    · by_cases hne : other = jobId
      · subst hne
        refine .inr ?_
        rcases hsafe with hm | ⟨found, hl, hw⟩
        · exact .inl hm
        · refine .inr ⟨ctx, outcome, rfl, ?_⟩
          by_cases hq : ∃ job, found = some job ∧ job.state = some .queued
          · obtain ⟨job, rfl, hs⟩ := hq
            refine .inl (hret.mpr ⟨job, hl, hs, ?_⟩)
            rcases failingLimit_spec self ctx job with ⟨hf, _⟩ | ⟨_, _, _, hno⟩ | ⟨_, _, hno, _⟩
            · exact hf
            · exact absurd (hw job rfl hs) hno
            · exact absurd (hw job rfl hs) hno
          · exact .inr ⟨found, hl, fun job hj hs => hq ⟨job, hj, hs⟩⟩
      · exact .inl (hkeep other ho hne)
    · rintro other ⟨ctx', outcome', job, limit, he, hl, hs, hf⟩
      obtain ⟨rfl, rfl, rfl⟩ : ctx = ctx' ∧ jobId = other ∧ outcome = outcome' := by
        simpa using he
      rcases failingLimit_spec self ctx job with ⟨hf', _⟩ | ⟨_, _, ho, _⟩ | ⟨_, hf', _⟩
      · simp [show self.failingLimit ctx job = _ from hf] at hf'
      · exact absurd ho (hover job hl hs)
      · simp [show self.failingLimit ctx job = _ from hf] at hf'

theorem Conserves.of_keys_subset {op : Operation}
    (hk : self.queuedJobs.keys ⊆ self'.queuedJobs.keys)
    (hop : ∀ ctx jobId outcome, op ≠ .getTurn ctx (.took jobId outcome)) :
    Conserves ⟨self, op, self'⟩ :=
  ⟨fun _ ho => .inl (hk ho), fun _ ⟨ctx, outcome, _, _, he, _⟩ => absurd he (hop ctx _ outcome)⟩

theorem Step.conserves_iff {op : Operation} (hc : self.Consistent) (h : Step self op self') :
    Conserves ⟨self, op, self'⟩ ↔ Safe ⟨self, op, self'⟩ := by
  cases op with
  | put ctx job raised =>
    have hk : self.queuedJobs.keys ⊆ self'.queuedJobs.keys := by
      cases raised with
      | none => exact (put_extends h).keys_subset
      | some e => exact h.2 ▸ List.Subset.refl _
    exact iff_of_true (.of_keys_subset hk (by simp)) (fun _ _ he => by simp at he)
  | delete jobId =>
    have hk : self.queuedJobs.keys ⊆ self'.queuedJobs.keys :=
      h ▸ (delete_extends self jobId).keys_subset
    exact iff_of_true (.of_keys_subset hk (by simp)) (fun _ _ he => by simp at he)
  | destroy =>
    have hk : self.queuedJobs.keys ⊆ self'.queuedJobs.keys := h ▸ List.Subset.refl _
    exact iff_of_true (.of_keys_subset hk (by simp)) (fun _ _ he => by simp at he)
  | getTurn ctx event =>
    rcases getTurn_cases hc h with ⟨rfl, hn, rfl⟩ | ⟨rfl, hn, rfl, _⟩ | ⟨jobId, outcome, _, rfl, hn, _⟩
    · exact iff_of_true (.of_keys_subset (List.Subset.refl _) (by simp))
        (fun _ _ _ jobId hj => by simp [hn] at hj)
    · exact iff_of_true (.of_keys_subset (List.Subset.refl _) (by simp))
        (fun _ _ _ jobId hj => by simp [hn] at hj)
    · rw [turn_conserves_iff hc h]
      refine ⟨fun hs ctx' event' he jobId' hj => ?_, fun hs => hs ctx _ rfl jobId hn⟩
      obtain ⟨rfl, rfl⟩ : ctx = ctx' ∧ _ = event' := by simpa using he
      obtain rfl := Option.some.inj (hn.symm.trans hj)
      exact hs

/-- In every run the priority queues and the map hold the same jobs, each once, and the run
loses no job exactly when each of its turns is safe. -/
theorem provisioning_queue_conserves_iff {queueProfile : HpcQueueProfile}
    {t : List (Edge JobProvisioningQueue Operation)} (h : Run Step (new queueProfile) t self) :
    self.Consistent ∧ (∀ e ∈ t, e.pre.Consistent ∧ e.post.Consistent) ∧
      ((∀ e ∈ t, Conserves e) ↔ ∀ e ∈ t, Safe e) := by
  have h₀ := consistent_new queueProfile
  refine ⟨h.invariant Consistent h₀ Step.consistent, ?_, ?_⟩
  · exact h.forall_edges Consistent h₀ Step.consistent fun hc hs => ⟨hc, hs.consistent hc⟩
  · exact h.forall_edges_iff Consistent h₀ Step.consistent fun hc hs => hs.conserves_iff hc

/-! A queue with one waiting job whose next turn finds the instance limit exceeded. -/

namespace Example

def profile (maxInstances : ℤ) : HpcQueueProfile :=
  { name := some "normal"
    queues := some ["normal"]
    queueManagementParams := some { maxProvisionedInstances := some maxInstances } }

def job : SocaJob :=
  { jobId := some "7"
    queue := some "normal"
    state := some .queued
    queueTime := some 100
    params := some { nodes := some 1 }
    provisioningOptions := some {} }

def queuedJob : QueuedJob := { priority := 107, jobId := "7", jobGroup := "normal" }

def ctx : GetContext :=
  { computeFairshareScore := fun _ => .ok 0
    digest := id
    getJob := fun _ => .ok (some job)
    instanceCount := .ok 1
    activeJobs := .ok 0
    setJobProvisioningError := .ok ()
    utcnow := 0 }

def waiting (maxInstances : ℤ) : JobProvisioningQueue :=
  { new (profile maxInstances) with
    queue := ⟨⟨[("normal", #["7"])], by decide⟩, 0, by decide⟩
    queuedJobs := ⟨[("7", queuedJob)], by decide⟩ }

def drained (maxInstances : ℤ) : JobProvisioningQueue :=
  { new (profile maxInstances) with
    queue := ⟨⟨[("normal", #[])], by decide⟩, 0, by decide⟩ }

def blocked : JobProvisioningQueue :=
  { drained 1 with
    limitFlagSet := some 0
    limitInfo := some
      { success := some false
        limitType := some LIMIT_TYPE_MAX_PROVISIONED_INSTANCES
        queueThreshold := some 1
        queueCurrent := 2 } }

theorem put_waiting (maxInstances : ℤ) :
    Step (new (profile maxInstances)) (.put ctx.toPutContext job none) (waiting maxInstances) :=
  rfl

theorem getTurn_blocked :
    Step (waiting 1) (.getTurn ctx (.took "7" (.limited .blocked))) blocked :=
  rfl

theorem getTurn_drained :
    Step (waiting 2) (.getTurn ctx (.took "7" (.returned job))) (drained 2) :=
  rfl

def returning : List (Edge JobProvisioningQueue Operation) :=
  [⟨new (profile 2), .put ctx.toPutContext job none, waiting 2⟩,
    ⟨waiting 2, .getTurn ctx (.took "7" (.returned job)), drained 2⟩]

theorem run_returning : Run Step (new (profile 2)) returning (drained 2) :=
  .snoc (.snoc .nil (put_waiting 2)) getTurn_drained

theorem safe_waiting : SafeTurn (waiting 2) ctx "7" := by
  have hw : WithinLimits (profile 2) ctx job :=
    ⟨⟨_, 1, rfl, rfl, .inr ⟨1, rfl, by decide⟩⟩, ⟨_, rfl, .inl rfl⟩⟩
  have hj : ∀ j, (Except.ok (some job) : Except Raised _) = .ok (some j) → job = j := by simp
  refine ⟨fun j hl _ ho => ?_, .inr ⟨some job, rfl, fun j hj _ => Option.some.inj hj ▸ hw⟩⟩
  obtain rfl := hj j hl
  rcases failingLimit_spec (waiting 2) ctx job with ⟨_, _, hno⟩ | ⟨_, _, _, hno⟩ | ⟨_, _, _, hno⟩
  · exact hno ho
  · exact hno hw
  · exact hno ho

end Example

open Example in
/-- A run in which the job is within its limits and returned. -/
theorem provisioning_queue_conserves_returning :
    (drained 2).Consistent ∧ ∀ e ∈ returning, Conserves e := by
  have h := provisioning_queue_conserves_iff run_returning
  refine ⟨h.1, h.2.2.mpr ?_⟩
  simp only [returning, List.forall_mem_cons, List.not_mem_nil, false_imp_iff, implies_true,
    and_true]
  refine ⟨fun _ _ he => by simp at he, fun ctx' event he jobId hj => ?_⟩
  obtain ⟨rfl, _⟩ : Example.ctx = ctx' ∧ _ = event := by simpa using he
  obtain rfl : "7" = jobId := Option.some.inj hj
  exact safe_waiting

open Example in
/-- A job over the instance limit is gone after the turn that found it so. -/
theorem provisioning_queue_loses_limited_job :
    ¬ ∀ (queueProfile : HpcQueueProfile) (t : List (Edge JobProvisioningQueue Operation))
      (self : JobProvisioningQueue), Run Step (new queueProfile) t self →
        self.Consistent ∧ ∀ e ∈ t, Conserves e := by
  intro h
  have hr : Run Step (new (profile 1)) _ blocked := .snoc (.snoc .nil (put_waiting 1)) getTurn_blocked
  have hc := (h _ _ _ hr).2 _ (List.mem_append_right _ (List.mem_singleton_self _))
  have hf := hc.2 "7" ⟨ctx, .limited .blocked, job, _, rfl, rfl, rfl, rfl⟩
  exact absurd hf (by decide)

end JobProvisioningQueue

end Idea

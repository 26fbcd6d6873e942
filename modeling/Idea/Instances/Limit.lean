import Idea.Instances.Session
import Idea.Queue.Conservation

/-! # The provisioned-instances limit

The instance cache and a provisioning queue run side by side, and each turn of `get` reads
the cached count of its queue profile. As long as the tallies of the commits are right, the
cached counts are the numbers of instances of the last committed session, and no job is
returned whose nodes on top of the instances of the profile exceed its limit.
-/

namespace Idea

/-- The instance cache with a provisioning queue that reads it. -/
structure LimitState where
  sync : SyncState
  queue : JobProvisioningQueue

inductive LimitOp where
  | cache (op : SyncOp)
  | queue (op : JobProvisioningQueue.Operation)

def LimitState.new (queueProfile : HpcQueueProfile) : LimitState :=
  ⟨⟨.new, ∅, ∅⟩, .new queueProfile⟩

variable (store : CacheStore) (names : SchedulerNames)

/-- A step of the cache or of the queue. A turn of `get` sees the count of that moment. -/
def LimitStep (s : LimitState) : LimitOp → LimitState → Prop
  | .cache op, s' => SyncStep store names s.sync op s'.sync ∧ s'.queue = s.queue
  | .queue op, s' => JobProvisioningQueue.Step s.queue op s'.queue ∧ s'.sync = s.sync ∧
      ∀ ctx event, op = .getTurn ctx event → ctx.instanceCount =
        .ok (s.sync.cache.getQueueProfileInstanceCount s.queue.queueType)

/-- The pages of the step fit into the cache, and nothing of a running session expires. -/
def Fits (e : Edge LimitState LimitOp) : Prop :=
  ∀ op, e.label = .cache op → SyncFits e.pre.sync op

def TalliesRight (e : Edge LimitState LimitOp) : Prop :=
  e.label = .cache .commit → CommitRight names e.pre.sync

/-- A job the step returns fits under the limit on top of the instances of the profile. -/
def LimitKept (e : Edge LimitState LimitOp) : Prop :=
  ∀ ctx jobId job, e.label = .queue (.getTurn ctx (.took jobId (.returned job))) →
    ∀ params, e.pre.queue.queueProfile.queueManagementParams = some params →
      getAsInt params.maxProvisionedInstances 0 ≠ 0 →
        ∃ nodes, job.desiredNodes = .ok nodes ∧
          nodes + committedCount names EC2Instance.socaQueueType e.pre.queue.queueType e.pre.sync ≤
            getAsInt params.maxProvisionedInstances 0

variable {store names} {s s' : LimitState}

theorem countsRight_new (queueProfile : HpcQueueProfile) :
    CountsRight names (LimitState.new queueProfile).sync :=
  ⟨fun _ => rfl, fun _ => rfl, fun _ => rfl⟩

theorem agrees_new (queueProfile : HpcQueueProfile) : Agrees (LimitState.new queueProfile).sync :=
  fun _ hs => by simp [LimitState.new, InstanceCache.new] at hs

theorem LimitStep.agrees {op : LimitOp} (ha : Agrees s.sync) (h : LimitStep store names s op s')
    (hf : Fits ⟨s, op, s'⟩) : Agrees s'.sync := by
  cases op with
  | cache op => exact h.1.agrees ha (hf op rfl)
  | queue op => exact h.2.1 ▸ ha

theorem LimitStep.countsRight {op : LimitOp} (ha : Agrees s.sync)
    (h : LimitStep store names s op s') (ht : TalliesRight names ⟨s, op, s'⟩)
    (hr : CountsRight names s.sync) : CountsRight names s'.sync := by
  cases op with
  | cache op =>
    by_cases hop : op = .commit
    · subst hop
      exact (h.1.countsRight_commit_iff ha).mpr (ht rfl)
    · exact h.1.countsRight hop hr
  | queue op => exact h.2.1 ▸ hr

theorem LimitStep.limitKept {op : LimitOp} (hc : s.queue.Consistent)
    (h : LimitStep store names s op s') (hr : CountsRight names s.sync) :
    LimitKept names ⟨s, op, s'⟩ := by
  rintro ctx jobId job rfl params hp hmax
  obtain ⟨hs, _, hcount⟩ := h
  obtain ⟨_, _, _, _, mid, hproc⟩ := JobProvisioningQueue.mem_keys_of_took hc hs
  obtain ⟨_, _, hf⟩ := (JobProvisioningQueue.process_returned_iff hproc).mp rfl
  have hw : JobProvisioningQueue.WithinInstanceLimit s.queue.queueProfile ctx job := by
    rcases JobProvisioningQueue.failingLimit_spec s.queue.taking ctx job with
      ⟨_, hw, _⟩ | ⟨_, hf', _⟩ | ⟨_, hf', _⟩
    · exact hw.1
    · simp [hf] at hf'
    · simp [hf] at hf'
  obtain ⟨params', count, hp', hn, hle⟩ := hw
  obtain rfl := Option.some.inj (hp.symm.trans hp')
  obtain rfl := Except.ok.inj ((hcount ctx _ rfl).symm.trans hn)
  obtain ⟨nodes, hd, hle⟩ := hle.resolve_left hmax
  rw [hr.queueProfile] at hle
  exact ⟨nodes, hd, by rw [Int.add_comm]; exact hle⟩

theorem LimitStep.consistent {op : LimitOp} (hc : s.queue.Consistent)
    (h : LimitStep store names s op s') : s'.queue.Consistent := by
  cases op with
  | cache op => exact h.2 ▸ hc
  | queue op => exact h.1.consistent hc

/-- In every run that stays within the cache, the cached counts are right throughout exactly
when the tallies of all its commits are, and then every returned job keeps the limit. -/
theorem counts_right_iff_and_limit_kept {queueProfile : HpcQueueProfile}
    {t : List (Edge LimitState LimitOp)}
    (h : Run (LimitStep store names) (LimitState.new queueProfile) t s)
    (hfit : ∀ e ∈ t, Fits e) :
    ((∀ e ∈ t, CountsRight names e.post.sync) ↔ ∀ e ∈ t, TalliesRight names e) ∧
      ((∀ e ∈ t, TalliesRight names e) → ∀ e ∈ t, LimitKept names e) := by
  have hedge : ∀ e ∈ t, Agrees e.pre.sync ∧ e.pre.queue.Consistent ∧
      LimitStep store names e.pre e.label e.post :=
    h.forall_edges_of (fun s => Agrees s.sync ∧ s.queue.Consistent)
      ⟨agrees_new queueProfile, JobProvisioningQueue.consistent_new queueProfile⟩
      (fun hi hs hf => ⟨hs.agrees hi.1 hf, hs.consistent hi.2⟩) hfit
      fun hi hs _ => ⟨hi.1, hi.2, hs⟩
  have hright : (∀ e ∈ t, TalliesRight names e) → ∀ e ∈ t,
      CountsRight names e.pre.sync ∧ CountsRight names e.post.sync := by
    intro ht
    have hp : ∀ e ∈ t, Agrees e.pre.sync ∧ TalliesRight names e :=
      fun e he => ⟨(hedge e he).1, ht e he⟩
    refine h.forall_edges_of (fun s => CountsRight names s.sync) (countsRight_new queueProfile)
      ?_ hp ?_
    · exact fun hr hs hp => hs.countsRight hp.1 hp.2 hr
    · exact fun hr hs hp => ⟨hr, hs.countsRight hp.1 hp.2 hr⟩
  refine ⟨⟨fun hpost e he hl => ?_, fun ht e he => (hright ht e he).2⟩, fun ht e he => ?_⟩
  · obtain ⟨ha, _, hs⟩ := hedge e he
    rw [hl] at hs
    exact (hs.1.countsRight_commit_iff ha).mp (hpost e he)
  · obtain ⟨_, hc, hs⟩ := hedge e he
    exact hs.limitKept hc (hright ht e he).1

/-! A committed session with running instances of one queue profile, and a turn of `get` that
reads its count. -/

namespace LimitExample

def fifo : CacheStore where
  write d k v :=
    if d.size < INSTANCE_CACHE_MAX_SIZE ∨ k ∈ d.keys then (d.erase k).set k v
    else (d.keys.head?.elim d d.erase).set k v
  get?_write d k v k' h := by
    rw [if_pos h, Dict.get?_set, Dict.get?_erase]
    split <;> rfl

def testNames : SchedulerNames := ⟨"idea-test", "scheduler"⟩

def runningInstance (instanceId jobId : String) : EC2Instance :=
  { instanceId
    state := some "running"
    tags := some [(Tag.CLUSTER_NAME, "idea-test"), (Tag.MODULE_ID, "scheduler"),
      (Tag.NODE_TYPE, NODE_TYPE_COMPUTE), (Tag.JOB_ID, jobId), (Tag.QUEUE_TYPE, "normal")] }

open JobProvisioningQueue.Example (profile job ctx waiting drained put_waiting getTurn_drained)

def synced (instances : List EC2Instance) : SyncState :=
  let db := InMemoryInstanceDB.addMany fifo ∅ instances
  ⟨{ InstanceCache.new with
      db
      session := some ⟨[], [] ++ instances.map (·.instanceId)⟩ },
    InMemoryInstanceDB.withItems ∅ instances, ∅⟩

def committed (instances : List EC2Instance) : SyncState :=
  let s := synced instances
  let session : InstanceSyncSession := ⟨[], [] ++ instances.map (·.instanceId)⟩
  let db := session.commit s.cache.db
  let computeInstances := InstanceCache.listComputeInstances testNames db
  ⟨{ s.cache with
      db
      isReady := true
      jobMetrics := tally EC2Instance.socaJobId computeInstances
      jobGroupMetrics := tally EC2Instance.socaJobGroup computeInstances
      queueProfileMetrics := tally EC2Instance.socaQueueType computeInstances },
    s.synced, s.synced⟩

def begun : SyncState := ⟨InstanceCache.new.syncBegin, ∅, ∅⟩

/-- The session, then a put and a turn of `get` within the limit of two as counted. -/
def trace (instances : List EC2Instance) : List (Edge LimitState LimitOp) :=
  [⟨.new (profile 2), .cache .begin, ⟨begun, .new (profile 2)⟩⟩,
    ⟨⟨begun, .new (profile 2)⟩, .cache (.sync instances), ⟨synced instances, .new (profile 2)⟩⟩,
    ⟨⟨synced instances, .new (profile 2)⟩, .cache .commit,
      ⟨committed instances, .new (profile 2)⟩⟩,
    ⟨⟨committed instances, .new (profile 2)⟩, .queue (.put ctx.toPutContext job none),
      ⟨committed instances, waiting 2⟩⟩,
    ⟨⟨committed instances, waiting 2⟩, .queue (.getTurn ctx (.took "7" (.returned job))),
      ⟨committed instances, drained 2⟩⟩]

theorem run_trace (instances : List EC2Instance)
    (h : (committed instances).cache.getQueueProfileInstanceCount (some "normal") = 1) :
    Run (LimitStep fifo testNames) (.new (profile 2)) (trace instances)
      ⟨committed instances, drained 2⟩ := by
  have hput : JobProvisioningQueue.Step (.new (profile 2)) (.put ctx.toPutContext job none)
      (waiting 2) := put_waiting 2
  have h₁ : LimitStep fifo testNames (.new (profile 2)) (.cache .begin)
      ⟨begun, .new (profile 2)⟩ := ⟨rfl, rfl⟩
  have h₂ : LimitStep fifo testNames ⟨begun, .new (profile 2)⟩ (.cache (.sync instances))
      ⟨synced instances, .new (profile 2)⟩ := ⟨⟨_, rfl, rfl⟩, rfl⟩
  have h₃ : LimitStep fifo testNames ⟨synced instances, .new (profile 2)⟩ (.cache .commit)
      ⟨committed instances, .new (profile 2)⟩ := ⟨⟨_, rfl, rfl⟩, rfl⟩
  have h₄ : LimitStep fifo testNames ⟨committed instances, .new (profile 2)⟩
      (.queue (.put ctx.toPutContext job none)) ⟨committed instances, waiting 2⟩ :=
    ⟨hput, rfl, by simp⟩
  have h₅ : LimitStep fifo testNames ⟨committed instances, waiting 2⟩
      (.queue (.getTurn ctx (.took "7" (.returned job)))) ⟨committed instances, drained 2⟩ := by
    refine ⟨getTurn_drained, rfl, fun ctx' event he => ?_⟩
    obtain ⟨rfl, _⟩ : ctx = ctx' ∧ _ = event := by simpa using he
    exact congrArg Except.ok h.symm
  exact ((((Run.nil.snoc h₁).snoc h₂).snoc h₃).snoc h₄).snoc h₅

theorem fits_trace {instances : List EC2Instance}
    (h : instances.length ≤ INSTANCE_CACHE_MAX_SIZE) : ∀ e ∈ trace instances, Fits e := by
  simp only [trace, List.forall_mem_cons, List.not_mem_nil, false_imp_iff, implies_true, and_true]
  refine ⟨?_, ?_, ?_, ?_, ?_⟩ <;> rintro op he <;> simp only [LimitOp.cache.injEq, reduceCtorEq] at he
  · subst he; trivial
  · subst he
    change 0 + instances.length ≤ INSTANCE_CACHE_MAX_SIZE
    omega
  · subst he; trivial

def one : List EC2Instance := [runningInstance "i-1" "5"]

def two : List EC2Instance := [runningInstance "i-1" "5", runningInstance "i-2" "6"]

theorem talliesRight_one : ∀ e ∈ trace one, TalliesRight testNames e := by
  simp only [trace, List.forall_mem_cons, List.not_mem_nil, false_imp_iff, implies_true, and_true]
  refine ⟨?_, ?_, ?_, ?_, ?_⟩ <;> intro he <;>
    simp only [LimitOp.cache.injEq, reduceCtorEq] at he
  intro session hs key hkey k
  obtain rfl := Option.some.inj hs
  have hcount : ∀ key ∈ [EC2Instance.socaJobId, EC2Instance.socaJobGroup,
      EC2Instance.socaQueueType], key (runningInstance "i-1" "5") ≠ some "count" := by
    simp only [List.forall_mem_cons, List.not_mem_nil, false_imp_iff, implies_true, and_true]
    decide
  have hlist : InstanceCache.listComputeInstances testNames
      (InstanceSyncSession.commit ⟨[], [] ++ one.map (·.instanceId)⟩ (synced one).cache.db) =
        one := by decide
  rw [hlist, tallyRight_of_no_count (by simpa [one] using hcount key hkey)]
  exact List.countP_le_length

end LimitExample

open LimitExample JobProvisioningQueue.Example in
/-- One running instance and a job of one node under a limit of two. -/
theorem limit_kept_with_one_instance :
    (∀ e ∈ trace one, CountsRight testNames e.post.sync) ∧
      ∀ e ∈ trace one, LimitKept testNames e := by
  have h := counts_right_iff_and_limit_kept (run_trace one (by decide)) (fits_trace (by decide))
  exact ⟨h.1.mpr talliesRight_one, h.2 talliesRight_one⟩

open LimitExample JobProvisioningQueue.Example in
/-- Two running instances are counted as one, and a job that makes three is returned. -/
theorem limit_exceeded_with_two_instances :
    ¬ ∀ (store : CacheStore) (names : SchedulerNames) (queueProfile : HpcQueueProfile)
      (t : List (Edge LimitState LimitOp)) (s : LimitState),
        Run (LimitStep store names) (LimitState.new queueProfile) t s → (∀ e ∈ t, Fits e) →
          (∀ e ∈ t, CountsRight names e.post.sync) ∧ ∀ e ∈ t, LimitKept names e := by
  intro h
  have hr := run_trace two (by decide)
  have hk := (h _ _ _ _ _ hr (fits_trace (by decide))).2 _
    (List.mem_append_right [_, _, _, _] List.mem_cons_self)
  obtain ⟨nodes, hd, hle⟩ := hk ctx "7" job rfl _ rfl (by decide)
  obtain rfl : (1 : ℤ) = nodes := Except.ok.inj hd
  exact absurd hle (by decide)

end Idea

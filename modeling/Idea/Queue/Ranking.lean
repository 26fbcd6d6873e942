import Idea.Data.HeapOrder
import Idea.Queue.GetLoop

/-! # The job that is served

Each priority queue holds the queued jobs of its group, ordered by their priorities, so a turn
of `get` takes out a job of the least priority. A put of a job that is queued already changes
its priority where it stands in the queue and does not move it. The order is kept when the job
still fits there, and then every job that is returned is first among the jobs of its group.
-/

namespace Idea

namespace JobProvisioningQueue

variable {self self' : JobProvisioningQueue} {queues : Dict String (Array String)}
  {queuedJobs queuedJobs' : Dict String QueuedJob} {group jobId : String} {heap : Array String}

def priorityOf (queuedJobs : Dict String QueuedJob) (jobId : String) : ℤ :=
  ((queuedJobs.get? jobId).map QueuedJob.priority).getD 0

theorem priorityLt_compares (h : heap.toList ⊆ queuedJobs.keys) :
    Heap.Compares (priorityLt queuedJobs) (priorityOf queuedJobs) heap := by
  intro a ha b hb
  obtain ⟨queuedJob, hq⟩ := Dict.exists_get?_of_mem_keys (h ha)
  obtain ⟨queuedJob', hq'⟩ := Dict.exists_get?_of_mem_keys (h hb)
  simp [priorityLt, priorityOf, hq, hq']

/-- Each priority queue holds queued jobs of its group and is ordered by their priorities. -/
structure Filed (queues : Dict String (Array String)) (queuedJobs : Dict String QueuedJob) :
    Prop where
  group : ∀ group heap, queues.get? group = some heap → ∀ jobId ∈ heap.toList,
    ∃ queuedJob, queuedJobs.get? jobId = some queuedJob ∧ queuedJob.jobGroup = group
  ordered : ∀ group heap, queues.get? group = some heap →
    Heap.Ordered (priorityOf queuedJobs) heap

def itemsOf (queues : Dict String (Array String)) : List String :=
  queues.entries.flatMap fun entry => entry.2.toList

theorem mem_itemsOf : jobId ∈ itemsOf queues ↔
    ∃ group heap, queues.get? group = some heap ∧ jobId ∈ heap.toList := by
  simp only [itemsOf, List.mem_flatMap]
  constructor
  · rintro ⟨entry, hentry, hmem⟩
    exact ⟨entry.1, entry.2, Dict.mem_entries.mp hentry, hmem⟩
  · rintro ⟨group, heap, hget, hmem⟩
    exact ⟨(group, heap), Dict.mem_entries.mpr hget, hmem⟩

theorem Filed.keys (h : Filed queues queuedJobs) (hget : queues.get? group = some heap) :
    heap.toList ⊆ queuedJobs.keys := by
  intro jobId hmem
  obtain ⟨queuedJob, hq, _⟩ := h.group group heap hget jobId hmem
  exact Dict.mem_keys_of_get? hq

theorem Filed.congr (h : Filed queues queuedJobs)
    (hsame : ∀ jobId ∈ itemsOf queues, queuedJobs'.get? jobId = queuedJobs.get? jobId) :
    Filed queues queuedJobs' := by
  constructor
  · intro group heap hget jobId hmem
    rw [hsame jobId (mem_itemsOf.mpr ⟨group, heap, hget, hmem⟩)]
    exact h.group group heap hget jobId hmem
  · intro group heap hget
    refine (h.ordered group heap hget).congr fun jobId hmem => ?_
    unfold priorityOf
    rw [hsame jobId (mem_itemsOf.mpr ⟨group, heap, hget, hmem⟩)]

theorem Filed.set (h : Filed queues queuedJobs)
    (hgroup : ∀ jobId ∈ heap.toList, ∃ queuedJob, queuedJobs.get? jobId = some queuedJob ∧
      queuedJob.jobGroup = group)
    (hordered : Heap.Ordered (priorityOf queuedJobs) heap) :
    Filed (queues.set group heap) queuedJobs := by
  constructor
  · intro group' heap' hget
    rw [Dict.get?_set] at hget
    split at hget
    · rename_i he
      obtain rfl := Option.some.inj hget
      exact he ▸ hgroup
    · exact h.group group' heap' hget
  · intro group' heap' hget
    rw [Dict.get?_set] at hget
    split at hget
    · obtain rfl := Option.some.inj hget
      exact hordered
    · exact h.ordered group' heap' hget

theorem Filed.erase (h : Filed queues queuedJobs) (group : String) :
    Filed (queues.erase group) queuedJobs := by
  have hget : ∀ {group' heap}, (queues.erase group).get? group' = some heap →
      queues.get? group' = some heap := by
    intro group' heap hget
    rw [Dict.get?_erase] at hget
    split at hget
    · simp at hget
    · exact hget
  exact ⟨fun group' heap h' => h.group group' heap (hget h'),
    fun group' heap h' => h.ordered group' heap (hget h')⟩

theorem Filed.push (h : Filed queues queuedJobs) {queuedJob : QueuedJob}
    (hq : queuedJobs.get? jobId = some queuedJob) :
    Filed (queues.set queuedJob.jobGroup (Heap.heappush (priorityLt queuedJobs)
      ((queues.get? queuedJob.jobGroup).getD #[]) jobId)) queuedJobs := by
  generalize hold : (queues.get? queuedJob.jobGroup).getD #[] = old
  have hgroup : ∀ id ∈ old.toList, ∃ queuedJob', queuedJobs.get? id = some queuedJob' ∧
      queuedJob'.jobGroup = queuedJob.jobGroup := by
    cases hget : queues.get? queuedJob.jobGroup with
    | none => simp [← hold, hget]
    | some heap =>
      obtain rfl : heap = old := by simpa [hget] using hold
      exact h.group _ _ hget
  have hordered : Heap.Ordered (priorityOf queuedJobs) old := by
    cases hget : queues.get? queuedJob.jobGroup with
    | none =>
      obtain rfl : #[] = old := by simpa [hget] using hold
      exact fun i _ => Heap.leAt_of_size_le (Nat.zero_le _)
    | some heap =>
      obtain rfl : heap = old := by simpa [hget] using hold
      exact h.ordered _ _ hget
  refine h.set (fun id hid => ?_) (Heap.ordered_heappush (priorityLt_compares ?_) hordered)
  · rcases List.mem_cons.mp ((Heap.heappush_perm _ old jobId).mem_iff.mp hid) with rfl | hmem
    · exact ⟨queuedJob, hq, rfl⟩
    · exact hgroup id hmem
  · intro id hid
    rw [Array.toList_push, List.mem_append, List.mem_singleton] at hid
    rcases hid with hmem | rfl
    · obtain ⟨_, hid, _⟩ := hgroup id hmem
      exact Dict.mem_keys_of_get? hid
    · exact Dict.mem_keys_of_get? hq

theorem Filed.pop (h : Filed queues queuedJobs) (hget : queues.get? group = some heap)
    {rest : Array String}
    (hpop : Heap.heappop (priorityLt queuedJobs) heap = some (jobId, rest)) :
    Filed (queues.set group rest) queuedJobs ∧
      ∀ other ∈ heap.toList, priorityOf queuedJobs jobId ≤ priorityOf queuedJobs other := by
  have hcompares := priorityLt_compares (h.keys hget)
  obtain ⟨hrest, hleast⟩ := Heap.ordered_heappop hcompares (h.ordered group heap hget) hpop
  refine ⟨h.set (fun id hid => h.group group heap hget id ?_) hrest, hleast⟩
  exact (Heap.heappop_perm hpop).symm.subset (List.mem_cons_of_mem _ hid)

/-- Where the job stands in a priority queue it fits with the priority, too. -/
def FitsInPlace (self : JobProvisioningQueue) (jobId : String) (priority : ℤ) : Prop :=
  ∀ group heap i, self.queue.queues.get? group = some heap → heap[i]? = some jobId →
    Heap.Fits (priorityOf self.queuedJobs) heap i priority

/-- What a put leaves: the queue as it was, a new entry of a queued job, or a new job. -/
inductive PutEffect (self : JobProvisioningQueue) (job : SocaJob) : JobProvisioningQueue → Prop
  | nothing : PutEffect self job self
  | refreshed {jobId old priority} (hid : job.jobId = some jobId)
    (hold : self.queuedJobs.get? jobId = some old) :
    PutEffect self job { self with
      queuedJobs := self.queuedJobs.set jobId { old with priority, deleted := none } }
  | queued {queuedJob : QueuedJob} {queue} (hid : job.jobId = some queuedJob.jobId)
    (hnew : queuedJob.jobId ∉ self.queuedJobs.keys)
    (hput : self.queue.put (priorityLt (self.queuedJobs.set queuedJob.jobId queuedJob))
      queuedJob.jobGroup queuedJob.jobId = some queue) :
    PutEffect self job
      { self with queue, queuedJobs := self.queuedJobs.set queuedJob.jobId queuedJob }

theorem put_effect {ctx : PutContext} {job : SocaJob} (h : self.put ctx job = some (.ok self')) :
    PutEffect self job self' := by
  unfold put at h
  split at h
  · obtain rfl := Except.ok.inj (Option.some.inj h)
    exact .nothing
  split at h
  · obtain rfl := Except.ok.inj (Option.some.inj h)
    exact .nothing
  split at h
  · obtain rfl := Except.ok.inj (Option.some.inj h)
    exact .nothing
  split at h
  · rename_i jobId old hfind
    simp only [findQueuedJob, Option.bind_eq_some_iff, Option.map_eq_some_iff] at hfind
    obtain ⟨_, hid, _, hold, hp⟩ := hfind
    obtain ⟨rfl, rfl⟩ := Prod.mk.inj hp
    cases hpriority : self.getJobPriority ctx job with
    | error e => simp [hpriority, Except.map] at h
    | ok priority =>
      simp only [hpriority, Except.map, Option.some.injEq, Except.ok.injEq] at h
      exact h ▸ .refreshed hid hold
  · rename_i hfind
    split at h
    · simp at h
    · rename_i queuedJob hnew
      simp only [Option.map_eq_some_iff, Except.ok.injEq] at h
      obtain ⟨queue, hput, rfl⟩ := h
      have hid := jobId_newQueuedJob hnew
      exact .queued hid ((findQueuedJob_eq_none hid).mp hfind) hput

/-- Only the entry of one job differs, and the priority queues do not. -/
structure Touches (jobId : String) (before after : JobProvisioningQueue) : Prop where
  queue : after.queue = before.queue
  others : ∀ other, other ≠ jobId → after.queuedJobs.get? other = before.queuedJobs.get? other

theorem Touches.refl (jobId : String) (self : JobProvisioningQueue) : Touches jobId self self :=
  ⟨rfl, fun _ _ => rfl⟩

theorem put_touches {ctx : PutContext} {job : SocaJob} (hid : job.jobId = some jobId)
    (hmem : jobId ∈ self.queuedJobs.keys) (h : self.put ctx job = some (.ok self')) :
    Touches jobId self self' := by
  cases put_effect h with
  | nothing => exact .refl _ _
  | refreshed hid' hold =>
    obtain rfl := Option.some.inj (hid.symm.trans hid')
    exact ⟨rfl, fun other hne => Dict.get?_set_ne _ hne _⟩
  | queued hid' hnew _ =>
    obtain rfl := Option.some.inj (hid.symm.trans hid')
    exact absurd hmem hnew

theorem notOk_touches {ctx : GetContext} {job : SocaJob} {limit : LimitCheckResult}
    {result : Except Raised LimitVerdict} (hid : job.jobId = some jobId)
    (hmem : jobId ∈ self.queuedJobs.keys) (h : self.notOk ctx job limit = some (self', result)) :
    Touches jobId self self' := by
  simp only [notOk, Option.map_eq_some_iff] at h
  obtain ⟨put, hput, h⟩ := h
  cases put with
  | error e =>
    obtain ⟨rfl, _⟩ := Prod.mk.inj h
    exact .refl _ _
  | ok queue =>
    have ht := put_touches hid hmem hput
    dsimp only at h
    split at h
    · obtain ⟨rfl, _⟩ := Prod.mk.inj h
      exact ⟨ht.queue, ht.others⟩
    · obtain ⟨rfl, _⟩ := Prod.mk.inj h
      exact ⟨ht.queue, ht.others⟩

theorem process_touches {ctx : GetContext} {outcome : Outcome} (hk : Keyed ctx)
    (hmem : jobId ∈ self.queuedJobs.keys) (h : self.process ctx jobId = some (self', outcome)) :
    Touches jobId self self' := by
  unfold process at h
  split at h
  · obtain ⟨rfl, _⟩ := Prod.mk.inj (Option.some.inj h)
    exact .refl _ _
  · obtain ⟨rfl, _⟩ := Prod.mk.inj (Option.some.inj h)
    exact .refl _ _
  · rename_i job hjob
    split at h
    · obtain ⟨rfl, _⟩ := Prod.mk.inj (Option.some.inj h)
      exact .refl _ _
    · obtain ⟨⟨mid, result⟩, hc, h⟩ := Option.map_eq_some_iff.mp h
      have ht : Touches jobId self mid := by
        unfold checkLimits at hc
        split at hc
        · obtain ⟨rfl, _⟩ := Prod.mk.inj (Option.some.inj hc)
          exact .refl _ _
        · exact notOk_touches (hk jobId job hjob) hmem hc
        · obtain ⟨rfl, _⟩ := Prod.mk.inj (Option.some.inj hc)
          exact ⟨rfl, fun _ _ => rfl⟩
      split at h <;> (obtain ⟨rfl, _⟩ := Prod.mk.inj h; simp_all)

/-- The books agree and the priority queues are in order. -/
structure Ranked (state : JobProvisioningQueue) : Prop where
  consistent : state.Consistent
  filed : Filed state.queue.queues state.queuedJobs

theorem ranked_new (queueProfile : HpcQueueProfile) : Ranked (new queueProfile) := by
  have hnone : ∀ group heap, (new queueProfile).queue.queues.get? group ≠ some heap := by
    rintro group heap ⟨⟩
  constructor
  · exact consistent_new queueProfile
  · constructor
    · intro group heap hget
      exact absurd hget (hnone group heap)
    · intro group heap hget
      exact absurd hget (hnone group heap)

theorem Ranked.nodup (h : Ranked self) : self.queue.items.Nodup :=
  h.consistent.nodup_iff.mpr self.queuedJobs.nodup_keys

theorem Ranked.heap_nodup (h : Ranked self) (hget : self.queue.queues.get? group = some heap) :
    heap.toList.Nodup := by
  obtain ⟨l₁, l₂, hl, _, _⟩ := Dict.entries_split hget
  have hn := h.nodup
  simp only [RoundRobinPriorityQueue.items, hl, List.flatMap_append, List.flatMap_cons] at hn
  exact (List.nodup_append.mp (List.nodup_append.mp hn).2.1).1

theorem Ranked.refresh (h : Ranked self) {old : QueuedJob} {priority : ℤ}
    (hold : self.queuedJobs.get? jobId = some old) (hfits : FitsInPlace self jobId priority) :
    Filed self.queue.queues
      (self.queuedJobs.set jobId { old with priority, deleted := none }) := by
  constructor
  · intro group heap hget id hid
    obtain ⟨queuedJob, hq, hg⟩ := h.filed.group group heap hget id hid
    rw [Dict.get?_set]
    split
    · rename_i he
      obtain rfl := Option.some.inj (hold.symm.trans (he ▸ hq))
      exact ⟨_, rfl, hg⟩
    · exact ⟨queuedJob, hq, hg⟩
  · intro group heap hget
    have hne : ∀ id, id ≠ jobId →
        priorityOf (self.queuedJobs.set jobId { old with priority, deleted := none }) id =
          priorityOf self.queuedJobs id := by
      intro id hid
      simp [priorityOf, Dict.get?_set_ne _ hid]
    by_cases hmem : jobId ∈ heap.toList
    · obtain ⟨i, hi⟩ := List.getElem?_of_mem hmem
      rw [Array.getElem?_toList] at hi
      refine (Heap.ordered_iff_fits (h.filed.ordered group heap hget) (h.heap_nodup hget) hi
        hne).mpr ?_
      simpa [priorityOf, Dict.get?_set] using hfits group heap i hget hi
    · exact (h.filed.ordered group heap hget).congr fun id hid =>
        hne id fun he => hmem (he ▸ hid)

/-- What keeps the order: a put of a queued job leaves it a priority that fits in its place,
and the job cache answers with the job it was asked for. -/
def KeepsOrder (e : Edge JobProvisioningQueue Operation) : Prop :=
  match e.label with
  | .put _ job _ => ∀ jobId old new, job.jobId = some jobId →
      e.pre.queuedJobs.get? jobId = some old → e.post.queuedJobs.get? jobId = some new →
      FitsInPlace e.pre jobId new.priority
  | .getTurn ctx _ => Keyed ctx
  | .delete _ | .destroy => True

theorem Ranked.put (h : Ranked self) {job : SocaJob} (heffect : PutEffect self job self')
    (hkeeps : ∀ jobId old new, job.jobId = some jobId →
      self.queuedJobs.get? jobId = some old → self'.queuedJobs.get? jobId = some new →
      FitsInPlace self jobId new.priority) : Filed self'.queue.queues self'.queuedJobs := by
  cases heffect with
  | nothing => exact h.filed
  | @refreshed jobId old priority hid hold =>
    exact h.refresh hold (hkeeps jobId old _ hid hold (by rw [Dict.get?_set, if_pos rfl]))
  | @queued queuedJob queue hid hnew hput =>
    obtain ⟨hqueues, _⟩ := RoundRobinPriorityQueue.put_queues hput
    dsimp only
    rw [hqueues]
    refine (h.filed.congr fun id hid => ?_).push (by rw [Dict.get?_set, if_pos rfl])
    refine Dict.get?_set_ne _ (fun he => hnew ?_) _
    exact h.consistent.subset (he ▸ hid)

theorem Filed.taking (h : Filed self.queue.queues self.queuedJobs) :
    Filed self.taking.queue.queues self.queuedJobs := by
  simp only [JobProvisioningQueue.taking]
  rcases RoundRobinPriorityQueue.get_cases (priorityLt self.queuedJobs) self.queue with
    ⟨_, hg⟩ | ⟨group, heap, hi, ⟨item, rest, hp, _, hq, _⟩ | ⟨_, _, hq, _⟩⟩
  · rw [hg]
    exact h
  · rw [hq]
    exact (h.pop (RoundRobinPriorityQueue.get?_of_getElem? hi) hp).1
  · rw [hq]
    exact h.erase group

theorem Filed.of_taken {mid : JobProvisioningQueue}
    (h : Filed self.queue.queues self.queuedJobs) (hb : self.Balanced [jobId])
    (ht : Touches jobId self mid) :
    Filed mid.queue.queues (mid.queuedJobs.erase jobId) := by
  have hnodup : (jobId :: self.queue.items).Nodup := hb.nodup_iff.mpr self.queuedJobs.nodup_keys
  rw [ht.queue]
  refine h.congr fun id hid => ?_
  have hne : id ≠ jobId := fun he => (List.nodup_cons.mp hnodup).1 (he ▸ hid)
  rw [Dict.get?_erase_ne _ hne, ht.others id hne]

theorem Step.ranked {op : Operation} (h : Ranked self) (hs : Step self op self')
    (hkeeps : KeepsOrder ⟨self, op, self'⟩) : Ranked self' := by
  refine ⟨hs.consistent h.consistent, ?_⟩
  cases op with
  | put ctx job raised =>
    cases raised with
    | none => exact h.put (put_effect hs) hkeeps
    | some e => exact hs.2 ▸ h.filed
  | delete jobId =>
    obtain rfl : self' = self.delete jobId := hs
    unfold delete
    split
    · exact h.filed
    · rename_i queuedJob hq
      constructor
      · intro group heap hget id hid
        obtain ⟨entry, he, hg⟩ := h.filed.group group heap hget id hid
        dsimp only
        rw [Dict.get?_set]
        split
        · rename_i hid
          obtain rfl := Option.some.inj (hq.symm.trans (hid ▸ he))
          exact ⟨_, rfl, hg⟩
        · exact ⟨entry, he, hg⟩
      · intro group heap hget
        refine (h.filed.ordered group heap hget).congr fun id _ => ?_
        unfold priorityOf
        dsimp only
        rw [Dict.get?_set]
        split
        · rename_i hid
          simp [hid, hq]
        · rfl
  | getTurn ctx event =>
    rcases getTurn_cases h.consistent hs with ⟨_, _, rfl⟩ | ⟨_, _, rfl, _⟩ |
      ⟨jobId, outcome, mid, _, _, hb, hp, rfl, _⟩
    · exact h.filed
    · exact h.filed.taking
    · have hmem : jobId ∈ self.taking.queuedJobs.keys := hb.subset List.mem_cons_self
      exact h.filed.taking.of_taken hb (process_touches hkeeps hmem hp)
  | destroy =>
    obtain rfl : self' = self.destroy := hs
    exact h.filed

/-- A turn that returns a job returns the one it took out, and no job that is queued in the same
group has a smaller priority. -/
def ServesLeast (e : Edge JobProvisioningQueue Operation) : Prop :=
  ∀ ctx jobId job, e.label = .getTurn ctx (.took jobId (.returned job)) →
    job.jobId = some jobId ∧ ∃ queuedJob, e.pre.queuedJobs.get? jobId = some queuedJob ∧
      ∀ other other', e.pre.queuedJobs.get? other = some other' →
        other'.jobGroup = queuedJob.jobGroup → queuedJob.priority ≤ other'.priority

theorem priorityOf_eq {queuedJob : QueuedJob} (h : queuedJobs.get? jobId = some queuedJob) :
    priorityOf queuedJobs jobId = queuedJob.priority := by
  simp [priorityOf, h]

theorem getJob_of_returned {ctx : GetContext} {job : SocaJob}
    (h : self.process ctx jobId = some (self', .returned job)) :
    ctx.getJob jobId = .ok (some job) := by
  unfold process at h
  split at h
  · simp at h
  · simp at h
  · rename_i found hfound
    split at h
    · simp at h
    · obtain ⟨⟨mid, result⟩, _, h⟩ := Option.map_eq_some_iff.mp h
      split at h
      · simp at h
      · obtain ⟨_, hreturned⟩ := Prod.mk.inj h
        obtain rfl := Outcome.returned.inj hreturned
        exact hfound
      · simp at h

theorem Ranked.servesLeast (h : Ranked self) {op : Operation} (hs : Step self op self')
    (hkeeps : KeepsOrder ⟨self, op, self'⟩) : ServesLeast ⟨self, op, self'⟩ := by
  rintro ctx jobId job rfl
  rcases getTurn_cases h.consistent hs with ⟨he, _⟩ | ⟨he, _⟩ |
    ⟨_, _, mid, he, hnext, _, hp, _, _⟩
  · simp at he
  · simp at he
  obtain ⟨rfl, rfl⟩ := GetEvent.took.inj he
  refine ⟨hkeeps jobId job (getJob_of_returned hp), ?_⟩
  have hserved : (self.queue.get (priorityLt self.queuedJobs)).1 = some jobId := by
    unfold nextJobId at hnext
    split at hnext
    · simp at hnext
    · exact hnext
  rcases RoundRobinPriorityQueue.get_cases (priorityLt self.queuedJobs) self.queue with
    ⟨_, hg⟩ | ⟨group, heap, hi, ⟨item, rest, hpop, hitem, _, _⟩ | ⟨_, hg, _⟩⟩
  · simp [hg] at hserved
  · obtain rfl : item = jobId := Option.some.inj (hitem.symm.trans hserved)
    have hget := RoundRobinPriorityQueue.get?_of_getElem? hi
    have hmem : item ∈ heap.toList := (Heap.heappop_perm hpop).symm.subset List.mem_cons_self
    obtain ⟨queuedJob, hq, hgroup⟩ := h.filed.group group heap hget item hmem
    refine ⟨queuedJob, hq, fun other other' ho hsame => ?_⟩
    -- a job of the group is an item of the group's own priority queue
    have hother : other ∈ itemsOf self.queue.queues :=
      h.consistent.symm.subset (Dict.mem_keys_of_get? ho)
    obtain ⟨group', heap', hget', hmem'⟩ := mem_itemsOf.mp hother
    obtain ⟨_, ho', hgroup'⟩ := h.filed.group group' heap' hget' other hmem'
    obtain rfl := Option.some.inj (ho.symm.trans ho')
    obtain rfl : group = group' := hgroup.symm.trans (hsame.symm.trans hgroup')
    obtain rfl := Option.some.inj (hget.symm.trans hget')
    have hle := (h.filed.pop hget hpop).2 other hmem'
    rwa [priorityOf_eq hq, priorityOf_eq ho] at hle
  · simp [hg] at hserved

/-- In every run whose puts of queued jobs leave them fitting in their places, every job that is
returned has the least priority of its group. -/
theorem run_serves_least {queueProfile : HpcQueueProfile}
    {t : List (Edge JobProvisioningQueue Operation)} (h : Run Step (new queueProfile) t self)
    (hkeeps : ∀ e ∈ t, KeepsOrder e) : ∀ e ∈ t, ServesLeast e :=
  h.forall_edges_of Ranked (ranked_new queueProfile) Step.ranked hkeeps fun hr hs hk =>
    hr.servesLeast hs hk

namespace RankingExample

def profile : HpcQueueProfile :=
  { name := some "normal"
    queues := some ["normal"]
    queueManagementParams := some {} }

def jobAt (jobId : String) (queueTime : ℤ) : SocaJob :=
  { jobId := some jobId
    queue := some "normal"
    state := some .queued
    queueTime := some queueTime
    params := some { nodes := some 1 }
    provisioningOptions := some {} }

def entry (jobId : String) (priority : ℤ) : QueuedJob :=
  { priority, jobId, jobGroup := "normal" }

def ctx (queueTime : ℤ) : GetContext :=
  { computeFairshareScore := fun _ => .ok 0
    digest := id
    getJob := fun jobId => .ok (some (jobAt jobId queueTime))
    instanceCount := .ok 0
    activeJobs := .ok 0
    setJobProvisioningError := .ok ()
    utcnow := 0 }

theorem keyed_ctx (queueTime : ℤ) : Keyed (ctx queueTime) := by
  intro jobId job hjob
  obtain rfl := Option.some.inj (Except.ok.inj hjob)
  rfl

def one : JobProvisioningQueue :=
  { new profile with
    queue := ⟨⟨[("normal", #["1"])], by decide⟩, 0, by decide⟩
    queuedJobs := ⟨[("1", entry "1" 101)], by decide⟩ }

def both (priority : ℤ) : JobProvisioningQueue :=
  { new profile with
    queue := ⟨⟨[("normal", #["1", "2"])], by decide⟩, 0, by decide⟩
    queuedJobs := ⟨[("1", entry "1" priority), ("2", entry "2" 202)], by simp⟩ }

def rest : JobProvisioningQueue :=
  { new profile with
    queue := ⟨⟨[("normal", #["2"])], by decide⟩, 0, by decide⟩
    queuedJobs := ⟨[("2", entry "2" 202)], by decide⟩ }

/-- The first job is queued, then the second, then the first again with another queue time,
and the next turn returns the first one. -/
def requeued (queueTime : ℤ) : List (Edge JobProvisioningQueue Operation) :=
  let put jobId queueTime := .put (ctx 0).toPutContext (jobAt jobId queueTime) none
  [⟨new profile, put "1" 100, one⟩,
    ⟨one, put "2" 200, both 101⟩,
    ⟨both 101, put "1" queueTime, both (queueTime + 1)⟩,
    ⟨both (queueTime + 1),
      .getTurn (ctx queueTime) (.took "1" (.returned (jobAt "1" queueTime))), rest⟩]

theorem run_requeued_early : Run Step (new profile) (requeued 150) rest :=
  .snoc (.snoc (.snoc (.snoc .nil rfl) rfl) rfl) rfl

theorem run_requeued_late : Run Step (new profile) (requeued 300) rest :=
  .snoc (.snoc (.snoc (.snoc .nil rfl) rfl) rfl) rfl

theorem fits_at_root : FitsInPlace (both 101) "1" 151 := by
  intro group heap i hget hi
  have hmem := Dict.mem_entries_of_get? hget
  obtain ⟨rfl, rfl⟩ : group = "normal" ∧ heap = #["1", "2"] := by simpa [both] using hmem
  obtain rfl : i = 0 := by
    rcases i with _ | _ | i
    · rfl
    · simp at hi
    · simp at hi
  constructor
  · intro h
    omega
  · intro j hj hparent a ha
    rcases j with _ | _ | j
    · omega
    · obtain rfl : "2" = a := Option.some.inj ha
      decide
    · simp at ha

end RankingExample

open RankingExample in
/-- The first job is queued again with a priority that still is the least and is returned. -/
theorem run_serves_least_requeued : ServesLeast
    ⟨both 151, .getTurn (ctx 150) (.took "1" (.returned (jobAt "1" 150))), rest⟩ := by
  have hkeeps : ∀ e ∈ requeued 150, KeepsOrder e := by
    simp only [requeued, List.forall_mem_cons, List.not_mem_nil, false_imp_iff, implies_true,
      and_true]
    refine ⟨?_, ?_, ?_, keyed_ctx 150⟩
    · rintro jobId old new ⟨⟩ ⟨⟩
    · rintro jobId old new ⟨⟩ ⟨⟩
    · rintro jobId old new ⟨⟩ _ ⟨⟩
      exact fits_at_root
  have hlast : (requeued 150).getLast? =
      some ⟨both 151, .getTurn (ctx 150) (.took "1" (.returned (jobAt "1" 150))), rest⟩ := rfl
  exact run_serves_least run_requeued_early hkeeps _ (List.mem_of_getLast? hlast)

open RankingExample in
/-- The first job is queued again with the largest priority and is returned all the same. -/
theorem run_serves_requeued_first :
    ¬ ∀ (queueProfile : HpcQueueProfile) (t : List (Edge JobProvisioningQueue Operation))
      (self : JobProvisioningQueue), Run Step (new queueProfile) t self →
        (∀ e ∈ t, ∀ ctx event, e.label = .getTurn ctx event → Keyed ctx) →
          ∀ e ∈ t, ServesLeast e := by
  intro h
  have hkeyed : ∀ e ∈ requeued 300, ∀ ctx event, e.label = .getTurn ctx event → Keyed ctx := by
    simp only [requeued, List.forall_mem_cons, List.not_mem_nil, false_imp_iff, implies_true,
      and_true]
    refine ⟨by simp, by simp, by simp, fun ctx' event he => ?_⟩
    obtain ⟨rfl, _⟩ := Operation.getTurn.inj he
    exact keyed_ctx 300
  have hlast : (requeued 300).getLast? =
      some ⟨both 301, .getTurn (ctx 300) (.took "1" (.returned (jobAt "1" 300))), rest⟩ := rfl
  have hserves := h _ _ _ run_requeued_late hkeyed _ (List.mem_of_getLast? hlast) _ "1" _ rfl
  obtain ⟨_, queuedJob, hq, hleast⟩ := hserves
  obtain rfl : entry "1" 301 = queuedJob := Option.some.inj hq
  exact absurd (hleast "2" (entry "2" 202) rfl rfl) (by decide)

end JobProvisioningQueue

end Idea

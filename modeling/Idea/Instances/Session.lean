import Idea.Instances.Counts
import Idea.System.Run

/-! # Sync sessions

The state of the cache is tracked together with what the current session has synced and
what the last committed session had. While a session runs, the table agrees with what the
session has synced, as long as the pages fit into the cache and no entry of the session
expires; so a commit leaves exactly the instances of the session.
-/

namespace Idea

open InMemoryInstanceDB

theorem withItems_append (start : InMemoryInstanceDB) (instances : List EC2Instance)
    (i : EC2Instance) :
    withItems start (instances ++ [i]) = (withItems start instances).set i.instanceId i := by
  simp [withItems, List.foldl_append]

theorem mem_keys_withItems {start : InMemoryInstanceDB} {instances : List EC2Instance}
    {k : String} : k ∈ (withItems start instances).keys ↔
      k ∈ start.keys ∨ k ∈ instances.map (·.instanceId) := by
  induction instances using List.reverseRecOn with
  | nil => simp [withItems]
  | append_singleton instances i ih =>
    rw [withItems_append, Dict.mem_keys_set, ih]
    simp only [List.map_append, List.map_singleton, List.mem_append, List.mem_singleton]
    tauto

theorem get?_withItems (start : InMemoryInstanceDB) (instances : List EC2Instance) (k : String) :
    (withItems start instances).get? k =
      ((withItems ∅ instances).get? k).or (start.get? k) := by
  induction instances using List.reverseRecOn with
  | nil => rfl
  | append_singleton instances i ih =>
    rw [withItems_append, withItems_append, Dict.get?_set, Dict.get?_set, ih]
    split <;> rfl

theorem size_withItems (instances : List EC2Instance) :
    (withItems ∅ instances).size ≤ instances.length := by
  induction instances using List.reverseRecOn with
  | nil => exact Nat.le_refl _
  | append_singleton instances i ih =>
    rw [withItems_append, List.length_append]
    exact Nat.le_trans (Dict.size_set_le _ _ _) (Nat.succ_le_succ ih)

variable (store : CacheStore)

theorem get?_writeAll {entries : List (String × EC2Instance)} {db : InMemoryInstanceDB}
    (hn : (entries.map Prod.fst).Nodup)
    (hf : db.size + entries.length ≤ INSTANCE_CACHE_MAX_SIZE) (k : String) :
    (entries.foldl (fun db e => store.write db e.1 e.2) db).get? k =
      (entries.lookup k).or (db.get? k) := by
  induction entries generalizing db with
  | nil => rfl
  | cons e entries ih =>
    simp only [List.map_cons, List.nodup_cons, List.length_cons] at hn hf
    have hw := fun k => store.get?_write db e.1 e.2 k (.inl (by omega))
    have hsize : (store.write db e.1 e.2).size ≤ db.size + 1 := by
      refine Nat.le_trans (Dict.size_le_of_keys_subset fun k hk => ?_) (db.size_set_le e.1 e.2)
      obtain ⟨v, hv⟩ := Dict.exists_get?_of_mem_keys hk
      rw [hw, ← Dict.get?_set] at hv
      exact Dict.mem_keys_of_get? hv
    rw [List.foldl_cons, ih hn.2 (by omega), hw, Dict.lookup_cons_ite]
    by_cases hk : k = e.1
    · have hl : entries.lookup k = none := by
        refine List.lookup_eq_none_iff.mpr fun p hp => ?_
        have hne : e.1 ≠ p.1 := fun h => hn.1 (h ▸ List.mem_map_of_mem hp)
        simpa [hk] using hne
      simp [hk, hk ▸ hl]
    · simp [hk]

theorem get?_addMany {db : InMemoryInstanceDB} {instances : List EC2Instance}
    (hf : db.size + instances.length ≤ INSTANCE_CACHE_MAX_SIZE) (k : String) :
    (addMany store db instances).get? k = ((withItems ∅ instances).get? k).or (db.get? k) := by
  have hs : (withItems ∅ instances).entries.length ≤ instances.length := size_withItems instances
  exact get?_writeAll store (withItems ∅ instances).nodup (by omega) k

/-- The cache, what its current session has synced, and what the last commit had. -/
structure SyncState where
  cache : InstanceCache
  synced : InMemoryInstanceDB
  committed : InMemoryInstanceDB

inductive SyncOp where
  | begin
  | sync (instances : List EC2Instance)
  | commit
  | abort
  | expire (instanceId : String)

/-- The effect of an operation of the monitor, or of the expiry of an entry. -/
def SyncStep (names : SchedulerNames) (s : SyncState) : SyncOp → SyncState → Prop
  | .begin, s' => s' = ⟨s.cache.syncBegin, ∅, s.committed⟩
  | .sync instances, s' => ∃ cache, s.cache.sync store instances = .ok cache ∧
      s' = ⟨cache, withItems s.synced instances, s.committed⟩
  | .commit, s' => ∃ cache, s.cache.syncCommit names = .ok cache ∧ s' = ⟨cache, s.synced, s.synced⟩
  | .abort, s' => s' = { s with cache := s.cache.syncAbort }
  | .expire instanceId, s' =>
      s' = { s with cache := { s.cache with db := s.cache.db.erase instanceId } }

/-- A page fits into the cache, and no entry that the session has synced expires. -/
def SyncFits (s : SyncState) : SyncOp → Prop
  | .sync instances => s.cache.db.size + instances.length ≤ INSTANCE_CACHE_MAX_SIZE
  | .expire instanceId => ∀ session, s.cache.session = some session → instanceId ∉ session.newKeys
  | _ => True

/-- The table agrees with the running session on what the session has synced, and everything
else in it was there when the session began. -/
def Agrees (s : SyncState) : Prop :=
  ∀ session, s.cache.session = some session →
    (∀ k, k ∈ session.newKeys ↔ k ∈ s.synced.keys) ∧
    (∀ k ∈ s.synced.keys, s.cache.db.get? k = s.synced.get? k) ∧
    ∀ k ∈ s.cache.db.keys, k ∈ session.existingKeys ∨ k ∈ session.newKeys

variable {store} {names : SchedulerNames} {s s' : SyncState}

theorem get?_commit (session : InstanceSyncSession) (db : InMemoryInstanceDB) (k : String) :
    (session.commit db).get? k =
      if k ∈ session.existingKeys ∧ k ∉ session.newKeys then none else db.get? k := by
  unfold InstanceSyncSession.commit deleteMany
  rw [Dict.get?_foldl_erase]
  simp

theorem Agrees.get?_commit {session : InstanceSyncSession} (ha : Agrees s)
    (hs : s.cache.session = some session) (k : String) :
    (session.commit s.cache.db).get? k = s.synced.get? k := by
  obtain ⟨hnew, hget, hold⟩ := ha session hs
  rw [Idea.get?_commit]
  by_cases hk : k ∈ s.synced.keys
  · rw [if_neg fun h => h.2 ((hnew k).mpr hk), hget k hk]
  · rw [Dict.get?_eq_none.mpr hk]
    split
    · rfl
    · rename_i hkeep
      refine Dict.get?_eq_none.mpr fun hdb => hkeep ⟨?_, fun h => hk ((hnew k).mp h)⟩
      exact (hold k hdb).resolve_right fun h => hk ((hnew k).mp h)

theorem Agrees.sync {instances : List EC2Instance} (ha : Agrees s)
    (hf : SyncFits s (.sync instances)) (h : SyncStep store names s (.sync instances) s') :
    Agrees s' := by
  obtain ⟨cache, hc, rfl⟩ := h
  unfold InstanceCache.sync at hc
  split at hc
  · simp at hc
  · rename_i session hs
    obtain rfl := Except.ok.inj hc
    obtain ⟨hnew, hget, hold⟩ := ha session hs
    have hadd := get?_addMany store hf
    rintro session' hs'
    obtain rfl := Option.some.inj hs'
    refine ⟨fun k => ?_, fun k hk => ?_, fun k hk => ?_⟩
    · rw [List.mem_append, hnew, mem_keys_withItems]
    · rw [hadd, get?_withItems s.synced]
      by_cases hi : k ∈ instances.map (·.instanceId)
      · have hm : k ∈ (withItems ∅ instances).keys := mem_keys_withItems.mpr (.inr hi)
        obtain ⟨v, hv⟩ := Dict.exists_get?_of_mem_keys hm
        rw [hv, Option.some_or, Option.some_or]
      · rw [hget k ((mem_keys_withItems.mp hk).resolve_right hi)]
    · rw [List.mem_append]
      obtain ⟨v, hv⟩ := Dict.exists_get?_of_mem_keys hk
      rw [hadd] at hv
      by_cases hi : k ∈ instances.map (·.instanceId)
      · exact .inr (.inr hi)
      · have hn : (withItems ∅ instances).get? k = none := by
          refine Dict.get?_eq_none.mpr fun hm => hi ?_
          simpa using mem_keys_withItems.mp hm
        rw [hn, Option.none_or] at hv
        exact (hold k (Dict.mem_keys_of_get? hv)).imp id .inl

theorem Agrees.expire {instanceId : String} (ha : Agrees s)
    (hf : SyncFits s (.expire instanceId)) :
    Agrees { s with cache := { s.cache with db := s.cache.db.erase instanceId } } := by
  intro session hs
  obtain ⟨hnew, hget, hold⟩ := ha session hs
  refine ⟨hnew, fun k hk => ?_, fun k hk => hold k (Dict.mem_keys_erase.mp hk).1⟩
  have hne : k ≠ instanceId := by
    rintro rfl
    exact hf session hs ((hnew k).mpr hk)
  simpa [Dict.get?_erase, hne] using hget k hk

theorem Agrees.commit (ha : Agrees s) (h : SyncStep store names s .commit s') : Agrees s' := by
  obtain ⟨cache, hc, rfl⟩ := h
  unfold InstanceCache.syncCommit at hc
  split at hc
  · simp at hc
  · rename_i session hs
    obtain rfl := Except.ok.inj hc
    intro session' hs'
    obtain rfl := Option.some.inj (hs.symm.trans hs')
    have hget := ha.get?_commit hs
    refine ⟨(ha session hs).1, fun k _ => hget k, fun k hk => .inr ?_⟩
    obtain ⟨v, hv⟩ := Dict.exists_get?_of_mem_keys hk
    exact ((ha session hs).1 k).mpr (Dict.mem_keys_of_get? ((hget k).symm.trans hv))

theorem SyncStep.agrees {op : SyncOp} (ha : Agrees s) (hf : SyncFits s op)
    (h : SyncStep store names s op s') : Agrees s' := by
  cases op with
  | begin =>
    obtain rfl := h
    intro session hs
    obtain rfl := Option.some.inj hs
    exact ⟨by simp [InstanceSyncSession.begin], by simp, fun k hk => .inl hk⟩
  | sync instances => exact ha.sync hf h
  | commit => exact ha.commit h
  | abort =>
    obtain rfl := h
    intro session hs
    simp [InstanceCache.syncAbort] at hs
  | expire instanceId =>
    obtain rfl := h
    exact ha.expire hf

/-- The number of pending or running compute instances of the last committed session that
carry a value. -/
def committedCount (names : SchedulerNames) (key : EC2Instance → Option String)
    (k : Option String) (s : SyncState) : ℕ :=
  carriers key k (InstanceCache.listComputeInstances names s.committed)

/-- The cached counts are the numbers of instances of the last committed session. -/
structure CountsRight (names : SchedulerNames) (s : SyncState) : Prop where
  job : ∀ k, s.cache.getJobInstanceCount k = committedCount names EC2Instance.socaJobId k s
  jobGroup : ∀ k,
    s.cache.getJobGroupInstanceCount k = committedCount names EC2Instance.socaJobGroup k s
  queueProfile : ∀ k,
    s.cache.getQueueProfileInstanceCount k = committedCount names EC2Instance.socaQueueType k s

/-- The tallies of the instances a commit counts are right for every job, job group and queue
profile. -/
def CommitRight (names : SchedulerNames) (s : SyncState) : Prop :=
  ∀ session, s.cache.session = some session →
    ∀ key ∈ [EC2Instance.socaJobId, EC2Instance.socaJobGroup, EC2Instance.socaQueueType],
      ∀ k, TallyRight key
        (InstanceCache.listComputeInstances names (session.commit s.cache.db)) k

theorem carriers_perm {key : EC2Instance → Option String} {k : Option String}
    {db db' : InMemoryInstanceDB} (h : ∀ id, db.get? id = db'.get? id) :
    carriers key k (InstanceCache.listComputeInstances names db) =
      carriers key k (InstanceCache.listComputeInstances names db') :=
  (((Dict.perm_of_get? h).map Prod.snd).filter _).countP_eq _

theorem SyncStep.countsRight_commit_iff (ha : Agrees s)
    (h : SyncStep store names s .commit s') : CountsRight names s' ↔ CommitRight names s := by
  obtain ⟨cache, hc, rfl⟩ := h
  unfold InstanceCache.syncCommit at hc
  split at hc
  · simp at hc
  · rename_i session hs
    obtain rfl := Except.ok.inj hc
    have heq : ∀ key k, carriers key k (InstanceCache.listComputeInstances names s.synced) =
        carriers key k (InstanceCache.listComputeInstances names (session.commit s.cache.db)) :=
      fun key k => (carriers_perm (ha.get?_commit hs)).symm
    constructor
    · rintro ⟨hj, hg, hq⟩ session' hs' key hkey k
      obtain rfl := Option.some.inj (hs.symm.trans hs')
      rw [← tally_eq_carriers_iff, ← heq]
      simp only [List.mem_cons, List.not_mem_nil, or_false] at hkey
      rcases hkey with rfl | rfl | rfl
      · exact hj k
      · exact hg k
      · exact hq k
    · intro hr
      have ht := fun key hkey k => (tally_eq_carriers_iff _).mpr (hr session hs key hkey k)
      refine ⟨fun k => ?_, fun k => ?_, fun k => ?_⟩
      · exact (ht EC2Instance.socaJobId (by simp) k).trans (by rw [committedCount, heq])
      · exact (ht EC2Instance.socaJobGroup (by simp) k).trans (by rw [committedCount, heq])
      · exact (ht EC2Instance.socaQueueType (by simp) k).trans (by rw [committedCount, heq])

theorem SyncStep.countsRight {op : SyncOp} (hop : op ≠ .commit)
    (h : SyncStep store names s op s') (hr : CountsRight names s) : CountsRight names s' := by
  cases op with
  | begin => obtain rfl := h; exact ⟨hr.job, hr.jobGroup, hr.queueProfile⟩
  | sync instances =>
    obtain ⟨cache, hc, rfl⟩ := h
    unfold InstanceCache.sync at hc
    split at hc
    · simp at hc
    · obtain rfl := Except.ok.inj hc
      exact ⟨hr.job, hr.jobGroup, hr.queueProfile⟩
  | commit => exact absurd rfl hop
  | abort => obtain rfl := h; exact ⟨hr.job, hr.jobGroup, hr.queueProfile⟩
  | expire instanceId => obtain rfl := h; exact ⟨hr.job, hr.jobGroup, hr.queueProfile⟩

end Idea

import Idea.HouseKeeping.Session

/-! # Candidates of a session

A candidate is a cached instance, filed under the group that its tags name. Of the candidates
of the first pass those remain whose node, fetched again, is not busy.
-/

namespace Idea

variable {ctx : SessionContext}

def Cached (ctx : SessionContext) (i : EC2Instance) : Prop :=
  ctx.instances.rows.get? i.instanceId = some i

theorem Cached.eq_of_id {i j : EC2Instance} (hi : Cached ctx i) (hj : Cached ctx j)
    (h : i.instanceId = j.instanceId) : i = j := by
  have hi' : ctx.instances.rows.get? j.instanceId = some i := h ▸ hi
  exact Option.some.inj (hi'.symm.trans hj)

variable {i : EC2Instance}

theorem cached_of_getInstance {instanceId : Option String} (h : ctx.getInstance instanceId = some i) :
    Cached ctx i := by
  obtain ⟨id, _, hget⟩ := Option.bind_eq_some_iff.mp h
  rw [Cached, ctx.instances.own id i hget]
  exact hget

def isLive (i : EC2Instance) : Bool := i.state ∈ ["pending", "running"].map some

theorem mem_addInstance {set : List EC2Instance} {i j : EC2Instance} (h : j ∈ addInstance set i) :
    j ∈ set ∨ j = i := by
  unfold addInstance at h
  split at h
  · exact .inl h
  · simpa using h

theorem mem_ids_addInstance {set : List EC2Instance} {id : String} :
    id ∈ (addInstance set i).map EC2Instance.instanceId ↔
      id ∈ set.map EC2Instance.instanceId ∨ id = i.instanceId := by
  unfold addInstance
  split
  · rename_i hm
    constructor
    · exact .inl
    · rintro (h | rfl) <;> assumption
  · simp

theorem mem_ids_foldl_addInstance {set l : List EC2Instance} {id : String} :
    id ∈ (l.foldl addInstance set).map EC2Instance.instanceId ↔
      id ∈ set.map EC2Instance.instanceId ∨ id ∈ l.map EC2Instance.instanceId := by
  induction l generalizing set with
  | nil => simp
  | cons i l ih =>
    rw [List.foldl_cons, ih, mem_ids_addInstance, List.map_cons, List.mem_cons, or_assoc]

theorem mem_of_mem_foldl_addInstance {set l : List EC2Instance} (h : i ∈ l.foldl addInstance set) :
    i ∈ set ∨ i ∈ l := by
  induction l generalizing set with
  | nil => exact .inl h
  | cons j l ih =>
    rcases ih h with h | h
    · rcases mem_addInstance h with h | rfl
      · exact .inl h
      · exact .inr List.mem_cons_self
    · exact .inr (List.mem_cons_of_mem _ h)

theorem mem_foldl_addInstance_of_cached {l : List EC2Instance} (hl : ∀ i ∈ l, Cached ctx i) :
    i ∈ l.foldl addInstance [] ↔ i ∈ l := by
  constructor
  · intro h
    exact (mem_of_mem_foldl_addInstance h).resolve_left List.not_mem_nil
  · intro h
    have hid : i.instanceId ∈ (l.foldl addInstance []).map EC2Instance.instanceId :=
      mem_ids_foldl_addInstance.mpr (.inr (List.mem_map_of_mem h))
    obtain ⟨j, hj, heq⟩ := List.mem_map.mp hid
    have hjl := (mem_of_mem_foldl_addInstance hj).resolve_left List.not_mem_nil
    exact (hl j hjl).eq_of_id (hl i h) heq ▸ hj

theorem get?_appendAt {κ α : Type} [DecidableEq κ] (d : Dict κ (List α)) (k k' : κ) (a : α) :
    (appendAt d k a).get? k' =
      if k' = k then some ((d.get? k).getD [] ++ [a]) else d.get? k' :=
  Dict.get?_set d k k' _

namespace NodeHouseKeepingSession

variable {s s' : NodeHouseKeepingSession}

theorem book_modifyBook (s : NodeHouseKeepingSession) (kind kind' : GroupKind)
    (f : GroupBook → GroupBook) :
    (s.modifyBook kind f).book kind' = if kind' = kind then f (s.book kind) else s.book kind' := by
  cases kind <;> cases kind' <;> rfl

@[simp] theorem instancesToTerminate_modifyBook (kind : GroupKind) (f : GroupBook → GroupBook) :
    (s.modifyBook kind f).instancesToTerminate = s.instancesToTerminate := by
  cases kind <;> rfl

@[simp] theorem stacksToDelete_modifyBook (kind : GroupKind) (f : GroupBook → GroupBook) :
    (s.modifyBook kind f).stacksToDelete = s.stacksToDelete := by
  cases kind <;> rfl

@[simp] theorem detachInstances_modifyBook (kind : GroupKind) (f : GroupBook → GroupBook) :
    (s.modifyBook kind f).autoScalingGroupDetachInstances =
      s.autoScalingGroupDetachInstances := by
  cases kind <;> rfl

def InGroup (s : NodeHouseKeepingSession) (kind : GroupKind) (id : String) (i : EC2Instance) :
    Prop :=
  ∃ instances, (s.book kind).instances.get? id = some instances ∧ i ∈ instances

structure Unmarked (s : NodeHouseKeepingSession) : Prop where
  no_instance : s.instancesToTerminate = []
  no_stack : s.stacksToDelete = []
  no_detached : s.autoScalingGroupDetachInstances = ∅

/-- The candidates are cached and filed under their own group, and nothing else is decided. -/
structure Identified (ctx : SessionContext) (s : NodeHouseKeepingSession) : Prop where
  member : ∀ kind id i, s.InGroup kind id i → Cached ctx i ∧ groupOf i = some (kind, id)
  undecided : ∀ kind, (s.book kind).desiredCapacities = ∅
  unmarked : s.Unmarked

theorem identified_new (ctx : SessionContext) : Identified ctx {} where
  member := by
    rintro kind id i ⟨instances, hget, _⟩
    cases kind <;> cases hget
  undecided := by
    intro kind
    cases kind <;> rfl
  unmarked := ⟨rfl, rfl, rfl⟩

theorem Identified.addCandidateForDeletion (h : Identified ctx s) (hi : Cached ctx i) :
    Identified ctx (s.addCandidateForDeletion i) := by
  unfold NodeHouseKeepingSession.addCandidateForDeletion
  split
  · exact h
  · rename_i kind id hgroup
    constructor
    · rintro kind' id' j ⟨instances, hget, hj⟩
      rw [book_modifyBook] at hget
      split at hget
      · rename_i hk
        rw [get?_appendAt] at hget
        split at hget
        · rename_i hid
          obtain rfl := Option.some.inj hget
          rcases List.mem_append.mp hj with hj | hj
          · cases hold : (s.book kind).instances.get? id with
            | none =>
              rw [hold] at hj
              exact absurd hj List.not_mem_nil
            | some old =>
              rw [hold] at hj
              exact hk ▸ hid ▸ h.member kind id j ⟨old, hold, hj⟩
          · obtain rfl := List.mem_singleton.mp hj
            exact ⟨hi, hk ▸ hid ▸ hgroup⟩
        · exact hk ▸ h.member kind id' j ⟨instances, hget, hj⟩
      · exact h.member kind' id' j ⟨instances, hget, hj⟩
    · intro kind'
      rw [book_modifyBook]
      split
      · exact h.undecided kind
      · exact h.undecided kind'
    · exact ⟨by simpa using h.unmarked.no_instance, by simpa using h.unmarked.no_stack,
        by simpa using h.unmarked.no_detached⟩

theorem Identified.identifyCandidate (h : Identified ctx s) {node : SocaComputeNode}
    (hs : identifyCandidate ctx s node = .ok s') : Identified ctx s' := by
  have hnodes : ∀ nodesToDelete, Identified ctx { s with nodesToDelete } :=
    fun _ => ⟨h.member, h.undecided, ⟨h.unmarked.1, h.unmarked.2, h.unmarked.3⟩⟩
  have hgroups : ∀ jobGroups, Identified ctx { s with jobGroups } :=
    fun _ => ⟨h.member, h.undecided, ⟨h.unmarked.1, h.unmarked.2, h.unmarked.3⟩⟩
  unfold NodeHouseKeepingSession.identifyCandidate at hs
  iterate 5
    split at hs
    · cases hs
      exact h
  split at hs
  · cases hs
    exact hnodes _
  · rename_i i hget
    split at hs
    · cases hs
      exact hnodes _
    · obtain ⟨terminate, _, hs⟩ := Raised.bind_eq_ok.mp hs
      cases hs
      split
      · exact (hgroups _).addCandidateForDeletion (cached_of_getInstance hget)
      · exact hgroups _

theorem identified_of_pass1
    (h : pass1IdentifyPotentialCandidatesForDeletion ctx = .ok s) : Identified ctx s := by
  obtain ⟨nodes, _, h⟩ := Raised.bind_eq_ok.mp h
  exact Raised.foldlM_invariant (Identified ctx) h (identified_new ctx)
    fun _ _ _ _ hs hstep => hs.identifyCandidate hstep

/-- The scheduler still has the node of the instance and does not report it as busy. -/
def Idle (ctx : SessionContext) (i : EC2Instance) : Prop :=
  ∃ node, ctx.getNode i.privateDnsName = .ok (some node) ∧ node.isBusy = false

theorem mem_ids_foldlM_addIfIdle {l set offline : List EC2Instance}
    (h : l.foldlM (addIfIdle ctx) set = .ok offline) {id : String} :
    id ∈ offline.map EC2Instance.instanceId ↔
      id ∈ set.map EC2Instance.instanceId ∨ ∃ i ∈ l, i.instanceId = id ∧ Idle ctx i := by
  induction l generalizing set with
  | nil =>
    obtain rfl : set = offline := Except.ok.inj h
    simp
  | cons i l ih =>
    rw [List.foldlM_cons, Raised.bind_eq_ok] at h
    obtain ⟨set', hi, h⟩ := h
    obtain ⟨node, hnode, hi⟩ := Raised.bind_eq_ok.mp hi
    have hset : id ∈ set'.map EC2Instance.instanceId ↔
        id ∈ set.map EC2Instance.instanceId ∨ (i.instanceId = id ∧ Idle ctx i) := by
      cases node with
      | none =>
        cases hi
        have hn : ¬ Idle ctx i := by
          rintro ⟨node, hget, _⟩
          rw [hnode] at hget
          cases hget
        simp [hn]
      | some node =>
        cases hi
        have hidle : Idle ctx i ↔ node.isBusy = false := by
          constructor
          · rintro ⟨node', hget, hbusy⟩
            rw [hnode] at hget
            cases hget
            exact hbusy
          · exact fun hbusy => ⟨node, hnode, hbusy⟩
        rw [hidle]
        cases node.isBusy with
        | true => simp
        | false => simp [mem_ids_addInstance, eq_comm]
    rw [ih h, hset, List.exists_mem_cons_iff, or_assoc]

theorem keepOffline_eq_some {offline instances kept : List EC2Instance}
    (h : keepOffline ctx offline instances = some kept) :
    kept ≠ [] ∧ ∀ i, i ∈ kept ↔ i ∈ instances.foldl addInstance [] ∧
      i.instanceId ∈ offline.map EC2Instance.instanceId := by
  unfold keepOffline at h
  cases hkept : ctx.instanceOrder.order ((instances.foldl addInstance []).filter fun instance_ =>
      instance_.instanceId ∈ offline.map EC2Instance.instanceId) with
  | nil =>
    rw [hkept] at h
    cases h
  | cons first rest =>
    rw [hkept] at h
    obtain rfl := Option.some.inj h
    refine ⟨List.cons_ne_nil _ _, fun i => ?_⟩
    rw [← hkept, (ctx.instanceOrder.perm _).mem_iff, List.mem_filter, decide_eq_true_eq]

end NodeHouseKeepingSession

end Idea

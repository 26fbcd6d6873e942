import Idea.HouseKeeping.Capacities

/-! # What a session removes

The last pass marks the instances of each group with a desired capacity, and the stack of a
group whose desired capacity is zero; the cleanup acts on nothing else. The check before
nodes are set offline looks at the state of a node but not at its jobs, and a stack is
deleted with all its instances, so two conditions decide whether a session spares the
instances that are in use.
-/

namespace Idea

def SessionCall.removes (i : EC2Instance) : SessionCall → Prop
  | .terminateInstances instanceIds _ => i.instanceId ∈ instanceIds
  | .detachInstances _ instanceIds => i.instanceId ∈ instanceIds
  | .deleteStack stackName => stackName ≠ none ∧ i.socaComputeStack = stackName
  | _ => False

namespace NodeHouseKeepingSession

variable {ctx : SessionContext} {first s s' : NodeHouseKeepingSession}

def terminateIds (s : NodeHouseKeepingSession) : List String :=
  s.instancesToTerminate.map EC2Instance.instanceId

/-- The session marks the instance to be terminated, detached or deleted with its stack. -/
def Marks (s : NodeHouseKeepingSession) (i : EC2Instance) : Prop :=
  i.instanceId ∈ s.terminateIds ∨
    (∃ name instanceIds, s.autoScalingGroupDetachInstances.get? name = some instanceIds ∧
      i.instanceId ∈ instanceIds) ∨
    (i.socaComputeStack ≠ none ∧ i.socaComputeStack ∈ s.stacksToDelete)

def DetachTerminated (s : NodeHouseKeepingSession) : Prop :=
  ∀ name instanceIds, s.autoScalingGroupDetachInstances.get? name = some instanceIds →
    instanceIds ⊆ s.terminateIds

/-- What finalizing groups of a kind adds to the marks. -/
structure Finalized (kind : GroupKind) (groups : List (String × (ℤ × ℤ)))
    (s s' : NodeHouseKeepingSession) : Prop where
  candidates : ∀ kind, (s'.book kind).instances = (s.book kind).instances
  desired : ∀ kind, (s'.book kind).desiredCapacities = (s.book kind).desiredCapacities
  terminated : ∀ id, id ∈ s'.terminateIds ↔ id ∈ s.terminateIds ∨
    ∃ group ∈ groups, ∃ instances, (s.book kind).instances.get? group.1 = some instances ∧
      id ∈ instances.map EC2Instance.instanceId
  deleted : ∀ stack, stack ∈ s'.stacksToDelete ↔ stack ∈ s.stacksToDelete ∨
    ∃ group ∈ groups, ∃ instances, (s.book kind).instances.get? group.1 = some instances ∧
      group.2.2 = 0 ∧ instances.head?.map EC2Instance.socaComputeStack = some stack
  detached : s.DetachTerminated → s'.DetachTerminated

theorem finalized_nil (kind : GroupKind) (s : NodeHouseKeepingSession) :
    Finalized kind [] s s :=
  ⟨fun _ => rfl, fun _ => rfl, fun _ => by simp, fun _ => by simp, id⟩

theorem Finalized.cons {kind : GroupKind} {group : String × (ℤ × ℤ)}
    {groups : List (String × (ℤ × ℤ))} {mid : NodeHouseKeepingSession}
    (h : Finalized kind [group] s mid) (h' : Finalized kind groups mid s') :
    Finalized kind (group :: groups) s s' where
  candidates kind := (h'.candidates kind).trans (h.candidates kind)
  desired kind := (h'.desired kind).trans (h.desired kind)
  terminated id := by
    rw [h'.terminated, h.terminated, h.candidates, List.exists_mem_cons_iff, or_assoc]
    simp
  deleted stack := by
    rw [h'.deleted, h.deleted, h.candidates, List.exists_mem_cons_iff, or_assoc]
    simp
  detached hd := h'.detached (h.detached hd)

variable {kind : GroupKind}

theorem finalizeGroup_spec {group : String × (ℤ × ℤ)} {ref : EC2Instance} {rest : List EC2Instance}
    (hget : (s.book kind).instances.get? group.1 = some (ref :: rest)) :
    ∃ s', finalizeGroup kind s group = .ok s' ∧ Finalized kind [group] s s' := by
  have hids : ∀ id, id ∈ ((ref :: rest).foldl addInstance s.instancesToTerminate).map
      EC2Instance.instanceId ↔ id ∈ s.terminateIds ∨ ∃ g ∈ [group], ∃ instances,
        (s.book kind).instances.get? g.1 = some instances ∧
          id ∈ instances.map EC2Instance.instanceId := by
    intro id
    rw [mem_ids_foldl_addInstance]
    simp [hget, terminateIds, @eq_comm _ id]
  unfold finalizeGroup
  rw [hget]
  by_cases hzero : group.2.2 = 0
  · simp only [hzero, if_true]
    refine ⟨_, rfl, fun _ => rfl, fun _ => rfl, hids, fun stack => ?_, fun hd name ids hn => ?_⟩
    · rw [List.mem_insert_iff, or_comm]
      simp [hget, hzero, eq_comm]
    · intro id hid
      exact (hids id).mpr (.inl (hd name ids hn hid))
  · simp only [hzero, if_false]
    have hdel : ∀ stack, stack ∈ s.stacksToDelete ↔ stack ∈ s.stacksToDelete ∨
        ∃ g ∈ [group], ∃ instances, (s.book kind).instances.get? g.1 = some instances ∧
          g.2.2 = 0 ∧ instances.head?.map EC2Instance.socaComputeStack = some stack := by
      intro stack
      simp [hzero]
    cases kind with
    | spotFleet =>
      refine ⟨_, rfl, ?_, ?_, hids, hdel, fun hd name ids hn id hid => ?_⟩
      · intro kind
        cases kind <;> rfl
      · intro kind
        cases kind <;> rfl
      · exact (hids id).mpr (.inl (hd name ids hn hid))
    | autoScalingGroup =>
      refine ⟨_, rfl, ?_, ?_, hids, hdel, fun hd name ids hn id hid => ?_⟩
      · intro kind
        cases kind <;> rfl
      · intro kind
        cases kind <;> rfl
      · refine (hids id).mpr ?_
        rw [Dict.get?_set] at hn
        split at hn
        · obtain rfl := Option.some.inj hn
          exact .inr ⟨group, List.mem_singleton_self _, _, hget, hid⟩
        · exact .inl (hd name ids hn hid)

theorem foldlM_finalizeGroup_spec {groups : List (String × (ℤ × ℤ))}
    (hget : ∀ group ∈ groups, ∃ ref rest,
      (s.book kind).instances.get? group.1 = some (ref :: rest)) :
    ∃ s', groups.foldlM (finalizeGroup kind) s = .ok s' ∧ Finalized kind groups s s' := by
  induction groups generalizing s with
  | nil => exact ⟨s, rfl, finalized_nil kind s⟩
  | cons group groups ih =>
    rw [List.forall_mem_cons] at hget
    obtain ⟨⟨ref, rest, hg⟩, hrest⟩ := hget
    obtain ⟨mid, hm, hmid⟩ := finalizeGroup_spec hg
    have hrest' : ∀ group ∈ groups, ∃ ref rest,
        (mid.book kind).instances.get? group.1 = some (ref :: rest) := by
      rw [hmid.candidates]
      exact hrest
    obtain ⟨s', hs, hs'⟩ := ih hrest'
    exact ⟨s', by rw [List.foldlM_cons, hm]; exact hs, hmid.cons hs'⟩

/-- The group kept candidates and has the desired capacity. -/
def Decided (ctx : SessionContext) (s : NodeHouseKeepingSession) (kind : GroupKind) (id : String)
    (instances : List EC2Instance) (capacity : ℤ) : Prop :=
  (s.book kind).instances.get? id = some instances ∧
    ∃ current, computed ctx kind (id, instances) = some (current, capacity)

theorem Ready.exists_decided (h : Ready ctx first s) (kind : GroupKind)
    (P : List EC2Instance → ℤ → Prop) :
    (∃ group ∈ (s.book kind).desiredCapacities.entries, ∃ instances,
        (s.book kind).instances.get? group.1 = some instances ∧ P instances group.2.2) ↔
      ∃ id instances capacity, Decided ctx s kind id instances capacity ∧ P instances capacity := by
  have hmem : ∀ group, group ∈ (s.book kind).desiredCapacities.entries ↔
      ∃ instances, (s.book kind).instances.get? group.1 = some instances ∧
        computed ctx kind (group.1, instances) = some group.2 := by
    intro group
    rw [Dict.mem_entries, h.desired, Option.bind_eq_some_iff]
  constructor
  · rintro ⟨group, hg, instances, hi, hP⟩
    obtain ⟨instances', hi', hc⟩ := (hmem group).mp hg
    obtain rfl := Option.some.inj (hi.symm.trans hi')
    exact ⟨group.1, instances, group.2.2, ⟨hi, group.2.1, hc⟩, hP⟩
  · rintro ⟨id, instances, capacity, ⟨hi, current, hc⟩, hP⟩
    exact ⟨(id, (current, capacity)), (hmem _).mpr ⟨instances, hi, hc⟩, instances, hi, hP⟩

theorem exists_kind {P : GroupKind → Prop} :
    (∃ kind, P kind) ↔ P .spotFleet ∨ P .autoScalingGroup := by
  constructor
  · rintro ⟨kind, h⟩
    cases kind with
    | spotFleet => exact .inl h
    | autoScalingGroup => exact .inr h
  · rintro (h | h)
    · exact ⟨_, h⟩
    · exact ⟨_, h⟩

variable {instances : List EC2Instance}

theorem decided_iff {group : String} {capacity : ℤ} : Decided ctx s kind group instances capacity ↔
      (s.book kind).instances.get? group = some instances ∧ ∃ config weight,
        ctx.describe true kind group = .ok (some config) ∧
        getPresentCapacity config.weightedCapacities instances = .ok weight ∧
        max 0 (config.currentCapacity - weight) = capacity := by
  rw [Decided]
  refine and_congr_right fun _ => ?_
  constructor
  · rintro ⟨current, hc⟩
    obtain ⟨config, hd, rfl, hcap⟩ := computed_eq_some.mp hc
    obtain ⟨weight, hw, hmax⟩ := getDesiredCapacity_eq_ok.mp hcap
    exact ⟨config, weight, hd, hw, hmax⟩
  · rintro ⟨config, weight, hd, hw, hmax⟩
    exact ⟨_, computed_eq_some.mpr ⟨config, hd, rfl,
      getDesiredCapacity_eq_ok.mpr ⟨weight, hw, hmax⟩⟩⟩

variable {i : EC2Instance}

theorem Kept.mem_of_mem_ids (h : Kept ctx first s) {group : String}
    (hget : (s.book kind).instances.get? group = some instances) (hi : Cached ctx i)
    (hid : i.instanceId ∈ instances.map EC2Instance.instanceId) : i ∈ instances := by
  obtain ⟨j, hj, heq⟩ := List.mem_map.mp hid
  have hin := (h.kept_iff kind group j).mp ⟨instances, hget, hj⟩
  exact (h.identified.member _ _ _ hin.1).1.eq_of_id hi heq ▸ hj

theorem Kept.idle_of_mem (h : Kept ctx first s) {group : String}
    (hget : (s.book kind).instances.get? group = some instances) (hi : i ∈ instances) :
    Cached ctx i ∧ Idle ctx i := by
  obtain ⟨hin, hidle⟩ := (h.kept_iff kind group i).mp ⟨instances, hget, hi⟩
  exact ⟨(h.identified.member _ _ _ hin).1, hidle⟩

/-- The marks of the last pass: the instances of the decided groups, and the stacks of those
with no capacity left. -/
theorem pass6_spec (h : Ready ctx first s) :
    ∃ s', s.pass6FinalizeResourcesToDelete = .ok s' ∧
      (∀ id, id ∈ s'.terminateIds ↔ ∃ kind group instances capacity,
        Decided ctx s kind group instances capacity ∧
          id ∈ instances.map EC2Instance.instanceId) ∧
      (∀ stack, stack ∈ s'.stacksToDelete ↔ ∃ kind group instances capacity,
        Decided ctx s kind group instances capacity ∧ capacity = 0 ∧
          instances.head?.map EC2Instance.socaComputeStack = some stack) ∧
      s'.DetachTerminated := by
  have hget : ∀ kind, ∀ group ∈ (s.book kind).desiredCapacities.entries, ∃ ref rest,
      (s.book kind).instances.get? group.1 = some (ref :: rest) := by
    intro kind group hg
    rw [Dict.mem_entries, h.desired, Option.bind_eq_some_iff] at hg
    obtain ⟨instances, hi, _⟩ := hg
    cases instances with
    | nil => exact absurd hi (h.nonempty kind group.1)
    | cons ref rest => exact ⟨ref, rest, hi⟩
  obtain ⟨mid, hm, hmid⟩ := foldlM_finalizeGroup_spec (hget .spotFleet)
  have hget' : ∀ group ∈ (mid.book .autoScalingGroup).desiredCapacities.entries, ∃ ref rest,
      (mid.book .autoScalingGroup).instances.get? group.1 = some (ref :: rest) := by
    rw [hmid.candidates, hmid.desired]
    exact hget .autoScalingGroup
  obtain ⟨s', hs, hs'⟩ := foldlM_finalizeGroup_spec hget'
  refine ⟨s', Raised.bind_eq_ok.mpr ⟨mid, hm, hs⟩, fun id => ?_, fun stack => ?_, ?_⟩
  · have hnone : id ∉ s.terminateIds := by
      rw [terminateIds, h.unmarked.no_instance]
      exact List.not_mem_nil
    have hkind := fun kind => h.exists_decided kind fun instances _ =>
      id ∈ instances.map EC2Instance.instanceId
    rw [hs'.terminated, hmid.terminated, hmid.candidates, hmid.desired, or_iff_right hnone,
      exists_kind]
    exact or_congr (hkind .spotFleet) (hkind .autoScalingGroup)
  · have hnone : stack ∉ s.stacksToDelete := by
      rw [h.unmarked.no_stack]
      exact List.not_mem_nil
    have hkind := fun kind => h.exists_decided kind fun instances capacity =>
      capacity = 0 ∧ instances.head?.map EC2Instance.socaComputeStack = some stack
    rw [hs'.deleted, hmid.deleted, hmid.candidates, hmid.desired, or_iff_right hnone,
      exists_kind]
    exact or_congr (hkind .spotFleet) (hkind .autoScalingGroup)
  · refine hs'.detached (hmid.detached fun name ids hn => ?_)
    rw [h.unmarked.no_detached] at hn
    cases hn

theorem mem_calls_makeCall {call call' : SessionCall} :
    call ∈ (makeCall ctx call').calls ↔ call = call' := List.mem_singleton

variable {call : SessionCall}

theorem mem_calls_deleteNode {failed : List (Option String)} {node : SocaComputeNode}
    (h : call ∈ (deleteNode ctx failed node).calls) : call = .deleteNode node.host := by
  unfold deleteNode at h
  split at h <;> exact List.mem_singleton.mp h

theorem mem_calls_terminateInstance {failed : List (Option String)}
    (h : call ∈ (terminateInstance ctx failed i).calls) :
    call = .terminateInstances [i.instanceId] (forceTerminate ctx i) := by
  unfold terminateInstance at h
  split at h
  · exact absurd h List.not_mem_nil
  · rcases Logged.mem_calls_bind.mp h with h | ⟨_, _, h⟩
    · exact mem_calls_makeCall.mp h
    · exact absurd h List.not_mem_nil

theorem marks_of_mem_cleanup (h : call ∈ (s.cleanup ctx).calls) (hr : call.removes i) :
    s.Marks i := by
  rcases Logged.mem_calls_bind.mp h with h | ⟨failed, _, h⟩
  · obtain ⟨node, _, _, _, h⟩ := Logged.exists_of_mem_calls_foldEach (fun _ => True) h trivial
      fun _ _ _ _ _ _ => trivial
    rw [mem_calls_deleteNode h] at hr
    exact hr.elim
  rcases Logged.mem_calls_bind.mp h with h | ⟨_, _, h⟩
  · obtain ⟨j, hj, h⟩ := Logged.exists_of_mem_calls_forEach h
    rw [mem_calls_terminateInstance h] at hr
    have hid : i.instanceId = j.instanceId := List.mem_singleton.mp hr
    left
    rw [hid]
    exact List.mem_map_of_mem ((ctx.instanceOrder.perm _).mem_iff.mp hj)
  rcases Logged.mem_calls_bind.mp h with h | ⟨_, _, h⟩
  · obtain ⟨_, _, h⟩ := Logged.exists_of_mem_calls_forEach h
    rw [mem_calls_makeCall.mp h] at hr
    exact hr.elim
  rcases Logged.mem_calls_bind.mp h with h | ⟨_, _, h⟩
  · obtain ⟨group, hg, h⟩ := Logged.exists_of_mem_calls_forEach h
    rw [mem_calls_makeCall.mp h] at hr
    exact .inr (.inl ⟨group.1, group.2, Dict.get?_of_mem_entries hg, hr⟩)
  rcases Logged.mem_calls_bind.mp h with h | ⟨_, _, h⟩
  · obtain ⟨_, _, h⟩ := Logged.exists_of_mem_calls_forEach h
    rw [mem_calls_makeCall.mp h] at hr
    exact hr.elim
  · obtain ⟨stack, hstack, h⟩ := Logged.exists_of_mem_calls_forEach h
    rw [mem_calls_makeCall.mp h] at hr
    obtain ⟨hn, hi⟩ := hr
    right
    right
    rw [hi]
    exact ⟨hn, (ctx.stackOrder.perm _).mem_iff.mp hstack⟩

theorem mem_calls_computeDesired (h : call ∈ (computeDesired ctx).calls) : ¬ call.removes i := by
  rcases Logged.mem_calls_bind.mp h with h | ⟨_, _, h⟩
  · rcases Logged.mem_calls_bind.mp h with h | ⟨_, _, h⟩
    · exact absurd h List.not_mem_nil
    rcases Logged.mem_calls_bind.mp h with h | ⟨_, _, h⟩
    · exact absurd h List.not_mem_nil
    rcases Logged.mem_calls_bind.mp h with h | ⟨_, _, h⟩
    · exact absurd h List.not_mem_nil
    rcases Logged.mem_calls_bind.mp h with h | ⟨_, _, h⟩
    · obtain ⟨_, _, h⟩ := Logged.exists_of_mem_calls_forEach h
      rw [List.mem_singleton.mp h]
      exact id
    · exact absurd h List.not_mem_nil
  · exact absurd h List.not_mem_nil

theorem marks_of_mem_begin (h : call ∈ (begin ctx).calls) (hr : call.removes i) :
    ∃ s s', (computeDesired ctx).outcome = .ok s ∧
      s.pass6FinalizeResourcesToDelete = .ok s' ∧ s'.Marks i := by
  rcases Logged.mem_calls_bind.mp h with h | ⟨s, hs, h⟩
  · exact absurd hr (mem_calls_computeDesired h)
  rcases Logged.mem_calls_bind.mp h with h | ⟨s', hs', h⟩
  · exact absurd h List.not_mem_nil
  · exact ⟨s, s', hs, hs', marks_of_mem_cleanup h hr⟩

/-- A marked instance is one of a decided group, or belongs to the stack of a group that is
left without capacity. -/
theorem Ready.marks_iff (h : Ready ctx first s)
    (hs : s.pass6FinalizeResourcesToDelete = .ok s') (i : EC2Instance) :
    s'.Marks i ↔ ∃ kind group instances capacity,
      Decided ctx s kind group instances capacity ∧
        (i.instanceId ∈ instances.map EC2Instance.instanceId ∨
          capacity = 0 ∧ i.socaComputeStack ≠ none ∧
            instances.head?.map EC2Instance.socaComputeStack = some i.socaComputeStack) := by
  obtain ⟨s'', hs'', hids, hstacks, hdetach⟩ := pass6_spec h
  obtain rfl : s' = s'' := Except.ok.inj (hs.symm.trans hs'')
  constructor
  · rintro (hid | ⟨name, ids, hn, hid⟩ | ⟨hne, hstack⟩)
    · obtain ⟨kind, group, instances, capacity, hd, hm⟩ := (hids _).mp hid
      exact ⟨kind, group, instances, capacity, hd, .inl hm⟩
    · obtain ⟨kind, group, instances, capacity, hd, hm⟩ := (hids _).mp (hdetach name ids hn hid)
      exact ⟨kind, group, instances, capacity, hd, .inl hm⟩
    · obtain ⟨kind, group, instances, capacity, hd, hz, hm⟩ := (hstacks _).mp hstack
      exact ⟨kind, group, instances, capacity, hd, .inr ⟨hz, hne, hm⟩⟩
  · rintro ⟨kind, group, instances, capacity, hd, hm | ⟨hz, hne, hm⟩⟩
    · exact .inl ((hids _).mpr ⟨kind, group, instances, capacity, hd, hm⟩)
    · exact .inr (.inr ⟨hne, (hstacks _).mpr ⟨kind, group, instances, capacity, hd, hz, hm⟩⟩)

/-- The last pass does not mark the instance and no call of the session removes it. -/
def Spares (ctx : SessionContext) (i : EC2Instance) : Prop :=
  (∀ s s', (computeDesired ctx).outcome = .ok s → s.pass6FinalizeResourcesToDelete = .ok s' →
    ¬ s'.Marks i) ∧
  ∀ call ∈ (begin ctx).calls, ¬ call.removes i

/-- A session spares an instance that none of the described groups keeps as a candidate, and
whose stack is not that of a group with its capacity taken up by candidates. -/
theorem spares_iff (hi : Cached ctx i) :
    Spares ctx i ↔ ∀ s, (computeDesired ctx).outcome = .ok s →
      ∀ kind group instances config weight,
        (s.book kind).instances.get? group = some instances →
        ctx.describe true kind group = .ok (some config) →
        getPresentCapacity config.weightedCapacities instances = .ok weight →
          i ∉ instances ∧ (config.currentCapacity ≤ weight → i.socaComputeStack ≠ none →
            instances.head?.map EC2Instance.socaComputeStack ≠ some i.socaComputeStack) := by
  constructor
  · intro hspares s hs kind group instances config weight hget hd hw
    obtain ⟨first, _, hready⟩ := ready_of_computeDesired hs
    obtain ⟨s', hs', _⟩ := pass6_spec hready
    have hdecided := decided_iff.mpr ⟨hget, config, weight, hd, hw, rfl⟩
    have hunmarked := hspares.1 s s' hs hs'
    rw [hready.marks_iff hs'] at hunmarked
    constructor
    · intro hmem
      apply hunmarked
      exact ⟨kind, group, instances, _, hdecided, .inl (List.mem_map_of_mem hmem)⟩
    · intro hle hstack hhead
      apply hunmarked
      refine ⟨kind, group, instances, _, hdecided, .inr ⟨?_, hstack, hhead⟩⟩
      exact max_eq_left (Int.sub_nonpos_of_le hle)
  · intro hspared
    have hmarks : ∀ s s', (computeDesired ctx).outcome = .ok s →
        s.pass6FinalizeResourcesToDelete = .ok s' → ¬ s'.Marks i := by
      intro s s' hs hs' hm
      obtain ⟨first, _, hready⟩ := ready_of_computeDesired hs
      obtain ⟨kind, group, instances, capacity, hdec, hcase⟩ := (hready.marks_iff hs' i).mp hm
      obtain ⟨hget, config, weight, hd, hw, hmax⟩ := decided_iff.mp hdec
      obtain ⟨hnot, hstacks⟩ := hspared s hs kind group instances config weight hget hd hw
      rcases hcase with hid | ⟨hz, hne, hhead⟩
      · exact hnot (hready.toKept.mem_of_mem_ids hget hi hid)
      · have hle : config.currentCapacity ≤ weight := by omega
        exact hstacks hle hne hhead
    refine ⟨hmarks, fun call hcall hr => ?_⟩
    obtain ⟨s, s', hs, hs', hm⟩ := marks_of_mem_begin hcall hr
    exact hmarks s s' hs hs' hm

end NodeHouseKeepingSession

end Idea

import Idea.HouseKeeping.Candidates

/-! # Capacities of a session

The desired capacity of a group that is described is what its current capacity leaves
without the candidates that were taken offline. When all passes before the last go through,
the session has these capacities for the groups that kept candidates, and nothing is marked.
-/

namespace Idea.NodeHouseKeepingSession

variable {ctx : SessionContext} {s s' : NodeHouseKeepingSession}

structure SameCandidates (s s' : NodeHouseKeepingSession) : Prop where
  candidates : ∀ kind, (s'.book kind).instances = (s.book kind).instances
  to_terminate : s'.instancesToTerminate = s.instancesToTerminate
  to_delete : s'.stacksToDelete = s.stacksToDelete
  to_detach : s'.autoScalingGroupDetachInstances = s.autoScalingGroupDetachInstances

theorem SameCandidates.refl (s : NodeHouseKeepingSession) : SameCandidates s s :=
  ⟨fun _ => rfl, rfl, rfl, rfl⟩

theorem SameCandidates.trans {s'' : NodeHouseKeepingSession} (h : SameCandidates s s')
    (h' : SameCandidates s' s'') : SameCandidates s s'' :=
  ⟨fun kind => (h'.1 kind).trans (h.1 kind), h'.2.trans h.2, h'.3.trans h.3, h'.4.trans h.4⟩

theorem SameCandidates.unmarked (h : SameCandidates s s') (hu : s.Unmarked) : s'.Unmarked :=
  ⟨h.2.trans hu.1, h.3.trans hu.2, h.4.trans hu.3⟩

theorem sameCandidates_modifyBook (s : NodeHouseKeepingSession) (kind : GroupKind)
    {f : GroupBook → GroupBook} (hf : ∀ book, (f book).instances = book.instances) :
    SameCandidates s (s.modifyBook kind f) := by
  constructor
  · intro kind'
    rw [book_modifyBook]
    split
    · rename_i hk
      rw [hf, hk]
    · rfl
  all_goals simp

def computed (ctx : SessionContext) (kind : GroupKind) (group : String × List EC2Instance) :
    Option (ℤ × ℤ) :=
  match ctx.describe true kind group.1 with
  | .ok (some config) =>
    match getDesiredCapacity config.currentCapacity config.weightedCapacities group.2 with
    | .ok capacity => some (config.currentCapacity, capacity)
    | .error _ => none
  | _ => none

variable {kind : GroupKind} {group : String × List EC2Instance}

theorem computed_eq_some {current capacity : ℤ} :
    computed ctx kind group = some (current, capacity) ↔
      ∃ config, ctx.describe true kind group.1 = .ok (some config) ∧
        config.currentCapacity = current ∧
        getDesiredCapacity current config.weightedCapacities group.2 = .ok capacity := by
  unfold computed
  constructor
  · intro h
    split at h
    · rename_i config hd
      split at h
      · rename_i capacity' hc
        obtain ⟨rfl, rfl⟩ := Prod.mk.inj (Option.some.inj h)
        exact ⟨config, hd, rfl, hc⟩
      · cases h
    · cases h
  · rintro ⟨config, hd, rfl, hc⟩
    rw [hd]
    dsimp only
    rw [hc]

theorem getDesiredCapacity_eq_ok {current capacity : ℤ} {weights : Option WeightedCapacities}
    {instances : List EC2Instance} :
    getDesiredCapacity current weights instances = .ok capacity ↔
      ∃ weight, getPresentCapacity weights instances = .ok weight ∧
        max 0 (current - weight) = capacity := by
  rw [getDesiredCapacity, Raised.bind_eq_ok]
  simp

theorem computePresent_spec (h : computeCapacities ctx false kind s group = .ok s') :
    SameCandidates s s' ∧
      ∀ kind', (s'.book kind').desiredCapacities = (s.book kind').desiredCapacities := by
  obtain ⟨result, _, h⟩ := Raised.bind_eq_ok.mp h
  cases result with
  | none =>
    cases h
    exact ⟨.refl s, fun _ => rfl⟩
  | some config =>
    obtain ⟨capacity, _, h⟩ := Raised.bind_eq_ok.mp h
    cases h
    refine ⟨sameCandidates_modifyBook s kind fun _ => rfl, fun kind' => ?_⟩
    rw [book_modifyBook]
    split
    · rename_i hk
      rw [hk]
    · rfl

theorem computeDesired_spec (h : computeCapacities ctx true kind s group = .ok s') :
    SameCandidates s s' ∧ ∀ kind', (s'.book kind').desiredCapacities =
      if kind' = kind then
        (s.book kind).desiredCapacities.setSome group.1 (computed ctx kind group)
      else (s.book kind').desiredCapacities := by
  obtain ⟨result, hd, h⟩ := Raised.bind_eq_ok.mp h
  cases result with
  | none =>
    cases h
    refine ⟨.refl s, fun kind' => ?_⟩
    have hc : computed ctx kind group = none := by rw [computed, hd]
    rw [hc]
    split
    · rename_i hk
      rw [hk]
      rfl
    · rfl
  | some config =>
    obtain ⟨capacity, hcap, h⟩ := Raised.bind_eq_ok.mp h
    cases h
    refine ⟨sameCandidates_modifyBook s kind fun _ => rfl, fun kind' => ?_⟩
    have hc : computed ctx kind group = some (config.currentCapacity, capacity) :=
      computed_eq_some.mpr ⟨config, hd, rfl, hcap⟩
    rw [hc, book_modifyBook]
    split <;> rfl

theorem foldlM_computeDesired_spec {groups : List (String × List EC2Instance)}
    (h : groups.foldlM (computeCapacities ctx true kind) s = .ok s') :
    SameCandidates s s' ∧ ∀ kind', (s'.book kind').desiredCapacities =
      if kind' = kind then
        groups.foldl (fun d group => d.setSome group.1 (computed ctx kind group))
          (s.book kind).desiredCapacities
      else (s.book kind').desiredCapacities := by
  induction groups generalizing s with
  | nil =>
    obtain rfl : s = s' := Except.ok.inj h
    refine ⟨.refl s, fun kind' => ?_⟩
    split
    · rename_i hk
      rw [hk]
      rfl
    · rfl
  | cons group groups ih =>
    rw [List.foldlM_cons, Raised.bind_eq_ok] at h
    obtain ⟨mid, hm, h⟩ := h
    obtain ⟨hsame, hmid⟩ := computeDesired_spec hm
    obtain ⟨hsame', hrest⟩ := ih h
    refine ⟨hsame.trans hsame', fun kind' => ?_⟩
    rw [hrest, hmid, hmid, if_pos rfl]
    split
    · rfl
    · rfl

theorem foldlM_computePresent_spec {groups : List (String × List EC2Instance)}
    (h : groups.foldlM (computeCapacities ctx false kind) s = .ok s') :
    SameCandidates s s' ∧
      ∀ kind, (s'.book kind).desiredCapacities = (s.book kind).desiredCapacities := by
  refine Raised.foldlM_invariant (fun b => SameCandidates s b ∧
    ∀ kind, (b.book kind).desiredCapacities = (s.book kind).desiredCapacities) h
    ⟨.refl s, fun _ => rfl⟩ ?_
  rintro _ _ b b' ⟨hsame, hdes⟩ hstep
  obtain ⟨hsame', hdes'⟩ := computePresent_spec hstep
  exact ⟨hsame.trans hsame', fun kind => (hdes' kind).trans (hdes kind)⟩

theorem pass2_spec (h : s.pass2ComputePresentCapacities ctx = .ok s') :
    SameCandidates s s' ∧
      ∀ kind, (s'.book kind).desiredCapacities = (s.book kind).desiredCapacities := by
  obtain ⟨mid, hm, h⟩ := Raised.bind_eq_ok.mp h
  obtain ⟨hsame, hdes⟩ := foldlM_computePresent_spec hm
  obtain ⟨hsame', hdes'⟩ := foldlM_computePresent_spec h
  exact ⟨hsame.trans hsame', fun kind => (hdes' kind).trans (hdes kind)⟩

theorem pass5_spec (hnone : ∀ kind, (s.book kind).desiredCapacities = ∅)
    (h : s.pass5ComputeDesiredCapacities ctx = .ok s') :
    SameCandidates s s' ∧ ∀ kind id, (s'.book kind).desiredCapacities.get? id =
      ((s.book kind).instances.get? id).bind fun instances => computed ctx kind (id, instances) := by
  obtain ⟨mid, hm, h⟩ := Raised.bind_eq_ok.mp h
  obtain ⟨hsame, hmid⟩ := foldlM_computeDesired_spec hm
  obtain ⟨hsame', hrest⟩ := foldlM_computeDesired_spec h
  refine ⟨hsame.trans hsame', fun kind id => ?_⟩
  have hget : ∀ kind', ((s.book kind').instances.entries.foldl
      (fun (d : Dict String (ℤ × ℤ)) group => d.setSome group.1 (computed ctx kind' group))
      ∅).get? id =
      ((s.book kind').instances.get? id).bind
        fun instances => computed ctx kind' (id, instances) := by
    intro kind'
    rw [Dict.get?_foldl_setSome _ (s.book kind').instances.nodup, Dict.get?_empty, Option.or_none]
    rfl
  cases kind with
  | spotFleet =>
    rw [hrest, if_neg (by simp), hmid, if_pos rfl, hnone]
    exact hget .spotFleet
  | autoScalingGroup =>
    have hasg : mid.autoScalingGroups.instances = (s.book .autoScalingGroup).instances :=
      hsame.candidates .autoScalingGroup
    rw [hrest, if_pos rfl, hmid, if_neg (by simp), hnone, hasg]
    exact hget .autoScalingGroup

theorem keepOfflineInstances_spec (s : NodeHouseKeepingSession) (offline : List EC2Instance) :
    (∀ kind, ((s.keepOfflineInstances ctx offline).book kind).desiredCapacities =
        (s.book kind).desiredCapacities) ∧
      (∀ kind id, ((s.keepOfflineInstances ctx offline).book kind).instances.get? id =
        ((s.book kind).instances.get? id).bind (keepOffline ctx offline)) ∧
      (s.Unmarked → (s.keepOfflineInstances ctx offline).Unmarked) := by
  refine ⟨fun kind => ?_, fun kind id => ?_, fun h => ⟨h.1, h.2, h.3⟩⟩
  · cases kind <;> rfl
  · cases kind <;> exact Dict.get?_filterMap _ _ _

theorem mem_candidates {i : EC2Instance} :
    i ∈ s.candidates ↔ ∃ kind id, s.InGroup kind id i := by
  have hbook : ∀ d : Dict String (List EC2Instance), i ∈ d.values.flatten ↔
      ∃ id instances, d.get? id = some instances ∧ i ∈ instances := by
    intro d
    rw [List.mem_flatten]
    constructor
    · rintro ⟨instances, hv, hi⟩
      obtain ⟨entry, he, rfl⟩ := List.mem_map.mp hv
      exact ⟨entry.1, entry.2, Dict.get?_of_mem_entries he, hi⟩
    · rintro ⟨id, instances, hget, hi⟩
      exact ⟨instances, List.mem_map.mpr ⟨_, Dict.mem_entries_of_get? hget, rfl⟩, hi⟩
  rw [candidates, List.mem_append, hbook, hbook]
  constructor
  · rintro (h | h)
    · exact ⟨.spotFleet, h⟩
    · exact ⟨.autoScalingGroup, h⟩
  · rintro ⟨kind, h⟩
    cases kind with
    | spotFleet => exact .inl h
    | autoScalingGroup => exact .inr h

/-- What holds when the candidates to keep are known: `first` is the session after the first
pass and `s` the one at that point. -/
structure Kept (ctx : SessionContext) (first s : NodeHouseKeepingSession) : Prop where
  identified : Identified ctx first
  kept_iff : ∀ kind id i, s.InGroup kind id i ↔ first.InGroup kind id i ∧ Idle ctx i
  nonempty : ∀ kind id, (s.book kind).instances.get? id ≠ some []
  unmarked : s.Unmarked

/-- What holds in addition when the desired capacities are computed. -/
structure Ready (ctx : SessionContext) (first s : NodeHouseKeepingSession) : Prop
    extends Kept ctx first s where
  desired : ∀ kind id, (s.book kind).desiredCapacities.get? id =
    ((s.book kind).instances.get? id).bind fun instances => computed ctx kind (id, instances)

theorem inGroup_congr (h : SameCandidates s s') {id : String} {i : EC2Instance} :
    s'.InGroup kind id i ↔ s.InGroup kind id i := by
  rw [InGroup, InGroup, h.candidates]

theorem inGroup_keepOfflineInstances (hi : Identified ctx s) {offline : List EC2Instance}
    (ho : s.candidates.foldlM (addIfIdle ctx) [] = .ok offline) {id : String} {i : EC2Instance} :
    (s.keepOfflineInstances ctx offline).InGroup kind id i ↔
      s.InGroup kind id i ∧ Idle ctx i := by
  -- an id is offline when the one candidate with this id is idle
  have hoffline : s.InGroup kind id i →
      (i.instanceId ∈ offline.map EC2Instance.instanceId ↔ Idle ctx i) := by
    intro hin
    rw [mem_ids_foldlM_addIfIdle ho]
    constructor
    · rintro (h | ⟨j, hj, heq, hidle⟩)
      · exact absurd h List.not_mem_nil
      · obtain ⟨kind', id', hin'⟩ := mem_candidates.mp hj
        obtain rfl := (hi.member _ _ _ hin').1.eq_of_id (hi.member _ _ _ hin).1 heq
        exact hidle
    · exact fun hidle => .inr ⟨i, mem_candidates.mpr ⟨kind, id, hin⟩, rfl, hidle⟩
  constructor
  · rintro ⟨kept, hget, hk⟩
    rw [(keepOfflineInstances_spec s offline).2.1] at hget
    obtain ⟨instances, hl, hkeep⟩ := Option.bind_eq_some_iff.mp hget
    obtain ⟨hfold, hid⟩ := ((keepOffline_eq_some hkeep).2 i).mp hk
    have hmem := (mem_of_mem_foldl_addInstance hfold).resolve_left List.not_mem_nil
    have hin : s.InGroup kind id i := ⟨instances, hl, hmem⟩
    exact ⟨hin, (hoffline hin).mp hid⟩
  · rintro ⟨hin, hidle⟩
    obtain ⟨instances, hl, hmem⟩ := hin
    have hcached : ∀ j ∈ instances, Cached ctx j :=
      fun j hj => (hi.member kind id j ⟨instances, hl, hj⟩).1
    have hfold := (mem_foldl_addInstance_of_cached hcached).mpr hmem
    have hid := (hoffline ⟨instances, hl, hmem⟩).mpr hidle
    cases hkeep : keepOffline ctx offline instances with
    | none =>
      have hnil : ctx.instanceOrder.order ((instances.foldl addInstance []).filter
          fun i => i.instanceId ∈ offline.map EC2Instance.instanceId) = [] := by
        unfold keepOffline at hkeep
        split at hkeep
        · assumption
        · cases hkeep
      have hperm := ctx.instanceOrder.perm ((instances.foldl addInstance []).filter
          fun i => i.instanceId ∈ offline.map EC2Instance.instanceId)
      have hin : i ∈ ctx.instanceOrder.order ((instances.foldl addInstance []).filter
          fun i => i.instanceId ∈ offline.map EC2Instance.instanceId) :=
        hperm.mem_iff.mpr (List.mem_filter.mpr ⟨hfold, decide_eq_true hid⟩)
      rw [hnil] at hin
      exact absurd hin List.not_mem_nil
    | some kept =>
      refine ⟨kept, ?_, ((keepOffline_eq_some hkeep).2 i).mpr ⟨hfold, hid⟩⟩
      rw [(keepOfflineInstances_spec s offline).2.1, hl]
      exact hkeep

theorem kept_of_keepCandidates (h : (keepCandidates ctx).outcome = .ok s) :
    (∃ first, pass1IdentifyPotentialCandidatesForDeletion ctx = .ok first ∧ Kept ctx first s) ∧
      ∀ kind, (s.book kind).desiredCapacities = ∅ := by
  obtain ⟨first, h₁, h⟩ := Logged.outcome_bind.mp h
  obtain ⟨second, h₂, h₄⟩ := Logged.outcome_bind.mp h
  obtain ⟨offline, ho, h₄⟩ := Logged.outcome_bind.mp h₄
  obtain ⟨_, _, h₄⟩ := Logged.outcome_bind.mp h₄
  obtain rfl : second.keepOfflineInstances ctx offline = s := Except.ok.inj h₄
  have hfirst := identified_of_pass1 h₁
  obtain ⟨hsame, hdes⟩ := pass2_spec h₂
  have hsecond : Identified ctx second :=
    ⟨fun kind id i hin => hfirst.member kind id i ((inGroup_congr hsame).mp hin),
      fun kind => (hdes kind).trans (hfirst.undecided kind), hsame.unmarked hfirst.unmarked⟩
  obtain ⟨hdes₄, hinst₄, hun₄⟩ := @keepOfflineInstances_spec ctx second offline
  refine ⟨⟨first, h₁, hfirst, fun kind id i => ?_, fun kind id hnil => ?_,
    hun₄ hsecond.unmarked⟩, fun kind => (hdes₄ kind).trans (hsecond.undecided kind)⟩
  · rw [inGroup_keepOfflineInstances hsecond ho, inGroup_congr hsame]
  · rw [hinst₄] at hnil
    obtain ⟨instances, _, hkeep⟩ := Option.bind_eq_some_iff.mp hnil
    exact (keepOffline_eq_some hkeep).1 rfl

theorem ready_of_computeDesired (h : (computeDesired ctx).outcome = .ok s) :
    ∃ first, pass1IdentifyPotentialCandidatesForDeletion ctx = .ok first ∧ Ready ctx first s := by
  obtain ⟨fourth, h₄, h₅⟩ := Logged.outcome_bind.mp h
  obtain ⟨⟨first, h₁, hkept⟩, hnone⟩ := kept_of_keepCandidates h₄
  obtain ⟨hsame, hdes⟩ := pass5_spec hnone h₅
  refine ⟨first, h₁, ⟨hkept.identified, fun kind id i => ?_, fun kind id hnil => ?_,
    hsame.unmarked hkept.unmarked⟩, fun kind id => ?_⟩
  · rw [inGroup_congr hsame, hkept.kept_iff]
  · rw [hsame.candidates] at hnil
    exact hkept.nonempty kind id hnil
  · rw [hdes, hsame.candidates]

end Idea.NodeHouseKeepingSession

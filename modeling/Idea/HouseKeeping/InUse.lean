import Idea.HouseKeeping.Removal

/-! # Instances in use

An instance is in use when its node, as fetched again before nodes are set offline, is busy or
has jobs. A session spares the instances in use exactly when no candidate it keeps has jobs
and no stack that it deletes holds an instance in use.
-/

namespace Idea

open NodeHouseKeepingSession

/-- The node of the instance, fetched again, has jobs. -/
def HasJobs (ctx : SessionContext) (i : EC2Instance) : Prop :=
  ∃ node, ctx.getNode i.privateDnsName = .ok (some node) ∧ isEmptyList node.jobs = false

/-- The node of the instance, fetched again, is busy or has jobs. -/
def InUse (ctx : SessionContext) (i : EC2Instance) : Prop :=
  ∃ node, ctx.getNode i.privateDnsName = .ok (some node) ∧
    (node.isBusy = true ∨ isEmptyList node.jobs = false)

/-- The session spares every cached instance in use. -/
def SparesInUse (ctx : SessionContext) : Prop :=
  ∀ i, Cached ctx i → InUse ctx i → Spares ctx i

/-- If the session gets to its last pass, each group that is described keeps no candidate with
jobs, and if the capacity of the candidates reaches the current one, then the stack of the
first holds no instance in use. -/
def RemovesUnused (ctx : SessionContext) : Prop :=
  ∀ s, (computeDesired ctx).outcome = .ok s → ∀ kind group instances config weight,
    (s.book kind).instances.get? group = some instances →
    ctx.describe true kind group = .ok (some config) →
    getPresentCapacity config.weightedCapacities instances = .ok weight →
      (∀ i ∈ instances, ¬ HasJobs ctx i) ∧
      (config.currentCapacity ≤ weight → ∀ i, Cached ctx i → InUse ctx i →
        i.socaComputeStack ≠ none →
          instances.head?.map EC2Instance.socaComputeStack ≠ some i.socaComputeStack)

variable {ctx : SessionContext}

theorem HasJobs.inUse {i : EC2Instance} (h : HasJobs ctx i) : InUse ctx i := by
  obtain ⟨node, hn, hj⟩ := h
  exact ⟨node, hn, .inr hj⟩

theorem InUse.hasJobs_of_idle {i : EC2Instance} (h : InUse ctx i) (hi : Idle ctx i) :
    HasJobs ctx i := by
  obtain ⟨node, hn, hu⟩ := h
  obtain ⟨node', hn', hb⟩ := hi
  obtain rfl : node = node' := Option.some.inj (Except.ok.inj (hn.symm.trans hn'))
  rcases hu with hu | hu
  · rw [hb] at hu
    cases hu
  · exact ⟨node, hn, hu⟩

/-- A session spares the instances in use exactly when what it removes is unused. -/
theorem session_spares_in_use_iff (ctx : SessionContext) : SparesInUse ctx ↔ RemovesUnused ctx := by
  constructor
  · intro hspares s hs kind group instances config weight hget hd hw
    have hspared := fun i hi huse =>
      (spares_iff hi).mp (hspares i hi huse) s hs kind group instances config weight hget hd hw
    obtain ⟨first, _, hready⟩ := ready_of_computeDesired hs
    constructor
    · intro i hi hjobs
      exact (hspared i (hready.toKept.idle_of_mem hget hi).1 hjobs.inUse).1 hi
    · intro hle i hi huse
      exact (hspared i hi huse).2 hle
  · intro hunused i hi huse
    apply (spares_iff hi).mpr
    intro s hs kind group instances config weight hget hd hw
    obtain ⟨first, _, hready⟩ := ready_of_computeDesired hs
    obtain ⟨hjobs, hstacks⟩ := hunused s hs kind group instances config weight hget hd hw
    constructor
    · intro hmem
      exact hjobs i hmem (huse.hasJobs_of_idle (hready.toKept.idle_of_mem hget hmem).2)
    · intro hle
      exact hstacks hle i hi huse

namespace InUseExample

def idleInstance : EC2Instance where
  instanceId := "i-1"
  state := some "running"
  privateDnsName := some "ip-1"
  launchTime := some 0
  tags := some [(Tag.NODE_TYPE, NODE_TYPE_COMPUTE), (Tag.JOB_ID, "5"),
    (Tag.CAPACITY_TYPE, "on-demand"), (Tag.AUTOSCALING_GROUP_NAME, "asg"),
    (Tag.COMPUTE_STACK, "stack")]

def node (jobs : List String) : SocaComputeNode where
  host := some "ip-1"
  clusterName := some "idea"
  states := some [.free]
  queueType := some "normal"
  instanceId := some "i-1"
  computeStack := some "stack"
  jobs := some jobs

/-- A job starts on the node between the first pass and the check before it is set offline. -/
def jobStarts : SessionContext where
  clusterName := "idea"
  utcnow := 100
  listNodes := .ok [node []]
  getNode := fun _ => .ok (some (node ["9"]))
  instances := ⟨⟨[("i-1", idleInstance)], by simp⟩, by
    intro instanceId i h
    obtain ⟨rfl, rfl⟩ : instanceId = "i-1" ∧ i = idleInstance := by
      have hm := Dict.mem_entries_of_get? h
      simpa using hm
    rfl⟩
  jobs := .new
  pendingJobs := fun _ => .ok 0
  describeSpotFleetRequest := fun _ _ => .ok none
  describeAutoScalingGroup := fun _ _ => .ok (some ⟨2, none⟩)
  callOutcome := fun _ => .ok ()
  instanceOrder := .identity _
  nodeOrder := .identity _
  stackOrder := .identity _

end InUseExample

/-- An instance on which a job has started is terminated. -/
theorem instance_in_use_terminated : ¬ SparesInUse InUseExample.jobStarts := by
  intro h
  have hcall : SessionCall.terminateInstances ["i-1"] false ∈
      (begin InUseExample.jobStarts).calls := by
    have hcalls : (begin InUseExample.jobStarts).calls =
        [.setNodeState (some "ip-1") .offline, .terminateInstances ["i-1"] false,
          .detachInstances "asg" ["i-1"], .updateAutoScalingGroup "asg" 1] := by rfl
    rw [hcalls]
    simp
  exact (h InUseExample.idleInstance rfl ⟨InUseExample.node ["9"], rfl, .inr rfl⟩).2 _ hcall
    (List.mem_singleton_self _)

/-- An instance that a session terminates or detaches was a candidate of the first pass, in its own
spot fleet or auto scaling group, and its node was fetched again and was not busy. -/
theorem removed_idle {ctx : SessionContext} {call : SessionCall} {i : EC2Instance}
    (hcall : call ∈ (begin ctx).calls) (hdirect : ∀ stack, call ≠ .deleteStack stack)
    (hi : Cached ctx i) (hremoves : call.removes i) :
    Idle ctx i ∧ ∃ first kind group,
      pass1IdentifyPotentialCandidatesForDeletion ctx = .ok first ∧ first.InGroup kind group i ∧
        groupOf i = some (kind, group) := by
  -- The mark cannot come from a stack, since the call would remove an instance without one too.
  have hstackless : call.removes { i with tags := none } := by
    cases call with
    | deleteStack stack => exact absurd rfl (hdirect stack)
    | _ => exact hremoves
  obtain ⟨s, s', hs, hs', hmarks⟩ := marks_of_mem_begin hcall hstackless
  obtain ⟨first, hfirst, hready⟩ := ready_of_computeDesired hs
  obtain ⟨kind, group, instances, _, ⟨hget, -⟩, hid | ⟨-, hne, -⟩⟩ :=
    (hready.marks_iff hs' _).mp hmarks
  · have hmem := hready.toKept.mem_of_mem_ids hget hi hid
    obtain ⟨hin, hidle⟩ := (hready.toKept.kept_iff kind group i).mp ⟨instances, hget, hmem⟩
    have hgroup := (hready.identified.member kind group i hin).2
    exact ⟨hidle, first, kind, group, hfirst, hin, hgroup⟩
  · exact absurd rfl hne

theorem removed_idle_free : Idle InUseExample.jobStarts InUseExample.idleInstance := by
  have hcall : SessionCall.detachInstances "asg" ["i-1"] ∈
      (begin InUseExample.jobStarts).calls := .tail _ (.tail _ (.head _))
  exact (removed_idle (i := InUseExample.idleInstance) hcall (by simp) rfl
    (List.mem_singleton_self _)).1

end Idea

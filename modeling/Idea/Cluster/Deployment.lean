import Idea.Data.Dict
import Idea.Data.Stages
import Idea.Model.Utils

/-! # Deployment of modules

The selected modules that need it are deployed in the order of their priorities, one after the
other or, in the optimized mode, those of one priority in parallel. In parallel, a failure is known
only from the status that is stored for the module afterwards.
-/

namespace Idea.Deployment

def GENERAL_ERROR : String := "GENERAL_ERROR"

def MODULE_TYPE_CONFIG : String := "config"

structure ModuleInfo where
  name : String
  type : String
  status : String
  deriving DecidableEq

structure DeploymentHelper where
  clusterModules : Dict String ModuleInfo
  moduleIds : List String
  upgrade : Bool
  optimizeDeployment : Bool
  /-- `get_module_deployment_priority` -/
  getModuleDeploymentPriority : String → Except Raised ℤ

inductive Stop where
  | systemExit (code : ℤ)
  | raised (e : Raised)

/-- How the commands end, and the status that each leaves for its module. The stack of a module
records that it is deployed. -/
structure Cloud where
  outcome : String → Option Stop
  statusAfter : String → String
  deployed : ∀ moduleId, outcome moduleId = none → statusAfter moduleId = "deployed"

/-- The modules as they were read last and as they are stored, and the deployments begun so far. -/
structure Rollout where
  clusterModules : Dict String ModuleInfo
  table : Dict String ModuleInfo
  attempted : List String

namespace DeploymentHelper

variable (self : DeploymentHelper)

def needsDeployment (info : ModuleInfo) : Bool :=
  info.type ≠ MODULE_TYPE_CONFIG && (info.status ≠ "deployed" || self.upgrade)

def collect : List String → Except Raised (List (String × ℤ))
  | [] => .ok []
  | moduleId :: moduleIds =>
    match self.clusterModules.get? moduleId with
    | none => .error .keyError
    | some info =>
      if self.needsDeployment info then do
        let priority ← self.getModuleDeploymentPriority info.name
        let rest ← collect moduleIds
        .ok ((moduleId, priority) :: rest)
      else collect moduleIds

def getDeploymentOrder : Except Raised (List String) := do
  let order ← self.collect self.moduleIds
  .ok ((order.mergeSort fun a b => a.2 ≤ b.2).map Prod.fst)

def groupByPriority : List String → Dict ℤ (List String) → Except Raised (Dict ℤ (List String))
  | [], groups => .ok groups
  | moduleId :: moduleIds, groups =>
    match self.clusterModules.get? moduleId with
    | none => .error .keyError
    | some info =>
      if self.needsDeployment info then do
        let priority ← self.getModuleDeploymentPriority info.name
        groupByPriority moduleIds
          (groups.set priority ((groups.get? priority).getD [] ++ [moduleId]))
      else groupByPriority moduleIds groups

def getOptimizedDeploymentOrder : Except Raised (List (List String)) := do
  let order ← self.getDeploymentOrder
  let groups ← self.groupByPriority order ∅
  .ok groups.values

end DeploymentHelper

section Running

variable (cloud : Cloud)

def storedAfter (moduleId : String) (table : Dict String ModuleInfo) : Dict String ModuleInfo :=
  match table.get? moduleId with
  | none => table
  | some info => table.set moduleId { info with status := cloud.statusAfter moduleId }

def deployModule (moduleId : String) (s : Rollout) : Except Stop Unit × Rollout :=
  (match cloud.outcome moduleId with
    | none => .ok ()
    | some stop => .error stop,
    { s with
      table := storedAfter cloud moduleId s.table
      attempted := s.attempted ++ [moduleId] })

def deployInThreads (moduleIds : List String) (s : Rollout) : Rollout :=
  moduleIds.foldl (fun s moduleId => (deployModule cloud moduleId s).2) s

def initializeClusterModules (s : Rollout) : Rollout :=
  { s with
    clusterModules := s.table.entries.foldl (fun modules e => modules.set e.1 e.2)
      s.clusterModules }

def checkDeployed (s : Rollout) : List String → Except Stop Unit
  | [] => .ok ()
  | moduleId :: moduleIds =>
    match s.clusterModules.get? moduleId with
    | none => .error (.raised .keyError)
    | some info =>
      if info.status ≠ "deployed" then
        .error (.raised (.soca GENERAL_ERROR
          ("deployment failed. could not deploy module: " ++ moduleId)))
      else checkDeployed s moduleIds

def deployBatches : List (List String) → Rollout → Except Stop Unit × Rollout
  | [], s => (.ok (), s)
  | modules :: rest, s =>
    let s := initializeClusterModules (deployInThreads cloud modules s)
    match checkDeployed s modules with
    | .error stop => (.error stop, s)
    | .ok () => deployBatches rest s

def deploySequentially : List String → Rollout → Except Stop Unit × Rollout
  | [], s => (.ok (), s)
  | moduleId :: moduleIds, s =>
    match deployModule cloud moduleId s with
    | (.error stop, s) => (.error stop, s)
    | (.ok (), s) => deploySequentially moduleIds s

end Running

namespace DeploymentHelper

variable (self : DeploymentHelper)

def optimizes : Bool := self.optimizeDeployment && 1 < self.moduleIds.length

/-- `invoke`, where the modules are those that are stored. Where there are none to be deployed only
a message is printed. -/
def invoke (cloud : Cloud) : Except Stop Unit × Rollout :=
  let s : Rollout := ⟨self.clusterModules, self.clusterModules, []⟩
  if self.optimizes then
    match self.getOptimizedDeploymentOrder with
    | .error e => (.error (.raised e), s)
    | .ok order => deployBatches cloud order s
  else
    match self.getDeploymentOrder with
    | .error e => (.error (.raised e), s)
    | .ok order => deploySequentially cloud order s

def selected : List String :=
  self.moduleIds.filter fun moduleId =>
    (self.clusterModules.get? moduleId).any self.needsDeployment

def priority (moduleId : String) : ℤ :=
  match self.clusterModules.get? moduleId with
  | none => 0
  | some info => (self.getModuleDeploymentPriority info.name).toOption.getD 0

/-- The module is stored, and its name has a priority. -/
def Known (moduleId : String) : Prop :=
  ∃ info priority, self.clusterModules.get? moduleId = some info ∧
    self.getModuleDeploymentPriority info.name = .ok priority

end DeploymentHelper

structure Selection extends DeploymentHelper where
  nodup : moduleIds.Nodup
  known : ∀ moduleId ∈ moduleIds, toDeploymentHelper.Known moduleId

section Order

variable {self : DeploymentHelper} {moduleId : String} {moduleIds : List String}

theorem collect_eq (h : ∀ moduleId ∈ moduleIds, self.Known moduleId) :
    self.collect moduleIds = .ok ((moduleIds.filter fun moduleId =>
      (self.clusterModules.get? moduleId).any self.needsDeployment).map
        fun moduleId => (moduleId, self.priority moduleId)) := by
  induction moduleIds with
  | nil => rfl
  | cons moduleId moduleIds ih =>
    obtain ⟨⟨info, priority, hinfo, hpriority⟩, hrest⟩ := List.forall_mem_cons.mp h
    have hvalue : self.priority moduleId = priority := by
      simp [DeploymentHelper.priority, hinfo, hpriority, Except.toOption]
    rw [DeploymentHelper.collect]
    simp only [hinfo]
    split
    · rename_i hneeds
      rw [hpriority, Raised.ok_bind, ih hrest, Raised.ok_bind,
        List.filter_cons_of_pos (by rw [hinfo]; exact hneeds), List.map_cons, hvalue]
    · rename_i hneeds
      rw [ih hrest, List.filter_cons_of_neg (by rw [hinfo]; exact hneeds)]

theorem getDeploymentOrder_eq (h : ∀ moduleId ∈ self.moduleIds, self.Known moduleId) :
    ∃ order, self.getDeploymentOrder = .ok order ∧ order.Perm self.selected ∧
      order.Pairwise fun a b => self.priority a ≤ self.priority b := by
  have htrans : ∀ a b c : String × ℤ, decide (a.2 ≤ b.2) = true → decide (b.2 ≤ c.2) = true →
      decide (a.2 ≤ c.2) = true := by
    intro a b c hab hbc
    exact decide_eq_true ((of_decide_eq_true hab).trans (of_decide_eq_true hbc))
  have htotal : ∀ a b : String × ℤ, (decide (a.2 ≤ b.2) || decide (b.2 ≤ a.2)) = true := by
    intro a b
    rw [Bool.or_eq_true, decide_eq_true_iff, decide_eq_true_iff]
    exact Int.le_total a.2 b.2
  generalize hpairs : self.selected.map (fun moduleId => (moduleId, self.priority moduleId)) =
    pairs
  have hcollect : self.collect self.moduleIds = .ok pairs := by
    rw [collect_eq h, ← hpairs]
    rfl
  have hperm := List.mergeSort_perm pairs fun a b => a.2 ≤ b.2
  have hsorted := List.pairwise_mergeSort htrans htotal pairs
  refine ⟨_, by rw [DeploymentHelper.getDeploymentOrder, hcollect, Raised.ok_bind], ?_, ?_⟩
  · have hfst : pairs.map Prod.fst = self.selected := by
      rw [← hpairs, List.map_map]
      exact List.map_id _
    rw [← hfst]
    exact hperm.map Prod.fst
  · rw [List.pairwise_map]
    refine hsorted.imp_of_mem fun {a b} ha hb hle => ?_
    have hpriority : ∀ a ∈ pairs, a.2 = self.priority a.1 := by
      rw [← hpairs]
      rintro _ ha
      obtain ⟨moduleId, -, rfl⟩ := List.mem_map.mp ha
      rfl
    rw [← hpriority a (hperm.mem_iff.mp ha), ← hpriority b (hperm.mem_iff.mp hb)]
    exact of_decide_eq_true hle

/-- The groups so far: their priorities rise, and each has modules of its priority. -/
structure Grouped (helper : DeploymentHelper) (groups : Dict ℤ (List String)) : Prop where
  rising : groups.keys.Pairwise (· < ·)
  level : ∀ e ∈ groups.entries, e.2 ≠ [] ∧ ∀ moduleId ∈ e.2, helper.priority moduleId = e.1

theorem Grouped.graded {groups : Dict ℤ (List String)} (h : Grouped self groups) :
    Stages.Graded self.priority groups.values where
  nonempty batch hbatch := by
    obtain ⟨e, he, rfl⟩ := List.mem_map.mp hbatch
    exact (h.level e he).1
  level batch hbatch a ha b hb := by
    obtain ⟨e, he, rfl⟩ := List.mem_map.mp hbatch
    exact ((h.level e he).2 a ha).trans ((h.level e he).2 b hb).symm
  rising := by
    have hkeys := h.rising
    rw [Dict.keys, List.pairwise_map] at hkeys
    rw [Dict.values, List.pairwise_map]
    refine hkeys.imp_of_mem fun {e later} he hlater hless a ha b hb => ?_
    rw [(h.level e he).2 a ha, (h.level later hlater).2 b hb]
    exact hless

theorem Grouped.add {groups : Dict ℤ (List String)} (h : Grouped self groups)
    (hall : ∀ k ∈ groups.keys, k ≤ self.priority moduleId) :
    Grouped self (groups.set (self.priority moduleId)
        ((groups.get? (self.priority moduleId)).getD [] ++ [moduleId])) ∧
      (groups.set (self.priority moduleId)
        ((groups.get? (self.priority moduleId)).getD [] ++ [moduleId])).values.flatten =
      groups.values.flatten ++ [moduleId] := by
  cases hget : groups.get? (self.priority moduleId) with
  | none =>
    have hnot := Dict.get?_eq_none.mp hget
    have hentries := Dict.entries_set_of_not_mem hnot ([] ++ [moduleId])
    refine ⟨⟨?_, ?_⟩, ?_⟩
    · rw [Option.getD_none, Dict.keys, hentries, List.map_append, List.pairwise_append]
      refine ⟨h.rising, List.pairwise_singleton _ _, fun k hk k' hk' => ?_⟩
      rw [List.mem_singleton.mp hk']
      refine lt_of_le_of_ne (hall k hk) ?_
      rintro rfl
      exact hnot hk
    · rw [Option.getD_none, hentries]
      intro e he
      rcases List.mem_append.mp he with he | he
      · exact h.level e he
      · rw [List.mem_singleton.mp he]
        exact ⟨by simp, by simp⟩
    · rw [Option.getD_none, Dict.values, hentries, List.map_append, List.flatten_append]
      simp [Dict.values]
  | some moduleIds =>
    obtain ⟨before, after, hentries, hset, -⟩ := Dict.entries_split hget
    have hkeys := h.rising
    rw [Dict.keys, hentries, List.map_append, List.map_cons, List.pairwise_append,
      List.pairwise_cons] at hkeys
    have hlast : after = [] := by
      apply List.eq_nil_iff_forall_not_mem.mpr
      intro e he
      have hless := hkeys.2.1.1 e.1 (List.mem_map_of_mem he)
      have hle := hall e.1 (List.mem_map_of_mem (by rw [hentries]; simp [he]))
      omega
    subst hlast
    refine ⟨⟨?_, ?_⟩, ?_⟩
    · rw [Option.getD_some, Dict.keys, hset]
      have hrising := h.rising
      rw [Dict.keys, hentries, List.map_append] at hrising
      rw [List.map_append]
      exact hrising
    · rw [Option.getD_some, hset]
      intro e he
      have hlevel := h.level
      rw [hentries] at hlevel
      rcases List.mem_append.mp he with he | he
      · exact hlevel e (List.mem_append_left _ he)
      · rw [List.mem_singleton.mp he]
        refine ⟨by simp, fun id hid => ?_⟩
        rcases List.mem_append.mp hid with hid | hid
        · exact (hlevel _ (List.mem_append_right _ List.mem_cons_self)).2 id hid
        · rw [List.mem_singleton.mp hid]
    · rw [Option.getD_some, Dict.values, Dict.values, hset, hentries]
      simp

theorem groupByPriority_eq {groups : Dict ℤ (List String)} (hgrouped : Grouped self groups)
    (hknown : ∀ moduleId ∈ moduleIds, self.Known moduleId ∧
      (self.clusterModules.get? moduleId).any self.needsDeployment = true)
    (hsorted : moduleIds.Pairwise fun a b => self.priority a ≤ self.priority b)
    (hall : ∀ moduleId ∈ moduleIds, ∀ k ∈ groups.keys, k ≤ self.priority moduleId) :
    ∃ groups', self.groupByPriority moduleIds groups = .ok groups' ∧ Grouped self groups' ∧
      groups'.values.flatten = groups.values.flatten ++ moduleIds := by
  induction moduleIds generalizing groups with
  | nil => exact ⟨groups, rfl, hgrouped, by rw [List.append_nil]⟩
  | cons moduleId moduleIds ih =>
    obtain ⟨⟨⟨info, priority, hinfo, hpriority⟩, hneeds⟩, hrest⟩ := List.forall_mem_cons.mp hknown
    obtain ⟨hfirst, hsorted⟩ := List.pairwise_cons.mp hsorted
    have hvalue : self.priority moduleId = priority := by
      simp [DeploymentHelper.priority, hinfo, hpriority, Except.toOption]
    obtain ⟨hadd, hflatten⟩ := hgrouped.add (hall moduleId List.mem_cons_self)
    obtain ⟨groups', hrun, hgrouped', hall'⟩ := ih hadd hrest hsorted (by
      intro id hid k hk
      rcases Dict.mem_keys_set.mp hk with rfl | hk
      · exact hfirst id hid
      · exact hall id (List.mem_cons_of_mem _ hid) k hk)
    refine ⟨groups', ?_, hgrouped', ?_⟩
    · rw [hinfo, Option.any_some] at hneeds
      rw [DeploymentHelper.groupByPriority]
      simp only [hinfo]
      rw [if_pos hneeds, hpriority, Raised.ok_bind, ← hvalue]
      exact hrun
    · rw [hall', hflatten, List.append_assoc, List.singleton_append]

theorem getOptimizedDeploymentOrder_eq (h : ∀ moduleId ∈ self.moduleIds, self.Known moduleId) :
    ∃ batches, self.getOptimizedDeploymentOrder = .ok batches ∧
      batches.flatten.Perm self.selected ∧ Stages.Graded self.priority batches := by
  obtain ⟨order, horder, hperm, hsorted⟩ := getDeploymentOrder_eq h
  have hempty : Grouped self ∅ := ⟨List.Pairwise.nil, fun e he => absurd he List.not_mem_nil⟩
  have hknown : ∀ moduleId ∈ order, self.Known moduleId ∧
      (self.clusterModules.get? moduleId).any self.needsDeployment = true := by
    intro moduleId hmem
    obtain ⟨hselected, hneeds⟩ := List.mem_filter.mp (hperm.mem_iff.mp hmem)
    exact ⟨h moduleId hselected, hneeds⟩
  obtain ⟨groups, hgroups, hgrouped, hflatten⟩ :=
    groupByPriority_eq hempty hknown hsorted (fun _ _ k hk => absurd hk List.not_mem_nil)
  refine ⟨groups.values, ?_, ?_, hgrouped.graded⟩
  · rw [DeploymentHelper.getOptimizedDeploymentOrder, horder, Raised.ok_bind, hgroups,
      Raised.ok_bind]
  · rw [hflatten]
    exact hperm

end Order

section Runs

variable {cloud : Cloud} {s : Rollout} {moduleIds order : List String}
  {batches : List (List String)}

def Cloud.fails (cloud : Cloud) (moduleId : String) : Bool := (cloud.outcome moduleId).isSome

def Cloud.stopsAfter (cloud : Cloud) (modules : List String) : Bool :=
  modules.any fun moduleId => cloud.statusAfter moduleId ≠ "deployed"

theorem deploySequentially_eq (order : List String) (s : Rollout) :
    (deploySequentially cloud order s).2.attempted =
        s.attempted ++ Stages.upTo cloud.fails order ∧
      ((deploySequentially cloud order s).1 = .ok () ↔
        ∀ moduleId ∈ order, cloud.fails moduleId = false) := by
  induction order generalizing s with
  | nil => exact ⟨(List.append_nil _).symm, by simp [deploySequentially]⟩
  | cons moduleId order ih =>
    rw [deploySequentially, deployModule]
    cases houtcome : cloud.outcome moduleId with
    | some stop =>
      have hfails : cloud.fails moduleId = true := by rw [Cloud.fails, houtcome]; rfl
      rw [Stages.upTo_cons_of_pos hfails]
      exact ⟨rfl, by simp [hfails]⟩
    | none =>
      have hfails : cloud.fails moduleId = false := by rw [Cloud.fails, houtcome]; rfl
      obtain ⟨hattempted, hok⟩ := ih { s with
        table := storedAfter cloud moduleId s.table
        attempted := s.attempted ++ [moduleId] }
      rw [Stages.upTo_cons_of_neg hfails]
      constructor
      · rw [hattempted, List.append_assoc, List.singleton_append]
      · rw [hok, List.forall_mem_cons]
        exact ⟨fun h => ⟨hfails, h⟩, fun h => h.2⟩

theorem get?_storedAfter (moduleId id : String) (table : Dict String ModuleInfo) :
    (storedAfter cloud moduleId table).get? id =
      if id = moduleId then
        (table.get? id).map fun info => { info with status := cloud.statusAfter id }
      else table.get? id := by
  rw [storedAfter]
  by_cases hid : id = moduleId
  · subst hid
    cases hget : table.get? id with
    | none => simp [hget]
    | some info => simp [Dict.get?_set]
  · cases hget : table.get? moduleId with
    | none => rw [if_neg hid]
    | some info => rw [if_neg hid, Dict.get?_set_ne _ hid]

theorem deployInThreads_eq (cloud : Cloud) (moduleIds : List String) (s : Rollout) :
    (deployInThreads cloud moduleIds s).attempted = s.attempted ++ moduleIds ∧
      ∀ id, (deployInThreads cloud moduleIds s).table.get? id =
        if id ∈ moduleIds then
          (s.table.get? id).map fun info => { info with status := cloud.statusAfter id }
        else s.table.get? id := by
  induction moduleIds generalizing s with
  | nil => exact ⟨(List.append_nil _).symm, fun id => by simp [deployInThreads]⟩
  | cons moduleId moduleIds ih =>
    obtain ⟨hattempted, htable⟩ := ih (deployModule cloud moduleId s).2
    have hrun : deployInThreads cloud (moduleId :: moduleIds) s =
      deployInThreads cloud moduleIds (deployModule cloud moduleId s).2 := rfl
    rw [hrun]
    constructor
    · rw [hattempted]
      simp [deployModule]
    · intro id
      rw [htable id]
      change (if id ∈ moduleIds then
          ((storedAfter cloud moduleId s.table).get? id).map _
        else (storedAfter cloud moduleId s.table).get? id) = _
      rw [get?_storedAfter]
      by_cases hid : id = moduleId
      · by_cases hmem : id ∈ moduleIds
        · rw [if_pos hmem, if_pos hid, if_pos (List.mem_cons_of_mem _ hmem), Option.map_map]
          rfl
        · rw [if_neg hmem, if_pos hid, if_pos (hid ▸ List.mem_cons_self)]
      · simp [hid]

theorem get?_initializeClusterModules (s : Rollout) (id : String) :
    (initializeClusterModules s).clusterModules.get? id =
      (s.table.get? id).or (s.clusterModules.get? id) := by
  have hfold := Dict.get?_foldl_setSome (fun e : String × ModuleInfo => some e.2) s.table.nodup
    s.clusterModules id
  rw [show (fun v : ModuleInfo => some (id, v).2) = some from rfl, Option.bind_fun_some] at hfold
  exact hfold

theorem checkDeployed_eq_ok
    (h : ∀ moduleId ∈ moduleIds, ∃ info, s.clusterModules.get? moduleId = some info ∧
      info.status = cloud.statusAfter moduleId) :
    checkDeployed s moduleIds = .ok () ↔ cloud.stopsAfter moduleIds = false := by
  induction moduleIds with
  | nil => exact ⟨fun _ => rfl, fun _ => rfl⟩
  | cons moduleId moduleIds ih =>
    obtain ⟨⟨info, hinfo, hstatus⟩, hrest⟩ := List.forall_mem_cons.mp h
    rw [checkDeployed]
    simp only [hinfo, Cloud.stopsAfter, List.any_cons]
    rw [← hstatus]
    by_cases hdeployed : info.status = "deployed"
    · rw [if_neg (not_not.mpr hdeployed), ih hrest]
      simp [hdeployed, Cloud.stopsAfter]
    · rw [if_pos hdeployed]
      simp [hdeployed]

theorem deployBatches_eq (batches : List (List String)) (s : Rollout)
    (hstored : ∀ moduleId ∈ batches.flatten, moduleId ∈ s.table.keys) :
    (deployBatches cloud batches s).2.attempted =
        s.attempted ++ (Stages.upTo cloud.stopsAfter batches).flatten ∧
      ((deployBatches cloud batches s).1 = .ok () ↔
        ∀ modules ∈ batches, cloud.stopsAfter modules = false) := by
  induction batches generalizing s with
  | nil => exact ⟨(List.append_nil _).symm, by simp [deployBatches]⟩
  | cons modules batches ih =>
    obtain ⟨hattempted, htable⟩ := deployInThreads_eq cloud modules s
    generalize hthreads : deployInThreads cloud modules s = threads at hattempted htable
    have hread : ∀ moduleId ∈ modules, ∃ info,
        (initializeClusterModules threads).clusterModules.get? moduleId = some info ∧
          info.status = cloud.statusAfter moduleId := by
      intro moduleId hmem
      obtain ⟨info, hinfo⟩ := Dict.exists_get?_of_mem_keys
        (hstored moduleId (List.mem_flatten_of_mem List.mem_cons_self hmem))
      refine ⟨{ info with status := cloud.statusAfter moduleId }, ?_, rfl⟩
      rw [get?_initializeClusterModules, htable, if_pos hmem, hinfo]
      rfl
    have hcheck := checkDeployed_eq_ok hread
    rw [deployBatches]
    simp only [hthreads]
    cases hstops : cloud.stopsAfter modules with
    | true =>
      rw [hstops] at hcheck
      rw [Stages.upTo_cons_of_pos hstops]
      cases hrun : checkDeployed (initializeClusterModules threads) modules with
      | ok u => exact absurd (hcheck.mp hrun) (by decide)
      | error stop =>
        constructor
        · rw [List.flatten_singleton, ← hattempted]
          rfl
        · simp [hstops]
    | false =>
      rw [hcheck.mpr hstops, Stages.upTo_cons_of_neg hstops]
      have hkeys : ∀ moduleId ∈ batches.flatten,
          moduleId ∈ (initializeClusterModules threads).table.keys := by
        intro moduleId hmem
        have hkey := hstored moduleId (List.mem_append_right _ hmem)
        rw [← Dict.get?_isSome] at hkey ⊢
        change (threads.table.get? moduleId).isSome = true
        rw [htable]
        split
        · rw [Option.isSome_map]
          exact hkey
        · exact hkey
      obtain ⟨hrest, hok⟩ := ih (initializeClusterModules threads) hkeys
      constructor
      · rw [hrest, List.flatten_cons, ← List.append_assoc, ← hattempted]
        rfl
      · rw [hok, List.forall_mem_cons]
        exact ⟨fun h => ⟨hstops, h⟩, fun h => h.2⟩

end Runs

/-- A failed deployment is raised and stops the rollout. Without failures what needs deployment is
deployed. -/
structure Reliable (helper : DeploymentHelper) (cloud : Cloud) : Prop where
  raises : (∃ moduleId ∈ (helper.invoke cloud).2.attempted, cloud.fails moduleId = true) →
    (helper.invoke cloud).1 ≠ .ok ()
  stops : (helper.invoke cloud).2.attempted.Pairwise fun a b =>
    cloud.fails a = true → helper.priority b ≤ helper.priority a
  completes : (∀ moduleId ∈ helper.selected, cloud.fails moduleId = false) →
    (helper.invoke cloud).1 = .ok () ∧
      (helper.invoke cloud).2.attempted.Perm helper.selected ∧
      (helper.invoke cloud).2.attempted.Pairwise fun a b => helper.priority a ≤ helper.priority b

/-- The modules of the first priority with a failure leave one that is not stored as deployed. -/
def Noticed (helper : DeploymentHelper) (cloud : Cloud) : Prop :=
  ∀ moduleId ∈ helper.selected, cloud.fails moduleId = true →
    (∀ other ∈ helper.selected, cloud.fails other = true →
      helper.priority moduleId ≤ helper.priority other) →
    ∃ other ∈ helper.selected, helper.priority other = helper.priority moduleId ∧
      cloud.statusAfter other ≠ "deployed"

section Failures

variable {self : Selection} {cloud : Cloud} {modules : List String}

theorem stopsAfter_eq_true :
    cloud.stopsAfter modules = true ↔
      ∃ moduleId ∈ modules, cloud.statusAfter moduleId ≠ "deployed" := by
  simp [Cloud.stopsAfter]

theorem stopsAfter_of_not_fails (h : ∀ moduleId ∈ modules, cloud.fails moduleId = false) :
    cloud.stopsAfter modules = false := by
  rw [Bool.eq_false_iff, ne_eq, stopsAfter_eq_true]
  rintro ⟨moduleId, hmem, hstatus⟩
  have hfails := h moduleId hmem
  rw [Cloud.fails, Option.isSome_eq_false_iff, Option.isNone_iff_eq_none] at hfails
  exact hstatus (cloud.deployed moduleId hfails)

theorem invoke_of_sequential (cloud : Cloud) (h : self.optimizes = false) :
    ∃ order, order.Perm self.selected ∧
      (order.Pairwise fun a b => self.priority a ≤ self.priority b) ∧
      (self.invoke cloud).2.attempted = Stages.upTo cloud.fails order ∧
      ((self.invoke cloud).1 = .ok () ↔ ∀ moduleId ∈ order, cloud.fails moduleId = false) := by
  obtain ⟨order, horder, hperm, hsorted⟩ := getDeploymentOrder_eq self.known
  refine ⟨order, hperm, hsorted, ?_⟩
  rw [DeploymentHelper.invoke, if_neg (Bool.eq_false_iff.mp h)]
  simp only [horder]
  exact deploySequentially_eq order _

theorem invoke_of_optimizes (cloud : Cloud) (h : self.optimizes = true) :
    ∃ batches, batches.flatten.Perm self.selected ∧ Stages.Graded self.priority batches ∧
      (self.invoke cloud).2.attempted = (Stages.upTo cloud.stopsAfter batches).flatten ∧
      ((self.invoke cloud).1 = .ok () ↔
        ∀ modules ∈ batches, cloud.stopsAfter modules = false) := by
  obtain ⟨batches, horder, hperm, hgraded⟩ := getOptimizedDeploymentOrder_eq self.known
  refine ⟨batches, hperm, hgraded, ?_⟩
  rw [DeploymentHelper.invoke, if_pos h]
  simp only [horder]
  apply deployBatches_eq batches
  intro moduleId hmem
  have hselected := List.mem_of_mem_filter (hperm.mem_iff.mp hmem)
  obtain ⟨info, -, hinfo, -⟩ := self.known moduleId hselected
  exact Dict.mem_keys_of_get? hinfo

theorem reliable_of_sequential (h : self.optimizes = false) :
    Reliable self.toDeploymentHelper cloud := by
  obtain ⟨order, hperm, hsorted, hattempted, hok⟩ := invoke_of_sequential cloud h
  constructor
  · rintro ⟨moduleId, hmem, hfails⟩ hrun
    rw [hattempted] at hmem
    have hnot := hok.mp hrun moduleId ((Stages.upTo_sublist _ _).subset hmem)
    rw [hfails] at hnot
    cases hnot
  · rw [hattempted]
    refine (Stages.pairwise_upTo cloud.fails order).imp fun hnot hfails => ?_
    rw [hfails] at hnot
    cases hnot
  · intro hnone
    have hall : ∀ moduleId ∈ order, cloud.fails moduleId = false :=
      fun moduleId hmem => hnone moduleId (hperm.mem_iff.mp hmem)
    rw [hattempted, Stages.upTo_eq_self hall]
    exact ⟨hok.mpr hall, hperm, hsorted⟩

structure FirstFailure (helper : DeploymentHelper) (cloud : Cloud) (before : List (List String))
    (batch : List String) (after : List (List String)) : Prop where
  graded : Stages.Graded helper.priority (before ++ batch :: after)
  selected : (before ++ batch :: after).flatten.Perm helper.selected
  quiet : ∀ modules ∈ before, ∀ moduleId ∈ modules, cloud.fails moduleId = false
  failed : ∃ moduleId ∈ batch, cloud.fails moduleId = true

namespace FirstFailure

variable {helper : DeploymentHelper} {before after : List (List String)} {batch : List String}
  {failed other : String} (h : FirstFailure helper cloud before batch after)

include h

omit h in
theorem mem : batch ∈ before ++ batch :: after :=
  List.mem_append_right _ List.mem_cons_self

theorem mem_selected (hmem : other ∈ batch) : other ∈ helper.selected :=
  h.selected.mem_iff.mp (List.mem_flatten_of_mem mem hmem)

theorem goes : ∀ modules ∈ before, cloud.stopsAfter modules = false :=
  fun modules hmodules => stopsAfter_of_not_fails (h.quiet modules hmodules)

theorem priority_lt : ∀ modules ∈ after, ∀ a ∈ batch, ∀ b ∈ modules,
    helper.priority a < helper.priority b := by
  obtain ⟨-, hrising, -⟩ := List.pairwise_append.mp h.graded.rising
  exact (List.pairwise_cons.mp hrising).1

theorem not_fails_before : ∀ moduleId ∈ before.flatten, cloud.fails moduleId = false := by
  intro moduleId hmem
  obtain ⟨modules, hmodules, hmem⟩ := List.mem_flatten.mp hmem
  exact h.quiet modules hmodules moduleId hmem

theorem mem_or_priority_lt (hfailed : failed ∈ batch) (hother : other ∈ helper.selected)
    (hfails : cloud.fails other = true) :
    other ∈ batch ∨ helper.priority failed < helper.priority other := by
  obtain ⟨modules, hmodules, hmem⟩ := List.mem_flatten.mp (h.selected.mem_iff.mpr hother)
  rcases List.mem_append.mp hmodules with hmodules | hmodules
  · rw [h.quiet modules hmodules other hmem] at hfails
    cases hfails
  · rcases List.mem_cons.mp hmodules with rfl | hmodules
    · exact Or.inl hmem
    · exact Or.inr (h.priority_lt modules hmodules failed hfailed other hmem)

theorem noticed_iff : Noticed helper cloud ↔ cloud.stopsAfter batch = true := by
  obtain ⟨failed, hfailed, hfails⟩ := h.failed
  constructor
  · intro hnoticed
    have hmin : ∀ other ∈ helper.selected, cloud.fails other = true →
        helper.priority failed ≤ helper.priority other := by
      intro other hother hfailsOther
      rcases h.mem_or_priority_lt hfailed hother hfailsOther with hmem | hlt
      · exact le_of_eq (h.graded.level batch mem failed hfailed other hmem)
      · exact le_of_lt hlt
    obtain ⟨other, hother, hpriority, hstatus⟩ :=
      hnoticed failed (h.mem_selected hfailed) hfails hmin
    have hmem := h.graded.mem_batch mem hfailed (h.selected.mem_iff.mpr hother) hpriority
    exact stopsAfter_eq_true.mpr ⟨other, hmem, hstatus⟩
  · intro hstops moduleId hselected hfailsId hmin
    obtain ⟨other, hother, hstatus⟩ := stopsAfter_eq_true.mp hstops
    have hmem : moduleId ∈ batch := by
      rcases h.mem_or_priority_lt hfailed hselected hfailsId with hmem | hlt
      · exact hmem
      · have hle := hmin failed (h.mem_selected hfailed) hfails
        omega
    exact ⟨other, h.mem_selected hother, h.graded.level batch mem other hother moduleId hmem,
      hstatus⟩

theorem reliable_of_stops (hstops : cloud.stopsAfter batch = true)
    (hattempted : (helper.invoke cloud).2.attempted =
      (Stages.upTo cloud.stopsAfter (before ++ batch :: after)).flatten)
    (hok : (helper.invoke cloud).1 ≠ .ok ()) : Reliable helper cloud := by
  obtain ⟨failed, hfailed, hfails⟩ := h.failed
  rw [Stages.upTo_append h.goes, Stages.upTo_cons_of_pos hstops, List.flatten_append,
    List.flatten_singleton] at hattempted
  constructor
  · exact fun _ => hok
  · rw [hattempted, List.pairwise_append]
    refine ⟨?_, ?_, ?_⟩
    · refine List.pairwise_of_forall_mem_list fun a ha b _ hfailsA => ?_
      rw [h.not_fails_before a ha] at hfailsA
      cases hfailsA
    · exact List.pairwise_of_forall_mem_list fun a ha b hb _ =>
        le_of_eq (h.graded.level batch mem b hb a ha)
    · intro a ha b _ hfailsA
      rw [h.not_fails_before a ha] at hfailsA
      cases hfailsA
  · intro hnone
    rw [hnone failed (h.mem_selected hfailed)] at hfails
    cases hfails

theorem not_reliable_of_goes (hgoes : cloud.stopsAfter batch = false)
    (hattempted : (helper.invoke cloud).2.attempted =
      (Stages.upTo cloud.stopsAfter (before ++ batch :: after)).flatten)
    (hok : (helper.invoke cloud).1 = .ok () ↔
      ∀ modules ∈ before ++ batch :: after, cloud.stopsAfter modules = false) :
    ¬ Reliable helper cloud := by
  obtain ⟨failed, hfailed, hfails⟩ := h.failed
  rw [Stages.upTo_append h.goes, Stages.upTo_cons_of_neg hgoes, List.flatten_append,
    List.flatten_cons] at hattempted
  intro hreliable
  cases after with
  | nil =>
    apply hreliable.raises ⟨failed, by rw [hattempted]; simp [hfailed], hfails⟩
    rw [hok]
    intro modules hmodules
    rcases List.mem_append.mp hmodules with hmodules | hmodules
    · exact h.goes modules hmodules
    · rw [List.mem_singleton.mp hmodules]
      exact hgoes
  | cons next after =>
    have hnext : next ∈ before ++ batch :: next :: after := by simp
    obtain ⟨later, hlater⟩ := List.exists_mem_of_ne_nil _ (h.graded.nonempty next hnext)
    have hmem : later ∈ (Stages.upTo cloud.stopsAfter (next :: after)).flatten := by
      rw [Stages.upTo, List.flatten_cons]
      exact List.mem_append_left _ hlater
    have hstops := hreliable.stops
    rw [hattempted, List.pairwise_append, List.pairwise_append] at hstops
    have hle := hstops.2.1.2.2 failed hfailed later hmem hfails
    have hlt := h.priority_lt next List.mem_cons_self failed hfailed later hlater
    omega

end FirstFailure

theorem reliable_iff_of_optimizes (h : self.optimizes = true) :
    Reliable self.toDeploymentHelper cloud ↔ Noticed self.toDeploymentHelper cloud := by
  obtain ⟨batches, hperm, hgraded, hattempted, hok⟩ := invoke_of_optimizes cloud h
  by_cases hfailure : ∃ modules ∈ batches, modules.any cloud.fails = true
  · obtain ⟨before, batch, after, rfl, hbatch, hbefore⟩ := Stages.exists_first hfailure
    have hfirst : FirstFailure self.toDeploymentHelper cloud before batch after := by
      refine ⟨hgraded, hperm, ?_, List.any_eq_true.mp hbatch⟩
      intro modules hmodules moduleId hmem
      exact Bool.eq_false_iff.mpr fun hfails =>
        Bool.eq_false_iff.mp (hbefore modules hmodules) (List.any_eq_true.mpr ⟨_, hmem, hfails⟩)
    rw [hfirst.noticed_iff]
    cases hstops : cloud.stopsAfter batch with
    | true =>
      have hraised : (self.invoke cloud).1 ≠ .ok () := by
        intro hresult
        rw [hok.mp hresult batch FirstFailure.mem] at hstops
        cases hstops
      exact iff_of_true (hfirst.reliable_of_stops hstops hattempted hraised) rfl
    | false => exact iff_of_false (hfirst.not_reliable_of_goes hstops hattempted hok) (by decide)
  · have hnone : ∀ moduleId ∈ batches.flatten, cloud.fails moduleId = false := by
      intro moduleId hmem
      obtain ⟨modules, hmodules, hmem⟩ := List.mem_flatten.mp hmem
      exact Bool.eq_false_iff.mpr fun hfails =>
        hfailure ⟨modules, hmodules, List.any_eq_true.mpr ⟨moduleId, hmem, hfails⟩⟩
    have hgo : ∀ modules ∈ batches, cloud.stopsAfter modules = false := fun modules hmodules =>
      stopsAfter_of_not_fails fun moduleId hmem =>
        hnone moduleId (List.mem_flatten_of_mem hmodules hmem)
    have hrun : (self.invoke cloud).2.attempted = batches.flatten := by
      rw [hattempted, Stages.upTo_eq_self hgo]
    refine iff_of_true ⟨?_, ?_, fun _ => ?_⟩ ?_
    · rintro ⟨moduleId, hmem, hfails⟩
      rw [hrun] at hmem
      rw [hnone moduleId hmem] at hfails
      cases hfails
    · rw [hrun]
      refine List.pairwise_of_forall_mem_list fun a ha b _ hfails => ?_
      rw [hnone a ha] at hfails
      cases hfails
    · rw [hrun]
      exact ⟨hok.mpr hgo, hperm, hgraded.pairwise_flatten⟩
    · intro moduleId hmem hfails
      rw [hnone moduleId (hperm.mem_iff.mpr hmem)] at hfails
      cases hfails

/-- The rollout is reliable exactly if, where modules are deployed in parallel, the modules of the
first priority with a failure are not all stored as deployed afterwards. -/
theorem invoke_reliable_iff (self : Selection) (cloud : Cloud) :
    Reliable self.toDeploymentHelper cloud ↔
      (self.optimizes = true → Noticed self.toDeploymentHelper cloud) := by
  cases hoptimizes : self.optimizes with
  | true =>
    rw [reliable_iff_of_optimizes hoptimizes]
    exact ⟨fun h _ => h, fun h => h rfl⟩
  | false => exact iff_of_true (reliable_of_sequential hoptimizes) (fun h => nomatch h)

end Failures

def deployedModules : Selection where
  clusterModules := ((∅ : Dict String ModuleInfo).set "cluster"
    ⟨"cluster", "stack", "deployed"⟩).set "scheduler" ⟨"scheduler", "app", "deployed"⟩
  moduleIds := ["cluster", "scheduler"]
  upgrade := true
  optimizeDeployment := true
  getModuleDeploymentPriority name := .ok (if name = "cluster" then 2 else 6)
  nodup := by decide
  known := by
    intro moduleId hmem
    rcases List.mem_pair.mp hmem with rfl | rfl
    · exact ⟨_, _, rfl, rfl⟩
    · exact ⟨_, _, rfl, rfl⟩

def failedUpdate : Cloud where
  outcome moduleId := if moduleId = "cluster" then some (.systemExit 1) else none
  statusAfter _ := "deployed"
  deployed _ _ := rfl

theorem not_reliable_upgrade : ¬ Reliable deployedModules.toDeploymentHelper failedUpdate := by
  rw [reliable_iff_of_optimizes rfl]
  intro hnoticed
  obtain ⟨other, -, -, hstatus⟩ := hnoticed "cluster" (by decide) rfl (by decide)
  exact hstatus rfl

end Idea.Deployment

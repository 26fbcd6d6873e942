import Mathlib.Algebra.BigOperators.Group.List.Basic
import Idea.Data.Dict
import Idea.Data.PrefixRules
import Idea.Model.Instance
import Idea.Model.Job

/-! # Instance classes

The class of an instance type is found by the family its name begins with. The instance types of a
class are those whose names begin with the name of the class, so that the types of a class with a
longer name count for a class with a shorter one too.
-/

namespace Idea

/-- `str.lower`: it lowers the letters of ASCII, also at the start of a longer text. -/
structure Lowering where
  lower : List Char → List Char
  ascii : ∀ cs, cs.all (fun c => c.toNat < 128) = true → lower cs = cs.map Char.toLower
  leading : ∀ start rest, start.all (fun c => c.toNat < 128) = true →
    start.map Char.toLower <+: lower (start ++ rest)

structure ClassRule where
  prefixes : List String
  instanceClass : String
  standard : Bool

namespace AWSUtil

def classRules : List ClassRule :=
  -- accelerated computing
  [⟨["p5", "p4de", "p4d", "p3dn", "p3", "p2", "p"], "P", false⟩,
    ⟨["dl1", "dl"], "DL", false⟩,
    ⟨["inf2", "inf1", "inf"], "Inf", false⟩,
    ⟨["trn1n", "trn1", "trn"], "Trn", false⟩,
    ⟨["g4dn", "g4ad", "g5", "g5g", "g6", "g6e", "g6f", "g3s", "g3", "g2", "g"], "G", false⟩,
    ⟨["f1", "f"], "F", false⟩,
    ⟨["vt1", "vt"], "VT", false⟩,
    -- storage optimized
    ⟨["i4g", "i4i", "i3", "i3en", "i"], "I", true⟩,
    ⟨["lm4gn"], "lm4gn", true⟩,
    ⟨["ls4gen"], "ls4gen", true⟩,
    ⟨["d2", "d3", "d3en", "d"], "D", true⟩,
    ⟨["hpc7g", "hpc6id", "hpc6a", "hpc"], "HPC", false⟩,
    ⟨["h1", "h"], "H", false⟩,
    -- memory optimized
    ⟨["r7g", "r7gd", "r7iz", "r6a", "r6g", "r6in", "r6idn", "r6i", "r5a", "r5b", "r5d", "r5dn",
      "r5ad", "r5n", "r6", "r5", "r4", "r"], "R", true⟩,
    ⟨["x2gd", "x2idn", "x2iedn", "x2iezn", "x1e", "x1", "x"], "X", false⟩,
    ⟨["u-"], "HighMem", false⟩,
    ⟨["z1d", "z"], "Z", true⟩,
    -- compute optimized
    ⟨["c7g", "c6a", "c6g", "c6gn", "c6in", "c6i", "c5", "c5a", "c5n", "c4", "c"], "C", true⟩,
    -- general purpose
    ⟨["mac1", "mac2", "mac"], "mac", false⟩,
    ⟨["t4g", "t3", "t3a", "t2", "t"], "T", true⟩,
    ⟨["m7i", "m7i-flex", "m7a", "m7g", "m7gd", "m6g", "m6gd", "m6in", "m6idn", "m6i", "m6id",
      "m6a", "m5", "m5a", "m5d", "m5ad", "m5dn", "m5n", "m5zn", "m4", "m"], "M", true⟩,
    ⟨["a1", "a"], "A", true⟩]

def instanceClasses : List String := classRules.map ClassRule.instanceClass

def startsWith (text start : List Char) : Bool := start.isPrefixOf text

variable (str : Lowering)

def family (instanceType : String) : List Char :=
  str.lower (instanceType.toList.takeWhile (· ≠ '.'))

def getInstanceTypeClass (instanceType : String) : Option (String × Bool) :=
  (classRules.find? fun rule =>
    rule.prefixes.any fun p => startsWith (family str instanceType) p.toList).map
      fun rule => (rule.instanceClass, rule.standard)

def classToken (instanceClass : String) : List Char :=
  if instanceClass = "HighMem" then "u-".toList else str.lower instanceClass.toList

def getInstanceTypesForClass (types : Dict String ℤ) (instanceClass : String) : List String :=
  types.keys.filter fun instanceType =>
    startsWith instanceType.toList (classToken str instanceClass)

end AWSUtil

inductive EC2ServiceQuota where
  | ondemand | spot | dedicated
  deriving DecidableEq

namespace EC2ServiceQuotaHelper

/-- What the helper reads: all instance types with their vCPUs, the instances of the cache, and
whether an instance is a spot instance. -/
structure QuotaContext where
  str : Lowering
  types : Dict String ℤ
  instances : List EC2Instance
  instanceLifecycle : EC2Instance → Option String

variable (ctx : QuotaContext)

def isActive (instance_ : EC2Instance) : Bool :=
  decide (instance_.state ∈ ["running", "pending", "stopping", "shutting-down"].map some)

def hasQuotaType (quotaType : EC2ServiceQuota) (instance_ : EC2Instance) : Bool :=
  match quotaType with
  | .spot => decide (ctx.instanceLifecycle instance_ = some "spot")
  | .ondemand => decide (ctx.instanceLifecycle instance_ ≠ some "spot")
  | .dedicated => decide (instance_.placementTenancy = some "dedicated")

def addVcpus (quotaType : EC2ServiceQuota) (instanceTypes : List String) (vcpuCount : ℤ)
    (instance_ : EC2Instance) : Except Raised ℤ :=
  if !isActive instance_ then .ok vcpuCount
  else if instance_.instanceType ∉ instanceTypes.map some then .ok vcpuCount
  else if !hasQuotaType ctx quotaType instance_ then .ok vcpuCount
  else do
    let vcpus ← Raised.required .attributeError (instance_.instanceType.bind ctx.types.get?)
    .ok (vcpuCount + vcpus)

def getActiveVcpuCount (quotaType : EC2ServiceQuota) (instanceTypes : List String) :
    Except Raised ℤ :=
  ctx.instances.foldlM (addVcpus ctx quotaType instanceTypes) 0

def consumed (quotaType : EC2ServiceQuota) (instanceClasses : List String) : Except Raised ℤ :=
  getActiveVcpuCount ctx quotaType
    (instanceClasses.flatMap (AWSUtil.getInstanceTypesForClass ctx.str ctx.types))

end EC2ServiceQuotaHelper

section Classes

open AWSUtil PrefixRules

variable {str : Lowering} {instanceType instanceClass : String}

def ClassRule.token (rule : ClassRule) : List Char :=
  if rule.instanceClass = "HighMem" then "u-".toList
  else rule.instanceClass.toList.map Char.toLower

def longerNames : List (List Char) :=
  ["dl".toList, "inf".toList, "trn".toList, "hpc".toList, "mac".toList]

theorem classRules_spec :
    (∀ rule ∈ classRules, rule.token ∈ rule.prefixes.map String.toList ∧
      (∀ p ∈ rule.prefixes.map String.toList, rule.token <+: p) ∧
      rule.instanceClass.toList.all (fun c => c.toNat < 128) = true ∧
      rule.token.all (fun c => c.toNat < 128) = true ∧ rule.token.map Char.toLower = rule.token ∧
      '.' ∉ rule.token) ∧
    LongestFirst ClassRule.token classRules ∧
    (∀ rule ∈ classRules, ∀ rule' ∈ classRules, rule.token <+: rule'.token →
      rule'.token <+: rule.token ∨ rule'.token ∈ longerNames) ∧
    ∀ longer ∈ longerNames, (∃ rule ∈ classRules, rule.token = longer) ∧
      ∃ rule ∈ classRules, rule.token <+: longer ∧ rule.token.length < longer.length := by
  unfold LongestFirst
  decide +kernel

variable {rule : ClassRule}

theorem token_mem_prefixes (hrule : rule ∈ classRules) :
    rule.token ∈ rule.prefixes.map String.toList :=
  (classRules_spec.1 rule hrule).1

theorem token_begins (hrule : rule ∈ classRules) :
    ∀ p ∈ rule.prefixes.map String.toList, rule.token <+: p :=
  (classRules_spec.1 rule hrule).2.1

theorem ascii_instanceClass (hrule : rule ∈ classRules) :
    rule.instanceClass.toList.all (fun c => c.toNat < 128) = true :=
  (classRules_spec.1 rule hrule).2.2.1

theorem ascii_token (hrule : rule ∈ classRules) :
    rule.token.all (fun c => c.toNat < 128) = true ∧ rule.token.map Char.toLower = rule.token ∧
      '.' ∉ rule.token :=
  (classRules_spec.1 rule hrule).2.2.2

theorem longestFirst_classRules : LongestFirst ClassRule.token classRules := classRules_spec.2.1

theorem token_cases {rule rule' : ClassRule} (hrule : rule ∈ classRules)
    (hrule' : rule' ∈ classRules) (h : rule.token <+: rule'.token) :
    rule'.token <+: rule.token ∨ rule'.token ∈ longerNames :=
  classRules_spec.2.2.1 rule hrule rule' hrule' h

theorem longerNames_cases {longer : List Char} (h : longer ∈ longerNames) :
    (∃ rule ∈ classRules, rule.token = longer) ∧
      ∃ rule ∈ classRules, rule.token <+: longer ∧ rule.token.length < longer.length :=
  classRules_spec.2.2.2 longer h

theorem classToken_instanceClass (hrule : rule ∈ classRules) :
    classToken str rule.instanceClass = rule.token := by
  unfold classToken ClassRule.token
  split
  · rfl
  · exact str.ascii _ (ascii_instanceClass hrule)

theorem tried_iff (str : Lowering) (instanceType : String) (hrule : rule ∈ classRules) :
    (rule.prefixes.any fun p => startsWith (family str instanceType) p.toList) = true ↔
      rule.token <+: family str instanceType := by
  rw [← any_isPrefixOf_iff (token_mem_prefixes hrule) (token_begins hrule),
    List.any_map]
  rfl

def classOf (str : Lowering) (instanceType : String) : Option String :=
  (getInstanceTypeClass str instanceType).map Prod.fst

theorem classOf_eq_map : classOf str instanceType =
    (classRules.find? fun rule => rule.prefixes.any fun p =>
      startsWith (family str instanceType) p.toList).map ClassRule.instanceClass := by
  rw [classOf, getInstanceTypeClass, Option.map_map]
  rfl

theorem token_congr {rule rule' : ClassRule} (h : rule.instanceClass = rule'.instanceClass) :
    rule.token = rule'.token := by
  rw [ClassRule.token, ClassRule.token, h]

theorem classOf_eq_iff (hrule : rule ∈ classRules) :
    classOf str instanceType = some rule.instanceClass ↔
      Longest ClassRule.token classRules (family str instanceType) rule := by
  have hfind := fun r => longestFirst_classRules.find?_eq_some_iff (r := r)
    fun rule hrule => tried_iff str instanceType hrule
  rw [classOf_eq_map, Option.map_eq_some_iff]
  constructor
  · rintro ⟨found, hfound, hclass⟩
    have hlongest := (hfind found).mp hfound
    rwa [← longestFirst_classRules.eq_of_key hlongest.mem hrule (token_congr hclass)]
  · intro h
    exact ⟨rule, (hfind rule).mpr h, rfl⟩

variable {types : Dict String ℤ}

theorem mem_getInstanceTypesForClass (hrule : rule ∈ classRules) :
    instanceType ∈ getInstanceTypesForClass str types rule.instanceClass ↔
      instanceType ∈ types.keys ∧ rule.token <+: instanceType.toList := by
  rw [getInstanceTypesForClass, List.mem_filter, classToken_instanceClass hrule, startsWith,
    List.isPrefixOf_iff_prefix]

theorem token_begins_family (hrule : rule ∈ classRules) (h : rule.token <+: instanceType.toList) :
    rule.token <+: family str instanceType := by
  obtain ⟨hascii, hlower, hdot⟩ := ascii_token hrule
  obtain ⟨rest, hrest⟩ := h
  have htake : instanceType.toList.takeWhile (· ≠ '.') =
      rule.token ++ rest.takeWhile (· ≠ '.') := by
    rw [← hrest]
    refine List.takeWhile_append_of_pos fun c hc => ?_
    simpa using fun heq : c = '.' => hdot (heq ▸ hc)
  rw [family, htake]
  conv_lhs => rw [← hlower]
  exact str.leading _ _ hascii

/-- Names that are listed for the class they have: a class is written in lower case at their
start, and they do not begin with the longer name of another class. -/
structure WrittenApart (str : Lowering) (instanceType : String) : Prop where
  lower : ∀ rule ∈ classRules, rule.token <+: family str instanceType →
    rule.token <+: instanceType.toList
  apart : ∀ longer ∈ longerNames, ¬ longer <+: instanceType.toList

def ListedForClass (str : Lowering) (types : Dict String ℤ) (instanceType : String) : Prop :=
  ∀ instanceClass ∈ instanceClasses,
    (instanceType ∈ getInstanceTypesForClass str types instanceClass ↔
      classOf str instanceType = some instanceClass)

theorem WrittenApart.listed (h : WrittenApart str instanceType) (hknown : instanceType ∈ types.keys) :
    ListedForClass str types instanceType := by
  intro instanceClass hclass
  obtain ⟨rule, hrule, rfl⟩ := List.mem_map.mp hclass
  rw [mem_getInstanceTypesForClass hrule, classOf_eq_iff hrule]
  constructor
  · rintro ⟨-, hbegins⟩
    refine ⟨hrule, token_begins_family hrule hbegins, fun rule' hrule' hfamily => ?_⟩
    have hbegins' := h.lower rule' hrule' hfamily
    rcases prefix_or_prefix hbegins hbegins' with hlonger | hshorter
    · rcases token_cases hrule hrule' hlonger with hback | hmem
      · exact hback
      · exact absurd hbegins' (h.apart _ hmem)
    · exact hshorter
  · intro hlongest
    exact ⟨hknown, h.lower rule hrule hlongest.applies⟩

theorem ListedForClass.writtenApart (h : ListedForClass str types instanceType)
    (hknown : instanceType ∈ types.keys) : WrittenApart str instanceType := by
  constructor
  · intro rule hrule hfamily
    obtain ⟨found, hfound, hbegins⟩ := longestFirst_classRules.exists_longest
      (fun rule hrule => tried_iff str instanceType hrule) hrule hfamily
    have hclass : found.instanceClass ∈ instanceClasses := List.mem_map_of_mem hfound.mem
    have hlisted := (h _ hclass).mpr ((classOf_eq_iff hfound.mem).mpr hfound)
    exact hbegins.trans ((mem_getInstanceTypesForClass hfound.mem).mp hlisted).2
  · intro longer hlonger hbegins
    obtain ⟨⟨long, hlong, rfl⟩, short, hshort, hstarts, hlength⟩ := longerNames_cases hlonger
    -- The type is listed for the class with the shorter name, and has another one.
    have hlisted : instanceType ∈ getInstanceTypesForClass str types short.instanceClass :=
      (mem_getInstanceTypesForClass hshort).mpr ⟨hknown, hstarts.trans hbegins⟩
    have hclass := (classOf_eq_iff hshort).mp ((h _ (List.mem_map_of_mem hshort)).mp hlisted)
    have hlong := hclass.longest long hlong (token_begins_family hlong hbegins)
    exact absurd hlong.length_le (by omega)

end Classes

section Consumed

open AWSUtil EC2ServiceQuotaHelper

variable {ctx : QuotaContext} {quotaType : EC2ServiceQuota}

def counts (ctx : QuotaContext) (quotaType : EC2ServiceQuota) (instanceTypes : List String)
    (instance_ : EC2Instance) : Bool :=
  isActive instance_ && hasQuotaType ctx quotaType instance_ &&
    decide (instance_.instanceType ∈ instanceTypes.map some)

def hasClass (ctx : QuotaContext) (classes : List String) (instance_ : EC2Instance) : Bool :=
  decide (∃ instanceClass ∈ classes,
    instance_.instanceType.bind (classOf ctx.str) = some instanceClass)

def instancesOfClasses (ctx : QuotaContext) (quotaType : EC2ServiceQuota)
    (classes : List String) : List EC2Instance :=
  ctx.instances.filter fun instance_ =>
    isActive instance_ && hasQuotaType ctx quotaType instance_ && hasClass ctx classes instance_

def vcpusOf (ctx : QuotaContext) (instance_ : EC2Instance) : ℤ :=
  (instance_.instanceType.bind ctx.types.get?).getD 0

variable {instanceTypes : List String} {instance_ : EC2Instance}

theorem addVcpus_of_counts (hknown : ∀ t ∈ instanceTypes, t ∈ ctx.types.keys)
    (h : counts ctx quotaType instanceTypes instance_ = true) (n : ℤ) :
    addVcpus ctx quotaType instanceTypes n instance_ = .ok (n + vcpusOf ctx instance_) := by
  simp only [counts, Bool.and_eq_true, decide_eq_true_eq] at h
  obtain ⟨⟨hactive, hquota⟩, hmem⟩ := h
  obtain ⟨t, ht, htype⟩ := List.mem_map.mp hmem
  obtain ⟨vcpus, hvcpus⟩ := Option.isSome_iff_exists.mp (Dict.get?_isSome.mpr (hknown t ht))
  simp [addVcpus, hactive, hquota, vcpusOf, ← htype, ht, hvcpus, Raised.required]

theorem addVcpus_of_not_counts (h : counts ctx quotaType instanceTypes instance_ = false) (n : ℤ) :
    addVcpus ctx quotaType instanceTypes n instance_ = .ok n := by
  unfold addVcpus
  split_ifs with hactive hmem hquota
  · rfl
  · rfl
  · simp_all [counts]
  · rfl

theorem foldlM_addVcpus (instances : List EC2Instance)
    (hknown : ∀ t ∈ instanceTypes, t ∈ ctx.types.keys) (n : ℤ) :
    instances.foldlM (addVcpus ctx quotaType instanceTypes) n =
      .ok (n +
        ((instances.filter (counts ctx quotaType instanceTypes)).map (vcpusOf ctx)).sum) := by
  induction instances generalizing n with
  | nil => simp [pure, Except.pure]
  | cons instance_ instances ih =>
    rw [List.foldlM_cons]
    cases hcounts : counts ctx quotaType instanceTypes instance_ with
    | true =>
      rw [addVcpus_of_counts hknown hcounts, Raised.ok_bind, ih, List.filter_cons_of_pos hcounts,
        List.map_cons, List.sum_cons, add_assoc]
    | false =>
      rw [addVcpus_of_not_counts hcounts, Raised.ok_bind, ih,
        List.filter_cons_of_neg (by simp [hcounts])]

def typesOfClasses (ctx : QuotaContext) (classes : List String) : List String :=
  classes.flatMap (getInstanceTypesForClass ctx.str ctx.types)

theorem consumed_eq (classes : List String) : consumed ctx quotaType classes =
    .ok ((ctx.instances.filter (counts ctx quotaType (typesOfClasses ctx classes))).map
      (vcpusOf ctx)).sum := by
  have hknown : ∀ t ∈ typesOfClasses ctx classes, t ∈ ctx.types.keys := by
    intro t ht
    obtain ⟨instanceClass, -, hlisted⟩ := List.mem_flatMap.mp ht
    exact (List.mem_filter.mp hlisted).1
  rw [consumed, getActiveVcpuCount, ← typesOfClasses, foldlM_addVcpus _ hknown, zero_add]

/-- The two directions of the mapping agree on all instance types that are known, and what a
quota for some classes has consumed are the vCPUs of the active instances of these classes. -/
structure ClassesAgree (ctx : QuotaContext) : Prop where
  listed : ∀ instanceType ∈ ctx.types.keys, ListedForClass ctx.str ctx.types instanceType
  consumed : ∀ quotaType, ∀ classes : List String, (∀ c ∈ classes, c ∈ instanceClasses) →
    (∀ instance_ ∈ ctx.instances, ∀ instanceType, instance_.instanceType = some instanceType →
      instanceType ∈ ctx.types.keys) →
    consumed ctx quotaType classes =
      .ok ((instancesOfClasses ctx quotaType classes).map (vcpusOf ctx)).sum

theorem counts_eq_of_listed {classes : List String} (hclasses : ∀ c ∈ classes, c ∈ instanceClasses)
    (hlisted : ∀ instanceType, instance_.instanceType = some instanceType →
      ListedForClass ctx.str ctx.types instanceType) :
    counts ctx quotaType (typesOfClasses ctx classes) instance_ =
      (isActive instance_ && hasQuotaType ctx quotaType instance_ &&
        hasClass ctx classes instance_) := by
  have hmem : instance_.instanceType ∈ (typesOfClasses ctx classes).map some ↔
      ∃ c ∈ classes, instance_.instanceType.bind (classOf ctx.str) = some c := by
    cases htype : instance_.instanceType with
    | none => simp
    | some instanceType =>
      simp only [List.mem_map, Option.some.injEq, exists_eq_right, typesOfClasses,
        List.mem_flatMap, Option.bind_some]
      exact exists_congr fun c => and_congr_right fun hc =>
        hlisted instanceType htype c (hclasses c hc)
  rw [counts, hasClass, decide_eq_decide.mpr hmem]

/-- The mappings agree exactly on names that are written apart. -/
theorem classesAgree_iff (ctx : QuotaContext) : ClassesAgree ctx ↔
    ∀ instanceType ∈ ctx.types.keys, WrittenApart ctx.str instanceType := by
  constructor
  · intro h instanceType hknown
    exact (h.listed instanceType hknown).writtenApart hknown
  · intro h
    have hlisted : ∀ instanceType ∈ ctx.types.keys,
        ListedForClass ctx.str ctx.types instanceType :=
      fun instanceType hknown => (h instanceType hknown).listed hknown
    refine ⟨hlisted, fun quotaType classes hclasses hinstances => ?_⟩
    have hfilter : ctx.instances.filter (counts ctx quotaType (typesOfClasses ctx classes)) =
        instancesOfClasses ctx quotaType classes := by
      refine List.filter_congr fun instance_ hinstance => ?_
      exact counts_eq_of_listed hclasses fun instanceType htype =>
        hlisted instanceType (hinstances instance_ hinstance instanceType htype)
    rw [consumed_eq, hfilter]

def Lowering.ofAscii : Lowering where
  lower cs := cs.map Char.toLower
  ascii _ _ := rfl
  leading start rest _ := by
    rw [List.map_append]
    exact List.prefix_append _ _

def runningTrn : QuotaContext where
  str := Lowering.ofAscii
  types := ⟨[("trn1.2xlarge", 8)], List.nodup_singleton _⟩
  instances := [
    { instanceId := "i-1", instanceType := some "trn1.2xlarge", state := some "running" }]
  instanceLifecycle _ := none

/-- It is listed for the class of the burstable types, and counts for their quota. -/
theorem not_classesAgree_trn : ¬ ClassesAgree runningTrn := by
  intro h
  have hlisted : "trn1.2xlarge" ∈ getInstanceTypesForClass runningTrn.str runningTrn.types "T" := by
    decide +kernel
  have hclass := (h.listed "trn1.2xlarge" (by decide) "T" (by decide)).mp hlisted
  revert hclass
  decide +kernel

end Consumed

end Idea

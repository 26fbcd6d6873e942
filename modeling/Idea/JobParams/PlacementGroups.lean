import Idea.JobParams.BuiltJob

/-! # Subnets and nodes of a placement group

A placement group is in one subnet, and it is of no use to a single node. Where a job asks for a
placement group, its subnets are narrowed down to one. Where the placement group is a default, they
are narrowed down only for other reasons.
-/

namespace Idea

theorem BuilderContext.unlessRestricted_valid {ctx : BuilderContext} {param : String}
    {verdict : Except Raised Verdict} {returned : Verdict}
    (h : ctx.unlessRestricted param verdict = .ok returned) (hentries : returned.entries = []) :
    verdict = .ok returned := by
  unfold unlessRestricted at h
  split at h
  · obtain rfl := Except.ok.inj h
    contradiction
  · exact h

theorem Verdict.check_entries {condition : Bool} {param message : String} :
    (check condition param message).entries = [] ↔ condition = true := by
  cases condition <;> simp [check, pass, fail]

theorem Verdict.both_entries {first second : Verdict} :
    (both first second).entries = [] ↔ first.entries = [] ∧ second.entries = [] := by
  simp [both]

variable {subnetIds : List String}

namespace SubnetIdsParamBuilder

variable {ctx : BuilderContext}

theorem privateSubnets_eq_ok {subnets : List String} (h : privateSubnets ctx = .ok subnets) :
    subnets ≠ [] := by
  unfold privateSubnets at h
  split at h
  · cases h
  · obtain rfl := Except.ok.inj h
    assumption

theorem read_ne_nil (h : read ctx = .ok (some subnetIds)) : subnetIds ≠ [] := by
  unfold read at h
  split at h
  · cases h
  next value hvalue =>
    have hpresent : value.isPresent := by
      unfold SubmittedParams.getEither SubmittedParams.getAnyValue at hvalue
      rcases Option.or_eq_some_iff.mp hvalue with hvalue | ⟨-, hvalue⟩
      · exact (Option.filter_eq_some_iff.mp hvalue).2
      · exact (Option.filter_eq_some_iff.mp hvalue).2
    split at h
    next n _ =>
      obtain ⟨subnets, hsubnets, h⟩ := Raised.bind_eq_ok.mp h
      have hne := privateSubnets_eq_ok hsubnets
      split at h
      next hn =>
        obtain rfl := Option.some.inj (Except.ok.inj h)
        rw [Ne, List.take_eq_nil_iff]
        rintro (hzero | hnil)
        · omega
        · exact hne hnil
      · cases h
    next items _ =>
      obtain rfl := Option.some.inj (Except.ok.inj h)
      simpa [ParamValue.isPresent] using hpresent
    next text _ =>
      obtain rfl := Option.some.inj (Except.ok.inj h)
      exact splitPlus_ne_nil text
    · cases h

theorem get_of_read {given : Option (List String)} (h : read ctx = .ok given) :
    get ctx = .ok given := by
  rw [get, h]

/-- Valid subnets are read without an error, and there is one of them if a placement group was
asked for. -/
theorem validate_valid {verdict : Verdict} (h : validate ctx [] = .ok verdict)
    (hentries : verdict.entries = []) :
    ∃ given, read ctx = .ok given ∧ ∀ subnetIds, given = some subnetIds →
      EnablePlacementGroupParamBuilder.get ctx = some true → subnetIds.length ≤ 1 := by
  unfold validate at h
  split at h
  · obtain rfl := Except.ok.inj h
    contradiction
  · cases h
  next hread => exact ⟨none, hread, by simp⟩
  next subnetIds hread =>
    refine ⟨some subnetIds, hread, ?_⟩
    rintro _ ⟨⟩ hgroup
    have h := BuilderContext.unlessRestricted_valid h hentries
    rw [isFailed, if_neg (by simp)] at h
    obtain rfl := Except.ok.inj h
    rw [Verdict.both_entries, Verdict.check_entries] at hentries
    have hone := hentries.1
    simp only [hgroup, isTrue, Option.getD_some, Bool.true_and, Bool.not_eq_true',
      decide_eq_false_iff_not, not_lt] at hone
    exact hone

end SubnetIdsParamBuilder

variable {failed : List String}

/-- A placement group is a default for several nodes in at most one given subnet that are no spot
instances. -/
theorem EnablePlacementGroupParamBuilder.default_eq_true {ctx : BuilderContext}
    {given : Option (List String)}
    (h : EnablePlacementGroupParamBuilder.default ctx failed = .ok true)
    (hgiven : SubnetIdsParamBuilder.get ctx = .ok given) :
    (∀ subnetIds, given = some subnetIds → subnetIds.length ≤ 1) ∧
      usesSpotCapacity ctx failed = .ok false := by
  unfold EnablePlacementGroupParamBuilder.default at h
  obtain ⟨nodes, -, h⟩ := Raised.bind_eq_ok.mp h
  split at h
  · cases h
  rw [hgiven, Raised.ok_bind] at h
  split at h
  · cases h
  next hseveral =>
    obtain ⟨usesSpot, hspot, h⟩ := Raised.bind_eq_ok.mp h
    constructor
    · rintro subnetIds rfl
      simpa using hseveral
    · cases usesSpot with
      | false => exact hspot
      | true => simp at h

namespace SocaJobBuilder

variable {ctx : BuilderContext}

/-- The job has more than one node, given or by default. -/
def AsksSeveralNodes (ctx : BuilderContext) : Prop :=
  ∃ given, NodesParamBuilder.get ctx = .ok given ∧ 1 < given.getD (NodesParamBuilder.default ctx)

/-- Something other than a default placement group limits the job to one subnet: a placement group
or EFA is asked for, subnets are given, the queue has no more than one, or there is a file system of
FSx for Lustre. -/
def NarrowsSubnets (ctx : BuilderContext) : Prop :=
  EnablePlacementGroupParamBuilder.get ctx = some true ∨
    (∃ subnetIds, SubnetIdsParamBuilder.get ctx = .ok (some subnetIds)) ∨
    ((ctx.queueDefault (·.subnetIds)).getD []).length ≤ 1 ∨
    (∃ config, FsxLustreParamBuilder.get ctx = .ok (some config) ∧ config.enabled = some true) ∨
    EnableEfaParamBuilder.get ctx = some true

/-- The candidates for the subnets are those of the queue, or there is one of them unless the job
has a single node or spot instances. -/
theorem candidates_eq_ok {nodes : ℤ}
    (h : SubnetIdsParamBuilder.candidates ctx failed nodes = .ok subnetIds) :
    subnetIds ≠ [] ∧ (ctx.queueDefault (·.subnetIds) = some subnetIds ∨
      ((ctx.queueDefault (·.subnetIds)).getD []).length ≤ 1 ∧
        (usesSpotCapacity ctx failed = .ok false → 1 < nodes → subnetIds.length = 1)) := by
  unfold SubnetIdsParamBuilder.candidates at h
  split at h
  next queued hqueued =>
    obtain rfl := Except.ok.inj h
    obtain ⟨hqueued, hne⟩ := Option.filter_eq_some_iff.mp hqueued
    exact ⟨by simpa using hne, Or.inl hqueued⟩
  next hnone =>
    obtain ⟨usesSpot, hspot, h⟩ := Raised.bind_eq_ok.mp h
    obtain ⟨subnets, hsubnets, h⟩ := Raised.bind_eq_ok.mp h
    have hne := SubnetIdsParamBuilder.privateSubnets_eq_ok hsubnets
    have hqueue : ((ctx.queueDefault (·.subnetIds)).getD []).length ≤ 1 := by
      cases hq : ctx.queueDefault (·.subnetIds) with
      | none => simp
      | some queued =>
        rw [hq] at hnone
        simp_all [Option.filter_some]
    obtain rfl := Except.ok.inj h
    constructor
    · split
      · exact hne
      · simp
    · refine Or.inr ⟨hqueue, fun hnotspot hnodes => ?_⟩
      obtain rfl := Except.ok.inj (hspot.symm.trans hnotspot)
      rw [if_neg (by simp; omega)]
      rfl

/-- The default subnets of several nodes in a placement group are narrowed down to one exactly for
one of these reasons. -/
theorem default_length_iff (h : SubnetIdsParamBuilder.default ctx failed = .ok subnetIds)
    (hnodes : AsksSeveralNodes ctx) (hgroup : EnablePlacementGroupParamBuilder.get ctx = some true ∨
      usesSpotCapacity ctx failed = .ok false) :
    subnetIds.length = 1 ↔ EnablePlacementGroupParamBuilder.get ctx = some true ∨
      ((ctx.queueDefault (·.subnetIds)).getD []).length ≤ 1 ∨
      (∃ config, FsxLustreParamBuilder.get ctx = .ok (some config) ∧
        config.enabled = some true) ∨
      EnableEfaParamBuilder.get ctx = some true := by
  obtain ⟨given, hgiven, hseveral⟩ := hnodes
  unfold SubnetIdsParamBuilder.default at h
  rw [hgiven, Raised.ok_bind] at h
  obtain ⟨candidates, hcandidates, h⟩ := Raised.bind_eq_ok.mp h
  obtain ⟨hne, hqueue⟩ := candidates_eq_ok hcandidates
  have hpos : 0 < candidates.length := List.length_pos_iff.mpr hne
  split at h
  next hone =>
    obtain rfl := Except.ok.inj h
    refine iff_of_true hone (Or.inr (Or.inl ?_))
    rcases hqueue with hqueue | ⟨hqueue, -⟩
    · rw [hqueue]
      exact hone.le
    · exact hqueue
  next hnotone =>
    obtain ⟨fsxLustre, hfsx, h⟩ := Raised.bind_eq_ok.mp h
    split at h
    next henabled =>
      obtain ⟨first, -, h⟩ := Raised.bind_eq_ok.mp h
      obtain rfl := Except.ok.inj h
      refine iff_of_true rfl (Or.inr (Or.inr (Or.inl ?_)))
      cases fsxLustre with
      | none => simp [isTrue] at henabled
      | some config =>
        refine ⟨config, hfsx, ?_⟩
        rw [Option.bind_some] at henabled
        cases henabled' : config.enabled <;> simp_all [isTrue]
    next hdisabled =>
      have hnofsx : ¬ ∃ config, FsxLustreParamBuilder.get ctx = .ok (some config) ∧
          config.enabled = some true := by
        rintro ⟨config, hconfig, henabled⟩
        obtain rfl := Except.ok.inj (hfsx.symm.trans hconfig)
        simp [isTrue, henabled] at hdisabled
      split at h
      next hefa =>
        obtain rfl := Except.ok.inj h
        refine iff_of_true rfl (Or.inr (Or.inr (Or.inr ?_)))
        cases hget : EnableEfaParamBuilder.get ctx <;> simp_all [isTrue]
      next hnotefa =>
        split at h
        next hasked =>
          obtain rfl := Except.ok.inj h
          refine iff_of_true rfl (Or.inl ?_)
          cases hget : EnablePlacementGroupParamBuilder.get ctx <;> simp_all [isTrue]
        next hnotasked =>
          obtain rfl := Except.ok.inj h
          have hlength : 1 < candidates.length := by omega
          have hgroup' : EnablePlacementGroupParamBuilder.get ctx ≠ some true := by
            intro hget
            simp [hget, isTrue, hlength] at hnotasked
          refine iff_of_false hnotone ?_
          rintro (hget | hqueued | hconfig | hget)
          · exact hgroup' hget
          · rcases hqueue with hqueue | ⟨-, hqueue⟩
            · rw [hqueue, Option.getD_some] at hqueued
              omega
            · exact hnotone (hqueue (hgroup.resolve_left hgroup') hseveral)
          · exact hnofsx hconfig
          · simp [hget, isTrue, hlength, hseveral] at hnotefa

/-- In a valid job with a placement group, the job has one subnet and several nodes exactly if it
asks for several nodes and something narrows its subnets. -/
theorem placed_iff {built : Built} (hvalid : validate ctx = .ok [])
    (hbuild : build ctx [] = .ok built)
    (hgroup : built.params.enablePlacementGroup = some true) :
    ((∃ subnetId, built.params.subnetIds = some [subnetId]) ∧
      ∃ nodes, built.params.nodes = some nodes ∧ 1 < nodes) ↔
      AsksSeveralNodes ctx ∧ NarrowsSubnets ctx := by
  obtain ⟨⟨nodes, hnodes, hbuiltNodes⟩, -, -, ⟨enabled, henabled, hbuiltGroup⟩,
    ⟨given, subnetIds, hgiven, hsubnetIds, hbuiltSubnets⟩⟩ := fills_of_build hbuild
  obtain rfl : enabled = true := Option.some.inj (hbuiltGroup.symm.trans hgroup)
  obtain ⟨verdict, hverdict, hentries⟩ := validate_eq_nil.mp hvalid
    ⟨"subnet_ids", SubnetIdsParamBuilder.validate ctx, SubnetIdsParamBuilder.apply ctx⟩
    (by simp [builders])
  obtain ⟨given', hread, hasked⟩ := SubnetIdsParamBuilder.validate_valid hverdict hentries
  obtain rfl := Except.ok.inj (hgiven.symm.trans (SubnetIdsParamBuilder.get_of_read hread))
  have hseveral : (∃ nodes, built.params.nodes = some nodes ∧ 1 < nodes) ↔ AsksSeveralNodes ctx := by
    simp [AsksSeveralNodes, hnodes, hbuiltNodes]
  rw [hseveral, and_comm]
  refine and_congr_right fun hseveral => ?_
  rw [hbuiltSubnets]
  simp only [Option.some.injEq]
  rw [← List.length_eq_one_iff]
  have hspot : EnablePlacementGroupParamBuilder.get ctx = some true ∨
      usesSpotCapacity ctx (failedParams []) = .ok false := by
    refine henabled.imp_right fun h => ?_
    exact (EnablePlacementGroupParamBuilder.default_eq_true h.2 hgiven).2
  cases given with
  | none =>
    rw [default_length_iff ((hsubnetIds.resolve_left (by simp)).2) hseveral hspot, NarrowsSubnets]
    simp [hgiven]
  | some ids =>
    have hne := SubnetIdsParamBuilder.read_ne_nil hread
    have hids : ids = subnetIds := by
      rcases hsubnetIds with h | ⟨h, -⟩
      · exact (Option.filter_eq_some_iff.mp h).1 |> Option.some.inj
      · simp [Option.filter_some, hne] at h
    refine iff_of_true ?_ (Or.inr (Or.inl ⟨ids, hgiven⟩))
    have hle : ids.length ≤ 1 := by
      rcases henabled with h | ⟨-, h⟩
      · exact hasked ids rfl h
      · exact (EnablePlacementGroupParamBuilder.default_eq_true h hgiven).1 ids rfl
    have hpos := List.length_pos_iff.mpr hne
    rw [← hids]
    omega

def groupedParams : SocaJobParams where
  instanceTypes := some ["c5n.large"]
  enablePlacementGroup := some true
  subnetIds := some ["subnet-a", "subnet-b"]

def twoNodes : BuilderContext where
  params := { values := ⟨[("nodes", .text "2")], by decide⟩, repr := fun _ => "" }
  queue := some { defaultJobParams := some groupedParams }
  soca := sampleSoca

theorem exists_built_twoNodes : ∃ built, build twoNodes [] = .ok built ∧
    built.params.enablePlacementGroup = some true ∧
    built.params.subnetIds = some ["subnet-a", "subnet-b"] := by
  have h : (build twoNodes []).map (fun built =>
      (built.params.enablePlacementGroup, built.params.subnetIds)) =
      .ok (some true, some ["subnet-a", "subnet-b"]) := by decide +kernel
  cases hbuild : build twoNodes [] with
  | error e =>
    rw [hbuild] at h
    cases h
  | ok built =>
    rw [hbuild] at h
    have hpair := Except.ok.inj h
    exact ⟨built, rfl, congrArg Prod.fst hpair, congrArg Prod.snd hpair⟩

theorem not_placed_twoNodes : ∃ built, validate twoNodes = .ok [] ∧
    build twoNodes [] = .ok built ∧ built.params.enablePlacementGroup = some true ∧
    ¬ ((∃ subnetId, built.params.subnetIds = some [subnetId]) ∧
      ∃ nodes, built.params.nodes = some nodes ∧ 1 < nodes) := by
  obtain ⟨built, hbuild, hgroup, hsubnets⟩ := exists_built_twoNodes
  refine ⟨built, by decide +kernel, hbuild, hgroup, ?_⟩
  rintro ⟨⟨subnetId, hone⟩, -⟩
  rw [hsubnets] at hone
  simp at hone

theorem placed_iff_twoNodes : ∃ built, build twoNodes [] = .ok built ∧
    (((∃ subnetId, built.params.subnetIds = some [subnetId]) ∧
      ∃ nodes, built.params.nodes = some nodes ∧ 1 < nodes) ↔
      AsksSeveralNodes twoNodes ∧ NarrowsSubnets twoNodes) := by
  obtain ⟨built, hbuild, hgroup, -⟩ := exists_built_twoNodes
  exact ⟨built, hbuild, placed_iff (by decide +kernel) hbuild hgroup⟩

end SocaJobBuilder

end Idea

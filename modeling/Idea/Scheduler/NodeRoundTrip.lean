import Idea.QueueProfiles.RoundTrip
import Idea.Scheduler.NodeAttributes

/-! # Compute nodes read back from the scheduler

A node that was created is read back from the report of the scheduler, if the scheduler repeats
what was written. The reader takes white space off the texts, and the writer keeps the launch
time to the second and sets the time of provisioning by its own clock.
-/

namespace Idea

open OpenPBSScheduler OpenPBSConverter

/-! ## Times -/

namespace DateTime

theorem ofMicros_eq_ok {t : ℤ} (hl : -62135596800000000 ≤ t) (hu : t ≤ 253402300799999999) :
    ∃ time, ofMicros t = .ok time ∧ time.micros = t := by
  rw [ofMicros, dif_pos ⟨hl, hu⟩]
  exact ⟨_, rfl, rfl⟩

theorem tdiv_mul_bounds (a : ℤ) {b : ℤ} (hb : 0 < b) :
    (0 ≤ a → 0 ≤ a.tdiv b * b ∧ a.tdiv b * b ≤ a) ∧
      (a ≤ 0 → a ≤ a.tdiv b * b ∧ a.tdiv b * b ≤ 0) := by
  have hpos : ∀ c : ℤ, 0 ≤ c → 0 ≤ c.tdiv b * b ∧ c.tdiv b * b ≤ c := by
    intro c hc
    rw [Int.tdiv_eq_ediv_of_nonneg hc]
    exact ⟨mul_nonneg (Int.ediv_nonneg hc hb.le) hb.le, Int.ediv_mul_le c hb.ne'⟩
  refine ⟨hpos a, fun ha => ?_⟩
  obtain ⟨h₁, h₂⟩ := hpos (-a) (neg_nonneg.mpr ha)
  rw [Int.neg_tdiv, neg_mul] at h₁ h₂
  constructor <;> linarith

theorem ofTimestamp_seconds (time : DateTime) :
    ∃ time', ofTimestamp time.seconds = .ok time' ∧ time'.micros = time.seconds * 1000000 := by
  have hl := time.lower
  have hu := time.upper
  have hbounds : -62135596800000000 ≤ time.seconds * 1000000 ∧
      time.seconds * 1000000 ≤ 253402300799999999 := by
    obtain ⟨hpos, hneg⟩ := tdiv_mul_bounds time.micros (by decide : (0 : ℤ) < 1000000)
    unfold seconds
    rcases le_total 0 time.micros with h | h
    · have := hpos h
      omega
    · have := hneg h
      omega
  have hmax : time.seconds ≤ MAX_TIMESTAMP := by
    unfold MAX_TIMESTAMP
    omega
  rw [ofTimestamp, if_pos hmax]
  exact ofMicros_eq_ok hbounds.1 hbounds.2

theorem ofTimestamp_millis {time : DateTime} (h : MAX_TIMESTAMP < time.millis) :
    ∃ time', ofTimestamp time.millis = .ok time' ∧ time'.micros = time.millis * 1000 := by
  have hu := time.upper
  have hlate := h
  have hbounds : time.millis * 1000 ≤ 253402300799999999 := by
    obtain ⟨hpos, hneg⟩ := tdiv_mul_bounds time.micros (by decide : (0 : ℤ) < 1000)
    unfold millis
    rcases le_total 0 time.micros with h | h
    · have := hpos h
      omega
    · have := hneg h
      omega
  unfold MAX_TIMESTAMP at hlate
  have hms : time.millis < MAX_TIMESTAMP * 1000 := by
    unfold MAX_TIMESTAMP
    omega
  rw [ofTimestamp, if_neg (not_le.mpr h), if_pos hms]
  exact ofMicros_eq_ok (by omega) hbounds

end DateTime

/-! ## Resources -/

section Resources

variable {resources : List (String × String)} {name : String}

theorem text_of_lookup {value : Option String} (h : resources.lookup name = value) :
    text resources name = getValueAsString value := by rw [text, h]

theorem getValueAsString_of_plain {cs : List Char} (hne : cs ≠ []) (h : ∀ c ∈ cs, IsPlain c) :
    getValueAsString (some (String.ofList cs)) = some (String.ofList cs) := by
  have hstrip := stripChars_eq_self fun c hc => (h c hc).spec.1
  simp [getValueAsString, getAsString, isEmptyString, strip, hstrip, hne]

theorem isEmptyString_repr (n : ℤ) : isEmptyString (some (toString n)) = false := by
  have hstrip := stripChars_eq_self fun c hc => (isPlain_repr n c hc).spec.1
  have hne : n.repr.toList ≠ [] := by
    rw [Decimal.repr_toList]
    exact List.append_ne_nil_of_right_ne_nil _ Nat.toDigits_ne_nil
  simp only [isEmptyString, Int.toString_eq_repr, hstrip]
  exact Bool.eq_false_iff.mpr fun h => hne (List.isEmpty_iff.mp h)

theorem readValue_of_lookup {value : Option ℤ} (h : resources.lookup name = value.map toString) :
    readValue resources name textAsInt = .ok value := by
  rw [readValue, h]
  cases value with
  | none => rfl
  | some n =>
    rw [Option.map_some]
    dsimp only
    rw [isEmptyString_repr, if_neg Bool.false_ne_true, textAsInt_toString]

theorem timestamp_of_lookup {t : ℤ} (h : resources.lookup name = some (toString t)) :
    timestamp resources name = (DateTime.ofTimestamp t).map some := by
  have hread : readValue resources name textAsInt = .ok (some t) := readValue_of_lookup h
  rw [timestamp, hread]
  rfl

theorem timestamp_of_none (h : resources.lookup name = none) :
    timestamp resources name = .ok none := by
  rw [timestamp, readValue, h]
  rfl

theorem flag_of_lookup {value : Option Bool} (h : resources.lookup name = value.map boolText) :
    flag resources name = value := by
  rw [flag, h]
  cases value with
  | none => rfl
  | some value => exact textAsBool_boolText value

theorem coerced_of_lookup {value : Option Bool} (h : resources.lookup name = value.map boolText) :
    coerced resources name = .ok value := by
  rw [coerced, text_of_lookup h]
  cases value with
  | none => rfl
  | some value => cases value <;> rfl

theorem memory_of_lookup {value : Option SocaMemory}
    (h : resources.lookup name = value.map SocaMemory.str) :
    memory resources name =
      .ok (value.map fun size => ⟨SocaMemory.rounded size.value, size.unit⟩) := by
  rw [memory, text_of_lookup h]
  cases value with
  | none => rfl
  | some size =>
    have hnumeral := SocaMemory.numeral_valueText size.value
    have htext : getValueAsString (some size.str) = some size.str := by
      refine getValueAsString_of_plain ?_ fun c hc => (List.mem_append.mp hc).elim
        (hnumeral.plain c) (SocaMemory.plain_suffix _ c)
      obtain ⟨c, rest, hbegins, -⟩ := hnumeral.begins
      rw [hbegins]
      exact List.cons_ne_nil _ _
    rw [Option.map_some, htext]
    exact SocaMemory.resolve_str size

end Resources

/-! ## Nodes -/

namespace SocaComputeNode

def textAttributes : List (SocaComputeNode → Option String) :=
  [clusterName, clusterVersion, queueType, availabilityZone, subnetId, instanceId, instanceType,
    instanceAmi, instanceProfile, jobId, jobGroup, computeStack, stackId, lifecycle, tenancy,
    spotFleetRequest, autoScalingGroup, baseOs]

def flagAttributes : List (SocaComputeNode → Option Bool) :=
  [keepForever, enablePlacementGroup, enableHtSupport, keepEbsVolumes, enableEfaSupport,
    forceReservedInstances, enableSystemMetrics, enableAnonymousMetrics]

def intAttributes : List (SocaComputeNode → Option ℤ) := [terminateWhenIdle, scratchStorageIops]

def sizeAttributes : List (SocaComputeNode → Option SocaMemory) :=
  [rootStorageSize, scratchStorageSize]

end SocaComputeNode

open SocaComputeNode

/-- The attributes of a node that was read back, but for the queue and the price of a spot node. -/
structure ReadBack (now : DateTime) (node decoded : SocaComputeNode) : Prop where
  texts : ∀ f ∈ textAttributes, f decoded = getValueAsString (f node)
  flags : ∀ f ∈ flagAttributes, f decoded = f node
  ints : ∀ f ∈ intAttributes, f decoded = f node
  sizes : ∀ f ∈ sizeAttributes, f decoded =
    (f node).map fun size => ⟨SocaMemory.rounded size.value, size.unit⟩
  scalingMode : decoded.scalingMode = node.scalingMode
  spot : decoded.spot = some (isTrue node.spot)
  spotPrice : isTrue node.spot = false ∨ node.spotPrice = none → decoded.spotPrice = none
  launchTime : decoded.launchTime.map DateTime.micros =
    node.launchTime.map fun time => time.seconds * 1000000
  provisioningTime : decoded.provisioningTime.map DateTime.micros = some (now.millis * 1000)

theorem isPlain_floatText (q : ℚ) : ∀ c ∈ Decimal.floatText q, IsPlain c := by
  intro c hc
  rcases Decimal.mem_floatText hc with h | rfl | rfl
  · exact .inl h
  · exact .inr (by decide)
  · exact .inr (by decide)

theorem isFloat_floatText (q : ℚ) : isFloat (String.ofList (Decimal.floatText q)) = true := by
  obtain ⟨r, hr⟩ := Decimal.parseFloat_floatText q
  rw [isFloat, floatOfText, String.toList_ofList,
    stripChars_eq_self fun c hc => (isPlain_floatText q c hc).spec.1, hr]
  rfl

theorem spotOf_written (now : DateTime) (node : SocaComputeNode) :
    (spotOf (getValueAsString (nodeAttributes now node .spotPrice))).1 = isTrue node.spot ∧
      (isTrue node.spot = false ∨ node.spotPrice = none →
        (spotOf (getValueAsString (nodeAttributes now node .spotPrice))).2 = none) := by
  cases hspot : isTrue node.spot with
  | false =>
    have hnone : nodeAttributes now node .spotPrice = none := by simp [nodeAttributes, hspot]
    rw [hnone]
    exact ⟨rfl, fun _ => rfl⟩
  | true =>
    cases hprice : node.spotPrice with
    | none =>
      have hauto : nodeAttributes now node .spotPrice = some "auto" := by
        simp [nodeAttributes, hspot, hprice]
      rw [hauto]
      exact ⟨rfl, fun _ => rfl⟩
    | some spotPrice =>
      have htext : nodeAttributes now node .spotPrice =
          some (String.ofList (Decimal.floatText spotPrice.amount)) := by
        simp [nodeAttributes, hspot, hprice]
      have hfloat := isFloat_floatText spotPrice.amount
      have hne : String.ofList (Decimal.floatText spotPrice.amount) ≠ "auto" := by
        intro heq
        rw [heq] at hfloat
        exact absurd hfloat (by decide)
      have hread : getValueAsString (some (String.ofList (Decimal.floatText spotPrice.amount))) =
          some (String.ofList (Decimal.floatText spotPrice.amount)) :=
        getValueAsString_of_plain (Decimal.floatText_ne_nil _) (isPlain_floatText _)
      rw [htext, hread, spotOf, if_neg hne, if_pos hfloat]
      exact ⟨rfl, fun h => h.elim (fun h => by cases h) fun h => by cases h⟩

theorem decodeAttributes_of_echoes {now : DateTime} {node : SocaComputeNode}
    {resources : List (String × String)} (hnow : DateTime.MAX_TIMESTAMP < now.millis)
    (h : ∀ attr : NodeAttribute, resources.lookup attr.name = nodeAttributes now node attr) :
    ∃ decoded, decodeAttributes resources = .ok decoded ∧ ReadBack now node decoded := by
  obtain ⟨launchTime, hlaunch, hlaunchTime⟩ : ∃ launchTime,
      timestamp resources "launch_time" = .ok launchTime ∧
        launchTime.map DateTime.micros = node.launchTime.map fun time => time.seconds * 1000000 := by
    have hlookup : resources.lookup "launch_time" =
        node.launchTime.map (fun time => toString time.seconds) := h .launchTime
    cases htime : node.launchTime with
    | none =>
      rw [htime] at hlookup
      exact ⟨none, timestamp_of_none hlookup, rfl⟩
    | some time =>
      rw [htime] at hlookup
      obtain ⟨time', heq, hmicros⟩ := time.ofTimestamp_seconds
      refine ⟨some time', ?_, congrArg some hmicros⟩
      rw [timestamp_of_lookup hlookup, heq]
      rfl
  obtain ⟨provisioningTime, hprovisioning, hmicros⟩ := DateTime.ofTimestamp_millis hnow
  have hclock : resources.lookup "provisioning_time" = some (toString now.millis) :=
    h .provisioningTime
  have hprovision : timestamp resources "provisioning_time" = .ok (some provisioningTime) := by
    rw [timestamp_of_lookup hclock, hprovisioning]
    rfl
  have hterminate : readValue resources "terminate_when_idle" textAsInt =
      .ok node.terminateWhenIdle := readValue_of_lookup (h .terminateWhenIdle)
  have hiops : readValue resources "scratch_iops" textAsInt = .ok node.scratchStorageIops :=
    readValue_of_lookup (h .scratchIops)
  have hroot := memory_of_lookup (h .rootSize)
  have hscratch := memory_of_lookup (h .scratchSize)
  have hplacement := coerced_of_lookup (h .placementGroup)
  have hht := coerced_of_lookup (h .htSupport)
  have hspot := spotOf_written now node
  rw [← text_of_lookup (h .spotPrice)] at hspot
  have hmode : (text resources "scaling_mode").bind SocaScalingMode.resolve = node.scalingMode := by
    have hlookup : resources.lookup "scaling_mode" = node.scalingMode.map SocaScalingMode.str :=
      h .scalingMode
    rw [text_of_lookup hlookup]
    exact HpcQueueProfilesDAO.scalingMode_encoded node.scalingMode
  simp only [NodeAttribute.name] at hroot hscratch hplacement hht hspot
  refine ⟨_, by
    simp only [decodeAttributes, hlaunch, hprovision, hterminate, hiops, hroot, hscratch,
      hplacement, hht, bind, Except.bind]
    rfl, ?_⟩
  constructor
  · simp only [textAttributes, List.forall_mem_cons]
    exact ⟨text_of_lookup (h .clusterName), text_of_lookup (h .clusterVersion),
      text_of_lookup (h .queueType), text_of_lookup (h .availabilityZone),
      text_of_lookup (h .subnetId), text_of_lookup (h .instanceId),
      text_of_lookup (h .instanceType), text_of_lookup (h .instanceAmi),
      text_of_lookup (h .instanceProfile), text_of_lookup (h .jobId), text_of_lookup (h .jobGroup),
      text_of_lookup (h .computeNode), text_of_lookup (h .stackId), text_of_lookup (h .lifecycle),
      text_of_lookup (h .tenancy), text_of_lookup (h .spotFleetRequest),
      text_of_lookup (h .autoScalingGroup), text_of_lookup (h .baseOs), List.forall_mem_nil _⟩
  · simp only [flagAttributes, List.forall_mem_cons]
    exact ⟨flag_of_lookup (h .keepForever), trivial, trivial, flag_of_lookup (h .keepEbs),
      flag_of_lookup (h .efaSupport), flag_of_lookup (h .forceRi),
      flag_of_lookup (h .systemMetrics), flag_of_lookup (h .anonymousMetrics),
      List.forall_mem_nil _⟩
  · simp only [intAttributes, List.forall_mem_cons]
    exact ⟨trivial, trivial, List.forall_mem_nil _⟩
  · simp only [sizeAttributes, List.forall_mem_cons]
    exact ⟨trivial, trivial, List.forall_mem_nil _⟩
  · exact hmode
  · exact congrArg some hspot.1
  · exact hspot.2
  · exact hlaunchTime
  · exact congrArg some hmicros

/-- The scheduler reports the node that was created, with what was written, and reports nothing
about it that cannot be read. -/
structure Reported (now : DateTime) (node : SocaComputeNode) (report : NodeReport) : Prop where
  known : getValueAsString report.error = none
  queue : report.queue = some (formatted node.queue)
  echoes : ∀ attr : NodeAttribute,
    report.resourcesAvailable.lookup attr.name = nodeAttributes now node attr
  states : ∃ states, toSocaComputeNodeState (getValueAsString report.state) = .ok states
  lastUsed : ∃ time, seconds report.lastUsedTime = .ok time
  lastStateChange : ∃ time, seconds report.lastStateChangeTime = .ok time
  sharing : ∃ sharing, toSocaComputeNodeSharing (getValueAsString report.sharing) = .ok sharing
  available : ∃ resources, toSocaComputeNodeResources report.resourcesAvailable = .ok resources
  assigned : ∃ resources, toSocaComputeNodeResources report.resourcesAssigned = .ok resources

theorem ReadBack.congr {now : DateTime} {node decoded decoded' : SocaComputeNode}
    (h : ReadBack now node decoded) (hd : decoded' = { decoded with
      host := decoded'.host, states := decoded'.states, queue := decoded'.queue,
      lastUsedTime := decoded'.lastUsedTime, lastStateChangedTime := decoded'.lastStateChangedTime,
      sharing := decoded'.sharing, schedulerInfo := decoded'.schedulerInfo,
      resourcesAvailable := decoded'.resourcesAvailable,
      resourcesAssigned := decoded'.resourcesAssigned, jobs := decoded'.jobs }) :
    ReadBack now node decoded' := by
  obtain ⟨htexts, hflags, hints, hsizes, hmode, hspot, hprice, hlaunch, hprovisioning⟩ := h
  rw [hd]
  constructor
  · simpa only [textAttributes, List.forall_mem_cons, List.not_mem_nil, IsEmpty.forall_iff,
      implies_true, and_true] using htexts
  · simpa only [flagAttributes, List.forall_mem_cons, List.not_mem_nil, IsEmpty.forall_iff,
      implies_true, and_true] using hflags
  · simpa only [intAttributes, List.forall_mem_cons, List.not_mem_nil, IsEmpty.forall_iff,
      implies_true, and_true] using hints
  · simpa only [sizeAttributes, List.forall_mem_cons, List.not_mem_nil, IsEmpty.forall_iff,
      implies_true, and_true] using hsizes
  all_goals dsimp only
  · exact hmode
  · exact hspot
  · exact hprice
  · exact hlaunch
  · exact hprovisioning

theorem toSocaNode_of_reported {now : DateTime} {node : SocaComputeNode} {report : NodeReport}
    (host : String) (hnow : DateTime.MAX_TIMESTAMP < now.millis) (h : Reported now node report) :
    ∃ decoded, toSocaNode host report = .ok (some decoded) ∧ ReadBack now node decoded ∧
      decoded.queue = getValueAsString report.queue := by
  obtain ⟨decoded, hdecoded, hread⟩ := decodeAttributes_of_echoes hnow h.echoes
  obtain ⟨states, hstates⟩ := h.states
  obtain ⟨lastUsed, hlastUsed⟩ := h.lastUsed
  obtain ⟨lastStateChange, hlastStateChange⟩ := h.lastStateChange
  obtain ⟨sharing, hsharing⟩ := h.sharing
  obtain ⟨available, havailable⟩ := h.available
  obtain ⟨assigned, hassigned⟩ := h.assigned
  have hnode : toSocaNode host report = .ok (some { decoded with
      states, lastUsedTime := lastUsed, lastStateChangedTime := lastStateChange, sharing
      resourcesAvailable := available, resourcesAssigned := assigned, host := some host
      queue := getValueAsString report.queue
      schedulerInfo := some {
        name := some "openpbs", version := getValueAsString report.pbsVersion,
        momPrivateDns := some host, momPort := report.port }
      jobs := some (((getValueAsList report.jobs).getD []).map jobIdOf) }) := by
    rw [toSocaNode, if_neg fun hne => hne h.known, hstates, hlastUsed, hlastStateChange, hsharing,
      hdecoded, havailable, hassigned]
    rfl
  exact ⟨_, hnode, hread.congr rfl, rfl⟩

/-- A node reads back with its queue and attributes. Texts lose the white space around them, the
launch time is cut to the second, sizes have one decimal, an absent spot flag is false and the
price of a node that is no spot node is absent; the provisioning time is that of the clock. -/
theorem node_attributes_round_trip {now : DateTime} {node : SocaComputeNode} {report : NodeReport}
    (host : String) (hnow : DateTime.MAX_TIMESTAMP < now.millis) (h : Reported now node report) :
    ∃ decoded, toSocaNode host report = .ok (some decoded) ∧ ReadBack now node decoded ∧
      ∀ queue, node.queue = some queue → decoded.queue = getAsString queue := by
  obtain ⟨decoded, hdecoded, hread, hreported⟩ := toSocaNode_of_reported host hnow h
  refine ⟨decoded, hdecoded, hread, fun queue hqueue => ?_⟩
  rw [hreported, h.queue, hqueue]
  rfl

def echoed (now : DateTime) (node : SocaComputeNode) : List (String × String) :=
  NodeAttribute.all.filterMap (fun attr =>
    (nodeAttributes now node attr).map fun value => (attr.name, value)) ++
      [("ncpus", "2"), ("mem", "8gb")]

def midMay : DateTime := ⟨1715731200250000, by decide, by decide⟩

def onDemandNode : SocaComputeNode where
  host := some "ip-10-0-1-7"
  queue := some "normal"
  jobGroup := some " g1 "
  instanceType := some "c5.large"
  scalingMode := some .singleJob
  keepForever := some false
  launchTime := some ⟨1715731100500000, by decide, by decide⟩
  spotPrice := some { amount := 1 / 2 }

def onDemandReport : NodeReport where
  state := some "free"
  queue := some "normal"
  sharing := some "default_shared"
  resourcesAvailable := echoed midMay onDemandNode

theorem reported_onDemandNode : Reported midMay onDemandNode onDemandReport where
  known := rfl
  queue := rfl
  echoes := by intro attr; cases attr <;> rfl
  states := ⟨some [.free], by decide +kernel⟩
  lastUsed := ⟨none, rfl⟩
  lastStateChange := ⟨none, rfl⟩
  sharing := ⟨some .defaultShared, by decide +kernel⟩
  available := ⟨some { cpus := some 2, memory := some ⟨8, .gb⟩ }, by decide +kernel⟩
  assigned := ⟨none, rfl⟩

theorem onDemandNode_round_trip :
    ∃ decoded, toSocaNode "ip-10-0-1-7" onDemandReport = .ok (some decoded) ∧
      ReadBack midMay onDemandNode decoded ∧
      ∀ queue, onDemandNode.queue = some queue → decoded.queue = getAsString queue :=
  node_attributes_round_trip "ip-10-0-1-7" (by decide) reported_onDemandNode

/-- The group and the times of the node change, and so do its spot flag and price. -/
theorem onDemandNode_changes :
    Reported midMay onDemandNode onDemandReport ∧
      ∃ decoded, toSocaNode "ip-10-0-1-7" onDemandReport = .ok (some decoded) ∧
        decoded.jobGroup ≠ onDemandNode.jobGroup ∧ decoded.launchTime ≠ onDemandNode.launchTime ∧
        decoded.provisioningTime ≠ onDemandNode.provisioningTime ∧
        decoded.spot ≠ onDemandNode.spot ∧ decoded.spotPrice ≠ onDemandNode.spotPrice := by
  obtain ⟨decoded, hdecoded, hread, -⟩ :=
    toSocaNode_of_reported "ip-10-0-1-7" (by decide) reported_onDemandNode
  have hgroup : decoded.jobGroup = some "g1" := hread.texts jobGroup (by simp [textAttributes])
  refine ⟨reported_onDemandNode, decoded, hdecoded, ?_, ?_, ?_, ?_, ?_⟩
  · rw [hgroup]
    decide
  · intro h
    have hlaunch := hread.launchTime
    rw [h] at hlaunch
    exact absurd hlaunch (by decide)
  · intro h
    have hclock := hread.provisioningTime
    rw [h] at hclock
    cases hclock
  · rw [hread.spot]
    decide
  · rw [hread.spotPrice (.inl rfl)]
    exact fun h => by cases h

end Idea

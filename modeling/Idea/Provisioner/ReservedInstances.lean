import Mathlib.Algebra.BigOperators.Group.List.Basic
import Idea.Data.Dict
import Idea.Model.Instance
import Idea.Model.Job
import Idea.Model.Memory
import Idea.Settings.StoredValues

/-! # Reserved instances

For a job that forces reserved instances the active reservations of its instance types are
counted, and each of its types needs enough of them for the instances there are and the nodes to
come. The count adds to an entry of the answer that nothing has put there, so that the first
reservation of a requested type makes it fail.
-/

namespace Idea

namespace ErrorCodes

def EC2_RESERVED_INSTANCES_NOT_PURCHASED : String := "EC2_RESERVED_INSTANCES_NOT_PURCHASED"
def EC2_RESERVED_INSTANCES_NOT_AVAILABLE : String := "EC2_RESERVED_INSTANCES_NOT_AVAILABLE"

end ErrorCodes

structure ReservedInstances where
  instanceType : Option String := none
  instanceCount : Option ℤ := none

namespace ReservedInstances

def type (reservation : ReservedInstances) : Option String :=
  reservation.instanceType.bind getAsString

def count (reservation : ReservedInstances) : ℤ := getAsInt reservation.instanceCount 0

end ReservedInstances

/-- How many instances of each type are reserved. -/
abbrev PurchasedCounts : Type := Dict (Option String) ℤ

namespace AWSUtil

def countReservation (instanceTypes : List String) (response : PurchasedCounts)
    (reservation : ReservedInstances) : Except Raised PurchasedCounts :=
  if reservation.type ∈ instanceTypes.map some then do
    let count ← Raised.required .keyError (response.get? reservation.type)
    .ok (response.set reservation.type (count + reservation.count))
  else .ok (response.set reservation.type reservation.count)

def countReservations (instanceTypes : List String) (reservations : List ReservedInstances) :
    Except Raised PurchasedCounts :=
  reservations.foldlM (countReservation instanceTypes) ∅

def cacheKey (instanceTypes : List String) : String :=
  "aws.ec2.describe_reserved_instances." ++ ":".intercalate instanceTypes ++ ".result"

/-- The answer, from the cache if it is there, with the cache after the call. An answer of AWS
may have no list of reservations. -/
def ec2DescribeReservedInstances (cache : Dict String PurchasedCounts)
    (describe : List String → Except Raised (Option (List ReservedInstances)))
    (instanceTypes : List String) : Except Raised (PurchasedCounts × Dict String PurchasedCounts) :=
  match cache.get? (cacheKey instanceTypes) with
  | some response => .ok (response, cache)
  | none => do
    let result ← describe instanceTypes
    let response ← countReservations instanceTypes (result.getD [])
    .ok (response, cache.set (cacheKey instanceTypes) response)

end AWSUtil

namespace SocaJob

def defaultInstanceTypeOption (job : SocaJob) : Except Raised SocaInstanceTypeOptions :=
  match job.provisioningOptions with
  | none => .error (invalidJob "provisioning_options not found")
  | some options =>
    match options.instanceTypes.bind List.head? with
    | none => .error (invalidJob "provisioning_options.instance_types not found")
    | some option => .ok option

end SocaJob

structure NotEnoughReservedInstances where
  instanceType : Option String
  purchasedCount : ℤ
  instancesCount : ℤ
  desiredCount : ℤ

def NotEnoughReservedInstances.text (entry : NotEnoughReservedInstances) : String :=
  "InstanceType: " ++ entry.instanceType.getD "None" ++ ", Purchased: " ++
    toString entry.purchasedCount ++ ", RunningInstances: " ++ toString entry.instancesCount ++
    ", Desired: " ++ toString entry.desiredCount

/-- What the check reads: the cache, the answer of AWS, the instances of the instance cache, and
the double next to a number. -/
structure ReservedInstancesContext where
  cache : Dict String PurchasedCounts
  describeReservedInstances : List String → Except Raised (Option (List ReservedInstances))
  instances : List EC2Instance
  double : ℚ → ℚ

namespace JobProvisioningUtil

variable (ctx : ReservedInstancesContext)

def forcesReserved : List SocaJob → Except Raised Bool
  | [] => .ok false
  | job :: jobs => do
    let params ← Raised.required .attributeError job.params
    if isTrue params.forceReservedInstances then .ok true else forcesReserved jobs

def totalOndemandNodes (jobs : List SocaJob) : Except Raised ℤ :=
  jobs.foldlM (fun nodes job => do .ok (nodes + (← job.ondemandNodes))) 0

/-- The instances of a type. The check asks for those in a `state`, which is not the name of a
filter, so that all states count. -/
def listInstances (instanceType : Option String) : List EC2Instance :=
  ctx.instances.filter fun instance_ => decide (instance_.instanceType = instanceType)

/-- The nodes a type has to provide, `max(1, int(nodes * (base / weight)))`. -/
def desiredCount (ondemandNodes : ℤ) (baseWeight weightedCapacity : Option ℤ) :
    Except Raised ℤ :=
  match baseWeight, weightedCapacity with
  | some base, some weight =>
    -- A division by zero.
    if weight = 0 then .error .external
    else
      let share := ctx.double (ctx.double ondemandNodes * ctx.double (base / weight))
      .ok (max 1 (SocaMemory.truncate share))
  | _, _ => .error .typeError

def checkOption (purchased : PurchasedCounts) (ondemandNodes : ℤ) (baseWeight : Option ℤ)
    (option : SocaInstanceTypeOptions) : Except Raised (Option NotEnoughReservedInstances) := do
  let purchasedCount ← Raised.required .keyError (purchased.get? option.name)
  let totalRunningInstances : ℤ := (listInstances ctx option.name).length
  let desired ← desiredCount ctx ondemandNodes baseWeight option.weightedCapacity
  .ok (if totalRunningInstances + desired > purchasedCount then
      some ⟨option.name, purchasedCount, totalRunningInstances, desired⟩
    else none)

def checkPurchased (job : SocaJob) (instanceTypes : List String) (ondemandNodes : ℤ)
    (purchased : PurchasedCounts) : Except Raised Unit := do
  let notPurchased := instanceTypes.filter fun instanceType => !purchased.has (some instanceType)
  if notPurchased ≠ [] then
    .error (.soca ErrorCodes.EC2_RESERVED_INSTANCES_NOT_PURCHASED
      ("could not find any reservations purchased for instance types: [" ++
        ", ".intercalate notPurchased ++ "]"))
  else do
    let base ← job.defaultInstanceTypeOption
    let options := (job.provisioningOptions.bind (·.instanceTypes)).getD []
    let entries ← options.mapM (checkOption ctx purchased ondemandNodes base.weightedCapacity)
    let notEnough := entries.filterMap id
    if notEnough ≠ [] then
      .error (.soca ErrorCodes.EC2_RESERVED_INSTANCES_NOT_AVAILABLE
        ("Not enough reserved capacity available: \n" ++
          String.join (notEnough.map NotEnoughReservedInstances.text)))
    else .ok ()

def checkReservedInstanceUsage (jobs : List SocaJob) : Except Raised Unit := do
  if !(← forcesReserved jobs) then .ok ()
  else do
    let ondemandNodes ← totalOndemandNodes jobs
    if ondemandNodes = 0 then .ok ()
    else do
      let job ← Raised.required .indexError jobs.head?
      let params ← Raised.required .attributeError job.params
      let instanceTypes ← Raised.required .typeError params.instanceTypes
      let (purchased, _) ← AWSUtil.ec2DescribeReservedInstances ctx.cache
        ctx.describeReservedInstances instanceTypes
      checkPurchased ctx job instanceTypes ondemandNodes purchased

end JobProvisioningUtil

section Counting

variable {instanceTypes : List String} {reservations : List ReservedInstances}
  {response : PurchasedCounts}

def reservedCount (reservations : List ReservedInstances) (instanceType : String) : ℤ :=
  ((reservations.filter fun r => decide (r.type = some instanceType)).map
    ReservedInstances.count).sum

def NotRequested (instanceTypes : List String) (reservation : ReservedInstances) : Prop :=
  ∀ instanceType ∈ instanceTypes, reservation.type ≠ some instanceType

theorem reservedCount_eq_zero (h : ∀ r ∈ reservations, NotRequested instanceTypes r)
    {instanceType : String} (ht : instanceType ∈ instanceTypes) :
    reservedCount reservations instanceType = 0 := by
  have hnone : reservations.filter (fun r => decide (r.type = some instanceType)) = [] := by
    rw [List.filter_eq_nil_iff]
    intro r hr
    simpa using h r hr instanceType ht
  rw [reservedCount, hnone, List.map_nil, List.sum_nil]

/-- An answer without an entry for a requested type. -/
def NoEntry (instanceTypes : List String) (response : PurchasedCounts) : Prop :=
  ∀ instanceType ∈ instanceTypes, response.get? (some instanceType) = none

namespace AWSUtil

theorem mem_map_some_iff {reservation : ReservedInstances} :
    reservation.type ∈ instanceTypes.map some ↔ ¬ NotRequested instanceTypes reservation := by
  simp only [List.mem_map, NotRequested, ne_eq, not_forall, not_not, exists_prop]
  exact ⟨fun ⟨t, ht, h⟩ => ⟨t, ht, h.symm⟩, fun ⟨t, ht, h⟩ => ⟨t, ht, h.symm⟩⟩

theorem countReservation_eq_ok_iff (h : NoEntry instanceTypes response)
    {reservation : ReservedInstances} {response' : PurchasedCounts} :
    countReservation instanceTypes response reservation = .ok response' ↔
      NotRequested instanceTypes reservation ∧
        response' = response.set reservation.type reservation.count := by
  unfold countReservation
  by_cases hreq : reservation.type ∈ instanceTypes.map some
  · obtain ⟨t, ht, hty⟩ := List.mem_map.mp hreq
    have hkey : response.get? reservation.type = none := hty ▸ h t ht
    rw [if_pos hreq, Raised.bind_eq_ok]
    constructor
    · rintro ⟨count, hcount, -⟩
      rw [hkey, Raised.required_eq_ok] at hcount
      contradiction
    · rintro ⟨hnot, -⟩
      exact absurd hnot (mem_map_some_iff.mp hreq)
  · rw [if_neg hreq, Except.ok.injEq]
    have hnot : NotRequested instanceTypes reservation := by
      by_contra hn
      exact hreq (mem_map_some_iff.mpr hn)
    constructor
    · rintro rfl
      exact ⟨hnot, rfl⟩
    · rintro ⟨-, rfl⟩
      rfl

theorem noEntry_set (h : NoEntry instanceTypes response) {reservation : ReservedInstances}
    (hnot : NotRequested instanceTypes reservation) :
    NoEntry instanceTypes (response.set reservation.type reservation.count) := by
  intro t ht
  rw [response.get?_set_ne (hnot t ht).symm, h t ht]

theorem foldlM_countReservation_iff (h : NoEntry instanceTypes response) :
    (∃ response', reservations.foldlM (countReservation instanceTypes) response = .ok response') ↔
      ∀ r ∈ reservations, NotRequested instanceTypes r := by
  induction reservations generalizing response with
  | nil => simp [pure, Except.pure]
  | cons r reservations ih =>
    simp only [List.foldlM_cons, Raised.bind_eq_ok, countReservation_eq_ok_iff h,
      List.forall_mem_cons]
    constructor
    · rintro ⟨response', _, ⟨hnot, rfl⟩, hrest⟩
      exact ⟨hnot, (ih (noEntry_set h hnot)).mp ⟨response', hrest⟩⟩
    · rintro ⟨hnot, hrest⟩
      obtain ⟨response', h'⟩ := (ih (noEntry_set h hnot)).mpr hrest
      exact ⟨response', _, ⟨hnot, rfl⟩, h'⟩

theorem countReservations_iff :
    (∃ response, countReservations instanceTypes reservations = .ok response) ↔
      ∀ r ∈ reservations, NotRequested instanceTypes r :=
  foldlM_countReservation_iff fun _ _ => Dict.get?_empty _

theorem noEntry_of_countReservations
    (h : countReservations instanceTypes reservations = .ok response) :
    NoEntry instanceTypes response := by
  refine Raised.foldlM_invariant (NoEntry instanceTypes) h (fun _ _ => Dict.get?_empty _) ?_
  intro r _ before after hbefore hstep
  obtain ⟨hnot, rfl⟩ := (countReservation_eq_ok_iff hbefore).mp hstep
  exact noEntry_set hbefore hnot

end AWSUtil

end Counting

section Claimed

variable (ctx : ReservedInstancesContext)

open AWSUtil JobProvisioningUtil

def ReservedInstancesContext.purchased (instanceTypes : List String) :
    Except Raised PurchasedCounts :=
  (ec2DescribeReservedInstances ctx.cache ctx.describeReservedInstances instanceTypes).map Prod.fst

/-- Whatever reservations AWS lists, a request gets the sum of the counts of each type it asks
for, unless an earlier answer is still cached. -/
def SumsReserved (instanceTypes : List String) : Prop :=
  ∀ reservations, ctx.describeReservedInstances instanceTypes = .ok (some reservations) →
    ∃ response, ctx.purchased instanceTypes = .ok response ∧
      (ctx.cache.get? (cacheKey instanceTypes) = some response ∨
        ∀ instanceType ∈ instanceTypes,
          (response.get? (some instanceType)).getD 0 = reservedCount reservations instanceType)

def runningInstances (instanceType : Option String) : List EC2Instance :=
  (listInstances ctx instanceType).filter fun instance_ =>
    decide (instance_.state = some "pending" ∨ instance_.state = some "running")

/-- The reserved instances of each type of a batch cover its running instances and its nodes. -/
def Covered (jobs : List SocaJob) (ondemandNodes : ℤ) : Prop :=
  ∃ job params instanceTypes base response, jobs.head? = some job ∧ job.params = some params ∧
    params.instanceTypes = some instanceTypes ∧ job.defaultInstanceTypeOption = .ok base ∧
    ctx.purchased instanceTypes = .ok response ∧
    ∀ option ∈ (job.provisioningOptions.bind (·.instanceTypes)).getD [],
      ∃ purchasedCount desired, response.get? option.name = some purchasedCount ∧
        desiredCount ctx ondemandNodes base.weightedCapacity option.weightedCapacity = .ok desired ∧
        desired ≤ purchasedCount - (runningInstances ctx option.name).length

/-- A batch that forces reserved instances is allowed only if they cover its on-demand nodes. -/
def AllowsCovered : Prop :=
  ∀ jobs, checkReservedInstanceUsage ctx jobs = .ok () →
    forcesReserved jobs = .ok false ∨
      ∃ ondemandNodes, totalOndemandNodes jobs = .ok ondemandNodes ∧
        (ondemandNodes = 0 ∨ Covered ctx jobs ondemandNodes)

variable {ctx} {instanceTypes : List String} {jobs : List SocaJob}

theorem purchased_of_cached {response : PurchasedCounts}
    (h : ctx.cache.get? (cacheKey instanceTypes) = some response) :
    ctx.purchased instanceTypes = .ok response := by
  rw [ReservedInstancesContext.purchased, ec2DescribeReservedInstances, h]
  rfl

theorem purchased_eq_ok_iff (h : ctx.cache.get? (cacheKey instanceTypes) = none)
    {reservations : List ReservedInstances}
    (hlisted : ctx.describeReservedInstances instanceTypes = .ok (some reservations))
    {response : PurchasedCounts} : ctx.purchased instanceTypes = .ok response ↔
      countReservations instanceTypes reservations = .ok response := by
  rw [ReservedInstancesContext.purchased, ec2DescribeReservedInstances, h]
  simp only [hlisted, Raised.ok_bind, Option.getD_some]
  cases countReservations instanceTypes reservations <;>
    simp [bind, Except.bind, Except.map]

theorem sumsReserved_iff : SumsReserved ctx instanceTypes ↔
    (ctx.cache.get? (cacheKey instanceTypes)).isSome = true ∨
      ∀ reservations, ctx.describeReservedInstances instanceTypes = .ok (some reservations) →
        ∀ reservation ∈ reservations, NotRequested instanceTypes reservation := by
  cases hcache : ctx.cache.get? (cacheKey instanceTypes) with
  | some response =>
    refine iff_of_true ?_ (Or.inl rfl)
    intro reservations _
    exact ⟨response, purchased_of_cached hcache, Or.inl hcache⟩
  | none =>
    simp only [Option.isSome_none, Bool.false_eq_true, false_or]
    constructor
    · intro h reservations hlisted
      obtain ⟨response, hresponse, -⟩ := h reservations hlisted
      exact countReservations_iff.mp ⟨response, (purchased_eq_ok_iff hcache hlisted).mp hresponse⟩
    · intro h reservations hlisted
      have hnot := h reservations hlisted
      obtain ⟨response, hresponse⟩ := countReservations_iff.mpr hnot
      refine ⟨response, (purchased_eq_ok_iff hcache hlisted).mpr hresponse, Or.inr ?_⟩
      intro instanceType ht
      rw [noEntry_of_countReservations hresponse instanceType ht, reservedCount_eq_zero hnot ht]
      rfl

theorem checkOption_eq_none {purchased : PurchasedCounts} {ondemandNodes : ℤ}
    {baseWeight : Option ℤ} {option : SocaInstanceTypeOptions}
    (h : checkOption ctx purchased ondemandNodes baseWeight option = .ok none) :
    ∃ purchasedCount desired, purchased.get? option.name = some purchasedCount ∧
      desiredCount ctx ondemandNodes baseWeight option.weightedCapacity = .ok desired ∧
      desired ≤ purchasedCount - (listInstances ctx option.name).length := by
  unfold checkOption at h
  obtain ⟨purchasedCount, hcount, h⟩ := Raised.bind_eq_ok.mp h
  obtain ⟨desired, hdesired, h⟩ := Raised.bind_eq_ok.mp h
  refine ⟨purchasedCount, desired, Raised.required_eq_ok.mp hcount, hdesired, ?_⟩
  rw [Except.ok.injEq] at h
  split at h
  · cases h
  · omega

theorem length_runningInstances_le (ctx : ReservedInstancesContext)
    (instanceType : Option String) :
    (runningInstances ctx instanceType).length ≤ (listInstances ctx instanceType).length :=
  List.length_filter_le _ _

theorem covered_of_checkPurchased {job : SocaJob} {ondemandNodes : ℤ}
    {purchased : PurchasedCounts}
    (h : checkPurchased ctx job instanceTypes ondemandNodes purchased = .ok ()) :
    ∃ base, job.defaultInstanceTypeOption = .ok base ∧
      ∀ option ∈ (job.provisioningOptions.bind (·.instanceTypes)).getD [],
        checkOption ctx purchased ondemandNodes base.weightedCapacity option = .ok none := by
  unfold checkPurchased at h
  dsimp only at h
  split at h
  · cases h
  · obtain ⟨base, hbase, h⟩ := Raised.bind_eq_ok.mp h
    obtain ⟨entries, hentries, h⟩ := Raised.bind_eq_ok.mp h
    refine ⟨base, hbase, fun option hoption => ?_⟩
    split at h
    · cases h
    · rename_i hnone
      rw [not_not] at hnone
      obtain ⟨entry, hentry, hcheck⟩ := (Settings.mem_of_mapM hentries).2 option hoption
      cases entry with
      | none => exact hcheck
      | some entry =>
        have hmem : entry ∈ entries.filterMap id := by simpa using hentry
        rw [hnone] at hmem
        cases hmem

theorem allowsCovered : AllowsCovered ctx := by
  intro jobs h
  unfold checkReservedInstanceUsage at h
  obtain ⟨forced, hforced, h⟩ := Raised.bind_eq_ok.mp h
  cases forced with
  | false => exact Or.inl hforced
  | true =>
    obtain ⟨ondemandNodes, hnodes, h⟩ := Raised.bind_eq_ok.mp h
    refine Or.inr ⟨ondemandNodes, hnodes, ?_⟩
    by_cases hzero : ondemandNodes = 0
    · exact Or.inl hzero
    · rw [if_neg hzero] at h
      obtain ⟨job, hjob, h⟩ := Raised.bind_eq_ok.mp h
      obtain ⟨params, hparams, h⟩ := Raised.bind_eq_ok.mp h
      obtain ⟨instanceTypes, htypes, h⟩ := Raised.bind_eq_ok.mp h
      obtain ⟨⟨purchased, cache⟩, hpurchased, h⟩ := Raised.bind_eq_ok.mp h
      obtain ⟨base, hbase, hoptions⟩ := covered_of_checkPurchased h
      refine Or.inr ⟨job, params, instanceTypes, base, purchased, Raised.required_eq_ok.mp hjob,
        Raised.required_eq_ok.mp hparams, Raised.required_eq_ok.mp htypes, hbase, ?_, ?_⟩
      · rw [ReservedInstancesContext.purchased, hpurchased]
        rfl
      · intro option hoption
        obtain ⟨purchasedCount, desired, hcount, hdesired, hle⟩ :=
          checkOption_eq_none (hoptions option hoption)
        have hrunning := length_runningInstances_le ctx option.name
        exact ⟨purchasedCount, desired, hcount, hdesired, by omega⟩

/-- The counts are right, and the check relies on them, unless AWS lists reservations of a
requested type. -/
theorem countsReserved_iff (ctx : ReservedInstancesContext) (instanceTypes : List String) :
    (SumsReserved ctx instanceTypes ∧ AllowsCovered ctx) ↔
      (ctx.cache.get? (cacheKey instanceTypes)).isSome = true ∨
        ∀ reservations, ctx.describeReservedInstances instanceTypes = .ok (some reservations) →
          ∀ reservation ∈ reservations, NotRequested instanceTypes reservation := by
  rw [← sumsReserved_iff]
  exact and_iff_left allowsCovered

def twoReserved : ReservedInstancesContext where
  cache := ∅
  describeReservedInstances _ :=
    .ok (some [{ instanceType := some "c5.large", instanceCount := some 2 }])
  instances := []
  double := id

theorem not_countsReserved_two :
    ¬ (SumsReserved twoReserved ["c5.large"] ∧ AllowsCovered twoReserved) := by
  rintro ⟨h, -⟩
  rcases sumsReserved_iff.mp h with hcached | hnot
  · cases hcached
  · have htype : ReservedInstances.type
        { instanceType := some "c5.large", instanceCount := some 2 } = some "c5.large" := by
      decide +kernel
    exact hnot _ rfl _ List.mem_cons_self "c5.large" List.mem_cons_self htype

end Claimed

end Idea

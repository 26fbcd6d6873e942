import Idea.JobMonitor.Pricing

/-! # The time a job is billed for

The running time of a finished job is the seconds of a time difference, which start again at every
day. Up to a day it is the whole time, and what is estimated for the job then grows with its end.
-/

namespace Idea

/-- If the later computation ends normally then so does the earlier one, with a related result. -/
def Raised.Below {α : Type} (r : α → α → Prop) (x y : Except Raised α) : Prop :=
  ∀ b, y = .ok b → ∃ a, x = .ok a ∧ r a b

namespace Raised.Below

variable {α β : Type} {r : α → α → Prop} {q : β → β → Prop} {x y : Except Raised α}

theorem of_ok {a b : α} (h : r a b) : Raised.Below r (.ok a) (.ok b) := by
  intro b' hb
  obtain rfl := Except.ok.inj hb
  exact ⟨a, rfl, h⟩

theorem bind {f g : α → Except Raised β} (h : Raised.Below r x y)
    (hf : ∀ a b, r a b → Raised.Below q (f a) (g b)) : Raised.Below q (x >>= f) (y >>= g) := by
  intro b hb
  obtain ⟨a', hy, hg⟩ := Raised.bind_eq_ok.mp hb
  obtain ⟨a, hx, ha⟩ := h a' hy
  obtain ⟨b', hfa, hrel⟩ := hf a a' ha b hg
  exact ⟨b', Raised.bind_eq_ok.mpr ⟨a, hx, hfa⟩, hrel⟩

theorem bind_same {x : Except Raised α} {f g : α → Except Raised β}
    (hf : ∀ a, x = .ok a → Raised.Below q (f a) (g a)) :
    Raised.Below q (x >>= f) (x >>= g) := by
  intro b hb
  obtain ⟨a, hx, hg⟩ := Raised.bind_eq_ok.mp hb
  obtain ⟨b', hfa, hrel⟩ := hf a hx b hg
  exact ⟨b', Raised.bind_eq_ok.mpr ⟨a, hx, hfa⟩, hrel⟩

end Raised.Below

namespace SocaJobEstimatedBOMCost

structure ItemLe (item item' : SocaJobEstimatedBOMCostLineItem) : Prop where
  service : item.service = item'.service
  title : item.title = item'.title
  unitPrice : item.unitPrice = item'.unitPrice
  totalPrice : item.totalPrice ≤ item'.totalPrice

/-- The same items, none at a lower cost. -/
structure CostLe (bom bom' : SocaJobEstimatedBOMCost) : Prop where
  lineItems : List.Forall₂ ItemLe bom.lineItems bom'.lineItems
  lineItemsTotal : bom.lineItemsTotal ≤ bom'.lineItemsTotal

def operations : List Char := "scratch_storage_".toList

/-- The product is the same too and is not that of provisioned operations. -/
structure ProductLe (item item' : SocaJobEstimatedBOMCostLineItem) : Prop
    extends ItemLe item item' where
  product : item.product = item'.product
  plain : item.product.toList.take 16 ≠ operations

/-- Two bills whose items can be told apart by the same products. -/
structure Aligned (bom bom' : SocaJobEstimatedBOMCost) : Prop where
  lineItems : List.Forall₂ ProductLe bom.lineItems bom'.lineItems
  total : bom.lineItemsTotal = (bom.lineItems.map (·.totalPrice)).sum
  total' : bom'.lineItemsTotal = (bom'.lineItems.map (·.totalPrice)).sum

variable {items items' : List SocaJobEstimatedBOMCostLineItem}

theorem sum_le_of_forall₂ (h : List.Forall₂ ItemLe items items') :
    (items.map (·.totalPrice)).sum ≤ (items'.map (·.totalPrice)).sum := by
  induction h with
  | nil => exact le_rfl
  | cons hitem _ ih =>
    simp only [List.map_cons, List.sum_cons]
    exact add_le_add hitem.totalPrice ih

variable {bom bom' : SocaJobEstimatedBOMCost} {item item' : SocaJobEstimatedBOMCostLineItem}

theorem Aligned.costLe (h : Aligned bom bom') : CostLe bom bom' := by
  have hitems : List.Forall₂ ItemLe bom.lineItems bom'.lineItems :=
    h.lineItems.imp fun _ _ hitem => hitem.toItemLe
  refine ⟨hitems, ?_⟩
  rw [h.total, h.total']
  exact sum_le_of_forall₂ hitems

theorem putItem_aligned (h : List.Forall₂ ProductLe items items') (hitem : ProductLe item item') :
    List.Forall₂ ProductLe (putItem item items) (putItem item' items') := by
  induction h with
  | nil => exact .cons hitem .nil
  | cons hexisting hrest ih =>
    simp only [putItem, hexisting.service, hexisting.product, hitem.service, hitem.product]
    split
    · exact .cons hitem hrest
    · exact .cons hexisting ih

theorem putItem_of_fresh {items : List SocaJobEstimatedBOMCostLineItem}
    (h : ∀ existing ∈ items, existing.product ≠ item.product) :
    putItem item items = items ++ [item] := by
  induction items with
  | nil => rfl
  | cons existing items ih =>
    rw [List.forall_mem_cons] at h
    rw [putItem, if_neg fun hsame => h.1 hsame.2, ih h.2, List.cons_append]

variable {title service product unit : String} {quantity quantity' : ℚ} {unitPrice : Option ℚ}

theorem buildLineItem_below (hprice : ∀ price ∈ unitPrice, 0 ≤ price) (h : quantity ≤ quantity')
    (hplain : product.toList.take 16 ≠ operations) :
    Raised.Below ProductLe (buildLineItem title service product unit quantity unitPrice)
      (buildLineItem title service product unit quantity' unitPrice) := by
  refine .bind_same fun price hrequired => .of_ok ?_
  have hnonneg := hprice price (Raised.required_eq_ok.mp hrequired)
  constructor
  case toItemLe => exact ⟨rfl, rfl, rfl, mul_le_mul_of_nonneg_left h hnonneg⟩
  case product => rfl
  case plain => exact hplain

theorem addLineItem_below (hbom : Aligned bom bom') (hprice : ∀ price ∈ unitPrice, 0 ≤ price)
    (h : quantity ≤ quantity') (hplain : product.toList.take 16 ≠ operations) :
    Raised.Below Aligned (bom.addLineItem title service product unit quantity unitPrice)
      (bom'.addLineItem title service product unit quantity' unitPrice) := by
  refine (buildLineItem_below hprice h hplain).bind fun item item' hitem => .of_ok ?_
  exact ⟨putItem_aligned hbom.lineItems hitem, rfl, rfl⟩

theorem addSavings_below {unitPrice unitPrice' : ℚ} (hbom : Aligned bom bom') :
    Raised.Below Aligned (bom.addSavings title service product unit quantity (some unitPrice))
      (bom'.addSavings title service product unit quantity' (some unitPrice')) := by
  refine .of_ok ?_
  exact ⟨hbom.lineItems, rfl, rfl⟩

theorem plain_of_forall₂ (h : List.Forall₂ ProductLe items items') :
    (∀ item ∈ items, item.product.toList.take 16 ≠ operations) ∧
      ∀ item ∈ items', item.product.toList.take 16 ≠ operations := by
  induction h with
  | nil => exact ⟨fun _ h => absurd h List.not_mem_nil, fun _ h => absurd h List.not_mem_nil⟩
  | cons hitem _ ih =>
    rw [List.forall_mem_cons, List.forall_mem_cons]
    exact ⟨⟨hitem.plain, ih.1⟩, hitem.product ▸ hitem.plain, ih.2⟩

theorem addLineItem_of_fresh {title service product unit : String} {quantity price : ℚ}
    (h : ∀ existing ∈ bom.lineItems, existing.product ≠ product) :
    ∃ result, bom.addLineItem title service product unit quantity (some price) = .ok result ∧
      result.lineItems = bom.lineItems ++
        [⟨title, service, product, unit, quantity, price, price * quantity⟩] ∧
      result.lineItemsTotal = (result.lineItems.map (·.totalPrice)).sum :=
  ⟨_, rfl, putItem_of_fresh h, rfl⟩

theorem addOperations_below {title service unit : String} {quantity quantity' : ℤ}
    (hbom : Aligned bom bom') (hprice : ∀ price ∈ unitPrice, 0 ≤ price) (h : quantity ≤ quantity') :
    Raised.Below CostLe
      (bom.addLineItem title service ("scratch_storage_iops=" ++ toString quantity) unit quantity
        unitPrice)
      (bom'.addLineItem title service ("scratch_storage_iops=" ++ toString quantity') unit
        quantity' unitPrice) := by
  have hprefix : ∀ quantity : ℤ,
      ("scratch_storage_iops=" ++ toString quantity).toList.take 16 = operations := by
    intro quantity
    rw [String.toList_append, List.take_append_of_le_length (by decide)]
    rfl
  obtain ⟨hplain, hplain'⟩ := plain_of_forall₂ hbom.lineItems
  intro result' hresult'
  cases unitPrice with
  | none => cases hresult'
  | some price =>
    obtain ⟨result, hadd, hitems, htotal⟩ :=
      @addLineItem_of_fresh bom title service _ unit quantity price
        fun existing hmem heq => hplain existing hmem (heq ▸ hprefix quantity)
    obtain ⟨added, hadd', hitems', htotal'⟩ :=
      @addLineItem_of_fresh bom' title service _ unit quantity' price
        fun existing hmem heq => hplain' existing hmem (heq ▸ hprefix quantity')
    obtain rfl := Except.ok.inj (hadd'.symm.trans hresult')
    have hcost : price * (quantity : ℚ) ≤ price * quantity' :=
      mul_le_mul_of_nonneg_left (by exact_mod_cast h) (hprice price rfl)
    have hle : List.Forall₂ ItemLe result.lineItems added.lineItems := by
      rw [hitems, hitems']
      refine List.rel_append (hbom.lineItems.imp fun _ _ hitem => hitem.toItemLe) ?_
      exact .cons ⟨rfl, rfl, rfl, hcost⟩ .nil
    refine ⟨result, hadd, hle, ?_⟩
    rw [htotal, htotal']
    exact sum_le_of_forall₂ hle

end SocaJobEstimatedBOMCost

theorem roundTo_mono {decimals : ℕ} {value value' : ℚ} (h : value ≤ value') :
    roundTo decimals value ≤ roundTo decimals value' := by
  have hpos : (0 : ℚ) ≤ 10 ^ decimals := by positivity
  have hround := Decimal.roundHalfEven_mono (mul_le_mul_of_nonneg_right h hpos)
  exact div_le_div_of_nonneg_right (by exact_mod_cast hround) hpos

theorem SocaMemory.truncate_nonneg {value : ℚ} (h : 0 ≤ value) : 0 ≤ SocaMemory.truncate value :=
  Int.tdiv_nonneg (Rat.num_nonneg.mpr h) (Int.natCast_nonneg _)

namespace PricingHelper

open SocaJobEstimatedBOMCost

/-- No price, size or number of nodes is negative. -/
structure NotNegative (context : PricingContext) (job : SocaJob) : Prop where
  ebsGp3Storage : ∀ price ∈ context.config.ebsGp3Storage, 0 ≤ price
  ebsIo1Storage : ∀ price ∈ context.config.ebsIo1Storage, 0 ≤ price
  provisionedIops : ∀ price ∈ context.config.provisionedIops, 0 ≤ price
  fsxLustre : ∀ price ∈ context.config.fsxLustre, 0 ≤ price
  defaultFsxLustreSize : ∀ size ∈ context.config.defaultFsxLustreSize, 0 ≤ size
  ondemand : ∀ instanceType unitPrice,
    context.getEc2InstanceTypeUnitPrice instanceType = .ok (some unitPrice) →
      ∀ price ∈ unitPrice.ondemand, 0 ≤ price
  spotPrice : ∀ params ∈ job.params, ∀ price ∈ params.spotPrice, 0 ≤ price.amount
  desiredNodes : ∀ nodes, job.desiredNodes = .ok nodes → 0 ≤ nodes
  rootStorageSize : ∀ params ∈ job.params, ∀ size ∈ params.rootStorageSize, 0 ≤ size.value
  fsxLustreSize : ∀ params ∈ job.params, ∀ fsxLustre ∈ params.fsxLustre,
    ∀ size ∈ fsxLustre.size, 0 ≤ size.value

variable {context : PricingContext} {job : SocaJob} {t t' : ℤ}
  {bom bom' : SocaJobEstimatedBOMCost}

theorem totalTimeSeconds_below (h : t ≤ t') : Raised.Below (· ≤ ·)
    (totalTimeSeconds ⟨context, job, t⟩) (totalTimeSeconds ⟨context, job, t'⟩) :=
  .bind_same fun _ _ => .of_ok (add_le_add_left h _)

theorem totalTimeHours_below (h : t ≤ t') : Raised.Below (· ≤ ·)
    (totalTimeHours ⟨context, job, t⟩) (totalTimeHours ⟨context, job, t'⟩) := by
  refine (totalTimeSeconds_below h).bind fun seconds seconds' hle => .of_ok ?_
  have hcast : (seconds : ℚ) ≤ seconds' := by exact_mod_cast hle
  exact div_le_div_of_nonneg_right hcast (by norm_num)

theorem storageQuantity_below (hjob : NotNegative context job) (h : t ≤ t') {size : SocaMemory}
    (hsize : 0 ≤ size.value) : Raised.Below (· ≤ ·)
    (storageQuantity ⟨context, job, t⟩ size) (storageQuantity ⟨context, job, t'⟩ size) := by
  refine (totalTimeSeconds_below h).bind fun seconds seconds' hle => ?_
  refine .bind_same fun nodes hnodes => .of_ok (roundTo_mono ?_)
  have hcast : (seconds : ℚ) ≤ seconds' := by exact_mod_cast hle
  have hsize' : (0 : ℚ) ≤ SocaMemory.truncate size.value := by
    exact_mod_cast SocaMemory.truncate_nonneg hsize
  have hnodes' : (0 : ℚ) ≤ nodes := by exact_mod_cast hjob.desiredNodes nodes hnodes
  have hmonth : (0 : ℚ) ≤ TOTAL_SECONDS_IN_MONTH := by norm_num [TOTAL_SECONDS_IN_MONTH]
  gcongr

theorem scratchStorageIopsQuantity_below (hjob : NotNegative context job) (h : t ≤ t') {iops : ℤ}
    (hiops : 0 < iops) : Raised.Below (· ≤ ·)
    (scratchStorageIopsQuantity ⟨context, job, t⟩ iops)
    (scratchStorageIopsQuantity ⟨context, job, t'⟩ iops) := by
  refine .bind_same fun nodes hnodes => ?_
  refine (totalTimeSeconds_below h).bind fun seconds seconds' hle => .of_ok ?_
  have hcast : (seconds : ℚ) ≤ seconds' := by exact_mod_cast hle
  have hiops' : (0 : ℚ) ≤ iops := by exact_mod_cast hiops.le
  have hnodes' : (0 : ℚ) ≤ nodes := by exact_mod_cast hjob.desiredNodes nodes hnodes
  have hmonth : (0 : ℚ) ≤ TOTAL_SECONDS_IN_MONTH := by norm_num [TOTAL_SECONDS_IN_MONTH]
  apply Decimal.roundHalfEven_mono
  gcongr

theorem fsxLustreQuantity_below (h : t ≤ t') {size : SocaMemory} (hsize : 0 ≤ size.value) :
    Raised.Below (· ≤ ·) (fsxLustreQuantity ⟨context, job, t⟩ size)
      (fsxLustreQuantity ⟨context, job, t'⟩ size) := by
  unfold fsxLustreQuantity
  split
  · exact .of_ok le_rfl
  · refine (totalTimeHours_below h).bind fun hours hours' hle => .of_ok ?_
    have hsize' : (0 : ℚ) ≤ SocaMemory.truncate size.value := by
      exact_mod_cast SocaMemory.truncate_nonneg hsize
    exact mul_le_mul_of_nonneg_left hle hsize'

theorem instance_plain (rest : String) :
    ("instance_type=" ++ rest).toList.take 16 ≠ operations := by
  intro h
  rw [String.toList_append] at h
  have hhead : some 'i' = some 's' := congrArg List.head? h
  cases hhead

theorem addOndemand_below (hjob : NotNegative context job) (h : t ≤ t') {instanceType : String}
    {unitPrice : Option EC2InstanceUnitPrice}
    (hprice : context.getEc2InstanceTypeUnitPrice instanceType = .ok unitPrice)
    (hbom : Aligned bom bom') : Raised.Below Aligned
    (addOndemand ⟨context, job, t⟩ instanceType unitPrice bom)
    (addOndemand ⟨context, job, t'⟩ instanceType unitPrice bom') := by
  refine .bind_same fun nodes hnodes => ?_
  split
  · rename_i hpos
    refine (totalTimeHours_below h).bind fun hours hours' hle => ?_
    refine .bind_same fun price hsome => ?_
    obtain rfl := Raised.required_eq_ok.mp hsome
    have hquantity : hours * (nodes : ℚ) ≤ hours' * nodes :=
      mul_le_mul_of_nonneg_right hle (by exact_mod_cast hpos.le)
    refine (addLineItem_below hbom (hjob.ondemand _ _ hprice) hquantity ?_).bind
      fun bom bom' hbom => ?_
    · rw [String.append_assoc]
      exact instance_plain _
    · exact .bind_same fun ondemand _ => .bind_same fun reserved _ => addSavings_below hbom
  · exact .of_ok hbom

theorem addSpot_below (hjob : NotNegative context job) (h : t ≤ t') {instanceType : String}
    {unitPrice : Option EC2InstanceUnitPrice}
    (hprice : context.getEc2InstanceTypeUnitPrice instanceType = .ok unitPrice)
    (hbom : Aligned bom bom') : Raised.Below Aligned
    (addSpot ⟨context, job, t⟩ instanceType unitPrice bom)
    (addSpot ⟨context, job, t'⟩ instanceType unitPrice bom') := by
  refine .bind_same fun nodes hnodes => ?_
  split
  · rename_i hpos
    refine (totalTimeHours_below h).bind fun hours hours' hle => ?_
    have hquantity : hours * (nodes : ℚ) ≤ hours' * nodes :=
      mul_le_mul_of_nonneg_right hle (by exact_mod_cast hpos.le)
    refine .bind_same fun spotPrice hspot => addLineItem_below hbom ?_ hquantity ?_
    · intro price hmem
      obtain rfl : spotPrice = some price := hmem
      obtain ⟨params, hparams, hspot⟩ := Raised.bind_eq_ok.mp hspot
      have hmem := Raised.required_eq_ok.mp hparams
      cases hgiven : params.spotPrice with
      | some amount =>
        rw [hgiven] at hspot
        obtain rfl := Option.some.inj (Except.ok.inj hspot)
        exact hjob.spotPrice params hmem amount hgiven
      | none =>
        rw [hgiven] at hspot
        obtain ⟨unit, hunit, hspot⟩ := Raised.bind_eq_ok.mp hspot
        obtain rfl := Raised.required_eq_ok.mp hunit
        exact hjob.ondemand _ _ hprice price (Except.ok.inj hspot)
    · rw [String.append_assoc]
      exact instance_plain _
  · exact .of_ok hbom

theorem addRootStorage_below (hjob : NotNegative context job) (h : t ≤ t')
    (hbom : Aligned bom bom') : Raised.Below Aligned
    (addRootStorage ⟨context, job, t⟩ bom) (addRootStorage ⟨context, job, t'⟩ bom') := by
  refine .bind_same fun size hsize => ?_
  obtain ⟨params, hparams, hsize⟩ := Raised.bind_eq_ok.mp hsize
  have hnonneg := hjob.rootStorageSize params (Raised.required_eq_ok.mp hparams) size
    (Raised.required_eq_ok.mp hsize)
  refine (storageQuantity_below hjob h hnonneg).bind fun quantity quantity' hle => ?_
  refine .bind_same fun nodes _ => ?_
  exact addLineItem_below hbom hjob.ebsGp3Storage hle (by decide)

theorem addFsxLustre_below (hjob : NotNegative context job) (h : t ≤ t')
    {fsxLustre : SocaFSxLustreConfig}
    (hfsx : PricingHelper.fsxLustre ⟨context, job, t⟩ = .ok fsxLustre)
    (hbom : Aligned bom bom') : Raised.Below Aligned
    (addFsxLustre ⟨context, job, t⟩ fsxLustre bom)
    (addFsxLustre ⟨context, job, t'⟩ fsxLustre bom') := by
  obtain ⟨params, hparams, hfsx⟩ := Raised.bind_eq_ok.mp hfsx
  refine .bind_same fun size hsize => ?_
  have hnonneg : 0 ≤ size.value := by
    unfold fsxLustreSize at hsize
    cases hgiven : fsxLustre.size with
    | some given =>
      rw [hgiven] at hsize
      obtain rfl := Except.ok.inj hsize
      exact hjob.fsxLustreSize params (Raised.required_eq_ok.mp hparams) fsxLustre
        (Raised.required_eq_ok.mp hfsx) given hgiven
    | none =>
      rw [hgiven] at hsize
      obtain ⟨value, hvalue, hsize⟩ := Raised.bind_eq_ok.mp hsize
      obtain rfl := Except.ok.inj hsize
      have hcast : (0 : ℚ) ≤ value := by
        exact_mod_cast hjob.defaultFsxLustreSize value (Raised.required_eq_ok.mp hvalue)
      exact hcast
  refine (fsxLustreQuantity_below h hnonneg).bind fun quantity quantity' hle => ?_
  exact addLineItem_below hbom hjob.fsxLustre hle (by decide)

theorem addScratchStorage_below (hjob : NotNegative context job) (h : t ≤ t')
    (hbom : Aligned bom bom') : Raised.Below CostLe
    (addScratchStorage ⟨context, job, t⟩ bom) (addScratchStorage ⟨context, job, t'⟩ bom') := by
  refine .bind_same fun size hsize => ?_
  dsimp only
  split
  · rename_i hpos
    have hnonneg : 0 ≤ size.value := (of_decide_eq_true hpos).le
    refine .bind_same fun params _ => ?_
    refine (storageQuantity_below hjob h hnonneg).bind fun quantity quantity' hle => ?_
    refine .bind_same fun iops _ => .bind_same fun nodes _ => ?_
    split
    · rename_i hiops
      refine (addLineItem_below hbom hjob.ebsIo1Storage hle (by decide)).bind
        fun bom bom' hbom => ?_
      refine (scratchStorageIopsQuantity_below hjob h hiops).bind fun quantity quantity' hle => ?_
      refine addOperations_below hbom ?_ hle
      intro price hprice
      obtain ⟨given, hgiven, rfl⟩ := Option.map_eq_some_iff.mp hprice
      exact_mod_cast hjob.provisionedIops given hgiven
    · have hprice : ∀ price ∈ (if iops = 0 then context.config.ebsGp3Storage
          else context.config.ebsIo1Storage), 0 ≤ price := by
        split
        · exact hjob.ebsGp3Storage
        · exact hjob.ebsIo1Storage
      intro result hresult
      obtain ⟨earlier, hearlier, hle⟩ := addLineItem_below hbom hprice hle (by decide) _ hresult
      exact ⟨earlier, hearlier, hle.costLe⟩
  · exact .of_ok hbom.costLe

theorem computeEstimatedBomCost_below (hjob : NotNegative context job) (h : t ≤ t') :
    Raised.Below CostLe (computeEstimatedBomCost ⟨context, job, t⟩)
      (computeEstimatedBomCost ⟨context, job, t'⟩) := by
  refine .bind_same fun instanceType _ => .bind_same fun unitPrice hprice => ?_
  have hempty : Aligned {} {} := ⟨.nil, rfl, rfl⟩
  refine (addOndemand_below hjob h hprice hempty).bind fun bom bom' hbom => ?_
  refine (addSpot_below hjob h hprice hbom).bind fun bom bom' hbom => ?_
  refine (addRootStorage_below hjob h hbom).bind fun bom bom' hbom => ?_
  refine .bind_same fun fsxLustre hfsx => ?_
  split
  · intro result hresult
    obtain ⟨earlier, hearlier, hle⟩ := addFsxLustre_below hjob h hfsx hbom _ hresult
    exact ⟨earlier, hearlier, hle.costLe⟩
  · exact addScratchStorage_below hjob h hbom

end PricingHelper

namespace FinishedJobProcessor

open SocaJobEstimatedBOMCost

def ranBetween (job : SocaJob) (startTime endTime : ℤ) : TimedJob :=
  ⟨job, some startTime, some endTime, none⟩

def process (context : PricingContext) (executionHosts : Except Raised Unit) (job : TimedJob) :
    TimedJob × Except Raised SocaJobEstimatedBOMCost :=
  let job := job.applyJobExecutionContext executionHosts
  (job, computeEstimatedCosts context job)

/-- The running time is all the whole seconds from the start to the end, and no earlier end makes
an item cost more. -/
def BilledInFull (context : PricingContext) (executionHosts : Except Raised Unit) (job : SocaJob)
    (startTime endTime : ℤ) : Prop :=
  (process context executionHosts (ranBetween job startTime endTime)).1.getTotalTimeSeconds =
      .ok (some ((endTime - startTime) / 1000000)) ∧
    ∀ earlier, startTime ≤ earlier → earlier ≤ endTime →
      Raised.Below CostLe
        (process context executionHosts (ranBetween job startTime earlier)).2
        (process context executionHosts (ranBetween job startTime endTime)).2

variable {context : PricingContext} {executionHosts : Except Raised Unit} {job : SocaJob}
  {startTime endTime : ℤ}

theorem getTotalTimeSeconds_process :
    (process context executionHosts (ranBetween job startTime endTime)).1.getTotalTimeSeconds =
      .ok (some (Timedelta.seconds (endTime - startTime))) := by
  cases executionHosts <;> rfl

theorem computeEstimatedCosts_process :
    (process context executionHosts (ranBetween job startTime endTime)).2 =
      PricingHelper.computeEstimatedBomCost
        ⟨context, job, pricedSeconds (some (Timedelta.seconds (endTime - startTime)))⟩ := by
  cases executionHosts <;> rfl

theorem pricedSeconds_mono {seconds seconds' : ℤ} (h : seconds ≤ seconds') :
    pricedSeconds (some seconds) ≤ pricedSeconds (some seconds') := by
  simp only [pricedSeconds]
  split_ifs <;> omega

/-- A job is billed in full exactly when it has run for less than a day. -/
theorem billedInFull_iff (hjob : PricingHelper.NotNegative context job)
    (h : startTime ≤ endTime) : BilledInFull context executionHosts job startTime endTime ↔
      (endTime - startTime) / 1000000 < 86400 := by
  unfold BilledInFull
  rw [getTotalTimeSeconds_process]
  constructor
  · rintro ⟨htime, -⟩
    have hseconds := Option.some.inj (Except.ok.inj htime)
    unfold Timedelta.seconds at hseconds
    omega
  · intro hday
    have hseconds : ∀ t, startTime ≤ t → t ≤ endTime →
        Timedelta.seconds (t - startTime) = (t - startTime) / 1000000 := by
      intro t hlow hhigh
      unfold Timedelta.seconds
      omega
    refine ⟨by rw [hseconds endTime h le_rfl], ?_⟩
    intro earlier hlow hhigh
    rw [computeEstimatedCosts_process, computeEstimatedCosts_process]
    apply PricingHelper.computeEstimatedBomCost_below hjob
    apply pricedSeconds_mono
    rw [hseconds earlier hlow hhigh, hseconds endTime h le_rfl]
    omega

def listPrices : PricingContext where
  config :=
    { ec2BootPenaltySeconds := some 300
      defaultFsxLustreSize := some 1200
      ebsGp3Storage := some (8 / 100)
      ebsIo1Storage := some (125 / 1000)
      provisionedIops := some 0
      fsxLustre := some (194 / 1000000) }
  getEc2InstanceTypeUnitPrice _ := .ok (some ⟨some (54 / 1000), some (85 / 1000)⟩)

def oneNode : SocaJob :=
  { params := some
      { nodes := some 1
        instanceTypes := some ["c5.large"]
        rootStorageSize := some ⟨10, .gb⟩
        scratchStorageSize := some ⟨0, .gb⟩
        scratchStorageIops := some 0
        fsxLustre := some { enabled := some false } } }

theorem notNegative_oneNode : PricingHelper.NotNegative listPrices oneNode where
  ebsGp3Storage := by rintro _ ⟨⟩; norm_num
  ebsIo1Storage := by rintro _ ⟨⟩; norm_num
  provisionedIops := by rintro _ ⟨⟩; rfl
  fsxLustre := by rintro _ ⟨⟩; norm_num
  defaultFsxLustreSize := by rintro _ ⟨⟩; norm_num
  ondemand := by rintro _ _ ⟨⟩ _ ⟨⟩; norm_num
  spotPrice := by rintro _ ⟨⟩ _ ⟨⟩
  desiredNodes := by rintro _ ⟨⟩; decide
  rootStorageSize := by rintro _ ⟨⟩ _ ⟨⟩; norm_num
  fsxLustreSize := by rintro _ ⟨⟩ _ ⟨⟩ _ ⟨⟩

theorem billedInFull_hour : BilledInFull listPrices (.ok ()) oneNode 0 3600000000 :=
  (billedInFull_iff notNegative_oneNode (by decide)).mpr (by decide)

/-- A job that has run for exactly a day has no running time. -/
theorem not_billedInFull_day : ¬ BilledInFull listPrices (.ok ()) oneNode 0 86400000000 := by
  rintro ⟨htime, -⟩
  rw [getTotalTimeSeconds_process] at htime
  have hseconds := Option.some.inj (Except.ok.inj htime)
  exact absurd hseconds (by decide)

end FinishedJobProcessor

end Idea

import Idea.Data.Timedelta
import Idea.Model.Memory

/-! # Estimated costs of a job

When a job has finished, its running time is read off its start and its end, raised to a minute
where it is shorter, and priced with what the job asked for: instances, volumes and file systems.
Amounts are exact here; only what the source rounds is rounded.
-/

namespace Idea

structure TimedJob where
  job : SocaJob
  startTime : Option ℤ
  endTime : Option ℤ
  totalTimeSecs : Option ℤ

/-- `ModelUtils.walltime_to_seconds` -/
def walltimeToSeconds (walltime : String) : Except Raised ℤ :=
  match (walltime.toList.splitOn ':').map String.ofList with
  | [hour, minute, seconds] => do
    let hour ← Raised.required .valueError (intOfText hour)
    let minute ← Raised.required .valueError (intOfText minute)
    let seconds ← Raised.required .valueError (intOfText seconds)
    .ok (hour * 3600 + minute * 60 + seconds)
  | _ => .error .valueError

namespace TimedJob

def getTotalTimeSeconds (self : TimedJob) : Except Raised (Option ℤ) :=
  match self.totalTimeSecs, self.startTime, self.endTime with
  | some totalTimeSecs, _, _ => .ok (some totalTimeSecs)
  | none, some startTime, some endTime => .ok (some (Timedelta.seconds (endTime - startTime)))
  | none, _, _ =>
    match self.job.params.bind SocaJobParams.walltime with
    | none => .ok none
    | some walltime => do
      let seconds ← walltimeToSeconds walltime
      .ok (some seconds)

/-- The job with its running time, which is left out where its hosts could not be looked up. -/
def applyJobExecutionContext (self : TimedJob) (executionHosts : Except Raised Unit) : TimedJob :=
  match executionHosts, self.startTime, self.endTime with
  | .ok _, some startTime, some endTime =>
    { self with totalTimeSecs := some (Timedelta.seconds (endTime - startTime)) }
  | _, _, _ => self

end TimedJob

structure SocaJobEstimatedBOMCostLineItem where
  title : String
  service : String
  product : String
  unit : String
  quantity : ℚ
  unitPrice : ℚ
  totalPrice : ℚ

structure SocaJobEstimatedBOMCost where
  lineItems : List SocaJobEstimatedBOMCostLineItem := []
  lineItemsTotal : ℚ := 0
  savings : List SocaJobEstimatedBOMCostLineItem := []
  savingsTotal : ℚ := 0
  total : ℚ := 0

namespace SocaJobEstimatedBOMCost

def buildLineItem (title service product unit : String) (quantity : ℚ) (unitPrice : Option ℚ) :
    Except Raised SocaJobEstimatedBOMCostLineItem := do
  let unitPrice ← Raised.required (invalidParams "line_item.unit_price is required") unitPrice
  .ok { title, service, product, unit, quantity, unitPrice, totalPrice := unitPrice * quantity }

def putItem (item : SocaJobEstimatedBOMCostLineItem) :
    List SocaJobEstimatedBOMCostLineItem → List SocaJobEstimatedBOMCostLineItem
  | [] => [item]
  | existing :: items =>
    if existing.service = item.service ∧ existing.product = item.product then item :: items
    else existing :: putItem item items

def computeTotal (self : SocaJobEstimatedBOMCost) : SocaJobEstimatedBOMCost :=
  let lineItemsTotal := (self.lineItems.map (·.totalPrice)).sum
  let savingsTotal := (self.savings.map (·.totalPrice)).sum
  { self with lineItemsTotal, savingsTotal, total := lineItemsTotal - savingsTotal }

def addLineItem (self : SocaJobEstimatedBOMCost) (title service product unit : String)
    (quantity : ℚ) (unitPrice : Option ℚ) : Except Raised SocaJobEstimatedBOMCost := do
  let item ← buildLineItem title service product unit quantity unitPrice
  .ok (computeTotal { self with lineItems := putItem item self.lineItems })

def addSavings (self : SocaJobEstimatedBOMCost) (title service product unit : String)
    (quantity : ℚ) (unitPrice : Option ℚ) : Except Raised SocaJobEstimatedBOMCost := do
  let item ← buildLineItem title service product unit quantity unitPrice
  .ok (computeTotal { self with savings := putItem item self.savings })

end SocaJobEstimatedBOMCost

structure EC2InstanceUnitPrice where
  reserved : Option ℚ
  ondemand : Option ℚ

structure CostEstimation where
  ec2BootPenaltySeconds : Option ℤ
  defaultFsxLustreSize : Option ℤ
  ebsGp3Storage : Option ℚ
  ebsIo1Storage : Option ℚ
  provisionedIops : Option ℤ
  fsxLustre : Option ℚ

structure PricingContext where
  config : CostEstimation
  getEc2InstanceTypeUnitPrice : String → Except Raised (Option EC2InstanceUnitPrice)

def TOTAL_SECONDS_IN_MONTH : ℚ := 60 * 60 * 24 * 30

/-- `round` to some decimals. -/
def roundTo (decimals : ℕ) (value : ℚ) : ℚ :=
  Decimal.roundHalfEven (value * 10 ^ decimals) / 10 ^ decimals

structure PricingHelper where
  context : PricingContext
  job : SocaJob
  totalTimeSecs : ℤ

namespace PricingHelper

open SocaJobEstimatedBOMCost

def params (self : PricingHelper) : Except Raised SocaJobParams :=
  Raised.required .attributeError self.job.params

def rootStorageSize (self : PricingHelper) : Except Raised SocaMemory := do
  let params ← self.params
  Raised.required .attributeError params.rootStorageSize

def scratchStorageSize (self : PricingHelper) : Except Raised SocaMemory := do
  let params ← self.params
  Raised.required .typeError params.scratchStorageSize

def fsxLustre (self : PricingHelper) : Except Raised SocaFSxLustreConfig := do
  let params ← self.params
  Raised.required .attributeError params.fsxLustre

def totalTimeSeconds (self : PricingHelper) : Except Raised ℤ := do
  let penalty ← Raised.required .typeError self.context.config.ec2BootPenaltySeconds
  .ok (self.totalTimeSecs + penalty)

def totalTimeHours (self : PricingHelper) : Except Raised ℚ := do
  let seconds ← self.totalTimeSeconds
  .ok (seconds / 3600)

def storageQuantity (self : PricingHelper) (size : SocaMemory) : Except Raised ℚ := do
  let seconds ← self.totalTimeSeconds
  let nodes ← self.job.desiredNodes
  .ok (roundTo 2 (SocaMemory.truncate size.value * seconds / TOTAL_SECONDS_IN_MONTH * nodes))

def scratchStorageIopsQuantity (self : PricingHelper) (scratchStorageIops : ℤ) :
    Except Raised ℤ := do
  let nodes ← self.job.desiredNodes
  let seconds ← self.totalTimeSeconds
  .ok (Decimal.roundHalfEven (scratchStorageIops * nodes * seconds / TOTAL_SECONDS_IN_MONTH))

def fsxLustreSize (self : PricingHelper) (fsxLustre : SocaFSxLustreConfig) :
    Except Raised SocaMemory :=
  match fsxLustre.size with
  | some size => .ok size
  | none => do
    let value ← Raised.required .validationError self.context.config.defaultFsxLustreSize
    .ok ⟨value, .gb⟩

def fsxLustreQuantity (self : PricingHelper) (size : SocaMemory) : Except Raised ℚ :=
  if size.value = 0 then .ok 0
  else do
    let hours ← self.totalTimeHours
    .ok (SocaMemory.truncate size.value * hours)

def ec2SpotUnitPrice (self : PricingHelper) (unitPrice : Option EC2InstanceUnitPrice) :
    Except Raised (Option ℚ) := do
  let params ← self.params
  match params.spotPrice with
  | some spotPrice => .ok (some spotPrice.amount)
  | none => do
    let unitPrice ← Raised.required .attributeError unitPrice
    .ok unitPrice.ondemand

def addOndemand (self : PricingHelper) (instanceType : String)
    (unitPrice : Option EC2InstanceUnitPrice) (bom : SocaJobEstimatedBOMCost) :
    Except Raised SocaJobEstimatedBOMCost := do
  let nodes ← self.job.ondemandNodes
  if 0 < nodes then do
    let hours ← self.totalTimeHours
    let unitPrice ← Raised.required .attributeError unitPrice
    let bom ← bom.addLineItem
      ("Compute On-Demand: (" ++ toString nodes ++ " x " ++ instanceType ++ ")") "aws.ec2"
      ("instance_type=" ++ instanceType ++ ",lifecycle=default") "per hour" (hours * nodes)
      unitPrice.ondemand
    let ondemand ← Raised.required .typeError unitPrice.ondemand
    let reserved ← Raised.required .typeError unitPrice.reserved
    bom.addSavings
      ("Compute Reserved: [1yr No Upfront] (" ++ toString nodes ++ " x " ++ instanceType ++ ")")
      "aws.ec2" ("instance_type=" ++ instanceType ++ ",lifecycle=default") "per hour"
      (hours * nodes) (some (ondemand - reserved))
  else .ok bom

def addSpot (self : PricingHelper) (instanceType : String)
    (unitPrice : Option EC2InstanceUnitPrice) (bom : SocaJobEstimatedBOMCost) :
    Except Raised SocaJobEstimatedBOMCost := do
  let nodes ← self.job.spotNodes
  if 0 < nodes then do
    let hours ← self.totalTimeHours
    let spotPrice ← self.ec2SpotUnitPrice unitPrice
    bom.addLineItem ("Compute Spot: (" ++ toString nodes ++ " x " ++ instanceType ++ ")")
      "aws.ec2" ("instance_type=" ++ instanceType ++ ",lifecycle=spot") "per hour"
      (hours * nodes) spotPrice
  else .ok bom

def addRootStorage (self : PricingHelper) (bom : SocaJobEstimatedBOMCost) :
    Except Raised SocaJobEstimatedBOMCost := do
  let size ← self.rootStorageSize
  let quantity ← self.storageQuantity size
  let nodes ← self.job.desiredNodes
  bom.addLineItem ("Root: EBS gp3 (" ++ toString nodes ++ " x " ++ size.str ++ ")") "aws.ebs"
    "root_storage=gp3" "GB-month" quantity self.context.config.ebsGp3Storage

def addFsxLustre (self : PricingHelper) (fsxLustre : SocaFSxLustreConfig)
    (bom : SocaJobEstimatedBOMCost) : Except Raised SocaJobEstimatedBOMCost := do
  let size ← self.fsxLustreSize fsxLustre
  let quantity ← self.fsxLustreQuantity size
  bom.addLineItem ("Scratch: FSx for Lustre (" ++ size.str ++ ")") "aws.fsx"
    "scratch_storage=lustre" "GB-month" quantity self.context.config.fsxLustre

def addScratchStorage (self : PricingHelper) (bom : SocaJobEstimatedBOMCost) :
    Except Raised SocaJobEstimatedBOMCost := do
  let size ← self.scratchStorageSize
  if size.gtNumber 0 then do
    let params ← self.params
    let quantity ← self.storageQuantity size
    let iops ← Raised.required .typeError params.scratchStorageIops
    let nodes ← self.job.desiredNodes
    if 0 < iops then do
      let bom ← bom.addLineItem
        ("Scratch: EBS io1 (" ++ toString nodes ++ " x " ++ size.str ++ ")") "aws.ebs"
        "scratch_storage=io1" "GB-month" quantity self.context.config.ebsIo1Storage
      let iopsQuantity ← self.scratchStorageIopsQuantity iops
      bom.addLineItem
        ("Scratch: Provisioned IOPS (" ++ toString nodes ++ " x " ++ toString iops ++ ")")
        "aws.ebs" ("scratch_storage_iops=" ++ toString iopsQuantity) "IOPS-month" iopsQuantity
        (self.context.config.provisionedIops.map Int.cast)
    else
      bom.addLineItem ("Scratch: EBS gp3 (" ++ toString nodes ++ " x " ++ size.str ++ ")")
        "aws.ebs" "scratch_storage=gp3" "GB-month" quantity
        (if iops = 0 then self.context.config.ebsGp3Storage
          else self.context.config.ebsIo1Storage)
  else .ok bom

def computeEstimatedBomCost (self : PricingHelper) : Except Raised SocaJobEstimatedBOMCost := do
  let instanceType ← self.job.defaultInstanceType
  let unitPrice ← self.context.getEc2InstanceTypeUnitPrice instanceType
  let bom ← self.addOndemand instanceType unitPrice {}
  let bom ← self.addSpot instanceType unitPrice bom
  let bom ← self.addRootStorage bom
  let fsxLustre ← self.fsxLustre
  if isTrue fsxLustre.enabled then self.addFsxLustre fsxLustre bom
  else self.addScratchStorage bom

end PricingHelper

def SECONDS_IN_MINUTE : ℤ := 60

def pricedSeconds (totalTimeSecs : Option ℤ) : ℤ :=
  match totalTimeSecs with
  | none => SECONDS_IN_MINUTE
  | some totalTimeSecs =>
    if totalTimeSecs < SECONDS_IN_MINUTE then SECONDS_IN_MINUTE else totalTimeSecs

namespace FinishedJobProcessor

def computeEstimatedCosts (context : PricingContext) (job : TimedJob) :
    Except Raised SocaJobEstimatedBOMCost := do
  let totalTimeSecs ← job.getTotalTimeSeconds
  PricingHelper.computeEstimatedBomCost ⟨context, job.job, pricedSeconds totalTimeSecs⟩

end FinishedJobProcessor

end Idea

import Idea.JobMonitor.Pricing
import Idea.System.Run
import Mathlib.Algebra.Order.Ring.Rat

/-! # The bill of materials of a job

Line items and savings are added to the cost estimate of a job and removed from it, and its totals
are computed anew each time. The lists and the totals are absent in a new estimate.
-/

namespace Idea.BillOfMaterials

structure SocaJobEstimatedBOMCostLineItem where
  title : String
  service : String
  product : String
  quantity : ℚ
  unit : Option String
  unitPrice : ℚ
  totalPrice : ℚ

namespace SocaJobEstimatedBOMCostLineItem

def key (self : SocaJobEstimatedBOMCostLineItem) : String × String := (self.service, self.product)

def update (self new : SocaJobEstimatedBOMCostLineItem) : SocaJobEstimatedBOMCostLineItem :=
  { self with quantity := new.quantity, totalPrice := new.quantity * self.unitPrice }

end SocaJobEstimatedBOMCostLineItem

structure SocaJobEstimatedBOMCost where
  lineItems : Option (List SocaJobEstimatedBOMCostLineItem) := none
  lineItemsTotal : Option ℚ := none
  savings : Option (List SocaJobEstimatedBOMCostLineItem) := none
  savingsTotal : Option ℚ := none
  total : Option ℚ := none

/-- The arguments that an item is built from. A price is given as a number or as an amount. -/
structure LineItemArgs where
  title : Option String := none
  service : Option String := none
  product : Option String := none
  quantity : Option ℚ := none
  unit : Option String := none
  unitPrice : Option ℚ := none
  totalPrice : Option ℚ := none

/-- `_build_line_item` -/
def buildLineItem (args : LineItemArgs) : Except Raised SocaJobEstimatedBOMCostLineItem := do
  let title ← Raised.required (invalidParams "line_item.title is required") args.title
  let service ← Raised.required (invalidParams "line_item.service is required") args.service
  let product ← Raised.required (invalidParams "line_item.product is required") args.product
  let quantity ← Raised.required (invalidParams "line_item.quantity is required") args.quantity
  let unitPrice ← Raised.required (invalidParams "line_item.unit_price is required") args.unitPrice
  .ok { title, service, product, quantity, unit := args.unit, unitPrice
        totalPrice := args.totalPrice.getD (unitPrice * quantity) }

def sumOf (items : List SocaJobEstimatedBOMCostLineItem) : ℚ := (items.map (·.totalPrice)).sum

def findLineItem (items : List SocaJobEstimatedBOMCostLineItem) (service product : String) :
    Option ℕ :=
  items.findIdx? fun item => item.key = (service, product)

def putLineItem (update : Bool) (item : SocaJobEstimatedBOMCostLineItem)
    (items : List SocaJobEstimatedBOMCostLineItem) : List SocaJobEstimatedBOMCostLineItem :=
  match findLineItem items item.service item.product with
  | some index => items.modify index fun existing => if update then existing.update item else item
  | none => items ++ [item]

namespace SocaJobEstimatedBOMCost

/-- `_compute_total`. The total of the line items is reset before there turn out to be none. -/
def computeTotal (self : SocaJobEstimatedBOMCost) : SocaJobEstimatedBOMCost × Except Raised Unit :=
  match self.lineItems with
  | none => ({ self with lineItemsTotal := some 0 }, .error .typeError)
  | some lineItems =>
    ({ self with
        lineItemsTotal := some (sumOf lineItems)
        savingsTotal := match self.savings with
          | none => self.savingsTotal
          | some savings => some (sumOf savings)
        total := some (sumOf lineItems - match self.savings with
          | none => 0
          | some savings => sumOf savings) }, .ok ())

def removed : SocaJobEstimatedBOMCost × Except Raised Unit →
    SocaJobEstimatedBOMCost × Except Raised Bool
  | (self, result) => (self, result.map fun _ => true)

def addLineItem (self : SocaJobEstimatedBOMCost) (update : Bool) (args : LineItemArgs) :
    SocaJobEstimatedBOMCost × Except Raised Unit :=
  match buildLineItem args with
  | .error e => (self, .error e)
  | .ok item =>
    computeTotal { self with lineItems := some (putLineItem update item (self.lineItems.getD [])) }

def removeLineItem (self : SocaJobEstimatedBOMCost) (service product : String) :
    SocaJobEstimatedBOMCost × Except Raised Bool :=
  match self.lineItems with
  | none => (self, .ok false)
  | some lineItems =>
    match findLineItem lineItems service product with
    | none => (self, .ok false)
    | some index => removed (computeTotal { self with lineItems := some (lineItems.eraseIdx index) })

def addSavings (self : SocaJobEstimatedBOMCost) (update : Bool) (args : LineItemArgs) :
    SocaJobEstimatedBOMCost × Except Raised Unit :=
  match buildLineItem args with
  | .error e => (self, .error e)
  | .ok item =>
    computeTotal { self with savings := some (putLineItem update item (self.savings.getD [])) }

def removeSavings (self : SocaJobEstimatedBOMCost) (service product : String) :
    SocaJobEstimatedBOMCost × Except Raised Bool :=
  match self.savings with
  | none => (self, .ok false)
  | some savings =>
    match findLineItem savings service product with
    | none => (self, .ok false)
    | some index => removed (computeTotal { self with savings := some (savings.eraseIdx index) })

end SocaJobEstimatedBOMCost

inductive Op where
  | addLineItem (update : Bool) (args : LineItemArgs)
  | removeLineItem (service product : String)
  | addSavings (update : Bool) (args : LineItemArgs)
  | removeSavings (service product : String)

def perform (self : SocaJobEstimatedBOMCost) : Op → SocaJobEstimatedBOMCost × Bool
  | .addLineItem update args =>
    let (self, result) := self.addLineItem update args
    (self, !result.isOk)
  | .removeLineItem service product =>
    let (self, result) := self.removeLineItem service product
    (self, !result.isOk)
  | .addSavings update args =>
    let (self, result) := self.addSavings update args
    (self, !result.isOk)
  | .removeSavings service product =>
    let (self, result) := self.removeSavings service product
    (self, !result.isOk)

def Unique (items : List SocaJobEstimatedBOMCostLineItem) : Prop :=
  (items.map SocaJobEstimatedBOMCostLineItem.key).Nodup

variable {items : List SocaJobEstimatedBOMCostLineItem}

theorem findLineItem_eq_none {service product : String} :
    findLineItem items service product = none ↔
      (service, product) ∉ items.map SocaJobEstimatedBOMCostLineItem.key := by
  simp [findLineItem, List.findIdx?_eq_none_iff]

theorem key_of_findLineItem {service product : String} {index : ℕ}
    (h : findLineItem items service product = some index) :
    ∃ item, items[index]? = some item ∧ item.key = (service, product) := by
  induction items generalizing index with
  | nil => cases h
  | cons item items ih =>
    rw [findLineItem, List.findIdx?_cons] at h
    split at h
    next hkey =>
      obtain rfl := Option.some.inj h
      exact ⟨item, rfl, of_decide_eq_true hkey⟩
    · obtain ⟨index', hindex', rfl⟩ := Option.map_eq_some_iff.mp h
      exact ih hindex'

theorem map_modify_of_eq {α β : Type} {f : α → α} {g : α → β} {l : List α} {i : ℕ}
    (h : ∀ a, l[i]? = some a → g (f a) = g a) : (l.modify i f).map g = l.map g := by
  induction l generalizing i with
  | nil => simp
  | cons a l ih =>
    cases i with
    | zero => simp [h a rfl]
    | succ i => simp [ih h]

theorem unique_putLineItem (h : Unique items) (update : Bool)
    (item : SocaJobEstimatedBOMCostLineItem) : Unique (putLineItem update item items) := by
  rw [Unique, putLineItem]
  cases hfind : findLineItem items item.service item.product with
  | some index =>
    obtain ⟨existing, hexisting, hkey⟩ := key_of_findLineItem hfind
    dsimp only
    rw [map_modify_of_eq]
    · exact h
    · intro found hfound
      obtain rfl := Option.some.inj (hexisting.symm.trans hfound)
      cases update with
      | true => rfl
      | false => exact hkey.symm
  | none =>
    have hnew := findLineItem_eq_none.mp hfind
    rw [List.map_append, List.map_singleton]
    exact List.nodup_append.mpr ⟨h, List.nodup_singleton _, by
      intro key hmem key' hkey'
      rw [List.mem_singleton.mp hkey']
      rintro rfl
      exact hnew hmem⟩

theorem unique_eraseIdx (h : Unique items) (index : ℕ) : Unique (items.eraseIdx index) :=
  List.Nodup.sublist ((List.eraseIdx_sublist items index).map _) h

/-- The totals are the sums over the lists, and each item is in its list once. -/
structure Balanced (estimate : SocaJobEstimatedBOMCost) : Prop where
  lineItems : Unique (estimate.lineItems.getD [])
  savings : Unique (estimate.savings.getD [])
  lineItemsTotal : estimate.lineItemsTotal = estimate.lineItems.map sumOf
  savingsTotal : estimate.savingsTotal = estimate.savings.map sumOf
  total : estimate.total = estimate.lineItems.map fun items => sumOf items - sumOf (estimate.savings.getD [])

structure Sound (estimate : SocaJobEstimatedBOMCost) : Prop extends Balanced estimate where
  opened : estimate.savings ≠ none → estimate.lineItems ≠ none

theorem sound_empty : Sound {} where
  lineItems := List.nodup_nil
  savings := List.nodup_nil
  lineItemsTotal := rfl
  savingsTotal := rfl
  total := rfl
  opened h := absurd rfl h

variable {self : SocaJobEstimatedBOMCost}

theorem computeTotal_sound (hitems : self.lineItems = some items) (hunique : Unique items)
    (hsavings : Unique (self.savings.getD []))
    (htotal : self.savings = none → self.savingsTotal = none) :
    Sound self.computeTotal.1 ∧ self.computeTotal.2 = .ok () := by
  rw [SocaJobEstimatedBOMCost.computeTotal, hitems]
  refine ⟨?_, rfl⟩
  cases hgiven : self.savings with
  | none =>
    exact {
      lineItems := hunique
      savings := List.nodup_nil
      lineItemsTotal := rfl
      savingsTotal := htotal hgiven
      total := rfl
      opened := fun h => absurd rfl h }
  | some savings =>
    rw [hgiven] at hsavings
    exact {
      lineItems := hunique
      savings := hsavings
      lineItemsTotal := rfl
      savingsTotal := rfl
      total := rfl
      opened := fun _ => Option.some_ne_none items }

theorem Sound.savingsTotal_eq_none (h : Sound self) (hnone : self.savings = none) :
    self.savingsTotal = none := by
  rw [h.savingsTotal, hnone, Option.map_none]

/-- An operation keeps an estimate sound and leaves it as it was if it raises. -/
def Keeps (self : SocaJobEstimatedBOMCost) (outcome : SocaJobEstimatedBOMCost × Bool) : Prop :=
  Sound outcome.1 ∧ (outcome.2 = true → outcome.1 = self)

theorem keeps_computeTotal {edited : SocaJobEstimatedBOMCost}
    (h : Sound edited.computeTotal.1 ∧ edited.computeTotal.2 = .ok ()) :
    Keeps self (edited.computeTotal.1, !edited.computeTotal.2.isOk) := by
  refine ⟨h.1, ?_⟩
  rw [h.2]
  simp [Except.isOk, Except.toBool]

theorem keeps_removed {edited : SocaJobEstimatedBOMCost}
    (h : Sound edited.computeTotal.1 ∧ edited.computeTotal.2 = .ok ()) :
    Keeps self ((SocaJobEstimatedBOMCost.removed edited.computeTotal).1,
      !(SocaJobEstimatedBOMCost.removed edited.computeTotal).2.isOk) := by
  refine ⟨h.1, ?_⟩
  rw [SocaJobEstimatedBOMCost.removed, h.2]
  simp [Except.map, Except.isOk, Except.toBool]

theorem keeps_self (h : Sound self) (raised : Bool) : Keeps self (self, raised) :=
  ⟨h, fun _ => rfl⟩

theorem keeps_addLineItem (h : Sound self) (update : Bool) (args : LineItemArgs) :
    Keeps self (perform self (.addLineItem update args)) := by
  simp only [perform, SocaJobEstimatedBOMCost.addLineItem]
  cases buildLineItem args with
  | error e => exact keeps_self h _
  | ok item =>
    exact keeps_computeTotal (computeTotal_sound rfl (unique_putLineItem h.lineItems update item)
      h.savings h.savingsTotal_eq_none)

theorem keeps_removeLineItem (h : Sound self) (service product : String) :
    Keeps self (perform self (.removeLineItem service product)) := by
  simp only [perform, SocaJobEstimatedBOMCost.removeLineItem]
  cases hitems : self.lineItems with
  | none => exact keeps_self h _
  | some items =>
    dsimp only
    have hunique : Unique items := by
      have hlist := h.lineItems
      rwa [hitems] at hlist
    cases findLineItem items service product with
    | none => exact keeps_self h _
    | some index =>
      exact keeps_removed (computeTotal_sound rfl (unique_eraseIdx hunique index) h.savings
        h.savingsTotal_eq_none)

theorem keeps_addSavings (h : Sound self) (update : Bool) (args : LineItemArgs)
    (hopened : self.lineItems ≠ none ∨ ¬ (buildLineItem args).isOk) :
    Keeps self (perform self (.addSavings update args)) := by
  simp only [perform, SocaJobEstimatedBOMCost.addSavings]
  cases hbuilt : buildLineItem args with
  | error e => exact keeps_self h _
  | ok item =>
    rw [hbuilt] at hopened
    obtain ⟨items, hitems⟩ := Option.ne_none_iff_exists'.mp
      (hopened.resolve_right (by simp [Except.isOk, Except.toBool]))
    have hunique : Unique items := by
      have hlist := h.lineItems
      rwa [hitems] at hlist
    exact keeps_computeTotal (computeTotal_sound hitems hunique
      (unique_putLineItem h.savings update item) (by simp))

theorem keeps_removeSavings (h : Sound self) (service product : String) :
    Keeps self (perform self (.removeSavings service product)) := by
  simp only [perform, SocaJobEstimatedBOMCost.removeSavings]
  cases hsavings : self.savings with
  | none => exact keeps_self h _
  | some savings =>
    dsimp only
    have hunique : Unique savings := by
      have hlist := h.savings
      rwa [hsavings] at hlist
    obtain ⟨items, hitems⟩ := Option.ne_none_iff_exists'.mp (h.opened (by simp [hsavings]))
    have hitemsUnique : Unique items := by
      have hlist := h.lineItems
      rwa [hitems] at hlist
    cases findLineItem savings service product with
    | none => exact keeps_self h _
    | some index =>
      exact keeps_removed (computeTotal_sound hitems hitemsUnique (unique_eraseIdx hunique index)
        (by simp))

/-- Savings that can be built are only added to an estimate with line items. -/
def Op.Fits (self : SocaJobEstimatedBOMCost) : Op → Prop
  | .addSavings _ args => self.lineItems ≠ none ∨ ¬ (buildLineItem args).isOk
  | _ => True

theorem keeps_perform (h : Sound self) {op : Op} (hfits : op.Fits self) :
    Keeps self (perform self op) := by
  cases op with
  | addLineItem update args => exact keeps_addLineItem h update args
  | removeLineItem service product => exact keeps_removeLineItem h service product
  | addSavings update args => exact keeps_addSavings h update args hfits
  | removeSavings service product => exact keeps_removeSavings h service product

def Step (self : SocaJobEstimatedBOMCost) (op : Op) (after : SocaJobEstimatedBOMCost) : Prop :=
  after = (perform self op).1

/-- In every run from a new estimate whose operations fit, every estimate is balanced and an
operation that raises leaves the estimate as it was. -/
theorem balanced_of_run {t : List (Edge SocaJobEstimatedBOMCost Op)}
    {estimate : SocaJobEstimatedBOMCost} (h : Run Step {} t estimate)
    (hfits : ∀ edge ∈ t, edge.label.Fits edge.pre) :
    Balanced estimate ∧ ∀ edge ∈ t, Balanced edge.post ∧
      ((perform edge.pre edge.label).2 = true → edge.post = edge.pre) := by
  have hstep : ∀ {s op s'}, Sound s → Step s op s' → op.Fits s → Sound s' := by
    rintro s op _ hs rfl hop
    exact (keeps_perform hs hop).1
  refine ⟨(h.invariant_of Sound sound_empty hstep hfits).toBalanced, ?_⟩
  refine h.forall_edges_of Sound sound_empty hstep hfits ?_
  rintro s op _ hs rfl hop
  have hkeeps := keeps_perform hs hop
  exact ⟨hkeeps.1.toBalanced, hkeeps.2⟩

def sampleArgs : LineItemArgs where
  title := some "Compute"
  service := some "aws.ec2"
  product := some "c5.large"
  quantity := some 2
  unitPrice := some 3

theorem not_keeps_addSavings :
    (perform {} (.addSavings false sampleArgs)).2 = true ∧
      (perform {} (.addSavings false sampleArgs)).1.savings ≠ none ∧
      (perform {} (.addSavings false sampleArgs)).1.lineItemsTotal ≠ none := by
  decide +kernel

theorem balanced_addLineItem : Balanced (perform {} (.addLineItem false sampleArgs)).1 :=
  (balanced_of_run (Run.single rfl) (by simp [Op.Fits])).1

end Idea.BillOfMaterials

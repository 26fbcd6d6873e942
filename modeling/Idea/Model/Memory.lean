import Idea.Model.Texts
import Mathlib.Tactic.Positivity
import Mathlib.Tactic.GCongr
import Mathlib.Tactic.NormNum
import Mathlib.Algebra.Order.Field.Rat

/-! # Sizes of memory

Sizes are compared by their bytes and added in the larger of their units, where the sum is rounded
to one decimal.
-/

namespace Idea

def SocaMemoryUnit.factor : SocaMemoryUnit → ℕ
  | .bytes => 1
  | .kiB => 1024
  | .miB => 1024 ^ 2
  | .giB => 1024 ^ 3
  | .tiB => 1024 ^ 4
  | .kb => 1000
  | .mb => 1000 ^ 2
  | .gb => 1000 ^ 3
  | .tb => 1000 ^ 4

/-- `SocaMemoryUnit.__lt__` -/
def SocaMemoryUnit.lt (self other : SocaMemoryUnit) : Bool := !decide (other.factor < self.factor)

namespace SocaMemory

/-- `int` of a number. -/
def truncate (value : ℚ) : ℤ := value.num.tdiv value.den

def bytes (self : SocaMemory) : ℤ := truncate (self.value * self.unit.factor)

def asUnit (self : SocaMemory) (desiredUnit : SocaMemoryUnit) : SocaMemory :=
  match desiredUnit with
  | .bytes => ⟨self.bytes, .bytes⟩
  | unit =>
    if self.unit = unit then ⟨rounded self.value, unit⟩
    else ⟨rounded (self.bytes / unit.factor), unit⟩

def add (self other : SocaMemory) : SocaMemory :=
  let largerUnit := if self.unit.lt other.unit then other.unit else self.unit
  asUnit ⟨self.bytes + other.bytes, .bytes⟩ largerUnit

/-- `SocaMemory.__lt__` of two sizes. -/
def lt (self other : SocaMemory) : Bool := decide (self.bytes < other.bytes)

/-- `SocaMemory.__gt__` of a size and a number, which are compared whatever the unit is. -/
def gtNumber (self : SocaMemory) (other : ℚ) : Bool := decide (other < self.value)

theorem truncate_le {value : ℚ} {limit : ℤ} (hlimit : 0 ≤ limit) (h : value ≤ limit) :
    truncate value ≤ limit := by
  have hnum : value.num ≤ limit * value.den := by
    have hden : (0 : ℚ) < value.den := by exact_mod_cast value.den_pos
    have hq : (value.num : ℚ) ≤ limit * value.den := by
      rw [← div_le_iff₀ hden, Rat.num_div_den]
      exact h
    exact_mod_cast hq
  unfold truncate
  rcases le_total 0 value.num with hnonneg | hneg
  · rw [Int.tdiv_eq_ediv_of_nonneg hnonneg]
    exact Int.ediv_le_of_le_mul (by exact_mod_cast value.den_pos) hnum
  · have hopposite : 0 ≤ (-value.num).tdiv value.den :=
      Int.tdiv_nonneg (by omega) (by positivity)
    rw [Int.neg_tdiv] at hopposite
    omega

theorem bytes_le_of_value_le {self : SocaMemory} {limit : ℤ} (hlimit : 0 ≤ limit)
    (hunit : self.unit.factor ≤ SocaMemoryUnit.gb.factor) (h : self.value ≤ limit) :
    self.bytes ≤ limit * SocaMemoryUnit.gb.factor := by
  have hfactor : (self.unit.factor : ℚ) ≤ SocaMemoryUnit.gb.factor := by exact_mod_cast hunit
  have hlimit' : (0 : ℚ) ≤ limit := by exact_mod_cast hlimit
  refine truncate_le (by positivity) ?_
  push_cast
  calc self.value * self.unit.factor ≤ limit * self.unit.factor := by gcongr
    _ ≤ limit * SocaMemoryUnit.gb.factor := by gcongr

end SocaMemory

end Idea

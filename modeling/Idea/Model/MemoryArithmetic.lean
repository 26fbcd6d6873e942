import Idea.Model.Memory
import Mathlib.Algebra.Order.Round
import Mathlib.Data.Rat.Floor
import Mathlib.Tactic.FieldSimp
import Mathlib.Tactic.Linarith

/-! # Arithmetic of memory sizes

Sizes are added, subtracted and compared through their bytes. A sum or a difference goes back to
the larger of the two units and is rounded to one decimal there, and its bytes are a whole number,
so that it is off by no more than this. Values are exact numbers here.
-/

namespace Idea

namespace SocaMemory

variable {a b size : SocaMemory}

/-- `SocaMemory.__eq__` of two sizes, and the other comparisons. -/
def eq (self other : SocaMemory) : Bool := decide (self.bytes = other.bytes)

def ne (self other : SocaMemory) : Bool := decide (self.bytes ≠ other.bytes)

def le (self other : SocaMemory) : Bool := decide (self.bytes ≤ other.bytes)

def ge (self other : SocaMemory) : Bool := decide (other.bytes ≤ self.bytes)

end SocaMemory

end Idea

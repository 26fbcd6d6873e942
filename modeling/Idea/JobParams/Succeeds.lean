import Idea.JobParams.JobBuilder

/-! # Computations that return

When a computation that may raise returns, and when the parameters of a job can be read.
-/

namespace Idea

def Succeeds {α : Type} (x : Except Raised α) : Prop := ∃ a, x = .ok a

section Succeeds

variable {α β : Type}

@[simp]
theorem succeeds_ok (a : α) : Succeeds (.ok a) := ⟨a, rfl⟩

end Succeeds

namespace FloatValue

def Holds (n : ℤ) : Prop := (n : ℚ) < bound ∧ -bound < (n : ℚ)

end FloatValue

namespace ParamValue

/-- A value is no text for an infinity or for what is no number. -/
def HasInt : ParamValue → Prop
  | .text value => intOfText value = none →
      ∀ number, FloatValue.ofText? value = some number → ∃ q, number = .finite q
  | _ => True

/-- A value is no integer that is too large for a float. -/
def HasFloat (value : ParamValue) : Prop := ∀ n, value = .int n → FloatValue.Holds n

end ParamValue

namespace SubmittedParams

variable (params : SubmittedParams) (key other : String)

/-- The parameter is absent or can be read as an integer. -/
def HasInt : Prop := ∀ value, params.getAnyValue key = some value → value.HasInt

/-- Of two names under which a number is submitted the second is only read without the first. -/
def EitherHasInt : Prop :=
  params.HasInt key ∧ (params.getValueAsInt key = .ok none → params.HasInt other)

def HasFloat : Prop := ∀ value, params.getAnyValue key = some value → value.HasFloat

end SubmittedParams

namespace BuilderContext

variable (ctx : BuilderContext)

def MaySubmit (param : String) : Prop := ctx.restrictedName? param = none

variable {ctx}

theorem succeeds_unlessRestricted {param : String} {verdict : Except Raised Verdict} :
    Succeeds (ctx.unlessRestricted param verdict) ↔ (ctx.MaySubmit param → Succeeds verdict) := by
  rw [unlessRestricted, MaySubmit]
  cases ctx.restrictedName? param with
  | none => simp
  | some name => simp

end BuilderContext

@[simp]
theorem succeeds_validateCount {ctx : BuilderContext} {param : String} {value : Option ℤ} :
    Succeeds (validateCount ctx param value) := by
  cases value with
  | none => exact succeeds_ok _
  | some n => exact BuilderContext.succeeds_unlessRestricted.mpr fun _ => succeeds_ok _

end Idea

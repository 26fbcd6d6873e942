import Mathlib.Data.List.Basic
import Mathlib.Data.Int.Notation

/-! # Value helpers and exceptions

Optional values are read through helpers that supply a default. Text counts as empty when
only white space is left of it. A raised exception is data: the application's own exception
carries its error code and message, the others keep only their class.
-/

namespace Idea

instance instLawfulBEqOptionString : LawfulBEq (Option String) := inferInstance

instance instLawfulBEqListChar : LawfulBEq (List Char) := inferInstance

/-- The exceptions the modelled code raises or lets through; a client error is one of AWS. -/
inductive Raised where
  | soca (errorCode message : String)
  | keyError
  | typeError
  | indexError
  | attributeError
  | validationError
  | valueError
  | clientError (code text : String)
  | external
  deriving DecidableEq, Repr

@[simp]
theorem Raised.ok_bind {α β : Type} (a : α) (f : α → Except Raised β) :
    (Except.ok a >>= f) = f a := rfl

theorem Raised.bind_eq_ok {α β : Type} {x : Except Raised α} {f : α → Except Raised β} {b : β} :
    x >>= f = .ok b ↔ ∃ a, x = .ok a ∧ f a = .ok b := by
  cases x <;> simp [bind, Except.bind]

theorem Raised.bind_eq_error {α β : Type} {x : Except Raised α} {f : α → Except Raised β}
    {e : Raised} : x >>= f = .error e ↔ x = .error e ∨ ∃ a, x = .ok a ∧ f a = .error e := by
  cases x <;> simp [bind, Except.bind]

def Raised.required {α : Type} (e : Raised) : Option α → Except Raised α
  | none => .error e
  | some a => .ok a

@[simp]
theorem Raised.required_eq_ok {α : Type} {e : Raised} {value : Option α} {a : α} :
    Raised.required e value = .ok a ↔ value = some a := by
  cases value <;> simp [Raised.required]

theorem Raised.forM_eq_ok {α : Type} (f : α → Except Raised Unit) (l : List α) :
    l.forM f = .ok () ↔ ∀ a ∈ l, f a = .ok () := by
  induction l with
  | nil => exact ⟨fun _ _ h => absurd h List.not_mem_nil, fun _ => rfl⟩
  | cons a l ih =>
    have hc : (a :: l).forM f = f a >>= fun _ => l.forM f := rfl
    rw [hc, Raised.bind_eq_ok, List.forall_mem_cons, ← ih]
    constructor
    · rintro ⟨⟨⟩, ha, hl⟩
      exact ⟨ha, hl⟩
    · rintro ⟨ha, hl⟩
      exact ⟨(), ha, hl⟩

theorem Raised.foldlM_invariant {α β : Type} {f : β → α → Except Raised β} (I : β → Prop)
    {l : List α} {b b' : β} (h : l.foldlM f b = .ok b') (hb : I b)
    (hstep : ∀ a ∈ l, ∀ b b', I b → f b a = .ok b' → I b') : I b' := by
  induction l generalizing b with
  | nil =>
    obtain rfl : b = b' := Except.ok.inj h
    exact hb
  | cons a l ih =>
    rw [List.foldlM_cons, Raised.bind_eq_ok] at h
    obtain ⟨b₁, h₁, h⟩ := h
    rw [List.forall_mem_cons] at hstep
    exact ih h (hstep.1 b b₁ hb h₁) hstep.2

namespace ErrorCodes

def GENERAL_ERROR : String := "GENERAL_ERROR"
def INVALID_PARAMS : String := "INVALID_PARAMS"
def VALIDATION_FAILED : String := "VALIDATION_FAILED"
def MEMORY_FORMAT_PARSING_FAILED : String := "MEMORY_FORMAT_PARSING_FAILED"
def SCHEDULER_ERROR : String := "SCHEDULER_ERROR"
def SCHEDULER_JOB_FINISHED : String := "SCHEDULER_JOB_FINISHED"
def SOCA_SCHEDULER_INVALID_JOB : String := "SOCA_SCHEDULER_INVALID_JOB"

end ErrorCodes

def invalidParams (info : String) : Raised :=
  .soca ErrorCodes.INVALID_PARAMS ("Invalid params: " ++ info)

def invalidJob (info : String) : Raised :=
  .soca ErrorCodes.SOCA_SCHEDULER_INVALID_JOB ("Invalid Job: " ++ info)

/-- The white space that `str.strip` removes. -/
def isSpace (c : Char) : Bool :=
  let n := c.toNat
  (9 ≤ n && n ≤ 13) || (28 ≤ n && n ≤ 32) || n = 0x85 || n = 0xA0 || n = 0x1680 ||
    (0x2000 ≤ n && n ≤ 0x200A) || n = 0x2028 || n = 0x2029 || n = 0x202F || n = 0x205F ||
    n = 0x3000

def stripChars (cs : List Char) : List Char :=
  ((cs.dropWhile isSpace).reverse.dropWhile isSpace).reverse

def strip (s : String) : String := String.ofList (stripChars s.toList)

def isEmptyString (value : Option String) : Bool :=
  match value with
  | none => true
  | some s => (stripChars s.toList).isEmpty

/-- `ModelUtils.get_as_string` of a text: blank reads as absent. -/
def getAsString (value : String) : Option String :=
  if isEmptyString (some value) then none else some (strip value)

def isEmptyList {α : Type*} (value : Option (List α)) : Bool :=
  match value with
  | none => true
  | some l => l.isEmpty

/-- `ModelUtils.get_as_int` on an optional integer. -/
def getAsInt (value : Option ℤ) (default : ℤ) : ℤ := value.getD default

/-- `ModelUtils.get_as_bool` on an optional boolean. -/
def getAsBool (value : Option Bool) (default : Bool) : Bool := value.getD default

/-- `ModelUtils.is_true` on an optional boolean. -/
def isTrue (value : Option Bool) : Bool := value.getD false

/-- `int(text)` on text that is a run of decimal digits. -/
def intOfDigits (cs : List Char) : Option ℤ :=
  if cs ≠ [] ∧ cs.all Char.isDigit then
    some (cs.foldl (fun n c => 10 * n + (c.toNat - '0'.toNat : ℕ)) 0)
  else none

end Idea

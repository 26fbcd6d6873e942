import Mathlib.Data.List.Basic

/-! # Computations that make calls

A computation calls other components and may raise. The calls it made before it raised
remain, so they are recorded next to the outcome. Loops stop at the first exception.
-/

/-- The calls that were made, in order, and the outcome. -/
structure Logged (γ ε α : Type) where
  calls : List γ
  outcome : Except ε α

namespace Logged

variable {γ ε α β : Type}

instance : Monad (Logged γ ε) where
  pure a := ⟨[], .ok a⟩
  bind x f :=
    match x.outcome with
    | .ok a => ⟨x.calls ++ (f a).calls, (f a).outcome⟩
    | .error e => ⟨x.calls, .error e⟩

def ofExcept (outcome : Except ε α) : Logged γ ε α := ⟨[], outcome⟩

def call (c : γ) (outcome : Except ε α) : Logged γ ε α := ⟨[c], outcome⟩

/-- Catches an exception that `handle` knows. -/
def tryCatch (x : Logged γ ε α) (handle : ε → Option (Logged γ ε α)) : Logged γ ε α :=
  match x.outcome with
  | .ok _ => x
  | .error e =>
    match handle e with
    | some y => ⟨x.calls ++ y.calls, y.outcome⟩
    | none => x

def foldEach (f : β → α → Logged γ ε β) : List α → β → Logged γ ε β
  | [], b => pure b
  | a :: as, b => f b a >>= foldEach f as

def forEach (f : α → Logged γ ε Unit) : List α → Logged γ ε Unit
  | [] => pure ()
  | a :: as => f a >>= fun _ => forEach f as

@[simp] theorem calls_pure (a : α) : (pure a : Logged γ ε α).calls = [] := rfl

@[simp] theorem outcome_pure (a : α) : (pure a : Logged γ ε α).outcome = .ok a := rfl

@[simp] theorem calls_ofExcept (outcome : Except ε α) :
    (ofExcept outcome : Logged γ ε α).calls = [] := rfl

@[simp] theorem outcome_ofExcept (outcome : Except ε α) :
    (ofExcept outcome : Logged γ ε α).outcome = outcome := rfl

@[simp] theorem calls_call (c : γ) (outcome : Except ε α) : (call c outcome).calls = [c] := rfl

@[simp] theorem outcome_call (c : γ) (outcome : Except ε α) :
    (call c outcome).outcome = outcome := rfl

variable {x : Logged γ ε α} {f : α → Logged γ ε β}

theorem bind_of_ok {a : α} (h : x.outcome = .ok a) :
    x >>= f = ⟨x.calls ++ (f a).calls, (f a).outcome⟩ := by
  simp only [bind, h]

theorem bind_of_error {e : ε} (h : x.outcome = .error e) : x >>= f = ⟨x.calls, .error e⟩ := by
  simp only [bind, h]

theorem outcome_bind {b : β} :
    (x >>= f).outcome = .ok b ↔ ∃ a, x.outcome = .ok a ∧ (f a).outcome = .ok b := by
  cases h : x.outcome with
  | ok a => simp [bind_of_ok h]
  | error e => simp [bind_of_error h]

theorem outcome_bind_error {e : ε} :
    (x >>= f).outcome = .error e ↔
      x.outcome = .error e ∨ ∃ a, x.outcome = .ok a ∧ (f a).outcome = .error e := by
  cases h : x.outcome with
  | ok a => simp [bind_of_ok h]
  | error e' => simp [bind_of_error h]

theorem mem_calls_bind {c : γ} :
    c ∈ (x >>= f).calls ↔ c ∈ x.calls ∨ ∃ a, x.outcome = .ok a ∧ c ∈ (f a).calls := by
  cases h : x.outcome with
  | ok a => simp [bind_of_ok h]
  | error e => simp [bind_of_error h]

variable {handle : ε → Option (Logged γ ε α)}

theorem tryCatch_eq_self (h : ∀ e, x.outcome = .error e → handle e = none) :
    x.tryCatch handle = x := by
  unfold tryCatch
  cases hx : x.outcome with
  | ok a => rfl
  | error e =>
    dsimp only
    rw [h e hx]

theorem outcome_tryCatch {a : α} :
    (x.tryCatch handle).outcome = .ok a ↔ x.outcome = .ok a ∨
      ∃ e y, x.outcome = .error e ∧ handle e = some y ∧ y.outcome = .ok a := by
  unfold tryCatch
  cases hx : x.outcome with
  | ok b => simp [hx]
  | error e =>
    cases hh : handle e with
    | none => simp [hx, hh]
    | some y => simp [hh]

theorem mem_calls_tryCatch (h : ∀ e y, handle e = some y → y.calls = []) {c : γ} :
    c ∈ (x.tryCatch handle).calls ↔ c ∈ x.calls := by
  unfold tryCatch
  cases x.outcome with
  | ok b => rfl
  | error e =>
    cases hh : handle e with
    | none => simp [hh]
    | some y => simp [hh, h e y hh]

variable {f : α → Logged γ ε Unit}

theorem exists_of_mem_calls_forEach {as : List α} {c : γ} (h : c ∈ (forEach f as).calls) :
    ∃ a ∈ as, c ∈ (f a).calls := by
  induction as with
  | nil => exact absurd h List.not_mem_nil
  | cons a as ih =>
    rcases mem_calls_bind.mp h with h | ⟨_, _, h⟩
    · exact ⟨a, List.mem_cons_self, h⟩
    · obtain ⟨a', ha, hc⟩ := ih h
      exact ⟨a', List.mem_cons_of_mem _ ha, hc⟩

theorem outcome_forEach {as : List α} :
    (forEach f as).outcome = .ok () ↔ ∀ a ∈ as, (f a).outcome = .ok () := by
  induction as with
  | nil => exact ⟨fun _ _ h => absurd h List.not_mem_nil, fun _ => rfl⟩
  | cons a as ih =>
    rw [forEach, outcome_bind, List.forall_mem_cons, ← ih]
    constructor
    · rintro ⟨⟨⟩, ha, has⟩
      exact ⟨ha, has⟩
    · rintro ⟨ha, has⟩
      exact ⟨(), ha, has⟩

theorem mem_calls_forEach_of_ok {as : List α} {a : α} {c : γ} (h : (forEach f as).outcome = .ok ())
    (ha : a ∈ as) (hc : c ∈ (f a).calls) : c ∈ (forEach f as).calls := by
  induction as with
  | nil => exact absurd ha List.not_mem_nil
  | cons b as ih =>
    obtain ⟨_, hb, has⟩ := outcome_bind.mp h
    apply mem_calls_bind.mpr
    rcases List.mem_cons.mp ha with rfl | ha
    · exact .inl hc
    · exact .inr ⟨(), hb, ih has ha⟩

theorem exists_of_mem_calls_foldEach {f : β → α → Logged γ ε β} (I : β → Prop) {as : List α}
    {b : β} {c : γ} (h : c ∈ (foldEach f as b).calls) (hb : I b)
    (hstep : ∀ a ∈ as, ∀ b b', I b → (f b a).outcome = .ok b' → I b') :
    ∃ a ∈ as, ∃ b, I b ∧ c ∈ (f b a).calls := by
  induction as generalizing b with
  | nil => exact absurd h List.not_mem_nil
  | cons a as ih =>
    rw [List.forall_mem_cons] at hstep
    rcases mem_calls_bind.mp h with h | ⟨b₁, h₁, h⟩
    · exact ⟨a, List.mem_cons_self, b, hb, h⟩
    · obtain ⟨a', ha, hc⟩ := ih h (hstep.1 b b₁ hb h₁) hstep.2
      exact ⟨a', List.mem_cons_of_mem _ ha, hc⟩

/-- What holds of some calls holds of more calls. -/
def Upward (P : List γ → Prop) : Prop :=
  ∀ cs cs', (∀ c ∈ cs, c ∈ cs') → P cs → P cs'

/-- A computation that succeeds has made its calls. -/
def Ensures (x : Logged γ ε α) (P : List γ → Prop) : Prop :=
  ∀ a, x.outcome = .ok a → P x.calls

theorem ensures_bind {P : List γ → Prop} (hP : Upward P) {x : Logged γ ε α} {f : α → Logged γ ε β}
    (hf : ∀ a, x.outcome = .ok a → (f a).Ensures P) : (x >>= f).Ensures P := by
  intro b h
  obtain ⟨a, ha, hb⟩ := outcome_bind.mp h
  apply hP _ _ _ (hf a ha b hb)
  intro c hc
  exact mem_calls_bind.mpr (.inr ⟨a, ha, hc⟩)

theorem Ensures.bind {P : List γ → Prop} (hP : Upward P) (hx : x.Ensures P) (f : α → Logged γ ε β) :
    (x >>= f).Ensures P := by
  intro b h
  obtain ⟨a, ha, _⟩ := outcome_bind.mp h
  apply hP _ _ _ (hx a ha)
  intro c hc
  exact mem_calls_bind.mpr (.inl hc)

theorem ensures_forEach {P : α → List γ → Prop} (hP : ∀ a, Upward (P a)) (as : List α)
    (hf : ∀ a, (f a).Ensures (P a)) : (forEach f as).Ensures fun cs => ∀ a ∈ as, P a cs := by
  intro _ h a ha
  apply hP a _ _ _ (hf a () (outcome_forEach.mp h a ha))
  intro c hc
  exact mem_calls_forEach_of_ok h ha hc

end Logged

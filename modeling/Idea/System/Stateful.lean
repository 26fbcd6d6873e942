import Mathlib.Data.List.Basic

/-! # Computations on a state that may raise

An exception does not undo what was done to the state before it. So a computation maps a state
to its outcome and the state that it leaves, and a sequence stops at the first exception with the
state reached there.
-/

structure Stateful (σ ε α : Type) where
  run : σ → Except ε α × σ

namespace Stateful

variable {σ ε α β : Type}

instance : Monad (Stateful σ ε) where
  pure a := ⟨fun s => (.ok a, s)⟩
  bind x f := ⟨fun s =>
    match x.run s with
    | (.ok a, s') => (f a).run s'
    | (.error e, s') => (.error e, s')⟩

def raise (e : ε) : Stateful σ ε α := ⟨fun s => (.error e, s)⟩

def ofExcept (outcome : Except ε α) : Stateful σ ε α := ⟨fun s => (outcome, s)⟩

def raiseIf : Option ε → Stateful σ ε Unit
  | none => pure ()
  | some e => raise e

def get : Stateful σ ε σ := ⟨fun s => (.ok s, s)⟩

def modify (f : σ → σ) : Stateful σ ε Unit := ⟨fun s => (.ok (), f s)⟩

def forEach (f : α → Stateful σ ε Unit) : List α → Stateful σ ε Unit
  | [] => pure ()
  | a :: as => f a >>= fun _ => forEach f as

variable {x : Stateful σ ε α} {f : α → Stateful σ ε β} {s s' s'' : σ} {a : α} {e : ε}

@[simp] theorem run_pure (a : α) (s : σ) : (pure a : Stateful σ ε α).run s = (.ok a, s) := rfl

@[simp] theorem run_raise (e : ε) (s : σ) :
    (raise e : Stateful σ ε α).run s = (.error e, s) := rfl

@[simp] theorem run_ofExcept (outcome : Except ε α) (s : σ) :
    (ofExcept outcome : Stateful σ ε α).run s = (outcome, s) := rfl

@[simp] theorem run_modify (f : σ → σ) (s : σ) :
    (modify f : Stateful σ ε Unit).run s = (.ok (), f s) := rfl

theorem run_bind_of_ok (h : x.run s = (.ok a, s')) : (x >>= f).run s = (f a).run s' := by
  simp only [bind, h]

theorem run_bind_of_error (h : x.run s = (.error e, s')) :
    (x >>= f).run s = (.error e, s') := by
  simp only [bind, h]

@[simp] theorem run_pure_bind (a : α) (s : σ) :
    ((pure a : Stateful σ ε α) >>= f).run s = (f a).run s := rfl

@[simp] theorem run_get_bind (f : σ → Stateful σ ε β) (s : σ) :
    (get >>= f).run s = (f s).run s := rfl

@[simp] theorem run_modify_bind (g : σ → σ) (f : Unit → Stateful σ ε β) (s : σ) :
    (modify g >>= f).run s = (f ()).run (g s) := rfl

theorem bind_cases {r : Except ε β} (h : (x >>= f).run s = (r, s'')) :
    (∃ e, x.run s = (.error e, s'') ∧ r = .error e) ∨
      ∃ a s', x.run s = (.ok a, s') ∧ (f a).run s' = (r, s'') := by
  rcases hx : x.run s with ⟨e | a, s'⟩
  · rw [run_bind_of_error hx] at h
    obtain ⟨rfl, rfl⟩ := Prod.mk.inj h
    exact .inl ⟨e, rfl, rfl⟩
  · rw [run_bind_of_ok hx] at h
    exact .inr ⟨a, s', rfl, h⟩

theorem ofExcept_bind_cases {outcome : Except ε α} {r : Except ε β}
    (h : (ofExcept outcome >>= f).run s = (r, s')) :
    (∃ e, outcome = .error e ∧ r = .error e ∧ s' = s) ∨
      ∃ a, outcome = .ok a ∧ (f a).run s = (r, s') := by
  cases outcome with
  | error e =>
    obtain ⟨rfl, rfl⟩ := Prod.mk.inj h
    exact .inl ⟨e, rfl, rfl, rfl⟩
  | ok a => exact .inr ⟨a, rfl, h⟩

theorem raiseIf_bind_cases {f : Unit → Stateful σ ε β} {raised : Option ε} {r : Except ε β}
    (h : (raiseIf raised >>= f).run s = (r, s')) :
    (∃ e, raised = some e ∧ r = .error e ∧ s' = s) ∨ raised = none ∧ (f ()).run s = (r, s') := by
  cases raised with
  | none => exact .inr ⟨rfl, h⟩
  | some e =>
    obtain ⟨rfl, rfl⟩ := Prod.mk.inj h
    exact .inl ⟨e, rfl, rfl, rfl⟩

theorem forEach_invariant (I : σ → Prop) {f : α → Stateful σ ε Unit} {l : List α}
    {r : Except ε Unit} (h : (forEach f l).run s = (r, s')) (hs : I s)
    (hstep : ∀ a ∈ l, ∀ s r s', I s → (f a).run s = (r, s') → I s') : I s' := by
  induction l generalizing s with
  | nil =>
    obtain ⟨-, rfl⟩ := Prod.mk.inj h
    exact hs
  | cons a l ih =>
    rw [List.forall_mem_cons] at hstep
    rcases bind_cases h with ⟨e, hf, -⟩ | ⟨_, s₁, hf, h⟩
    · exact hstep.1 s _ s' hs hf
    · exact ih h (hstep.1 s _ s₁ hs hf) hstep.2

theorem forEach_finishes_iff {p : α → Prop} {f : α → Stateful σ ε Unit}
    (hround : ∀ a s, ((f a).run s).1 = .ok () ↔ p a) (l : List α) (s : σ) :
    ((forEach f l).run s).1 = .ok () ↔ ∀ a ∈ l, p a := by
  induction l generalizing s with
  | nil => exact ⟨fun _ _ h => absurd h List.not_mem_nil, fun _ => rfl⟩
  | cons a l ih =>
    rw [List.forall_mem_cons, ← hround a s]
    rcases hf : (f a).run s with ⟨e | _, s'⟩
    · have hl : ((forEach f (a :: l)).run s).1 = .error e :=
        congrArg Prod.fst (run_bind_of_error (f := fun _ => forEach f l) hf)
      rw [hl]
      exact ⟨fun h => absurd h (by simp), fun h => absurd h.1 (by simp)⟩
    · have hl : (forEach f (a :: l)).run s = (forEach f l).run s' :=
        run_bind_of_ok (f := fun _ => forEach f l) hf
      rw [hl, ih s']
      exact ⟨fun h => ⟨rfl, h⟩, fun h => h.2⟩

theorem forEach_ok_invariant (I : σ → Prop) {f : α → Stateful σ ε Unit} {l : List α}
    (h : (forEach f l).run s = (.ok (), s')) (hs : I s)
    (hstep : ∀ a ∈ l, ∀ s s', I s → (f a).run s = (.ok (), s') → I s') : I s' := by
  induction l generalizing s with
  | nil =>
    obtain ⟨-, rfl⟩ := Prod.mk.inj h
    exact hs
  | cons a l ih =>
    rw [List.forall_mem_cons] at hstep
    rcases bind_cases h with ⟨e, -, he⟩ | ⟨_, s₁, hf, h⟩
    · cases he
    · exact ih h (hstep.1 s s₁ hs hf) hstep.2

end Stateful

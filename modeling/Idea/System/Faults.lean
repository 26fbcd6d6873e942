import Idea.System.Triple

/-! # Stores whose calls may fail

A call to a store is done, or it is refused and changes nothing, or it is done and its answer is
lost. Whoever made the call sees an exception in both of the last cases.
-/

inductive CallOutcome (ε : Type) where
  | done
  | refused (e : ε)
  | lost (e : ε)

/-- A store, and how many calls have been made to it. -/
structure Served (σ : Type) where
  store : σ
  calls : ℕ

namespace Served

variable {σ ε α : Type} (outcome : ℕ → CallOutcome ε)

def call (f : σ → σ) : Stateful (Served σ) ε Unit := ⟨fun s =>
  match outcome s.calls with
  | .done => (.ok (), ⟨f s.store, s.calls + 1⟩)
  | .refused e => (.error e, ⟨s.store, s.calls + 1⟩)
  | .lost e => (.error e, ⟨f s.store, s.calls + 1⟩)⟩

variable {outcome} {f : σ → σ} {s s' : Served σ}

theorem call_run_of_done (h : outcome s.calls = .done) :
    (call outcome f).run s = (.ok (), ⟨f s.store, s.calls + 1⟩) := by
  simp only [call, h]

theorem call_run_of_refused {e : ε} (h : outcome s.calls = .refused e) :
    (call outcome f).run s = (.error e, ⟨s.store, s.calls + 1⟩) := by
  simp only [call, h]

theorem call_run_of_lost {e : ε} (h : outcome s.calls = .lost e) :
    (call outcome f).run s = (.error e, ⟨f s.store, s.calls + 1⟩) := by
  simp only [call, h]

/-- How a call ends: only one that is done ends normally, and one that raises has changed the
store or not. -/
theorem call_cases {r : Except ε Unit} (h : (call outcome f).run s = (r, s')) :
    (outcome s.calls = .done ∧ r = .ok () ∧ s' = ⟨f s.store, s.calls + 1⟩) ∨
      (∃ e, outcome s.calls = .refused e ∧ r = .error e ∧ s'.store = s.store) ∨
      ∃ e, outcome s.calls = .lost e ∧ r = .error e ∧ s'.store = f s.store := by
  rcases hc : outcome s.calls with _ | e | e
  · rw [call_run_of_done hc] at h
    obtain ⟨rfl, rfl⟩ := Prod.mk.inj h
    exact .inl ⟨rfl, rfl, rfl⟩
  · rw [call_run_of_refused hc] at h
    obtain ⟨rfl, rfl⟩ := Prod.mk.inj h
    exact .inr (.inl ⟨e, rfl, rfl, rfl⟩)
  · rw [call_run_of_lost hc] at h
    obtain ⟨rfl, rfl⟩ := Prod.mk.inj h
    exact .inr (.inr ⟨e, rfl, rfl, rfl⟩)

theorem triple_call {P : σ → Prop} {Q : Unit → σ → Prop} {E : ε → σ → Prop}
    (hok : ∀ s, P s → Q () (f s)) (hrefused : ∀ e s, P s → E e s)
    (hlost : ∀ e s, P s → E e (f s)) :
    Stateful.Triple (fun s => P s.store) (call outcome f) (fun a s => Q a s.store)
      fun e s => E e s.store := by
  intro s r s' hs hrun
  rcases call_cases hrun with ⟨-, rfl, rfl⟩ | ⟨e, -, rfl, he⟩ | ⟨e, -, rfl, he⟩
  · exact ⟨fun _ _ => hok _ hs, fun e h => by cases h⟩
  · refine ⟨fun a h => (by cases h), fun e' h => ?_⟩
    obtain rfl := Except.error.inj h
    exact he ▸ hrefused e _ hs
  · refine ⟨fun a h => (by cases h), fun e' h => ?_⟩
    obtain rfl := Except.error.inj h
    exact he ▸ hlost e _ hs

end Served

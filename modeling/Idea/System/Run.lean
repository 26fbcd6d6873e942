import Mathlib.Data.List.Basic
import Mathlib.Data.Set.Basic

/-! # Runs of a labelled transition system

A run is a finite sequence of steps, each recorded with the states around it. A property of
every reachable state is an invariant, and a property of every step of a run follows from
the invariant before that step. Members of a collection leave it only as the steps allow.
-/

/-- A step together with the states around it. -/
structure Edge (σ α : Type*) where
  pre : σ
  label : α
  post : σ

/-- The runs of a step relation from `s₀`, with the edges they take. -/
inductive Run {σ α : Type*} (Step : σ → α → σ → Prop) (s₀ : σ) : List (Edge σ α) → σ → Prop
  | nil : Run Step s₀ [] s₀
  | snoc {t s a s'} : Run Step s₀ t s → Step s a s' → Run Step s₀ (t ++ [⟨s, a, s'⟩]) s'

namespace Run

variable {σ α β : Type*} {Step : σ → α → σ → Prop} {s₀ s s' : σ} {t t' : List (Edge σ α)}

theorem single {a : α} (h : Step s₀ a s) : Run Step s₀ [⟨s₀, a, s⟩] s :=
  .snoc .nil h

theorem eq_of_nil (h : Run Step s₀ [] s) : s = s₀ := by
  generalize ht : [] = t at h
  cases h with
  | nil => rfl
  | snoc _ _ => simp at ht

theorem append (h : Run Step s₀ t s) (h' : Run Step s t' s') : Run Step s₀ (t ++ t') s' := by
  induction h' with
  | nil => simpa using h
  | snoc _ hs ih => simpa [List.append_assoc] using Run.snoc ih hs

def edges (apply : σ → α → σ) (s : σ) : List α → List (Edge σ α)
  | [] => []
  | a :: as => ⟨s, a, apply s a⟩ :: edges apply (apply s a) as

theorem of_edges (apply : σ → α → σ) (s : σ) (as : List α) :
    Run (fun s a s' => s' = apply s a) s (edges apply s as) (as.foldl apply s) := by
  induction as generalizing s with
  | nil => exact .nil
  | cons a as ih =>
    have hs : Run (fun s a s' => s' = apply s a) s [⟨s, a, apply s a⟩] (apply s a) := single rfl
    exact hs.append (ih (apply s a))

@[simp] theorem map_label_edges (apply : σ → α → σ) (s : σ) (as : List α) :
    (edges apply s as).map Edge.label = as := by
  induction as generalizing s with
  | nil => rfl
  | cons a as ih => simp [edges, ih]

theorem invariant_of (I : σ → Prop) {P : Edge σ α → Prop} (h : Run Step s₀ t s) (h₀ : I s₀)
    (hstep : ∀ {s a s'}, I s → Step s a s' → P ⟨s, a, s'⟩ → I s') (hP : ∀ e ∈ t, P e) :
    I s := by
  induction h with
  | nil => exact h₀
  | snoc _ hs ih =>
    simp only [List.mem_append, List.mem_singleton] at hP
    exact hstep (ih fun e he => hP e (.inl he)) hs (hP _ (.inr rfl))

theorem invariant (I : σ → Prop) (h : Run Step s₀ t s) (h₀ : I s₀)
    (hstep : ∀ {s a s'}, I s → Step s a s' → I s') : I s := by
  induction h with
  | nil => exact h₀
  | snoc _ hs ih => exact hstep ih hs

theorem of_append_cons {e : Edge σ α} {t₁ t₂ : List (Edge σ α)}
    (h : Run Step s₀ (t₁ ++ e :: t₂) s) :
    Run Step s₀ t₁ e.pre ∧ Step e.pre e.label e.post ∧ Run Step e.post t₂ s := by
  generalize ht : t₁ ++ e :: t₂ = t at h
  induction h generalizing t₂ with
  | nil => simp at ht
  | @snoc t s a s' hr hs ih =>
    rcases List.eq_nil_or_concat t₂ with rfl | ⟨rest, last, rfl⟩
    · obtain ⟨rfl, he⟩ := List.append_inj' ht rfl
      obtain rfl : e = ⟨s, a, s'⟩ := List.singleton_inj.mp he
      exact ⟨hr, hs, .nil⟩
    · have hl : (t₁ ++ e :: rest) ++ [last] = t ++ [⟨s, a, s'⟩] := by simpa using ht
      obtain ⟨hrest, hlast⟩ := List.append_inj' hl rfl
      obtain rfl : last = ⟨s, a, s'⟩ := List.singleton_inj.mp hlast
      obtain ⟨h₁, h₂, h₃⟩ := ih hrest
      exact ⟨h₁, h₂, List.concat_eq_append ▸ h₃.snoc hs⟩

/-- An edge of a run starts in a state the run reaches before it and ends in one from which
the rest of the run goes on. -/
theorem split (h : Run Step s₀ t s) {e : Edge σ α} (he : e ∈ t) :
    ∃ t₁ t₂, t = t₁ ++ e :: t₂ ∧ Run Step s₀ t₁ e.pre ∧ Step e.pre e.label e.post ∧
      Run Step e.post t₂ s := by
  obtain ⟨t₁, t₂, rfl⟩ := List.append_of_mem he
  exact ⟨t₁, t₂, rfl, h.of_append_cons⟩

/-- A property of the steps from invariant states holds of every edge of a run whose edges
keep the invariant. -/
theorem forall_edges_of (I : σ → Prop) {P Q : Edge σ α → Prop} (h : Run Step s₀ t s)
    (h₀ : I s₀) (hstep : ∀ {s a s'}, I s → Step s a s' → P ⟨s, a, s'⟩ → I s')
    (hP : ∀ e ∈ t, P e)
    (hQ : ∀ {s a s'}, I s → Step s a s' → P ⟨s, a, s'⟩ → Q ⟨s, a, s'⟩) : ∀ e ∈ t, Q e := by
  intro e he
  obtain ⟨t₁, t₂, rfl, hr, hs, _⟩ := h.split he
  have hI : I e.pre := hr.invariant_of I h₀ hstep fun e he => hP e (List.mem_append_left _ he)
  exact hQ hI hs (hP e he)

theorem forall_edges (I : σ → Prop) {Q : Edge σ α → Prop} (h : Run Step s₀ t s) (h₀ : I s₀)
    (hstep : ∀ {s a s'}, I s → Step s a s' → I s')
    (hQ : ∀ {s a s'}, I s → Step s a s' → Q ⟨s, a, s'⟩) : ∀ e ∈ t, Q e := by
  intro e he
  obtain ⟨_, _, _, hr, hs, _⟩ := h.split he
  exact hQ (hr.invariant I h₀ hstep) hs

theorem forall_edges_iff (I : σ → Prop) {Q R : Edge σ α → Prop} (h : Run Step s₀ t s)
    (h₀ : I s₀) (hstep : ∀ {s a s'}, I s → Step s a s' → I s')
    (hQR : ∀ {s a s'}, I s → Step s a s' → (Q ⟨s, a, s'⟩ ↔ R ⟨s, a, s'⟩)) :
    (∀ e ∈ t, Q e) ↔ ∀ e ∈ t, R e :=
  forall₂_congr (h.forall_edges I h₀ hstep hQR)

end Run

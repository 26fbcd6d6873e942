import Idea.System.Triple

/-! # Normal ends

That a computation ends normally, with a result and in a state, is decided along its text: a
sequence ends normally when both of its parts do, one after the other. So what is missing for a
normal end can be read off, which triples do not tell.
-/

namespace Stateful

variable {σ ε α β : Type}

/-- From the first state the computation ends normally in the second one. -/
def Returns (x : Stateful σ ε α) (s : σ) (a : α) (s' : σ) : Prop := x.run s = (.ok a, s')

variable {x : Stateful σ ε α} {f : α → Stateful σ ε β} {s s' s'' : σ} {a a' : α} {b : β}

theorem Returns.unique (h : Returns x s a s') (h' : Returns x s a' s'') : a = a' ∧ s' = s'' := by
  obtain ⟨ha, hs⟩ := Prod.mk.inj (h.symm.trans h')
  exact ⟨Except.ok.inj ha, hs⟩

theorem returns_bind :
    Returns (x >>= f) s b s'' ↔ ∃ a s', Returns x s a s' ∧ Returns (f a) s' b s'' := by
  constructor
  · intro h
    rcases bind_cases h with ⟨e, _, he⟩ | ⟨a, s', hx, hf⟩
    · cases he
    · exact ⟨a, s', hx, hf⟩
  · rintro ⟨a, s', hx, hf⟩
    exact (run_bind_of_ok hx).trans hf

theorem Returns.bind (hx : Returns x s a s') (hf : Returns (f a) s' b s'') :
    Returns (x >>= f) s b s'' :=
  returns_bind.mpr ⟨a, s', hx, hf⟩

theorem Returns.bind_iff (hx : Returns x s a s') :
    Returns (x >>= f) s b s'' ↔ Returns (f a) s' b s'' := by
  constructor
  · intro h
    obtain ⟨a', s₁, hx', hf⟩ := returns_bind.mp h
    obtain ⟨rfl, rfl⟩ := hx.unique hx'
    exact hf
  · exact hx.bind

@[simp] theorem returns_pure : Returns (pure a : Stateful σ ε α) s a' s' ↔ a' = a ∧ s' = s := by
  simp only [Returns, run_pure, Prod.mk.injEq, Except.ok.injEq]
  exact and_congr eq_comm eq_comm

@[simp] theorem returns_raise {e : ε} : ¬ Returns (raise e : Stateful σ ε α) s a s' := by
  simp [Returns]

theorem returns_attempt {outcome : Except ε α} :
    Returns (attempt x) s outcome s' ↔ x.run s = (outcome, s') := by
  constructor
  · intro h
    obtain ⟨houtcome, hstate⟩ := Prod.mk.inj h
    exact Prod.ext (Except.ok.inj houtcome) hstate
  · intro h
    simp only [Returns, attempt, h]

@[simp] theorem returns_get_bind {f : σ → Stateful σ ε β} :
    Returns (get >>= f) s b s' ↔ Returns (f s) s b s' :=
  Iff.rfl

@[simp] theorem returns_collect_nil {f : α → Stateful σ ε β} {bs : List β} :
    Returns (collect f []) s bs s' ↔ bs = [] ∧ s' = s :=
  returns_pure

theorem returns_collect_cons {f : α → Stateful σ ε β} {l : List α} {bs : List β} :
    Returns (collect f (a :: l)) s bs s' ↔ ∃ b rest s₁, Returns (f a) s b s₁ ∧
      Returns (collect f l) s₁ rest s' ∧ bs = b :: rest := by
  rw [collect, returns_bind]
  constructor
  · rintro ⟨b, s₁, hb, h⟩
    obtain ⟨rest, s₂, hrest, h⟩ := returns_bind.mp h
    obtain ⟨rfl, rfl⟩ := returns_pure.mp h
    exact ⟨b, rest, s₁, hb, hrest, rfl⟩
  · rintro ⟨b, rest, s₁, hb, hrest, rfl⟩
    exact ⟨b, s₁, hb, hrest.bind (returns_pure.mpr ⟨rfl, rfl⟩)⟩

theorem returns_forEach_cons {f : α → Stateful σ ε Unit} {l : List α} :
    Returns (forEach f (a :: l)) s () s' ↔
      ∃ s₁, Returns (f a) s () s₁ ∧ Returns (forEach f l) s₁ () s' := by
  rw [forEach, returns_bind]
  constructor
  · rintro ⟨_, s₁, h, h'⟩
    exact ⟨s₁, h, h'⟩
  · rintro ⟨s₁, h, h'⟩
    exact ⟨(), s₁, h, h'⟩

theorem returns_collect_of_reads {f : α → Stateful σ ε β} {l : List α} {bs : List β}
    (g : α → Option β) (h : ∀ a ∈ l, ∀ b s', Returns (f a) s b s' ↔ s' = s ∧ g a = some b) :
    Returns (collect f l) s bs s' ↔ s' = s ∧ (∀ a ∈ l, (g a).isSome) ∧ bs = l.filterMap g := by
  induction l generalizing bs with
  | nil => simp [and_comm]
  | cons a l ih =>
    rw [List.forall_mem_cons] at h
    rw [returns_collect_cons, List.forall_mem_cons]
    constructor
    · rintro ⟨b, rest, s₁, hb, hrest, rfl⟩
      obtain ⟨rfl, hg⟩ := (h.1 b s₁).mp hb
      obtain ⟨rfl, hall, rfl⟩ := (ih h.2).mp hrest
      exact ⟨rfl, ⟨by simp [hg], hall⟩, by rw [List.filterMap_cons, hg]⟩
    · rintro ⟨rfl, ⟨hsome, hall⟩, rfl⟩
      obtain ⟨b, hg⟩ := Option.isSome_iff_exists.mp hsome
      exact ⟨b, _, _, (h.1 b _).mpr ⟨rfl, hg⟩, (ih h.2).mpr ⟨rfl, hall, rfl⟩,
        by rw [List.filterMap_cons, hg]⟩

theorem exists_returns_collect {γ : Type} {f : α → Stateful σ ε β} {φ : β → γ} {ψ : α → γ}
    {l : List α} (h : ∀ a ∈ l, ∃ b, (∀ s, Returns (f a) s b s) ∧ φ b = ψ a) :
    ∃ bs, (∀ s, Returns (collect f l) s bs s) ∧ bs.map φ = l.map ψ := by
  induction l with
  | nil => exact ⟨[], fun s => returns_collect_nil.mpr ⟨rfl, rfl⟩, rfl⟩
  | cons a l ih =>
    rw [List.forall_mem_cons] at h
    obtain ⟨b, hb, heq⟩ := h.1
    obtain ⟨bs, hbs, hmap⟩ := ih h.2
    exact ⟨b :: bs, fun s => returns_collect_cons.mpr ⟨b, bs, s, hb s, hbs s, rfl⟩,
      by rw [List.map_cons, List.map_cons, heq, hmap]⟩

end Stateful

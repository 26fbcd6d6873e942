import Idea.System.Stateful

/-! # Rules for computations that may raise

A triple says what holds of the state when a computation ends normally with a result, and what
holds when it ends with an exception. The rules follow the ways in which computations are put
together, so that a proof about a computation goes along its text.
-/

namespace Stateful

variable {σ ε α β : Type}

/-- From a state with `P`, a normal end has `Q` and an exception has `E`. -/
def Triple (P : σ → Prop) (x : Stateful σ ε α) (Q : α → σ → Prop) (E : ε → σ → Prop) : Prop :=
  ∀ s r s', P s → x.run s = (r, s') → (∀ a, r = .ok a → Q a s') ∧ ∀ e, r = .error e → E e s'

def attempt (x : Stateful σ ε α) : Stateful σ ε (Except ε α) :=
  ⟨fun s => (.ok (x.run s).1, (x.run s).2)⟩

def collect (f : α → Stateful σ ε β) : List α → Stateful σ ε (List β)
  | [] => pure []
  | a :: as => f a >>= fun b => collect f as >>= fun bs => pure (b :: bs)

namespace Triple

variable {P P' : σ → Prop} {x : Stateful σ ε α} {f : α → Stateful σ ε β} {Q Q' : α → σ → Prop}
  {R : β → σ → Prop} {E E' : ε → σ → Prop}

theorem ok (h : Triple P x Q E) {s s' : σ} {a : α} (hs : P s) (hrun : x.run s = (.ok a, s')) :
    Q a s' :=
  (h s _ s' hs hrun).1 a rfl

theorem error (h : Triple P x Q E) {s s' : σ} {e : ε} (hs : P s)
    (hrun : x.run s = (.error e, s')) : E e s' :=
  (h s _ s' hs hrun).2 e rfl

theorem any {I : σ → Prop} (h : Triple P x (fun _ => I) (fun _ => I)) {s s' : σ}
    {r : Except ε α} (hs : P s) (hrun : x.run s = (r, s')) : I s' := by
  rcases r with e | a
  · exact h.error hs hrun
  · exact h.ok hs hrun

theorem of_forall (h : ∀ s, P s → Triple (· = s) x Q E) : Triple P x Q E :=
  fun s r s' hs hrun => h s hs s r s' rfl hrun

theorem consequence (h : Triple P' x Q' E') (hpre : ∀ s, P s → P' s)
    (hok : ∀ a s, Q' a s → Q a s) (herror : ∀ e s, E' e s → E e s) : Triple P x Q E := by
  intro s r s' hs hrun
  obtain ⟨hq, he⟩ := h s r s' (hpre s hs) hrun
  exact ⟨fun a ha => hok a s' (hq a ha), fun e h => herror e s' (he e h)⟩

theorem pre (h : Triple P' x Q E) (hpre : ∀ s, P s → P' s) : Triple P x Q E :=
  h.consequence hpre (fun _ _ h => h) fun _ _ h => h

theorem of_state {s : σ} (hs : P s) (h : Triple P x Q E) : Triple (· = s) x Q E :=
  h.pre (by rintro _ rfl; exact hs)

theorem post (h : Triple P x Q' E) (hok : ∀ a s, Q' a s → Q a s) : Triple P x Q E :=
  h.consequence (fun _ h => h) hok fun _ _ h => h

theorem and (h : Triple P x Q E) (h' : Triple P x Q' E') :
    Triple P x (fun a s => Q a s ∧ Q' a s) fun e s => E e s ∧ E' e s := by
  intro s r s' hs hrun
  obtain ⟨hq, he⟩ := h s r s' hs hrun
  obtain ⟨hq', he'⟩ := h' s r s' hs hrun
  exact ⟨fun a ha => ⟨hq a ha, hq' a ha⟩, fun e h => ⟨he e h, he' e h⟩⟩

theorem pure {a : α} (h : ∀ s, P s → Q a s) : Triple P (Pure.pure a : Stateful σ ε α) Q E := by
  intro s r s' hs hrun
  obtain ⟨rfl, rfl⟩ := Prod.mk.inj hrun
  refine ⟨fun b hb => ?_, fun e he => nomatch he⟩
  obtain rfl := Except.ok.inj hb
  exact h s hs

theorem raise {e : ε} (h : ∀ s, P s → E e s) : Triple P (Stateful.raise e : Stateful σ ε α) Q E := by
  intro s r s' hs hrun
  obtain ⟨rfl, rfl⟩ := Prod.mk.inj hrun
  refine ⟨fun b hb => (nomatch hb), fun e' he => ?_⟩
  obtain rfl := Except.error.inj he
  exact h s hs

theorem bind (hx : Triple P x Q E) (hf : ∀ a, Triple (Q a) (f a) R E) :
    Triple P (x >>= f) R E := by
  intro s r s' hs hrun
  rcases bind_cases hrun with ⟨e, hx', rfl⟩ | ⟨a, s₁, hx', hrest⟩
  · refine ⟨fun b hb => (nomatch hb), fun e' he => ?_⟩
    obtain rfl := Except.error.inj he
    exact hx.error hs hx'
  · exact hf a s₁ r s' (hx.ok hs hx') hrest

theorem get_bind {f : σ → Stateful σ ε β} (h : ∀ s, P s → Triple (· = s) (f s) R E) :
    Triple P (Stateful.get >>= f) R E :=
  fun s r s' hs hrun => h s hs s r s' rfl hrun

theorem modify {g : σ → σ} {Q : Unit → σ → Prop} (h : ∀ s, P s → Q () (g s)) :
    Triple P (Stateful.modify g : Stateful σ ε Unit) Q E := by
  intro s r s' hs hrun
  obtain ⟨rfl, rfl⟩ := Prod.mk.inj hrun
  exact ⟨fun _ _ => h s hs, fun e he => nomatch he⟩

theorem ofExcept {outcome : Except ε α} (hok : ∀ a s, outcome = .ok a → P s → Q a s)
    (herror : ∀ e s, outcome = .error e → P s → E e s) :
    Triple P (Stateful.ofExcept outcome) Q E := by
  intro s r s' hs hrun
  obtain ⟨rfl, rfl⟩ := Prod.mk.inj hrun
  exact ⟨fun a ha => hok a s ha hs, fun e he => herror e s he hs⟩

theorem attempt (h : Triple P x (fun a => Q' a) E) :
    Triple P (Stateful.attempt x) (fun r s => (∀ a, r = .ok a → Q' a s) ∧ ∀ e, r = .error e → E e s)
      E' := by
  intro s r s' hs hrun
  obtain ⟨rfl, rfl⟩ := Prod.mk.inj hrun
  refine ⟨fun b hb => ?_, fun e he => nomatch he⟩
  obtain rfl := Except.ok.inj hb
  exact h s _ _ hs rfl

theorem ite {c : Prop} [Decidable c] {y : Stateful σ ε α} (hx : c → Triple P x Q E)
    (hy : ¬ c → Triple P y Q E) : Triple P (if c then x else y) Q E := by
  split
  · next h => exact hx h
  · next h => exact hy h

theorem forEach {I : σ → Prop} {f : α → Stateful σ ε Unit} {l : List α}
    (h : ∀ a ∈ l, Triple I (f a) (fun _ => I) E) :
    Triple I (Stateful.forEach f l) (fun _ => I) E := by
  induction l with
  | nil => exact pure fun _ h => h
  | cons a l ih =>
    rw [List.forall_mem_cons] at h
    exact bind h.1 fun _ => ih h.2

theorem forEach_rounds {I : List α → σ → Prop} {f : α → Stateful σ ε Unit} {l : List α}
    {E : ε → σ → Prop} {done : List α}
    (h : ∀ a ∈ l, ∀ done, Triple (I done) (f a) (fun _ => I (done ++ [a])) E) :
    Triple (I done) (Stateful.forEach f l) (fun _ => I (done ++ l)) E := by
  induction l generalizing done with
  | nil =>
    rw [List.append_nil]
    exact pure fun _ hs => hs
  | cons a l ih =>
    rw [List.forall_mem_cons] at h
    refine bind (h.1 done) fun _ => ?_
    have hrest : Triple (I (done ++ [a])) (Stateful.forEach f l) (fun _ => I (done ++ [a] ++ l)) E :=
      ih h.2
    rwa [List.append_assoc] at hrest

theorem collect {I : σ → Prop} {p : β → Prop} {f : α → Stateful σ ε β} {l : List α}
    (h : ∀ a ∈ l, Triple I (f a) (fun b s => I s ∧ p b) E) :
    Triple I (Stateful.collect f l) (fun bs s => I s ∧ ∀ b ∈ bs, p b) E := by
  induction l with
  | nil => exact pure fun _ h => ⟨h, fun _ hb => absurd hb List.not_mem_nil⟩
  | cons a l ih =>
    rw [List.forall_mem_cons] at h
    refine bind h.1 fun b => of_forall fun s ⟨hs, hb⟩ => ?_
    refine bind (ih h.2 |>.pre fun _ h => h ▸ hs) fun bs => pure fun s ⟨hs, hbs⟩ => ?_
    exact ⟨hs, List.forall_mem_cons.mpr ⟨hb, hbs⟩⟩

end Triple

/-- The computation keeps the invariant unless it raises, and a result has the property. -/
def Ends (I : σ → Prop) (E : ε → σ → Prop) (x : Stateful σ ε α) (p : α → Prop) : Prop :=
  Triple I x (fun a s => I s ∧ p a) E

/-- However the computation ends, it keeps the invariant, and a result has the property. -/
abbrev Yields (I : σ → Prop) (x : Stateful σ ε α) (p : α → Prop) : Prop :=
  Ends I (fun _ => I) x p

/-- However the computation ends, it keeps the invariant. -/
abbrev Keeps (I : σ → Prop) (x : Stateful σ ε α) : Prop := Yields I x fun _ => True

variable {I : σ → Prop} {E E' : ε → σ → Prop} {x : Stateful σ ε α} {f : α → Stateful σ ε β}
  {p p' : α → Prop} {q : β → Prop}

namespace Ends

theorem weaken (h : Ends I E x p) (hp : ∀ a, p a → p' a) : Ends I E x p' :=
  Triple.post h fun a _ ha => ⟨ha.1, hp a ha.2⟩

theorem triple (h : Ends I E x p) (herror : ∀ e s, E e s → E' e s) :
    Triple I x (fun _ => I) E' :=
  Triple.consequence h (fun _ h => h) (fun _ _ h => h.1) herror

theorem pure {a : α} (h : p a) : Ends I E (Pure.pure a : Stateful σ ε α) p :=
  Triple.pure fun _ hs => ⟨hs, h⟩

theorem bind (hx : Ends I E x p) (hf : ∀ a, p a → Ends I E (f a) q) : Ends I E (x >>= f) q :=
  Triple.bind hx fun a => Triple.of_forall fun _ ⟨hs, ha⟩ => (hf a ha).pre fun _ h => h ▸ hs

theorem get_bind {f : σ → Stateful σ ε β} (h : ∀ s, Ends I E (f s) q) :
    Ends I E (Stateful.get >>= f) q :=
  Triple.get_bind fun s hs => Triple.pre (h s) fun _ h => h ▸ hs

theorem modify {g : σ → σ} (h : ∀ s, I s → I (g s)) :
    Ends I E (Stateful.modify g : Stateful σ ε Unit) fun _ => True :=
  Triple.modify fun s hs => ⟨h s hs, trivial⟩

theorem attempt (h : Yields I x p) :
    Ends I E' (Stateful.attempt x : Stateful σ ε _) fun r => ∀ a, r = .ok a → p a := by
  refine (Triple.attempt h).post fun r _ hr => ⟨?_, fun a ha => (hr.1 a ha).2⟩
  rcases r with e | a
  · exact hr.2 e rfl
  · exact (hr.1 a rfl).1

theorem ite {c : Prop} [Decidable c] {y : Stateful σ ε α} (hx : c → Ends I E x p)
    (hy : ¬ c → Ends I E y p) : Ends I E (if c then x else y) p :=
  Triple.ite hx hy

theorem forEach {f : α → Stateful σ ε Unit} {l : List α}
    (h : ∀ a ∈ l, Ends I E (f a) fun _ => True) : Ends I E (Stateful.forEach f l) fun _ => True :=
  (Triple.forEach fun a ha => Triple.post (h a ha) fun _ _ h => h.1).post fun _ _ hs => ⟨hs, trivial⟩

theorem collect {l : List α} (h : ∀ a ∈ l, Ends I E (f a) q) :
    Ends I E (Stateful.collect f l) fun bs => ∀ b ∈ bs, q b :=
  Triple.collect h

theorem collect_forall₂ {r : α → β → Prop} {l : List α} (h : ∀ a ∈ l, Ends I E (f a) (r a)) :
    Ends I E (Stateful.collect f l) (List.Forall₂ r l) := by
  induction l with
  | nil => exact .pure .nil
  | cons a l ih =>
    rw [List.forall_mem_cons] at h
    exact h.1.bind fun b hb => (ih h.2).bind fun bs hbs => .pure (.cons hb hbs)

end Ends

namespace Yields

theorem invariant (h : Yields I x p) {s s' : σ} {r : Except ε α} (hs : I s)
    (hrun : x.run s = (r, s')) : I s' := by
  rcases r with e | a
  · exact Triple.error h hs hrun
  · exact (Triple.ok h hs hrun).1

theorem keeps (h : Yields I x p) : Keeps I x := h.weaken fun _ _ => trivial

theorem raise {e : ε} : Yields I (Stateful.raise e : Stateful σ ε α) p :=
  Triple.raise fun _ hs => hs

end Yields

end Stateful

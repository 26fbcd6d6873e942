import Idea.System.Run
import Mathlib.Logic.Function.Basic

/-! # Programs that share a state

A program ends with a result or an exception, or it makes a call and goes on with the answer.
Several programs run on a shared state, one call at a time and in any order. What a program does
may be proved alone, from what the others are relied on to leave.
-/

inductive Program (Op : Type) (Answer : Op → Type) (ε α : Type) where
  | done (outcome : Except ε α)
  | call (op : Op) (next : Answer op → Program Op Answer ε α)

namespace Program

variable {Op : Type} {Answer : Op → Type} {ε α β σ : Type}

def andThen : Program Op Answer ε α → (Except ε α → Program Op Answer ε β) →
    Program Op Answer ε β
  | done outcome, f => f outcome
  | call op next, f => call op fun a => andThen (next a) f

instance : Monad (Program Op Answer ε) where
  pure a := done (.ok a)
  bind x f := x.andThen fun
    | .ok a => f a
    | .error e => done (.error e)

def raise (e : ε) : Program Op Answer ε α := done (.error e)

def ofExcept (outcome : Except ε α) : Program Op Answer ε α := done outcome

def perform (op : Op) : Program Op Answer ε (Answer op) := call op fun a => done (.ok a)

def orRaise (x : Program Op Answer ε (Except ε α)) : Program Op Answer ε α := x >>= ofExcept

def tryCatch (x : Program Op Answer ε α) (handler : ε → Program Op Answer ε α) :
    Program Op Answer ε α :=
  x.andThen fun
    | .ok a => done (.ok a)
    | .error e => handler e

def attempt (x : Program Op Answer ε α) : Program Op Answer ε (Except ε α) :=
  x.andThen fun outcome => done (.ok outcome)

def forEach (f : β → Program Op Answer ε Unit) : List β → Program Op Answer ε Unit
  | [] => pure ()
  | b :: bs => f b >>= fun _ => forEach f bs

/-- The last part is run however the first one ended; its exception replaces the outcome. -/
def tryFinally (x : Program Op Answer ε α) (last : Program Op Answer ε Unit) :
    Program Op Answer ε α :=
  x.andThen fun outcome => last.andThen fun
    | .ok () => done outcome
    | .error e => done (.error e)

def eval (answer : ∀ op, Answer op) : Program Op Answer ε α → Except ε α
  | done outcome => outcome
  | call op next => eval answer (next (answer op))

theorem eval_andThen (answer : ∀ op, Answer op) (x : Program Op Answer ε α)
    (f : Except ε α → Program Op Answer ε β) :
    eval answer (x.andThen f) = eval answer (f (eval answer x)) := by
  induction x with
  | done outcome => rfl
  | call op next ih => exact ih (answer op)

@[simp] theorem eval_bind (answer : ∀ op, Answer op) (x : Program Op Answer ε α)
    (f : α → Program Op Answer ε β) :
    eval answer (x >>= f) = eval answer x >>= fun a => eval answer (f a) := by
  refine (eval_andThen answer x _).trans ?_
  cases eval answer x <;> rfl

/-- A call that was made: in which state, and with which answer. -/
structure Made (Op : Type) (Answer : Op → Type) (σ : Type) where
  op : Op
  pre : σ
  answer : Answer op

def calls (oracle : (op : Op) → σ → Answer op × σ) : Program Op Answer ε α → σ →
    List (Made Op Answer σ)
  | done _, _ => []
  | call op next, s =>
    ⟨op, s, (oracle op s).1⟩ :: calls oracle (next (oracle op s).1) (oracle op s).2

theorem eval_bind_of_ok {answer : ∀ op, Answer op} {x : Program Op Answer ε α} {a : α}
    {f : α → Program Op Answer ε β} (h : eval answer x = .ok a) :
    eval answer (x >>= f) = eval answer (f a) := by
  rw [eval_bind, h]
  rfl

theorem eval_bind_eq_ok {answer : ∀ op, Answer op} {x : Program Op Answer ε α}
    {f : α → Program Op Answer ε β} {b : β} :
    eval answer (x >>= f) = .ok b ↔
      ∃ a, eval answer x = .ok a ∧ eval answer (f a) = .ok b := by
  rw [eval_bind]
  cases eval answer x with
  | error e => exact ⟨fun h => (nomatch h), fun ⟨_, h, _⟩ => (nomatch h)⟩
  | ok a =>
    refine ⟨fun h => ⟨a, rfl, h⟩, ?_⟩
    rintro ⟨a', ha, h⟩
    obtain rfl := Except.ok.inj ha
    exact h

@[simp] theorem eval_perform (answer : ∀ op, Answer op) (op : Op) :
    eval answer (perform op : Program Op Answer ε (Answer op)) = .ok (answer op) := rfl

@[simp] theorem eval_orRaise (answer : ∀ op, Answer op) (x : Program Op Answer ε (Except ε α)) :
    eval answer x.orRaise = eval answer x >>= fun a => a :=
  eval_bind answer x _

def advance (oracle : (op : Op) → σ → Answer op × σ) :
    ℕ → Program Op Answer ε α → σ → Program Op Answer ε α × σ
  | 0, x, s => (x, s)
  | _, done outcome, s => (done outcome, s)
  | n + 1, call op next, s => advance oracle n (next (oracle op s).1) (oracle op s).2

theorem mem_calls {oracle : (op : Op) → σ → Answer op × σ} {x : Program Op Answer ε α} {s : σ}
    {made : Made Op Answer σ} (h : made ∈ x.calls oracle s) :
    made.answer = (oracle made.op made.pre).1 := by
  induction x generalizing s with
  | done outcome => exact absurd h List.not_mem_nil
  | call op next ih =>
    rcases List.mem_cons.mp h with rfl | h
    · rfl
    · exact ih _ h

/-- Every call of the program has the property. -/
def OnlyCalls (p : Op → Prop) : Program Op Answer ε α → Prop
  | done _ => True
  | call op next => p op ∧ ∀ a, OnlyCalls p (next a)

namespace OnlyCalls

variable {p : Op → Prop} {x : Program Op Answer ε α}

theorem andThen {f : Except ε α → Program Op Answer ε β} (h : x.OnlyCalls p)
    (hf : ∀ outcome, (f outcome).OnlyCalls p) : (x.andThen f).OnlyCalls p := by
  induction x with
  | done outcome => exact hf outcome
  | call op next ih => exact ⟨h.1, fun a => ih a (h.2 a)⟩

theorem bind {f : α → Program Op Answer ε β} (h : x.OnlyCalls p) (hf : ∀ a, (f a).OnlyCalls p) :
    (x >>= f).OnlyCalls p :=
  h.andThen fun
    | .ok a => hf a
    | .error _ => trivial

theorem mono {p' : Op → Prop} (h : x.OnlyCalls p) (hp : ∀ op, p op → p' op) :
    x.OnlyCalls p' := by
  induction x with
  | done outcome => trivial
  | call op next ih => exact ⟨hp op h.1, fun a => ih a (h.2 a)⟩

theorem perform {op : Op} (h : p op) :
    (Program.perform op : Program Op Answer ε (Answer op)).OnlyCalls p :=
  ⟨h, fun _ => trivial⟩

theorem forEach {f : β → Program Op Answer ε Unit} (h : ∀ b, (f b).OnlyCalls p) (l : List β) :
    (Program.forEach f l).OnlyCalls p := by
  induction l with
  | nil => trivial
  | cons b l ih => exact (h b).bind fun _ => ih

end OnlyCalls

section Safe

/-- What a call does to the state, what the others do between two calls, what the program owes
the others, and what each of its calls has to meet. -/
structure Terms (Op : Type) (Answer : Op → Type) (σ : Type) where
  effect : (op : Op) → σ → Answer op → σ → Prop
  rely : σ → σ → Prop
  guarantee : σ → σ → Prop
  meets : (op : Op) → σ → Answer op → Prop

variable (terms : Terms Op Answer σ)

/-- From a state on the program meets its terms, and it ends as asked. -/
def Safe (Q : Except ε α → σ → Prop) : Program Op Answer ε α → σ → Prop
  | done outcome, s => ∀ s', terms.rely s s' → Q outcome s'
  | call op next, s => ∀ s', terms.rely s s' → ∀ a s'', terms.effect op s' a s'' →
      terms.guarantee s' s'' ∧ terms.meets op s' a ∧ Safe Q (next a) s''

variable {terms} {Q : Except ε α → σ → Prop} {R : Except ε β → σ → Prop}
  {x : Program Op Answer ε α} {s s' : σ}

theorem Safe.of_rely (htrans : ∀ {s s' s''}, terms.rely s s' → terms.rely s' s'' →
    terms.rely s s'') (h : Safe terms Q x s) (hs : terms.rely s s') : Safe terms Q x s' := by
  cases x with
  | done outcome => exact fun s'' hs' => h s'' (htrans hs hs')
  | call op next => exact fun s'' hs' => h s'' (htrans hs hs')

theorem Safe.andThen (hrefl : ∀ s, terms.rely s s) {f : Except ε α → Program Op Answer ε β}
    (h : Safe terms Q x s) (hf : ∀ outcome s, Q outcome s → Safe terms R (f outcome) s) :
    Safe terms R (x.andThen f) s := by
  induction x generalizing s with
  | done outcome => exact hf outcome s (h s (hrefl s))
  | call op next ih =>
    intro s' hs' a s'' ha
    obtain ⟨hguarantee, hmeets, hnext⟩ := h s' hs' a s'' ha
    exact ⟨hguarantee, hmeets, ih a hnext⟩

theorem Safe.post {Q' : Except ε α → σ → Prop} (h : Safe terms Q x s)
    (hQ : ∀ outcome s, Q outcome s → Q' outcome s) : Safe terms Q' x s := by
  induction x generalizing s with
  | done outcome => exact fun s' hs' => hQ outcome s' (h s' hs')
  | call op next ih =>
    intro s' hs' a s'' ha
    obtain ⟨hguarantee, hmeets, hnext⟩ := h s' hs' a s'' ha
    exact ⟨hguarantee, hmeets, ih a hnext⟩

theorem Safe.and {Q' : Except ε α → σ → Prop} (h : Safe terms Q x s) (h' : Safe terms Q' x s) :
    Safe terms (fun outcome s => Q outcome s ∧ Q' outcome s) x s := by
  induction x generalizing s with
  | done outcome => exact fun s' hs' => ⟨h s' hs', h' s' hs'⟩
  | call op next ih =>
    intro s' hs' a s'' ha
    obtain ⟨hguarantee, hmeets, hnext⟩ := h s' hs' a s'' ha
    exact ⟨hguarantee, hmeets, ih a hnext (h' s' hs' a s'' ha).2.2⟩

end Safe

def ends (Q : α → σ → Prop) (E : ε → σ → Prop) : Except ε α → σ → Prop
  | .ok a => Q a
  | .error e => E e

/-- The others do not take the property from a state. -/
def Stable (terms : Terms Op Answer σ) (P : σ → Prop) : Prop :=
  ∀ s s', P s → terms.rely s s' → P s'

/-- From a state with `P` the program meets its terms, a normal end has `Q` and an exception has
`E`. -/
def Ensures (terms : Terms Op Answer σ) (P : σ → Prop) (x : Program Op Answer ε α)
    (Q : α → σ → Prop) (E : ε → σ → Prop) : Prop :=
  ∀ s, P s → x.Safe terms (ends Q E) s

namespace Ensures

variable {terms : Terms Op Answer σ} {P P' : σ → Prop} {x : Program Op Answer ε α}
  {f : α → Program Op Answer ε β} {Q Q' : α → σ → Prop} {R : β → σ → Prop} {E E' : ε → σ → Prop}

theorem consequence (h : Ensures terms P' x Q' E') (hpre : ∀ s, P s → P' s)
    (hok : ∀ a s, Q' a s → Q a s) (herror : ∀ e s, E' e s → E e s) : Ensures terms P x Q E := by
  refine fun s hs => (h s (hpre s hs)).post fun outcome s hq => ?_
  cases outcome with
  | ok a => exact hok a s hq
  | error e => exact herror e s hq

theorem pre (h : Ensures terms P' x Q E) (hpre : ∀ s, P s → P' s) : Ensures terms P x Q E :=
  h.consequence hpre (fun _ _ h => h) fun _ _ h => h

theorem of_done {outcome : Except ε α} (hP : Stable terms P)
    (h : ∀ s, P s → ends Q E outcome s) : Ensures terms P (done outcome) Q E :=
  fun s hs s' hs' => h s' (hP s s' hs hs')

theorem pure {a : α} (hP : Stable terms P) (h : ∀ s, P s → Q a s) :
    Ensures terms P (Pure.pure a : Program Op Answer ε α) Q E :=
  of_done hP h

theorem raise {e : ε} (hP : Stable terms P) (h : ∀ s, P s → E e s) :
    Ensures terms P (Program.raise e : Program Op Answer ε α) Q E :=
  of_done hP h

theorem ofExcept {outcome : Except ε α} (hP : Stable terms P)
    (hok : ∀ a s, outcome = .ok a → P s → Q a s)
    (herror : ∀ e s, outcome = .error e → P s → E e s) :
    Ensures terms P (Program.ofExcept outcome) Q E := by
  refine of_done hP fun s hs => ?_
  cases outcome with
  | ok a => exact hok a s rfl hs
  | error e => exact herror e s rfl hs

theorem andThen (hrefl : ∀ s, terms.rely s s) {g : Except ε α → Program Op Answer ε β}
    (hx : Ensures terms P x Q E) (hok : ∀ a, Ensures terms (Q a) (g (.ok a)) R E')
    (herror : ∀ e, Ensures terms (E e) (g (.error e)) R E') :
    Ensures terms P (x.andThen g) R E' := by
  refine fun s hs => (hx s hs).andThen hrefl fun outcome s hq => ?_
  cases outcome with
  | ok a => exact hok a s hq
  | error e => exact herror e s hq

theorem bind (hrefl : ∀ s, terms.rely s s) (hE : ∀ e, Stable terms (E e))
    (hx : Ensures terms P x Q E) (hf : ∀ a, Ensures terms (Q a) (f a) R E) :
    Ensures terms P (x >>= f) R E :=
  andThen hrefl hx hf fun e => of_done (hE e) fun _ h => h

theorem perform {op : Op} {Q : Answer op → σ → Prop} (hP : Stable terms P)
    (hQ : ∀ a, Stable terms (Q a))
    (h : ∀ s a s', P s → terms.effect op s a s' →
      terms.guarantee s s' ∧ terms.meets op s a ∧ Q a s') :
    Ensures terms P (Program.perform op) Q E := by
  intro s hs s' hs' a s'' ha
  obtain ⟨hguarantee, hmeets, hq⟩ := h s' a s'' (hP s s' hs hs') ha
  exact ⟨hguarantee, hmeets, fun s₃ hs₃ => hQ a s'' s₃ hq hs₃⟩

theorem of_onlyCalls {p : Op → Prop} (hP : Stable terms P) (hx : x.OnlyCalls p)
    (h : ∀ op, p op → ∀ s a s', P s → terms.effect op s a s' →
      terms.guarantee s s' ∧ terms.meets op s a ∧ P s') :
    Ensures terms P x (fun _ => P) fun _ => P := by
  induction x with
  | done outcome =>
    refine of_done hP fun s hs => ?_
    cases outcome <;> exact hs
  | call op next ih =>
    intro s hs s' hs' a s'' ha
    obtain ⟨hguarantee, hmeets, hkept⟩ := h op hx.1 s' a s'' (hP s s' hs hs') ha
    exact ⟨hguarantee, hmeets, ih a (hx.2 a) s'' hkept⟩

theorem ite {c : Prop} [Decidable c] {y : Program Op Answer ε α}
    (hx : c → Ensures terms P x Q E) (hy : ¬ c → Ensures terms P y Q E) :
    Ensures terms P (if c then x else y) Q E := by
  split
  · next h => exact hx h
  · next h => exact hy h

theorem tryCatch (hrefl : ∀ s, terms.rely s s) {handler : ε → Program Op Answer ε α}
    {N : ε → σ → Prop} (hx : Ensures terms P x Q N) (hQ : ∀ a, Stable terms (Q a))
    (hhandler : ∀ e, Ensures terms (N e) (handler e) Q E) :
    Ensures terms P (x.tryCatch handler) Q E :=
  andThen hrefl hx (fun a => of_done (hQ a) fun _ h => h) hhandler

theorem attempt (hrefl : ∀ s, terms.rely s s) (hx : Ensures terms P x Q E)
    (hQ : ∀ a, Stable terms (Q a)) (hE : ∀ e, Stable terms (E e)) :
    Ensures terms P x.attempt (ends Q E) E' :=
  andThen hrefl hx (fun a => of_done (hQ a) fun _ h => h) fun e => of_done (hE e) fun _ h => h

theorem forEach (hrefl : ∀ s, terms.rely s s) (hE : ∀ e, Stable terms (E e)) {I : σ → Prop}
    (hI : Stable terms I) {f : β → Program Op Answer ε Unit} {l : List β}
    (h : ∀ b ∈ l, Ensures terms I (f b) (fun _ => I) E) :
    Ensures terms I (Program.forEach f l) (fun _ => I) E := by
  induction l with
  | nil => exact pure hI fun _ h => h
  | cons b l ih =>
    rw [List.forall_mem_cons] at h
    exact bind hrefl hE h.1 fun _ => ih h.2

theorem tryFinally (hrefl : ∀ s, terms.rely s s) {last : Program Op Answer ε Unit}
    {M : α → σ → Prop} {N : ε → σ → Prop} (hx : Ensures terms P x M N)
    (hQ : ∀ a, Stable terms (Q a)) (hE : ∀ e, Stable terms (E e))
    (hok : ∀ a, Ensures terms (M a) last (fun _ => Q a) E)
    (herror : ∀ e, Ensures terms (N e) last (fun _ => E e) E) :
    Ensures terms P (x.tryFinally last) Q E :=
  andThen hrefl hx
    (fun a => andThen hrefl (hok a) (fun _ => of_done (hQ a) fun _ h => h)
      fun e => of_done (hE e) fun _ h => h)
    fun e => andThen hrefl (herror e) (fun _ => of_done (hE e) fun _ h => h)
      fun e => of_done (hE e) fun _ h => h

end Ensures

end Program

/-! ## Systems of programs -/

/-- Which programs may be started, what a call does, and what else may happen to the state. -/
structure ThreadSystem (ι Op : Type) (Answer : Op → Type) (ε α σ : Type) where
  starts : ι → Program Op Answer ε α → Prop
  effect : ι → (op : Op) → σ → Answer op → σ → Prop
  outside : σ → σ → Prop

structure Threads (ι Op : Type) (Answer : Op → Type) (ε α σ : Type) where
  shared : σ
  thread : ι → Program Op Answer ε α

namespace ThreadSystem

variable {ι Op : Type} {Answer : Op → Type} {ε α σ : Type} [DecidableEq ι]

inductive Act (ι Op : Type) (Answer : Op → Type) (ε α : Type) where
  | start (i : ι) (program : Program Op Answer ε α)
  | call (i : ι) (op : Op) (answer : Answer op)
  | outside

/-- A thread that has ended starts another program, one thread makes a call, or something else
happens to the state. -/
inductive Step (system : ThreadSystem ι Op Answer ε α σ) :
    Threads ι Op Answer ε α σ → Act ι Op Answer ε α → Threads ι Op Answer ε α σ → Prop
  | start {s i program outcome} : s.thread i = .done outcome → system.starts i program →
      Step system s (.start i program) { s with thread := Function.update s.thread i program }
  | call {s i op next a shared} : s.thread i = .call op next →
      system.effect i op s.shared a shared →
      Step system s (.call i op a) ⟨shared, Function.update s.thread i (next a)⟩
  | outside {s shared} : system.outside s.shared shared →
      Step system s .outside { s with shared := shared }

/-- What the threads rely on: the other threads and what happens outside keep to it. A call is
one that `allowed` lets through, and has to meet `meets`. -/
structure Contract (system : ThreadSystem ι Op Answer ε α σ) where
  rely : ι → σ → σ → Prop
  rely_refl : ∀ i s, rely i s s
  rely_trans : ∀ i {s s' s''}, rely i s s' → rely i s' s'' → rely i s s''
  rely_outside : ∀ i {s s'}, system.outside s s' → rely i s s'
  allowed : ι → (op : Op) → σ → Answer op → Prop
  meets : ι → (op : Op) → σ → Answer op → Prop
  /-- What holds of a thread that has ended. -/
  idle : ι → σ → Prop

variable {system : ThreadSystem ι Op Answer ε α σ} (contract : Contract system)

def Contract.terms (i : ι) : Program.Terms Op Answer σ where
  effect op s a s' := system.effect i op s a s' ∧ contract.allowed i op s a
  rely := contract.rely i
  guarantee s s' := ∀ j, j ≠ i → contract.rely j s s'
  meets := contract.meets i

/-- Every thread is safe. -/
def Contract.Kept (s : Threads ι Op Answer ε α σ) : Prop :=
  ∀ i, (s.thread i).Safe (contract.terms i) (fun _ => contract.idle i) s.shared

def onCalls (P : ι → (op : Op) → σ → Answer op → Prop) :
    Edge (Threads ι Op Answer ε α σ) (Act ι Op Answer ε α) → Prop
  | ⟨s, .call i op a, _⟩ => P i op s.shared a
  | _ => True

variable {contract}

section Steps

variable (hstarts : ∀ i program s, system.starts i program → contract.idle i s →
  program.Safe (contract.terms i) (fun _ => contract.idle i) s)
include hstarts

theorem Contract.Kept.step {s s' : Threads ι Op Answer ε α σ} {act : Act ι Op Answer ε α}
    (h : contract.Kept s) (hstep : Step system s act s')
    (hallowed : onCalls contract.allowed ⟨s, act, s'⟩) :
    contract.Kept s' := by
  cases hstep with
  | @start i program outcome hdone hprogram =>
    intro j
    by_cases hj : j = i
    · subst hj
      have hidle := h j
      rw [hdone] at hidle
      simp only [Function.update_self]
      exact hstarts j program _ hprogram (hidle _ (contract.rely_refl j _))
    · simp only [Function.update_of_ne hj]
      exact h j
  | @call i op next a shared hcall heffect =>
    have hi := h i
    rw [hcall] at hi
    obtain ⟨hguarantee, -, hnext⟩ := hi _ (contract.rely_refl i _) a shared ⟨heffect, hallowed⟩
    intro j
    by_cases hj : j = i
    · subst hj
      simp only [Function.update_self]
      exact hnext
    · simp only [Function.update_of_ne hj]
      exact (h j).of_rely (contract.rely_trans j) (hguarantee j hj)
  | outside houtside =>
    intro j
    exact Program.Safe.of_rely (contract.rely_trans j) (h j) (contract.rely_outside j houtside)

omit hstarts in
theorem Contract.Kept.meets {s s' : Threads ι Op Answer ε α σ} {act : Act ι Op Answer ε α}
    (h : contract.Kept s) (hstep : Step system s act s')
    (hallowed : onCalls contract.allowed ⟨s, act, s'⟩) :
    onCalls contract.meets ⟨s, act, s'⟩ := by
  cases hstep with
  | @call i op next a shared hcall heffect =>
    have hi := h i
    rw [hcall] at hi
    exact (hi _ (contract.rely_refl i _) a shared ⟨heffect, hallowed⟩).2.1
  | _ => trivial

theorem Contract.Kept.run {s₀ s : Threads ι Op Answer ε α σ}
    {t : List (Edge (Threads ι Op Answer ε α σ) (Act ι Op Answer ε α))}
    (h : contract.Kept s₀) (hrun : Run (Step system) s₀ t s)
    (hallowed : ∀ e ∈ t, onCalls contract.allowed e) :
    contract.Kept s ∧ ∀ e ∈ t, onCalls contract.meets e :=
  ⟨hrun.invariant_of contract.Kept h (fun hs hstep he => hs.step hstarts hstep he) hallowed,
    hrun.forall_edges_of contract.Kept h (fun hs hstep he => hs.step hstarts hstep he) hallowed
      fun hs hstep he => hs.meets hstep he⟩

end Steps

theorem exists_run_alone (system : ThreadSystem ι Op Answer ε α σ) {i : ι}
    {oracle : (op : Op) → σ → Answer op × σ}
    (horacle : ∀ op s, system.effect i op s (oracle op s).1 (oracle op s).2)
    (program : Program Op Answer ε α) (s : Threads ι Op Answer ε α σ)
    (hprogram : s.thread i = program) :
    ∃ t s', Run (Step system) s t s' ∧ ∀ P : ι → (op : Op) → σ → Answer op → Prop,
      (∀ e ∈ t, onCalls P e) ↔
        ∀ made ∈ program.calls oracle s.shared, P i made.op made.pre made.answer := by
  induction program generalizing s with
  | done outcome => exact ⟨[], s, .nil, fun P => by simp [Program.calls]⟩
  | call op next ih =>
    have hstep : Step system s (.call i op (oracle op s.shared).1)
        ⟨(oracle op s.shared).2, Function.update s.thread i (next (oracle op s.shared).1)⟩ :=
      .call hprogram (horacle op s.shared)
    obtain ⟨t, s', hrun, hcalls⟩ := ih (oracle op s.shared).1
      ⟨(oracle op s.shared).2, Function.update s.thread i (next (oracle op s.shared).1)⟩
      (Function.update_self _ _ _)
    refine ⟨_, s', (Run.single hstep).append hrun, fun P => ?_⟩
    rw [List.singleton_append, List.forall_mem_cons, hcalls P, Program.calls,
      List.forall_mem_cons]
    rfl

end ThreadSystem

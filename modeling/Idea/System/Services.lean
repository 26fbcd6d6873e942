import Idea.System.Faults
import Idea.System.Threads

/-! # Programs that call services

A service answers each call with a result or an exception. A call may also fail on its way: it is
refused and changes nothing, or it is carried out and its answer is lost. A program that runs alone
leaves the service in a state with the record of its calls and of what became of them.
-/

namespace Program

def foldEach {Op : Type} {Answer : Op → Type} {ε β γ : Type}
    (f : β → γ → Program Op Answer ε β) : β → List γ → Program Op Answer ε β
  | b, [] => pure b
  | b, c :: cs => f b c >>= fun b => foldEach f b cs

section Alone

variable {Op : Type} {Answer : Op → Type} {ε α β σ : Type}
  {effect : (op : Op) → σ → Answer op → σ → Prop}

/-- How a program ends that runs alone. -/
inductive Execution (effect : (op : Op) → σ → Answer op → σ → Prop) :
    Program Op Answer ε α → σ → Except ε α → σ → Prop
  | done {outcome s} : Execution effect (.done outcome) s outcome s
  | call {op next s a s₁ outcome s'} : effect op s a s₁ →
      Execution effect (next a) s₁ outcome s' → Execution effect (.call op next) s outcome s'

variable {outcome : Except ε α}

theorem Execution.mono {effect' : (op : Op) → σ → Answer op → σ → Prop} {x : Program Op Answer ε α}
    {s s' : σ} (h : Execution effect x s outcome s')
    (hle : ∀ op s a s', effect op s a s' → effect' op s a s') :
    Execution effect' x s outcome s' := by
  induction h with
  | done => exact .done
  | call heffect _ ih => exact .call (hle _ _ _ _ heffect) ih

def alone (effect : (op : Op) → σ → Answer op → σ → Prop) : Terms Op Answer σ where
  effect := effect
  rely s s' := s = s'
  guarantee _ _ := True
  meets _ _ _ := True

theorem stable_alone (P : σ → Prop) : Stable (alone effect) P := by
  rintro s s' hs ⟨⟩
  exact hs

theorem Safe.execution {Q : Except ε α → σ → Prop} {x : Program Op Answer ε α} {s s' : σ}
    (h : x.Safe (alone effect) Q s) (hrun : Execution effect x s outcome s') : Q outcome s' := by
  induction hrun with
  | done => exact h _ rfl
  | call heffect _ ih => exact ih (h _ rfl _ _ heffect).2.2

/-- From a state with `P` a program that runs alone ends normally with `Q`, or raises with `E`. -/
def Does (effect : (op : Op) → σ → Answer op → σ → Prop) (P : σ → Prop)
    (x : Program Op Answer ε α) (Q : α → σ → Prop) (E : ε → σ → Prop) : Prop :=
  Ensures (alone effect) P x Q E

namespace Does

variable {P P' : σ → Prop} {x : Program Op Answer ε α} {f : α → Program Op Answer ε β}
  {Q Q' : α → σ → Prop} {R : β → σ → Prop} {E E' : ε → σ → Prop} {s s' : σ}

theorem execution (h : Does effect P x Q E) (hs : P s) (hrun : Execution effect x s outcome s') :
    ends Q E outcome s' :=
  (h s hs).execution hrun

theorem consequence (h : Does effect P' x Q' E') (hpre : ∀ s, P s → P' s)
    (hok : ∀ a s, Q' a s → Q a s) (herror : ∀ e s, E' e s → E e s) : Does effect P x Q E :=
  Ensures.consequence h hpre hok herror

theorem pre (h : Does effect P' x Q E) (hpre : ∀ s, P s → P' s) : Does effect P x Q E :=
  Ensures.pre h hpre

theorem post (h : Does effect P x Q' E') (hok : ∀ a s, Q' a s → Q a s)
    (herror : ∀ e s, E' e s → E e s) : Does effect P x Q E :=
  h.consequence (fun _ h => h) hok herror

theorem and (h : Does effect P x Q E) (h' : Does effect P x Q' E') :
    Does effect P x (fun a s => Q a s ∧ Q' a s) fun e s => E e s ∧ E' e s := by
  refine fun s hs => ((h s hs).and (h' s hs)).post fun outcome s hq => ?_
  cases outcome <;> exact hq

theorem of_forall (h : ∀ s, P s → Does effect (· = s) x Q E) : Does effect P x Q E :=
  fun s hs => h s hs s rfl

theorem of_state (hs : P s) (h : Does effect P x Q E) : Does effect (· = s) x Q E :=
  h.pre (by rintro _ rfl; exact hs)

theorem of_imp {p : Prop} (h : p → Does effect P x Q E) :
    Does effect (fun s => P s ∧ p) x Q E :=
  fun s hs => h hs.2 s hs.1

theorem pure {a : α} (h : ∀ s, P s → Q a s) :
    Does effect P (Pure.pure a : Program Op Answer ε α) Q E :=
  Ensures.pure (stable_alone P) h

theorem raise {e : ε} (h : ∀ s, P s → E e s) :
    Does effect P (Program.raise e : Program Op Answer ε α) Q E :=
  Ensures.raise (stable_alone P) h

theorem ofExcept (hok : ∀ a s, outcome = .ok a → P s → Q a s)
    (herror : ∀ e s, outcome = .error e → P s → E e s) :
    Does effect P (Program.ofExcept outcome) Q E :=
  Ensures.ofExcept (stable_alone P) hok herror

theorem bind (hx : Does effect P x Q E) (hf : ∀ a, Does effect (Q a) (f a) R E) :
    Does effect P (x >>= f) R E :=
  Ensures.bind (fun _ => rfl) (fun _ => stable_alone _) hx hf

theorem ite {c : Prop} [Decidable c] {y : Program Op Answer ε α}
    (hx : c → Does effect P x Q E) (hy : ¬ c → Does effect P y Q E) :
    Does effect P (if c then x else y) Q E :=
  Ensures.ite hx hy

theorem tryCatch {handler : ε → Program Op Answer ε α} {N : ε → σ → Prop}
    (hx : Does effect P x Q N) (hhandler : ∀ e, Does effect (N e) (handler e) Q E) :
    Does effect P (x.tryCatch handler) Q E :=
  Ensures.tryCatch (fun _ => rfl) hx (fun _ => stable_alone _) hhandler

theorem forEach {I : σ → Prop} {f : β → Program Op Answer ε Unit} {l : List β}
    (h : ∀ b ∈ l, Does effect I (f b) (fun _ => I) E) :
    Does effect I (Program.forEach f l) (fun _ => I) E :=
  Ensures.forEach (fun _ => rfl) (fun _ => stable_alone _) (stable_alone I) h

theorem perform {op : Op} {Q : Answer op → σ → Prop}
    (h : ∀ s a s', P s → effect op s a s' → Q a s') :
    Does effect P (Program.perform op) Q E :=
  Ensures.perform (stable_alone P) (fun _ => stable_alone _) fun s a s' hs heffect =>
    ⟨trivial, trivial, h s a s' hs heffect⟩

theorem of_onlyCalls {p : Op → Prop} (hx : x.OnlyCalls p)
    (h : ∀ op, p op → ∀ s a s', P s → effect op s a s' → P s') :
    Does effect P x (fun _ => P) fun _ => P :=
  Ensures.of_onlyCalls (stable_alone P) hx fun op hop s a s' hs heffect =>
    ⟨trivial, trivial, h op hop s a s' hs heffect⟩

end Does

theorem Does.foldEach {γ : Type} {E : ε → σ → Prop} {I : β → σ → Prop}
    {f : β → γ → Program Op Answer ε β} {l : List γ} {b : β}
    (h : ∀ c ∈ l, ∀ b, Does effect (I b) (f b c) I E) :
    Does effect (I b) (Program.foldEach f b l) I E := by
  induction l generalizing b with
  | nil => exact .pure fun _ hs => hs
  | cons c l ih =>
    rw [List.forall_mem_cons] at h
    exact .bind (h.1 b) fun _ => ih h.2

def runAlone (oracle : (op : Op) → σ → Answer op × σ) : Program Op Answer ε α → σ → Except ε α × σ
  | .done outcome, s => (outcome, s)
  | .call op next, s => runAlone oracle (next (oracle op s).1) (oracle op s).2

theorem execution_runAlone {oracle : (op : Op) → σ → Answer op × σ}
    (horacle : ∀ op s, effect op s (oracle op s).1 (oracle op s).2) (x : Program Op Answer ε α)
    (s : σ) : Execution effect x s (x.runAlone oracle s).1 (x.runAlone oracle s).2 := by
  induction x generalizing s with
  | done outcome => exact .done
  | call op next ih => exact .call (horacle op s) (ih (oracle op s).1 (oracle op s).2)

end Alone

section Recorded

variable {Op : Type} {Result : Op → Type} {ε α σ : Type}

/-- The state of a service and what became of the calls so far. -/
structure Recorded (Op ε σ : Type) where
  store : σ
  log : List (Op × CallOutcome ε)

/-- What a call does, given what became of it. -/
def Meets (serves : (op : Op) → σ → Except ε (Result op) → σ → Prop) (fate : CallOutcome ε)
    (op : Op) (s : σ) (a : Except ε (Result op)) (s' : σ) : Prop :=
  match fate with
  | .done => serves op s a s'
  | .refused e => a = .error e ∧ s' = s
  | .lost e => a = .error e ∧ ∃ a', serves op s a' s'

/-- The exceptions of calls that fail. -/
def Possible (fails : ε → Prop) : CallOutcome ε → Prop
  | .done => True
  | .refused e | .lost e => fails e

def record (serves : (op : Op) → σ → Except ε (Result op) → σ → Prop) (fails : ε → Prop)
    (op : Op) (s : Recorded Op ε σ) (a : Except ε (Result op)) (s' : Recorded Op ε σ) : Prop :=
  ∃ fate, Possible fails fate ∧ Meets serves fate op s.store a s'.store ∧
    s'.log = s.log ++ [(op, fate)]

theorem record_of_never {serves : (op : Op) → σ → Except ε (Result op) → σ → Prop} {op : Op}
    {s s' : Recorded Op ε σ} {a : Except ε (Result op)}
    (h : record serves (fun _ => False) op s a s') (fails : ε → Prop) :
    record serves fails op s a s' := by
  obtain ⟨fate, hpossible, hmeets⟩ := h
  refine ⟨fate, ?_, hmeets⟩
  cases fate with
  | done => trivial
  | refused e => exact hpossible.elim
  | lost e => exact hpossible.elim

def ask (op : Op) : Program Op (fun op => Except ε (Result op)) ε (Result op) :=
  orRaise (perform op)

variable {effect : (op : Op) → σ → Except ε (Result op) → σ → Prop} {P : σ → Prop} {op : Op}
  {Q : Result op → σ → Prop} {E : ε → σ → Prop}

theorem Does.ask (hok : ∀ s a s', P s → effect op s (.ok a) s' → Q a s')
    (herror : ∀ s e s', P s → effect op s (.error e) s' → E e s') :
    Does effect P (Program.ask op) Q E := by
  refine .bind (Q := fun r s => ends Q E r s) (.perform fun s a s' hs heffect => ?_) fun r => ?_
  · cases a with
    | ok a => exact hok s a s' hs heffect
    | error e => exact herror s e s' hs heffect
  · refine .ofExcept (fun a s hr hs => ?_) fun e s hr hs => ?_
    · subst hr
      exact hs
    · subst hr
      exact hs

theorem Does.ask_record {serves : (op : Op) → σ → Except ε (Result op) → σ → Prop}
    {fails : ε → Prop} {P : Recorded Op ε σ → Prop} {op : Op}
    {Q : Result op → Recorded Op ε σ → Prop} {E : ε → Recorded Op ε σ → Prop}
    (hok : ∀ s a s', P s → serves op s.store (.ok a) s' → Q a ⟨s', s.log ++ [(op, .done)]⟩)
    (hrejected : ∀ s e s', P s → serves op s.store (.error e) s' →
      E e ⟨s', s.log ++ [(op, .done)]⟩)
    (hrefused : ∀ s e, P s → fails e → E e ⟨s.store, s.log ++ [(op, .refused e)]⟩)
    (hlost : ∀ s e a s', P s → fails e → serves op s.store a s' →
      E e ⟨s', s.log ++ [(op, .lost e)]⟩) :
    Does (record serves fails) P (Program.ask op) Q E := by
  refine .ask (fun s a s' hs ⟨fate, hpossible, hmeets, hlog⟩ => ?_)
    fun s e s' hs ⟨fate, hpossible, hmeets, hlog⟩ => ?_
  · obtain ⟨store, log⟩ := s'
    obtain rfl : log = s.log ++ [(op, fate)] := hlog
    cases fate with
    | done => exact hok s a store hs hmeets
    | refused e => cases hmeets.1
    | lost e => cases hmeets.1
  · obtain ⟨store, log⟩ := s'
    obtain rfl : log = s.log ++ [(op, fate)] := hlog
    cases fate with
    | done => exact hrejected s e store hs hmeets
    | refused e' =>
      obtain ⟨he, rfl⟩ := hmeets
      obtain rfl := Except.error.inj he
      exact hrefused s e hs hpossible
    | lost e' =>
      obtain ⟨he, a, ha⟩ := hmeets
      obtain rfl := Except.error.inj he
      exact hlost s e a store hs hpossible ha

end Recorded

end Program

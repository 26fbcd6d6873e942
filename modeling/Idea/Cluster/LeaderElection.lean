import Mathlib.Logic.Function.Basic
import Idea.System.Run

/-! # Leader election

A node that has acquired the lock of the cluster says that it is the leader. The thread of the
election, the call that stops it and the lease of the lock go on independently of each other.
-/

namespace Idea.LeaderElection

inductive Loop where
  | waiting
  | entered
  | acquiring
  | acquired (lock : ℕ)
  | recorded
  | finished
  deriving DecidableEq

/-- The lock was acquired and the node is about to say that it is the leader. -/
def Loop.Appointing : Loop → Prop
  | .acquired _ | .recorded => True
  | _ => False

inductive Stop where
  | idle
  | exiting
  | releasing (lock : ℕ)
  | released
  | passed
  | unset
  | returned
  deriving DecidableEq

structure Node where
  exit : Bool
  isLeader : Bool
  activeLock : Option ℕ
  loop : Loop
  stop : Stop
  deriving DecidableEq

/-- The node that has the lock, if any, and the number of the acquisition. -/
structure State (N : Type) where
  holder : Option (N × ℕ)
  acquisitions : ℕ
  node : N → Node

variable {N : Type} [DecidableEq N]

def State.set (self : State N) (n : N) (node : Node) : State N :=
  { self with node := Function.update self.node n node }

def State.held (self : State N) (n : N) : Option ℕ :=
  match self.holder with
  | some (m, lock) => if m = n then some lock else none
  | none => none

inductive Event (N : Type) where
  | enter (n : N)
  | finish (n : N)
  | skip (n : N)
  | attempt (n : N)
  | acquire (n : N)
  | fail (n : N)
  | record (n : N)
  | unnamed (n : N)
  | setLeader (n : N)
  | stop (n : N)
  | lookup (n : N)
  | release (n : N) (done : Bool)
  | forget (n : N)
  | unsetLeader (n : N)
  | join (n : N)
  | expire (n : N)

/-- The thread of the election goes round its loop. An attempt to acquire the lock may fail, and so
may the command that tells the name of the host. -/
inductive Step : State N → Event N → State N → Prop
  | enter {s : State N} {n : N} : (s.node n).loop = .waiting → (s.node n).exit = false →
      Step s (.enter n) (s.set n { s.node n with loop := .entered })
  | finish {s : State N} {n : N} : (s.node n).loop = .waiting → (s.node n).exit = true →
      Step s (.finish n) (s.set n { s.node n with loop := .finished })
  | skip {s : State N} {n : N} : (s.node n).loop = .entered → (s.node n).isLeader = true →
      Step s (.skip n) (s.set n { s.node n with loop := .waiting })
  | attempt {s : State N} {n : N} : (s.node n).loop = .entered → (s.node n).isLeader = false →
      Step s (.attempt n) (s.set n { s.node n with loop := .acquiring })
  | acquire {s : State N} {n : N} : (s.node n).loop = .acquiring → s.holder = none →
      Step s (.acquire n)
        { s.set n { s.node n with loop := .acquired s.acquisitions } with
          holder := some (n, s.acquisitions)
          acquisitions := s.acquisitions + 1 }
  | fail {s : State N} {n : N} : (s.node n).loop = .acquiring →
      Step s (.fail n) (s.set n { s.node n with loop := .waiting })
  | record {s : State N} {n : N} {lock : ℕ} : (s.node n).loop = .acquired lock →
      Step s (.record n) (s.set n { s.node n with activeLock := some lock, loop := .recorded })
  | unnamed {s : State N} {n : N} : (s.node n).loop = .recorded →
      Step s (.unnamed n) (s.set n { s.node n with loop := .waiting })
  | setLeader {s : State N} {n : N} : (s.node n).loop = .recorded →
      Step s (.setLeader n) (s.set n { s.node n with isLeader := true, loop := .waiting })
  | stop {s : State N} {n : N} : (s.node n).stop = .idle →
      Step s (.stop n) (s.set n { s.node n with exit := true, stop := .exiting })
  -- `if key not in self._active_locks: return`
  | lookup {s : State N} {n : N} : (s.node n).stop = .exiting →
      Step s (.lookup n) (s.set n { s.node n with
        stop := match (s.node n).activeLock with
          | some lock => .releasing lock
          | none => .passed })
  -- the best effort may come to nothing, and a lock that was lost is not released
  | release {s : State N} {n : N} {lock : ℕ} {done : Bool} : (s.node n).stop = .releasing lock →
      Step s (.release n done)
        { s.set n { s.node n with stop := .released } with
          holder := if done ∧ s.holder = some (n, lock) then none else s.holder }
  | forget {s : State N} {n : N} : (s.node n).stop = .released →
      Step s (.forget n) (s.set n { s.node n with activeLock := none, stop := .passed })
  | unsetLeader {s : State N} {n : N} : (s.node n).stop = .passed →
      Step s (.unsetLeader n) (s.set n { s.node n with isLeader := false, stop := .unset })
  | join {s : State N} {n : N} : (s.node n).stop = .unset → (s.node n).loop = .finished →
      Step s (.join n) (s.set n { s.node n with stop := .returned })
  | expire {s : State N} {n : N} {lock : ℕ} : s.holder = some (n, lock) →
      Step s (.expire n) { s with holder := none }

def started : State N where
  holder := none
  acquisitions := 0
  node _ := ⟨false, false, none, .waiting, .idle⟩

/-- A node that says it is the leader has the lock. -/
def Rightful (s : State N) : Prop := ∀ n, (s.node n).isLeader = true → s.held n ≠ none

/-- A node whose election was stopped is no leader and does not have the lock. -/
def Retired (s : State N) : Prop :=
  ∀ n, (s.node n).stop = .returned → (s.node n).isLeader = false ∧ s.held n = none

/-- A lease does not expire while the node is the leader or about to say so. The call that stops an
election does not find the node leading, or with a lock that is still being noted down; from then on
the thread acquires nothing, and the lock there is gets released. -/
def Careful : Edge (State N) (Event N) → Prop
  | ⟨s, .expire n, _⟩ => (s.node n).isLeader = false ∧ ¬ (s.node n).loop.Appointing
  | ⟨s, .lookup n, _⟩ => (s.node n).isLeader = false ∧ ¬ (s.node n).loop.Appointing
  | ⟨s, .acquire n, _⟩ => (s.node n).stop = .idle ∨ (s.node n).stop = .exiting
  | ⟨_, .release _ done, _⟩ => done = true
  | _ => True

/-- What is known of a node, given by which acquisition it has the lock. -/
structure Node.Sound (v : Node) (held : Option ℕ) : Prop where
  leader : v.isLeader = true → held ≠ none
  acquired : ∀ lock, v.loop = .acquired lock → held = some lock
  recorded : v.loop = .recorded → held ≠ none
  active : ∀ lock, held = some lock → v.loop = .acquired lock ∨ v.activeLock = some lock
  exit : v.stop ≠ .idle → v.exit = true
  quiet : v.stop = .idle ∨ v.stop = .exiting ∨ v.isLeader = false ∧ ¬ v.loop.Appointing
  releasing : ∀ lock, v.stop = .releasing lock → v.activeLock = some lock
  freed : v.stop = .released ∨ v.stop = .passed ∨ v.stop = .unset ∨ v.stop = .returned →
    held = none

def Sound (s : State N) : Prop := ∀ n, (s.node n).Sound (s.held n)

theorem sound_started : Sound (started : State N) := by
  intro n
  constructor <;> simp [started, State.held]

variable {s s' : State N} {n m : N} {e : Event N}

@[simp] theorem held_set (v : Node) : (s.set n v).held m = s.held m := rfl

@[simp] theorem node_set_self (v : Node) : (s.set n v).node n = v := by
  simp [State.set]

theorem node_set_of_ne (v : Node) (h : m ≠ n) : (s.set n v).node m = s.node m := by
  simp [State.set, h]

theorem Sound.set (h : Sound s) {v : Node} (hv : v.Sound (s.held n)) : Sound (s.set n v) := by
  intro m
  by_cases hm : m = n
  · subst hm
    simpa using hv
  · rw [node_set_of_ne v hm]
    exact h m

theorem Sound.transfer (h : Sound s) {t : State N}
    (hnode : ∀ m, m ≠ n → t.node m = s.node m) (hheld : ∀ m, m ≠ n → t.held m = s.held m)
    (hn : (t.node n).Sound (t.held n)) : Sound t := by
  intro m
  by_cases hm : m = n
  · subst hm
    exact hn
  · rw [hnode m hm, hheld m hm]
    exact h m

section Node

variable {v : Node} {held : Option ℕ}

theorem Node.Sound.move (h : v.Sound held) (hl : ∀ lock, v.loop ≠ .acquired lock) {l : Loop}
    (hm : ¬ l.Appointing) : ({ v with loop := l } : Node).Sound held where
  leader := h.leader
  acquired lock hlock := absurd (by simp_all [Loop.Appointing]) hm
  recorded hr := absurd (by simp_all [Loop.Appointing]) hm
  active lock hlock := .inr ((h.active lock hlock).resolve_left (hl lock))
  exit := h.exit
  quiet := h.quiet.imp_right (Or.imp_right fun hq => ⟨hq.1, hm⟩)
  releasing := h.releasing
  freed := h.freed

theorem Node.Sound.idle_or_exiting (h : v.Sound held) (hl : v.loop.Appointing) :
    v.stop = .idle ∨ v.stop = .exiting := by
  rcases h.quiet with hi | hx | hq
  · exact .inl hi
  · exact .inr hx
  · exact absurd hl hq.2

theorem Node.Sound.record (h : v.Sound held) {lock : ℕ} (hl : v.loop = .acquired lock) :
    ({ v with activeLock := some lock, loop := .recorded } : Node).Sound held where
  leader := h.leader
  acquired := by simp
  recorded _ := by simp [h.acquired lock hl]
  active other hother := by
    rw [h.acquired lock hl] at hother
    exact .inr hother
  exit := h.exit
  quiet := by
    have hs := h.idle_or_exiting (by simp [hl, Loop.Appointing])
    tauto
  releasing other hr := by
    have hs := h.idle_or_exiting (by simp [hl, Loop.Appointing])
    simp_all
  freed hf := by
    rcases h.idle_or_exiting (by simp [hl, Loop.Appointing]) with hs | hs <;> simp [hs] at hf

theorem Node.Sound.setLeader (h : v.Sound held) (hl : v.loop = .recorded) :
    ({ v with isLeader := true, loop := .waiting } : Node).Sound held where
  leader _ := h.recorded hl
  acquired := by simp
  recorded := by simp
  active lock hlock := .inr ((h.active lock hlock).resolve_left (by simp [hl]))
  exit := h.exit
  quiet := by
    have hs := h.idle_or_exiting (by simp [hl, Loop.Appointing])
    tauto
  releasing := h.releasing
  freed := h.freed

theorem Node.Sound.acquire (h : v.Sound none) (hs : v.stop = .idle ∨ v.stop = .exiting)
    (lock : ℕ) : ({ v with loop := .acquired lock } : Node).Sound (some lock) where
  leader _ := by simp
  acquired := by simp
  recorded := by simp
  active := by simp
  exit := h.exit
  quiet := by tauto
  releasing := h.releasing
  freed hf := by
    rcases hs with hs | hs <;> simp [hs] at hf

theorem Node.Sound.stop (h : v.Sound held) :
    ({ v with exit := true, stop := .exiting } : Node).Sound held where
  leader := h.leader
  acquired := h.acquired
  recorded := h.recorded
  active := h.active
  exit _ := rfl
  quiet := .inr (.inl rfl)
  releasing := by simp
  freed := by simp

theorem Node.Sound.lookup (h : v.Sound held) (hx : v.stop = .exiting) (hv : v.isLeader = false)
    (hl : ¬ v.loop.Appointing) :
    ({ v with stop := match v.activeLock with
        | some lock => .releasing lock
        | none => .passed } : Node).Sound held where
  leader := h.leader
  acquired := h.acquired
  recorded := h.recorded
  active := h.active
  exit _ := h.exit (by simp [hx])
  quiet := .inr (.inr ⟨hv, hl⟩)
  releasing lock hr := by
    cases ha : v.activeLock <;> simp_all
  freed hf := by
    rcases hh : held with _ | lock
    · rfl
    · rcases h.active lock hh with ha | ha
      · simp [ha, Loop.Appointing] at hl
      · simp [ha] at hf

theorem Node.Sound.lose (h : v.Sound held) (hv : v.isLeader = false) (hl : ¬ v.loop.Appointing) :
    v.Sound none where
  leader hn := by simp [hv] at hn
  acquired lock ha := absurd (by simp [ha, Loop.Appointing]) hl
  recorded hr := absurd (by simp [hr, Loop.Appointing]) hl
  active := by simp
  exit := h.exit
  quiet := h.quiet
  releasing := h.releasing
  freed _ := rfl

theorem Node.Sound.pass (h : v.Sound none) (hs : v.stop ≠ .idle) (hx : v.stop ≠ .exiting)
    {w : Node} (hw : w.isLeader = false) (he : w.exit = v.exit) (hl : w.loop = v.loop)
    (hr : ∀ lock, w.stop ≠ .releasing lock) : w.Sound none := by
  obtain ⟨_, hm⟩ := h.quiet.resolve_left hs |>.resolve_left hx
  constructor
  · simp [hw]
  · intro lock ha
    exact absurd (by simp [← hl, ha, Loop.Appointing]) hm
  · intro ha
    exact absurd (by simp [← hl, ha, Loop.Appointing]) hm
  · simp
  · intro _
    rw [he]
    exact h.exit hs
  · exact .inr (.inr ⟨hw, hl ▸ hm⟩)
  · intro lock ha
    exact absurd ha (hr lock)
  · simp

end Node

theorem held_eq_some_iff {lock : ℕ} : s.held n = some lock ↔ s.holder = some (n, lock) := by
  unfold State.held
  split
  · rename_i hh
    simp [hh]
  · rename_i hh
    simp [hh]

theorem held_ne (h : s.holder = some (n, a)) (hm : m ≠ n) : s.held m = none := by
  simp [State.held, h, hm.symm]

theorem Sound.pass (h : Sound s) (hnone : s.held n = none) (hs : (s.node n).stop ≠ .idle)
    (hx : (s.node n).stop ≠ .exiting) {w : Node} (hw : w.isLeader = false)
    (he : w.exit = (s.node n).exit) (hl : w.loop = (s.node n).loop)
    (hr : ∀ lock, w.stop ≠ .releasing lock) : Sound (s.set n w) := by
  have hn := h n
  rw [hnone] at hn
  apply h.set
  rw [hnone]
  exact hn.pass hs hx hw he hl hr

theorem Sound.isLeader_of_stop (h : Sound s) (hs : (s.node n).stop ≠ .idle)
    (hx : (s.node n).stop ≠ .exiting) : (s.node n).isLeader = false :=
  ((h n).quiet.resolve_left hs |>.resolve_left hx).1

theorem sound_step (h : Sound s) (hs : Step s e s') (hc : Careful ⟨s, e, s'⟩) : Sound s' := by
  cases hs with
  | enter hl => exact h.set ((h _).move (by simp [hl]) (by simp [Loop.Appointing]))
  | finish hl => exact h.set ((h _).move (by simp [hl]) (by simp [Loop.Appointing]))
  | skip hl => exact h.set ((h _).move (by simp [hl]) (by simp [Loop.Appointing]))
  | attempt hl => exact h.set ((h _).move (by simp [hl]) (by simp [Loop.Appointing]))
  | @acquire n hl hn =>
    have hnone : ∀ m, s.held m = none := by simp [State.held, hn]
    refine h.transfer (n := n) (fun m hm => node_set_of_ne _ hm) ?_ ?_
    · intro m hm
      simp [State.held, hn, hm.symm]
    · have hsound := (hnone n ▸ h n : (s.node n).Sound none).acquire hc s.acquisitions
      simpa [State.set, State.held] using hsound
  | fail hl => exact h.set ((h _).move (by simp [hl]) (by simp [Loop.Appointing]))
  | record hl => exact h.set ((h _).record hl)
  | unnamed hl => exact h.set ((h _).move (by simp [hl]) (by simp [Loop.Appointing]))
  | setLeader hl => exact h.set ((h _).setLeader hl)
  | stop => exact h.set (h _).stop
  | lookup hx => exact h.set ((h _).lookup hx hc.1 hc.2)
  | @release n lock done hr =>
    obtain rfl : done = true := hc
    obtain ⟨hv, hl⟩ := (h n).quiet.resolve_left (by simp [hr]) |>.resolve_left (by simp [hr])
    have hn := ((h n).lose hv hl).pass (w := { s.node n with stop := .released }) (by simp [hr])
      (by simp [hr]) hv rfl rfl (by simp)
    by_cases hh : s.holder = some (n, lock)
    · refine h.transfer (n := n) (fun m hm => node_set_of_ne _ hm) ?_ ?_
      · intro m hm
        simp [State.held, hh, hm.symm]
      · simpa [State.set, State.held, hh] using hn
    · have hnone : s.held n = none := by
        rw [Option.eq_none_iff_forall_ne_some]
        intro other hother
        have ha := ((h n).active other hother).resolve_left (by
          rintro ha
          simp [ha, Loop.Appointing] at hl)
        rw [(h n).releasing lock hr, Option.some_inj] at ha
        exact hh (held_eq_some_iff.mp (ha ▸ hother))
      have hset : Sound (s.set n { s.node n with stop := .released }) :=
        h.pass hnone (by simp [hr]) (by simp [hr]) hv rfl rfl (by simp)
      simpa [hh, State.set] using hset
  | forget hr =>
    exact h.pass ((h _).freed (by simp [hr])) (by simp [hr]) (by simp [hr])
      (h.isLeader_of_stop (by simp [hr]) (by simp [hr])) rfl rfl (by simp)
  | unsetLeader hp =>
    exact h.pass ((h _).freed (by simp [hp])) (by simp [hp]) (by simp [hp]) rfl rfl rfl (by simp)
  | join hu =>
    exact h.pass ((h _).freed (by simp [hu])) (by simp [hu]) (by simp [hu])
      (h.isLeader_of_stop (by simp [hu]) (by simp [hu])) rfl rfl (by simp)
  | @expire n lock hh =>
    refine h.transfer (n := n) (fun m _ => rfl) ?_ ?_
    · intro m hm
      rw [held_ne hh hm]
      rfl
    · exact (h n).lose hc.1 hc.2

theorem Sound.rightful (h : Sound s) : Rightful s := fun n => (h n).leader

theorem Sound.retired (h : Sound s) : Retired s := by
  intro n hn
  exact ⟨h.isLeader_of_stop (by simp [hn]) (by simp [hn]), (h n).freed (by simp [hn])⟩

theorem Rightful.eq (h : Rightful s) (hn : (s.node n).isLeader = true)
    (hm : (s.node m).isLeader = true) : n = m := by
  obtain ⟨lock, hl⟩ := Option.ne_none_iff_exists'.mp (h n hn)
  by_contra hne
  exact h m hm (held_ne (held_eq_some_iff.mp hl) (Ne.symm hne))

/-- While the nodes are careful the leader has the lock, there is at most one leader, and a node
whose election was stopped neither leads nor has the lock. -/
theorem leader_has_lock {t : List (Edge (State N) (Event N))} (h : Run Step started t s)
    (hc : ∀ e ∈ t, Careful e) :
    Rightful s ∧ (∀ n m, (s.node n).isLeader = true → (s.node m).isLeader = true → n = m) ∧
      Retired s := by
  have hs : Sound s := h.invariant_of Sound sound_started sound_step hc
  exact ⟨hs.rightful, fun _ _ hn hm => hs.rightful.eq hn hm, hs.retired⟩

/-- One node is appointed while the election of the other is stopped. -/
theorem leader_has_lock_appointed :
    ∃ (t : List (Edge (State ℕ) (Event ℕ))) (s : State ℕ), Run Step started t s ∧
      (∀ e ∈ t, Careful e) ∧ (s.node 0).isLeader = true ∧ (s.node 1).stop = .returned ∧
      Rightful s ∧ (∀ n m, (s.node n).isLeader = true → (s.node m).isLeader = true → n = m) ∧
      Retired s := by
  have h₁ : Run Step (started : State ℕ) _ _ := .single (.enter (n := 0) rfl rfl)
  have h₂ := h₁.snoc (.attempt (n := 0) rfl rfl)
  have h₃ := h₂.snoc (.acquire (n := 0) rfl rfl)
  have h₄ := h₃.snoc (.stop (n := 1) rfl)
  have h₅ := h₄.snoc (.record (n := 0) rfl)
  have h₆ := h₅.snoc (.lookup (n := 1) rfl)
  have h₇ := h₆.snoc (.setLeader (n := 0) rfl)
  have h₈ := h₇.snoc (.unsetLeader (n := 1) rfl)
  have h₉ := h₈.snoc (.finish (n := 1) rfl rfl)
  have h₁₀ := h₉.snoc (.join (n := 1) rfl rfl)
  have hc := leader_has_lock h₁₀ (by
    simp [Careful, started, State.set, Loop.Appointing])
  exact ⟨_, _, h₁₀, by simp [Careful, started, State.set, Loop.Appointing], rfl, rfl, hc⟩

/-- When the lease of the leader expires another node leads as well. When an election is stopped
while its thread acquires the lock, the node leads after the call has returned. -/
theorem leaders_without_lock :
    (∃ (t : List (Edge (State ℕ) (Event ℕ))) (s : State ℕ), Run Step started t s ∧
      (s.node 0).isLeader = true ∧ s.held 0 = none ∧ (s.node 1).isLeader = true) ∧
    ∃ (t : List (Edge (State ℕ) (Event ℕ))) (s : State ℕ), Run Step started t s ∧
      (s.node 0).stop = .returned ∧ (s.node 0).isLeader = true ∧ s.held 0 ≠ none := by
  have h₁ : Run Step (started : State ℕ) _ _ := .single (.enter (n := 0) rfl rfl)
  have h₂ := h₁.snoc (.attempt (n := 0) rfl rfl)
  constructor
  · have h₃ := h₂.snoc (.acquire (n := 0) rfl rfl)
    have h₄ := h₃.snoc (.record (n := 0) rfl)
    have h₅ := h₄.snoc (.setLeader (n := 0) rfl)
    have h₆ := h₅.snoc (.expire (n := 0) rfl)
    have h₇ := h₆.snoc (.enter (n := 1) rfl rfl)
    have h₈ := h₇.snoc (.attempt (n := 1) rfl rfl)
    have h₉ := h₈.snoc (.acquire (n := 1) rfl rfl)
    have h₁₀ := h₉.snoc (.record (n := 1) rfl)
    have h₁₁ := h₁₀.snoc (.setLeader (n := 1) rfl)
    exact ⟨_, _, h₁₁, rfl, rfl, rfl⟩
  · have h₃ := h₂.snoc (.stop (n := 0) rfl)
    have h₄ := h₃.snoc (.lookup (n := 0) rfl)
    have h₅ := h₄.snoc (.unsetLeader (n := 0) rfl)
    have h₆ := h₅.snoc (.acquire (n := 0) rfl rfl)
    have h₇ := h₆.snoc (.record (n := 0) rfl)
    have h₈ := h₇.snoc (.setLeader (n := 0) rfl)
    have h₉ := h₈.snoc (.finish (n := 0) rfl rfl)
    have h₁₀ := h₉.snoc (.join (n := 0) rfl rfl)
    exact ⟨_, _, h₁₀, rfl, rfl, by simp [State.held, State.set, started]⟩

end Idea.LeaderElection

import Mathlib.Algebra.BigOperators.Group.Finset.Piecewise
import Mathlib.Data.List.Nodup
import Mathlib.Logic.Function.Basic
import Mathlib.Tactic.Abel
import Idea.System.Run

/-! # Thread pools

Tasks wait in a queue for the workers of a pool. A loop of its own adjusts the number of workers to
the length of the queue. A task is refused when the workers and the queued tasks are too many
together.
-/

namespace Idea.ThreadPool

/-- Where a worker is in its loop. Tasks are numbered in the order in which they are queued. -/
inductive Point where
  | checking
  | getting
  | taken (task : ℕ)
  | running (task : ℕ)
  | leaving
  | ended
  deriving DecidableEq

structure WorkerThread where
  exit : Bool
  idle : Bool
  point : Point

namespace WorkerThread

def new : WorkerThread := ⟨false, false, .checking⟩

def task (self : WorkerThread) : Option ℕ :=
  match self.point with
  | .taken task | .running task => some task
  | _ => none

def isActive (self : WorkerThread) : Bool := !self.exit && decide (self.point ≠ .ended)

/-- The next move of `loop`: the worker, what it leaves in the queue and the task it completes. -/
def advance (self : WorkerThread) (queue : List ℕ) : Option (WorkerThread × List ℕ × List ℕ) :=
  match self.point, queue with
  | .checking, queue =>
    some ({ self with point := if self.exit then .ended else .getting }, queue, [])
  | .getting, [] => some ({ self with point := .leaving }, [], [])
  | .getting, task :: queue => some ({ self with point := .taken task }, queue, [])
  | .taken task, queue => some ({ self with idle := false, point := .running task }, queue, [])
  | .running task, queue => some ({ self with point := .leaving }, queue, [task])
  | .leaving, queue => some ({ self with idle := true, point := .checking }, queue, [])
  | .ended, _ => none

end WorkerThread

/-- What the loop of the pool is about: workers it may stop, or a number of workers to create. -/
inductive Phase where
  | waiting
  | adjusting
  | stopping (idleWorkers : List ℕ)
  | creating (count : ℕ)

def Phase.toCreate : Phase → ℕ
  | .creating count => count
  | _ => 0

structure Config where
  minWorkers : ℕ
  maxWorkers : ℕ

/-- A pool with the workers that `start` has left to create, the calls of `submit` that have passed
the test, the number of tasks that were queued and the tasks that are completed. -/
structure ThreadPoolExecutor where
  nextWorkerId : ℕ
  workers : ℕ → WorkerThread
  allWorkers : List ℕ
  activeWorkers : List ℕ
  workerQueue : List ℕ
  exit : Bool
  phase : Phase
  toStart : ℕ
  admitted : ℕ
  accepted : ℕ
  completed : List ℕ

namespace ThreadPoolExecutor

variable (self : ThreadPoolExecutor)

def init (config : Config) : ThreadPoolExecutor where
  nextWorkerId := 1
  workers _ := ⟨true, false, .ended⟩
  allWorkers := []
  activeWorkers := []
  workerQueue := []
  exit := false
  phase := .waiting
  toStart := config.minWorkers
  admitted := 0
  accepted := 0
  completed := []

def createWorker : ThreadPoolExecutor :=
  { self with
    nextWorkerId := self.nextWorkerId + 1
    workers := Function.update self.workers self.nextWorkerId .new
    allWorkers := self.allWorkers ++ [self.nextWorkerId]
    activeWorkers := self.activeWorkers ++ [self.nextWorkerId] }

/-- `worker.stop(wait=False)` of some workers. -/
def stopWorkers (stopped : ℕ → Bool) : ℕ → WorkerThread := fun worker =>
  if stopped worker then { self.workers worker with exit := true } else self.workers worker

def cleanupInactiveWorkers : ThreadPoolExecutor :=
  { self with
    allWorkers := self.allWorkers.filter fun worker => (self.workers worker).isActive
    phase := .adjusting }

/-- `_adjust_worker_counts`, up to the loops over the workers. -/
def adjustWorkerCounts (config : Config) (idleWorkers : List ℕ) (requiredWorkerCount : ℕ) :
    Phase :=
  if requiredWorkerCount < idleWorkers.length ∧ config.minWorkers < idleWorkers.length then
    .stopping idleWorkers
  else if idleWorkers.length < requiredWorkerCount then
    if config.maxWorkers ≤ self.allWorkers.length then .waiting
    else .creating (requiredWorkerCount - idleWorkers.length)
  else .waiting

def execute (config : Config) : Option ThreadPoolExecutor :=
  match self.phase with
  | .waiting | .adjusting => none
  | .stopping [] => some { self with phase := .waiting }
  | .stopping (worker :: idleWorkers) =>
    if self.activeWorkers.length ≤ config.minWorkers then some { self with phase := .waiting }
    else
      some { self with
        activeWorkers := self.activeWorkers.erase worker
        workers := self.stopWorkers (· = worker)
        phase := .stopping idleWorkers }
  | .creating 0 => some { self with phase := .waiting }
  | .creating (count + 1) => some { self.createWorker with phase := .creating count }

def busy (worker : ℕ) : Bool := (self.workers worker).task.isSome

def unfinished : ℕ :=
  self.workerQueue.length + ((List.range self.nextWorkerId).filter self.busy).length

def waiting : ℕ := (self.activeWorkers.filter fun worker => !self.busy worker).length

def leftBehind : ℕ :=
  ((List.range self.nextWorkerId).filter fun worker =>
    self.busy worker && decide (worker ∉ self.activeWorkers)).length

/-- The task is queued, a worker has it, or it is completed. -/
def Kept (task : ℕ) : Prop :=
  task ∈ self.workerQueue ∨ (∃ worker, (self.workers worker).task = some task) ∨
    task ∈ self.completed

end ThreadPoolExecutor

open ThreadPoolExecutor

inductive Call where
  | refuse
  | enter
  | put
  | start
  | cleanup
  | adjust (idle : ℕ → Bool) (required : ℕ)
  | execute
  | work (worker : ℕ)
  | stop

/-- The steps of the threads that submit, of the one that starts and stops the pool, of the loop of
the pool and of the workers. The loop reads the flags of the workers and then the length of the
queue while the workers go on, so what it sees of them is left open. -/
inductive Step (config : Config) : ThreadPoolExecutor → Call → ThreadPoolExecutor → Prop
  | refuse {s : ThreadPoolExecutor}
      (h : config.maxWorkers ≤ s.activeWorkers.length + s.workerQueue.length) :
      Step config s .refuse s
  | enter {s : ThreadPoolExecutor}
      (h : s.activeWorkers.length + s.workerQueue.length < config.maxWorkers) :
      Step config s .enter { s with admitted := s.admitted + 1 }
  | put {s : ThreadPoolExecutor} (h : 0 < s.admitted)
      (hfull : s.workerQueue.length < config.maxWorkers) :
      Step config s .put { s with
        admitted := s.admitted - 1
        workerQueue := s.workerQueue ++ [s.accepted]
        accepted := s.accepted + 1 }
  | start {s : ThreadPoolExecutor} (h : 0 < s.toStart) :
      Step config s .start { s.createWorker with toStart := s.toStart - 1 }
  | cleanup {s : ThreadPoolExecutor} (h : s.phase = .waiting) (hexit : s.exit = false) :
      Step config s .cleanup s.cleanupInactiveWorkers
  | adjust {s : ThreadPoolExecutor} (idle : ℕ → Bool) (required : ℕ) (h : s.phase = .adjusting) :
      Step config s (.adjust idle required)
        { s with
          phase := s.adjustWorkerCounts config (s.activeWorkers.filter idle) required }
  | execute {s s' : ThreadPoolExecutor} (h : s.execute config = some s') :
      Step config s .execute s'
  | work {s : ThreadPoolExecutor} {w : ℕ} {worker : WorkerThread} {queue done : List ℕ}
      (h : (s.workers w).advance s.workerQueue = some (worker, queue, done)) :
      Step config s (.work w) { s with
        workers := Function.update s.workers w worker
        workerQueue := queue
        completed := s.completed ++ done }
  | stop {s : ThreadPoolExecutor} :
      Step config s .stop
        { s with exit := true, workers := s.stopWorkers fun worker => worker ∈ s.allWorkers }

/-- A refused call finds no more workers without a task than it has workers and tasks beyond the
limit, and workers are created only as far as the limit allows. -/
def Fits (config : Config) (s : ThreadPoolExecutor) : Call → Prop
  | .refuse => config.maxWorkers + s.waiting ≤
      s.activeWorkers.length + s.workerQueue.length + s.leftBehind
  | .adjust idle required =>
    (s.activeWorkers.filter idle).length < required → s.allWorkers.length < config.maxWorkers →
      s.activeWorkers.length + s.toStart + (required - (s.activeWorkers.filter idle).length) ≤
        config.maxWorkers
  | _ => True

/-- The workers that are there and those that are about to be created are neither too few nor too
many. -/
structure Sized (config : Config) (s : ThreadPoolExecutor) : Prop where
  min_le : config.minWorkers ≤ s.activeWorkers.length + s.toStart
  le_max : s.activeWorkers.length + s.toStart + s.phase.toCreate ≤ config.maxWorkers

section Steps

variable {config : Config} {s s' : ThreadPoolExecutor} {call : Call}

theorem toCreate_adjustWorkerCounts {idleWorkers : List ℕ} {required : ℕ}
    (h : idleWorkers.length < required → s.allWorkers.length < config.maxWorkers →
      s.activeWorkers.length + s.toStart + (required - idleWorkers.length) ≤ config.maxWorkers)
    (hle : s.activeWorkers.length + s.toStart ≤ config.maxWorkers) :
    s.activeWorkers.length + s.toStart +
      (s.adjustWorkerCounts config idleWorkers required).toCreate ≤ config.maxWorkers := by
  unfold adjustWorkerCounts
  split_ifs with hstop hfew hall
  · exact hle
  · exact hle
  · exact h hfew (not_le.mp hall)
  · exact hle

theorem Sized.execute (h : Sized config s) (hexecute : s.execute config = some s') :
    Sized config s' := by
  obtain ⟨hmin, hmax⟩ := h
  unfold ThreadPoolExecutor.execute at hexecute
  split at hexecute
  · cases hexecute
  · cases hexecute
  · obtain rfl := Option.some.inj hexecute
    exact ⟨hmin, le_trans (Nat.le_add_right _ _) hmax⟩
  · rename_i worker idleWorkers hphase
    split at hexecute
    · obtain rfl := Option.some.inj hexecute
      exact ⟨hmin, le_trans (Nat.le_add_right _ _) hmax⟩
    · rename_i hmore
      obtain rfl := Option.some.inj hexecute
      constructor
      · show config.minWorkers ≤ (s.activeWorkers.erase worker).length + s.toStart
        have := List.le_length_erase (a := worker) (l := s.activeWorkers)
        omega
      · show (s.activeWorkers.erase worker).length + s.toStart + 0 ≤ config.maxWorkers
        have := List.length_erase_le (a := worker) (l := s.activeWorkers)
        omega
  · obtain rfl := Option.some.inj hexecute
    exact ⟨hmin, le_trans (Nat.le_add_right _ _) hmax⟩
  · rename_i count hphase
    obtain rfl := Option.some.inj hexecute
    rw [hphase] at hmax
    simp only [Phase.toCreate] at hmax
    constructor
    · show config.minWorkers ≤ (s.activeWorkers ++ [s.nextWorkerId]).length + s.toStart
      rw [List.length_append, List.length_singleton]
      omega
    · show (s.activeWorkers ++ [s.nextWorkerId]).length + s.toStart + count ≤ config.maxWorkers
      rw [List.length_append, List.length_singleton]
      omega

theorem Sized.step (h : Sized config s) (hstep : Step config s call s')
    (hfits : Fits config s call) : Sized config s' := by
  cases hstep with
  | refuse _ => exact h
  | enter _ => exact ⟨h.min_le, h.le_max⟩
  | put _ _ => exact ⟨h.min_le, h.le_max⟩
  | start hstart =>
    obtain ⟨hmin, hmax⟩ := h
    constructor
    · show config.minWorkers ≤ (s.activeWorkers ++ [s.nextWorkerId]).length + (s.toStart - 1)
      rw [List.length_append, List.length_singleton]
      omega
    · show (s.activeWorkers ++ [s.nextWorkerId]).length + (s.toStart - 1) + s.phase.toCreate ≤
        config.maxWorkers
      rw [List.length_append, List.length_singleton]
      omega
  | cleanup _ _ => exact ⟨h.min_le, le_trans (Nat.le_add_right _ _) h.le_max⟩
  | adjust idle required _ =>
    exact ⟨h.min_le, toCreate_adjustWorkerCounts hfits
      (le_trans (Nat.le_add_right _ _) h.le_max)⟩
  | execute hexecute => exact h.execute hexecute
  | work _ => exact ⟨h.min_le, h.le_max⟩
  | stop => exact ⟨h.min_le, h.le_max⟩

/-- Workers that are not created yet have no task, and no accepted task is lost. -/
structure Sound (s : ThreadPoolExecutor) : Prop where
  fresh : ∀ worker, s.nextWorkerId ≤ worker → (s.workers worker).point = .ended
  nodup : s.activeWorkers.Nodup
  known : ∀ worker ∈ s.activeWorkers, worker < s.nextWorkerId
  kept : ∀ task < s.accepted, s.Kept task

theorem task_of_ended {worker : WorkerThread} (h : worker.point = .ended) : worker.task = none := by
  rw [WorkerThread.task, h]

theorem Sound.createWorker (h : Sound s) : Sound s.createWorker := by
  refine ⟨fun worker hworker => ?_, ?_, fun worker hworker => ?_, fun task htask => ?_⟩
  · have hne : worker ≠ s.nextWorkerId := (Nat.lt_of_succ_le hworker).ne'
    show (Function.update s.workers s.nextWorkerId WorkerThread.new worker).point = .ended
    rw [Function.update_of_ne hne]
    exact h.fresh worker (Nat.le_of_succ_le hworker)
  · refine List.nodup_append.mpr ⟨h.nodup, List.nodup_singleton _, ?_⟩
    rintro worker hworker _ hnew rfl
    exact absurd (h.known worker hworker) (List.mem_singleton.mp hnew ▸ lt_irrefl _)
  · rcases List.mem_append.mp hworker with hworker | hworker
    · exact Nat.lt_succ_of_lt (h.known worker hworker)
    · exact List.mem_singleton.mp hworker ▸ Nat.lt_succ_self _
  · rcases h.kept task htask with hqueue | ⟨worker, hworker⟩ | hcompleted
    · exact Or.inl hqueue
    · refine Or.inr (Or.inl ⟨worker, ?_⟩)
      have hne : worker ≠ s.nextWorkerId := by
        rintro rfl
        rw [task_of_ended (h.fresh _ le_rfl)] at hworker
        cases hworker
      show (Function.update s.workers s.nextWorkerId WorkerThread.new worker).task = some task
      rwa [Function.update_of_ne hne]
    · exact Or.inr (Or.inr hcompleted)

theorem task_stopWorkers (stopped : ℕ → Bool) (worker : ℕ) :
    (s.stopWorkers stopped worker).point = (s.workers worker).point := by
  unfold stopWorkers
  split <;> rfl

theorem Sound.stopWorkers (h : Sound s) (stopped : ℕ → Bool) (active : List ℕ)
    (hactive : active.Sublist s.activeWorkers) (phase : Phase) (exit : Bool) :
    Sound { s with
      activeWorkers := active
      workers := s.stopWorkers stopped
      phase := phase
      exit := exit } := by
  refine ⟨fun worker hworker => (task_stopWorkers stopped worker).trans (h.fresh worker hworker),
    hactive.nodup h.nodup, fun worker hworker => h.known worker (hactive.subset hworker),
    fun task htask => ?_⟩
  rcases h.kept task htask with hqueue | ⟨worker, hworker⟩ | hcompleted
  · exact Or.inl hqueue
  · refine Or.inr (Or.inl ⟨worker, ?_⟩)
    show (s.stopWorkers stopped worker).task = some task
    rwa [WorkerThread.task, task_stopWorkers]
  · exact Or.inr (Or.inr hcompleted)

theorem Sound.execute (h : Sound s) (hexecute : s.execute config = some s') : Sound s' := by
  unfold ThreadPoolExecutor.execute at hexecute
  split at hexecute
  · cases hexecute
  · cases hexecute
  · obtain rfl := Option.some.inj hexecute
    exact ⟨h.fresh, h.nodup, h.known, h.kept⟩
  · split at hexecute
    · obtain rfl := Option.some.inj hexecute
      exact ⟨h.fresh, h.nodup, h.known, h.kept⟩
    · obtain rfl := Option.some.inj hexecute
      exact h.stopWorkers _ _ (List.erase_sublist) _ s.exit
  · obtain rfl := Option.some.inj hexecute
    exact ⟨h.fresh, h.nodup, h.known, h.kept⟩
  · obtain rfl := Option.some.inj hexecute
    have hcreate := h.createWorker
    exact ⟨hcreate.fresh, hcreate.nodup, hcreate.known, hcreate.kept⟩

/-- A move of a worker passes tasks on from the queue to the worker and to the completed ones. -/
theorem advance_keeps {w worker : WorkerThread} {queue rest done : List ℕ}
    (h : w.advance queue = some (worker, rest, done)) :
    w.point ≠ .ended ∧ (∀ task ∈ queue, task ∈ rest ∨ worker.task = some task) ∧
      ∀ task, w.task = some task → worker.task = some task ∨ task ∈ done := by
  unfold WorkerThread.advance at h
  split at h <;> cases h
  all_goals
    rename_i hpoint
    simp +contextual [WorkerThread.task, hpoint, or_comm]

theorem Sound.work (h : Sound s) {w : ℕ} {worker : WorkerThread} {queue done : List ℕ}
    (hmove : (s.workers w).advance s.workerQueue = some (worker, queue, done)) :
    Sound { s with
      workers := Function.update s.workers w worker
      workerQueue := queue
      completed := s.completed ++ done } := by
  obtain ⟨hpoint, hqueue, htask⟩ := advance_keeps hmove
  refine ⟨fun other hother => ?_, h.nodup, h.known, fun task htaskLt => ?_⟩
  · have hne : other ≠ w := by
      rintro rfl
      exact hpoint (h.fresh other hother)
    show (Function.update s.workers w worker other).point = .ended
    rw [Function.update_of_ne hne]
    exact h.fresh other hother
  · have hheld : worker.task = some task →
        ∃ other, (Function.update s.workers w worker other).task = some task := fun hheld =>
      ⟨w, by rwa [Function.update_self]⟩
    rcases h.kept task htaskLt with hmem | ⟨other, hother⟩ | hcompleted
    · exact (hqueue task hmem).imp id fun hworker => Or.inl (hheld hworker)
    · by_cases hw : other = w
      · subst hw
        exact Or.inr ((htask task hother).imp hheld (List.mem_append_right _))
      · refine Or.inr (Or.inl ⟨other, ?_⟩)
        show (Function.update s.workers w worker other).task = some task
        rwa [Function.update_of_ne hw]
    · exact Or.inr (Or.inr (List.mem_append_left _ hcompleted))

theorem Sound.step (h : Sound s) (hstep : Step config s call s') : Sound s' := by
  cases hstep with
  | refuse _ => exact h
  | enter _ => exact ⟨h.fresh, h.nodup, h.known, h.kept⟩
  | put _ _ =>
    refine ⟨h.fresh, h.nodup, h.known, fun task htask => ?_⟩
    rcases Nat.lt_succ_iff_lt_or_eq.mp htask with hlt | rfl
    · exact (h.kept task hlt).imp (List.mem_append_left _) id
    · exact Or.inl (List.mem_append_right _ List.mem_cons_self)
  | start _ =>
    have hcreate := h.createWorker
    exact ⟨hcreate.fresh, hcreate.nodup, hcreate.known, hcreate.kept⟩
  | cleanup _ _ => exact ⟨h.fresh, h.nodup, h.known, h.kept⟩
  | adjust idle required _ => exact ⟨h.fresh, h.nodup, h.known, h.kept⟩
  | execute hexecute => exact h.execute hexecute
  | work hmove => exact h.work hmove
  | stop => exact h.stopWorkers _ _ (List.Sublist.refl _) s.phase true

/-- The tasks of workers are those of active workers and those left behind. -/
theorem unfinished_add_waiting (h : Sound s) :
    s.unfinished + s.waiting = s.activeWorkers.length + s.workerQueue.length + s.leftBehind := by
  have hactive : ((List.range s.nextWorkerId).filter fun worker =>
      s.busy worker && decide (worker ∈ s.activeWorkers)).Perm
        (s.activeWorkers.filter s.busy) := by
    refine (List.perm_ext_iff_of_nodup (List.nodup_range.filter _)
      (h.nodup.filter _)).mpr fun worker => ?_
    simp only [List.mem_filter, List.mem_range, Bool.and_eq_true, decide_eq_true_eq]
    exact ⟨fun hw => ⟨hw.2.2, hw.2.1⟩, fun hw => ⟨h.known worker hw.1, hw.2, hw.1⟩⟩
  have hsplit : ((List.range s.nextWorkerId).filter s.busy).length =
      (s.activeWorkers.filter s.busy).length + s.leftBehind := by
    rw [← hactive.length_eq, leftBehind, ← List.filter_filter, ← List.filter_filter]
    have hlength := List.length_eq_length_filter_add
      (l := (List.range s.nextWorkerId).filter s.busy) fun worker => worker ∈ s.activeWorkers
    simpa [List.filter_filter, Bool.and_comm] using hlength
  have hwaiting : (s.activeWorkers.filter s.busy).length + s.waiting = s.activeWorkers.length :=
    (List.length_eq_length_filter_add s.busy).symm
  rw [unfinished, hsplit]
  omega

/-- A refusal is right exactly if it fits. -/
theorem max_le_unfinished_iff (h : Sound s) :
    config.maxWorkers ≤ s.unfinished ↔ Fits config s .refuse := by
  have hcount := unfinished_add_waiting h
  simp only [Fits]
  omega

end Steps

/-- The tasks that are queued, with workers or completed. -/
def ThreadPoolExecutor.tasks (self : ThreadPoolExecutor) : Multiset ℕ :=
  self.workerQueue + ∑ worker ∈ Finset.range self.nextWorkerId,
    ((self.workers worker).task.toList : Multiset ℕ) + self.completed

section Tasks

variable {config : Config} {s s' : ThreadPoolExecutor} {call : Call}

theorem tasks_createWorker (s : ThreadPoolExecutor) : s.createWorker.tasks = s.tasks := by
  have hold : ∀ worker ∈ Finset.range s.nextWorkerId,
      ((s.createWorker.workers worker).task.toList : Multiset ℕ) =
        (s.workers worker).task.toList := by
    intro worker hworker
    have hne : worker ≠ s.nextWorkerId := (Finset.mem_range.mp hworker).ne
    simp [ThreadPoolExecutor.createWorker, Function.update_of_ne hne]
  have hnew : (s.createWorker.workers s.nextWorkerId).task = none := by
    simp [ThreadPoolExecutor.createWorker, WorkerThread.new, WorkerThread.task]
  unfold tasks
  rw [show s.createWorker.nextWorkerId = s.nextWorkerId + 1 from rfl, Finset.sum_range_succ, hnew,
    Finset.sum_congr rfl hold]
  simp [ThreadPoolExecutor.createWorker]

theorem tasks_stopWorkers (s : ThreadPoolExecutor) (stopped : ℕ → Bool) :
    { s with workers := s.stopWorkers stopped }.tasks = s.tasks := by
  simp only [tasks, WorkerThread.task, task_stopWorkers]

theorem tasks_advance {w worker : WorkerThread} {queue rest done : List ℕ}
    (h : w.advance queue = some (worker, rest, done)) :
    (rest : Multiset ℕ) + worker.task.toList + done = queue + w.task.toList := by
  unfold WorkerThread.advance at h
  split at h <;> cases h
  all_goals
    rename_i hpoint
    simp [WorkerThread.task, hpoint, ← Multiset.cons_coe, ← Multiset.singleton_add, add_comm]
  cases w.exit <;> simp

theorem tasks_work (h : Sound s) {w : ℕ} {worker : WorkerThread} {queue done : List ℕ}
    (hmove : (s.workers w).advance s.workerQueue = some (worker, queue, done)) :
    { s with
      workers := Function.update s.workers w worker
      workerQueue := queue
      completed := s.completed ++ done }.tasks = s.tasks := by
  have hw : w ∈ Finset.range s.nextWorkerId := by
    by_contra hfresh
    have hended := h.fresh w (not_lt.mp fun hlt => hfresh (Finset.mem_range.mpr hlt))
    exact (advance_keeps hmove).1 hended
  have hadvance := tasks_advance hmove
  obtain ⟨others, hold, hnew⟩ : ∃ others : Multiset ℕ,
      ∑ other ∈ Finset.range s.nextWorkerId, ((s.workers other).task.toList : Multiset ℕ) =
        (s.workers w).task.toList + others ∧
      ∑ other ∈ Finset.range s.nextWorkerId,
        ((Function.update s.workers w worker other).task.toList : Multiset ℕ) =
          worker.task.toList + others := by
    refine ⟨_, Finset.sum_eq_add_sum_sdiff_singleton_of_mem hw _, ?_⟩
    rw [← Finset.sum_update_of_mem hw]
    refine Finset.sum_congr rfl fun other _ => ?_
    exact Function.apply_update (fun _ v => (v.task.toList : Multiset ℕ)) s.workers w worker other
  simp only [tasks]
  rw [hold, hnew, ← Multiset.coe_add]
  calc (queue : Multiset ℕ) + (worker.task.toList + others) + (s.completed + done)
      = queue + worker.task.toList + done + (others + s.completed) := by abel
    _ = s.workerQueue + (s.workers w).task.toList + (others + s.completed) := by rw [hadvance]
    _ = s.workerQueue + ((s.workers w).task.toList + others) + s.completed := by abel

theorem tasks_step (h : Sound s) (htasks : s.tasks = Multiset.range s.accepted)
    (hstep : Step config s call s') : s'.tasks = Multiset.range s'.accepted := by
  cases hstep with
  | put _ _ =>
    rw [Multiset.range_succ, ← htasks]
    unfold tasks
    rw [← Multiset.coe_add, Multiset.coe_singleton, ← Multiset.singleton_add]
    abel
  | start _ => exact (tasks_createWorker s).trans htasks
  | execute hexecute =>
    unfold ThreadPoolExecutor.execute at hexecute
    split at hexecute <;> try split at hexecute
    all_goals cases hexecute
    · exact htasks
    · exact htasks
    · exact (tasks_stopWorkers s _).trans htasks
    · exact htasks
    · exact (tasks_createWorker s).trans htasks
  | work hmove => exact (tasks_work h hmove).trans htasks
  | stop => exact (tasks_stopWorkers s _).trans htasks
  | _ => exact htasks

end Tasks

/-- What callers rely on: tasks are refused only when enough are unfinished, the number of active
workers is within its bounds after the start, and no accepted task is lost. -/
structure Reliable (config : Config) (t : List (Edge ThreadPoolExecutor Call))
    (s : ThreadPoolExecutor) : Prop where
  refused : ∀ e ∈ t, e.label = .refuse → config.maxWorkers ≤ e.pre.unfinished
  sized : s.toStart = 0 →
    config.minWorkers ≤ s.activeWorkers.length ∧ s.activeWorkers.length ≤ config.maxWorkers
  kept : ∀ task < s.accepted, s.Kept task

theorem sound_init (config : Config) : Sound (init config) where
  fresh _ _ := rfl
  nodup := List.nodup_nil
  known _ hworker := absurd hworker List.not_mem_nil
  kept _ htask := absurd htask (Nat.not_lt_zero _)

theorem sized_init {config : Config} (h : config.minWorkers ≤ config.maxWorkers) :
    Sized config (init config) where
  min_le := Nat.le_add_left _ _
  le_max := by
    show 0 + config.minWorkers + 0 ≤ config.maxWorkers
    omega

/-- As long as all calls fit, a pool is reliable. -/
theorem reliable_of_fits {config : Config} (hconfig : config.minWorkers ≤ config.maxWorkers)
    {t : List (Edge ThreadPoolExecutor Call)} {s : ThreadPoolExecutor}
    (h : Run (Step config) (init config) t s) (hfits : ∀ e ∈ t, Fits config e.pre e.label) :
    Reliable config t s := by
  have hsound : ∀ {s t}, Run (Step config) (init config) t s → Sound s := fun hrun =>
    hrun.invariant Sound (sound_init config) fun h hstep => h.step hstep
  have hsized : Sized config s :=
    h.invariant_of (Sized config) (sized_init hconfig)
      (fun h hstep hfits => h.step hstep hfits) hfits
  refine ⟨fun e he hlabel => ?_, fun hstart => ?_, (hsound h).kept⟩
  · obtain ⟨_, _, _, hrun, _, _⟩ := h.split he
    exact (max_le_unfinished_iff (hsound hrun)).mpr (hlabel ▸ hfits e he)
  · have hmin := hsized.min_le
    have hmax := hsized.le_max
    exact ⟨by omega, by omega⟩

/-- In every run of any pool each accepted task is at one place only: in the queue, with one worker
or among the completed tasks. So none is lost, and none is run twice. -/
theorem each_task_once {config : Config} {t : List (Edge ThreadPoolExecutor Call)}
    {s : ThreadPoolExecutor} (h : Run (Step config) (init config) t s) :
    s.tasks = Multiset.range s.accepted := by
  have hboth := h.invariant (fun s => Sound s ∧ s.tasks = Multiset.range s.accepted)
    ⟨sound_init config, by simp [tasks, init, WorkerThread.task]⟩
    fun hs hstep => ⟨hs.1.step hstep, tasks_step hs.1 hs.2 hstep⟩
  exact hboth.2

def roomy : Config := ⟨1, 2⟩

/-- A task is queued when the first worker has just started, so that another one is created. -/
theorem reliable_roomy : ∃ t s, Run (Step roomy) (init roomy) t s ∧
    s.activeWorkers = [1, 2] ∧ s.workerQueue = [0] ∧ Reliable roomy t s := by
  have hstart : Step roomy (init roomy) .start _ := Step.start (by decide)
  have hqueued := ((Run.single hstart).snoc (Step.enter (by decide))).snoc
    (Step.put (by decide) (by decide))
  have hrun := ((hqueued.snoc (Step.cleanup rfl rfl)).snoc
    (Step.adjust (fun _ => false) 1 rfl)).snoc (Step.execute rfl)
  refine ⟨_, _, hrun, rfl, rfl, reliable_of_fits (by decide) hrun fun e he => ?_⟩
  simp only [List.mem_append, List.mem_singleton] at he
  rcases he with ((((rfl | rfl) | rfl) | rfl) | rfl) | rfl
  · trivial
  · trivial
  · trivial
  · trivial
  · exact fun _ _ => by decide
  · trivial

theorem each_task_once_roomy : ∃ t s, Run (Step roomy) (init roomy) t s ∧
    s.workerQueue = [] ∧ (s.workers 1).task = some 0 ∧ s.tasks = Multiset.range 1 := by
  have hstart : Step roomy (init roomy) .start _ := Step.start (by decide)
  have hqueued := ((Run.single hstart).snoc (Step.enter (by decide))).snoc
    (Step.put (by decide) (by decide))
  have hrun := (hqueued.snoc (Step.work (w := 1) rfl)).snoc (Step.work (w := 1) rfl)
  exact ⟨_, _, hrun, rfl, rfl, each_task_once hrun⟩

def single : Config := ⟨1, 1⟩

/-- A pool with one worker refuses all tasks. -/
theorem not_reliable_single :
    ¬ ∀ config : Config, 1 ≤ config.minWorkers → config.minWorkers ≤ config.maxWorkers →
      ∀ t s, Run (Step config) (init config) t s → Reliable config t s := by
  intro h
  have hstart : Step single (init single) .start _ := Step.start (by decide)
  have hrun := (Run.single hstart).snoc (Step.refuse (by decide))
  have hrefused := (h single (by decide) (by decide) _ _ hrun).refused _
    (List.mem_append_right _ List.mem_cons_self) rfl
  exact absurd hrefused (by decide)

end Idea.ThreadPool

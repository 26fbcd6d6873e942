import Mathlib.Data.Finset.Insert
import Mathlib.Data.Finset.Filter
import Mathlib.Data.Finset.Card
import Mathlib.Data.Finset.SDiff
import Idea.System.Run
import Idea.Model.Job

/-! # The wake-up of the job monitor

Notifications add updates to three sets and set an event that the monitor thread waits for.
The thread copies and empties the sets one after the other, each under the lock of the set,
and clears the event if it counted nothing left in any of them. The event is cleared outside
the locks, so an update can arrive for a set that the thread has already read.
-/

namespace Idea

inductive UpdateKind where
  | queued | modified | running
  deriving DecidableEq, Repr

structure JobUpdate where
  queue : Option String
  owner : Option String := none
  jobId : Option String := none
  timestamp : ℤ
  deriving DecidableEq

/-- The seconds of the age without its days, so that a negative age counts as nearly a day. -/
def JobUpdate.isApplicable (now delaySecs : ℤ) (jobUpdate : JobUpdate) : Bool :=
  delaySecs ≤ (now - jobUpdate.timestamp) / 1000000 % 86400

structure JobUpdates where
  queued : Finset JobUpdate := ∅
  modified : Finset JobUpdate := ∅
  running : Finset JobUpdate := ∅

structure JobMonitorState where
  queuedJobs : Finset JobUpdate := ∅
  modifiedJobs : Finset JobUpdate := ∅
  runningJobs : Finset JobUpdate := ∅
  jobUpdatesAvailable : Bool := false

namespace JobMonitorState

def jobQueued (job : SocaJob) (utcnow : ℤ) (self : JobMonitorState) : JobMonitorState :=
  { self with
    queuedJobs := insert { queue := job.queue, owner := job.owner, timestamp := utcnow }
      self.queuedJobs
    jobUpdatesAvailable := true }

def jobModified (job : SocaJob) (utcnow : ℤ) (self : JobMonitorState) : JobMonitorState :=
  { self with
    modifiedJobs := insert { queue := job.queue, jobId := job.jobId, timestamp := utcnow }
      self.modifiedJobs
    jobUpdatesAvailable := true }

def jobRunning (job : SocaJob) (utcnow : ℤ) (self : JobMonitorState) : JobMonitorState :=
  { self with
    runningJobs := insert { queue := job.queue, jobId := job.jobId, timestamp := utcnow }
      self.runningJobs
    jobUpdatesAvailable := true }

def notify : UpdateKind → SocaJob → ℤ → JobMonitorState → JobMonitorState
  | .queued => jobQueued
  | .modified => jobModified
  | .running => jobRunning

def pending (self : JobMonitorState) : UpdateKind → Finset JobUpdate
  | .queued => self.queuedJobs
  | .modified => self.modifiedJobs
  | .running => self.runningJobs

/-- What the section of a kind copies: every queued update, and the others from an age of one
second on. -/
def applicable (now : ℤ) (self : JobMonitorState) : UpdateKind → Finset JobUpdate
  | .queued => self.queuedJobs
  | .modified => self.modifiedJobs.filter fun jobUpdate => jobUpdate.isApplicable now 1
  | .running => self.runningJobs.filter fun jobUpdate => jobUpdate.isApplicable now 1

def take (now : ℤ) (kind : UpdateKind) (self : JobMonitorState) : JobMonitorState :=
  match kind with
  | .queued => { self with queuedJobs := self.queuedJobs \ self.applicable now .queued }
  | .modified => { self with modifiedJobs := self.modifiedJobs \ self.applicable now .modified }
  | .running => { self with runningJobs := self.runningJobs \ self.applicable now .running }

def clear (totalPending : ℕ) (self : JobMonitorState) : JobMonitorState :=
  if totalPending = 0 then { self with jobUpdatesAvailable := false } else self

def HasPending (self : JobMonitorState) : Prop := ∃ kind, self.pending kind ≠ ∅

variable (self : JobMonitorState) (now : ℤ) (job : SocaJob)

@[simp] theorem jobUpdatesAvailable_notify (kind : UpdateKind) :
    (self.notify kind job now).jobUpdatesAvailable = true := by
  cases kind <;> rfl

theorem pending_notify_self (kind : UpdateKind) :
    (self.notify kind job now).pending kind ≠ ∅ := by
  cases kind <;> exact Finset.insert_ne_empty _ _

theorem pending_notify_of_ne {kind other : UpdateKind} (h : other ≠ kind) :
    (self.notify kind job now).pending other = self.pending other := by
  cases kind <;> cases other <;> first | rfl | exact absurd rfl h

@[simp] theorem jobUpdatesAvailable_take (kind : UpdateKind) :
    (self.take now kind).jobUpdatesAvailable = self.jobUpdatesAvailable := by
  cases kind <;> rfl

theorem pending_take_of_ne {kind other : UpdateKind} (h : other ≠ kind) :
    (self.take now kind).pending other = self.pending other := by
  cases kind <;> cases other <;> first | rfl | exact absurd rfl h

theorem pending_take_subset (kind other : UpdateKind) :
    (self.take now kind).pending other ⊆ self.pending other := by
  cases kind <;> cases other <;>
    first | exact Finset.Subset.refl _ | exact Finset.sdiff_subset

@[simp] theorem pending_clear (totalPending : ℕ) (kind : UpdateKind) :
    (self.clear totalPending).pending kind = self.pending kind := by
  unfold clear
  split
  · cases kind <;> rfl
  · rfl

end JobMonitorState

/-- A call of `get_updates` in progress: the set it reads next, what it copied and counted. -/
structure UpdatesCall where
  now : ℤ
  next : Option UpdateKind := some .queued
  updates : JobUpdates := {}
  pendingQueued : ℕ := 0
  pendingModified : ℕ := 0
  pendingRunning : ℕ := 0

namespace UpdatesCall

def record (kind : UpdateKind) (jobs : Finset JobUpdate) (pending : ℕ) (call : UpdatesCall) :
    UpdatesCall :=
  match kind with
  | .queued =>
    { call with
      next := some .modified
      updates := { call.updates with queued := jobs }
      pendingQueued := pending }
  | .modified =>
    { call with
      next := some .running
      updates := { call.updates with modified := jobs }
      pendingModified := pending }
  | .running =>
    { call with
      next := none
      updates := { call.updates with running := jobs }
      pendingRunning := pending }

def totalPending (call : UpdatesCall) : ℕ :=
  call.pendingQueued + call.pendingModified + call.pendingRunning

def counted (call : UpdatesCall) : UpdateKind → ℕ
  | .queued => call.pendingQueued
  | .modified => call.pendingModified
  | .running => call.pendingRunning

theorem totalPending_eq_zero {call : UpdatesCall} :
    call.totalPending = 0 ↔ ∀ kind, call.counted kind = 0 := by
  unfold totalPending
  constructor
  · intro h kind
    cases kind <;> simp only [counted] <;> omega
  · intro h
    have hq := h .queued
    have hm := h .modified
    have hr := h .running
    simp only [counted] at hq hm hr
    omega

end UpdatesCall

/-- The shared state and the call of the monitor thread, if one is in progress. -/
structure UpdatesState where
  monitor : JobMonitorState
  call : Option UpdatesCall

def UpdatesState.new : UpdatesState := ⟨{}, none⟩

inductive UpdatesOp where
  | notify (kind : UpdateKind) (job : SocaJob) (utcnow : ℤ)
  | beginUpdates (now : ℤ)
  | take (kind : UpdateKind)
  | finishUpdates (updates : JobUpdates)

/-- A locked section of a notification or of a call, or the start or the end of a call. -/
def UpdatesStep (s : UpdatesState) : UpdatesOp → UpdatesState → Prop
  | .notify kind job utcnow, s' => s' = { s with monitor := s.monitor.notify kind job utcnow }
  | .beginUpdates now, s' => s.call = none ∧ s' = { s with call := some { now } }
  | .take kind, s' => ∃ call, s.call = some call ∧ call.next = some kind ∧
      s' = { monitor := s.monitor.take call.now kind
             call := some (call.record kind (s.monitor.applicable call.now kind)
               ((s.monitor.take call.now kind).pending kind).card) }
  | .finishUpdates updates, s' => ∃ call, s.call = some call ∧ call.next = none ∧
      updates = call.updates ∧
      s' = { monitor := s.monitor.clear call.totalPending, call := none }

/-- With updates pending and no call in progress the event is set. -/
def NoLostWakeUp (s : UpdatesState) : Prop :=
  s.call = none → s.monitor.HasPending → s.monitor.jobUpdatesAvailable = true

/-- The step ends a call that counted nothing pending. -/
def Clears (e : Edge UpdatesState UpdatesOp) : Prop :=
  ∃ updates call, e.label = .finishUpdates updates ∧ e.pre.call = some call ∧
    call.totalPending = 0

/-- The sets that the latest call has read, and those notified of since it read them. -/
structure Overtaking where
  read : Finset UpdateKind := ∅
  late : Finset UpdateKind := ∅

namespace Overtaking

def after (o : Overtaking) : UpdatesOp → Overtaking
  | .notify kind _ _ => { o with late := if kind ∈ o.read then insert kind o.late else o.late }
  | .beginUpdates _ => {}
  | .take kind => { o with read := insert kind o.read }
  | .finishUpdates _ => o

end Overtaking

def overtaking (ops : List UpdatesOp) : Overtaking := ops.foldl Overtaking.after {}

@[simp] theorem overtaking_snoc (ops : List UpdatesOp) (op : UpdatesOp) :
    overtaking (ops ++ [op]) = (overtaking ops).after op := by
  simp [overtaking]

def UpdateKind.position : UpdateKind → ℕ
  | .queued => 0
  | .modified => 1
  | .running => 2

def UpdatesCall.Passed (call : UpdatesCall) (kind : UpdateKind) : Prop :=
  ∀ next ∈ call.next, kind.position < next.position

namespace UpdatesCall

variable {call : UpdatesCall} {kind other : UpdateKind}

theorem not_passed_next (h : call.next = some kind) : ¬ call.Passed kind :=
  fun hp => absurd (hp kind h) (lt_irrefl _)

theorem passed_record (h : call.next = some kind) (jobs : Finset JobUpdate) (pending : ℕ) :
    (call.record kind jobs pending).Passed other ↔ other = kind ∨ call.Passed other := by
  unfold Passed
  rw [h]
  cases kind <;> cases other <;> simp [record, UpdateKind.position]

theorem counted_record_self (jobs : Finset JobUpdate) (pending : ℕ) :
    (call.record kind jobs pending).counted kind = pending := by
  cases kind <;> rfl

theorem counted_record_of_ne (h : other ≠ kind) (jobs : Finset JobUpdate) (pending : ℕ) :
    (call.record kind jobs pending).counted other = call.counted other := by
  cases kind <;> cases other <;> first | rfl | exact absurd rfl h

end UpdatesCall

/-- The call in progress has read what the history says, a set notified of since then is not
empty, and one counted as empty is empty still unless it was notified of. -/
def Tracked (s : UpdatesState) (o : Overtaking) : Prop :=
  ∀ call, s.call = some call → ∀ kind,
    (kind ∈ o.read ↔ call.Passed kind) ∧
    (kind ∈ o.late → call.Passed kind ∧ s.monitor.pending kind ≠ ∅) ∧
    (call.Passed kind → call.counted kind = 0 → s.monitor.pending kind ≠ ∅ → kind ∈ o.late)

variable {s s' : UpdatesState} {op : UpdatesOp} {o : Overtaking}

theorem Tracked.notify (h : Tracked s o) (kind : UpdateKind) (job : SocaJob) (utcnow : ℤ) :
    Tracked { s with monitor := s.monitor.notify kind job utcnow }
      (o.after (.notify kind job utcnow)) := by
  intro call hcall other
  obtain ⟨hread, hlate, hzero⟩ := h call hcall other
  refine ⟨hread, ?_, ?_⟩
  · intro hl
    by_cases hk : other = kind
    · subst hk
      refine ⟨?_, JobMonitorState.pending_notify_self _ _ _ _⟩
      by_cases hr : other ∈ o.read
      · exact hread.mp hr
      · rw [Overtaking.after, if_neg hr] at hl
        exact (hlate hl).1
    · rw [JobMonitorState.pending_notify_of_ne _ _ _ hk]
      apply hlate
      simp only [Overtaking.after] at hl
      split at hl
      · exact (Finset.mem_insert.mp hl).resolve_left hk
      · exact hl
  · intro hp hc hne
    by_cases hk : other = kind
    · subst hk
      rw [Overtaking.after, if_pos (hread.mpr hp)]
      exact Finset.mem_insert_self ..
    · rw [JobMonitorState.pending_notify_of_ne _ _ _ hk] at hne
      have hl := hzero hp hc hne
      simp only [Overtaking.after]
      split
      · exact Finset.mem_insert_of_mem hl
      · exact hl

theorem Tracked.take (h : Tracked s o) {call : UpdatesCall} (hcall : s.call = some call)
    {kind : UpdateKind} (hnext : call.next = some kind) :
    Tracked
      { monitor := s.monitor.take call.now kind
        call := some (call.record kind (s.monitor.applicable call.now kind)
          ((s.monitor.take call.now kind).pending kind).card) }
      (o.after (.take kind)) := by
  intro call' hcall' other
  obtain rfl := Option.some.inj hcall'
  obtain ⟨hread, hlate, hzero⟩ := h call hcall other
  rw [UpdatesCall.passed_record hnext]
  refine ⟨?_, ?_, ?_⟩
  · rw [Overtaking.after, Finset.mem_insert, hread]
  · intro hl
    obtain ⟨hp, hne⟩ := hlate hl
    have hk : other ≠ kind := by
      rintro rfl
      exact UpdatesCall.not_passed_next hnext hp
    exact ⟨.inr hp, by rwa [JobMonitorState.pending_take_of_ne _ _ hk]⟩
  · intro hp hc hne
    by_cases hk : other = kind
    · subst hk
      rw [UpdatesCall.counted_record_self, Finset.card_eq_zero] at hc
      exact absurd hc hne
    · rw [UpdatesCall.counted_record_of_ne hk] at hc
      rw [JobMonitorState.pending_take_of_ne _ _ hk] at hne
      exact hzero (hp.resolve_left hk) hc hne

theorem UpdatesStep.tracked (h : Tracked s o) (hs : UpdatesStep s op s') :
    Tracked s' (o.after op) := by
  cases op with
  | notify kind job utcnow => exact hs ▸ h.notify kind job utcnow
  | beginUpdates now =>
    obtain ⟨_, rfl⟩ := hs
    intro call hcall kind
    obtain rfl := Option.some.inj hcall
    have hp : ¬ UpdatesCall.Passed { now } kind := by
      intro hp
      exact absurd (hp .queued rfl) (Nat.not_lt_zero _)
    exact ⟨iff_of_false (Finset.notMem_empty _) hp, fun hl => absurd hl (Finset.notMem_empty _),
      fun hpassed => absurd hpassed hp⟩
  | take kind =>
    obtain ⟨call, hcall, hnext, rfl⟩ := hs
    exact h.take hcall hnext
  | finishUpdates updates =>
    obtain ⟨_, _, _, _, rfl⟩ := hs
    intro call hcall
    cases hcall

variable {t : List (Edge UpdatesState UpdatesOp)}

theorem tracked_of_run (h : Run UpdatesStep .new t s) :
    Tracked s (overtaking (t.map Edge.label)) := by
  induction h with
  | nil =>
    intro call hcall
    cases hcall
  | snoc _ hs ih =>
    rw [List.map_append, List.map_singleton, overtaking_snoc]
    exact hs.tracked ih

theorem hasPending_iff_overtaken {call : UpdatesCall} (h : Run UpdatesStep .new t s)
    (hcall : s.call = some call) (hnext : call.next = none) (hzero : call.totalPending = 0) :
    s.monitor.HasPending ↔ (overtaking (t.map Edge.label)).late ≠ ∅ := by
  have hpassed : ∀ kind, call.Passed kind := by
    intro kind next hn
    rw [hnext] at hn
    cases hn
  have hcounted := UpdatesCall.totalPending_eq_zero.mp hzero
  rw [← Finset.nonempty_iff_ne_empty]
  refine exists_congr fun kind => ?_
  obtain ⟨_, hlate, hpending⟩ := tracked_of_run h call hcall kind
  exact ⟨hpending (hpassed kind) (hcounted kind), fun hl => (hlate hl).2⟩

/-- The event is set while any update is pending. -/
def Awake (s : UpdatesState) : Prop :=
  s.monitor.HasPending → s.monitor.jobUpdatesAvailable = true

theorem UpdatesStep.awake (h : Awake s) (hs : UpdatesStep s op s')
    (hclear : Clears ⟨s, op, s'⟩ → ¬ s.monitor.HasPending) : Awake s' := by
  cases op with
  | notify kind job utcnow =>
    subst hs
    intro _
    exact JobMonitorState.jobUpdatesAvailable_notify ..
  | beginUpdates now =>
    obtain ⟨_, rfl⟩ := hs
    exact h
  | take kind =>
    obtain ⟨call, _, _, rfl⟩ := hs
    rintro ⟨other, hne⟩
    rw [JobMonitorState.jobUpdatesAvailable_take]
    refine h ⟨other, fun hempty => hne ?_⟩
    exact Finset.subset_empty.mp (hempty ▸ JobMonitorState.pending_take_subset _ _ kind other)
  | finishUpdates updates =>
    obtain ⟨call, hcall, _, _, rfl⟩ := hs
    rintro ⟨kind, hne⟩
    rw [JobMonitorState.pending_clear] at hne
    by_cases hz : call.totalPending = 0
    · exact absurd ⟨kind, hne⟩ (hclear ⟨updates, call, rfl, hcall, hz⟩)
    · simpa [JobMonitorState.clear, hz] using h ⟨kind, hne⟩

theorem awake_of_run (h : Run UpdatesStep .new t s) (hc : ∀ t₁ e t₂, t = t₁ ++ e :: t₂ → Clears e →
      (overtaking (t₁.map Edge.label)).late = ∅) : Awake s ∧ ∀ e ∈ t, Awake e.post := by
  induction h with
  | nil =>
    refine ⟨?_, by simp⟩
    rintro ⟨kind, hne⟩
    cases kind <;> exact absurd rfl hne
  | @snoc t s op s' hr hs ih =>
    obtain ⟨hs₀, hall⟩ := ih fun t₁ e t₂ ht => hc t₁ e (t₂ ++ [⟨s, op, s'⟩]) (by simp [ht])
    have hawake : Awake s' := by
      refine hs.awake hs₀ fun hclear => ?_
      have hlate := hc t ⟨s, op, s'⟩ [] rfl hclear
      obtain ⟨updates, call, rfl, hcall, hz⟩ := hclear
      obtain ⟨call', hcall', hnext, _⟩ := hs
      obtain rfl := Option.some.inj (hcall.symm.trans hcall')
      exact fun hp => (hasPending_iff_overtaken hr hcall hnext hz).mp hp hlate
    refine ⟨hawake, fun e he => ?_⟩
    rcases List.mem_append.mp he with he | he
    · exact hall e he
    · obtain rfl := List.mem_singleton.mp he
      exact hawake

/-- A run loses no wake-up exactly when no call that counts nothing pending is overtaken by a
notification for a set it has read. -/
theorem no_wake_up_lost_iff {t : List (Edge UpdatesState UpdatesOp)} {s : UpdatesState}
    (h : Run UpdatesStep .new t s) :
    (∀ e ∈ t, NoLostWakeUp e.post) ↔
      ∀ t₁ e t₂, t = t₁ ++ e :: t₂ → Clears e →
        (overtaking (t₁.map Edge.label)).late = ∅ := by
  constructor
  · rintro hall t₁ e t₂ rfl ⟨updates, call, hop, hcall, hz⟩
    obtain ⟨hr, hs, _⟩ := h.of_append_cons
    have hkept := hall e (by simp)
    rw [hop] at hs
    obtain ⟨call', hcall', hnext, _, hpost⟩ := hs
    obtain rfl := Option.some.inj (hcall.symm.trans hcall')
    by_contra hlate
    obtain ⟨kind, hne⟩ := (hasPending_iff_overtaken hr hcall hnext hz).mpr hlate
    have hset := hkept (by rw [hpost]) ⟨kind, by rwa [hpost, JobMonitorState.pending_clear]⟩
    rw [hpost, JobMonitorState.clear, if_pos hz] at hset
    cases hset
  · intro hc e he _
    exact (awake_of_run h hc).2 e he

def JobUpdates.of (updates : JobUpdates) : UpdateKind → Finset JobUpdate
  | .queued => updates.queued
  | .modified => updates.modified
  | .running => updates.running

/-- The update is pending, or the call in progress copied it when it read the set. -/
def UpdatesState.Holds (s : UpdatesState) (kind : UpdateKind) (u : JobUpdate) : Prop :=
  u ∈ s.monitor.pending kind ∨
    ∃ call, s.call = some call ∧ call.Passed kind ∧ u ∈ call.updates.of kind

variable {kind : UpdateKind} {u : JobUpdate}

theorem UpdatesStep.holds (hs : UpdatesStep s op s') (hu : s.Holds kind u) :
    s'.Holds kind u ∨ ∃ updates, op = .finishUpdates updates ∧ u ∈ updates.of kind := by
  cases op with
  | notify other job utcnow =>
    subst hs
    refine .inl (hu.imp_left fun hu => ?_)
    by_cases hk : kind = other
    · subst hk
      cases kind <;> exact Finset.mem_insert_of_mem hu
    · rwa [JobMonitorState.pending_notify_of_ne _ _ _ hk]
  | beginUpdates now =>
    obtain ⟨hnone, rfl⟩ := hs
    rcases hu with hu | ⟨call, hcall, _⟩
    · exact .inl (.inl hu)
    · cases hnone.symm.trans hcall
  | take other =>
    obtain ⟨call, hcall, hnext, rfl⟩ := hs
    left
    rcases hu with hu | ⟨call', hcall', hp, hu⟩
    · by_cases hk : kind = other
      · subst hk
        by_cases happ : u ∈ s.monitor.applicable call.now kind
        · refine .inr ⟨_, rfl, (UpdatesCall.passed_record hnext _ _).mpr (.inl rfl), ?_⟩
          cases kind <;> exact happ
        · left
          cases kind <;> exact Finset.mem_sdiff.mpr ⟨hu, happ⟩
      · exact .inl (by rwa [JobMonitorState.pending_take_of_ne _ _ hk])
    · obtain rfl := Option.some.inj (hcall.symm.trans hcall')
      refine .inr ⟨_, rfl, (UpdatesCall.passed_record hnext _ _).mpr (.inr hp), ?_⟩
      -- The set that is read now is not one that was copied before.
      have hk : kind ≠ other := by
        rintro rfl
        exact UpdatesCall.not_passed_next hnext hp
      cases kind <;> cases other <;> first | exact hu | exact absurd rfl hk
  | finishUpdates updates =>
    obtain ⟨call, hcall, hnext, rfl, rfl⟩ := hs
    rcases hu with hu | ⟨call', hcall', hp, hu⟩
    · exact .inl (.inl (by rwa [JobMonitorState.pending_clear]))
    · obtain rfl := Option.some.inj (hcall.symm.trans hcall')
      exact .inr ⟨_, rfl, hu⟩

/-- An update that is pending at some point of a run is pending at its end, or it was copied by the
call in progress, or a later call has returned it. -/
theorem no_update_lost {t₁ t₂ : List (Edge UpdatesState UpdatesOp)}
    {e : Edge UpdatesState UpdatesOp} (h : Run UpdatesStep .new (t₁ ++ e :: t₂) s)
    (hu : u ∈ e.post.monitor.pending kind) :
    s.Holds kind u ∨ ∃ e' ∈ t₂, ∃ updates, e'.label = .finishUpdates updates ∧
      u ∈ updates.of kind := by
  obtain ⟨_, _, hrest⟩ := h.of_append_cons
  clear h
  have hheld : e.post.Holds kind u := .inl hu
  induction hrest with
  | nil => exact .inl hheld
  | snoc _ hs ih =>
    rcases ih with hh | ⟨e', he', hreturned⟩
    · rcases hs.holds hh with hh | ⟨updates, rfl, hu⟩
      · exact .inl hh
      · exact .inr ⟨_, List.mem_append_right _ (List.mem_singleton_self _), updates, rfl, hu⟩
    · exact .inr ⟨e', List.mem_append_left _ he', hreturned⟩

namespace WakeUpExample

def job : SocaJob := { queue := some "normal", owner := some "alice" }

def notified : JobMonitorState := JobMonitorState.notify .queued job 0 {}

def ended : UpdatesCall := { now := 0, next := none }

def sections : List (Edge UpdatesState UpdatesOp) :=
  [⟨.new, .beginUpdates 0, ⟨{}, some { now := 0 }⟩⟩,
    ⟨⟨{}, some { now := 0 }⟩, .take .queued, ⟨{}, some { now := 0, next := some .modified }⟩⟩,
    ⟨⟨{}, some { now := 0, next := some .modified }⟩, .take .modified,
      ⟨{}, some { now := 0, next := some .running }⟩⟩,
    ⟨⟨{}, some { now := 0, next := some .running }⟩, .take .running, ⟨{}, some ended⟩⟩]

theorem run_sections : Run UpdatesStep .new sections ⟨{}, some ended⟩ :=
  .snoc (.snoc (.snoc (.snoc .nil ⟨rfl, rfl⟩) ⟨_, rfl, rfl, rfl⟩) ⟨_, rfl, rfl, rfl⟩)
    ⟨_, rfl, rfl, rfl⟩

def inTime : List (Edge UpdatesState UpdatesOp) :=
  sections ++ [⟨⟨{}, some ended⟩, .finishUpdates {}, .new⟩] ++
    [⟨.new, .notify .queued job 0, ⟨notified, none⟩⟩]

def overtaken : List (Edge UpdatesState UpdatesOp) :=
  sections ++ [⟨⟨{}, some ended⟩, .notify .queued job 0, ⟨notified, some ended⟩⟩] ++
    [⟨⟨notified, some ended⟩, .finishUpdates {}, ⟨notified.clear 0, none⟩⟩]

theorem run_inTime : Run UpdatesStep .new inTime ⟨notified, none⟩ :=
  .snoc (.snoc run_sections ⟨ended, rfl, rfl, rfl, rfl⟩) rfl

theorem run_overtaken : Run UpdatesStep .new overtaken ⟨notified.clear 0, none⟩ :=
  .snoc (.snoc run_sections rfl) ⟨ended, rfl, rfl, rfl, rfl⟩

theorem late_inTime :
    ∀ n < 6, (overtaking ((inTime.take n).map Edge.label)).late = ∅ := by
  decide

end WakeUpExample

open WakeUpExample

/-- The event is set for a job that arrives after the call. -/
theorem wake_up_kept_in_time : NoLostWakeUp ⟨notified, none⟩ := by
  refine (no_wake_up_lost_iff run_inTime).mpr ?_
    ⟨.new, .notify .queued job 0, ⟨notified, none⟩⟩ (by simp [inTime])
  intro t₁ e t₂ ht _
  have hlength : inTime.length = t₁.length + (t₂.length + 1) := by simp [ht]
  have hsix : inTime.length = 6 := rfl
  have hlate := late_inTime t₁.length (by omega)
  rwa [ht, List.take_left] at hlate

/-- A job that arrives before the call clears the event is left behind. -/
theorem wake_up_lost_when_overtaken :
    Run UpdatesStep .new overtaken ⟨notified.clear 0, none⟩ ∧
      ¬ NoLostWakeUp ⟨notified.clear 0, none⟩ := by
  refine ⟨run_overtaken, fun h => ?_⟩
  have hset := h rfl ⟨.queued, JobMonitorState.pending_notify_self {} 0 job .queued⟩
  cases hset

theorem no_update_lost_in_time : (⟨notified, none⟩ : UpdatesState).Holds .queued
    { queue := job.queue, owner := job.owner, timestamp := 0 } :=
  (no_update_lost run_inTime (Finset.mem_insert_self _ _)).resolve_right (by simp)

end Idea

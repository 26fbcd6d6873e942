import Idea.System.Run
import Mathlib.Data.List.Pairwise

/-! # Analytics entries on their way to the stream

Entries are collected in a buffer, which a thread of its own posts to a stream. The buffer is locked
while it is posted, so that nothing is added meanwhile. The thread ends when it sees that the
service is to stop, or with an exception.
-/

namespace Idea.Analytics

inductive EntryAction where
  | UPDATE_ENTRY | DELETE_ENTRY | CREATE_ENTRY
  deriving DecidableEq

structure AnalyticsEntry where
  entryId : String
  entryAction : EntryAction
  indexId : Option String
  entryRecord : Option String
  deriving DecidableEq

structure Posted where
  number : ℕ
  entry : AnalyticsEntry
  deriving DecidableEq

/-- Where the thread of the buffer is: before it looks whether to stop, waiting, or about to post the
buffer. It ends when it sees the flag, and an exception ends it too. -/
inductive BufferThread where
  | testing | waiting | posting | ended | crashed
  deriving DecidableEq

def BufferThread.isAlive : BufferThread → Bool
  | testing | waiting | posting => true
  | ended | crashed => false

/-- The entries that were posted before `stop` returned are kept on record. -/
structure AnalyticsService where
  buffer : List Posted
  thread : BufferThread
  exit : Bool
  stopped : Bool
  count : ℕ
  posted : List Posted
  accepted : List Posted

def AnalyticsService.start : AnalyticsService := ⟨[], .testing, false, false, 0, [], []⟩

/-- Which records the stream accepts when it is called, and whether the call raises. It may raise
before anything was sent, or after. -/
structure StreamAnswer where
  accepts : Posted → Bool
  raises : Bool

namespace AnalyticsService

variable (s : AnalyticsService)

def postEntry (document : AnalyticsEntry) : AnalyticsService :=
  let entry : Posted := ⟨s.count, document⟩
  { s with
    buffer := s.buffer ++ [entry]
    count := s.count + 1
    posted := if s.stopped then s.posted else s.posted ++ [entry] }

/-- `while not self._exit.is_set()`. -/
def testExit : AnalyticsService := { s with thread := if s.exit then .ended else .waiting }

def wake : AnalyticsService := { s with thread := .posting }

/-- `_post_entries_to_kinesis`. Rejected records are logged, and the buffer is emptied. -/
def postEntriesToKinesis (answer : StreamAnswer) : AnalyticsService :=
  if s.buffer = [] then { s with thread := .testing }
  else
    let accepted := s.accepted ++ s.buffer.filter answer.accepts
    if answer.raises then { s with accepted := accepted, thread := .crashed }
    else { s with accepted := accepted, thread := .testing, buffer := [] }

end AnalyticsService

inductive Act where
  | postEntry (document : AnalyticsEntry)
  | testExit
  | wake
  | postEntriesToKinesis (answer : StreamAnswer)
  /-- The first half of `stop`. -/
  | setExit
  /-- `stop` has joined the thread and returns. -/
  | stopReturns

inductive Step : AnalyticsService → Act → AnalyticsService → Prop
  | postEntry {s} (document) : Step s (.postEntry document) (s.postEntry document)
  | testExit {s} : s.thread = .testing → Step s .testExit s.testExit
  | wake {s} : s.thread = .waiting → Step s .wake s.wake
  | postEntriesToKinesis {s} (answer) : s.thread = .posting →
      Step s (.postEntriesToKinesis answer) (s.postEntriesToKinesis answer)
  | setExit {s} : Step s .setExit { s with exit := true }
  | stopReturns {s} : s.exit = true → s.thread.isAlive = false →
      Step s .stopReturns { s with stopped := true }

/-- What every step keeps. While the thread is alive the buffer has the entries that were posted
last. -/
structure Sound (s : AnalyticsService) : Prop where
  alive : s.thread.isAlive = true → s.stopped = false
  fresh : ∀ p, p ∈ s.buffer ∨ p ∈ s.posted ∨ p ∈ s.accepted → p.number < s.count
  buffer : s.buffer.Pairwise fun p q => p.number < q.number
  accepted : s.accepted.Pairwise fun p q => p.number < q.number
  later : s.thread.isAlive = true → ∀ p ∈ s.accepted, ∀ q ∈ s.buffer, p.number < q.number
  recorded : s.stopped = false → ∀ p ∈ s.buffer, p ∈ s.posted

theorem Sound.postEntry {s : AnalyticsService} (h : Sound s) (document : AnalyticsEntry) :
    Sound (s.postEntry document) where
  alive := h.alive
  fresh p hp := by
    have hcount : p ∈ s.buffer ∨ p ∈ s.posted ∨ p ∈ s.accepted ∨ p = ⟨s.count, document⟩ := by
      simp only [AnalyticsService.postEntry, List.mem_append, List.mem_singleton] at hp
      rcases hp with (hp | hp) | hp | hp
      · exact .inl hp
      · exact .inr (.inr (.inr hp))
      · split at hp
        · exact .inr (.inl hp)
        · rcases List.mem_append.mp hp with hp | hp
          · exact .inr (.inl hp)
          · exact .inr (.inr (.inr (List.mem_singleton.mp hp)))
      · exact .inr (.inr (.inl hp))
    show p.number < s.count + 1
    rcases hcount with hp | hp | hp | rfl
    · exact (h.fresh p (.inl hp)).trans (Nat.lt_succ_self _)
    · exact (h.fresh p (.inr (.inl hp))).trans (Nat.lt_succ_self _)
    · exact (h.fresh p (.inr (.inr hp))).trans (Nat.lt_succ_self _)
    · exact Nat.lt_succ_self _
  buffer := by
    refine List.pairwise_append.mpr ⟨h.buffer, List.pairwise_singleton _ _, fun p hp q hq => ?_⟩
    rw [List.mem_singleton.mp hq]
    exact h.fresh p (.inl hp)
  accepted := h.accepted
  later halive p hp q hq := by
    rcases List.mem_append.mp hq with hq | hq
    · exact h.later halive p hp q hq
    · rw [List.mem_singleton.mp hq]
      exact h.fresh p (.inr (.inr hp))
  recorded hstopped p hp := by
    have hposted : (s.postEntry document).posted = s.posted ++ [⟨s.count, document⟩] := by
      have hnot : s.stopped = false := hstopped
      simp [AnalyticsService.postEntry, hnot]
    rw [hposted, List.mem_append]
    exact (List.mem_append.mp hp).imp_left (h.recorded hstopped p)

theorem Sound.postEntriesToKinesis {s : AnalyticsService} (h : Sound s)
    (hposting : s.thread = .posting) (answer : StreamAnswer) :
    Sound (s.postEntriesToKinesis answer) := by
  have halive : s.thread.isAlive = true := by rw [hposting]; rfl
  have hstopped := h.alive halive
  have hpairwise : (s.accepted ++ s.buffer.filter answer.accepts).Pairwise
      fun p q => p.number < q.number :=
    List.pairwise_append.mpr ⟨h.accepted, h.buffer.filter _,
      fun p hp q hq => h.later halive p hp q (List.mem_of_mem_filter hq)⟩
  have hfresh : ∀ p ∈ s.accepted ++ s.buffer.filter answer.accepts, p.number < s.count := by
    intro p hp
    rcases List.mem_append.mp hp with hp | hp
    · exact h.fresh p (.inr (.inr hp))
    · exact h.fresh p (.inl (List.mem_of_mem_filter hp))
  unfold AnalyticsService.postEntriesToKinesis
  split
  · exact ⟨fun _ => hstopped, h.fresh, h.buffer, h.accepted, fun _ => h.later halive, h.recorded⟩
  · dsimp only
    split
    · refine ⟨fun hc => (by cases hc), fun p hp => ?_, h.buffer, hpairwise, fun hc => (by cases hc),
        h.recorded⟩
      rcases hp with hp | hp | hp
      · exact h.fresh p (.inl hp)
      · exact h.fresh p (.inr (.inl hp))
      · exact hfresh p hp
    · refine ⟨fun _ => hstopped, fun p hp => ?_, .nil, hpairwise,
        fun _ p _ q hq => absurd hq List.not_mem_nil, fun _ p hp => absurd hp List.not_mem_nil⟩
      rcases hp with hp | hp | hp
      · exact absurd hp List.not_mem_nil
      · exact h.fresh p (.inr (.inl hp))
      · exact hfresh p hp

theorem Sound.step {s s' : AnalyticsService} {act : Act} (h : Sound s) (hstep : Step s act s') :
    Sound s' := by
  cases hstep with
  | postEntry document => exact h.postEntry document
  | testExit htesting =>
    have halive : s.thread.isAlive = true := by rw [htesting]; rfl
    exact ⟨fun _ => h.alive halive, h.fresh, h.buffer, h.accepted, fun _ => h.later halive,
      h.recorded⟩
  | wake hwaiting =>
    have halive : s.thread.isAlive = true := by rw [hwaiting]; rfl
    exact ⟨fun _ => h.alive halive, h.fresh, h.buffer, h.accepted, fun _ => h.later halive,
      h.recorded⟩
  | postEntriesToKinesis answer hposting => exact h.postEntriesToKinesis hposting answer
  | setExit => exact ⟨h.alive, h.fresh, h.buffer, h.accepted, h.later, h.recorded⟩
  | stopReturns _ hdead =>
    refine ⟨fun halive => ?_, h.fresh, h.buffer, h.accepted, h.later, fun hc => (by cases hc)⟩
    have hboth := halive.symm.trans hdead
    cases hboth

/-- An entry that was posted before `stop` returned is accepted, or it is in the buffer of a thread
that is alive. The entries of a document are accepted in order, and no later one before one that is
pending. -/
structure Kept (s : AnalyticsService) : Prop where
  delivered : ∀ p ∈ s.posted, p ∈ s.accepted ∨ p ∈ s.buffer ∧ s.thread.isAlive = true
  ordered : s.accepted.Pairwise fun p q =>
    p.entry.entryId = q.entry.entryId → p.number < q.number
  pending : ∀ p ∈ s.buffer, p ∉ s.accepted → ∀ q ∈ s.accepted,
    q.entry.entryId = p.entry.entryId → q.number < p.number

/-- Every record that is sent is accepted, the thread ends with an empty buffer, and until `stop`
returns entries are posted only while it is alive. -/
def Careful : Edge AnalyticsService Act → Prop
  | ⟨s, .postEntry _, _⟩ => s.stopped = true ∨ s.thread.isAlive = true
  | ⟨s, .testExit, _⟩ => s.exit = true → s.buffer = []
  | ⟨s, .postEntriesToKinesis answer, _⟩ => ∀ p ∈ s.buffer, answer.accepts p = true
  | _ => True

theorem Kept.postEntry {s : AnalyticsService} (hs : Sound s) (h : Kept s)
    {document : AnalyticsEntry} (hcareful : s.stopped = true ∨ s.thread.isAlive = true) :
    Kept (s.postEntry document) where
  delivered p hp := by
    have hold : p ∈ s.posted → p ∈ s.accepted ∨ p ∈ (s.postEntry document).buffer ∧
        s.thread.isAlive = true := fun hp =>
      (h.delivered p hp).imp_right (And.imp_left (List.mem_append_left _))
    simp only [AnalyticsService.postEntry] at hp
    split at hp
    · exact hold hp
    · next hstopped =>
      rcases List.mem_append.mp hp with hp | hp
      · exact hold hp
      · exact .inr ⟨List.mem_append_right _ hp, hcareful.resolve_left hstopped⟩
  ordered := h.ordered
  pending p hp hnot q hq hsame := by
    rcases List.mem_append.mp hp with hp | hp
    · exact h.pending p hp hnot q hq hsame
    · rw [List.mem_singleton.mp hp]
      exact hs.fresh q (.inr (.inr hq))

theorem Kept.postEntriesToKinesis {s : AnalyticsService} (hs : Sound s) (h : Kept s)
    (hposting : s.thread = .posting) {answer : StreamAnswer}
    (hcareful : ∀ p ∈ s.buffer, answer.accepts p = true) :
    Kept (s.postEntriesToKinesis answer) := by
  have hsound := hs.postEntriesToKinesis hposting answer
  have hordered : (s.postEntriesToKinesis answer).accepted.Pairwise fun p q =>
      p.entry.entryId = q.entry.entryId → p.number < q.number := by
    refine List.Pairwise.imp ?_ hsound.accepted
    intro p q hless _
    exact hless
  have hall : s.buffer.filter answer.accepts = s.buffer := List.filter_eq_self.mpr hcareful
  unfold AnalyticsService.postEntriesToKinesis at hordered ⊢
  split at hordered
  · next hempty =>
    rw [if_pos hempty]
    refine ⟨fun p hp => ?_, hordered, h.pending⟩
    exact (h.delivered p hp).imp_right fun hb => ⟨hb.1, rfl⟩
  · next hne =>
    rw [if_neg hne]
    dsimp only at hordered ⊢
    rw [hall] at hordered ⊢
    have hdelivered : ∀ p ∈ s.posted, p ∈ s.accepted ++ s.buffer := fun p hp =>
      List.mem_append.mpr ((h.delivered p hp).imp_right And.left)
    split at hordered
    · next hraises =>
      rw [if_pos hraises]
      exact ⟨fun p hp => .inl (hdelivered p hp), hordered,
        fun p hp hnot => absurd (List.mem_append_right _ hp) hnot⟩
    · next hraises =>
      rw [if_neg hraises]
      exact ⟨fun p hp => .inl (hdelivered p hp), hordered,
        fun p hp => absurd hp List.not_mem_nil⟩

theorem Kept.step {s s' : AnalyticsService} {act : Act} (hs : Sound s) (h : Kept s)
    (hstep : Step s act s') (hcareful : Careful ⟨s, act, s'⟩) : Kept s' := by
  cases hstep with
  | postEntry document => exact h.postEntry hs hcareful
  | testExit htesting =>
    refine ⟨fun p hp => (h.delivered p hp).imp_right fun hb => ?_, h.ordered, h.pending⟩
    cases hexit : s.exit with
    | true =>
      have hempty : s.buffer = [] := hcareful hexit
      rw [hempty] at hb
      exact absurd hb.1 List.not_mem_nil
    | false =>
      refine ⟨hb.1, ?_⟩
      rw [AnalyticsService.testExit, hexit]
      rfl
  | wake hwaiting =>
    exact ⟨fun p hp => (h.delivered p hp).imp_right fun hb => ⟨hb.1, rfl⟩, h.ordered, h.pending⟩
  | postEntriesToKinesis answer hposting => exact h.postEntriesToKinesis hs hposting hcareful
  | setExit => exact ⟨h.delivered, h.ordered, h.pending⟩
  | stopReturns _ _ => exact ⟨h.delivered, h.ordered, h.pending⟩

end Idea.Analytics

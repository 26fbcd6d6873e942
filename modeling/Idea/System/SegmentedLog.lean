import Mathlib.Data.List.Basic
import Mathlib.Data.List.Infix
import Mathlib.Logic.Function.Basic
import Mathlib.Order.Basic

/-! # Logs in segments

A log is cut into segments. Only the last of them is written, until it is closed and another one is
opened after it. A reader has positions in some of the segments. It has followed the log if what it
has read, with what is left after its position in the last segment, is what was written.
-/

structure Segment (α : Type*) where
  entries : List α
  closed : Bool

/-- The closed segments before the last one, and the last one. -/
structure SegmentedLog (α : Type*) where
  ancestors : List (List α)
  current : Segment α

namespace SegmentedLog

variable {α : Type*}

def currentId (log : SegmentedLog α) : ℕ := log.ancestors.length

def segment? (log : SegmentedLog α) (id : ℕ) : Option (Segment α) :=
  if id = log.currentId then some log.current else log.ancestors[id]?.map (⟨·, true⟩)

def write (log : SegmentedLog α) (a : α) : SegmentedLog α :=
  { log with current := { log.current with entries := log.current.entries ++ [a] } }

def close (log : SegmentedLog α) : SegmentedLog α :=
  { log with current := { log.current with closed := true } }

def openNext (log : SegmentedLog α) : SegmentedLog α :=
  ⟨log.ancestors ++ [log.current.entries], ⟨[], false⟩⟩

def unread (log : SegmentedLog α) (position : ℕ → Option ℕ) : List α :=
  match position log.currentId with
  | some p => log.current.entries.drop p
  | none => []

/-- A reader that has positions only in segments that exist, and has left the closed ones behind. -/
structure Followed (log : SegmentedLog α) (position : ℕ → Option ℕ) (done written : List α) :
    Prop where
  placed : ∀ id p, position id = some p → ∃ segment, log.segment? id = some segment ∧
    p ≤ segment.entries.length ∧ (segment.closed = true → segment.entries.length ≤ p)
  log : done ++ log.unread position = written

section Segments

variable {log : SegmentedLog α} {id : ℕ} {segment : Segment α}

@[simp] theorem segment?_currentId (log : SegmentedLog α) :
    log.segment? log.currentId = some log.current := by
  simp [segment?]

theorem segment?_of_ne (h : id ≠ log.currentId) :
    log.segment? id = log.ancestors[id]?.map (⟨·, true⟩) := by
  simp [segment?, h]

theorem closed_of_ne (h : id ≠ log.currentId) (hsegment : log.segment? id = some segment) :
    segment.closed = true := by
  rw [segment?_of_ne h] at hsegment
  obtain ⟨entries, -, rfl⟩ := Option.map_eq_some_iff.mp hsegment
  rfl

theorem le_currentId (hsegment : log.segment? id = some segment) : id ≤ log.currentId := by
  by_cases hid : id = log.currentId
  · exact Nat.le_of_eq hid
  · rw [segment?_of_ne hid] at hsegment
    obtain ⟨entries, hentries, -⟩ := Option.map_eq_some_iff.mp hsegment
    exact Nat.le_of_lt (List.getElem?_eq_some_iff.mp hentries).1

theorem segment?_openNext (hclosed : log.current.closed = true)
    (hsegment : log.segment? id = some segment) : log.openNext.segment? id = some segment := by
  by_cases hid : id = log.currentId
  · subst hid
    rw [segment?_currentId] at hsegment
    cases hsegment
    rw [segment?_of_ne (by simp [openNext, currentId])]
    simp [openNext, currentId, ← hclosed]
  · rw [segment?_of_ne hid] at hsegment
    obtain ⟨entries, hentries, rfl⟩ := Option.map_eq_some_iff.mp hsegment
    obtain ⟨hlt, -⟩ := List.getElem?_eq_some_iff.mp hentries
    rw [segment?_of_ne (by simp only [openNext, currentId, List.length_append]; omega)]
    simp [openNext, List.getElem?_append_left hlt, hentries]

end Segments

namespace Followed

variable {log : SegmentedLog α} {position : ℕ → Option ℕ} {done written : List α} {id p : ℕ}
  {segment : Segment α}

theorem position_le (h : log.Followed position done written) (hp : position id = some p)
    (hsegment : log.segment? id = some segment) : p ≤ segment.entries.length ∧
      (segment.closed = true → segment.entries.length ≤ p) := by
  obtain ⟨segment', hsegment', hle⟩ := h.placed id p hp
  obtain rfl := Option.some.inj (hsegment.symm.trans hsegment')
  exact hle

theorem unread_of_closed (h : log.Followed position done written)
    (hclosed : log.current.closed = true) : log.unread position = [] := by
  unfold unread
  split
  · next p hp => exact List.drop_eq_nil_of_le ((h.position_le hp (segment?_currentId log)).2 hclosed)
  · rfl

theorem write (h : log.Followed position done written) {a : α}
    (hopen : log.current.closed = false) (hp : ∃ p, position log.currentId = some p) :
    (log.write a).Followed position done (written ++ [a]) := by
  obtain ⟨p, hp⟩ := hp
  have hle : p ≤ log.current.entries.length := (h.position_le hp (segment?_currentId log)).1
  constructor
  · intro id q hq
    obtain ⟨segment, hsegment, hle', hclosed⟩ := h.placed id q hq
    by_cases hid : id = log.currentId
    · subst hid
      rw [segment?_currentId] at hsegment
      cases hsegment
      refine ⟨_, segment?_currentId (log.write a), ?_, fun hclosed => ?_⟩
      · simp only [SegmentedLog.write, List.length_append, List.length_singleton]
        omega
      · exact absurd (hopen.symm.trans hclosed) Bool.false_ne_true
    · refine ⟨segment, ?_, hle', hclosed⟩
      rw [segment?_of_ne hid] at hsegment
      rwa [@segment?_of_ne α (log.write a) id hid]
  · have hunread : (log.write a).unread position = log.unread position ++ [a] := by
      have hcurrent : (log.write a).currentId = log.currentId := rfl
      simp only [unread, hcurrent, hp]
      exact List.drop_append_of_le_length hle
    rw [hunread, ← List.append_assoc, h.log]

theorem close (h : log.Followed position done written)
    (hp : ∀ p, position log.currentId = some p → log.current.entries.length ≤ p) :
    log.close.Followed position done written := by
  refine ⟨fun id q hq => ?_, h.log⟩
  obtain ⟨segment, hsegment, hle, hclosed⟩ := h.placed id q hq
  by_cases hid : id = log.currentId
  · subst hid
    rw [segment?_currentId] at hsegment
    cases hsegment
    exact ⟨_, segment?_currentId log.close, hle, fun _ => hp q hq⟩
  · refine ⟨segment, ?_, hle, hclosed⟩
    rw [segment?_of_ne hid] at hsegment
    rwa [@segment?_of_ne α log.close id hid]

theorem openNext (h : log.Followed position done written) (hclosed : log.current.closed = true) :
    log.openNext.Followed position done written := by
  constructor
  · intro id q hq
    obtain ⟨segment, hsegment, hle⟩ := h.placed id q hq
    exact ⟨segment, segment?_openNext hclosed hsegment, hle⟩
  · have hunread : log.openNext.unread position = [] := by
      unfold unread
      split <;> simp [SegmentedLog.openNext]
    rw [hunread, ← h.unread_of_closed hclosed, h.log]

theorem start (h : log.Followed position done written) (hnone : position id = none)
    (hsegment : log.segment? id = some segment) :
    log.Followed (Function.update position id (some segment.entries.length)) done written := by
  constructor
  · intro id' q hq
    by_cases hid : id' = id
    · subst hid
      rw [Function.update_self] at hq
      cases hq
      exact ⟨segment, hsegment, le_rfl, fun _ => le_rfl⟩
    · rw [Function.update_of_ne hid] at hq
      exact h.placed id' q hq
  · rw [← h.log]
    congr 1
    by_cases hid : log.currentId = id
    · subst hid
      rw [segment?_currentId] at hsegment
      cases hsegment
      simp [unread, hnone]
    · simp only [unread, Function.update_of_ne hid]

theorem leave (h : log.Followed position done written) (hp : position id = some p)
    (hsegment : log.segment? id = some segment) (hend : segment.entries.length ≤ p) :
    log.Followed (Function.update position id none) done written := by
  constructor
  · intro id' q hq
    by_cases hid : id' = id
    · subst hid
      rw [Function.update_self] at hq
      cases hq
    · rw [Function.update_of_ne hid] at hq
      exact h.placed id' q hq
  · rw [← h.log]
    congr 1
    by_cases hid : log.currentId = id
    · subst hid
      rw [segment?_currentId] at hsegment
      cases hsegment
      simp [unread, hp, hend]
    · simp only [unread, Function.update_of_ne hid]

theorem read (h : log.Followed position done written) (hp : position id = some p)
    (hsegment : log.segment? id = some segment) {n : ℕ}
    (hpage : (segment.entries.drop p).take n ≠ []) :
    segment.closed = false ∧
      log.Followed
        (Function.update position id (some (p + ((segment.entries.drop p).take n).length)))
        (done ++ (segment.entries.drop p).take n) written := by
  obtain ⟨hle, hclosed⟩ := h.position_le hp hsegment
  have hopen : segment.closed = false := by
    rw [← Bool.not_eq_true]
    intro hcl
    rw [List.drop_eq_nil_of_le (hclosed hcl), List.take_nil] at hpage
    exact hpage rfl
  obtain rfl : id = log.currentId := by
    by_contra hid
    exact absurd (hopen.symm.trans (closed_of_ne hid hsegment)) Bool.false_ne_true
  rw [segment?_currentId] at hsegment
  cases hsegment
  have hlength : ((log.current.entries.drop p).take n).length ≤ log.current.entries.length - p := by
    rw [List.length_take, List.length_drop]
    omega
  refine ⟨hopen, fun id' q hq => ?_, ?_⟩
  · by_cases hid : id' = log.currentId
    · subst hid
      rw [Function.update_self] at hq
      cases hq
      refine ⟨_, segment?_currentId log, by omega, fun hcl => ?_⟩
      exact absurd (hopen.symm.trans hcl) Bool.false_ne_true
    · rw [Function.update_of_ne hid] at hq
      exact h.placed id' q hq
  · have hunread : (log.current.entries.drop p).take n ++
        log.current.entries.drop (p + ((log.current.entries.drop p).take n).length) =
        log.current.entries.drop p := by
      rw [← List.drop_drop]
      exact List.prefix_iff_eq_append.mp (List.take_prefix n _)
    rw [← h.log, List.append_assoc]
    simp only [unread, hp, Function.update_self, hunread]

end Followed

end SegmentedLog

import Mathlib.Algebra.Order.Group.Defs
import Mathlib.Algebra.Order.Sub.Basic
import Mathlib.Data.List.Basic
import Mathlib.Order.Lattice

/-! # Limits on sliding windows

A log of times is limited if no window holds more than a number of them. It is enough to keep the
times that may still count, and to look at those when one more time is to be added.
-/

namespace SlidingWindow

variable {T : Type*} [AddCommGroup T] [LinearOrder T] {width now later : T} {kept log : List T}
  {limit : ℕ}

def counting (width now : T) (times : List T) : List T := times.filter (now - width < ·)

/-- A part of the log from which no time is missing that counts now or will count later. -/
structure Keeps (width now : T) (kept log : List T) : Prop where
  same : ∀ t, now ≤ t → counting width t kept = counting width t log
  past : ∀ x ∈ log, x ≤ now

/-- No two times of a window are as far apart as its width. -/
def IsWindow (width : T) (window : T → Bool) : Prop :=
  ∀ x y, window x = true → window y = true → y - x < width

/-- No window has more of the times than the limit. -/
def Limited (width : T) (limit : ℕ) (log : List T) : Prop :=
  ∀ window, IsWindow width window → log.countP window ≤ limit

namespace Keeps

theorem mono (h : Keeps width now kept log) (hle : now ≤ later) : Keeps width later kept log where
  same t ht := h.same t (le_trans hle ht)
  past x hx := le_trans (h.past x hx) hle

theorem add (h : Keeps width now kept log) : Keeps width now (kept ++ [now]) (log ++ [now]) where
  same t ht := by
    have hkept := h.same t ht
    unfold counting at hkept ⊢
    rw [List.filter_append, List.filter_append, hkept]
  past x hx := by
    rcases List.mem_append.mp hx with hx | hx
    · exact h.past x hx
    · exact le_of_eq (List.mem_singleton.mp hx)

end Keeps

variable [IsOrderedAddMonoid T]

theorem counting_counting (h : now ≤ later) (times : List T) :
    counting width later (counting width now times) = counting width later times := by
  rw [counting, counting, List.filter_filter]
  apply List.filter_congr
  intro x _
  have hle : now - width ≤ later - width := sub_le_sub_right h width
  rw [Bool.eq_iff_iff, Bool.and_eq_true, decide_eq_true_iff, decide_eq_true_iff]
  exact ⟨fun hx => hx.1, fun hx => ⟨hx, lt_of_le_of_lt hle hx⟩⟩

theorem Keeps.prune (h : Keeps width now kept log) :
    Keeps width now (counting width now kept) log where
  same t ht := (counting_counting ht kept).trans (h.same t ht)
  past := h.past

theorem Limited.add (hlog : Limited width limit log) (h : Keeps width now kept log)
    (hless : (counting width now kept).length < limit) : Limited width limit (log ++ [now]) := by
  intro window hwindow
  rw [List.countP_append]
  cases hnow : window now with
  | false =>
    have hzero : [now].countP window = 0 := by simp [hnow]
    rw [hzero]
    exact hlog window hwindow
  | true =>
    have hcount : log.countP window ≤ (counting width now kept).length := by
      rw [h.same now le_rfl, counting, ← List.countP_eq_length_filter]
      apply List.countP_mono_left
      intro x _ hx
      exact decide_eq_true (sub_lt_comm.mp (hwindow x now hx hnow))
    have hone : [now].countP window = 1 := by simp [hnow]
    omega

end SlidingWindow

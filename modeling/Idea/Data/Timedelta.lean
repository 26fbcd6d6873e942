import Mathlib.Data.Int.Notation

/-! # Time differences

A difference of two times, in microseconds, is read as whole days, the seconds of the last day
and the microseconds of the last second. The seconds start again at every day, so over more
than a day a bound on them is met in a window of each day and not from some time on.
-/

namespace Timedelta

def seconds (delta : ℤ) : ℤ := delta / 1000000 % 86400

/-- More than `bound` whole seconds of some day have passed. -/
def InWindow (bound delta : ℤ) : Prop :=
  ∃ day : ℤ, day * 86400 + bound < delta / 1000000 ∧ delta / 1000000 < (day + 1) * 86400

theorem lt_seconds_iff {bound delta : ℤ} : bound < seconds delta ↔ InWindow bound delta := by
  unfold seconds InWindow
  generalize delta / 1000000 = total
  constructor
  · intro h
    exact ⟨total / 86400, by omega, by omega⟩
  · rintro ⟨day, hlow, hhigh⟩
    have hday : day ≤ total / 86400 ∨ total / 86400 < day := by omega
    rcases hday with hday | hday
    · omega
    · have hneg : bound < 0 := by omega
      omega

theorem seconds_le {delta : ℤ} (h : 0 ≤ delta) : seconds delta * 1000000 ≤ delta := by
  unfold seconds
  omega

end Timedelta

import Mathlib.Data.List.Nodup
import Mathlib.Data.List.Perm.Subperm
import Mathlib.Data.Nat.Digits.Defs
import Mathlib.Order.Lattice

/-! # Fresh names

The first candidate that is not used yet. If the candidates differ from each other, one more of
them than there are used ones has to be looked at.
-/

namespace FreshNames

variable {α : Type*} [DecidableEq α]

def seek (candidate : ℕ → α) (used : List α) : ℕ → ℕ → Option ℕ
  | 0, _ => none
  | rounds + 1, n => if candidate n ∈ used then seek candidate used rounds (n + 1) else some n

def fresh (candidate : ℕ → α) (used : List α) : α :=
  candidate ((seek candidate used (used.length + 1) 0).getD 0)

variable {candidate : ℕ → α} {used : List α}

theorem seek_cases (candidate : ℕ → α) (used : List α) (rounds start : ℕ) :
    (∃ n, seek candidate used rounds start = some n ∧ start ≤ n ∧ candidate n ∉ used ∧
      ∀ m, start ≤ m → m < n → candidate m ∈ used) ∨
      ∀ m, start ≤ m → m < start + rounds → candidate m ∈ used := by
  induction rounds generalizing start with
  | zero => exact Or.inr fun m hle hlt => absurd hlt (by omega)
  | succ rounds ih =>
    by_cases hused : candidate start ∈ used
    · have hfirst : ∀ m, start ≤ m → ¬ start + 1 ≤ m → candidate m ∈ used := by
        intro m hle hlt
        obtain rfl : m = start := by omega
        exact hused
      rcases ih (start + 1) with ⟨n, hseek, hle, hfree, hbefore⟩ | hall
      · refine Or.inl ⟨n, ?_, by omega, hfree, fun m hm hmn => ?_⟩
        · rw [seek, if_pos hused, hseek]
        · by_cases hlater : start + 1 ≤ m
          · exact hbefore m hlater hmn
          · exact hfirst m hm hlater
      · refine Or.inr fun m hm hlt => ?_
        by_cases hlater : start + 1 ≤ m
        · exact hall m hlater (by omega)
        · exact hfirst m hm hlater
    · exact Or.inl ⟨start, by rw [seek, if_neg hused], le_refl _, hused, fun m _ _ => by omega⟩

theorem fresh_spec (hinjective : Function.Injective candidate) (used : List α) :
    ∃ n, fresh candidate used = candidate n ∧ candidate n ∉ used ∧
      ∀ m < n, candidate m ∈ used := by
  rcases seek_cases candidate used (used.length + 1) 0 with ⟨n, hseek, -, hfree, hbefore⟩ | hall
  · exact ⟨n, by rw [fresh, hseek, Option.getD_some], hfree, fun m hm => hbefore m (by omega) hm⟩
  · have hnodup : ((List.range (used.length + 1)).map candidate).Nodup :=
      List.nodup_range.map hinjective
    have hsubset : (List.range (used.length + 1)).map candidate ⊆ used := by
      intro name hname
      obtain ⟨m, hm, rfl⟩ := List.mem_map.mp hname
      exact hall m (by omega) (by rw [List.mem_range] at hm; omega)
    have hlength := (hnodup.subperm hsubset).length_le
    rw [List.length_map, List.length_range] at hlength
    omega

theorem fresh_not_mem (hinjective : Function.Injective candidate) (used : List α) :
    fresh candidate used ∉ used := by
  obtain ⟨n, hfresh, hfree, -⟩ := fresh_spec hinjective used
  rwa [hfresh]

def numbered (name ext : List Char) (n : ℕ) : List Char :=
  if n = 0 then name ++ ext else name ++ '_' :: Nat.toDigits 10 n ++ ext

theorem numbered_injective (name ext : List Char) : Function.Injective (numbered name ext) := by
  have hlength : ∀ n, n ≠ 0 → (numbered name ext n).length ≠ (name ++ ext).length := by
    intro n hn
    simp only [numbered, if_neg hn, List.length_append, List.length_cons]
    omega
  intro n m heq
  by_cases hn : n = 0
  · by_cases hm : m = 0
    · rw [hn, hm]
    · exact absurd (by rw [← heq, numbered, if_pos hn]) (hlength m hm)
  · by_cases hm : m = 0
    · exact absurd (by rw [heq, numbered, if_pos hm]) (hlength n hn)
    · rw [numbered, numbered, if_neg hn, if_neg hm, List.append_cancel_right_eq,
        List.append_cancel_left_eq, List.cons.injEq] at heq
      have hdigits := congrArg (fun digits => Nat.ofDigitChars 10 digits 0) heq.2
      simpa using hdigits

end FreshNames

import Mathlib.Data.List.Basic
import Mathlib.Data.List.Nodup

/-! # Pages

A list is cut into pages of one size, of which the last may be shorter. What several pages have in
common is seen on the list of their distinct entries.
-/

namespace Pages

variable {α β : Type}

def pages (size : ℕ) (l : List α) : List (List α) :=
  (List.range ((l.length + size - 1) / size)).map fun i => (l.drop (i * size)).take size

@[simp]
theorem pages_nil (size : ℕ) : pages size ([] : List α) = [] := by
  have h : (([] : List α).length + size - 1) / size = 0 := by
    rcases Nat.eq_zero_or_pos size with rfl | hsize
    · exact Nat.div_zero _
    · rw [List.length_nil, Nat.zero_add, Nat.div_eq_of_lt (by omega)]
  unfold pages
  rw [h, List.range_zero, List.map_nil]

theorem pages_cons {size : ℕ} (hsize : 0 < size) {l : List α} (hl : l ≠ []) :
    pages size l = l.take size :: pages size (l.drop size) := by
  have hpos := List.length_pos_of_ne_nil hl
  have hcount : (l.length + size - 1) / size =
      ((l.drop size).length + size - 1) / size + 1 := by
    rw [List.length_drop]
    rcases Nat.lt_or_ge l.length size with hlt | hle
    · have hzero : l.length - size = 0 := by omega
      rw [hzero, Nat.zero_add, Nat.div_eq_of_lt (show size - 1 < size by omega)]
      exact Nat.div_eq_of_lt_le (by omega) (by omega)
    · have hsum : l.length + size - 1 = l.length - size + size - 1 + size := by omega
      rw [hsum, Nat.add_div_right _ hsize]
  unfold pages
  rw [hcount, List.range_succ_eq_map, List.map_cons, List.map_map, Nat.zero_mul, List.drop_zero]
  congr 1
  apply List.map_congr_left
  intro i _
  rw [Function.comp_apply, List.drop_drop, Nat.succ_mul, Nat.add_comm]

theorem pages_induction {size : ℕ} (hsize : 0 < size) {P : List α → Prop} (hnil : P [])
    (hpage : ∀ l, l ≠ [] → P (l.drop size) → P l) (l : List α) : P l := by
  induction hlength : l.length using Nat.strongRecOn generalizing l with
  | _ length ih =>
    by_cases hl : l = []
    · exact hl ▸ hnil
    · have hpos := List.length_pos_of_ne_nil hl
      apply hpage l hl
      apply ih (l.drop size).length _ _ rfl
      rw [List.length_drop]
      omega

theorem flatten_pages {size : ℕ} (hsize : 0 < size) (l : List α) :
    (pages size l).flatten = l := by
  induction l using pages_induction hsize with
  | hnil => rw [pages_nil, List.flatten_nil]
  | hpage l hl ih => rw [pages_cons hsize hl, List.flatten_cons, ih, List.take_append_drop]

variable [DecidableEq α]

theorem eraseDups_filter (p : α → Bool) (l : List α) :
    (l.filter p).eraseDups = l.eraseDups.filter p := by
  induction hlength : l.length using Nat.strongRecOn generalizing l with
  | _ length ih =>
    cases l with
    | nil => rfl
    | cons a l =>
      have hrest := ih (l.filter fun b => !b == a).length
        (hlength ▸ Nat.lt_succ_of_le (List.length_filter_le _ l)) _ rfl
      rw [List.eraseDups_cons, List.filter_cons, List.filter_cons, ← hrest]
      cases hp : p a with
      | true =>
        rw [if_pos rfl, if_pos rfl, List.eraseDups_cons, List.filter_filter, List.filter_filter]
        simp only [Bool.and_comm]
      | false =>
        rw [if_neg Bool.false_ne_true, if_neg Bool.false_ne_true, List.filter_filter]
        congr 1
        apply List.filter_congr
        intro b _
        by_cases hb : b = a
        · simp [hb, hp]
        · simp [hb]

theorem nodup_eraseDups (l : List α) : l.eraseDups.Nodup := by
  induction l with
  | nil => exact List.nodup_nil
  | cons a l ih =>
    rw [List.eraseDups_cons, eraseDups_filter, List.nodup_cons]
    exact ⟨by simp, ih.filter _⟩

theorem filterMap_removeAll {f : α → Option β} {l r : List α}
    (h : ∀ a ∈ l, a ∈ r → f a = none) :
    (r.removeAll l).eraseDups.filterMap f = r.eraseDups.filterMap f := by
  rw [List.removeAll, eraseDups_filter, List.filterMap_filter]
  apply List.filterMap_congr
  intro a ha
  by_cases hl : a ∈ l
  · simp [hl, h a hl (List.mem_eraseDups.mp ha)]
  · simp [hl]

theorem filterMap_eraseDups_flatten {f : α → Option β} {pages : List (List α)}
    (h : pages.Pairwise fun p q => ∀ a ∈ p, a ∈ q → f a = none) :
    pages.flatten.eraseDups.filterMap f = pages.flatMap fun p => p.eraseDups.filterMap f := by
  induction h with
  | nil => rfl
  | cons hp _ ih =>
    rw [List.flatten_cons, List.eraseDups_append, List.filterMap_append, List.flatMap_cons, ← ih,
      filterMap_removeAll]
    intro a ha hflat
    obtain ⟨q, hq, haq⟩ := List.mem_flatten.mp hflat
    exact hp q hq a ha haq

end Pages

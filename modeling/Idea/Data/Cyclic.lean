import Mathlib.Data.List.Basic
import Mathlib.Data.List.Nodup

/-! # Cyclic order in a list

A list is gone through from a place to its end and then from its start. One element comes
before another in that order until it is passed; going on by one place, adding an element at
the end and taking the first one off keep the order of the others.
-/

namespace Cyclic

variable {α : Type*} [DecidableEq α] {l : List α} {i : ℕ} {a b c : α}

/-- Both are in the list, and from the place `i` on and around `a` comes before `b`. -/
structure Before (l : List α) (i : ℕ) (a b : α) : Prop where
  left : a ∈ l
  right : b ∈ l
  order : (i ≤ l.idxOf a ∧ (l.idxOf a < l.idxOf b ∨ l.idxOf b < i)) ∨
    (l.idxOf a < l.idxOf b ∧ l.idxOf b < i)

theorem idxOf_of_getElem? (hn : l.Nodup) (h : l[i]? = some a) : l.idxOf a = i := by
  obtain ⟨hi, rfl⟩ := List.getElem?_eq_some_iff.mp h
  exact hn.idxOf_getElem i hi

theorem idxOf_ne (ha : a ∈ l) (hne : a ≠ b) : l.idxOf a ≠ l.idxOf b := fun h =>
  hne ((List.idxOf_inj ha).mp h)

theorem before_of_getElem? (hn : l.Nodup) (h : l[i]? = some b) (ha : a ∈ l) (hne : a ≠ b) :
    Before l ((i + 1) % l.length) a b := by
  have hb := List.mem_of_getElem? h
  have hib := idxOf_of_getElem? hn h
  have hlt := List.idxOf_lt_length_of_mem ha
  have hi : i < l.length := (List.getElem?_eq_some_iff.mp h).1
  have hab := idxOf_ne ha hne
  refine ⟨ha, hb, ?_⟩
  by_cases hend : i + 1 = l.length
  · rw [hend, Nat.mod_self]
    omega
  · rw [Nat.mod_eq_of_lt (by omega)]
    omega

theorem not_before_of_getElem? (hn : l.Nodup) (h : l[i]? = some b) : ¬ Before l i a b := by
  intro hb
  have hib := idxOf_of_getElem? hn h
  have := hb.order
  omega

theorem Before.next (hb : Before l i a b) (hn : l.Nodup) (h : l[i]? = some c) (hne : c ≠ a) :
    Before l ((i + 1) % l.length) a b := by
  have hic := idxOf_of_getElem? hn h
  have hi : i < l.length := (List.getElem?_eq_some_iff.mp h).1
  have hca := idxOf_ne (List.mem_of_getElem? h) hne
  have hlt := List.idxOf_lt_length_of_mem hb.right
  have horder := hb.order
  refine ⟨hb.left, hb.right, ?_⟩
  by_cases hend : i + 1 = l.length
  · have hla := List.idxOf_lt_length_of_mem hb.left
    rw [hend, Nat.mod_self]
    omega
  · rw [Nat.mod_eq_of_lt (by omega)]
    omega

theorem Before.append (hb : Before l i a b) (c : α) : Before (l ++ [c]) i a b := by
  refine ⟨List.mem_append_left _ hb.left, List.mem_append_left _ hb.right, ?_⟩
  rw [List.idxOf_append_of_mem hb.left, List.idxOf_append_of_mem hb.right]
  exact hb.order

theorem Before.tail (hb : Before (c :: l) 0 a b) (hne : c ≠ a) : Before l 0 a b := by
  have hcb : c ≠ b := by
    rintro rfl
    have := hb.order
    simp at this
  have ha := hb.left
  have hb' := hb.right
  have horder := hb.order
  rw [List.idxOf_cons_ne _ hne, List.idxOf_cons_ne _ hcb] at horder
  rw [List.mem_cons] at ha hb'
  refine ⟨ha.resolve_left (Ne.symm hne), hb'.resolve_left (Ne.symm hcb), ?_⟩
  omega

end Cyclic

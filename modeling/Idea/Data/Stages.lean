import Mathlib.Data.List.Basic
import Mathlib.Data.List.Pairwise
import Mathlib.Order.Lattice

/-! # Stages

A list is gone through up to the first element of some kind. A list of batches is graded by a key
if each batch has one key, and the keys rise from batch to batch.
-/

namespace Stages

variable {α κ : Type*}

def upTo (p : α → Bool) : List α → List α
  | [] => []
  | a :: l => a :: if p a then [] else upTo p l

variable {p : α → Bool} {a b : α} {l : List α}

theorem upTo_cons_of_pos (h : p a = true) : upTo p (a :: l) = [a] := by
  rw [upTo, if_pos h]

theorem upTo_cons_of_neg (h : p a = false) : upTo p (a :: l) = a :: upTo p l := by
  rw [upTo, if_neg (Bool.eq_false_iff.mp h)]

theorem upTo_eq_self (h : ∀ a ∈ l, p a = false) : upTo p l = l := by
  induction l with
  | nil => rfl
  | cons a l ih =>
    obtain ⟨ha, hl⟩ := List.forall_mem_cons.mp h
    rw [upTo_cons_of_neg ha, ih hl]

theorem upTo_sublist (p : α → Bool) (l : List α) : (upTo p l).Sublist l := by
  induction l with
  | nil => exact List.Sublist.slnil
  | cons a l ih =>
    rw [upTo]
    split
    · exact (List.nil_sublist l).cons_cons a
    · exact ih.cons_cons a

theorem pairwise_upTo (p : α → Bool) (l : List α) : (upTo p l).Pairwise fun a _ => p a = false := by
  induction l with
  | nil => exact List.Pairwise.nil
  | cons a l ih =>
    cases ha : p a with
    | true =>
      rw [upTo_cons_of_pos ha]
      exact List.pairwise_singleton _ _
    | false =>
      rw [upTo_cons_of_neg ha]
      exact List.pairwise_cons.mpr ⟨fun _ _ => ha, ih⟩

theorem upTo_append {l₁ l₂ : List α} (h : ∀ a ∈ l₁, p a = false) :
    upTo p (l₁ ++ l₂) = l₁ ++ upTo p l₂ := by
  induction l₁ with
  | nil => rfl
  | cons a l₁ ih =>
    obtain ⟨ha, hl⟩ := List.forall_mem_cons.mp h
    rw [List.cons_append, upTo_cons_of_neg ha, ih hl, List.cons_append]

theorem exists_first (h : ∃ a ∈ l, p a = true) :
    ∃ l₁ a l₂, l = l₁ ++ a :: l₂ ∧ p a = true ∧ ∀ x ∈ l₁, p x = false := by
  induction l with
  | nil =>
    obtain ⟨a, ha, -⟩ := h
    exact absurd ha List.not_mem_nil
  | cons b l ih =>
    cases hb : p b with
    | true => exact ⟨[], b, l, rfl, hb, fun x hx => absurd hx List.not_mem_nil⟩
    | false =>
      obtain ⟨a, ha, hpa⟩ := h
      rcases List.mem_cons.mp ha with rfl | ha
      · rw [hb] at hpa
        cases hpa
      · obtain ⟨l₁, c, l₂, rfl, hc, hl₁⟩ := ih ⟨a, ha, hpa⟩
        exact ⟨b :: l₁, c, l₂, rfl, hc, List.forall_mem_cons.mpr ⟨hb, hl₁⟩⟩

variable [LinearOrder κ]

structure Graded (key : α → κ) (batches : List (List α)) : Prop where
  nonempty : ∀ batch ∈ batches, batch ≠ []
  level : ∀ batch ∈ batches, ∀ a ∈ batch, ∀ b ∈ batch, key a = key b
  rising : batches.Pairwise fun batch later => ∀ a ∈ batch, ∀ b ∈ later, key a < key b

namespace Graded

variable {key : α → κ} {batches : List (List α)} {batch later : List α}

theorem pairwise_flatten (h : Graded key batches) :
    batches.flatten.Pairwise fun a b => key a ≤ key b := by
  rw [List.pairwise_flatten]
  constructor
  · intro batch hbatch
    rw [List.pairwise_iff_forall_sublist]
    intro a b hsub
    exact le_of_eq (h.level batch hbatch a (hsub.subset (by simp)) b (hsub.subset (by simp)))
  · exact h.rising.imp fun hless a ha b hb => le_of_lt (hless a ha b hb)

theorem mem_batch (h : Graded key batches) (hbatch : batch ∈ batches) (ha : a ∈ batch)
    (hb : b ∈ batches.flatten) (hkey : key b = key a) : b ∈ batch := by
  have hall : ∀ batch ∈ batches, ∀ other ∈ batches, ∀ a ∈ batch, ∀ b ∈ other,
      key b = key a → b ∈ batch := by
    apply List.Pairwise.forall_of_forall_of_flip
    · exact fun _ _ _ _ _ hb _ => hb
    · exact h.rising.imp fun hless a ha b hb hkey => absurd hkey (ne_of_gt (hless a ha b hb))
    · exact h.rising.imp fun hless a ha b hb hkey => absurd hkey (ne_of_lt (hless b hb a ha))
  obtain ⟨other, hother, hb⟩ := List.mem_flatten.mp hb
  exact hall batch hbatch other hother a ha b hb hkey

end Graded

end Stages

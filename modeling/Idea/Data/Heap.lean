import Mathlib.Data.List.Basic
import Mathlib.Data.List.Perm.Basic

/-! # Binary heaps in an array

A push appends and moves the new item toward the root. A pop moves the last item to the
root, sends it down to a leaf along the smaller children and then toward the root again.
The comparison is a parameter, since items may be references whose order changes while
they are in the heap; what holds for every comparison is that no item is lost or copied.
-/

namespace Heap

variable {α : Type*}

/-- Moves the item at `pos` toward `startpos` while it is less than its parent. -/
def siftdown (lt : α → α → Bool) (startpos : ℕ) : ℕ → Array α → ℕ → Array α
  | 0, heap, _ => heap
  | fuel + 1, heap, pos =>
    if h : startpos < pos ∧ pos < heap.size then
      have hpos := h.2
      have hparent : (pos - 1) / 2 < heap.size := by omega
      if lt heap[pos] heap[(pos - 1) / 2] then
        siftdown lt startpos fuel (heap.swap pos ((pos - 1) / 2)) ((pos - 1) / 2)
      else heap
    else heap

/-- The child of `pos` to move up: the right one unless the left one is less. -/
def smallerChild (lt : α → α → Bool) (heap : Array α) (pos : ℕ) : ℕ :=
  if h : 2 * pos + 2 < heap.size then
    have hleft : 2 * pos + 1 < heap.size := by omega
    if !lt heap[2 * pos + 1] heap[2 * pos + 2] then 2 * pos + 2 else 2 * pos + 1
  else 2 * pos + 1

theorem smallerChild_lt (lt : α → α → Bool) {heap : Array α} {pos : ℕ}
    (h : 2 * pos + 1 < heap.size) : smallerChild lt heap pos < heap.size := by
  unfold smallerChild
  split
  · dsimp only
    split <;> omega
  · exact h

/-- Sends the item at `pos` to a leaf and then toward `startpos`. -/
def siftup (lt : α → α → Bool) (startpos : ℕ) : ℕ → Array α → ℕ → Array α
  | 0, heap, _ => heap
  | fuel + 1, heap, pos =>
    if h : 2 * pos + 1 < heap.size then
      siftup lt startpos fuel
        (heap.swap pos (smallerChild lt heap pos) (by omega) (smallerChild_lt lt h))
        (smallerChild lt heap pos)
    else siftdown lt startpos (pos + 1) heap pos

def heappush (lt : α → α → Bool) (heap : Array α) (item : α) : Array α :=
  siftdown lt 0 (heap.size + 1) (heap.push item) heap.size

/-- The least item and the rest, or `none` on an empty heap. -/
def heappop (lt : α → α → Bool) (heap : Array α) : Option (α × Array α) :=
  match heap.back? with
  | none => none
  | some lastelt =>
    let rest := heap.pop
    if h : 0 < rest.size then
      some (rest[0], siftup lt 0 (rest.size + 1) (rest.set 0 lastelt) 0)
    else some (lastelt, rest)

theorem siftdown_perm (lt : α → α → Bool) (startpos fuel : ℕ) (heap : Array α) (pos : ℕ) :
    (siftdown lt startpos fuel heap pos).toList.Perm heap.toList := by
  induction fuel generalizing heap pos with
  | zero => exact List.Perm.refl _
  | succ fuel ih =>
    unfold siftdown
    split
    · dsimp only
      split
      · exact (ih _ _).trans (Array.swap_perm _ _).toList
      · exact List.Perm.refl _
    · exact List.Perm.refl _

theorem siftup_perm (lt : α → α → Bool) (startpos fuel : ℕ) (heap : Array α) (pos : ℕ) :
    (siftup lt startpos fuel heap pos).toList.Perm heap.toList := by
  induction fuel generalizing heap pos with
  | zero => exact List.Perm.refl _
  | succ fuel ih =>
    unfold siftup
    split
    · exact (ih _ _).trans (Array.swap_perm _ _).toList
    · exact siftdown_perm lt startpos _ heap pos

theorem heappush_perm (lt : α → α → Bool) (heap : Array α) (item : α) :
    (heappush lt heap item).toList.Perm (item :: heap.toList) := by
  refine (siftdown_perm lt 0 _ _ _).trans ?_
  rw [Array.toList_push]
  exact List.perm_append_singleton item heap.toList

theorem heappop_eq_none {lt : α → α → Bool} {heap : Array α} :
    heappop lt heap = none ↔ heap.toList = [] := by
  unfold heappop
  rcases heap with ⟨l⟩
  rcases List.eq_nil_or_concat l with rfl | ⟨l, a, rfl⟩
  · simp
  · simp only [List.back?_toArray, List.concat_eq_append, List.getLast?_concat]
    split <;> simp

theorem heappop_perm {lt : α → α → Bool} {heap rest : Array α} {item : α}
    (h : heappop lt heap = some (item, rest)) : heap.toList.Perm (item :: rest.toList) := by
  unfold heappop at h
  rcases heap with ⟨l⟩
  rcases List.eq_nil_or_concat l with rfl | ⟨l, last, rfl⟩
  · simp at h
  · simp only [List.concat_eq_append, List.back?_toArray, List.getLast?_concat,
      List.pop_toArray, List.dropLast_concat] at h
    split at h
    · rename_i hl
      simp only [Option.some.injEq, Prod.mk.injEq] at h
      obtain ⟨rfl, rfl⟩ := h
      obtain ⟨first, rest, rfl⟩ : ∃ first rest, l = first :: rest := by
        cases l with
        | nil => simp at hl
        | cons first rest => exact ⟨first, rest, rfl⟩
      refine List.Perm.trans ?_ (List.Perm.cons _ (siftup_perm lt 0 _ _ _).symm)
      simp
    · rename_i hl
      simp only [Option.some.injEq, Prod.mk.injEq] at h
      obtain ⟨rfl, rfl⟩ := h
      have : l = [] := by simpa using hl
      simp [this]

end Heap

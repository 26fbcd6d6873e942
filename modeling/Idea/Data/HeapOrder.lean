import Mathlib.Logic.Equiv.Basic
import Mathlib.Order.Lattice
import Idea.Data.Heap

/-! # The order of a heap

A heap is ordered by the keys of its items when no item is below its parent. If the comparison
agrees with the keys on the items of the heap, pushes and pops keep the order and a pop gives an
item with the least key. Keys that change while the items stay in place keep the order exactly
when each changed item still fits between its parent and its children.
-/

namespace Heap

variable {α κ : Type*} [LinearOrder κ] {lt : α → α → Bool} {key key' : α → κ}
  {heap rest : Array α} {item : α} {i j k pos : ℕ}

/-- The item at `i`, if both places are filled, has a key up to that of the item at `j`. -/
def LeAt (key : α → κ) (heap : Array α) (i j : ℕ) : Prop :=
  ∀ a b, heap[i]? = some a → heap[j]? = some b → key a ≤ key b

def Ordered (key : α → κ) (heap : Array α) : Prop :=
  ∀ i, 0 < i → LeAt key heap ((i - 1) / 2) i

/-- The comparison of the items of a heap is that of their keys. -/
def Compares (lt : α → α → Bool) (key : α → κ) (heap : Array α) : Prop :=
  ∀ a ∈ heap.toList, ∀ b ∈ heap.toList, (lt a b = true ↔ key a < key b)

theorem Compares.of_subset (h : Compares lt key heap) (hs : rest.toList ⊆ heap.toList) :
    Compares lt key rest :=
  fun a ha b hb => h a (hs ha) b (hs hb)

theorem LeAt.trans (hj : j < heap.size) (h : LeAt key heap i j) (h' : LeAt key heap j k) :
    LeAt key heap i k := by
  intro a c ha hc
  have hb : heap[j]? = some heap[j] := by simp [hj]
  exact le_trans (h a _ ha hb) (h' _ c hb hc)

theorem leAt_of_size_le (h : heap.size ≤ j) : LeAt key heap i j := by
  intro a b _ hb
  simp [Array.getElem?_eq_none h] at hb

theorem leAt_swap {hi : i < heap.size} {hj : j < heap.size} {k l : ℕ} :
    LeAt key (heap.swap i j) k l ↔
      LeAt key heap (Equiv.swap i j k) (Equiv.swap i j l) := by
  have hswap : ∀ k, (heap.swap i j)[k]? = heap[Equiv.swap i j k]? := by
    intro k
    rw [Array.getElem?_swap, Equiv.swap_apply_def]
    split
    · rename_i h
      subst h
      by_cases hki : j = i
      · simp [hki]
      · simp [hki, hi]
    · rename_i h
      split
      · rename_i h'
        simp [h', hj]
      · rename_i h'
        rw [if_neg (Ne.symm h'), if_neg (Ne.symm h)]
  simp only [LeAt, hswap]

theorem Compares.leAt (h : Compares lt key heap) (hi : i < heap.size) (hj : j < heap.size) :
    LeAt key heap i j ↔ lt heap[j] heap[i] = false := by
  have hc := h heap[j] (by simp) heap[i] (by simp)
  rw [← Bool.not_eq_true, hc, not_lt]
  simp [LeAt, hi, hj]

/-- What moving the item at `pos` toward the root needs: the others are ordered, also past it. -/
structure Rises (key : α → κ) (heap : Array α) (pos : ℕ) : Prop where
  others : ∀ i, 0 < i → i ≠ pos → LeAt key heap ((i - 1) / 2) i
  past : 0 < pos → ∀ i, 0 < i → (i - 1) / 2 = pos → LeAt key heap ((pos - 1) / 2) i

/-- What sending the item at `pos` to a leaf needs. -/
structure Sinks (key : α → κ) (heap : Array α) (pos : ℕ) : Prop where
  others : ∀ i, 0 < i → i ≠ pos → (i - 1) / 2 ≠ pos → LeAt key heap ((i - 1) / 2) i
  past : 0 < pos → ∀ i, 0 < i → (i - 1) / 2 = pos → LeAt key heap ((pos - 1) / 2) i

theorem Rises.ordered (h : Rises key heap pos)
    (hpos : 0 < pos → LeAt key heap ((pos - 1) / 2) pos) : Ordered key heap := by
  intro i hi
  by_cases hne : i = pos
  · exact hne ▸ hpos (hne ▸ hi)
  · exact h.others i hi hne

theorem Rises.swap (h : Rises key heap pos) (h0 : 0 < pos) (hpos : pos < heap.size)
    (hparent : (pos - 1) / 2 < heap.size) (hle : LeAt key heap pos ((pos - 1) / 2)) :
    Rises key (heap.swap pos ((pos - 1) / 2)) ((pos - 1) / 2) := by
  constructor
  · intro i hi hne
    rw [leAt_swap]
    by_cases hip : i = pos
    · subst hip
      rwa [Equiv.swap_apply_left, Equiv.swap_apply_right]
    · rw [Equiv.swap_apply_of_ne_of_ne hip hne]
      by_cases hchild : (i - 1) / 2 = pos
      · rw [hchild, Equiv.swap_apply_left]
        exact h.past h0 i hi hchild
      · by_cases hsib : (i - 1) / 2 = (pos - 1) / 2
        · have hi' := h.others i hi hip
          rw [hsib, Equiv.swap_apply_right]
          exact hle.trans hparent (hsib ▸ hi')
        · rw [Equiv.swap_apply_of_ne_of_ne hchild hsib]
          exact h.others i hi hip
  · intro hp i hi hparent'
    rw [leAt_swap, Equiv.swap_apply_of_ne_of_ne (by omega) (by omega)]
    have hup := h.others ((pos - 1) / 2) hp (by omega)
    by_cases hip : i = pos
    · rwa [hip, Equiv.swap_apply_left]
    · rw [Equiv.swap_apply_of_ne_of_ne hip (by omega)]
      exact hup.trans hparent (hparent' ▸ h.others i hi hip)

theorem ordered_siftdown {fuel : ℕ} (hlt : Compares lt key heap) (h : Rises key heap pos)
    (hfuel : pos < fuel) : Ordered key (siftdown lt 0 fuel heap pos) := by
  induction fuel generalizing heap pos with
  | zero => omega
  | succ fuel ih =>
    unfold siftdown
    split
    · rename_i hp
      obtain ⟨h0, hsize⟩ := hp
      have hparent : (pos - 1) / 2 < heap.size := by omega
      dsimp only
      split
      · rename_i hless
        have hle : LeAt key heap pos ((pos - 1) / 2) := by
          have hkey := (hlt _ (by simp) _ (by simp)).mp hless
          simpa [LeAt, hsize, hparent] using le_of_lt hkey
        have hlt' : Compares lt key (heap.swap pos ((pos - 1) / 2)) :=
          hlt.of_subset (Array.swap_perm _ _).toList.subset
        exact ih hlt' (h.swap h0 hsize hparent hle) (by omega)
      · rename_i hless
        rw [Bool.not_eq_true] at hless
        exact h.ordered fun _ => (hlt.leAt hparent hsize).mpr hless
    · rename_i hp
      refine h.ordered fun h0 => leAt_of_size_le ?_
      omega

theorem smallerChild_spec (hlt : Compares lt key heap) (h : 2 * pos + 1 < heap.size) :
    (smallerChild lt heap pos - 1) / 2 = pos ∧ pos < smallerChild lt heap pos ∧
      ∀ i, 0 < i → (i - 1) / 2 = pos → LeAt key heap (smallerChild lt heap pos) i := by
  have hrefl : ∀ i, LeAt key heap i i := by
    intro i a b ha hb
    exact (Option.some.inj (ha.symm.trans hb)) ▸ le_rfl
  have hchildren : ∀ i, 0 < i → (i - 1) / 2 = pos → i = 2 * pos + 1 ∨ i = 2 * pos + 2 := by
    omega
  unfold smallerChild
  split
  · rename_i hright
    dsimp only
    split
    · rename_i hless
      refine ⟨by omega, by omega, fun i hi hparent => ?_⟩
      rw [Bool.not_eq_true'] at hless
      rcases hchildren i hi hparent with rfl | rfl
      · exact (hlt.leAt hright h).mpr hless
      · exact hrefl _
    · rename_i hless
      refine ⟨by omega, by omega, fun i hi hparent => ?_⟩
      rw [Bool.not_eq_true', Bool.not_eq_false] at hless
      rcases hchildren i hi hparent with rfl | rfl
      · exact hrefl _
      · have hkey := (hlt _ (by simp) _ (by simp)).mp hless
        simpa [LeAt, h, hright] using le_of_lt hkey
  · rename_i hright
    refine ⟨by omega, by omega, fun i hi hparent => ?_⟩
    rcases hchildren i hi hparent with rfl | rfl
    · exact hrefl _
    · exact leAt_of_size_le (by omega)

theorem Sinks.swap (h : Sinks key heap pos) {child : ℕ} (hpos : pos < heap.size)
    (hchild : child < heap.size) (hparent : (child - 1) / 2 = pos) (hlt : pos < child)
    (hleast : ∀ i, 0 < i → (i - 1) / 2 = pos → LeAt key heap child i) :
    Sinks key (heap.swap pos child) child := by
  constructor
  · intro i hi hne hnp
    rw [leAt_swap]
    by_cases hip : i = pos
    · subst hip
      rw [Equiv.swap_apply_left, Equiv.swap_apply_of_ne_of_ne (by omega) hnp]
      exact h.past hi child (by omega) hparent
    · rw [Equiv.swap_apply_of_ne_of_ne hip hne]
      by_cases hsib : (i - 1) / 2 = pos
      · rw [hsib, Equiv.swap_apply_left]
        exact hleast i hi hsib
      · rw [Equiv.swap_apply_of_ne_of_ne hsib hnp]
        exact h.others i hi hip hsib
  · intro _ i hi hic
    rw [leAt_swap, hparent, Equiv.swap_apply_left,
      Equiv.swap_apply_of_ne_of_ne (by omega) (by omega)]
    have hdown := h.others i hi (by omega) (by omega)
    rwa [hic] at hdown

theorem ordered_siftup {fuel : ℕ} (hlt : Compares lt key heap) (h : Sinks key heap pos)
    (hpos : pos < heap.size) (hfuel : heap.size ≤ pos + fuel) :
    Ordered key (siftup lt 0 fuel heap pos) := by
  induction fuel generalizing heap pos with
  | zero => omega
  | succ fuel ih =>
    unfold siftup
    split
    · rename_i hleft
      obtain ⟨hparent, hgt, hleast⟩ := smallerChild_spec hlt hleft
      have hchild := smallerChild_lt lt hleft
      have hlt' : Compares lt key (heap.swap pos (smallerChild lt heap pos)) :=
        hlt.of_subset (Array.swap_perm _ _).toList.subset
      refine ih hlt' (h.swap hpos hchild hparent hgt hleast) ?_ ?_
      · rwa [Array.size_swap]
      · rw [Array.size_swap]
        omega
    · rename_i hleft
      refine ordered_siftdown hlt ⟨fun i hi hne => ?_, h.past⟩ (by omega)
      by_cases hip : (i - 1) / 2 = pos
      · exact leAt_of_size_le (by omega)
      · exact h.others i hi hne hip

theorem ordered_heappush (hlt : Compares lt key (heap.push item)) (h : Ordered key heap) :
    Ordered key (heappush lt heap item) := by
  refine ordered_siftdown hlt ⟨fun i hi hne => ?_, fun _ i _ hip => ?_⟩ (by omega)
  · intro a b ha hb
    by_cases hsize : heap.size < i
    · have hnone : (heap.push item)[i]? = none := by
        rw [Array.getElem?_eq_none]
        simp
        omega
      simp [hnone] at hb
    · rw [Array.getElem?_push, if_neg (by omega)] at ha hb
      exact h i hi a b ha hb
  · apply leAt_of_size_le
    rw [Array.size_push]
    omega

theorem Ordered.root_le (h : Ordered key heap) : LeAt key heap 0 i := by
  induction i using Nat.strongRecOn with
  | _ i ih =>
    by_cases hi : i = 0
    · subst hi
      intro a b ha hb
      exact (Option.some.inj (ha.symm.trans hb)) ▸ le_rfl
    · by_cases hsize : i < heap.size
      · exact (ih ((i - 1) / 2) (by omega)).trans (by omega) (h i (by omega))
      · exact leAt_of_size_le (by omega)

theorem ordered_heappop (hlt : Compares lt key heap) (h : Ordered key heap)
    (hpop : heappop lt heap = some (item, rest)) :
    Ordered key rest ∧ ∀ other ∈ heap.toList, key item ≤ key other := by
  have hroot : heap[0]? = some item → ∀ other ∈ heap.toList, key item ≤ key other := by
    intro hitem other hother
    obtain ⟨i, hi⟩ := List.getElem?_of_mem hother
    exact h.root_le item other hitem (by simpa using hi)
  unfold heappop at hpop
  split at hpop
  · simp at hpop
  · rename_i last hlast
    have hsize : 0 < heap.size := by
      rcases Nat.eq_zero_or_pos heap.size with h0 | h0
      · simp [Array.back?, h0] at hlast
      · exact h0
    dsimp only at hpop
    split at hpop
    · rename_i hrest
      obtain ⟨rfl, rfl⟩ := Prod.mk.inj (Option.some.inj hpop)
      have hpopped : ∀ i, 0 < i → i < heap.size - 1 →
          (heap.pop.set 0 last)[i]? = heap[i]? := by
        intro i hi hlt
        rw [Array.getElem?_set, if_neg (by omega), Array.getElem?_pop, if_pos hlt]
      have hmem : (heap.pop.set 0 last).toList ⊆ heap.toList := by
        intro a ha
        obtain ⟨i, hi⟩ := List.getElem?_of_mem ha
        rw [Array.getElem?_toList, Array.getElem?_set] at hi
        split at hi
        · obtain rfl := Option.some.inj hi
          exact Array.mem_toList_iff.mpr (Array.mem_of_back? hlast)
        · rw [Array.getElem?_pop] at hi
          split at hi
          · exact Array.mem_toList_iff.mpr (Array.mem_of_getElem? hi)
          · simp at hi
      refine ⟨ordered_siftup (hlt.of_subset hmem) ⟨fun i hi _ hparent => ?_, by simp⟩ ?_ ?_,
        hroot ?_⟩
      · intro a b ha hb
        by_cases hlast' : i < heap.size - 1
        · rw [hpopped _ (by omega) (by omega)] at ha
          rw [hpopped _ hi hlast'] at hb
          exact h i hi a b ha hb
        · rw [Array.getElem?_eq_none (by simp; omega)] at hb
          simp at hb
      · simpa using hrest
      · simp
      · rw [Array.size_pop] at hrest
        simp [hsize]
    · rename_i hrest
      obtain ⟨rfl, rfl⟩ := Prod.mk.inj (Option.some.inj hpop)
      rw [Array.size_pop] at hrest
      have hone : heap.size = 1 := by omega
      refine ⟨fun i hi => leAt_of_size_le ?_, hroot ?_⟩
      · rw [Array.size_pop]
        omega
      · rw [Array.back?_eq_getElem?, hone] at hlast
        exact hlast

/-- The item at `i` fits between its parent and its children with the key `newKey`. -/
structure Fits (key : α → κ) (heap : Array α) (i : ℕ) (newKey : κ) : Prop where
  parent : 0 < i → ∀ a, heap[(i - 1) / 2]? = some a → key a ≤ newKey
  children : ∀ j, 0 < j → (j - 1) / 2 = i → ∀ a, heap[j]? = some a → newKey ≤ key a

theorem ordered_iff_fits (h : Ordered key heap) (hnodup : heap.toList.Nodup)
    (hitem : heap[i]? = some item) (hkeys : ∀ a, a ≠ item → key' a = key a) :
    Ordered key' heap ↔ Fits key heap i (key' item) := by
  have hother : ∀ j, j ≠ i → ∀ a, heap[j]? = some a → key' a = key a := by
    intro j hj a ha
    refine hkeys a fun he => hj ?_
    subst he
    rw [← Array.getElem?_toList] at ha hitem
    exact (List.getElem?_inj (List.getElem?_eq_some_iff.mp ha).1 hnodup).mp (ha.trans hitem.symm)
  constructor
  · intro h'
    constructor
    · intro hi a ha
      exact hother _ (by omega) a ha ▸ h' i hi a item ha hitem
    · intro j hj hparent a ha
      exact hother j (by omega) a ha ▸ h' j hj item a (by rw [hparent, hitem]) ha
  · intro hfits j hj a b ha hb
    by_cases hji : j = i
    · subst hji
      obtain rfl := Option.some.inj (hitem.symm.trans hb)
      exact hother _ (by omega) a ha ▸ hfits.parent hj a ha
    · rw [hother j hji b hb]
      by_cases hparent : (j - 1) / 2 = i
      · rw [hparent] at ha
        obtain rfl := Option.some.inj (hitem.symm.trans ha)
        exact hfits.children j hj hparent b hb
      · rw [hother _ hparent a ha]
        exact h j hj a b ha hb

theorem Ordered.congr (h : Ordered key heap) (hkeys : ∀ a ∈ heap.toList, key' a = key a) :
    Ordered key' heap := by
  intro i hi a b ha hb
  have hmem : ∀ {j a}, heap[j]? = some a → a ∈ heap.toList := fun hj =>
    Array.mem_toList_iff.mpr (Array.mem_of_getElem? hj)
  rw [hkeys a (hmem ha), hkeys b (hmem hb)]
  exact h i hi a b ha hb

end Heap

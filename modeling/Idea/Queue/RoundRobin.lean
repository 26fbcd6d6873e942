import Mathlib.Algebra.GroupWithZero.Nat
import Idea.Data.Dict
import Idea.Data.Heap

/-! # Round robin over priority queues

One bounded priority queue for each job group, served in turn. The map by group and the
list in service order hold the same entries, so one insertion-ordered dictionary stands for
both. The items are ids of queued jobs, compared by what the ids refer to. A put adds its
item, and a get takes one out or drops the empty queue it found.
-/

namespace Idea

/-- The priority queues by group, in service order, and the position to serve next. -/
structure RoundRobinPriorityQueue where
  queues : Dict String (Array String)
  index : ℕ
  index_le : index ≤ queues.size - 1

namespace RoundRobinPriorityQueue

def maxsizePerQueue : ℕ := 10000

def new : RoundRobinPriorityQueue := ⟨∅, 0, Nat.zero_le _⟩

variable {lt : String → String → Bool} {q q' : RoundRobinPriorityQueue}

def items (q : RoundRobinPriorityQueue) : List String :=
  q.queues.entries.flatMap fun entry => entry.2.toList

theorem size_pos_of_getElem? {group : String} {heap : Array String} {i : ℕ}
    (h : q.queues.entries[i]? = some (group, heap)) : i < q.queues.size :=
  (List.getElem?_eq_some_iff.mp h).1

theorem get?_of_getElem? {group : String} {heap : Array String} {i : ℕ}
    (h : q.queues.entries[i]? = some (group, heap)) : q.queues.get? group = some heap :=
  Dict.get?_of_mem_entries (List.mem_of_getElem? h)

/-- `get`: the item served, or `none` where the source raises `queue.Empty`. -/
def get (lt : String → String → Bool) (q : RoundRobinPriorityQueue) :
    Option String × RoundRobinPriorityQueue :=
  match h : q.queues.entries[q.index]? with
  | none => (none, q)
  | some (group, heap) =>
    match Heap.heappop lt heap with
    | some (item, rest) =>
      (some item, ⟨q.queues.set group rest, (q.index + 1) % q.queues.size, by
        have hlt := Nat.mod_lt (q.index + 1) (Nat.zero_lt_of_lt (size_pos_of_getElem? h))
        rw [Dict.size_set_of_get? (get?_of_getElem? h)]
        omega⟩)
    | none =>
      (none, ⟨q.queues.erase group, q.index - 1, by
        have hs := Dict.size_erase_of_get? (get?_of_getElem? h)
        have hi := size_pos_of_getElem? h
        omega⟩)

def groupQueue (q : RoundRobinPriorityQueue) (group : String) : Array String :=
  (q.queues.get? group).getD #[]

/-- `put` of an item of a group. A full queue blocks its caller, so there is no result. -/
def put (lt : String → String → Bool) (q : RoundRobinPriorityQueue) (group item : String) :
    Option RoundRobinPriorityQueue :=
  if (q.groupQueue group).size < maxsizePerQueue then
    some ⟨q.queues.set group (Heap.heappush lt (q.groupQueue group) item), q.index,
      Nat.le_trans q.index_le (Nat.sub_le_sub_right (q.queues.size_le_set _ _) 1)⟩
  else none

theorem getElem?_index_eq_none : q.queues.entries[q.index]? = none ↔ q.queues.entries = [] := by
  rw [List.getElem?_eq_none_iff, ← List.length_eq_zero_iff]
  have h := q.index_le
  unfold Dict.size at h
  omega

theorem put_items {group item : String} (h : q.put lt group item = some q') :
    q'.items.Perm (item :: q.items) := by
  unfold put at h
  split at h
  · obtain rfl := Option.some.inj h
    cases hg : q.queues.get? group with
    | some heap =>
      obtain ⟨l₁, l₂, hl, hs, _⟩ := Dict.entries_split hg
      simp only [items, groupQueue, hg, hl, hs, Option.getD_some, List.flatMap_append,
        List.flatMap_cons]
      have hp := (Heap.heappush_perm lt heap item).append_right
        (l₂.flatMap fun entry => entry.2.toList)
      exact (hp.append_left _).trans List.perm_middle
    | none =>
      have he := Dict.entries_set_of_not_mem (Dict.get?_eq_none.mp hg)
        (Heap.heappush lt #[] item)
      simp only [items, groupQueue, hg, Option.getD_none, he, List.flatMap_append,
        List.flatMap_singleton]
      have hp := (Heap.heappush_perm lt #[] item).append_left
        (q.queues.entries.flatMap fun entry => entry.2.toList)
      exact hp.trans (List.perm_append_singleton item _)
  · simp at h

theorem get_items (lt : String → String → Bool) (q : RoundRobinPriorityQueue) :
    q.items.Perm ((q.get lt).1.toList ++ (q.get lt).2.items) := by
  unfold get
  split
  · exact List.Perm.refl _
  · rename_i group heap h
    obtain ⟨l₁, l₂, hl, hs, he⟩ := Dict.entries_split (get?_of_getElem? h)
    cases hp : Heap.heappop lt heap with
    | some popped =>
      simp only [items, hl, hs, Option.toList_some, List.flatMap_append, List.flatMap_cons]
      have hperm := (Heap.heappop_perm hp).append_right (l₂.flatMap fun entry => entry.2.toList)
      exact (hperm.append_left _).trans List.perm_middle
    | none =>
      have hempty := Heap.heappop_eq_none.mp hp
      simp [items, hl, he, hempty]

theorem get_some {item : String} (h : q.get lt = (some item, q')) :
    q.items.Perm (item :: q'.items) := by
  simpa [h] using get_items lt q

theorem get_none (h : q.get lt = (none, q')) : q.items.Perm q'.items := by
  simpa [h] using get_items lt q

theorem put_queues {group item : String} (h : q.put lt group item = some q') :
    q'.queues = q.queues.set group (Heap.heappush lt (q.groupQueue group) item) ∧
      q'.index = q.index := by
  unfold put at h
  split at h
  · obtain rfl := Option.some.inj h
    exact ⟨rfl, rfl⟩
  · simp at h

/-- What a get does: it finds no queue at all, or pops from the queue to serve and turns to the
next one, or finds that queue empty and drops it. -/
theorem get_cases (lt : String → String → Bool) (q : RoundRobinPriorityQueue) :
    (q.queues.entries = [] ∧ q.get lt = (none, q)) ∨
      ∃ group heap, q.queues.entries[q.index]? = some (group, heap) ∧
        ((∃ item rest, Heap.heappop lt heap = some (item, rest) ∧ (q.get lt).1 = some item ∧
            (q.get lt).2.queues = q.queues.set group rest ∧
            (q.get lt).2.index = (q.index + 1) % q.queues.size) ∨
          (heap.toList = [] ∧ (q.get lt).1 = none ∧
            (q.get lt).2.queues = q.queues.erase group ∧ (q.get lt).2.index = q.index - 1)) := by
  unfold get
  split
  · rename_i h
    exact .inl ⟨getElem?_index_eq_none.mp h, rfl⟩
  · rename_i group heap h
    refine .inr ⟨group, heap, h, ?_⟩
    cases hp : Heap.heappop lt heap with
    | some popped => exact .inl ⟨popped.1, popped.2, rfl, rfl, rfl, rfl⟩
    | none => exact .inr ⟨Heap.heappop_eq_none.mp hp, rfl, rfl, rfl⟩

end RoundRobinPriorityQueue

end Idea

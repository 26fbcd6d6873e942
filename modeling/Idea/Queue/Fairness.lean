import Idea.Data.Cyclic
import Idea.Queue.RoundRobin
import Idea.System.Run

/-! # Fairness of the round robin

Puts and gets in any order are a run. A get serves the group whose turn it is and the turn goes
on to the next group, so a group that holds items all along is served before any other group is
served twice. A get that finds the group of the turn empty raises instead, whatever the other
groups hold. It drops the group and, unless that was the first one, gives the turn back to the
group that was served last.
-/

namespace Idea

namespace RoundRobinPriorityQueue

variable {q q' : RoundRobinPriorityQueue} {group other : String}

/-- The operations, a get with the item it serves. The order of the items may change from one
operation to the next. -/
inductive Operation where
  | put (lt : String → String → Bool) (group item : String)
  | get (lt : String → String → Bool) (served : Option String)

def Step (q : RoundRobinPriorityQueue) : Operation → RoundRobinPriorityQueue → Prop
  | .put lt group item, q' => q.put lt group item = some q'
  | .get lt served, q' => q.get lt = (served, q')

def turn (q : RoundRobinPriorityQueue) : Option String := q.queues.keys[q.index]?

def HoldsItem (q : RoundRobinPriorityQueue) (group : String) : Prop :=
  (q.groupQueue group).toList ≠ []

instance (q : RoundRobinPriorityQueue) (group : String) : Decidable (HoldsItem q group) :=
  inferInstanceAs (Decidable (_ ≠ _))

/-- The step is a get that serves an item of the group. -/
def Serves (e : Edge RoundRobinPriorityQueue Operation) (group : String) : Prop :=
  (∃ lt item, e.label = .get lt (some item)) ∧ e.pre.turn = some group

/-- Between two consecutive gets served from one group, every other group that holds items all
the while is served. -/
def Fair (t : List (Edge RoundRobinPriorityQueue Operation)) : Prop :=
  ∀ before e between e' after group other, t = before ++ e :: (between ++ e' :: after) →
    Serves e group → Serves e' group → (∀ m ∈ between, ¬ Serves m group) → other ≠ group →
    (∀ m ∈ between, HoldsItem m.pre other) → HoldsItem e'.pre other →
      ∃ m ∈ between, Serves m other

theorem turn_of_entry {heap : Array String}
    (h : q.queues.entries[q.index]? = some (group, heap)) : q.turn = some group := by
  simp [turn, Dict.keys, h]

theorem groupQueue_of_entry {heap : Array String}
    (h : q.queues.entries[q.index]? = some (group, heap)) : q.groupQueue group = heap := by
  simp [groupQueue, get?_of_getElem? h]

theorem mem_items_iff {item : String} :
    item ∈ q.items ↔ ∃ group, item ∈ (q.groupQueue group).toList := by
  simp only [items, List.mem_flatMap]
  constructor
  · rintro ⟨entry, hentry, hmem⟩
    refine ⟨entry.1, ?_⟩
    rwa [groupQueue, Dict.mem_entries.mp hentry]
  · rintro ⟨group, hmem⟩
    cases hget : q.queues.get? group with
    | none => simp [groupQueue, hget] at hmem
    | some heap =>
      refine ⟨(group, heap), Dict.mem_entries_of_get? hget, ?_⟩
      simpa [groupQueue, hget] using hmem

theorem items_eq_nil_iff : q.items = [] ↔ ∀ group, ¬ HoldsItem q group := by
  simp only [List.eq_nil_iff_forall_not_mem, mem_items_iff, HoldsItem, not_exists, not_not]
  exact forall_comm

theorem HoldsItem.mem_keys (h : HoldsItem q group) : group ∈ q.queues.keys := by
  refine Dict.get?_isSome.mp ?_
  cases hget : q.queues.get? group with
  | none => exact absurd (by simp [groupQueue, hget]) h
  | some heap => rfl

theorem get_eq_none_iff {lt : String → String → Bool} :
    (q.get lt).1 = none ↔ ∀ group, q.turn = some group → ¬ HoldsItem q group := by
  rcases get_cases lt q with ⟨hempty, hg⟩ | ⟨group, heap, hi, h⟩
  · simp [hg, turn, Dict.keys, hempty]
  · rw [turn_of_entry hi]
    simp only [Option.some.injEq, forall_eq', HoldsItem, groupQueue_of_entry hi, not_not]
    rcases h with ⟨item, rest, hp, hs, _⟩ | ⟨hnil, hs, _⟩
    · have hne : heap.toList ≠ [] := fun h => by simp [Heap.heappop_eq_none.mpr h] at hp
      simp [hs, hne]
    · simp [hs, hnil]

/-- A get that finds the group of the turn empty does so at the first group, or there is no
item at all. -/
def DropsFirst (e : Edge RoundRobinPriorityQueue Operation) : Prop :=
  ∀ lt, e.label = .get lt none → e.pre.index = 0 ∨ e.pre.items = []

/-- A group that holds items and comes before another one from the turn on still does so after
a step that does not serve it. -/
theorem Step.before {op : Operation} (hs : Step q op q')
    (hb : Cyclic.Before q.queues.keys q.index other group)
    (hnot : ¬ Serves ⟨q, op, q'⟩ other) (hholds : HoldsItem q other)
    (hdrop : DropsFirst ⟨q, op, q'⟩) :
    Cyclic.Before q'.queues.keys q'.index other group := by
  have hn := q.queues.nodup_keys
  cases op with
  | put lt group' item =>
    obtain ⟨hqueues, hindex⟩ := put_queues hs
    rw [hqueues, hindex, Dict.keys_set]
    split
    · exact hb
    · exact hb.append group'
  | get lt served =>
    have hpost : (q.get lt).2 = q' := congrArg Prod.snd hs
    have hserved : (q.get lt).1 = served := congrArg Prod.fst hs
    rcases get_cases lt q with ⟨_, hg⟩ | ⟨group', heap, hi, h⟩
    · rw [hg] at hpost
      exact hpost ▸ hb
    · have hturn := turn_of_entry hi
      rcases h with ⟨item, rest, _, hitem, hqueues, hindex⟩ | ⟨hnil, hnone, hqueues, hindex⟩
      · have hne : group' ≠ other := by
          rintro rfl
          exact hnot ⟨⟨lt, item, by rw [← hserved, hitem]⟩, hturn⟩
        have hmem := Dict.mem_keys_of_get? (get?_of_getElem? hi)
        have hlen : q.queues.size = q.queues.keys.length := by simp [Dict.size, Dict.keys]
        rw [← hpost, hqueues, hindex, Dict.keys_set_of_mem hmem, hlen]
        exact hb.next hn hturn hne
      · have hne : group' ≠ other := by
          rintro rfl
          exact hholds (by rw [groupQueue_of_entry hi, hnil])
        have hzero : q.index = 0 := by
          refine (hdrop lt (by rw [← hserved, hnone])).resolve_right fun hitems => ?_
          exact items_eq_nil_iff.mp hitems other hholds
        rw [hzero] at hb
        unfold turn at hturn
        rw [hzero] at hturn
        obtain ⟨rest, hrest⟩ : ∃ rest, q.queues.keys = group' :: rest := by
          cases hkeys : q.queues.keys with
          | nil => simp [hkeys] at hturn
          | cons first rest =>
            obtain rfl : first = group' := by simpa [hkeys] using hturn
            exact ⟨rest, rfl⟩
        have herase : (q.queues.erase group').keys = rest := by
          rw [hrest, List.nodup_cons] at hn
          rw [Dict.keys_erase, hrest, List.filter_cons_of_neg (by simp)]
          refine List.filter_eq_self.mpr fun other hother => ?_
          rw [decide_eq_true_eq]
          rintro rfl
          exact hn.1 hother
        rw [hrest] at hb
        rw [← hpost, hqueues, hindex, hzero, herase]
        exact hb.tail hne

theorem Step.before_of_serves {op : Operation} (hs : Step q op q')
    (hserves : Serves ⟨q, op, q'⟩ group) (hmem : other ∈ q'.queues.keys) (hne : other ≠ group) :
    Cyclic.Before q'.queues.keys q'.index other group := by
  obtain ⟨⟨lt, item, hop⟩, hturn⟩ := hserves
  dsimp only at hop hturn
  subst hop
  have hpost : (q.get lt).2 = q' := congrArg Prod.snd hs
  have hserved : (q.get lt).1 = some item := congrArg Prod.fst hs
  rcases get_cases lt q with ⟨_, hg⟩ | ⟨group', heap, hi, ⟨_, rest, _, _, hqueues, hindex⟩ |
    ⟨_, hnone, _⟩⟩
  · simp [hg] at hserved
  · obtain rfl : group' = group := Option.some.inj ((turn_of_entry hi).symm.trans hturn)
    have hkeys := Dict.keys_set_of_mem (Dict.mem_keys_of_get? (get?_of_getElem? hi)) rest
    have hlen : q.queues.size = q.queues.keys.length := by simp [Dict.size, Dict.keys]
    rw [← hpost, hqueues, hkeys] at hmem
    rw [← hpost, hqueues, hindex, hkeys, hlen]
    exact Cyclic.before_of_getElem? q.queues.nodup_keys hturn hmem hne
  · simp [hnone] at hserved

theorem run_fair {t : List (Edge RoundRobinPriorityQueue Operation)} (h : Run Step new t q)
    (hdrops : ∀ e ∈ t, DropsFirst e) : Fair t := by
  rintro before e between e' after group other rfl hserves hserves' _ hne hholds hholds'
  by_contra hnot
  push Not at hnot
  obtain ⟨_, hstep, hrest⟩ := h.of_append_cons
  obtain ⟨hbetween, _, _⟩ := hrest.of_append_cons
  -- the other group is there from the first get on: it holds items in the state after it
  have hstart : HoldsItem e.post other := by
    cases between with
    | nil => exact hbetween.eq_of_nil ▸ hholds'
    | cons m between =>
      have hm : Run Step e.post ([] ++ m :: between) e'.pre := hbetween
      exact hm.of_append_cons.1.eq_of_nil ▸ hholds m List.mem_cons_self
  have hfirst := hstep.before_of_serves hserves hstart.mem_keys hne
  have hlast := hbetween.invariant_of
    (fun q => Cyclic.Before q.queues.keys q.index other group)
    (P := fun m => ¬ Serves m other ∧ HoldsItem m.pre other ∧ DropsFirst m) hfirst
    (fun hb hs hm => hs.before hb hm.1 hm.2.1 hm.2.2)
    (fun m hm => ⟨hnot m hm, hholds m hm, hdrops m (by simp [hm])⟩)
  exact Cyclic.not_before_of_getElem? e'.pre.queues.nodup_keys hserves'.2 hlast

/-- The index is in place, a get raises only when there is no item, and the groups take turns. -/
structure ServesRoundRobin (t : List (Edge RoundRobinPriorityQueue Operation)) : Prop where
  index : ∀ e ∈ t, ∀ q ∈ [e.pre, e.post], q.index < q.queues.size ∨ q.index = 0
  empty : ∀ e ∈ t, ∀ lt, e.label = .get lt none → ∀ group, ¬ HoldsItem e.pre group
  fair : Fair t

/-- At a get the group of the turn holds an item, unless no group does. -/
def TurnHolds (e : Edge RoundRobinPriorityQueue Operation) : Prop :=
  ∀ lt served, e.label = .get lt served →
    (∃ group, e.pre.turn = some group ∧ HoldsItem e.pre group) ∨
      ∀ group, ¬ HoldsItem e.pre group

theorem index_lt_or_eq_zero (q : RoundRobinPriorityQueue) :
    q.index < q.queues.size ∨ q.index = 0 := by
  have := q.index_le
  omega

/-- A run serves round robin exactly when each get finds an item in the group of the turn or
there is no item. -/
theorem serves_round_robin_iff {t : List (Edge RoundRobinPriorityQueue Operation)}
    (h : Run Step new t q) : ServesRoundRobin t ↔ ∀ e ∈ t, TurnHolds e := by
  have hget : ∀ e ∈ t, ∀ lt served, e.label = .get lt served → (e.pre.get lt).1 = served := by
    intro e he lt served hop
    obtain ⟨_, _, _, _, hs, _⟩ := h.split he
    rw [hop] at hs
    exact congrArg Prod.fst hs
  constructor
  · intro hserves e he lt served hop
    by_cases hnone : served = none
    · exact .inr (hserves.empty e he lt (hnone ▸ hop))
    · refine .inl ?_
      rw [← hget e he lt served hop, get_eq_none_iff] at hnone
      push Not at hnone
      exact hnone
  · intro hturn
    have hempty : ∀ e ∈ t, ∀ lt, e.label = .get lt none → ∀ group, ¬ HoldsItem e.pre group := by
      intro e he lt hop
      rcases hturn e he lt none hop with ⟨group, hg, hholds⟩ | hnone
      · exact absurd hholds (get_eq_none_iff.mp (hget e he lt none hop) group hg)
      · exact hnone
    refine ⟨fun e _ q _ => index_lt_or_eq_zero q, hempty, run_fair h fun e he lt hop => ?_⟩
    exact .inr (items_eq_nil_iff.mpr (hempty e he lt hop))

namespace FairnessExample

def keep (_ _ : String) : Bool := false

def holding (a b : Array String) (index : Fin 2) : RoundRobinPriorityQueue :=
  ⟨⟨[("a", a), ("b", b)], by simp⟩, index, by
    have := index.isLt
    simp [Dict.size]
    omega⟩

def single : RoundRobinPriorityQueue := ⟨⟨[("a", #["1"])], by decide⟩, 0, by decide⟩

def left : RoundRobinPriorityQueue := ⟨⟨[("b", #["3"])], by decide⟩, 0, by decide⟩

def alternating : List (Edge RoundRobinPriorityQueue Operation) :=
  [⟨new, .put keep "a" "1", single⟩,
    ⟨single, .put keep "b" "2", holding #["1"] #["2"] 0⟩,
    ⟨holding #["1"] #["2"] 0, .get keep (some "1"), holding #[] #["2"] 1⟩,
    ⟨holding #[] #["2"] 1, .get keep (some "2"), holding #[] #[] 0⟩]

theorem run_alternating : Run Step new alternating (holding #[] #[] 0) :=
  .snoc (.snoc (.snoc (.snoc .nil rfl) rfl) rfl) rfl

theorem run_refilled : Run Step new
    (alternating ++ [⟨holding #[] #[] 0, .put keep "b" "3", holding #[] #["3"] 0⟩] ++
      [⟨holding #[] #["3"] 0, .get keep none, left⟩]) left :=
  .snoc (.snoc run_alternating rfl) rfl

end FairnessExample

open FairnessExample in
/-- Both groups are served, each in its turn. -/
theorem serves_round_robin_alternating : ServesRoundRobin alternating := by
  apply (serves_round_robin_iff run_alternating).mpr
  simp only [alternating, List.forall_mem_cons, List.not_mem_nil, false_imp_iff, implies_true,
    and_true]
  refine ⟨fun _ _ he => by simp at he, fun _ _ he => by simp at he, fun _ _ _ => .inl ?_,
    fun _ _ _ => .inl ?_⟩
  · exact ⟨"a", by decide, by decide⟩
  · exact ⟨"b", by decide, by decide⟩

open FairnessExample in
/-- Both groups are served and the second one gets another item: the next get raises. -/
theorem get_raises_with_items :
    ¬ ∀ (t : List (Edge RoundRobinPriorityQueue Operation)) (q : RoundRobinPriorityQueue),
      Run Step new t q → ServesRoundRobin t := by
  intro h
  have hempty := (h _ _ run_refilled).empty
    ⟨holding #[] #["3"] 0, .get keep none, left⟩ (by simp) keep rfl "b"
  exact hempty (by decide)

end RoundRobinPriorityQueue

end Idea

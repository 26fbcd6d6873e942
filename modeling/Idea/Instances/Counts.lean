import Idea.Instances.Cache
import Mathlib.Data.List.Induction

/-! # The tallies of a commit

The tally of a value is compared with the number of instances that carry it. Since the loop
reads its running count under the literal key `count`, a value is tallied as one more than
the number of instances carrying `count` that come before its last carrier, and the tally is
right only when that is the number of its carriers.
-/

namespace Idea

section Tally

variable {key : EC2Instance → Option String} {k : Option String}

def carriers (key : EC2Instance → Option String) (k : Option String)
    (instances : List EC2Instance) : ℕ :=
  instances.countP fun i => key i = k

def beforeLast (key : EC2Instance → Option String) (k : Option String)
    (instances : List EC2Instance) : List EC2Instance :=
  (instances.reverse.dropWhile fun i => key i ≠ k).tail

/-- The tally of the value is right: it has no carrier, or the instances carrying the literal
value `count` before its last carrier make up for all but one of its carriers. -/
def TallyRight (key : EC2Instance → Option String) (instances : List EC2Instance)
    (k : Option String) : Prop :=
  carriers key k instances = 0 ∨
    carriers key k instances = carriers key (some "count") (beforeLast key k instances) + 1

theorem getValueAsInt_set (k k' : Option String) (metrics : Metrics) (n : ℤ) :
    getValueAsInt k (metrics.set k' n) 0 = if k = k' then n else getValueAsInt k metrics 0 := by
  unfold getValueAsInt
  rw [Dict.get?_set]
  split <;> rfl

theorem tally_append (key : EC2Instance → Option String) (instances : List EC2Instance)
    (i : EC2Instance) :
    tally key (instances ++ [i]) = (tally key instances).set (key i)
      (getValueAsInt (some "count") (tally key instances) 0 + 1) := by
  simp [tally, List.foldl_append]

theorem carriers_append (instances : List EC2Instance) (i : EC2Instance) :
    carriers key k (instances ++ [i]) = carriers key k instances + if key i = k then 1 else 0 := by
  simp [carriers, List.countP_append, List.countP_singleton]

theorem beforeLast_append (instances : List EC2Instance) (i : EC2Instance) :
    beforeLast key k (instances ++ [i]) =
      if key i = k then instances.reverse else beforeLast key k instances := by
  unfold beforeLast
  rw [List.reverse_append, List.reverse_singleton, List.singleton_append, List.dropWhile_cons]
  by_cases h : key i = k <;> simp [h]

theorem tally_count (key : EC2Instance → Option String) (instances : List EC2Instance) :
    getValueAsInt (some "count") (tally key instances) 0 =
      carriers key (some "count") instances := by
  induction instances using List.reverseRecOn with
  | nil => rfl
  | append_singleton instances i ih =>
    rw [tally_append, carriers_append, getValueAsInt_set]
    by_cases h : key i = some "count"
    · rw [if_pos h.symm, if_pos h, ih]
      rfl
    · rw [if_neg (Ne.symm h), if_neg h, ih, Nat.add_zero]

theorem tally_eq (instances : List EC2Instance) :
    getValueAsInt k (tally key instances) 0 =
      if carriers key k instances = 0 then 0
      else carriers key (some "count") (beforeLast key k instances) + 1 := by
  induction instances using List.reverseRecOn with
  | nil => rfl
  | append_singleton instances i ih =>
    rw [tally_append, carriers_append, beforeLast_append, getValueAsInt_set]
    by_cases h : key i = k
    · rw [if_pos h.symm, if_pos h, if_pos h, if_neg (Nat.succ_ne_zero _), tally_count]
      simp [carriers]
    · rw [if_neg (Ne.symm h), if_neg h, if_neg h, Nat.add_zero, ih]

theorem tally_eq_carriers_iff (instances : List EC2Instance) :
    getValueAsInt k (tally key instances) 0 = carriers key k instances ↔
      TallyRight key instances k := by
  rw [tally_eq, TallyRight]
  split
  · rename_i hz
    simp [hz]
  · rename_i hz
    simp only [hz, false_or]
    omega

theorem tallyRight_of_no_count {instances : List EC2Instance}
    (h : ∀ i ∈ instances, key i ≠ some "count") :
    TallyRight key instances k ↔ carriers key k instances ≤ 1 := by
  have hz : carriers key (some "count") (beforeLast key k instances) = 0 := by
    refine List.countP_eq_zero.mpr fun i hi => ?_
    have hd := (List.dropWhile_sublist _).subset (List.mem_of_mem_tail hi)
    simpa using h i (List.mem_reverse.mp hd)
  rw [TallyRight, hz]
  omega

end Tally

end Idea

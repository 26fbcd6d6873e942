import Mathlib.Data.List.Basic
import Mathlib.Data.List.Nodup
import Mathlib.Data.List.Perm.Subperm

/-! # Insertion-ordered dictionaries

A dictionary is a list of entries with distinct keys. An update keeps the position of
its key and a new key goes to the end, so iteration follows insertion order.
-/

structure Dict (κ ν : Type*) where
  entries : List (κ × ν)
  nodup : (entries.map Prod.fst).Nodup

namespace Dict

variable {κ ν μ : Type*}

theorem mapM_eq_some_iff {α β : Type} {f : α → Option β} :
    ∀ {l : List α} {l' : List β}, l.mapM f = some l' ↔ l.map f = l'.map some
  | [], [] => by simp
  | [], b :: l' => by simp
  | a :: l, [] => by simp [List.mapM_cons, Option.bind_eq_some_iff]
  | a :: l, b :: l' => by
    rw [List.mapM_cons, List.map_cons, List.map_cons, List.cons.injEq, ← mapM_eq_some_iff]
    cases f a <;> cases l.mapM f <;> simp

theorem mem_of_mapM {α β : Type} {f : α → Option β} {l : List α} {l' : List β}
    (h : l.mapM f = some l') {b : β} : b ∈ l' ↔ ∃ a ∈ l, f a = some b := by
  rw [mapM_eq_some_iff] at h
  rw [← List.mem_map, h, List.mem_map]
  simp

def keys (d : Dict κ ν) : List κ := d.entries.map Prod.fst

def values (d : Dict κ ν) : List ν := d.entries.map Prod.snd

def size (d : Dict κ ν) : ℕ := d.entries.length

def empty : Dict κ ν := ⟨[], by simp⟩

instance : EmptyCollection (Dict κ ν) := ⟨empty⟩

theorem nodup_keys (d : Dict κ ν) : d.keys.Nodup := d.nodup

@[simp] theorem keys_empty : (∅ : Dict κ ν).keys = [] := rfl

@[ext] theorem ext {d d' : Dict κ ν} (h : d.entries = d'.entries) : d = d' := by
  cases d; cases d'; simp_all

theorem fst_filterMap_sublist (f : κ → ν → Option μ) (es : List (κ × ν)) :
    ((es.filterMap fun e => (f e.1 e.2).map (e.1, ·)).map Prod.fst).Sublist
      (es.map Prod.fst) := by
  induction es with
  | nil => exact List.Sublist.slnil
  | cons e es ih =>
    cases h : f e.1 e.2 with
    | none =>
      rw [List.filterMap_cons_none (by simp [h])]
      exact ih.cons e.1
    | some m =>
      rw [List.filterMap_cons, h]
      exact ih.cons_cons e.1

/-- Rewrites the values and drops the keys that get none; the others keep their order. -/
def filterMap (f : κ → ν → Option μ) (d : Dict κ ν) : Dict κ μ :=
  ⟨d.entries.filterMap fun e => (f e.1 e.2).map (e.1, ·),
    d.nodup.sublist (fst_filterMap_sublist f d.entries)⟩

variable [DecidableEq κ]

def get? (d : Dict κ ν) (k : κ) : Option ν := d.entries.lookup k

/-- `k in d`. -/
def has (d : Dict κ ν) (k : κ) : Bool := decide (k ∈ d.keys)

/-- The list of entries after a write of `v` at `k`. -/
def setEntries (k : κ) (v : ν) : List (κ × ν) → List (κ × ν)
  | [] => [(k, v)]
  | e :: es => if e.1 = k then (k, v) :: es else e :: setEntries k v es

theorem fst_setEntries (k : κ) (v : ν) (es : List (κ × ν)) :
    (setEntries k v es).map Prod.fst =
      if k ∈ es.map Prod.fst then es.map Prod.fst else es.map Prod.fst ++ [k] := by
  induction es with
  | nil => simp [setEntries]
  | cons e es ih =>
    by_cases he : e.1 = k
    · simp [setEntries, he]
    · have hk : ¬ k = e.1 := fun h => he h.symm
      simp only [setEntries, if_neg he, List.map_cons, ih, List.mem_cons, hk, false_or]
      split <;> simp

/-- `d[k] = v`. -/
def set (d : Dict κ ν) (k : κ) (v : ν) : Dict κ ν :=
  ⟨setEntries k v d.entries, by
    rw [fst_setEntries]
    split
    · exact d.nodup
    · rename_i h
      exact d.nodup.append (by simp) (List.disjoint_singleton.mpr h)⟩

/-- `del d[k]`, where an absent key is left to the caller. -/
def erase (d : Dict κ ν) (k : κ) : Dict κ ν :=
  ⟨d.entries.filter fun e => e.1 ≠ k,
    d.nodup.sublist (List.Sublist.map _ List.filter_sublist)⟩

variable {d : Dict κ ν} {k : κ}

@[simp] theorem has_iff : d.has k = true ↔ k ∈ d.keys := by
  simp [has]

theorem keys_set (d : Dict κ ν) (k : κ) (v : ν) :
    (d.set k v).keys = if k ∈ d.keys then d.keys else d.keys ++ [k] :=
  fst_setEntries k v d.entries

theorem keys_set_of_mem (h : k ∈ d.keys) (v : ν) : (d.set k v).keys = d.keys := by
  rw [keys_set, if_pos h]

theorem keys_set_of_not_mem (h : k ∉ d.keys) (v : ν) : (d.set k v).keys = d.keys ++ [k] := by
  rw [keys_set, if_neg h]

variable {v : ν}

@[simp] theorem mem_keys_set {k k' : κ} : k' ∈ (d.set k v).keys ↔ k' = k ∨ k' ∈ d.keys := by
  rw [keys_set]
  split
  · exact ⟨Or.inr, by rintro (rfl | h) <;> assumption⟩
  · simp [or_comm]

theorem keys_erase (d : Dict κ ν) (k : κ) : (d.erase k).keys = d.keys.filter (· ≠ k) := by
  simp [keys, erase, List.filter_map, Function.comp_def]

@[simp] theorem mem_keys_erase {k k' : κ} : k' ∈ (d.erase k).keys ↔ k' ∈ d.keys ∧ k' ≠ k := by
  simp [keys_erase]

theorem keys_perm_cons_erase (h : k ∈ d.keys) : d.keys.Perm (k :: (d.erase k).keys) := by
  rw [keys_erase]
  have he : d.keys.filter (· ≠ k) = d.keys.erase k := by
    rw [d.nodup_keys.erase_eq_filter]
    exact List.filter_congr fun x _ => by rw [Bool.eq_iff_iff]; simp
  rw [he]
  exact List.perm_cons_erase h

@[simp] theorem get?_empty (k : κ) : (∅ : Dict κ ν).get? k = none := rfl

theorem lookup_cons_ite (k : κ) (e : κ × ν) (es : List (κ × ν)) :
    (e :: es).lookup k = if k = e.1 then some e.2 else es.lookup k := by
  rw [List.lookup_cons]
  by_cases h : k = e.1
  · simp [h]
  · rw [beq_false_of_ne h, if_neg h]

theorem lookup_setEntries (k k' : κ) (v : ν) (es : List (κ × ν)) :
    (setEntries k v es).lookup k' = if k' = k then some v else es.lookup k' := by
  induction es with
  | nil => simp [setEntries, lookup_cons_ite]
  | cons e es ih =>
    by_cases he : e.1 = k
    · subst he
      by_cases h : k' = e.1 <;> simp [setEntries, lookup_cons_ite, h]
    · rw [setEntries, if_neg he, lookup_cons_ite, lookup_cons_ite, ih]
      by_cases h : k' = k
      · rw [if_neg fun h' : k' = e.1 => he (h'.symm.trans h), if_pos h, if_pos h]
      · rw [if_neg h, if_neg h]

theorem get?_set (d : Dict κ ν) (k k' : κ) (v : ν) :
    (d.set k v).get? k' = if k' = k then some v else d.get? k' :=
  lookup_setEntries k k' v d.entries

@[simp] theorem get?_set_ne (d : Dict κ ν) {k k' : κ} (h : k' ≠ k) (v : ν) :
    (d.set k v).get? k' = d.get? k' := by
  simp [get?_set, h]

theorem lookup_filter_ne (k k' : κ) (es : List (κ × ν)) :
    (es.filter fun e => e.1 ≠ k).lookup k' = if k' = k then none else es.lookup k' := by
  induction es with
  | nil => simp
  | cons e es ih =>
    by_cases he : e.1 = k
    · rw [List.filter_cons_of_neg (by simp [he]), ih, lookup_cons_ite]
      by_cases h : k' = k <;> simp [h, he]
    · rw [List.filter_cons_of_pos (by simp [he]), lookup_cons_ite, ih, lookup_cons_ite]
      by_cases h : k' = k
      · rw [if_neg fun h' : k' = e.1 => he (h'.symm.trans h), if_pos h, if_pos h]
      · rw [if_neg h, if_neg h]

theorem get?_erase (d : Dict κ ν) (k k' : κ) :
    (d.erase k).get? k' = if k' = k then none else d.get? k' :=
  lookup_filter_ne k k' d.entries

@[simp] theorem get?_erase_ne (d : Dict κ ν) {k k' : κ} (h : k' ≠ k) :
    (d.erase k).get? k' = d.get? k' := by
  simp [get?_erase, h]

theorem get?_eq_none : d.get? k = none ↔ k ∉ d.keys := by
  rw [get?, List.lookup_eq_none_iff]
  simp only [keys, List.mem_map, not_exists, not_and, bne_iff_ne, ne_eq]
  exact ⟨fun h e he hk => h e he hk.symm, fun h e he hk => h e he hk.symm⟩

theorem get?_isSome : (d.get? k).isSome ↔ k ∈ d.keys := by
  rw [← not_iff_not, Bool.not_eq_true, Option.isSome_eq_false_iff, Option.isNone_iff_eq_none,
    get?_eq_none]

theorem mem_keys_of_get? (h : d.get? k = some v) : k ∈ d.keys :=
  get?_isSome.mp (by simp [h])

theorem exists_get?_of_mem_keys (h : k ∈ d.keys) : ∃ v, d.get? k = some v :=
  Option.isSome_iff_exists.mp (get?_isSome.mpr h)

theorem get?_of_mem_entries (h : (k, v) ∈ d.entries) : d.get? k = some v := by
  obtain ⟨l₁, l₂, hl⟩ := List.append_of_mem h
  rw [get?, List.lookup_eq_some_iff]
  refine ⟨l₁, l₂, hl, fun e he => ?_⟩
  have hd := d.nodup
  rw [hl, List.map_append, List.map_cons] at hd
  have hne := (List.nodup_append.mp hd).2.2 e.1 (List.mem_map_of_mem he) k (by simp)
  simpa using Ne.symm hne

theorem mem_entries_of_get? (h : d.get? k = some v) : (k, v) ∈ d.entries := by
  obtain ⟨l₁, l₂, hl, _⟩ := List.lookup_eq_some_iff.mp h
  exact hl ▸ List.mem_append_right l₁ List.mem_cons_self

theorem mem_entries {e : κ × ν} : e ∈ d.entries ↔ d.get? e.1 = some e.2 :=
  ⟨get?_of_mem_entries, mem_entries_of_get?⟩

theorem get?_filterMap (f : κ → ν → Option μ) (d : Dict κ ν) (k : κ) :
    (d.filterMap f).get? k = (d.get? k).bind (f k) := by
  refine Option.ext fun m => ?_
  have hmem : (d.filterMap f).get? k = some m ↔ (k, m) ∈ (d.filterMap f).entries :=
    ⟨mem_entries_of_get?, get?_of_mem_entries⟩
  rw [hmem, Option.bind_eq_some_iff]
  constructor
  · intro h
    obtain ⟨⟨k', v⟩, he, hf⟩ := List.mem_filterMap.mp h
    obtain ⟨m', hm, heq⟩ := Option.map_eq_some_iff.mp hf
    obtain ⟨rfl, rfl⟩ := Prod.mk.inj heq
    exact ⟨v, get?_of_mem_entries he, hm⟩
  · rintro ⟨v, hv, hf⟩
    exact List.mem_filterMap.mpr ⟨(k, v), mem_entries_of_get? hv, by simp [hf]⟩

theorem perm_of_get? {d d' : Dict κ ν} (h : ∀ k, d.get? k = d'.get? k) :
    d.entries.Perm d'.entries := by
  refine (List.perm_ext_iff_of_nodup d.nodup.of_map d'.nodup.of_map).mpr fun e => ?_
  rw [mem_entries, mem_entries, h]

omit [DecidableEq κ] in
theorem size_le_of_keys_subset {d' : Dict κ μ} (h : d.keys ⊆ d'.keys) : d.size ≤ d'.size := by
  have hl := (d.nodup_keys.subperm h).length_le
  simpa [keys, size] using hl

theorem get?_foldl_erase (ks : List κ) (d : Dict κ ν) (k : κ) :
    (ks.foldl erase d).get? k = if k ∈ ks then none else d.get? k := by
  induction ks generalizing d with
  | nil => simp
  | cons k' ks ih =>
    rw [List.foldl_cons, ih, get?_erase]
    by_cases hk : k ∈ ks
    · simp [hk]
    · by_cases hk' : k = k' <;> simp [hk, hk']

theorem mem_keys_foldl_set {α : Type*} (f : α → κ) (g : α → ν) (l : List α) (d : Dict κ ν)
    (k : κ) :
    k ∈ (l.foldl (fun d a => d.set (f a) (g a)) d).keys ↔ k ∈ d.keys ∨ ∃ a ∈ l, f a = k := by
  induction l generalizing d with
  | nil => simp
  | cons a l ih =>
    rw [List.foldl_cons, ih, mem_keys_set, List.exists_mem_cons_iff, or_assoc, or_left_comm,
      eq_comm]

theorem get?_foldl_set_of_ne {α : Type*} (f : α → κ) (g : α → ν) {l : List α} (d : Dict κ ν)
    (h : ∀ a ∈ l, f a ≠ k) : (l.foldl (fun d a => d.set (f a) (g a)) d).get? k = d.get? k := by
  induction l generalizing d with
  | nil => rfl
  | cons a l ih =>
    rw [List.forall_mem_cons] at h
    rw [List.foldl_cons, ih _ h.2, get?_set_ne _ (Ne.symm h.1)]

def setSome (d : Dict κ ν) (k : κ) : Option ν → Dict κ ν
  | none => d
  | some v => d.set k v

theorem get?_setSome (d : Dict κ ν) (k k' : κ) (v : Option ν) :
    (d.setSome k v).get? k' = if k' = k then v.or (d.get? k') else d.get? k' := by
  cases v with
  | none => simp [setSome]
  | some v => simp [setSome, get?_set]

theorem get?_foldl_setSome (f : κ × ν → Option μ) {es : List (κ × ν)}
    (hn : (es.map Prod.fst).Nodup) (d : Dict κ μ) (k : κ) :
    (es.foldl (fun d e => d.setSome e.1 (f e)) d).get? k =
      ((es.lookup k).bind fun v => f (k, v)).or (d.get? k) := by
  induction es generalizing d with
  | nil => rfl
  | cons e es ih =>
    rw [List.map_cons, List.nodup_cons] at hn
    rw [List.foldl_cons, ih hn.2, get?_setSome, lookup_cons_ite]
    by_cases hk : k = e.1
    · have hl : es.lookup k = none := by
        rw [List.lookup_eq_none_iff]
        intro e' he'
        rw [bne_iff_ne]
        rintro rfl
        exact hn.1 (hk ▸ List.mem_map_of_mem he')
      rw [hl, if_pos hk, if_pos hk, hk]
      rfl
    · rw [if_neg hk, if_neg hk]

theorem setEntries_append {l₁ l₂ : List (κ × ν)} (h : k ∉ l₁.map Prod.fst) :
    setEntries k v (l₁ ++ l₂) = l₁ ++ setEntries k v l₂ := by
  induction l₁ with
  | nil => rfl
  | cons e l₁ ih =>
    simp only [List.map_cons, List.mem_cons, not_or] at h
    simp only [List.cons_append, setEntries, if_neg (Ne.symm h.1), ih h.2]

theorem entries_split (h : d.get? k = some v) :
    ∃ l₁ l₂, d.entries = l₁ ++ (k, v) :: l₂ ∧
      (∀ v', (d.set k v').entries = l₁ ++ (k, v') :: l₂) ∧ (d.erase k).entries = l₁ ++ l₂ := by
  obtain ⟨l₁, l₂, hl, hne⟩ := List.lookup_eq_some_iff.mp h
  have h₁ : k ∉ l₁.map Prod.fst := by
    intro hk
    obtain ⟨e, he, rfl⟩ := List.mem_map.mp hk
    simpa using hne e he
  have h₂ : k ∉ l₂.map Prod.fst := by
    have hd := d.nodup
    rw [hl, List.map_append, List.map_cons] at hd
    exact (List.nodup_cons.mp (List.nodup_append.mp hd).2.1).1
  refine ⟨l₁, l₂, hl, fun v' => ?_, ?_⟩
  · simp [set, hl, setEntries_append h₁, setEntries]
  · have keep : ∀ l : List (κ × ν), k ∉ l.map Prod.fst → l.filter (fun e => e.1 ≠ k) = l := by
      intro l hk
      refine List.filter_eq_self.mpr fun e he => ?_
      simp only [decide_eq_true_eq]
      rintro rfl
      exact hk (List.mem_map_of_mem he)
    simp only [erase, hl, List.filter_append, keep l₁ h₁]
    rw [List.filter_cons_of_neg (by simp), keep l₂ h₂]

theorem size_set_of_get? (h : d.get? k = some v) (v' : ν) : (d.set k v').size = d.size := by
  obtain ⟨l₁, l₂, hl, hs, _⟩ := entries_split h
  simp [size, hl, hs]

theorem size_erase_of_get? (h : d.get? k = some v) : (d.erase k).size + 1 = d.size := by
  obtain ⟨l₁, l₂, hl, _, he⟩ := entries_split h
  simp only [size, hl, he, List.length_append, List.length_cons]
  omega

theorem entries_set_of_not_mem (h : k ∉ d.keys) (v : ν) :
    (d.set k v).entries = d.entries ++ [(k, v)] := by
  have ha : setEntries k v (d.entries ++ []) = d.entries ++ setEntries k v [] :=
    setEntries_append h
  simpa [set, setEntries] using ha

theorem size_set_le (d : Dict κ ν) (k : κ) (v : ν) : (d.set k v).size ≤ d.size + 1 := by
  cases hg : d.get? k with
  | some v' => exact Nat.le_succ_of_le (Nat.le_of_eq (size_set_of_get? hg v))
  | none => simp [size, entries_set_of_not_mem (get?_eq_none.mp hg)]

theorem size_le_set (d : Dict κ ν) (k : κ) (v : ν) : d.size ≤ (d.set k v).size := by
  cases hg : d.get? k with
  | some v' => exact Nat.le_of_eq (size_set_of_get? hg v).symm
  | none => simp [size, entries_set_of_not_mem (get?_eq_none.mp hg)]

end Dict

import Mathlib.Data.List.Pairwise
import Mathlib.Data.List.Infix

/-! # Rules tried in order

Each rule has a key and applies to the words that begin with it. When no key begins a later one,
the first rule that applies is the one with the longest key.
-/

namespace PrefixRules

variable {α β : Type} {key : β → List α} {rules : List β} {word : List α}

/-- No rule has a key that begins the key of a later rule. -/
def LongestFirst (key : β → List α) (rules : List β) : Prop :=
  rules.Pairwise fun r r' => ¬ key r <+: key r'

theorem prefix_or_prefix {key₁ key₂ : List α} (h₁ : key₁ <+: word) (h₂ : key₂ <+: word) :
    key₁ <+: key₂ ∨ key₂ <+: key₁ := List.prefix_or_prefix_of_prefix h₁ h₂

/-- A rule with a longer key wins over those it begins with. -/
structure Longest (key : β → List α) (rules : List β) (word : List α) (r : β) : Prop where
  mem : r ∈ rules
  applies : key r <+: word
  longest : ∀ r' ∈ rules, key r' <+: word → key r' <+: key r

theorem LongestFirst.eq_of_key (h : LongestFirst key rules) {r r' : β} (hr : r ∈ rules)
    (hr' : r' ∈ rules) (hkey : key r = key r') : r = r' := by
  have hne : rules.Pairwise fun r r' => key r ≠ key r' :=
    List.Pairwise.imp (fun hnot heq => hnot (by rw [heq])) h
  have hsymm : Std.Symm fun r r' => key r ≠ key r' := ⟨fun _ _ h => Ne.symm h⟩
  by_contra hdiff
  exact hne.forall hr hr' hdiff hkey

theorem Longest.unique (h : LongestFirst key rules) {r r' : β} (hr : Longest key rules word r)
    (hr' : Longest key rules word r') : r = r' :=
  h.eq_of_key hr.mem hr'.mem
    ((hr'.longest r hr.mem hr.applies).eq_of_length_le
      (hr.longest r' hr'.mem hr'.applies).length_le)

theorem LongestFirst.longest_of_find? {applies : β → Bool} (h : LongestFirst key rules)
    (happlies : ∀ r ∈ rules, applies r = true ↔ key r <+: word) {r : β}
    (hfind : rules.find? applies = some r) : Longest key rules word r := by
  obtain ⟨hr, before, after, hsplit, hbefore⟩ := List.find?_eq_some_iff_append.mp hfind
  have hmem : r ∈ rules := by simp [hsplit]
  have hword := (happlies r hmem).mp hr
  refine ⟨hmem, hword, fun r' hr' hword' => ?_⟩
  rw [hsplit, List.mem_append, List.mem_cons] at hr'
  rcases hr' with hr' | rfl | hr'
  · have hnot := hbefore r' hr'
    have happlies := (happlies r' (by simp [hsplit, hr'])).mpr hword'
    simp [happlies] at hnot
  · exact List.prefix_rfl
  · rcases prefix_or_prefix hword hword' with hlater | hearlier
    · rw [LongestFirst, hsplit, List.pairwise_append] at h
      exact absurd hlater ((List.pairwise_cons.mp h.2.1).1 r' hr')
    · exact hearlier

theorem LongestFirst.find?_eq_some_iff {applies : β → Bool} (h : LongestFirst key rules)
    (happlies : ∀ r ∈ rules, applies r = true ↔ key r <+: word) {r : β} :
    rules.find? applies = some r ↔ Longest key rules word r := by
  refine ⟨h.longest_of_find? happlies, fun hr => ?_⟩
  cases hfind : rules.find? applies with
  | none =>
    have hnot := List.find?_eq_none.mp hfind r hr.mem
    exact absurd ((happlies r hr.mem).mpr hr.applies) hnot
  | some r' => rw [(h.longest_of_find? happlies hfind).unique h hr]

theorem LongestFirst.exists_longest {applies : β → Bool} (h : LongestFirst key rules)
    (happlies : ∀ r ∈ rules, applies r = true ↔ key r <+: word) {r : β} (hr : r ∈ rules)
    (hword : key r <+: word) : ∃ r', Longest key rules word r' ∧ key r <+: key r' := by
  cases hfind : rules.find? applies with
  | none => exact absurd ((happlies r hr).mpr hword) (List.find?_eq_none.mp hfind r hr)
  | some r' =>
    have hlongest := h.longest_of_find? happlies hfind
    exact ⟨r', hlongest, hlongest.longest r hr hword⟩

theorem any_isPrefixOf_iff [DecidableEq α] {keys : List (List α)} {short : List α}
    (hmem : short ∈ keys) (hall : ∀ k ∈ keys, short <+: k) :
    keys.any (fun k => k.isPrefixOf word) = true ↔ short <+: word := by
  rw [List.any_eq_true]
  constructor
  · rintro ⟨k, hk, hword⟩
    exact (hall k hk).trans (List.isPrefixOf_iff_prefix.mp hword)
  · intro h
    exact ⟨short, hmem, List.isPrefixOf_iff_prefix.mpr h⟩

end PrefixRules

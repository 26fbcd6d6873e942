import Mathlib.Data.List.Basic
import Mathlib.Data.List.Nodup

/-! # Linked pages

A request is answered by a page, and a page may lead to the request for the next one. The pages
that are linked from a request are determined by it, and no request comes up twice among them.
-/

/-- Where pages are requested. -/
structure PageSource (ρ π : Type) where
  fetch : ρ → Option π
  next : ρ → π → Option ρ

namespace PageSource

variable {ρ π : Type} {source : PageSource ρ π} {request : ρ} {links links' : List (ρ × π)}

/-- The requests and the pages that are linked from a request, up to the last page. -/
inductive Linked (source : PageSource ρ π) : ρ → List (ρ × π) → Prop
  | last {request : ρ} {page : π} : source.fetch request = some page →
      source.next request page = none → Linked source request [(request, page)]
  | link {request request' : ρ} {page : π} {links : List (ρ × π)} :
      source.fetch request = some page → source.next request page = some request' →
      Linked source request' links → Linked source request ((request, page) :: links)

theorem Linked.exists_cons (h : Linked source request links) :
    ∃ page rest, links = (request, page) :: rest ∧ source.fetch request = some page := by
  cases h with
  | last hfetch _ => exact ⟨_, [], rfl, hfetch⟩
  | link hfetch _ _ => exact ⟨_, _, rfl, hfetch⟩

theorem Linked.unique (h : Linked source request links) (h' : Linked source request links') :
    links = links' := by
  induction h generalizing links' with
  | last hfetch hnext =>
    cases h' with
    | last hfetch' _ => rw [Option.some.inj (hfetch.symm.trans hfetch')]
    | link hfetch' hnext' _ =>
      obtain rfl := Option.some.inj (hfetch.symm.trans hfetch')
      rw [hnext] at hnext'
      contradiction
  | link hfetch hnext _ ih =>
    cases h' with
    | last hfetch' hnext' =>
      obtain rfl := Option.some.inj (hfetch.symm.trans hfetch')
      rw [hnext] at hnext'
      contradiction
    | link hfetch' hnext' hlinked' =>
      obtain rfl := Option.some.inj (hfetch.symm.trans hfetch')
      obtain rfl := Option.some.inj (hnext.symm.trans hnext')
      rw [ih hlinked']

theorem Linked.of_append_cons {before after : List (ρ × π)} {link : ρ × π}
    (h : Linked source request (before ++ link :: after)) :
    Linked source link.1 (link :: after) := by
  induction before generalizing request with
  | nil =>
    obtain ⟨page, rest, heq, -⟩ := h.exists_cons
    obtain ⟨rfl, rfl⟩ := List.cons.inj heq
    exact h
  | cons first before ih =>
    rw [List.cons_append] at h
    generalize hrest : before ++ link :: after = rest at h
    cases h with
    | last _ _ => simp at hrest
    | link _ _ hlinked => exact ih (hrest ▸ hlinked)

theorem Linked.nodup (h : Linked source request links) : (links.map Prod.fst).Nodup := by
  induction h with
  | last _ _ => exact List.nodup_singleton _
  | @link request request' page links hfetch hnext hlinked ih =>
    rw [List.map_cons, List.nodup_cons]
    refine ⟨fun hmem => ?_, ih⟩
    obtain ⟨again, hagain, hrequest⟩ := List.mem_map.mp hmem
    obtain ⟨before, after, rfl⟩ := List.append_of_mem hagain
    -- From the second time on the pages would be as many as from the first.
    have hsame := (hrequest ▸ hlinked.of_append_cons).unique (.link hfetch hnext hlinked)
    have hlength := congrArg List.length hsame
    simp at hlength
    omega

theorem Linked.of_getElem? (h : Linked source request links) {i : ℕ} {link : ρ × π}
    (hi : links[i]? = some link) : source.fetch link.1 = some link.2 ∧
      source.next link.1 link.2 = links[i + 1]?.map Prod.fst := by
  induction h generalizing i with
  | last hfetch hnext =>
    cases i with
    | zero =>
      obtain rfl := Option.some.inj hi
      exact ⟨hfetch, hnext⟩
    | succ i => simp at hi
  | link hfetch hnext hlinked ih =>
    cases i with
    | zero =>
      obtain rfl := Option.some.inj hi
      obtain ⟨page, rest, rfl, -⟩ := hlinked.exists_cons
      exact ⟨hfetch, hnext⟩
    | succ i => exact ih hi

theorem linked_of_range {requests : ℕ → ρ} {pages : ℕ → π} {n : ℕ}
    (hfetch : ∀ i ≤ n, source.fetch (requests i) = some (pages i))
    (hnext : ∀ i < n, source.next (requests i) (pages i) = some (requests (i + 1)))
    (hlast : source.next (requests n) (pages n) = none) :
    Linked source (requests 0) ((List.range (n + 1)).map fun i => (requests i, pages i)) := by
  induction n generalizing requests pages with
  | zero => exact .last (hfetch 0 (Nat.le_refl 0)) hlast
  | succ n ih =>
    rw [List.range_succ_eq_map, List.map_cons, List.map_map]
    refine .link (hfetch 0 (Nat.zero_le _)) (hnext 0 (Nat.succ_pos n)) ?_
    exact ih (fun i hi => hfetch (i + 1) (by omega)) (fun i hi => hnext (i + 1) (by omega)) hlast

end PageSource

import Idea.Data.Dict
import Idea.Data.LinkedPages
import Idea.Model.Utils

/-! # AWS listings

A listing asks for one page after the other while a page has a token for the next one. The token
is read without the page, so that the first page is always taken to be the last.
-/

namespace Idea

inductive ArgValue where
  | text (value : String)
  | texts (values : List String)
  | int (value : ℤ)

abbrev Args : Type := Dict String ArgValue

/-- A call of a listing: the function of AWS, what is made of a response, and the texts of a
response by their keys. -/
structure ListingCall (ρ τ : Type) where
  fn : Args → Except Raised ρ
  resultCb : ρ → Option (List τ)
  text : String → ρ → Option String
  fnKwargs : Option Args := none
  maxResults : ℤ := 1000
  markerBasedPaging : Bool := false
  pageSizeSupported : Bool := true

/-- Where the loop stands, with the requests it has made. -/
structure ListingState (τ : Type) where
  fnKwargs : Args
  nextToken : Option String := none
  result : List τ := []
  visited : List Args := []

namespace ListingCall

variable {ρ τ : Type} (call : ListingCall ρ τ)

def pageSize : ℤ := 20

def withPageSize (key : String) (fnKwargs : Args) : Args :=
  if call.pageSizeSupported then fnKwargs.set key (.int pageSize) else fnKwargs

def withToken (fnKwargs : Args) (token : String) : Args :=
  if call.markerBasedPaging then call.withPageSize "MaxItems" (fnKwargs.set "Marker" (.text token))
  else call.withPageSize "MaxResults" (fnKwargs.set "NextToken" (.text token))

def tokenKey : String := if call.markerBasedPaging then "Marker" else "NextToken"

/-- `Utils.get_value_as_string`; without an object there is no value. -/
def getValueAsString (key : String) (obj : Option ρ) : Option String := obj.bind (call.text key)

def turn (s : ListingState τ) : Except Raised (ListingState τ × Bool) := do
  let fnKwargs := match s.nextToken.filter (· ≠ "") with
    | none => s.fnKwargs
    | some token => call.withToken s.fnKwargs token
  let response ← call.fn fnKwargs
  let result := s.result ++ (call.resultCb response).getD []
  -- The response is not handed over.
  let nextToken := call.getValueAsString call.tokenKey none
  .ok (⟨fnKwargs, nextToken, result, s.visited ++ [fnKwargs]⟩,
    nextToken.isSome && decide ((result.length : ℤ) < call.maxResults))

def loop : ℕ → ListingState τ → Option (Except Raised (ListingState τ))
  | 0, _ => none
  | fuel + 1, s =>
    match call.turn s with
    | .error e => some (.error e)
    | .ok (s', goesOn) => if goesOn then loop fuel s' else some (.ok s')

def start : ListingState τ := { fnKwargs := call.fnKwargs.getD ∅ }

def invokeAwsListing (fuel : ℕ) : Option (Except Raised (ListingState τ)) :=
  call.loop fuel call.start

def source : PageSource Args ρ where
  fetch fnKwargs := (call.fn fnKwargs).toOption
  next fnKwargs response := (call.text call.tokenKey response).map (call.withToken fnKwargs)

abbrev Linked (links : List (Args × ρ)) : Prop :=
  PageSource.Linked call.source (call.fnKwargs.getD ∅) links

def entries (links : List (Args × ρ)) : List τ :=
  links.flatMap fun link => (call.resultCb link.2).getD []

/-- The listing ends with the entries of all pages, up to the limit, after it has visited the
pages one after the other, until there are no more or enough entries. -/
def ListsAll (links : List (Args × ρ)) : Prop :=
  ∃ fuel s, call.invokeAwsListing fuel = some (.ok s) ∧
    s.result = (call.entries links).take call.maxResults.toNat ∧
    ∃ seen rest, links = seen ++ rest ∧ s.visited = seen.map Prod.fst ∧
      (rest = [] ∨ call.maxResults ≤ (call.entries seen).length)

variable {call} {links : List (Args × ρ)}

theorem fetch_eq_some {fnKwargs : Args} {response : ρ} :
    call.source.fetch fnKwargs = some response ↔ call.fn fnKwargs = .ok response := by
  change (call.fn fnKwargs).toOption = some response ↔ _
  cases call.fn fnKwargs with
  | error e => simp [Except.toOption]
  | ok found => simp [Except.toOption]

theorem invokeAwsListing_eq {response : ρ} (h : call.fn (call.fnKwargs.getD ∅) = .ok response)
    (fuel : ℕ) : call.invokeAwsListing (fuel + 1) = some (.ok
      { fnKwargs := call.fnKwargs.getD ∅, result := (call.resultCb response).getD [],
        visited := [call.fnKwargs.getD ∅] }) := by
  simp [invokeAwsListing, loop, turn, start, h, getValueAsString]

/-- A first page is all there is when no other follows, or when it reaches the limit. -/
structure FirstSuffices (call : ListingCall ρ τ) (first : Args × ρ) (rest : List (Args × ρ)) :
    Prop where
  fits : (call.entries [first]).length ≤ call.maxResults.toNat
  last : rest = [] ∨ call.maxResults ≤ (call.entries [first]).length

theorem take_entries_eq_iff {first : Args × ρ} {rest : List (Args × ρ)}
    (hlast : rest = [] ∨ call.maxResults ≤ (call.entries [first]).length) :
    call.entries [first] = (call.entries (first :: rest)).take call.maxResults.toNat ↔
      (call.entries [first]).length ≤ call.maxResults.toNat := by
  have hsplit : call.entries (first :: rest) = call.entries [first] ++ call.entries rest := by
    simp only [entries, List.flatMap_cons, List.flatMap_nil, List.append_nil]
  constructor
  · intro h
    rw [h]
    exact List.length_take_le _ _
  · intro hfits
    rw [hsplit]
    rcases hlast with rfl | hreached
    · have hnone : call.entries [] = [] := List.flatMap_nil
      rw [hnone, List.append_nil, List.take_of_length_le hfits]
    · rw [List.take_left' (by omega)]

theorem entries_first (response : ρ) :
    call.entries [(call.fnKwargs.getD ∅, response)] = (call.resultCb response).getD [] :=
  List.append_nil _

theorem ListsAll.firstSuffices (h : call.ListsAll links) (hlinked : call.Linked links) :
    ∃ first rest, links = first :: rest ∧ FirstSuffices call first rest := by
  obtain ⟨response, rest, rfl, hfetch⟩ := hlinked.exists_cons
  obtain ⟨fuel, s, hrun, hresult, seen, others, hsplit, hvisited, hends⟩ := h
  cases fuel with
  | zero => cases hrun
  | succ fuel =>
    have hfirst := invokeAwsListing_eq (fetch_eq_some.mp hfetch) fuel
    obtain rfl := Except.ok.inj (Option.some.inj (hfirst.symm.trans hrun))
    obtain ⟨link, rfl⟩ : ∃ link, seen = [link] := by
      rw [← List.length_eq_one_iff, ← List.length_map (f := Prod.fst), ← hvisited]
      rfl
    obtain ⟨rfl, rfl⟩ := List.cons.inj hsplit
    rw [← entries_first, take_entries_eq_iff hends] at hresult
    exact ⟨_, _, rfl, hresult, hends⟩

theorem FirstSuffices.listsAll {first : Args × ρ} {rest : List (Args × ρ)}
    (h : FirstSuffices call first rest) (hlinked : call.Linked (first :: rest)) :
    call.ListsAll (first :: rest) := by
  obtain ⟨response, others, heq, hfetch⟩ := hlinked.exists_cons
  obtain ⟨rfl, rfl⟩ := List.cons.inj heq
  refine ⟨1, _, invokeAwsListing_eq (fetch_eq_some.mp hfetch) 0, ?_, [_], rest, rfl, rfl, h.last⟩
  rw [← entries_first, take_entries_eq_iff h.last]
  exact h.fits

/-- Everything is listed exactly when the first page suffices. -/
theorem listsAll_iff_firstSuffices (hlinked : call.Linked links) : call.ListsAll links ↔
    ∃ first rest, links = first :: rest ∧ FirstSuffices call first rest := by
  constructor
  · intro h
    exact h.firstSuffices hlinked
  · rintro ⟨first, rest, rfl, h⟩
    exact h.listsAll hlinked

end ListingCall

def numbersCall (fn : Args → Except Raised (List ℕ × Option String)) :
    ListingCall (List ℕ × Option String) ℕ where
  fn := fn
  resultCb page := some page.1
  text _ page := page.2

def onePage : ListingCall (List ℕ × Option String) ℕ := numbersCall fun _ => .ok ([1, 2], none)

def onePageLinks : List (Args × (List ℕ × Option String)) := [(∅, [1, 2], none)]

theorem listsAll_onePage : onePage.ListsAll onePageLinks := by
  have hlinked : onePage.Linked onePageLinks := .last rfl rfl
  exact (ListingCall.listsAll_iff_firstSuffices hlinked).mpr ⟨_, [], rfl, by decide, .inl rfl⟩

def twoPages : ListingCall (List ℕ × Option String) ℕ := numbersCall fun fnKwargs =>
  if fnKwargs.has "NextToken" then .ok ([2], none) else .ok ([1], some "page-2")

theorem not_listsAll_twoPages : ∃ links, twoPages.Linked links ∧ ¬ twoPages.ListsAll links := by
  have hlinked : twoPages.Linked [(∅, [1], some "page-2"),
      (twoPages.withToken ∅ "page-2", [2], none)] :=
    .link rfl rfl (.last (by decide +kernel) rfl)
  refine ⟨_, hlinked, fun h => ?_⟩
  obtain ⟨first, rest, heq, hsuffices⟩ := h.firstSuffices hlinked
  obtain ⟨rfl, rfl⟩ := List.cons.inj heq
  rcases hsuffices.last with hnil | hreached
  · cases hnil
  · revert hreached
    decide

end Idea

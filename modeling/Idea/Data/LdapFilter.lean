import Mathlib.Data.List.Basic
import Mathlib.Data.List.TakeWhile

/-! # Search filters

The text form of the search filters of a directory: conjunctions, disjunctions and negations of
items in parentheses. The value of an item is a sequence of octets, where some characters stand
only as the escapes of their octets. A conjunction of equalities is read back from its text exactly
when no value needs an escape.
-/

namespace LdapFilter

inductive Comparison where
  | equal | approx | greaterOrEqual | lessOrEqual
  deriving DecidableEq

inductive Item where
  | simple (attr : List Char) (comparison : Comparison) (value : List UInt8)
  | present (attr : List Char)
  | substring (attr : List Char) (parts : List (List UInt8))
  | extensible (rule : List Char) (value : List UInt8)
  deriving DecidableEq

inductive Filter where
  | and (filters : List Filter)
  | or (filters : List Filter)
  | not (filter : Filter)
  | item (item : Item)

def isNormal (c : Char) : Bool := c ∉ ['\x00', '(', ')', '*', '\\']

def hexValue (c : Char) : Option ℕ :=
  if c.isDigit then some (c.toNat - 48)
  else if 'a' ≤ c ∧ c ≤ 'f' then some (c.toNat - 87)
  else if 'A' ≤ c ∧ c ≤ 'F' then some (c.toNat - 55)
  else none

def utf8 (cs : List Char) : List UInt8 := cs.flatMap String.utf8EncodeChar

def octets : List Char → Option (List UInt8)
  | [] => some []
  | '\\' :: a :: b :: cs =>
    match hexValue a, hexValue b, octets cs with
    | some high, some low, some value => some (UInt8.ofNat (16 * high + low) :: value)
    | _, _, _ => none
  | c :: cs => if isNormal c then (octets cs).map (String.utf8EncodeChar c ++ ·) else none

def isAttrChar (c : Char) : Bool := c.isAlphanum || c ∈ ['-', ';', '.']

def inValue (c : Char) : Bool := c ≠ '(' && c ≠ ')'

def equality (attr value : List Char) : Option Item :=
  match value.splitOn '*' with
  | [value] => (octets value).map (.simple attr .equal)
  | [[], []] => some (.present attr)
  | parts => (parts.mapM octets).map (.substring attr)

/-- An attribute or nothing, perhaps with `dn`, and a matching rule or nothing. -/
def isRule (rule : List Char) : Bool :=
  match rule.splitOn ':' with
  | [attr] => attr ≠ [] && attr.all isAttrChar
  | [attr, rule] => attr.all isAttrChar && rule ≠ [] && rule.all isAttrChar
  | [attr, dn, rule] =>
    attr.all isAttrChar && dn = ['d', 'n'] && rule ≠ [] && rule.all isAttrChar
  | _ => false

def extensible (rule value : List Char) : Option Item :=
  if isRule rule then (octets value).map (.extensible rule) else none

def comparison (attr : List Char) (comparison : Comparison) (value : List Char) : Option Item :=
  (octets value).map (.simple attr comparison)

def item (text : List Char) : Option Item :=
  let attr := text.takeWhile isAttrChar
  match text.dropWhile isAttrChar with
  | '=' :: value => if attr = [] then none else equality attr value
  | '~' :: '=' :: value => if attr = [] then none else comparison attr .approx value
  | '>' :: '=' :: value => if attr = [] then none else comparison attr .greaterOrEqual value
  | '<' :: '=' :: value => if attr = [] then none else comparison attr .lessOrEqual value
  | ':' :: _ =>
    let rule := text.takeWhile (· ≠ '=')
    if rule.getLast? = some ':' then extensible rule.dropLast (text.dropWhile (· ≠ '=')).tail
    else none
  | _ => none

def closed {α : Type} (a : α) : List Char → Option (α × List Char)
  | ')' :: cs => some (a, cs)
  | _ => none

mutual

def filter : ℕ → List Char → Option (Filter × List Char)
  | 0, _ => none
  | fuel + 1, '(' :: '&' :: cs => (filters fuel cs).bind fun read => closed (.and read.1) read.2
  | fuel + 1, '(' :: '|' :: cs => (filters fuel cs).bind fun read => closed (.or read.1) read.2
  | fuel + 1, '(' :: '!' :: cs => (filter fuel cs).bind fun read => closed (.not read.1) read.2
  | _ + 1, '(' :: cs =>
    (item (cs.takeWhile inValue)).bind fun read => closed (.item read) (cs.dropWhile inValue)
  | _ + 1, _ => none

def filters : ℕ → List Char → Option (List Filter × List Char)
  | 0, _ => none
  | fuel + 1, cs => (filter fuel cs).bind fun read =>
    match read.2 with
    | '(' :: rest => (filters fuel ('(' :: rest)).map fun more => (read.1 :: more.1, more.2)
    | rest => some ([read.1], rest)

end

/-- A text is read as a filter. -/
def Parses (text : List Char) (f : Filter) : Prop := ∃ fuel, filter fuel text = some (f, [])

section Values

variable {cs value : List Char} {attr : List Char}

/-- A value without characters that would have to be escaped. -/
def Plain (value : List Char) : Prop := ∀ c ∈ value, isNormal c = true

theorem utf8_append (cs ds : List Char) : utf8 (cs ++ ds) = utf8 cs ++ utf8 ds :=
  List.flatMap_append

theorem length_utf8_cons (c : Char) (cs : List Char) :
    (utf8 (c :: cs)).length = c.utf8Size + (utf8 cs).length := by
  rw [utf8, List.flatMap_cons, List.length_append, String.length_utf8EncodeChar, utf8]

theorem eq_nil_of_length_utf8 (h : (utf8 cs).length = 0) : cs = [] := by
  cases cs with
  | nil => rfl
  | cons c cs =>
    have hpos := c.utf8Size_pos
    rw [length_utf8_cons] at h
    omega

theorem octets_of_plain (h : Plain value) : octets value = some (utf8 value) := by
  induction value with
  | nil => rfl
  | cons c cs ih =>
    obtain ⟨hc, hcs⟩ := List.forall_mem_cons.mp h
    have hne : c ≠ '\\' := by
      rintro rfl
      exact absurd hc (by decide)
    rw [octets, if_pos hc, ih hcs, Option.map_some]
    · rfl
    · rintro _ _ _ rfl
      exact absurd rfl hne

theorem length_octets {read : List UInt8} (h : octets value = some read) :
    read.length ≤ (utf8 value).length ∧ (read.length = (utf8 value).length → Plain value) := by
  fun_induction octets value generalizing read with
  | case1 =>
    cases h
    exact ⟨le_rfl, fun _ c hc => absurd hc List.not_mem_nil⟩
  | case2 a b cs high low rest hrest hhigh hlow ih =>
    obtain rfl := Option.some.inj h
    have hle := (ih hrest).1
    have ha := a.utf8Size_pos
    have hb := b.utf8Size_pos
    have hslash : 0 < '\\'.utf8Size := Char.utf8Size_pos _
    simp only [length_utf8_cons, List.length_cons]
    exact ⟨by omega, fun heq => by omega⟩
  | case3 => cases h
  | case4 c cs _ hc ih =>
    obtain ⟨rest, hrest, rfl⟩ := Option.map_eq_some_iff.mp h
    obtain ⟨hle, hplain⟩ := ih hrest
    rw [length_utf8_cons, List.length_append, String.length_utf8EncodeChar]
    refine ⟨by omega, fun heq => ?_⟩
    exact List.forall_mem_cons.mpr ⟨hc, hplain (by omega)⟩
  | case5 => cases h

theorem plain_of_octets {start name : List Char} (hstart : start <+: name)
    (h : octets start = some (utf8 name)) : start = name ∧ Plain name := by
  obtain ⟨rest, rfl⟩ := hstart
  obtain ⟨hle, hplain⟩ := length_octets h
  rw [utf8_append, List.length_append] at hle hplain
  have hrest : (utf8 rest).length = 0 := by omega
  obtain rfl := eq_nil_of_length_utf8 hrest
  rw [List.append_nil]
  exact ⟨rfl, hplain (by simp [utf8])⟩

end Values

section Reading

variable {α β : Type} {fuel : ℕ} {text : List Char} {f g : Filter}

theorem bind_of_le {x y : Option α} {k : α → Option β} {b : β} (hle : ∀ a, x = some a → y = some a)
    (h : x.bind k = some b) : y.bind k = some b := by
  obtain ⟨a, ha, hb⟩ := Option.bind_eq_some_iff.mp h
  rw [hle a ha, Option.bind_some, hb]

theorem read_succ (fuel : ℕ) :
    (∀ cs read, filter fuel cs = some read → filter (fuel + 1) cs = some read) ∧
      ∀ cs read, filters fuel cs = some read → filters (fuel + 1) cs = some read := by
  induction fuel with
  | zero =>
    constructor
    · intro cs read h
      rw [filter] at h
      cases h
    · intro cs read h
      rw [filters] at h
      cases h
  | succ fuel ih =>
    obtain ⟨ihFilter, ihFilters⟩ := ih
    constructor
    · intro cs read h
      unfold filter at h
      split at h
      · cases ‹fuel + 1 = 0›
      · obtain rfl := Nat.succ.inj ‹fuel + 1 = _›
        rw [filter]
        exact bind_of_le (ihFilters _) h
      · obtain rfl := Nat.succ.inj ‹fuel + 1 = _›
        rw [filter]
        exact bind_of_le (ihFilters _) h
      · obtain rfl := Nat.succ.inj ‹fuel + 1 = _›
        rw [filter]
        exact bind_of_le (ihFilter _) h
      · rw [filter]
        · exact h
        all_goals assumption
      · cases h
    · intro cs read h
      rw [filters] at h ⊢
      obtain ⟨first, hfirst, hmore⟩ := Option.bind_eq_some_iff.mp h
      rw [ihFilter _ _ hfirst, Option.bind_some]
      split at hmore
      · obtain ⟨more, hread, heq⟩ := Option.map_eq_some_iff.mp hmore
        rw [ihFilters _ _ hread, Option.map_some, heq]
      · exact hmore

theorem filter_of_le {fuel fuel' : ℕ} (hle : fuel ≤ fuel') {cs : List Char}
    {read : Filter × List Char} (h : filter fuel cs = some read) :
    filter fuel' cs = some read := by
  induction hle with
  | refl => exact h
  | step _ ih => exact (read_succ _).1 _ _ ih

theorem Parses.unique (hf : Parses text f) (hg : Parses text g) : f = g := by
  obtain ⟨fuel, hf⟩ := hf
  obtain ⟨fuel', hg⟩ := hg
  have hf' := filter_of_le (le_max_left fuel fuel') hf
  have hg' := filter_of_le (le_max_right fuel fuel') hg
  exact (Prod.mk.inj (Option.some.inj (hf'.symm.trans hg'))).1

end Reading

section Meaning

variable {satisfied : Item → Prop}

mutual

/-- A filter holds of an entry that satisfies some items. -/
def Holds (satisfied : Item → Prop) : Filter → Prop
  | .and fs => HoldsAll satisfied fs
  | .or fs => HoldsAny satisfied fs
  | .not f => ¬Holds satisfied f
  | .item i => satisfied i

def HoldsAll (satisfied : Item → Prop) : List Filter → Prop
  | [] => True
  | f :: fs => Holds satisfied f ∧ HoldsAll satisfied fs

def HoldsAny (satisfied : Item → Prop) : List Filter → Prop
  | [] => False
  | f :: fs => Holds satisfied f ∨ HoldsAny satisfied fs

end

/-- The text of a filter that holds of an entry. -/
def Matches (satisfied : Item → Prop) (text : List Char) : Prop :=
  ∃ f, Parses text f ∧ Holds satisfied f

theorem holdsAll_iff {fs : List Filter} :
    HoldsAll satisfied fs ↔ ∀ f ∈ fs, Holds satisfied f := by
  induction fs with
  | nil => simp [HoldsAll]
  | cons f fs ih => rw [HoldsAll, ih, List.forall_mem_cons]

theorem matches_iff {text : List Char} {f : Filter} (h : Parses text f) :
    Matches satisfied text ↔ Holds satisfied f := by
  constructor
  · rintro ⟨g, hg, hholds⟩
    rwa [h.unique hg]
  · intro hholds
    exact ⟨f, h, hholds⟩

end Meaning

section Conjunctions

variable {attr value rest : List Char} {fuel : ℕ}

/-- The attribute and the value of an equality. -/
abbrev Equality : Type := List Char × List Char

/-- An attribute that can be read. -/
def IsAttr (attr : List Char) : Prop := attr ≠ [] ∧ ∀ c ∈ attr, isAttrChar c = true

def Equality.text (e : Equality) : List Char := '(' :: (e.1 ++ '=' :: (e.2 ++ [')']))

def Equality.item (e : Equality) : Item := .simple e.1 .equal (utf8 e.2)

def conjunctionText (es : List Equality) : List Char :=
  '(' :: '&' :: (es.flatMap Equality.text ++ [')'])

def conjunction (es : List Equality) : Filter := .and (es.map fun e => .item e.item)

theorem inValue_of_isAttrChar {c : Char} (h : isAttrChar c = true) : inValue c = true := by
  by_contra hnot
  have hparen : c = '(' ∨ c = ')' := by
    simpa [inValue, or_iff_not_imp_left] using hnot
  rcases hparen with rfl | rfl <;> exact absurd h (by decide)

theorem inValue_of_isNormal {c : Char} (h : isNormal c = true) : inValue c = true := by
  by_contra hnot
  have hparen : c = '(' ∨ c = ')' := by
    simpa [inValue, or_iff_not_imp_left] using hnot
  rcases hparen with rfl | rfl <;> exact absurd h (by decide)

theorem takeWhile_inValue (value rest : List Char) :
    (value ++ ')' :: rest).takeWhile inValue = value.takeWhile inValue := by
  induction value with
  | nil => rfl
  | cons c value ih =>
    rw [List.cons_append, List.takeWhile_cons, List.takeWhile_cons, ih]

theorem octets_of_equality {read : List UInt8}
    (h : equality attr value = some (.simple attr .equal read)) : octets value = some read := by
  unfold equality at h
  split at h
  · rename_i piece hsplit
    have hpiece : piece = value := by
      have hjoin : ['*'].intercalate (value.splitOn '*') = value := List.intercalate_splitOn '*'
      rw [hsplit] at hjoin
      simpa [List.intercalate] using hjoin
    obtain ⟨found, hfound, heq⟩ := Option.map_eq_some_iff.mp h
    rw [← hpiece, hfound]
    exact congrArg some (Item.simple.inj heq).2.2
  · cases h
  · obtain ⟨found, -, heq⟩ := Option.map_eq_some_iff.mp h
    cases heq

theorem equality_of_plain (h : Plain value) :
    equality attr value = some (.simple attr .equal (utf8 value)) := by
  have hstar : value.splitOn '*' = [value] := by
    apply List.splitOnP_eq_singleton
    intro c hc
    rw [beq_eq_false_iff_ne]
    rintro rfl
    exact absurd (h _ hc) (by decide)
  rw [equality, hstar]
  change (octets value).map _ = _
  rw [octets_of_plain h]
  rfl

theorem item_equality (hattr : IsAttr attr) (value : List Char) :
    item (attr ++ '=' :: value) = equality attr value := by
  have htake : (attr ++ '=' :: value).takeWhile isAttrChar = attr := by
    rw [List.takeWhile_append_of_pos hattr.2, List.takeWhile_cons_of_neg (by decide),
      List.append_nil]
  have hdrop : (attr ++ '=' :: value).dropWhile isAttrChar = '=' :: value := by
    rw [List.dropWhile_append_of_pos hattr.2, List.dropWhile_cons_of_neg (by decide)]
  rw [item, htake, hdrop]
  exact if_neg hattr.1

theorem filter_text (hattr : IsAttr attr) (value rest : List Char) (fuel : ℕ) :
    filter (fuel + 1) (Equality.text (attr, value) ++ rest) =
      (equality attr (value.takeWhile inValue)).bind fun read =>
        closed (.item read) ((value ++ ')' :: rest).dropWhile inValue) := by
  have hin : ∀ c ∈ attr, inValue c = true := fun c hc => inValue_of_isAttrChar (hattr.2 c hc)
  have htext : Equality.text (attr, value) ++ rest =
      '(' :: (attr ++ '=' :: (value ++ ')' :: rest)) := by
    simp [Equality.text]
  have htake : (attr ++ '=' :: (value ++ ')' :: rest)).takeWhile inValue =
      attr ++ '=' :: value.takeWhile inValue := by
    rw [List.takeWhile_append_of_pos hin, List.takeWhile_cons_of_pos (by decide),
      takeWhile_inValue]
  have hdrop : (attr ++ '=' :: (value ++ ')' :: rest)).dropWhile inValue =
      (value ++ ')' :: rest).dropWhile inValue := by
    rw [List.dropWhile_append_of_pos hin, List.dropWhile_cons_of_pos (by decide)]
  obtain ⟨a, attr', rfl⟩ := List.exists_cons_of_ne_nil hattr.1
  have ha := hattr.2 a List.mem_cons_self
  have hmark : ∀ c, isAttrChar c = false → a ≠ c := by
    rintro c hc rfl
    rw [ha] at hc
    cases hc
  rw [htext, List.cons_append, filter, ← List.cons_append, htake, hdrop, item_equality hattr]
  · rintro _ heq
    exact hmark '&' (by decide) (List.cons.inj heq).1
  · rintro _ heq
    exact hmark '|' (by decide) (List.cons.inj heq).1
  · rintro _ heq
    exact hmark '!' (by decide) (List.cons.inj heq).1

theorem filter_text_of_plain (hattr : IsAttr attr) (h : Plain value) (rest : List Char)
    (fuel : ℕ) : filter (fuel + 1) (Equality.text (attr, value) ++ rest) =
      some (.item (Equality.item (attr, value)), rest) := by
  have hin : ∀ c ∈ value, inValue c = true := fun c hc => inValue_of_isNormal (h c hc)
  have htake : value.takeWhile inValue = value := List.takeWhile_eq_self_iff.mpr hin
  have hdrop : (value ++ ')' :: rest).dropWhile inValue = ')' :: rest := by
    rw [List.dropWhile_append_of_pos hin, List.dropWhile_cons_of_neg (by decide)]
  rw [filter_text hattr, htake, hdrop, equality_of_plain h]
  rfl

theorem plain_of_filter_text (hattr : IsAttr attr) {rest' : List Char}
    (h : filter fuel (Equality.text (attr, value) ++ rest) =
      some (.item (Equality.item (attr, value)), rest')) : Plain value ∧ rest' = rest := by
  cases fuel with
  | zero =>
    rw [filter] at h
    cases h
  | succ fuel =>
    have hread := h
    rw [filter_text hattr, Option.bind_eq_some_iff] at h
    obtain ⟨read, hequality, hclosed⟩ := h
    have hitem : read = Equality.item (attr, value) := by
      unfold closed at hclosed
      split at hclosed
      · exact Filter.item.inj (Prod.mk.inj (Option.some.inj hclosed)).1
      · cases hclosed
    rw [hitem] at hequality
    have hplain := (plain_of_octets (List.takeWhile_prefix _) (octets_of_equality hequality)).2
    rw [filter_text_of_plain hattr hplain] at hread
    exact ⟨hplain, (Prod.mk.inj (Option.some.inj hread)).2.symm⟩

theorem conjunctionText_cons (e : Equality) (es : List Equality) (rest : List Char) :
    (e :: es).flatMap Equality.text ++ rest = e.text ++ (es.flatMap Equality.text ++ rest) := by
  rw [List.flatMap_cons, List.append_assoc]

theorem filters_of_plain {es : List Equality} (hne : es ≠ []) (hattr : ∀ e ∈ es, IsAttr e.1)
    (h : ∀ e ∈ es, Plain e.2) (hfuel : es.length < fuel) :
    filters fuel (es.flatMap Equality.text ++ ')' :: rest) =
      some (es.map fun e => .item e.item, ')' :: rest) := by
  induction es generalizing fuel with
  | nil => exact absurd rfl hne
  | cons e es ih =>
    obtain ⟨hattrE, hattrs⟩ := List.forall_mem_cons.mp hattr
    obtain ⟨hplainE, hplains⟩ := List.forall_mem_cons.mp h
    obtain ⟨fuel, rfl⟩ := Nat.exists_eq_add_of_lt hfuel
    rw [filters, conjunctionText_cons, List.length_cons, Nat.add_right_comm,
      filter_text_of_plain hattrE hplainE, Option.bind_some]
    cases es with
    | nil => rfl
    | cons e' es =>
      have hmore : filters ((e' :: es).length + fuel + 1)
          ((e' :: es).flatMap Equality.text ++ ')' :: rest) =
            some ((e' :: es).map fun e => .item e.item, ')' :: rest) :=
        ih (by simp) hattrs hplains (by omega)
      change ((filters _ ((e' :: es).flatMap Equality.text ++ ')' :: rest)).map _) = _
      rw [hmore]
      rfl

theorem plain_of_filters {es : List Equality} (hattr : ∀ e ∈ es, IsAttr e.1)
    {rest' : List Char} (h : filters fuel (es.flatMap Equality.text ++ rest) =
      some (es.map fun e => .item e.item, rest')) : ∀ e ∈ es, Plain e.2 := by
  induction es generalizing fuel with
  | nil => exact fun e he => absurd he List.not_mem_nil
  | cons e es ih =>
    obtain ⟨hattrE, hattrs⟩ := List.forall_mem_cons.mp hattr
    cases fuel with
    | zero =>
      rw [filters] at h
      cases h
    | succ fuel =>
      rw [filters, conjunctionText_cons, Option.bind_eq_some_iff] at h
      obtain ⟨⟨found, after⟩, hfound, hmore⟩ := h
      have hhead : found = .item e.item := by
        dsimp only at hmore
        split at hmore
        · obtain ⟨more, -, heq⟩ := Option.map_eq_some_iff.mp hmore
          exact (List.cons.inj (Prod.mk.inj heq).1).1
        · exact (List.cons.inj (Prod.mk.inj (Option.some.inj hmore)).1).1
      rw [hhead] at hfound hmore
      obtain ⟨hplain, rfl⟩ := plain_of_filter_text hattrE hfound
      suffices hplains : ∀ e ∈ es, Plain e.2 from
        List.forall_mem_cons (p := fun e : Equality => Plain e.2) |>.mpr ⟨hplain, hplains⟩
      cases es with
      | nil => exact fun e he => absurd he List.not_mem_nil
      | cons e' es =>
        obtain ⟨more, hmore, heq⟩ := Option.map_eq_some_iff.mp hmore
        have hrest := (List.cons.inj (Prod.mk.inj heq).1).2
        have hafter := (Prod.mk.inj heq).2
        have hread : filters fuel ((e' :: es).flatMap Equality.text ++ rest) =
            some ((e' :: es).map fun e => .item e.item, rest') := by
          rw [← hrest, ← hafter]
          exact hmore
        exact ih hattrs hread

theorem parses_conjunction_iff {es : List Equality} (hne : es ≠ [])
    (hattr : ∀ e ∈ es, IsAttr e.1) :
    Parses (conjunctionText es) (conjunction es) ↔ ∀ e ∈ es, Plain e.2 := by
  constructor
  · rintro ⟨fuel, hread⟩
    cases fuel with
    | zero =>
      rw [filter] at hread
      cases hread
    | succ fuel =>
      rw [conjunctionText, filter, Option.bind_eq_some_iff] at hread
      obtain ⟨⟨found, after⟩, hfound, hclosed⟩ := hread
      have hall : found = es.map fun e => .item e.item := by
        unfold closed at hclosed
        split at hclosed
        · exact Filter.and.inj (Prod.mk.inj (Option.some.inj hclosed)).1
        · cases hclosed
      rw [hall] at hfound
      exact plain_of_filters hattr hfound
  · intro hplain
    refine ⟨es.length + 1 + 1, ?_⟩
    rw [conjunctionText, filter, filters_of_plain hne hattr hplain (Nat.lt_succ_self _)]
    rfl

theorem holds_conjunction_iff {satisfied : Item → Prop} {es : List Equality} :
    Holds satisfied (conjunction es) ↔ ∀ e ∈ es, satisfied e.item := by
  rw [conjunction, Holds, holdsAll_iff, List.forall_mem_map]
  exact forall₂_congr fun e _ => Iff.of_eq (by rw [Holds])

theorem matches_conjunction_iff {satisfied : Item → Prop} {es : List Equality} (hne : es ≠ [])
    (hattr : ∀ e ∈ es, IsAttr e.1) (hplain : ∀ e ∈ es, Plain e.2) :
    Matches satisfied (conjunctionText es) ↔ ∀ e ∈ es, satisfied e.item := by
  rw [matches_iff ((parses_conjunction_iff hne hattr).mpr hplain), holds_conjunction_iff]

end Conjunctions

end LdapFilter

import Mathlib.Algebra.GCDMonoid.Finset
import Mathlib.Algebra.GCDMonoid.Nat
import Mathlib.Data.List.Nodup
import Mathlib.Data.List.Pairwise
import Idea.Data.Dict
import Idea.Data.LinkedPages
import Idea.Model.Utils

/-! # Users of several groups

The users of some groups are listed page by page. A page has the next members of every group, and
its cursor says where the groups go on that have more. A group that has come to its end is not in
the cursor, and starts again.
-/

namespace Idea

/-- What a query for the members of a group answers: the usernames of the items, and the key of
the last one if there may be more. -/
structure GroupQueryResult (κ : Type) where
  items : List String
  lastEvaluatedKey : Option κ

/-- The table of members with queries of one page size, and the users there are. -/
structure GroupMembersContext (κ : Type) where
  query : String → Option κ → GroupQueryResult κ
  userExists : String → Bool

namespace GroupMembersDAO

variable {κ : Type} (ctx : GroupMembersContext κ)

/-- The usernames that were met, and those of them that are listed. -/
structure Listed (κ : Type) where
  usernameSet : List String := []
  users : List String := []
  lastEvaluatedKeys : Dict String κ := ∅

def addUser (s : Listed κ) (username : String) : Listed κ :=
  if username ∈ s.usernameSet then s
  else { s with
    usernameSet := s.usernameSet ++ [username]
    users := if ctx.userExists username then s.users ++ [username] else s.users }

def addKey (groupName : String) (lastEvaluatedKey : Option κ) (s : Listed κ) : Listed κ :=
  match lastEvaluatedKey with
  | none => s
  | some key => { s with lastEvaluatedKeys := s.lastEvaluatedKeys.set groupName key }

def listGroup (exclusiveStartKeys : Dict String κ) (s : Listed κ) (groupName : String) : Listed κ :=
  let result := ctx.query groupName (exclusiveStartKeys.get? groupName)
  addKey groupName result.lastEvaluatedKey (result.items.foldl (addUser ctx) s)

/-- A cursor has the last keys of the groups; its text is their JSON in base64. -/
abbrev Cursor (κ : Type) : Type := Dict String κ

/-- A page: the users by their names, and the cursor for the next page. -/
structure ListUsersInGroupResult (κ : Type) where
  listing : List String
  cursor : Option (Cursor κ)

def responseCursor (lastEvaluatedKeys : Dict String κ) : Option (Cursor κ) :=
  if lastEvaluatedKeys.keys = [] then none else some lastEvaluatedKeys

def listUsersInGroup (groupNames : List String) (cursor : Option (Cursor κ)) :
    Except Raised (ListUsersInGroupResult κ) :=
  if groupNames = [] then .error (invalidParams "group_names are required")
  else
    let exclusiveStartKeys := cursor.getD ∅
    let s := groupNames.foldl (listGroup ctx exclusiveStartKeys) {}
    .ok ⟨s.users, responseCursor s.lastEvaluatedKeys⟩

end GroupMembersDAO

section Page

open GroupMembersDAO

variable {κ : Type} {ctx : GroupMembersContext κ} {s : Listed κ}

/-- Users are listed once, and those are listed that were met and exist. -/
structure Listed.Faithful (ctx : GroupMembersContext κ) (s : Listed κ) : Prop where
  nodup : s.users.Nodup
  mem_iff : ∀ u, u ∈ s.users ↔ u ∈ s.usernameSet ∧ ctx.userExists u = true

theorem Listed.faithful_addUser (h : Listed.Faithful ctx s) (username : String) :
    Listed.Faithful ctx (addUser ctx s username) := by
  unfold addUser
  split
  · exact h
  · rename_i hnew
    have hfresh : username ∉ s.users := fun hmem => hnew ((h.mem_iff username).mp hmem).1
    by_cases hexists : ctx.userExists username = true
    · simp only [hexists, if_true]
      refine ⟨h.nodup.append (List.nodup_singleton _) (by simpa using hfresh), fun u => ?_⟩
      simp only [List.mem_append, List.mem_singleton, h.mem_iff u]
      constructor
      · rintro (⟨hseen, hu⟩ | rfl)
        · exact ⟨.inl hseen, hu⟩
        · exact ⟨.inr rfl, hexists⟩
      · rintro ⟨hseen | rfl, hu⟩
        · exact .inl ⟨hseen, hu⟩
        · exact .inr rfl
    · simp only [hexists, if_false, Bool.false_eq_true]
      refine ⟨h.nodup, fun u => ?_⟩
      simp only [List.mem_append, List.mem_singleton, h.mem_iff u]
      constructor
      · rintro ⟨hseen, hu⟩
        exact ⟨.inl hseen, hu⟩
      · rintro ⟨hseen | rfl, hu⟩
        · exact ⟨hseen, hu⟩
        · exact absurd hu hexists

theorem mem_usernameSet_addUser (username u : String) :
    u ∈ (addUser ctx s username).usernameSet ↔ u = username ∨ u ∈ s.usernameSet := by
  unfold addUser
  split
  · rename_i hseen
    constructor
    · exact .inr
    · rintro (rfl | h)
      · exact hseen
      · exact h
  · simp [or_comm]

theorem lastEvaluatedKeys_addUser (username : String) :
    (addUser ctx s username).lastEvaluatedKeys = s.lastEvaluatedKeys := by
  unfold addUser
  split <;> rfl

theorem foldl_addUser (items : List String) (h : Listed.Faithful ctx s) :
    Listed.Faithful ctx (items.foldl (addUser ctx) s) ∧
      (∀ u, u ∈ (items.foldl (addUser ctx) s).usernameSet ↔ u ∈ items ∨ u ∈ s.usernameSet) ∧
      (items.foldl (addUser ctx) s).lastEvaluatedKeys = s.lastEvaluatedKeys := by
  induction items generalizing s with
  | nil => simpa using h
  | cons username items ih =>
    obtain ⟨hfaithful, hmem, hkeys⟩ := ih (Listed.faithful_addUser h username)
    refine ⟨hfaithful, fun u => ?_, hkeys.trans (lastEvaluatedKeys_addUser username)⟩
    rw [List.foldl_cons, hmem u, mem_usernameSet_addUser, List.mem_cons]
    tauto

variable {keys : Dict String κ}

theorem get?_addKey (groupName g : String) (key : Option κ) :
    (addKey groupName key s).lastEvaluatedKeys.get? g =
      if g = groupName then key.or (s.lastEvaluatedKeys.get? g)
      else s.lastEvaluatedKeys.get? g := by
  cases key with
  | none => simp [addKey]
  | some key =>
    simp only [addKey, Dict.get?_set, Option.some_or]

/-- What a page has gathered after some groups. -/
structure Gathered (ctx : GroupMembersContext κ) (keys : Dict String κ) (groupNames : List String)
    (s : Listed κ) : Prop where
  faithful : Listed.Faithful ctx s
  met : ∀ u, u ∈ s.usernameSet ↔ ∃ g ∈ groupNames, u ∈ (ctx.query g (keys.get? g)).items
  lastKeys : ∀ g, s.lastEvaluatedKeys.get? g =
    if g ∈ groupNames then (ctx.query g (keys.get? g)).lastEvaluatedKey else none

theorem Gathered.listGroup {groupNames : List String} (h : Gathered ctx keys groupNames s)
    (groupName : String) :
    Gathered ctx keys (groupNames ++ [groupName]) (listGroup ctx keys s groupName) := by
  obtain ⟨hfaithful, hmem, hkeys⟩ :=
    foldl_addUser (ctx.query groupName (keys.get? groupName)).items h.faithful
  have hsame : ∀ (t : Listed κ) key, (addKey groupName key t).usernameSet = t.usernameSet ∧
      (addKey groupName key t).users = t.users := by
    intro t key
    cases key <;> exact ⟨rfl, rfl⟩
  obtain ⟨hset, husers⟩ := hsame
    ((ctx.query groupName (keys.get? groupName)).items.foldl (addUser ctx) s)
    (ctx.query groupName (keys.get? groupName)).lastEvaluatedKey
  refine ⟨⟨?_, fun u => ?_⟩, fun u => ?_, fun g => ?_⟩
  · rw [GroupMembersDAO.listGroup, husers]
    exact hfaithful.nodup
  · rw [GroupMembersDAO.listGroup, husers, hset]
    exact hfaithful.mem_iff u
  · rw [GroupMembersDAO.listGroup, hset, hmem u, h.met u]
    simp only [List.mem_append, List.mem_singleton]
    constructor
    · rintro (hu | ⟨g, hg, hu⟩)
      · exact ⟨groupName, .inr rfl, hu⟩
      · exact ⟨g, .inl hg, hu⟩
    · rintro ⟨g, hg | rfl, hu⟩
      · exact .inr ⟨g, hg, hu⟩
      · exact .inl hu
  · rw [GroupMembersDAO.listGroup, get?_addKey, hkeys, h.lastKeys g]
    by_cases hg : g = groupName
    · subst hg
      by_cases hbefore : g ∈ groupNames <;> simp [hbefore]
    · simp [hg]

theorem gathered_foldl (ctx : GroupMembersContext κ) (keys : Dict String κ)
    (groupNames : List String) :
    Gathered ctx keys groupNames (groupNames.foldl (listGroup ctx keys) {}) := by
  induction groupNames using List.reverseRecOn with
  | nil => exact ⟨⟨List.nodup_nil, by simp⟩, by simp, fun g => by simp [Dict.get?_empty]⟩
  | append_singleton groupNames groupName ih =>
    rw [List.foldl_append, List.foldl_cons, List.foldl_nil]
    exact ih.listGroup groupName

end Page

section Rounds

open GroupMembersDAO

variable {κ : Type} {ctx : GroupMembersContext κ}

def groupSource (ctx : GroupMembersContext κ) (groupName : String) :
    PageSource (Option κ) (GroupQueryResult κ) where
  fetch key := some (ctx.query groupName key)
  next _ result := result.lastEvaluatedKey.map some

/-- The pages of every group, from its first one to the one without a last key. -/
structure GroupPages (ctx : GroupMembersContext κ) where
  pages : String → List (Option κ × GroupQueryResult κ)
  linked : ∀ groupName, PageSource.Linked (groupSource ctx groupName) none (pages groupName)

namespace GroupPages

variable (table : GroupPages ctx) (groupName : String)

def pageCount : ℕ := (table.pages groupName).length

def members : List String := (table.pages groupName).flatMap (·.2.items)

def items (i : ℕ) : List String := ((table.pages groupName)[i]?.map (·.2.items)).getD []

def startKey (i : ℕ) : Option κ := (table.pages groupName)[i]?.bind Prod.fst

variable {table groupName}

theorem pageCount_pos (table : GroupPages ctx) (groupName : String) :
    0 < table.pageCount groupName := by
  obtain ⟨_, _, h, -⟩ := (table.linked groupName).exists_cons
  simp [pageCount, h]

theorem mem_members_iff {u : String} : u ∈ table.members groupName ↔
    ∃ i < table.pageCount groupName, u ∈ table.items groupName i := by
  rw [members, List.mem_flatMap]
  constructor
  · rintro ⟨page, hpage, hu⟩
    obtain ⟨i, hi⟩ := List.mem_iff_getElem?.mp hpage
    refine ⟨i, (List.getElem?_eq_some_iff.mp hi).1, ?_⟩
    rwa [items, hi, Option.map_some, Option.getD_some]
  · rintro ⟨i, hi, hu⟩
    have hpage := List.getElem?_eq_getElem hi
    rw [items, hpage, Option.map_some, Option.getD_some] at hu
    exact ⟨_, List.getElem_mem hi, hu⟩

theorem lt_pageCount_of_mem {u : String} {i : ℕ} (h : u ∈ table.items groupName i) :
    i < table.pageCount groupName := by
  by_contra hge
  rw [items, List.getElem?_eq_none (by simpa [pageCount] using hge)] at h
  cases h

theorem query_startKey {i : ℕ} (hi : i < table.pageCount groupName) :
    (ctx.query groupName (table.startKey groupName i)).items = table.items groupName i ∧
      (ctx.query groupName (table.startKey groupName i)).lastEvaluatedKey =
        table.startKey groupName (i + 1) := by
  have hpage := List.getElem?_eq_getElem hi
  obtain ⟨hfetch, hnext⟩ := (table.linked groupName).of_getElem? hpage
  have hstart : table.startKey groupName i = (table.pages groupName)[i].1 := by
    rw [startKey, hpage, Option.bind_some]
  have hquery :
      ctx.query groupName (table.startKey groupName i) = (table.pages groupName)[i].2 := by
    rw [hstart]
    exact Option.some.inj hfetch
  refine ⟨by rw [hquery, items, hpage]; rfl, ?_⟩
  change (table.pages groupName)[i].2.lastEvaluatedKey.map some = _ at hnext
  rw [hquery, startKey]
  cases hkey : (table.pages groupName)[i].2.lastEvaluatedKey with
  | none =>
    rw [hkey, Option.map_none, eq_comm, Option.map_eq_none_iff] at hnext
    rw [hnext, Option.bind_none]
  | some key =>
    rw [hkey, Option.map_some, eq_comm, Option.map_eq_some_iff] at hnext
    obtain ⟨next, hnext, hfst⟩ := hnext
    rw [hnext, Option.bind_some, hfst]

theorem startKey_zero : table.startKey groupName 0 = none := by
  obtain ⟨_, _, h, -⟩ := (table.linked groupName).exists_cons
  rw [startKey, h]
  rfl

theorem startKey_pageCount : table.startKey groupName (table.pageCount groupName) = none := by
  rw [startKey, pageCount, List.getElem?_eq_none le_rfl, Option.bind_none]

theorem startKey_eq_none_iff {i : ℕ} (hi : i < table.pageCount groupName) :
    table.startKey groupName i = none ↔ i = 0 := by
  refine ⟨fun h => ?_, fun h => h ▸ startKey_zero⟩
  have hnodup := (table.linked groupName).nodup
  obtain ⟨page, rest, hpages, -⟩ := (table.linked groupName).exists_cons
  have hfirst : ((table.pages groupName).map Prod.fst)[0]? = some none := by
    rw [hpages]
    rfl
  have hsame : ((table.pages groupName).map Prod.fst)[i]? = some none := by
    have hpage := List.getElem?_eq_getElem hi
    rw [startKey, hpage, Option.bind_some] at h
    rw [List.getElem?_map, hpage, Option.map_some, h]
  have hlt : i < ((table.pages groupName).map Prod.fst).length := by
    rw [List.length_map]
    exact hi
  exact (List.getElem?_inj hlt hnodup).mp (hsame.trans hfirst.symm)

theorem startKey_succ_mod (i : ℕ) :
    table.startKey groupName (i % table.pageCount groupName + 1) =
      table.startKey groupName ((i + 1) % table.pageCount groupName) := by
  have hlt := Nat.mod_lt i (pageCount_pos table groupName)
  rw [← Nat.mod_add_mod]
  rcases Nat.lt_or_ge (i % table.pageCount groupName + 1) (table.pageCount groupName) with h | h
  · rw [Nat.mod_eq_of_lt h]
  · have hend : i % table.pageCount groupName + 1 = table.pageCount groupName := by omega
    rw [hend, Nat.mod_self, startKey_pageCount, startKey_zero]

end GroupPages

variable (table : GroupPages ctx) (groupNames : List String)

def keysAt (ctx : GroupMembersContext κ) (groupNames : List String) : ℕ → Dict String κ
  | 0 => ∅
  | i + 1 => (groupNames.foldl (listGroup ctx (keysAt ctx groupNames i)) {}).lastEvaluatedKeys

def cursorAt (ctx : GroupMembersContext κ) (groupNames : List String) (i : ℕ) :
    Option (Cursor κ) :=
  responseCursor (keysAt ctx groupNames i)

def resultAt (ctx : GroupMembersContext κ) (groupNames : List String) (i : ℕ) :
    ListUsersInGroupResult κ where
  listing := (groupNames.foldl (listGroup ctx (keysAt ctx groupNames i)) {}).users
  cursor := cursorAt ctx groupNames (i + 1)

theorem getD_responseCursor (keys : Dict String κ) : (responseCursor keys).getD ∅ = keys := by
  unfold responseCursor
  split
  · rename_i hkeys
    exact Dict.ext (List.map_eq_nil_iff.mp hkeys).symm
  · rfl

theorem listUsersInGroup_cursorAt (hne : groupNames ≠ []) (i : ℕ) :
    listUsersInGroup ctx groupNames (cursorAt ctx groupNames i) =
      .ok (resultAt ctx groupNames i) := by
  rw [listUsersInGroup, if_neg hne, cursorAt, getD_responseCursor]
  rfl

theorem get?_keysAt (i : ℕ) : ∀ g ∈ groupNames, (keysAt ctx groupNames i).get? g =
    table.startKey g (i % table.pageCount g) := by
  induction i with
  | zero =>
    intro g _
    rw [Nat.zero_mod, GroupPages.startKey_zero]
    rfl
  | succ i ih =>
    intro g hg
    have hgathered := gathered_foldl ctx (keysAt ctx groupNames i) groupNames
    rw [keysAt, hgathered.lastKeys g, if_pos hg, ih g hg,
      (GroupPages.query_startKey (Nat.mod_lt i (GroupPages.pageCount_pos table g))).2,
      GroupPages.startKey_succ_mod]

theorem get?_keysAt_of_not_mem (ctx : GroupMembersContext κ) (i : ℕ) {g : String}
    (hg : g ∉ groupNames) : (keysAt ctx groupNames i).get? g = none := by
  cases i with
  | zero => rfl
  | succ i =>
    rw [keysAt, (gathered_foldl ctx (keysAt ctx groupNames i) groupNames).lastKeys g, if_neg hg]

theorem cursorAt_eq_none_iff (i : ℕ) : cursorAt ctx groupNames i = none ↔
    ∀ g ∈ groupNames, table.pageCount g ∣ i := by
  have hkeys : cursorAt ctx groupNames i = none ↔ (keysAt ctx groupNames i).keys = [] := by
    unfold cursorAt responseCursor
    split <;> simp_all
  have hget : (keysAt ctx groupNames i).keys = [] ↔
      ∀ g, (keysAt ctx groupNames i).get? g = none := by
    simp only [Dict.get?_eq_none, List.eq_nil_iff_forall_not_mem]
  rw [hkeys, hget]
  constructor
  · intro h g hg
    have hstart := h g
    rw [get?_keysAt table groupNames i g hg, GroupPages.startKey_eq_none_iff
      (Nat.mod_lt i (GroupPages.pageCount_pos table g))] at hstart
    exact Nat.dvd_of_mod_eq_zero hstart
  · intro h g
    by_cases hg : g ∈ groupNames
    · rw [get?_keysAt table groupNames i g hg, Nat.mod_eq_zero_of_dvd (h g hg),
        GroupPages.startKey_zero]
    · exact get?_keysAt_of_not_mem groupNames ctx i hg

theorem mem_listing_resultAt (i : ℕ) (u : String) : u ∈ (resultAt ctx groupNames i).listing ↔
    ctx.userExists u = true ∧
      ∃ g ∈ groupNames, u ∈ table.items g (i % table.pageCount g) := by
  have hgathered := gathered_foldl ctx (keysAt ctx groupNames i) groupNames
  have hitems : (∃ g ∈ groupNames, u ∈ (ctx.query g ((keysAt ctx groupNames i).get? g)).items) ↔
      ∃ g ∈ groupNames, u ∈ table.items g (i % table.pageCount g) := by
    refine exists_congr fun g => and_congr_right fun hg => ?_
    rw [get?_keysAt table groupNames i g hg,
      (GroupPages.query_startKey (Nat.mod_lt i (GroupPages.pageCount_pos table g))).1]
  rw [resultAt, hgathered.faithful.mem_iff u, hgathered.met u, hitems, and_comm]

theorem nodup_listing_resultAt (ctx : GroupMembersContext κ) (i : ℕ) :
    (resultAt ctx groupNames i).listing.Nodup :=
  (gathered_foldl ctx (keysAt ctx groupNames i) groupNames).faithful.nodup

def rounds : ℕ := groupNames.toFinset.lcm table.pageCount

theorem rounds_pos : 0 < rounds table groupNames := by
  refine Nat.pos_of_ne_zero fun hzero => ?_
  obtain ⟨g, -, hg⟩ := Finset.lcm_eq_zero_iff.mp hzero
  exact (GroupPages.pageCount_pos table g).ne' hg

theorem rounds_dvd_iff {i : ℕ} :
    rounds table groupNames ∣ i ↔ ∀ g ∈ groupNames, table.pageCount g ∣ i := by
  simp [rounds, Finset.lcm_dvd_iff]

def listingSource (ctx : GroupMembersContext κ) (groupNames : List String) :
    PageSource (Option (Cursor κ)) (ListUsersInGroupResult κ) where
  fetch cursor := (listUsersInGroup ctx groupNames cursor).toOption
  next _ result := result.cursor.map some

theorem linked_listing (hne : groupNames ≠ []) :
    PageSource.Linked (listingSource ctx groupNames) none
      ((List.range (rounds table groupNames)).map fun i =>
        (cursorAt ctx groupNames i, resultAt ctx groupNames i)) := by
  obtain ⟨n, hn⟩ := Nat.exists_eq_succ_of_ne_zero (rounds_pos table groupNames).ne'
  have hend : ∀ i, cursorAt ctx groupNames (i + 1) = none ↔ n + 1 ∣ i + 1 := by
    intro i
    rw [cursorAt_eq_none_iff table, ← rounds_dvd_iff, hn]
  have hstart : cursorAt ctx groupNames 0 = none := rfl
  rw [hn, ← hstart]
  refine PageSource.linked_of_range (fun i _ => ?_) (fun i hi => ?_) ?_
  · change (listUsersInGroup ctx groupNames (cursorAt ctx groupNames i)).toOption = _
    rw [listUsersInGroup_cursorAt groupNames hne]
    rfl
  · change (cursorAt ctx groupNames (i + 1)).map some = _
    cases hcursor : cursorAt ctx groupNames (i + 1) with
    | none => exact absurd (Nat.le_of_dvd (Nat.succ_pos i) ((hend i).mp hcursor)) (by omega)
    | some cursor => rfl
  · change (cursorAt ctx groupNames (n + 1)).map some = none
    rw [(hend n).mpr dvd_rfl]
    rfl

/-- Following the cursors ends, and lists each user of any of the groups once. -/
def ListsMembersOnce : Prop :=
  ∃ links, PageSource.Linked (listingSource ctx groupNames) none links ∧
    (links.flatMap (·.2.listing)).Nodup ∧
    ∀ u, u ∈ links.flatMap (·.2.listing) ↔
      ctx.userExists u = true ∧ ∃ g ∈ groupNames, u ∈ table.members g

/-- Groups that have users to list end together with all the others, and a user of several of them
is on the same page of each. -/
def InStep : Prop :=
  ∀ g ∈ groupNames, ∀ g' ∈ groupNames, ∀ i i' u, ctx.userExists u = true →
    u ∈ table.items g i → u ∈ table.items g' i' →
      (∀ h ∈ groupNames, table.pageCount h ∣ table.pageCount g) ∧ i = i'

variable {table groupNames}

theorem rounds_eq_of_forall_dvd {g : String} (hg : g ∈ groupNames)
    (h : ∀ g' ∈ groupNames, table.pageCount g' ∣ table.pageCount g) :
    rounds table groupNames = table.pageCount g :=
  Nat.dvd_antisymm (rounds_dvd_iff table groupNames |>.mpr h)
    ((rounds_dvd_iff table groupNames).mp dvd_rfl g hg)

def listing (table : GroupPages ctx) (groupNames : List String) : List String :=
  (List.range (rounds table groupNames)).flatMap fun i => (resultAt ctx groupNames i).listing

theorem mem_listing_iff {u : String} : u ∈ listing table groupNames ↔
    ctx.userExists u = true ∧ ∃ g ∈ groupNames, u ∈ table.members g := by
  simp only [listing, List.mem_flatMap, List.mem_range, mem_listing_resultAt table]
  constructor
  · rintro ⟨i, -, hu, g, hg, hmem⟩
    exact ⟨hu, g, hg, GroupPages.mem_members_iff.mpr
      ⟨_, GroupPages.lt_pageCount_of_mem hmem, hmem⟩⟩
  · rintro ⟨hu, g, hg, hmem⟩
    obtain ⟨i, hi, hitem⟩ := GroupPages.mem_members_iff.mp hmem
    have hle : table.pageCount g ≤ rounds table groupNames :=
      Nat.le_of_dvd (rounds_pos table groupNames)
        ((rounds_dvd_iff table groupNames).mp dvd_rfl g hg)
    exact ⟨i, by omega, hu, g, hg, by rwa [Nat.mod_eq_of_lt hi]⟩

def OnePage (table : GroupPages ctx) (groupNames : List String) : Prop :=
  ∀ i < rounds table groupNames, ∀ i' < rounds table groupNames, ∀ u,
    u ∈ (resultAt ctx groupNames i).listing → u ∈ (resultAt ctx groupNames i').listing → i = i'

theorem nodup_listing_iff : (listing table groupNames).Nodup ↔ OnePage table groupNames := by
  rw [listing, List.nodup_flatMap]
  constructor
  · rintro ⟨-, hdisjoint⟩ i hi i' hi' u hu hu'
    by_contra hne
    have hsymm : Std.Symm (Function.onFun List.Disjoint
        fun i => (resultAt ctx groupNames i).listing) := ⟨fun _ _ h => List.Disjoint.symm h⟩
    exact hdisjoint.forall (List.mem_range.mpr hi) (List.mem_range.mpr hi') hne hu hu'
  · intro h
    refine ⟨fun i _ => nodup_listing_resultAt groupNames ctx i, ?_⟩
    refine List.pairwise_lt_range.imp_of_mem fun {i i'} hi hi' hlt u hu hu' => ?_
    exact absurd (h i (List.mem_range.mp hi) i' (List.mem_range.mp hi') u hu hu') (by omega)

theorem OnePage.inStep (h : OnePage table groupNames) : InStep table groupNames := by
  intro g hg g' hg' i i' u hu hitem hitem'
  have hround : ∀ g ∈ groupNames, table.pageCount g ∣ rounds table groupNames :=
    (rounds_dvd_iff table groupNames).mp dvd_rfl
  have hpos := rounds_pos table groupNames
  have hlt := GroupPages.lt_pageCount_of_mem hitem
  have hlt' := GroupPages.lt_pageCount_of_mem hitem'
  have hle := Nat.le_of_dvd hpos (hround g hg)
  have hle' := Nat.le_of_dvd hpos (hround g' hg')
  have hlisted : ∀ k, k % table.pageCount g = i → u ∈ (resultAt ctx groupNames k).listing :=
    fun k hk => (mem_listing_resultAt table groupNames k u).mpr ⟨hu, g, hg, hk ▸ hitem⟩
  have hlisted' : u ∈ (resultAt ctx groupNames i').listing :=
    (mem_listing_resultAt table groupNames i' u).mpr
      ⟨hu, g', hg', by rwa [Nat.mod_eq_of_lt hlt']⟩
  constructor
  · -- A group that starts again lists the user once more.
    have hsame : rounds table groupNames = table.pageCount g := by
      by_contra hne
      obtain ⟨k, hk⟩ := hround g hg
      have htwo : 2 ≤ k := by
        rcases k with _ | _ | k
        · omega
        · omega
        · omega
      have hroom : table.pageCount g * 2 ≤ rounds table groupNames := by
        rw [hk]
        exact Nat.mul_le_mul_left _ htwo
      have hagain := h i (by omega) (i + table.pageCount g) (by omega) u
        (hlisted i (Nat.mod_eq_of_lt hlt))
        (hlisted _ (by rw [Nat.add_mod_right, Nat.mod_eq_of_lt hlt]))
      omega
    intro g'' hg''
    rw [← hsame]
    exact hround g'' hg''
  · exact h i (by omega) i' (by omega) u (hlisted i (Nat.mod_eq_of_lt hlt)) hlisted'

theorem InStep.onePage (h : InStep table groupNames) : OnePage table groupNames := by
  intro i hi i' hi' u hu hu'
  obtain ⟨hexists, g, hg, hitem⟩ := (mem_listing_resultAt table groupNames i u).mp hu
  obtain ⟨-, g', hg', hitem'⟩ := (mem_listing_resultAt table groupNames i' u).mp hu'
  obtain ⟨hdvd, hsame⟩ := h g hg g' hg' _ _ u hexists hitem hitem'
  obtain ⟨hdvd', -⟩ := h g' hg' g hg _ _ u hexists hitem' hitem
  rw [rounds_eq_of_forall_dvd hg hdvd] at hi
  rw [rounds_eq_of_forall_dvd hg' hdvd'] at hi'
  rwa [Nat.mod_eq_of_lt hi, Nat.mod_eq_of_lt hi'] at hsame

theorem ListsMembersOnce.inStep (h : ListsMembersOnce table groupNames) :
    groupNames ≠ [] ∧ InStep table groupNames := by
  obtain ⟨links, hlinked, hnodup, -⟩ := h
  have hne : groupNames ≠ [] := by
    rintro rfl
    obtain ⟨page, rest, -, hfetch⟩ := hlinked.exists_cons
    cases hfetch
  obtain rfl := hlinked.unique (linked_listing table groupNames hne)
  rw [List.flatMap_map] at hnodup
  exact ⟨hne, (nodup_listing_iff.mp hnodup).inStep⟩

/-- Each user is listed once exactly when the groups go in step. -/
theorem listsMembersOnce_iff (table : GroupPages ctx) (groupNames : List String) :
    ListsMembersOnce table groupNames ↔ groupNames ≠ [] ∧ InStep table groupNames := by
  constructor
  · intro h
    exact h.inStep
  · rintro ⟨hne, h⟩
    refine ⟨_, linked_listing table groupNames hne, ?_, fun u => ?_⟩
    · rw [List.flatMap_map]
      exact nodup_listing_iff.mpr h.onePage
    · rw [List.flatMap_map]
      exact mem_listing_iff

end Rounds

def twoGroups : GroupMembersContext String where
  query groupName key :=
    if groupName = "a" then
      match key with
      | none => ⟨["u", "v"], some "v"⟩
      | some _ => ⟨["w"], none⟩
    else if groupName = "b" then ⟨["x"], none⟩
    else ⟨[], none⟩
  userExists _ := true

def twoGroupPages : GroupPages twoGroups where
  pages groupName :=
    if groupName = "a" then [(none, ⟨["u", "v"], some "v"⟩), (some "v", ⟨["w"], none⟩)]
    else [(none, twoGroups.query groupName none)]
  linked groupName := by
    by_cases ha : groupName = "a"
    · subst ha
      exact .link rfl rfl (.last rfl rfl)
    · rw [if_neg ha]
      refine .last rfl ?_
      by_cases hb : groupName = "b"
      · subst hb
        rfl
      · simp [groupSource, twoGroups, ha, hb]

theorem not_listsMembersOnce_two : ¬ ListsMembersOnce twoGroupPages ["a", "b"] := by
  intro h
  obtain ⟨-, hstep⟩ := h.inStep
  have hx : "x" ∈ twoGroupPages.items "b" 0 := by decide +kernel
  have hdvd := (hstep "b" (by simp) "b" (by simp) 0 0 "x" rfl hx hx).1 "a" (by simp)
  revert hdvd
  decide +kernel

end Idea

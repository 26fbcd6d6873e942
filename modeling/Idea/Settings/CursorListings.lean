import Idea.Settings.StoredValues

/-! # Listings of tables

A scan of a table ends where a page is full, and says the key after which it has to go on. Users,
groups and projects are listed page by page, and the key goes through a cursor that the client sends
back. The entries of the configuration are read and deleted in loops.
-/

namespace Idea.CursorListings

/-- How a scan of a table splits into pages. Every page but the last has the key of its end. -/
structure Paged (Item Key : Type) where
  pages : List (List Item × Key)
  lastPage : List Item

inductive Param (Key Filter : Type) where
  | key (k : Key)
  | filter (f : Filter)
  | text (s : String)

structure Page (Item Key : Type) where
  items : List Item
  lastEvaluatedKey : Option Key

variable {Item Key Filter Listed : Type} [DecidableEq Key]

def Paged.items (table : Paged Item Key) : List Item :=
  table.pages.flatMap Prod.fst ++ table.lastPage

def firstPage (lastPage : List Item) : List (List Item × Key) → Page Item Key
  | [] => ⟨lastPage, none⟩
  | (items, k) :: _ => ⟨items, some k⟩

def pageAfter (lastPage : List Item) (key : Key) : List (List Item × Key) → Page Item Key
  | [] => ⟨[], none⟩
  | (_, k) :: pages => if k = key then firstPage lastPage pages else pageAfter lastPage key pages

def SCAN_PARAMETERS : List String :=
  ["IndexName", "AttributesToGet", "Limit", "Select", "ScanFilter", "ConditionalOperator",
    "ExclusiveStartKey", "ReturnConsumedCapacity", "TotalSegments", "Segment",
    "ProjectionExpression", "FilterExpression", "ExpressionAttributeNames",
    "ExpressionAttributeValues", "ConsistentRead"]

/-- A scan goes on after the key that it is given, and a filter leaves out items of the page. -/
def Paged.scan (table : Paged Item Key) (keeps : Filter → Item → Bool)
    (request : Dict String (Param Key Filter)) : Except Raised (Page Item Key) :=
  if request.keys.any fun name => !SCAN_PARAMETERS.contains name then .error .external
  else
    let page :=
      match request.get? "ExclusiveStartKey" with
      | some (.key k) => pageAfter table.lastPage k table.pages
      | _ => firstPage table.lastPage table.pages
    .ok
      { page with
        items := match request.get? "ScanFilter" with
          | some (.filter f) => page.items.filter (keeps f)
          | _ => page.items }

structure SocaFilter where
  key : String
  eq : Option String
  like : Option String

inductive ComparisonOperator where
  | EQ
  | CONTAINS
  deriving DecidableEq

abbrev ScanFilter : Type := Dict String (ComparisonOperator × String)

structure ListRequest where
  cursor : Option String
  filters : Option (List SocaFilter)

structure ListResult (Listed : Type) where
  listing : List Listed
  cursor : Option String

/-- How keys are put into cursors and taken out of them. -/
structure CursorCodec (Key : Type) where
  encode : Key → String
  decode : String → Except Raised Key
  decode_encode : ∀ k, decode (encode k) = .ok k
  encode_nonblank : ∀ k, isEmptyString (some (encode k)) = false

def addFilter (scanFilter : ScanFilter) (filter : SocaFilter) : ScanFilter :=
  let scanFilter := match filter.eq with
    | none => scanFilter
    | some value => scanFilter.set filter.key (.EQ, value)
  match filter.like with
  | none => scanFilter
  | some value => scanFilter.set filter.key (.CONTAINS, value)

def scanFilter (filters : Option (List SocaFilter)) : Option ScanFilter :=
  match filters with
  | none => none
  | some [] => none
  | some filters => some (filters.foldl addFilter ∅)

def lastEvaluatedKey (codec : CursorCodec Key) (request : ListRequest) :
    Except Raised (Option Key) :=
  if isEmptyString request.cursor then .ok none
  else do
    let key ← codec.decode (request.cursor.getD "")
    pure (some key)

def scanRequest (lastEvaluatedKey : Option Key) (filters : Option (List SocaFilter)) :
    Dict String (Param Key ScanFilter) :=
  let request : Dict String (Param Key ScanFilter) := match lastEvaluatedKey with
    | none => ∅
    | some k => Dict.empty.set "LastEvaluatedKey" (.key k)
  match scanFilter filters with
  | none => request
  | some f => request.set "ScanFilter" (.filter f)

def listPage (codec : CursorCodec Key) (convertFromDb : Item → Except Raised Listed)
    (keeps : ScanFilter → Item → Bool) (table : Paged Item Key) (request : ListRequest) :
    Except Raised (ListResult Listed) := do
  let lastEvaluatedKey ← lastEvaluatedKey codec request
  let page ← table.scan keeps (scanRequest lastEvaluatedKey request.filters)
  let listing ← page.items.mapM convertFromDb
  pure ⟨listing, page.lastEvaluatedKey.map codec.encode⟩

def follow (list : ListRequest → Except Raised (ListResult Listed)) :
    ℕ → ListRequest → Option (Except Raised (List Listed))
  | 0, _ => none
  | fuel + 1, request =>
    match list request with
    | .error e => some (.error e)
    | .ok result =>
      match result.cursor with
      | none => some (.ok result.listing)
      | some cursor =>
        (follow list fuel { request with cursor := some cursor }).map
          fun rest => rest.map (result.listing ++ ·)

def readTime (timeOf : ℤ → Except Raised DateTime) (value : Option ℤ) :
    Except Raised (Option DateTime) :=
  match value with
  | none => .ok none
  | some t => some <$> timeOf t

def nonemptyList (value : Option (List String)) : Option (List String) := value.filter (· ≠ [])

structure DbUser where
  username : Option String
  email : Option String
  uid : Option ℤ
  gid : Option ℤ
  groupName : Option String
  loginShell : Option String
  homeDir : Option String
  sudoUser : Option Bool
  enabled : Option Bool
  passwordLastSet : Option ℤ
  passwordMaxAge : Option ℤ
  additionalGroups : Option (List String)
  createdOn : Option ℤ
  updatedOn : Option ℤ

structure User where
  username : Option String
  email : Option String
  uid : Option ℤ
  gid : Option ℤ
  groupName : Option String
  loginShell : Option String
  homeDir : Option String
  sudoUser : Option Bool
  enabled : Option Bool
  passwordLastSet : Option DateTime
  passwordMaxAge : Option ℚ
  additionalGroups : Option (List String)
  createdOn : Option DateTime
  updatedOn : Option DateTime

/-- `UserDAO.convert_from_db`. -/
def userFromDb (timeOf : ℤ → Except Raised DateTime) (user : DbUser) : Except Raised User := do
  let passwordLastSet ← readTime timeOf user.passwordLastSet
  let createdOn ← readTime timeOf user.createdOn
  let updatedOn ← readTime timeOf user.updatedOn
  pure
    { username := user.username.bind getAsString
      email := user.email.bind getAsString
      uid := user.uid
      gid := user.gid
      groupName := user.groupName.bind getAsString
      loginShell := user.loginShell.bind getAsString
      homeDir := user.homeDir.bind getAsString
      sudoUser := user.sudoUser
      enabled := user.enabled
      passwordLastSet
      passwordMaxAge := user.passwordMaxAge.map fun days => (days : ℚ)
      additionalGroups := nonemptyList user.additionalGroups
      createdOn
      updatedOn }

structure DbGroup where
  groupName : Option String
  dsName : Option String
  gid : Option ℤ
  title : Option String
  description : Option String
  enabled : Option Bool
  groupType : Option String
  createdOn : Option ℤ
  updatedOn : Option ℤ

structure Group where
  name : Option String
  dsName : Option String
  gid : Option ℤ
  title : Option String
  description : Option String
  enabled : Option Bool
  groupType : Option String
  createdOn : Option DateTime
  updatedOn : Option DateTime

/-- `GroupDAO.convert_from_db`. -/
def groupFromDb (timeOf : ℤ → Except Raised DateTime) (group : DbGroup) : Except Raised Group := do
  let createdOn ← readTime timeOf group.createdOn
  let updatedOn ← readTime timeOf group.updatedOn
  pure
    { name := group.groupName.bind getAsString
      dsName := group.dsName.bind getAsString
      gid := group.gid
      title := group.title.bind getAsString
      description := group.description.bind getAsString
      enabled := group.enabled
      groupType := group.groupType.bind getAsString
      createdOn
      updatedOn }

structure DbProject where
  projectId : Option String
  name : Option String
  title : Option String
  description : Option String
  ldapGroups : Option (List String)
  enabled : Option Bool
  enableBudgets : Option Bool
  budgetName : Option String
  tags : Option (Dict String String)
  createdOn : Option ℤ
  updatedOn : Option ℤ

structure Project where
  projectId : Option String
  name : Option String
  title : Option String
  description : Option String
  ldapGroups : List String
  enabled : Bool
  enableBudgets : Bool
  budgetName : Option String
  tags : Option (List (String × String))
  createdOn : DateTime
  updatedOn : DateTime

/-- `arrow.get`, which takes no `None`. -/
def arrowGet (value : Option ℤ) : Except Raised DateTime :=
  match value with
  | none => .error .typeError
  | some t => DateTime.ofTimestamp t

/-- `ProjectsDAO.convert_from_db`. -/
def projectFromDb (project : DbProject) : Except Raised Project := do
  let createdOn ← arrowGet project.createdOn
  let updatedOn ← arrowGet project.updatedOn
  pure
    { projectId := project.projectId.bind getAsString
      name := project.name.bind getAsString
      title := project.title.bind getAsString
      description := project.description.bind getAsString
      ldapGroups := (nonemptyList project.ldapGroups).getD []
      enabled := project.enabled.getD false
      enableBudgets := project.enableBudgets.getD false
      budgetName := project.budgetName.bind getAsString
      tags := (project.tags.map Dict.entries).filter (· ≠ [])
      createdOn
      updatedOn }

section Members

variable (codec : CursorCodec Key) (timeOf : ℤ → Except Raised DateTime)

def listUsers (keeps : ScanFilter → DbUser → Bool) (table : Paged DbUser Key) :
    ListRequest → Except Raised (ListResult User) :=
  listPage codec (userFromDb timeOf) keeps table

def listGroups (keeps : ScanFilter → DbGroup → Bool) (table : Paged DbGroup Key) :
    ListRequest → Except Raised (ListResult Group) :=
  listPage codec (groupFromDb timeOf) keeps table

def listProjects (keeps : ScanFilter → DbProject → Bool) (table : Paged DbProject Key) :
    ListRequest → Except Raised (ListResult Project) :=
  listPage codec projectFromDb keeps table

end Members

open Settings

/-- An entry as it is read, with the converted value. -/
structure ConfigItem where
  key : String
  value : PyValue
  source : Option String
  version : Option ℤ

def entryValue (stored : Option Attribute) : Except Raised PyValue :=
  match stored with
  | none => .ok .none
  | some stored => checkAndConvertDecimalValue (deserialize stored)

/-- `post_process_ddb_config_entry`. A version is a whole number and stays one. -/
def postProcess (item : String × ConfigEntry) : Except Raised ConfigItem := do
  let value ← entryValue item.2.value
  pure ⟨item.1, value, item.2.source, item.2.version⟩

def scanLoop {α : Type} (table : Paged Item Key)
    (scanRequest : Option Key → Dict String (Param Key Empty))
    (read : Item → Except Raised (Option α)) : ℕ → Option Key → List α →
      Option (Except Raised (List α))
  | 0, _, _ => none
  | fuel + 1, lastEvaluatedKey, found =>
    match table.scan (fun _ _ => true) (scanRequest lastEvaluatedKey) with
    | .error e => some (.error e)
    | .ok page =>
      match page.items.mapM read with
      | .error e => some (.error e)
      | .ok items =>
        let found := found ++ items.reduceOption
        match page.lastEvaluatedKey with
        | none => some (.ok found)
        | some key => scanLoop table scanRequest read fuel (some key) found

def withLastKey (lastEvaluatedKey : Option Key) (request : Dict String (Param Key Empty)) :
    Dict String (Param Key Empty) :=
  match lastEvaluatedKey with
  | none => request
  | some k => request.set "LastEvaluatedKey" (.key k)

def entriesRequest (lastEvaluatedKey : Option Key) : Dict String (Param Key Empty) :=
  withLastKey lastEvaluatedKey (Dict.empty.set "ReturnConsumedCapacity" (.text "TOTAL"))

def deletionRequest (lastEvaluatedKey : Option Key) : Dict String (Param Key Empty) :=
  withLastKey lastEvaluatedKey ∅

def patternOf (compile : String → Except String (String → Bool)) (query : Option String) :
    Except Raised (Option (String → Bool)) :=
  if isEmptyString query then .ok none
  else
    match compile (query.getD "") with
    | .ok pattern => .ok (some pattern)
    | .error e =>
      .error (invalidParams ("invalid search regex: " ++ query.getD "" ++ " - " ++ e))

/-- `pattern.match` of a key that may be blank. -/
def matchKey (pattern : Option (String → Bool)) (key : Option String) : Except Raised Bool :=
  match pattern, key with
  | none, _ => .ok true
  | some pattern, some key => .ok (pattern key)
  | some _, none => .error .typeError

def readEntry (pattern : Option (String → Bool)) (item : String × ConfigEntry) :
    Except Raised (Option ConfigItem) := do
  let entry ← postProcess item
  let matched ← matchKey pattern (getAsString item.1)
  pure (if matched then some entry else none)

def sortByKey (entries : List ConfigItem) : List ConfigItem :=
  entries.mergeSort fun entry entry' => entry.key ≤ entry'.key

def getConfigEntries (compile : String → Except String (String → Bool))
    (table : Paged (String × ConfigEntry) Key) (query : Option String) (fuel : ℕ) :
    Option (Except Raised (List ConfigItem)) :=
  match patternOf compile query with
  | .error e => some (.error e)
  | .ok pattern =>
    (scanLoop table entriesRequest (readEntry pattern) fuel none []).map fun found =>
      found.map sortByKey

def readPrefixed ( keyPrefix : String) (item : String × ConfigEntry) :
    Except Raised (Option (String × ConfigEntry)) :=
  match getAsString item.1 with
  | none => .error .attributeError
  | some key => .ok (if keyPrefix.toList.isPrefixOf key.toList then some item else none)

def deleteConfigEntries (table : Paged (String × ConfigEntry) Key) (configKeyPrefix : String)
    (fuel : ℕ) : Option (Except Raised (List String)) :=
  if isEmptyString (some configKeyPrefix) then
    some (.error (invalidParams "config_key_prefix is required"))
  else
    (scanLoop table deletionRequest (readPrefixed configKeyPrefix) fuel none []).map fun found =>
      found.map fun items => items.map Prod.fst

theorem scan_of_known {table : Paged Item Key} {keeps : Filter → Item → Bool}
    {request : Dict String (Param Key Filter)}
    (hknown : (request.keys.any fun name => !SCAN_PARAMETERS.contains name) = false)
    (hstart : request.get? "ExclusiveStartKey" = none) :
    table.scan keeps request = .ok
      { firstPage table.lastPage table.pages with
        items := match request.get? "ScanFilter" with
          | some (.filter f) => (firstPage table.lastPage table.pages).items.filter (keeps f)
          | _ => (firstPage table.lastPage table.pages).items } := by
  rw [Paged.scan, hknown, if_neg Bool.false_ne_true, hstart]

theorem scan_of_lastEvaluatedKey {table : Paged Item Key} {keeps : Filter → Item → Bool}
    {request : Dict String (Param Key Filter)} (h : "LastEvaluatedKey" ∈ request.keys) :
    table.scan keeps request = .error .external := by
  have hany : (request.keys.any fun name => !SCAN_PARAMETERS.contains name) = true :=
    List.any_eq_true.mpr ⟨_, h, by decide⟩
  rw [Paged.scan, if_pos hany]

def passes (keeps : ScanFilter → Item → Bool) (filters : Option (List SocaFilter)) (item : Item) :
    Bool :=
  match scanFilter filters with
  | none => true
  | some f => keeps f item

theorem scan_scanRequest_none (table : Paged Item Key) (keeps : ScanFilter → Item → Bool)
    (filters : Option (List SocaFilter)) :
    table.scan keeps (scanRequest none filters) = .ok
      { firstPage table.lastPage table.pages with
        items := (firstPage table.lastPage table.pages).items.filter (passes keeps filters) } := by
  unfold scanRequest passes
  cases scanFilter filters with
  | none =>
    rw [scan_of_known rfl rfl]
    simp
  | some f =>
    have hknown : ((Dict.empty.set "ScanFilter" (Param.filter f) :
        Dict String (Param Key ScanFilter)).keys.any
          fun name => !SCAN_PARAMETERS.contains name) = false := by
      change (["ScanFilter"].any fun name => !SCAN_PARAMETERS.contains name) = false
      decide
    exact scan_of_known hknown rfl

theorem scan_scanRequest_some (table : Paged Item Key) (keeps : ScanFilter → Item → Bool)
    (filters : Option (List SocaFilter)) (k : Key) :
    table.scan keeps (scanRequest (some k) filters) = .error .external := by
  refine scan_of_lastEvaluatedKey ?_
  unfold scanRequest
  cases scanFilter filters with
  | none => exact List.mem_singleton.mpr rfl
  | some f => exact Dict.mem_keys_set.mpr (.inr (List.mem_singleton.mpr rfl))

/-- A listing that follows the cursors ends, and has each item that passes the filters once. -/
def ListsAll (list : ListRequest → Except Raised (ListResult Listed))
    (convertFromDb : Item → Except Raised Listed) (keeps : ScanFilter → Item → Bool)
    (table : Paged Item Key) (filters : Option (List SocaFilter)) : Prop :=
  ∃ fuel listing, follow list fuel ⟨none, filters⟩ = some (.ok listing) ∧
    (table.items.filter (passes keeps filters)).mapM convertFromDb = .ok listing

/-- The whole table is one page, and its items can be converted. -/
def OnePage (convertFromDb : Item → Except Raised Listed) (keeps : ScanFilter → Item → Bool)
    (table : Paged Item Key) (filters : Option (List SocaFilter)) : Prop :=
  table.pages = [] ∧
    ∃ listing, (table.items.filter (passes keeps filters)).mapM convertFromDb = .ok listing

theorem listPage_first (codec : CursorCodec Key) (convertFromDb : Item → Except Raised Listed)
    (keeps : ScanFilter → Item → Bool) (table : Paged Item Key)
    (filters : Option (List SocaFilter)) :
    listPage codec convertFromDb keeps table ⟨none, filters⟩ =
      ((firstPage table.lastPage table.pages).items.filter (passes keeps filters)).mapM
        convertFromDb >>= fun listing =>
          pure ⟨listing, (firstPage table.lastPage table.pages).lastEvaluatedKey.map codec.encode⟩ := by
  have hnone : lastEvaluatedKey codec ⟨none, filters⟩ = .ok none := rfl
  rw [listPage, hnone, Raised.ok_bind, scan_scanRequest_none, Raised.ok_bind]

theorem listPage_next (codec : CursorCodec Key) (convertFromDb : Item → Except Raised Listed)
    (keeps : ScanFilter → Item → Bool) (table : Paged Item Key)
    (filters : Option (List SocaFilter)) (k : Key) :
    listPage codec convertFromDb keeps table ⟨some (codec.encode k), filters⟩ =
      .error .external := by
  have hkey : lastEvaluatedKey codec ⟨some (codec.encode k), filters⟩ = .ok (some k) := by
    rw [lastEvaluatedKey, codec.encode_nonblank, if_neg Bool.false_ne_true, Option.getD_some,
      codec.decode_encode]
    rfl
  rw [listPage, hkey, Raised.ok_bind, scan_scanRequest_some]
  rfl

theorem listsAll_listPage_iff (codec : CursorCodec Key)
    (convertFromDb : Item → Except Raised Listed) (keeps : ScanFilter → Item → Bool)
    (table : Paged Item Key) (filters : Option (List SocaFilter)) :
    ListsAll (listPage codec convertFromDb keeps table) convertFromDb keeps table filters ↔
      OnePage convertFromDb keeps table filters := by
  obtain ⟨pages, lastPage⟩ := table
  cases pages with
  | nil =>
    have hitems : (⟨[], lastPage⟩ : Paged Item Key).items = lastPage := rfl
    constructor
    · rintro ⟨_, listing, -, hlisting⟩
      exact ⟨rfl, listing, hlisting⟩
    · rintro ⟨-, listing, hlisting⟩
      refine ⟨1, listing, ?_, hlisting⟩
      rw [hitems] at hlisting
      rw [follow, listPage_first, firstPage, hlisting]
      rfl
  | cons page pages =>
    obtain ⟨items, k⟩ := page
    refine iff_of_false ?_ fun h => List.cons_ne_nil _ _ h.1
    rintro ⟨fuel, listing, hfollow, -⟩
    cases fuel with
    | zero => cases hfollow
    | succ fuel =>
      rw [follow, listPage_first, firstPage] at hfollow
      cases hfirst : (items.filter (passes keeps filters)).mapM convertFromDb with
      | error e =>
        rw [hfirst] at hfollow
        cases hfollow
      | ok first =>
        rw [hfirst, Raised.ok_bind] at hfollow
        cases fuel with
        | zero => cases hfollow
        | succ fuel =>
          have hnext : follow (listPage codec convertFromDb keeps ⟨(items, k) :: pages, lastPage⟩)
              (fuel + 1) ⟨some (codec.encode k), filters⟩ = some (.error .external) := by
            rw [follow, listPage_next]
          change (follow _ (fuel + 1) ⟨some (codec.encode k), filters⟩).map _ = _ at hfollow
          rw [hnext] at hfollow
          cases hfollow

theorem scanLoop_ok_iff {α : Type} {table : Paged Item Key}
    {scanRequest : Option Key → Dict String (Param Key Empty)}
    (read : Item → Except Raised (Option α))
    (hfirst : table.scan (fun _ _ => true) (scanRequest none) =
      .ok (firstPage table.lastPage table.pages))
    (hnext : ∀ k, "LastEvaluatedKey" ∈ (scanRequest (some k)).keys) (found : List α) :
    (∃ fuel, scanLoop table scanRequest read fuel none [] = some (.ok found)) ↔
      table.pages = [] ∧ ∃ items, table.items.mapM read = .ok items ∧ found = items.reduceOption := by
  constructor
  · rintro ⟨fuel, h⟩
    cases fuel with
    | zero => cases h
    | succ fuel =>
      rw [scanLoop, hfirst] at h
      dsimp only at h
      cases hitems : (firstPage table.lastPage table.pages).items.mapM read with
      | error e =>
        rw [hitems] at h
        cases h
      | ok items =>
        rw [hitems] at h
        obtain ⟨pages, lastPage⟩ := table
        cases pages with
        | nil =>
          obtain rfl := Except.ok.inj (Option.some.inj h)
          exact ⟨rfl, items, hitems, List.nil_append _⟩
        | cons page pages =>
          change scanLoop _ scanRequest read fuel (some page.2) _ = _ at h
          cases fuel with
          | zero => cases h
          | succ fuel =>
            rw [scanLoop, scan_of_lastEvaluatedKey (hnext page.2)] at h
            cases h
  · rintro ⟨hpages, items, hitems, rfl⟩
    obtain ⟨pages, lastPage⟩ := table
    obtain rfl : pages = [] := hpages
    refine ⟨1, ?_⟩
    have hpage : lastPage.mapM read = .ok items := hitems
    rw [scanLoop, hfirst]
    simp only [firstPage, hpage]
    rfl

omit [DecidableEq Key] in
theorem mem_withLastKey (request : Dict String (Param Key Empty)) (k : Key) :
    "LastEvaluatedKey" ∈ (withLastKey (some k) request).keys :=
  Dict.mem_keys_set.mpr (.inl rfl)

theorem scan_entriesRequest (table : Paged Item Key) :
    table.scan (fun _ _ => true) (entriesRequest none) =
      .ok (firstPage table.lastPage table.pages) := by
  have hknown : ((entriesRequest none : Dict String (Param Key Empty)).keys.any
      fun name => !SCAN_PARAMETERS.contains name) = false := by
    change (["ReturnConsumedCapacity"].any fun name => !SCAN_PARAMETERS.contains name) = false
    decide
  exact scan_of_known hknown rfl

theorem scan_deletionRequest (table : Paged Item Key) :
    table.scan (fun _ _ => true) (deletionRequest none) =
      .ok (firstPage table.lastPage table.pages) := scan_of_known rfl rfl

def ReturnsAll (compile : String → Except String (String → Bool))
    (table : Paged (String × ConfigEntry) Key) (query : Option String) : Prop :=
  ∃ fuel entries, getConfigEntries compile table query fuel = some (.ok entries) ∧
    ∃ pattern items, patternOf compile query = .ok pattern ∧
      table.items.mapM (readEntry pattern) = .ok items ∧ entries.Perm items.reduceOption

def DeletesAll (table : Paged (String × ConfigEntry) Key) (configKeyPrefix : String) : Prop :=
  ∃ fuel deleted, deleteConfigEntries table configKeyPrefix fuel = some (.ok deleted) ∧
    ∃ items, table.items.mapM (readPrefixed configKeyPrefix) = .ok items ∧
      deleted = items.reduceOption.map Prod.fst

theorem returnsAll_iff (compile : String → Except String (String → Bool))
    (table : Paged (String × ConfigEntry) Key) (query : Option String) :
    ReturnsAll compile table query ↔ table.pages = [] ∧
      ∃ pattern items, patternOf compile query = .ok pattern ∧
        table.items.mapM (readEntry pattern) = .ok items := by
  have hloop (pattern : Option (String → Bool)) := scanLoop_ok_iff (readEntry pattern)
    (scan_entriesRequest table) (fun k => mem_withLastKey _ k)
  constructor
  · rintro ⟨fuel, entries, hentries, pattern, items, hpattern, hitems, -⟩
    rw [getConfigEntries, hpattern, Option.map_eq_some_iff] at hentries
    obtain ⟨found, hfound, hsorted⟩ := hentries
    cases found with
    | error e => cases hsorted
    | ok found =>
      obtain ⟨hpages, -⟩ := (hloop pattern found).mp ⟨fuel, hfound⟩
      exact ⟨hpages, pattern, items, hpattern, hitems⟩
  · rintro ⟨hpages, pattern, items, hpattern, hitems⟩
    obtain ⟨fuel, hfound⟩ := (hloop pattern items.reduceOption).mpr ⟨hpages, items, hitems, rfl⟩
    refine ⟨fuel, sortByKey items.reduceOption, ?_, pattern, items, hpattern, hitems,
      List.mergeSort_perm _ _⟩
    rw [getConfigEntries, hpattern]
    dsimp only
    rw [hfound]
    rfl

theorem deletesAll_iff (table : Paged (String × ConfigEntry) Key) (configKeyPrefix : String) :
    DeletesAll table configKeyPrefix ↔ table.pages = [] ∧
      isEmptyString (some configKeyPrefix) = false ∧
      ∃ items, table.items.mapM (readPrefixed configKeyPrefix) = .ok items := by
  have hloop := scanLoop_ok_iff (readPrefixed configKeyPrefix)
    (scan_deletionRequest table) (fun k => mem_withLastKey _ k)
  constructor
  · rintro ⟨fuel, deleted, hdeleted, items, hitems, -⟩
    rw [deleteConfigEntries] at hdeleted
    split at hdeleted
    · cases hdeleted
    · next hprefix =>
      rw [Option.map_eq_some_iff] at hdeleted
      obtain ⟨found, hfound, hkeys⟩ := hdeleted
      cases found with
      | error e => cases hkeys
      | ok found =>
        obtain ⟨hpages, -⟩ := (hloop found).mp ⟨fuel, hfound⟩
        exact ⟨hpages, Bool.not_eq_true _ ▸ hprefix, items, hitems⟩
  · rintro ⟨hpages, hprefix, items, hitems⟩
    obtain ⟨fuel, hfound⟩ := (hloop items.reduceOption).mpr ⟨hpages, items, hitems, rfl⟩
    refine ⟨fuel, items.reduceOption.map Prod.fst, ?_, items, hitems, rfl⟩
    rw [deleteConfigEntries, hprefix, if_neg Bool.false_ne_true, hfound]
    rfl

/-- A listing has every item once if and only if the whole table is one page and can be read. -/
theorem listings_complete_iff {UserKey GroupKey ProjectKey SettingKey : Type}
    [DecidableEq UserKey] [DecidableEq GroupKey] [DecidableEq ProjectKey]
    [DecidableEq SettingKey] (timeOf : ℤ → Except Raised DateTime)
    (compile : String → Except String (String → Bool)) :
    (∀ (codec : CursorCodec UserKey) keeps table filters,
      ListsAll (listUsers codec timeOf keeps table) (userFromDb timeOf) keeps table filters ↔
        OnePage (userFromDb timeOf) keeps table filters) ∧
    (∀ (codec : CursorCodec GroupKey) keeps table filters,
      ListsAll (listGroups codec timeOf keeps table) (groupFromDb timeOf) keeps table filters ↔
        OnePage (groupFromDb timeOf) keeps table filters) ∧
    (∀ (codec : CursorCodec ProjectKey) keeps table filters,
      ListsAll (listProjects codec keeps table) projectFromDb keeps table filters ↔
        OnePage projectFromDb keeps table filters) ∧
    (∀ (table : Paged (String × ConfigEntry) SettingKey) query,
      ReturnsAll compile table query ↔ table.pages = [] ∧
        ∃ pattern items, patternOf compile query = .ok pattern ∧
          table.items.mapM (readEntry pattern) = .ok items) ∧
    ∀ (table : Paged (String × ConfigEntry) SettingKey) configKeyPrefix,
      DeletesAll table configKeyPrefix ↔ table.pages = [] ∧
        isEmptyString (some configKeyPrefix) = false ∧
        ∃ items, table.items.mapM (readPrefixed configKeyPrefix) = .ok items := by
  refine ⟨fun codec keeps table filters => ?_, fun codec keeps table filters => ?_,
    fun codec keeps table filters => ?_, fun table query => ?_, fun table configKeyPrefix => ?_⟩
  · exact listsAll_listPage_iff codec (userFromDb timeOf) keeps table filters
  · exact listsAll_listPage_iff codec (groupFromDb timeOf) keeps table filters
  · exact listsAll_listPage_iff codec projectFromDb keeps table filters
  · exact returnsAll_iff compile table query
  · exact deletesAll_iff table configKeyPrefix

def nameCodec : CursorCodec String where
  encode name := "u" ++ name
  decode cursor := .ok (String.ofList (cursor.toList.drop 1))
  decode_encode := fun name => by simp
  encode_nonblank := fun name => isEmptyString_of_mem (c := 'u') (by simp) (by decide)

def sampleUser (username : String) : DbUser where
  username := some username
  email := none
  uid := none
  gid := none
  groupName := none
  loginShell := none
  homeDir := none
  sudoUser := none
  enabled := none
  passwordLastSet := none
  passwordMaxAge := none
  additionalGroups := none
  createdOn := none
  updatedOn := none

def userPages : Paged DbUser String := ⟨[([sampleUser "ada"], "ada")], [sampleUser "eve"]⟩

def entryPages : Paged (String × ConfigEntry) String :=
  ⟨[([("a.b", ⟨some (.string "x"), none, some 1⟩)], "a.b")],
    [("a.c", ⟨some (.string "y"), none, some 1⟩)]⟩

/-- The request for the second page is refused, in a listing as in a loop. -/
theorem second_page_refused :
    (listUsers nameCodec DateTime.ofTimestamp (fun _ _ => true) userPages
      ⟨some (nameCodec.encode "ada"), none⟩).isOk = false ∧
    ¬ ListsAll (listUsers nameCodec DateTime.ofTimestamp (fun _ _ => true) userPages)
      (userFromDb DateTime.ofTimestamp) (fun _ _ => true) userPages none ∧
    ¬ ReturnsAll (fun _ => .error "") entryPages none ∧ ¬ DeletesAll entryPages "a." := by
  refine ⟨?_, fun h => ?_, fun h => ?_, fun h => ?_⟩
  · rw [listUsers, listPage_next]
    rfl
  · exact List.cons_ne_nil _ _ ((listsAll_listPage_iff _ _ _ _ _).mp h).1
  · exact List.cons_ne_nil _ _ ((returnsAll_iff _ _ _).mp h).1
  · exact List.cons_ne_nil _ _ ((deletesAll_iff _ _).mp h).1

end Idea.CursorListings

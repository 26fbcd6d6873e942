import Idea.QueueProfiles.Invariant

/-! # Queues added to and taken from a profile

The request to create queues sets the list of a profile to the requested one, so it adds them only
if they are all its queues already there too. The request to delete queues takes names out of the
cached list before it is through, and then sets the stored list to the requested one.
-/

namespace Idea.QueueProfiles

open HpcQueueProfilesDAO HpcQueueProfilesService Stateful

variable {ctx : ServiceContext} {answers : Answers} {s s' : ServiceState}
  {selector : ProfileSelector} {id : String} {item : DbQueueProfile}
  {queueProfile : HpcQueueProfile} {queueNames : List String}

def seen (ctx : ServiceContext) (s : ServiceState) (selector : ProfileSelector) :
    Except Raised HpcQueueProfile :=
  match cacheGet s selector with
  | some found => .ok found.2
  | none => readProfile ctx {} s.table selector

def CachedAs (s : ServiceState) (id : String) (P : ProfileKey → HpcQueueProfile → Prop) : Prop :=
  ∀ key ref queueProfile, s.cache.get? key = some ref → s.objects[ref]? = some queueProfile →
    queueProfile.queueProfileId = some id → P key queueProfile

/-- A request finds a stored profile, and the cache has it only as it is stored. -/
structure Selects (ctx : ServiceContext) (s : ServiceState) (selector : ProfileSelector)
    (id : String) (item : DbQueueProfile) (queueProfile : HpcQueueProfile) : Prop where
  stored : s.table.get? id = some item
  decoded : convertFromDb item = .ok queueProfile
  seen : seen ctx s selector.withoutQueue = .ok queueProfile
  cached : CachedAs s id fun key p => p = queueProfile ∧ key ∈ keysOf queueProfile

/-- The stored and the cached profile have a set of queues. -/
def QueuesAre (s : ServiceState) (id : String) (queues : String → Prop) : Prop :=
  (∃ item, s.table.get? id = some item ∧ ∀ q, q ∈ queuesOf item ↔ queues q) ∧
    CachedAs s id fun _ p => ∀ q, q ∈ p.queues.getD [] ↔ queues q

/-- The stored item and the cached profile are the given ones. -/
def Unchanged (s : ServiceState) (id : String) (item : DbQueueProfile)
    (queueProfile : HpcQueueProfile) : Prop :=
  s.table.get? id = some item ∧ CachedAs s id fun _ p => p = queueProfile

/-- A request that succeeds leaves a set of queues, and one that raises leaves all as it was. -/
def Exact (id : String) (item : DbQueueProfile) (queueProfile : HpcQueueProfile)
    (queues : String → Prop) (outcome : Except Raised Unit × ServiceState) : Prop :=
  match outcome with
  | (.ok _, s') => QueuesAre s' id queues
  | (.error _, s') => Unchanged s' id item queueProfile

/-- The lookup of a request can be answered. -/
def Readable (answers : Answers) (s : ServiceState) (selector : ProfileSelector) : Prop :=
  cacheGet s selector.withoutQueue = none → answers.read = none

structure CreationGoesThrough (ctx : ServiceContext) (answers : Answers) (s : ServiceState)
    (selector : ProfileSelector) (queueProfile : HpcQueueProfile) (queueNames : List String)
    (updateDb checkExistingProfile : Bool) : Prop where
  readable : Readable answers s selector
  passed : QueuesCreated ctx answers s queueProfile queueNames checkExistingProfile
  updates : updateDb = true →
    isEmptyString selector.queueProfileId = false ∧ answers.write = none

/-- A request to delete queues that is refused before it takes out the first of them. -/
def DeletionRefused (answers : Answers) (s : ServiceState) (selector : ProfileSelector)
    (queues queueNames : List String) : Prop :=
  ¬ Readable answers s selector ∨ ∀ queueName ∈ queueNames.head?, queueName ∉ queues

theorem readProfile_of_ok {table : ProfilesTable}
    (h : readProfile ctx answers table selector = .ok queueProfile) :
    readProfile ctx {} table selector = .ok queueProfile := by
  unfold readProfile at h ⊢
  split at h
  · exact h
  · rename_i key hkey
    split at h
    · cases h
    · cases h
    · rename_i item _ hitem
      simp only [hitem]
      exact h

theorem seen_of_found {ref : ℕ}
    (h : (getQueueProfile ctx answers selector).run s = (.ok (ref, queueProfile), s')) :
    seen ctx s selector = .ok queueProfile := by
  unfold seen
  rcases getQueueProfile_cases h with ⟨found, hcache, hr, -⟩ |
    ⟨hnone, ⟨_, -, he, -⟩ | ⟨p, hread, -, ⟨-, he⟩ | ⟨-, he⟩⟩⟩
  · obtain rfl := Except.ok.inj hr
    rw [hcache]
  · cases he
  · cases he
  · obtain ⟨-, rfl⟩ := Prod.mk.inj (Except.ok.inj he)
    rw [hnone]
    exact readProfile_of_ok hread

theorem CachedAs.cached {P : ProfileKey → HpcQueueProfile → Prop} (hwf : WellFormed s)
    (h : CachedAs s id P)
    (hp : queueProfile.queueProfileId = some id → ∀ key ∈ keysOf queueProfile, P key queueProfile) :
    CachedAs (cached s queueProfile) id P := by
  intro key ref p hkey hobject hown
  rw [get?_cached] at hkey
  rw [getElem?_cached] at hobject
  split at hkey
  · rename_i hmem
    rw [if_pos (Option.some.inj hkey).symm] at hobject
    obtain rfl := Option.some.inj hobject
    exact hp hown key hmem
  · obtain ⟨p', hp'⟩ := hwf.refs key ref hkey
    rw [if_neg (List.getElem?_eq_some_iff.mp hp').1.ne] at hobject
    exact h key ref p hkey hobject hown

theorem CachedAs.congr {P : ProfileKey → HpcQueueProfile → Prop} (h : CachedAs s id P)
    (ho : s'.objects = s.objects) (hc : s'.cache = s.cache) : CachedAs s' id P := by
  unfold CachedAs
  rw [ho, hc]
  exact h

namespace Selects

theorem wellFormed (h : Selects ctx s selector id item queueProfile)
    (hwf : WellFormed s) : queueProfile.queueProfileId = some id ∧
      queueProfile.name = getValueAsString item.name ∧
      queueProfile.queues = some (queuesOf item) := by
  obtain ⟨p, hp, hown, hname, -, hqueues⟩ := (hwf.table id item h.stored).convertFromDb
  obtain rfl := Except.ok.inj (hp.symm.trans h.decoded)
  exact ⟨hown, hname, hqueues⟩

theorem exists_key (h : Selects ctx s selector id item queueProfile) (hwf : WellFormed s) :
    ∃ key, selector.withoutQueue.key? = some key := by
  cases hkey : selector.withoutQueue.key? with
  | some key => exact ⟨key, rfl⟩
  | none =>
    have hseen := h.seen
    unfold QueueProfiles.seen cacheGet readProfile at hseen
    rw [hkey] at hseen
    obtain rfl := Except.ok.inj hseen
    cases (h.wellFormed hwf).1

variable {found : Except Raised (ℕ × HpcQueueProfile)}

theorem cached_of_found (h : Selects ctx s selector id item queueProfile) (hwf : WellFormed s)
    (hrun : (getQueueProfile ctx answers selector.withoutQueue).run s = (found, s')) :
    CachedAs s' id fun key p => p = queueProfile ∧ key ∈ keysOf queueProfile := by
  have hseen := h.seen
  unfold QueueProfiles.seen at hseen
  rcases getQueueProfile_cases hrun with ⟨_, -, -, rfl⟩ |
    ⟨hnone, ⟨_, -, -, rfl⟩ | ⟨p, hread, rfl, -⟩⟩
  · exact h.cached
  · exact h.cached
  · rw [hnone] at hseen
    obtain rfl := Except.ok.inj ((readProfile_of_ok hread).symm.trans hseen)
    exact h.cached.cached hwf fun _ key hkey => ⟨rfl, hkey⟩

theorem unchanged (h : Selects ctx s selector id item queueProfile) (hwf : WellFormed s)
    (hrun : (getQueueProfile ctx answers selector.withoutQueue).run s = (found, s')) :
    Unchanged s' id item queueProfile :=
  ⟨table_getQueueProfile hrun ▸ h.stored, fun key ref p hkey hobject hown =>
    (h.cached_of_found hwf hrun key ref p hkey hobject hown).1⟩

theorem found_iff (h : Selects ctx s selector id item queueProfile) (hwf : WellFormed s)
    (hrun : (getQueueProfile ctx answers selector.withoutQueue).run s = (found, s')) :
    (∃ ref, found = .ok (ref, queueProfile)) ↔ Readable answers s selector := by
  obtain ⟨key, hkey⟩ := h.exists_key hwf
  have hseen := h.seen
  unfold QueueProfiles.seen at hseen
  rcases getQueueProfile_cases hrun with ⟨⟨ref, p⟩, hcache, rfl, -⟩ | ⟨hnone, hread⟩
  · rw [hcache] at hseen
    obtain rfl := Except.ok.inj hseen
    exact ⟨fun _ hnone => (by cases hcache.symm.trans hnone), fun _ => ⟨ref, rfl⟩⟩
  · rw [hnone] at hseen
    dsimp only at hseen
    constructor
    · rintro ⟨ref, rfl⟩ -
      rcases hread with ⟨_, -, he, -⟩ | ⟨p, hread, -, -⟩
      · cases he
      · unfold readProfile at hread
        rw [hkey] at hread
        cases hr : answers.read with
        | none => rfl
        | some e => rw [hr] at hread; cases hread
    · intro hreadable
      have hsame : readProfile ctx answers s.table selector.withoutQueue =
          readProfile ctx {} s.table selector.withoutQueue := by
        unfold readProfile
        rw [hreadable hnone]
      rw [hsame, hseen] at hread
      rcases hread with ⟨_, he, -, -⟩ | ⟨p, hp, -, ⟨hq, -⟩ | ⟨-, rfl⟩⟩
      · cases he
      · obtain rfl := Except.ok.inj hp
        cases hq.symm.trans (h.wellFormed hwf).2.2
      · obtain rfl := Except.ok.inj hp
        exact ⟨_, rfl⟩

theorem id_eq (h : Selects ctx s selector id item queueProfile) (hwf : WellFormed s) {ref : ℕ}
    (hrun : (getQueueProfile ctx answers selector.withoutQueue).run s =
      (.ok (ref, queueProfile), s')) {id' : String}
    (hid : selector.queueProfileId = some id') (hne : isEmptyString (some id') = false) :
    id' = id := by
  have hown := id_of_found hwf (key?_of_id hid hne) hrun
  rw [(h.wellFormed hwf).1] at hown
  exact hown.symm

end Selects

theorem QueuesCreated.congr {b : Bool} (htable : s'.table = s.table)
    (h : QueuesCreated ctx answers s' queueProfile queueNames b) :
    QueuesCreated ctx answers s queueProfile queueNames b where
  nonempty := h.nonempty
  checked := htable ▸ h.checked
  created := h.created

/-- A profile that is written with new queues, among them all that it had, is cached with these
only. -/
theorem cachedAs_updated {updated : HpcQueueProfile} (hwf : WellFormed s)
    (h : CachedAs s id fun key p => p = queueProfile ∧ key ∈ keysOf queueProfile)
    (hid : queueProfile.queueProfileId = updated.queueProfileId)
    (hname : queueProfile.name = updated.name)
    (hqueues : ∀ q ∈ queueProfile.queues.getD [], q ∈ updated.queues.getD []) :
    CachedAs (cached s updated) id fun _ p => p = updated := by
  intro key ref p hkey hobject hown
  rw [get?_cached] at hkey
  rw [getElem?_cached] at hobject
  split at hkey
  · rw [if_pos (Option.some.inj hkey).symm] at hobject
    exact (Option.some.inj hobject).symm
  · rename_i hnot
    obtain ⟨p', hp'⟩ := hwf.refs key ref hkey
    rw [if_neg (List.getElem?_eq_some_iff.mp hp').1.ne] at hobject
    obtain ⟨rfl, hmem⟩ := h key ref p hkey hobject hown
    refine absurd ?_ hnot
    simp only [keysOf, List.mem_cons, List.mem_map] at hmem ⊢
    rw [← hid, ← hname]
    exact hmem.imp_right fun hmem => hmem.imp_right fun ⟨q, hq, hkey⟩ => ⟨q, hqueues q hq, hkey⟩

/-- A request to create queues is exact unless it goes through and replaces a queue that is not
requested, or without an update of the database requests a queue that is not there. -/
theorem createQueues_exact_iff (hwf : WellFormed s)
    (h : Selects ctx s selector id item queueProfile) (queueNames : List String)
    (updateDb checkExistingProfile : Bool) :
    Exact id item queueProfile (fun q => q ∈ queuesOf item ∨ q ∈ queueNames)
        ((createQueues ctx answers queueNames selector updateDb checkExistingProfile).run s) ↔
      (CreationGoesThrough ctx answers s selector queueProfile queueNames updateDb
          checkExistingProfile →
        if updateDb then ∀ q ∈ queuesOf item, q ∈ queueNames
        else ∀ q ∈ queueNames, q ∈ queuesOf item) := by
  obtain ⟨hown, hname, hqueues⟩ := h.wellFormed hwf
  rcases hrun : (createQueues ctx answers queueNames selector updateDb
    checkExistingProfile).run s with ⟨r, s'⟩
  obtain ⟨hnil, ⟨e, rfl⟩, rfl⟩ | ⟨found, s₁, hfound, hends⟩ := createQueues_cases hwf.table hrun
  · refine iff_of_true ⟨h.stored, ?_⟩ fun hthrough => absurd hnil hthrough.passed.nonempty
    exact fun key ref p hkey hobject hp => (h.cached key ref p hkey hobject hp).1
  have htable := table_getQueueProfile hfound
  rcases hends with ⟨⟨e, rfl⟩, rfl, hrefused⟩ | ⟨ref, p, rfl, hcreated, hok, hends⟩
  · refine iff_of_true (h.unchanged hwf hfound) fun hthrough => ?_
    obtain ⟨ref, rfl⟩ := (h.found_iff hwf hfound).mpr hthrough.readable
    rcases hrefused with ⟨_, he⟩ | ⟨_, _, he, hnot | ⟨rfl, hupdate⟩⟩
    · cases he
    · obtain ⟨-, rfl⟩ := Prod.mk.inj (Except.ok.inj he)
      exact absurd (hthrough.passed.congr htable.symm) hnot
    · obtain ⟨hne, hwrite⟩ := hthrough.updates rfl
      rcases hupdate with hempty | hwrite' | ⟨id', hid, hmissing⟩
      · rw [hempty] at hne
        cases hne
      · exact absurd hwrite hwrite'
      · obtain rfl := h.id_eq hwf hfound hid (hid ▸ hne)
        rw [htable, h.stored] at hmissing
        cases hmissing
  obtain rfl : p = queueProfile := Except.ok.inj ((seen_of_found hfound).symm.trans h.seen)
  obtain rfl := hok (hqueues ▸ Option.some_ne_none _)
  have hreadable := (h.found_iff hwf hfound).mp ⟨ref, rfl⟩
  have hpassed := hcreated.congr htable
  have hcached := h.cached_of_found hwf hfound
  rcases hends with ⟨rfl, rfl⟩ | ⟨rfl, id', item', updated, hsaved, rfl⟩
  · have hthrough : CreationGoesThrough ctx answers s selector p queueNames false
        checkExistingProfile := ⟨hreadable, hpassed, fun hb => by cases hb⟩
    have hstored : (initialized s₁ p).table.get? id = some item := by
      rw [table_initialized, htable]
      exact h.stored
    rw [if_neg Bool.false_ne_true]
    constructor
    · rintro ⟨⟨item', hitem', hqs⟩, -⟩ - q hq
      obtain rfl := Option.some.inj (hstored.symm.trans hitem')
      exact (hqs q).mpr (.inr hq)
    · intro hsub
      have hset : ∀ q, q ∈ queuesOf item ↔ q ∈ queuesOf item ∨ q ∈ queueNames :=
        fun q => ⟨.inl, fun hq => hq.elim (fun h => h) (hsub hthrough q)⟩
      refine ⟨⟨item, hstored, hset⟩, ?_⟩
      have hcached' := hcached.congr (objects_initialized s₁ p) (cache_initialized s₁ p)
      intro key ref' p' hkey hobject hp'
      obtain ⟨rfl, -⟩ := hcached' key ref' p' hkey hobject hp'
      rw [hqueues, Option.getD_some]
      exact hset
  · have hwf₁ := hwf.getQueueProfile hfound
    have htrimmed := (hwf₁.table id' item' hsaved.stored).trimmed
    obtain rfl := h.id_eq hwf hfound hsaved.id_eq (nonempty_of_trimmed htrimmed)
    obtain rfl : item' = item :=
      Option.some.inj (hsaved.stored.symm.trans (htable ▸ h.stored))
    have hu := wellFormedUpdates_queues hcreated.nonempty
    have hthrough : CreationGoesThrough ctx answers s selector p queueNames true
        checkExistingProfile := by
      refine ⟨hreadable, hpassed, fun _ => ⟨?_, hsaved.writes⟩⟩
      rw [hsaved.id_eq]
      exact nonempty_of_trimmed htrimmed
    have hwritten : queuesOf (updatedItem id' item' { queues := some queueNames }) =
        queueNames := queuesOf_updatedItem id' item' hu.queues
    have hstored : (initialized (cached (withItem s₁ id'
        (updatedItem id' item' { queues := some queueNames })) updated) updated).table.get? id' =
          some (updatedItem id' item' { queues := some queueNames }) := by
      rw [table_initialized]
      exact (Dict.get?_set _ id' id' _).trans (if_pos rfl)
    rw [if_pos rfl]
    constructor
    · rintro ⟨⟨item'', hitem', hqs⟩, -⟩ - q hq
      obtain rfl := Option.some.inj (hstored.symm.trans hitem')
      rw [← hwritten]
      exact (hqs q).mpr (.inl hq)
    · intro hsub
      have hsub := hsub hthrough
      have hset : ∀ q, q ∈ queueNames ↔ q ∈ queuesOf item' ∨ q ∈ queueNames :=
        fun q => ⟨.inr, fun hq => hq.elim (hsub q) fun h => h⟩
      refine ⟨⟨_, hstored, fun q => by rw [hwritten]; exact hset q⟩, ?_⟩
      have hwf₂ := hwf₁.withItem ((hwf₁.table id' item' hsaved.stored).updatedItem hu)
      have hsub' : ∀ q ∈ p.queues.getD [], q ∈ updated.queues.getD [] := by
        rw [hqueues, hsaved.queues, hwritten]
        exact hsub
      have hcached' := (cachedAs_updated (s := withItem s₁ id'
        (updatedItem id' item' { queues := some queueNames })) hwf₂ hcached
        (hown.trans hsaved.own_id.symm) (hname.trans hsaved.name.symm) hsub').congr
        (objects_initialized _ updated) (cache_initialized _ updated)
      intro key ref' p' hkey hobject hp'
      obtain rfl := hcached' key ref' p' hkey hobject hp'
      rw [hsaved.queues, Option.getD_some, hwritten]
      exact hset

theorem length_removeQueues_le (queues queueNames : List String) :
    (removeQueues queues queueNames).1.length ≤ queues.length := by
  induction queueNames generalizing queues with
  | nil => exact le_rfl
  | cons queueName queueNames ih =>
    rw [removeQueues]
    split
    · exact (ih _).trans List.length_erase_le
    · exact le_rfl

variable {queues : List String}

theorem length_removeQueues_lt {queueName : String} (h : queueName ∈ queues)
    (queueNames : List String) :
    (removeQueues queues (queueName :: queueNames)).1.length < queues.length := by
  rw [removeQueues, if_pos h]
  refine (length_removeQueues_le _ queueNames).trans_lt ?_
  rw [List.length_erase_of_mem h]
  exact Nat.sub_lt (List.length_pos_of_mem h) Nat.one_pos

theorem removeQueues_of_not_mem {queueName : String} (h : queueName ∉ queues)
    (queueNames : List String) :
    removeQueues queues (queueName :: queueNames) = (queues, some queueName) := by
  rw [removeQueues, if_neg h]

theorem remaining_of_not_mem {queueName : String} (hq : queueProfile.queues = some queues)
    (h : queueName ∉ queues) (queueNames : List String) :
    remaining queueProfile queues (queueName :: queueNames) = queueProfile := by
  rw [remaining, removeQueues_of_not_mem h, ← hq]

theorem withObject_self {ref : ℕ} (h : s.objects[ref]? = some queueProfile) :
    withObject s ref queueProfile = s := by
  obtain ⟨hlt, hget⟩ := List.getElem?_eq_some_iff.mp h
  rw [withObject, ← hget, List.set_getElem_self]

theorem deleteQueues_exact_iff (hwf : WellFormed s)
    (h : Selects ctx s selector id item queueProfile) (queueNames : List String)
    (updateDb initializeProvisioner : Bool) :
    Exact id item queueProfile (fun q => q ∈ queuesOf item ∧ q ∉ queueNames)
        ((deleteQueues ctx answers queueNames selector updateDb initializeProvisioner).run s) ↔
      DeletionRefused answers s selector (queuesOf item) queueNames := by
  obtain ⟨hown, hname, hqueues⟩ := h.wellFormed hwf
  rcases hrun : (deleteQueues ctx answers queueNames selector updateDb
    initializeProvisioner).run s with ⟨r, s'⟩
  obtain ⟨rfl, ⟨e, rfl⟩, rfl⟩ | ⟨hne, found, s₁, hfound, hends⟩ := deleteQueues_cases hwf.table hrun
  · refine iff_of_true ⟨h.stored, ?_⟩ (.inr fun q hq => by cases hq)
    exact fun key ref p hkey hobject hp => (h.cached key ref p hkey hobject hp).1
  rcases hends with ⟨⟨e, rfl⟩, rfl, hnone⟩ | ⟨ref, p, queues, rfl, hp, hends⟩
  · refine iff_of_true (h.unchanged hwf hfound) (.inl fun hreadable => ?_)
    obtain ⟨ref, rfl⟩ := (h.found_iff hwf hfound).mpr hreadable
    rcases hnone with ⟨_, he⟩ | ⟨_, _, he, hq⟩
    · cases he
    · obtain ⟨-, rfl⟩ := Prod.mk.inj (Except.ok.inj he)
      cases hqueues.symm.trans hq
  obtain rfl : p = queueProfile := Except.ok.inj ((seen_of_found hfound).symm.trans h.seen)
  obtain rfl : queues = queuesOf item := Option.some.inj (hp.symm.trans hqueues)
  have hreadable := (h.found_iff hwf hfound).mp ⟨ref, rfl⟩
  have hobject := exists_object_of_found hwf hfound
  cases queueNames with
  | nil => exact absurd rfl hne
  | cons queueName queueNames =>
    have hnot : queueName ∈ queuesOf item →
        ¬ DeletionRefused answers s selector (queuesOf item) (queueName :: queueNames) := by
      rintro hmem (hnot | hnot)
      · exact hnot hreadable
      · exact hnot queueName rfl hmem
    by_cases hmem : queueName ∈ queuesOf item
    · refine iff_of_false (fun hexact => ?_) (hnot hmem)
      rcases hends with ⟨⟨e, rfl⟩, rfl, -⟩ | ⟨-, -, rfl, ⟨rfl, rfl⟩ |
        ⟨rfl, id', item', updated, hsaved, rfl⟩⟩
      · -- the object that the request found is still cached, and its list is shorter
        obtain ⟨key, hkey⟩ := exists_cached_of_found hfound
        have hset : (withObject s₁ ref (remaining p (queuesOf item)
            (queueName :: queueNames))).objects[ref]? =
              some (remaining p (queuesOf item) (queueName :: queueNames)) :=
          List.getElem?_set_self (List.getElem?_eq_some_iff.mp hobject).1
        have heq := hexact.2 key ref _ hkey hset hown
        have hlist : (removeQueues (queuesOf item) (queueName :: queueNames)).1 =
            queuesOf item :=
          Option.some.inj ((congrArg HpcQueueProfile.queues heq).trans hqueues)
        exact absurd (congrArg List.length hlist) (length_removeQueues_lt hmem queueNames).ne
      · obtain ⟨⟨item', hitem', hqs⟩, -⟩ := hexact
        rw [table_initializedIf] at hitem'
        have hitem'' : s₁.table.get? id = some item' := hitem'
        rw [table_getQueueProfile hfound, h.stored] at hitem''
        obtain rfl := Option.some.inj hitem''
        exact ((hqs queueName).mp hmem).2 List.mem_cons_self
      · obtain rfl := h.id_eq hwf hfound hsaved.id_eq (nonempty_of_trimmed
          ((hwf.getQueueProfile hfound).table id' item' hsaved.stored).trimmed)
        obtain ⟨⟨item'', hitem', hqs⟩, -⟩ := hexact
        rw [table_initializedIf] at hitem'
        have hset := (Dict.get?_set s₁.table id' id' (updatedItem id' item'
          { queues := some (queueName :: queueNames) })).trans (if_pos rfl)
        obtain rfl := Option.some.inj (hset.symm.trans hitem')
        have hwritten := queuesOf_updatedItem id' item'
          (wellFormedUpdates_queues (List.cons_ne_nil queueName queueNames)).queues
        rw [hwritten] at hqs
        exact ((hqs queueName).mp List.mem_cons_self).2 List.mem_cons_self
    · rcases hends with ⟨⟨e, rfl⟩, rfl, -⟩ | ⟨hremoved, -⟩
      · refine iff_of_true ?_ (.inr fun q hq => Option.some.inj hq ▸ hmem)
        rw [remaining_of_not_mem hqueues hmem, withObject_self hobject]
        exact h.unchanged hwf hfound
      · rw [removeQueues_of_not_mem hmem] at hremoved
        cases hremoved

/-- When the two requests are exact set operations that change nothing if they raise. -/
theorem queue_requests_exact_iff (hwf : WellFormed s)
    (h : Selects ctx s selector id item queueProfile) (queueNames : List String)
    (updateDb checkExistingProfile initializeProvisioner : Bool) :
    (Exact id item queueProfile (fun q => q ∈ queuesOf item ∨ q ∈ queueNames)
        ((createQueues ctx answers queueNames selector updateDb checkExistingProfile).run s) ↔
      (CreationGoesThrough ctx answers s selector queueProfile queueNames updateDb
          checkExistingProfile →
        if updateDb then ∀ q ∈ queuesOf item, q ∈ queueNames
        else ∀ q ∈ queueNames, q ∈ queuesOf item)) ∧
      (Exact id item queueProfile (fun q => q ∈ queuesOf item ∧ q ∉ queueNames)
          ((deleteQueues ctx answers queueNames selector updateDb
            initializeProvisioner).run s) ↔
        DeletionRefused answers s selector (queuesOf item) queueNames) :=
  ⟨createQueues_exact_iff hwf h queueNames updateDb checkExistingProfile,
    deleteQueues_exact_iff hwf h queueNames updateDb initializeProvisioner⟩

theorem selects_oneProfile :
    Selects plainContext oneProfile { queueProfileId := some "a" } "a" firstItem firstProfile where
  stored := rfl
  decoded := convertFromDb_convertToDb _
  seen := rfl
  cached := by
    refine CachedAs.cached wellFormed_firstItem (fun _ _ _ hkey => by cases hkey) ?_
    exact fun _ key hkey => ⟨rfl, hkey⟩

theorem oneProfile_exact_iff :
    (Exact "a" firstItem firstProfile (fun q => q ∈ queuesOf firstItem ∨ q ∈ ["high"])
        ((createQueues plainContext {} ["high"] { queueProfileId := some "a" } true true).run
          oneProfile) ↔
      (CreationGoesThrough plainContext {} oneProfile { queueProfileId := some "a" } firstProfile
          ["high"] true true →
        if true then ∀ q ∈ queuesOf firstItem, q ∈ ["high"]
        else ∀ q ∈ ["high"], q ∈ queuesOf firstItem)) ∧
      (Exact "a" firstItem firstProfile (fun q => q ∈ queuesOf firstItem ∧ q ∉ ["high"])
          ((deleteQueues plainContext {} ["high"] { queueProfileId := some "a" } true true).run
            oneProfile) ↔
        DeletionRefused {} oneProfile { queueProfileId := some "a" } (queuesOf firstItem)
          ["high"]) :=
  queue_requests_exact_iff wellFormed_oneProfile selects_oneProfile ["high"] true true true

/-- The queue `normal` is gone when `high` is added, and there when it is taken out. -/
theorem oneProfile_not_exact :
    Selects plainContext oneProfile { queueProfileId := some "a" } "a" firstItem firstProfile ∧
      ¬ Exact "a" firstItem firstProfile (fun q => q ∈ queuesOf firstItem ∨ q ∈ ["high"])
        ((createQueues plainContext {} ["high"] { queueProfileId := some "a" } true true).run
          oneProfile) ∧
      ¬ Exact "a" firstItem firstProfile (fun q => q ∈ queuesOf firstItem ∧ q ∉ ["normal"])
        ((deleteQueues plainContext {} ["normal"] { queueProfileId := some "a" } true true).run
          oneProfile) := by
  have hitem : queuesOf firstItem = ["normal"] := by decide
  refine ⟨selects_oneProfile, ?_, ?_⟩
  · rw [createQueues_exact_iff wellFormed_oneProfile selects_oneProfile, if_pos rfl, hitem]
    have hthrough : CreationGoesThrough plainContext {} oneProfile
        { queueProfileId := some "a" } firstProfile ["high"] true true :=
      ⟨fun _ => rfl, ⟨by decide, fun _ => rfl, ⟨1, rfl⟩⟩, fun _ => ⟨rfl, rfl⟩⟩
    exact fun h => absurd (h hthrough "normal" (by decide)) (by decide)
  · rw [deleteQueues_exact_iff wellFormed_oneProfile selects_oneProfile, hitem]
    rintro (hnot | hnot)
    · exact hnot fun _ => rfl
    · exact hnot "normal" rfl (by decide)

end Idea.QueueProfiles

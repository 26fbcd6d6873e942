import Idea.QueueProfiles.Lookups
import Idea.QueueProfiles.QueueSets

/-! # The cache against the database

A profile is cached under its id, its name and its queues. A request refreshes or clears the keys
of the profile as it is then, so a key that the profile has lost keeps its old object, and an
exception after the write keeps all of them.
-/

namespace Idea.QueueProfiles

open HpcQueueProfilesDAO HpcQueueProfilesService Stateful

variable {ctx : ServiceContext} {answers : Answers} {s s' : ServiceState}
  {selector : ProfileSelector} {queueProfile : HpcQueueProfile} {id : String}
  {item : DbQueueProfile}

def dbAnswer (ctx : ServiceContext) (table : ProfilesTable) (key : ProfileKey) :
    Except Raised (Option HpcQueueProfile) :=
  match lookup ctx table key with
  | none => .ok none
  | some item => (convertFromDb item).map some

/-- Every cached profile, but for some keys, is the answer of the database under its key. -/
def CoherentBut (ctx : ServiceContext) (s : ServiceState) (keys : List ProfileKey) : Prop :=
  ∀ key ref queueProfile, s.cache.get? key = some ref → s.objects[ref]? = some queueProfile →
    key ∉ keys → dbAnswer ctx s.table key = .ok (some queueProfile)

/-- The cache agrees with a table in which no two profiles share a key. -/
structure Synced (ctx : ServiceContext) (s : ServiceState) : Prop where
  unshared : Unshared s.table
  coherent : CoherentBut ctx s []

/-- A profile that gets a name and queues has all the keys that it is cached under. -/
def KeysKept (s : ServiceState) (queueProfile : HpcQueueProfile) (name : Option String)
    (queues : List String) : Prop :=
  ∀ key ∈ keysOf queueProfile, key ∈ s.cache.keys →
    key ∈ keysOf { queueProfile with name := name, queues := some queues }

/-- A request that takes queues out of a cached profile gets to write and to cache the new one. -/
structure RemovalGoesThrough (answers : Answers) (selector : ProfileSelector)
    (queues queueNames : List String) (updateDb : Bool) : Prop where
  updates : updateDb = true
  selects : isEmptyString selector.queueProfileId = false
  removed : (removeQueues queues queueNames).2 = none
  deleted : HpcQueueProfilesDAO.Succeeds (deleteSchedulerQueues answers 0 queueNames)
  writes : answers.write = none

/-- What a request needs to leave no key stale: it selects something, it writes no name or queue
of another profile, and a profile that it changes keeps the keys that it is cached under and gets
to the cache. -/
def LeavesNoStaleKey (ctx : ServiceContext) (answers : Answers) (s : ServiceState) :
    Request → Prop
  | .start => True
  | .createQueueProfile request => ∀ queueProfile queues,
      validateAndSanitizeQueueProfile ctx.jobParamsValid answers.stackUuid request =
        .ok queueProfile → queueProfile.queues = some queues →
      getQueueProfileByName ctx s.table (queueProfile.name.getD "None") = none →
      answers.read = none → answers.write = none →
      TrimmedName queueProfile.name ∧ Free s.table answers.uuid queues
  | .getQueueProfile selector => selector.key? ≠ none
  | .enableQueueProfile selector => selector.withoutQueue.key? ≠ none
  | .disableQueueProfile selector => selector.withoutQueue.key? ≠ none
  | .updateQueueProfile request => ∀ queueProfile queues ref existing s₁ id,
      validateAndSanitizeQueueProfile ctx.jobParamsValid answers.stackUuid request =
        .ok queueProfile → queueProfile.queues = some queues →
      (getQueueProfile ctx answers (updateSelector queueProfile)).run s =
        (.ok (ref, existing), s₁) → existing.queueProfileId = some id → answers.write = none →
      Exclusive s.table id queueProfile.name queues ∧
        KeysKept s₁ existing queueProfile.name queues ∧
        HpcQueueProfilesDAO.Succeeds
          (replaceSchedulerQueues answers (existing.queues.getD []) queues)
  | .deleteQueueProfile selector _ => selector.withoutQueue.key? ≠ none
  | .createQueues queueNames selector updateDb checkExistingProfile =>
      queueNames ≠ [] → selector.withoutQueue.key? ≠ none ∧
      (updateDb = true → ∀ ref queueProfile s₁ id,
        (getQueueProfile ctx answers selector.withoutQueue).run s =
          (.ok (ref, queueProfile), s₁) → queueProfile.queueProfileId = some id →
        QueuesCreated ctx answers s₁ queueProfile queueNames checkExistingProfile →
        isEmptyString selector.queueProfileId = false → answers.write = none →
        (checkExistingProfile = false → Free s.table id queueNames) ∧
          KeysKept s₁ queueProfile queueProfile.name queueNames)
  | .deleteQueues queueNames selector updateDb _ =>
      queueNames ≠ [] → selector.withoutQueue.key? ≠ none ∧
      ∀ ref queueProfile s₁ queues,
        (getQueueProfile ctx answers selector.withoutQueue).run s =
          (.ok (ref, queueProfile), s₁) → queueProfile.queues = some queues →
        (∃ queueName ∈ queueNames.head?, queueName ∈ queues) →
        RemovalGoesThrough answers selector queues queueNames updateDb ∧
          KeysKept s₁ queueProfile queueProfile.name queueNames
  | .expire _ => True

theorem dbAnswer_of_hasKey {table : ProfilesTable} {key : ProfileKey} (h : Unshared table)
    (hitem : table.get? id = some item) (hkey : HasKey id item key)
    (hp : convertFromDb item = .ok queueProfile) :
    dbAnswer ctx table key = .ok (some queueProfile) := by
  unfold dbAnswer
  rw [h.lookup_eq_some_iff.mpr ⟨id, hitem, hkey⟩]
  dsimp only
  rw [hp]
  rfl

theorem exists_item_of_dbAnswer {table : ProfilesTable} {key : ProfileKey} (h : Unshared table)
    (hwf : WellFormedTable table) (hp : dbAnswer ctx table key = .ok (some queueProfile)) :
    ∃ id item, table.get? id = some item ∧ convertFromDb item = .ok queueProfile ∧
      HasKey id item key := by
  unfold dbAnswer at hp
  split at hp
  · cases hp
  · rename_i item hlookup
    obtain ⟨id, hitem, hkey⟩ := h.lookup_eq_some_iff.mp hlookup
    obtain ⟨p, hdecoded, -⟩ := (hwf id item hitem).convertFromDb
    rw [hdecoded] at hp
    obtain rfl := Option.some.inj (Except.ok.inj hp)
    exact ⟨id, item, hitem, hdecoded, hkey⟩

theorem key?_updateSelector (hname : isEmptyString queueProfile.name = false) :
    (updateSelector queueProfile).key? ≠ none := by
  unfold ProfileSelector.key? updateSelector
  dsimp only
  split
  · rename_i hid
    cases hq : queueProfile.queueProfileId with
    | none => rw [hq] at hid; cases hid
    | some id => exact Option.some_ne_none _
  · rw [hname]
    cases hn : queueProfile.name with
    | none => rw [hn] at hname; cases hname
    | some n => exact Option.some_ne_none _

variable {queueProfileId : Option String} {updates : DbQueueProfile} {updated : HpcQueueProfile}

theorem keysOf_saved (hsaved : Saved answers s queueProfileId updates id item updated)
    (hqueues : updates.queues ≠ some []) (hname : TrimmedName (updates.name.or item.name))
    (hown : queueProfile.queueProfileId = some id) :
    keysOf updated = keysOf { queueProfile with
      name := updates.name.or item.name,
      queues := some (updates.queues.getD (queuesOf item)) } := by
  obtain ⟨n, hn, htrimmed⟩ := hname
  have hread : updated.name = updates.name.or item.name := by
    rw [hsaved.name, hn]
    exact htrimmed
  unfold keysOf
  rw [hsaved.own_id, hread, hsaved.queues, queuesOf_updatedItem id item hqueues, hown]

theorem mem_of_removed {queues queueNames : List String}
    (h : (removeQueues queues queueNames).2 = none) : ∀ q ∈ queueNames, q ∈ queues := by
  induction queueNames generalizing queues with
  | nil => exact fun q hq => absurd hq List.not_mem_nil
  | cons queueName queueNames ih =>
    rw [removeQueues] at h
    split at h
    · rename_i hmem
      exact List.forall_mem_cons.mpr ⟨hmem, fun q hq => List.mem_of_mem_erase (ih h q hq)⟩
    · cases h

namespace Synced

theorem congr (h : Synced ctx s) (ht : s'.table = s.table) (ho : s'.objects = s.objects)
    (hc : ∀ key ref, s'.cache.get? key = some ref → s.cache.get? key = some ref) :
    Synced ctx s' where
  unshared := ht ▸ h.unshared
  coherent := by
    intro key ref p hkey hp hnot
    rw [ho] at hp
    rw [ht]
    exact h.coherent key ref p (hc key ref hkey) hp hnot

theorem initialized (h : Synced ctx s) (queueProfile : HpcQueueProfile) :
    Synced ctx (initialized s queueProfile) :=
  h.congr (table_initialized s _) (objects_initialized s _) fun _ _ hkey =>
    cache_initialized s queueProfile ▸ hkey

theorem initializedIf (h : Synced ctx s) (b : Bool) (queueProfile : HpcQueueProfile) :
    Synced ctx (initializedIf b s queueProfile) := by
  cases b with
  | false => exact h
  | true => exact h.initialized queueProfile

theorem stopped (h : Synced ctx s) (id : Option String) : Synced ctx (stopped s id) :=
  h.congr (table_stopped s id) (objects_stopped s id) fun _ _ hkey => cache_stopped s id ▸ hkey

theorem expire (h : Synced ctx s) (key : ProfileKey) :
    Synced ctx { s with cache := s.cache.erase key } := by
  refine h.congr rfl rfl fun key' ref hkey => ?_
  rw [Dict.get?_erase] at hkey
  split at hkey
  · cases hkey
  · exact hkey

theorem uncached (h : Synced ctx s) (queueProfile : HpcQueueProfile) :
    Synced ctx (uncached s queueProfile) := by
  refine h.congr rfl rfl fun key ref hkey => ?_
  rw [get?_uncached] at hkey
  split at hkey
  · cases hkey
  · exact hkey

theorem cached_item (h : Synced ctx s) (hwf : WellFormed s) {key : ProfileKey} {ref : ℕ}
    (hkey : s.cache.get? key = some ref) (hp : s.objects[ref]? = some queueProfile) :
    ∃ id item, s.table.get? id = some item ∧ convertFromDb item = .ok queueProfile ∧
      HasKey id item key :=
  exists_item_of_dbAnswer h.unshared hwf.table
    (h.coherent key ref queueProfile hkey hp List.not_mem_nil)

theorem found_item (h : Synced ctx s) (hwf : WellFormed s) (hkey : selector.key? ≠ none)
    {ref : ℕ} (hrun : (getQueueProfile ctx answers selector).run s =
      (.ok (ref, queueProfile), s')) :
    ∃ id item, s'.table.get? id = some item ∧ convertFromDb item = .ok queueProfile ∧
      queueProfile.queueProfileId = some id := by
  have hitem : ∃ id item, s.table.get? id = some item ∧ convertFromDb item = .ok queueProfile := by
    rcases getQueueProfile_cases hrun with ⟨found, hcache, hr, rfl⟩ |
      ⟨-, ⟨_, -, he, -⟩ | ⟨p, hread, -, ⟨-, he⟩ | ⟨-, he⟩⟩⟩
    · obtain rfl := Except.ok.inj hr
      obtain ⟨key, -, hcache⟩ := Option.bind_eq_some_iff.mp hcache
      obtain ⟨ref', hget, hcache⟩ := Option.bind_eq_some_iff.mp hcache
      obtain ⟨p, hp, hcache⟩ := Option.bind_eq_some_iff.mp hcache
      obtain ⟨-, rfl⟩ := Prod.mk.inj (Option.some.inj hcache)
      obtain ⟨id, item, hitem, hdecoded, -⟩ := h.cached_item hwf hget hp
      exact ⟨id, item, hitem, hdecoded⟩
    · cases he
    · cases he
    · obtain ⟨-, rfl⟩ := Prod.mk.inj (Except.ok.inj he)
      rcases readProfile_cases hwf.table hread with
        ⟨hnone, -⟩ | ⟨_, id, item, -, -, hitem, hdecoded, -, -⟩
      · exact absurd hnone hkey
      · exact ⟨id, item, hitem, hdecoded⟩
  obtain ⟨id, item, hitem, hdecoded⟩ := hitem
  obtain ⟨p, hp, hown, -⟩ := (hwf.table id item hitem).convertFromDb
  obtain rfl := Except.ok.inj (hp.symm.trans hdecoded)
  exact ⟨id, item, table_getQueueProfile hrun ▸ hitem, hp, hown⟩

variable {item' : DbQueueProfile}

theorem withItem {keys : List ProfileKey} (hu : Unshared s.table) (h : CoherentBut ctx s keys)
    (hexclusive : Exclusive s.table id item'.name (queuesOf item'))
    (hold : ∀ item, s.table.get? id = some item → ∀ key ∈ s.cache.keys,
      HasKey id item key → key ∈ keys)
    (hnew : ∀ key ∈ s.cache.keys, HasKey id item' key → key ∈ keys) :
    CoherentBut ctx (withItem s id item') keys := by
  intro key ref p hkey hp hnot
  have hmem := Dict.mem_keys_of_get? hkey
  have hanswer := h key ref p hkey hp hnot
  unfold dbAnswer at hanswer ⊢
  rwa [show lookup ctx (QueueProfiles.withItem s id item').table key = lookup ctx s.table key from
    hu.lookup_set_of_not hexclusive (fun item hitem hhas => hnot (hold item hitem key hmem hhas))
      fun hhas => hnot (hnew key hmem hhas)]

theorem cached (hwf : WellFormed s) (hu : Unshared s.table) (hitem : s.table.get? id = some item)
    (hp : convertFromDb item = .ok queueProfile)
    (h : CoherentBut ctx s (keysOf queueProfile)) : Synced ctx (cached s queueProfile) where
  unshared := hu
  coherent := by
    intro key ref p hkey hobject _
    rw [get?_cached] at hkey
    rw [getElem?_cached] at hobject
    split at hkey
    · rename_i hmem
      rw [if_pos (Option.some.inj hkey).symm] at hobject
      obtain rfl := Option.some.inj hobject
      exact dbAnswer_of_hasKey hu hitem
        ((mem_keysOf_iff (hwf.table id item hitem) (hu.trimmed id item hitem) hp).mp hmem) hp
    · rename_i hnot
      obtain ⟨p', hp'⟩ := hwf.refs key ref hkey
      rw [if_neg (List.getElem?_eq_some_iff.mp hp').1.ne] at hobject
      exact h key ref p hkey hobject hnot

theorem refresh (hwf : WellFormed s) (hu : Unshared s.table) (hitem : WellFormedItem id item')
    (hexclusive : Exclusive s.table id item'.name (queuesOf item'))
    (hupdated : convertFromDb item' = .ok updated)
    (hold : ∀ item, s.table.get? id = some item → ∀ key ∈ s.cache.keys,
      HasKey id item key → key ∈ keysOf updated) (h : CoherentBut ctx s (keysOf updated)) :
    Synced ctx (QueueProfiles.cached (QueueProfiles.withItem s id item') updated) := by
  have hset : (QueueProfiles.withItem s id item').table.get? id = some item' :=
    (Dict.get?_set s.table id id item').trans (if_pos rfl)
  refine cached (hwf.withItem hitem) (hu.set hexclusive) hset hupdated ?_
  exact withItem hu h hexclusive hold fun key _ hhas =>
    (mem_keysOf_iff hitem hexclusive.trimmed hupdated).mpr hhas

theorem coherentBut (h : Synced ctx s) (keys : List ProfileKey) : CoherentBut ctx s keys :=
  fun key ref p hkey hp _ => h.coherent key ref p hkey hp List.not_mem_nil

theorem saved (hu : Unshared s.table) (hwf : WellFormed s)
    (hsaved : Saved answers s queueProfileId updates id item updated)
    (hupdates : WellFormedUpdates updates) (hp : convertFromDb item = .ok queueProfile)
    (hexclusive : Exclusive s.table id (updates.name.or item.name)
      (updates.queues.getD (queuesOf item)))
    (hkept : KeysKept s queueProfile (updates.name.or item.name)
      (updates.queues.getD (queuesOf item))) (h : CoherentBut ctx s (keysOf updated)) :
    Synced ctx (QueueProfiles.cached
      (QueueProfiles.withItem s id (updatedItem id item updates)) updated) := by
  have hitem := hwf.table id item hsaved.stored
  obtain ⟨p, hp', hown, -⟩ := hitem.convertFromDb
  obtain rfl := Except.ok.inj (hp'.symm.trans hp)
  have hqueues := queuesOf_updatedItem id item hupdates.queues
  refine refresh hwf hu (hitem.updatedItem hupdates) (hqueues ▸ hexclusive) hsaved.decoded
    (fun item' hitem' key hkey hhas => ?_) h
  obtain rfl := Option.some.inj (hsaved.stored.symm.trans hitem')
  rw [keysOf_saved hsaved hupdates.queues hexclusive.trimmed hown]
  exact hkept key ((mem_keysOf_iff hitem (hu.trimmed id item hitem') hp).mpr hhas) hkey

theorem saved_same (h : Synced ctx s) (hwf : WellFormed s)
    (hsaved : Saved answers s queueProfileId updates id item updated)
    (hupdates : WellFormedUpdates updates) (hname : updates.name = none)
    (hqueues : updates.queues = none) :
    Synced ctx (QueueProfiles.cached
      (QueueProfiles.withItem s id (updatedItem id item updates)) updated) := by
  have hu := h.unshared
  have hitem := hwf.table id item hsaved.stored
  obtain ⟨p, hp, -, -, -, hread'⟩ := hitem.convertFromDb
  have hread := name_of_decoded hitem (hu.trimmed id item hsaved.stored) hp
  refine saved hu hwf hsaved hupdates hp ?_ ?_ (h.coherentBut _)
  · rw [hname, hqueues]
    exact hu.exclusive hsaved.stored
  · rw [hname, hqueues]
    change KeysKept s p item.name (queuesOf item)
    rw [← hread]
    intro key hkey _
    unfold keysOf at hkey ⊢
    rwa [hread'] at hkey

variable {queueNames : List String}

theorem saved_queues (hu : Unshared s.table) (hwf : WellFormed s)
    (hsaved : Saved answers s queueProfileId { queues := some queueNames } id item updated)
    (hne : queueNames ≠ []) (hp : convertFromDb item = .ok queueProfile)
    (hfree : Free s.table id queueNames)
    (hkept : KeysKept s queueProfile queueProfile.name queueNames)
    (h : CoherentBut ctx s (keysOf updated)) :
    Synced ctx (QueueProfiles.cached (QueueProfiles.withItem s id
      (updatedItem id item { queues := some queueNames })) updated) := by
  have hitem := hwf.table id item hsaved.stored
  have htrimmed := hu.trimmed id item hsaved.stored
  refine saved hu hwf hsaved (wellFormedUpdates_queues hne) hp
    ⟨htrimmed, (hu.exclusive hsaved.stored).name, hfree⟩ ?_ h
  change KeysKept s queueProfile item.name queueNames
  rwa [← name_of_decoded hitem htrimmed hp]

theorem withNewItem (h : Synced ctx s) (hwf : WellFormed s) (hnew : id ∉ s.table.keys)
    (hexclusive : Exclusive s.table id item'.name (queuesOf item')) :
    Synced ctx (QueueProfiles.withItem s id item') where
  unshared := h.unshared.set hexclusive
  coherent := by
    refine withItem h.unshared h.coherent hexclusive (fun item hitem => ?_) fun key hkey hhas => ?_
    · exact absurd (Dict.mem_keys_of_get? hitem) hnew
    · obtain ⟨ref, href⟩ := Dict.exists_get?_of_mem_keys hkey
      obtain ⟨p, hp⟩ := hwf.refs key ref href
      obtain ⟨id', item, hitem, -, hhas'⟩ := h.cached_item hwf href hp
      obtain rfl := hexclusive.eq_of_hasKey hitem hhas hhas'
      exact absurd (Dict.mem_keys_of_get? hitem) hnew

theorem withoutItem (h : Synced ctx s)
    (hnot : ∀ item, s.table.get? id = some item → ∀ key ∈ s.cache.keys, ¬ HasKey id item key) :
    Synced ctx (withoutItem s id) where
  unshared := h.unshared.erase id
  coherent := by
    intro key ref p hkey hp _
    have hanswer := h.coherent key ref p hkey hp List.not_mem_nil
    unfold dbAnswer at hanswer ⊢
    rwa [show lookup ctx (QueueProfiles.withoutItem s id).table key = lookup ctx s.table key from
      h.unshared.lookup_erase_of_not fun item hitem => hnot item hitem key
        (Dict.mem_keys_of_get? hkey)]

theorem getQueueProfile (h : Synced ctx s) (hwf : WellFormed s) (hkey : selector.key? ≠ none)
    {r : Except Raised (ℕ × HpcQueueProfile)}
    (hrun : (getQueueProfile ctx answers selector).run s = (r, s')) : Synced ctx s' := by
  rcases getQueueProfile_state hrun with rfl | ⟨p, hread, rfl⟩
  · exact h
  · rcases readProfile_cases hwf.table hread with
      ⟨hnone, -⟩ | ⟨_, id, item, -, -, hitem, hdecoded, -, -⟩
    · exact absurd hnone hkey
    exact cached hwf h.unshared hitem hdecoded (h.coherentBut _)

theorem withObject {keys : List ProfileKey} {ref : ℕ} (h : Synced ctx s) (hwf : WellFormed s)
    (hobject : s.objects[ref]? = some queueProfile)
    (hkeys : ∀ key ∈ keysOf queueProfile, key ∈ s.cache.keys → key ∈ keys)
    (changed : HpcQueueProfile) : CoherentBut ctx (withObject s ref changed) keys := by
  intro key ref' p hkey hp hnot
  have hne : ref ≠ ref' := by
    rintro rfl
    obtain ⟨id, item, hitem, hdecoded, hhas⟩ := h.cached_item hwf hkey hobject
    refine hnot (hkeys key ?_ (Dict.mem_keys_of_get? hkey))
    exact (mem_keysOf_iff (hwf.table id item hitem) (h.unshared.trimmed id item hitem)
      hdecoded).mpr hhas
  change (s.objects.set ref changed)[ref']? = some p at hp
  rw [List.getElem?_set_ne hne] at hp
  exact h.coherent key ref' p hkey hp List.not_mem_nil

theorem createQueueProfile {request : HpcQueueProfile} (h : Synced ctx s) (hwf : WellFormed s)
    (hnew : answers.uuid ∉ s.table.keys) (huuid : getAsString answers.uuid = some answers.uuid)
    (hsafe : LeavesNoStaleKey ctx answers s (.createQueueProfile request)) :
    Synced ctx ((createQueueProfile ctx answers request).run s).2 := by
  rcases hrun : (QueueProfiles.createQueueProfile ctx answers request).run s with ⟨r, s'⟩
  rcases createQueueProfile_cases hrun with
    ⟨_, -, rfl⟩ | ⟨p, queues, hvalid, hqueues, hne, hname, hreads, hwrites, hends⟩
  · exact h
  obtain ⟨htrimmed, hfree⟩ := hsafe p queues hvalid hqueues hname hreads hwrites
  have hitem := wellFormedItem_createdItem huuid hqueues hne
  have hexclusive : Exclusive s.table answers.uuid (createdItem answers p).name
      (queuesOf (createdItem answers p)) := by
    refine ⟨htrimmed, fun id item hitem _ => ?_, ?_⟩
    · obtain ⟨n, hn, -⟩ := htrimmed
      rw [hn] at hname
      change item.name ≠ p.name
      rw [hn]
      exact name_ne_of_lookup ctx hname hitem
    · have hlist : queuesOf (createdItem answers p) = queues := by
        change (getValueAsList p.queues).getD [] = queues
        rw [getValueAsList_eq_self.mpr] <;> rw [hqueues]
        · rfl
        · simpa using hne
      rw [hlist]
      exact hfree
  rcases hends with ⟨_, -, -, rfl⟩ | ⟨-, -, rfl⟩
  · exact h.withNewItem hwf hnew hexclusive
  · refine refresh hwf h.unshared hitem hexclusive (convertFromDb_convertToDb _)
      (fun item hitem => ?_) (h.coherentBut _)
    exact absurd (Dict.mem_keys_of_get? hitem) hnew

theorem updateQueueProfile {request : HpcQueueProfile} (h : Synced ctx s) (hwf : WellFormed s)
    (hsafe : LeavesNoStaleKey ctx answers s (.updateQueueProfile request)) :
    Synced ctx ((updateQueueProfile ctx answers request).run s).2 := by
  rcases hrun : (QueueProfiles.updateQueueProfile ctx answers request).run s with ⟨r, s'⟩
  obtain rfl | ⟨p, _, s₁, hvalid, hfound, hends⟩ := updateQueueProfile_cases hwf.table hrun
  · exact h
  have hkey : (updateSelector p).key? ≠ none := by
    obtain ⟨heq, hname, -⟩ := sanitized_of_valid hvalid
    obtain ⟨stackUuid, hstack⟩ := withStackUuid_eq answers.stackUuid request
    refine key?_updateSelector ?_
    rw [heq, hstack]
    exact hname
  have h₁ := h.getQueueProfile hwf hkey hfound
  rcases hends with rfl | ⟨ref, existing, id, item, updated, rfl, hsaved, hends⟩
  · exact h₁
  obtain ⟨queues, hqueues, -, hne⟩ := queues_of_valid hvalid
  have hwf₁ := hwf.getQueueProfile hfound
  obtain ⟨id', item', hitem', hdecoded, hown⟩ := h.found_item hwf hkey hfound
  obtain rfl : id' = id := Option.some.inj (hown.symm.trans hsaved.id_eq)
  obtain rfl := Option.some.inj (hsaved.stored.symm.trans hitem')
  obtain ⟨hexclusive, hkept, hscheduled⟩ :=
    hsafe p queues ref existing s₁ id' hvalid hqueues hfound hown hsaved.writes
  have hupdates : WellFormedUpdates (convertToDb p) :=
    wellFormedUpdates_convertToDb (by rw [hqueues]; simpa using hne)
  have hwritten : updated.queues.getD [] = queues := by
    rw [hsaved.queues, Option.getD_some, queuesOf_updatedItem id' item hupdates.queues]
    change p.queues.getD (queuesOf item) = queues
    rw [hqueues, Option.getD_some]
  rcases hends with ⟨e, hscheduler, rfl⟩ | ⟨-, rfl⟩
  · obtain ⟨_, hok⟩ := hscheduled
    rw [hwritten, hok] at hscheduler
    cases hscheduler
  · refine Synced.initialized ?_ updated
    obtain ⟨n, hn, -⟩ := hexclusive.trimmed
    have hname : (convertToDb p).name.or item.name = p.name := by
      change p.name.or item.name = p.name
      rw [hn, Option.some_or]
    have hlist : (convertToDb p).queues.getD (queuesOf item) = queues := by
      change p.queues.getD (queuesOf item) = queues
      rw [hqueues, Option.getD_some]
    refine saved h₁.unshared hwf₁ hsaved hupdates hdecoded ?_ ?_ (h₁.coherentBut _)
    · rwa [hname, hlist, table_getQueueProfile hfound]
    · rwa [hname, hlist]

theorem deleteQueueProfile {deleteQueues : Option Bool} (h : Synced ctx s) (hwf : WellFormed s)
    (hkey : selector.withoutQueue.key? ≠ none) :
    Synced ctx ((deleteQueueProfile ctx answers selector deleteQueues).run s).2 := by
  rcases hrun : (QueueProfiles.deleteQueueProfile ctx answers selector deleteQueues).run s
    with ⟨r, s'⟩
  obtain ⟨_, s₁, hfound, hends⟩ := deleteQueueProfile_cases hrun
  have h₁ := h.getQueueProfile hwf hkey hfound
  rcases hends with ⟨rfl, -⟩ | ⟨ref, p, rfl, ⟨_, -, rfl⟩ | ⟨-, ⟨rfl, -⟩ | ⟨id, hid, -, -, rfl⟩⟩⟩
  · exact h₁
  · exact h₁.stopped _
  · exact (h₁.stopped _).uncached p
  · refine ((h₁.stopped (some id)).uncached p).withoutItem fun item hitem key hmem hhas => ?_
    obtain ⟨id', item', hitem', hdecoded, hown⟩ := h.found_item hwf hkey hfound
    obtain rfl : id' = id := Option.some.inj (hown.symm.trans hid)
    have hitem : s₁.table.get? id' = some item := table_stopped s₁ (some id') ▸ hitem
    obtain rfl := Option.some.inj (hitem.symm.trans hitem')
    have hkeys := (mem_keysOf_iff ((hwf.getQueueProfile hfound).table id' item hitem)
      (h₁.unshared.trimmed id' item hitem) hdecoded).mpr hhas
    obtain ⟨ref', href⟩ := Dict.exists_get?_of_mem_keys hmem
    rw [get?_uncached, if_pos hkeys] at href
    cases href

theorem createQueues {updateDb checkExistingProfile : Bool} (h : Synced ctx s) (hwf : WellFormed s)
    (hsafe : LeavesNoStaleKey ctx answers s
      (.createQueues queueNames selector updateDb checkExistingProfile)) :
    Synced ctx
      ((createQueues ctx answers queueNames selector updateDb checkExistingProfile).run s).2 := by
  rcases hrun : (QueueProfiles.createQueues ctx answers queueNames selector updateDb
    checkExistingProfile).run s with ⟨r, s'⟩
  by_cases hne : queueNames = []
  · rw [QueueProfiles.createQueues, if_pos hne] at hrun
    obtain ⟨-, rfl⟩ := Prod.mk.inj hrun
    exact h
  obtain ⟨hnil, -⟩ | ⟨_, s₁, hfound, hends⟩ := createQueues_cases hwf.table hrun
  · exact absurd hnil hne
  obtain ⟨hkey, hsafe⟩ := hsafe hne
  have h₁ := h.getQueueProfile hwf hkey hfound
  rcases hends with ⟨-, rfl, -⟩ | ⟨ref, p, rfl, hcreated, -, ⟨-, rfl⟩ |
    ⟨rfl, id, item, updated, hsaved, rfl⟩⟩
  · exact h₁
  · exact h₁.initialized p
  · have hwf₁ := hwf.getQueueProfile hfound
    have htrimmed := (hwf₁.table id item hsaved.stored).trimmed
    have hselects := nonempty_of_trimmed htrimmed
    have hfid := id_of_found hwf (key?_of_id hsaved.id_eq hselects) hfound
    obtain ⟨id', item', hitem', hdecoded, hown⟩ := h.found_item hwf hkey hfound
    obtain rfl : id' = id := by
      rw [hown] at hfid
      exact hfid
    obtain rfl := Option.some.inj (hsaved.stored.symm.trans hitem')
    obtain ⟨hfree, hkept⟩ := hsafe rfl ref p s₁ id' hfound hown hcreated
      (hsaved.id_eq ▸ hselects) hsaved.writes
    refine (saved_queues h₁.unshared hwf₁ hsaved hne hdecoded ?_ hkept
      (h₁.coherentBut _)).initialized updated
    cases checkExistingProfile with
    | false =>
      rw [table_getQueueProfile hfound]
      exact hfree rfl
    | true => exact free_of_checked hwf₁.table h₁.unshared.queues hfid (hcreated.checked rfl)

theorem deleteQueues {updateDb initializeProvisioner : Bool} (h : Synced ctx s) (hwf : WellFormed s)
    (hsafe : LeavesNoStaleKey ctx answers s
      (.deleteQueues queueNames selector updateDb initializeProvisioner)) :
    Synced ctx
      ((deleteQueues ctx answers queueNames selector updateDb initializeProvisioner).run s).2 := by
  rcases hrun : (QueueProfiles.deleteQueues ctx answers queueNames selector updateDb
    initializeProvisioner).run s with ⟨r, s'⟩
  obtain ⟨-, -, rfl⟩ | ⟨hne, _, s₁, hfound, hends⟩ := deleteQueues_cases hwf.table hrun
  · exact h
  obtain ⟨hkey, hsafe⟩ := hsafe hne
  have h₁ := h.getQueueProfile hwf hkey hfound
  have hwf₁ := hwf.getQueueProfile hfound
  rcases hends with ⟨-, rfl, -⟩ | ⟨ref, p, queues, rfl, hqueues, hends⟩
  · exact h₁
  have hobject := exists_object_of_found hwf hfound
  by_cases hfirst : ∃ queueName ∈ queueNames.head?, queueName ∈ queues
  · obtain ⟨⟨hdb, hselects, hremoved, hdeleted, hwrites⟩, hkept⟩ :=
      hsafe ref p s₁ queues hfound hqueues hfirst
    obtain ⟨id, item, hitem, hdecoded, hown⟩ := h.found_item hwf hkey hfound
    have hid : selector.queueProfileId = some id := by
      cases hsel : selector.queueProfileId with
      | none => rw [hsel] at hselects; cases hselects
      | some id' =>
        rw [hsel] at hselects
        have hfid := id_of_found hwf (key?_of_id hsel hselects) hfound
        rw [hown] at hfid
        exact congrArg some hfid.symm
    rcases hends with ⟨-, -, hrefused⟩ | ⟨-, -, -, ⟨hdb', -⟩ |
      ⟨-, id', item', updated, hsaved, rfl⟩⟩
    · rcases hrefused with hnot | hnot | ⟨-, hempty | hnot | ⟨id', hid', hnone⟩⟩
      · exact absurd hremoved hnot
      · exact absurd hdeleted hnot
      · cases hempty.symm.trans hselects
      · exact absurd hwrites hnot
      · obtain rfl := Option.some.inj (hid.symm.trans hid')
        cases hitem.symm.trans hnone
    · cases hdb.symm.trans hdb'
    · obtain rfl := Option.some.inj (hid.symm.trans hsaved.id_eq)
      obtain rfl := Option.some.inj (hsaved.stored.symm.trans hitem)
      have hwf' := hwf₁.table id item' hsaved.stored
      have htrimmed := h₁.unshared.trimmed id item' hsaved.stored
      have hlist : queues = queuesOf item' := by
        obtain ⟨p', hp', -, -, -, hread⟩ := hwf'.convertFromDb
        obtain rfl := Except.ok.inj (hp'.symm.trans hdecoded)
        exact Option.some.inj (hqueues.symm.trans hread)
      have hfree : Free s₁.table id queueNames := fun id' other hother hne' q hq =>
        h₁.unshared.queues.free hsaved.stored id' other hother hne' q
          (hlist ▸ mem_of_removed hremoved q hq)
      have hsaved₂ : Saved answers
          (QueueProfiles.withObject s₁ ref (remaining p queues queueNames))
          selector.queueProfileId { queues := some queueNames } id item' updated :=
        ⟨hsaved.1, hsaved.2, hsaved.3, hsaved.4, hsaved.5, hsaved.6, hsaved.7, hsaved.8⟩
      have hu₂ : Unshared (QueueProfiles.withObject s₁ ref
          (remaining p queues queueNames)).table := h₁.unshared
      refine (saved_queues hu₂ (hwf₁.withObject hobject queues queueNames) hsaved₂ hne
        hdecoded hfree hkept (h₁.withObject hwf₁ hobject ?_ _)).initializedIf _ updated
      rw [keysOf_saved hsaved (wellFormedUpdates_queues hne).queues htrimmed hown]
      change KeysKept s₁ p item'.name queueNames
      rwa [← name_of_decoded hwf' htrimmed hdecoded]
  · have hremaining : remaining p queues queueNames = p := by
      cases queueNames with
      | nil => exact absurd rfl hne
      | cons queueName queueNames =>
        exact remaining_of_not_mem hqueues (fun hq => hfirst ⟨queueName, rfl, hq⟩) queueNames
    have hself : Synced ctx (QueueProfiles.withObject s₁ ref (remaining p queues queueNames)) := by
      rw [hremaining, withObject_self hobject]
      exact h₁
    rcases hends with ⟨-, rfl, -⟩ | ⟨hremoved, -⟩
    · exact hself
    · cases queueNames with
      | nil => exact absurd rfl hne
      | cons queueName queueNames =>
        rw [removeQueues_of_not_mem fun hq => hfirst ⟨queueName, rfl, hq⟩] at hremoved
        cases hremoved

theorem perform (h : Synced ctx s) (hwf : WellFormed s) (hnew : answers.uuid ∉ s.table.keys)
    (huuid : getAsString answers.uuid = some answers.uuid) {request : Request}
    (hsafe : LeavesNoStaleKey ctx answers s request) :
    Synced ctx (perform ctx answers s request) := by
  cases request with
  | start =>
    change Synced ctx ((start ctx answers).run s).2
    rcases hrun : (start ctx answers).run s with ⟨r, s'⟩
    rcases start_cases hrun with ⟨-, rfl⟩ | ⟨-, ⟨rfl, -⟩ | ⟨queueProfiles, -, -, -, hloop⟩⟩
    · exact h
    · exact h.congr rfl rfl fun _ _ hkey => hkey
    · refine forEach_invariant (Synced ctx) hloop (h.congr rfl rfl fun _ _ hkey => hkey) ?_
      intro p _ s r s' hs hinit
      rw [initializeJobProvisioner_state hinit]
      exact hs.initialized p
  | createQueueProfile request => exact h.createQueueProfile hwf hnew huuid hsafe
  | getQueueProfile selector =>
    change Synced ctx ((QueueProfiles.getQueueProfile ctx answers selector).run s).2
    rcases hrun : (QueueProfiles.getQueueProfile ctx answers selector).run s with ⟨r, s'⟩
    exact h.getQueueProfile hwf hsafe hrun
  | enableQueueProfile selector =>
    change Synced ctx ((enableQueueProfile ctx answers selector).run s).2
    rcases hrun : (enableQueueProfile ctx answers selector).run s with ⟨r, s'⟩
    obtain ⟨_, s₁, hfound, rfl | ⟨ref, p, id, item, updated, -, -, hsaved, rfl⟩⟩ :=
      enableQueueProfile_cases hwf.table hrun
    · exact h.getQueueProfile hwf hsafe hfound
    · exact ((h.getQueueProfile hwf hsafe hfound).saved_same (hwf.getQueueProfile hfound) hsaved
        (wellFormedUpdates_enabled true) rfl rfl).initialized updated
  | disableQueueProfile selector =>
    change Synced ctx ((disableQueueProfile ctx answers selector).run s).2
    rcases hrun : (disableQueueProfile ctx answers selector).run s with ⟨r, s'⟩
    obtain ⟨_, s₁, hfound, rfl | ⟨ref, p, id, item, updated, -, -, hsaved, rfl⟩⟩ :=
      disableQueueProfile_cases hwf.table hrun
    · exact h.getQueueProfile hwf hsafe hfound
    · exact ((h.getQueueProfile hwf hsafe hfound).saved_same (hwf.getQueueProfile hfound) hsaved
        (wellFormedUpdates_enabled false) rfl rfl).stopped (some id)
  | updateQueueProfile request => exact h.updateQueueProfile hwf hsafe
  | deleteQueueProfile selector deleteQueues => exact h.deleteQueueProfile hwf hsafe
  | createQueues queueNames selector updateDb checkExistingProfile =>
    exact h.createQueues hwf hsafe
  | deleteQueues queueNames selector updateDb initializeProvisioner =>
    exact h.deleteQueues hwf hsafe
  | expire key => exact h.expire key

end Synced

end Idea.QueueProfiles

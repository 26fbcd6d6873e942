import Idea.QueueProfiles.Outcomes
import Idea.System.Run

/-! # What every request keeps

The items of the table are well formed. A cached reference is one of an object, which has the id
that it is cached under, and an object with an id has a list of queues.
-/

namespace Idea.QueueProfiles

open HpcQueueProfilesDAO HpcQueueProfilesService Stateful

variable {ctx : ServiceContext} {answers : Answers} {s s' : ServiceState}
  {selector : ProfileSelector} {queueProfile : HpcQueueProfile}

/-- The service before its first request. -/
structure Initial (s : ServiceState) : Prop where
  table : WellFormedTable s.table
  objects : s.objects = []
  cache : s.cache = ∅
  provisioners : s.provisioners = []
  registered : s.registered = ∅
  isRunning : s.isRunning = false

structure WellFormed (s : ServiceState) : Prop where
  table : WellFormedTable s.table
  /-- Every cached reference is one of an object. -/
  refs : ∀ key ref, s.cache.get? key = some ref → ∃ p, s.objects[ref]? = some p
  ids : ∀ id ref p, s.cache.get? (.id id) = some ref → s.objects[ref]? = some p →
    p.queueProfileId.getD "None" = id
  queues : ∀ p ∈ s.objects, p.queueProfileId = none ∨ p.queues ≠ none

theorem Initial.wellFormed (h : Initial s) : WellFormed s where
  table := h.table
  refs := by
    intro key ref hkey
    rw [h.cache] at hkey
    cases hkey
  ids := by
    intro id ref p hkey
    rw [h.cache] at hkey
    cases hkey
  queues := by
    intro p hp
    rw [h.objects] at hp
    exact absurd hp List.not_mem_nil

theorem get?_cached (s : ServiceState) (queueProfile : HpcQueueProfile) (key : ProfileKey) :
    (cached s queueProfile).cache.get? key =
      if key ∈ keysOf queueProfile then some s.objects.length else s.cache.get? key := by
  have hset : ∀ (keys : List ProfileKey) (cache : Dict ProfileKey ℕ),
      (keys.foldl (fun cache key => cache.set key s.objects.length) cache).get? key =
        if key ∈ keys then some s.objects.length else cache.get? key := by
    intro keys
    induction keys with
    | nil => intro cache; rfl
    | cons k keys ih =>
      intro cache
      rw [List.foldl_cons, ih, Dict.get?_set]
      by_cases hk : key ∈ keys
      · simp [hk]
      · by_cases hk' : key = k <;> simp [hk, hk']
  exact hset (keysOf queueProfile) s.cache

theorem get?_uncached (s : ServiceState) (queueProfile : HpcQueueProfile) (key : ProfileKey) :
    (uncached s queueProfile).cache.get? key =
      if key ∈ keysOf queueProfile then none else s.cache.get? key :=
  Dict.get?_foldl_erase (keysOf queueProfile) s.cache key

variable {ref : ℕ}

theorem getElem?_cached (s : ServiceState) (queueProfile : HpcQueueProfile) :
    (cached s queueProfile).objects[ref]? =
      if ref = s.objects.length then some queueProfile else s.objects[ref]? := by
  change (s.objects ++ [queueProfile])[ref]? = _
  rcases lt_trichotomy ref s.objects.length with h | rfl | h
  · rw [List.getElem?_append_left h, if_neg h.ne]
  · rw [List.getElem?_concat_length, if_pos rfl]
  · rw [if_neg h.ne', List.getElem?_eq_none (by rw [List.length_append]; exact h),
      List.getElem?_eq_none h.le]

variable {id : String}

theorem id_mem_keysOf :
    .id id ∈ keysOf queueProfile ↔ queueProfile.queueProfileId.getD "None" = id := by
  simp [keysOf, eq_comm]

variable {item : DbQueueProfile}

namespace WellFormed

theorem cached (h : WellFormed s)
    (hq : queueProfile.queueProfileId = none ∨ queueProfile.queues ≠ none) :
    WellFormed (cached s queueProfile) where
  table := h.table
  refs := by
    intro key ref hkey
    rw [getElem?_cached]
    split
    · exact ⟨_, rfl⟩
    · rename_i hne
      rw [get?_cached] at hkey
      split at hkey
      · exact absurd (Option.some.inj hkey).symm hne
      · exact h.refs key ref hkey
  ids := by
    intro id ref p hkey hp
    rw [get?_cached] at hkey
    rw [getElem?_cached] at hp
    split at hkey
    · rename_i hid
      rw [if_pos (Option.some.inj hkey).symm] at hp
      exact Option.some.inj hp ▸ id_mem_keysOf.mp hid
    · obtain ⟨p', hp'⟩ := h.refs _ ref hkey
      have hlt : ref < s.objects.length := (List.getElem?_eq_some_iff.mp hp').1
      rw [if_neg hlt.ne] at hp
      exact h.ids id ref p hkey hp
  queues := by
    intro p hp
    rcases List.mem_append.mp hp with hp | hp
    · exact h.queues p hp
    · exact List.mem_singleton.mp hp ▸ hq

theorem uncached (h : WellFormed s) : WellFormed (uncached s queueProfile) where
  table := h.table
  refs := by
    intro key ref hkey
    rw [get?_uncached] at hkey
    split at hkey
    · cases hkey
    · exact h.refs key ref hkey
  ids := by
    intro id ref p hkey hp
    rw [get?_uncached] at hkey
    split at hkey
    · cases hkey
    · exact h.ids id ref p hkey hp
  queues := h.queues

theorem expire (h : WellFormed s) (key : ProfileKey) :
    WellFormed { s with cache := s.cache.erase key } where
  table := h.table
  refs := by
    intro key' ref hkey
    rw [Dict.get?_erase] at hkey
    split at hkey
    · cases hkey
    · exact h.refs key' ref hkey
  ids := by
    intro id ref p hkey hp
    rw [Dict.get?_erase] at hkey
    split at hkey
    · cases hkey
    · exact h.ids id ref p hkey hp
  queues := h.queues

theorem withObject (h : WellFormed s) {p : HpcQueueProfile} (hp : s.objects[ref]? = some p)
    (queues queueNames : List String) :
    WellFormed (withObject s ref (remaining p queues queueNames)) where
  table := h.table
  refs := by
    intro key ref' hkey
    obtain ⟨p', hp'⟩ := h.refs key ref' hkey
    have hlt : ref' < s.objects.length := (List.getElem?_eq_some_iff.mp hp').1
    have hlt' : ref' < (s.objects.set ref (remaining p queues queueNames)).length := by
      rwa [List.length_set]
    exact ⟨_, List.getElem?_eq_getElem hlt'⟩
  ids := by
    intro id ref' p' hkey hp'
    change (s.objects.set ref (remaining p queues queueNames))[ref']? = some p' at hp'
    by_cases heq : ref = ref'
    · subst heq
      rw [List.getElem?_set_self (List.getElem?_eq_some_iff.mp hp).1] at hp'
      obtain rfl := Option.some.inj hp'
      exact h.ids id ref p hkey hp
    · rw [List.getElem?_set_ne heq] at hp'
      exact h.ids id ref' p' hkey hp'
  queues := by
    intro p' hp'
    rcases List.mem_or_eq_of_mem_set hp' with hp' | rfl
    · exact h.queues p' hp'
    · exact .inr (Option.some_ne_none _)

theorem congr (h : WellFormed s) (ht : s'.table = s.table) (ho : s'.objects = s.objects)
    (hc : s'.cache = s.cache) : WellFormed s' where
  table := ht ▸ h.table
  refs := by rw [ho, hc]; exact h.refs
  ids := by rw [ho, hc]; exact h.ids
  queues := by rw [ho]; exact h.queues

theorem stopped (h : WellFormed s) (id : Option String) : WellFormed (stopped s id) :=
  h.congr (table_stopped s id) (objects_stopped s id) (cache_stopped s id)

theorem initialized (h : WellFormed s) (queueProfile : HpcQueueProfile) :
    WellFormed (initialized s queueProfile) :=
  h.congr (table_initialized s _) (objects_initialized s _) (cache_initialized s _)

theorem initializedIf (h : WellFormed s) (b : Bool) (queueProfile : HpcQueueProfile) :
    WellFormed (initializedIf b s queueProfile) := by
  cases b with
  | false => exact h
  | true => exact h.initialized queueProfile

theorem withItem (h : WellFormed s) (hitem : WellFormedItem id item) :
    WellFormed (withItem s id item) where
  table := by
    intro id' item' hget
    change (s.table.set id item).get? id' = some item' at hget
    rw [Dict.get?_set] at hget
    split at hget
    · rename_i heq
      obtain rfl := Option.some.inj hget
      exact heq ▸ hitem
    · exact h.table id' item' hget
  refs := h.refs
  ids := h.ids
  queues := h.queues

theorem withoutItem (h : WellFormed s) (id : String) : WellFormed (withoutItem s id) where
  table := by
    intro id' item' hget
    change (s.table.erase id).get? id' = some item' at hget
    rw [Dict.get?_erase] at hget
    split at hget
    · cases hget
    · exact h.table id' item' hget
  refs := h.refs
  ids := h.ids
  queues := h.queues

end WellFormed

variable {table : ProfilesTable}

theorem exists_id_of_mem_scan (h : item ∈ ctx.scan table) : ∃ id, table.get? id = some item := by
  obtain ⟨⟨id, item'⟩, he, rfl⟩ := List.mem_map.mp ((ctx.scan_perm table).mem_iff.mp h)
  exact ⟨id, Dict.get?_of_mem_entries he⟩

theorem mem_scan_of_get? (h : table.get? id = some item) : item ∈ ctx.scan table :=
  (ctx.scan_perm table).mem_iff.mpr (List.mem_map_of_mem (Dict.mem_entries_of_get? h))

theorem exists_id_of_lookup (key : ProfileKey) (h : lookup ctx table key = some item) :
    ∃ id, table.get? id = some item := by
  cases key with
  | id id => exact ⟨id, h⟩
  | name name => exact exists_id_of_mem_scan (List.mem_of_find?_eq_some h)
  | queue queue => exact exists_id_of_mem_scan (List.mem_of_find?_eq_some h)

theorem readProfile_cases (hwf : WellFormedTable s.table)
    (h : readProfile ctx answers s.table selector = .ok queueProfile) :
    (selector.key? = none ∧ queueProfile.queueProfileId = none) ∨
      ∃ key id item, selector.key? = some key ∧ lookup ctx s.table key = some item ∧
        s.table.get? id = some item ∧ convertFromDb item = .ok queueProfile ∧
        queueProfile.queueProfileId = some id ∧ queueProfile.queues = some (queuesOf item) := by
  unfold readProfile at h
  split at h
  · rename_i hkey
    obtain rfl := Except.ok.inj h
    exact .inl ⟨hkey, rfl⟩
  · rename_i key hkey
    split at h
    · cases h
    · cases h
    · rename_i item _ hitem
      obtain ⟨id, hid⟩ := exists_id_of_lookup key hitem
      obtain ⟨p, hp, hown, -, -, hqueues⟩ := (hwf id item hid).convertFromDb
      obtain rfl := Except.ok.inj (hp.symm.trans h)
      exact .inr ⟨key, id, item, hkey, hitem, hid, hp, hown, hqueues⟩

theorem WellFormed.getQueueProfile (hwf : WellFormed s) {r : Except Raised (ℕ × HpcQueueProfile)}
    (h : (getQueueProfile ctx answers selector).run s = (r, s')) : WellFormed s' := by
  rcases getQueueProfile_state h with rfl | ⟨p, hread, rfl⟩
  · exact hwf
  · refine hwf.cached ?_
    rcases readProfile_cases hwf.table hread with ⟨-, hid⟩ | ⟨_, _, _, -, -, -, -, -, hqueues⟩
    · exact .inl hid
    · exact .inr (hqueues ▸ Option.some_ne_none _)

theorem exists_object_of_found (hwf : WellFormed s)
    (h : (QueueProfiles.getQueueProfile ctx answers selector).run s =
      (.ok (ref, queueProfile), s')) : s'.objects[ref]? = some queueProfile := by
  rcases getQueueProfile_cases h with ⟨found, hcache, hr, rfl⟩ |
    ⟨-, ⟨_, -, he, -⟩ | ⟨p, -, rfl, ⟨-, he⟩ | ⟨-, he⟩⟩⟩
  · obtain rfl := Except.ok.inj hr
    obtain ⟨key, -, hcache⟩ := Option.bind_eq_some_iff.mp hcache
    obtain ⟨ref', -, hcache⟩ := Option.bind_eq_some_iff.mp hcache
    obtain ⟨p, hp, hcache⟩ := Option.bind_eq_some_iff.mp hcache
    obtain ⟨rfl, rfl⟩ := Prod.mk.inj (Option.some.inj hcache)
    exact hp
  · cases he
  · cases he
  · obtain ⟨rfl, rfl⟩ := Prod.mk.inj (Except.ok.inj he)
    rw [getElem?_cached, if_pos rfl]

theorem exists_cached_of_found (h : (QueueProfiles.getQueueProfile ctx answers selector).run s =
      (.ok (ref, queueProfile), s')) : ∃ key, s'.cache.get? key = some ref := by
  rcases getQueueProfile_cases h with ⟨found, hcache, hr, rfl⟩ |
    ⟨-, ⟨_, -, he, -⟩ | ⟨p, -, rfl, ⟨-, he⟩ | ⟨-, he⟩⟩⟩
  · obtain rfl := Except.ok.inj hr
    obtain ⟨key, -, hcache⟩ := Option.bind_eq_some_iff.mp hcache
    obtain ⟨ref', hget, hcache⟩ := Option.bind_eq_some_iff.mp hcache
    obtain ⟨p, -, hcache⟩ := Option.bind_eq_some_iff.mp hcache
    obtain ⟨rfl, -⟩ := Prod.mk.inj (Option.some.inj hcache)
    exact ⟨key, hget⟩
  · cases he
  · cases he
  · obtain ⟨rfl, rfl⟩ := Prod.mk.inj (Except.ok.inj he)
    refine ⟨.id (queueProfile.queueProfileId.getD "None"), ?_⟩
    rw [get?_cached, if_pos (id_mem_keysOf.mpr rfl)]

theorem WellFormed.saved (h : WellFormed s) {queueProfileId : Option String}
    {updates : DbQueueProfile} {updated : HpcQueueProfile}
    (hsaved : Saved answers s queueProfileId updates id item updated)
    (hu : WellFormedUpdates updates) :
    WellFormed (QueueProfiles.cached (QueueProfiles.withItem s id (updatedItem id item updates))
      updated) :=
  (h.withItem ((h.table id item hsaved.stored).updatedItem hu)).cached
    (.inr (hsaved.queues ▸ Option.some_ne_none _))

theorem wellFormedItem_createdItem {queues : List String}
    (huuid : getAsString answers.uuid = some answers.uuid)
    (hqueues : queueProfile.queues = some queues) (hne : queues ≠ []) :
    WellFormedItem answers.uuid (createdItem answers queueProfile) where
  own_id := rfl
  trimmed := huuid
  has_queues := by
    change (getValueAsList queueProfile.queues).getD [] ≠ []
    rw [getValueAsList_eq_self.mpr] <;> rw [hqueues]
    · exact hne
    · simpa using hne
  decodable := decodable_convertToDb _

theorem queues_of_valid {jobParamsValid : SocaJobParams → Bool} {uuid : String}
    {request : HpcQueueProfile}
    (h : validateAndSanitizeQueueProfile jobParamsValid uuid request = .ok queueProfile) :
    ∃ queues, queueProfile.queues = some queues ∧ request.queues = some queues ∧
      queues ≠ [] := by
  obtain ⟨rfl, -, queues, hrequest, hne⟩ := sanitized_of_valid h
  obtain ⟨stackUuid, hstack⟩ := withStackUuid_eq uuid request
  exact ⟨queues, by rw [hstack]; exact hrequest, hrequest, hne⟩

theorem WellFormed.perform (h : WellFormed s)
    (huuid : getAsString answers.uuid = some answers.uuid) (request : Request) :
    WellFormed (perform ctx answers s request) := by
  cases request with
  | start =>
    change WellFormed ((start ctx answers).run s).2
    rcases hrun : (start ctx answers).run s with ⟨r, s'⟩
    rcases start_cases hrun with ⟨-, rfl⟩ | ⟨-, ⟨rfl, -⟩ | ⟨queueProfiles, -, -, -, hloop⟩⟩
    · exact h
    · exact h.congr rfl rfl rfl
    · refine forEach_invariant WellFormed hloop (h.congr rfl rfl rfl) ?_
      intro p _ s r s' hs hinit
      rw [initializeJobProvisioner_state hinit]
      exact hs.initialized p
  | createQueueProfile request =>
    change WellFormed ((createQueueProfile ctx answers request).run s).2
    rcases hrun : (createQueueProfile ctx answers request).run s with ⟨r, s'⟩
    rcases createQueueProfile_cases hrun with
      ⟨_, -, rfl⟩ | ⟨p, queues, -, hqueues, hne, -, -, -, ⟨_, -, -, rfl⟩ | ⟨-, -, rfl⟩⟩
    · exact h
    · exact h.withItem (wellFormedItem_createdItem huuid hqueues hne)
    · refine (h.withItem (wellFormedItem_createdItem huuid hqueues hne)).cached (.inr ?_)
      rw [queues_created hqueues hne]
      exact Option.some_ne_none queues
  | getQueueProfile selector =>
    change WellFormed ((QueueProfiles.getQueueProfile ctx answers selector).run s).2
    rcases hrun : (QueueProfiles.getQueueProfile ctx answers selector).run s with ⟨r, s'⟩
    exact h.getQueueProfile hrun
  | enableQueueProfile selector =>
    change WellFormed ((enableQueueProfile ctx answers selector).run s).2
    rcases hrun : (enableQueueProfile ctx answers selector).run s with ⟨r, s'⟩
    obtain ⟨_, s₁, hfound, rfl | ⟨_, _, id, item, updated, -, -, hsaved, rfl⟩⟩ :=
      enableQueueProfile_cases h.table hrun
    · exact h.getQueueProfile hfound
    · exact ((h.getQueueProfile hfound).saved hsaved (wellFormedUpdates_enabled true)).initialized
        updated
  | disableQueueProfile selector =>
    change WellFormed ((disableQueueProfile ctx answers selector).run s).2
    rcases hrun : (disableQueueProfile ctx answers selector).run s with ⟨r, s'⟩
    obtain ⟨_, s₁, hfound, rfl | ⟨_, _, id, item, updated, -, -, hsaved, rfl⟩⟩ :=
      disableQueueProfile_cases h.table hrun
    · exact h.getQueueProfile hfound
    · exact ((h.getQueueProfile hfound).saved hsaved (wellFormedUpdates_enabled false)).stopped
        (some id)
  | updateQueueProfile request =>
    change WellFormed ((updateQueueProfile ctx answers request).run s).2
    rcases hrun : (updateQueueProfile ctx answers request).run s with ⟨r, s'⟩
    obtain rfl | ⟨p, _, s₁, hvalid, hfound,
      rfl | ⟨_, existing, id, item, updated, -, hsaved, hreplaced⟩⟩ :=
        updateQueueProfile_cases h.table hrun
    · exact h
    · exact h.getQueueProfile hfound
    · obtain ⟨queues, hqueues, -, hne⟩ := queues_of_valid hvalid
      have hu : WellFormedUpdates (convertToDb p) :=
        wellFormedUpdates_convertToDb (by rw [hqueues]; simpa using hne)
      have h₁ := h.getQueueProfile hfound
      rcases hreplaced with ⟨_, -, rfl⟩ | ⟨-, rfl⟩
      · exact h₁.withItem ((h₁.table id item hsaved.stored).updatedItem hu)
      · exact (h₁.saved hsaved hu).initialized updated
  | deleteQueueProfile selector deleteQueues =>
    change WellFormed ((deleteQueueProfile ctx answers selector deleteQueues).run s).2
    rcases hrun : (deleteQueueProfile ctx answers selector deleteQueues).run s with ⟨r, s'⟩
    obtain ⟨_, s₁, hfound, ⟨rfl, -⟩ | ⟨_, p, -, ⟨_, -, rfl⟩ |
      ⟨-, ⟨rfl, -⟩ | ⟨id, -, -, -, rfl⟩⟩⟩⟩ := deleteQueueProfile_cases hrun
    · exact h.getQueueProfile hfound
    · exact (h.getQueueProfile hfound).stopped _
    · exact ((h.getQueueProfile hfound).stopped _).uncached
    · exact (((h.getQueueProfile hfound).stopped _).uncached).withoutItem id
  | createQueues queueNames selector updateDb checkExistingProfile =>
    change WellFormed
      ((createQueues ctx answers queueNames selector updateDb checkExistingProfile).run s).2
    rcases hrun : (createQueues ctx answers queueNames selector updateDb
      checkExistingProfile).run s with ⟨r, s'⟩
    obtain ⟨-, -, rfl⟩ | ⟨_, s₁, hfound, ⟨-, rfl, -⟩ | ⟨_, p, -, hcreated, -, ⟨-, rfl⟩ |
      ⟨-, id, item, updated, hsaved, rfl⟩⟩⟩ := createQueues_cases h.table hrun
    · exact h
    · exact h.getQueueProfile hfound
    · exact (h.getQueueProfile hfound).initialized p
    · exact ((h.getQueueProfile hfound).saved hsaved
        (wellFormedUpdates_queues hcreated.nonempty)).initialized updated
  | deleteQueues queueNames selector updateDb initializeProvisioner =>
    change WellFormed
      ((deleteQueues ctx answers queueNames selector updateDb initializeProvisioner).run s).2
    rcases hrun : (deleteQueues ctx answers queueNames selector updateDb
      initializeProvisioner).run s with ⟨r, s'⟩
    obtain ⟨-, -, rfl⟩ | ⟨hne, _, s₁, hfound, ⟨-, rfl, -⟩ | ⟨ref, p, queues, rfl, -,
      ⟨-, rfl, -⟩ | ⟨-, -, -, ⟨-, rfl⟩ | ⟨-, id, item, updated, hsaved, rfl⟩⟩⟩⟩ :=
        deleteQueues_cases h.table hrun
    · exact h
    · exact h.getQueueProfile hfound
    · exact (h.getQueueProfile hfound).withObject (exists_object_of_found h hfound) queues
        queueNames
    · exact ((h.getQueueProfile hfound).withObject (exists_object_of_found h hfound) queues
        queueNames).initializedIf initializeProvisioner _
    · have h₂ := (h.getQueueProfile hfound).withObject
        (exists_object_of_found h hfound) queues queueNames
      have hsaved₂ : Saved answers
          (QueueProfiles.withObject s₁ ref (remaining p queues queueNames))
          selector.queueProfileId { queues := some queueNames } id item updated :=
        ⟨hsaved.1, hsaved.2, hsaved.3, hsaved.4, hsaved.5, hsaved.6, hsaved.7,
          hsaved.8⟩
      exact (h₂.saved hsaved₂ (wellFormedUpdates_queues hne)).initializedIf
        initializeProvisioner updated
  | expire key => exact h.expire key

/-- Whatever is requested, items stay readable under their own ids, and a cached reference is one of
a profile with the id that it is cached under. -/
theorem wellFormed_of_run {s₀ : ServiceState} {t : List (Edge ServiceState (Request × Answers))}
    (h : Run (Step ctx) s₀ t s) (h₀ : Initial s₀) : WellFormed s := by
  refine h.invariant WellFormed h₀.wellFormed ?_
  rintro s ⟨request, answers⟩ s' hs ⟨⟨-, huuid⟩, rfl⟩
  exact hs.perform huuid request

theorem key?_of_id (hid : selector.queueProfileId = some id) (hne : isEmptyString (some id) = false) :
    selector.withoutQueue.key? = some (.id id) := by
  unfold ProfileSelector.key? ProfileSelector.withoutQueue
  dsimp only
  rw [hid, hne]
  rfl

theorem nonempty_of_trimmed (h : getAsString id = some id) : isEmptyString (some id) = false := by
  unfold getAsString at h
  split at h
  · cases h
  · rename_i hne
    exact Bool.not_eq_true _ ▸ hne

theorem id_of_found (hwf : WellFormed s) (hkey : selector.key? = some (.id id))
    (h : (QueueProfiles.getQueueProfile ctx answers selector).run s = (.ok (ref, queueProfile), s'))
    :
    queueProfile.queueProfileId.getD "None" = id := by
  rcases getQueueProfile_cases h with ⟨found, hcache, hr, rfl⟩ |
    ⟨-, ⟨_, -, he, -⟩ | ⟨p, hread, rfl, ⟨-, he⟩ | ⟨-, he⟩⟩⟩
  · obtain rfl := Except.ok.inj hr
    obtain ⟨key, hkey', hcache⟩ := Option.bind_eq_some_iff.mp hcache
    obtain rfl := Option.some.inj (hkey.symm.trans hkey')
    obtain ⟨ref', hget, hcache⟩ := Option.bind_eq_some_iff.mp hcache
    obtain ⟨p, hp, hcache⟩ := Option.bind_eq_some_iff.mp hcache
    obtain ⟨rfl, rfl⟩ := Prod.mk.inj (Option.some.inj hcache)
    exact hwf.ids id ref' p hget hp
  · cases he
  · cases he
  · obtain ⟨-, rfl⟩ := Prod.mk.inj (Except.ok.inj he)
    rcases readProfile_cases hwf.table hread with
      ⟨hnone, -⟩ | ⟨key, id', item, hkey', hlookup, hitem, -, hown, -⟩
    · cases hkey.symm.trans hnone
    · obtain rfl := Option.some.inj (hkey.symm.trans hkey')
      have hid : some id = some id' :=
        (hwf.table id item hlookup).own_id.symm.trans (hwf.table id' item hitem).own_id
      rw [hown, ← hid]
      rfl

def plainContext : ServiceContext where
  jobParamsValid := fun _ => true
  scan := Dict.values
  scan_perm := fun _ => List.Perm.refl _

def profileRequest (name : String) (queues : List String) : HpcQueueProfile where
  name := some name
  projects := some [{ projectId := some "p1" }]
  queues := some queues
  queueMode := some .fifo
  scalingMode := some .singleJob

theorem initial_empty : Initial {} where
  table := fun _ _ h => by cases h
  objects := rfl
  cache := rfl
  provisioners := rfl
  registered := rfl
  isRunning := rfl

def firstItem : DbQueueProfile := createdItem { uuid := "a" } (profileRequest "A" ["normal"])

def firstProfile : HpcQueueProfile := created { uuid := "a" } (profileRequest "A" ["normal"])

/-- The service after the creation of a profile with the id `a` and the queue `normal`. -/
def oneProfile : ServiceState := cached (withItem {} "a" firstItem) firstProfile

theorem wellFormed_firstItem : WellFormed (withItem {} "a" firstItem) := by
  have hitem : WellFormedItem "a" firstItem :=
    @wellFormedItem_createdItem { uuid := "a" } (profileRequest "A" ["normal"]) ["normal"] rfl rfl
      (by decide)
  exact initial_empty.wellFormed.withItem hitem

theorem wellFormed_oneProfile : WellFormed oneProfile :=
  wellFormed_firstItem.cached (.inr (by decide))

end Idea.QueueProfiles

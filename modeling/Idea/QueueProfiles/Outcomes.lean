import Idea.QueueProfiles.Stored

/-! # How requests end

Each request ends in one of a few ways, by where it raises: before it writes, between its write
and the cache, or not at all. What a later proof needs of a request is stated here once.
-/

namespace Idea.QueueProfiles

open HpcQueueProfilesDAO HpcQueueProfilesService Stateful

variable {ctx : ServiceContext} {answers : Answers} {s s' : ServiceState}
  {selector : ProfileSelector} {queueProfile : HpcQueueProfile}

theorem cacheSet_cases {r : Except Raised ℕ} (h : (cacheSet queueProfile).run s = (r, s')) :
    s' = cached s queueProfile ∧
      (queueProfile.queues = none ∧ r = .error .typeError ∨
        queueProfile.queues ≠ none ∧ r = .ok s.objects.length) := by
  rw [cacheSet, run_get_bind, run_modify_bind] at h
  cases hq : queueProfile.queues with
  | none =>
    rw [hq, Option.isNone_none, if_pos rfl] at h
    obtain ⟨rfl, rfl⟩ := Prod.mk.inj h
    exact ⟨rfl, .inl ⟨rfl, rfl⟩⟩
  | some queues =>
    rw [hq, if_neg (by simp)] at h
    obtain ⟨rfl, rfl⟩ := Prod.mk.inj h
    exact ⟨rfl, .inr ⟨by simp, rfl⟩⟩

variable {r : Except Raised (ℕ × HpcQueueProfile)}

/-- A lookup ends with the cached profile, with the exception of the database, or with the
profile of the database, which is then cached. -/
theorem getQueueProfile_cases (h : (getQueueProfile ctx answers selector).run s = (r, s')) :
    (∃ found, cacheGet s selector = some found ∧ r = .ok found ∧ s' = s) ∨
      cacheGet s selector = none ∧
        ((∃ e, readProfile ctx answers s.table selector = .error e ∧ r = .error e ∧ s' = s) ∨
          ∃ queueProfile, readProfile ctx answers s.table selector = .ok queueProfile ∧
            s' = cached s queueProfile ∧
            (queueProfile.queues = none ∧ r = .error .typeError ∨
              queueProfile.queues ≠ none ∧ r = .ok (s.objects.length, queueProfile))) := by
  rw [getQueueProfile, run_get_bind] at h
  cases hc : cacheGet s selector with
  | some found =>
    rw [hc] at h
    obtain ⟨rfl, rfl⟩ := Prod.mk.inj h
    exact .inl ⟨found, rfl, rfl, rfl⟩
  | none =>
    rw [hc] at h
    refine .inr ⟨rfl, ?_⟩
    rcases ofExcept_bind_cases h with ⟨e, hread, rfl, rfl⟩ | ⟨queueProfile, hread, h⟩
    · exact .inl ⟨e, hread, rfl, rfl⟩
    · refine .inr ⟨queueProfile, hread, ?_⟩
      rcases bind_cases h with ⟨e, hset, rfl⟩ | ⟨ref, s₁, hset, h⟩
      · obtain ⟨rfl, ⟨hq, he⟩ | ⟨-, he⟩⟩ := cacheSet_cases hset
        · exact ⟨rfl, .inl ⟨hq, congrArg Except.error (Except.error.inj he)⟩⟩
        · cases he
      · obtain ⟨rfl, ⟨-, he⟩ | ⟨hq, he⟩⟩ := cacheSet_cases hset
        · cases he
        · obtain rfl := Except.ok.inj he
          obtain ⟨rfl, rfl⟩ := Prod.mk.inj h
          exact ⟨rfl, .inr ⟨hq, rfl⟩⟩

theorem getQueueProfile_state (h : (getQueueProfile ctx answers selector).run s = (r, s')) :
    s' = s ∨ ∃ queueProfile, readProfile ctx answers s.table selector = .ok queueProfile ∧
      s' = cached s queueProfile := by
  rcases getQueueProfile_cases h with ⟨_, -, -, hs⟩ | ⟨-, ⟨_, -, -, hs⟩ | ⟨p, hp, hs, -⟩⟩
  · exact .inl hs
  · exact .inl hs
  · exact .inr ⟨p, hp, hs⟩

theorem table_getQueueProfile (h : (getQueueProfile ctx answers selector).run s = (r, s')) :
    s'.table = s.table := by
  rcases getQueueProfile_state h with rfl | ⟨_, -, rfl⟩ <;> rfl

def withItem (s : ServiceState) (queueProfileId : String) (item : DbQueueProfile) :
    ServiceState :=
  { s with table := s.table.set queueProfileId item }

def UpdateRefused (answers : Answers) (s : ServiceState) (queueProfileId : Option String) : Prop :=
  isEmptyString queueProfileId = true ∨ answers.write ≠ none ∨
    ∃ id, queueProfileId = some id ∧ s.table.get? id = none

variable {queueProfileId : Option String}

theorem update_cases {updates : DbQueueProfile} {r : Except Raised DbQueueProfile}
    (h : (update answers queueProfileId updates).run s = (r, s')) :
    ((∃ e, r = .error e) ∧ s' = s ∧ UpdateRefused answers s queueProfileId) ∨
      ∃ id item, queueProfileId = some id ∧ isEmptyString (some id) = false ∧
        answers.write = none ∧ s.table.get? id = some item ∧
        r = .ok (updatedItem id item updates) ∧ s' = withItem s id (updatedItem id item updates) := by
  rw [update] at h
  split at h
  · rename_i hempty
    obtain ⟨rfl, rfl⟩ := Prod.mk.inj h
    exact .inl ⟨⟨_, rfl⟩, rfl, .inl hempty⟩
  · rename_i hempty
    cases queueProfileId with
    | none => exact absurd rfl hempty
    | some id =>
      rcases raiseIf_bind_cases h with ⟨e, hwrite, rfl, rfl⟩ | ⟨hwrite, h⟩
      · exact .inl ⟨⟨e, rfl⟩, rfl, .inr (.inl (hwrite ▸ Option.some_ne_none e))⟩
      · rw [run_get_bind, Option.getD_some] at h
        cases hitem : s.table.get? id with
        | none =>
          rw [hitem] at h
          obtain ⟨rfl, rfl⟩ := Prod.mk.inj h
          exact .inl ⟨⟨_, rfl⟩, rfl, .inr (.inr ⟨id, rfl, hitem⟩)⟩
        | some item =>
          rw [hitem] at h
          obtain ⟨rfl, rfl⟩ := Prod.mk.inj h
          exact .inr ⟨id, item, rfl, Bool.not_eq_true _ ▸ hempty, hwrite, hitem, rfl, rfl⟩

/-- An update that was written: what it found, and how the item is read back. -/
structure Saved (answers : Answers) (s : ServiceState) (queueProfileId : Option String)
    (updates : DbQueueProfile) (id : String) (item : DbQueueProfile)
    (updated : HpcQueueProfile) : Prop where
  id_eq : queueProfileId = some id
  writes : answers.write = none
  stored : s.table.get? id = some item
  decoded : convertFromDb (updatedItem id item updates) = .ok updated
  own_id : updated.queueProfileId = some id
  name : updated.name = getValueAsString (updates.name.or item.name)
  enabled : updated.enabled = updates.enabled.or item.enabled
  queues : updated.queues = some (queuesOf (updatedItem id item updates))

theorem saved_cases {β : Type} {updates : DbQueueProfile} {k : HpcQueueProfile → Serving β}
    {r : Except Raised β} (hwf : WellFormedTable s.table) (hu : WellFormedUpdates updates)
    (h : (update answers queueProfileId updates >>= fun item =>
      ofExcept (convertFromDb item) >>= k).run s = (r, s')) :
    ((∃ e, r = .error e) ∧ s' = s ∧ UpdateRefused answers s queueProfileId) ∨
      ∃ id item updated,
        Saved answers s queueProfileId updates id item updated ∧
          (k updated).run (withItem s id (updatedItem id item updates)) = (r, s') := by
  rcases bind_cases h with ⟨e, hupdate, rfl⟩ | ⟨item', s₁, hupdate, h⟩
  · rcases update_cases hupdate with ⟨-, rfl, hrefused⟩ | ⟨_, _, -, -, -, -, he, -⟩
    · exact .inl ⟨⟨e, rfl⟩, rfl, hrefused⟩
    · cases he
  · rcases update_cases hupdate with ⟨⟨_, he⟩, -⟩ | ⟨id, item, hid, -, hwrite, hitem, he, rfl⟩
    · cases he
    · obtain rfl := Except.ok.inj he
      obtain ⟨updated, hdecoded, hown, hname, henabled, hqueues⟩ :=
        ((hwf id item hitem).updatedItem hu).convertFromDb
      rw [hdecoded] at h
      exact .inr ⟨id, item, updated, ⟨hid, hwrite, hitem, hdecoded, hown, hname, henabled, hqueues⟩, h⟩

theorem run_cacheSet_bind {β : Type} {f : ℕ → Serving β} {queues : List String}
    (h : queueProfile.queues = some queues) :
    (cacheSet queueProfile >>= f).run s = (f s.objects.length).run (cached s queueProfile) := by
  refine run_bind_of_ok ?_
  rw [cacheSet, run_get_bind, run_modify_bind, h, Option.isNone_some,
    if_neg Bool.false_ne_true, run_pure]

variable {queueNames : List String}

theorem setQueues_cases {β : Type} {k : HpcQueueProfile → Serving β} {r : Except Raised β}
    (hwf : WellFormedTable s.table) (hne : queueNames ≠ [])
    (h : (setQueues answers queueProfileId queueNames >>= k).run s = (r, s')) :
    ((∃ e, r = .error e) ∧ s' = s ∧ UpdateRefused answers s queueProfileId) ∨
      ∃ id item updated,
        Saved answers s queueProfileId { queues := some queueNames } id item updated ∧
          (k updated).run (cached (withItem s id
            (updatedItem id item { queues := some queueNames })) updated) = (r, s') := by
  rcases bind_cases h with ⟨e, hset, rfl⟩ | ⟨queueProfile, s₁, hset, h⟩
  · rcases saved_cases hwf (wellFormedUpdates_queues hne) hset with
      ⟨-, rfl, hrefused⟩ | ⟨id, item, updated, hsaved, hset⟩
    · exact .inl ⟨⟨e, rfl⟩, rfl, hrefused⟩
    · rw [run_cacheSet_bind hsaved.queues] at hset
      cases hset
  · rcases saved_cases hwf (wellFormedUpdates_queues hne) hset with
      ⟨⟨_, he⟩, -⟩ | ⟨id, item, updated, hsaved, hset⟩
    · cases he
    · rw [run_cacheSet_bind hsaved.queues] at hset
      obtain ⟨he, rfl⟩ := Prod.mk.inj hset
      obtain rfl := Except.ok.inj he
      exact .inr ⟨id, item, updated, hsaved, h⟩

def initialized (s : ServiceState) (queueProfile : HpcQueueProfile) : ServiceState :=
  if queueProfile.enabled = some false then s
  else
    let s' := stopped s queueProfile.queueProfileId
    if queueProfile.queues.isNone then s' else started s' queueProfile.queueProfileId

theorem run_initializeJobProvisioner (s : ServiceState) (queueProfile : HpcQueueProfile) :
    ((initializeJobProvisioner queueProfile).run s).2 = initialized s queueProfile := by
  rw [initializeJobProvisioner, initialized]
  split
  · rfl
  · rw [stopJobProvisioner, run_modify_bind]
    split <;> rfl

variable {r : Except Raised Unit}

theorem initializeJobProvisioner_state (h : (initializeJobProvisioner queueProfile).run s = (r, s'))
    :
    s' = initialized s queueProfile := by
  rw [← run_initializeJobProvisioner, h]

theorem initializeJobProvisioner_ok (hq : queueProfile.queues ≠ none)
    (h : (initializeJobProvisioner queueProfile).run s = (r, s')) : r = .ok () := by
  rw [initializeJobProvisioner] at h
  split at h
  · exact (Prod.mk.inj h).1.symm
  · rw [stopJobProvisioner, run_modify_bind, if_neg (by simpa using hq)] at h
    exact (Prod.mk.inj h).1.symm

@[simp] theorem table_stopped (s : ServiceState) (id : Option String) :
    (stopped s id).table = s.table := by
  unfold stopped
  split <;> rfl

@[simp] theorem objects_stopped (s : ServiceState) (id : Option String) :
    (stopped s id).objects = s.objects := by
  unfold stopped
  split <;> rfl

@[simp] theorem cache_stopped (s : ServiceState) (id : Option String) :
    (stopped s id).cache = s.cache := by
  unfold stopped
  split <;> rfl

@[simp] theorem isRunning_stopped (s : ServiceState) (id : Option String) :
    (stopped s id).isRunning = s.isRunning := by
  unfold stopped
  split <;> rfl

@[simp] theorem table_initialized (s : ServiceState) (queueProfile : HpcQueueProfile) :
    (initialized s queueProfile).table = s.table := by
  unfold initialized
  split
  · rfl
  · dsimp only
    split
    · exact table_stopped s _
    · exact table_stopped s _

@[simp] theorem objects_initialized (s : ServiceState) (queueProfile : HpcQueueProfile) :
    (initialized s queueProfile).objects = s.objects := by
  unfold initialized
  split
  · rfl
  · dsimp only
    split
    · exact objects_stopped s _
    · exact objects_stopped s _

@[simp] theorem cache_initialized (s : ServiceState) (queueProfile : HpcQueueProfile) :
    (initialized s queueProfile).cache = s.cache := by
  unfold initialized
  split
  · rfl
  · dsimp only
    split
    · exact cache_stopped s _
    · exact cache_stopped s _

@[simp] theorem isRunning_initialized (s : ServiceState) (queueProfile : HpcQueueProfile) :
    (initialized s queueProfile).isRunning = s.isRunning := by
  unfold initialized
  split
  · rfl
  · dsimp only
    split
    · exact isRunning_stopped s _
    · exact isRunning_stopped s _

def createdItem (answers : Answers) (queueProfile : HpcQueueProfile) : DbQueueProfile :=
  convertToDb { queueProfile with
    queueProfileId := some answers.uuid, enabled := some false }

def created (answers : Answers) (queueProfile : HpcQueueProfile) : HpcQueueProfile :=
  stored { queueProfile with queueProfileId := some answers.uuid, enabled := some false }

theorem queues_created {queues : List String} (hqueues : queueProfile.queues = some queues)
    (hne : queues ≠ []) : (created answers queueProfile).queues = some queues := by
  change getValueAsList queueProfile.queues = some queues
  rw [getValueAsList_eq_self.mpr] <;> rw [hqueues]
  simpa using hne

theorem createItem_cases {item : DbQueueProfile} {r : Except Raised DbQueueProfile}
    (h : (HpcQueueProfilesDAO.createQueueProfile answers item).run s = (r, s')) :
    (∃ e, answers.write = some e ∧ r = .error e ∧ s' = s) ∨
      answers.write = none ∧ r = .ok { item with queueProfileId := some answers.uuid } ∧
        s' = withItem s answers.uuid { item with queueProfileId := some answers.uuid } := by
  rw [HpcQueueProfilesDAO.createQueueProfile] at h
  rcases raiseIf_bind_cases h with ⟨e, hwrite, rfl, rfl⟩ | ⟨hwrite, h⟩
  · exact .inl ⟨e, hwrite, rfl, rfl⟩
  · obtain ⟨rfl, rfl⟩ := Prod.mk.inj h
    exact .inr ⟨hwrite, rfl, rfl⟩

theorem createQueueProfile_cases {request : HpcQueueProfile} {r : Except Raised HpcQueueProfile}
    (h : (createQueueProfile ctx answers request).run s = (r, s')) :
    (∃ e, r = .error e ∧ s' = s) ∨ ∃ queueProfile queues,
      validateAndSanitizeQueueProfile ctx.jobParamsValid answers.stackUuid request =
        .ok queueProfile ∧
      queueProfile.queues = some queues ∧ queues ≠ [] ∧
      getQueueProfileByName ctx s.table (queueProfile.name.getD "None") = none ∧
      answers.read = none ∧ answers.write = none ∧
      ((∃ e, createSchedulerQueues answers 0 queues = .error e ∧ r = .error e ∧
          s' = withItem s answers.uuid (createdItem answers queueProfile)) ∨
        HpcQueueProfilesDAO.Succeeds (createSchedulerQueues answers 0 queues) ∧
          r = .ok (created answers queueProfile) ∧
          s' = cached (withItem s answers.uuid (createdItem answers queueProfile))
            (created answers queueProfile)) := by
  rw [createQueueProfile] at h
  rcases ofExcept_bind_cases h with ⟨e, -, rfl, rfl⟩ | ⟨queueProfile, hvalid, h⟩
  · exact .inl ⟨e, rfl, rfl⟩
  rcases raiseIf_bind_cases h with ⟨e, -, rfl, rfl⟩ | ⟨hread, h⟩
  · exact .inl ⟨e, rfl, rfl⟩
  rw [run_get_bind] at h
  dsimp only at h
  split at h
  · obtain ⟨rfl, rfl⟩ := Prod.mk.inj h
    exact .inl ⟨_, rfl, rfl⟩
  rename_i hname
  have hname := Option.not_isSome_iff_eq_none.mp hname
  obtain ⟨heq, -, queues, hrequest, hne⟩ := sanitized_of_valid hvalid
  obtain ⟨stackUuid, hstack⟩ := withStackUuid_eq answers.stackUuid request
  have hqueues : queueProfile.queues = some queues := by
    rw [heq, hstack]
    exact hrequest
  rcases bind_cases h with ⟨e, hcreate, rfl⟩ | ⟨item, s₁, hcreate, h⟩
  · rcases createItem_cases hcreate with ⟨_, -, -, hs⟩ | ⟨-, he, -⟩
    · exact .inl ⟨e, rfl, hs⟩
    · cases he
  rcases createItem_cases hcreate with ⟨_, -, he, -⟩ | ⟨hwrite, he, hs⟩
  · cases he
  obtain rfl : item = createdItem answers queueProfile := Except.ok.inj he
  obtain rfl : s₁ = withItem s answers.uuid (createdItem answers queueProfile) := hs
  have hdecoded : convertFromDb (createdItem answers queueProfile) =
      .ok (created answers queueProfile) := convertFromDb_convertToDb _
  have hread' : (created answers queueProfile).queues = some queues :=
    queues_created hqueues hne
  refine .inr ⟨queueProfile, queues, hvalid, hqueues, hne, hname, hread, hwrite, ?_⟩
  rcases ofExcept_bind_cases h with ⟨e, he, -, -⟩ | ⟨_, he, h⟩
  · cases hdecoded.symm.trans he
  obtain rfl := Except.ok.inj (hdecoded.symm.trans he)
  rw [hread'] at h
  rcases ofExcept_bind_cases h with ⟨_, he, -, -⟩ | ⟨_, he, h⟩
  · cases he
  obtain rfl := Except.ok.inj he
  rcases ofExcept_bind_cases h with ⟨e, hscheduler, rfl, rfl⟩ | ⟨n, hscheduler, h⟩
  · exact .inl ⟨e, hscheduler, rfl, rfl⟩
  rw [run_cacheSet_bind hread'] at h
  obtain ⟨rfl, rfl⟩ := Prod.mk.inj h
  exact .inr ⟨⟨n, hscheduler⟩, rfl, rfl⟩

theorem enableQueueProfile_cases (hwf : WellFormedTable s.table)
    (h : (enableQueueProfile ctx answers selector).run s = (r, s')) :
    ∃ found s₁, (getQueueProfile ctx answers selector.withoutQueue).run s = (found, s₁) ∧
      (s' = s₁ ∨ ∃ ref queueProfile id item updated, found = .ok (ref, queueProfile) ∧
        queueProfile.enabled ≠ some true ∧
        Saved answers s₁ queueProfile.queueProfileId { enabled := some true } id item updated ∧
        s' = initialized (cached (withItem s₁ id
          (updatedItem id item { enabled := some true })) updated) updated) := by
  rw [enableQueueProfile] at h
  rcases bind_cases h with ⟨e, hfound, -⟩ | ⟨⟨ref, queueProfile⟩, s₁, hfound, h⟩
  · exact ⟨_, s', hfound, .inl rfl⟩
  refine ⟨_, s₁, hfound, ?_⟩
  dsimp only at h
  split at h
  · obtain ⟨-, rfl⟩ := Prod.mk.inj h
    exact .inl rfl
  rename_i henabled
  have hwf : WellFormedTable s₁.table := table_getQueueProfile hfound ▸ hwf
  rcases saved_cases hwf (wellFormedUpdates_enabled true) h with
    ⟨-, rfl, -⟩ | ⟨id, item, updated, hsaved, h⟩
  · exact .inl rfl
  rw [run_cacheSet_bind hsaved.queues] at h
  exact .inr ⟨ref, queueProfile, id, item, updated, rfl, henabled, hsaved,
    initializeJobProvisioner_state h⟩

theorem disableQueueProfile_cases (hwf : WellFormedTable s.table)
    (h : (disableQueueProfile ctx answers selector).run s = (r, s')) :
    ∃ found s₁, (getQueueProfile ctx answers selector.withoutQueue).run s = (found, s₁) ∧
      (s' = s₁ ∨ ∃ ref queueProfile id item updated, found = .ok (ref, queueProfile) ∧
        queueProfile.enabled ≠ some false ∧
        Saved answers s₁ queueProfile.queueProfileId { enabled := some false } id item updated ∧
        s' = stopped (cached (withItem s₁ id
          (updatedItem id item { enabled := some false })) updated) (some id)) := by
  rw [disableQueueProfile] at h
  rcases bind_cases h with ⟨e, hfound, -⟩ | ⟨⟨ref, queueProfile⟩, s₁, hfound, h⟩
  · exact ⟨_, s', hfound, .inl rfl⟩
  refine ⟨_, s₁, hfound, ?_⟩
  dsimp only at h
  split at h
  · obtain ⟨-, rfl⟩ := Prod.mk.inj h
    exact .inl rfl
  rename_i henabled
  have hwf : WellFormedTable s₁.table := table_getQueueProfile hfound ▸ hwf
  rcases saved_cases hwf (wellFormedUpdates_enabled false) h with
    ⟨-, rfl, -⟩ | ⟨id, item, updated, hsaved, h⟩
  · exact .inl rfl
  rw [run_cacheSet_bind hsaved.queues, stopJobProvisioner, hsaved.own_id] at h
  obtain ⟨-, rfl⟩ := Prod.mk.inj h
  exact .inr ⟨ref, queueProfile, id, item, updated, rfl, henabled, hsaved, rfl⟩

def updateSelector (queueProfile : HpcQueueProfile) : ProfileSelector where
  queueProfileId := queueProfile.queueProfileId
  queueProfileName := queueProfile.name

theorem updateQueueProfile_cases {request : HpcQueueProfile} {r : Except Raised HpcQueueProfile}
    (hwf : WellFormedTable s.table)
    (h : (updateQueueProfile ctx answers request).run s = (r, s')) :
    s' = s ∨ ∃ queueProfile found s₁,
      validateAndSanitizeQueueProfile ctx.jobParamsValid answers.stackUuid request =
        .ok queueProfile ∧
      (getQueueProfile ctx answers (updateSelector queueProfile)).run s = (found, s₁) ∧
      (s' = s₁ ∨ ∃ ref existing id item updated, found = .ok (ref, existing) ∧
        Saved answers s₁ existing.queueProfileId (convertToDb queueProfile) id item updated ∧
        ((∃ e, replaceSchedulerQueues answers (existing.queues.getD [])
              (updated.queues.getD []) = .error e ∧
            s' = withItem s₁ id (updatedItem id item (convertToDb queueProfile))) ∨
          HpcQueueProfilesDAO.Succeeds (replaceSchedulerQueues answers (existing.queues.getD [])
              (updated.queues.getD [])) ∧
            s' = initialized (cached (withItem s₁ id
              (updatedItem id item (convertToDb queueProfile))) updated) updated)) := by
  rw [updateQueueProfile] at h
  rcases ofExcept_bind_cases h with ⟨e, -, -, rfl⟩ | ⟨queueProfile, hvalid, h⟩
  · exact .inl rfl
  have hqueues : queueProfile.queues ≠ some [] := by
    obtain ⟨rfl, -, queues, hrequest, hne⟩ := sanitized_of_valid hvalid
    obtain ⟨stackUuid, hstack⟩ := withStackUuid_eq answers.stackUuid request
    rw [hstack, hrequest]
    simpa using hne
  refine .inr ?_
  rcases bind_cases h with ⟨e, hfound, -⟩ | ⟨⟨ref, existing⟩, s₁, hfound, h⟩
  · exact ⟨queueProfile, _, s', hvalid, hfound, .inl rfl⟩
  refine ⟨queueProfile, _, s₁, hvalid, hfound, ?_⟩
  dsimp only at h
  have hwf : WellFormedTable s₁.table := table_getQueueProfile hfound ▸ hwf
  rcases saved_cases hwf (wellFormedUpdates_convertToDb hqueues) h with
    ⟨-, rfl, -⟩ | ⟨id, item, updated, hsaved, h⟩
  · exact .inl rfl
  refine .inr ⟨ref, existing, id, item, updated, rfl, hsaved, ?_⟩
  rcases ofExcept_bind_cases h with ⟨e, hreplace, -, rfl⟩ | ⟨_, hreplace, h⟩
  · exact .inl ⟨e, hreplace, rfl⟩
  rw [run_cacheSet_bind hsaved.queues] at h
  refine .inr ⟨⟨_, hreplace⟩, ?_⟩
  rcases bind_cases h with ⟨e, hinit, -⟩ | ⟨_, s₂, hinit, h⟩
  · exact initializeJobProvisioner_state hinit
  · obtain ⟨-, rfl⟩ := Prod.mk.inj h
    exact initializeJobProvisioner_state hinit

def queuesToDelete (queueProfile : HpcQueueProfile) (deleteQueues : Option Bool) : List String :=
  if getAsBool deleteQueues true then queueProfile.queues.getD [] else []

def withoutItem (s : ServiceState) (queueProfileId : String) : ServiceState :=
  { s with table := s.table.erase queueProfileId }

/-- A deletion stops the provisioner; then it raises at a scheduler queue, or clears the cache,
and then it is refused or the item is deleted. -/
theorem deleteQueueProfile_cases {deleteQueues : Option Bool}
    (h : (deleteQueueProfile ctx answers selector deleteQueues).run s = (r, s')) :
    ∃ found s₁, (getQueueProfile ctx answers selector.withoutQueue).run s = (found, s₁) ∧
      (s' = s₁ ∧ (∃ e, found = .error e) ∨ ∃ ref queueProfile, found = .ok (ref, queueProfile) ∧
        ((∃ e, deleteSchedulerQueues answers 0 (queuesToDelete queueProfile deleteQueues) =
              .error e ∧ s' = stopped s₁ queueProfile.queueProfileId) ∨
          HpcQueueProfilesDAO.Succeeds
            (deleteSchedulerQueues answers 0 (queuesToDelete queueProfile deleteQueues)) ∧
            (s' = uncached (stopped s₁ queueProfile.queueProfileId) queueProfile ∧
                (queueProfile.queues = none ∨
                  isEmptyString queueProfile.queueProfileId = true ∨ answers.write ≠ none) ∨
              ∃ id, queueProfile.queueProfileId = some id ∧ queueProfile.queues ≠ none ∧
                answers.write = none ∧
                s' = withoutItem (uncached (stopped s₁ (some id)) queueProfile) id))) := by
  rw [deleteQueueProfile] at h
  rcases bind_cases h with ⟨e, hfound, -⟩ | ⟨⟨ref, queueProfile⟩, s₁, hfound, h⟩
  · exact ⟨_, s', hfound, .inl ⟨rfl, e, rfl⟩⟩
  refine ⟨_, s₁, hfound, .inr ⟨ref, queueProfile, rfl, ?_⟩⟩
  dsimp only at h
  rw [stopJobProvisioner, run_modify_bind] at h
  rcases ofExcept_bind_cases h with ⟨e, hdelete, -, rfl⟩ | ⟨n, hdelete, h⟩
  · exact .inl ⟨e, hdelete, rfl⟩
  refine .inr ⟨⟨n, hdelete⟩, ?_⟩
  rcases bind_cases h with ⟨e, hclear, -⟩ | ⟨_, s₂, hclear, h⟩
  · rw [cacheClear, run_modify_bind] at hclear
    split at hclear
    · rename_i hqueues
      obtain ⟨-, rfl⟩ := Prod.mk.inj hclear
      exact .inl ⟨rfl, .inl (Option.isNone_iff_eq_none.mp hqueues)⟩
    · cases hclear
  · rw [cacheClear, run_modify_bind] at hclear
    split at hclear
    · cases hclear
    rename_i hqueues
    obtain ⟨-, rfl⟩ := Prod.mk.inj hclear
    have hqueues : queueProfile.queues ≠ none := fun he => hqueues (he ▸ rfl)
    rw [HpcQueueProfilesDAO.deleteQueueProfile] at h
    split at h
    · rename_i hempty
      obtain ⟨-, rfl⟩ := Prod.mk.inj h
      exact .inl ⟨rfl, .inr (.inl hempty)⟩
    · rename_i hempty
      cases hid : queueProfile.queueProfileId with
      | none =>
        rw [hid] at hempty
        exact absurd rfl hempty
      | some id =>
        rw [hid] at h
        rcases raiseIf_bind_cases h with ⟨e, hwrite, -, rfl⟩ | ⟨hwrite, h⟩
        · exact .inl ⟨rfl, .inr (.inr (hwrite ▸ Option.some_ne_none e))⟩
        · obtain ⟨-, rfl⟩ := Prod.mk.inj h
          exact .inr ⟨id, rfl, hqueues, hwrite, rfl⟩

theorem createSchedulerQueues_eq {i n : ℕ} (h : createSchedulerQueues answers i queueNames = .ok n) :
    n = queueNames.length := by
  induction queueNames generalizing i n with
  | nil => exact (Except.ok.inj h).symm
  | cons queueName queueNames ih =>
    have hnext : ∀ x : Except Raised ℕ, x = createSchedulerQueues answers (i + 1) queueNames →
        x.map (· + 1) = .ok n → n = (queueName :: queueNames).length := by
      intro x hx hn
      cases x with
      | error e => cases hn
      | ok m =>
        obtain rfl := Except.ok.inj hn
        rw [List.length_cons, ← ih hx.symm]
    rw [createSchedulerQueues] at h
    split at h
    · exact hnext _ rfl h
    · split at h
      · exact hnext _ rfl h
      · cases h

/-- What a request for new queues passes before it writes. -/
structure QueuesCreated (ctx : ServiceContext) (answers : Answers) (s : ServiceState)
    (queueProfile : HpcQueueProfile) (queueNames : List String) (checkExistingProfile : Bool) :
    Prop where
  nonempty : queueNames ≠ []
  checked : checkExistingProfile = true →
    checkExistingProfiles ctx answers s.table queueProfile 0 queueNames = .ok ()
  created : HpcQueueProfilesDAO.Succeeds (createSchedulerQueues answers 0 queueNames)

theorem createQueues_cases {updateDb checkExistingProfile : Bool} (hwf : WellFormedTable s.table)
    (h : (createQueues ctx answers queueNames selector updateDb checkExistingProfile).run s =
      (r, s')) :
    (queueNames = [] ∧ (∃ e, r = .error e) ∧ s' = s) ∨ ∃ found s₁,
      (getQueueProfile ctx answers selector.withoutQueue).run s = (found, s₁) ∧
      ((∃ e, r = .error e) ∧ s' = s₁ ∧ ((∃ e, found = .error e) ∨
          ∃ ref queueProfile, found = .ok (ref, queueProfile) ∧
            (¬ QueuesCreated ctx answers s₁ queueProfile queueNames checkExistingProfile ∨
              updateDb = true ∧ UpdateRefused answers s₁ selector.queueProfileId)) ∨
        ∃ ref queueProfile, found = .ok (ref, queueProfile) ∧
        QueuesCreated ctx answers s₁ queueProfile queueNames checkExistingProfile ∧
        (queueProfile.queues ≠ none → r = .ok ()) ∧
        (updateDb = false ∧ s' = initialized s₁ queueProfile ∨
          updateDb = true ∧ ∃ id item updated,
            Saved answers s₁ selector.queueProfileId { queues := some queueNames } id item
              updated ∧
            s' = initialized (cached (withItem s₁ id
              (updatedItem id item { queues := some queueNames })) updated) updated)) := by
  rw [createQueues] at h
  split at h
  · rename_i hnil
    obtain ⟨rfl, rfl⟩ := Prod.mk.inj h
    exact .inl ⟨hnil, ⟨_, rfl⟩, rfl⟩
  rename_i hne
  refine .inr ?_
  rcases bind_cases h with ⟨e, hfound, rfl⟩ | ⟨⟨ref, queueProfile⟩, s₁, hfound, h⟩
  · exact ⟨_, s', hfound, .inl ⟨⟨e, rfl⟩, rfl, .inl ⟨e, rfl⟩⟩⟩
  refine ⟨_, s₁, hfound, ?_⟩
  dsimp only at h
  rw [run_get_bind] at h
  rcases ofExcept_bind_cases h with ⟨e, hcheck, rfl, rfl⟩ | ⟨_, hcheck, h⟩
  · refine .inl ⟨⟨e, rfl⟩, rfl, .inr ⟨ref, queueProfile, rfl, .inl fun hpassed => ?_⟩⟩
    split at hcheck
    · rename_i hc
      cases hcheck.symm.trans (hpassed.checked hc)
    · cases hcheck
  rcases ofExcept_bind_cases h with ⟨e, hcreated, rfl, rfl⟩ | ⟨n, hcreated, h⟩
  · refine .inl ⟨⟨e, rfl⟩, rfl, .inr ⟨ref, queueProfile, rfl, .inl fun hpassed => ?_⟩⟩
    obtain ⟨n, hn⟩ := hpassed.created
    cases hcreated.symm.trans hn
  have hcount : 0 < n := by
    rw [createSchedulerQueues_eq hcreated]
    exact List.length_pos_iff.mpr hne
  rw [if_pos hcount] at h
  rcases ofExcept_bind_cases h with ⟨_, he, -, -⟩ | ⟨_, he, h⟩
  · cases he
  obtain rfl := Except.ok.inj he
  rw [if_pos rfl] at h
  have hpassed : QueuesCreated ctx answers s₁ queueProfile queueNames checkExistingProfile :=
    ⟨hne, fun hc => by rwa [if_pos hc] at hcheck, ⟨n, hcreated⟩⟩
  cases updateDb with
  | false =>
    rw [if_neg Bool.false_ne_true, run_pure_bind] at h
    exact .inr ⟨ref, queueProfile, rfl, hpassed, fun hq => initializeJobProvisioner_ok hq h,
      .inl ⟨rfl, initializeJobProvisioner_state h⟩⟩
  | true =>
    rw [if_pos rfl] at h
    have hwf : WellFormedTable s₁.table := table_getQueueProfile hfound ▸ hwf
    rcases setQueues_cases hwf hne h with
      ⟨he, rfl, hrefused⟩ | ⟨id, item, updated, hsaved, h⟩
    · exact .inl ⟨he, rfl, .inr ⟨ref, queueProfile, rfl, .inr ⟨rfl, hrefused⟩⟩⟩
    · have hq : updated.queues ≠ none := hsaved.queues ▸ Option.some_ne_none _
      exact .inr ⟨ref, queueProfile, rfl, hpassed, fun _ => initializeJobProvisioner_ok hq h,
        .inr ⟨rfl, id, item, updated, hsaved, initializeJobProvisioner_state h⟩⟩

def withObject (s : ServiceState) (ref : ℕ) (queueProfile : HpcQueueProfile) : ServiceState :=
  { s with objects := s.objects.set ref queueProfile }

/-- A cached profile after a request has taken queues out of its list. -/
def remaining (queueProfile : HpcQueueProfile) (queues queueNames : List String) :
    HpcQueueProfile :=
  { queueProfile with queues := some (removeQueues queues queueNames).1 }

def initializedIf (initializeProvisioner : Bool) (s : ServiceState)
    (queueProfile : HpcQueueProfile) : ServiceState :=
  if initializeProvisioner then initialized s queueProfile else s

@[simp] theorem table_initializedIf (b : Bool) (s : ServiceState)
    (queueProfile : HpcQueueProfile) : (initializedIf b s queueProfile).table = s.table := by
  cases b with
  | false => rfl
  | true => exact table_initialized s queueProfile

/-- A request to delete queues changes the cached profile before it can be refused for a queue
that the profile does not have, at a scheduler queue or by the database. -/
theorem deleteQueues_cases {updateDb initializeProvisioner : Bool} (hwf : WellFormedTable s.table)
    (h : (deleteQueues ctx answers queueNames selector updateDb initializeProvisioner).run s =
      (r, s')) :
    (queueNames = [] ∧ (∃ e, r = .error e) ∧ s' = s) ∨ queueNames ≠ [] ∧ ∃ found s₁,
      (getQueueProfile ctx answers selector.withoutQueue).run s = (found, s₁) ∧
      ((∃ e, r = .error e) ∧ s' = s₁ ∧
          ((∃ e, found = .error e) ∨ ∃ ref queueProfile, found = .ok (ref, queueProfile) ∧
            queueProfile.queues = none) ∨
        ∃ ref queueProfile queues, found = .ok (ref, queueProfile) ∧
          queueProfile.queues = some queues ∧
          ((∃ e, r = .error e) ∧
              s' = withObject s₁ ref (remaining queueProfile queues queueNames) ∧
              ((removeQueues queues queueNames).2 ≠ none ∨
                ¬ HpcQueueProfilesDAO.Succeeds (deleteSchedulerQueues answers 0 queueNames) ∨
                updateDb = true ∧ UpdateRefused answers s₁ selector.queueProfileId) ∨
            (removeQueues queues queueNames).2 = none ∧
            HpcQueueProfilesDAO.Succeeds (deleteSchedulerQueues answers 0 queueNames) ∧ r = .ok () ∧
            (updateDb = false ∧ s' = initializedIf initializeProvisioner
                (withObject s₁ ref (remaining queueProfile queues queueNames))
                (remaining queueProfile queues queueNames) ∨
              updateDb = true ∧ ∃ id item updated,
                Saved answers s₁ selector.queueProfileId { queues := some queueNames } id item
                  updated ∧
                s' = initializedIf initializeProvisioner (cached (withItem
                  (withObject s₁ ref (remaining queueProfile queues queueNames)) id
                  (updatedItem id item { queues := some queueNames })) updated) updated))) := by
  rw [deleteQueues] at h
  split at h
  · rename_i hnil
    obtain ⟨rfl, rfl⟩ := Prod.mk.inj h
    exact .inl ⟨hnil, ⟨_, rfl⟩, rfl⟩
  rename_i hne
  refine .inr ⟨hne, ?_⟩
  rcases bind_cases h with ⟨e, hfound, rfl⟩ | ⟨⟨ref, queueProfile⟩, s₁, hfound, h⟩
  · exact ⟨_, s', hfound, .inl ⟨⟨e, rfl⟩, rfl, .inl ⟨e, rfl⟩⟩⟩
  refine ⟨_, s₁, hfound, ?_⟩
  dsimp only at h
  cases hqueues : queueProfile.queues with
  | none =>
    rw [hqueues] at h
    obtain ⟨rfl, rfl⟩ := Prod.mk.inj h
    exact .inl ⟨⟨_, rfl⟩, rfl, .inr ⟨ref, queueProfile, rfl, hqueues⟩⟩
  | some queues =>
    rw [hqueues] at h
    refine .inr ⟨ref, queueProfile, queues, rfl, hqueues, ?_⟩
    rcases ofExcept_bind_cases h with ⟨_, he, -, -⟩ | ⟨_, he, h⟩
    · cases he
    obtain rfl := Except.ok.inj he
    rw [run_modify_bind] at h
    cases hmissing : (removeQueues queues queueNames).2 with
    | some queueName =>
      rw [hmissing] at h
      obtain ⟨rfl, rfl⟩ := Prod.mk.inj h
      exact .inl ⟨⟨_, rfl⟩, rfl, .inl (Option.some_ne_none queueName)⟩
    | none =>
      rw [hmissing] at h
      dsimp only at h
      rcases ofExcept_bind_cases h with ⟨e, hdelete, rfl, rfl⟩ | ⟨n, hdeleted, h⟩
      · refine .inl ⟨⟨e, rfl⟩, rfl, .inr (.inl ?_)⟩
        rintro ⟨n, hn⟩
        cases hdelete.symm.trans hn
      have htail : ∀ {s₂ : ServiceState} {p : HpcQueueProfile}, p.queues ≠ none →
          ((if initializeProvisioner then initializeJobProvisioner p else pure ()) :
            Serving Unit).run s₂ = (r, s') →
          r = .ok () ∧ s' = initializedIf initializeProvisioner s₂ p := by
        intro s₂ p hq htail
        cases initializeProvisioner with
        | false => exact ⟨(Prod.mk.inj htail).1.symm, (Prod.mk.inj htail).2.symm⟩
        | true => exact ⟨initializeJobProvisioner_ok hq htail, initializeJobProvisioner_state htail⟩
      cases updateDb with
      | false =>
        rw [if_neg Bool.false_ne_true, run_pure_bind] at h
        obtain ⟨rfl, hs⟩ := htail (Option.some_ne_none _) h
        exact .inr ⟨rfl, ⟨n, hdeleted⟩, rfl, .inl ⟨rfl, hs⟩⟩
      | true =>
        rw [if_pos rfl] at h
        have hwf : WellFormedTable
            (withObject s₁ ref (remaining queueProfile queues queueNames)).table :=
          table_getQueueProfile hfound ▸ hwf
        rcases setQueues_cases hwf hne h with
          ⟨he, rfl, hrefused⟩ | ⟨id, item, updated, hsaved, h⟩
        · exact .inl ⟨he, rfl, .inr (.inr ⟨rfl, hrefused⟩)⟩
        · obtain ⟨rfl, hs⟩ := htail (hsaved.queues ▸ Option.some_ne_none _) h
          exact .inr ⟨rfl, ⟨n, hdeleted⟩, rfl, .inr ⟨rfl, id, item, updated,
            ⟨hsaved.1, hsaved.2, hsaved.3, hsaved.4, hsaved.5, hsaved.6, hsaved.7,
              hsaved.8⟩, hs⟩⟩

/-- Nothing raises before a start gets to the provisioners. -/
structure ProvisionersReached (ctx : ServiceContext) (answers : Answers) (s : ServiceState) :
    Prop where
  createTable : answers.createTable = none
  reads : answers.read = none
  restored : HpcQueueProfilesDAO.Succeeds (restoreQueues answers 0 (ctx.scan s.table))

theorem start_cases (h : (start ctx answers).run s = (r, s')) :
    s.isRunning = true ∧ s' = s ∨ s.isRunning = false ∧
      (s' = { s with isRunning := true } ∧ ¬ ProvisionersReached ctx answers s ∨
        ∃ queueProfiles, answers.createTable = none ∧ answers.read = none ∧
          restoreQueues answers 0 (ctx.scan s.table) = .ok queueProfiles ∧
          (forEach initializeJobProvisioner queueProfiles).run { s with isRunning := true } =
            (r, s')) := by
  rw [start, run_get_bind] at h
  split at h
  · rename_i hrunning
    obtain ⟨-, rfl⟩ := Prod.mk.inj h
    exact .inl ⟨hrunning, rfl⟩
  rename_i hrunning
  refine .inr ⟨Bool.not_eq_true _ ▸ hrunning, ?_⟩
  rw [run_modify_bind] at h
  rcases raiseIf_bind_cases h with ⟨e, he, -, rfl⟩ | ⟨htable, h⟩
  · exact .inl ⟨rfl, fun hreached => by cases he.symm.trans hreached.createTable⟩
  rcases raiseIf_bind_cases h with ⟨e, he, -, rfl⟩ | ⟨hread, h⟩
  · exact .inl ⟨rfl, fun hreached => by cases he.symm.trans hreached.reads⟩
  rcases ofExcept_bind_cases h with ⟨e, he, -, rfl⟩ | ⟨queueProfiles, hrestored, h⟩
  · refine .inl ⟨rfl, fun hreached => ?_⟩
    obtain ⟨_, hok⟩ := hreached.restored
    cases he.symm.trans hok
  · exact .inr ⟨queueProfiles, htable, hread, hrestored, h⟩

end Idea.QueueProfiles

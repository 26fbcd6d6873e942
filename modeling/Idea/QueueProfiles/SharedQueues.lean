import Idea.QueueProfiles.Invariant

/-! # Queues of several profiles

A queue is in at most one stored profile as long as no request gives a profile a queue of another
one. Only the creation of queues looks at the other profiles, and only if it is told to.
-/

namespace Idea.QueueProfiles

open HpcQueueProfilesDAO HpcQueueProfilesService Stateful

variable {ctx : ServiceContext} {answers : Answers} {s s' : ServiceState}
  {selector : ProfileSelector} {table : ProfilesTable} {id : String} {item : DbQueueProfile}

/-- No queue is in two stored profiles. -/
def QueuesDisjoint (table : ProfilesTable) : Prop :=
  ∀ id₁ item₁ id₂ item₂, table.get? id₁ = some item₁ → table.get? id₂ = some item₂ →
    ∀ queueName ∈ queuesOf item₁, queueName ∈ queuesOf item₂ → id₁ = id₂

/-- No other stored profile has one of the queues. -/
def Free (table : ProfilesTable) (id : String) (queueNames : List String) : Prop :=
  ∀ id' item, table.get? id' = some item → id' ≠ id →
    ∀ queueName ∈ queueNames, queueName ∉ queuesOf item

/-- A request gets to write queues to a profile without a look at the other profiles. -/
inductive WritesUnchecked (ctx : ServiceContext) (answers : Answers) (s : ServiceState) :
    Request → String → List String → Prop
  | createQueueProfile {request queueProfile : HpcQueueProfile}
      (valid : validateAndSanitizeQueueProfile ctx.jobParamsValid answers.stackUuid request =
        .ok queueProfile)
      (new : getQueueProfileByName ctx s.table (queueProfile.name.getD "None") = none)
      (reads : answers.read = none) (writes : answers.write = none) :
      WritesUnchecked ctx answers s (.createQueueProfile request) answers.uuid
        (request.queues.getD [])
  | updateQueueProfile {request queueProfile existing : HpcQueueProfile} {ref : ℕ}
      {s₁ : ServiceState} {id : String}
      (valid : validateAndSanitizeQueueProfile ctx.jobParamsValid answers.stackUuid request =
        .ok queueProfile)
      (found : (getQueueProfile ctx answers (updateSelector queueProfile)).run s =
        (.ok (ref, existing), s₁))
      (existing_id : existing.queueProfileId = some id) (stored : id ∈ s.table.keys)
      (writes : answers.write = none) :
      WritesUnchecked ctx answers s (.updateQueueProfile request) id (request.queues.getD [])
  | createQueues {queueNames : List String} {selector : ProfileSelector}
      {queueProfile : HpcQueueProfile} {ref : ℕ} {s₁ : ServiceState} {id : String}
      (found : (getQueueProfile ctx answers selector.withoutQueue).run s =
        (.ok (ref, queueProfile), s₁))
      (created : QueuesCreated ctx answers s₁ queueProfile queueNames false)
      (selector_id : selector.queueProfileId = some id) (stored : id ∈ s.table.keys)
      (writes : answers.write = none) :
      WritesUnchecked ctx answers s (.createQueues queueNames selector true false) id queueNames
  | deleteQueues {queueNames queues : List String} {selector : ProfileSelector}
      {queueProfile : HpcQueueProfile} {ref : ℕ} {s₁ : ServiceState} {id : String} {b : Bool}
      (found : (getQueueProfile ctx answers selector.withoutQueue).run s =
        (.ok (ref, queueProfile), s₁))
      (has_queues : queueProfile.queues = some queues)
      (removed : (removeQueues queues queueNames).2 = none)
      (deleted : HpcQueueProfilesDAO.Succeeds (deleteSchedulerQueues answers 0 queueNames))
      (selector_id : selector.queueProfileId = some id) (stored : id ∈ s.table.keys)
      (writes : answers.write = none) :
      WritesUnchecked ctx answers s (.deleteQueues queueNames selector true b) id queueNames

theorem QueuesDisjoint.set (h : QueuesDisjoint table) (hfree : Free table id (queuesOf item)) :
    QueuesDisjoint (table.set id item) := by
  intro id₁ item₁ id₂ item₂ h₁ h₂ queueName hq₁ hq₂
  rw [Dict.get?_set] at h₁ h₂
  split at h₁
  · rename_i heq₁
    obtain rfl := Option.some.inj h₁
    split at h₂
    · rename_i heq₂
      exact heq₁.trans heq₂.symm
    · rename_i hne₂
      exact absurd hq₂ (hfree id₂ item₂ h₂ hne₂ queueName hq₁)
  · rename_i hne₁
    split at h₂
    · obtain rfl := Option.some.inj h₂
      exact absurd hq₁ (hfree id₁ item₁ h₁ hne₁ queueName hq₂)
    · exact h id₁ item₁ id₂ item₂ h₁ h₂ queueName hq₁ hq₂

theorem QueuesDisjoint.erase (h : QueuesDisjoint table) (id : String) :
    QueuesDisjoint (table.erase id) := by
  intro id₁ item₁ id₂ item₂ h₁ h₂
  rw [Dict.get?_erase] at h₁ h₂
  split at h₁
  · cases h₁
  split at h₂
  · cases h₂
  exact h id₁ item₁ id₂ item₂ h₁ h₂

theorem QueuesDisjoint.free (h : QueuesDisjoint table) (hitem : table.get? id = some item) :
    Free table id (queuesOf item) := by
  intro id' item' hitem' hne queueName hq hq'
  exact hne (h id' item' id item hitem' hitem queueName hq' hq)

theorem QueuesDisjoint.setEnabled (h : QueuesDisjoint table) (hitem : table.get? id = some item)
    (enabled : Bool) :
    QueuesDisjoint (table.set id (updatedItem id item { enabled := some enabled })) := by
  refine h.set ?_
  rw [queuesOf_updatedItem id item (wellFormedUpdates_enabled enabled).queues]
  exact h.free hitem

theorem QueuesDisjoint.setQueues (h : QueuesDisjoint table) {updates : DbQueueProfile}
    {queueNames : List String} (item : DbQueueProfile) (hqueues : updates.queues = some queueNames)
    (hne : queueNames ≠ []) (hfree : Free table id queueNames) :
    QueuesDisjoint (table.set id (updatedItem id item updates)) := by
  refine h.set ?_
  rw [queuesOf_updatedItem id item (by rw [hqueues]; simpa using hne), hqueues]
  exact hfree

theorem owner_of_checked {queueProfile : HpcQueueProfile} {i : ℕ} {queueNames : List String}
    (h : checkExistingProfiles ctx answers table queueProfile i queueNames = .ok ()) :
    ∀ queueName ∈ queueNames, ∀ existing,
      getQueueProfileByQueue ctx table queueName = some existing →
        existing.queueProfileId = queueProfile.queueProfileId := by
  induction queueNames generalizing i with
  | nil => exact fun _ hq => absurd hq List.not_mem_nil
  | cons queueName queueNames ih =>
    rw [checkExistingProfiles] at h
    split at h
    · cases h
    split at h
    · cases h
    · rename_i hnone
      refine List.forall_mem_cons.mpr ⟨fun existing hsome => ?_, ih h⟩
      cases hnone.symm.trans hsome
    · rename_i existing _ hexisting
      split at h
      · rename_i howner
        refine List.forall_mem_cons.mpr ⟨fun existing' hsome => ?_, ih h⟩
        obtain rfl := Option.some.inj (hexisting.symm.trans hsome)
        exact howner
      · split at h <;> cases h

theorem exists_of_queue (ctx : ServiceContext) {queueName : String} (hitem : table.get? id = some item)
    (hq : queueName ∈ queuesOf item) : ∃ existing,
      getQueueProfileByQueue ctx table queueName = some existing ∧
        queueName ∈ queuesOf existing := by
  have hsome : (getQueueProfileByQueue ctx table queueName).isSome :=
    List.find?_isSome.mpr ⟨item, mem_scan_of_get? hitem, decide_eq_true hq⟩
  obtain ⟨existing, hexisting⟩ := Option.isSome_iff_exists.mp hsome
  have hhas := List.find?_some (show (ctx.scan table).find?
    (fun item => decide (queueName ∈ queuesOf item)) = some existing from hexisting)
  exact ⟨existing, hexisting, of_decide_eq_true hhas⟩

theorem free_of_checked (hwf : WellFormedTable table) (hd : QueuesDisjoint table)
    {queueProfile : HpcQueueProfile} {queueNames : List String}
    (hown : queueProfile.queueProfileId.getD "None" = id)
    (h : checkExistingProfiles ctx answers table queueProfile 0 queueNames = .ok ()) :
    Free table id queueNames := by
  intro id' item hitem hne queueName hq hq'
  obtain ⟨existing, hexisting, hhas⟩ := exists_of_queue ctx hitem hq'
  obtain ⟨id'', hitem''⟩ := exists_id_of_lookup (.queue queueName) hexisting
  obtain rfl := hd id' item id'' existing hitem hitem'' queueName hq' hhas
  have howner := owner_of_checked h queueName hq existing hexisting
  rw [(hwf id' existing hitem'').own_id] at howner
  rw [← howner] at hown
  exact hne hown

theorem mem_keys_of_saved {queueProfileId : Option String} {updates : DbQueueProfile}
    {updated : HpcQueueProfile} {s₁ : ServiceState} (htable : s₁.table = s.table)
    (h : Saved answers s₁ queueProfileId updates id item updated) : id ∈ s.table.keys :=
  htable ▸ Dict.mem_keys_of_get? h.stored

theorem QueuesDisjoint.perform (hwf : WellFormed s) (hd : QueuesDisjoint s.table)
    {request : Request}
    (hfree : ∀ id queueNames, WritesUnchecked ctx answers s request id queueNames →
      Free s.table id queueNames) : QueuesDisjoint (perform ctx answers s request).table := by
  cases request with
  | start =>
    change QueuesDisjoint ((start ctx answers).run s).2.table
    rcases hrun : (start ctx answers).run s with ⟨r, s'⟩
    rcases start_cases hrun with ⟨-, rfl⟩ | ⟨-, ⟨rfl, -⟩ | ⟨queueProfiles, -, -, -, hloop⟩⟩
    · exact hd
    · exact hd
    · refine forEach_invariant (fun s => QueuesDisjoint s.table) hloop hd ?_
      intro p _ s r s' hs hinit
      rw [initializeJobProvisioner_state hinit, table_initialized]
      exact hs
  | createQueueProfile request =>
    change QueuesDisjoint ((createQueueProfile ctx answers request).run s).2.table
    rcases hrun : (createQueueProfile ctx answers request).run s with ⟨r, s'⟩
    rcases createQueueProfile_cases hrun with
      ⟨_, -, rfl⟩ | ⟨p, queues, hvalid, hqueues, hne, hnew, hreads, hwrites, hcreated⟩
    · exact hd
    obtain ⟨queues', hqueues', hrequest, -⟩ := queues_of_valid hvalid
    obtain rfl := Option.some.inj (hqueues.symm.trans hqueues')
    have hset : QueuesDisjoint (s.table.set answers.uuid (createdItem answers p)) := by
      refine hd.set ?_
      have hitem : queuesOf (createdItem answers p) = queues := by
        change (getValueAsList p.queues).getD [] = queues
        rw [getValueAsList_eq_self.mpr] <;> rw [hqueues]
        · rfl
        · simpa using hne
      have hrequested := hfree _ _ (.createQueueProfile hvalid hnew hreads hwrites)
      rw [hitem]
      rwa [hrequest] at hrequested
    rcases hcreated with ⟨_, -, -, rfl⟩ | ⟨-, -, rfl⟩
    · exact hset
    · exact hset
  | getQueueProfile selector =>
    change QueuesDisjoint ((getQueueProfile ctx answers selector).run s).2.table
    rcases hrun : (getQueueProfile ctx answers selector).run s with ⟨r, s'⟩
    rw [table_getQueueProfile hrun]
    exact hd
  | enableQueueProfile selector =>
    change QueuesDisjoint ((enableQueueProfile ctx answers selector).run s).2.table
    rcases hrun : (enableQueueProfile ctx answers selector).run s with ⟨r, s'⟩
    obtain ⟨_, s₁, hfound, rfl | ⟨_, _, id, item, updated, -, -, hsaved, rfl⟩⟩ :=
      enableQueueProfile_cases hwf.table hrun
    · rw [table_getQueueProfile hfound]
      exact hd
    · rw [table_initialized]
      have hd₁ : QueuesDisjoint s₁.table := table_getQueueProfile hfound ▸ hd
      exact hd₁.setEnabled hsaved.stored true
  | disableQueueProfile selector =>
    change QueuesDisjoint ((disableQueueProfile ctx answers selector).run s).2.table
    rcases hrun : (disableQueueProfile ctx answers selector).run s with ⟨r, s'⟩
    obtain ⟨_, s₁, hfound, rfl | ⟨_, _, id, item, updated, -, -, hsaved, rfl⟩⟩ :=
      disableQueueProfile_cases hwf.table hrun
    · rw [table_getQueueProfile hfound]
      exact hd
    · rw [table_stopped]
      have hd₁ : QueuesDisjoint s₁.table := table_getQueueProfile hfound ▸ hd
      exact hd₁.setEnabled hsaved.stored false
  | updateQueueProfile request =>
    change QueuesDisjoint ((updateQueueProfile ctx answers request).run s).2.table
    rcases hrun : (updateQueueProfile ctx answers request).run s with ⟨r, s'⟩
    obtain rfl | ⟨p, _, s₁, hvalid, hfound,
      rfl | ⟨ref, existing, id, item, updated, rfl, hsaved, hreplaced⟩⟩ :=
        updateQueueProfile_cases hwf.table hrun
    · exact hd
    · rw [table_getQueueProfile hfound]
      exact hd
    · have htable := table_getQueueProfile hfound
      have hd₁ : QueuesDisjoint s₁.table := htable ▸ hd
      obtain ⟨queues, hqueues, hrequest, hne⟩ := queues_of_valid hvalid
      have hset := hfree _ _ (.updateQueueProfile hvalid hfound hsaved.id_eq
        (mem_keys_of_saved htable hsaved) hsaved.writes)
      rw [hrequest, Option.getD_some, ← htable] at hset
      have hd₂ := hd₁.setQueues item (show (convertToDb p).queues = some queues from hqueues) hne hset
      rcases hreplaced with ⟨_, -, rfl⟩ | ⟨-, rfl⟩
      · exact hd₂
      · rw [table_initialized]
        exact hd₂
  | deleteQueueProfile selector deleteQueues =>
    change QueuesDisjoint
      ((deleteQueueProfile ctx answers selector deleteQueues).run s).2.table
    rcases hrun : (deleteQueueProfile ctx answers selector deleteQueues).run s with ⟨r, s'⟩
    obtain ⟨_, s₁, hfound, ⟨rfl, -⟩ | ⟨_, p, -, ⟨_, -, rfl⟩ |
      ⟨-, ⟨rfl, -⟩ | ⟨id, -, -, -, rfl⟩⟩⟩⟩ := deleteQueueProfile_cases hrun
    · rw [table_getQueueProfile hfound]
      exact hd
    · rw [table_stopped, table_getQueueProfile hfound]
      exact hd
    · change QueuesDisjoint (stopped s₁ p.queueProfileId).table
      rw [table_stopped, table_getQueueProfile hfound]
      exact hd
    · change QueuesDisjoint ((stopped s₁ (some id)).table.erase id)
      rw [table_stopped, table_getQueueProfile hfound]
      exact hd.erase id
  | createQueues queueNames selector updateDb checkExistingProfile =>
    change QueuesDisjoint
      ((createQueues ctx answers queueNames selector updateDb checkExistingProfile).run s).2.table
    rcases hrun : (createQueues ctx answers queueNames selector updateDb
      checkExistingProfile).run s with ⟨r, s'⟩
    obtain ⟨-, -, rfl⟩ | ⟨_, s₁, hfound, ⟨-, rfl, -⟩ | ⟨ref, p, rfl, hcreated, -, ⟨-, rfl⟩ |
      ⟨rfl, id, item, updated, hsaved, rfl⟩⟩⟩ := createQueues_cases hwf.table hrun
    · exact hd
    · rw [table_getQueueProfile hfound]
      exact hd
    · rw [table_initialized, table_getQueueProfile hfound]
      exact hd
    · have htable := table_getQueueProfile hfound
      have hd₁ : QueuesDisjoint s₁.table := htable ▸ hd
      have hwf₁ := hwf.getQueueProfile hfound
      rw [table_initialized]
      refine hd₁.setQueues item rfl hcreated.nonempty ?_
      cases checkExistingProfile with
      | false =>
        rw [htable]
        exact hfree _ _ (.createQueues hfound hcreated hsaved.id_eq
          (mem_keys_of_saved htable hsaved) hsaved.writes)
      | true =>
        have hne := nonempty_of_trimmed (hwf₁.table id item hsaved.stored).trimmed
        have hown := id_of_found hwf (key?_of_id hsaved.id_eq hne) hfound
        exact free_of_checked hwf₁.table hd₁ hown (hcreated.checked rfl)
  | deleteQueues queueNames selector updateDb initializeProvisioner =>
    change QueuesDisjoint
      ((deleteQueues ctx answers queueNames selector updateDb initializeProvisioner).run s).2.table
    rcases hrun : (deleteQueues ctx answers queueNames selector updateDb
      initializeProvisioner).run s with ⟨r, s'⟩
    obtain ⟨-, -, rfl⟩ | ⟨hne, _, s₁, hfound, ⟨-, rfl, -⟩ | ⟨ref, p, queues, rfl, hqueues,
      ⟨-, rfl, -⟩ | ⟨hremoved, hdeleted, -, ⟨-, rfl⟩ | ⟨rfl, id, item, updated, hsaved, rfl⟩⟩⟩⟩ :=
        deleteQueues_cases hwf.table hrun
    · exact hd
    · rw [table_getQueueProfile hfound]
      exact hd
    · exact table_getQueueProfile hfound ▸ hd
    · rw [table_initializedIf]
      exact table_getQueueProfile hfound ▸ hd
    · have htable := table_getQueueProfile hfound
      have hd₁ : QueuesDisjoint s₁.table := htable ▸ hd
      rw [table_initializedIf]
      refine hd₁.setQueues item rfl hne ?_
      rw [htable]
      exact hfree _ _ (.deleteQueues hfound hqueues hremoved hdeleted hsaved.id_eq
        (mem_keys_of_saved htable hsaved) hsaved.writes)
  | expire key => exact hd

def firstCreated : ServiceState :=
  perform plainContext { uuid := "a" } {} (.createQueueProfile (profileRequest "A" ["normal"]))

theorem run_firstCreated : Run (Step plainContext) {}
    [⟨{}, (.createQueueProfile (profileRequest "A" ["normal"]), { uuid := "a" }), firstCreated⟩]
    firstCreated :=
  .single ⟨⟨List.not_mem_nil, rfl⟩, rfl⟩

theorem wellFormed_firstCreated : WellFormed firstCreated :=
  wellFormed_of_run run_firstCreated initial_empty

end Idea.QueueProfiles

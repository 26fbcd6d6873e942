import Idea.QueueProfiles.SharedQueues

/-! # Job provisioners and the enabled flag

A provisioner is stopped before another one is started for its profile, so at most one runs. That
one runs just for the enabled profiles is up to each request, which writes the flag and starts or
stops the provisioner in separate steps.
-/

namespace Idea.QueueProfiles

open HpcQueueProfilesDAO HpcQueueProfilesService Stateful

variable {ctx : ServiceContext} {answers : Answers} {s s' : ServiceState}
  {selector : ProfileSelector} {queueProfile : HpcQueueProfile} {id : String}
  {item : DbQueueProfile} {q : Option String}

/-- A provisioner is registered for a profile and runs. -/
def Running (s : ServiceState) (queueProfileId : Option String) : Prop :=
  ∃ ref, s.registered.get? queueProfileId = some ref ∧
    s.provisioners[ref]? = some { queueProfileId, running := true }

def storedEnabled (table : ProfilesTable) (queueProfileId : String) : Option Bool :=
  (table.get? queueProfileId).bind DbQueueProfile.enabled

/-- The registered provisioners are those that run, each under the id of its profile. -/
structure Registered (s : ServiceState) : Prop where
  runs : ∀ id ref, s.registered.get? id = some ref →
    s.provisioners[ref]? = some { queueProfileId := id, running := true }
  registers : ∀ ref provisioner, s.provisioners[ref]? = some provisioner →
    provisioner.running = true → s.registered.get? provisioner.queueProfileId = some ref

/-- A provisioner runs for a profile only with the flag, and then after the start. -/
def Fits (s : ServiceState) (id : String) (enabled : Option Bool) : Prop :=
  (Running s (some id) → enabled = some true) ∧
    (s.isRunning = true → enabled = some true → Running s (some id))

structure Governed (s : ServiceState) : Prop where
  registered : Registered s
  fits : ∀ id, Fits s id (storedEnabled s.table id)

/-- The profile that a request for queues starts a provisioner for is enabled in the database. -/
def StartsEnabled (answers : Answers) (s : ServiceState) (selector : ProfileSelector)
    (queueProfile : HpcQueueProfile) (updateDb : Bool) : Prop :=
  (updateDb = false → queueProfile.enabled ≠ some false →
    ∀ id, queueProfile.queueProfileId = some id → storedEnabled s.table id = some true) ∧
  (updateDb = true → answers.write = none → ∀ id item, selector.queueProfileId = some id →
    s.table.get? id = some item → item.enabled ≠ none)

/-- What a request needs to leave the provisioners to the enabled profiles: it does not disable a
profile by an update while its provisioner runs, it starts none for a profile whose flag is not
set, and nothing raises between the change of a flag and that of the provisioner. -/
def KeepsProvisioners (ctx : ServiceContext) (answers : Answers) (s : ServiceState) :
    Request → Prop
  | .start => s.isRunning = false →
      (ProvisionersReached ctx answers s →
        ∀ id item, s.table.get? id = some item → item.enabled ≠ none) ∧
      (¬ ProvisionersReached ctx answers s →
        ∀ id, storedEnabled s.table id = some true → Running s (some id))
  | .updateQueueProfile request => ∀ queueProfile queues ref existing s₁ id item,
      validateAndSanitizeQueueProfile ctx.jobParamsValid answers.stackUuid request =
        .ok queueProfile → queueProfile.queues = some queues →
      (getQueueProfile ctx answers (updateSelector queueProfile)).run s =
        (.ok (ref, existing), s₁) → existing.queueProfileId = some id →
      s.table.get? id = some item → answers.write = none →
      (HpcQueueProfilesDAO.Succeeds
          (replaceSchedulerQueues answers (existing.queues.getD []) queues) →
        queueProfile.enabled.or item.enabled ≠ none ∧
          (queueProfile.enabled.or item.enabled = some false → ¬ Running s (some id))) ∧
      (¬ HpcQueueProfilesDAO.Succeeds
          (replaceSchedulerQueues answers (existing.queues.getD []) queues) →
        Fits s id (queueProfile.enabled.or item.enabled))
  | .deleteQueueProfile selector deleteQueues => ∀ ref queueProfile s₁ id,
      (getQueueProfile ctx answers selector.withoutQueue).run s =
        (.ok (ref, queueProfile), s₁) → queueProfile.queueProfileId = some id →
      s.isRunning = true → storedEnabled s.table id = some true →
      HpcQueueProfilesDAO.Succeeds
        (deleteSchedulerQueues answers 0 (queuesToDelete queueProfile deleteQueues)) ∧
        answers.write = none
  | .createQueues queueNames selector updateDb checkExistingProfile => ∀ ref queueProfile s₁,
      (getQueueProfile ctx answers selector.withoutQueue).run s =
        (.ok (ref, queueProfile), s₁) →
      QueuesCreated ctx answers s₁ queueProfile queueNames checkExistingProfile →
      StartsEnabled answers s selector queueProfile updateDb
  | .deleteQueues queueNames selector updateDb initializeProvisioner =>
      initializeProvisioner = true → ∀ ref queueProfile s₁ queues,
      (getQueueProfile ctx answers selector.withoutQueue).run s =
        (.ok (ref, queueProfile), s₁) → queueProfile.queues = some queues →
      (removeQueues queues queueNames).2 = none →
      HpcQueueProfilesDAO.Succeeds (deleteSchedulerQueues answers 0 queueNames) →
      StartsEnabled answers s selector queueProfile updateDb
  | _ => True

@[simp] theorem mem_registered_stopped (s : ServiceState) (id : Option String) :
    q ∈ (stopped s id).registered.keys ↔ q ≠ id ∧ q ∈ s.registered.keys := by
  unfold stopped
  split
  · rename_i hnone
    refine ⟨fun hq => ⟨?_, hq⟩, And.right⟩
    rintro rfl
    exact Dict.get?_eq_none.mp hnone hq
  · rw [Dict.mem_keys_erase, and_comm]

@[simp] theorem mem_registered_started (s : ServiceState) (id : Option String) :
    q ∈ (started s id).registered.keys ↔ q = id ∨ q ∈ s.registered.keys :=
  Dict.mem_keys_set

namespace Registered

theorem running_iff (h : Registered s) : Running s q ↔ q ∈ s.registered.keys := by
  constructor
  · rintro ⟨ref, href, -⟩
    exact Dict.mem_keys_of_get? href
  · intro hq
    obtain ⟨ref, href⟩ := Dict.exists_get?_of_mem_keys hq
    exact ⟨ref, href, h.runs q ref href⟩

theorem congr (h : Registered s) (hp : s'.provisioners = s.provisioners)
    (hr : s'.registered = s.registered) : Registered s' where
  runs := by rw [hp, hr]; exact h.runs
  registers := by rw [hp, hr]; exact h.registers

theorem stopped (h : Registered s) (id : Option String) : Registered (stopped s id) := by
  unfold QueueProfiles.stopped
  split
  · exact h
  rename_i ref href
  have hother : ∀ ref', ref ≠ ref' → (s.provisioners.modify ref
      fun provisioner => { provisioner with running := false })[ref']? = s.provisioners[ref']? :=
    fun ref' hne => by simp [hne]
  constructor
  · intro id' ref' hget
    rw [Dict.get?_erase] at hget
    split at hget
    · cases hget
    rename_i hne
    have hruns := h.runs id' ref' hget
    refine (hother ref' ?_).trans hruns
    rintro rfl
    rw [h.runs id ref href] at hruns
    exact hne (Provisioner.mk.inj (Option.some.inj hruns)).1.symm
  · intro ref' provisioner hget hrunning
    by_cases heq : ref = ref'
    · subst heq
      rw [List.getElem?_modify_eq, h.runs id ref href] at hget
      obtain rfl := Option.some.inj hget
      cases hrunning
    · have hregistered := h.registers ref' provisioner ((hother ref' heq).symm.trans hget) hrunning
      rw [Dict.get?_erase, if_neg ?_]
      · exact hregistered
      · rintro hid
        rw [hid, href] at hregistered
        exact heq (Option.some.inj hregistered)

theorem started (h : Registered s) {id : Option String} (hid : id ∉ s.registered.keys) :
    Registered (started s id) where
  runs := by
    intro id' ref hget
    change (s.registered.set id s.provisioners.length).get? id' = some ref at hget
    rw [Dict.get?_set] at hget
    split at hget
    · rename_i heq
      obtain rfl := Option.some.inj hget
      subst heq
      exact List.getElem?_concat_length
    · have hruns := h.runs id' ref hget
      refine (List.getElem?_append_left ?_).trans hruns
      exact (List.getElem?_eq_some_iff.mp hruns).1
  registers := by
    intro ref provisioner hget hrunning
    change (s.provisioners ++ [_])[ref]? = some provisioner at hget
    change (s.registered.set id s.provisioners.length).get? _ = _
    rw [List.getElem?_append] at hget
    split at hget
    · have hregistered := h.registers ref provisioner hget hrunning
      rw [Dict.get?_set, if_neg ?_]
      · exact hregistered
      · rintro rfl
        exact hid (Dict.mem_keys_of_get? hregistered)
    · rename_i hge
      obtain ⟨hlt, rfl⟩ := List.getElem?_eq_some_iff.mp hget
      have hzero : ref = s.provisioners.length := by
        rw [List.length_singleton] at hlt
        omega
      subst hzero
      simp [Dict.get?_set]

theorem initialized (h : Registered s) (queueProfile : HpcQueueProfile) :
    Registered (initialized s queueProfile) := by
  unfold QueueProfiles.initialized
  split
  · exact h
  dsimp only
  split
  · exact h.stopped _
  · refine (h.stopped _).started fun hid => ?_
    exact ((mem_registered_stopped s _).mp hid).1 rfl

end Registered

theorem mem_registered_initialized (s : ServiceState) (queueProfile : HpcQueueProfile)
    (hq : queueProfile.queues ≠ none) :
    q ∈ (initialized s queueProfile).registered.keys ↔
      queueProfile.enabled ≠ some false ∧ q = queueProfile.queueProfileId ∨
        q ∈ s.registered.keys := by
  unfold initialized
  split
  · rename_i hfalse
    simp [hfalse]
  · rename_i henabled
    dsimp only
    rw [if_neg (by simpa using hq), mem_registered_started, mem_registered_stopped]
    by_cases hid : q = queueProfile.queueProfileId <;> simp [hid, henabled]

theorem storedEnabled_set (table : ProfilesTable) (id id' : String) (item : DbQueueProfile) :
    storedEnabled (table.set id item) id' =
      if id' = id then item.enabled else storedEnabled table id' := by
  unfold storedEnabled
  rw [Dict.get?_set]
  split <;> rfl

theorem storedEnabled_erase (table : ProfilesTable) (id id' : String) :
    storedEnabled (table.erase id) id' = if id' = id then none else storedEnabled table id' := by
  unfold storedEnabled
  rw [Dict.get?_erase]
  split <;> rfl

theorem storedEnabled_of_get? {table : ProfilesTable} (h : table.get? id = some item) :
    storedEnabled table id = item.enabled := by
  unfold storedEnabled
  rw [h]
  rfl

theorem mem_keys_of_storedEnabled {table : ProfilesTable} {b : Bool}
    (h : storedEnabled table id = some b) : id ∈ table.keys := by
  obtain ⟨item, hitem, -⟩ := Option.bind_eq_some_iff.mp h
  exact Dict.mem_keys_of_get? hitem

theorem Registered.fits_iff (h : Registered s) {enabled : Option Bool} :
    Fits s id enabled ↔ (some id ∈ s.registered.keys → enabled = some true) ∧
      (s.isRunning = true → enabled = some true → some id ∈ s.registered.keys) := by
  unfold Fits
  rw [h.running_iff]

structure GovernedBut (s : ServiceState) (id : String) : Prop where
  registered : Registered s
  fits : ∀ id', id' ≠ id → Fits s id' (storedEnabled s.table id')

namespace GovernedBut

theorem governed (h : GovernedBut s id) (hfits : Fits s id (storedEnabled s.table id)) :
    Governed s where
  registered := h.registered
  fits := by
    intro id'
    by_cases heq : id' = id
    · exact heq ▸ hfits
    · exact h.fits id' heq

theorem initialized (h : GovernedBut s id) (hown : queueProfile.queueProfileId = some id)
    (hq : queueProfile.queues ≠ none)
    (hstarted : queueProfile.enabled ≠ some false → storedEnabled s.table id = some true)
    (hleft : queueProfile.enabled = some false → Fits s id (storedEnabled s.table id)) :
    Governed (initialized s queueProfile) := by
  by_cases henabled : queueProfile.enabled = some false
  · rw [QueueProfiles.initialized, if_pos henabled]
    exact h.governed (hleft henabled)
  · have hregistered := h.registered.initialized queueProfile
    refine ⟨hregistered, fun id' => ?_⟩
    rw [hregistered.fits_iff, mem_registered_initialized s queueProfile hq, table_initialized,
      isRunning_initialized, hown]
    by_cases heq : id' = id
    · subst heq
      exact ⟨fun _ => hstarted henabled, fun _ _ => .inl ⟨henabled, rfl⟩⟩
    · have hne : some id' ≠ some id := fun he => heq (Option.some.inj he)
      have hfits := h.registered.fits_iff.mp (h.fits id' heq)
      exact ⟨fun hmem => hfits.1 (hmem.resolve_left fun hid => hne hid.2),
        fun hi he => .inr (hfits.2 hi he)⟩

theorem stopped (h : GovernedBut s id)
    (hstored : s.isRunning = true → storedEnabled s.table id ≠ some true) :
    Governed (stopped s (some id)) := by
  have hregistered := h.registered.stopped (some id)
  refine ⟨hregistered, fun id' => ?_⟩
  rw [hregistered.fits_iff, mem_registered_stopped, table_stopped, isRunning_stopped]
  by_cases heq : id' = id
  · subst heq
    exact ⟨fun hmem => absurd rfl hmem.1, fun hi he => absurd he (hstored hi)⟩
  · have hne : some id' ≠ some id := fun he => heq (Option.some.inj he)
    have hfits := h.registered.fits_iff.mp (h.fits id' heq)
    exact ⟨fun hmem => hfits.1 hmem.2, fun hi he => ⟨hne, hfits.2 hi he⟩⟩

end GovernedBut

namespace Governed

theorem congr (h : Governed s) (ht : s'.table = s.table) (hp : s'.provisioners = s.provisioners)
    (hr : s'.registered = s.registered) (hi : s'.isRunning = s.isRunning) : Governed s' where
  registered := h.registered.congr hp hr
  fits := by
    intro id
    have hfits := h.fits id
    unfold Fits Running at hfits ⊢
    rwa [ht, hp, hr, hi]

theorem but (h : Governed s) (id : String) : GovernedBut s id :=
  ⟨h.registered, fun id' _ => h.fits id'⟩

theorem write (h : Governed s) (ht : s'.table = s.table.set id item)
    (hp : s'.provisioners = s.provisioners) (hr : s'.registered = s.registered)
    (hi : s'.isRunning = s.isRunning) : GovernedBut s' id where
  registered := h.registered.congr hp hr
  fits := by
    intro id' hne
    have hfits := h.fits id'
    unfold Fits Running at hfits ⊢
    rwa [ht, storedEnabled_set, if_neg hne, hp, hr, hi]

theorem withItem (h : Governed s) (hfits : Fits s id item.enabled) :
    Governed (withItem s id item) := by
  refine (@write s (QueueProfiles.withItem s id item) id item h rfl rfl rfl rfl).governed ?_
  change Fits s id (storedEnabled (s.table.set id item) id)
  rwa [storedEnabled_set, if_pos rfl]

theorem not_registered (h : Governed s) (hid : id ∉ s.table.keys) :
    some id ∉ s.registered.keys := by
  intro hmem
  have htrue := (h.registered.fits_iff.mp (h.fits id)).1 hmem
  exact hid (mem_keys_of_storedEnabled htrue)

theorem stopped (h : Governed s) (queueProfileId : Option String)
    (hstored : ∀ id, queueProfileId = some id → s.isRunning = true →
      storedEnabled s.table id ≠ some true) : Governed (stopped s queueProfileId) := by
  cases queueProfileId with
  | some id => exact (h.but id).stopped (hstored id rfl)
  | none =>
    have hregistered := h.registered.stopped none
    refine ⟨hregistered, fun id => ?_⟩
    rw [hregistered.fits_iff, mem_registered_stopped, table_stopped, isRunning_stopped]
    have hfits := h.registered.fits_iff.mp (h.fits id)
    exact ⟨fun hmem => hfits.1 hmem.2, fun hi he => ⟨Option.some_ne_none id, hfits.2 hi he⟩⟩

theorem deleted (h : Governed s) (id : String) :
    Governed (withoutItem (QueueProfiles.stopped s (some id)) id) := by
  have hregistered : Registered (withoutItem (QueueProfiles.stopped s (some id)) id) :=
    (h.registered.stopped (some id)).congr rfl rfl
  refine ⟨hregistered, fun id' => hregistered.fits_iff.mpr ?_⟩
  change (some id' ∈ (QueueProfiles.stopped s (some id)).registered.keys →
      storedEnabled ((QueueProfiles.stopped s (some id)).table.erase id) id' = some true) ∧
    ((QueueProfiles.stopped s (some id)).isRunning = true →
      storedEnabled ((QueueProfiles.stopped s (some id)).table.erase id) id' = some true →
        some id' ∈ (QueueProfiles.stopped s (some id)).registered.keys)
  rw [mem_registered_stopped, table_stopped, isRunning_stopped, storedEnabled_erase]
  have hfits := h.registered.fits_iff.mp (h.fits id')
  split
  · rename_i heq
    exact ⟨fun hmem => absurd (congrArg some heq) hmem.1, fun _ he => by cases he⟩
  · rename_i hne
    exact ⟨fun hmem => hfits.1 hmem.2,
      fun hi he => ⟨fun heq => hne (Option.some.inj heq), hfits.2 hi he⟩⟩

theorem getQueueProfile (h : Governed s) {r : Except Raised (ℕ × HpcQueueProfile)}
    (hrun : (getQueueProfile ctx answers selector).run s = (r, s')) : Governed s' := by
  rcases getQueueProfile_state hrun with rfl | ⟨p, -, rfl⟩
  · exact h
  · exact h.congr rfl rfl rfl rfl

theorem initialized (h : Governed s)
    (hq : queueProfile.queueProfileId = none ∨ queueProfile.queues ≠ none)
    (hstarted : queueProfile.enabled ≠ some false → ∀ id, queueProfile.queueProfileId = some id →
      storedEnabled s.table id = some true) : Governed (initialized s queueProfile) := by
  cases hown : queueProfile.queueProfileId with
  | some id =>
    have hq : queueProfile.queues ≠ none := hq.resolve_left (by rw [hown]; simp)
    exact (h.but id).initialized hown hq (fun henabled => hstarted henabled id hown)
      fun _ => h.fits id
  | none =>
    have hregistered := h.registered.initialized queueProfile
    refine ⟨hregistered, fun id => ?_⟩
    have hmem : some id ∈ (QueueProfiles.initialized s queueProfile).registered.keys ↔
        some id ∈ s.registered.keys := by
      unfold QueueProfiles.initialized
      rw [hown]
      split
      · rfl
      · dsimp only
        split <;> simp
    rw [hregistered.fits_iff, hmem, table_initialized, isRunning_initialized]
    exact h.registered.fits_iff.mp (h.fits id)

theorem updated {queueProfileId : Option String} {updates : DbQueueProfile}
    {updated : HpcQueueProfile} (h : Governed s)
    (hsaved : Saved answers s queueProfileId updates id item updated)
    (hne : updates.enabled.or item.enabled ≠ none)
    (hdisabled : updates.enabled.or item.enabled = some false → ¬ Running s (some id)) :
    Governed (QueueProfiles.initialized (cached (QueueProfiles.withItem s id
      (updatedItem id item updates)) updated) updated) := by
  have hwrite := @write s (cached (QueueProfiles.withItem s id (updatedItem id item updates))
    updated) id (updatedItem id item updates) h rfl rfl rfl rfl
  have hstored : storedEnabled (cached (QueueProfiles.withItem s id
      (updatedItem id item updates)) updated).table id = updates.enabled.or item.enabled := by
    change storedEnabled (s.table.set id _) id = _
    rw [storedEnabled_set, if_pos rfl]
    rfl
  refine hwrite.initialized hsaved.own_id (hsaved.queues ▸ Option.some_ne_none _) ?_ ?_
  · intro henabled
    rw [hsaved.enabled] at henabled
    rw [hstored]
    cases he : updates.enabled.or item.enabled with
    | none => exact absurd he hne
    | some b =>
      cases b with
      | true => rfl
      | false => exact absurd he henabled
  · intro henabled
    rw [hsaved.enabled] at henabled
    rw [hstored, henabled]
    exact ⟨fun hrunning => absurd hrunning (hdisabled henabled), fun _ he => by cases he⟩

end Governed

theorem restored_iff {i : ℕ} {items : List DbQueueProfile} {queueProfiles : List HpcQueueProfile}
    (h : restoreQueues answers i items = .ok queueProfiles) :
    queueProfile ∈ queueProfiles ↔ ∃ item ∈ items, convertFromDb item = .ok queueProfile := by
  induction items generalizing i queueProfiles with
  | nil =>
    obtain rfl := Except.ok.inj h
    simp
  | cons item items ih =>
    rw [restoreQueues] at h
    obtain ⟨p, hp, h⟩ := Raised.bind_eq_ok.mp h
    obtain ⟨queues, -, h⟩ := Raised.bind_eq_ok.mp h
    obtain ⟨_, -, h⟩ := Raised.bind_eq_ok.mp h
    obtain ⟨rest, hrest, h⟩ := Raised.bind_eq_ok.mp h
    obtain rfl := Except.ok.inj h
    rw [List.mem_cons, ih hrest]
    simp only [List.mem_cons, exists_eq_or_imp, hp, Except.ok.injEq]
    exact or_congr_left eq_comm

theorem forEach_initialized {queueProfiles : List HpcQueueProfile} {r : Except Raised Unit}
    (hq : ∀ p ∈ queueProfiles, p.queues ≠ none)
    (h : (forEach initializeJobProvisioner queueProfiles).run s = (r, s')) :
    s' = queueProfiles.foldl initialized s := by
  induction queueProfiles generalizing s with
  | nil => exact (Prod.mk.inj h).2.symm
  | cons p queueProfiles ih =>
    rw [List.forall_mem_cons] at hq
    rcases bind_cases h with ⟨e, hinit, -⟩ | ⟨_, s₁, hinit, h⟩
    · cases initializeJobProvisioner_ok hq.1 hinit
    · obtain rfl := initializeJobProvisioner_state hinit
      exact ih hq.2 h

theorem foldl_initialized {queueProfiles : List HpcQueueProfile} (h : Registered s)
    (hq : ∀ p ∈ queueProfiles, p.queues ≠ none) :
    let s' := queueProfiles.foldl initialized s
    Registered s' ∧ s'.table = s.table ∧ s'.isRunning = s.isRunning ∧ ∀ q,
      q ∈ s'.registered.keys ↔
        (∃ p ∈ queueProfiles, p.enabled ≠ some false ∧ q = p.queueProfileId) ∨
          q ∈ s.registered.keys := by
  induction queueProfiles generalizing s with
  | nil => simp [h]
  | cons p queueProfiles ih =>
    rw [List.forall_mem_cons] at hq
    obtain ⟨hregistered, htable, hrunning, hmem⟩ := ih (h.initialized p) hq.2
    refine ⟨hregistered, htable.trans (table_initialized s p),
      hrunning.trans (isRunning_initialized s p), fun q => (hmem q).trans ?_⟩
    rw [mem_registered_initialized s p hq.1]
    simp only [List.mem_cons, exists_eq_or_imp]
    exact or_left_comm.trans or_assoc.symm

theorem Governed.start (h : Governed s) (hwf : WellFormed s)
    (hsafe : KeepsProvisioners ctx answers s .start) :
    Governed ((start ctx answers).run s).2 := by
  rcases hrun : (QueueProfiles.start ctx answers).run s with ⟨r, s'⟩
  rcases start_cases hrun with ⟨-, rfl⟩ | ⟨hstopped, hends⟩
  · exact h
  rcases hends with ⟨rfl, hnot⟩ | ⟨queueProfiles, htable, hread, hrestored, hloop⟩
  · refine ⟨h.registered.congr rfl rfl, fun id => ⟨(h.fits id).1, fun _ => ?_⟩⟩
    exact (hsafe hstopped).2 hnot id
  have hset := (hsafe hstopped).1 ⟨htable, hread, _, hrestored⟩
  have hitem : ∀ p ∈ queueProfiles, ∃ id item, s.table.get? id = some item ∧
      p.queueProfileId = some id ∧ p.enabled = item.enabled ∧ p.queues ≠ none := by
    intro p hp
    obtain ⟨item, hmem, hp⟩ := (restored_iff hrestored).mp hp
    obtain ⟨id, hid⟩ := exists_id_of_mem_scan hmem
    obtain ⟨p', hp', hown, -, henabled, hqueues⟩ := (hwf.table id item hid).convertFromDb
    obtain rfl := Except.ok.inj (hp'.symm.trans hp)
    exact ⟨id, item, hid, hown, henabled, hqueues ▸ Option.some_ne_none _⟩
  have hq : ∀ p ∈ queueProfiles, p.queues ≠ none := fun p hp =>
    have ⟨_, _, _, _, _, hq⟩ := hitem p hp
    hq
  obtain rfl := forEach_initialized hq hloop
  obtain ⟨hregistered, htable', -, hmem⟩ :=
    @foldl_initialized { s with isRunning := true } queueProfiles (h.registered.congr rfl rfl) hq
  refine ⟨hregistered, fun id => hregistered.fits_iff.mpr ?_⟩
  have hfits := h.registered.fits_iff.mp (h.fits id)
  rw [htable', hmem]
  constructor
  · rintro (⟨p, hp, henabled, hid⟩ | hbefore)
    · obtain ⟨id', item, hstored, hown, hflag, -⟩ := hitem p hp
      obtain rfl : id = id' := Option.some.inj (hid.trans hown)
      change storedEnabled s.table id = some true
      rw [storedEnabled_of_get? hstored]
      have hne := hset id item hstored
      rw [hflag] at henabled
      cases he : item.enabled with
      | none => exact absurd he hne
      | some b =>
        cases b with
        | true => rfl
        | false => exact absurd he henabled
    · exact hfits.1 hbefore
  · intro _ henabled
    obtain ⟨item, hstored, henabled⟩ := Option.bind_eq_some_iff.mp henabled
    obtain ⟨p, hp, hown, -, hflag, -⟩ := (hwf.table id item hstored).convertFromDb
    refine .inl ⟨p, (restored_iff hrestored).mpr ⟨item, mem_scan_of_get? hstored, hp⟩, ?_,
      hown.symm⟩
    rw [hflag, henabled]
    decide

namespace Governed

theorem createQueueProfile {request : HpcQueueProfile} (h : Governed s)
    (hnew : answers.uuid ∉ s.table.keys) :
    Governed ((createQueueProfile ctx answers request).run s).2 := by
  rcases hrun : (QueueProfiles.createQueueProfile ctx answers request).run s with ⟨r, s'⟩
  rcases createQueueProfile_cases hrun with
    ⟨_, -, rfl⟩ | ⟨p, queues, -, -, -, -, -, -, hends⟩
  · exact h
  have hcreated : Governed (QueueProfiles.withItem s answers.uuid (createdItem answers p)) := by
    refine h.withItem (h.registered.fits_iff.mpr ⟨fun hmem => ?_, fun _ he => by cases he⟩)
    exact absurd hmem (h.not_registered hnew)
  rcases hends with ⟨_, -, -, rfl⟩ | ⟨-, -, rfl⟩
  · exact hcreated
  · exact hcreated.congr rfl rfl rfl rfl

theorem updateQueueProfile {request : HpcQueueProfile} (h : Governed s) (hwf : WellFormed s)
    (hsafe : KeepsProvisioners ctx answers s (.updateQueueProfile request)) :
    Governed ((updateQueueProfile ctx answers request).run s).2 := by
  rcases hrun : (QueueProfiles.updateQueueProfile ctx answers request).run s with ⟨r, s'⟩
  obtain rfl | ⟨p, _, s₁, hvalid, hfound, hends⟩ := updateQueueProfile_cases hwf.table hrun
  · exact h
  have h₁ := h.getQueueProfile hfound
  rcases hends with rfl | ⟨ref, existing, id, item, updated, rfl, hsaved, hends⟩
  · exact h₁
  obtain ⟨queues, hqueues, -, hne⟩ := queues_of_valid hvalid
  have hitem : s.table.get? id = some item := table_getQueueProfile hfound ▸ hsaved.stored
  obtain ⟨hdone, hraised⟩ := hsafe p queues ref existing s₁ id item hvalid hqueues hfound
    hsaved.id_eq hitem hsaved.writes
  have hwritten : updated.queues.getD [] = queues := by
    rw [hsaved.queues, Option.getD_some, queuesOf_updatedItem]
    · change p.queues.getD (queuesOf item) = queues
      rw [hqueues, Option.getD_some]
    · change p.queues ≠ some []
      rw [hqueues]
      simpa using hne
  have hrunning : Running s₁ (some id) ↔ Running s (some id) := by
    rcases getQueueProfile_state hfound with rfl | ⟨_, -, rfl⟩ <;> rfl
  rw [hwritten] at hends
  rcases hends with ⟨e, hscheduler, rfl⟩ | ⟨hscheduler, rfl⟩
  · refine h₁.withItem ?_
    have hfits := hraised (fun ⟨n, hn⟩ => by cases hscheduler.symm.trans hn)
    rcases getQueueProfile_state hfound with rfl | ⟨_, -, rfl⟩
    · exact hfits
    · exact hfits
  · obtain ⟨hset, hdisabled⟩ := hdone hscheduler
    exact h₁.updated hsaved hset fun he hr => hdisabled he (hrunning.mp hr)

theorem deleteQueueProfile {deleteQueues : Option Bool} (h : Governed s) (hwf : WellFormed s)
    (hsafe : KeepsProvisioners ctx answers s (.deleteQueueProfile selector deleteQueues)) :
    Governed ((deleteQueueProfile ctx answers selector deleteQueues).run s).2 := by
  rcases hrun : (QueueProfiles.deleteQueueProfile ctx answers selector deleteQueues).run s
    with ⟨r, s'⟩
  obtain ⟨_, s₁, hfound, hends⟩ := deleteQueueProfile_cases hrun
  have h₁ := h.getQueueProfile hfound
  rcases hends with ⟨rfl, -⟩ | ⟨ref, p, rfl, hends⟩
  · exact h₁
  have htable := table_getQueueProfile hfound
  have hi : s₁.isRunning = s.isRunning := by
    rcases getQueueProfile_state hfound with rfl | ⟨_, -, rfl⟩ <;> rfl
  rcases hends with ⟨e, hscheduler, rfl⟩ | ⟨-, ⟨rfl, hrefused⟩ | ⟨id, hid, -, -, rfl⟩⟩
  · refine h₁.stopped p.queueProfileId fun id hid hrunning henabled => ?_
    obtain ⟨⟨n, hn⟩, -⟩ := hsafe ref p s₁ id hfound hid (hi ▸ hrunning) (htable ▸ henabled)
    cases hscheduler.symm.trans hn
  · refine (h₁.stopped p.queueProfileId fun id hid hrunning henabled => ?_).congr rfl rfl rfl rfl
    rcases hrefused with hnone | hempty | hwrite
    · have hmem := List.mem_of_getElem? (exists_object_of_found hwf hfound)
      rcases (hwf.getQueueProfile hfound).queues p hmem with hnone' | hqueues
      · cases hid.symm.trans hnone'
      · exact hqueues hnone
    · obtain ⟨item, hitem, -⟩ := Option.bind_eq_some_iff.mp henabled
      have hne := nonempty_of_trimmed ((hwf.getQueueProfile hfound).table id item hitem).trimmed
      rw [← hid, hempty] at hne
      cases hne
    · exact hwrite (hsafe ref p s₁ id hfound hid (hi ▸ hrunning) (htable ▸ henabled)).2
  · exact (h₁.deleted id).congr rfl rfl rfl rfl

theorem updated_queues {queueProfileId : Option String} {queueNames : List String}
    {updated : HpcQueueProfile} (h : Governed s)
    (hsaved : Saved answers s queueProfileId { queues := some queueNames } id item updated)
    (hset : item.enabled ≠ none) :
    Governed (QueueProfiles.initialized (cached (QueueProfiles.withItem s id
      (updatedItem id item { queues := some queueNames })) updated) updated) := by
  refine h.updated hsaved hset fun hfalse hrunning => ?_
  have htrue := (h.fits id).1 hrunning
  rw [storedEnabled_of_get? hsaved.stored] at htrue
  cases htrue.symm.trans hfalse

theorem createQueues {queueNames : List String} {updateDb checkExistingProfile : Bool}
    (h : Governed s) (hwf : WellFormed s)
    (hsafe : KeepsProvisioners ctx answers s
      (.createQueues queueNames selector updateDb checkExistingProfile)) :
    Governed
      ((createQueues ctx answers queueNames selector updateDb checkExistingProfile).run s).2 := by
  rcases hrun : (QueueProfiles.createQueues ctx answers queueNames selector updateDb
    checkExistingProfile).run s with ⟨r, s'⟩
  obtain ⟨-, -, rfl⟩ | ⟨_, s₁, hfound, hends⟩ := createQueues_cases hwf.table hrun
  · exact h
  have h₁ := h.getQueueProfile hfound
  rcases hends with ⟨-, rfl, -⟩ | ⟨ref, p, rfl, hcreated, -, hends⟩
  · exact h₁
  have htable := table_getQueueProfile hfound
  obtain ⟨hkept, hupdated⟩ := hsafe ref p s₁ hfound hcreated
  rcases hends with ⟨hdb, rfl⟩ | ⟨hdb, id, item, updated, hsaved, rfl⟩
  · refine h₁.initialized ?_ (htable ▸ hkept hdb)
    exact (hwf.getQueueProfile hfound).queues p
      (List.mem_of_getElem? (exists_object_of_found hwf hfound))
  · exact h₁.updated_queues hsaved
      (hupdated hdb hsaved.writes id item hsaved.id_eq (htable ▸ hsaved.stored))

theorem deleteQueues {queueNames : List String} {updateDb initializeProvisioner : Bool}
    (h : Governed s) (hwf : WellFormed s)
    (hsafe : KeepsProvisioners ctx answers s
      (.deleteQueues queueNames selector updateDb initializeProvisioner)) :
    Governed
      ((deleteQueues ctx answers queueNames selector updateDb initializeProvisioner).run s).2 := by
  rcases hrun : (QueueProfiles.deleteQueues ctx answers queueNames selector updateDb
    initializeProvisioner).run s with ⟨r, s'⟩
  obtain ⟨-, -, rfl⟩ | ⟨-, _, s₁, hfound, hends⟩ := deleteQueues_cases hwf.table hrun
  · exact h
  have h₁ := h.getQueueProfile hfound
  rcases hends with ⟨-, rfl, -⟩ | ⟨ref, p, queues, rfl, hqueues, hends⟩
  · exact h₁
  have htable := table_getQueueProfile hfound
  have h₂ : Governed (withObject s₁ ref (remaining p queues queueNames)) :=
    h₁.congr rfl rfl rfl rfl
  rcases hends with ⟨-, rfl, -⟩ | ⟨hremoved, hdeleted, -, hends⟩
  · exact h₂
  cases initializeProvisioner with
  | false =>
    rcases hends with ⟨-, rfl⟩ | ⟨-, id, item, updated, hsaved, rfl⟩
    · exact h₂
    · refine (h₂.withItem ?_).congr rfl rfl rfl rfl
      have hfits := h₂.fits id
      have hstored : storedEnabled (withObject s₁ ref (remaining p queues queueNames)).table id =
          item.enabled := storedEnabled_of_get? hsaved.stored
      rwa [hstored] at hfits
  | true =>
    obtain ⟨hkept, hupdated⟩ := hsafe rfl ref p s₁ queues hfound hqueues hremoved hdeleted
    rcases hends with ⟨hdb, rfl⟩ | ⟨hdb, id, item, updated, hsaved, rfl⟩
    · exact h₂.initialized (.inr (Option.some_ne_none _)) (htable ▸ hkept hdb)
    · have hsaved₂ : Saved answers (withObject s₁ ref (remaining p queues queueNames))
          selector.queueProfileId { queues := some queueNames } id item updated :=
        ⟨hsaved.1, hsaved.2, hsaved.3, hsaved.4, hsaved.5, hsaved.6, hsaved.7, hsaved.8⟩
      exact h₂.updated_queues hsaved₂
        (hupdated hdb hsaved.writes id item hsaved.id_eq (htable ▸ hsaved.stored))

theorem perform (h : Governed s) (hwf : WellFormed s) (hnew : answers.uuid ∉ s.table.keys)
    {request : Request} (hsafe : KeepsProvisioners ctx answers s request) :
    Governed (perform ctx answers s request) := by
  cases request with
  | start => exact h.start hwf hsafe
  | createQueueProfile request => exact h.createQueueProfile hnew
  | getQueueProfile selector =>
    change Governed ((QueueProfiles.getQueueProfile ctx answers selector).run s).2
    rcases hrun : (QueueProfiles.getQueueProfile ctx answers selector).run s with ⟨r, s'⟩
    exact h.getQueueProfile hrun
  | enableQueueProfile selector =>
    change Governed ((enableQueueProfile ctx answers selector).run s).2
    rcases hrun : (enableQueueProfile ctx answers selector).run s with ⟨r, s'⟩
    obtain ⟨_, s₁, hfound, rfl | ⟨ref, p, id, item, updated, -, -, hsaved, rfl⟩⟩ :=
      enableQueueProfile_cases hwf.table hrun
    · exact h.getQueueProfile hfound
    · exact (h.getQueueProfile hfound).updated hsaved (Option.some_ne_none true)
        fun he => by cases he
  | disableQueueProfile selector =>
    change Governed ((disableQueueProfile ctx answers selector).run s).2
    rcases hrun : (disableQueueProfile ctx answers selector).run s with ⟨r, s'⟩
    obtain ⟨_, s₁, hfound, rfl | ⟨ref, p, id, item, updated, -, -, hsaved, rfl⟩⟩ :=
      disableQueueProfile_cases hwf.table hrun
    · exact h.getQueueProfile hfound
    · refine (@write s₁ (cached (QueueProfiles.withItem s₁ id _) updated) id _
        (h.getQueueProfile hfound) rfl rfl rfl rfl).stopped fun _ => ?_
      change storedEnabled (s₁.table.set id _) id ≠ some true
      rw [storedEnabled_set, if_pos rfl]
      exact fun he => by cases he
  | updateQueueProfile request => exact h.updateQueueProfile hwf hsafe
  | deleteQueueProfile selector deleteQueues => exact h.deleteQueueProfile hwf hsafe
  | createQueues queueNames selector updateDb checkExistingProfile =>
    exact h.createQueues hwf hsafe
  | deleteQueues queueNames selector updateDb initializeProvisioner =>
    exact h.deleteQueues hwf hsafe
  | expire key => exact h.congr rfl rfl rfl rfl

end Governed

end Idea.QueueProfiles

import Idea.QueueProfiles.Service
import Idea.QueueProfiles.RoundTrip

/-! # Stored items

The items that the service writes have their own id, some queues, and units and a strategy that
the decoder knows. So they are read back without an exception, also after an update.
-/

namespace Idea

namespace HpcQueueProfilesDAO

def Succeeds {ε α : Type} (x : Except ε α) : Prop := ∃ a, x = .ok a

structure Decodable (item : DbQueueProfile) : Prop where
  memory : Succeeds (decodeMemory item.paramMemory item.paramMemoryUnit)
  strategy : Succeeds (decodeStrategy item.paramSpotAllocationStrategy)
  rootStorageSize :
    Succeeds (decodeMemory item.paramRootStorageSize item.paramRootStorageSizeUnit)
  scratchStorageSize :
    Succeeds (decodeMemory item.paramScratchStorageSize item.paramScratchStorageSizeUnit)
  fsxLustreSize : Succeeds (decodeMemory item.paramFsxLustreSize item.paramFsxLustreSizeUnit)

/-- What the service stores under an id. -/
structure WellFormedItem (queueProfileId : String) (item : DbQueueProfile) : Prop where
  own_id : item.queueProfileId = some queueProfileId
  trimmed : getAsString queueProfileId = some queueProfileId
  has_queues : queuesOf item ≠ []
  decodable : Decodable item

def WellFormedTable (table : ProfilesTable) : Prop :=
  ∀ id item, table.get? id = some item → WellFormedItem id item

def Paired (value : Option ℚ) (unit : Option String) : Prop := value = none ↔ unit = none

structure WellFormedUpdates (updates : DbQueueProfile) : Prop where
  decodable : Decodable updates
  memory : Paired updates.paramMemory updates.paramMemoryUnit
  rootStorageSize : Paired updates.paramRootStorageSize updates.paramRootStorageSizeUnit
  scratchStorageSize : Paired updates.paramScratchStorageSize updates.paramScratchStorageSizeUnit
  fsxLustreSize : Paired updates.paramFsxLustreSize updates.paramFsxLustreSizeUnit
  queues : updates.queues ≠ some []

def updatedItem (queueProfileId : String) (item updates : DbQueueProfile) : DbQueueProfile :=
  { merge item updates with queueProfileId := some queueProfileId }

variable {id : String} {item updates : DbQueueProfile}

theorem paired_none : Paired none none := ⟨fun _ => rfl, fun _ => rfl⟩

theorem Decodable.fsxLustre (h : Decodable item) : Succeeds (decodeFsxLustre item) := by
  obtain ⟨size, hsize⟩ := h.fsxLustreSize
  unfold decodeFsxLustre
  cases item.paramFsxLustreEnabled with
  | none => exact ⟨none, rfl⟩
  | some enabled =>
    simp only [hsize]
    exact ⟨_, rfl⟩

theorem Decodable.convertFromDb (h : Decodable item) :
    ∃ queueProfile, HpcQueueProfilesDAO.convertFromDb item = .ok queueProfile ∧
      queueProfile.queueProfileId = getValueAsString item.queueProfileId ∧
      queueProfile.name = getValueAsString item.name ∧
      queueProfile.enabled = item.enabled ∧ queueProfile.queues = getValueAsList item.queues := by
  obtain ⟨memory, hmemory⟩ := h.memory
  obtain ⟨strategy, hstrategy⟩ := h.strategy
  obtain ⟨root, hroot⟩ := h.rootStorageSize
  obtain ⟨scratch, hscratch⟩ := h.scratchStorageSize
  obtain ⟨fsx, hfsx⟩ := h.fsxLustre
  obtain ⟨params, hparams⟩ : Succeeds (decodeJobParams item) := by
    unfold decodeJobParams
    rw [hmemory, hstrategy, hroot, hscratch, hfsx]
    exact ⟨_, rfl⟩
  unfold HpcQueueProfilesDAO.convertFromDb
  rw [hparams]
  exact ⟨_, rfl, rfl, rfl, rfl, rfl⟩

theorem queues_eq_of_queuesOf {queues : Option (List String)} (h : (getValueAsList queues).getD [] ≠ []) :
    getValueAsList queues = some ((getValueAsList queues).getD []) := by
  cases hq : getValueAsList queues with
  | none => rw [hq] at h; exact absurd rfl h
  | some l => rfl

theorem WellFormedItem.convertFromDb (h : WellFormedItem id item) :
    ∃ queueProfile, HpcQueueProfilesDAO.convertFromDb item = .ok queueProfile ∧
      queueProfile.queueProfileId = some id ∧ queueProfile.name = getValueAsString item.name ∧
      queueProfile.enabled = item.enabled ∧ queueProfile.queues = some (queuesOf item) := by
  obtain ⟨p, hp, hid, hname, henabled, hqueues⟩ := h.decodable.convertFromDb
  refine ⟨p, hp, ?_, hname, henabled, hqueues.trans (queues_eq_of_queuesOf h.has_queues)⟩
  rw [hid, h.own_id]
  exact h.trimmed

theorem decodeMemory_or {value value' : Option ℚ} {unit unit' : Option String}
    (h : Succeeds (decodeMemory value unit)) (hpaired : Paired value unit)
    (h' : Succeeds (decodeMemory value' unit')) :
    Succeeds (decodeMemory (value.or value') (unit.or unit')) := by
  cases value with
  | none =>
    rw [hpaired.mp rfl]
    exact h'
  | some v =>
    cases unit with
    | none => cases hpaired.mpr rfl
    | some u => exact h

theorem Decodable.updatedItem (h : Decodable item) (hu : WellFormedUpdates updates) :
    Decodable (HpcQueueProfilesDAO.updatedItem id item updates) where
  memory := decodeMemory_or hu.decodable.memory hu.memory h.memory
  strategy := by
    change Succeeds (decodeStrategy
      (updates.paramSpotAllocationStrategy.or item.paramSpotAllocationStrategy))
    cases hs : updates.paramSpotAllocationStrategy with
    | none => exact h.strategy
    | some strategy =>
      have hstrategy := hu.decodable.strategy
      rwa [hs] at hstrategy
  rootStorageSize :=
    decodeMemory_or hu.decodable.rootStorageSize hu.rootStorageSize h.rootStorageSize
  scratchStorageSize :=
    decodeMemory_or hu.decodable.scratchStorageSize hu.scratchStorageSize h.scratchStorageSize
  fsxLustreSize := decodeMemory_or hu.decodable.fsxLustreSize hu.fsxLustreSize h.fsxLustreSize

theorem queuesOf_updatedItem (id : String) (item : DbQueueProfile) (h : updates.queues ≠ some []) :
    queuesOf (updatedItem id item updates) = updates.queues.getD (queuesOf item) := by
  change (getValueAsList (updates.queues.or item.queues)).getD [] = _
  cases hq : updates.queues with
  | none => rfl
  | some queues =>
    rw [Option.some_or, Option.getD_some, getValueAsList_eq_self.mpr (hq ▸ h), Option.getD_some]

theorem WellFormedItem.updatedItem (h : WellFormedItem id item) (hu : WellFormedUpdates updates) :
    WellFormedItem id (HpcQueueProfilesDAO.updatedItem id item updates) where
  own_id := rfl
  trimmed := h.trimmed
  has_queues := by
    rw [queuesOf_updatedItem id item hu.queues]
    cases hq : updates.queues with
    | none => exact h.has_queues
    | some queues => exact fun he => hu.queues (hq.trans (congrArg some he))
  decodable := h.decodable.updatedItem hu

theorem wellFormedUpdates_enabled (enabled : Bool) :
    WellFormedUpdates { enabled := some enabled } where
  decodable := ⟨⟨_, rfl⟩, ⟨_, rfl⟩, ⟨_, rfl⟩, ⟨_, rfl⟩, ⟨_, rfl⟩⟩
  memory := paired_none
  rootStorageSize := paired_none
  scratchStorageSize := paired_none
  fsxLustreSize := paired_none
  queues := by simp

theorem wellFormedUpdates_queues {queueNames : List String} (h : queueNames ≠ []) :
    WellFormedUpdates { queues := some queueNames } where
  decodable := ⟨⟨_, rfl⟩, ⟨_, rfl⟩, ⟨_, rfl⟩, ⟨_, rfl⟩, ⟨_, rfl⟩⟩
  memory := paired_none
  rootStorageSize := paired_none
  scratchStorageSize := paired_none
  fsxLustreSize := paired_none
  queues := by simpa using h

theorem paired_encoded (memory : Option SocaMemory) :
    Paired (memory.map SocaMemory.value) (memory.map fun memory => memory.unit.str) := by
  cases memory <;> simp [Paired]

theorem decodable_convertToDb (queueProfile : HpcQueueProfile) :
    Decodable (convertToDb queueProfile) where
  memory := ⟨_, decodeMemory_encoded _⟩
  strategy := ⟨_, decodeStrategy_encoded _⟩
  rootStorageSize := ⟨_, decodeMemory_encoded _⟩
  scratchStorageSize := ⟨_, decodeMemory_encoded _⟩
  fsxLustreSize := ⟨_, decodeMemory_encoded _⟩

theorem wellFormedUpdates_convertToDb {queueProfile : HpcQueueProfile}
    (h : queueProfile.queues ≠ some []) : WellFormedUpdates (convertToDb queueProfile) where
  decodable := decodable_convertToDb queueProfile
  memory := paired_encoded _
  rootStorageSize := paired_encoded _
  scratchStorageSize := paired_encoded _
  fsxLustreSize := paired_encoded _
  queues := h

end HpcQueueProfilesDAO

namespace HpcQueueProfilesService

variable {jobParamsValid : SocaJobParams → Bool} {uuid : String}
  {request queueProfile : HpcQueueProfile}

theorem sanitized_of_valid
    (h : validateAndSanitizeQueueProfile jobParamsValid uuid request = .ok queueProfile) :
    queueProfile = withStackUuid uuid request ∧ isEmptyString request.name = false ∧
      ∃ queues, request.queues = some queues ∧ queues ≠ [] := by
  unfold validateAndSanitizeQueueProfile at h
  split at h
  · cases h
  rename_i hname
  split at h
  · cases h
  rename_i hqueues
  iterate 4
    split at h
    · cases h
  obtain ⟨-, -, h⟩ := Raised.bind_eq_ok.mp h
  split at h
  · obtain rfl := Except.ok.inj h
    refine ⟨rfl, Bool.not_eq_true _ ▸ hname, ?_⟩
    cases hq : request.queues with
    | none => rw [hq] at hqueues; exact absurd rfl hqueues
    | some queues =>
      refine ⟨queues, rfl, ?_⟩
      rintro rfl
      exact hqueues (hq ▸ rfl)
  · cases h

theorem withStackUuid_eq (uuid : String) (request : HpcQueueProfile) :
    ∃ stackUuid, withStackUuid uuid request = { request with stackUuid := stackUuid } := by
  unfold withStackUuid
  split
  · exact ⟨some uuid, rfl⟩
  · exact ⟨request.stackUuid, rfl⟩

end HpcQueueProfilesService

end Idea

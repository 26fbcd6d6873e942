import Idea.QueueProfiles.Codec
import Idea.QueueProfiles.Create

/-! # Queue profiles through storage

Decoding what was encoded gives back every field but for text that is blank or has white space
around it, empty lists, the wall time, the choice to keep volumes, and the FSx for Lustre
section where it has a deployment type or does not say whether it is enabled.
-/

namespace Idea

theorem SocaScalingMode.resolve_str (mode : SocaScalingMode) : resolve mode.str = some mode := by
  cases mode <;> rfl

theorem SocaQueueMode.resolve_str (mode : SocaQueueMode) : resolve mode.str = some mode := by
  cases mode <;> rfl

theorem SocaMemoryUnit.ofValue_str (unit : SocaMemoryUnit) : ofValue unit.str = .ok unit := by
  cases unit <;> rfl

theorem SocaSpotAllocationStrategy.ofValue_str (strategy : SocaSpotAllocationStrategy) :
    ofValue strategy.str = .ok strategy := by
  cases strategy <;> rfl

theorem getAsString_scalingMode (mode : SocaScalingMode) : getAsString mode.str = some mode.str := by
  cases mode <;> rfl

theorem getAsString_queueMode (mode : SocaQueueMode) : getAsString mode.str = some mode.str := by
  cases mode <;> rfl

theorem getAsString_unit (unit : SocaMemoryUnit) : getAsString unit.str = some unit.str := by
  cases unit <;> rfl

theorem getAsString_strategy (strategy : SocaSpotAllocationStrategy) :
    getAsString strategy.str = some strategy.str := by
  cases strategy <;> rfl

namespace HpcQueueProfilesDAO

theorem decodeMemory_encoded (memory : Option SocaMemory) :
    decodeMemory (memory.map SocaMemory.value) (memory.map fun memory => memory.unit.str) =
      .ok memory := by
  cases memory with
  | none => rfl
  | some memory =>
    have hunit : getValueAsString (some memory.unit.str) = some memory.unit.str :=
      getAsString_unit memory.unit
    simp only [Option.map_some, decodeMemory, hunit, SocaMemoryUnit.ofValue_str]
    rfl

theorem decodeStrategy_encoded (strategy : Option SocaSpotAllocationStrategy) :
    decodeStrategy (strategy.map SocaSpotAllocationStrategy.str) = .ok strategy := by
  cases strategy with
  | none => rfl
  | some strategy =>
    have hvalue : getValueAsString (some strategy.str) = some strategy.str :=
      getAsString_strategy strategy
    simp only [Option.map_some, decodeStrategy, hvalue, SocaSpotAllocationStrategy.ofValue_str]
    rfl

theorem scalingMode_encoded (mode : Option SocaScalingMode) :
    (getValueAsString (mode.map SocaScalingMode.str)).bind SocaScalingMode.resolve = mode := by
  cases mode with
  | none => rfl
  | some mode =>
    have hvalue : getValueAsString (some mode.str) = some mode.str := getAsString_scalingMode mode
    rw [Option.map_some, hvalue]
    exact SocaScalingMode.resolve_str mode

theorem queueMode_encoded (mode : Option SocaQueueMode) :
    (getValueAsString (mode.map SocaQueueMode.str)).bind SocaQueueMode.resolve = mode := by
  cases mode with
  | none => rfl
  | some mode =>
    have hvalue : getValueAsString (some mode.str) = some mode.str := getAsString_queueMode mode
    rw [Option.map_some, hvalue]
    exact SocaQueueMode.resolve_str mode

def storedFsxLustre (fsxLustre : SocaFSxLustreConfig) : Option SocaFSxLustreConfig :=
  match fsxLustre.enabled with
  | none => none
  | some _ => some
    { fsxLustre with
      existingFsx := getValueAsString fsxLustre.existingFsx
      s3Backend := getValueAsString fsxLustre.s3Backend
      importPath := getValueAsString fsxLustre.importPath
      exportPath := getValueAsString fsxLustre.exportPath
      deploymentType := none }

theorem decodeFsxLustre_encoded (queueProfile : HpcQueueProfile) :
    decodeFsxLustre (convertToDb queueProfile) =
      .ok (storedFsxLustre ((queueProfile.defaultJobParams.getD {}).fsxLustre.getD {})) := by
  unfold decodeFsxLustre storedFsxLustre
  simp only [convertToDb, decodeMemory_encoded]
  generalize (queueProfile.defaultJobParams.getD {}).fsxLustre.getD {} = fsxLustre
  obtain ⟨enabled, _⟩ := fsxLustre
  cases enabled with
  | none => rfl
  | some enabled => rfl

def storedQueueManagementParams (params : SocaQueueManagementParams) :
    SocaQueueManagementParams :=
  { params with
    allowedInstanceTypes := getValueAsList params.allowedInstanceTypes
    excludedInstanceTypes := getValueAsList params.excludedInstanceTypes
    restrictedParameters := getValueAsList params.restrictedParameters
    allowedSecurityGroups := getValueAsList params.allowedSecurityGroups
    allowedInstanceProfiles := getValueAsList params.allowedInstanceProfiles }

/-- The job parameters that the encoder writes. The unit of an amount is the currency of the
cluster and is not written. -/
def writtenJobParams (params : SocaJobParams) : SocaJobParams :=
  { params with
    spotPrice := params.spotPrice.map fun price => { amount := price.amount }
    fsxLustre := some (params.fsxLustre.getD {})
    licenses := none
    jobStartedEmailTemplate := none
    jobCompletedEmailTemplate := none
    customParams := none }

def storedJobParams (params : SocaJobParams) : SocaJobParams :=
  { writtenJobParams params with
    walltime := none
    baseOs := getValueAsString params.baseOs
    instanceAmi := getValueAsString params.instanceAmi
    instanceTypes := getValueAsList params.instanceTypes
    subnetIds := getValueAsList params.subnetIds
    securityGroups := getValueAsList params.securityGroups
    instanceProfile := getValueAsString params.instanceProfile
    keepEbsVolumes := none
    scratchProvider := getValueAsString params.scratchProvider
    fsxLustre := storedFsxLustre (params.fsxLustre.getD {})
    computeStack := getValueAsString params.computeStack
    stackId := getValueAsString params.stackId
    jobGroup := getValueAsString params.jobGroup }

theorem decodeJobParams_encoded (queueProfile : HpcQueueProfile) :
    decodeJobParams (convertToDb queueProfile) =
      .ok (storedJobParams (queueProfile.defaultJobParams.getD {})) := by
  unfold decodeJobParams
  rw [decodeFsxLustre_encoded]
  simp only [convertToDb, decodeMemory_encoded, decodeStrategy_encoded]
  rw [storedJobParams, writtenJobParams]
  cases (queueProfile.defaultJobParams.getD {}).spotPrice <;> rfl

def writtenProjects (projects : Option (List Project)) : Option (List Project) :=
  (projectIds projects).map fun projectIds =>
    projectIds.map fun projectId => { projectId := some projectId }

def stored (queueProfile : HpcQueueProfile) : HpcQueueProfile :=
  { queueProfile with
    queueProfileId := getValueAsString queueProfile.queueProfileId
    title := getValueAsString queueProfile.title
    description := getValueAsString queueProfile.description
    name := getValueAsString queueProfile.name
    projects := writtenProjects queueProfile.projects
    queues := getValueAsList queueProfile.queues
    stackUuid := getValueAsString queueProfile.stackUuid
    queueManagementParams :=
      some (storedQueueManagementParams (queueProfile.queueManagementParams.getD {}))
    defaultJobParams := some (storedJobParams (queueProfile.defaultJobParams.getD {}))
    createdOn := none
    updatedOn := none }

theorem getValueAsList_projectIds (projects : Option (List Project)) :
    getValueAsList (projectIds projects) = projectIds projects := by
  unfold projectIds
  split
  · rfl
  · dsimp only
    split
    · rfl
    · rename_i hne
      rw [getValueAsList, Option.filter_some, if_pos]
      simpa using hne

theorem convertFromDb_convertToDb (queueProfile : HpcQueueProfile) :
    convertFromDb (convertToDb queueProfile) = .ok (stored queueProfile) := by
  unfold convertFromDb
  rw [decodeJobParams_encoded]
  simp only [convertToDb, scalingMode_encoded, queueMode_encoded, getValueAsList_projectIds]
  rfl

def written (queueProfile : HpcQueueProfile) : HpcQueueProfile :=
  { queueProfile with
    projects := writtenProjects queueProfile.projects
    queueManagementParams := some (queueProfile.queueManagementParams.getD {})
    defaultJobParams := some (writtenJobParams (queueProfile.defaultJobParams.getD {}))
    createdOn := none
    updatedOn := none }

/-- Decoding what was encoded gives a profile with the same written fields. -/
def RoundTrips (queueProfile : HpcQueueProfile) : Prop :=
  ∃ decoded, convertFromDb (convertToDb queueProfile) = .ok decoded ∧
    written decoded = written queueProfile

/-- Text that is absent, or has something besides white space and none around it. -/
def Trimmed (text : Option String) : Prop := getValueAsString text = text

/-- The FSx for Lustre section has no deployment type, says whether it is enabled if it says
anything, and its text is trimmed. -/
structure FsxLustreKept (fsxLustre : SocaFSxLustreConfig) : Prop where
  no_deployment_type : fsxLustre.deploymentType = none
  says_enabled : fsxLustre.enabled = none → fsxLustre = {}
  texts : ∀ text ∈ [fsxLustre.existingFsx, fsxLustre.s3Backend, fsxLustre.importPath,
    fsxLustre.exportPath], Trimmed text

def LimitsKept (params : SocaQueueManagementParams) : Prop :=
  ∀ list ∈ [params.allowedInstanceTypes, params.excludedInstanceTypes,
    params.restrictedParameters, params.allowedSecurityGroups, params.allowedInstanceProfiles],
    list ≠ some []

structure JobParamsKept (params : SocaJobParams) : Prop where
  no_walltime : params.walltime = none
  no_keep_ebs_volumes : params.keepEbsVolumes = none
  texts : ∀ text ∈ [params.baseOs, params.instanceAmi, params.instanceProfile,
    params.scratchProvider, params.computeStack, params.stackId, params.jobGroup], Trimmed text
  lists : ∀ list ∈ [params.instanceTypes, params.subnetIds, params.securityGroups],
    list ≠ some []
  fsx_lustre : FsxLustreKept (params.fsxLustre.getD {})

structure NothingLost (queueProfile : HpcQueueProfile) : Prop where
  texts : ∀ text ∈ [queueProfile.queueProfileId, queueProfile.title, queueProfile.description,
    queueProfile.name, queueProfile.stackUuid], Trimmed text
  queues : queueProfile.queues ≠ some []
  limits : LimitsKept (queueProfile.queueManagementParams.getD {})
  job_params : JobParamsKept (queueProfile.defaultJobParams.getD {})

theorem getValueAsList_eq_self {list : Option (List String)} :
    getValueAsList list = list ↔ list ≠ some [] := by
  cases list with
  | none => simp [getValueAsList]
  | some list => cases list <;> simp [getValueAsList, Option.filter]

theorem storedFsxLustre_eq_self {fsxLustre : SocaFSxLustreConfig} :
    (storedFsxLustre fsxLustre).getD {} = fsxLustre ↔ FsxLustreKept fsxLustre := by
  constructor
  · intro h
    obtain ⟨enabled, existingFsx, s3Backend, importPath, exportPath, _⟩ := fsxLustre
    cases enabled with
    | none =>
      cases h
      exact ⟨rfl, fun _ => rfl, by simp [Trimmed, getValueAsString]⟩
    | some enabled =>
      obtain ⟨_, hexisting, hs3, himport, hexport, hdeployment, _⟩ :=
        SocaFSxLustreConfig.mk.inj h
      refine ⟨hdeployment.symm, (fun hnone => by cases hnone), ?_⟩
      simp only [List.forall_mem_cons]
      exact ⟨hexisting, hs3, himport, hexport, fun _ hm => absurd hm List.not_mem_nil⟩
  · rintro ⟨hdeployment, hnone, htexts⟩
    cases henabled : fsxLustre.enabled with
    | none =>
      rw [hnone henabled]
      rfl
    | some enabled =>
      simp only [List.forall_mem_cons] at htexts
      obtain ⟨hexisting, hs3, himport, hexport, _⟩ := htexts
      rw [storedFsxLustre, henabled, Option.getD_some, hexisting, hs3, himport, hexport,
        ← hdeployment, ← henabled]

theorem limitsKept_iff {params : SocaQueueManagementParams} :
    storedQueueManagementParams params = params ↔ LimitsKept params := by
  obtain ⟨_, _, _, _, allowedTypes, excludedTypes, restricted, groups, profiles⟩ := params
  simp only [storedQueueManagementParams, SocaQueueManagementParams.mk.injEq,
    getValueAsList_eq_self, LimitsKept, List.forall_mem_cons, true_and]
  simp

theorem jobParamsKept_iff {params : SocaJobParams} :
    writtenJobParams (storedJobParams params) = writtenJobParams params ↔
      JobParamsKept params := by
  simp only [writtenJobParams, storedJobParams, SocaJobParams.mk.injEq, Option.some.injEq,
    Option.map_map, Function.comp_def, getValueAsList_eq_self, storedFsxLustre_eq_self, true_and,
    and_true]
  constructor
  · rintro ⟨hwalltime, hos, hami, htypes, hsubnets, hgroups, hprofile, hkeep, hscratch, hfsx,
      hstack, hid, hgroup⟩
    refine ⟨hwalltime.symm, hkeep.symm, ?_, ?_, hfsx⟩
    · simp only [List.forall_mem_cons]
      exact ⟨hos, hami, hprofile, hscratch, hstack, hid, hgroup,
        fun _ hm => absurd hm List.not_mem_nil⟩
    · simp only [List.forall_mem_cons]
      exact ⟨htypes, hsubnets, hgroups, fun _ hm => absurd hm List.not_mem_nil⟩
  · rintro ⟨hwalltime, hkeep, htexts, hlists, hfsx⟩
    simp only [List.forall_mem_cons] at htexts hlists
    obtain ⟨hos, hami, hprofile, hscratch, hstack, hid, hgroup, _⟩ := htexts
    obtain ⟨htypes, hsubnets, hgroups, _⟩ := hlists
    exact ⟨hwalltime.symm, hos, hami, htypes, hsubnets, hgroups, hprofile, hkeep.symm, hscratch,
      hfsx, hstack, hid, hgroup⟩

theorem writtenProjects_eq_self {projects : List Project} (hne : projects ≠ [])
    (hids : ∀ project ∈ projects, isEmptyString project.projectId = false) :
    writtenProjects (some projects) = some projects := by
  have hwritten : ∀ projects : List Project,
      (∀ project ∈ projects, isEmptyString project.projectId = false) →
      (projects.filterMap fun project =>
        if isEmptyString project.projectId then none else project.projectId).map
          (fun projectId => ({ projectId := some projectId } : Project)) = projects := by
    intro projects hids
    induction projects with
    | nil => rfl
    | cons project projects ih =>
      rw [List.forall_mem_cons] at hids
      obtain ⟨hid, hids⟩ := hids
      obtain ⟨projectId⟩ := project
      cases projectId with
      | none => cases hid
      | some projectId =>
        have hid' : isEmptyString (some projectId) = false := hid
        simp only [List.filterMap_cons, hid', Bool.false_eq_true, if_false, List.map_cons, ih hids]
  have hsome := hwritten projects hids
  unfold writtenProjects projectIds
  dsimp only
  split
  · rename_i hempty
    rw [List.isEmpty_iff.mp hempty] at hsome
    exact absurd hsome.symm hne
  · rw [Option.map_some, hsome]

theorem writtenProjects_writtenProjects (projects : Option (List Project)) :
    writtenProjects (writtenProjects projects) = writtenProjects projects := by
  cases hids : projectIds projects with
  | none =>
    rw [writtenProjects, writtenProjects, hids]
    rfl
  | some ids =>
    have hwritten : writtenProjects projects =
        some (ids.map fun projectId => { projectId := some projectId }) := by
      rw [writtenProjects, hids]
      rfl
    rw [hwritten]
    cases projects with
    | none => cases hids
    | some projects =>
      dsimp only [projectIds] at hids
      split at hids
      · cases hids
      · rename_i hne
        obtain rfl := Option.some.inj hids
        apply writtenProjects_eq_self
        · intro hnil
          exact hne (List.isEmpty_iff.mpr (List.map_eq_nil_iff.mp hnil))
        · intro project hproject
          obtain ⟨projectId, hmem, rfl⟩ := List.mem_map.mp hproject
          obtain ⟨original, _, horiginal⟩ := List.mem_filterMap.mp hmem
          split at horiginal
          · cases horiginal
          · rename_i hid
            rw [← horiginal]
            exact Bool.eq_false_iff.mpr hid

theorem written_stored_iff (queueProfile : HpcQueueProfile) :
    written (stored queueProfile) = written queueProfile ↔ NothingLost queueProfile := by
  simp only [written, stored, HpcQueueProfile.mk.injEq, Option.getD_some, Option.some.injEq,
    getValueAsList_eq_self, writtenProjects_writtenProjects, limitsKept_iff, jobParamsKept_iff,
    true_and, and_true]
  constructor
  · rintro ⟨hid, htitle, hdescription, hname, hqueues, huuid, hlimits, hparams⟩
    refine ⟨?_, hqueues, hlimits, hparams⟩
    simp only [List.forall_mem_cons]
    exact ⟨hid, htitle, hdescription, hname, huuid, fun _ hm => absurd hm List.not_mem_nil⟩
  · rintro ⟨htexts, hqueues, hlimits, hparams⟩
    simp only [List.forall_mem_cons] at htexts
    obtain ⟨hid, htitle, hdescription, hname, huuid, _⟩ := htexts
    exact ⟨hid, htitle, hdescription, hname, hqueues, huuid, hlimits, hparams⟩

/-- A profile survives storage exactly when it has nothing that is lost. -/
theorem queue_profile_round_trips_iff (queueProfile : HpcQueueProfile) :
    RoundTrips queueProfile ↔ NothingLost queueProfile := by
  rw [← written_stored_iff]
  constructor
  · rintro ⟨decoded, hd, hw⟩
    obtain rfl := Except.ok.inj ((convertFromDb_convertToDb queueProfile).symm.trans hd)
    exact hw
  · intro hw
    exact ⟨_, convertFromDb_convertToDb queueProfile, hw⟩

namespace WalltimeExample

def request : HpcQueueProfile where
  name := some "compute"
  title := some "Compute"
  projects := some [{ projectId := some "p-1" }]
  queues := some ["normal"]
  queueMode := some .fifo
  scalingMode := some .singleJob
  terminateWhenIdle := some 0
  defaultJobParams := some { walltime := some "01:00:00" }

def created : HpcQueueProfile := { request with enabled := some false }

end WalltimeExample

/-- A profile with a wall time is created and does not survive storage. -/
theorem walltime_is_lost :
    HpcQueueProfilesService.createQueueProfile (fun _ => true) (fun _ => false) "uuid"
        WalltimeExample.request = .ok WalltimeExample.created ∧
      ¬ RoundTrips WalltimeExample.created := by
  constructor
  · rfl
  · rintro ⟨decoded, hd, hw⟩
    obtain rfl := Except.ok.inj ((convertFromDb_convertToDb WalltimeExample.created).symm.trans hd)
    have hwalltime : (none : Option String) = some "01:00:00" :=
      congrArg (fun profile => (profile.defaultJobParams.getD {}).walltime) hw
    cases hwalltime

end HpcQueueProfilesDAO

end Idea

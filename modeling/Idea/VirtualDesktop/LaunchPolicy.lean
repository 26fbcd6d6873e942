import Idea.VirtualDesktop.LaunchRequests

/-! # The policy for new desktop sessions

Which sessions may be launched, said without the order in which a request is checked, and when an
accepted and completed request is such a session.
-/

namespace Idea.VirtualDesktop.Launch

/-- The answers of the other services. The projects of a user are stored projects. -/
structure Services where
  answer : (op : Op) → Answer op
  storedProject : String → Option Project
  userProjects_stored : ∀ username projects, answer (.getUserProjects username) = .ok projects →
    ∀ project ∈ projects, ∀ id, project.projectId = some id → storedProject id = some project

variable {config : Config} {services : Services} {session request accepted : VirtualDesktopSession}

def projectIdOf (session : VirtualDesktopSession) : Option String :=
  session.project.bind (·.projectId)

def rootVolumeOf (session : VirtualDesktopSession) : Option SocaMemory :=
  session.server.bind (·.rootVolumeSize)

def Member (services : Services) (owner projectId : Option String) : Prop :=
  ∃ projects, services.answer (.getUserProjects owner) = .ok projects ∧
    ∃ project ∈ projects, project.projectId = projectId

def BudgetExceeded (config : Config) (services : Services) (project : Project) : Prop :=
  (config.enforceProjectBudgets.getD true && project.isBudgetsEnabled) = true ∧
    ∃ name amounts actualSpend, (project.budget.bind (·.budgetName)).bind getAsString = some name ∧
      services.answer (.budgetsGetBudget name) = .ok (some amounts) ∧
      amounts.actualSpend = some actualSpend ∧ amounts.limit < actualSpend

/-- A type of instances may be used for a stack, with or without hibernation. -/
structure AllowedType (config : Config) (stack : VirtualDesktopSoftwareStack) (hibernation : Bool)
    (info : InstanceTypeInfo) : Prop where
  listed : listed (allowedInstanceTypes config stack) info.instanceType = true
  not_denied : Launch.listed config.instanceTypesDeny info.instanceType = false
  ram : stack.minRam.bytes ≤ info.ram.bytes
  hibernates : hibernation = true → info.hibernationSupported = some true
  architecture : stack.architecture.value ∈ info.supportedArchitectures
  gpu : hasGpu stack info = true

structure Runs (services : Services) (session : VirtualDesktopSession)
    (stack : VirtualDesktopSoftwareStack) (info : InstanceTypeInfo) (size : SocaMemory)
    (hibernation : Bool) : Prop where
  stack : session.softwareStack = some (.stored stack)
  described : ∃ types, services.answer .instanceTypes = .ok types ∧ info ∈ types.types
  instanceType : instanceTypeOf session = some info.instanceType
  size : rootVolumeOf session = some size
  hibernation : session.hibernationEnabled = some hibernation

def gigabytes (n : ℤ) : ℤ := n * SocaMemoryUnit.gb.factor

def SessionStack.key : SessionStack → Option (String × BaseOS)
  | named (some stackId) (some baseOs) => some (stackId, baseOs)
  | named _ _ => none
  | stored stack => some (stack.stackId, stack.baseOs)

def NamesStack (answer : (op : Op) → Answer op) (request : VirtualDesktopSession)
    (stack : VirtualDesktopSoftwareStack) : Prop :=
  ∃ stackId baseOs, request.softwareStack.bind SessionStack.key = some (stackId, baseOs) ∧
    answer (.getSoftwareStack baseOs stackId) = .ok (some stack)

structure Requests (services : Services) (request : VirtualDesktopSession)
    (stack : VirtualDesktopSoftwareStack) (info : InstanceTypeInfo) (size : SocaMemory)
    (hibernation : Bool) : Prop where
  stack : NamesStack services.answer request stack
  described : ∃ types, services.answer .instanceTypes = .ok types ∧ info ∈ types.types
  instanceType : instanceTypeOf request = some info.instanceType
  size : rootVolumeOf request = some size
  hibernation : request.hibernationEnabled = some hibernation

structure Policy (config : Config) (services : Services) (session : VirtualDesktopSession)
    (stack : VirtualDesktopSoftwareStack) (info : InstanceTypeInfo) (size : SocaMemory)
    (hibernation : Bool) : Prop where
  owner : Member services session.owner (projectIdOf session) ∨
    session.owner = config.administratorUsername
  budget : ∀ id ∈ projectIdOf session, ∀ project ∈ services.storedProject id,
    ¬ BudgetExceeded config services project
  project : projectIdOf session ∈ stack.projects
  instanceType : AllowedType config stack hibernation info
  console : stack.baseOs.isWindows = true ∨ info.gpuManufacturer = .AMD →
    session.type = some .CONSOLE
  virtual : info.architecture = some .ARM64 → session.type = some .VIRTUAL
  maximum : ∃ limit ∈ config.maxRootVolumeMemory, size.bytes ≤ gigabytes limit
  minimum : stack.minStorage.bytes + (if hibernation then info.ram.bytes else 0) ≤ size.bytes

def ObeysPolicy (config : Config) (services : Services) (session : VirtualDesktopSession) : Prop :=
  ∃ stack info size hibernation, Runs services session stack info size hibernation ∧
    Policy config services session stack info size hibernation

variable {types : InstanceTypes}

theorem mem_getValidInstanceTypes_iff {hibernation : Bool} {stack : VirtualDesktopSoftwareStack}
    {info : InstanceTypeInfo} :
    info ∈ getValidInstanceTypes config types hibernation stack ↔
      info ∈ types.types ∧ AllowedType config stack hibernation info := by
  simp only [getValidInstanceTypes, List.mem_filter, Bool.and_eq_true, SocaMemory.lt,
    Bool.not_eq_true', decide_eq_false_iff_not, Int.not_lt, List.contains_iff_mem]
  refine and_congr_right fun _ => ⟨?_, fun h => ?_⟩
  · rintro ⟨⟨⟨⟨⟨hlisted, hdenied⟩, hram⟩, hhibernates⟩, harchitecture⟩, hgpu⟩
    refine ⟨hlisted, hdenied, hram, fun hibernates => ?_, harchitecture, hgpu⟩
    subst hibernates
    cases hinfo : info.hibernationSupported with
    | none => simp [hinfo] at hhibernates
    | some supported => simpa [hinfo] using hhibernates
  · refine ⟨⟨⟨⟨⟨h.listed, h.not_denied⟩, h.ram⟩, ?_⟩, h.architecture⟩, h.gpu⟩
    cases hibernation with
    | false => rfl
    | true => simp [h.hibernates rfl]

section Evaluation

variable {answer : (op : Op) → Answer op} {s' : VirtualDesktopSession}

variable {α : Type}

theorem eval_need {outcome : Except Raised α} {a : α} :
    (need outcome).eval answer = .ok a ↔ outcome = .ok a := by
  cases outcome with
  | error e => exact ⟨fun h => (nomatch h), fun h => (nomatch h)⟩
  | ok b =>
    refine ⟨fun h => ?_, fun h => ?_⟩
    · exact congrArg Except.ok (Except.ok.inj h)
    · exact congrArg Except.ok (Except.ok.inj h)

theorem eval_settle {x : Request (Except Raised α)} {a : α} :
    (settle x).eval answer = .ok a ↔ x.eval answer = .ok (.ok a) := by
  rw [settle, Program.eval_bind_eq_ok]
  constructor
  · rintro ⟨outcome, hx, h⟩
    rw [hx, eval_need.mp h]
  · exact fun h => ⟨_, h, eval_need.mpr rfl⟩

theorem eval_required {value : Option α} {a : α} :
    (required value).eval answer = .ok a ↔ value = some a := by
  cases value with
  | none => exact ⟨fun h => (nomatch h), fun h => (nomatch h)⟩
  | some b =>
    refine ⟨fun h => ?_, fun h => ?_⟩
    · exact congrArg some (Except.ok.inj h)
    · exact congrArg Except.ok (Option.some.inj h)

theorem eval_reject {reason : String} {a : α} :
    (reject session reason : Request α).eval answer ≠ .ok a :=
  fun h => (nomatch h)

theorem eval_pure {a b : α} : (pure a : Request α).eval answer = .ok b ↔ a = b :=
  ⟨fun h => Except.ok.inj h, fun h => congrArg Except.ok h⟩

theorem validateProject_ok (h : (validateProject config session).eval answer = .ok s') :
    isEmptyString session.owner = false ∧
      ∃ projects, answer (.getUserProjects session.owner) = .ok projects ∧
        ((∃ project ∈ projects, project.projectId = projectIdOf session ∧
            s' = { session with project := some project }) ∨
          ((∀ project ∈ projects, project.projectId ≠ projectIdOf session) ∧
            isClusterAdministrator config session.owner = .ok true ∧ s' = session)) := by
  unfold validateProject at h
  dsimp only at h
  split at h
  · exact absurd h eval_reject
  obtain ⟨projects, hprojects, h⟩ := Program.eval_bind_eq_ok.mp h
  obtain ⟨_, -, h⟩ := Program.eval_bind_eq_ok.mp h
  unfold getUserProjects at hprojects
  split at hprojects
  · cases hprojects
  · next howner =>
    refine ⟨Bool.eq_false_iff.mpr howner, projects, ?_, ?_⟩
    · exact Except.ok.inj (eval_settle.mp hprojects)
    · split at h
      · next project hfind =>
        refine .inl ⟨project, List.mem_of_find?_eq_some hfind, ?_, (eval_pure.mp h).symm⟩
        simpa [projectIdOf] using List.find?_some hfind
      · next hnone =>
        obtain ⟨exempt, hexempt, h⟩ := Program.eval_bind_eq_ok.mp h
        have hother : ∀ project ∈ projects, project.projectId ≠ projectIdOf session :=
          fun project hmem => by
            simpa [projectIdOf] using List.find?_eq_none.mp hnone project hmem
        split at h
        · next htrue =>
          subst htrue
          exact .inr ⟨hother, eval_need.mp hexempt, (eval_pure.mp h).symm⟩
        · exact absurd h eval_reject

theorem validateBudget_ok (h : (validateBudget config session).eval services.answer = .ok s') :
    s' = session ∧ ∃ project, session.project = some project ∧
      ¬ BudgetExceeded config services project := by
  obtain ⟨project, hproject, h⟩ := Program.eval_bind_eq_ok.mp h
  rw [eval_required] at hproject
  suffices hs : s' = session ∧ ¬ BudgetExceeded config services project from
    ⟨hs.1, project, hproject, hs.2⟩
  dsimp only at h
  split at h
  · split at h
    · next hname =>
      refine ⟨(eval_pure.mp h).symm, ?_⟩
      rintro ⟨-, name, amounts, actualSpend, hsome, -⟩
      rw [hname] at hsome
      cases hsome
    · next budgetName hname =>
      obtain ⟨budget, hbudget, h⟩ := Program.eval_bind_eq_ok.mp h
      have hanswer : services.answer (.budgetsGetBudget budgetName) = .ok budget :=
        Except.ok.inj (eval_settle.mp hbudget)
      have hspent : ∀ name amounts,
          (project.budget.bind (·.budgetName)).bind getAsString = some name →
          services.answer (.budgetsGetBudget name) = .ok (some amounts) → budget = some amounts := by
        intro name amounts hsome hamounts
        obtain rfl := Option.some.inj (hname.symm.trans hsome)
        exact Except.ok.inj (hanswer.symm.trans hamounts)
      split at h
      · refine ⟨(eval_pure.mp h).symm, ?_⟩
        rintro ⟨-, name, amounts, actualSpend, hsome, hamounts, -⟩
        cases hspent name amounts hsome hamounts
      · next amounts =>
        obtain ⟨actualSpend, hactual, h⟩ := Program.eval_bind_eq_ok.mp h
        rw [eval_required] at hactual
        split at h
        · exact absurd h eval_reject
        · next hwithin =>
          refine ⟨(eval_pure.mp h).symm, ?_⟩
          rintro ⟨-, name, amounts', actualSpend', hsome, hamounts, hactual', hexceeded⟩
          obtain rfl := Option.some.inj (hspent name amounts' hsome hamounts)
          obtain rfl := Option.some.inj (hactual.symm.trans hactual')
          exact hwithin hexceeded
  · next henforced => exact ⟨(eval_pure.mp h).symm, fun hexceeded => henforced hexceeded.1⟩

theorem validateSoftwareStack_ok (h : (validateSoftwareStack session).eval answer = .ok s') :
    ∃ stack, NamesStack answer session stack ∧
      s' = { session with softwareStack := some (.stored stack) } ∧
      ∃ project, session.project = some project ∧ project.projectId ∈ stack.projects := by
  have hcheck : ∀ stackId baseOs,
      session.softwareStack.bind SessionStack.key = some (stackId, baseOs) →
      (validateSoftwareStack.check session stackId baseOs).eval answer = .ok s' →
      ∃ stack, NamesStack answer session stack ∧
        s' = { session with softwareStack := some (.stored stack) } ∧
        ∃ project, session.project = some project ∧ project.projectId ∈ stack.projects := by
    intro stackId baseOs hkey h
    obtain ⟨found, hfound, h⟩ := Program.eval_bind_eq_ok.mp h
    split at h
    · exact absurd h eval_reject
    · next stack =>
      obtain ⟨project, hproject, h⟩ := Program.eval_bind_eq_ok.mp h
      rw [eval_required] at hproject
      split at h
      · next hmem =>
        exact ⟨stack, ⟨stackId, baseOs, hkey, Except.ok.inj (eval_settle.mp hfound)⟩,
          (eval_pure.mp h).symm, project, hproject, hmem⟩
      · exact absurd h eval_reject
  unfold validateSoftwareStack at h
  split at h
  · exact absurd h eval_reject
  · next stack hstack => exact hcheck _ _ (by rw [hstack]; rfl) h
  · next stackId baseOs hstack =>
    split at h
    · next stackId baseOs =>
      split at h
      · exact absurd h eval_reject
      · exact hcheck _ _ (by rw [hstack]; rfl) h
    · exact absurd h eval_reject

theorem storedStack_ok {stack : VirtualDesktopSoftwareStack}
    (h : (storedStack session).eval answer = .ok stack) :
    session.softwareStack = some (.stored stack) := by
  unfold storedStack at h
  split at h
  · next hstack => rw [hstack, eval_pure.mp h]
  · cases h

theorem validateInstanceType_ok (h : (validateInstanceType config session).eval answer = .ok s') :
    s' = session ∧ ∃ stack hibernation types info,
      session.softwareStack = some (.stored stack) ∧
      session.hibernationEnabled = some hibernation ∧ answer .instanceTypes = .ok types ∧
      info ∈ types.types ∧ instanceTypeOf session = some info.instanceType ∧
      AllowedType config stack hibernation info := by
  unfold validateInstanceType at h
  split at h
  · exact absurd h eval_reject
  · next hibernation hhibernation =>
    dsimp only at h
    split at h
    · exact absurd h eval_reject
    · next htype =>
      obtain ⟨stack, hstack, h⟩ := Program.eval_bind_eq_ok.mp h
      obtain ⟨types, htypes, h⟩ := Program.eval_bind_eq_ok.mp h
      split at h
      · next hany =>
        obtain ⟨info, hinfo, hsame⟩ := List.any_eq_true.mp hany
        obtain ⟨hmem, hallowed⟩ := mem_getValidInstanceTypes_iff.mp hinfo
        refine ⟨(eval_pure.mp h).symm, stack, hibernation, types, info, storedStack_ok hstack,
          hhibernation, Except.ok.inj (eval_settle.mp htypes), hmem, ?_, hallowed⟩
        rw [of_decide_eq_true hsame]
        cases hinstance : instanceTypeOf session with
        | none => exact absurd (hinstance ▸ rfl) htype
        | some name => rfl
      · exact absurd h eval_reject

theorem validateHibernation_ok (h : (validateHibernation session).eval answer = .ok s') :
    s' = session := by
  obtain ⟨stack, -, h⟩ := Program.eval_bind_eq_ok.mp h
  split at h
  · obtain ⟨info, -, h⟩ := Program.eval_bind_eq_ok.mp h
    split at h
    · exact absurd h eval_reject
    · exact (eval_pure.mp h).symm
  · exact (eval_pure.mp h).symm

theorem validateSessionType_ok {stack : VirtualDesktopSoftwareStack} {info : InstanceTypeInfo}
    (hstack : session.softwareStack = some (.stored stack))
    (hinfo : (instanceInfo session).eval answer = .ok info)
    (h : (validateSessionType session).eval answer = .ok s') :
    s' = session ∧ (session.type = some .VIRTUAL →
      stack.baseOs.isWindows = false ∧ info.gpuManufacturer ≠ .AMD) ∧
      (session.type = some .CONSOLE → info.architecture ≠ some .ARM64) := by
  obtain ⟨stack', hstack', h⟩ := Program.eval_bind_eq_ok.mp h
  obtain rfl : stack' = stack := by
    simpa using (storedStack_ok hstack').symm.trans hstack
  dsimp only at h
  split at h
  · exact absurd h eval_reject
  · next hwindows =>
    obtain ⟨info', hinfo', h⟩ := Program.eval_bind_eq_ok.mp h
    obtain rfl := Except.ok.inj (hinfo'.symm.trans hinfo)
    split at h
    · exact absurd h eval_reject
    · next hamd =>
      split at h
      · exact absurd h eval_reject
      · next harm =>
        refine ⟨(eval_pure.mp h).symm, fun hvirtual => ⟨?_, fun hgpu => ?_⟩,
          fun hconsole harchitecture => ?_⟩
        · simpa [hvirtual] using hwindows
        · exact hamd (by simp [hvirtual, hgpu])
        · exact harm (by simp [hconsole, harchitecture])

theorem configInt_ok {key : String} {value : Option ℤ} {n : ℤ}
    (h : (configInt key value).eval answer = .ok n) : value = some n := by
  cases value with
  | none => cases h
  | some m => rw [Except.ok.inj h]

theorem validateRootVolume_ok {stack : VirtualDesktopSoftwareStack} {info : InstanceTypeInfo}
    {hibernation : Bool} (hstack : session.softwareStack = some (.stored stack))
    (hinfo : (instanceInfo session).eval answer = .ok info)
    (hhibernation : session.hibernationEnabled = some hibernation)
    (h : (validateRootVolume config session).eval answer = .ok s') :
    s' = session ∧ ∃ size limit, rootVolumeOf session = some size ∧
      config.maxRootVolumeMemory = some limit ∧ size.value ≤ limit ∧
      (if hibernation then stack.minStorage.add info.ram else stack.minStorage).bytes ≤
        size.bytes := by
  unfold validateRootVolume at h
  split at h
  · exact absurd h eval_reject
  · next size hsize =>
    obtain ⟨limit, hlimit, h⟩ := Program.eval_bind_eq_ok.mp h
    split at h
    · exact absurd h eval_reject
    · next hmax =>
      obtain ⟨stack', hstack', h⟩ := Program.eval_bind_eq_ok.mp h
      obtain rfl : stack' = stack := by
        simpa using (storedStack_ok hstack').symm.trans hstack
      obtain ⟨minSize, hminSize, h⟩ := Program.eval_bind_eq_ok.mp h
      split at h
      · exact absurd h eval_reject
      · next hmin =>
        refine ⟨(eval_pure.mp h).symm, size, limit, hsize, configInt_ok hlimit, ?_, ?_⟩
        · simpa [SocaMemory.gtNumber] using hmax
        · have hminimum : minSize =
              if hibernation then stack'.minStorage.add info.ram else stack'.minStorage := by
            unfold minRootVolume at hminSize
            rw [hhibernation] at hminSize
            cases hibernation with
            | false => exact (eval_pure.mp hminSize).symm
            | true =>
              obtain ⟨info', hinfo', hminSize⟩ := Program.eval_bind_eq_ok.mp hminSize
              obtain rfl := Except.ok.inj (hinfo'.symm.trans hinfo)
              exact (eval_pure.mp hminSize).symm
          rw [← hminimum]
          simpa [SocaMemory.lt] using hmin

theorem completeCreateSessionRequest_ok {username : String}
    (h : (completeCreateSessionRequest config username accepted).eval answer = .ok session) :
    ∃ info stack, (instanceInfo accepted).eval answer = .ok info ∧
      accepted.softwareStack = some stack ∧ session.softwareStack = some stack ∧
      session.project = accepted.project ∧
      session.hibernationEnabled = accepted.hibernationEnabled ∧
      instanceTypeOf session = instanceTypeOf accepted ∧
      rootVolumeOf session = rootVolumeOf accepted ∧
      session.type = some (accepted.type.getD (defaultType stack.isWindows info.gpuManufacturer)) ∧
      (isEmptyString accepted.owner = false → session.owner = accepted.owner) := by
  obtain ⟨_, -, h⟩ := Program.eval_bind_eq_ok.mp h
  obtain ⟨info, hinfo, h⟩ := Program.eval_bind_eq_ok.mp h
  obtain ⟨stack, hstack, h⟩ := Program.eval_bind_eq_ok.mp h
  obtain ⟨server, hserver, h⟩ := Program.eval_bind_eq_ok.mp h
  obtain ⟨completed, hcompleted, h⟩ := Program.eval_bind_eq_ok.mp h
  obtain ⟨_, -, h⟩ := Program.eval_bind_eq_ok.mp h
  rw [eval_required] at hstack hserver
  have hkeeps : completed.instanceType = server.instanceType ∧
      completed.rootVolumeSize = server.rootVolumeSize := by
    obtain ⟨_, -, hcompleted⟩ := Program.eval_bind_eq_ok.mp hcompleted
    obtain ⟨_, -, hcompleted⟩ := Program.eval_bind_eq_ok.mp hcompleted
    obtain ⟨_, -, hcompleted⟩ := Program.eval_bind_eq_ok.mp hcompleted
    rw [← eval_pure.mp hcompleted]
    exact ⟨rfl, rfl⟩
  rw [← eval_pure.mp h]
  refine ⟨info, stack, hinfo, hstack, hstack, rfl, rfl, ?_, ?_, rfl, fun howner => ?_⟩
  · simp [instanceTypeOf, hserver, hkeeps.1]
  · simp [rootVolumeOf, hserver, hkeeps.2]
  · simp [howner]

end Evaluation

/-- A user whose name only looks like the name of the administrator. -/
def ExemptByName (config : Config) (owner : Option String) : Prop :=
  isClusterAdministrator config owner = .ok true ∧ owner ≠ config.administratorUsername

/-- What the checks of types and sizes leave open. -/
structure Fits (config : Config) (request : VirtualDesktopSession)
    (stack : VirtualDesktopSoftwareStack) (info : InstanceTypeInfo) (size : SocaMemory)
    (hibernation : Bool) : Prop where
  type : request.type = none → info.architecture = some .ARM64 →
    stack.baseOs.isWindows = false ∧ info.gpuManufacturer ≠ .AMD
  maximum : ∀ limit ∈ config.maxRootVolumeMemory,
    SocaMemoryUnit.gb.factor < size.unit.factor ∨ limit < 0 → size.bytes ≤ gigabytes limit
  minimum : hibernation = true →
    (stack.minStorage.add info.ram).bytes < stack.minStorage.bytes + info.ram.bytes →
    stack.minStorage.bytes + info.ram.bytes ≤ size.bytes

/-- The cases in which the checks go wrong do not let the request through. -/
structure HoldsWhen (config : Config) (services : Services) (request : VirtualDesktopSession) :
    Prop where
  exempt : ExemptByName config request.owner → Member services request.owner (projectIdOf request)
  budget : ¬ Member services request.owner (projectIdOf request) →
    ∀ id ∈ projectIdOf request, ∀ project ∈ services.storedProject id,
      ¬ BudgetExceeded config services project
  fits : ∀ stack info size hibernation, Requests services request stack info size hibernation →
    Fits config request stack info size hibernation

structure Accepted (config : Config) (services : Services) (request accepted : VirtualDesktopSession)
    (stack : VirtualDesktopSoftwareStack) (info : InstanceTypeInfo) (size : SocaMemory)
    (hibernation : Bool) : Prop where
  requests : Requests services request stack info size hibernation
  runs : Runs services accepted stack info size hibernation
  owner : accepted.owner = request.owner
  owner_present : isEmptyString request.owner = false
  projectId : projectIdOf accepted = projectIdOf request
  type : accepted.type = request.type
  exempt : ¬ Member services request.owner (projectIdOf request) →
    isClusterAdministrator config request.owner = .ok true
  budget : Member services request.owner (projectIdOf request) →
    ∀ id ∈ projectIdOf request, ∀ project ∈ services.storedProject id,
      ¬ BudgetExceeded config services project
  project : projectIdOf request ∈ stack.projects
  allowed : AllowedType config stack hibernation info
  virtual : request.type = some .VIRTUAL →
    stack.baseOs.isWindows = false ∧ info.gpuManufacturer ≠ .AMD
  console : request.type = some .CONSOLE → info.architecture ≠ some .ARM64
  maximum : ∃ limit, config.maxRootVolumeMemory = some limit ∧ size.value ≤ limit
  minimum : (if hibernation then stack.minStorage.add info.ram else stack.minStorage).bytes ≤
    size.bytes

theorem getInstanceTypeInfo_eq {info : InstanceTypeInfo} (hmem : info ∈ types.types) :
    types.getInstanceTypeInfo info.instanceType = .ok info := by
  unfold InstanceTypes.getInstanceTypeInfo
  cases hfind : types.types.find? fun other => other.instanceType = info.instanceType with
  | none => simpa using List.find?_eq_none.mp hfind info hmem
  | some other =>
    have hsame : other.instanceType = info.instanceType := by
      simpa using List.find?_some hfind
    exact congrArg Except.ok
      (List.inj_on_of_nodup_map types.nodup (List.mem_of_find?_eq_some hfind) hmem hsame)

theorem instanceInfo_eq {info : InstanceTypeInfo}
    (htypes : services.answer .instanceTypes = .ok types) (hmem : info ∈ types.types)
    (htype : instanceTypeOf session = some info.instanceType) :
    (instanceInfo session).eval services.answer = .ok info := by
  refine Program.eval_bind_eq_ok.mpr ⟨types, eval_settle.mpr (congrArg Except.ok htypes), ?_⟩
  rw [eval_need, htype]
  exact getInstanceTypeInfo_eq hmem

theorem Requests.unique {stack stack' : VirtualDesktopSoftwareStack}
    {info info' : InstanceTypeInfo} {size size' : SocaMemory} {hibernation hibernation' : Bool}
    (h : Requests services request stack info size hibernation)
    (h' : Requests services request stack' info' size' hibernation') :
    stack = stack' ∧ info = info' ∧ size = size' ∧ hibernation = hibernation' := by
  obtain ⟨⟨stackId, baseOs, hkey, hstack⟩, ⟨types, htypes, hinfo⟩, htype, hsize, hhibernation⟩ := h
  obtain ⟨⟨stackId', baseOs', hkey', hstack'⟩, ⟨types', htypes', hinfo'⟩, htype', hsize',
    hhibernation'⟩ := h'
  obtain ⟨rfl, rfl⟩ := Prod.mk.inj (Option.some.inj (hkey.symm.trans hkey'))
  obtain rfl := Except.ok.inj (htypes.symm.trans htypes')
  refine ⟨Option.some.inj (Except.ok.inj (hstack.symm.trans hstack')), ?_,
    Option.some.inj (hsize.symm.trans hsize'),
    Option.some.inj (hhibernation.symm.trans hhibernation')⟩
  exact List.inj_on_of_nodup_map types.nodup hinfo hinfo'
    (Option.some.inj (htype.symm.trans htype'))

theorem Runs.unique {stack stack' : VirtualDesktopSoftwareStack}
    {info info' : InstanceTypeInfo} {size size' : SocaMemory} {hibernation hibernation' : Bool}
    (h : Runs services session stack info size hibernation)
    (h' : Runs services session stack' info' size' hibernation') :
    stack = stack' ∧ info = info' ∧ size = size' ∧ hibernation = hibernation' := by
  obtain ⟨hstack, ⟨types, htypes, hinfo⟩, htype, hsize, hhibernation⟩ := h
  obtain ⟨hstack', ⟨types', htypes', hinfo'⟩, htype', hsize', hhibernation'⟩ := h'
  obtain rfl := Except.ok.inj (htypes.symm.trans htypes')
  refine ⟨SessionStack.stored.inj (Option.some.inj (hstack.symm.trans hstack')), ?_,
    Option.some.inj (hsize.symm.trans hsize'),
    Option.some.inj (hhibernation.symm.trans hhibernation')⟩
  exact List.inj_on_of_nodup_map types.nodup hinfo hinfo'
    (Option.some.inj (htype.symm.trans htype'))

theorem validateOwnership {projected budgeted : VirtualDesktopSession}
    (hproject : (validateProject config request).eval services.answer = .ok projected)
    (hbudget : (validateBudget config projected).eval services.answer = .ok budgeted) :
    budgeted = projected ∧
      (∃ project, projected = { request with project := project }) ∧
      projectIdOf projected = projectIdOf request ∧ isEmptyString request.owner = false ∧
      (¬ Member services request.owner (projectIdOf request) →
        isClusterAdministrator config request.owner = .ok true) ∧
      (Member services request.owner (projectIdOf request) →
        ∀ id ∈ projectIdOf request, ∀ project ∈ services.storedProject id,
          ¬ BudgetExceeded config services project) := by
  obtain ⟨howner, projects, hprojects, hcases⟩ := validateProject_ok hproject
  obtain ⟨rfl, checked, hchecked, hwithin⟩ := validateBudget_ok hbudget
  obtain ⟨project, hmem, hid, rfl⟩ | ⟨hother, hexempt, rfl⟩ := hcases
  · refine ⟨rfl, ⟨_, rfl⟩, hid, howner, fun hmember => ?_, fun _ id hproject' stored hstored => ?_⟩
    · exact absurd ⟨projects, hprojects, project, hmem, hid⟩ hmember
    · have hsame : services.storedProject id = some project :=
        services.userProjects_stored _ _ hprojects project hmem id (hid.trans hproject')
      obtain rfl := Option.some.inj (hsame.symm.trans hstored)
      obtain rfl := Option.some.inj hchecked
      exact hwithin
  · refine ⟨rfl, ⟨_, rfl⟩, rfl, howner, fun _ => hexempt, ?_⟩
    rintro ⟨projects', hprojects', project, hmem, hid⟩
    obtain rfl := Except.ok.inj (hprojects.symm.trans hprojects')
    exact absurd hid (hother project hmem)

theorem validateCreateSessionRequest_ok
    (h : (validateCreateSessionRequest config request).eval services.answer = .ok accepted) :
    ∃ stack info size hibernation,
      Accepted config services request accepted stack info size hibernation := by
  obtain ⟨projected, hproject, h⟩ := Program.eval_bind_eq_ok.mp h
  obtain ⟨budgeted, hbudget, h⟩ := Program.eval_bind_eq_ok.mp h
  obtain ⟨stacked, hstacked, h⟩ := Program.eval_bind_eq_ok.mp h
  obtain ⟨typed, htyped, h⟩ := Program.eval_bind_eq_ok.mp h
  obtain ⟨hibernated, hhibernated, h⟩ := Program.eval_bind_eq_ok.mp h
  obtain ⟨sessioned, hsessioned, hroot⟩ := Program.eval_bind_eq_ok.mp h
  obtain ⟨rfl, ⟨projectOf, rfl⟩, hid, howner, hexempt, hbudget⟩ :=
    validateOwnership hproject hbudget
  obtain ⟨stack, hnames, rfl, project, hprojectOf, hstack⟩ := validateSoftwareStack_ok hstacked
  obtain ⟨rfl, stack', hibernation, types, info, hstored, hhibernation, htypes, hinfo, htype,
    hallowed⟩ := validateInstanceType_ok htyped
  obtain rfl := SessionStack.stored.inj (Option.some.inj hstored)
  have hdescribed : (instanceInfo { request with
      project := projectOf, softwareStack := some (.stored stack) }).eval services.answer =
        .ok info :=
    instanceInfo_eq htypes hinfo htype
  obtain rfl := validateHibernation_ok hhibernated
  obtain ⟨rfl, hvirtual, hconsole⟩ := validateSessionType_ok hstored hdescribed hsessioned
  obtain ⟨rfl, size, limit, hsize, hlimit, hmaximum, hminimum⟩ :=
    validateRootVolume_ok hstored hdescribed hhibernation hroot
  refine ⟨stack, info, size, hibernation, ?_, ?_, rfl, howner, hid, rfl, hexempt, hbudget, ?_,
    hallowed, hvirtual, hconsole, ⟨limit, hlimit, hmaximum⟩, hminimum⟩
  · exact ⟨hnames, ⟨types, htypes, hinfo⟩, htype, hsize, hhibernation⟩
  · exact ⟨rfl, ⟨types, htypes, hinfo⟩, htype, hsize, hhibernation⟩
  · rw [← hid]
    rw [projectIdOf, hprojectOf]
    exact hstack

section Agreement

variable {stack : VirtualDesktopSoftwareStack} {info : InstanceTypeInfo} {size : SocaMemory}
  {hibernation : Bool}

theorem obeysPolicy_iff (h : Runs services session stack info size hibernation) :
    ObeysPolicy config services session ↔
      Policy config services session stack info size hibernation := by
  refine ⟨?_, fun hpolicy => ⟨stack, info, size, hibernation, h, hpolicy⟩⟩
  rintro ⟨stack', info', size', hibernation', h', hpolicy⟩
  obtain ⟨rfl, rfl, rfl, rfl⟩ := h.unique h'
  exact hpolicy

theorem forall_requests_iff (h : Requests services request stack info size hibernation) :
    (∀ stack info size hibernation, Requests services request stack info size hibernation →
      Fits config request stack info size hibernation) ↔
      Fits config request stack info size hibernation := by
  refine ⟨fun hall => hall _ _ _ _ h, fun hfits stack' info' size' hibernation' h' => ?_⟩
  obtain ⟨rfl, rfl, rfl, rfl⟩ := h.unique h'
  exact hfits

theorem sessionType_iff (h : Accepted config services request accepted stack info size hibernation) :
    let type := request.type.getD (defaultType stack.baseOs.isWindows info.gpuManufacturer)
    ((stack.baseOs.isWindows = true ∨ info.gpuManufacturer = .AMD → type = .CONSOLE) ∧
        (info.architecture = some .ARM64 → type = .VIRTUAL)) ↔
      (request.type = none → info.architecture = some .ARM64 →
        stack.baseOs.isWindows = false ∧ info.gpuManufacturer ≠ .AMD) := by
  have hvirtual := h.virtual
  have hconsole := h.console
  cases htype : request.type with
  | some type =>
    cases type with
    | CONSOLE => simpa using hconsole htype
    | VIRTUAL => simpa using hvirtual htype
  | none =>
    by_cases hspecial : stack.baseOs.isWindows = true ∨ info.gpuManufacturer = .AMD
    · have hdefault : defaultType stack.baseOs.isWindows info.gpuManufacturer = .CONSOLE :=
        if_pos (by simpa using hspecial)
      have hnot : ¬ (stack.baseOs.isWindows = false ∧ info.gpuManufacturer ≠ .AMD) := by
        rintro ⟨hwindows, hgpu⟩
        simp [hwindows, hgpu] at hspecial
      simp only [Option.getD_none, hdefault]
      refine ⟨fun h _ harm => absurd (h.2 harm) (by decide), fun h => ⟨fun _ => trivial, ?_⟩⟩
      exact fun harm => absurd (h trivial harm) hnot
    · have hdefault : defaultType stack.baseOs.isWindows info.gpuManufacturer = .VIRTUAL := by
        simpa [defaultType] using hspecial
      rw [not_or] at hspecial
      simp only [Option.getD_none, hdefault]
      exact ⟨fun _ _ _ => ⟨Bool.eq_false_iff.mpr hspecial.1, hspecial.2⟩, fun _ =>
        ⟨fun h => absurd h (not_or.mpr hspecial), fun _ => trivial⟩⟩

theorem maximum_iff (h : Accepted config services request accepted stack info size hibernation) :
    (∃ limit ∈ config.maxRootVolumeMemory, size.bytes ≤ gigabytes limit) ↔
      ∀ limit ∈ config.maxRootVolumeMemory,
        SocaMemoryUnit.gb.factor < size.unit.factor ∨ limit < 0 → size.bytes ≤ gigabytes limit := by
  obtain ⟨limit, hlimit, hvalue⟩ := h.maximum
  simp only [hlimit, Option.mem_def, Option.some.injEq, exists_eq_left', forall_eq']
  refine ⟨fun hbytes _ => hbytes, fun hfits => ?_⟩
  by_cases hunit : SocaMemoryUnit.gb.factor < size.unit.factor ∨ limit < 0
  · exact hfits hunit
  · rw [not_or, not_lt, not_lt] at hunit
    exact SocaMemory.bytes_le_of_value_le hunit.2 hunit.1 hvalue

theorem minimum_iff (h : Accepted config services request accepted stack info size hibernation) :
    stack.minStorage.bytes + (if hibernation then info.ram.bytes else 0) ≤ size.bytes ↔
      (hibernation = true →
        (stack.minStorage.add info.ram).bytes < stack.minStorage.bytes + info.ram.bytes →
        stack.minStorage.bytes + info.ram.bytes ≤ size.bytes) := by
  have hminimum := h.minimum
  cases hibernation with
  | false => simpa using hminimum
  | true =>
    simp only [if_true, true_implies] at hminimum ⊢
    refine ⟨fun hbytes _ => hbytes, fun hfits => ?_⟩
    by_cases hless : (stack.minStorage.add info.ram).bytes < stack.minStorage.bytes + info.ram.bytes
    · exact hfits hless
    · exact (not_lt.mp hless).trans hminimum

/-- The owner is a member or the administrator if nobody is taken for the administrator by a part of
his name. -/
theorem owner_iff (h : Accepted config services request accepted stack info size hibernation) :
    Member services request.owner (projectIdOf request) ∨
        request.owner = config.administratorUsername ↔
      (ExemptByName config request.owner →
        Member services request.owner (projectIdOf request)) := by
  refine ⟨fun howner hexempt => howner.resolve_right hexempt.2, fun hexempt => ?_⟩
  by_contra hneither
  rw [not_or] at hneither
  exact hneither.1 (hexempt ⟨h.exempt hneither.1, hneither.2⟩)

theorem budget_iff (h : Accepted config services request accepted stack info size hibernation) :
    (∀ id ∈ projectIdOf request, ∀ project ∈ services.storedProject id,
        ¬ BudgetExceeded config services project) ↔
      (¬ Member services request.owner (projectIdOf request) →
        ∀ id ∈ projectIdOf request, ∀ project ∈ services.storedProject id,
          ¬ BudgetExceeded config services project) := by
  refine ⟨fun hbudget _ => hbudget, fun hbudget => ?_⟩
  by_cases hmember : Member services request.owner (projectIdOf request)
  · exact h.budget hmember
  · exact hbudget hmember

end Agreement

/-- A session that was accepted and completed obeys the policy if and only if its request is not one
of those that the checks are wrong about. -/
theorem completed_obeysPolicy_iff {username : String}
    (haccepted :
      (validateCreateSessionRequest config request).eval services.answer = .ok accepted)
    (hcompleted :
      (completeCreateSessionRequest config username accepted).eval services.answer = .ok session) :
    ObeysPolicy config services session ↔ HoldsWhen config services request := by
  obtain ⟨stack, info, size, hibernation, h⟩ := validateCreateSessionRequest_ok haccepted
  obtain ⟨info', stack', hinfo, hacceptedStack, hstack, hproject, hhibernation, hinstance, hroot,
    htype, howner⟩ := completeCreateSessionRequest_ok hcompleted
  obtain rfl := Option.some.inj (hacceptedStack.symm.trans h.runs.stack)
  obtain ⟨types, htypes, hmem⟩ := h.runs.described
  obtain rfl := Except.ok.inj (hinfo.symm.trans (instanceInfo_eq htypes hmem h.runs.instanceType))
  have hruns : Runs services session stack info' size hibernation :=
    ⟨hstack, h.runs.described, hinstance.trans h.runs.instanceType, hroot.trans h.runs.size,
      hhibernation.trans h.runs.hibernation⟩
  have hid : projectIdOf session = projectIdOf request := by
    rw [← h.projectId, projectIdOf, hproject, projectIdOf]
  have howner' : session.owner = request.owner :=
    (howner (h.owner ▸ h.owner_present)).trans h.owner
  rw [h.type] at htype
  have htypes' := sessionType_iff h
  rw [obeysPolicy_iff hruns]
  constructor
  · intro hpolicy
    have hconsole := hpolicy.console
    have hvirtual := hpolicy.virtual
    rw [htype, Option.some_inj] at hconsole hvirtual
    have hkeep := hpolicy.owner
    have hbudget := hpolicy.budget
    rw [howner', hid] at hkeep
    rw [hid] at hbudget
    exact ⟨(owner_iff h).mp hkeep, (budget_iff h).mp hbudget,
      (forall_requests_iff h.requests).mpr ⟨htypes'.mp ⟨hconsole, hvirtual⟩,
        (maximum_iff h).mp hpolicy.maximum, (minimum_iff h).mp hpolicy.minimum⟩⟩
  · intro hwhen
    have hfits := (forall_requests_iff h.requests).mp hwhen.fits
    obtain ⟨hconsole, hvirtual⟩ := htypes'.mpr hfits.type
    constructor
    · rw [howner', hid]
      exact (owner_iff h).mpr hwhen.exempt
    · rw [hid]
      exact (budget_iff h).mpr hwhen.budget
    · rw [hid]
      exact h.project
    · exact h.allowed
    · rw [htype, Option.some_inj]
      exact hconsole
    · rw [htype, Option.some_inj]
      exact hvirtual
    · exact (maximum_iff h).mpr hfits.maximum
    · exact (minimum_iff h).mpr hfits.minimum

def sampleProjects (id : String) : Option Project :=
  if id = "project-1" then some sampleProject else none

def sampleServices : Services where
  answer := sampleAnswer "uuid-1"
  storedProject := sampleProjects
  userProjects_stored username projects hprojects project hmem id hid := by
    obtain rfl := Except.ok.inj hprojects
    obtain rfl := List.mem_singleton.mp hmem
    obtain rfl := Option.some.inj hid
    decide

def acceptedRequest (request : VirtualDesktopSession) (project : Project) : VirtualDesktopSession :=
  { request with project := some project, softwareStack := some (.stored sampleStack) }

def completedRequest (accepted : VirtualDesktopSession) : VirtualDesktopSession :=
  { accepted with
    type := some .VIRTUAL
    server := some ⟨some "m5.large", some ⟨20, .gb⟩, some 100, some "arn:profile", some "key",
      some [some "sg-1"], none⟩
    ideaSessionId := some "uuid-1" }

theorem completed_obeysPolicy_iff_member :
    ObeysPolicy sampleConfig sampleServices
        (completedRequest (acceptedRequest sampleRequest sampleProject)) ↔
      HoldsWhen sampleConfig sampleServices sampleRequest := by
  have haccepted : (validateCreateSessionRequest sampleConfig sampleRequest).eval
      sampleServices.answer = .ok (acceptedRequest sampleRequest sampleProject) := by
    decide +kernel
  have hcompleted : (completeCreateSessionRequest sampleConfig "ada"
      (acceptedRequest sampleRequest sampleProject)).eval sampleServices.answer =
        .ok (completedRequest (acceptedRequest sampleRequest sampleProject)) := by
    decide +kernel
  exact completed_obeysPolicy_iff haccepted hcompleted

def outsiderAnswer : (op : Op) → Answer op
  | .getUserProjects _ => .ok []
  | op => sampleAnswer "uuid-1" op

def outsiderServices : Services where
  answer := outsiderAnswer
  storedProject := sampleProjects
  userProjects_stored username projects hprojects project hmem id hid := by
    obtain rfl := Except.ok.inj hprojects
    cases hmem

def outsiderRequest : VirtualDesktopSession := { sampleRequest with owner := some "admin" }

/-- A user whose name is a part of the name of the administrator launches a desktop in a project of
others. -/
theorem outsider_disobeys :
    ¬ ∀ config services request accepted session username,
      (validateCreateSessionRequest config request).eval services.answer = .ok accepted →
      (completeCreateSessionRequest config username accepted).eval services.answer = .ok session →
      ObeysPolicy config services session := by
  intro h
  obtain ⟨_, _, _, _, -, hpolicy⟩ := h sampleConfig outsiderServices outsiderRequest
    (acceptedRequest outsiderRequest ⟨some "project-1", none, none, none⟩)
    (completedRequest (acceptedRequest outsiderRequest ⟨some "project-1", none, none, none⟩))
    "admin" (by decide +kernel) (by decide +kernel)
  obtain ⟨projects, hprojects, project, hmem, -⟩ | howner := hpolicy.owner
  · obtain rfl := Except.ok.inj hprojects
    cases hmem
  · exact absurd howner (by decide +kernel)

end Idea.VirtualDesktop.Launch

import Idea.VirtualDesktop.LaunchPolicy

/-! # The types of instances that are offered

The types of the catalogue are listed for a stack, with or without hibernation, and for a graphics
card if one is given. The card that is given goes before the one that the stack needs.
-/

namespace Idea.VirtualDesktop.Launch

variable (config : Config) (hibernationSupport : Bool)
  (softwareStack : Option VirtualDesktopSoftwareStack) (gpu : Option VirtualDesktopGPU)

def allowedTypes : List String :=
  match softwareStack with
  | some stack => allowedInstanceTypes config stack
  | none => config.instanceTypesAllow

def gpuToCheckAgainst : Option VirtualDesktopGPU :=
  match gpu with
  | some gpu => some gpu
  | none =>
    match softwareStack with
    | none => none
    | some stack =>
      -- The check of Windows is not made, although the comments of the source call it strict.
      if stack.baseOs.isWindows then none
      else if stack.gpu ≠ .NO_GPU then some stack.gpu
      else none

def hasCard (card : VirtualDesktopGPU) (info : InstanceTypeInfo) : Bool :=
  if card = .NO_GPU then info.gpus.isEmpty
  else info.gpus.any (InstanceTypeInfo.sameManufacturer card)

def passesOtherChecks (info : InstanceTypeInfo) : Bool :=
  listed (allowedTypes config softwareStack) info.instanceType &&
    !listed config.instanceTypesDeny info.instanceType &&
    !softwareStack.any (fun stack => info.ram.lt stack.minRam) &&
    (!hibernationSupport || info.hibernationSupported.getD false) &&
    softwareStack.all fun stack => info.supportedArchitectures.contains stack.architecture.value

/-- `get_valid_instance_types` with all its parameters. -/
def validInstanceTypes (instanceTypes : InstanceTypes) : List InstanceTypeInfo :=
  instanceTypes.types.filter fun info =>
    passesOtherChecks config hibernationSupport softwareStack info &&
      (gpuToCheckAgainst softwareStack gpu).all fun card => hasCard card info

/-- The rule for cards: the card that is given, or the one that the stack needs; a stack without one
rules cards out only for Windows. -/
def GpuRule (info : InstanceTypeInfo) : Prop :=
  match gpu, softwareStack with
  | some card, _ => hasCard card info = true
  | none, none => True
  | none, some stack =>
    if stack.gpu = .NO_GPU then stack.baseOs.isWindows = true → info.gpus = []
    else ∃ manufacturer ∈ info.gpus,
      InstanceTypeInfo.sameManufacturer stack.gpu manufacturer = true

/-- The rules for the name, the memory, hibernation and the architecture. -/
structure Admissible (info : InstanceTypeInfo) : Prop where
  allowed : listed (allowedTypes config softwareStack) info.instanceType = true
  not_denied : listed config.instanceTypesDeny info.instanceType = false
  ram : ∀ stack ∈ softwareStack, stack.minRam.bytes ≤ info.ram.bytes
  hibernates : hibernationSupport = true → info.hibernationSupported = some true
  architecture : ∀ stack ∈ softwareStack,
    stack.architecture.value ∈ info.supportedArchitectures

structure Offered (info : InstanceTypeInfo) : Prop extends
    Admissible config hibernationSupport softwareStack info where
  gpu : GpuRule softwareStack gpu info

section Exact

variable {config hibernationSupport softwareStack gpu} {info : InstanceTypeInfo}

theorem passesOtherChecks_iff :
    passesOtherChecks config hibernationSupport softwareStack info = true ↔
      Admissible config hibernationSupport softwareStack info := by
  have hhibernates : (!hibernationSupport || info.hibernationSupported.getD false) = true ↔
      (hibernationSupport = true → info.hibernationSupported = some true) := by
    cases hibernationSupport <;> cases info.hibernationSupported <;> simp
  simp only [passesOtherChecks, Bool.and_eq_true, hhibernates]
  cases softwareStack with
  | none =>
    constructor
    · rintro ⟨⟨⟨⟨hallowed, hdenied⟩, -⟩, hhibernates⟩, -⟩
      exact ⟨hallowed, by simpa using hdenied, by simp, hhibernates, by simp⟩
    · intro h
      exact ⟨⟨⟨⟨h.allowed, by simpa using h.not_denied⟩, rfl⟩, h.hibernates⟩, rfl⟩
  | some stack =>
    have hram : (!Option.any (fun stack => info.ram.lt stack.minRam) (some stack)) = true ↔
        stack.minRam.bytes ≤ info.ram.bytes := by
      simp [SocaMemory.lt]
    have harchitecture : Option.all (fun stack =>
          info.supportedArchitectures.contains stack.architecture.value) (some stack) = true ↔
        stack.architecture.value ∈ info.supportedArchitectures := by
      simp
    rw [hram, harchitecture]
    constructor
    · rintro ⟨⟨⟨⟨hallowed, hdenied⟩, hram⟩, hhibernates⟩, harchitecture⟩
      exact ⟨hallowed, by simpa using hdenied, by simpa using hram, hhibernates,
        by simpa using harchitecture⟩
    · intro h
      exact ⟨⟨⟨⟨h.allowed, by simpa using h.not_denied⟩, h.ram stack rfl⟩, h.hibernates⟩,
        h.architecture stack rfl⟩

theorem gpuCheck_iff (h : gpu = none → ∀ stack ∈ softwareStack, stack.baseOs.isWindows = false) :
    (gpuToCheckAgainst softwareStack gpu).all (fun card => hasCard card info) = true ↔
      GpuRule softwareStack gpu info := by
  cases gpu with
  | some card => rfl
  | none =>
    cases softwareStack with
    | none => exact iff_of_true rfl trivial
    | some stack =>
      have hlinux := h rfl stack rfl
      by_cases hcard : stack.gpu = .NO_GPU
      · simp [gpuToCheckAgainst, GpuRule, hlinux, hcard]
      · simp [gpuToCheckAgainst, GpuRule, hasCard, hlinux, hcard]

theorem gpuCheck_of_windows {stack : VirtualDesktopSoftwareStack}
    (h : stack.baseOs.isWindows = true) : gpuToCheckAgainst (some stack) none = none :=
  if_pos h

theorem mem_validInstanceTypes_iff {types : InstanceTypes} :
    info ∈ validInstanceTypes config hibernationSupport softwareStack gpu types ↔
      info ∈ types.types ∧ Admissible config hibernationSupport softwareStack info ∧
        (gpuToCheckAgainst softwareStack gpu).all (fun card => hasCard card info) = true := by
  rw [validInstanceTypes, List.mem_filter, Bool.and_eq_true, passesOtherChecks_iff]

end Exact

/-- The types that may be offered are listed, and no others, unless a type with the wrong card
passes the other checks for Windows and no card is given. -/
theorem offered_exactly_iff (types : InstanceTypes) :
    (∀ info, info ∈ validInstanceTypes config hibernationSupport softwareStack gpu types ↔
        info ∈ types.types ∧ Offered config hibernationSupport softwareStack gpu info) ↔
      (gpu = none → ∀ stack ∈ softwareStack, stack.baseOs.isWindows = true →
        ∀ info ∈ types.types, Admissible config hibernationSupport softwareStack info →
          GpuRule softwareStack gpu info) := by
  constructor
  · rintro h rfl stack hstack hwindows info hinfo hadmissible
    obtain rfl := Option.mem_def.mp hstack
    have hlisted : info ∈ validInstanceTypes config hibernationSupport (some stack) none types := by
      rw [mem_validInstanceTypes_iff, gpuCheck_of_windows hwindows]
      exact ⟨hinfo, hadmissible, rfl⟩
    exact ((h info).mp hlisted).2.gpu
  · intro h info
    rw [mem_validInstanceTypes_iff]
    refine and_congr_right fun hinfo => ?_
    have hrule : Admissible config hibernationSupport softwareStack info →
        ((gpuToCheckAgainst softwareStack gpu).all (fun card => hasCard card info) = true ↔
          GpuRule softwareStack gpu info) := by
      intro hadmissible
      by_cases hwindows : gpu = none ∧ ∃ stack ∈ softwareStack, stack.baseOs.isWindows = true
      · obtain ⟨rfl, stack, hstack, hwindows⟩ := hwindows
        have hgpu := h rfl stack hstack hwindows info hinfo hadmissible
        obtain rfl := Option.mem_def.mp hstack
        rw [gpuCheck_of_windows hwindows]
        exact iff_of_true rfl hgpu
      · refine gpuCheck_iff fun hnone stack hstack => ?_
        by_contra hnot
        exact hwindows ⟨hnone, stack, hstack, by simpa using hnot⟩
    constructor
    · rintro ⟨hadmissible, hcheck⟩
      exact ⟨hadmissible, (hrule hadmissible).mp hcheck⟩
    · rintro ⟨hadmissible, hgpu⟩
      exact ⟨hadmissible, (hrule hadmissible).mpr hgpu⟩

def cardType : InstanceTypeInfo := ⟨"g4dn.xlarge", some 16384, some false, ["x86_64"], ["NVIDIA"]⟩

def cardTypes : InstanceTypes := ⟨[cardType], by decide⟩

def windowsStack : VirtualDesktopSoftwareStack :=
  { sampleStack with baseOs := .WINDOWS2022, allowedInstanceTypes := some ["g4dn"] }

/-- A Windows stack without a card is offered a type that has one. -/
theorem not_offered_exactly_windows :
    ¬∀ info, info ∈ validInstanceTypes sampleConfig false (some windowsStack) none cardTypes ↔
      info ∈ cardTypes.types ∧ Offered sampleConfig false (some windowsStack) none info := by
  intro h
  have hlisted : cardType ∈
      validInstanceTypes sampleConfig false (some windowsStack) none cardTypes := by
    decide +kernel
  have hrule : windowsStack.baseOs.isWindows = true → cardType.gpus = [] :=
    ((h cardType).mp hlisted).2.gpu
  exact absurd (hrule (by decide +kernel)) (by decide)

end Idea.VirtualDesktop.Launch

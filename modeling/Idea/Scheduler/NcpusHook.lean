import Idea.Data.Dict
import Idea.Data.ShellExact
import Idea.Data.Text
import Idea.Model.Texts

/-! # The ncpus hook

When a job is submitted, a hook of the scheduler sets the number of CPUs in its select statement
from the instance type that the user asks for. The hook looks the instance type up with a
command, which a shell runs.
-/

namespace Idea.NcpusHook

/-- The events of the scheduler; the hook processes one kind of them. -/
inductive EventType where
  | queuejob | other
  deriving DecidableEq

/-- A job as the hook sees it: the resources with their texts and the attributes that the hook
does not name. -/
structure Job where
  queue : Option String
  resourceList : Option (Dict String String)
  attributes : Dict String String

structure Event where
  type : EventType
  job : Job

structure InstanceInfo where
  vcpus : ℤ
  cores : ℤ
  threadsPerCore : ℤ

structure InstanceData where
  defaultVCpus : Option ℤ
  defaultCores : Option ℤ
  defaultThreadsPerCore : Option ℤ

/-- What the hook calls: a command may fail or have an answer, and a text may be no select
statement for the scheduler. -/
structure Environment where
  answer : List Char → Option InstanceData
  select : String → Option String

/-- The cached instance types, and the commands that a shell was started with. -/
structure State where
  instanceTypeCache : Dict (List Char) InstanceInfo
  commands : List (List Char)

/-- Queue names that should be skipped for ncpus calculation. -/
def SKIP_NCPUS_CALCULATION_QUEUES : List String := ["job-shared"]

def command (instanceType : List Char) : List Char :=
  "aws ec2 describe-instance-types --instance-types ".toList ++ instanceType ++
    " --query 'InstanceTypes[0]' --output json".toList

def positive? (n : Option ℤ) : Option ℤ := n.filter (· ≠ 0)

def InstanceData.info? (data : InstanceData) : Option InstanceInfo := do
  let vcpus ← positive? data.defaultVCpus
  let cores ← positive? data.defaultCores
  let threadsPerCore ← positive? data.defaultThreadsPerCore
  some { vcpus, cores, threadsPerCore }

def getEc2InstanceTypeInfoFromAws (env : Environment) (instanceType : List Char) (s : State) :
    Option InstanceInfo × State :=
  let s := { s with commands := s.commands ++ [command instanceType] }
  match (env.answer (command instanceType)).bind InstanceData.info? with
  | some info =>
    (some info, { s with instanceTypeCache := s.instanceTypeCache.set instanceType info })
  | none => (none, s)

def defaultInfo : InstanceInfo := { vcpus := 1, cores := 1, threadsPerCore := 1 }

def getInstanceTypeInfo (env : Environment) (instanceType : List Char) (s : State) :
    InstanceInfo × State :=
  match s.instanceTypeCache.get? instanceType with
  | some info => (info, s)
  | none =>
    match getEc2InstanceTypeInfoFromAws env instanceType s with
    | (some info, s) => (info, s)
    | (none, s) =>
      (defaultInfo, { s with instanceTypeCache := s.instanceTypeCache.set instanceType defaultInfo })

def Job.instanceType? (job : Job) : Option (List Char) := do
  let resources ← job.resourceList
  let instanceType ← (resources.get? "instance_type").filter (· ≠ "")
  some ((instanceType.toList.splitOn '+').headD [])

def Job.htSupport (job : Job) : Bool :=
  match job.resourceList.bind (·.get? "ht_support") with
  | none => true
  | some value =>
    value.toList.map Char.toLower ∈ ["true", "yes", "1"].map String.toList

def calculateNcpus (env : Environment) (job : Job) (s : State) : Option ℤ × State :=
  match job.instanceType? with
  | none => (none, s)
  | some instanceType =>
    let (info, s) := getInstanceTypeInfo env instanceType s
    (some (if job.htSupport then info.vcpus else info.cores), s)

/-- `int` of a text of digits. -/
def count? (part : List Char) : Option ℕ :=
  if part ≠ [] ∧ part.all Char.isDigit then some (Decimal.value part) else none

def keyValue? (part : List Char) : Option (List Char × List Char) :=
  if '=' ∈ part then some (part.takeWhile (· ≠ '='), (part.dropWhile (· ≠ '=')).tail) else none

def parseSelect (select : String) : Option (Dict (List Char) (List Char) × ℕ) :=
  if select = "" then none
  else
    let parts := select.toList.splitOn ':'
    let (count, parts) :=
      match parts.head?.bind count? with
      | some count => (count, parts.tail)
      | none => (1, parts)
    some ((parts.filterMap keyValue?).foldl (fun parsed p => parsed.set p.1 p.2) Dict.empty, count)

/-- The compute node in a select statement; there is none if the statement only mentions the
name of the resource. -/
def computeNode? (select : String) : Option (List Char) :=
  (Text.splitText "compute_node=".toList 0 [] select.toList)[1]?.bind fun rest =>
    (rest.splitOn ':').head?

def newSelect (parsed : Dict (List Char) (List Char)) (count : ℕ) : List Char :=
  parsed.entries.foldl (fun text p => text ++ ':' :: p.1 ++ '=' :: p.2) (toString count).toList

def updatedSelect? (env : Environment) (resources : Dict String String) (ncpus : ℤ) :
    Option String :=
  match resources.get? "select" with
  | none => do
    let nodes ← match resources.get? "nodes" with
      | none => some 1
      | some nodes => intOfText nodes
    env.select (toString nodes ++ ":ncpus=" ++ toString ncpus)
  | some select => do
    let (parsed, count) ← (parseSelect select).filter (·.1.entries ≠ [])
    let parsed := parsed.set "ncpus".toList (toString ncpus).toList
    let text := newSelect parsed count
    let text ←
      if "compute_node".toList <:+: select.toList then do
        let computeNode ← computeNode? select
        if parsed.has "compute_node".toList then some text
        else some (text ++ ":compute_node=".toList ++ computeNode)
      else some text
    env.select (String.ofList text)

def updateSelectStatement (env : Environment) (job : Job) (ncpus : ℤ) : Job :=
  match job.resourceList with
  | none => job
  | some resources =>
    match updatedSelect? env resources ncpus with
    | none => job
    | some select => { job with resourceList := some (resources.set "select" select) }

def shouldSkipNcpusCalculation (job : Job) : Bool :=
  match job.queue.filter (· ≠ "") with
  | none => false
  | some queueName => queueName ∈ SKIP_NCPUS_CALCULATION_QUEUES

def calculateNcpusHook (env : Environment) (e : Event) (s : State) : Job × State :=
  if e.type ≠ .queuejob then (e.job, s)
  else if shouldSkipNcpusCalculation e.job then (e.job, s)
  else
    match calculateNcpus env e.job s with
    | (none, s) => (e.job, s)
    | (some ncpus, s) =>
      if ncpus ≠ 0 then (updateSelectStatement env e.job ncpus, s) else (e.job, s)

def commandWords (instanceType : List Char) : List (Shell.Token (List Char)) :=
  [.word "aws".toList, .word "ec2".toList, .word "describe-instance-types".toList,
    .word "--instance-types".toList, .word instanceType, .word "--query".toList,
    .word "InstanceTypes[0]".toList, .word "--output".toList, .word "json".toList]

def template (instanceType : List Char) : Shell.Template where
  first := .bare "aws".toList
  rest := [(.blank, .bare "ec2".toList), (.blank, .bare "describe-instance-types".toList),
    (.blank, .bare "--instance-types".toList), (.blank, .bare instanceType),
    (.blank, .bare "--query".toList), (.blank, .quoted "InstanceTypes[0]".toList),
    (.blank, .bare "--output".toList), (.blank, .bare "json".toList)]

theorem tokens_template (instanceType : List Char) :
    (template instanceType).tokens = commandWords instanceType := rfl

theorem render_template (instanceType : List Char) :
    (template instanceType).render .single = command instanceType := by
  have hbefore : "aws ec2 describe-instance-types --instance-types ".toList =
      "aws".toList ++ ' ' :: "ec2".toList ++ ' ' :: "describe-instance-types".toList ++
        ' ' :: "--instance-types".toList ++ [' '] := by decide +kernel
  have hafter : " --query 'InstanceTypes[0]' --output json".toList =
      ' ' :: "--query".toList ++ ' ' :: Shell.apostrophe :: "InstanceTypes[0]".toList ++
        Shell.apostrophe :: ' ' :: "--output".toList ++ ' ' :: "json".toList := by decide +kernel
  unfold template Shell.Template.render
  simp only [List.flatMap_cons, List.flatMap_nil, Shell.Arg.render, Shell.Sep.render,
    Shell.Quote.char]
  unfold command
  rw [hbefore, hafter]
  -- the words of the template play no part in how the two are bracketed
  generalize "aws".toList = w₁, "ec2".toList = w₂, "describe-instance-types".toList = w₃,
    "--instance-types".toList = w₄, "--query".toList = w₅, "InstanceTypes[0]".toList = w₆,
    "--output".toList = w₇, "json".toList = w₈
  simp

theorem safe_template_iff {instanceType : List Char} :
    (∀ a ∈ (template instanceType).args, a.Safe .single) ↔
      Shell.bareSafe instanceType = true := by
  have hwords : ∀ a ∈ [Shell.Arg.bare "aws".toList, .bare "ec2".toList,
      .bare "describe-instance-types".toList, .bare "--instance-types".toList,
      .bare "--query".toList, .quoted "InstanceTypes[0]".toList, .bare "--output".toList,
      .bare "json".toList], a.Safe .single := by decide +kernel
  simp only [List.forall_mem_cons, List.not_mem_nil, false_implies, implies_true,
    and_true] at hwords
  obtain ⟨h₁, h₂, h₃, h₄, h₅, h₆, h₇, h₈⟩ := hwords
  constructor
  · exact fun h => h (.bare instanceType) (by simp [template, Shell.Template.args])
  · intro h a ha
    simp only [template, Shell.Template.args, List.map_cons, List.map_nil, List.mem_cons,
      List.not_mem_nil, or_false] at ha
    rcases ha with rfl | rfl | rfl | rfl | rfl | rfl | rfl | rfl | rfl <;> assumption

theorem read_command_iff {instanceType : List Char} :
    Shell.read (command instanceType) = some (commandWords instanceType) ↔
      Shell.bareSafe instanceType = true := by
  rw [← render_template, ← tokens_template, Shell.read_render_iff, safe_template_iff]

variable {env : Environment} {e : Event} {job : Job} {s : State}

def lookedUp? (cache : Dict (List Char) InstanceInfo) (e : Event) : Option (List Char) :=
  if e.type ≠ .queuejob ∨ shouldSkipNcpusCalculation e.job then none
  else e.job.instanceType?.filter fun instanceType => cache.get? instanceType = none

theorem commands_getInstanceTypeInfo (instanceType : List Char) :
    (getInstanceTypeInfo env instanceType s).2.commands = s.commands ++
      if s.instanceTypeCache.get? instanceType = none then [command instanceType] else [] := by
  unfold getInstanceTypeInfo
  cases hcache : s.instanceTypeCache.get? instanceType with
  | some info => simp
  | none =>
    unfold getEc2InstanceTypeInfoFromAws
    cases (env.answer (command instanceType)).bind InstanceData.info? <;> simp

theorem commands_calculateNcpus : (calculateNcpus env job s).2.commands = s.commands ++
    ((job.instanceType?.filter fun t => s.instanceTypeCache.get? t = none).map command).toList := by
  unfold calculateNcpus
  cases job.instanceType? with
  | none => simp
  | some instanceType =>
    change (getInstanceTypeInfo env instanceType s).2.commands = _
    rw [commands_getInstanceTypeInfo, Option.filter_some]
    split_ifs <;> simp_all

theorem commands_hook : (calculateNcpusHook env e s).2.commands = s.commands ++
    ((lookedUp? s.instanceTypeCache e).map command).toList := by
  unfold calculateNcpusHook lookedUp?
  by_cases htype : e.type ≠ .queuejob
  · simp [htype]
  by_cases hskip : shouldSkipNcpusCalculation e.job = true
  · simp [htype, hskip]
  have hcommands : (calculateNcpus env e.job s).2.commands = _ := commands_calculateNcpus
  rw [if_neg htype, if_neg hskip, if_neg (not_or.mpr ⟨htype, hskip⟩), ← hcommands]
  rcases calculateNcpus env e.job s with ⟨_ | ncpus, s'⟩
  · rfl
  · dsimp only
    split_ifs <;> rfl

/-- The hook changes nothing but the resource `select`. -/
structure OnlySelect (job job' : Job) : Prop where
  queue : job'.queue = job.queue
  attributes : job'.attributes = job.attributes
  resources : job'.resourceList.isSome = job.resourceList.isSome
  others : ∀ name, name ≠ "select" →
    job'.resourceList.bind (·.get? name) = job.resourceList.bind (·.get? name)

theorem OnlySelect.refl (job : Job) : OnlySelect job job := ⟨rfl, rfl, rfl, fun _ _ => rfl⟩

theorem onlySelect_update (ncpus : ℤ) :
    OnlySelect job (updateSelectStatement env job ncpus) := by
  unfold updateSelectStatement
  cases hresources : job.resourceList with
  | none => exact .refl job
  | some resources =>
    dsimp only
    cases updatedSelect? env resources ncpus with
    | none => exact .refl job
    | some select =>
      refine ⟨rfl, rfl, by rw [hresources]; rfl, fun name hname => ?_⟩
      rw [hresources, Option.bind_some, Option.bind_some, Dict.get?_set, if_neg hname]

theorem onlySelect_hook : OnlySelect e.job (calculateNcpusHook env e s).1 := by
  unfold calculateNcpusHook
  split_ifs
  · exact .refl _
  · exact .refl _
  · rcases calculateNcpus env e.job s with ⟨_ | ncpus, s'⟩
    · exact .refl _
    · dsimp only
      split_ifs
      · exact onlySelect_update ncpus
      · exact .refl _

/-- The commands of a hook, with the instance type that the user asks for. -/
def RunsOnlyLookup (e : Event) (commands : List (List Char)) : Prop :=
  ∀ command ∈ commands, ∃ instanceType, e.job.instanceType? = some instanceType ∧
    Shell.read command = some (commandWords instanceType)

theorem instanceType?_of_lookedUp {cache : Dict (List Char) InstanceInfo} {t : List Char}
    (h : lookedUp? cache e = some t) : e.job.instanceType? = some t := by
  unfold lookedUp? at h
  split_ifs at h
  exact (Option.filter_eq_some_iff.mp h).1

theorem runsOnlyLookup_iff (cache : Dict (List Char) InstanceInfo) :
    RunsOnlyLookup e (calculateNcpusHook env e ⟨cache, []⟩).2.commands ↔
      ∀ t, lookedUp? cache e = some t → Shell.bareSafe t = true := by
  unfold RunsOnlyLookup
  rw [commands_hook, List.nil_append]
  simp only [Option.mem_toList, Option.map_eq_some_iff, forall_exists_index, and_imp,
    forall_apply_eq_imp_iff₂]
  refine forall₂_congr fun t ht => ?_
  rw [instanceType?_of_lookedUp ht]
  constructor
  · rintro ⟨t', heq, hread⟩
    cases heq
    exact read_command_iff.mp hread
  · exact fun hsafe => ⟨t, rfl, read_command_iff.mpr hsafe⟩

/-- The hook runs only the command of its template, and changes only the select statement, if and
only if the instance type that it looks up is a word of a shell that stands for itself. -/
theorem ncpus_hook_runs_template (env : Environment) (cache : Dict (List Char) InstanceInfo)
    (e : Event) :
    RunsOnlyLookup e (calculateNcpusHook env e ⟨cache, []⟩).2.commands ∧
        OnlySelect e.job (calculateNcpusHook env e ⟨cache, []⟩).1 ↔
      ∀ t, lookedUp? cache e = some t → Shell.bareSafe t = true := by
  rw [and_iff_left onlySelect_hook, runsOnlyLookup_iff]

def rebootJob : Job where
  queue := some "normal"
  resourceList := some ⟨[("instance_type", "t3.micro;reboot"), ("select", "1:ncpus=1")], by decide⟩
  attributes := Dict.empty

theorem ncpus_hook_runs_reboot : ¬ ∀ (env : Environment)
    (cache : Dict (List Char) InstanceInfo) (e : Event),
    RunsOnlyLookup e (calculateNcpusHook env e ⟨cache, []⟩).2.commands ∧
      OnlySelect e.job (calculateNcpusHook env e ⟨cache, []⟩).1 := by
  intro h
  obtain ⟨hruns, -⟩ := h ⟨fun _ => none, some⟩ Dict.empty ⟨.queuejob, rebootJob⟩
  have hlooked : lookedUp? Dict.empty ⟨.queuejob, rebootJob⟩ = some "t3.micro;reboot".toList := by
    decide +kernel
  have hsafe := (runsOnlyLookup_iff Dict.empty).mp hruns _ hlooked
  revert hsafe
  decide +kernel

end Idea.NcpusHook

import Idea.JobParams.Options

/-! # Names of job groups and stacks

A user may submit a job with a name for its group or its stack. The names that are made for jobs,
the names that a user is allowed to make, and the names that the builders accept are three
different sets of texts.
-/

namespace Idea

theorem matchesPattern_iff {lead rest text : List Char} {allowed : Char → Bool} :
    matchesPattern lead allowed rest text = true ↔
      ∃ c after, allowed c = true ∧ text = lead ++ c :: (rest ++ after) := by
  rw [matchesPattern, Bool.and_eq_true, List.isPrefixOf_iff_prefix]
  constructor
  · rintro ⟨⟨tail, rfl⟩, h⟩
    rw [List.drop_left] at h
    cases tail with
    | nil => cases h
    | cons c tail =>
      obtain ⟨hc, hrest⟩ := Bool.and_eq_true_iff.mp h
      obtain ⟨after, rfl⟩ := List.isPrefixOf_iff_prefix.mp hrest
      exact ⟨c, after, hc, rfl⟩
  · rintro ⟨c, after, hc, rfl⟩
    refine ⟨List.prefix_append lead _, ?_⟩
    rw [List.drop_left]
    simp [hc]

def IsNameChar (c : Char) : Prop := c.isAlphanum = true ∨ c = '-'

instance : DecidablePred IsNameChar := fun c =>
  inferInstanceAs (Decidable (c.isAlphanum = true ∨ c = '-'))

/-- A text that the name of a stack may go on with. -/
def ContinuesName (text : String) : Prop := ∀ c ∈ text.toList, IsNameChar c

def StartsName (text : String) : Prop :=
  ∃ c rest, text.toList = c :: rest ∧ c.isAlpha = true ∧ ∀ d ∈ rest, IsNameChar d

def IsStackName (name : String) : Prop := StartsName name ∧ name.length ≤ 128

/-- `custom-` and up to ten lower-case letters and digits. -/
def IsCustomName (name : String) : Prop :=
  ∃ cs, name.toList = "custom-".toList ++ cs ∧ 1 ≤ cs.length ∧ cs.length ≤ 10 ∧
    ∀ c ∈ cs, isLowerAlphanum c = true

def isHexDigit (c : Char) : Bool := c.isDigit || (c.toNat ≥ 97 && c.toNat ≤ 102)

/-- `g` and the eight digits of a digest. -/
def IsMadeJobGroup (name : String) : Prop :=
  ∃ digits, name.toList = 'g' :: digits ∧ digits.length = 8 ∧ ∀ c ∈ digits, isHexDigit c = true

def IsMadeStackName (clusterName name : String) : Prop :=
  ContinuesName name ∧ ∃ (digest : String → String) (job : SocaJob),
    job.clusterName = some clusterName ∧ job.newComputeStack digest = .ok name

theorem isNameChar_of_isLowerAlphanum {c : Char} (h : isLowerAlphanum c = true) : IsNameChar c := by
  rw [isLowerAlphanum, Bool.or_eq_true] at h
  refine Or.inl ?_
  change (c.isUpper || c.isLower || c.isDigit) = true
  rcases h with h | h <;> simp [h]

theorem isNameChar_of_isHexDigit {c : Char} (h : isHexDigit c = true) : IsNameChar c := by
  simp only [isHexDigit, Bool.or_eq_true, Bool.and_eq_true, decide_eq_true_eq] at h
  rcases h with h | ⟨h, h'⟩
  · exact isNameChar_of_isLowerAlphanum (by simp [isLowerAlphanum, h])
  · have hlower : c.isLower = true := by
      change (decide (c.val ≥ 97) && decide (c.val ≤ 122)) = true
      simp only [Bool.and_eq_true, decide_eq_true_eq, ge_iff_le, UInt32.le_iff_toNat_le]
      exact ⟨h, by have : c.val.toNat = c.toNat := rfl; simp; omega⟩
    exact isNameChar_of_isLowerAlphanum (by simp [isLowerAlphanum, hlower])

theorem continuesName_of_isCustomName {name : String} (h : IsCustomName name) :
    ContinuesName name := by
  obtain ⟨cs, hname, -, -, hcs⟩ := h
  intro c hc
  rw [hname, List.mem_append] at hc
  rcases hc with hc | hc
  · have hlead : ∀ c ∈ "custom-".toList, IsNameChar c := by simp [IsNameChar]
    exact hlead c hc
  · exact isNameChar_of_isLowerAlphanum (hcs c hc)

theorem continuesName_of_isMadeJobGroup {name : String} (h : IsMadeJobGroup name) :
    ContinuesName name := by
  obtain ⟨digits, hname, -, hdigits⟩ := h
  intro c hc
  rw [hname, List.mem_cons] at hc
  rcases hc with rfl | hc
  · exact Or.inl (by decide)
  · exact isNameChar_of_isHexDigit (hdigits c hc)

theorem brace_not_mem {name : String} (h : ContinuesName name) : '\x7b' ∉ name.toList := by
  intro hbrace
  exact absurd (h _ hbrace) (by decide)

theorem isSpace_of_isNameChar {c : Char} (h : IsNameChar c) : isSpace c = false := by
  rcases h with h | rfl
  · change (decide (c.val ≥ 65 ∧ c.val ≤ 90) ||
      (decide (c.val ≥ 97) && decide (c.val ≤ 122)) ||
      (decide (c.val ≥ 48) && decide (c.val ≤ 57))) = true at h
    simp only [Bool.or_eq_true, Bool.and_eq_true, decide_eq_true_eq, UInt32.le_iff_toNat_le,
      ge_iff_le] at h
    have hval : c.val.toNat = c.toNat := rfl
    simp [isSpace]
    simp at h
    omega
  · decide

theorem strip_of_continuesName {name : String} (h : ContinuesName name) : strip name = name := by
  rw [strip, stripChars_eq_self fun c hc => isSpace_of_isNameChar (h c hc), String.ofList_toList]

theorem isEmptyString_of_continuesName {name : String} (h : ContinuesName name)
    (hne : name.toList ≠ []) : isEmptyString (some name) = false := by
  obtain ⟨c, cs, hcs⟩ := List.exists_cons_of_ne_nil hne
  have hc : c ∈ name.toList := by simp [hcs]
  exact isEmptyString_of_mem hc (isSpace_of_isNameChar (h c hc))

theorem startsName_append {lead rest : String} :
    StartsName (lead ++ ("-" ++ rest)) ↔ StartsName lead ∧ ContinuesName rest := by
  constructor
  · rintro ⟨c, cs, hcs, hc, hrest⟩
    rw [String.toList_append] at hcs
    cases hlead : lead.toList with
    | nil =>
      rw [hlead] at hcs
      obtain ⟨rfl, -⟩ := List.cons.inj (show '-' :: rest.toList = c :: cs by simpa using hcs)
      exact absurd hc (by decide)
    | cons d ds =>
      rw [hlead, List.cons_append] at hcs
      obtain ⟨rfl, rfl⟩ := List.cons.inj hcs
      refine ⟨⟨d, ds, hlead, hc, fun e he => hrest e (List.mem_append_left _ he)⟩, fun e he => ?_⟩
      exact hrest e (List.mem_append_right _ (by simp [he]))
  · rintro ⟨⟨c, cs, hcs, hc, hlead⟩, hrest⟩
    refine ⟨c, cs ++ '-' :: rest.toList, by simp [hcs], hc, fun d hd => ?_⟩
    rw [List.mem_append, List.mem_cons] at hd
    rcases hd with hd | rfl | hd
    · exact hlead d hd
    · exact Or.inr rfl
    · exact hrest d hd

def joinParts (lead : String) (parts : List String) : String :=
  parts.foldl (fun name part => name ++ "-" ++ part) lead

theorem hyphen_mem_joinParts {lead : String} {parts : List String}
    (h : '-' ∈ lead.toList ∨ parts ≠ []) : '-' ∈ (joinParts lead parts).toList := by
  induction parts generalizing lead with
  | nil => exact h.resolve_right (by simp)
  | cons part parts ih =>
    rw [joinParts, List.foldl_cons, ← joinParts]
    exact ih (Or.inl (by simp))

/-- What a text and the parts after it have to be to make up the name of a stack. -/
structure PartsFit (lead : String) (parts : List String) : Prop where
  starts : StartsName lead
  continues : ∀ part ∈ parts, ContinuesName part
  short : lead.length + (parts.map fun part => part.length + 1).sum ≤ 128

theorem isStackName_joinParts {lead : String} {parts : List String} :
    IsStackName (joinParts lead parts) ↔ PartsFit lead parts := by
  induction parts generalizing lead with
  | nil =>
    constructor
    · rintro ⟨hstarts, hshort⟩
      exact ⟨hstarts, by simp, hshort⟩
    · rintro ⟨hstarts, -, hshort⟩
      exact ⟨hstarts, hshort⟩
  | cons part parts ih =>
    rw [joinParts, List.foldl_cons, ← joinParts, ih]
    have hlength : (lead ++ "-" ++ part).length = lead.length + (part.length + 1) := by
      rw [String.length_append, String.length_append]
      have hhyphen : "-".length = 1 := rfl
      omega
    constructor
    · rintro ⟨hstarts, hcontinues, hshort⟩
      rw [String.append_assoc, startsName_append] at hstarts
      refine ⟨hstarts.1, ?_, ?_⟩
      · simp only [List.mem_cons, forall_eq_or_imp]
        exact ⟨hstarts.2, hcontinues⟩
      · rw [hlength] at hshort
        rw [List.map_cons, List.sum_cons]
        omega
    · rintro ⟨hstarts, hcontinues, hshort⟩
      simp only [List.mem_cons, forall_eq_or_imp] at hcontinues
      refine ⟨?_, hcontinues.2, ?_⟩
      · rw [String.append_assoc, startsName_append]
        exact ⟨hstarts, hcontinues.1⟩
      · rw [List.map_cons, List.sum_cons] at hshort
        rw [hlength]
        omega

def accepts : Except Raised Verdict → Bool
  | .ok verdict => verdict.success
  | .error _ => false

def BuilderContext.submitting (ctx : BuilderContext) (param value : String) : BuilderContext :=
  { ctx with
    params := { values := (∅ : Dict String ParamValue).set param (.text value)
                repr := ctx.params.repr } }

variable {ctx : BuilderContext}

theorem getValueAsString_submitting (param value : String) :
    (ctx.submitting param value).params.getValueAsString param = getAsString value := by
  have hget : (ctx.submitting param value).params.values.get? param = some (.text value) := by
    simp [BuilderContext.submitting, Dict.get?_set]
  have hpresent : (ParamValue.text value).isPresent = !isEmptyString (some value) := rfl
  rw [SubmittedParams.getValueAsString, SubmittedParams.getAnyValue, hget, Option.filter_some,
    hpresent]
  cases hblank : isEmptyString (some value) with
  | true => simp [getAsString, hblank]
  | false => simp [ParamValue.asString]

theorem getValueAsString_submitting_ne {param other : String} (value : String)
    (h : other ≠ param) :
    (ctx.submitting param value).params.getValueAsString other = none := by
  simp [SubmittedParams.getValueAsString, SubmittedParams.getAnyValue, BuilderContext.submitting, h]

variable {param : String}

theorem accepts_unlessRestricted {verdict : Except Raised Verdict} :
    accepts (ctx.unlessRestricted param verdict) = true ↔
      ctx.restrictedName? param = none ∧ accepts verdict = true := by
  rw [BuilderContext.unlessRestricted]
  cases ctx.restrictedName? param with
  | none => simp
  | some name => simp [accepts, Verdict.fail]

theorem accepts_check {condition : Bool} {param message : String} :
    accepts (.ok (.check condition param message)) = condition := by
  cases condition <;> rfl

namespace JobGroupParamBuilder

/-- The texts that are accepted as custom names: the count of the pattern is read as a text. -/
def IsAcceptedName (name : String) : Prop :=
  ∃ c after, isLowerAlphanum c = true ∧
    (strip name).toList = "custom-".toList ++ c :: ("\x7b1, 10\x7d".toList ++ after)

theorem accepts_iff (ctx : BuilderContext) (name : String) :
    accepts (validate (ctx.submitting "job_group" name)) = true ↔
      isEmptyString (some name) = true ∨
        ctx.restrictedName? "job_group" = none ∧ IsAcceptedName name := by
  rw [validate, get, getValueAsString_submitting, getAsString]
  cases hblank : isEmptyString (some name) with
  | true => simp [accepts, Verdict.pass]
  | false =>
    rw [if_neg Bool.false_ne_true]
    simp only [Bool.false_eq_true, false_or]
    rw [accepts_unlessRestricted, accepts_check, matchesName, matchesPattern_iff]
    exact Iff.rfl

end JobGroupParamBuilder

namespace ComputeStackParamBuilder

def names : List String := ["compute_node", "compute_stack"]

def IsPlaceholder (name : String) : Prop :=
  (stripChars (strip name).toList).map Char.toLower = "tbd".toList

/-- The texts that are accepted as names: the count of the pattern is read as a text, and the name
of the cluster is there without its hyphens. -/
def IsAcceptedName (clusterName name : String) : Prop :=
  ∃ c after, (isLowerAlphanum c || c = '-') = true ∧
    (strip name).toList =
      (SocaJob.sanitize clusterName).toList ++ '-' :: c :: ("\x7b5, 50\x7d".toList ++ after)

theorem get_submitting (hparam : param ∈ names) (name : String) :
    get (ctx.submitting param name) = getAsString name := by
  rw [names, List.mem_cons, List.mem_singleton] at hparam
  rcases hparam with rfl | rfl
  · rw [get, getValueAsString_submitting, getValueAsString_submitting_ne name (by decide),
      Option.or_none]
  · rw [get, getValueAsString_submitting, getValueAsString_submitting_ne name (by decide),
      Option.none_or]

theorem accepts_iff (ctx : BuilderContext) (hparam : param ∈ names) (name : String) :
    accepts (validate (ctx.submitting param name)) = true ↔
      isEmptyString (some name) = true ∨ ctx.restrictedName? "compute_stack" = none ∧
        (IsPlaceholder name ∨ IsAcceptedName ctx.soca.clusterName.text name) := by
  rw [validate, get_submitting hparam, getAsString]
  cases hblank : isEmptyString (some name) with
  | true => simp [accepts, Verdict.pass]
  | false =>
    rw [if_neg Bool.false_ne_true]
    simp only [Bool.false_eq_true, false_or]
    rw [accepts_unlessRestricted]
    apply and_congr_right
    intro _
    by_cases hplaceholder : (stripChars (strip name).toList).map Char.toLower = "tbd".toList
    · rw [if_pos hplaceholder]
      exact iff_of_true rfl (Or.inl hplaceholder)
    · rw [if_neg hplaceholder, accepts_check, matchesName, matchesPattern_iff]
      constructor
      · rintro ⟨c, after, hc, htext⟩
        refine Or.inr ⟨c, after, hc, htext.trans ?_⟩
        rw [List.append_assoc, List.singleton_append]
        rfl
      · rintro (h | ⟨c, after, hc, htext⟩)
        · exact absurd h hplaceholder
        · refine ⟨c, after, hc, htext.trans ?_⟩
          rw [List.append_assoc, List.singleton_append]
          rfl

end ComputeStackParamBuilder

namespace SocaJob

/-- The parts of a new name for a job's stack fit. -/
def NewNameFits (digest : String → String) (job : SocaJob) (capacityType : SocaCapacityType) :
    Prop :=
  if job.isPersistentCapacity then
    ∀ stackUuid, job.provisioningOptions.bind (·.stackUuid) = some stackUuid →
      PartsFit (job.clusterName.getD "None") ["keepforever", sanitize stackUuid]
  else ∀ identifier, job.stackIdentifier digest = .ok identifier →
    PartsFit (job.clusterName.getD "None")
      [job.queueType.getD "None", sanitize capacityType.str, identifier]

def givenStack (params : SocaJobParams) : Option String :=
  params.computeStack.filter fun name => !isEmptyString (some name) && name ≠ "tbd"

/-- The job carries a valid name for its stack, or the parts of a new name fit. -/
def FitsStackName (digest : String → String) (job : SocaJob) : Prop :=
  ∀ params capacityType, job.params = some params → job.capacityType = .ok capacityType →
    match givenStack params with
    | some computeStack => IsStackName computeStack
    | none => job.NewNameFits digest capacityType

variable {digest : String → String} {job : SocaJob} {capacityType : SocaCapacityType}

theorem newComputeStack_persistent (hcapacity : job.capacityType = .ok capacityType)
    (hpersistent : job.isPersistentCapacity = true) {name : String} :
    job.newComputeStack digest = .ok name ↔
      ∃ stackUuid, job.provisioningOptions.bind (·.stackUuid) = some stackUuid ∧
        name = joinParts (job.clusterName.getD "None") ["keepforever", sanitize stackUuid] := by
  rw [newComputeStack, hcapacity, Raised.ok_bind, if_pos hpersistent]
  cases job.provisioningOptions.bind SocaJobProvisioningOptions.stackUuid with
  | none => simp
  | some stackUuid =>
    have hname : job.clusterName.getD "None" ++ "-keepforever-" ++ sanitize stackUuid =
        joinParts (job.clusterName.getD "None") ["keepforever", sanitize stackUuid] := by
      have hparts : "-keepforever-" = "-" ++ "keepforever" ++ "-" := rfl
      simp only [joinParts, List.foldl_cons, List.foldl_nil, hparts, String.append_assoc]
    simp only [hname, Except.ok.injEq, Option.some.injEq, exists_eq_left']
    exact eq_comm

theorem newComputeStack_idle (hcapacity : job.capacityType = .ok capacityType)
    (hpersistent : job.isPersistentCapacity = false) {name : String} :
    job.newComputeStack digest = .ok name ↔
      ∃ identifier, job.stackIdentifier digest = .ok identifier ∧
        name = joinParts (job.clusterName.getD "None")
          [job.queueType.getD "None", sanitize capacityType.str, identifier] := by
  rw [newComputeStack, hcapacity, Raised.ok_bind, if_neg (by simp [hpersistent]), Raised.bind_eq_ok]
  constructor
  · rintro ⟨identifier, hidentifier, hname⟩
    exact ⟨identifier, hidentifier, (Except.ok.inj hname).symm⟩
  · rintro ⟨identifier, hidentifier, rfl⟩
    exact ⟨identifier, hidentifier, rfl⟩

theorem newComputeStack_isStackName_iff (hcapacity : job.capacityType = .ok capacityType) :
    (∀ name, job.newComputeStack digest = .ok name → IsStackName name) ↔
      job.NewNameFits digest capacityType := by
  unfold NewNameFits
  cases hpersistent : job.isPersistentCapacity with
  | true =>
    rw [if_pos rfl]
    constructor
    · intro h stackUuid hstackUuid
      have hname : job.newComputeStack digest = .ok _ :=
        (newComputeStack_persistent hcapacity hpersistent).mpr ⟨stackUuid, hstackUuid, rfl⟩
      exact isStackName_joinParts.mp (h _ hname)
    · intro h name hname
      obtain ⟨stackUuid, hstackUuid, rfl⟩ :=
        (newComputeStack_persistent hcapacity hpersistent).mp hname
      exact isStackName_joinParts.mpr (h stackUuid hstackUuid)
  | false =>
    rw [if_neg Bool.false_ne_true]
    constructor
    · intro h identifier hidentifier
      have hname := (newComputeStack_idle hcapacity hpersistent).mpr ⟨identifier, hidentifier, rfl⟩
      exact isStackName_joinParts.mp (h _ hname)
    · intro h name hname
      obtain ⟨identifier, hidentifier, rfl⟩ := (newComputeStack_idle hcapacity hpersistent).mp hname
      exact isStackName_joinParts.mpr (h identifier hidentifier)

theorem getComputeStack_eq {params : SocaJobParams} (hparams : job.params = some params) :
    job.getComputeStack digest = match givenStack params with
      | some computeStack => .ok computeStack
      | none => job.newComputeStack digest := by
  rw [getComputeStack, hparams, givenStack]
  dsimp only
  cases params.computeStack with
  | none => rfl
  | some computeStack =>
    dsimp only
    rw [Option.filter_some]
    by_cases hgiven : (!isEmptyString (some computeStack) && decide (computeStack ≠ "tbd")) = true
    · rw [if_pos hgiven, if_pos hgiven]
    · rw [if_neg hgiven, if_neg hgiven]

theorem getComputeStack_isStackName_iff (digest : String → String) (job : SocaJob) :
    (∀ name, job.getComputeStack digest = .ok name → IsStackName name) ↔
      job.FitsStackName digest := by
  cases hparams : job.params with
  | none => simp [FitsStackName, getComputeStack, hparams]
  | some params =>
    obtain ⟨capacityType, hcapacity⟩ : ∃ capacityType, job.capacityType = .ok capacityType := by
      rw [capacityType, hparams]
      exact ⟨_, rfl⟩
    have hfits : job.FitsStackName digest ↔ match givenStack params with
        | some computeStack => IsStackName computeStack
        | none => job.NewNameFits digest capacityType := by
      simp [FitsStackName, hparams, hcapacity]
    rw [hfits, getComputeStack_eq hparams]
    cases givenStack params with
    | none => exact newComputeStack_isStackName_iff hcapacity
    | some computeStack => simp

end SocaJob

theorem mem_of_mem_strip {c : Char} {name : String} (h : c ∈ (strip name).toList) :
    c ∈ name.toList := by
  rw [strip, String.toList_ofList] at h
  exact (stripChars_sublist _).subset h

theorem iff_iff_not_and_not {p q : Prop} (h : q → ¬ p) : (p ↔ q) ↔ ¬ p ∧ ¬ q := by
  constructor
  · intro hiff
    have hq : ¬ q := fun hq => h hq (hiff.mpr hq)
    exact ⟨fun hp => hq (hiff.mp hp), hq⟩
  · rintro ⟨hp, hq⟩
    exact iff_of_false hp hq

namespace JobGroupParamBuilder

/-- The grammar of the names of job groups. -/
def IsName (name : String) : Prop := IsMadeJobGroup name ∨ IsCustomName name

theorem IsName.continues {name : String} (h : IsName name) : ContinuesName name :=
  h.elim continuesName_of_isMadeJobGroup continuesName_of_isCustomName

theorem IsName.not_blank {name : String} (h : IsName name) : isEmptyString (some name) = false := by
  refine isEmptyString_of_continuesName h.continues ?_
  rcases h with ⟨digits, hname, -⟩ | ⟨cs, hname, -⟩
  · simp [hname]
  · simp [hname]

theorem IsName.not_accepted {name : String} (h : IsName name) : ¬ IsAcceptedName name := by
  rintro ⟨c, after, -, hname⟩
  refine brace_not_mem h.continues (mem_of_mem_strip ?_)
  simp [hname]

theorem accepts_iff_isName (ctx : BuilderContext) (name : String) :
    (accepts (validate (ctx.submitting "job_group" name)) = true ↔ IsName name) ↔
      isEmptyString (some name) = false ∧
        (ctx.restrictedName? "job_group" = none → ¬ IsAcceptedName name) ∧ ¬ IsName name := by
  rw [accepts_iff]
  refine (iff_iff_not_and_not ?_).trans ?_
  · rintro h (hblank | ⟨-, haccepted⟩)
    · rw [h.not_blank] at hblank
      cases hblank
    · exact h.not_accepted haccepted
  · simp [and_assoc]

end JobGroupParamBuilder

namespace ComputeStackParamBuilder

/-- The grammar of the names of stacks in a cluster. -/
def IsName (clusterName name : String) : Prop := IsMadeStackName clusterName name ∨ IsCustomName name

theorem hyphen_mem_of_isMadeStackName {clusterName name : String}
    (h : IsMadeStackName clusterName name) : '-' ∈ name.toList := by
  obtain ⟨-, digest, job, -, hname⟩ := h
  obtain ⟨capacityType, hcapacity, -⟩ := Raised.bind_eq_ok.mp hname
  cases hpersistent : job.isPersistentCapacity with
  | true =>
    obtain ⟨stackUuid, -, rfl⟩ := (SocaJob.newComputeStack_persistent hcapacity hpersistent).mp hname
    exact hyphen_mem_joinParts (by simp)
  | false =>
    obtain ⟨identifier, -, rfl⟩ := (SocaJob.newComputeStack_idle hcapacity hpersistent).mp hname
    exact hyphen_mem_joinParts (by simp)

variable {clusterName name : String}

theorem IsName.continues (h : IsName clusterName name) : ContinuesName name :=
  h.elim (fun h => h.1) continuesName_of_isCustomName

theorem IsName.hyphen_mem (h : IsName clusterName name) : '-' ∈ name.toList := by
  rcases h with h | ⟨cs, hname, -⟩
  · exact hyphen_mem_of_isMadeStackName h
  · simp [hname]

theorem IsName.not_blank (h : IsName clusterName name) : isEmptyString (some name) = false :=
  isEmptyString_of_mem h.hyphen_mem (by decide)

theorem IsName.not_placeholder (h : IsName clusterName name) : ¬ IsPlaceholder name := by
  intro hplaceholder
  rw [IsPlaceholder, strip_of_continuesName h.continues, stripChars_eq_self fun c hc =>
    isSpace_of_isNameChar (h.continues c hc)] at hplaceholder
  have hmem := List.mem_map_of_mem (f := Char.toLower) h.hyphen_mem
  rw [hplaceholder] at hmem
  exact absurd hmem (by decide)

theorem IsName.not_accepted (h : IsName clusterName name) : ¬ IsAcceptedName clusterName name := by
  rintro ⟨c, after, -, hname⟩
  refine brace_not_mem h.continues (mem_of_mem_strip ?_)
  simp [hname]

theorem accepts_iff_isName (ctx : BuilderContext) (hparam : param ∈ names) (name : String) :
    (accepts (validate (ctx.submitting param name)) = true ↔
        IsName ctx.soca.clusterName.text name) ↔
      isEmptyString (some name) = false ∧
        (ctx.restrictedName? "compute_stack" = none →
          ¬ IsPlaceholder name ∧ ¬ IsAcceptedName ctx.soca.clusterName.text name) ∧
        ¬ IsName ctx.soca.clusterName.text name := by
  rw [accepts_iff ctx hparam]
  refine (iff_iff_not_and_not ?_).trans ?_
  · rintro h (hblank | ⟨-, hplaceholder | haccepted⟩)
    · rw [h.not_blank] at hblank
      cases hblank
    · exact h.not_placeholder hplaceholder
    · exact h.not_accepted haccepted
  · simp [and_assoc]

end ComputeStackParamBuilder

/-- The validators of both parameters accept the grammar of the names exactly on texts outside of it
that are not taken for a name either, and a stack's name is valid exactly where its parts fit. -/
theorem names_agree_iff (ctx : BuilderContext) {param : String}
    (hparam : param ∈ ComputeStackParamBuilder.names) (name : String)
    (digest : String → String) (job : SocaJob) :
    ((accepts (JobGroupParamBuilder.validate (ctx.submitting "job_group" name)) = true ↔
        JobGroupParamBuilder.IsName name) ↔
      isEmptyString (some name) = false ∧
        (ctx.restrictedName? "job_group" = none → ¬ JobGroupParamBuilder.IsAcceptedName name) ∧
        ¬ JobGroupParamBuilder.IsName name) ∧
    ((accepts (ComputeStackParamBuilder.validate (ctx.submitting param name)) = true ↔
        ComputeStackParamBuilder.IsName ctx.soca.clusterName.text name) ↔
      isEmptyString (some name) = false ∧
        (ctx.restrictedName? "compute_stack" = none →
          ¬ ComputeStackParamBuilder.IsPlaceholder name ∧
            ¬ ComputeStackParamBuilder.IsAcceptedName ctx.soca.clusterName.text name) ∧
        ¬ ComputeStackParamBuilder.IsName ctx.soca.clusterName.text name) ∧
    ((∀ built, job.getComputeStack digest = .ok built → IsStackName built) ↔
      job.FitsStackName digest) :=
  ⟨JobGroupParamBuilder.accepts_iff_isName ctx name, ComputeStackParamBuilder.accepts_iff_isName ctx hparam name,
    SocaJob.getComputeStack_isStackName_iff digest job⟩

def plainContext : BuilderContext where
  params := { values := ∅, repr := fun _ => "" }
  queue := none
  soca := sampleSoca

theorem isCustomName_sample : IsCustomName "custom-a1" :=
  ⟨['a', '1'], by decide, by decide, by decide, by simp [isLowerAlphanum]⟩

theorem not_accepts_custom : JobGroupParamBuilder.IsName "custom-a1" ∧
    accepts (JobGroupParamBuilder.validate (plainContext.submitting "job_group" "custom-a1")) =
      false :=
  ⟨Or.inr isCustomName_sample, by decide +kernel⟩

theorem names_disagree_custom :
    ¬ (accepts (ComputeStackParamBuilder.validate
        (plainContext.submitting "compute_node" "custom-a1")) = true ↔
      ComputeStackParamBuilder.IsName "idea-test" "custom-a1") := by
  intro h
  have hagree := names_agree_iff plainContext (List.mem_cons_self : "compute_node" ∈ _) "custom-a1"
    (fun _ => "00000000") {}
  exact (hagree.2.1.mp h).2.2 (Or.inr isCustomName_sample)

end Idea

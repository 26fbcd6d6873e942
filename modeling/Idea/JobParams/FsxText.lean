import Idea.Data.Text
import Idea.JobParams.Storage
import Idea.Scheduler.NodeAttributes
import Mathlib.Data.List.Infix

/-! # The text form of a file system

A configuration of FSx for Lustre is submitted with another job as parameters. The bucket and the
paths share one text, and some of the other settings are left out of the parameters.
-/

namespace Idea

theorem prefix_stripChars {start cs : List Char} (h : start <+: cs)
    (hstart : ∀ c ∈ start, isSpace c = false) : start <+: stripChars cs := by
  have hkeep : ∀ ds : List Char, (∀ c ∈ ds, isSpace c = false) → ds.dropWhile isSpace = ds := by
    intro ds hds
    cases ds with
    | nil => rfl
    | cons c ds => simp [hds c List.mem_cons_self]
  obtain ⟨rest, rfl⟩ := h
  cases start with
  | nil => exact List.nil_prefix
  | cons c start =>
    have hdrop : (c :: start ++ rest).dropWhile isSpace = c :: start ++ rest := by
      rw [List.cons_append, List.dropWhile_cons, hstart c List.mem_cons_self]
      rfl
    rw [stripChars, hdrop, ← List.reverse_suffix, List.reverse_reverse, List.reverse_append,
      List.dropWhile_append, hkeep _ fun c hc => hstart c (List.mem_reverse.mp hc)]
    split
    · exact List.suffix_rfl
    · exact List.suffix_append _ _

namespace SocaFSxLustreConfig

/-- The text of a bucket with the paths after it. An import path is only there with an export
path. -/
def bucketText (self : SocaFSxLustreConfig) (bucket : String) : String :=
  match self.exportPath with
  | none => bucket
  | some exportPath =>
    match self.importPath with
    | none => bucket ++ "+" ++ exportPath
    | some importPath => bucket ++ "+" ++ exportPath ++ "+" ++ importPath

def throughputParam (self : SocaFSxLustreConfig) : Option ℤ :=
  if self.deploymentType = some Constants.FSX_LUSTRE_DEPLOYMENT_TYPE_PERSISTENT_1 then
    self.perUnitThroughput
  else none

def jobSubmitParams (self : SocaFSxLustreConfig) : Dict String ParamValue :=
  if self.enabled = some false then (∅ : Dict String ParamValue).set "fsx_lustre" (.text "False")
  else
    match self.existingFsx with
    | some existingFsx => (∅ : Dict String ParamValue).set "fsx_lustre" (.text existingFsx)
    | none =>
      let result := (∅ : Dict String ParamValue).setSome "fsx_lustre"
        (self.s3Backend.map fun bucket => .text (self.bucketText bucket))
      let result := result.setSome "fsx_lustre_deployment_type" (self.deploymentType.map .text)
      let result := result.setSome "fsx_lustre_per_unit_throughput" (self.throughputParam.map .int)
      let result := result.setSome "fsx_lustre_size"
        (self.size.map fun size => .int (SocaMemory.truncate size.value))
      if result.has "fsx_lustre" then result else result.set "fsx_lustre" (.text "True")

def tokens (self : SocaFSxLustreConfig) (bucket : String) : List String :=
  bucket :: match self.exportPath with
    | none => []
    | some exportPath => exportPath :: self.importPath.toList

theorem toList_bucketText (self : SocaFSxLustreConfig) (bucket : String) :
    (self.bucketText bucket).toList =
      ['+'].intercalate ((self.tokens bucket).map String.toList) := by
  unfold bucketText tokens
  cases self.exportPath with
  | none => simp
  | some exportPath =>
    cases self.importPath with
    | none => simp [List.intercalate]
    | some importPath => simp [List.intercalate]

structure BucketReadsBack (config : SocaFSxLustreConfig) (bucket : String) : Prop where
  prefixed : FsxLustreParamBuilder.hasPrefix "s3://" bucket = true
  noPlus : ∀ token ∈ config.tokens bucket, '+' ∉ token.toList
  paths : config.importPath.isSome → config.exportPath.isSome
  trimmed : strip (config.bucketText bucket) = config.bucketText bucket

theorem splitPlus_eq_tokens {self : SocaFSxLustreConfig} {bucket : String}
    (h : ∀ token ∈ self.tokens bucket, '+' ∉ token.toList) :
    splitPlus (self.bucketText bucket) = self.tokens bucket := by
  rw [splitPlus, toList_bucketText, List.splitOn_intercalate]
  · simp
  · simpa using h
  · simp [tokens]

theorem prefix_bucketText (self : SocaFSxLustreConfig) (bucket : String) :
    bucket.toList <+: (self.bucketText bucket).toList := by
  unfold bucketText
  cases self.exportPath with
  | none => exact List.prefix_rfl
  | some exportPath =>
    cases self.importPath with
    | none => simp
    | some importPath => simp

end SocaFSxLustreConfig

variable {text : String} {config : SocaFSxLustreConfig}

namespace FsxLustreParamBuilder

theorem hasPrefix_iff {text given : String} :
    hasPrefix text given = true ↔ text.toList <+: given.toList := List.isPrefixOf_iff_prefix

theorem read_of_mark {mark text : String} (hmark : mark ∈ ["s3://", "fs-", "fc-"])
    (h : hasPrefix mark text = true) (htrimmed : strip text = text) :
    getAsString text = some text ∧ textAsBool text = none := by
  have hstripped : stripChars text.toList = text.toList := by
    rw [strip] at htrimmed
    rw [← String.toList_ofList (l := stripChars text.toList), htrimmed]
  obtain ⟨rest, hrest⟩ := hasPrefix_iff.mp h
  simp only [List.mem_cons, List.not_mem_nil, or_false] at hmark
  have hmem : ∃ c ∈ text.toList, isSpace c = false := by
    rw [← hrest]
    rcases hmark with rfl | rfl | rfl
    · exact ⟨'s', by simp, by decide⟩
    · exact ⟨'f', by simp, by decide⟩
    · exact ⟨'f', by simp, by decide⟩
  obtain ⟨c, hc, hspace⟩ := hmem
  constructor
  · rw [(getAsString_of_mem hc hspace).1, htrimmed]
  · simp only [textAsBool, hstripped]
    rw [← hrest]
    rcases hmark with rfl | rfl | rfl
    · simp
    · simp
    · simp

theorem not_id_of_hasPrefix (h : hasPrefix "s3://" text = true) :
    (hasPrefix "fs-" text || hasPrefix "fc-" text) = false := by
  obtain ⟨rest, hrest⟩ := hasPrefix_iff.mp h
  rw [hasPrefix, hasPrefix, ← hrest]
  rfl

theorem not_mem_splitPlus {text token : String} (h : token ∈ splitPlus text) :
    '+' ∉ token.toList := by
  obtain ⟨piece, hpiece, rfl⟩ := List.mem_map.mp h
  rw [String.toList_ofList]
  exact Text.not_mem_of_mem_splitOn hpiece

theorem map_toList_splitPlus (text : String) :
    (splitPlus text).map String.toList = text.toList.splitOn '+' := by
  simp [splitPlus]

theorem hasPrefix_head {text first : String} {rest : List String}
    (hsplit : splitPlus text = first :: rest) (h : hasPrefix "s3://" text = true) :
    hasPrefix "s3://" first = true := by
  obtain ⟨after, hafter⟩ := hasPrefix_iff.mp h
  obtain ⟨piece, pieces, hpieces⟩ :=
    List.exists_cons_of_ne_nil (List.splitOn_ne_nil '+' after)
  have hlists := map_toList_splitPlus text
  rw [hsplit, ← hafter, Text.splitOn_append_of_not_mem (by decide), hpieces, List.modifyHead_cons,
    List.map_cons, List.cons.injEq] at hlists
  rw [hasPrefix_iff, hlists.1]
  exact List.prefix_append _ _

theorem withMark_cases (bucket : String) :
    withMark bucket = bucket ∧ hasPrefix "s3://" bucket = true ∨
      withMark bucket = "s3://" ++ bucket ∧ hasPrefix "s3://" bucket = false := by
  unfold withMark
  by_cases h : hasPrefix "s3://" bucket = true
  · rw [if_pos h]
    exact Or.inl ⟨rfl, h⟩
  · rw [if_neg h]
    exact Or.inr ⟨rfl, by simpa using h⟩

theorem bucketReadsBack_of_tokens {bucket text : String}
    (htext : getAsString (config.bucketText bucket) = some text)
    (hbucket : withMark ((splitPlus text).headD "") = bucket)
    (hexport : (splitPlus text)[1]? = config.exportPath)
    (himport : (splitPlus text)[2]? = config.importPath) : config.BucketReadsBack bucket := by
  have hstrip : text = strip (config.bucketText bucket) := by
    unfold getAsString at htext
    split at htext
    · cases htext
    · exact (Option.some.inj htext).symm
  have hplus : ∀ token ∈ splitPlus text, '+' ∉ token.toList := fun _ => not_mem_splitPlus
  obtain ⟨first, rest, hsplit⟩ := List.exists_cons_of_ne_nil (splitPlus_ne_nil text)
  rw [hsplit] at hbucket hexport himport hplus
  rw [List.forall_mem_cons] at hplus
  simp only [List.headD_cons, List.getElem?_cons_succ] at hbucket hexport himport
  have hcases := withMark_cases first
  rw [hbucket] at hcases
  have hprefixed : hasPrefix "s3://" bucket = true := by
    rcases hcases with ⟨rfl, h⟩ | ⟨rfl, -⟩
    · exact h
    · rw [hasPrefix_iff, String.toList_append]
      exact List.prefix_append _ _
  have hnoPlus : ∀ token ∈ config.tokens bucket, '+' ∉ token.toList := by
    intro token htoken
    unfold SocaFSxLustreConfig.tokens at htoken
    rw [← hexport, ← himport, List.mem_cons] at htoken
    rcases htoken with rfl | htoken
    · rcases hcases with ⟨rfl, -⟩ | ⟨rfl, -⟩
      · exact hplus.1
      · rw [String.toList_append, List.mem_append, not_or]
        exact ⟨by decide, hplus.1⟩
    · refine hplus.2 token ?_
      match rest with
      | [] => simp at htoken
      | [_] => simpa using htoken
      | _ :: _ :: _ => simp at htoken ⊢; tauto
  have hpaths : config.importPath.isSome → config.exportPath.isSome := by
    rw [← hexport, ← himport]
    cases rest <;> simp
  refine ⟨hprefixed, hnoPlus, hpaths, ?_⟩
  -- The text has no more tokens than were written, so that it is what was written.
  have hsplitText := SocaFSxLustreConfig.splitPlus_eq_tokens hnoPlus
  have hlength : (first :: rest).length ≤ (config.tokens bucket).length := by
    rw [← hsplit, ← hsplitText, splitPlus, splitPlus, List.length_map, List.length_map,
      Text.length_splitOn, Text.length_splitOn, hstrip, strip, String.toList_ofList]
    exact Nat.succ_le_succ ((stripChars_sublist _).count_le _)
  have hmark := (hasPrefix_iff.mp hprefixed).trans (config.prefix_bucketText bucket)
  have hstripped := prefix_stripChars hmark (by simp [isSpace])
  have hprefixText : hasPrefix "s3://" text = true := by
    rw [hasPrefix_iff, hstrip, strip]
    simpa using hstripped
  have hfirst : first = bucket := by
    rcases hcases with ⟨h, -⟩ | ⟨-, h⟩
    · exact h.symm
    · rw [hasPrefix_head hsplit hprefixText] at h
      contradiction
  have htokens : config.tokens bucket = first :: rest := by
    unfold SocaFSxLustreConfig.tokens at hlength ⊢
    rw [← hexport, ← himport] at hlength ⊢
    rcases rest with _ | ⟨_, _ | ⟨_, _ | ⟨_, _⟩⟩⟩
    · simp [hfirst]
    · simp [hfirst]
    · simp [hfirst]
    · simp only [List.length_cons, List.getElem?_cons_zero, List.getElem?_cons_succ,
        Option.toList_some, List.length_nil] at hlength
      omega
  have hsame : text = config.bucketText bucket := by
    rw [← String.toList_inj, config.toList_bucketText, htokens, ← hsplit, map_toList_splitPlus,
      List.intercalate_splitOn]
  rw [← hstrip, ← hsame]

theorem ofText_bucketText_iff {config requested : SocaFSxLustreConfig} {bucket : String}
    (hrequested : requested.existingFsx = none) :
    (∃ text, getAsString (config.bucketText bucket) = some text ∧
      (ofText text requested).existingFsx = none ∧
      (ofText text requested).s3Backend = some bucket ∧
      (ofText text requested).exportPath = config.exportPath ∧
      (ofText text requested).importPath = config.importPath) ↔ config.BucketReadsBack bucket := by
  constructor
  · rintro ⟨text, htext, hexisting, hbucket, hexport, himport⟩
    unfold ofText at hexisting hbucket hexport himport
    split at hexisting
    · cases hexisting
    next hid =>
      rw [if_neg hid] at hbucket hexport himport
      exact bucketReadsBack_of_tokens htext (Option.some.inj hbucket) hexport himport
  · rintro ⟨hprefixed, hnoPlus, hpaths, htrimmed⟩
    have hprefix : hasPrefix "s3://" (config.bucketText bucket) = true :=
      hasPrefix_iff.mpr ((hasPrefix_iff.mp hprefixed).trans (config.prefix_bucketText bucket))
    obtain ⟨hread, -⟩ := read_of_mark (by simp) hprefix htrimmed
    refine ⟨_, hread, ?_⟩
    rw [ofText, not_id_of_hasPrefix hprefix, if_neg (by simp),
      SocaFSxLustreConfig.splitPlus_eq_tokens hnoPlus]
    unfold SocaFSxLustreConfig.tokens
    cases hexport : config.exportPath with
    | none =>
      have himport : config.importPath = none := by
        simpa [hexport] using hpaths
      simp [hrequested, withMark, hprefixed, himport]
    | some exportPath =>
      cases himport : config.importPath with
      | none => simp [hrequested, withMark, hprefixed]
      | some importPath => simp [hrequested, withMark, hprefixed]

end FsxLustreParamBuilder

namespace SubmittedParams

variable {params : SubmittedParams} {key : String}

theorem getAnyValue_of_none (h : params.values.get? key = none) :
    params.getAnyValue key = none := by
  rw [getAnyValue, h]
  rfl

theorem getValueAsString_text (h : params.values.get? key = some (.text text)) :
    params.getValueAsString key = getAsString text := by
  rw [getValueAsString, getAnyValue, h, Option.filter_some]
  cases hempty : isEmptyString (some text) with
  | true => simp [ParamValue.isPresent, getAsString, hempty]
  | false => simp [ParamValue.isPresent, ParamValue.asString, hempty]

theorem textAsBool_of_blank (h : isEmptyString (some text) = true) : textAsBool text = none := by
  have hnil : stripChars text.toList = [] := by simpa [isEmptyString] using h
  simp only [textAsBool, hnil]
  decide

theorem getValueAsBool_text (h : params.values.get? key = some (.text text)) :
    params.getValueAsBool key = textAsBool text := by
  rw [getValueAsBool, getAnyValue, h, Option.filter_some]
  cases hempty : isEmptyString (some text) with
  | true => simp [ParamValue.isPresent, hempty, textAsBool_of_blank hempty]
  | false => simp [ParamValue.isPresent, ParamValue.asBool, hempty]

theorem getAnyValue_int {n : ℤ} (h : params.values.get? key = some (.int n)) :
    params.getAnyValue key = some (.int n) := by
  rw [getAnyValue, h]
  rfl

end SubmittedParams

namespace SocaFSxLustreConfig

def submittedText (self : SocaFSxLustreConfig) : String :=
  (self.s3Backend.map self.bucketText).getD "True"

theorem get?_jobSubmitParams {self : SocaFSxLustreConfig} (henabled : self.enabled ≠ some false)
    (hexisting : self.existingFsx = none) :
    self.jobSubmitParams.get? "fsx_lustre" = some (.text self.submittedText) ∧
      self.jobSubmitParams.get? "fsx_lustre_deployment_type" = self.deploymentType.map .text ∧
      self.jobSubmitParams.get? "fsx_lustre_per_unit_throughput" =
        self.throughputParam.map .int ∧
      self.jobSubmitParams.get? "fsx_lustre_size" =
        self.size.map fun size => .int (SocaMemory.truncate size.value) := by
  unfold jobSubmitParams submittedText
  rw [if_neg henabled, hexisting]
  cases self.s3Backend with
  | none =>
    have hhas : ∀ result : Dict String ParamValue, result.get? "fsx_lustre" = none →
        result.has "fsx_lustre" = false := by
      intro result hresult
      rw [Bool.eq_false_iff, Ne, Dict.has_iff, ← Dict.get?_isSome, hresult]
      simp
    dsimp only
    rw [hhas _ (by simp [Dict.get?_setSome])]
    simp [Dict.get?_set, Dict.get?_setSome]
  | some bucket =>
    have hhas : ∀ result : Dict String ParamValue, (result.get? "fsx_lustre").isSome →
        result.has "fsx_lustre" = true := by
      intro result hresult
      rw [Dict.has_iff]
      exact Dict.get?_isSome.mp hresult
    dsimp only
    rw [hhas _ (by simp [Dict.get?_setSome])]
    simp [Dict.get?_setSome]

def ofGigabytes : Option ℤ → Except Raised (Option SocaMemory)
  | none => .ok none
  | some gigabytes => do
    let value ← FloatValue.ofInt gigabytes
    .ok (some ⟨value, .gb⟩)

def resubmittedSize (self : SocaFSxLustreConfig) : Except Raised (Option SocaMemory) :=
  ofGigabytes (self.size.map fun size => SocaMemory.truncate size.value)

end SocaFSxLustreConfig

def BuilderContext.resubmit (ctx : BuilderContext) (config : SocaFSxLustreConfig) :
    BuilderContext :=
  { ctx with params := { values := config.jobSubmitParams, repr := ctx.params.repr } }

namespace FsxLustreParamBuilder

variable {ctx : BuilderContext}

def built (ctx : BuilderContext) : Except Raised SocaFSxLustreConfig := do
  let config ← get ctx
  .ok (configure ctx config).1

theorem get_of_values {text : String} {deploymentType : Option String}
    {perUnitThroughput size : Option ℤ} (hnone : ctx.params.fsxLustre = none)
    (hfsx : ctx.params.values.get? "fsx_lustre" = some (.text text))
    (htype : ctx.params.values.get? "fsx_lustre_deployment_type" = deploymentType.map .text)
    (hthroughput : ctx.params.values.get? "fsx_lustre_per_unit_throughput" =
      perUnitThroughput.map .int)
    (hsize : ctx.params.values.get? "fsx_lustre_size" = size.map .int) :
    get ctx = (do
      let size ← SocaFSxLustreConfig.ofGigabytes size
      let requested : SocaFSxLustreConfig :=
        { enabled := some true, size, perUnitThroughput
          deploymentType := (deploymentType.bind getAsString).map lower }
      match textAsBool text, getAsString text with
      | some false, _ => .ok (some { enabled := some false })
      | some true, _ => .ok (some requested)
      | none, none => .ok none
      | none, some text => .ok (some (ofText text requested))) := by
  have hrequested : requestedSize ctx = SocaFSxLustreConfig.ofGigabytes size := by
    unfold requestedSize SocaFSxLustreConfig.ofGigabytes
    cases size with
    | none => rw [SubmittedParams.getAnyValue_of_none (by simp [hsize])]
    | some n =>
      rw [SubmittedParams.getAnyValue_int hsize]
      simp [ParamValue.asInt, Raised.required]
  have hint : ctx.params.getValueAsInt "fsx_lustre_per_unit_throughput" =
      .ok perUnitThroughput := by
    unfold SubmittedParams.getValueAsInt
    cases perUnitThroughput with
    | none => rw [SubmittedParams.getAnyValue_of_none (by simp [hthroughput])]
    | some n =>
      rw [SubmittedParams.getAnyValue_int hthroughput]
      rfl
  have hstring : ctx.params.getValueAsString "fsx_lustre_deployment_type" =
      deploymentType.bind getAsString := by
    cases deploymentType with
    | none =>
      rw [SubmittedParams.getValueAsString, SubmittedParams.getAnyValue_of_none (by simp [htype])]
      rfl
    | some text => exact SubmittedParams.getValueAsString_text htype
  unfold get
  rw [hnone, hrequested, hint, hstring, SubmittedParams.getValueAsBool_text hfsx,
    SubmittedParams.getValueAsString_text hfsx]
  rfl

/-- The settings other than the file system itself are read back. -/
structure SettingsReadBack (ctx : BuilderContext) (config : SocaFSxLustreConfig) : Prop where
  deploymentType : ∀ text, config.deploymentType = some text →
    (getAsString text).map lower = some text ∨
      getAsString text = none ∧ (default ctx config.s3Backend).deploymentType = some text
  perUnitThroughput :
    config.deploymentType = some Constants.FSX_LUSTRE_DEPLOYMENT_TYPE_PERSISTENT_1 ∨
      config.perUnitThroughput = (default ctx config.s3Backend).perUnitThroughput
  size : ∀ size, config.size = some size → size.unit = .gb ∧
    FloatValue.ofInt (SocaMemory.truncate size.value) = .ok size.value

/-- The bucket of a new file system and its paths are read back: from their text, or as the bucket
of the queue where the text is a flag. -/
def BackendReadsBack (ctx : BuilderContext) (config : SocaFSxLustreConfig) : Prop :=
  match config.s3Backend with
  | none => config.exportPath = none ∧ config.importPath = none
  | some bucket => config.BucketReadsBack bucket ∨
      textAsBool bucket = some true ∧ config.exportPath = none ∧ config.importPath = none ∧
        (default ctx none).s3Backend = some bucket

/-- A configuration that is built again from its parameters: no file system, an existing one by its
id, or a new one whose backend and settings are read back. -/
def SurvivesText (ctx : BuilderContext) (config : SocaFSxLustreConfig) : Prop :=
  config.enabled = some false ∨
    (∃ id, config = { enabled := some true, existingFsx := some id } ∧ strip id = id ∧
      (hasPrefix "fs-" id || hasPrefix "fc-" id) = true) ∨
    config.enabled = some true ∧ config.existingFsx = none ∧ BackendReadsBack ctx config ∧
      SettingsReadBack ctx config

theorem default_settings (ctx : BuilderContext) (s3Backend s3Backend' : Option String) :
    (default ctx s3Backend).deploymentType = (default ctx s3Backend').deploymentType ∧
      (default ctx s3Backend).perUnitThroughput = (default ctx s3Backend').perUnitThroughput ∧
      (default ctx s3Backend).size = (default ctx s3Backend').size := by
  unfold default
  dsimp only
  split
  · exact ⟨rfl, rfl, rfl⟩
  · exact ⟨rfl, rfl, rfl⟩

theorem default_paths (ctx : BuilderContext) (s3Backend : Option String) :
    (default ctx s3Backend).exportPath = none ∧ (default ctx s3Backend).importPath = none := by
  unfold default
  dsimp only
  split
  · exact ⟨rfl, rfl⟩
  · exact ⟨rfl, rfl⟩

theorem default_s3Backend (ctx : BuilderContext) :
    (∀ s3Backend, (default ctx s3Backend).s3Backend = none) ∨
      ∃ bucket, ∀ s3Backend, (default ctx s3Backend).s3Backend = s3Backend.or bucket := by
  cases hexisting : ((ctx.queueDefault (·.fsxLustre)).getD {}).existingFsx with
  | none =>
    refine Or.inr ⟨((ctx.queueDefault (·.fsxLustre)).getD {}).s3Backend, fun s3Backend => ?_⟩
    simp [default, hexisting]
  | some _ =>
    refine Or.inl fun s3Backend => ?_
    simp [default, hexisting]

theorem configure_new (henabled : config.enabled = some true)
    (hexisting : config.existingFsx = none) :
    (configure ctx (some config)).1 = withDefaults config (default ctx config.s3Backend) := by
  simp [configure, henabled, hexisting]

theorem withDefaults_default (config : SocaFSxLustreConfig) :
    withDefaults (withDefaults config (default ctx config.s3Backend))
      (default ctx (withDefaults config (default ctx config.s3Backend)).s3Backend) =
      withDefaults config (default ctx config.s3Backend) := by
  obtain ⟨htype, hthroughput, hsize⟩ := default_settings ctx config.s3Backend
    (withDefaults config (default ctx config.s3Backend)).s3Backend
  obtain ⟨hexport, himport⟩ := default_paths ctx config.s3Backend
  obtain ⟨hexport', himport'⟩ := default_paths ctx
    (withDefaults config (default ctx config.s3Backend)).s3Backend
  have hbackend : (withDefaults config (default ctx config.s3Backend)).s3Backend.or
      (default ctx (withDefaults config (default ctx config.s3Backend)).s3Backend).s3Backend =
      config.s3Backend.or (default ctx config.s3Backend).s3Backend := by
    rcases default_s3Backend ctx with h | ⟨bucket, h⟩
    · simp [withDefaults, h]
    · rw [h]
      simp only [withDefaults, h]
      cases config.s3Backend <;> cases bucket <;> rfl
  generalize default ctx (withDefaults config (default ctx config.s3Backend)).s3Backend = again at *
  generalize default ctx config.s3Backend = defaults at *
  simp only [withDefaults] at hbackend ⊢
  simp [hbackend, ← htype, ← hthroughput, ← hsize, hexport, himport, hexport', himport',
    Option.or_assoc]

/-- What is built: no file system, an existing one, one that is neither enabled nor disabled, or a
new one that its defaults add nothing to. -/
theorem built_cases (h : built ctx = .ok config) :
    config = { enabled := some false } ∨
      config.enabled ≠ some false ∧ config.existingFsx.isSome ∨
      config.enabled = none ∧ config.existingFsx = none ∨
      config.enabled = some true ∧ config.existingFsx = none ∧
        withDefaults config (default ctx config.s3Backend) = config := by
  obtain ⟨given, -, hbuilt⟩ := Raised.bind_eq_ok.mp h
  obtain rfl := Except.ok.inj hbuilt
  cases given with
  | none => exact Or.inl rfl
  | some given =>
    by_cases hdisabled : given.enabled = some false
    · simp [configure, hdisabled]
    cases hexisting : given.existingFsx with
    | some id =>
      have hsame : (configure ctx (some given)).1 = given := by
        simp [configure, hdisabled, hexisting]
      rw [hsame, hexisting]
      exact Or.inr (Or.inl ⟨hdisabled, rfl⟩)
    | none =>
      cases henabled : given.enabled with
      | none =>
        have hsame : (configure ctx (some given)).1 = given := by
          simp [configure, henabled, hexisting]
        rw [hsame]
        exact Or.inr (Or.inr (Or.inl ⟨henabled, hexisting⟩))
      | some enabled =>
        obtain rfl : enabled = true := by
          rw [henabled] at hdisabled
          simpa using hdisabled
        rw [configure_new henabled hexisting]
        refine Or.inr (Or.inr (Or.inr ⟨henabled, hexisting, ?_⟩))
        exact withDefaults_default given

theorem withDefaults_eq_iff {requested defaults config : SocaFSxLustreConfig}
    (henabled : requested.enabled = some true) (hexisting : requested.existingFsx = none)
    (hexport : defaults.exportPath = none) (himport : defaults.importPath = none)
    (hconfig : config.enabled = some true) (hconfig' : config.existingFsx = none) :
    withDefaults requested defaults = config ↔
      (requested.s3Backend.or defaults.s3Backend = config.s3Backend ∧
        requested.exportPath = config.exportPath ∧ requested.importPath = config.importPath) ∧
      requested.deploymentType.or defaults.deploymentType = config.deploymentType ∧
      requested.perUnitThroughput.or defaults.perUnitThroughput = config.perUnitThroughput ∧
      requested.size.or defaults.size = config.size := by
  cases config
  simp only at hconfig hconfig'
  subst hconfig hconfig'
  simp only [withDefaults, henabled, hexisting, hexport, himport, Option.or_none,
    SocaFSxLustreConfig.mk.injEq, true_and]
  tauto

theorem settings_iff (hfilled : withDefaults config (default ctx config.s3Backend) = config) :
    (∃ size, config.resubmittedSize = .ok size ∧
      ((config.deploymentType.bind getAsString).map lower).or
        (default ctx config.s3Backend).deploymentType = config.deploymentType ∧
      config.throughputParam.or (default ctx config.s3Backend).perUnitThroughput =
        config.perUnitThroughput ∧
      size.or (default ctx config.s3Backend).size = config.size) ↔ SettingsReadBack ctx config := by
  have htype : config.deploymentType.or (default ctx config.s3Backend).deploymentType =
      config.deploymentType := congrArg (·.deploymentType) hfilled
  have hthroughput : config.perUnitThroughput.or (default ctx config.s3Backend).perUnitThroughput =
      config.perUnitThroughput := congrArg (·.perUnitThroughput) hfilled
  have hsize : config.size.or (default ctx config.s3Backend).size = config.size :=
    congrArg (·.size) hfilled
  have htypes : ((config.deploymentType.bind getAsString).map lower).or
      (default ctx config.s3Backend).deploymentType = config.deploymentType ↔
      ∀ text, config.deploymentType = some text → (getAsString text).map lower = some text ∨
        getAsString text = none ∧ (default ctx config.s3Backend).deploymentType = some text := by
    cases hcase : config.deploymentType with
    | none =>
      rw [hcase, Option.none_or] at htype
      simp [htype]
    | some text =>
      cases hread : getAsString text <;> simp [hread]
  have hthroughputs : config.throughputParam.or
      (default ctx config.s3Backend).perUnitThroughput = config.perUnitThroughput ↔
      config.deploymentType = some Constants.FSX_LUSTRE_DEPLOYMENT_TYPE_PERSISTENT_1 ∨
        config.perUnitThroughput = (default ctx config.s3Backend).perUnitThroughput := by
    unfold SocaFSxLustreConfig.throughputParam
    by_cases hpersistent :
        config.deploymentType = some Constants.FSX_LUSTRE_DEPLOYMENT_TYPE_PERSISTENT_1
    · simp [hpersistent, hthroughput]
    · simp [hpersistent, eq_comm]
  have hsizes : (∃ size, config.resubmittedSize = .ok size ∧
      size.or (default ctx config.s3Backend).size = config.size) ↔
      ∀ size, config.size = some size → size.unit = .gb ∧
        FloatValue.ofInt (SocaMemory.truncate size.value) = .ok size.value := by
    unfold SocaFSxLustreConfig.resubmittedSize SocaFSxLustreConfig.ofGigabytes
    cases hcase : config.size with
    | none =>
      rw [hcase, Option.none_or] at hsize
      simp [hsize]
    | some size =>
      cases hvalue : FloatValue.ofInt (SocaMemory.truncate size.value) with
      | error e => simp [bind, Except.bind, hvalue]
      | ok value =>
        obtain ⟨value', unit⟩ := size
        simp only [Option.map_some, hvalue, Raised.ok_bind, Except.ok.injEq, exists_eq_left',
          Option.some_or, Option.some.injEq, SocaMemory.mk.injEq, forall_eq']
        constructor
        · rintro ⟨rfl, rfl⟩
          exact ⟨rfl, rfl⟩
        · rintro ⟨rfl, rfl⟩
          exact ⟨rfl, rfl⟩
  constructor
  · rintro ⟨size, hresubmitted, h₁, h₂, h₃⟩
    exact ⟨htypes.mp h₁, hthroughputs.mp h₂, hsizes.mp ⟨size, hresubmitted, h₃⟩⟩
  · rintro ⟨h₁, h₂, h₃⟩
    obtain ⟨size, hresubmitted, h₃⟩ := hsizes.mpr h₃
    exact ⟨size, hresubmitted, htypes.mpr h₁, hthroughputs.mpr h₂, h₃⟩

theorem built_resubmit_iff (henabled : config.enabled = some true)
    (hexisting : config.existingFsx = none) :
    built (ctx.resubmit config) = .ok config ↔ ∃ size, config.resubmittedSize = .ok size ∧
      let requested : SocaFSxLustreConfig :=
        { enabled := some true, size, perUnitThroughput := config.throughputParam
          deploymentType := (config.deploymentType.bind getAsString).map lower }
      match textAsBool config.submittedText, getAsString config.submittedText with
      | some true, _ => withDefaults requested (default ctx none) = config
      | none, some text => (ofText text requested).existingFsx = none ∧
          withDefaults (ofText text requested)
            (default ctx (ofText text requested).s3Backend) = config
      | _, _ => False := by
  have hdefault : ∀ s3Backend, default (ctx.resubmit config) s3Backend = default ctx s3Backend :=
    fun _ => rfl
  obtain ⟨hfsx, htype, hthroughput, hsize⟩ :=
    SocaFSxLustreConfig.get?_jobSubmitParams (by simp [henabled]) hexisting
  rw [← Function.comp_def, ← Option.map_map] at hsize
  rw [built, get_of_values rfl hfsx htype hthroughput hsize, ← SocaFSxLustreConfig.resubmittedSize]
  cases config.resubmittedSize with
  | error e => simp [bind, Except.bind]
  | ok size =>
    simp only [Raised.ok_bind, Except.ok.injEq, exists_eq_left']
    have hdisabled : ({ enabled := some false } : SocaFSxLustreConfig) ≠ config := by
      rintro rfl
      simp at henabled
    match htext : textAsBool config.submittedText, hread : getAsString config.submittedText with
    | some false, _ => simpa [configure] using hdisabled
    | some true, _ =>
      simp only [Raised.ok_bind, Except.ok.injEq]
      rw [configure_new rfl rfl]
      rfl
    | none, none => simpa [configure] using hdisabled
    | none, some text =>
      simp only [Raised.ok_bind, Except.ok.injEq]
      unfold ofText
      split
      · refine iff_of_false ?_ (fun h => by cases h.1)
        intro hsame
        rw [← hsame] at hexisting
        cases hexisting
      · rw [configure_new rfl rfl]
        simp [hdefault]

theorem enabled_ne_none (hnone : ctx.params.fsxLustre = none) (h : built ctx = .ok config) :
    config.enabled ≠ none := by
  obtain ⟨given, hgiven, hbuilt⟩ := Raised.bind_eq_ok.mp h
  have hsome : ∀ submitted, given = some submitted → submitted.enabled ≠ none := by
    unfold get at hgiven
    rw [hnone] at hgiven
    obtain ⟨size, -, hgiven⟩ := Raised.bind_eq_ok.mp hgiven
    obtain ⟨throughput, -, hgiven⟩ := Raised.bind_eq_ok.mp hgiven
    dsimp only at hgiven
    split at hgiven
    all_goals obtain rfl := Except.ok.inj hgiven
    · rintro _ ⟨⟩
      simp
    · rintro _ ⟨⟩
      simp
    · rintro _ ⟨⟩
    · rintro _ ⟨⟩
      unfold ofText
      split
      · simp
      · simp
  obtain rfl := Except.ok.inj hbuilt
  cases given with
  | none => simp [configure]
  | some submitted =>
    have henabled := hsome submitted rfl
    unfold configure
    dsimp only
    split
    · simp
    split
    · exact henabled
    split
    · exact henabled
    · exact henabled

/-- A configuration with an existing file system is built again if its only other setting is that it
is enabled, and its id is one. -/
theorem existing_iff {id : String} (henabled : config.enabled ≠ some false)
    (hexisting : config.existingFsx = some id) :
    built (ctx.resubmit config) = .ok config ↔
      config = { enabled := some true, existingFsx := some id } ∧ strip id = id ∧
        (hasPrefix "fs-" id || hasPrefix "fc-" id) = true := by
  have hvalues : (ctx.resubmit config).params.values =
      (∅ : Dict String ParamValue).set "fsx_lustre" (.text id) := by
    show config.jobSubmitParams = _
    rw [SocaFSxLustreConfig.jobSubmitParams, if_neg henabled, hexisting]
  have hget := @get_of_values (ctx.resubmit config) id none none none rfl
    (by simp [hvalues, Dict.get?_set]) (by simp [hvalues]) (by simp [hvalues]) (by simp [hvalues])
  have hid : strip id = id → (hasPrefix "fs-" id || hasPrefix "fc-" id) = true →
      getAsString id = some id ∧ textAsBool id = none := by
    intro htrimmed hprefix
    rcases Bool.or_eq_true_iff.mp hprefix with h | h
    · exact read_of_mark (by simp) h htrimmed
    · exact read_of_mark (by simp) h htrimmed
  have hdisabled : ({ enabled := some false } : SocaFSxLustreConfig) ≠ config := by
    rintro rfl
    cases hexisting
  have hnew : ∀ requested defaults : SocaFSxLustreConfig, requested.existingFsx = none →
      withDefaults requested defaults ≠ config := by
    rintro requested defaults hrequested rfl
    rw [withDefaults, hrequested] at hexisting
    cases hexisting
  rw [built, hget]
  simp only [SocaFSxLustreConfig.ofGigabytes, Raised.ok_bind]
  match htext : textAsBool id, hread : getAsString id with
  | some false, _ =>
    refine iff_of_false (by simpa [configure] using hdisabled) ?_
    rintro ⟨-, htrimmed, hprefix⟩
    rw [(hid htrimmed hprefix).2] at htext
    cases htext
  | some true, _ =>
    refine iff_of_false ?_ ?_
    · simp only [Raised.ok_bind, Except.ok.injEq]
      rw [configure_new rfl rfl]
      exact hnew _ _ rfl
    · rintro ⟨-, htrimmed, hprefix⟩
      rw [(hid htrimmed hprefix).2] at htext
      cases htext
  | none, none =>
    refine iff_of_false (by simpa [configure] using hdisabled) ?_
    rintro ⟨-, htrimmed, hprefix⟩
    rw [(hid htrimmed hprefix).1] at hread
    cases hread
  | none, some text =>
    simp only [Raised.ok_bind, Except.ok.injEq]
    unfold ofText
    split
    next hprefix =>
      have htrimmed : text = strip id := by
        unfold getAsString at hread
        split at hread
        · cases hread
        · exact (Option.some.inj hread).symm
      have hconfigured : (configure (ctx.resubmit config)
          (some { enabled := some true, existingFsx := some text })).1 =
          { enabled := some true, existingFsx := some text } := rfl
      rw [hconfigured]
      constructor
      · rintro rfl
        obtain rfl := Option.some.inj hexisting
        exact ⟨rfl, htrimmed.symm, hprefix⟩
      · rintro ⟨hconfig, hstrip, -⟩
        rw [htrimmed, hstrip]
        exact hconfig.symm
    next hprefix =>
      refine iff_of_false ?_ ?_
      · rw [configure_new rfl rfl]
        exact hnew _ _ rfl
      · rintro ⟨-, htrimmed, hid'⟩
        rw [(hid htrimmed hid').1] at hread
        obtain rfl := Option.some.inj hread
        exact hprefix hid'

theorem ofText_new {requested : SocaFSxLustreConfig}
    (h : (ofText text requested).existingFsx = none) :
    (ofText text requested).enabled = requested.enabled ∧
      (ofText text requested).deploymentType = requested.deploymentType ∧
      (ofText text requested).perUnitThroughput = requested.perUnitThroughput ∧
      (ofText text requested).size = requested.size ∧
      ∃ bucket, (ofText text requested).s3Backend = some bucket := by
  unfold ofText at h ⊢
  split at h
  · cases h
  next hid =>
    rw [if_neg hid]
    exact ⟨rfl, rfl, rfl, rfl, _, rfl⟩

theorem new_iff (henabled : config.enabled = some true) (hexisting : config.existingFsx = none)
    (hfilled : withDefaults config (default ctx config.s3Backend) = config) :
    built (ctx.resubmit config) = .ok config ↔
      BackendReadsBack ctx config ∧ SettingsReadBack ctx config := by
  rw [built_resubmit_iff henabled hexisting, ← settings_iff hfilled]
  obtain ⟨hexport₀, himport₀⟩ := default_paths ctx none
  have hbackendFilled : config.s3Backend.or (default ctx config.s3Backend).s3Backend =
      config.s3Backend := congrArg (·.s3Backend) hfilled
  cases hbackend : config.s3Backend with
  | none =>
    rw [hbackend] at hbackendFilled
    have htext : textAsBool config.submittedText = some true := by
      rw [SocaFSxLustreConfig.submittedText, hbackend, Option.map_none, Option.getD_none]
      decide
    rw [htext, BackendReadsBack, hbackend]
    dsimp only
    constructor
    · rintro ⟨size, hsize, hsame⟩
      rw [withDefaults_eq_iff rfl rfl hexport₀ himport₀ henabled hexisting] at hsame
      obtain ⟨⟨-, hexports, himports⟩, hsettings⟩ := hsame
      exact ⟨⟨hexports.symm, himports.symm⟩, size, hsize, hsettings⟩
    · rintro ⟨⟨hexports, himports⟩, size, hsize, hsettings⟩
      refine ⟨size, hsize, ?_⟩
      rw [withDefaults_eq_iff rfl rfl hexport₀ himport₀ henabled hexisting]
      exact ⟨⟨by rw [hbackend]; exact hbackendFilled, hexports.symm, himports.symm⟩, hsettings⟩
  | some bucket =>
    have hsubmitted : config.submittedText = config.bucketText bucket := by
      rw [SocaFSxLustreConfig.submittedText, hbackend]
      rfl
    have hreads : config.BucketReadsBack bucket →
        textAsBool config.submittedText = none ∧
          getAsString config.submittedText = some config.submittedText := by
      intro h
      have hmark := (hasPrefix_iff.mp h.prefixed).trans (config.prefix_bucketText bucket)
      rw [hsubmitted]
      exact (read_of_mark (by simp) (hasPrefix_iff.mpr hmark) h.trimmed).symm
    have hflag : config.exportPath = none → config.submittedText = bucket := by
      intro h
      rw [hsubmitted, SocaFSxLustreConfig.bucketText, h]
    rw [BackendReadsBack, hbackend]
    dsimp only
    match htext : textAsBool config.submittedText, hread : getAsString config.submittedText with
    | some false, _ =>
      refine iff_of_false (fun ⟨_, _, h⟩ => h) ?_
      rintro ⟨h | ⟨h, hexports, -⟩, -⟩
      · rw [(hreads h).1] at htext
        cases htext
      · rw [hflag hexports, h] at htext
        cases htext
    | some true, _ =>
      have hdefaults : (default ctx (some bucket)).deploymentType = (default ctx none).deploymentType ∧
          (default ctx (some bucket)).perUnitThroughput = (default ctx none).perUnitThroughput ∧
          (default ctx (some bucket)).size = (default ctx none).size :=
        default_settings ctx (some bucket) none
      rw [hdefaults.1, hdefaults.2.1, hdefaults.2.2]
      constructor
      · rintro ⟨size, hsize, hsame⟩
        rw [withDefaults_eq_iff rfl rfl hexport₀ himport₀ henabled hexisting] at hsame
        obtain ⟨⟨hbuckets, hexports, himports⟩, hsettings⟩ := hsame
        rw [hflag hexports.symm] at htext
        rw [hbackend] at hbuckets
        exact ⟨Or.inr ⟨htext, hexports.symm, himports.symm, hbuckets⟩, size, hsize, hsettings⟩
      · rintro ⟨h | ⟨-, hexports, himports, hbucket⟩, size, hsize, hsettings⟩
        · rw [(hreads h).1] at htext
          cases htext
        · refine ⟨size, hsize, ?_⟩
          rw [withDefaults_eq_iff rfl rfl hexport₀ himport₀ henabled hexisting]
          exact ⟨⟨by rw [hbackend]; exact hbucket, hexports.symm, himports.symm⟩, hsettings⟩
    | none, none =>
      refine iff_of_false (fun ⟨_, _, h⟩ => h) ?_
      rintro ⟨h | ⟨h, hexports, -⟩, -⟩
      · rw [(hreads h).2] at hread
        cases hread
      · rw [hflag hexports, h] at htext
        cases htext
    | none, some text =>
      rw [hsubmitted] at hread
      constructor
      · rintro ⟨size, hsize, hnew, hsame⟩
        obtain ⟨henabled', htype, hthroughput, hsize', first, hfirst⟩ := ofText_new hnew
        rw [withDefaults_eq_iff henabled' hnew (default_paths ctx _).1 (default_paths ctx _).2
          henabled hexisting, htype, hthroughput, hsize', hfirst, hbackend] at hsame
        obtain ⟨⟨hbuckets, hexports, himports⟩, hsettings⟩ := hsame
        obtain rfl := Option.some.inj hbuckets
        exact ⟨Or.inl ((ofText_bucketText_iff rfl).mp ⟨text, hread, hnew, hfirst, hexports,
          himports⟩), size, hsize, hsettings⟩
      · rintro ⟨h | ⟨h, hexports, -⟩, size, hsize, hsettings⟩
        · refine ⟨size, hsize, ?_⟩
          obtain ⟨text', hread', hnew, hfirst, hexports, himports⟩ :=
            (@ofText_bucketText_iff config
              { enabled := some true, size, perUnitThroughput := config.throughputParam
                deploymentType := (config.deploymentType.bind getAsString).map lower }
              bucket rfl).mpr h
          obtain rfl := Option.some.inj (hread'.symm.trans hread)
          obtain ⟨henabled', htype, hthroughput, hsize', -⟩ := ofText_new hnew
          refine ⟨hnew, ?_⟩
          rw [withDefaults_eq_iff henabled' hnew (default_paths ctx _).1 (default_paths ctx _).2
            henabled hexisting, htype, hthroughput, hsize', hfirst, hbackend]
          exact ⟨⟨rfl, hexports, himports⟩, hsettings⟩
        · rw [hflag hexports, h] at htext
          cases htext

/-- A configuration is built again from its parameters exactly under these conditions. -/
theorem survivesText_iff {config : SocaFSxLustreConfig} (h : built ctx = .ok config) :
    built (ctx.resubmit config) = .ok config ↔ SurvivesText ctx config := by
  rcases built_cases h with rfl | ⟨henabled, hexisting⟩ | ⟨henabled, hexisting⟩ |
      ⟨henabled, hexisting, hfilled⟩
  · refine iff_of_true ?_ (Or.inl rfl)
    have hvalues : (ctx.resubmit { enabled := some false }).params.values =
        (∅ : Dict String ParamValue).set "fsx_lustre" (.text "False") := rfl
    have hget := @get_of_values (ctx.resubmit { enabled := some false }) "False" none none none rfl
      (by simp [hvalues, Dict.get?_set]) (by simp [hvalues]) (by simp [hvalues])
      (by simp [hvalues])
    have htext : textAsBool "False" = some false := by decide
    rw [built, hget, htext]
    rfl
  · obtain ⟨id, hid⟩ := Option.isSome_iff_exists.mp hexisting
    rw [existing_iff henabled hid, SurvivesText]
    constructor
    · rintro ⟨hconfig, hread⟩
      exact Or.inr (Or.inl ⟨id, hconfig, hread⟩)
    · rintro (h | ⟨id', rfl, hread⟩ | ⟨-, h, -⟩)
      · exact absurd h henabled
      · obtain rfl := Option.some.inj hid
        exact ⟨rfl, hread⟩
      · rw [hid] at h
        cases h
  · refine iff_of_false (fun h => enabled_ne_none rfl h henabled) ?_
    rintro (h | ⟨id, rfl, -⟩ | ⟨h, -⟩)
    · rw [henabled] at h
      cases h
    · cases henabled
    · rw [henabled] at h
      cases h
  · rw [new_iff henabled hexisting hfilled, SurvivesText]
    constructor
    · intro h
      exact Or.inr (Or.inr ⟨henabled, hexisting, h⟩)
    · rintro (h | ⟨id, rfl, -⟩ | ⟨-, -, h⟩)
      · rw [henabled] at h
        cases h
      · cases hexisting
      · exact h

def persistentFsx : SocaFSxLustreConfig where
  enabled := some true
  s3Backend := some "s3://data"
  deploymentType := some "persistent_2"
  perUnitThroughput := some 100
  size := some ⟨1200, .gb⟩

def persistentContext : BuilderContext where
  params :=
    { values := ⟨[("fsx_lustre", .text "data"),
        ("fsx_lustre_deployment_type", .text "persistent_2"),
        ("fsx_lustre_per_unit_throughput", .text "100")], by decide⟩
      repr := fun _ => "" }
  queue := none
  soca := sampleSoca

theorem built_persistent : built persistentContext = .ok persistentFsx := by decide +kernel

theorem not_survives_persistent : built persistentContext = .ok persistentFsx ∧
    built (persistentContext.resubmit persistentFsx) ≠ .ok persistentFsx :=
  ⟨built_persistent, by decide +kernel⟩

theorem survivesText_iff_persistent :
    built (persistentContext.resubmit persistentFsx) = .ok persistentFsx ↔
      SurvivesText persistentContext persistentFsx :=
  survivesText_iff built_persistent

end FsxLustreParamBuilder

end Idea

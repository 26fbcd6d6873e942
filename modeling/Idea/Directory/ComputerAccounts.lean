import Idea.Model.Texts

/-! # Computer accounts of cluster nodes

A node asks for an account in the directory before it joins. The account is named by the request or
by a digest of the instance. When the instance is terminated the account is deleted by a name that
is always computed anew.
-/

namespace Idea.ADAutomation

/-- `hashlib` and `str.upper`: the hexadecimal digest of 256 bytes, and the capitals of each
character. -/
structure Runtime where
  shake256 : String → List Char
  shake256_length : ∀ data, (shake256 data).length = 512
  shake256_visible : ∀ data, ∀ c ∈ shake256 data, isSpace c = false
  upper : Char → List Char
  upper_space : ∀ c, isSpace c = true → upper c = [c]
  upper_visible : ∀ c, isSpace c = false → upper c ≠ [] ∧ ∀ d ∈ upper c, isSpace d = false

/-- The values of the configuration; those of missing keys are `none`. -/
structure Config where
  region : Option String
  account : Option String
  clusterName : Option String
  hostnamePrefix : Option String
  computersOu : Option String

inductive PayloadValue where
  | text (value : String)
  | other (str : String)
  deriving DecidableEq

def getValueAsString (value : Option PayloadValue) : Option String :=
  match value with
  | none => none
  | some (.text value) => getAsString value
  | some (.other str) => some str

structure Payload where
  nonce : Option PayloadValue
  hostname : Option PayloadValue
  instanceId : Option PayloadValue
  computerName : Option PayloadValue

def Payload.empty : Payload := ⟨none, none, none, none⟩

structure Environment extends Runtime where
  config : Config
  /-- Whether a running instance has the id. -/
  describeInstances : String → Except Raised Bool
  /-- The id of an instance is a text without white space around it. -/
  describeInstances_id : ∀ id, describeInstances id = .ok true → getAsString id = some id
  hasAdcli : Bool
  /-- The domain controllers that are found; there is at least one. -/
  domainControllers : Except Raised (String × List String)
  currentTimeMs : ℤ

def CONFIG_KEY_NOT_FOUND : String := "CONFIG_KEY_NOT_FOUND"

def AD_AUTOMATION_PRESET_COMPUTER_FAILED : String := "AD_AUTOMATION_PRESET_COMPUTER_FAILED"

def AD_AUTOMATION_DELETE_COMPUTER_FAILED : String := "AD_AUTOMATION_DELETE_COMPUTER_FAILED"

def presetFailed (message : String) : Raised := .soca AD_AUTOMATION_PRESET_COMPUTER_FAILED message

/-- `SocaConfig.get_string` of a required key, as it is formatted: a blank value is no value. -/
def requiredString (key : String) (value : Option String) : Except Raised String :=
  match value with
  | none => .error (.soca CONFIG_KEY_NOT_FOUND ("key: " ++ key))
  | some value => .ok (if isEmptyString (some value) then "None" else value)

/-- `SocaConfig.get_string` with a default. -/
def stringOr (default : String) (value : Option String) : String :=
  if isEmptyString value then default else value.getD default

def hostnamePrefix (config : Config) : String := stringOr "IDEA-" config.hostnamePrefix

def hostnameData (region account clusterName instanceId : String) : String :=
  region ++ "|" ++ account ++ "|" ++ clusterName ++ "|" ++ instanceId

def availChars (hostnamePrefix : String) : ℤ := 15 - hostnamePrefix.toList.length

def hostnameOf (runtime : Runtime) ( hostnamePrefix : String) (data : String) : String :=
  let digest := runtime.shake256 data
  String.ofList ((hostnamePrefix.toList ++
    digest.drop (digest.length - (availChars hostnamePrefix).toNat)).flatMap runtime.upper)

def prefixOrDefault (hostnamePrefix : String) : String :=
  if availChars hostnamePrefix < 4 then "IDEA-" else hostnamePrefix

structure PresetComputeHelper where
  instanceId : String
  nonce : String
  hostname : String
  domainControllerIps : List String
  deriving DecidableEq

namespace PresetComputeHelper

variable (env : Environment)

def instanceOfSender (senderId : String) : Except Raised String :=
  match senderId.toList.splitOn ':' with
  | [_, instanceId] => .ok (String.ofList instanceId)
  | _ => .error (presetFailed "Unable to verify cluster node identity: Invalid SenderId")

def verifyInstance (instanceId : String) : Except Raised Unit :=
  match env.describeInstances instanceId with
  | .ok true => .ok ()
  | .ok false =>
    .error (presetFailed ("Unable to verify cluster node identity: InstanceId = " ++ instanceId ++
      " not found"))
  | .error (.clientError code text) =>
    if "InvalidInstanceID".toList.isPrefixOf code.toList then
      .error (presetFailed ("Unable to verify cluster node identity: Invalid InstanceId - " ++
        instanceId))
    else .error (.clientError code text)
  | .error e => .error e

def prefixTooLarge (instanceId nonce hostnamePrefix : String) : Raised :=
  presetFailed ("(Host: None, InstanceId: " ++ instanceId ++ ", Nonce: " ++ nonce ++
    ")configured hostname_prefix is too large. Required at least 4 char of random data. Decrease " ++
    "the size of directoryservice.ad_automation.hostname_prefix: " ++
    toString hostnamePrefix.toList.length)

def chooseHostname (region account clusterName instanceId nonce : String) (payload : Payload) :
    Except Raised String :=
  match getValueAsString payload.hostname with
  | some hostname =>
    if isEmptyString (some hostname) then generate else .ok hostname
  | none => generate
where
  generate : Except Raised String :=
    if availChars (hostnamePrefix env.config) < 4 then
      .error (prefixTooLarge instanceId nonce (hostnamePrefix env.config))
    else
      .ok (hostnameOf env.toRuntime (hostnamePrefix env.config)
        (hostnameData region account clusterName instanceId))

def nonceOf (payload : Payload) : Except Raised String :=
  let nonce := getValueAsString payload.nonce
  if isEmptyString nonce then .error (presetFailed "nonce is required") else .ok (nonce.getD "")

def ensure (condition : Bool) (e : Raised) : Except Raised Unit :=
  if condition then .ok () else .error e

def ldapComputersBase : Except Raised Unit :=
  match env.config.computersOu with
  | none => .error (.soca CONFIG_KEY_NOT_FOUND "key: directoryservice.computers.ou")
  | some ou => ensure (!isEmptyString (some ou)) .typeError

/-- `PresetComputeHelper.__init__` -/
def init (senderId : Option String) (payload : Option Payload) :
    Except Raised PresetComputeHelper := do
  let account ← requiredString "cluster.aws.account_id" env.config.account
  let clusterName ← requiredString "cluster.cluster_name" env.config.clusterName
  let region ← requiredString "cluster.aws.region" env.config.region
  ldapComputersBase env
  ensure (!isEmptyString senderId)
    (presetFailed "Unable to verify cluster node identity: SenderId is required")
  let nonce ← nonceOf (payload.getD .empty)
  let instanceId ← instanceOfSender (senderId.getD "")
  verifyInstance env instanceId
  let hostname ← chooseHostname env region account clusterName instanceId nonce
    (payload.getD .empty)
  ensure env.hasAdcli (.soca "GENERAL_ERROR"
    "unable to locate adcli on system to initialize PresetComputerHelper")
  let ips ← env.domainControllers
  pure ⟨instanceId, nonce, hostname, ips.1 :: ips.2⟩

end PresetComputeHelper

namespace DeleteComputerHelper

variable (env : Environment)

def generateHostnameFromInstanceId (instanceId : String) : Except Raised String := do
  let region ← requiredString "cluster.aws.region" env.config.region
  let account ← requiredString "cluster.aws.account_id" env.config.account
  let clusterName ← requiredString "cluster.cluster_name" env.config.clusterName
  pure (hostnameOf env.toRuntime (prefixOrDefault (hostnamePrefix env.config))
    (hostnameData region account clusterName instanceId))

def minimalRequest (computerName : String) : Payload where
  nonce := some (.text ("delete-" ++ toString env.currentTimeMs))
  hostname := some (.text computerName)
  instanceId := none
  computerName := none

/-- `DeleteComputerHelper.invoke` up to the deletion: the accounts it deletes. The argument tells
whether the directory has an account of the name. -/
def deletedAccounts (hasAccount : String → Except Raised Bool) (senderId : Option String)
    (payload : Option Payload) : Except Raised (List String) :=
  match getValueAsString (payload.bind (·.instanceId)) with
  | none =>
    .error (.soca AD_AUTOMATION_DELETE_COMPUTER_FAILED "Instance ID is required for deletion")
  | some instanceId => do
    let computerName ← generateHostnameFromInstanceId env instanceId
    let helper ← PresetComputeHelper.init env senderId (some (minimalRequest env computerName))
    match hasAccount helper.hostname with
    | .ok false => pure []
    | _ => pure [helper.hostname]

end DeleteComputerHelper

namespace VirtualDesktopServerUtils

variable (env : Environment)

def computerName (instanceId : String) : Option String :=
  match requiredString "cluster.aws.region" env.config.region,
    requiredString "cluster.aws.account_id" env.config.account,
    requiredString "cluster.cluster_name" env.config.clusterName with
  | .ok region, .ok account, .ok clusterName =>
    some (hostnameOf env.toRuntime (prefixOrDefault (hostnamePrefix env.config))
      (hostnameData region account clusterName instanceId))
  | _, _, _ => none

/-- The name that `terminate_dcv_hosts` sends for a terminated instance, if it sends one. -/
def reportedAccount (hasServer isActiveDirectory : Bool) (instanceId : String) : Option String :=
  if hasServer && isActiveDirectory then computerName env instanceId else none

end VirtualDesktopServerUtils

section Names

variable {env : Environment} {senderId : Option String} {payload : Option Payload}
  {helper : PresetComputeHelper}

structure Accepted (env : Environment) (senderId : Option String)
    (region account clusterName instanceId : String) (ips : String × List String) : Prop where
  account : requiredString "cluster.aws.account_id" env.config.account = .ok account
  clusterName : requiredString "cluster.cluster_name" env.config.clusterName = .ok clusterName
  region : requiredString "cluster.aws.region" env.config.region = .ok region
  base : PresetComputeHelper.ldapComputersBase env = .ok ()
  sender : isEmptyString senderId = false
  instance_eq : PresetComputeHelper.instanceOfSender (senderId.getD "") = .ok instanceId
  verified : PresetComputeHelper.verifyInstance env instanceId = .ok ()
  adcli : env.hasAdcli = true
  ips : env.domainControllers = .ok ips

theorem ensure_eq_ok {condition : Bool} {e : Raised} {u : Unit} :
    PresetComputeHelper.ensure condition e = .ok u ↔ condition = true := by
  unfold PresetComputeHelper.ensure
  split
  · next h => exact ⟨fun _ => h, fun _ => rfl⟩
  · next h => exact ⟨fun h => (nomatch h), fun h' => absurd h' h⟩

theorem init_eq_ok : PresetComputeHelper.init env senderId payload = .ok helper ↔
    ∃ region account clusterName ips,
      Accepted env senderId region account clusterName helper.instanceId ips ∧
      PresetComputeHelper.nonceOf (payload.getD .empty) = .ok helper.nonce ∧
      PresetComputeHelper.chooseHostname env region account clusterName helper.instanceId
        helper.nonce (payload.getD .empty) = .ok helper.hostname ∧
      helper.domainControllerIps = ips.1 :: ips.2 := by
  simp only [PresetComputeHelper.init, Raised.bind_eq_ok, ensure_eq_ok]
  constructor
  · rintro ⟨account, haccount, cluster, hcluster, region, hregion, _, hbase, _, hsender, nonce,
      hnonce, instanceId, hinstance, _, hverified, hostname, hhostname, _, hadcli, ips, hips,
      hhelper⟩
    obtain rfl := Except.ok.inj hhelper
    exact ⟨region, account, cluster, ips, ⟨haccount, hcluster, hregion, hbase, by simpa using hsender,
      hinstance, hverified, hadcli, hips⟩, hnonce, hhostname, rfl⟩
  · rintro ⟨region, account, cluster, ips, h, hnonce, hhostname, hdomain⟩
    refine ⟨account, h.account, cluster, h.clusterName, region, h.region, (), h.base, (), ?_,
      helper.nonce, hnonce, helper.instanceId, h.instance_eq, (), h.verified, helper.hostname,
      hhostname, (), h.adcli, ips, h.ips, ?_⟩
    · rw [h.sender]
      rfl
    · rw [← hdomain]
      rfl

theorem instanceId_of_init (h : PresetComputeHelper.init env senderId payload = .ok helper) :
    env.describeInstances helper.instanceId = .ok true := by
  obtain ⟨_, _, _, _, accepted, -⟩ := init_eq_ok.mp h
  have hverified := accepted.verified
  unfold PresetComputeHelper.verifyInstance at hverified
  split at hverified
  · assumption
  · cases hverified
  · split at hverified <;> cases hverified
  · cases hverified

def written (value : Option String) : String := if isEmptyString value then "None" else value.getD ""

theorem written_of_requiredString {key v : String} {value : Option String}
    (h : requiredString key value = .ok v) : v = written value := by
  cases value with
  | none => cases h
  | some value => exact (Except.ok.inj h).symm

def accountName (env : Environment) (instanceId : String) : String :=
  hostnameOf env.toRuntime (prefixOrDefault (hostnamePrefix env.config))
    (hostnameData (written env.config.region) (written env.config.account)
      (written env.config.clusterName) instanceId)

variable {region account clusterName instanceId : String} {ips : String × List String}

theorem Accepted.data_eq (h : Accepted env senderId region account clusterName instanceId ips)
    (id : String) :
    hostnameData region account clusterName id =
      hostnameData (written env.config.region) (written env.config.account)
        (written env.config.clusterName) id := by
  rw [written_of_requiredString h.region, written_of_requiredString h.account,
    written_of_requiredString h.clusterName]

theorem generateHostnameFromInstanceId_eq {instanceId name : String}
    (h : DeleteComputerHelper.generateHostnameFromInstanceId env instanceId = .ok name) :
    name = accountName env instanceId := by
  simp only [DeleteComputerHelper.generateHostnameFromInstanceId, Raised.bind_eq_ok] at h
  obtain ⟨region, hregion, account, haccount, cluster, hcluster, h⟩ := h
  rw [← Except.ok.inj h, written_of_requiredString hregion, written_of_requiredString haccount,
    written_of_requiredString hcluster]
  rfl

theorem Accepted.generateHostnameFromInstanceId
    (h : Accepted env senderId region account clusterName instanceId ips) (id : String) :
    DeleteComputerHelper.generateHostnameFromInstanceId env id = .ok (accountName env id) := by
  unfold DeleteComputerHelper.generateHostnameFromInstanceId accountName
  rw [h.region, h.account, h.clusterName, ← h.data_eq id]
  rfl

theorem computerName_eq {instanceId name : String}
    (h : VirtualDesktopServerUtils.computerName env instanceId = some name) :
    name = accountName env instanceId := by
  unfold VirtualDesktopServerUtils.computerName at h
  split at h
  · next hregion haccount hcluster =>
    rw [← Option.some.inj h, written_of_requiredString hregion, written_of_requiredString haccount,
      written_of_requiredString hcluster]
    rfl
  · cases h

theorem Accepted.computerName (h : Accepted env senderId region account clusterName instanceId ips)
    (id : String) : VirtualDesktopServerUtils.computerName env id = some (accountName env id) := by
  unfold VirtualDesktopServerUtils.computerName accountName
  rw [h.region, h.account, h.clusterName, ← h.data_eq id]

theorem le_availChars_prefixOrDefault (prefix_ : String) :
    4 ≤ availChars (prefixOrDefault prefix_) := by
  unfold prefixOrDefault
  split
  · decide +kernel
  · omega

theorem stringOr_ne_blank {default : String} (h : isEmptyString (some default) = false)
    (value : Option String) : isEmptyString (some (stringOr default value)) = false := by
  unfold stringOr
  split
  · exact h
  · next hne =>
    cases value with
    | none => exact absurd rfl hne
    | some value => exact Bool.eq_false_iff.mpr hne

theorem prefixOrDefault_ne_nil (config : Config) :
    (prefixOrDefault (hostnamePrefix config)).toList ≠ [] := by
  have hdefault : isEmptyString (some "IDEA-") = false := by decide +kernel
  have hne : isEmptyString (some (prefixOrDefault (hostnamePrefix config))) = false := by
    unfold prefixOrDefault
    split
    · exact hdefault
    · exact stringOr_ne_blank hdefault _
  intro h
  have hblank : isEmptyString (some (prefixOrDefault (hostnamePrefix config))) = true := by
    simp only [isEmptyString, h]
    rfl
  rw [hne] at hblank
  cases hblank

theorem hostnameOf_toList (runtime : Runtime) {prefix_ : String} (data : String)
    (h : 4 ≤ availChars prefix_) :
    ∃ digest, digest ≠ [] ∧ (∀ c ∈ digest, isSpace c = false) ∧
      (hostnameOf runtime prefix_ data).toList =
        prefix_.toList.flatMap runtime.upper ++ digest := by
  refine ⟨((runtime.shake256 data).drop
    ((runtime.shake256 data).length - (availChars prefix_).toNat)).flatMap runtime.upper, ?_, ?_,
    ?_⟩
  · have hlength := runtime.shake256_length data
    cases hdrop : (runtime.shake256 data).drop
        ((runtime.shake256 data).length - (availChars prefix_).toNat) with
    | nil =>
      have := List.drop_eq_nil_iff.mp hdrop
      omega
    | cons c cs =>
      have hc := runtime.shake256_visible data c (List.mem_of_mem_drop (hdrop ▸ List.mem_cons_self))
      rw [List.flatMap_cons]
      exact List.append_ne_nil_of_left_ne_nil (runtime.upper_visible c hc).1 _
  · intro d hd
    obtain ⟨c, hc, hd⟩ := List.mem_flatMap.mp hd
    exact (runtime.upper_visible c
      (runtime.shake256_visible data c (List.mem_of_mem_drop hc))).2 d hd
  · rw [hostnameOf, String.toList_ofList, List.flatMap_append]

theorem stripChars_append {cs ds : List Char} (hne : ds ≠ [])
    (hds : ∀ c ∈ ds, isSpace c = false) :
    stripChars (cs ++ ds) = cs.dropWhile isSpace ++ ds := by
  have hhead : (cs ++ ds).dropWhile isSpace = cs.dropWhile isSpace ++ ds := by
    induction cs with
    | nil =>
      cases ds with
      | nil => exact absurd rfl hne
      | cons d ds =>
        exact List.dropWhile_cons_of_neg (Bool.eq_false_iff.mp (hds d List.mem_cons_self))
    | cons c cs ih =>
      rw [List.cons_append, List.dropWhile_cons, List.dropWhile_cons, ih]
      split <;> rfl
  have hlast : ds.reverse ≠ [] := List.reverse_ne_nil_iff.mpr hne
  rw [stripChars, hhead, List.reverse_append]
  cases hr : ds.reverse with
  | nil => exact absurd hr hlast
  | cons c rest =>
    have hc : isSpace c = false := hds c (List.mem_reverse.mp (hr ▸ List.mem_cons_self))
    rw [List.cons_append, List.dropWhile_cons_of_neg (Bool.eq_false_iff.mp hc), ← List.cons_append,
      ← hr, List.reverse_append, List.reverse_reverse, List.reverse_reverse]

/-- The prefix of the names does not begin with white space. -/
def StartsVisibly (config : Config) : Prop :=
  ∀ c ∈ (prefixOrDefault (hostnamePrefix config)).toList.head?, isSpace c = false

theorem dropWhile_upper (runtime : Runtime) {cs : List Char} (hne : cs ≠ []) :
    (cs.flatMap runtime.upper).dropWhile isSpace = cs.flatMap runtime.upper ↔
      ∀ c ∈ cs.head?, isSpace c = false := by
  cases cs with
  | nil => exact absurd rfl hne
  | cons c cs =>
    rw [List.flatMap_cons]
    cases hc : isSpace c with
    | true =>
      rw [runtime.upper_space c hc, List.singleton_append, List.dropWhile_cons_of_pos hc]
      refine ⟨fun h => ?_, fun h => ?_⟩
      · have hle := (List.dropWhile_suffix (p := isSpace) (l := cs.flatMap runtime.upper)).length_le
        rw [h, List.length_cons] at hle
        omega
      · rw [h c rfl] at hc
        cases hc
    | false =>
      obtain ⟨hupper, hvisible⟩ := runtime.upper_visible c hc
      cases hd : runtime.upper c with
      | nil => exact absurd hd hupper
      | cons d ds =>
        have hspace : isSpace d = false := hvisible d (hd ▸ List.mem_cons_self)
        refine ⟨fun _ c' hc' => ?_, fun _ => ?_⟩
        · obtain rfl := Option.some.inj hc'
          exact hc
        · rw [List.cons_append, List.dropWhile_cons_of_neg (Bool.eq_false_iff.mp hspace)]

theorem strip_accountName {instanceId : String} :
    strip (accountName env instanceId) = accountName env instanceId ↔
      StartsVisibly env.config := by
  obtain ⟨digest, hne, hdigest, hname⟩ := hostnameOf_toList env.toRuntime
    (hostnameData (written env.config.region) (written env.config.account)
      (written env.config.clusterName) instanceId)
    (le_availChars_prefixOrDefault (hostnamePrefix env.config))
  rw [StartsVisibly, ← dropWhile_upper env.toRuntime (prefixOrDefault_ne_nil env.config),
    ← String.toList_inj, strip, String.toList_ofList, accountName, hname,
    stripChars_append hne hdigest]
  exact List.append_left_inj digest

theorem exists_visible_accountName (env : Environment) (instanceId : String) :
    ∃ c ∈ (accountName env instanceId).toList, isSpace c = false := by
  obtain ⟨digest, hne, hdigest, hname⟩ := hostnameOf_toList env.toRuntime
    (hostnameData (written env.config.region) (written env.config.account)
      (written env.config.clusterName) instanceId)
    (le_availChars_prefixOrDefault (hostnamePrefix env.config))
  obtain ⟨c, hc⟩ := List.exists_mem_of_ne_nil _ hne
  refine ⟨c, ?_, hdigest c hc⟩
  rw [accountName, hname]
  exact List.mem_append_right _ hc

def Payload.hostname? (payload : Payload) : Option String :=
  match getValueAsString payload.hostname with
  | some hostname => if isEmptyString (some hostname) then none else some hostname
  | none => none

theorem chooseHostname_eq (region account clusterName instanceId nonce : String)
    (payload : Payload) :
    PresetComputeHelper.chooseHostname env region account clusterName instanceId nonce payload =
      match payload.hostname? with
      | some hostname => .ok hostname
      | none => PresetComputeHelper.chooseHostname.generate env region account clusterName instanceId
        nonce := by
  unfold PresetComputeHelper.chooseHostname Payload.hostname?
  split
  · split <;> rfl
  · rfl

theorem Accepted.generate_eq {region account clusterName instanceId nonce hostname : String}
    (accepted : Accepted env senderId region account clusterName instanceId ips)
    (h : PresetComputeHelper.chooseHostname.generate env region account clusterName instanceId
      nonce = .ok hostname) : hostname = accountName env instanceId := by
  unfold PresetComputeHelper.chooseHostname.generate at h
  split at h
  · cases h
  · next hfits =>
    rw [← Except.ok.inj h, accountName, prefixOrDefault, if_neg hfits, accepted.data_eq]

theorem hostname_minimalRequest (env : Environment) (instanceId : String) :
    (DeleteComputerHelper.minimalRequest env (accountName env instanceId)).hostname? =
      some (strip (accountName env instanceId)) := by
  obtain ⟨c, hmem, hc⟩ := exists_visible_accountName env instanceId
  obtain ⟨hread, hne⟩ := getAsString_of_mem hmem hc
  simp only [Payload.hostname?, DeleteComputerHelper.minimalRequest, getValueAsString, hread]
  exact if_neg (Bool.eq_false_iff.mp hne)

theorem nonce_minimalRequest (env : Environment) (name : String) :
    PresetComputeHelper.nonceOf (DeleteComputerHelper.minimalRequest env name) =
      .ok (strip ("delete-" ++ toString env.currentTimeMs)) := by
  have hmem : 'd' ∈ ("delete-" ++ toString env.currentTimeMs).toList := by
    rw [String.toList_append]
    exact List.mem_append_left _ (by decide +kernel)
  obtain ⟨hread, hne⟩ := getAsString_of_mem hmem (by decide +kernel)
  simp only [PresetComputeHelper.nonceOf, DeleteComputerHelper.minimalRequest, getValueAsString,
    hread, hne]
  rfl

theorem eq_strip_of_mem_deletedAccounts {hasAccount : String → Except Raised Bool}
    {instanceId : String} {names : List String}
    (hinstance : getValueAsString (payload.bind Payload.instanceId) = some instanceId)
    (h : DeleteComputerHelper.deletedAccounts env hasAccount senderId payload = .ok names)
    {name : String} (hname : name ∈ names) : name = strip (accountName env instanceId) := by
  simp only [DeleteComputerHelper.deletedAccounts, hinstance, Raised.bind_eq_ok] at h
  obtain ⟨generated, hgenerated, helper, hinit, h⟩ := h
  obtain rfl := generateHostnameFromInstanceId_eq hgenerated
  obtain ⟨region, account, cluster, ips, -, -, hchosen, -⟩ := init_eq_ok.mp hinit
  rw [Option.getD_some, chooseHostname_eq, hostname_minimalRequest] at hchosen
  rw [Except.ok.inj hchosen]
  split at h
  · obtain rfl := Except.ok.inj h
    exact absurd hname List.not_mem_nil
  · obtain rfl := Except.ok.inj h
    exact List.mem_singleton.mp hname

theorem deletedAccounts_of_init (h : PresetComputeHelper.init env senderId payload = .ok helper) :
    DeleteComputerHelper.deletedAccounts env (fun _ => .ok true) senderId
      (some { Payload.empty with instanceId := some (.text helper.instanceId) }) =
      .ok [strip (accountName env helper.instanceId)] := by
  obtain ⟨region, account, cluster, ips, accepted, -⟩ := init_eq_ok.mp h
  have hread : getAsString helper.instanceId = some helper.instanceId :=
    env.describeInstances_id _ (instanceId_of_init h)
  have hinit : PresetComputeHelper.init env senderId
      (some (DeleteComputerHelper.minimalRequest env (accountName env helper.instanceId))) =
      .ok ⟨helper.instanceId, strip ("delete-" ++ toString env.currentTimeMs),
        strip (accountName env helper.instanceId), ips.1 :: ips.2⟩ := by
    refine init_eq_ok.mpr ⟨region, account, cluster, ips, accepted, nonce_minimalRequest env _, ?_,
      rfl⟩
    rw [Option.getD_some, chooseHostname_eq, hostname_minimalRequest]
  simp only [DeleteComputerHelper.deletedAccounts, Option.bind_some, getValueAsString, hread,
    accepted.generateHostnameFromInstanceId]
  rw [bind, Except.instMonad]
  simp only [Except.bind, hinit]
  rfl

/-- What was preset is what a deletion removes and what a termination reports. -/
structure Agrees (env : Environment) (helper : PresetComputeHelper) : Prop where
  deleted : ∀ (env' : Environment) hasAccount senderId payload names,
    env'.toRuntime = env.toRuntime → env'.config = env.config →
    getValueAsString (payload.bind Payload.instanceId) = some helper.instanceId →
    DeleteComputerHelper.deletedAccounts env' hasAccount senderId payload = .ok names →
    ∀ name ∈ names, name = helper.hostname
  reported : ∀ (env' : Environment) hasServer isActiveDirectory name,
    env'.toRuntime = env.toRuntime → env'.config = env.config →
    VirtualDesktopServerUtils.reportedAccount env' hasServer isActiveDirectory helper.instanceId =
      some name → name = helper.hostname

/-- The account that was preset for an instance is the one that is removed with it exactly where
the request gives no host name, or the one that is generated, and the prefix does not begin with
white space. -/
theorem agrees_iff (h : PresetComputeHelper.init env senderId payload = .ok helper) :
    Agrees env helper ↔
      (∀ hostname ∈ (payload.getD .empty).hostname?,
        hostname = accountName env helper.instanceId) ∧ StartsVisibly env.config := by
  obtain ⟨region, account, cluster, ips, accepted, -, hchosen, -⟩ := init_eq_ok.mp h
  rw [chooseHostname_eq] at hchosen
  constructor
  · intro agrees
    have hreported : accountName env helper.instanceId = helper.hostname := by
      refine agrees.reported env true true _ rfl rfl ?_
      exact accepted.computerName _
    have hdeleted : strip (accountName env helper.instanceId) = helper.hostname := by
      refine agrees.deleted env _ senderId _ _ rfl rfl ?_ (deletedAccounts_of_init h) _
        List.mem_cons_self
      exact env.describeInstances_id _ (instanceId_of_init h)
    refine ⟨fun hostname hhostname => ?_, strip_accountName.mp (hdeleted.trans hreported.symm)⟩
    rw [Option.mem_def.mp hhostname] at hchosen
    rw [hreported]
    exact Except.ok.inj hchosen
  · rintro ⟨hname, hvisible⟩
    have hhostname : helper.hostname = accountName env helper.instanceId := by
      split at hchosen
      · next hostname hgiven => exact (Except.ok.inj hchosen).symm.trans (hname hostname hgiven)
      · exact accepted.generate_eq hchosen
    have haccount : ∀ env' : Environment, env'.toRuntime = env.toRuntime →
        env'.config = env.config →
        accountName env' helper.instanceId = accountName env helper.instanceId := by
      intro env' hruntime hconfig
      rw [accountName, hruntime, hconfig]
      rfl
    refine ⟨fun env' hasAccount senderId' payload' names hruntime hconfig hinstance hdeleted name
      hmem => ?_, fun env' hasServer isAD name hruntime hconfig hreported => ?_⟩
    · rw [eq_strip_of_mem_deletedAccounts hinstance hdeleted hmem, haccount env' hruntime hconfig,
        strip_accountName.mpr hvisible, hhostname]
    · unfold VirtualDesktopServerUtils.reportedAccount at hreported
      split at hreported
      · rw [computerName_eq hreported, haccount env' hruntime hconfig, hhostname]
      · cases hreported

end Names

def sampleDigest : String :=
  "c57ceeb7c05b7935ce3bd1dd190db966e5b37d11af1c151abe75fff16e30666013de0fbcde443ec7" ++
  "120ff8c3ccc8613c9e143f37bd88b1fc188850f56823334ef52b560227a00501861c74978e6305f5" ++
  "2c8b170b146c4ea14204a13c988c7b713f448cc58ca4c2e5961e3adc873d68758d708cb8422f4e57" ++
  "5f3bf849af5b14b56f688c56fc6af26e8d5a7dde2c4586283f4db9e618c4859b32321e7c93e1477b" ++
  "2105b19feaab48d0df300983816a2759ac6928f716593afb80d939c70cddfadfa7be3c022adf7195" ++
  "e0f5e9c29ed32d21c132eef85aaaf25a289830277a30d1f1689a5b3271c50b80bb7c8dd95addc408" ++
  "d161367ea4d6ce98c2c2562950cb1cac"

theorem toList_of_eq_ofList {s : String} {cs : List Char} (h : s = String.ofList cs) :
    s.toList = cs := by
  rw [h, String.toList_ofList]

theorem toList_of_eq_append {s t : String} {cs ds : List Char} (hs : s.toList = cs)
    (ht : t = String.ofList ds) : (s ++ t).toList = cs ++ ds := by
  rw [String.toList_append, hs, ht, String.toList_ofList]

-- The kernel spells a literal out at once, but decodes its bytes slowly.
theorem sampleDigest_spec : sampleDigest.toList.length = 512 ∧
    sampleDigest.toList.all (fun c => !isSpace c) = true ∧
    sampleDigest.toList.drop 502 = "2950cb1cac".toList := by
  have hchars : sampleDigest.toList = _ :=
    toList_of_eq_append (toList_of_eq_append (toList_of_eq_append (toList_of_eq_append
      (toList_of_eq_append (toList_of_eq_append (toList_of_eq_ofList rfl) rfl) rfl) rfl) rfl) rfl)
      rfl
  rw [hchars]
  decide +kernel

def smallLetters : List Char := "abcdefghijklmnopqrstuvwxyz".toList

theorem visible_smallLetters : ∀ c ∈ smallLetters,
    isSpace c = false ∧ isSpace c.toUpper = false := by
  have hall : smallLetters.all (fun c => !isSpace c && !isSpace c.toUpper) = true := by
    decide +kernel
  intro c hc
  simpa using List.all_eq_true.mp hall c hc

/-- `str.upper` of texts in ASCII. -/
def asciiUpper (c : Char) : List Char := if c ∈ smallLetters then [c.toUpper] else [c]

theorem asciiUpper_space (c : Char) (h : isSpace c = true) : asciiUpper c = [c] := by
  refine if_neg fun hmem => ?_
  rw [(visible_smallLetters c hmem).1] at h
  cases h

theorem asciiUpper_visible (c : Char) (h : isSpace c = false) :
    asciiUpper c ≠ [] ∧ ∀ d ∈ asciiUpper c, isSpace d = false := by
  unfold asciiUpper
  split
  · next hmem =>
    refine ⟨List.cons_ne_nil _ _, fun d hd => ?_⟩
    rw [List.mem_singleton.mp hd]
    exact (visible_smallLetters c hmem).2
  · refine ⟨List.cons_ne_nil _ _, fun d hd => ?_⟩
    rw [List.mem_singleton.mp hd]
    exact h

def sampleRuntime : Runtime where
  shake256 _ := sampleDigest.toList
  shake256_length _ := sampleDigest_spec.1
  shake256_visible _ c hc := by simpa using List.all_eq_true.mp sampleDigest_spec.2.1 c hc
  upper := asciiUpper
  upper_space := asciiUpper_space
  upper_visible := asciiUpper_visible

def sampleConfig : Config where
  region := some "us-east-1"
  account := some "123456789012"
  clusterName := some "idea-test"
  hostnamePrefix := none
  computersOu := some "ou=computers"

def sampleInstance : String := "i-035b89c7f49714a3e"

def sampleEnvironment : Environment where
  toRuntime := sampleRuntime
  config := sampleConfig
  describeInstances id := .ok (id = sampleInstance)
  describeInstances_id id h := by
    have hid : id = sampleInstance := of_decide_eq_true (Except.ok.inj h)
    rw [hid]
    decide +kernel
  hasAdcli := true
  domainControllers := .ok ("10.0.0.10", [])
  currentTimeMs := 1700000000000

def sampleSender : String := "AROAZKN2GIY65I74VE5YH:i-035b89c7f49714a3e"

def linuxRequest : Payload where
  nonce := some (.text "n1")
  hostname := none
  instanceId := none
  computerName := none

def windowsRequest : Payload := { linuxRequest with hostname := some (.text "EC2AMAZ-6S29U5P") }

theorem prefix_sample : prefixOrDefault (hostnamePrefix sampleConfig) = "IDEA-" := by
  decide +kernel

theorem accountName_sample : accountName sampleEnvironment sampleInstance = "IDEA-2950CB1CAC" := by
  have havail : (availChars "IDEA-").toNat = 10 := by decide +kernel
  unfold accountName
  rw [show sampleEnvironment.config = sampleConfig from rfl, prefix_sample]
  unfold hostnameOf
  dsimp only [sampleEnvironment, sampleRuntime]
  rw [sampleDigest_spec.1, havail, sampleDigest_spec.2.2]
  decide +kernel

theorem accepted_sample : Accepted sampleEnvironment (some sampleSender) "us-east-1" "123456789012"
    "idea-test" sampleInstance ("10.0.0.10", []) := by
  constructor <;> decide +kernel

theorem init_sample {request : Payload} {hostname : String}
    (hnonce : PresetComputeHelper.nonceOf request = .ok "n1")
    (hchosen : PresetComputeHelper.chooseHostname sampleEnvironment "us-east-1" "123456789012"
      "idea-test" sampleInstance "n1" request = .ok hostname) :
    PresetComputeHelper.init sampleEnvironment (some sampleSender) (some request) =
      .ok ⟨sampleInstance, "n1", hostname, ["10.0.0.10"]⟩ :=
  init_eq_ok.mpr ⟨_, _, _, _, accepted_sample, hnonce, hchosen, rfl⟩

/-- A node that gives no host name has its account removed. -/
theorem agrees_iff_linux :
    PresetComputeHelper.init sampleEnvironment (some sampleSender) (some linuxRequest) =
      .ok ⟨sampleInstance, "n1", "IDEA-2950CB1CAC", ["10.0.0.10"]⟩ ∧
    Agrees sampleEnvironment ⟨sampleInstance, "n1", "IDEA-2950CB1CAC", ["10.0.0.10"]⟩ := by
  have hgenerate : PresetComputeHelper.chooseHostname.generate sampleEnvironment "us-east-1"
      "123456789012" "idea-test" sampleInstance "n1" = .ok "IDEA-2950CB1CAC" := by
    cases hname : PresetComputeHelper.chooseHostname.generate sampleEnvironment "us-east-1"
        "123456789012" "idea-test" sampleInstance "n1" with
    | ok hostname => rw [accepted_sample.generate_eq hname, accountName_sample]
    | error e =>
      unfold PresetComputeHelper.chooseHostname.generate at hname
      rw [if_neg (by decide +kernel)] at hname
      cases hname
  have h : PresetComputeHelper.init sampleEnvironment (some sampleSender) (some linuxRequest) =
      .ok ⟨sampleInstance, "n1", "IDEA-2950CB1CAC", ["10.0.0.10"]⟩ :=
    init_sample (by decide +kernel) ((chooseHostname_eq _ _ _ _ _ _).trans hgenerate)
  refine ⟨h, (agrees_iff h).mpr ⟨fun _ hhostname => ?_, ?_⟩⟩
  · cases hhostname
  · have hhead : (prefixOrDefault (hostnamePrefix sampleEnvironment.config)).toList.head? =
        some 'I' := by decide +kernel
    intro c hc
    obtain rfl := Option.some.inj (hhead.symm.trans hc)
    decide

/-- A node that gives its host name is preset under it, and another account is removed. -/
theorem windows_account_stays :
    PresetComputeHelper.init sampleEnvironment (some sampleSender) (some windowsRequest) =
      .ok ⟨sampleInstance, "n1", "EC2AMAZ-6S29U5P", ["10.0.0.10"]⟩ ∧
    ¬ Agrees sampleEnvironment ⟨sampleInstance, "n1", "EC2AMAZ-6S29U5P", ["10.0.0.10"]⟩ := by
  have hgiven : windowsRequest.hostname? = some "EC2AMAZ-6S29U5P" := by decide +kernel
  have h : PresetComputeHelper.init sampleEnvironment (some sampleSender) (some windowsRequest) =
      .ok ⟨sampleInstance, "n1", "EC2AMAZ-6S29U5P", ["10.0.0.10"]⟩ := by
    refine init_sample (by decide +kernel) ?_
    rw [chooseHostname_eq, hgiven]
  refine ⟨h, fun agrees => ?_⟩
  have hname := agrees.deleted sampleEnvironment _ _ _ _ rfl rfl (by decide +kernel)
    (deletedAccounts_of_init h) _ List.mem_cons_self
  rw [accountName_sample] at hname
  exact absurd hname (by decide +kernel)

end Idea.ADAutomation

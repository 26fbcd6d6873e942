import Mathlib.Data.List.Chain
import Idea.Directory.ComputerAccounts
import Idea.System.Run

/-! # Provisioning desktop hosts

A host is launched in the first of the subnets to attempt that has capacity. The subnets come
with the request, or they are the list that the configuration stores itself, which is shuffled
and popped from in place. So each call without a subnet of its own leaves fewer subnets to the
calls after it.
-/

namespace Idea

namespace HostProvisioning

open ADAutomation (CONFIG_KEY_NOT_FOUND)

structure SubnetConfig where
  vdiSubnets : Option (List String)
  clusterSubnets : Option (List String)
  deriving DecidableEq

inductive LaunchOutcome where
  | launched (instanceId : String)
  | clientError (code : String)
  | failed

structure Attempt where
  subnet : String
  outcome : LaunchOutcome

inductive HostFailure where
  | raised (e : Raised)
  | exception (message : String)

/-- A session to provision a host for: the subnets it asks for, what comes before the subnets are
chosen, the settings, the order a shuffle brings, and the outcome of each launch. -/
structure HostRequest where
  subnetId : Option String
  prepared : Except Raised Unit
  randomizeSubnets : Bool
  subnetAutoretry : Bool
  shuffle : List String → List String
  shuffle_perm : ∀ subnets, (shuffle subnets).Perm subnets
  runInstances : ℕ → String → LaunchOutcome

/-- Where the list of subnets to attempt is kept. -/
inductive Source where
  | requested | vdi | cluster

/-- `get_list` of a required key: an empty list is no value. -/
def requiredList (key : String) (stored : Option (List String)) :
    Except HostFailure (Option (List String)) :=
  match stored with
  | none => .error (.raised (.soca CONFIG_KEY_NOT_FOUND ("key: " ++ key)))
  | some stored => .ok (if isEmptyList (some stored) then none else some stored)

/-- `get_list` with an empty list as default. -/
def optionalList (stored : Option (List String)) : List String :=
  if isEmptyList stored then [] else stored.getD []

def requestedSubnets (known : List String) (subnetId : String) :
    Except HostFailure (List String) :=
  ((subnetId.toList.splitOn ',').map fun subnet => strip (String.ofList subnet)).mapM
    fun subnet =>
      if subnet ∈ known then .ok subnet
      else .error (.exception ("Requested subnet_id (" ++ subnet ++
        ") is not available in the IDEA cluster configuration. Please contact your " ++
        "Administrator to validate the subnet_id or try again without an explicit subnet_id."))

def chooseSubnets (config : SubnetConfig) (request : HostRequest) :
    Except HostFailure (Source × List String) := do
  let configuredVdiSubnets := optionalList config.vdiSubnets
  let clusterPrivateSubnets ← requiredList "cluster.network.private_subnets" config.clusterSubnets
  if !isEmptyString request.subnetId then
    match clusterPrivateSubnets with
    | none => .error (.raised .typeError)
    | some clusterPrivateSubnets =>
      (requestedSubnets (clusterPrivateSubnets ++ configuredVdiSubnets)
        (request.subnetId.getD "")).map fun subnets => (.requested, subnets)
  else if !configuredVdiSubnets.isEmpty then .ok (.vdi, configuredVdiSubnets)
  else
    match clusterPrivateSubnets with
    | none => .error (.raised .typeError)
    | some clusterPrivateSubnets => .ok (.cluster, clusterPrivateSubnets)

def LaunchOutcome.isCapacityError : LaunchOutcome → Bool
  | .clientError code => code ∈ ["InsufficientInstanceCapacity", "Unsupported"]
  | _ => false

/-- What a call does: the attempts it makes, the subnets it leaves in the list, and its result. -/
structure Attempts where
  attempts : List Attempt
  remaining : List String
  result : Except HostFailure (Option String)

/-- The attempts that begin after `deploymentLoop` others. -/
def attemptLoop (request : HostRequest) : ℕ → List String → Attempts
  | _, [] => ⟨[], [], .error (.raised .indexError)⟩
  | deploymentLoop, subnetToTry :: remaining =>
    let outcome := request.runInstances (deploymentLoop + 1) subnetToTry
    let attempt : Attempt := ⟨subnetToTry, outcome⟩
    if outcome.isCapacityError && request.subnetAutoretry && !remaining.isEmpty then
      let next := attemptLoop request (deploymentLoop + 1) remaining
      { next with attempts := attempt :: next.attempts }
    else
      match outcome with
      | .launched instanceId => ⟨[attempt], remaining, .ok (some instanceId)⟩
      | _ => ⟨[attempt], remaining, .ok none⟩

def SubnetConfig.store (config : SubnetConfig) (subnets : List String) : Source → SubnetConfig
  | .requested => config
  | .vdi => { config with vdiSubnets := some subnets }
  | .cluster => { config with clusterSubnets := some subnets }

/-- The configuration after a call, with the attempts and the result. -/
structure Provisioned where
  config : SubnetConfig
  attempts : List Attempt
  result : Except HostFailure (Option String)

def provisionDcvHostForSession (config : SubnetConfig) (request : HostRequest) : Provisioned :=
  match request.prepared with
  | .error e => ⟨config, [], .error (.raised e)⟩
  | .ok () =>
    match chooseSubnets config request with
    | .error e => ⟨config, [], .error e⟩
    | .ok (source, subnets) =>
      let order := if request.randomizeSubnets then request.shuffle subnets else subnets
      let attempts := attemptLoop request 0 order
      ⟨config.store attempts.remaining source, attempts.attempts, attempts.result⟩

/-! ## One call -/

variable {config : SubnetConfig} {request : HostRequest}

def SubnetConfig.subnets (config : SubnetConfig) : List String :=
  if (optionalList config.vdiSubnets).isEmpty then optionalList config.clusterSubnets
  else optionalList config.vdiSubnets

/-- A call that takes its subnets from the configuration. -/
structure Draws (config : SubnetConfig) (request : HostRequest) : Prop where
  prepared : request.prepared = .ok ()
  implicit : isEmptyString request.subnetId = true
  required : config.clusterSubnets.isSome = true
  configured : config.subnets ≠ []

/-- Attempts that follow an order: each subnet of it once at most, and the next one only after
an error about the capacity. -/
structure Follows (order : List String) (attempts : List Attempt) : Prop where
  initial : attempts.map Attempt.subnet <+: order
  moves : attempts.IsChain fun attempt _ => attempt.outcome.isCapacityError = true

theorem attemptLoop_spec (deploymentLoop : ℕ) (order : List String) :
    let attempts := attemptLoop request deploymentLoop order
    attempts.attempts.map Attempt.subnet ++ attempts.remaining = order ∧
      (order ≠ [] → attempts.attempts ≠ []) ∧
      attempts.attempts.IsChain fun attempt _ => attempt.outcome.isCapacityError = true := by
  induction order generalizing deploymentLoop with
  | nil => simp [attemptLoop]
  | cons subnet order ih =>
    rw [attemptLoop]
    split
    · rename_i hnext
      obtain ⟨hsubnets, _, hmoves⟩ := ih (deploymentLoop + 1)
      simp only [Bool.and_eq_true] at hnext
      refine ⟨by simpa using hsubnets, by simp, ?_⟩
      exact List.isChain_cons.mpr ⟨fun _ _ => hnext.1.1, hmoves⟩
    · split
      · simp
      · simp

theorem optionalList_eq (stored : Option (List String)) : optionalList stored = stored.getD [] := by
  cases stored with
  | none => rfl
  | some stored =>
    cases stored with
    | nil => rfl
    | cons subnet stored => rfl

theorem chooseSubnets_requested {source : Source} {subnets : List String}
    (hrequested : isEmptyString request.subnetId = false)
    (h : chooseSubnets config request = .ok (source, subnets)) : source = .requested := by
  cases hcluster : config.clusterSubnets with
  | none => simp [chooseSubnets, requiredList, hcluster, bind, Except.bind] at h
  | some cluster =>
    simp only [chooseSubnets, requiredList, hcluster, hrequested, bind, Except.bind,
      Bool.not_false, if_true] at h
    split at h
    · cases h
    · rename_i known _
      cases hsubnets : requestedSubnets (known ++ optionalList config.vdiSubnets)
          (request.subnetId.getD "") with
      | error e => simp [hsubnets, Except.map] at h
      | ok requested =>
        simp only [hsubnets, Except.map, Except.ok.injEq, Prod.mk.injEq] at h
        exact h.1.symm

theorem chooseSubnets_implicit (himplicit : isEmptyString request.subnetId = true) :
    (∃ failure, chooseSubnets config request = .error failure ∧
        ¬ (config.clusterSubnets.isSome = true ∧ config.subnets ≠ [])) ∨
      ∃ source, chooseSubnets config request = .ok (source, config.subnets) ∧
        config.clusterSubnets.isSome = true ∧ config.subnets ≠ [] ∧
        (source = .vdi ∧ config.vdiSubnets = some config.subnets ∨
          source = .cluster ∧ config.clusterSubnets = some config.subnets) := by
  obtain ⟨vdi, cluster⟩ := config
  cases cluster with
  | none =>
    refine .inl ⟨_, rfl, ?_⟩
    simp
  | some cluster =>
    simp only [chooseSubnets, requiredList, himplicit, bind, Except.bind, SubnetConfig.subnets,
      optionalList_eq, Option.isSome_some, Option.getD_some]
    cases hvdi : vdi.getD [] with
    | nil =>
      cases cluster with
      | nil => simp [isEmptyList]
      | cons subnet cluster => simp [isEmptyList]
    | cons subnet vdi' =>
      cases vdi with
      | none => cases hvdi
      | some vdi =>
        obtain rfl : vdi = subnet :: vdi' := hvdi
        simp

/-- An order in which a call may attempt the subnets. -/
def IsOrder (request : HostRequest) (subnets order : List String) : Prop :=
  if request.randomizeSubnets then order.Perm subnets else order = subnets

theorem isOrder_shuffle (request : HostRequest) (subnets : List String) : IsOrder request subnets
    (if request.randomizeSubnets then request.shuffle subnets else subnets) := by
  unfold IsOrder
  split
  · exact request.shuffle_perm subnets
  · rfl

theorem IsOrder.length_eq {subnets order : List String} (h : IsOrder request subnets order) :
    order.length = subnets.length := by
  unfold IsOrder at h
  split at h
  · exact h.length_eq
  · rw [h]

theorem provision_cases (config : SubnetConfig) (request : HostRequest) :
    let provisioned := provisionDcvHostForSession config request
    (¬ Draws config request ∧ provisioned.config = config ∧
        (isEmptyString request.subnetId = true → provisioned.attempts = [])) ∨
      (Draws config request ∧ ∃ source order, IsOrder request config.subnets order ∧
        (source = .vdi ∧ config.vdiSubnets = some config.subnets ∨
          source = .cluster ∧ config.clusterSubnets = some config.subnets) ∧
        provisioned.attempts = (attemptLoop request 0 order).attempts ∧
        provisioned.config = config.store (attemptLoop request 0 order).remaining source) := by
  simp only [provisionDcvHostForSession]
  cases hprepared : request.prepared with
  | error e =>
    refine .inl ⟨fun h => ?_, rfl, fun _ => rfl⟩
    have := hprepared.symm.trans h.prepared
    cases this
  | ok _ =>
    cases himplicit : isEmptyString request.subnetId with
    | false =>
      have hdraws : ¬ Draws config request :=
        fun h => Bool.false_ne_true (himplicit.symm.trans h.implicit)
      cases hchoose : chooseSubnets config request with
      | error e => exact .inl ⟨hdraws, rfl, fun _ => rfl⟩
      | ok chosen =>
        obtain ⟨source, subnets⟩ := chosen
        obtain rfl := chooseSubnets_requested himplicit hchoose
        exact .inl ⟨hdraws, rfl, fun h => absurd h Bool.false_ne_true⟩
    | true =>
      rcases @chooseSubnets_implicit config request himplicit with
        ⟨failure, hchoose, hno⟩ | ⟨source, hchoose, hrequired, hconfigured, hsource⟩
      · rw [hchoose]
        exact .inl ⟨fun h => hno ⟨h.required, h.configured⟩, rfl, fun _ => rfl⟩
      · rw [hchoose]
        exact .inr ⟨⟨hprepared, himplicit, hrequired, hconfigured⟩, source, _,
          isOrder_shuffle request config.subnets, hsource, rfl, rfl⟩

def SubnetConfig.size (config : SubnetConfig) : ℕ :=
  (config.vdiSubnets.getD []).length + (config.clusterSubnets.getD []).length

theorem size_of_draws (h : Draws config request) :
    (provisionDcvHostForSession config request).config.size < config.size := by
  rcases provision_cases config request with ⟨hno, _⟩ |
    ⟨_, source, order, horder, hsource, _, hconfig⟩
  · exact absurd h hno
  obtain ⟨hsubnets, hattempts, _⟩ := @attemptLoop_spec request 0 order
  have hlength := horder.length_eq
  have hne : order ≠ [] := by
    intro hnil
    rw [hnil] at hlength
    exact h.configured (List.length_eq_zero_iff.mp hlength.symm)
  have hpos := List.length_pos_iff.mpr (hattempts hne)
  have hsum := congrArg List.length hsubnets
  rw [List.length_append, List.length_map, hlength] at hsum
  rw [hconfig]
  rcases hsource with ⟨rfl, hstored⟩ | ⟨rfl, hstored⟩
  · simp only [SubnetConfig.size, SubnetConfig.store, hstored, Option.getD_some]
    omega
  · simp only [SubnetConfig.size, SubnetConfig.store, hstored, Option.getD_some]
    omega

theorem follows_order (himplicit : isEmptyString request.subnetId = true) :
    ∃ order, IsOrder request config.subnets order ∧
      Follows order (provisionDcvHostForSession config request).attempts := by
  rcases provision_cases config request with ⟨_, _, hnone⟩ |
    ⟨_, source, order, horder, _, hattempts, _⟩
  · refine ⟨_, isOrder_shuffle request config.subnets, ?_⟩
    rw [hnone himplicit]
    exact ⟨List.nil_prefix, .nil⟩
  · obtain ⟨hsubnets, _, hmoves⟩ := @attemptLoop_spec request 0 order
    refine ⟨order, horder, ?_⟩
    rw [hattempts]
    exact ⟨⟨_, hsubnets⟩, hmoves⟩

/-! ## Sequences of calls -/

def after (config : SubnetConfig) (request : HostRequest) : SubnetConfig :=
  (provisionDcvHostForSession config request).config

/-- After the calls the configuration is as it was, and each call without a subnet of its own
followed the subnets that were configured before the first one. -/
structure Keeps (config : SubnetConfig) (requests : List HostRequest) : Prop where
  unchanged : requests.foldl after config = config
  follows : ∀ e ∈ Run.edges after config requests, isEmptyString e.label.subnetId = true →
    ∃ order, IsOrder e.label config.subnets order ∧
      Follows order (provisionDcvHostForSession e.pre e.label).attempts

theorem after_of_not_draws (h : ¬ Draws config request) : after config request = config := by
  rcases provision_cases config request with ⟨_, hconfig, _⟩ | ⟨hdraws, _⟩
  · exact hconfig
  · exact absurd hdraws h

theorem size_foldl_after_le (config : SubnetConfig) (requests : List HostRequest) :
    (requests.foldl after config).size ≤ config.size := by
  induction requests generalizing config with
  | nil => exact le_rfl
  | cons request requests ih =>
    refine (ih (after config request)).trans ?_
    by_cases h : Draws config request
    · exact (size_of_draws h).le
    · rw [after_of_not_draws h]

theorem unchanged_iff {requests : List HostRequest} :
    requests.foldl after config = config ↔ ∀ request ∈ requests, ¬ Draws config request := by
  induction requests with
  | nil => simp
  | cons request requests ih =>
    rw [List.foldl_cons, List.forall_mem_cons]
    by_cases h : Draws config request
    · have hlt := (size_foldl_after_le (after config request) requests).trans_lt (size_of_draws h)
      constructor
      · intro hsame
        rw [hsame] at hlt
        exact absurd hlt (lt_irrefl _)
      · intro hno
        exact absurd h hno.1
    · rw [after_of_not_draws h, ih]
      exact ⟨fun hno => ⟨h, hno⟩, fun hno => hno.2⟩

/-- Calls keep the configuration of the subnets exactly when none of them draws from it. -/
theorem keeps_iff (config : SubnetConfig) (requests : List HostRequest) :
    Keeps config requests ↔ ∀ request ∈ requests, ¬ Draws config request := by
  constructor
  · intro h
    exact unchanged_iff.mp h.unchanged
  · intro h
    have hlabels : ∀ e ∈ Run.edges after config requests, ¬ Draws config e.label := by
      intro e he
      apply h
      rw [← Run.map_label_edges after config requests]
      exact List.mem_map_of_mem he
    have hpre : ∀ e ∈ Run.edges after config requests, e.pre = config := by
      refine (Run.of_edges after config requests).forall_edges_of (fun state => state = config)
        rfl ?_ hlabels fun hI _ _ => hI
      rintro _ request _ rfl rfl hno
      exact after_of_not_draws hno
    refine ⟨unchanged_iff.mpr h, fun e he himplicit => ?_⟩
    rw [hpre e he]
    exact follows_order himplicit

def firstLaunch : HostRequest where
  subnetId := none
  prepared := .ok ()
  randomizeSubnets := false
  subnetAutoretry := true
  shuffle := id
  shuffle_perm := fun _ => List.Perm.refl _
  runInstances := fun _ _ => .launched "i-1"

/-- After one launch the second of two subnets is left. -/
theorem launch_consumes_subnet :
    ¬ ∀ (config : SubnetConfig) (requests : List HostRequest), Keeps config requests := by
  intro h
  have hkeeps := h ⟨some ["subnet-a", "subnet-b"], some ["subnet-c"]⟩ [firstLaunch]
  exact absurd hkeeps.unchanged (by decide)

end HostProvisioning

end Idea

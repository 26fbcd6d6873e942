import Mathlib.Data.List.Infix
import Idea.Data.Dict
import Idea.Directory.ComputerAccounts
import Idea.System.Triple

/-! # Presetting a computer account

An account is preset at one domain controller. Where the directory refuses the password, the
account is deleted and the next domain controller is tried, in the handler of the refusal. A node
waits for the entry that is stored for its request.
-/

namespace Idea.ADAutomation

def AD_AUTOMATION_PRESET_COMPUTER_RETRY : String := "AD_AUTOMATION_PRESET_COMPUTER_RETRY"

def presetRetry (message : String) : Raised := .soca AD_AUTOMATION_PRESET_COMPUTER_RETRY message

structure AutomationEntry where
  instanceId : String
  nonce : String
  hostname : String
  otp : Option String
  domainController : Option String
  ou : Option String
  nodeType : String
  moduleId : String
  errorCode : Option String
  message : Option String
  status : String
  deriving DecidableEq

/-- A finished command: its code, and its description. -/
structure ShellInvocationResult where
  returncode : ℤ
  str : String
  deriving DecidableEq

structure Parties (σ : Type) where
  /-- Whether the directory has an account of the name. -/
  isExistingComputerAccount : String → σ → Except Raised Bool × σ
  /-- `secrets.choice` -/
  choice : List Char → σ → Char × σ
  shell : List String → σ → Except Raised ShellInvocationResult × σ
  /-- The error of the table, if there is one. -/
  putItem : AutomationEntry → σ → Option (String × String) × σ
  str : Raised → String

/-- What happened that the node or the directory can tell. -/
inductive Event where
  | preset (domainController oneTimePassword : String) (succeeded : Bool)
  | stored (entry : AutomationEntry)
  deriving DecidableEq

structure Automation (σ : Type) where
  parties : σ
  table : Dict (String × String) AutomationEntry
  events : List Event

structure PresetRequest extends PresetComputeHelper where
  adcli : String
  ldapRootUsername : String
  domainName : String
  /-- `domain_name.upper()` -/
  domainRealm : String
  ou : String
  socaNodeType : String
  ideaModuleId : String

abbrev Presetting (σ : Type) := Stateful (Automation σ) Raised

section Operations

variable {σ : Type} (parties : Parties σ)

def ADAutomationDAO.createAdAutomationEntry (entry : AutomationEntry) : Presetting σ Unit :=
  if isEmptyString (some entry.instanceId) then .raise (invalidParams "instance_id is required")
  else if isEmptyString (some entry.nonce) then .raise (invalidParams "nonce is required")
  else if isEmptyString (some entry.status) then .raise (invalidParams "status is required.")
  else if entry.status ∉ ["success", "fail"] then
    .raise (invalidParams "status must be one of [success, fail]")
  else ⟨fun s =>
    match parties.putItem entry s.parties with
    | (some error, world) => (.error (.clientError error.1 error.2), { s with parties := world })
    | (none, world) =>
      (.ok (), {
        parties := world
        table := s.table.set (entry.instanceId, entry.nonce) entry
        events := s.events ++ [.stored entry] })⟩

def isExistingComputerAccount (hostname : String) : Presetting σ Bool :=
  ⟨fun s =>
    let (outcome, world) := parties.isExistingComputerAccount hostname s.parties
    (outcome, { s with parties := world })⟩

def shell (cmd : List String) : Presetting σ ShellInvocationResult :=
  ⟨fun s =>
    let (outcome, world) := parties.shell cmd s.parties
    (outcome, { s with parties := world })⟩

def choice (pool : List Char) : Presetting σ Char :=
  ⟨fun s =>
    let (c, world) := parties.choice pool s.parties
    (.ok c, { s with parties := world })⟩

/-- `string.ascii_letters` -/
def asciiLetters : List Char := "abcdefghijklmnopqrstuvwxyzABCDEFGHIJKLMNOPQRSTUVWXYZ".toList

def digits : List Char := "0123456789".toList

def PresetRequest.logTag (self : PresetRequest) : String :=
  "(Host: " ++ self.hostname ++ ", InstanceId: " ++ self.instanceId ++ ", Nonce: " ++ self.nonce ++
    ")"

namespace PresetRequest

variable (self : PresetRequest)

def deleteCommand (domainController : String) : List String :=
  [self.adcli, "delete-computer", "--domain-controller=" ++ domainController,
    "--login-user=" ++ self.ldapRootUsername, "--stdin-password", "--domain=" ++ self.domainName,
    "--domain-realm=" ++ self.domainRealm, self.hostname]

def presetCommand (domainController oneTimePassword : String) : List String :=
  [self.adcli, "preset-computer", "--domain-controller=" ++ domainController,
    "--login-user=" ++ self.ldapRootUsername, "--stdin-password",
    "--one-time-password=" ++ oneTimePassword, "--domain=" ++ self.domainName,
    "--domain-ou=" ++ self.ou, "--verbose", self.hostname]

def deleteFrom : String → List String → Presetting σ Unit
  | lastError, [] =>
    .raise (presetFailed (self.logTag ++ " failed to delete computer account from all available " ++
      "domain controllers. Last error: " ++ lastError))
  | _, dcIp :: dcs => do
    match ← Stateful.attempt (shell parties (self.deleteCommand dcIp)) with
    | .ok result =>
      if result.returncode = 0 then pure ()
      else
        deleteFrom ("failed to delete computer account from DC " ++ dcIp ++ ": " ++ result.str) dcs
    | .error e =>
      deleteFrom ("exception while trying to delete computer account from DC " ++ dcIp ++ ": " ++
        parties.str e) dcs

def deleteComputer (domainControllerIp : String) (remaining : List String) : Presetting σ Unit :=
  self.deleteFrom parties "None"
    (domainControllerIp :: remaining.filter fun dc => dc ≠ domainControllerIp)

def deleteExisting (domainControllerIp : String) (remaining : List String) : Presetting σ Unit := do
  let existing ← isExistingComputerAccount parties self.hostname
  if existing then self.deleteComputer parties domainControllerIp remaining else pure ()

def oneTimePassword : Presetting σ String := do
  let first ← choice parties asciiLetters
  let rest ← Stateful.collect (fun _ => choice parties (asciiLetters ++ digits)) (List.range 119)
  pure (String.ofList (first :: rest))

def runPreset (domainControllerIp password : String) : Presetting σ ShellInvocationResult :=
  ⟨fun s =>
    let (outcome, world) := parties.shell (self.presetCommand domainControllerIp password) s.parties
    let succeeded := match outcome with
      | .ok result => decide (result.returncode = 0)
      | .error _ => false
    (outcome, { s with
      parties := world
      events := s.events ++ [.preset domainControllerIp password succeeded] })⟩

def presetComputer (domainControllerIp : String) : Presetting σ String := do
  let password ← oneTimePassword parties
  if password.toList.length ≠ 120 then
    .raise (presetFailed (self.logTag ++
      " Internal error - Failed to generate a strong domain OTP password"))
  else do
    let result ← self.runPreset parties domainControllerIp password
    if result.returncode ≠ 0 then
      .raise (presetFailed (self.logTag ++ " failed to preset-computer. details: " ++ result.str))
    else pure password

def successEntry (oneTimePassword domainController : String) : AutomationEntry where
  instanceId := self.instanceId
  nonce := self.nonce
  hostname := self.hostname
  otp := some oneTimePassword
  domainController := some domainController
  ou := some self.ou
  nodeType := self.socaNodeType
  moduleId := self.ideaModuleId
  errorCode := none
  message := none
  status := "success"

def failEntry (message : String) : AutomationEntry where
  instanceId := self.instanceId
  nonce := self.nonce
  hostname := self.hostname
  otp := none
  domainController := none
  ou := none
  nodeType := self.socaNodeType
  moduleId := self.ideaModuleId
  errorCode := some AD_AUTOMATION_PRESET_COMPUTER_FAILED
  message := some message
  status := "fail"

def authenticationError : List Char :=
  "Cannot set computer password: Authentication error".toList

/-- What `invoke` does with the exceptions of its body. -/
def reporting (body : Presetting σ Unit) : Presetting σ Unit := do
  match ← Stateful.attempt body with
  | .ok () => pure ()
  | .error (.soca errorCode message) =>
    if errorCode = AD_AUTOMATION_PRESET_COMPUTER_FAILED then do
      ADAutomationDAO.createAdAutomationEntry parties (self.failEntry message)
      .raise (.soca errorCode message)
    else .raise (.soca errorCode message)
  | .error e => .raise e

/-- `invoke`, with the domain controllers that are left. -/
def invokeWith : List String → Presetting σ Unit
  | [] => self.reporting parties (.raise (presetRetry (self.logTag ++
      " all existing AD domain controllers have been tried to create computer account, but " ++
      "failed. request will be retried.")))
  | domainControllerIp :: remaining => self.reporting parties (do
    self.deleteExisting parties domainControllerIp remaining
    match ← Stateful.attempt (self.presetComputer parties domainControllerIp) with
    | .ok password =>
      ADAutomationDAO.createAdAutomationEntry parties
        (self.successEntry password domainControllerIp)
    | .error (.soca errorCode message) =>
      if errorCode = AD_AUTOMATION_PRESET_COMPUTER_FAILED then
        if authenticationError <:+: message.toList then do
          self.deleteComputer parties domainControllerIp remaining
          invokeWith remaining
        else .raise (presetRetry message)
      else .raise (.soca errorCode message)
    | .error e => .raise e)

def invoke : Presetting σ Unit := self.invokeWith parties self.domainControllerIps

end PresetRequest

end Operations

section Events

def Event.controller : Event → Option String
  | .preset domainController _ _ => some domainController
  | .stored _ => none

def Event.outcome : Event → Option (String × String × Bool)
  | .preset domainController password succeeded => some (domainController, password, succeeded)
  | .stored _ => none

def presetControllers (events : List Event) : List String := events.filterMap Event.controller

def lastPreset (events : List Event) : Option (String × String × Bool) :=
  (events.filterMap Event.outcome).getLast?

/-- A success is stored only after the preset that succeeded last, with its password. -/
def Honest (request : PresetRequest) (events : List Event) : Prop :=
  ∀ before entry after, events = before ++ .stored entry :: after → entry.status = "success" →
    ∃ domainController password, lastPreset before = some (domainController, password, true) ∧
      entry = request.successEntry password domainController

variable {self : PresetRequest} {events events' : List Event} {entry : AutomationEntry}
  {domainController password : String} {succeeded : Bool} {preset : String × String × Bool}

theorem lastPreset_append (h : lastPreset events' = some preset) :
    lastPreset (events ++ events') = some preset := by
  rw [lastPreset] at h ⊢
  rw [List.filterMap_append, List.getLast?_append, h, Option.some_or]

theorem presetControllers_append :
    presetControllers (events ++ events') = presetControllers events ++ presetControllers events' :=
  List.filterMap_append

theorem honest_nil : Honest self [] := by
  intro before entry after h
  simp at h

theorem honest_preset : Honest self [.preset domainController password succeeded] := by
  intro before entry after h
  cases before with
  | nil => simp at h
  | cons event before => simp at h

theorem honest_stored (h : entry.status ≠ "success") : Honest self [.stored entry] := by
  intro before other after hsplit hsuccess
  cases before with
  | nil =>
    simp only [List.nil_append, List.cons.injEq, Event.stored.injEq] at hsplit
    rw [hsplit.1] at h
    exact absurd hsuccess h
  | cons event before => simp at hsplit

theorem Honest.append (h : Honest self events) (h' : Honest self events') :
    Honest self (events ++ events') := by
  intro before entry after hsplit hsuccess
  rcases List.append_eq_append_iff.mp hsplit with ⟨rest, rfl, hrest⟩ | ⟨rest, hevents, hrest⟩
  · obtain ⟨domainController, password, hlast, hentry⟩ := h' rest entry after hrest hsuccess
    exact ⟨domainController, password, lastPreset_append hlast, hentry⟩
  · cases rest with
    | nil =>
      rw [List.append_nil] at hevents
      subst hevents
      obtain ⟨_, _, hlast, -⟩ := h' [] entry after hrest.symm hsuccess
      cases hlast
    | cons event rest =>
      obtain ⟨rfl, -⟩ := List.cons.inj hrest
      exact h before entry rest hevents hsuccess

theorem honest_success :
    Honest self [.preset domainController password true,
      .stored (self.successEntry password domainController)] := by
  intro before entry after hsplit hsuccess
  match before with
  | [] => simp at hsplit
  | [event] =>
    simp only [List.cons_append, List.nil_append, List.cons.injEq, Event.stored.injEq] at hsplit
    exact ⟨domainController, password, by rw [← hsplit.1]; rfl, hsplit.2.1.symm⟩
  | _ :: _ :: before => simp at hsplit

end Events

section Steps

variable {σ : Type} {parties : Parties σ} {self : PresetRequest}
  {table : Dict (String × String) AutomationEntry} {events : List Event}

/-- The table and the events so far, whatever state the other parties are in. -/
def At (table : Dict (String × String) AutomationEntry) (events : List Event)
    (s : Automation σ) : Prop :=
  s.table = table ∧ s.events = events

theorem keeps_shell (cmd : List String) : Stateful.Keeps (At table events) (shell parties cmd) := by
  intro s r s' hs hrun
  obtain ⟨rfl, rfl⟩ := Prod.mk.inj hrun
  exact ⟨fun _ _ => ⟨hs, trivial⟩, fun _ _ => hs⟩

theorem keeps_choice (pool : List Char) :
    Stateful.Keeps (At table events) (choice parties pool) := by
  intro s r s' hs hrun
  obtain ⟨rfl, rfl⟩ := Prod.mk.inj hrun
  exact ⟨fun _ _ => ⟨hs, trivial⟩, fun _ _ => hs⟩

theorem keeps_isExistingComputerAccount (hostname : String) :
    Stateful.Keeps (At table events) (isExistingComputerAccount parties hostname) := by
  intro s r s' hs hrun
  obtain ⟨rfl, rfl⟩ := Prod.mk.inj hrun
  exact ⟨fun _ _ => ⟨hs, trivial⟩, fun _ _ => hs⟩

theorem keeps_deleteFrom (lastError : String) (dcs : List String) :
    Stateful.Keeps (At table events) (self.deleteFrom parties lastError dcs) := by
  induction dcs generalizing lastError with
  | nil => exact Stateful.Yields.raise
  | cons dcIp dcs ih =>
    apply Stateful.Ends.bind (Stateful.Ends.attempt (keeps_shell _))
    rintro (e | result) -
    · exact ih _
    · apply Stateful.Ends.ite
      · exact fun _ => Stateful.Ends.pure trivial
      · exact fun _ => ih _

theorem keeps_deleteComputer (domainControllerIp : String) (remaining : List String) :
    Stateful.Keeps (At table events)
      (self.deleteComputer parties domainControllerIp remaining) :=
  keeps_deleteFrom _ _

theorem keeps_deleteExisting (domainControllerIp : String) (remaining : List String) :
    Stateful.Keeps (At table events)
      (self.deleteExisting parties domainControllerIp remaining) := by
  apply Stateful.Ends.bind (keeps_isExistingComputerAccount _)
  intro existing _
  apply Stateful.Ends.ite
  · exact fun _ => keeps_deleteComputer _ _
  · exact fun _ => Stateful.Ends.pure trivial

theorem keeps_oneTimePassword :
    Stateful.Keeps (At table events) (PresetRequest.oneTimePassword parties) := by
  apply Stateful.Ends.bind (keeps_choice _)
  intro first _
  apply Stateful.Ends.bind (Stateful.Ends.collect fun _ _ => keeps_choice _)
  intro rest _
  exact Stateful.Ends.pure trivial

theorem runPreset_spec (domainControllerIp password : String) :
    Stateful.Triple (At table events) (self.runPreset parties domainControllerIp password)
      (fun result => At table
        (events ++ [.preset domainControllerIp password (decide (result.returncode = 0))]))
      fun _ => At table (events ++ [.preset domainControllerIp password false]) := by
  rintro s r s' ⟨rfl, rfl⟩ hrun
  obtain ⟨hr, rfl⟩ := Prod.mk.inj hrun
  rw [← hr]
  constructor
  · intro result hresult
    exact ⟨rfl, by simp only [hresult]⟩
  · intro e he
    exact ⟨rfl, by simp only [he]⟩

theorem presetComputer_spec (domainControllerIp : String) :
    Stateful.Triple (At table events) (self.presetComputer parties domainControllerIp)
      (fun password => At table (events ++ [.preset domainControllerIp password true]))
      fun _ s => At table events s ∨
        ∃ password, At table (events ++ [.preset domainControllerIp password false]) s := by
  apply Stateful.Triple.bind
    (Stateful.Triple.consequence keeps_oneTimePassword (fun _ h => h) (fun _ _ h => h.1)
      fun _ _ h => Or.inl h)
  intro password
  apply Stateful.Triple.ite
  · exact fun _ => Stateful.Triple.raise fun _ hs => Or.inl hs
  · intro _
    apply Stateful.Triple.bind
      (Stateful.Triple.consequence (runPreset_spec domainControllerIp password) (fun _ h => h)
        (fun _ _ h => h) fun _ _ h => Or.inr ⟨password, h⟩)
    intro result
    apply Stateful.Triple.ite
    · intro hcode
      apply Stateful.Triple.raise
      intro s hs
      rw [decide_eq_false hcode] at hs
      exact Or.inr ⟨password, hs⟩
    · intro hcode
      apply Stateful.Triple.pure
      intro s hs
      rwa [decide_eq_true (not_not.mp hcode)] at hs

theorem createAdAutomationEntry_spec (parties : Parties σ)
    (table : Dict (String × String) AutomationEntry) (events : List Event)
    (entry : AutomationEntry) :
    Stateful.Triple (At table events)
      (ADAutomationDAO.createAdAutomationEntry parties entry)
      (fun _ => At (table.set (entry.instanceId, entry.nonce) entry)
        (events ++ [.stored entry]))
      fun e s => At table events s ∧ ∀ message, e ≠ presetFailed message := by
  have hraise : ∀ info : String, Stateful.Triple (At table events)
      (.raise (invalidParams info) : Presetting σ Unit)
      (fun _ => At (table.set (entry.instanceId, entry.nonce) entry)
        (events ++ [.stored entry]))
      fun e s => At table events s ∧ ∀ message, e ≠ presetFailed message := by
    intro info
    apply Stateful.Triple.raise
    exact fun s hs => ⟨hs, fun message h => absurd (Raised.soca.inj h).1 (by decide)⟩
  unfold ADAutomationDAO.createAdAutomationEntry
  apply Stateful.Triple.ite (fun _ => hraise _) fun _ => ?_
  apply Stateful.Triple.ite (fun _ => hraise _) fun _ => ?_
  apply Stateful.Triple.ite (fun _ => hraise _) fun _ => ?_
  apply Stateful.Triple.ite (fun _ => hraise _) fun _ => ?_
  rintro s r s' ⟨rfl, rfl⟩ hrun
  cases hput : parties.putItem entry s.parties with
  | mk error world =>
    simp only [hput] at hrun
    cases error with
    | none =>
      obtain ⟨rfl, rfl⟩ := Prod.mk.inj hrun
      exact ⟨fun _ _ => ⟨rfl, rfl⟩, fun e he => nomatch he⟩
    | some error =>
      obtain ⟨rfl, rfl⟩ := Prod.mk.inj hrun
      refine ⟨fun _ h => (nomatch h), fun e he => ⟨⟨rfl, rfl⟩, fun message h => ?_⟩⟩
      rw [h] at he
      cases he

/-- What happened since, with at most one preset for each of the domain controllers. -/
structure Since (request : PresetRequest) (ips : List String) (events : List Event)
    (s : Automation σ) (later : List Event) : Prop where
  events_eq : s.events = events ++ later
  controllers : (presetControllers later).Sublist ips
  honest : Honest request later

structure Ended (request : PresetRequest) (ips : List String) (events : List Event)
    (outcome : Except Raised Unit) (s : Automation σ) (later : List Event) : Prop
    extends Since request ips events s later where
  returned : outcome = .ok () → ∃ domainController password,
    lastPreset later = some (domainController, password, true) ∧
      s.table.get? (request.instanceId, request.nonce) =
        some (request.successEntry password domainController)
  failed : ∀ message, outcome = .error (presetFailed message) →
    s.table.get? (request.instanceId, request.nonce) = some (request.failEntry message)

variable {ips : List String} {outcome : Except Raised Unit} {s : Automation σ}
  {later : List Event}

theorem Since.refl (h : At table events s) : Since self ips events s [] where
  events_eq := by rw [h.2, List.append_nil]
  controllers := List.nil_sublist _
  honest := honest_nil

theorem Since.prepend {domainController : String} {first : List Event}
    (hfirst : (presetControllers first).Sublist [domainController]) (hhonest : Honest self first)
    (h : Since self ips (events ++ first) s later) :
    Since self (domainController :: ips) events s (first ++ later) where
  events_eq := by rw [h.events_eq, List.append_assoc]
  controllers := by
    rw [presetControllers_append]
    exact hfirst.append h.controllers
  honest := hhonest.append h.honest

theorem Ended.prepend {domainController : String} {first : List Event}
    (hfirst : (presetControllers first).Sublist [domainController]) (hhonest : Honest self first)
    (h : Ended self ips (events ++ first) outcome s later) :
    Ended self (domainController :: ips) events outcome s (first ++ later) where
  toSince := h.toSince.prepend hfirst hhonest
  returned hok := by
    obtain ⟨controller, password, hlast, htable⟩ := h.returned hok
    exact ⟨controller, password, lastPreset_append hlast, htable⟩
  failed := h.failed

theorem reporting_spec {body : Presetting σ Unit} {P : Automation σ → Prop}
    (h : Stateful.Triple P body
      (fun _ s => ∃ later, Ended self ips events (.ok ()) s later)
      fun _ s => ∃ later, Since self ips events s later) :
    Stateful.Triple P (self.reporting parties body)
      (fun _ s => ∃ later, Ended self ips events (.ok ()) s later)
      fun e s => ∃ later, Ended self ips events (.error e) s later := by
  apply Stateful.Triple.bind (Stateful.Triple.attempt h)
  rintro (e | _)
  · have hothers : ∀ e : Raised, (∀ message, e ≠ presetFailed message) →
        Stateful.Triple (fun s : Automation σ => ∃ later, Since self ips events s later)
          (.raise e : Presetting σ Unit)
          (fun _ s => ∃ later, Ended self ips events (.ok ()) s later)
          fun e s => ∃ later, Ended self ips events (.error e) s later := by
      intro e hne
      apply Stateful.Triple.raise
      rintro s ⟨later, hsince⟩
      exact ⟨later, hsince, fun h => (nomatch h), fun message h => absurd (Except.error.inj h)
        (hne message)⟩
    refine Stateful.Triple.pre
      (?_ : Stateful.Triple (fun s => ∃ later, Since self ips events s later) _ _ _)
      fun s hs => hs.2 e rfl
    cases e with
    | soca errorCode message =>
      apply Stateful.Triple.ite
      · rintro rfl
        apply Stateful.Triple.of_forall
        rintro s ⟨later, hsince⟩
        apply Stateful.Triple.of_state (s := s) (P := At s.table s.events) ⟨rfl, rfl⟩
        apply Stateful.Triple.bind
          (Stateful.Triple.consequence (createAdAutomationEntry_spec parties _ _ (self.failEntry message))
            (fun _ h => h) (fun _ _ h => h) ?_)
        · intro _
          apply Stateful.Triple.raise
          rintro s' ⟨htable, hevents⟩
          refine ⟨later ++ [.stored (self.failEntry message)], ⟨?_, ?_, ?_⟩, fun h => (nomatch h),
            fun message' h => ?_⟩
          · rw [hevents, hsince.events_eq, List.append_assoc]
          · rw [presetControllers_append]
            exact (List.append_nil _).symm ▸ hsince.controllers
          · exact hsince.honest.append (honest_stored (show "fail" ≠ "success" by decide))
          · obtain rfl := (Raised.soca.inj (Except.error.inj h)).2
            rw [htable]
            exact (Dict.get?_set _ _ _ _).trans (if_pos rfl)
        · rintro e s' ⟨⟨htable, hevents⟩, hne⟩
          exact ⟨later, ⟨hevents.trans hsince.events_eq, hsince.controllers, hsince.honest⟩,
            fun h => (nomatch h), fun message h => absurd (Except.error.inj h) (hne message)⟩
      · exact fun hcode => hothers _ fun message h => hcode (Raised.soca.inj h).1
    | _ => exact hothers _ fun message h => nomatch h
  · exact Stateful.Triple.pure fun s hs => hs.1 () rfl

theorem invokeWith_spec (self : PresetRequest) (parties : Parties σ) (ips : List String)
    (table : Dict (String × String) AutomationEntry) (events : List Event) :
    Stateful.Triple (At table events) (self.invokeWith parties ips)
      (fun _ s => ∃ later, Ended self ips events (.ok ()) s later)
      fun e s => ∃ later, Ended self ips events (.error e) s later := by
  induction ips generalizing table events with
  | nil =>
    apply reporting_spec
    exact Stateful.Triple.raise fun s hs => ⟨[], Since.refl hs⟩
  | cons domainControllerIp remaining ih =>
    apply reporting_spec
    apply Stateful.Triple.bind (Stateful.Ends.triple (keeps_deleteExisting _ _)
      fun _ _ hs => ⟨[], Since.refl hs⟩)
    intro _
    apply Stateful.Triple.bind (Stateful.Triple.attempt (presetComputer_spec domainControllerIp))
    rintro (e | password)
    · apply Stateful.Triple.of_forall
      intro s hs
      obtain ⟨first, hat, hfirst, hhonest⟩ : ∃ first, At table (events ++ first) s ∧
          (presetControllers first).Sublist [domainControllerIp] ∧ Honest self first := by
        rcases hs.2 e rfl with hs | ⟨password, hs⟩
        · exact ⟨[], by rwa [List.append_nil], List.nil_sublist _, honest_nil⟩
        · exact ⟨_, hs, List.Sublist.refl _, honest_preset⟩
      apply Stateful.Triple.of_state hat
      have hsince : ∀ s : Automation σ, At table (events ++ first) s →
          ∃ later, Since self (domainControllerIp :: remaining) events s later :=
        fun s hs => ⟨_, (Since.refl hs).prepend hfirst hhonest⟩
      cases e with
      | soca errorCode message =>
        apply Stateful.Triple.ite
        · intro _
          apply Stateful.Triple.ite
          · -- the domain controllers that are left are fewer
            intro _
            apply Stateful.Triple.bind
              (Stateful.Ends.triple (keeps_deleteComputer _ _) fun _ => hsince)
            intro _
            apply (ih table (events ++ first)).consequence (fun _ h => h)
            · rintro _ s ⟨later, hended⟩
              exact ⟨_, hended.prepend hfirst hhonest⟩
            · rintro _ s ⟨later, hended⟩
              exact ⟨_, hended.toSince.prepend hfirst hhonest⟩
          · exact fun _ => Stateful.Triple.raise hsince
        · exact fun _ => Stateful.Triple.raise hsince
      | _ => exact Stateful.Triple.raise hsince
    · have hcreate := createAdAutomationEntry_spec parties table
        (events ++ [.preset domainControllerIp password true])
        (self.successEntry password domainControllerIp)
      apply hcreate.consequence fun s hs => hs.1 password rfl
      · rintro _ s ⟨htable, hevents⟩
        refine ⟨[.preset domainControllerIp password true,
          .stored (self.successEntry password domainControllerIp)],
          ⟨?_, ?_, honest_success⟩, fun _ => ⟨_, _, rfl, ?_⟩, fun _ h => (nomatch h)⟩
        · rw [hevents, List.append_assoc]
          rfl
        · exact (List.nil_sublist remaining).cons_cons domainControllerIp
        · rw [htable]
          exact (Dict.get?_set _ _ _ _).trans (if_pos rfl)
      · rintro e s ⟨hs, -⟩
        exact ⟨[.preset domainControllerIp password true], hs.2,
          (List.nil_sublist remaining).cons_cons domainControllerIp, honest_preset⟩

/-- At most one preset is tried at each domain controller. A success is stored only for the preset
that succeeded last. It is there when the invocation returns, and a failure when it fails. -/
theorem invoke_truthful (self : PresetRequest) (parties : Parties σ) (s : Automation σ) :
    ∃ later, ((self.invoke parties).run s).2.events = s.events ++ later ∧
      (presetControllers later).Sublist self.domainControllerIps ∧ Honest self later ∧
      (((self.invoke parties).run s).1 = .ok () → ∃ domainController password,
        lastPreset later = some (domainController, password, true) ∧
        ((self.invoke parties).run s).2.table.get? (self.instanceId, self.nonce) =
          some (self.successEntry password domainController)) ∧
      ∀ message, ((self.invoke parties).run s).1 = .error (presetFailed message) →
        ((self.invoke parties).run s).2.table.get? (self.instanceId, self.nonce) =
          some (self.failEntry message) := by
  have hspec := invokeWith_spec self parties self.domainControllerIps s.table s.events
  obtain ⟨later, hended⟩ : ∃ later, Ended self self.domainControllerIps s.events
      ((self.invoke parties).run s).1 ((self.invoke parties).run s).2 later := by
    cases hrun : (self.invoke parties).run s with
    | mk outcome s' =>
      cases outcome with
      | ok u => exact hspec.ok ⟨rfl, rfl⟩ hrun
      | error e => exact hspec.error ⟨rfl, rfl⟩ hrun
  exact ⟨later, hended.events_eq, hended.controllers, hended.honest, hended.returned, hended.failed⟩

end Steps

end Idea.ADAutomation

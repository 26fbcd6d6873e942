import Idea.JobMonitor.Pricing
import Idea.JobParams.Network

/-! # The builders for the other parameters

Metrics, licenses, the stack and the group of a job, the templates of its emails, its walltime, and
the options of its compute nodes.
-/

namespace Idea

namespace Constants

def DEFAULT_ENABLE_SYSTEM_METRICS : Bool := false
def DEFAULT_TERMINATE_WHEN_IDLE : ℤ := 0
def DEFAULT_KEEP_FOREVER : Bool := false

end Constants

namespace EnableSystemMetricsParamBuilder

variable (ctx : BuilderContext)

def get : Option Bool := ctx.params.getEitherAsBool "system_metrics" "enable_system_metrics"

def default : Bool :=
  (ctx.queueDefault (·.enableSystemMetrics)).getD Constants.DEFAULT_ENABLE_SYSTEM_METRICS

def validate : Except Raised Verdict := ctx.validateGiven "enable_system_metrics" (get ctx)

def apply (built : Built) : Built :=
  { built with params.enableSystemMetrics := some ((get ctx).getD (default ctx)) }

end EnableSystemMetricsParamBuilder

namespace EnableAnonymousMetricsParamBuilder

variable (ctx : BuilderContext)

def get : Option Bool :=
  ctx.params.getEitherAsBool "anonymous_metrics" "enable_anonymous_metrics"

def default : Bool :=
  (ctx.queueDefault (·.enableAnonymousMetrics)).getD ctx.soca.enableSolutionMetrics

def validate : Except Raised Verdict := ctx.validateGiven "enable_anonymous_metrics" (get ctx)

def apply (built : Built) : Built :=
  { built with params.enableAnonymousMetrics := some ((get ctx).getD (default ctx)) }

end EnableAnonymousMetricsParamBuilder

namespace KeepForeverOptionBuilder

variable (ctx : BuilderContext)

def get : Option Bool := ctx.params.getValueAsBool "keep_forever"

def default : Bool := (ctx.queue.bind (·.keepForever)).getD Constants.DEFAULT_KEEP_FOREVER

def validate : Except Raised Verdict := .ok .pass

def apply (built : Built) : Built :=
  { built with keepForever := some ((get ctx).getD (default ctx)) }

end KeepForeverOptionBuilder

namespace TerminateWhenIdleOptionBuilder

variable (ctx : BuilderContext)

def get : Except Raised (Option ℤ) := ctx.params.getValueAsInt "terminate_when_idle"

def default : ℤ :=
  (ctx.queue.bind (·.terminateWhenIdle)).getD Constants.DEFAULT_TERMINATE_WHEN_IDLE

def validate : Except Raised Verdict := do
  match ← get ctx with
  | none => .ok .pass
  | some terminateWhenIdle => .ok (evalPositiveInt "terminate_when_idle" terminateWhenIdle)

def apply (built : Built) : Except Raised Built := do
  let terminateWhenIdle ← get ctx
  .ok { built with terminateWhenIdle := some (terminateWhenIdle.getD (default ctx)) }

end TerminateWhenIdleOptionBuilder

namespace TagsOptionBuilder

variable (ctx : BuilderContext)

def read : Except String (Option (List (String × String))) :=
  match ctx.params.getValueAsString "tags" with
  | none => .ok none
  | some tags => (ctx.soca.literalEval tags).map some

def validate : Except Raised Verdict :=
  match read ctx with
  | .ok _ => .ok .pass
  | .error e => .ok (.fail "tags" ("tags should be a valid dictionary. Error: " ++ e))

def get : Option (List (String × String)) :=
  match read ctx with
  | .ok tags => tags
  | .error _ => none

def apply (built : Built) : Built := { built with tags := get ctx }

end TagsOptionBuilder

namespace LicensesParamBuilder

variable (ctx : BuilderContext)

def isLicense (key : String) : Bool := key.toList.tails.any ("_lic_".toList.isPrefixOf ·)

def asks : Except Raised (List (String × ℤ)) := do
  let keys := ctx.params.values.keys.filter isLicense
  let counts ← keys.mapM ctx.params.getValueAsInt
  .ok ((keys.zip counts).filterMap fun pair => pair.2.map (pair.1, ·))

def get : Except Raised (Option (List (String × ℤ))) := do
  let licenses ← asks ctx
  .ok (if licenses = [] then none else some licenses)

def countText (ask : String × ℤ) : String := "'" ++ ask.1 ++ "': " ++ toString ask.2

/-- Each restricted license has an entry, and the others without a positive count share one. -/
def validate : Except Raised Verdict := do
  match ← get ctx with
  | none => .ok .pass
  | some licenses =>
    let restricted := licenses.filter fun ask => (ctx.restrictedName? ask.1).isSome
    let invalid := licenses.filter fun ask => (ctx.restrictedName? ask.1).isNone && ask.2 ≤ 0
    let verdicts ← restricted.mapM fun ask => ctx.unlessRestricted ask.1 (.ok .pass)
    .ok (verdicts.foldr .both
      (.check invalid.isEmpty "licenses" ("Invalid license values: \x7b" ++
        ", ".intercalate (invalid.map countText) ++
        "\x7d. License values must be a valid non-zero int.")))

def apply (built : Built) : Except Raised Built := do
  let licenses ← get ctx
  .ok { built with
    params.licenses := licenses.map fun licenses =>
      licenses.map fun ask => { name := some ask.1, count := some ask.2 } }

end LicensesParamBuilder

/-- A match of `pattern` at the start of a text, where the pattern is plain text, one character of a
class, and plain text again. A repetition count with a space in it is plain text. -/
def matchesPattern (lead : List Char) (allowed : Char → Bool) (rest : List Char)
    (text : List Char) : Bool :=
  lead.isPrefixOf text &&
    match text.drop lead.length with
    | [] => false
    | c :: after => allowed c && rest.isPrefixOf after

def isLowerAlphanum (c : Char) : Bool := c.isLower || c.isDigit

namespace ComputeStackParamBuilder

variable (ctx : BuilderContext)

def get : Option String :=
  (ctx.params.getValueAsString "compute_node").or (ctx.params.getValueAsString "compute_stack")

def default : Option String := ctx.queueDefault (·.computeStack)

def stackPrefix : String := SocaJob.sanitize ctx.soca.clusterName.text

def matchesName (computeStack : String) : Bool :=
  matchesPattern ((stackPrefix ctx).toList ++ ['-']) (fun c => isLowerAlphanum c || c = '-')
    "\x7b5, 50\x7d".toList computeStack.toList

def validate : Except Raised Verdict :=
  match get ctx with
  | none => .ok .pass
  | some computeStack => ctx.unlessRestricted "compute_stack" <|
    if (stripChars computeStack.toList).map Char.toLower = "tbd".toList then .ok .pass
    else
      .ok (.check (matchesName ctx computeStack) "compute_stack"
        ("stack_id must match the pattern: /" ++ stackPrefix ctx ++
          "-([a-z0-9-])\x7b5, 50\x7d/g"))

def apply (built : Built) : Built :=
  { built with params.computeStack := (get ctx).or (default ctx) }

end ComputeStackParamBuilder

namespace StackIdParamBuilder

variable (ctx : BuilderContext)

def get : Option String := ctx.params.getValueAsString "stack_id"

def default : Option String := ctx.queueDefault (·.stackId)

def validate : Except Raised Verdict := ctx.validateGiven "stack_id" (get ctx)

def apply (built : Built) : Built := { built with params.stackId := (get ctx).or (default ctx) }

end StackIdParamBuilder

namespace JobGroupParamBuilder

variable (ctx : BuilderContext)

def get : Option String := ctx.params.getValueAsString "job_group"

def default : Option String := ctx.queueDefault (·.jobGroup)

def matchesName (jobGroup : String) : Bool :=
  matchesPattern "custom-".toList isLowerAlphanum "\x7b1, 10\x7d".toList jobGroup.toList

def validate : Except Raised Verdict :=
  match get ctx with
  | none => .ok .pass
  | some jobGroup => ctx.unlessRestricted "job_group" <|
    .ok (.check (matchesName jobGroup) "compute_stack"
      "stack_id must match the pattern: /custom-([a-z0-9])\x7b1, 10\x7d/g")

def apply (built : Built) : Built := { built with params.jobGroup := (get ctx).or (default ctx) }

end JobGroupParamBuilder

namespace JobStartedEmailTemplateParamBuilder

variable (ctx : BuilderContext)

def get : Option String := ctx.params.getValueAsString "job_started_email_template"

def validate : Except Raised Verdict := ctx.validateGiven "job_started_email_template" (get ctx)

def apply (built : Built) : Built := { built with params.jobStartedEmailTemplate := get ctx }

end JobStartedEmailTemplateParamBuilder

namespace JobCompletedEmailTemplateParamBuilder

variable (ctx : BuilderContext)

def get : Option String := ctx.params.getValueAsString "job_completed_email_template"

def validate : Except Raised Verdict := ctx.validateGiven "job_completed_email_template" (get ctx)

def apply (built : Built) : Built := { built with params.jobCompletedEmailTemplate := get ctx }

end JobCompletedEmailTemplateParamBuilder

namespace WalltimeParamBuilder

variable (ctx : BuilderContext)

def get : Option String := ctx.params.getValueAsString "walltime"

def default : Option String := ctx.queueDefault (·.walltime)

def validate : Except Raised Verdict :=
  match get ctx with
  | none => .ok .pass
  | some walltime =>
    match walltimeToSeconds walltime with
    | .error .valueError => .ok (.fail "walltime" ("Invalid walltime: " ++ walltime ++
        ". Walltime must be of format - hours:minutes:seconds. eg. 02:30:00"))
    | .error e => .error e
    | .ok seconds => .ok (evalPositiveInt "walltime" seconds)

def apply (built : Built) : Built := { built with params.walltime := (get ctx).or (default ctx) }

end WalltimeParamBuilder

namespace CustomParamsParamBuilder

def validate : Except Raised Verdict := .ok .refuse

def apply (built : Built) : Built := built

end CustomParamsParamBuilder

end Idea

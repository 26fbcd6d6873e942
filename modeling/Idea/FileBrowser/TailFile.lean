import Idea.FileBrowser.CheckAccess
import Idea.System.Run

/-! # Following a file

A request for the end of a file returns lines and a token, and a request that brings a token back
goes on from there. The token says where the reading stopped, and when.
-/

namespace Idea.FileBrowser

def TAIL_FILE_MAX_LINE_COUNT : ℤ := 10000

def TAIL_FILE_DEFAULT_LINE_COUNT : ℤ := 1000

def TAIL_FILE_MIN_INTERVAL_SECONDS : ℤ := 5

def FILE_NOT_FOUND : String := "FILE_NOT_FOUND"

def FILE_BROWSER_NOT_A_TEXT_FILE : String := "NOT_A_TEXT_FILE"

def FILE_BROWSER_TAIL_THROTTLE : String := "TAIL_THROTTLE"

structure TailFileRequest where
  file : String
  nextToken : Option String
  lineCount : Option ℤ

structure TailFileResult where
  file : String
  nextToken : String
  lines : List String

/-- The directory of the data, and how texts are put into tokens and taken out of them. -/
structure Config where
  dataMountDir : Option String
  base64Encode : String → String
  base64Decode : String → Except Raised String

/-- What the host says while a request is served: about the file, the limit of requests, the user's
permissions, the time before and after reading, and what it reads. -/
structure Answers where
  isFile : Bool
  rateLimit : Except Raised Unit
  granted : CheckType → Bool
  fileSize : ℕ
  isBinary : Bool
  now : ℤ
  afterwards : ℤ
  readFrom : ℤ → ℤ → Except Raised (List String × ℤ)
  prefetch : ℤ → List String
  endOfFile : ℤ

def maxFileSize : ℕ := 10 * 1024 * 1024 * 1024

def precheck (request : TailFileRequest) (answers : Answers) : Except Raised Unit :=
  if !answers.isFile then .error (.soca FILE_NOT_FOUND ("File not found: " ++ request.file))
  else answers.rateLimit

def gigabytes (size : ℕ) : String :=
  String.ofList (Decimal.fixedText (Decimal.roundHalfEven (size / 1024 ^ 3 * 100)) 2)

def postcheck (answers : Answers) : Except Raised Unit :=
  if answers.fileSize > maxFileSize then
    .error (.soca FILE_BROWSER_NOT_A_TEXT_FILE
      (s!"file is too large ({gigabytes answers.fileSize} GB) for tail operations. " ++
        "Maximum supported size is 10GB."))
  else if answers.isBinary then
    .error (.soca FILE_BROWSER_NOT_A_TEXT_FILE
      "file is not a text file. download the binary file instead.")
  else .ok ()

def isInitialRequest (request : TailFileRequest) : Bool := isEmptyString request.nextToken

def maxLineCount (request : TailFileRequest) : ℤ :=
  min (request.lineCount.getD TAIL_FILE_DEFAULT_LINE_COUNT) TAIL_FILE_MAX_LINE_COUNT

/-- `Utils.get_as_int` where a number is needed. -/
def requiredInt (text : String) : Except Raised ℤ := do
  match ← textAsInt text with
  | none => .error .typeError
  | some n => pure n

def throttled : Raised :=
  .soca FILE_BROWSER_TAIL_THROTTLE
    "tail file request throttled. subsequent requests should be called at 5 seconds frequency"

def continueFrom (config : Config) (request : TailFileRequest) (answers : Answers)
    (token : String) : Except Raised (List String × ℤ) := do
  let cursor ← config.base64Decode token
  let cursorTokens := (cursor.toList.splitOn ';').map String.ofList
  match cursorTokens[1]? with
  | none => .error .indexError
  | some second =>
    let lastRead ← requiredInt second
    if answers.now - lastRead < TAIL_FILE_MIN_INTERVAL_SECONDS * 1000 then .error throttled
    else
      let offset ← requiredInt (cursorTokens.headD "")
      answers.readFrom offset (maxLineCount request)

def readLines (config : Config) (request : TailFileRequest) (answers : Answers) :
    Except Raised (List String × ℤ) :=
  if isInitialRequest request then
    .ok ((answers.prefetch (maxLineCount request)).map strip, answers.endOfFile)
  else continueFrom config request answers (request.nextToken.getD "")

def checkInitial (config : Config) (request : TailFileRequest) (answers : Answers) :
    Except Raised Unit :=
  if isInitialRequest request then
    checkAccess config.dataMountDir answers.granted request.file false true false
  else .ok ()

def tailFile (config : Config) (request : TailFileRequest) (answers : Answers) :
    Except Raised TailFileResult := do
  precheck request answers
  checkInitial config request answers
  postcheck answers
  let (lines, position) ← readLines config request answers
  pure
    { file := request.file
      nextToken := config.base64Encode s!"{position};{answers.afterwards}"
      lines }

structure Served where
  username : String
  request : TailFileRequest
  answers : Answers
  result : TailFileResult

structure Call where
  username : String
  request : TailFileRequest
  answers : Answers

/-- Users send requests one after the other, and the answered ones are remembered. -/
inductive Step (config : Config) : List Served → Call → List Served → Prop
  | answered {history : List Served} {call : Call} {result : TailFileResult} :
      tailFile config call.request call.answers = .ok result →
      Step config history call (history ++ [⟨call.username, call.request, call.answers, result⟩])
  | refused {history : List Served} {call : Call} {e : Raised} :
      tailFile config call.request call.answers = .error e → Step config history call history

/-- The check for reading the file succeeds for the user. -/
def Permitted (config : Config) (request : TailFileRequest) (answers : Answers) : Prop :=
  checkAccess config.dataMountDir answers.granted request.file false true false = .ok ()

/-- A token that goes back to an initial request of the user for the file, for which the check
succeeded. -/
inductive Rooted (config : Config) (history : List Served) (username file : String) :
    String → Prop
  | initial {served : Served} : served ∈ history → served.username = username →
      served.request.file = file → isInitialRequest served.request = true →
      Permitted config served.request served.answers →
      Rooted config history username file served.result.nextToken
  | continued {served : Served} {token : String} : served ∈ history →
      served.username = username → served.request.file = file →
      isInitialRequest served.request = false → served.request.nextToken = some token →
      Rooted config history username file token →
      Rooted config history username file served.result.nextToken

/-- Lines are returned for an initial request whose check succeeds, or for a token that goes back to
one. -/
def Justified (config : Config) : Edge (List Served) Call → Prop
  | ⟨history, call, _⟩ => (∃ result, tailFile config call.request call.answers = .ok result) →
    if isInitialRequest call.request then Permitted config call.request call.answers
    else ∃ token, call.request.nextToken = some token ∧
      Rooted config history call.username call.request.file token

/-- Nothing but the permission keeps the request from being answered. -/
def Passes (config : Config) (call : Call) : Prop :=
  precheck call.request call.answers = .ok () ∧ postcheck call.answers = .ok () ∧
    ∃ lines, readLines config call.request call.answers = .ok lines

/-- A token that is brought back was returned to the same user for the same file, unless the request
is refused for another reason. -/
def BroughtBack (config : Config) : Edge (List Served) Call → Prop
  | ⟨history, call, _⟩ => Passes config call → isInitialRequest call.request = false →
    ∃ served ∈ history, served.username = call.username ∧
      served.request.file = call.request.file ∧
      call.request.nextToken = some served.result.nextToken

variable {config : Config} {history history' : List Served} {call : Call}
  {username file token : String}

theorem tailFile_eq_ok_iff :
    (∃ result, tailFile config call.request call.answers = .ok result) ↔
      Passes config call ∧
        (isInitialRequest call.request = true → Permitted config call.request call.answers) := by
  simp only [tailFile, Raised.bind_eq_ok, Passes, checkInitial, Permitted]
  constructor
  · rintro ⟨result, ⟨⟩, hpre, ⟨⟩, hcheck, ⟨⟩, hpost, lines, hlines, -⟩
    refine ⟨⟨hpre, hpost, lines, hlines⟩, fun hinitial => ?_⟩
    rwa [if_pos hinitial] at hcheck
  · rintro ⟨⟨hpre, hpost, lines, hlines⟩, hinitial⟩
    refine ⟨_, (), hpre, (), ?_, (), hpost, lines, hlines, rfl⟩
    split
    · rename_i h
      exact hinitial h
    · rfl

theorem Rooted.mono (h : Rooted config history username file token)
    (hsub : ∀ served ∈ history, served ∈ history') :
    Rooted config history' username file token := by
  induction h with
  | initial hmem hu hf hi hp => exact .initial (hsub _ hmem) hu hf hi hp
  | continued hmem hu hf hi ht _ ih => exact .continued (hsub _ hmem) hu hf hi ht ih

theorem Rooted.returned (h : Rooted config history username file token) :
    ∃ served ∈ history, served.username = username ∧ served.request.file = file ∧
      token = served.result.nextToken := by
  cases h with
  | initial hmem hu hf => exact ⟨_, hmem, hu, hf, rfl⟩
  | continued hmem hu hf => exact ⟨_, hmem, hu, hf, rfl⟩

/-- All tokens that were returned go back to initial requests. -/
def AllRooted (config : Config) (history : List Served) : Prop :=
  ∀ served ∈ history,
    Rooted config history served.username served.request.file served.result.nextToken

theorem justified_of_broughtBack (h : AllRooted config history)
    (hback : BroughtBack config ⟨history, call, history'⟩) :
    Justified config ⟨history, call, history'⟩ := by
  intro hanswered
  obtain ⟨hpasses, hinitial⟩ := tailFile_eq_ok_iff.mp hanswered
  split
  · rename_i hi
    exact hinitial hi
  · rename_i hi
    obtain ⟨served, hmem, hu, hf, htoken⟩ := hback hpasses (by simpa using hi)
    refine ⟨_, htoken, ?_⟩
    rw [← hu, ← hf]
    exact h served hmem

theorem AllRooted.step (h : AllRooted config history) (hs : Step config history call history')
    (hback : BroughtBack config ⟨history, call, history'⟩) : AllRooted config history' := by
  have hjustified := justified_of_broughtBack h hback
  cases hs with
  | refused => exact h
  | @answered result hresult =>
    have hsub : ∀ served ∈ history, served ∈ history ++ [⟨call.username, call.request,
        call.answers, result⟩] := fun _ => List.mem_append_left _
    have hnew := hjustified ⟨result, hresult⟩
    intro served hserved
    rcases List.mem_append.mp hserved with hold | hlast
    · exact (h served hold).mono hsub
    · obtain rfl := List.mem_singleton.mp hlast
      split at hnew
      · rename_i hi
        exact .initial hserved rfl rfl hi hnew
      · rename_i hi
        obtain ⟨token, htoken, hrooted⟩ := hnew
        exact .continued hserved rfl rfl (by simpa using hi) htoken (hrooted.mono hsub)

theorem broughtBack_of_justified (h : Justified config ⟨history, call, history'⟩) :
    BroughtBack config ⟨history, call, history'⟩ := by
  intro hpasses hi
  have hanswered := tailFile_eq_ok_iff.mpr ⟨hpasses, fun h => by simp [hi] at h⟩
  have hrooted := h hanswered
  rw [if_neg (by simp [hi])] at hrooted
  obtain ⟨token, htoken, hrooted⟩ := hrooted
  obtain ⟨served, hmem, hu, hf, rfl⟩ := hrooted.returned
  exact ⟨served, hmem, hu, hf, htoken⟩

/-- Lines are returned only with permission exactly if every token that is brought back was returned
to the same user for the same file. -/
theorem tail_file_justified_iff {calls : List (Edge (List Served) Call)}
    (h : Run (Step config) [] calls history) :
    (∀ e ∈ calls, Justified config e) ↔ ∀ e ∈ calls, BroughtBack config e := by
  constructor
  · intro hjustified e he
    exact broughtBack_of_justified (hjustified e he)
  · intro hback
    have hempty : AllRooted config [] := fun _ hserved => absurd hserved List.not_mem_nil
    exact h.forall_edges_of (AllRooted config) hempty (fun hI hs hP => hI.step hs hP) hback
      fun hI _ hP => justified_of_broughtBack hI hP

def sampleConfig : Config where
  dataMountDir := some "/data"
  base64Encode cursor := if cursor = "100;0" then "MTAwOzA=" else "MTIwOzYwMDA="
  base64Decode token :=
    if token = "MTAwOzA=" then .ok "100;0"
    else if token = "MDsw" then .ok "0;0"
    else .error .valueError

/-- A file of a hundred characters, and of twenty more after it was read first. -/
def sampleAnswers (now afterwards : ℤ) (granted : Bool) : Answers where
  isFile := true
  rateLimit := .ok ()
  granted _ := granted
  fileSize := 100
  isBinary := false
  now
  afterwards
  readFrom offset _ := if offset < 0 then .error .valueError else .ok (["line"], 120)
  prefetch _ := ["line"]
  endOfFile := 100

def sampleCall (username : String) (token : Option String) (now afterwards : ℤ)
    (granted : Bool) : Call :=
  ⟨username, ⟨"/data/home/alice/log", token, none⟩, sampleAnswers now afterwards granted⟩

def sampleServed (call : Call) (nextToken : String) : Served :=
  ⟨call.username, call.request, call.answers, ⟨"/data/home/alice/log", nextToken, ["line"]⟩⟩

/-- The user follows a file that she may read. -/
theorem tail_file_justified_iff_followed : ∃ calls history, Run (Step sampleConfig) [] calls history ∧
    history.length = 2 ∧ ∀ e ∈ calls, Justified sampleConfig e := by
  have hfirst : Step sampleConfig [] (sampleCall "alice" none 0 0 true)
      [sampleServed (sampleCall "alice" none 0 0 true) "MTAwOzA="] := .answered rfl
  have hsecond : Step sampleConfig [sampleServed (sampleCall "alice" none 0 0 true) "MTAwOzA="]
      (sampleCall "alice" (some "MTAwOzA=") 6000 6000 false)
      [sampleServed (sampleCall "alice" none 0 0 true) "MTAwOzA=",
        sampleServed (sampleCall "alice" (some "MTAwOzA=") 6000 6000 false) "MTIwOzYwMDA="] :=
    .answered rfl
  have hrun := (Run.single hfirst).snoc hsecond
  refine ⟨_, _, hrun, rfl, (tail_file_justified_iff hrun).mpr ?_⟩
  simp only [List.singleton_append, List.mem_cons, List.not_mem_nil, or_false, forall_eq_or_imp,
    forall_eq]
  constructor
  · intro _ hcontinued
    revert hcontinued
    decide +kernel
  · intro _ _
    exact ⟨_, List.mem_singleton_self _, rfl, rfl, rfl⟩

/-- Another user forges a token and is given lines of the file. -/
theorem forged_token_not_justified : ∃ calls history, Run (Step sampleConfig) [] calls history ∧
    (∃ served ∈ history, served.username = "mallory" ∧ served.result.lines = ["line"] ∧
      ¬ Permitted sampleConfig served.request served.answers) ∧
    ∃ e ∈ calls, ¬ Justified sampleConfig e := by
  have hforged : Step sampleConfig [] (sampleCall "mallory" (some "MDsw") 6000 6000 false)
      [sampleServed (sampleCall "mallory" (some "MDsw") 6000 6000 false) "MTIwOzYwMDA="] :=
    .answered rfl
  refine ⟨_, _, .single hforged, ⟨_, List.mem_singleton_self _, rfl, rfl, fun hpermitted => ?_⟩,
    _, List.mem_singleton_self _, fun hjustified => ?_⟩
  · cases hpermitted
  · have hrooted := hjustified ⟨_, rfl⟩
    rw [if_neg (by decide +kernel)] at hrooted
    obtain ⟨token, -, hrooted⟩ := hrooted
    obtain ⟨served, hmem, -⟩ := hrooted.returned
    cases hmem

end Idea.FileBrowser

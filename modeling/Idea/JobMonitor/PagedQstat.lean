import Idea.Data.Pages
import Idea.Data.Text
import Idea.JobMonitor.FinishedJobs

/-! # Listing jobs page by page

The jobs of a list of ids are asked for in pages. A page with an id that the server does not know
fails as a whole: the start of the page stays where it is while the number of ids that remain goes
down, so that the same page is asked for until the rounds are used up. Of the last failure the text
after the error messages is read.
-/

namespace Idea

namespace PagedQstat

open OpenPBSQStat Pages

/-- What a call of `qstat` leaves, with the text that the result is shown as. -/
structure Invocation where
  returncode : ℤ
  stdout : String
  stderr : String
  text : String

/-- What the iterator yields, and the exception that it ends with. -/
structure Listing where
  jobs : List SocaJob := []
  raised : Option Raised := none

def Listing.after (jobs : List SocaJob) (listing : Listing) : Listing where
  jobs := jobs ++ listing.jobs
  raised := listing.raised

def Listing.of : Except Raised (List SocaJob) → Listing
  | .error e => { raised := some e }
  | .ok jobs => { jobs }

section Iterator

variable (decode : String → Except Raised (List SocaJob))

def handleQstatResult (qstatResult : String) : Except Raised (List SocaJob) :=
  if isEmptyString (some qstatResult) then .ok [] else decode qstatResult

/-- The lower case of a character of an error message. Outside ASCII only the Kelvin sign has one
of its letters as lower case. -/
def lowerChar (c : Char) : Char := if c = Char.ofNat 0x212A then 'k' else c.toLower

def isUnknownJobLine (line : List Char) : Bool :=
  "qstat: unknown job".toList.isPrefixOf (line.map lowerChar)

def applicableLines (stderr : String) : String :=
  String.ofList ((Text.splitLines false stderr.toList).filter (!isUnknownJobLine ·)).flatten

def handleUnknownJobIdError (result : Invocation) : Except Raised (List SocaJob) :=
  handleQstatResult decode (applicableLines result.stderr)

def lastPage (result : Invocation) : Listing :=
  if result.returncode = 0 then {}
  else if result.returncode = ErrorCodes.QSTAT_ERROR_CODE_JOB_FINISHED then
    { raised := some (.soca ErrorCodes.SCHEDULER_JOB_FINISHED result.text) }
  else if result.returncode = ErrorCodes.QSTAT_ERROR_CODE_UNKNOWN_JOB_ID then
    Listing.of (handleUnknownJobIdError decode result)
  else if result.returncode = ErrorCodes.QSTAT_ERROR_CODE_ABORTED then {}
  else { raised := some (.soca ErrorCodes.SCHEDULER_ERROR result.text) }

/-- What is listed when the loop is left. It is entered with ids that remain, so that there is a
result by then. -/
def afterLoop : Option Invocation → Listing
  | none => { raised := some .attributeError }
  | some result => lastPage decode result

variable (qstat : List String → Invocation) (pageSize : ℕ) (jobIds : List String)

/-- The loop over pages, which may be left after any number of rounds. -/
def iterate : ℕ → ℕ → ℕ → Option Invocation → Option Listing
  | 0, _, _, _ => none
  | fuel + 1, start, remaining, last =>
    if remaining = 0 then some (afterLoop decode last)
    else
      let result := qstat ((jobIds.drop start).take pageSize)
      if result.returncode = 0 then
        match handleQstatResult decode result.stdout with
        | .error e => some { raised := some e }
        | .ok jobs =>
          (iterate fuel (start + pageSize) (remaining - pageSize) (some result)).map (·.after jobs)
      else iterate fuel start (remaining - pageSize) (some result)

/-- Without ids, those that `qselect` prints are listed. -/
def requested (selected : List String) : List String := if jobIds = [] then selected else jobIds

def jobIterator (selected : List String) (fuel : ℕ) : Option Listing :=
  let jobIds := requested jobIds selected
  if jobIds = [] then some {} else iterate decode qstat pageSize jobIds fuel 0 jobIds.length none

end Iterator

/-- A server of which some ids are known. It lists each job of a page of known ids once, in an order
of its own, and fails on a page with an id that it does not know. A known job of a queue without a
profile is not listed. -/
structure Server (decode : String → Except Raised (List SocaJob)) where
  known : String → Bool
  listed : String → Option SocaJob
  arrange : List String → List String
  qstat : List String → Invocation
  known_of_listed : ∀ jobId job, listed jobId = some job → known jobId = true
  own : ∀ jobId job, listed jobId = some job → job.jobId = some jobId
  arrange_perm : ∀ page, (arrange page).Perm page.eraseDups
  answers : ∀ page, page ≠ [] → page.all known = true → (qstat page).returncode = 0 ∧
    handleQstatResult decode (qstat page).stdout = .ok ((arrange page).filterMap listed)
  fails : ∀ page, page.all known = false →
    (qstat page).returncode = ErrorCodes.QSTAT_ERROR_CODE_UNKNOWN_JOB_ID

variable {decode : String → Except Raised (List SocaJob)} (server : Server decode) (pageSize : ℕ)
  (jobIds selected : List String)

def Server.jobs : List SocaJob := jobIds.eraseDups.filterMap server.listed

/-- The iterator ends normally and yields every known job of the request once, in its order. -/
def Server.ListsAll : Prop :=
  ∃ fuel, jobIterator decode server.qstat pageSize jobIds selected fuel =
    some { jobs := server.jobs (requested jobIds selected) }

def Server.readable : List (List String) := (pages pageSize jobIds).takeWhile (·.all server.known)

def Server.unread : List (List String) := (pages pageSize jobIds).dropWhile (·.all server.known)

def Server.missing : List SocaJob :=
  ((server.unread pageSize jobIds).flatten.removeAll
    (server.readable pageSize jobIds).flatten).eraseDups.filterMap server.listed

/-- No job is listed on two of the readable pages, each is listed in the order of the request, and
the text after the error messages of the first page with an unknown id lists the jobs that are not
on the readable pages. -/
structure Server.Regular : Prop where
  disjoint : (server.readable pageSize jobIds).Pairwise
    fun p q => ∀ jobId ∈ p, jobId ∈ q → server.listed jobId = none
  arranged : ∀ page ∈ server.readable pageSize jobIds,
    (server.arrange page).filterMap server.listed = server.jobs page
  rest : ∀ page pages, server.unread pageSize jobIds = page :: pages →
    handleUnknownJobIdError decode (server.qstat page) = .ok (server.missing pageSize jobIds)

section Loop

variable {server pageSize jobIds}

def Server.outcome (server : Server decode) : List (List String) → Listing
  | [] => {}
  | page :: pages =>
    if page.all server.known then
      (server.outcome pages).after ((server.arrange page).filterMap server.listed)
    else Listing.of (handleUnknownJobIdError decode (server.qstat page))

theorem iterate_drop {qstat : List String → Invocation} (n : ℕ) {fuel start remaining : ℕ}
    {last : Option Invocation} :
    iterate decode qstat pageSize jobIds fuel (n + start) remaining last =
      iterate decode qstat pageSize (jobIds.drop n) fuel start remaining last := by
  induction fuel generalizing start remaining last with
  | zero => rfl
  | succ fuel ih => simp only [iterate, List.drop_drop, Nat.add_assoc, ih]

theorem iterate_failing (hsize : 0 < pageSize)
    (hpage : (jobIds.take pageSize).all server.known = false) {remaining : ℕ}
    (hremaining : 0 < remaining) {fuel : ℕ} (hfuel : remaining < fuel) {last : Option Invocation} :
    iterate decode server.qstat pageSize jobIds fuel 0 remaining last =
      some (Listing.of (handleUnknownJobIdError decode
        (server.qstat (jobIds.take pageSize)))) := by
  have hcode := server.fails _ hpage
  induction fuel generalizing remaining last with
  | zero => omega
  | succ fuel ih =>
    rw [iterate, if_neg (by omega), List.drop_zero]
    dsimp only
    rw [hcode, if_neg (by decide)]
    rcases Nat.eq_zero_or_pos (remaining - pageSize) with hzero | hpos
    · cases fuel with
      | zero => omega
      | succ fuel =>
        rw [iterate, hzero, if_pos rfl, afterLoop, lastPage, hcode, if_neg (by decide),
          if_neg (by decide), if_pos rfl]
    · exact ih hpos (by omega)

theorem lastPage_of_returncode_zero {result : Invocation} (h : result.returncode = 0) :
    lastPage decode result = {} := if_pos h

theorem iterate_eq_outcome (hsize : 0 < pageSize) {fuel : ℕ} (hfuel : jobIds.length < fuel)
    {last : Option Invocation} (hlast : jobIds = [] → ∃ result, last = some result ∧
      result.returncode = 0) :
    iterate decode server.qstat pageSize jobIds fuel 0 jobIds.length last =
      some (server.outcome (pages pageSize jobIds)) := by
  induction jobIds using pages_induction hsize generalizing fuel last with
  | hnil =>
    obtain ⟨result, rfl, hcode⟩ := hlast rfl
    cases fuel with
    | zero => omega
    | succ fuel => simp [iterate, afterLoop, lastPage_of_returncode_zero hcode, Server.outcome]
  | hpage jobIds hne ih =>
    have hpos := List.length_pos_of_ne_nil hne
    rw [pages_cons hsize hne, Server.outcome]
    cases hpage : (jobIds.take pageSize).all server.known with
    | false =>
      rw [if_neg Bool.false_ne_true]
      exact iterate_failing hsize hpage hpos hfuel
    | true =>
      have htake : jobIds.take pageSize ≠ [] := by
        intro h
        rcases List.take_eq_nil_iff.mp h with hzero | hnil
        · omega
        · exact hne hnil
      obtain ⟨hcode, hjobs⟩ := server.answers _ htake hpage
      cases fuel with
      | zero => omega
      | succ fuel =>
        have hdrop : (jobIds.drop pageSize).length = jobIds.length - pageSize :=
          List.length_drop
        have hnext := @ih fuel (by omega) (some (server.qstat (jobIds.take pageSize)))
          fun _ => ⟨_, rfl, hcode⟩
        rw [iterate, if_neg (by omega), List.drop_zero]
        dsimp only
        rw [hcode, if_pos rfl, hjobs, Nat.zero_add, ← Nat.add_zero pageSize, iterate_drop,
          Nat.add_zero, ← hdrop, hnext, if_pos rfl]
        rfl

theorem jobIterator_eq_outcome (hsize : 0 < pageSize) {selected : List String} {fuel : ℕ}
    (hfuel : (requested jobIds selected).length < fuel) :
    jobIterator decode server.qstat pageSize jobIds selected fuel =
      some (server.outcome (pages pageSize (requested jobIds selected))) := by
  unfold jobIterator
  dsimp only
  split
  · rename_i hnil
    rw [hnil, pages_nil]
    rfl
  · rename_i hne
    exact iterate_eq_outcome hsize hfuel fun h => absurd h hne

theorem iterate_fuel_le {qstat : List String → Invocation} {fuel fuel' : ℕ} (hle : fuel ≤ fuel')
    {start remaining : ℕ} {last : Option Invocation} {listing : Listing}
    (h : iterate decode qstat pageSize jobIds fuel start remaining last = some listing) :
    iterate decode qstat pageSize jobIds fuel' start remaining last = some listing := by
  induction fuel generalizing fuel' start remaining last listing with
  | zero => cases h
  | succ fuel ih =>
    cases fuel' with
    | zero => omega
    | succ fuel' =>
      have hle' : fuel ≤ fuel' := by omega
      rw [iterate] at h ⊢
      by_cases hremaining : remaining = 0
      · rw [if_pos hremaining] at h ⊢
        exact h
      rw [if_neg hremaining] at h ⊢
      dsimp only at h ⊢
      split at h
      · rename_i hcode
        rw [if_pos hcode]
        cases hjobs : handleQstatResult decode
            (qstat ((jobIds.drop start).take pageSize)).stdout with
        | error e =>
          rw [hjobs] at h
          exact h
        | ok jobs =>
          rw [hjobs] at h
          obtain ⟨rest, hrest, hlisting⟩ := Option.map_eq_some_iff.mp h
          exact Option.map_eq_some_iff.mpr ⟨rest, ih hle' hrest, hlisting⟩
      · rename_i hcode
        rw [if_neg hcode]
        exact ih hle' h

theorem jobIterator_fuel_le {qstat : List String → Invocation} {selected : List String}
    {fuel fuel' : ℕ} (hle : fuel ≤ fuel') {listing : Listing}
    (h : jobIterator decode qstat pageSize jobIds selected fuel = some listing) :
    jobIterator decode qstat pageSize jobIds selected fuel' = some listing := by
  unfold jobIterator at h ⊢
  dsimp only at h ⊢
  by_cases hnil : requested jobIds selected = []
  · rw [if_pos hnil] at h ⊢
    exact h
  · rw [if_neg hnil] at h ⊢
    exact iterate_fuel_le hle h

theorem raised_of_pageSize_zero {qstat : List String → Invocation} {selected : List String}
    (hne : requested jobIds selected ≠ []) {fuel : ℕ} {listing : Listing}
    (h : jobIterator decode qstat 0 jobIds selected fuel = some listing) :
    listing.raised ≠ none := by
  have stuck : ∀ last listing, iterate decode qstat 0 (requested jobIds selected) fuel 0
      (requested jobIds selected).length last = some listing → listing.raised ≠ none := by
    have hpos := List.length_pos_of_ne_nil hne
    clear h
    induction fuel with
    | zero =>
      intro last listing h
      cases h
    | succ fuel ih =>
      intro last listing h
      rw [iterate, if_neg (by omega)] at h
      dsimp only at h
      split at h
      · split at h
        · cases h
          exact Option.some_ne_none _
        · obtain ⟨rest, hrest, rfl⟩ := Option.map_eq_some_iff.mp h
          have hraised := ih _ _ hrest
          exact hraised
      · exact ih _ _ h
  unfold jobIterator at h
  dsimp only at h
  rw [if_neg hne] at h
  exact stuck none listing h

end Loop

section Pages

variable {server pageSize jobIds}

def Server.remainder (server : Server decode) : List (List String) → Listing
  | [] => {}
  | page :: _ => Listing.of (handleUnknownJobIdError decode (server.qstat page))

theorem Server.outcome_eq (pages : List (List String)) :
    server.outcome pages = (server.remainder (pages.dropWhile (·.all server.known))).after
      ((pages.takeWhile (·.all server.known)).flatMap fun page =>
        (server.arrange page).filterMap server.listed) := by
  induction pages with
  | nil => rfl
  | cons page pages ih =>
    rw [Server.outcome, List.takeWhile_cons, List.dropWhile_cons]
    cases hpage : page.all server.known with
    | false => simp [Server.remainder, Listing.after]
    | true => simp [ih, Listing.after]

theorem Server.jobs_perm (page : List String) :
    ((server.arrange page).filterMap server.listed).Perm (server.jobs page) :=
  (server.arrange_perm page).filterMap _

theorem Server.nodup_jobs : (server.jobs jobIds).Nodup := by
  have hinj : ∀ a b job, job ∈ server.listed a → job ∈ server.listed b → a = b := by
    intro a b job ha hb
    exact Option.some.inj ((server.own a job ha).symm.trans (server.own b job hb))
  exact List.Nodup.filterMap hinj (nodup_eraseDups jobIds)

theorem Server.jobs_eq (hsize : 0 < pageSize) : server.jobs jobIds =
    server.jobs (server.readable pageSize jobIds).flatten ++ server.missing pageSize jobIds := by
  have hids : jobIds = (server.readable pageSize jobIds).flatten ++
      (server.unread pageSize jobIds).flatten := by
    rw [Server.readable, Server.unread, ← List.flatten_append, List.takeWhile_append_dropWhile,
      flatten_pages hsize]
  unfold Server.missing Server.jobs
  rw [← List.filterMap_append, ← List.eraseDups_append, ← hids]

theorem Server.disjoint_of_nodup {pages : List (List String)}
    (h : (pages.flatMap fun page => (server.arrange page).filterMap server.listed).Nodup) :
    pages.Pairwise fun p q => ∀ jobId ∈ p, jobId ∈ q → server.listed jobId = none := by
  have listed : ∀ {page jobId job}, jobId ∈ page → server.listed jobId = some job →
      job ∈ (server.arrange page).filterMap server.listed := by
    intro page jobId job hmem hjob
    apply server.jobs_perm page |>.mem_iff.mpr
    exact List.mem_filterMap.mpr ⟨jobId, List.mem_eraseDups.mpr hmem, hjob⟩
  apply (List.nodup_flatMap.mp h).2.imp
  intro p q hdisjoint jobId hp hq
  cases hjob : server.listed jobId with
  | none => rfl
  | some job => exact absurd (listed hq hjob) (hdisjoint (listed hp hjob))

theorem flatMap_congr_iff {α β : Type} {f g : α → List β} {l : List α}
    (hlength : ∀ a ∈ l, (f a).length = (g a).length) :
    l.flatMap f = l.flatMap g ↔ ∀ a ∈ l, f a = g a := by
  induction l with
  | nil => simp
  | cons a l ih =>
    rw [List.forall_mem_cons] at hlength ⊢
    rw [List.flatMap_cons, List.flatMap_cons, ← ih hlength.2]
    constructor
    · intro h
      exact List.append_inj h hlength.1
    · rintro ⟨ha, hl⟩
      rw [ha, hl]

theorem flatMap_length {α β : Type} {f g : α → List β} {l : List α}
    (hlength : ∀ a ∈ l, (f a).length = (g a).length) :
    (l.flatMap f).length = (l.flatMap g).length := by
  rw [List.length_flatMap, List.length_flatMap]
  exact congrArg List.sum (List.map_congr_left hlength)

theorem Server.listsAll_outcome_iff (hsize : 0 < pageSize) :
    server.outcome (pages pageSize jobIds) = { jobs := server.jobs jobIds } ↔
      server.Regular pageSize jobIds := by
  have hlength : ∀ page ∈ server.readable pageSize jobIds,
      ((server.arrange page).filterMap server.listed).length = (server.jobs page).length :=
    fun page _ => (server.jobs_perm page).length_eq
  have hread := flatMap_congr_iff hlength
  have hnodup : (server.jobs jobIds).Nodup := server.nodup_jobs
  rw [Server.outcome_eq, server.jobs_eq hsize]
  rw [server.jobs_eq hsize] at hnodup
  constructor
  · intro h
    obtain ⟨hjobs, hraised⟩ := Listing.mk.inj h
    rw [← hjobs] at hnodup
    have hdisjoint := server.disjoint_of_nodup (List.nodup_append.mp hnodup).1
    have hflat : server.jobs (server.readable pageSize jobIds).flatten =
        (server.readable pageSize jobIds).flatMap server.jobs :=
      filterMap_eraseDups_flatten hdisjoint
    rw [hflat] at hjobs
    obtain ⟨hpages, hrest⟩ := List.append_inj hjobs (flatMap_length hlength)
    refine ⟨hdisjoint, hread.mp hpages, fun page pages hunread => ?_⟩
    rw [← Server.unread, hunread] at hrest hraised
    cases hafter : handleUnknownJobIdError decode (server.qstat page) with
    | error e => simp [Server.remainder, hafter, Listing.of] at hraised
    | ok jobs =>
      rw [← hrest, Server.remainder, hafter]
      rfl
  · intro h
    have hflat : server.jobs (server.readable pageSize jobIds).flatten =
        (server.readable pageSize jobIds).flatMap server.jobs :=
      filterMap_eraseDups_flatten h.disjoint
    rw [hflat, ← hread.mpr h.arranged, ← Server.unread, ← Server.readable]
    cases hunread : server.unread pageSize jobIds with
    | nil => simp [Server.remainder, Server.missing, hunread, Listing.after]
    | cons page pages =>
      rw [Server.remainder, h.rest page pages hunread]
      rfl

theorem handleUnknownJobIdError_of_errors {result : Invocation}
    (h : ∀ line ∈ Text.splitLines false result.stderr.toList, isUnknownJobLine line = true) :
    handleUnknownJobIdError decode result = .ok [] := by
  have hnone : (Text.splitLines false result.stderr.toList).filter (!isUnknownJobLine ·) = [] := by
    apply List.filter_eq_nil_iff.mpr
    intro line hline
    simp [h line hline]
  unfold handleUnknownJobIdError applicableLines
  rw [hnone]
  rfl

end Pages

theorem Server.listsAll_iff_outcome {decode : String → Except Raised (List SocaJob)}
    (server : Server decode) {pageSize : ℕ} (hsize : 0 < pageSize) (jobIds selected : List String) :
    server.ListsAll pageSize jobIds selected ↔
      server.outcome (pages pageSize (requested jobIds selected)) =
        { jobs := server.jobs (requested jobIds selected) } := by
  have hall : jobIterator decode server.qstat pageSize jobIds selected
      ((requested jobIds selected).length + 1) =
      some (server.outcome (pages pageSize (requested jobIds selected))) :=
    jobIterator_eq_outcome hsize (Nat.lt_succ_self _)
  constructor
  · rintro ⟨fuel, hlist⟩
    rcases Nat.le_total fuel ((requested jobIds selected).length + 1) with hle | hle
    · exact Option.some.inj (hall.symm.trans (jobIterator_fuel_le hle hlist))
    · exact Option.some.inj ((jobIterator_fuel_le hle hall).symm.trans hlist)
  · intro houtcome
    exact ⟨_, hall.trans (congrArg some houtcome)⟩

/-- The iterator yields every known job of the request exactly once and in its order when the
readable pages do and the rest of the known jobs is read from the messages of the page that fails;
and only then. -/
theorem listsAll_iff {decode : String → Except Raised (List SocaJob)} (server : Server decode)
    (pageSize : ℕ) (jobIds selected : List String) :
    server.ListsAll pageSize jobIds selected ↔ requested jobIds selected = [] ∨
      0 < pageSize ∧ server.Regular pageSize (requested jobIds selected) := by
  by_cases hnil : requested jobIds selected = []
  · simp only [hnil, true_or, iff_true]
    refine ⟨0, ?_⟩
    unfold jobIterator
    dsimp only
    rw [if_pos hnil, hnil]
    rfl
  rcases Nat.eq_zero_or_pos pageSize with rfl | hsize
  · simp only [hnil, Nat.lt_irrefl, false_and, or_self, iff_false]
    rintro ⟨fuel, hlist⟩
    exact raised_of_pageSize_zero hnil hlist rfl
  · simp only [hnil, hsize, true_and, false_or]
    rw [server.listsAll_iff_outcome hsize, server.listsAll_outcome_iff hsize]

def oneJob : SocaJob := { jobId := some "1" }

def oneJobOutput : String := "\x7b\"Jobs\":\x7b\"1\":\x7b\x7d\x7d\x7d"

def decodeOneJob (text : String) : Except Raised (List SocaJob) :=
  if text = oneJobOutput then .ok [oneJob] else .error .valueError

def qstatOneJob (page : List String) : Invocation where
  returncode := if page.all (· = "1") then 0 else ErrorCodes.QSTAT_ERROR_CODE_UNKNOWN_JOB_ID
  stdout := oneJobOutput
  stderr := if page.all (· = "1") then "" else "qstat: Unknown Job Id 2.server"
  text := ""

def oneJobServer : Server decodeOneJob where
  known jobId := jobId = "1"
  listed jobId := if jobId = "1" then some oneJob else none
  arrange := List.eraseDups
  qstat := qstatOneJob
  known_of_listed jobId job h := by simp_all
  own jobId job h := by
    split at h
    · rename_i hid
      cases h
      rw [hid]
      rfl
    · cases h
  arrange_perm page := .refl _
  answers page hne hall := by
    have hids : page.eraseDups = ["1"] := by
      cases page with
      | nil => exact absurd rfl hne
      | cons jobId page =>
        simp only [List.all_cons, Bool.and_eq_true, decide_eq_true_eq, List.all_eq_true] at hall
        rw [List.eraseDups_cons, hall.1, List.filter_eq_nil_iff.mpr, List.eraseDups_nil]
        intro b hb
        simp [hall.2 b hb]
    have hblank : isEmptyString (some oneJobOutput) = false := by decide
    rw [hids]
    refine ⟨if_pos hall, ?_⟩
    change handleQstatResult decodeOneJob oneJobOutput = _
    rw [handleQstatResult, hblank, if_neg Bool.false_ne_true, decodeOneJob, if_pos rfl]
    rfl
  fails page h := if_neg (by simp [h])

/-- Job `1` is known, but it is lost with the page that it shares with an unknown id. -/
theorem not_listsAll_unknown : ¬ oneJobServer.ListsAll 100 ["1", "2"] [] := by
  rw [oneJobServer.listsAll_iff_outcome (by decide)]
  intro h
  have hpages : pages 100 (requested ["1", "2"] []) = [["1", "2"]] := by decide
  have hfail : handleUnknownJobIdError decodeOneJob (oneJobServer.qstat ["1", "2"]) = .ok [] :=
    handleUnknownJobIdError_of_errors (by decide)
  rw [hpages, Server.outcome, if_neg (by decide), hfail] at h
  have hjobs : ([] : List SocaJob).length = [oneJob].length :=
    congrArg (fun listing => listing.jobs.length) h
  cases hjobs

end PagedQstat

end Idea

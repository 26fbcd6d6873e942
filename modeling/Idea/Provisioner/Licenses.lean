import Mathlib.Algebra.BigOperators.Group.List.Basic
import Mathlib.Algebra.Order.BigOperators.Group.List
import Mathlib.Tactic.Linarith
import Idea.JobMonitor.JobsDB

/-! # License checks

The job cache records how many licenses of each resource the active jobs hold, one row for a
job and a resource. Before a batch is provisioned each of its asks is compared with what is
left. The comparison is made ask by ask, so it bounds the total only of a resource that is
asked for once.
-/

namespace Idea

namespace ErrorCodes

def NOT_ENOUGH_LICENSES : String := "NOT_ENOUGH_LICENSES"

end ErrorCodes

namespace JobProvisioningUtil

open JobsDB

def checkLicense (available : Option String → ℤ) (table : LicenseTable)
    (licenseAsk : SocaJobLicenseAsk) : Except Raised Unit :=
  match licenseAsk.count with
  | none => .error .typeError
  | some count =>
    let totalRequired := getActiveLicenseCount table licenseAsk.name + count
    if available licenseAsk.name < totalRequired then
      .error (.soca ErrorCodes.NOT_ENOUGH_LICENSES
        ("Not enough licenses available for: " ++ licenseAsk.name.getD "None" ++ ". " ++
          "licenses available: " ++ toString (available licenseAsk.name) ++ ", " ++
          "total required: " ++ toString totalRequired ++ ", " ++
          "job required: " ++ toString count))
    else .ok ()

def checkJobLicenses (available : Option String → ℤ) (table : LicenseTable) (job : SocaJob) :
    Except Raised Unit :=
  match job.params with
  | none => .error .attributeError
  | some params => (params.licenses.getD []).forM (checkLicense available table)

def checkLicenses (available : Option String → ℤ) (table : LicenseTable)
    (jobs : List SocaJob) : Except Raised Unit :=
  jobs.forM (checkJobLicenses available table)

/-- An ask fits when what is available covers it on top of the active licenses. -/
def AskFits (available : Option String → ℤ) (table : LicenseTable)
    (licenseAsk : SocaJobLicenseAsk) : Prop :=
  ∃ count, licenseAsk.count = some count ∧
    getActiveLicenseCount table licenseAsk.name + count ≤ available licenseAsk.name

def asksFor (jobs : List SocaJob) (name : String) : List SocaJobLicenseAsk :=
  (jobs.flatMap SocaJob.licenseAsks).filter fun licenseAsk => licenseAsk.name = some name

def totalAsked (jobs : List SocaJob) (name : String) : ℤ :=
  ((asksFor jobs name).map fun licenseAsk => getAsInt licenseAsk.count 0).sum

@[simp] theorem totalAsked_nil (name : String) : totalAsked [] name = 0 := rfl

/-- The active licenses and the asks of the batch stay within what is available. -/
def WithinAvailable (available : Option String → ℤ) (table : LicenseTable)
    (jobs : List SocaJob) (name : String) : Prop :=
  getActiveLicenseCount table (some name) + totalAsked jobs name ≤ available (some name)

variable {available : Option String → ℤ} {table : LicenseTable} {jobs : List SocaJob}

/-- Every row of the table counts at least one license. -/
def PositiveRows (table : LicenseTable) : Prop := ∀ row ∈ table.entries, 0 < row.2

theorem positiveRows_addAsk (jobId : String) (licenseAsk : SocaJobLicenseAsk)
    (h : PositiveRows table) : PositiveRows (addAsk jobId table licenseAsk) := by
  unfold addAsk
  split
  · exact h
  · rename_i name _
    split
    · exact h
    split
    · exact h
    · rename_i hc
      rintro ⟨k, count⟩ hrow
      rw [Dict.mem_entries, Dict.get?_set] at hrow
      dsimp only at hrow
      split at hrow
      · cases hrow
        exact lt_of_not_ge hc
      · exact h _ (Dict.mem_entries.mpr hrow)

theorem positiveRows_addJobAsks (job : SocaJob) (h : PositiveRows table) :
    PositiveRows (addJobAsks table job) := by
  unfold addJobAsks
  split
  · exact h
  split
  · exact h
  · exact List.foldlRecOn _ _ h fun _ hpos licenseAsk _ => positiveRows_addAsk _ licenseAsk hpos

theorem checkLicense_eq_ok {licenseAsk : SocaJobLicenseAsk} :
    checkLicense available table licenseAsk = .ok () ↔ AskFits available table licenseAsk := by
  unfold checkLicense AskFits
  cases licenseAsk.count with
  | none => simp
  | some count => simp

theorem checkJobLicenses_eq_ok {job : SocaJob} :
    checkJobLicenses available table job = .ok () ↔
      job.params ≠ none ∧ ∀ licenseAsk ∈ job.licenseAsks, AskFits available table licenseAsk := by
  unfold checkJobLicenses SocaJob.licenseAsks
  cases job.params with
  | none => simp
  | some params =>
    simp only [Raised.forM_eq_ok, checkLicense_eq_ok]
    simp

theorem checkLicenses_eq_ok :
    checkLicenses available table jobs = .ok () ↔
      ∀ job ∈ jobs, job.params ≠ none ∧
        ∀ licenseAsk ∈ job.licenseAsks, AskFits available table licenseAsk := by
  rw [checkLicenses, Raised.forM_eq_ok]
  exact forall₂_congr fun _ _ => checkJobLicenses_eq_ok

theorem askFits_of_mem_asksFor (h : checkLicenses available table jobs = .ok ()) {name : String}
    {licenseAsk : SocaJobLicenseAsk} (ha : licenseAsk ∈ asksFor jobs name) :
    AskFits available table licenseAsk ∧ licenseAsk.name = some name := by
  obtain ⟨hm, hn⟩ := List.mem_filter.mp ha
  obtain ⟨job, hjob, hm⟩ := List.mem_flatMap.mp hm
  exact ⟨(checkLicenses_eq_ok.mp h job hjob).2 licenseAsk hm, by simpa using hn⟩

theorem withinAvailable_of_asked_once (h : checkLicenses available table jobs = .ok ())
    {name : String} (ho : (asksFor jobs name).length = 1) :
    WithinAvailable available table jobs name := by
  obtain ⟨licenseAsk, hl⟩ := List.length_eq_one_iff.mp ho
  obtain ⟨⟨count, hc, hf⟩, hn⟩ := askFits_of_mem_asksFor h (hl ▸ List.mem_singleton_self licenseAsk)
  rw [hn] at hf
  simpa [WithinAvailable, totalAsked, hl, hc, getAsInt] using hf

/-- The check bounds every resource exactly when it refuses the batch or the resources that
are asked for by nobody or by several asks stay within what is available. -/
theorem check_licenses_bounds_iff (available : Option String → ℤ) (table : LicenseTable)
    (jobs : List SocaJob) :
    (checkLicenses available table jobs = .ok () →
        ∀ name, WithinAvailable available table jobs name) ↔
      (∃ job ∈ jobs, job.params = none ∨
        ∃ licenseAsk ∈ job.licenseAsks, ¬ AskFits available table licenseAsk) ∨
      ∀ name, (asksFor jobs name).length ≠ 1 → WithinAvailable available table jobs name := by
  constructor
  · intro h
    by_cases hok : checkLicenses available table jobs = .ok ()
    · exact .inr fun name _ => h hok name
    · left
      rw [checkLicenses_eq_ok] at hok
      push Not at hok
      obtain ⟨job, hjob, hbad⟩ := hok
      refine ⟨job, hjob, ?_⟩
      by_cases hp : job.params = none
      · exact .inl hp
      · exact .inr (hbad hp)
  · rintro (⟨job, hjob, hbad⟩ | hall) hok name
    · obtain ⟨hp, hfit⟩ := checkLicenses_eq_ok.mp hok job hjob
      rcases hbad with hnone | ⟨licenseAsk, hm, hbad⟩
      · exact absurd hnone hp
      · exact absurd (hfit licenseAsk hm) hbad
    · by_cases ho : (asksFor jobs name).length = 1
      · exact withinAvailable_of_asked_once hok ho
      · exact hall name ho

namespace LicenseExample

def ask : SocaJobLicenseAsk := { name := some "ansys_lic_solve", count := some 1 }

def job (jobId : String) : SocaJob :=
  { jobId := some jobId, params := some { licenses := some [ask] } }

def oneAvailable : Option String → ℤ := fun _ => 1

end LicenseExample

/-- Two jobs of a batch that ask for the only license both pass. -/
theorem check_licenses_over_commits :
    ¬ (checkLicenses LicenseExample.oneAvailable ∅ [LicenseExample.job "1", LicenseExample.job "2"] =
        .ok () →
      ∀ name, WithinAvailable LicenseExample.oneAvailable ∅
        [LicenseExample.job "1", LicenseExample.job "2"] name) := by
  intro h
  have hw := h (by decide) "ansys_lic_solve"
  revert hw
  unfold WithinAvailable
  decide

end JobProvisioningUtil

end Idea

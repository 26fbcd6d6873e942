import Idea.System.Run
import Idea.Provisioner.Licenses

/-! # License rows over the life of a job

The rows of a job are written when it is provisioned and dropped when it is deleted from the
cache. Housekeeping resets a job in the scheduler and leaves the cache alone, so a job that is
provisioned again is checked on top of its own rows.
-/

namespace Idea

open JobsDB

def JobsDB.addProvisioned (db : JobsDB) (job : SocaJob) : Except Raised JobsDB := do
  let db ← db.addMany [job]
  .ok { db with
        activeJobLicenses := addLicenseAsk db.activeJobLicenses [job]
        jobProvisioningErrors :=
          if isEmptyString job.jobId then db.jobProvisioningErrors
          else db.jobProvisioningErrors.erase job.jobId }

/-- What happens to the cache. A reset is made in the scheduler, and the monitor then syncs the
jobs it finds queued there. -/
inductive CacheOp where
  | provision (job : SocaJob)
  | reset (jobId : Option String)
  | sync (jobs : List SocaJob)
  | delete (jobIds : List (Option String))

namespace CacheOp

def apply (db : JobsDB) : CacheOp → JobsDB
  | .provision job => (db.addProvisioned job).toOption.getD db
  | .reset _ => db
  | .sync jobs => (db.addMany jobs).toOption.getD db
  | .delete jobIds => db.deleteMany jobIds

end CacheOp

def CacheStep (db : JobsDB) (op : CacheOp) (db' : JobsDB) : Prop := db' = op.apply db

/-- The job has an id and asks for a positive count of the license. -/
def SocaJob.Asks (job : SocaJob) (key : String × String) : Prop :=
  job.jobId = some key.1 ∧ isEmptyString (some key.1) = false ∧
    ∃ licenseAsk ∈ job.licenseAsks, licenseAsk.name = some key.2 ∧
      isEmptyString (some key.2) = false ∧ 0 < getAsInt licenseAsk.count 0

namespace CacheOp

/-- The operation writes the row of a job id and a license. -/
def Records (key : String × String) : CacheOp → Prop
  | .provision job => (∃ row, jobRow job = .ok row) ∧ job.Asks key
  | _ => False

/-- The operation drops the rows of a job id. -/
def Drops (jobId : String) : CacheOp → Prop
  | .delete jobIds => some jobId ∈ jobIds
  | _ => False

end CacheOp

/-- The job was provisioned with an ask for the license and not deleted since. -/
def LeftBehind (ops : List CacheOp) (key : String × String) : Prop :=
  ∃ before op after, ops = before ++ op :: after ∧ op.Records key ∧
    ∀ op' ∈ after, ¬ op'.Drops key.1

theorem leftBehind_snoc {ops : List CacheOp} {op : CacheOp} {key : String × String} :
    LeftBehind (ops ++ [op]) key ↔ op.Records key ∨ LeftBehind ops key ∧ ¬ op.Drops key.1 := by
  constructor
  · rintro ⟨before, op', after, heq, hrec, hkeep⟩
    rcases List.eq_nil_or_concat after with rfl | ⟨rest, last, rfl⟩
    · obtain ⟨_, hop⟩ := List.append_inj' heq rfl
      exact .inl (List.singleton_inj.mp hop ▸ hrec)
    · have hl : ops ++ [op] = (before ++ op' :: rest) ++ [last] := by simpa using heq
      obtain ⟨rfl, hop⟩ := List.append_inj' hl rfl
      obtain rfl := List.singleton_inj.mp hop
      simp only [List.concat_eq_append, List.mem_append, List.mem_singleton] at hkeep
      exact .inr ⟨⟨before, op', rest, rfl, hrec, fun o ho => hkeep o (.inl ho)⟩,
        hkeep op (.inr rfl)⟩
  · rintro (hrec | ⟨⟨before, op', after, rfl, hrec, hkeep⟩, hlast⟩)
    · exact ⟨ops, op, [], rfl, hrec, by simp⟩
    · refine ⟨before, op', after ++ [op], by simp, hrec, fun o ho => ?_⟩
      rcases List.mem_append.mp ho with ho | ho
      · exact hkeep o ho
      · exact List.mem_singleton.mp ho ▸ hlast

namespace JobsDB

variable {table : LicenseTable} {key : String × String}

theorem mem_keys_addAsk {jobId : String} {licenseAsk : SocaJobLicenseAsk} :
    key ∈ (addAsk jobId table licenseAsk).keys ↔
      key ∈ table.keys ∨ key.1 = jobId ∧ licenseAsk.name = some key.2 ∧
        isEmptyString (some key.2) = false ∧ 0 < getAsInt licenseAsk.count 0 := by
  unfold addAsk
  cases hn : licenseAsk.name with
  | none => simp
  | some name =>
    dsimp only
    split
    · rename_i hempty
      have hno : ¬ (some name = some key.2 ∧ isEmptyString (some key.2) = false) := by
        rintro ⟨heq, hkey⟩
        rw [heq, hkey] at hempty
        cases hempty
      tauto
    · rename_i hfull
      split
      · rename_i hcount
        have hno : ¬ 0 < getAsInt licenseAsk.count 0 := not_lt.mpr hcount
        tauto
      · rename_i hcount
        rw [Dict.mem_keys_set, Prod.ext_iff]
        have hfull' := Bool.eq_false_iff.mpr hfull
        constructor
        · rintro (⟨hid, hname⟩ | hk)
          · exact .inr ⟨hid, congrArg some hname.symm, hname ▸ hfull', not_le.mp hcount⟩
          · exact .inl hk
        · rintro (hk | ⟨hid, hname, _, _⟩)
          · exact .inr hk
          · exact .inl ⟨hid, (Option.some.inj hname).symm⟩

theorem mem_keys_foldl_addAsk {jobId : String} {licenseAsks : List SocaJobLicenseAsk} :
    key ∈ (licenseAsks.foldl (addAsk jobId) table).keys ↔
      key ∈ table.keys ∨ key.1 = jobId ∧ ∃ licenseAsk ∈ licenseAsks,
        licenseAsk.name = some key.2 ∧ isEmptyString (some key.2) = false ∧
          0 < getAsInt licenseAsk.count 0 := by
  induction licenseAsks generalizing table with
  | nil => simp
  | cons licenseAsk licenseAsks ih =>
    rw [List.foldl_cons, ih, mem_keys_addAsk, List.exists_mem_cons_iff]
    tauto

theorem mem_keys_addJobAsks {job : SocaJob} :
    key ∈ (addJobAsks table job).keys ↔ key ∈ table.keys ∨ job.Asks key := by
  unfold addJobAsks SocaJob.Asks
  cases hid : job.jobId with
  | none => simp
  | some jobId =>
    dsimp only
    split
    · rename_i hempty
      have hno : ¬ (some jobId = some key.1 ∧ isEmptyString (some key.1) = false) := by
        rintro ⟨heq, hkey⟩
        rw [heq, hkey] at hempty
        cases hempty
      tauto
    · rename_i hfull
      rw [mem_keys_foldl_addAsk]
      constructor
      · rintro (hk | ⟨rfl, hasks⟩)
        · exact .inl hk
        · exact .inr ⟨rfl, Bool.eq_false_iff.mpr hfull, hasks⟩
      · rintro (hk | ⟨heq, _, hasks⟩)
        · exact .inl hk
        · exact .inr ⟨(Option.some.inj heq).symm, hasks⟩

theorem mem_keys_dropLicenses {jobId : Option String} :
    key ∈ (dropLicenses table jobId).keys ↔ key ∈ table.keys ∧ some key.1 ≠ jobId := by
  unfold dropLicenses
  rw [← Dict.get?_isSome, Dict.get?_foldl_erase, ← Dict.get?_isSome]
  by_cases hk : (table.get? key).isSome
  · have hm := Dict.get?_isSome.mp hk
    by_cases hid : some key.1 = jobId <;> simp [hk, hm, hid]
  · have hm : key ∉ table.keys := fun hm => hk (Dict.get?_isSome.mpr hm)
    simp [hm, Dict.get?_eq_none.mpr hm]

theorem positiveRows_dropLicenses {jobId : Option String}
    (h : JobProvisioningUtil.PositiveRows table) :
    JobProvisioningUtil.PositiveRows (dropLicenses table jobId) := by
  rintro ⟨k, count⟩ hrow
  rw [Dict.mem_entries, dropLicenses, Dict.get?_foldl_erase] at hrow
  split at hrow
  · cases hrow
  · exact h _ (Dict.mem_entries.mpr hrow)

variable {db db' : JobsDB}

theorem activeJobLicenses_addMany {jobs : List SocaJob} (h : db.addMany jobs = .ok db') :
    db'.activeJobLicenses = db.activeJobLicenses := by
  refine Raised.foldlM_invariant (fun mid => mid.activeJobLicenses = db.activeJobLicenses) h rfl ?_
  intro job _ mid mid' hmid hadd
  obtain ⟨row, _, rfl⟩ := add_eq_ok.mp hadd
  exact hmid

theorem activeJobLicenses_deleteMany (jobIds : List (Option String)) :
    (db.deleteMany jobIds).activeJobLicenses =
      jobIds.foldl dropLicenses db.activeJobLicenses := by
  induction jobIds generalizing db with
  | nil => rfl
  | cons jobId jobIds ih => exact ih

theorem mem_keys_foldl_dropLicenses (jobIds : List (Option String)) :
    key ∈ (jobIds.foldl dropLicenses table).keys ↔ key ∈ table.keys ∧ some key.1 ∉ jobIds := by
  induction jobIds generalizing table with
  | nil => simp
  | cons jobId jobIds ih =>
    rw [List.foldl_cons, ih, mem_keys_dropLicenses, List.mem_cons]
    tauto

theorem addMany_singleton_isOk {job : SocaJob} :
    (∃ db', db.addMany [job] = .ok db') ↔ ∃ row, jobRow job = .ok row := by
  simp only [addMany, List.foldlM_cons, List.foldlM_nil, Raised.bind_eq_ok, add_eq_ok]
  constructor
  · rintro ⟨_, _, ⟨row, hrow, _⟩, _⟩
    exact ⟨row, hrow⟩
  · rintro ⟨row, hrow⟩
    exact ⟨_, _, ⟨row, hrow, rfl⟩, rfl⟩

end JobsDB

open JobProvisioningUtil

variable {db db' : JobsDB} {op : CacheOp} {key : String × String}

theorem CacheOp.licenses_cases (db : JobsDB) (op : CacheOp) :
    (∃ job, op = .provision job ∧ (∃ row, jobRow job = .ok row) ∧
      (op.apply db).activeJobLicenses = addJobAsks db.activeJobLicenses job) ∨
    (∃ jobIds, op = .delete jobIds ∧
      (op.apply db).activeJobLicenses = jobIds.foldl dropLicenses db.activeJobLicenses) ∨
    ((∀ key, ¬ op.Records key) ∧ (∀ jobId, ¬ op.Drops jobId) ∧
      (op.apply db).activeJobLicenses = db.activeJobLicenses) := by
  cases op with
  | provision job =>
    cases hadd : db.addMany [job] with
    | ok mid =>
      refine .inl ⟨job, rfl, JobsDB.addMany_singleton_isOk.mp ⟨mid, hadd⟩, ?_⟩
      rw [← activeJobLicenses_addMany hadd]
      simp [CacheOp.apply, JobsDB.addProvisioned, hadd, bind, Except.bind, Except.toOption,
        addLicenseAsk]
    | error e =>
      refine .inr (.inr ⟨?_, fun _ => id, ?_⟩)
      · rintro key ⟨hrow, _⟩
        obtain ⟨mid, hmid⟩ := JobsDB.addMany_singleton_isOk.mpr hrow
        rw [hadd] at hmid
        cases hmid
      · simp [CacheOp.apply, JobsDB.addProvisioned, hadd, bind, Except.bind, Except.toOption]
  | reset => exact .inr (.inr ⟨fun _ => id, fun _ => id, rfl⟩)
  | sync jobs =>
    refine .inr (.inr ⟨fun _ => id, fun _ => id, ?_⟩)
    cases hadd : db.addMany jobs with
    | ok mid =>
      simpa [CacheOp.apply, hadd, Except.toOption] using activeJobLicenses_addMany hadd
    | error e => simp [CacheOp.apply, hadd, Except.toOption]
  | delete jobIds => exact .inr (.inl ⟨jobIds, rfl, activeJobLicenses_deleteMany jobIds⟩)

theorem CacheOp.positiveRows_apply (op : CacheOp) (h : PositiveRows db.activeJobLicenses) :
    PositiveRows (op.apply db).activeJobLicenses := by
  rcases op.licenses_cases db with ⟨job, _, _, heq⟩ | ⟨jobIds, _, heq⟩ | ⟨_, _, heq⟩
  · rw [heq]
    exact positiveRows_addJobAsks job h
  · rw [heq]
    exact List.foldlRecOn jobIds dropLicenses h fun _ hpos _ _ => positiveRows_dropLicenses hpos
  · rwa [heq]

theorem CacheOp.mem_keys_apply (op : CacheOp) :
    key ∈ (op.apply db).activeJobLicenses.keys ↔
      op.Records key ∨ key ∈ db.activeJobLicenses.keys ∧ ¬ op.Drops key.1 := by
  rcases op.licenses_cases db with ⟨job, rfl, hrow, heq⟩ | ⟨jobIds, rfl, heq⟩ | ⟨hrec, hdrop, heq⟩
  · rw [heq, mem_keys_addJobAsks]
    simp only [CacheOp.Records, CacheOp.Drops, hrow, true_and, not_false_eq_true, and_true]
    exact or_comm
  · rw [heq, mem_keys_foldl_dropLicenses]
    simp [CacheOp.Records, CacheOp.Drops]
  · simp [heq, hrec, hdrop]

theorem mem_keys_activeJobLicenses_iff {t : List (Edge JobsDB CacheOp)}
    (h : Run CacheStep .new t db) :
    PositiveRows db.activeJobLicenses ∧ ∀ key, key ∈ db.activeJobLicenses.keys ↔
      LeftBehind (t.map Edge.label) key := by
  induction h with
  | nil =>
    refine ⟨fun _ hrow => absurd hrow List.not_mem_nil, fun key => ?_⟩
    exact iff_of_false List.not_mem_nil fun ⟨_, _, _, heq, _⟩ => by simp at heq
  | @snoc t db op db' _ hs ih =>
    subst hs
    obtain ⟨hpos, hkeys⟩ := ih
    refine ⟨op.positiveRows_apply hpos, fun key => ?_⟩
    rw [op.mem_keys_apply, List.map_append, List.map_singleton, leftBehind_snoc, hkeys]

namespace JobProvisioningUtil

variable {available : Option String → ℤ} {table : LicenseTable}

def usageOfOthers (table : LicenseTable) (jobId : Option String) (licenseName : Option String) :
    ℤ :=
  ((table.entries.filter fun row =>
    row.1.2 = licenseName.getD "None" ∧ some row.1.1 ≠ jobId).map Prod.snd).sum

def ownUsage (table : LicenseTable) (jobId : Option String) (licenseName : Option String) : ℤ :=
  (jobId.bind fun jobId => table.get? (jobId, licenseName.getD "None")).getD 0

/-- What is available covers each ask of the job on top of what the other jobs hold. -/
def CoversOthers (available : Option String → ℤ) (table : LicenseTable) (job : SocaJob) : Prop :=
  job.params ≠ none ∧ ∀ licenseAsk ∈ job.licenseAsks, ∃ count, licenseAsk.count = some count ∧
    usageOfOthers table job.jobId licenseAsk.name + count ≤ available licenseAsk.name

/-- The job alone passes the check whenever what is available covers it beside the others. -/
def NotRefusedForItself (table : LicenseTable) (job : SocaJob) : Prop :=
  ∀ available, CoversOthers available table job →
    checkLicenses available table [job] = .ok ()

theorem getActiveLicenseCount_eq_add (table : LicenseTable) (jobId licenseName : Option String) :
    getActiveLicenseCount table licenseName =
      usageOfOthers table jobId licenseName + ownUsage table jobId licenseName := by
  unfold getActiveLicenseCount usageOfOthers ownUsage
  cases jobId with
  | none => simp
  | some jobId =>
    have hothers : ∀ rows : List ((String × String) × ℤ),
        (∀ row ∈ rows, row.1 ≠ (jobId, licenseName.getD "None")) →
        rows.filter (fun row => row.1.2 = licenseName.getD "None") =
          rows.filter fun row => row.1.2 = licenseName.getD "None" ∧ some row.1.1 ≠ some jobId := by
      intro rows hne
      refine List.filter_congr fun row hrow => decide_eq_decide.mpr ?_
      refine ⟨fun hn => ⟨hn, fun hid => hne row hrow ?_⟩, And.left⟩
      exact Prod.ext (Option.some.inj hid) hn
    cases hg : table.get? (jobId, licenseName.getD "None") with
    | none =>
      rw [hothers]
      · simp [hg]
      · rintro row hrow hk
        exact Dict.get?_eq_none.mp hg (hk ▸ List.mem_map_of_mem hrow)
    | some count =>
      obtain ⟨l₁, l₂, hl, _, herase⟩ := Dict.entries_split hg
      have hne : ∀ row ∈ l₁ ++ l₂, row.1 ≠ (jobId, licenseName.getD "None") := by
        intro row hrow
        rw [← herase] at hrow
        exact (Dict.mem_keys_erase.mp (List.mem_map_of_mem hrow)).2
      rw [hl, List.filter_append, List.filter_append, List.filter_cons, List.filter_cons,
        hothers l₁ fun row hrow => hne row (List.mem_append_left _ hrow),
        hothers l₂ fun row hrow => hne row (List.mem_append_right _ hrow)]
      simp only [decide_true, if_true, ne_eq, not_true_eq_false, and_false, decide_false,
        Bool.false_eq_true, if_false, List.map_append, List.map_cons, List.sum_append,
        List.sum_cons, Option.bind_some, hg, Option.getD_some]
      omega

theorem ownUsage_pos_iff (h : PositiveRows table) {jobId licenseName : Option String} :
    0 < ownUsage table jobId licenseName ↔
      ∃ id, jobId = some id ∧ (id, licenseName.getD "None") ∈ table.keys := by
  unfold ownUsage
  cases jobId with
  | none => simp
  | some id =>
    cases hg : table.get? (id, licenseName.getD "None") with
    | none =>
      have hn := Dict.get?_eq_none.mp hg
      simp [hg, hn]
    | some count =>
      have hpos : 0 < count := h _ (Dict.mem_entries_of_get? hg)
      have hm := Dict.mem_keys_of_get? hg
      simp [hg, hpos, hm]

theorem checkLicenses_singleton {job : SocaJob} :
    checkLicenses available table [job] = .ok () ↔
      job.params ≠ none ∧ ∀ licenseAsk ∈ job.licenseAsks, AskFits available table licenseAsk := by
  rw [checkLicenses_eq_ok]
  simp

/-- The asks of a job have counts, as those that pass a check do. -/
def Counted (job : SocaJob) : Prop :=
  job.params ≠ none ∧ ∀ licenseAsk ∈ job.licenseAsks, licenseAsk.count ≠ none

/-- What covers each ask of a job and no more: the largest ask of the resource with what the
other jobs hold of it. -/
def leastCover (table : LicenseTable) (job : SocaJob) (licenseName : Option String) : ℤ :=
  usageOfOthers table job.jobId licenseName +
    (((job.licenseAsks.filter fun licenseAsk => licenseAsk.name = licenseName).filterMap
      SocaJobLicenseAsk.count).max?).getD 0

theorem leastCover_spec (table : LicenseTable) {job : SocaJob}
    {licenseAsk : SocaJobLicenseAsk} {count : ℤ} (hm : licenseAsk ∈ job.licenseAsks)
    (hc : licenseAsk.count = some count) :
    usageOfOthers table job.jobId licenseAsk.name + count ≤
        leastCover table job licenseAsk.name ∧
      ∃ largest ∈ job.licenseAsks, ∃ most, largest.name = licenseAsk.name ∧
        largest.count = some most ∧ leastCover table job licenseAsk.name =
          usageOfOthers table job.jobId licenseAsk.name + most := by
  unfold leastCover
  set counts := (job.licenseAsks.filter fun ask => ask.name = licenseAsk.name).filterMap
    SocaJobLicenseAsk.count with hcounts
  have hmem : count ∈ counts :=
    List.mem_filterMap.mpr ⟨licenseAsk, List.mem_filter.mpr ⟨hm, by simp⟩, hc⟩
  obtain ⟨most, hmost⟩ := Option.isSome_iff_exists.mp (List.isSome_max?_of_mem hmem)
  obtain ⟨hin, hle⟩ := List.max?_eq_some_iff.mp hmost
  rw [hmost, Option.getD_some]
  refine ⟨by linarith [hle count hmem], ?_⟩
  obtain ⟨largest, hlargest, hcount⟩ := List.mem_filterMap.mp hin
  obtain ⟨hl, hn⟩ := List.mem_filter.mp hlargest
  exact ⟨largest, hl, most, by simpa using hn, hcount, rfl⟩

/-- In any state the job is not refused for itself exactly when it holds none of the licenses
it asks for. -/
theorem notRefusedForItself_iff {job : SocaJob} :
    NotRefusedForItself table job ↔
      (Counted job → ∀ licenseAsk ∈ job.licenseAsks,
        ownUsage table job.jobId licenseAsk.name ≤ 0) := by
  constructor
  · intro h ⟨hparams, hcounts⟩ licenseAsk hm
    have hcovers : CoversOthers (leastCover table job) table job := by
      refine ⟨hparams, fun ask hask => ?_⟩
      obtain ⟨count, hc⟩ := Option.ne_none_iff_exists'.mp (hcounts ask hask)
      exact ⟨count, hc, (leastCover_spec table hask hc).1⟩
    obtain ⟨count, hc⟩ := Option.ne_none_iff_exists'.mp (hcounts licenseAsk hm)
    obtain ⟨_, largest, hl, most, hname, hmost, hcover⟩ := leastCover_spec table hm hc
    obtain ⟨count', hc', hfits⟩ := (checkLicenses_singleton.mp (h _ hcovers)).2 largest hl
    obtain rfl := Option.some.inj (hmost.symm.trans hc')
    rw [hname, getActiveLicenseCount_eq_add table job.jobId, hcover] at hfits
    linarith
  · intro h available ⟨hparams, hcovers⟩
    have hcounted : Counted job := by
      refine ⟨hparams, fun ask hask => ?_⟩
      obtain ⟨count, hc, _⟩ := hcovers ask hask
      exact Option.ne_none_iff_exists'.mpr ⟨count, hc⟩
    refine checkLicenses_singleton.mpr ⟨hparams, fun ask hask => ?_⟩
    obtain ⟨count, hc, hle⟩ := hcovers ask hask
    refine ⟨count, hc, ?_⟩
    rw [getActiveLicenseCount_eq_add table job.jobId]
    linarith [h hcounted ask hask]

/-- In every state of the cache a job is not refused for its own license usage exactly when no
license it asks for was recorded for it since it was last deleted from the cache. -/
theorem not_refused_for_itself_iff {t : List (Edge JobsDB CacheOp)} {db : JobsDB}
    (h : Run CacheStep .new t db) (job : SocaJob) :
    NotRefusedForItself db.activeJobLicenses job ↔
      (Counted job → ∀ licenseAsk ∈ job.licenseAsks, ∀ jobId, job.jobId = some jobId →
        ¬ LeftBehind (t.map Edge.label) (jobId, licenseAsk.name.getD "None")) := by
  obtain ⟨hpos, hkeys⟩ := mem_keys_activeJobLicenses_iff h
  rw [notRefusedForItself_iff]
  refine imp_congr_right fun _ => forall₂_congr fun licenseAsk _ => ?_
  rw [← not_lt, ownUsage_pos_iff hpos]
  simp only [hkeys, not_exists, not_and]

namespace StaleLicenseExample

open LicenseExample

def recordedJob : SocaJob := { job "7" with state := some .queued }

def provisioned : SocaJob := { recordedJob with provisioned := some true }

def reset : List CacheOp := [.provision provisioned, .reset (some "7"), .sync [recordedJob]]

def deleted : List CacheOp := [.provision provisioned, .delete [some "7"], .sync [recordedJob]]

def after (ops : List CacheOp) : JobsDB := ops.foldl CacheOp.apply .new

theorem run_after (ops : List CacheOp) :
    Run CacheStep .new (Run.edges CacheOp.apply .new ops) (after ops) :=
  Run.of_edges CacheOp.apply .new ops

end StaleLicenseExample

open StaleLicenseExample in
/-- The job that was deleted in between only has to fit beside the others. -/
theorem not_refused_after_deletion :
    NotRefusedForItself (after deleted).activeJobLicenses recordedJob := by
  refine (not_refused_for_itself_iff (run_after deleted) recordedJob).mpr
    fun _ licenseAsk _ jobId _ => ?_
  have hkeys : (after deleted).activeJobLicenses.keys = [] := by decide
  rw [← (mem_keys_activeJobLicenses_iff (run_after deleted)).2, hkeys]
  exact List.not_mem_nil

open StaleLicenseExample LicenseExample in
/-- The job that was reset is refused the only license, which no other job holds. -/
theorem refused_after_reset :
    Run CacheStep .new (Run.edges CacheOp.apply .new reset) (after reset) ∧
      ¬ NotRefusedForItself (after reset).activeJobLicenses recordedJob := by
  refine ⟨run_after reset, fun h => ?_⟩
  have hcovers : CoversOthers oneAvailable (after reset).activeJobLicenses recordedJob := by
    refine ⟨Option.some_ne_none _, fun licenseAsk hask => ?_⟩
    obtain rfl := List.mem_singleton.mp hask
    exact ⟨1, rfl, by decide⟩
  exact absurd (h oneAvailable hcovers) (by decide)

end JobProvisioningUtil

end Idea

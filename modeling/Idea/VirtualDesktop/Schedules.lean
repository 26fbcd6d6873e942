import Idea.System.Run
import Idea.VirtualDesktop.SessionUtils

/-! # The schedules of a session and their table

A session has a schedule for each day of the week, and each of them has a row in a table of its
own. An update compares the current schedule of a day with the one that is given and keeps the row,
removes it or writes another one.
-/

namespace Idea.VirtualDesktop.Schedules

open Controller (DayOfWeek VirtualDesktopScheduleType VirtualDesktopSchedule SessionKey
  getEmptySchedule isSameSchedule scheduleKey)

structure TimedSchedule extends VirtualDesktopSchedule where
  startUpTime : Option String
  shutDownTime : Option String

/-- An item of the table without its key. -/
structure ScheduleRow where
  ideaSessionId : Option String
  ideaSessionOwner : Option String
  scheduleType : Option VirtualDesktopScheduleType
  startUpTime : Option String
  shutDownTime : Option String
  deriving DecidableEq

/-- An item belongs to a day and has an id. -/
abbrev ScheduleTable : Type := Dict (DayOfWeek × String) ScheduleRow

structure WorkingHours where
  startUpTime : String
  shutDownTime : String

def emptySchedule (dayOfWeek : Option DayOfWeek) : TimedSchedule where
  toVirtualDesktopSchedule := getEmptySchedule dayOfWeek
  startUpTime := none
  shutDownTime := none

def convertScheduleObjectToDbDict (schedule : TimedSchedule) : ScheduleRow where
  ideaSessionId := schedule.ideaSessionId
  ideaSessionOwner := schedule.ideaSessionOwner
  scheduleType := schedule.scheduleType
  startUpTime :=
    if schedule.scheduleType = some .CUSTOM_SCHEDULE then schedule.startUpTime else none
  shutDownTime :=
    if schedule.scheduleType = some .CUSTOM_SCHEDULE then schedule.shutDownTime else none

def timesOfType (hours : WorkingHours) (row : ScheduleRow) :
    VirtualDesktopScheduleType → Option String × Option String
  | .WORKING_HOURS => (some hours.startUpTime, some hours.shutDownTime)
  | .STOP_ON_IDLE => (some "23:59", some "00:00")
  | .START_ALL_DAY => (some "00:00", some "23:59")
  | _ => (row.startUpTime.bind getAsString, row.shutDownTime.bind getAsString)

def convertDbDictToScheduleObject (hours : WorkingHours) (dayOfWeek : Option DayOfWeek)
    (scheduleId : Option String) (row : ScheduleRow) : Except Raised TimedSchedule :=
  match scheduleId.bind getAsString with
  | none => .ok (emptySchedule none)
  | some scheduleId =>
    match row.scheduleType with
    | none => .error .valueError
    | some scheduleType =>
      .ok {
        scheduleId := some scheduleId
        ideaSessionId := row.ideaSessionId.bind getAsString
        ideaSessionOwner := row.ideaSessionOwner.bind getAsString
        dayOfWeek
        scheduleType := some scheduleType
        startUpTime := (timesOfType hours row scheduleType).1
        shutDownTime := (timesOfType hours row scheduleType).2 }

/-- `VirtualDesktopScheduleDB.create`, with the id that is drawn. The row is written first. -/
def create (hours : WorkingHours) (dayOfWeek : DayOfWeek) (uuid : String)
    (schedule : TimedSchedule) (table : ScheduleTable) :
    Except Raised TimedSchedule × ScheduleTable :=
  let row := convertScheduleObjectToDbDict schedule
  (convertDbDictToScheduleObject hours (some dayOfWeek) (some uuid) row,
    table.set (dayOfWeek, uuid) row)

def createScheduleForDayOfWeek (hours : WorkingHours) (dayOfWeek : DayOfWeek) (uuid : String)
    (schedule : TimedSchedule) (key : SessionKey) (table : ScheduleTable) :
    Except Raised TimedSchedule × ScheduleTable :=
  if schedule.scheduleType = some .NO_SCHEDULE then (.ok (emptySchedule (some dayOfWeek)), table)
  else
    create hours dayOfWeek uuid
      { schedule with
        scheduleId := none
        ideaSessionId := some key.2
        ideaSessionOwner := some key.1
        dayOfWeek := some dayOfWeek } table

def deleteSchedule (schedule : TimedSchedule) (table : ScheduleTable) : ScheduleTable :=
  match scheduleKey schedule.toVirtualDesktopSchedule with
  | none => table
  | some key => table.erase key

def createOrUpdateScheduleForDayOfWeek (hours : WorkingHours) (dayOfWeek : DayOfWeek)
    (uuid : String) (current new : Option TimedSchedule) (key : SessionKey)
    (table : ScheduleTable) : Except Raised TimedSchedule × ScheduleTable :=
  let current := current.getD (emptySchedule (some dayOfWeek))
  match new with
  | none => (.ok current, table)
  | some new =>
    if isSameSchedule new.toVirtualDesktopSchedule current.toVirtualDesktopSchedule then
      (.ok current, table)
    else if new.scheduleType = some .NO_SCHEDULE then
      (.ok (emptySchedule (some dayOfWeek)), deleteSchedule current table)
    else if current.scheduleType ≠ new.scheduleType then
      createScheduleForDayOfWeek hours dayOfWeek uuid new key (deleteSchedule current table)
    -- nothing is written in place of what was deleted
    else (.ok new, deleteSchedule current table)

abbrev Week : Type := DayOfWeek → Option TimedSchedule

def updateDays (hours : WorkingHours) (uuids : DayOfWeek → String) (new : Week)
    (key : SessionKey) : List DayOfWeek → Week → ScheduleTable → Except Raised Week × ScheduleTable
  | [], week, table => (.ok week, table)
  | day :: days, week, table =>
    match createOrUpdateScheduleForDayOfWeek hours day (uuids day) (week day) (new day) key
      table with
    | (.error e, table) => (.error e, table)
    | (.ok schedule, table) =>
      updateDays hours uuids new key days (Function.update week day (some schedule)) table

def updateScheduleForSession (hours : WorkingHours) (uuids : DayOfWeek → String) (new : Week)
    (key : SessionKey) (week : Week) (table : ScheduleTable) :
    Except Raised Week × ScheduleTable :=
  updateDays hours uuids new key DayOfWeek.all week table

def HasRow (table : ScheduleTable) (key : SessionKey) (day : DayOfWeek) (id : String)
    (row : ScheduleRow) : Prop :=
  table.get? (day, id) = some row ∧ row.ideaSessionOwner = some key.1 ∧
    row.ideaSessionId = some key.2

def HasNoRow (table : ScheduleTable) (key : SessionKey) (day : DayOfWeek) : Prop :=
  ∀ id row, ¬ HasRow table key day id row

def IsUuid (id : String) : Prop := getAsString id = some id

/-- The session has no schedule for the day and no row, or a schedule of the type of its only
row. -/
inductive InStep (table : ScheduleTable) (key : SessionKey) (day : DayOfWeek)
    (schedule : TimedSchedule) : Prop
  | off : schedule.scheduleType = some .NO_SCHEDULE → HasNoRow table key day →
      InStep table key day schedule
  | on {id : String} {row : ScheduleRow} {type : VirtualDesktopScheduleType} : IsUuid id →
      schedule.scheduleId = some id → schedule.dayOfWeek = some day →
      schedule.scheduleType = some type → type ≠ .NO_SCHEDULE → HasRow table key day id row →
      row.scheduleType = some type →
      (∀ id' row', HasRow table key day id' row' → id' = id) → InStep table key day schedule

inductive DayRight (table : ScheduleTable) (key : SessionKey) (day : DayOfWeek)
    (new schedule : TimedSchedule) : Prop
  | off : new.scheduleType = some .NO_SCHEDULE → schedule.scheduleType = some .NO_SCHEDULE →
      HasNoRow table key day → DayRight table key day new schedule
  | on {id : String} {row : ScheduleRow} : schedule.scheduleId = some id →
      HasRow table key day id row → row.scheduleType = new.scheduleType →
      (new.scheduleType = some .CUSTOM_SCHEDULE →
        row.startUpTime = new.startUpTime ∧ row.shutDownTime = new.shutDownTime) →
      (∀ id' row', HasRow table key day id' row' → id' = id) →
      DayRight table key day new schedule

/-- Only rows of one session for one day change. -/
structure Framed (table table' : ScheduleTable) (key : SessionKey) (day : DayOfWeek) : Prop where
  rows : ∀ key' day', (key', day') ≠ (key, day) → ∀ id row,
    HasRow table' key' day' id row ↔ HasRow table key' day' id row
  items : ∀ day', day' ≠ day → ∀ id, table'.get? (day', id) = table.get? (day', id)

variable {hours : WorkingHours} {table table' table'' : ScheduleTable} {key : SessionKey}
  {day : DayOfWeek} {schedule current new : TimedSchedule} {id : String}

theorem Framed.refl : Framed table table key day := ⟨fun _ _ _ _ _ => Iff.rfl, fun _ _ _ => rfl⟩

theorem Framed.trans (h : Framed table table' key day) (h' : Framed table' table'' key day) :
    Framed table table'' key day :=
  ⟨fun key' day' hne id row => (h'.rows key' day' hne id row).trans (h.rows key' day' hne id row),
    fun day' hne id => (h'.items day' hne id).trans (h.items day' hne id)⟩

theorem InStep.congr {key' : SessionKey} {day' : DayOfWeek} (h : InStep table key day schedule)
    (hrows : ∀ id row, HasRow table' key' day' id row ↔ HasRow table key day id row)
    (hday : day' = day) : InStep table' key' day' schedule := by
  subst hday
  cases h with
  | off ht hn => exact .off ht fun id row hr => hn id row ((hrows id row).mp hr)
  | on hid hs hd ht hne hr hrow hu =>
    exact .on hid hs hd ht hne ((hrows _ _).mpr hr) hrow
      fun id' row' hr' => hu id' row' ((hrows id' row').mp hr')

theorem DayRight.congr (h : DayRight table key day new schedule)
    (hrows : ∀ id row, HasRow table' key day id row ↔ HasRow table key day id row) :
    DayRight table' key day new schedule := by
  cases h with
  | off ht hs hn => exact .off ht hs fun id row hr => hn id row ((hrows id row).mp hr)
  | on hs hr ht htimes hu =>
    exact .on hs ((hrows _ _).mpr hr) ht htimes
      fun id' row' hr' => hu id' row' ((hrows id' row').mp hr')

theorem IsUuid.nonempty (h : IsUuid id) : isEmptyString (some id) = false := by
  unfold IsUuid getAsString at h
  split at h
  · cases h
  · rename_i hblank
    simpa using hblank

theorem scheduleKey_off (h : schedule.scheduleType = some .NO_SCHEDULE) :
    scheduleKey schedule.toVirtualDesktopSchedule = none := by
  simp [scheduleKey, h]

theorem HasRow.key_eq {key' : SessionKey} {row row' : ScheduleRow}
    (h : HasRow table key day id row) (h' : HasRow table key' day id row') : key' = key := by
  obtain ⟨hget, howner, hsession⟩ := h
  obtain ⟨hget', howner', hsession'⟩ := h'
  obtain rfl := Option.some.inj (hget.symm.trans hget')
  exact Prod.ext (Option.some.inj (howner'.symm.trans howner))
    (Option.some.inj (hsession'.symm.trans hsession))

theorem Framed.erase {row : ScheduleRow} (h : HasRow table key day id row) :
    Framed table (table.erase (day, id)) key day where
  rows key' day' hne id' row' := by
    unfold HasRow
    rw [Dict.get?_erase]
    split
    · rename_i heq
      obtain ⟨rfl, rfl⟩ := Prod.mk.inj heq
      constructor
      · rintro ⟨hget, -⟩
        cases hget
      · intro h'
        exact absurd (by rw [h.key_eq h']) hne
    · rfl
  items day' hne id' := Dict.get?_erase_ne table fun heq => hne (Prod.mk.inj heq).1

theorem Framed.set {row : ScheduleRow} (hfresh : table.get? (day, id) = none)
    (howner : row.ideaSessionOwner = some key.1) (hsession : row.ideaSessionId = some key.2) :
    Framed table (table.set (day, id) row) key day where
  rows key' day' hne id' row' := by
    unfold HasRow
    rw [Dict.get?_set]
    split
    · rename_i heq
      obtain ⟨rfl, rfl⟩ := Prod.mk.inj heq
      rw [hfresh]
      constructor
      · rintro ⟨hrow, howner', hsession'⟩
        obtain rfl := Option.some.inj hrow
        have hkey : key' = key := Prod.ext (Option.some.inj (howner'.symm.trans howner))
          (Option.some.inj (hsession'.symm.trans hsession))
        exact absurd (by rw [hkey]) hne
      · rintro ⟨hrow, -⟩
        cases hrow
    · rfl
  items day' hne id' := Dict.get?_set_ne table (fun heq => hne (Prod.mk.inj heq).1) row

/-- What can be taken off the table for a day before a schedule is written. -/
inductive Removable (table : ScheduleTable) (key : SessionKey) (day : DayOfWeek)
    (schedule : TimedSchedule) : Prop
  | inStep : InStep table key day schedule → Removable table key day schedule
  | loose : HasNoRow table key day → scheduleKey schedule.toVirtualDesktopSchedule = none →
      Removable table key day schedule

theorem deleteSchedule_of_key_eq_none
    (h : scheduleKey schedule.toVirtualDesktopSchedule = none) :
    deleteSchedule schedule table = table := by
  rw [deleteSchedule, h]

theorem deleteSchedule_spec (h : Removable table key day schedule) :
    HasNoRow (deleteSchedule schedule table) key day ∧
      Framed table (deleteSchedule schedule table) key day ∧
      ∀ id, table.get? (day, id) = none → (deleteSchedule schedule table).get? (day, id) = none := by
  rcases h with h | ⟨hn, hk⟩
  · cases h with
    | off ht hn =>
      rw [deleteSchedule_of_key_eq_none (scheduleKey_off ht)]
      exact ⟨hn, .refl, fun _ h => h⟩
    | @on id row type hid hs hd ht hne hr hrow hu =>
      have hk : scheduleKey schedule.toVirtualDesktopSchedule = some (day, id) := by
        simp [scheduleKey, ht, hs, hd, hne, hid.nonempty]
      rw [deleteSchedule, hk]
      refine ⟨?_, .erase hr, ?_⟩
      · rintro id' row' ⟨hget, howner⟩
        rw [Dict.get?_erase] at hget
        split at hget
        · cases hget
        · rename_i hne'
          exact hne' (by rw [hu id' row' ⟨hget, howner⟩])
      · intro id' hnone
        rw [Dict.get?_erase, hnone, ite_self]
  · rw [deleteSchedule_of_key_eq_none hk]
    exact ⟨hn, .refl, fun _ h => h⟩

/-- What an update of one day does to a session whose other days stay as they are. -/
structure Updated (table table' : ScheduleTable) (key : SessionKey) (day : DayOfWeek)
    (new : Option TimedSchedule) (schedule : TimedSchedule) : Prop where
  inStep : InStep table' key day schedule
  framed : Framed table table' key day
  right : ∀ given, new = some given → DayRight table' key day given schedule

theorem convertDbDict_spec {type : VirtualDesktopScheduleType} {row : ScheduleRow}
    (hours : WorkingHours) (dayOfWeek : Option DayOfWeek) (hid : IsUuid id)
    (ht : row.scheduleType = some type) :
    ∃ schedule, convertDbDictToScheduleObject hours dayOfWeek (some id) row = .ok schedule ∧
      schedule.scheduleId = some id ∧ schedule.dayOfWeek = dayOfWeek ∧
      schedule.scheduleType = some type := by
  have huuid : (some id).bind getAsString = some id := hid
  simp [convertDbDictToScheduleObject, huuid, ht]

def newRow (day : DayOfWeek) (new : TimedSchedule) (key : SessionKey) : ScheduleRow :=
  convertScheduleObjectToDbDict { new with
    scheduleId := none
    ideaSessionId := some key.2
    ideaSessionOwner := some key.1
    dayOfWeek := some day }

theorem create_spec (hours : WorkingHours) {type : VirtualDesktopScheduleType} (hn : HasNoRow table key day)
    (hid : IsUuid id) (hfresh : table.get? (day, id) = none) (ht : new.scheduleType = some type)
    (hne : type ≠ .NO_SCHEDULE) :
    ∃ schedule table', createScheduleForDayOfWeek hours day id new key table =
      (.ok schedule, table') ∧ Updated table table' key day (some new) schedule := by
  have hwrite : new.scheduleType ≠ some .NO_SCHEDULE := by simp [ht, hne]
  have hframed : Framed table (table.set (day, id) (newRow day new key)) key day :=
    .set hfresh rfl rfl
  have hrow : HasRow (table.set (day, id) (newRow day new key)) key day id (newRow day new key) :=
    ⟨by simp [Dict.get?_set], rfl, rfl⟩
  have hunique : ∀ id' row', HasRow (table.set (day, id) (newRow day new key)) key day id' row' →
      id' = id := by
    rintro id' row' ⟨hget, howner⟩
    by_contra hne'
    rw [Dict.get?_set_ne _ (by simp [hne'])] at hget
    exact hn id' row' ⟨hget, howner⟩
  have hrowType : (newRow day new key).scheduleType = some type := ht
  obtain ⟨schedule, hread, hs, hd, htype⟩ := convertDbDict_spec hours (some day) hid hrowType
  refine ⟨schedule, table.set (day, id) (newRow day new key), ?_, ?_, hframed, ?_⟩
  · rw [createScheduleForDayOfWeek, if_neg hwrite, ← hread]
    rfl
  · exact .on hid hs hd htype hne hrow ht hunique
  · rintro _ ⟨⟩
    refine .on hs hrow rfl (fun hcustom => ?_) hunique
    simp [newRow, convertScheduleObjectToDbDict, hcustom]

theorem type_of_isSameSchedule {a b : VirtualDesktopSchedule} (h : isSameSchedule a b = true) :
    a.scheduleType = b.scheduleType ∧ a.scheduleType ≠ some .CUSTOM_SCHEDULE := by
  simp only [isSameSchedule, Bool.and_eq_true, decide_eq_true_eq, Bool.or_eq_true] at h
  refine ⟨h.1, fun hcustom => ?_⟩
  simp [hcustom] at h

theorem type_of_not_isSameSchedule {a b : VirtualDesktopSchedule} (h : ¬ isSameSchedule a b = true)
    (ha : a.scheduleType ≠ none) (hb : b.scheduleType = a.scheduleType) :
    a.scheduleType = some .CUSTOM_SCHEDULE ∧ b.scheduleType = some .CUSTOM_SCHEDULE := by
  obtain ⟨type, ht⟩ := Option.ne_none_iff_exists'.mp ha
  rw [hb, ht]
  simp only [isSameSchedule, hb, ht] at h
  cases type <;> simp at h ⊢

theorem InStep.right (h : InStep table key day schedule)
    (htype : new.scheduleType = schedule.scheduleType)
    (hfixed : new.scheduleType ≠ some .CUSTOM_SCHEDULE) : DayRight table key day new schedule := by
  cases h with
  | off ht hn => exact .off (htype.trans ht) ht hn
  | on hid hs hd ht hne hr hrow hu =>
    exact .on hs hr (hrow.trans (ht.symm.trans htype.symm)) (fun hcustom => absurd hcustom hfixed) hu

/-- The current schedule is in step with the table, or it has no key and another type is given. A
schedule that is given has a type, and is not custom if the current one is. -/
structure Ready (table : ScheduleTable) (key : SessionKey) (day : DayOfWeek)
    (schedule : TimedSchedule) (given : Option TimedSchedule) : Prop where
  current : InStep table key day schedule ∨ HasNoRow table key day ∧
    scheduleKey schedule.toVirtualDesktopSchedule = none ∧
    ∃ new, given = some new ∧ schedule.scheduleType ≠ new.scheduleType
  given : ∀ new, given = some new → new.scheduleType ≠ none ∧
    ¬ (new.scheduleType = some .CUSTOM_SCHEDULE ∧ schedule.scheduleType = some .CUSTOM_SCHEDULE)

theorem Ready.congr {given : Option TimedSchedule} (h : Ready table key day schedule given)
    (hrows : ∀ id row, HasRow table' key day id row ↔ HasRow table key day id row) :
    Ready table' key day schedule given where
  current := h.current.imp (fun hin => hin.congr hrows rfl)
    fun hloose => ⟨fun id row hr => hloose.1 id row ((hrows id row).mp hr), hloose.2⟩
  given := h.given

theorem createOrUpdate_spec (hours : WorkingHours) {given : Option TimedSchedule}
    (hready : Ready table key day schedule given) (hid : IsUuid id) (hfresh : table.get? (day, id) = none) :
    ∃ schedule' table', createOrUpdateScheduleForDayOfWeek hours day id (some schedule) given key
      table = (.ok schedule', table') ∧ Updated table table' key day given schedule' := by
  cases given with
  | none =>
    have hin : InStep table key day schedule := by
      rcases hready.current with h | ⟨-, -, new, h, -⟩
      · exact h
      · cases h
    exact ⟨schedule, table, rfl, hin, .refl, by simp⟩
  | some new =>
    obtain ⟨hsome, hcustom⟩ := hready.given new rfl
    obtain ⟨type, ht⟩ := Option.ne_none_iff_exists'.mp hsome
    have hremovable : Removable table key day schedule := by
      rcases hready.current with h | ⟨hn, hk, -⟩
      · exact .inStep h
      · exact .loose hn hk
    obtain ⟨hnoRow, hframed, hkept⟩ := deleteSchedule_spec hremovable
    simp only [createOrUpdateScheduleForDayOfWeek, Option.getD_some]
    by_cases hsame : isSameSchedule new.toVirtualDesktopSchedule schedule.toVirtualDesktopSchedule
    · rw [if_pos hsame]
      obtain ⟨htype, hfixed⟩ := type_of_isSameSchedule hsame
      have hin : InStep table key day schedule := by
        rcases hready.current with h | ⟨-, -, _, ⟨⟩, hdiff⟩
        · exact h
        · exact absurd htype.symm hdiff
      refine ⟨schedule, table, rfl, hin, .refl, ?_⟩
      rintro _ ⟨⟩
      exact hin.right htype hfixed
    · rw [if_neg hsame]
      by_cases hoff : new.scheduleType = some .NO_SCHEDULE
      · rw [if_pos hoff]
        refine ⟨_, _, rfl, .off rfl hnoRow, hframed, ?_⟩
        rintro _ ⟨⟩
        exact .off hoff rfl hnoRow
      · rw [if_neg hoff]
        by_cases hdiff : schedule.scheduleType ≠ new.scheduleType
        · rw [if_pos hdiff]
          obtain ⟨schedule', table', hcreate, hup⟩ := create_spec hours hnoRow hid
            (hkept id hfresh) ht (by rintro rfl; exact hoff ht)
          exact ⟨schedule', table', hcreate, hup.inStep, hframed.trans hup.framed, hup.right⟩
        · exact absurd (type_of_not_isSameSchedule hsame hsome (not_not.mp hdiff)) hcustom

structure WeekUpdated (days : List DayOfWeek) (given week week' : Week)
    (table table' : ScheduleTable) (key : SessionKey) : Prop where
  updated : ∀ day ∈ days, ∃ schedule, week' day = some schedule ∧
    InStep table' key day schedule ∧
    ∀ new, given day = some new → DayRight table' key day new schedule
  others : ∀ day, day ∉ days → week' day = week day
  rows : ∀ key' day, (key' ≠ key ∨ day ∉ days) → ∀ id row,
    HasRow table' key' day id row ↔ HasRow table key' day id row

theorem updateDays_spec (hours : WorkingHours) {uuids : DayOfWeek → String} {given : Week} {days : List DayOfWeek}
    (hdays : days.Nodup) {week : Week}
    (hready : ∀ day ∈ days,
      Ready table key day ((week day).getD (emptySchedule (some day))) (given day))
    (hids : ∀ day ∈ days, IsUuid (uuids day) ∧ table.get? (day, uuids day) = none) :
    ∃ week' table', updateDays hours uuids given key days week table = (.ok week', table') ∧
      WeekUpdated days given week week' table table' key := by
  induction days generalizing week table with
  | nil => exact ⟨week, table, rfl, by simp, fun _ _ => rfl, fun _ _ _ _ _ => Iff.rfl⟩
  | cons day days ih =>
    obtain ⟨hnot, hdays⟩ := List.nodup_cons.mp hdays
    obtain ⟨hid, hfresh⟩ := hids day List.mem_cons_self
    obtain ⟨schedule, table₁, hday, hup⟩ :=
      createOrUpdate_spec hours (hready day List.mem_cons_self) hid hfresh
    have hne {day' : DayOfWeek} (h : day' ∈ days) : day' ≠ day := by
      rintro rfl
      exact hnot h
    have hrows {day' : DayOfWeek} (h : day' ≠ day) := hup.framed.rows key day' (by simp [h])
    have hready₁ : ∀ day' ∈ days, Ready table₁ key day'
        ((Function.update week day (some schedule) day').getD (emptySchedule (some day')))
        (given day') := by
      intro day' h
      rw [Function.update_of_ne (hne h)]
      exact (hready day' (List.mem_cons_of_mem _ h)).congr (hrows (hne h))
    have hids₁ : ∀ day' ∈ days, IsUuid (uuids day') ∧ table₁.get? (day', uuids day') = none := by
      intro day' h
      rw [hup.framed.items day' (hne h)]
      exact hids day' (List.mem_cons_of_mem _ h)
    obtain ⟨week', table', hrest, hweek⟩ := ih hdays hready₁ hids₁
    refine ⟨week', table', ?_, ?_, ?_, ?_⟩
    · have hday' : createOrUpdateScheduleForDayOfWeek hours day (uuids day) (week day) (given day)
          key table = (.ok schedule, table₁) := hday
      simp only [updateDays, hday', hrest]
    · intro day' h
      rcases List.mem_cons.mp h with rfl | h
      · have hsame := hweek.rows key day' (.inr hnot)
        refine ⟨schedule, ?_, hup.inStep.congr hsame rfl, fun new hnew => ?_⟩
        · rw [hweek.others day' hnot, Function.update_self]
        · exact (hup.right new hnew).congr hsame
      · exact hweek.updated day' h
    · intro day' h
      rw [List.mem_cons, not_or] at h
      rw [hweek.others day' h.2, Function.update_of_ne h.1]
    · intro key' day' h id row
      rw [hweek.rows key' day' (h.imp_right fun h h' => h (List.mem_cons_of_mem _ h')) id row]
      refine hup.framed.rows key' day' ?_ id row
      rintro heq
      obtain ⟨rfl, rfl⟩ := Prod.mk.inj heq
      simp at h

/-- The default schedules of the cluster. The times are those of a custom default. -/
structure Config where
  hours : WorkingHours
  defaultType : DayOfWeek → VirtualDesktopScheduleType
  startUpTime : DayOfWeek → String
  shutDownTime : DayOfWeek → String

/-- `_get_default_schedule_for_day_of_week` -/
def Config.getDefaultSchedule (self : Config) (dayOfWeek : DayOfWeek) : TimedSchedule :=
  let times : String × String :=
    match self.defaultType dayOfWeek with
    | .WORKING_HOURS => (self.hours.startUpTime, self.hours.shutDownTime)
    | .STOP_ON_IDLE => ("23:59", "00:00")
    | .START_ALL_DAY => ("00:00", "23:59")
    | .CUSTOM_SCHEDULE => (self.startUpTime dayOfWeek, self.shutDownTime dayOfWeek)
    | .NO_SCHEDULE => ("", "")
  { scheduleId := none
    ideaSessionId := none
    ideaSessionOwner := none
    dayOfWeek := some dayOfWeek
    scheduleType := some (self.defaultType dayOfWeek)
    startUpTime := some times.1
    shutDownTime := some times.2 }

/-- The schedules that the entries of the sessions hold, and the table. -/
structure State where
  table : ScheduleTable
  sessions : Dict SessionKey (DayOfWeek → TimedSchedule)

def readBack (hours : WorkingHours) (schedule : TimedSchedule) : Except Raised TimedSchedule :=
  convertDbDictToScheduleObject hours schedule.dayOfWeek schedule.scheduleId
    (convertScheduleObjectToDbDict schedule)

def readDays (hours : WorkingHours) (stored : DayOfWeek → TimedSchedule) :
    List DayOfWeek → Except Raised Week
  | [] => .ok fun _ => none
  | day :: days => do
    let schedule ← readBack hours (stored day)
    let week ← readDays hours stored days
    pure (Function.update week day (some schedule))

inductive Act where
  | createSession (key : SessionKey) (brought : Week) (uuids : DayOfWeek → String)
  | updateSession (key : SessionKey) (given : Week) (uuids : DayOfWeek → String)

def State.save (self : State) (key : SessionKey) :
    Except Raised Week × ScheduleTable → State
  | (.ok week, table) =>
    ⟨table, self.sessions.set key fun day => (week day).getD (emptySchedule (some day))⟩
  | (.error _, table) => { self with table }

def State.createSession (self : State) (config : Config) (key : SessionKey) (brought : Week)
    (uuids : DayOfWeek → String) : Except Raised Week × ScheduleTable :=
  updateScheduleForSession config.hours uuids (fun day => some (config.getDefaultSchedule day)) key
    brought self.table

def State.updateSession (self : State) (config : Config) (key : SessionKey) (given : Week)
    (uuids : DayOfWeek → String) : Except Raised Week × ScheduleTable :=
  match self.sessions.get? key with
  | none => (.error .attributeError, self.table)
  | some stored =>
    match readDays config.hours stored DayOfWeek.all with
    | .error e => (.error e, self.table)
    | .ok week => updateScheduleForSession config.hours uuids given key week self.table

def Drawn (table : ScheduleTable) (uuids : DayOfWeek → String) : Prop :=
  ∀ day, IsUuid (uuids day) ∧ table.get? (day, uuids day) = none

/-- A session is created with a new key, and updated once it has an entry. -/
inductive Step (config : Config) : State → Act → State → Prop
  | createSession {s : State} {key : SessionKey} {brought : Week} {uuids : DayOfWeek → String} :
      s.sessions.get? key = none → Drawn s.table uuids →
      Step config s (.createSession key brought uuids)
        (s.save key (s.createSession config key brought uuids))
  | updateSession {s : State} {key : SessionKey} {given : Week} {uuids : DayOfWeek → String} :
      s.sessions.get? key ≠ none → Drawn s.table uuids →
      Step config s (.updateSession key given uuids)
        (s.save key (s.updateSession config key given uuids))

/-- Every day of every session is in step with the table, which has rows of sessions only. -/
structure AllInStep (s : State) : Prop where
  days : ∀ key week, s.sessions.get? key = some week → ∀ day, InStep s.table key day (week day)
  rows : ∀ key, s.sessions.get? key = none → ∀ day, HasNoRow s.table key day

/-- An update has returned, and the days are as they were given. -/
def Returned (key : SessionKey) (given : Week) : Except Raised Week × ScheduleTable → Prop
  | (.ok week, table) => ∀ day new, given day = some new →
    ∃ schedule, week day = some schedule ∧ DayRight table key day new schedule
  | (.error _, _) => False

/-- A new session is given the defaults. -/
def Right (config : Config) : Edge State Act → Prop
  | ⟨s, .createSession key brought uuids, _⟩ =>
    Returned key (fun day => some (config.getDefaultSchedule day))
      (s.createSession config key brought uuids)
  | ⟨s, .updateSession key given uuids, _⟩ =>
    Returned key given (s.updateSession config key given uuids)

/-- A new session brings no schedule that the default could be taken for or that names a row. A
schedule that is given has a type, and is not custom for a day that has a custom schedule. -/
def Heeded (config : Config) : Edge State Act → Prop
  | ⟨_, .createSession _ brought _, _⟩ => ∀ day schedule, brought day = some schedule →
    schedule.scheduleType = some .NO_SCHEDULE ∨
      scheduleKey schedule.toVirtualDesktopSchedule = none ∧
        schedule.scheduleType ≠ some (config.defaultType day)
  | ⟨s, .updateSession key given _, _⟩ => ∀ day new, given day = some new →
    new.scheduleType ≠ none ∧ ∀ week, s.sessions.get? key = some week →
      ¬ (new.scheduleType = some .CUSTOM_SCHEDULE ∧
        (week day).scheduleType = some .CUSTOM_SCHEDULE)

variable {config : Config} {s s' : State} {act : Act}

theorem mem_all (day : DayOfWeek) : day ∈ DayOfWeek.all := by
  cases day <;> decide

theorem nodup_all : DayOfWeek.all.Nodup := by decide

theorem InStep.readBack (h : InStep table key day schedule) (hours : WorkingHours) :
    ∃ current, readBack hours schedule = .ok current ∧ InStep table key day current ∧
      current.scheduleType = schedule.scheduleType := by
  cases h with
  | off ht hn =>
    unfold Schedules.readBack convertDbDictToScheduleObject
    cases schedule.scheduleId.bind getAsString with
    | none => exact ⟨_, rfl, .off rfl hn, ht.symm⟩
    | some id =>
      simp only [convertScheduleObjectToDbDict, ht]
      exact ⟨_, rfl, .off rfl hn, rfl⟩
  | on hid hs hd ht hne hr hrow hu =>
    have hrowType : (convertScheduleObjectToDbDict schedule).scheduleType = some _ := ht
    obtain ⟨current, hread, hs', hd', ht'⟩ :=
      convertDbDict_spec hours schedule.dayOfWeek hid hrowType
    rw [← hs] at hread
    exact ⟨current, hread, .on hid hs' (hd'.trans hd) ht' hne hr hrow hu, ht'.trans ht.symm⟩

theorem readDays_spec {stored : DayOfWeek → TimedSchedule} (hours : WorkingHours)
    {days : List DayOfWeek} (h : ∀ day ∈ days, InStep table key day (stored day)) :
    ∃ week, readDays hours stored days = .ok week ∧ ∀ day ∈ days, ∃ current,
      week day = some current ∧ InStep table key day current ∧
        current.scheduleType = (stored day).scheduleType := by
  induction days with
  | nil => exact ⟨_, rfl, by simp⟩
  | cons day days ih =>
    obtain ⟨current, hread, hcurrent⟩ := (h day List.mem_cons_self).readBack hours
    obtain ⟨week, hweek, hdays⟩ := ih fun day' h' => h day' (List.mem_cons_of_mem _ h')
    refine ⟨Function.update week day (some current), by simp [readDays, hread, hweek, bind,
      Except.bind, pure, Except.pure], ?_⟩
    intro day' h'
    by_cases hd : day' = day
    · subst hd
      exact ⟨current, Function.update_self .., hcurrent⟩
    · rw [Function.update_of_ne hd]
      exact hdays day' ((List.mem_cons.mp h').resolve_left hd)

theorem AllInStep.update {given week : Week} {uuids : DayOfWeek → String} (h : AllInStep s)
    (hready : ∀ day, Ready s.table key day ((week day).getD (emptySchedule (some day)))
      (given day)) (hids : Drawn s.table uuids) (hours : WorkingHours) :
    Returned key given (updateScheduleForSession hours uuids given key week s.table) ∧
      AllInStep (s.save key (updateScheduleForSession hours uuids given key week s.table)) := by
  obtain ⟨week', table', hrun, hup⟩ :=
    updateDays_spec hours nodup_all (fun day _ => hready day) fun day _ => hids day
  rw [updateScheduleForSession, hrun]
  constructor
  · intro day new hnew
    obtain ⟨schedule, hs, -, hright⟩ := hup.updated day (mem_all day)
    exact ⟨schedule, hs, hright new hnew⟩
  · constructor
    · intro key' stored hstored day
      simp only [State.save, Dict.get?_set] at hstored
      split at hstored
      · rename_i heq
        obtain rfl := heq
        obtain rfl := Option.some.inj hstored
        obtain ⟨schedule, hs, hin, -⟩ := hup.updated day (mem_all day)
        simpa [State.save, hs] using hin
      · rename_i hne
        exact (h.days key' stored hstored day).congr (hup.rows key' day (.inl hne)) rfl
    · intro key' hnone day id row hr
      simp only [State.save, Dict.get?_set] at hnone
      split at hnone
      · cases hnone
      · rename_i hne
        exact h.rows key' hnone day id row ((hup.rows key' day (.inl hne) id row).mp hr)

theorem AllInStep.step (h : AllInStep s) (hs : Step config s act s')
    (hheeded : Heeded config ⟨s, act, s'⟩) : Right config ⟨s, act, s'⟩ ∧ AllInStep s' := by
  cases hs with
  | @createSession key brought uuids hnew hids =>
    refine h.update (fun day => ?_) hids config.hours
    have hdefault : (config.getDefaultSchedule day).scheduleType = some (config.defaultType day) :=
      rfl
    have hnone := h.rows key hnew day
    cases hb : brought day with
    | none =>
      refine ⟨.inl (.off rfl hnone), ?_⟩
      rintro _ ⟨⟩
      exact ⟨by simp [hdefault], fun hcustom => by cases hcustom.2⟩
    | some schedule =>
      rcases hheeded day schedule hb with hoff | ⟨hkey, hdiff⟩
      · refine ⟨.inl (.off hoff hnone), ?_⟩
        rintro _ ⟨⟩
        exact ⟨by simp [hdefault], fun hcustom => by simp [hoff] at hcustom⟩
      · refine ⟨.inr ⟨hnone, hkey, _, rfl, hdiff⟩, ?_⟩
        rintro _ ⟨⟩
        exact ⟨by simp [hdefault], fun hcustom => hdiff (hcustom.2.trans hcustom.1.symm)⟩
  | @updateSession key given uuids hfound hids =>
    obtain ⟨stored, hstored⟩ := Option.ne_none_iff_exists'.mp hfound
    have hstoredDays : ∀ day ∈ DayOfWeek.all, InStep s.table key day (stored day) :=
      fun day _ => h.days key stored hstored day
    obtain ⟨week, hread, hdays⟩ := readDays_spec config.hours hstoredDays
    have hupdate : s.updateSession config key given uuids =
        updateScheduleForSession config.hours uuids given key week s.table := by
      rw [State.updateSession, hstored]
      simp only [hread]
    have hready : ∀ day, Ready s.table key day ((week day).getD (emptySchedule (some day)))
        (given day) := by
      intro day
      obtain ⟨current, hw, hin, htype⟩ := hdays day (mem_all day)
      rw [hw, Option.getD_some]
      refine ⟨.inl hin, fun new hnew => ?_⟩
      obtain ⟨hsome, hcustom⟩ := hheeded day new hnew
      rw [htype]
      exact ⟨hsome, hcustom stored hstored⟩
    simp only [Right, hupdate]
    exact h.update hready hids config.hours

def empty : State := ⟨∅, ∅⟩

theorem allInStep_empty : AllInStep empty := by
  constructor
  · intro key week hweek
    simp [empty] at hweek
  · rintro key - day id row ⟨hget, -⟩
    simp [empty] at hget

/-- While what is brought and given is heeded, every update leaves the days as they were given, and
every session stays in step with the table. -/
theorem schedules_in_step {edges : List (Edge State Act)} (h : Run (Step config) empty edges s)
    (hheeded : ∀ e ∈ edges, Heeded config e) :
    (∀ e ∈ edges, Right config e) ∧ AllInStep s :=
  ⟨h.forall_edges_of AllInStep allInStep_empty (fun hI hs hP => (hI.step hs hP).2) hheeded
      fun hI hs hP => (hI.step hs hP).1,
    h.invariant_of AllInStep allInStep_empty (fun hI hs hP => (hI.step hs hP).2) hheeded⟩

def idleCluster : Config where
  hours := ⟨"09:00", "17:00"⟩
  defaultType _ := .STOP_ON_IDLE
  startUpTime _ := ""
  shutDownTime _ := ""

def sampleKey : SessionKey := ("alice", "1")

def sampleUuids (number : String) : DayOfWeek → String := fun _ => number

def customMonday (startUpTime shutDownTime : String) : Week
  | .monday => some
    { scheduleId := none
      ideaSessionId := none
      ideaSessionOwner := none
      dayOfWeek := some .monday
      scheduleType := some .CUSTOM_SCHEDULE
      startUpTime := some startUpTime
      shutDownTime := some shutDownTime }
  | _ => none

def createdSample : State :=
  empty.save sampleKey (empty.createSession idleCluster sampleKey (fun _ => none) (sampleUuids "a"))

def customSample : State :=
  createdSample.save sampleKey
    (createdSample.updateSession idleCluster sampleKey (customMonday "08:00" "12:00")
      (sampleUuids "b"))

def creation : Act := .createSession sampleKey (fun _ => none) (sampleUuids "a")

def customUpdate (startUpTime shutDownTime number : String) : Act :=
  .updateSession sampleKey (customMonday startUpTime shutDownTime) (sampleUuids number)

theorem run_customSample : Run (Step idleCluster) empty
    [⟨empty, creation, createdSample⟩,
      ⟨createdSample, customUpdate "08:00" "12:00" "b", customSample⟩] customSample := by
  have hcreate : Step idleCluster empty creation createdSample :=
    .createSession rfl fun day => ⟨by unfold IsUuid; cases day <;> decide +kernel, rfl⟩
  have hupdate : Step idleCluster createdSample (customUpdate "08:00" "12:00" "b") customSample := by
    refine .updateSession ?_ fun day => ⟨?_, ?_⟩
    · decide +kernel
    · unfold IsUuid
      cases day <;> decide +kernel
    · cases day <;> decide +kernel
  exact (Run.single hcreate).snoc hupdate

/-- A custom schedule in place of a default that is not custom. -/
theorem schedules_in_step_sample : ∃ edges s, Run (Step idleCluster) empty edges s ∧
    edges.length = 2 ∧ (∀ e ∈ edges, Right idleCluster e) ∧ AllInStep s := by
  refine ⟨_, _, run_customSample, rfl, schedules_in_step run_customSample ?_⟩
  simp only [List.mem_cons, List.not_mem_nil, or_false, forall_eq_or_imp, forall_eq]
  constructor
  · intro day schedule hbrought
    cases hbrought
  · intro day new hnew
    cases day with
    | monday =>
      obtain rfl := Option.some.inj hnew
      refine ⟨by simp, fun week hweek hcustom => ?_⟩
      have hidle : (createdSample.sessions.get? sampleKey).map
          (fun week => (week .monday).scheduleType) = some (some .STOP_ON_IDLE) := by decide +kernel
      rw [hweek, Option.map_some, hcustom.2] at hidle
      cases hidle
    | _ => cases hnew

/-- Other custom times for a custom schedule are in the session, and no row has them. -/
theorem custom_for_custom_out_of_step : ∃ edges s, Run (Step idleCluster) empty edges s ∧
    ∃ e ∈ edges, ¬ Right idleCluster e := by
  have hupdate : Step idleCluster customSample (customUpdate "10:00" "14:00" "c")
      (customSample.save sampleKey (customSample.updateSession idleCluster sampleKey
        (customMonday "10:00" "14:00") (sampleUuids "c"))) := by
    refine .updateSession ?_ fun day => ⟨?_, ?_⟩
    · decide +kernel
    · unfold IsUuid
      cases day <;> decide +kernel
    · cases day <;> decide +kernel
  refine ⟨_, _, run_customSample.snoc hupdate, _, List.mem_append_right _ List.mem_cons_self, ?_⟩
  have hid : ((customSample.updateSession idleCluster sampleKey (customMonday "10:00" "14:00")
      (sampleUuids "c")).1.toOption.bind fun week => (week .monday).map
        fun schedule => schedule.scheduleId) = some none := by decide +kernel
  intro hright
  simp only [Right, customUpdate] at hright
  generalize customSample.updateSession idleCluster sampleKey (customMonday "10:00" "14:00")
    (sampleUuids "c") = result at hid hright
  obtain ⟨_ | week, table⟩ := result
  · exact hright
  · obtain ⟨schedule, hs, hday⟩ := hright .monday _ rfl
    simp only [Except.toOption, Option.bind_some, hs, Option.map_some, Option.some_inj] at hid
    cases hday with
    | off ht => cases ht
    | on hsome => simp [hid] at hsome

end Idea.VirtualDesktop.Schedules

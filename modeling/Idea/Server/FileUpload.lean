import Mathlib.Logic.Function.Basic
import Idea.Data.Dict
import Idea.System.Run

/-! # Concurrent uploads to one directory

An upload looks for a name that is free and opens the file afterwards. Between the two it is
suspended, so another upload may look at the same directory.
-/

namespace Idea.FileUpload

/-- `os.path.splitext` of a name without a separator: the extension begins at the last dot,
unless only dots come before it. -/
def splitext (filename : String) : String × String :=
  let backwards := filename.toList.reverse
  let ext := backwards.takeWhile (· ≠ '.')
  match backwards.drop ext.length with
  | [] => (filename, "")
  | dot :: before =>
    if before.all (· = '.') then (filename, "")
    else (String.ofList before.reverse, String.ofList (dot :: ext.reverse))

def newFilename (filename : String) (counter : ℕ) : String :=
  s!"{(splitext filename).1}({counter}){(splitext filename).2}"

def fallbackFilename (filename : String) (timestamp : ℕ) : String :=
  s!"{(splitext filename).1}_{timestamp}{(splitext filename).2}"

/-- `_get_unique_file_path`, with whether the file is renamed. The fallback is not looked up. -/
def getUniqueFilePath {ι : Type} (files : Dict String ι) (filename : String)
    (timestamp : ℕ) : String × Bool :=
  if ¬ files.has filename then (filename, false)
  else
    match (List.range' 1 999).find? fun counter => !files.has (newFilename filename counter) with
    | some counter => (newFilename filename counter, true)
    | none => (fallbackFilename filename timestamp, true)

example : splitext "a.tar.gz" = ("a.tar", ".gz") ∧ splitext "..a" = ("..a", "") := by
  decide +kernel

/-- Where an upload is suspended. It has no file, or it has a name and is about to open it, or
it holds a handle, or it has closed the handle of a file that it is about to remove. -/
inductive UploadState where
  | idle
  | chosen (filePath : String)
  | writing (part : ℕ) (filePath : String) (inode offset : ℕ)
  | removing (part : ℕ) (filePath : String)

/-- A file part that was written to a path. Parts are numbered as their files are opened. -/
structure FilePart where
  part : ℕ
  filePath : String

/-- The directory with the contents of its files, the uploads, and what they have done so far. -/
structure State where
  files : Dict String ℕ
  contents : ℕ → List UInt8
  nextInode : ℕ
  upload : ℕ → UploadState
  parts : ℕ
  written : List FilePart
  removed : List ℕ

/-- A write of some bytes at an offset, which may be past the end of a file that was truncated. -/
def writeAt (content : List UInt8) (offset : ℕ) (data : List UInt8) : List UInt8 :=
  content.take offset ++ List.replicate (offset - content.length) 0 ++ data ++
    content.drop (offset + data.length)

namespace State

def goTo (self : State) (u : ℕ) (next : UploadState) : State :=
  { self with upload := Function.update self.upload u next }

def choose (self : State) (u : ℕ) (filename : String) (timestamp : ℕ) : State :=
  self.goTo u (.chosen (getUniqueFilePath self.files filename timestamp).1)

def inodeOf (self : State) (filePath : String) : ℕ :=
  (self.files.get? filePath).getD self.nextInode

/-- `open(filePath, 'wb')`, which empties a file that exists. -/
def openFile (self : State) (u : ℕ) (filePath : String) : State where
  files := self.files.set filePath (self.inodeOf filePath)
  contents := Function.update self.contents (self.inodeOf filePath) []
  nextInode := self.nextInode + 1
  upload := Function.update self.upload u
    (.writing self.parts filePath (self.inodeOf filePath) 0)
  parts := self.parts + 1
  written := self.written ++ [⟨self.parts, filePath⟩]
  removed := self.removed

def write (self : State) (u part : ℕ) (filePath : String) (inode offset : ℕ)
    (data : List UInt8) : State :=
  { self with
    contents := Function.update self.contents inode (writeAt (self.contents inode) offset data)
    upload := Function.update self.upload u
      (.writing part filePath inode (offset + data.length)) }

def remove (self : State) (u part : ℕ) (filePath : String) : State :=
  { self with
    files := self.files.erase filePath
    upload := Function.update self.upload u .idle
    removed := part :: self.removed }

def content? (self : State) (filePath : String) : Option (List UInt8) :=
  (self.files.get? filePath).map self.contents

end State

inductive Event where
  | choose (u : ℕ) (filename : String) (timestamp : ℕ)
  | openFile (u : ℕ)
  | openFails (u : ℕ)
  | write (u : ℕ) (data : List UInt8)
  | close (u : ℕ)
  | breakOff (u : ℕ)
  | remove (u : ℕ)

/-- The steps between two suspensions of `_process_streaming_upload`, over all uploads. Bytes may
reach the file in any portions until the handle is closed, and what comes next in the request
body is left open, so an upload may go on to another part. -/
inductive Step (s : State) : Event → State → Prop
  | choose {u : ℕ} (filename : String) (timestamp : ℕ) (h : s.upload u = .idle) :
      Step s (.choose u filename timestamp) (s.choose u filename timestamp)
  | openFile {u : ℕ} {filePath : String} (h : s.upload u = .chosen filePath) :
      Step s (.openFile u) (s.openFile u filePath)
  | openFails {u : ℕ} {filePath : String} (h : s.upload u = .chosen filePath) :
      Step s (.openFails u) (s.goTo u .idle)
  | write {u part inode offset : ℕ} {filePath : String} (data : List UInt8)
      (h : s.upload u = .writing part filePath inode offset) :
      Step s (.write u data) (s.write u part filePath inode offset data)
  | close {u part inode offset : ℕ} {filePath : String}
      (h : s.upload u = .writing part filePath inode offset) :
      Step s (.close u) (s.goTo u .idle)
  | breakOff {u part inode offset : ℕ} {filePath : String}
      (h : s.upload u = .writing part filePath inode offset) :
      Step s (.breakOff u) (s.goTo u (.removing part filePath))
  | remove {u part : ℕ} {filePath : String} (h : s.upload u = .removing part filePath) :
      Step s (.remove u) (s.remove u part filePath)

/-- The server before the first upload, over any directory. -/
structure Started (s : State) : Prop where
  inode_lt : ∀ filePath inode, s.files.get? filePath = some inode → inode < s.nextInode
  idle : ∀ u, s.upload u = .idle
  parts : s.parts = 0
  written : s.written = []
  removed : s.removed = []

/-- No two file parts are written to one path, unless the earlier one was incomplete and its
file has been removed. -/
def Apart (s : State) : Prop :=
  s.written.Pairwise fun earlier later =>
    earlier.filePath = later.filePath → earlier.part ∈ s.removed

def UploadState.Holds (upload : UploadState) (part : ℕ) (filePath : String) : Prop :=
  (∃ inode offset, upload = .writing part filePath inode offset) ∨
    upload = .removing part filePath

/-- The files at the first state that no upload is writing have the same content at the second. -/
def Kept (s s' : State) : Prop :=
  ∀ filePath content, s.content? filePath = some content →
    (∀ u part, ¬ (s.upload u).Holds part filePath) → s'.content? filePath = some content

def candidate (filename : String) : ℕ → String
  | 0 => filename
  | counter + 1 => newFilename filename (counter + 1)

/-- No upload waits to open the first name of the search that is not in the directory, and when
all are, the name with the time is neither there nor waited for. -/
structure Undisputed (s : State) (filename : String) (timestamp : ℕ) : Prop where
  waits : ∀ i < 1000, (∀ j < i, candidate filename j ∈ s.files.keys) →
    candidate filename i ∉ s.files.keys → ∀ v, s.upload v ≠ .chosen (candidate filename i)
  fallback : (∀ i < 1000, candidate filename i ∈ s.files.keys) →
    fallbackFilename filename timestamp ∉ s.files.keys ∧
      ∀ v, s.upload v ≠ .chosen (fallbackFilename filename timestamp)

def Careful (e : Edge State Event) : Prop :=
  ∀ u filename timestamp, e.label = .choose u filename timestamp →
    Undisputed e.pre filename timestamp

variable {filename : String}

theorem candidate_of_pos {counter : ℕ} (h : 1 ≤ counter) :
    candidate filename counter = newFilename filename counter := by
  obtain ⟨i, rfl⟩ := Nat.exists_eq_add_of_le' h
  rfl

theorem getUniqueFilePath_cases (files : Dict String ℕ) (filename : String) (timestamp : ℕ) :
    (∃ i < 1000, (getUniqueFilePath files filename timestamp).1 = candidate filename i ∧
      candidate filename i ∉ files.keys ∧ ∀ j < i, candidate filename j ∈ files.keys) ∨
    ((getUniqueFilePath files filename timestamp).1 = fallbackFilename filename timestamp ∧
      ∀ i < 1000, candidate filename i ∈ files.keys) := by
  unfold getUniqueFilePath
  by_cases h : files.has filename = true
  · rw [if_neg (not_not_intro h)]
    cases hf : (List.range' 1 999).find? fun counter =>
        !files.has (newFilename filename counter) with
    | some counter =>
      obtain ⟨hfree, hmem, hbefore⟩ := List.find?_range'_eq_some.mp hf
      rw [List.mem_range'_1] at hmem
      refine .inl ⟨counter, by omega, (candidate_of_pos hmem.1).symm, ?_, fun j hj => ?_⟩
      · rw [candidate_of_pos hmem.1]
        intro hkeys
        simp [Dict.has_iff.mpr hkeys] at hfree
      · rcases Nat.eq_zero_or_pos j with rfl | hpos
        · exact Dict.has_iff.mp h
        · rw [candidate_of_pos hpos]
          simpa using hbefore j hpos hj
    | none =>
      refine .inr ⟨rfl, fun i hi => ?_⟩
      rcases Nat.eq_zero_or_pos i with rfl | hpos
      · exact Dict.has_iff.mp h
      · rw [candidate_of_pos hpos]
        have hmem : i ∈ List.range' 1 999 := List.mem_range'_1.mpr (by omega)
        simpa using List.find?_eq_none.mp hf i hmem
  · rw [if_pos h]
    refine .inl ⟨0, by omega, rfl, fun hmem => h (Dict.has_iff.mpr hmem), fun j hj => ?_⟩
    exact absurd hj (Nat.not_lt_zero j)

theorem Undisputed.free {s : State} {timestamp : ℕ} (h : Undisputed s filename timestamp) :
    (getUniqueFilePath s.files filename timestamp).1 ∉ s.files.keys ∧
      ∀ v, s.upload v ≠ .chosen (getUniqueFilePath s.files filename timestamp).1 := by
  rcases getUniqueFilePath_cases s.files filename timestamp with
    ⟨i, hi, heq, hfree, hbefore⟩ | ⟨heq, hall⟩
  · rw [heq]
    exact ⟨hfree, h.waits i hi hbefore hfree⟩
  · rw [heq]
    exact h.fallback hall

/-- Names that are waited for are free and distinct. A file that is not complete is in the
directory under one name, and no upload but its own has a handle to it. -/
structure Sound (s : State) : Prop where
  inode_lt : ∀ filePath inode, s.files.get? filePath = some inode → inode < s.nextInode
  chosen_free : ∀ u filePath, s.upload u = .chosen filePath → filePath ∉ s.files.keys
  chosen_inj : ∀ u v filePath, s.upload u = .chosen filePath → s.upload v = .chosen filePath →
    u = v
  held : ∀ u part filePath, (s.upload u).Holds part filePath →
    filePath ∈ s.files.keys ∧ ⟨part, filePath⟩ ∈ s.written ∧ part ∉ s.removed
  held_inj : ∀ u v part p q, (s.upload u).Holds part p → (s.upload v).Holds part q → u = v
  handle : ∀ u part filePath inode offset, s.upload u = .writing part filePath inode offset →
    s.files.get? filePath = some inode ∧ ∀ q, s.files.get? q = some inode → q = filePath
  written_lt : ∀ w ∈ s.written, w.part < s.parts
  removed_lt : ∀ part ∈ s.removed, part < s.parts
  stored : ∀ w ∈ s.written, w.part ∉ s.removed → w.filePath ∈ s.files.keys
  apart : Apart s

theorem not_holds_idle {part : ℕ} {filePath : String} :
    ¬ UploadState.idle.Holds part filePath := by
  rintro (⟨_, _, h⟩ | h) <;> cases h

theorem not_holds_chosen {part : ℕ} {p q : String} :
    ¬ (UploadState.chosen p).Holds part q := by
  rintro (⟨_, _, h⟩ | h) <;> cases h

theorem holds_writing {part part' inode offset : ℕ} {p q : String} :
    (UploadState.writing part p inode offset).Holds part' q ↔ part' = part ∧ q = p := by
  constructor
  · rintro (⟨_, _, h⟩ | h)
    · cases h
      exact ⟨rfl, rfl⟩
    · cases h
  · rintro ⟨rfl, rfl⟩
    exact .inl ⟨inode, offset, rfl⟩

theorem inodeOf_of_free {s : State} {filePath : String} (h : filePath ∉ s.files.keys) :
    s.inodeOf filePath = s.nextInode := by
  rw [State.inodeOf, Dict.get?_eq_none.mpr h, Option.getD_none]

theorem Started.sound {s : State} (h : Started s) : Sound s where
  inode_lt := h.inode_lt
  chosen_free u filePath hu := by rw [h.idle] at hu; cases hu
  chosen_inj u v filePath hu := by rw [h.idle] at hu; cases hu
  held u part filePath hu := absurd (h.idle u ▸ hu) not_holds_idle
  held_inj u v part p q hu := absurd (h.idle u ▸ hu) not_holds_idle
  handle u part filePath inode offset hu := by rw [h.idle] at hu; cases hu
  written_lt w hw := by rw [h.written] at hw; exact absurd hw List.not_mem_nil
  removed_lt part hpart := by rw [h.removed] at hpart; exact absurd hpart List.not_mem_nil
  stored w hw := by rw [h.written] at hw; exact absurd hw List.not_mem_nil
  apart := by rw [Apart, h.written]; exact List.Pairwise.nil

namespace Sound

variable {s : State}

theorem part_eq (h : Sound s) {p q : FilePart} (hp : p ∈ s.written) (hq : q ∈ s.written)
    (hpath : p.filePath = q.filePath) (hp' : p.part ∉ s.removed) (hq' : q.part ∉ s.removed) :
    p = q := by
  let R (a b : FilePart) : Prop :=
    a.filePath = b.filePath → a.part ∉ s.removed → b.part ∉ s.removed → a = b
  have hR : s.written.Pairwise R :=
    h.apart.imp fun hab hpath ha _ => absurd (hab hpath) ha
  have hflip : s.written.Pairwise (flip R) :=
    h.apart.imp fun hab hpath _ ha => absurd (hab hpath.symm) ha
  exact List.Pairwise.forall_of_forall_of_flip (fun _ _ _ _ _ => rfl) hR hflip hp hq hpath hp' hq'

theorem held_eq (h : Sound s) {u v part part' : ℕ} {filePath : String}
    (hu : (s.upload u).Holds part filePath) (hv : (s.upload v).Holds part' filePath) : u = v := by
  obtain ⟨-, hw, hr⟩ := h.held _ _ _ hu
  obtain ⟨-, hw', hr'⟩ := h.held _ _ _ hv
  obtain rfl : part = part' := congrArg FilePart.part (h.part_eq hw hw' rfl hr hr')
  exact h.held_inj _ _ _ _ _ hu hv

theorem goTo (h : Sound s) {u : ℕ} {next : UploadState}
    (hchosen : ∀ filePath, next = .chosen filePath →
      filePath ∉ s.files.keys ∧ ∀ v, s.upload v ≠ .chosen filePath)
    (hholds : ∀ part filePath, next.Holds part filePath → (s.upload u).Holds part filePath)
    (hwriting : ∀ part filePath inode offset, next = .writing part filePath inode offset →
      ∃ offset, s.upload u = .writing part filePath inode offset) : Sound (s.goTo u next) := by
  have hholds' : ∀ v part filePath, ((s.goTo u next).upload v).Holds part filePath →
      (s.upload v).Holds part filePath := by
    intro v part filePath hv
    by_cases hvu : v = u
    · subst hvu
      exact hholds part filePath (by simpa [State.goTo] using hv)
    · simpa [State.goTo, hvu] using hv
  refine ⟨h.inode_lt, fun v p hv => ?_, fun v w p hv hw => ?_, fun v part p hv => ?_,
    fun v w part p q hv hw => ?_, fun v part p inode offset hv => ?_, h.written_lt, h.removed_lt,
    h.stored, h.apart⟩
  · by_cases hvu : v = u
    · exact (hchosen p (by simpa [State.goTo, hvu] using hv)).1
    · exact h.chosen_free v p (by simpa [State.goTo, hvu] using hv)
  · by_cases hvu : v = u <;> by_cases hwu : w = u
    · exact hvu.trans hwu.symm
    · have hnext : next = .chosen p := by simpa [State.goTo, hvu] using hv
      exact absurd (by simpa [State.goTo, hwu] using hw) ((hchosen p hnext).2 w)
    · have hnext : next = .chosen p := by simpa [State.goTo, hwu] using hw
      exact absurd (by simpa [State.goTo, hvu] using hv) ((hchosen p hnext).2 v)
    · exact h.chosen_inj v w p (by simpa [State.goTo, hvu] using hv)
        (by simpa [State.goTo, hwu] using hw)
  · exact h.held v part p (hholds' v part p hv)
  · exact h.held_inj v w part p q (hholds' v part p hv) (hholds' w part q hw)
  · by_cases hvu : v = u
    · obtain ⟨offset, hu⟩ := hwriting part p inode offset (by simpa [State.goTo, hvu] using hv)
      exact h.handle u part p inode offset hu
    · exact h.handle v part p inode offset (by simpa [State.goTo, hvu] using hv)

theorem withContents (h : Sound s) (contents : ℕ → List UInt8) :
    Sound { s with contents } :=
  ⟨h.inode_lt, h.chosen_free, h.chosen_inj, h.held, h.held_inj, h.handle, h.written_lt,
    h.removed_lt, h.stored, h.apart⟩

theorem idle (h : Sound s) (u : ℕ) : Sound (s.goTo u .idle) :=
  h.goTo (fun _ heq => by cases heq) (fun _ _ hh => absurd hh not_holds_idle)
    fun _ _ _ _ heq => by cases heq

theorem choose (h : Sound s) {u : ℕ} {timestamp : ℕ} (hc : Undisputed s filename timestamp) :
    Sound (s.choose u filename timestamp) := by
  apply h.goTo
  · rintro _ ⟨⟩
    exact hc.free
  · exact fun _ _ hh => absurd hh not_holds_chosen
  · exact fun _ _ _ _ heq => by cases heq

theorem write (h : Sound s) {u part inode offset : ℕ} {filePath : String} {data : List UInt8}
    (hu : s.upload u = .writing part filePath inode offset) :
    Sound (s.write u part filePath inode offset data) := by
  refine (h.goTo (u := u) (fun _ heq => by cases heq) ?_ ?_).withContents _
  · rintro _ _ (⟨_, _, heq⟩ | heq)
    · cases heq
      exact .inl ⟨inode, offset, hu⟩
    · cases heq
  · rintro _ _ _ _ ⟨⟩
    exact ⟨offset, hu⟩

theorem breakOff (h : Sound s) {u part inode offset : ℕ} {filePath : String}
    (hu : s.upload u = .writing part filePath inode offset) :
    Sound (s.goTo u (.removing part filePath)) := by
  refine h.goTo (fun _ heq => by cases heq) ?_ fun _ _ _ _ heq => by cases heq
  rintro _ _ (⟨_, _, heq⟩ | heq)
  · cases heq
  · cases heq
    exact .inl ⟨inode, offset, hu⟩

theorem part_lt (h : Sound s) {u part : ℕ} {filePath : String}
    (hu : (s.upload u).Holds part filePath) : part < s.parts :=
  h.written_lt _ (h.held _ _ _ hu).2.1

theorem openFile (h : Sound s) {u : ℕ} {filePath : String}
    (hu : s.upload u = .chosen filePath) : Sound (s.openFile u filePath) := by
  have hfree : filePath ∉ s.files.keys := h.chosen_free u filePath hu
  have hinode : s.inodeOf filePath = s.nextInode := inodeOf_of_free hfree
  have hother : ∀ v, v ≠ u → (s.openFile u filePath).upload v = s.upload v :=
    fun v hv => Function.update_of_ne hv _ _
  have hown : (s.openFile u filePath).upload u =
      .writing s.parts filePath s.nextInode 0 := by
    rw [← hinode]
    exact Function.update_self u _ _
  have hget : ∀ q, (s.openFile u filePath).files.get? q =
      if q = filePath then some s.nextInode else s.files.get? q := by
    intro q
    rw [← hinode]
    exact Dict.get?_set s.files filePath q _
  constructor
  case inode_lt =>
    intro q inode hq
    rw [hget] at hq
    split at hq
    · cases hq
      exact Nat.lt_succ_self _
    · exact Nat.lt_succ_of_lt (h.inode_lt q inode hq)
  case chosen_free =>
    intro v q hv hmem
    by_cases hvu : v = u
    · rw [hvu, hown] at hv
      cases hv
    · rw [hother v hvu] at hv
      rcases Dict.mem_keys_set.mp hmem with rfl | hmem
      · exact hvu (h.chosen_inj v u q hv hu)
      · exact h.chosen_free v q hv hmem
  case chosen_inj =>
    intro v w q hv hw
    by_cases hvu : v = u
    · rw [hvu, hown] at hv
      cases hv
    · by_cases hwu : w = u
      · rw [hwu, hown] at hw
        cases hw
      · exact h.chosen_inj v w q (hother v hvu ▸ hv) (hother w hwu ▸ hw)
  case held =>
    intro v part q hv
    by_cases hvu : v = u
    · rw [hvu, hown, holds_writing] at hv
      obtain ⟨rfl, rfl⟩ := hv
      exact ⟨Dict.mem_keys_set.mpr (.inl rfl), List.mem_append_right _ List.mem_cons_self,
        fun hr => Nat.lt_irrefl _ (h.removed_lt _ hr)⟩
    · obtain ⟨hmem, hw, hr⟩ := h.held v part q (hother v hvu ▸ hv)
      exact ⟨Dict.mem_keys_set.mpr (.inr hmem), List.mem_append_left _ hw, hr⟩
  case held_inj =>
    have hnew : ∀ {w part q}, w ≠ u → ((s.openFile u filePath).upload w).Holds part q →
        part ≠ s.parts := by
      intro w part q hwu hw
      rw [hother w hwu] at hw
      exact Nat.ne_of_lt (h.part_lt hw)
    intro v w part q q' hv hw
    by_cases hvu : v = u <;> by_cases hwu : w = u
    · exact hvu.trans hwu.symm
    · rw [hvu, hown, holds_writing] at hv
      exact absurd hv.1 (hnew hwu hw)
    · rw [hwu, hown, holds_writing] at hw
      exact absurd hw.1 (hnew hvu hv)
    · exact h.held_inj v w part q q' (hother v hvu ▸ hv) (hother w hwu ▸ hw)
  case handle =>
    intro v part q inode offset hv
    by_cases hvu : v = u
    · rw [hvu, hown] at hv
      cases hv
      refine ⟨by rw [hget, if_pos rfl], fun q hq => ?_⟩
      by_contra hne
      rw [hget, if_neg hne] at hq
      exact Nat.lt_irrefl _ (h.inode_lt q _ hq)
    · rw [hother v hvu] at hv
      obtain ⟨hq, hunique⟩ := h.handle v part q inode offset hv
      have hne : q ≠ filePath := by
        rintro rfl
        exact hfree (Dict.mem_keys_of_get? hq)
      refine ⟨by rw [hget, if_neg hne, hq], fun q' hq' => ?_⟩
      rw [hget] at hq'
      split at hq'
      · cases hq'
        exact absurd (h.inode_lt q _ hq) (Nat.lt_irrefl _)
      · exact hunique q' hq'
  case written_lt =>
    intro w hw
    rcases List.mem_append.mp hw with hw | hw
    · exact Nat.lt_succ_of_lt (h.written_lt w hw)
    · rw [List.mem_singleton.mp hw]
      exact Nat.lt_succ_self _
  case removed_lt => exact fun part hpart => Nat.lt_succ_of_lt (h.removed_lt part hpart)
  case stored =>
    intro w hw hr
    rcases List.mem_append.mp hw with hw | hw
    · exact Dict.mem_keys_set.mpr (.inr (h.stored w hw hr))
    · rw [List.mem_singleton.mp hw]
      exact Dict.mem_keys_set.mpr (.inl rfl)
  case apart =>
    refine List.pairwise_append.mpr ⟨h.apart, List.pairwise_singleton _ _, fun w hw w' hw' => ?_⟩
    rw [List.mem_singleton.mp hw']
    intro (hpath : w.filePath = filePath)
    by_contra hr
    exact hfree (hpath ▸ h.stored w hw hr)

theorem remove (h : Sound s) {u part : ℕ} {filePath : String}
    (hu : s.upload u = .removing part filePath) : Sound (s.remove u part filePath) := by
  obtain ⟨-, hwritten, hremoved⟩ := h.held u part filePath (.inr hu)
  have hupload : ∀ v, (s.remove u part filePath).upload v = if v = u then .idle else s.upload v :=
    fun v => Function.update_apply _ _ _ _
  have hother : ∀ {v part' q}, ((s.remove u part filePath).upload v).Holds part' q →
      v ≠ u ∧ (s.upload v).Holds part' q := by
    intro v part' q hv
    rw [hupload] at hv
    split at hv
    · exact absurd hv not_holds_idle
    · exact ⟨‹_›, hv⟩
  have hget : ∀ q, (s.remove u part filePath).files.get? q =
      if q = filePath then none else s.files.get? q :=
    Dict.get?_erase s.files filePath
  have hkeep : ∀ {q}, q ∈ s.files.keys → q ≠ filePath → q ∈ (s.files.erase filePath).keys :=
    fun hq hne => Dict.mem_keys_erase.mpr ⟨hq, hne⟩
  constructor
  case inode_lt =>
    intro q inode hq
    rw [hget] at hq
    split at hq
    · cases hq
    · exact h.inode_lt q inode hq
  case chosen_free =>
    intro v q hv hmem
    rw [hupload] at hv
    split at hv
    · cases hv
    · exact h.chosen_free v q hv (Dict.mem_keys_erase.mp hmem).1
  case chosen_inj =>
    intro v w q hv hw
    rw [hupload] at hv hw
    split at hv
    · cases hv
    · split at hw
      · cases hw
      · exact h.chosen_inj v w q hv hw
  case held =>
    intro v part' q hv
    obtain ⟨hvu, hold⟩ := hother hv
    obtain ⟨hmem, hw, hr⟩ := h.held v part' q hold
    have hne : q ≠ filePath := by
      rintro rfl
      exact hvu (h.held_eq hold (.inr hu))
    refine ⟨hkeep hmem hne, hw, fun hr' => ?_⟩
    rcases List.mem_cons.mp hr' with rfl | hr'
    · exact hvu (h.held_inj v u part' q filePath hold (.inr hu))
    · exact hr hr'
  case held_inj =>
    intro v w part' q q' hv hw
    exact h.held_inj v w part' q q' (hother hv).2 (hother hw).2
  case handle =>
    intro v part' q inode offset hv
    have hheld : ((s.remove u part filePath).upload v).Holds part' q := .inl ⟨inode, offset, hv⟩
    obtain ⟨hvu, hold⟩ := hother hheld
    have hne : q ≠ filePath := by
      rintro rfl
      exact hvu (h.held_eq hold (.inr hu))
    rw [hupload, if_neg hvu] at hv
    obtain ⟨hq, hunique⟩ := h.handle v part' q inode offset hv
    refine ⟨by rw [hget, if_neg hne, hq], fun q' hq' => ?_⟩
    rw [hget] at hq'
    split at hq'
    · cases hq'
    · exact hunique q' hq'
  case written_lt => exact h.written_lt
  case removed_lt =>
    intro part' hpart
    rcases List.mem_cons.mp hpart with rfl | hpart
    · exact h.written_lt _ hwritten
    · exact h.removed_lt part' hpart
  case stored =>
    intro w hw hr
    obtain ⟨hne, hr⟩ := not_or.mp fun hor => hr (List.mem_cons.mpr hor)
    refine hkeep (h.stored w hw hr) fun hpath => ?_
    exact hne (congrArg FilePart.part (h.part_eq hw hwritten hpath hr hremoved))
  case apart => exact h.apart.imp fun hpair hpath => List.mem_cons_of_mem _ (hpair hpath)

theorem step (h : Sound s) {a : Event} {s' : State} (hs : Step s a s')
    (hc : Careful ⟨s, a, s'⟩) : Sound s' := by
  cases hs with
  | choose filename timestamp hu => exact h.choose (hc _ filename timestamp rfl)
  | openFile hu => exact h.openFile hu
  | openFails hu => exact h.idle _
  | write data hu => exact h.write hu
  | close hu => exact h.idle _
  | breakOff hu => exact h.breakOff hu
  | remove hu => exact h.remove hu

end Sound

/-- A file that no upload has opened and not completed, with its content. -/
structure Settled (s : State) (filePath : String) (content : List UInt8) : Prop where
  content : s.content? filePath = some content
  free : ∀ u part, ¬ (s.upload u).Holds part filePath

namespace Settled

variable {s : State} {filePath : String} {content : List UInt8}

theorem mem_keys (h : Settled s filePath content) : filePath ∈ s.files.keys := by
  obtain ⟨inode, hi, -⟩ := Option.map_eq_some_iff.mp h.content
  exact Dict.mem_keys_of_get? hi

theorem goTo (h : Settled s filePath content) {u : ℕ} {next : UploadState}
    (hholds : ∀ part p, next.Holds part p → (s.upload u).Holds part p) :
    Settled (s.goTo u next) filePath content := by
  refine ⟨h.content, fun v part hv => ?_⟩
  by_cases hvu : v = u
  · refine h.free u part (hholds part filePath ?_)
    simpa [State.goTo, hvu] using hv
  · exact h.free v part (by simpa [State.goTo, hvu] using hv)

theorem openFile (h : Settled s filePath content) (hs : Sound s) {u : ℕ} {p : String}
    (hu : s.upload u = .chosen p) : Settled (s.openFile u p) filePath content := by
  have hfree : p ∉ s.files.keys := hs.chosen_free u p hu
  have hne : filePath ≠ p := by
    rintro rfl
    exact hfree h.mem_keys
  obtain ⟨inode, hi, hcontent⟩ := Option.map_eq_some_iff.mp h.content
  refine ⟨?_, fun v part hv => ?_⟩
  · have hinode : inode ≠ s.inodeOf p := by
      rw [inodeOf_of_free hfree]
      exact Nat.ne_of_lt (hs.inode_lt _ _ hi)
    simp only [State.content?, State.openFile, Dict.get?_set_ne _ hne, hi, Option.map_some,
      Function.update_of_ne hinode, hcontent]
  · by_cases hvu : v = u
    · simp only [State.openFile, hvu, Function.update_self, holds_writing] at hv
      exact hne hv.2
    · exact h.free v part (by simpa [State.openFile, hvu] using hv)

theorem write (h : Settled s filePath content) (hs : Sound s) {u part inode offset : ℕ}
    {p : String} (hu : s.upload u = .writing part p inode offset) (data : List UInt8) :
    Settled (s.write u part p inode offset data) filePath content := by
  have hheld : (s.upload u).Holds part p := .inl ⟨inode, offset, hu⟩
  obtain ⟨inode', hi, hcontent⟩ := Option.map_eq_some_iff.mp h.content
  have hne : inode' ≠ inode := by
    rintro rfl
    obtain rfl : filePath = p := (hs.handle u part p inode' offset hu).2 filePath hi
    exact h.free u part hheld
  have hgo : Settled (s.goTo u (.writing part p inode (offset + data.length))) filePath content :=
    h.goTo fun part' p' hh => by
      obtain ⟨rfl, rfl⟩ := holds_writing.mp hh
      exact hheld
  refine ⟨?_, hgo.free⟩
  simp only [State.content?, State.write, hi, Option.map_some, Function.update_of_ne hne, hcontent]

theorem remove (h : Settled s filePath content) {u part : ℕ} {p : String}
    (hu : s.upload u = .removing part p) : Settled (s.remove u part p) filePath content := by
  have hne : filePath ≠ p := by
    rintro rfl
    exact h.free u part (.inr hu)
  have hgo : Settled (s.goTo u .idle) filePath content :=
    h.goTo fun _ _ hh => absurd hh not_holds_idle
  refine ⟨?_, hgo.free⟩
  have hcontent : (s.files.get? filePath).map s.contents = some content := h.content
  simpa only [State.content?, State.remove, Dict.get?_erase_ne _ hne] using hcontent

theorem step (h : Settled s filePath content) (hs : Sound s) {a : Event} {s' : State}
    (hstep : Step s a s') : Settled s' filePath content := by
  cases hstep with
  | choose filename timestamp hu => exact h.goTo fun _ _ hh => absurd hh not_holds_chosen
  | openFile hu => exact h.openFile hs hu
  | openFails hu => exact h.goTo fun _ _ hh => absurd hh not_holds_idle
  | write data hu => exact h.write hs hu data
  | close hu => exact h.goTo fun _ _ hh => absurd hh not_holds_idle
  | breakOff hu =>
    refine h.goTo fun part' p' hh => ?_
    rcases hh with ⟨_, _, heq⟩ | heq
    · cases heq
    · cases heq
      exact .inl ⟨_, _, hu⟩
  | remove hu => exact h.remove hu

end Settled

variable {s₀ s₁ s₂ : State} {t₁ t₂ : List (Edge State Event)}

theorem Sound.run (h : Sound s₁) (hrun : Run Step s₁ t₂ s₂) (hc : ∀ e ∈ t₂, Careful e) :
    Sound s₂ :=
  hrun.invariant_of Sound h (fun h hs hc => h.step hs hc) hc

/-- Careful uploads keep existing files and keep apart, over any directory and in any order of
their steps. -/
theorem uploads_apart (h₀ : Started s₀) (h₁ : Run Step s₀ t₁ s₁) (h₂ : Run Step s₁ t₂ s₂)
    (hc : ∀ e ∈ t₁ ++ t₂, Careful e) : Apart s₂ ∧ Kept s₁ s₂ := by
  have hs₁ : Sound s₁ := h₀.sound.run h₁ fun e he => hc e (List.mem_append_left _ he)
  have hc₂ : ∀ e ∈ t₂, Careful e := fun e he => hc e (List.mem_append_right _ he)
  refine ⟨(hs₁.run h₂ hc₂).apart, fun filePath content hcontent hfree => ?_⟩
  have hboth : Sound s₂ ∧ Settled s₂ filePath content :=
    h₂.invariant_of (fun s => Sound s ∧ Settled s filePath content)
      ⟨hs₁, hcontent, hfree⟩ (fun h hs hc => ⟨h.1.step hs hc, h.2.step h.1 hs⟩) hc₂
  exact hboth.2.content

def emptyDirectory : State where
  files := ∅
  contents _ := []
  nextInode := 0
  upload _ := .idle
  parts := 0
  written := []
  removed := []

theorem started_emptyDirectory : Started emptyDirectory :=
  ⟨fun _ _ h => (by cases h), fun _ => rfl, rfl, rfl, rfl⟩

theorem undisputed_of_free {s : State} {timestamp i : ℕ}
    (hwaits : ∀ v filePath, s.upload v ≠ .chosen filePath) (hi : i < 1000)
    (hfree : candidate filename i ∉ s.files.keys) : Undisputed s filename timestamp :=
  ⟨fun _ _ _ _ v => hwaits v _, fun hall => absurd (hall i hi) hfree⟩

theorem careful_choose {s s' : State} {u i timestamp : ℕ}
    (hwaits : ∀ v filePath, s.upload v ≠ .chosen filePath) (hi : i < 1000)
    (hfree : candidate filename i ∉ s.files.keys) :
    Careful ⟨s, .choose u filename timestamp, s'⟩ := by
  rintro _ _ _ ⟨⟩
  exact undisputed_of_free hwaits hi hfree

/-- A complete file stays as it is when another one of its name is uploaded. -/
theorem uploads_apart_afterwards :
    ∃ t₁ s₁ t₂ s₂, Run Step emptyDirectory t₁ s₁ ∧ Run Step s₁ t₂ s₂ ∧
      s₂.content? "a" = some [1] ∧ s₂.content? "a(1)" = some [] ∧ Apart s₂ ∧ Kept s₁ s₂ := by
  have hchosen₀ : (emptyDirectory.choose 0 "a" 0).upload 0 = .chosen "a" := rfl
  let s₁ := (((emptyDirectory.choose 0 "a" 0).openFile 0 "a").write 0 0 "a" 0 0 [1]).goTo 0 .idle
  have h₁ : Run Step emptyDirectory _ s₁ :=
    Run.snoc (.snoc (.snoc (.snoc .nil (.choose "a" 0 rfl)) (.openFile hchosen₀))
      (.write [1] rfl)) (.close rfl)
  have hchosen₁ : (s₁.choose 1 "a" 0).upload 1 = .chosen "a(1)" := rfl
  have h₂ : Run Step s₁ _ ((s₁.choose 1 "a" 0).openFile 1 "a(1)") :=
    Run.snoc (.snoc .nil (.choose "a" 0 rfl)) (.openFile hchosen₁)
  refine ⟨_, _, _, _, h₁, h₂, rfl, rfl,
    uploads_apart started_emptyDirectory h₁ h₂ fun e he => ?_⟩
  simp only [List.nil_append, List.cons_append, List.mem_cons, List.not_mem_nil, or_false] at he
  rcases he with rfl | rfl | rfl | rfl | rfl | rfl
  · refine careful_choose (i := 0) (fun v p hv => ?_) (by omega) List.not_mem_nil
    cases hv
  · rintro _ _ _ ⟨⟩
  · rintro _ _ _ ⟨⟩
  · rintro _ _ _ ⟨⟩
  · refine careful_choose (i := 1) (fun v p hv => ?_) (by omega) (by decide)
    rcases v with _ | v <;> cases hv
  · rintro _ _ _ ⟨⟩

/-- Two uploads choose one name, and the second one to open the file empties it after the first
one is complete. -/
theorem uploads_collide :
    ∃ t₁ s₁ t₂ s₂, Run Step emptyDirectory t₁ s₁ ∧ Run Step s₁ t₂ s₂ ∧
      ¬ Apart s₂ ∧ ¬ Kept s₁ s₂ := by
  let chosen := (emptyDirectory.choose 0 "a" 0).choose 1 "a" 0
  let s₁ := ((chosen.openFile 0 "a").write 0 0 "a" 0 0 [1]).goTo 0 .idle
  have hchosen₀ : chosen.upload 0 = .chosen "a" := rfl
  have hchosen₁ : s₁.upload 1 = .chosen "a" := rfl
  have h₁ : Run Step emptyDirectory _ s₁ :=
    Run.snoc (.snoc (.snoc (.snoc (.snoc .nil (.choose "a" 0 rfl)) (.choose "a" 0 rfl))
      (.openFile hchosen₀)) (.write [1] rfl)) (.close rfl)
  have h₂ : Run Step s₁ _ (s₁.openFile 1 "a") := .single (.openFile hchosen₁)
  refine ⟨_, s₁, _, _, h₁, h₂, fun hapart => ?_, fun hkept => ?_⟩
  · have hremoved : (0 : ℕ) ∈ (s₁.openFile 1 "a").removed :=
      (List.pairwise_cons.mp hapart).1 ⟨1, "a"⟩ List.mem_cons_self rfl
    exact List.not_mem_nil hremoved
  · have hlost : (s₁.openFile 1 "a").content? "a" = some [1] := by
      refine hkept "a" [1] rfl fun u part hu => ?_
      rcases u with _ | _ | u
      · exact not_holds_idle hu
      · exact not_holds_chosen hu
      · exact not_holds_idle hu
    cases hlost

end Idea.FileUpload

import Idea.Data.Dict
import Idea.System.Run
import Idea.System.SegmentedLog

/-! # Subscriptions to the stream of a table

The changes of a table are the records of a stream, in shards of which each is closed before its
child is written. One thread gets iterators for the shards that it finds, another one reads the
records and passes them on. A pass of one of them is never interrupted by the other, and the table is
written at any time. Requests are answered, but for one with a null iterator.
-/

namespace Idea.StreamSubscription

inductive Change (Entry : Type) where
  | INSERT (newImage : Entry)
  | MODIFY (oldImage newImage : Entry)
  | REMOVE (oldImage : Entry)
  deriving DecidableEq

inductive StreamEvent (Entry : Type) where
  | onCreate (entry : Entry)
  | onUpdate (oldEntry newEntry : Entry)
  | onDelete (entry : Entry)
  deriving DecidableEq

def Change.event {Entry : Type} : Change Entry → StreamEvent Entry
  | INSERT newImage => .onCreate newImage
  | MODIFY oldImage newImage => .onUpdate oldImage newImage
  | REMOVE oldImage => .onDelete oldImage

structure Record (Key Entry : Type) where
  sequenceNumber : ℕ
  key : Key
  change : Change Entry
  deriving DecidableEq

variable {Key Entry : Type}

def lastEvent [DecidableEq Key] (key : Key) (records : List (Record Key Entry)) :
    Option (StreamEvent Entry) :=
  (records.filter fun record => record.key = key).getLast?.map fun record => record.change.event

abbrev Shard (Key Entry : Type) : Type := Segment (Record Key Entry)

/-- The position of an iterator of type `LATEST`. -/
def Shard.latest (self : Shard Key Entry) : ℕ := self.entries.length

def Shard.page (self : Shard Key Entry) (position n : ℕ) : List (Record Key Entry) :=
  (self.entries.drop position).take n

/-- `NextShardIterator`, with the position after the records of an answer. -/
def Shard.nextShardIterator (self : Shard Key Entry) (position : ℕ) : Option ℕ :=
  if self.closed && self.entries.length ≤ position then none else some position

inductive Phase where
  | idle
  | initializing (shards : List ℕ)
  | processing (shardIds : List ℕ)
  | reading (shardId : ℕ) (nextShardIterator : Option ℕ) (shardIds : List ℕ)
  deriving DecidableEq

/-- The stream with its subscription, what was written since it started, and the records whose events
were delivered. -/
structure Subscription (Key Entry : Type) where
  stream : SegmentedLog (Record Key Entry)
  sequenceNumber : ℕ
  shardIteratorsMap : Dict ℕ (Option ℕ)
  phase : Phase
  writes : List (Record Key Entry)
  delivered : List (Record Key Entry)

namespace Subscription

def written (s : Subscription Key Entry) (key : Key) (change : Change Entry) :
    Subscription Key Entry :=
  { s with
    stream := s.stream.write ⟨s.sequenceNumber, key, change⟩
    sequenceNumber := s.sequenceNumber + 1
    writes := s.writes ++ [⟨s.sequenceNumber, key, change⟩] }

def initialized (s : Subscription Key Entry) (shardId : ℕ) (shard : Shard Key Entry)
    (shards : List ℕ) : Subscription Key Entry :=
  match (s.shardIteratorsMap.get? shardId).join with
  | some _ => { s with phase := .initializing shards }
  | none => { s with
      shardIteratorsMap := s.shardIteratorsMap.set shardId (some shard.latest)
      phase := .initializing shards }

def cleanedUp (s : Subscription Key Entry) : Subscription Key Entry :=
  { s with
    shardIteratorsMap := s.shardIteratorsMap.filterMap fun _ iterator => iterator.map some
    phase := .idle }

def received (s : Subscription Key Entry) (shardId : ℕ) (records : List (Record Key Entry))
    (nextShardIterator : Option ℕ) (shardIds : List ℕ) : Subscription Key Entry :=
  if records.isEmpty then
    { s with
      shardIteratorsMap := s.shardIteratorsMap.set shardId nextShardIterator
      phase := .processing shardIds }
  else
    { s with
      delivered := s.delivered ++ records
      phase := .reading shardId nextShardIterator shardIds }

end Subscription

inductive Action (Key Entry : Type) where
  | write (key : Key) (change : Change Entry)
  | closeShard
  | openChild
  | describeStream (shards : List ℕ)
  | getShardIterator
  | cleanUp
  | shuffle (shardIds : List ℕ)
  | nextShard
  | endPass
  | getRecords (n : ℕ)
  | expire
  | reject

inductive Step : Subscription Key Entry → Action Key Entry → Subscription Key Entry → Prop
  | write {s key change} : s.stream.current.closed = false →
      Step s (.write key change) (s.written key change)
  | closeShard {s} : s.stream.current.closed = false →
      Step s .closeShard { s with stream := s.stream.close }
  | openChild {s} : s.stream.current.closed = true →
      Step s .openChild { s with stream := s.stream.openNext }
  | describeStream {s shards} : s.phase = .idle →
      (∀ shardId ∈ shards, (s.stream.segment? shardId).isSome) →
      Step s (.describeStream shards) { s with phase := .initializing shards }
  | getShardIterator {s shardId shards shard} : s.phase = .initializing (shardId :: shards) →
      s.stream.segment? shardId = some shard →
      Step s .getShardIterator (s.initialized shardId shard shards)
  | cleanUp {s} : s.phase = .initializing [] → Step s .cleanUp s.cleanedUp
  | shuffle {s shardIds} : s.phase = .idle → shardIds.Perm s.shardIteratorsMap.keys →
      Step s (.shuffle shardIds) { s with phase := .processing shardIds }
  | skip {s shardId shardIds} : s.phase = .processing (shardId :: shardIds) →
      s.shardIteratorsMap.get? shardId = some none →
      Step s .nextShard { s with phase := .processing shardIds }
  | take {s shardId position shardIds} : s.phase = .processing (shardId :: shardIds) →
      s.shardIteratorsMap.get? shardId = some (some position) →
      Step s .nextShard { s with phase := .reading shardId (some position) shardIds }
  | endPass {s} : s.phase = .processing [] → Step s .endPass { s with phase := .idle }
  | getRecords {s shardId position shardIds shard n} :
      s.phase = .reading shardId (some position) shardIds →
      s.stream.segment? shardId = some shard → n ≤ 1000 →
      Step s (.getRecords n) (s.received shardId (Shard.page shard position n)
        (Shard.nextShardIterator shard (position + (Shard.page shard position n).length)) shardIds)
  | expire {s shardId position shardIds} : s.phase = .reading shardId (some position) shardIds →
      Step s .expire { s with
        shardIteratorsMap := s.shardIteratorsMap.set shardId none
        phase := .processing shardIds }
  | reject {s shardId shardIds} : s.phase = .reading shardId none shardIds →
      Step s .reject { s with phase := .idle }

namespace Subscription

def iterator (s : Subscription Key Entry) (shardId : ℕ) : Option ℕ :=
  match s.phase with
  | .reading shardId' nextShardIterator _ =>
    if shardId = shardId' then nextShardIterator else (s.shardIteratorsMap.get? shardId).join
  | _ => (s.shardIteratorsMap.get? shardId).join

structure Start (s : Subscription Key Entry) : Prop where
  idle : s.phase = .idle
  empty : s.shardIteratorsMap = Dict.empty
  writes : s.writes = []
  delivered : s.delivered = []

/-- Each record to which an iterator leads was delivered. -/
def AllRead (s : Subscription Key Entry) : Prop :=
  ∀ shardId position shard, s.iterator shardId = some position →
    s.stream.segment? shardId = some shard → ∀ record ∈ shard.entries.drop position,
      record ∈ s.delivered

/-- No record was skipped, and the last event of a key is that of its last write. -/
def Converged [DecidableEq Key] (s : Subscription Key Entry) : Prop :=
  (∀ record ∈ s.writes, record ∈ s.delivered) ∧
    ∀ key, lastEvent key s.delivered = lastEvent key s.writes

end Subscription

/-- A record is written when there is an iterator for its shard. A shard is closed, and an iterator
expires, when there is nothing unread in the shard. -/
def Timely (e : Edge (Subscription Key Entry) (Action Key Entry)) : Prop :=
  match e.label with
  | .write _ _ => ∃ position, e.pre.iterator e.pre.stream.currentId = some position
  | .closeShard => ∀ position, e.pre.iterator e.pre.stream.currentId = some position →
      e.pre.stream.current.entries.length ≤ position
  | .expire => ∀ shardId position shardIds shard,
      e.pre.phase = .reading shardId (some position) shardIds →
      e.pre.stream.segment? shardId = some shard → shard.entries.length ≤ position
  | _ => True

/-- What was delivered and what is left to be read is what was written, in its order. -/
structure Following (s : Subscription Key Entry) : Prop where
  followed : s.stream.Followed s.iterator s.delivered s.writes
  held : ∀ shardId shardIds, s.phase ≠ .reading shardId none shardIds
  ordered : s.writes.Pairwise fun record record' => record.sequenceNumber < record'.sequenceNumber
  numbered : ∀ record ∈ s.writes, record.sequenceNumber < s.sequenceNumber

namespace Subscription

variable {s : Subscription Key Entry} {shardId position : ℕ} {shardIds : List ℕ}

theorem iterator_of_phase (h : ∀ shardId it shardIds, s.phase ≠ .reading shardId it shardIds) :
    s.iterator = fun shardId => (s.shardIteratorsMap.get? shardId).join := by
  funext shardId
  unfold iterator
  split
  · next hphase => exact absurd hphase (h _ _ _)
  · rfl

theorem iterator_reading {nextShardIterator : Option ℕ}
    (h : s.phase = .reading shardId nextShardIterator shardIds) :
    s.iterator = Function.update (fun shardId => (s.shardIteratorsMap.get? shardId).join) shardId
      nextShardIterator := by
  funext shardId'
  simp only [iterator, h, Function.update_apply]

theorem join_get?_set (map : Dict ℕ (Option ℕ)) (shardId : ℕ) (it : Option ℕ) :
    (fun shardId' => ((map.set shardId it).get? shardId').join) =
      Function.update (fun shardId' => (map.get? shardId').join) shardId it := by
  funext shardId'
  rw [Dict.get?_set, Function.update_apply]
  split <;> rfl

end Subscription

open Subscription

variable {s s' : Subscription Key Entry} {shardId position : ℕ} {shardIds : List ℕ}

theorem Following.written (h : Following s) {key : Key} {change : Change Entry}
    (hopen : s.stream.current.closed = false)
    (hit : ∃ position, s.iterator s.stream.currentId = some position) :
    Following (s.written key change) := by
  refine ⟨h.followed.write hopen hit, h.held, ?_, ?_⟩
  · refine List.pairwise_append.mpr ⟨h.ordered, List.pairwise_singleton _ _, ?_⟩
    intro record hrecord record' hrecord'
    rw [List.mem_singleton.mp hrecord']
    exact h.numbered record hrecord
  · intro record hrecord
    rcases List.mem_append.mp hrecord with hold | hnew
    · exact Nat.lt_succ_of_lt (h.numbered record hold)
    · rw [List.mem_singleton.mp hnew]
      exact Nat.lt_succ_self _

theorem Following.of_iterator (h : Following s) {stream : SegmentedLog (Record Key Entry)}
    {map : Dict ℕ (Option ℕ)} {phase : Phase}
    (hfollowed : stream.Followed { s with stream, shardIteratorsMap := map, phase }.iterator
      s.delivered s.writes)
    (hheld : ∀ shardId shardIds, phase ≠ .reading shardId none shardIds) :
    Following { s with stream, shardIteratorsMap := map, phase } :=
  ⟨hfollowed, hheld, h.ordered, h.numbered⟩

theorem Following.setPhase (h : Following s) {phase : Phase}
    (hphase : ∀ shardId it shardIds, s.phase ≠ .reading shardId it shardIds)
    (hphase' : ∀ shardId it shardIds, phase ≠ .reading shardId it shardIds) :
    Following { s with phase } := by
  refine h.of_iterator ?_ fun shardId shardIds => hphase' shardId none shardIds
  have hiterator : Subscription.iterator { s with phase } = s.iterator := by
    rw [iterator_of_phase hphase, iterator_of_phase hphase']
  rw [hiterator]
  exact h.followed

theorem Following.cleanedUp (h : Following s)
    (hphase : ∀ shardId it shardIds, s.phase ≠ .reading shardId it shardIds) :
    Following s.cleanedUp := by
  refine h.of_iterator ?_ (by simp)
  have hiterator : s.cleanedUp.iterator = s.iterator := by
    rw [iterator_of_phase hphase, iterator_of_phase (by simp [Subscription.cleanedUp])]
    funext shardId
    simp only [Subscription.cleanedUp, Dict.get?_filterMap]
    rcases s.shardIteratorsMap.get? shardId with _ | _ | _ <;> rfl
  exact hiterator ▸ h.followed

theorem Following.initialized (h : Following s) {shard : Shard Key Entry} {shards : List ℕ}
    (hphase : s.phase = .initializing (shardId :: shards))
    (hshard : s.stream.segment? shardId = some shard) :
    Following (s.initialized shardId shard shards) := by
  have hiterator := iterator_of_phase (s := s) (by simp [hphase])
  unfold Subscription.initialized
  split
  · refine h.of_iterator ?_ (by simp)
    rw [iterator_of_phase (by simp), ← hiterator]
    exact h.followed
  · next hnone =>
    refine h.of_iterator ?_ (by simp)
    rw [iterator_of_phase (by simp), join_get?_set, ← hiterator]
    exact h.followed.start ((congrFun hiterator shardId).trans hnone) hshard

theorem update_iterator {it it' : Option ℕ} (hphase : s.phase = .reading shardId it shardIds) :
    Function.update (fun shardId => (s.shardIteratorsMap.get? shardId).join) shardId it' =
      Function.update s.iterator shardId it' := by
  rw [iterator_reading hphase, Function.update_idem]

theorem iterator_self {it : Option ℕ} (hphase : s.phase = .reading shardId it shardIds) :
    s.iterator shardId = it := by
  rw [iterator_reading hphase, Function.update_self]

theorem Following.received (h : Following s) {shard : Shard Key Entry} {n : ℕ}
    (hphase : s.phase = .reading shardId (some position) shardIds)
    (hshard : s.stream.segment? shardId = some shard) :
    Following (s.received shardId (shard.page position n)
      (shard.nextShardIterator (position + (shard.page position n).length)) shardIds) := by
  have hit := iterator_self hphase
  unfold Subscription.received
  by_cases hempty : shard.page position n = []
  · rw [hempty]
    refine h.of_iterator ?_ (by simp)
    rw [iterator_of_phase (by simp), join_get?_set, update_iterator hphase]
    unfold Shard.nextShardIterator
    split
    · next hlast =>
      simp only [List.length_nil, Nat.add_zero, Bool.and_eq_true, decide_eq_true_eq] at hlast
      exact h.followed.leave hit hshard hlast.2
    · rw [List.length_nil, Nat.add_zero, ← hit, Function.update_eq_self]
      exact h.followed
  · obtain ⟨hopen, hfollowed⟩ := h.followed.read hit hshard hempty
    have hnext : shard.nextShardIterator (position + (shard.page position n).length) =
        some (position + (shard.page position n).length) := by
      simp [Shard.nextShardIterator, hopen]
    rw [if_neg (by simpa using hempty), hnext]
    refine ⟨?_, fun _ _ => by simp, h.ordered, h.numbered⟩
    rw [iterator_reading rfl, update_iterator hphase]
    exact hfollowed

theorem Following.take (h : Following s)
    (hphase : ∀ shardId it shardIds, s.phase ≠ .reading shardId it shardIds)
    (hget : s.shardIteratorsMap.get? shardId = some (some position)) :
    Following { s with phase := .reading shardId (some position) shardIds } := by
  refine h.of_iterator ?_ (by simp)
  have hiterator : Subscription.iterator { s with
      phase := .reading shardId (some position) shardIds } = s.iterator := by
    rw [iterator_reading rfl, iterator_of_phase hphase, Function.update_eq_self_iff]
    simp [hget]
  rw [hiterator]
  exact h.followed

theorem Following.expire (h : Following s)
    (hphase : s.phase = .reading shardId (some position) shardIds)
    (hend : ∀ shard, s.stream.segment? shardId = some shard → shard.entries.length ≤ position) :
    Following { s with
      shardIteratorsMap := s.shardIteratorsMap.set shardId none
      phase := .processing shardIds } := by
  have hit := iterator_self hphase
  obtain ⟨shard, hshard, -⟩ := h.followed.placed shardId position hit
  refine h.of_iterator ?_ (by simp)
  rw [iterator_of_phase (by simp), join_get?_set, update_iterator hphase]
  exact h.followed.leave hit hshard (hend shard hshard)

theorem Following.step (h : Following s) {a : Action Key Entry} (hstep : Step s a s')
    (htimely : Timely ⟨s, a, s'⟩) : Following s' := by
  cases hstep with
  | write hopen => exact h.written hopen htimely
  | closeShard hopen => exact ⟨h.followed.close htimely, h.held, h.ordered, h.numbered⟩
  | openChild hclosed => exact ⟨h.followed.openNext hclosed, h.held, h.ordered, h.numbered⟩
  | describeStream hphase _ => exact h.setPhase (by simp [hphase]) (by simp)
  | getShardIterator hphase hshard => exact h.initialized hphase hshard
  | cleanUp hphase => exact h.cleanedUp (by simp [hphase])
  | shuffle hphase _ => exact h.setPhase (by simp [hphase]) (by simp)
  | skip hphase _ => exact h.setPhase (by simp [hphase]) (by simp)
  | take hphase hget => exact h.take (by simp [hphase]) hget
  | endPass hphase => exact h.setPhase (by simp [hphase]) (by simp)
  | getRecords hphase hshard _ => exact h.received hphase hshard
  | expire hphase => exact h.expire hphase fun shard => htimely _ _ _ shard hphase
  | reject hphase => exact absurd hphase (h.held _ _)

theorem Following.of_start (h : s.Start) : Following s := by
  have hnone : ∀ shardId, s.iterator shardId = none := by
    intro shardId
    rw [iterator_of_phase (by simp [h.idle]), h.empty]
    rfl
  refine ⟨⟨fun shardId position hit => ?_, ?_⟩, by simp [h.idle], ?_, ?_⟩
  · rw [hnone] at hit
    cases hit
  · simp [SegmentedLog.unread, hnone, h.delivered, h.writes]
  · simp [h.writes]
  · simp [h.writes]

theorem Following.unread_of_allRead (h : Following s) (hread : s.AllRead) :
    s.stream.unread s.iterator = [] := by
  rw [List.eq_nil_iff_forall_not_mem]
  intro record hrecord
  have hdelivered : record ∈ s.delivered := by
    unfold SegmentedLog.unread at hrecord
    split at hrecord
    · next position hit =>
      exact hread _ position _ hit (SegmentedLog.segment?_currentId s.stream) record hrecord
    · cases hrecord
  have hordered := h.ordered
  rw [← h.followed.log, List.pairwise_append] at hordered
  exact Nat.lt_irrefl _ (hordered.2.2 record hdelivered record hrecord)

/-- Whenever all records have been read, none was skipped and the last events are those of the last
writes, if each step came in time. -/
theorem subscriber_converges [DecidableEq Key] {s₀ : Subscription Key Entry}
    {t : List (Edge (Subscription Key Entry) (Action Key Entry))} (hrun : Run Step s₀ t s)
    (h₀ : s₀.Start) (htimely : ∀ e ∈ t, Timely e) (hread : s.AllRead) : s.Converged := by
  have hfollowing : Following s :=
    hrun.invariant_of Following (Following.of_start h₀)
      (fun hfollowing hstep htimely => hfollowing.step hstep htimely) htimely
  have hdelivered : s.delivered = s.writes := by
    rw [← hfollowing.followed.log, hfollowing.unread_of_allRead hread, List.append_nil]
  exact ⟨fun record hrecord => hdelivered ▸ hrecord, fun key => by rw [hdelivered]⟩

namespace Subscription

def perform (s : Subscription Key Entry) : Action Key Entry → Option (Subscription Key Entry)
  | .write key change => if s.stream.current.closed then none else some (s.written key change)
  | .closeShard =>
    if s.stream.current.closed then none else some { s with stream := s.stream.close }
  | .openChild =>
    if s.stream.current.closed then some { s with stream := s.stream.openNext } else none
  | .describeStream shards =>
    if s.phase = .idle ∧ ∀ shardId ∈ shards, (s.stream.segment? shardId).isSome then
      some { s with phase := .initializing shards }
    else none
  | .getShardIterator =>
    match s.phase with
    | .initializing (shardId :: shards) =>
      (s.stream.segment? shardId).map fun shard => s.initialized shardId shard shards
    | _ => none
  | .cleanUp => if s.phase = .initializing [] then some s.cleanedUp else none
  | .shuffle shardIds =>
    if s.phase = .idle ∧ shardIds.Perm s.shardIteratorsMap.keys then
      some { s with phase := .processing shardIds }
    else none
  | .nextShard =>
    match s.phase with
    | .processing (shardId :: shardIds) =>
      (s.shardIteratorsMap.get? shardId).map fun
        | none => { s with phase := .processing shardIds }
        | some position => { s with phase := .reading shardId (some position) shardIds }
    | _ => none
  | .endPass => if s.phase = .processing [] then some { s with phase := .idle } else none
  | .getRecords n =>
    match s.phase with
    | .reading shardId (some position) shardIds =>
      if n ≤ 1000 then (s.stream.segment? shardId).map fun shard =>
        s.received shardId (Shard.page shard position n)
          (Shard.nextShardIterator shard (position + (Shard.page shard position n).length)) shardIds
      else none
    | _ => none
  | .expire =>
    match s.phase with
    | .reading shardId (some _) shardIds => some { s with
        shardIteratorsMap := s.shardIteratorsMap.set shardId none
        phase := .processing shardIds }
    | _ => none
  | .reject =>
    match s.phase with
    | .reading _ none _ => some { s with phase := .idle }
    | _ => none

end Subscription

theorem step_of_perform {a : Action Key Entry} (h : s.perform a = some s') : Step s a s' := by
  cases a with
  | write key change =>
    obtain ⟨hopen, hs⟩ := Option.ite_none_left_eq_some.mp h
    cases hs
    exact .write (Bool.eq_false_iff.mpr hopen)
  | closeShard =>
    obtain ⟨hopen, hs⟩ := Option.ite_none_left_eq_some.mp h
    cases hs
    exact .closeShard (Bool.eq_false_iff.mpr hopen)
  | openChild =>
    obtain ⟨hclosed, hs⟩ := Option.ite_none_right_eq_some.mp h
    cases hs
    exact .openChild hclosed
  | describeStream shards =>
    obtain ⟨⟨hphase, hshards⟩, hs⟩ := Option.ite_none_right_eq_some.mp h
    cases hs
    exact .describeStream hphase hshards
  | getShardIterator =>
    simp only [perform] at h
    split at h
    · next hphase =>
      obtain ⟨shard, hshard, rfl⟩ := Option.map_eq_some_iff.mp h
      exact .getShardIterator hphase hshard
    · cases h
  | cleanUp =>
    obtain ⟨hphase, hs⟩ := Option.ite_none_right_eq_some.mp h
    cases hs
    exact .cleanUp hphase
  | shuffle shardIds =>
    obtain ⟨⟨hphase, hperm⟩, hs⟩ := Option.ite_none_right_eq_some.mp h
    cases hs
    exact .shuffle hphase hperm
  | nextShard =>
    simp only [perform] at h
    split at h
    · next hphase =>
      obtain ⟨it, hit, rfl⟩ := Option.map_eq_some_iff.mp h
      cases it with
      | none => exact .skip hphase hit
      | some position => exact .take hphase hit
    · cases h
  | endPass =>
    obtain ⟨hphase, hs⟩ := Option.ite_none_right_eq_some.mp h
    cases hs
    exact .endPass hphase
  | getRecords n =>
    simp only [perform] at h
    split at h
    · next hphase =>
      obtain ⟨hn, hmap⟩ := Option.ite_none_right_eq_some.mp h
      obtain ⟨shard, hshard, rfl⟩ := Option.map_eq_some_iff.mp hmap
      exact .getRecords hphase hshard hn
    · cases h
  | expire =>
    simp only [perform] at h
    split at h
    · next hphase =>
      cases h
      exact .expire hphase
    · cases h
  | reject =>
    simp only [perform] at h
    split at h
    · next hphase =>
      cases h
      exact .reject hphase
    · cases h

def Subscription.performed (s : Subscription Key Entry) (a : Action Key Entry) :
    Subscription Key Entry :=
  (s.perform a).getD s

theorem run_performed {as : List (Action Key Entry)}
    (h : ∀ e ∈ Run.edges performed s as, (e.pre.perform e.label).isSome) :
    Run Step s (Run.edges performed s as) (as.foldl performed s) := by
  induction as generalizing s with
  | nil => exact .nil
  | cons a as ih =>
    obtain ⟨ha, has⟩ := List.forall_mem_cons.mp h
    obtain ⟨s', hs'⟩ := Option.isSome_iff_exists.mp ha
    have hstep : Step s a (s.performed a) := by
      rw [performed, hs']
      exact step_of_perform hs'
    exact (Run.single hstep).append (ih has)

def Subscription.rest (s : Subscription Key Entry) (shardId : ℕ) : List (Record Key Entry) :=
  match s.stream.segment? shardId, s.iterator shardId with
  | some shard, some position => shard.entries.drop position
  | _, _ => []

theorem allRead_of_rest (h : ∀ shardId ∈ List.range (s.stream.currentId + 1), s.rest shardId = []) :
    s.AllRead := by
  intro shardId position shard hit hshard record hrecord
  have hrest : s.rest shardId = shard.entries.drop position := by simp only [rest, hit, hshard]
  have hle : shardId ≤ s.stream.currentId := SegmentedLog.le_currentId hshard
  rw [← hrest, h shardId (List.mem_range.mpr (Nat.lt_succ_of_le hle))] at hrecord
  cases hrecord

def watched : Subscription String ℕ where
  stream := ⟨[], ⟨[⟨0, "cluster.locale", .INSERT 1⟩], false⟩⟩
  sequenceNumber := 1
  shardIteratorsMap := Dict.empty
  phase := .idle
  writes := []
  delivered := []

theorem start_watched : watched.Start := ⟨rfl, rfl, rfl, rfl⟩

def changed : List (Action String ℕ) :=
  [.describeStream [0], .getShardIterator, .cleanUp, .write "cluster.locale" (.MODIFY 1 2),
    .shuffle [0], .nextShard, .getRecords 1000, .getRecords 1000, .endPass]

theorem converges_changed : (changed.foldl performed watched).Converged := by
  have hrun : Run Step watched (Run.edges performed watched changed)
      (changed.foldl performed watched) := run_performed (by decide +kernel)
  refine subscriber_converges hrun start_watched ?_ ?_
  · simp only [changed, Run.edges, List.forall_mem_cons, List.not_mem_nil, false_imp_iff,
      implies_true, and_true]
    exact ⟨trivial, trivial, trivial, ⟨1, by decide +kernel⟩, trivial, trivial, trivial, trivial,
      trivial⟩
  · exact allRead_of_rest (by decide +kernel)

def changedInChild : List (Action String ℕ) :=
  [.describeStream [0], .getShardIterator, .cleanUp, .closeShard, .openChild,
    .write "cluster.locale" (.MODIFY 1 2), .describeStream [0, 1], .getShardIterator,
    .getShardIterator, .cleanUp, .shuffle [0, 1], .nextShard, .getRecords 1000, .nextShard,
    .getRecords 1000, .endPass]

theorem skipped_in_child : watched.Start ∧
    Run Step watched (Run.edges performed watched changedInChild)
      (changedInChild.foldl performed watched) ∧
    (changedInChild.foldl performed watched).AllRead ∧
    ¬ (changedInChild.foldl performed watched).Converged := by
  refine ⟨start_watched, run_performed (by decide +kernel), ?_, fun h => ?_⟩
  · exact allRead_of_rest (by decide +kernel)
  · have hmem : (⟨1, "cluster.locale", .MODIFY 1 2⟩ : Record String ℕ) ∈
        (changedInChild.foldl performed watched).writes := by decide +kernel
    have hnot : (⟨1, "cluster.locale", .MODIFY 1 2⟩ : Record String ℕ) ∉
        (changedInChild.foldl performed watched).delivered := by decide +kernel
    exact hnot (h.1 _ hmem)

end Idea.StreamSubscription

import Idea.System.Stateful
import Idea.VirtualDesktop.QueueMessages

/-! # Polling of the event queues

A poller receives a batch of messages, handles them one after the other and at the end asks the
queue to delete those that are done. The events queue blocks the group of a message that was kept
for the rest of the batch. An exception between the messages ends the poll, and then nothing is
deleted.
-/

namespace Idea.VirtualDesktop

def DO_NOT_DELETE_MESSAGE : String := "DO_NOT_DELETE_MESSAGE"

def MESSAGE_SOURCE_VALIDATION_FAILED : String := "MESSAGE_SOURCE_VALIDATION_FAILED"

/-- A message together with how its handler ends if it is called in this poll. -/
structure Delivery where
  message : QueueMessage
  outcome : Except Raised Unit
  deriving DecidableEq

/-- A poll so far: the entries to delete, the blocked groups, and the messages that were handed to
their handlers, in order. -/
structure Poll where
  deleteMessageInfo : List DeleteEntry
  doNotProcessMessageGroupIds : List String
  handled : List Delivery
  deriving DecidableEq

namespace Poll

def start : Poll := ⟨[], [], []⟩

def delete (message : QueueMessage) (poll : Poll) : Poll :=
  { poll with deleteMessageInfo := poll.deleteMessageInfo ++ [message.deleteEntry] }

def keep (message : QueueMessage) (poll : Poll) : Poll :=
  { poll with
    doNotProcessMessageGroupIds := message.group :: poll.doNotProcessMessageGroupIds }

def handle (delivery : Delivery) (poll : Poll) : Poll :=
  { poll with handled := poll.handled ++ [delivery] }

end Poll

def deleted : Except Raised Unit × Poll → List DeleteEntry
  | (.ok _, poll) => poll.deleteMessageInfo
  | (.error _, _) => []

structure Decoders where
  fromJson : String → Option JsonValue
  md5 : String → String

def isChecksumValid (decoders : Decoders) (message : QueueMessage) : Except Raised Bool :=
  match getValueAsString message.body with
  | none => .error .attributeError
  | some body => .ok (decide (some (decoders.md5 body) = getValueAsString message.md5OfBody))

def readEvent (decoders : Decoders) (message : QueueMessage) : Except Raised VirtualDesktopEvent :=
  match (getValueAsString message.body).bind decoders.fromJson with
  | none => .error .valueError
  | some (.object entries) => eventOfEntries entries
  | some _ => .error .typeError

def eventHandlerMap : List VirtualDesktopEventType := VirtualDesktopEventType.all

def deletesAfter : Except Raised Unit → Bool
  | .ok _ => true
  | .error (.soca errorCode _) =>
    if errorCode = DO_NOT_DELETE_MESSAGE then false
    else decide (errorCode = MESSAGE_SOURCE_VALIDATION_FAILED)
  | .error _ => false

def handleEvent (delivery : Delivery) : Stateful Poll Raised Bool :=
  .get >>= fun poll =>
    if poll.doNotProcessMessageGroupIds.contains delivery.message.group then pure false
    else .modify (Poll.handle delivery) >>= fun _ => pure (deletesAfter delivery.outcome)

def processEvent (delivery : Delivery) (event : VirtualDesktopEvent) :
    Stateful Poll Raised Bool :=
  match event.eventType with
  | none => pure true
  | some eventType =>
    if !eventHandlerMap.contains eventType then pure true else handleEvent delivery

/-- Tells whether the message is to be deleted. Its body is decoded before any exception is
caught. -/
def shouldDeleteMessage (decoders : Decoders) (delivery : Delivery) :
    Stateful Poll Raised Bool :=
  .ofExcept (isChecksumValid decoders delivery.message) >>= fun valid =>
    if !valid then pure true
    else .ofExcept (readEvent decoders delivery.message) >>= processEvent delivery

def processMessage (decoders : Decoders) (delivery : Delivery) : Stateful Poll Raised Unit :=
  shouldDeleteMessage decoders delivery >>= fun should =>
    .modify (if should then Poll.delete delivery.message else Poll.keep delivery.message)

/-- `EventsHandlerThread.poll_and_process_queue` on a batch that was received. -/
def pollAndProcessQueue (decoders : Decoders) (batch : List Delivery) :
    Except Raised Unit × Poll :=
  (Stateful.forEach (processMessage decoders) batch).run .start

structure SocaHeader where
  nameSpace : Option String

structure SocaEnvelope where
  header : Option SocaHeader

/-- What the monitor of the controller queue relies on: the text of a value, the validation of
envelopes and the topics of the installation. -/
structure ControllerQueue extends Decoders where
  str : JsonValue → String
  socaEnvelope : List (String × JsonValue) → Except Raised SocaEnvelope
  ssmCommandsTopicArn : String
  stateChangeTopicArn : String

namespace ControllerQueue

def valueAsString (queue : ControllerQueue) : JsonValue → Option String
  | .null => none
  | .string text => getAsString text
  | .array [] => none
  | .object [] => none
  | value => some (queue.str value)

def topicArn (queue : ControllerQueue) (entries : List (String × JsonValue)) : Option String :=
  (List.lookup "TopicArn" entries).bind queue.valueAsString

def handlesEnvelope (envelope : SocaEnvelope) : Except Raised Bool :=
  match envelope.header with
  | none => .error .attributeError
  | some header => .ok (decide (header.nameSpace = some "Accounts.UserDisabledEvent"))

/-- Whether a message is handed to a handler. A body that is no dictionary raises at the latest
where its entries become the fields of an envelope. -/
def dispatches (queue : ControllerQueue) (message : QueueMessage) : Except Raised Bool :=
  match (getValueAsString message.body).bind queue.fromJson with
  | none => .error .valueError
  | some (.object entries) =>
    match queue.topicArn entries with
    | none => queue.socaEnvelope entries >>= handlesEnvelope
    | some arn => .ok (decide (arn = queue.ssmCommandsTopicArn ∨ arn = queue.stateChangeTopicArn))
  | some _ => .error .typeError

def handleMessage (delivery : Delivery) (handles : Bool) : Stateful Poll Raised Unit :=
  if handles then .modify (Poll.handle delivery) >>= fun _ => .ofExcept delivery.outcome
  else pure ()

def processMessage (queue : ControllerQueue) (delivery : Delivery) :
    Stateful Poll Raised Unit :=
  .ofExcept (queue.dispatches delivery.message) >>= fun handles =>
    handleMessage delivery handles >>= fun _ => .modify (Poll.delete delivery.message)

/-- `ControllerQueueMonitorService._poll_and_process_queue` on a batch that was received. -/
def pollAndProcessQueue (queue : ControllerQueue) (batch : List Delivery) :
    Except Raised Unit × Poll :=
  (Stateful.forEach queue.processMessage batch).run .start

end ControllerQueue

/-- The handler asks for another try. A message from a source that is not trusted is ignored. -/
def Delivery.Fails (delivery : Delivery) : Prop :=
  ∃ e, delivery.outcome = .error e ∧ ∀ message, e ≠ .soca MESSAGE_SOURCE_VALIDATION_FAILED message

structure Unspoiled (result : Except Raised Unit × Poll) : Prop where
  finishes : result.1 = .ok ()
  deletes_completed : ∀ delivery ∈ result.2.handled, delivery.outcome = .ok () →
    delivery.message.deleteEntry ∈ deleted result
  blocks_failed : result.2.handled.Pairwise fun earlier later =>
    earlier.message.group = later.message.group → ¬ earlier.Fails

variable {decoders : Decoders} {queue : ControllerQueue} {delivery : Delivery}
  {poll poll' : Poll} {batch : List Delivery} {r : Except Raised Unit}

theorem deletesAfter_eq_false_iff : deletesAfter delivery.outcome = false ↔ delivery.Fails := by
  unfold Delivery.Fails
  rcases delivery.outcome with e | _
  · cases e with
    | soca errorCode message =>
      have hcodes : DO_NOT_DELETE_MESSAGE ≠ MESSAGE_SOURCE_VALIDATION_FAILED := by decide
      simp only [deletesAfter, Except.error.injEq, exists_eq_left', ne_eq, Raised.soca.injEq,
        not_and]
      split
      · next hcode => exact ⟨fun _ _ h => absurd (hcode.symm.trans h) hcodes, fun _ => rfl⟩
      · rw [decide_eq_false_iff_not]
        exact ⟨fun h _ h' => absurd h' h, fun h h' => h message h' rfl⟩
    | _ => simp [deletesAfter]
  · simp [deletesAfter]

theorem not_fails_of_completed (h : delivery.outcome = .ok ()) : ¬ delivery.Fails := by
  rintro ⟨e, he, -⟩
  rw [h] at he
  nomatch he

theorem deleted_of_ok {result : Except Raised Unit × Poll} (h : result.1 = .ok ()) :
    deleted result = result.2.deleteMessageInfo := by
  obtain ⟨r, poll⟩ := result
  obtain rfl : r = .ok () := h
  rfl

/-- A message with a body that is not blank, and that is an event if the checksum fits. -/
def QueueMessage.Readable (decoders : Decoders) (message : QueueMessage) : Prop :=
  ∃ body, getValueAsString message.body = some body ∧
    (getValueAsString message.md5OfBody = some (decoders.md5 body) →
      ∃ entries, decoders.fromJson body = some (.object entries) ∧ EventEntries entries)

inductive Processed (delivery : Delivery) (poll : Poll) : Poll → Prop where
  | ignored : Processed delivery poll (poll.delete delivery.message)
  | blocked : Processed delivery poll (poll.keep delivery.message)
  | completed (h : ¬ delivery.Fails)
      (hgroup : delivery.message.group ∉ poll.doNotProcessMessageGroupIds) :
      Processed delivery poll ((poll.handle delivery).delete delivery.message)
  | failed (h : delivery.Fails)
      (hgroup : delivery.message.group ∉ poll.doNotProcessMessageGroupIds) :
      Processed delivery poll ((poll.handle delivery).keep delivery.message)

/-- A poll in which nothing was handled out of order and everything completed is to be deleted. -/
structure Orderly (poll : Poll) : Prop where
  deletes_completed : ∀ delivery ∈ poll.handled, delivery.outcome = .ok () →
    delivery.message.deleteEntry ∈ poll.deleteMessageInfo
  blocked : ∀ delivery ∈ poll.handled, delivery.Fails →
    delivery.message.group ∈ poll.doNotProcessMessageGroupIds
  pairwise : poll.handled.Pairwise fun earlier later =>
    earlier.message.group = later.message.group → ¬ earlier.Fails

theorem orderly_start : Orderly .start :=
  ⟨fun _ h => absurd h List.not_mem_nil, fun _ h => absurd h List.not_mem_nil, .nil⟩

namespace Orderly

theorem delete (h : Orderly poll) (message : QueueMessage) : Orderly (poll.delete message) :=
  ⟨fun d hd hcompleted => List.mem_append_left _ (h.deletes_completed d hd hcompleted),
    h.blocked, h.pairwise⟩

theorem keep (h : Orderly poll) (message : QueueMessage) : Orderly (poll.keep message) :=
  ⟨h.deletes_completed, fun d hd hfails => List.mem_cons_of_mem _ (h.blocked d hd hfails),
    h.pairwise⟩

theorem pairwise_handle (h : Orderly poll)
    (hgroup : delivery.message.group ∉ poll.doNotProcessMessageGroupIds) :
    (poll.handle delivery).handled.Pairwise fun earlier later =>
      earlier.message.group = later.message.group → ¬ earlier.Fails := by
  refine List.pairwise_append.mpr ⟨h.pairwise, List.pairwise_singleton _ _, ?_⟩
  intro earlier hearlier later hlater hsame hfails
  obtain rfl := List.mem_singleton.mp hlater
  exact hgroup (hsame ▸ h.blocked earlier hearlier hfails)

theorem processed (h : Orderly poll) (hround : Processed delivery poll poll') :
    Orderly poll' := by
  cases hround with
  | ignored => exact h.delete _
  | blocked => exact h.keep _
  | completed hdone hgroup =>
    refine ⟨fun d hd hcompleted => ?_, fun d hd hfails => ?_, h.pairwise_handle hgroup⟩
    · rcases List.mem_append.mp hd with hd | hd
      · exact List.mem_append_left _ (h.deletes_completed d hd hcompleted)
      · obtain rfl := List.mem_singleton.mp hd
        exact List.mem_append_right _ (List.mem_singleton_self _)
    · rcases List.mem_append.mp hd with hd | hd
      · exact h.blocked d hd hfails
      · exact absurd hfails (List.mem_singleton.mp hd ▸ hdone)
  | failed hfailed hgroup =>
    refine ⟨fun d hd hcompleted => ?_, fun d hd hfails => ?_, h.pairwise_handle hgroup⟩
    · rcases List.mem_append.mp hd with hd | hd
      · exact h.deletes_completed d hd hcompleted
      · obtain rfl := List.mem_singleton.mp hd
        exact absurd hfailed (not_fails_of_completed hcompleted)
    · rcases List.mem_append.mp hd with hd | hd
      · exact List.mem_cons_of_mem _ (h.blocked d hd hfails)
      · obtain rfl := List.mem_singleton.mp hd
        exact List.mem_cons_self

end Orderly

theorem run_handleEvent (delivery : Delivery) (poll : Poll) :
    (handleEvent delivery).run poll =
      if poll.doNotProcessMessageGroupIds.contains delivery.message.group then (.ok false, poll)
      else (.ok (deletesAfter delivery.outcome), poll.handle delivery) := by
  rw [handleEvent, Stateful.run_get_bind]
  split <;> rfl

theorem processed_of_event (delivery : Delivery) (poll : Poll) (event : VirtualDesktopEvent) :
    ∃ should poll', (processEvent delivery event).run poll = (.ok should, poll') ∧
      Processed delivery poll
        ((if should then Poll.delete delivery.message else Poll.keep delivery.message) poll') := by
  rcases htype : event.eventType with _ | eventType
  · exact ⟨true, poll, by rw [processEvent, htype]; rfl, .ignored⟩
  by_cases hmap : eventHandlerMap.contains eventType
  · have hrun : (processEvent delivery event).run poll = (handleEvent delivery).run poll := by
      simp only [processEvent, htype, hmap, Bool.not_true, Bool.false_eq_true, if_false]
    rw [hrun, run_handleEvent]
    by_cases hgroup : poll.doNotProcessMessageGroupIds.contains delivery.message.group
    · exact ⟨false, poll, if_pos hgroup, .blocked⟩
    · have hfree : delivery.message.group ∉ poll.doNotProcessMessageGroupIds :=
        fun h => hgroup (List.contains_iff_mem.mpr h)
      refine ⟨_, _, if_neg hgroup, ?_⟩
      cases hdeletes : deletesAfter delivery.outcome with
      | false => exact .failed (deletesAfter_eq_false_iff.mp hdeletes) hfree
      | true =>
        exact .completed (fun h => by simp [deletesAfter_eq_false_iff.mpr h] at hdeletes) hfree
  · refine ⟨true, poll, ?_, .ignored⟩
    simp only [processEvent, htype, eq_false_of_ne_true hmap, Bool.not_false, if_true]
    rfl

theorem processMessage_cases (h : (processMessage decoders delivery).run poll = (r, poll')) :
    (∃ e, r = .error e) ∧ poll' = poll ∧ ¬ delivery.message.Readable decoders ∨
      r = .ok () ∧ delivery.message.Readable decoders ∧ Processed delivery poll poll' := by
  have hround : ∀ should p, (shouldDeleteMessage decoders delivery).run poll = (.ok should, p) →
      r = .ok () ∧ poll' =
        (if should then Poll.delete delivery.message else Poll.keep delivery.message) p := by
    intro should p hshould
    rw [processMessage, Stateful.run_bind_of_ok hshould, Stateful.run_modify] at h
    exact ⟨(Prod.mk.inj h).1.symm, (Prod.mk.inj h).2.symm⟩
  have hraise : ∀ e, (shouldDeleteMessage decoders delivery).run poll = (.error e, poll) →
      (∃ e, r = .error e) ∧ poll' = poll := by
    intro e hshould
    rw [processMessage, Stateful.run_bind_of_error hshould] at h
    exact ⟨⟨e, (Prod.mk.inj h).1.symm⟩, (Prod.mk.inj h).2.symm⟩
  unfold QueueMessage.Readable
  rcases hbody : getValueAsString delivery.message.body with _ | body
  · obtain ⟨hr, hp⟩ := hraise .attributeError (by
      simp only [shouldDeleteMessage, isChecksumValid, hbody]; rfl)
    exact .inl ⟨hr, hp, fun ⟨body, hb, _⟩ => by simp at hb⟩
  by_cases hmd5 : getValueAsString delivery.message.md5OfBody = some (decoders.md5 body)
  · have hvalid : isChecksumValid decoders delivery.message = .ok true := by
      simp [isChecksumValid, hbody, hmd5]
    have hrun : (shouldDeleteMessage decoders delivery).run poll =
        (Stateful.ofExcept (readEvent decoders delivery.message) >>=
          processEvent delivery).run poll := by
      rw [shouldDeleteMessage, hvalid]; rfl
    rcases hread : readEvent decoders delivery.message with e | event
    · obtain ⟨hr, hp⟩ := hraise e (by rw [hrun, hread]; rfl)
      refine .inl ⟨hr, hp, ?_⟩
      rintro ⟨_, ⟨⟩, hfits⟩
      obtain ⟨entries, hjson, hentries⟩ := hfits hmd5
      obtain ⟨event, hevent⟩ := eventOfEntries_ok_iff.mpr hentries
      rw [readEvent, hbody, Option.bind_some, hjson] at hread
      exact absurd (hevent.symm.trans hread) (by simp)
    · obtain ⟨should, p, hp, hprocessed⟩ :=
        processed_of_event delivery poll event
      obtain ⟨hr, rfl⟩ := hround should p (by rw [hrun, hread]; exact hp)
      refine .inr ⟨hr, ⟨body, rfl, fun _ => ?_⟩, hprocessed⟩
      rw [readEvent, hbody, Option.bind_some] at hread
      rcases hjson : decoders.fromJson body with _ | value
      · rw [hjson] at hread; nomatch hread
      · cases value with
        | object entries =>
          rw [hjson] at hread
          exact ⟨entries, rfl, eventOfEntries_ok_iff.mp ⟨event, hread⟩⟩
        | _ => rw [hjson] at hread; nomatch hread
  · have hshould : (shouldDeleteMessage decoders delivery).run poll = (.ok true, poll) := by
      have hvalid : isChecksumValid decoders delivery.message = .ok false := by
        simp [isChecksumValid, hbody, eq_comm, hmd5]
      rw [shouldDeleteMessage, hvalid]; rfl
    obtain ⟨hr, rfl⟩ := hround true poll hshould
    exact .inr ⟨hr, ⟨body, rfl, fun h => absurd h hmd5⟩, .ignored⟩

theorem pollAndProcessQueue_orderly (decoders : Decoders) (batch : List Delivery) :
    Orderly (pollAndProcessQueue decoders batch).2 := by
  refine Stateful.forEach_invariant Orderly rfl orderly_start ?_
  intro delivery _ poll r poll' horderly hround
  rcases processMessage_cases hround with ⟨-, rfl, -⟩ | ⟨-, -, hprocessed⟩
  · exact horderly
  · exact horderly.processed hprocessed

theorem pollAndProcessQueue_finishes_iff :
    (pollAndProcessQueue decoders batch).1 = .ok () ↔
      ∀ delivery ∈ batch, delivery.message.Readable decoders := by
  refine Stateful.forEach_finishes_iff (fun delivery poll => ?_) batch Poll.start
  rcases hround : (processMessage decoders delivery).run poll with ⟨r, poll'⟩
  rcases processMessage_cases hround with ⟨⟨e, rfl⟩, -, hreadable⟩ | ⟨rfl, hreadable, -⟩
  · exact ⟨fun h => (nomatch h), fun h => absurd h hreadable⟩
  · exact ⟨fun _ => hreadable, fun _ => rfl⟩

theorem pollAndProcessQueue_unspoiled_iff :
    Unspoiled (pollAndProcessQueue decoders batch) ↔
      ∀ delivery ∈ batch, delivery.message.Readable decoders := by
  refine ⟨fun h => pollAndProcessQueue_finishes_iff.mp h.finishes, fun h => ?_⟩
  have hok := pollAndProcessQueue_finishes_iff.mpr h
  have horderly := pollAndProcessQueue_orderly decoders batch
  refine ⟨hok, fun delivery hd hcompleted => ?_, horderly.pairwise⟩
  rw [deleted_of_ok hok]
  exact horderly.deletes_completed delivery hd hcompleted

namespace ControllerQueue

/-- A message with a dictionary as its body, which is an envelope with a header if it names no
topic; its handler completes if one is called. -/
def Handles (queue : ControllerQueue) (delivery : Delivery) : Prop :=
  ∃ body entries, getValueAsString delivery.message.body = some body ∧
    queue.fromJson body = some (.object entries) ∧
    match queue.topicArn entries with
    | none => ∃ header, queue.socaEnvelope entries = .ok ⟨some header⟩ ∧
      (header.nameSpace = some "Accounts.UserDisabledEvent" → delivery.outcome = .ok ())
    | some arn => arn = queue.ssmCommandsTopicArn ∨ arn = queue.stateChangeTopicArn →
      delivery.outcome = .ok ()

theorem handles_iff : queue.Handles delivery ↔
    ∃ handles, queue.dispatches delivery.message = .ok handles ∧
      (handles = true → delivery.outcome = .ok ()) := by
  unfold Handles dispatches
  rcases hbody : getValueAsString delivery.message.body with _ | body
  · simp
  rcases hjson : queue.fromJson body with _ | value
  · simp [hjson]
  cases value with
  | object entries =>
    simp only [Option.bind_some, hjson, Option.some.injEq, JsonValue.object.injEq,
      exists_eq_left', exists_and_left]
    rcases htopic : queue.topicArn entries with _ | arn
    · simp only [handlesEnvelope, Raised.bind_eq_ok]
      constructor
      · rintro ⟨header, hheader, hcompletes⟩
        exact ⟨_, ⟨_, hheader, rfl⟩, fun h => hcompletes (of_decide_eq_true h)⟩
      · rintro ⟨handles, ⟨⟨header⟩, henvelope, hheader⟩, hcompletes⟩
        rcases header with _ | header
        · cases hheader
        · obtain rfl := Except.ok.inj hheader
          exact ⟨header, henvelope, fun h => hcompletes (decide_eq_true h)⟩
    · simp
  | _ => simp [hjson]

theorem processMessage_cases (h : (queue.processMessage delivery).run poll = (r, poll')) :
    (∃ e, r = .error e) ∧ ¬ queue.Handles delivery ∨
      r = .ok () ∧ queue.Handles delivery ∧
        (poll' = poll.delete delivery.message ∨
          poll' = (poll.handle delivery).delete delivery.message ∧
            delivery.outcome = .ok ()) := by
  rw [handles_iff]
  rcases hdispatches : queue.dispatches delivery.message with e | handles
  · rw [processMessage, hdispatches] at h
    obtain ⟨rfl, -⟩ := Prod.mk.inj h
    exact .inl ⟨⟨e, rfl⟩, by simp⟩
  rw [processMessage, hdispatches] at h
  cases handles with
  | false =>
    obtain ⟨rfl, rfl⟩ := Prod.mk.inj h
    exact .inr ⟨rfl, ⟨false, rfl, by simp⟩, .inl rfl⟩
  | true =>
    rcases houtcome : delivery.outcome with e | _
    · simp only [handleMessage, houtcome] at h
      obtain ⟨rfl, -⟩ := Prod.mk.inj h
      exact .inl ⟨⟨e, rfl⟩, by simp⟩
    · simp only [handleMessage, houtcome] at h
      obtain ⟨rfl, rfl⟩ := Prod.mk.inj h
      exact .inr ⟨rfl, ⟨true, rfl, fun _ => rfl⟩, .inr ⟨rfl, rfl⟩⟩

theorem pollAndProcessQueue_finishes_iff :
    (queue.pollAndProcessQueue batch).1 = .ok () ↔ ∀ delivery ∈ batch, queue.Handles delivery := by
  refine Stateful.forEach_finishes_iff (fun delivery poll => ?_) batch Poll.start
  rcases hround : (queue.processMessage delivery).run poll with ⟨r, poll'⟩
  rcases processMessage_cases hround with ⟨⟨e, rfl⟩, hhandles⟩ | ⟨rfl, hhandles, -⟩
  · exact ⟨fun h => (nomatch h), fun h => absurd h hhandles⟩
  · exact ⟨fun _ => hhandles, fun _ => rfl⟩

/-- Everything that was handed to a handler completed and is to be deleted. -/
def AllCompleted (poll : Poll) : Prop :=
  ∀ delivery ∈ poll.handled, delivery.outcome = .ok () ∧
    delivery.message.deleteEntry ∈ poll.deleteMessageInfo

theorem AllCompleted.processed (h : AllCompleted poll)
    (hround : (queue.processMessage delivery).run poll = (.ok (), poll')) :
    AllCompleted poll' := by
  rcases processMessage_cases hround with ⟨⟨e, he⟩, -⟩ | ⟨-, -, rfl | ⟨rfl, hcompleted⟩⟩
  · nomatch he
  · exact fun d hd => ⟨(h d hd).1, List.mem_append_left _ (h d hd).2⟩
  · intro d hd
    rcases List.mem_append.mp hd with hd | hd
    · exact ⟨(h d hd).1, List.mem_append_left _ (h d hd).2⟩
    · obtain rfl := List.mem_singleton.mp hd
      exact ⟨hcompleted, List.mem_append_right _ (List.mem_singleton_self _)⟩

theorem pollAndProcessQueue_unspoiled_iff :
    Unspoiled (queue.pollAndProcessQueue batch) ↔ ∀ delivery ∈ batch, queue.Handles delivery := by
  refine ⟨fun h => pollAndProcessQueue_finishes_iff.mp h.finishes, fun h => ?_⟩
  have hok := pollAndProcessQueue_finishes_iff.mpr h
  have hall : AllCompleted (queue.pollAndProcessQueue batch).2 := by
    have hrun : (Stateful.forEach queue.processMessage batch).run .start =
        (.ok (), (queue.pollAndProcessQueue batch).2) := Prod.ext hok rfl
    refine Stateful.forEach_ok_invariant AllCompleted hrun
      (fun _ hd => absurd hd List.not_mem_nil) ?_
    intro delivery _ poll poll' hcompleted hround
    exact hcompleted.processed hround
  refine ⟨hok, fun delivery hd _ => ?_, ?_⟩
  · rw [deleted_of_ok hok]
    exact (hall delivery hd).2
  · exact List.pairwise_of_forall_mem_list fun earlier hearlier _ _ _ =>
      not_fails_of_completed (hall earlier hearlier).1

end ControllerQueue

/-- A batch is unspoiled by the poller of the events queue if every message of it is readable, and
by the monitor of the controller queue if every message of it is handled. -/
theorem poll_and_process_queue_unspoiled_iff (decoders : Decoders) (queue : ControllerQueue)
    (batch : List Delivery) :
    (Unspoiled (pollAndProcessQueue decoders batch) ↔
      ∀ delivery ∈ batch, delivery.message.Readable decoders) ∧
    (Unspoiled (queue.pollAndProcessQueue batch) ↔ ∀ delivery ∈ batch, queue.Handles delivery) :=
  ⟨pollAndProcessQueue_unspoiled_iff, ControllerQueue.pollAndProcessQueue_unspoiled_iff⟩

/-! A text that is no JSON after a message whose handler completed. -/

def scheduledBody : String :=
  "\x7b\"event_type\":\"SCHEDULED_EVENT\",\"detail\":\x7b\"time\":\"08:00\"\x7d\x7d"

def ssmBody : String := "\x7b\"TopicArn\":\"ssm-commands\",\"Message\":\"\x7b\x7d\"\x7d"

def exampleDecoders : Decoders where
  fromJson text :=
    if text = scheduledBody then
      some (.object [("event_type", .string "SCHEDULED_EVENT"),
        ("detail", .object [("time", .string "08:00")])])
    else if text = ssmBody then
      some (.object [("TopicArn", .string "ssm-commands"), ("Message", .string "\x7b\x7d")])
    else none
  md5 text :=
    if text = "stop" then "ef399b2d446bb37b7c32ad2cc1b6045b"
    else if text = ssmBody then "190a9283c8987568f11a4727c07d051b"
    else "7678451e7c61de1780a2d13fc0f2dfdf"

def exampleQueue : ControllerQueue where
  toDecoders := exampleDecoders
  str _ := ""
  socaEnvelope _ := .error .validationError
  ssmCommandsTopicArn := "ssm-commands"
  stateChangeTopicArn := "state-changes"

def scheduledDelivery : Delivery where
  message :=
    { messageId := some "1"
      messageGroupId := some "schedules"
      senderId := none
      md5OfBody := some "7678451e7c61de1780a2d13fc0f2dfdf"
      body := some scheduledBody
      receiptHandle := some "a" }
  outcome := .ok ()

def ssmDelivery : Delivery where
  message :=
    { messageId := some "2"
      messageGroupId := none
      senderId := none
      md5OfBody := some "190a9283c8987568f11a4727c07d051b"
      body := some ssmBody
      receiptHandle := some "b" }
  outcome := .ok ()

def unreadableDelivery : Delivery where
  message :=
    { messageId := some "3"
      messageGroupId := some "desktops"
      senderId := none
      md5OfBody := some "ef399b2d446bb37b7c32ad2cc1b6045b"
      body := some "stop"
      receiptHandle := some "c" }
  outcome := .ok ()

/-- The first message is handled and not deleted. -/
theorem unreadable_message_spoils_batch :
    ¬ Unspoiled (pollAndProcessQueue exampleDecoders [scheduledDelivery, unreadableDelivery]) ∧
      ¬ Unspoiled (exampleQueue.pollAndProcessQueue [ssmDelivery, unreadableDelivery]) := by
  constructor
  · intro h
    have hdeleted := h.deletes_completed scheduledDelivery (by decide +kernel) rfl
    exact absurd hdeleted (by decide +kernel)
  · intro h
    have hdeleted := h.deletes_completed ssmDelivery (by decide +kernel) rfl
    exact absurd hdeleted (by decide +kernel)

end Idea.VirtualDesktop

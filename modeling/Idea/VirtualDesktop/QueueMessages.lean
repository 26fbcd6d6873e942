import Idea.Data.Text
import Idea.Model.Utils

/-! # Messages of the event queues

A message carries the text of an event, a checksum of the text and the group whose messages are
handled in order. The text is decoded to a JSON value and the value to an event; each step raises
on what it does not accept.
-/

namespace Idea.VirtualDesktop

/-- A decoded JSON text; the keys of an object are different from each other. -/
inductive JsonValue where
  | null
  | boolean (value : Bool)
  | number (text : String)
  | string (text : String)
  | array (values : List JsonValue)
  | object (entries : List (String × JsonValue))

structure QueueMessage where
  messageId : Option String
  messageGroupId : Option String
  senderId : Option String
  md5OfBody : Option String
  body : Option String
  receiptHandle : Option String
  deriving DecidableEq

def getValueAsString (value : Option String) : Option String := value.bind getAsString

def QueueMessage.group (message : QueueMessage) : String :=
  (getValueAsString message.messageGroupId).getD ""

structure DeleteEntry where
  id : Option String
  receiptHandle : Option String
  deriving DecidableEq

def QueueMessage.deleteEntry (message : QueueMessage) : DeleteEntry :=
  ⟨getValueAsString message.messageId, getValueAsString message.receiptHandle⟩

inductive VirtualDesktopEventType where
  | VALIDATE_SOFTWARE_STACK_CREATION_EVENT
  | VALIDATE_DCV_SESSION_DELETION_EVENT
  | VALIDATE_DCV_SESSION_CREATION_EVENT
  | IDEA_SESSION_RESUME_SESSION_COMMAND_PROGRESS_EVENT
  | IDEA_SESSION_CPU_UTILIZATION_COMMAND_PROGRESS_EVENT
  | ENABLE_USERDATA_WINDOWS_COMMAND_PROGRESS_EVENT
  | DISABLE_USERDATA_WINDOWS_COMMAND_PROGRESS_EVENT
  | IDEA_SESSION_SCHEDULED_RESUME_EVENT
  | IDEA_SESSION_SCHEDULED_STOP_EVENT
  | IDEA_SESSION_TERMINATE_EVENT
  | IDEA_SESSION_SOFTWARE_STACK_UPDATED_EVENT
  | IDEA_SESSION_PERMISSIONS_ENFORCE_EVENT
  | IDEA_SESSION_PERMISSIONS_UPDATE_EVENT
  | EC2_INSTANCE_STATE_CHANGED_EVENT
  | DB_ENTRY_CREATED_EVENT
  | DB_ENTRY_UPDATED_EVENT
  | DB_ENTRY_DELETED_EVENT
  | DCV_HOST_READY_EVENT
  | DCV_HOST_REBOOT_COMPLETE_EVENT
  | DCV_BROKER_USERDATA_EXECUTION_COMPLETE_EVENT
  | SCHEDULED_EVENT
  | USER_CREATED_EVENT
  | USER_DISABLED_EVENT
  deriving DecidableEq

namespace VirtualDesktopEventType

def value : VirtualDesktopEventType → String
  | VALIDATE_SOFTWARE_STACK_CREATION_EVENT => "VALIDATE_SOFTWARE_STACK_CREATION_EVENT"
  | VALIDATE_DCV_SESSION_DELETION_EVENT => "VALIDATE_DCV_SESSION_DELETION_EVENT"
  | VALIDATE_DCV_SESSION_CREATION_EVENT => "VALIDATE_DCV_SESSION_CREATION_EVENT"
  | IDEA_SESSION_RESUME_SESSION_COMMAND_PROGRESS_EVENT =>
    "IDEA_SESSION_RESUME_SESSION_COMMAND_PROGRESS_EVENT"
  | IDEA_SESSION_CPU_UTILIZATION_COMMAND_PROGRESS_EVENT =>
    "IDEA_SESSION_CPU_UTILIZATION_COMMAND_PROGRESS_EVENT"
  | ENABLE_USERDATA_WINDOWS_COMMAND_PROGRESS_EVENT =>
    "ENABLE_USERDATA_WINDOWS_COMMAND_PROGRESS_EVENT"
  | DISABLE_USERDATA_WINDOWS_COMMAND_PROGRESS_EVENT =>
    "DISABLE_USERDATA_WINDOWS_COMMAND_PROGRESS_EVENT"
  | IDEA_SESSION_SCHEDULED_RESUME_EVENT => "IDEA_SESSION_SCHEDULED_RESUME_EVENT"
  | IDEA_SESSION_SCHEDULED_STOP_EVENT => "IDEA_SESSION_SCHEDULED_STOP_EVENT"
  | IDEA_SESSION_TERMINATE_EVENT => "IDEA_SESSION_TERMINATE_EVENT"
  | IDEA_SESSION_SOFTWARE_STACK_UPDATED_EVENT => "IDEA_SESSION_SOFTWARE_STACK_UPDATED_EVENT"
  | IDEA_SESSION_PERMISSIONS_ENFORCE_EVENT => "IDEA_SESSION_PERMISSIONS_ENFORCE_EVENT"
  | IDEA_SESSION_PERMISSIONS_UPDATE_EVENT => "IDEA_SESSION_PERMISSIONS_UPDATE_EVENT"
  | EC2_INSTANCE_STATE_CHANGED_EVENT => "EC2_INSTANCE_STATE_CHANGED_EVENT"
  | DB_ENTRY_CREATED_EVENT => "DB_ENTRY_CREATED_EVENT"
  | DB_ENTRY_UPDATED_EVENT => "DB_ENTRY_UPDATED_EVENT"
  | DB_ENTRY_DELETED_EVENT => "DB_ENTRY_DELETED_EVENT"
  | DCV_HOST_READY_EVENT => "DCV_HOST_READY_EVENT"
  | DCV_HOST_REBOOT_COMPLETE_EVENT => "DCV_HOST_REBOOT_COMPLETE_EVENT"
  | DCV_BROKER_USERDATA_EXECUTION_COMPLETE_EVENT =>
    "DCV_BROKER_USERDATA_EXECUTION_COMPLETE_EVENT"
  | SCHEDULED_EVENT => "SCHEDULED_EVENT"
  | USER_CREATED_EVENT => "USER_CREATED_EVENT"
  | USER_DISABLED_EVENT => "USER_DISABLED_EVENT"

def all : List VirtualDesktopEventType :=
  [VALIDATE_SOFTWARE_STACK_CREATION_EVENT, VALIDATE_DCV_SESSION_DELETION_EVENT,
    VALIDATE_DCV_SESSION_CREATION_EVENT, IDEA_SESSION_RESUME_SESSION_COMMAND_PROGRESS_EVENT,
    IDEA_SESSION_CPU_UTILIZATION_COMMAND_PROGRESS_EVENT,
    ENABLE_USERDATA_WINDOWS_COMMAND_PROGRESS_EVENT,
    DISABLE_USERDATA_WINDOWS_COMMAND_PROGRESS_EVENT, IDEA_SESSION_SCHEDULED_RESUME_EVENT,
    IDEA_SESSION_SCHEDULED_STOP_EVENT, IDEA_SESSION_TERMINATE_EVENT,
    IDEA_SESSION_SOFTWARE_STACK_UPDATED_EVENT, IDEA_SESSION_PERMISSIONS_ENFORCE_EVENT,
    IDEA_SESSION_PERMISSIONS_UPDATE_EVENT, EC2_INSTANCE_STATE_CHANGED_EVENT,
    DB_ENTRY_CREATED_EVENT, DB_ENTRY_UPDATED_EVENT, DB_ENTRY_DELETED_EVENT, DCV_HOST_READY_EVENT,
    DCV_HOST_REBOOT_COMPLETE_EVENT, DCV_BROKER_USERDATA_EXECUTION_COMPLETE_EVENT,
    SCHEDULED_EVENT, USER_CREATED_EVENT, USER_DISABLED_EVENT]

theorem mem_all (eventType : VirtualDesktopEventType) : eventType ∈ all := by
  cases eventType <;> decide

def ofValue (text : String) : Option VirtualDesktopEventType := all.find? (·.value = text)

end VirtualDesktopEventType

structure VirtualDesktopEvent where
  eventGroupId : Option String
  eventType : Option VirtualDesktopEventType
  detail : Option (List (String × JsonValue))

def enumPrefix : List Char := "VirtualDesktopEventType.".toList

def fixEventType (text : String) : String :=
  if enumPrefix.isPrefixOf text.toList then String.ofList (Text.remove enumPrefix text.toList)
  else text

def optionalField {α : Type} (read : JsonValue → Option α) : Option JsonValue →
    Except Raised (Option α)
  | none => .ok none
  | some .null => .ok none
  | some value =>
    match read value with
    | some a => .ok (some a)
    | none => .error .validationError

def readText : JsonValue → Option String
  | .string text => some text
  | _ => none

def readEventType : JsonValue → Option VirtualDesktopEventType
  | .string text => VirtualDesktopEventType.ofValue (fixEventType text)
  | _ => none

def readEntries : JsonValue → Option (List (String × JsonValue))
  | .object entries => some entries
  | _ => none

def eventOfEntries (entries : List (String × JsonValue)) : Except Raised VirtualDesktopEvent := do
  let eventGroupId ← optionalField readText (List.lookup "event_group_id" entries)
  let eventType ← optionalField readEventType (List.lookup "event_type" entries)
  let detail ← optionalField readEntries (List.lookup "detail" entries)
  pure ⟨eventGroupId, eventType, detail⟩

def FieldFits {α : Type} (read : JsonValue → Option α) (field : Option JsonValue) : Prop :=
  ∀ value, field = some value → value = .null ∨ (read value).isSome

theorem optionalField_ok_iff {α : Type} {read : JsonValue → Option α} {field : Option JsonValue} :
    (∃ a, optionalField read field = .ok a) ↔ FieldFits read field := by
  rcases field with _ | value
  · exact ⟨fun _ value h => absurd h (Option.some_ne_none value).symm, fun _ => ⟨none, rfl⟩⟩
  by_cases hnull : value = .null
  · subst hnull
    exact ⟨fun _ _ h => .inl (Option.some.inj h).symm, fun _ => ⟨none, rfl⟩⟩
  have hread : optionalField read (some value) =
      match read value with
      | some a => .ok (some a)
      | none => .error .validationError := by
    cases value with
    | null => exact absurd rfl hnull
    | _ => rfl
  rw [hread]
  constructor
  · rintro ⟨a, ha⟩ _ ⟨⟩
    cases hv : read value with
    | none => rw [hv] at ha; nomatch ha
    | some b => exact .inr rfl
  · intro hfits
    obtain ⟨a, ha⟩ := Option.isSome_iff_exists.mp ((hfits value rfl).resolve_left hnull)
    exact ⟨some a, by rw [ha]⟩

structure EventEntries (entries : List (String × JsonValue)) : Prop where
  eventGroupId : FieldFits readText (List.lookup "event_group_id" entries)
  eventType : FieldFits readEventType (List.lookup "event_type" entries)
  detail : FieldFits readEntries (List.lookup "detail" entries)

theorem eventOfEntries_ok_iff {entries : List (String × JsonValue)} :
    (∃ event, eventOfEntries entries = .ok event) ↔ EventEntries entries := by
  simp only [eventOfEntries, Raised.bind_eq_ok]
  constructor
  · rintro ⟨_, group, hgroup, type, htype, detail, hdetail, -⟩
    exact ⟨optionalField_ok_iff.mp ⟨group, hgroup⟩, optionalField_ok_iff.mp ⟨type, htype⟩,
      optionalField_ok_iff.mp ⟨detail, hdetail⟩⟩
  · intro h
    obtain ⟨group, hgroup⟩ := optionalField_ok_iff.mpr h.eventGroupId
    obtain ⟨type, htype⟩ := optionalField_ok_iff.mpr h.eventType
    obtain ⟨detail, hdetail⟩ := optionalField_ok_iff.mpr h.detail
    exact ⟨_, group, hgroup, type, htype, detail, hdetail, rfl⟩

end Idea.VirtualDesktop

import Mathlib.Data.Bool.AllAny
import Mathlib.Data.List.Basic

/-! # First-in first-out queues that drop repeated messages

Each message is sent with an identifier. One that was sent less than an interval before is dropped,
and its sender is not told. Messages that each set a value leave the value of the last of them.
-/

/-- How long an identifier is remembered, and whether a message that is dropped is a new reason to
remember it. -/
structure Deduplication where
  interval : ℕ
  renews : Bool

structure FifoQueue (ι μ : Type*) where
  sent : List (ι × ℕ)
  messages : List μ

namespace FifoQueue

variable {ι μ α : Type*} [DecidableEq ι]

def repeats (rules : Deduplication) (queue : FifoQueue ι μ) (id : ι) (now : ℕ) : Bool :=
  queue.sent.any fun entry => entry.1 = id ∧ now < entry.2 + rules.interval

def send (rules : Deduplication) (queue : FifoQueue ι μ) (id : ι) (message : μ) (now : ℕ) :
    FifoQueue ι μ :=
  if queue.repeats rules id now then
    { queue with sent := if rules.renews then queue.sent ++ [(id, now)] else queue.sent }
  else ⟨queue.sent ++ [(id, now)], queue.messages ++ [message]⟩

def delete (queue : FifoQueue ι μ) : FifoQueue ι μ := { queue with messages := queue.messages.tail }

theorem messages_send (rules : Deduplication) (queue : FifoQueue ι μ) (id : ι) (message : μ)
    (now : ℕ) : (queue.send rules id message now).messages =
      if queue.repeats rules id now then queue.messages else queue.messages ++ [message] := by
  unfold send
  split <;> rfl

def settled (writes : μ → α) (messages : List μ) (value : α) : α :=
  messages.foldl (fun _ message => writes message) value

@[simp] theorem settled_nil (writes : μ → α) (value : α) : settled writes [] value = value := rfl

@[simp] theorem settled_cons (writes : μ → α) (message : μ) (messages : List μ) (value : α) :
    settled writes (message :: messages) value = settled writes messages (writes message) := rfl

@[simp] theorem settled_append_singleton (writes : μ → α) (message : μ) (messages : List μ)
    (value : α) : settled writes (messages ++ [message]) value = writes message := by
  simp [settled]

end FifoQueue

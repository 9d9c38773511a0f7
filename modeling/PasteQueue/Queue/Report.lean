import PasteQueue.Log.Record
import PasteQueue.Queue.State
import PasteQueue.Text.Duration

/-!
What the log says of the operations on history and queue.
-/

namespace PasteQueue.Queue

open Clipboard (Item)
open Log (Record)

def target : String := "clipqueue_core::queue::state"

def enabledRecord : Record := ⟨.info, target, "queue mode enabled", []⟩

def disabledRecord : Record := ⟨.info, target, "queue mode disabled", []⟩

def echoRecord (sequence : UInt32) : Record :=
  ⟨.debug, target, "recorded self-event sequence number", [("seq", .number sequence.toNat)]⟩

def clearRecord : Record := ⟨.info, target, "queue cleared", []⟩

def removeRecord (index length : Nat) : Record :=
  ⟨.info, target, "removed queue item", [("index", .number index), ("queue_len", .number length)]⟩

def toggleRecord (order : Order) : Record :=
  ⟨.info, target, "queue order toggled", [("order", .plain order.label)]⟩

def orderRecord (before after : Order) : Record :=
  if before = after then
    ⟨.debug, target, "order strategy unchanged", [("order", .plain after.label)]⟩
  else ⟨.info, target, "order strategy changed", [("order", .plain after.label)]⟩

def dequeueRecord (item : Item) (length : Nat) (order : Order) : Record :=
  ⟨.info, target, "dequeued clipboard item",
    [("content_type", .plain item.kind.label), ("preview", .plain item.preview),
      ("queue_len", .number length), ("order", .plain order.label)]⟩

namespace State

def acceptRecords (state : State) (item : Item) (time : Nat) : List Record :=
  let (outcome, after) := state.accept item time
  let described :=
    [("content_type", .plain item.kind.label), ("size", .number item.size),
      ("preview", .plain item.preview)]
  let remembered : Record :=
    ⟨.debug, target, "added to history",
      described ++ [("history_len", .number after.history.length)]⟩
  match outcome with
  | .ignoredEmpty => [⟨.debug, target, "ignoring empty clipboard content", []⟩]
  | .duplicate =>
    let elapsed := time - (state.history.getLast?.map Entry.time).getD time
    [⟨.debug, target, "dropping duplicate clipboard content",
      [("content_type", .plain item.kind.label), ("elapsed", .plain (Text.duration elapsed))]⟩]
  | .remembered => [remembered]
  | .queued =>
    [remembered,
      ⟨.info, target, "added to queue",
        described ++ [("queue_len", .number after.queue.length)]⟩]

end State

end PasteQueue.Queue

import PasteQueue.Clipboard.Item
import PasteQueue.Data
import PasteQueue.Queue.EchoRing
import PasteQueue.Queue.Order

/-!
Clipboard history and the paste queue. Every non-empty item that is not an echo of the newest one is
remembered; while queue mode is on it also waits to be pasted. Times are milliseconds.
-/

namespace PasteQueue.Queue

open Clipboard (Item ItemId)

inductive Error
  | indexOutOfRange (index length : Nat)
  | invalidOrder (text : String)
  | notFound (id : ItemId)
  | disabled
  | empty
  deriving DecidableEq, Repr

def Error.messageWith (idText : ItemId → String) : Error → String
  | indexOutOfRange index length =>
    "index " ++ Text.decimal index ++ " out of range for queue of length " ++ Text.decimal length
  | invalidOrder text => "unsupported order strategy: " ++ text ++ " (expected LIFO or FIFO)"
  | notFound id => "no history item with id " ++ idText id
  | disabled => "queue mode is disabled"
  | empty => "queue is empty"

def Error.message : Error → String := messageWith ItemId.text

structure Settings where
  historyCapacity : Nat := 50
  dedupWindow : Nat := 1000
  echoCapacity : Nat := EchoRing.defaultCapacity
  deriving DecidableEq, Repr

inductive Shortage
  /-- No store could be that large. -/
  | impossible
  /-- No memory is that large. -/
  | memory
  deriving DecidableEq, Repr

def Shortage.memorySize : Nat := 0x800000000

/-- A store has fewer than 2^63 bytes. -/
def Shortage.ofSize? (bytes : Nat) : Option Shortage :=
  if Data.signedBound ≤ bytes then some .impossible
  else if memorySize ≤ bytes then some .memory
  else none

/-- Room is taken beforehand for all that may be remembered: 120 bytes for an item, and then 8 for
an echo. -/
def Settings.shortage? (settings : Settings) : Option Shortage :=
  (Shortage.ofSize? (120 * settings.historyCapacity)).or
    (Shortage.ofSize? (8 * max settings.echoCapacity 1))

structure Entry where
  item : Item
  time : Nat
  deriving DecidableEq, Repr

/-- Queue mode. While it is on, the clipboard from before is kept for the end. -/
inductive Mode
  | off
  | on (snapshot : Option Item) (queue : List Item)
  deriving DecidableEq, Repr

/-- History runs from the oldest entry to the newest, the queue from its head to its tail. -/
structure State where
  settings : Settings
  order : Order
  mode : Mode
  history : List Entry
  echoes : EchoRing
  deriving DecidableEq, Repr

inductive Outcome
  | ignoredEmpty | duplicate | remembered | queued
  deriving DecidableEq, Repr

def Outcome.label : Outcome → String
  | ignoredEmpty => "IgnoredEmpty"
  | duplicate => "Duplicate"
  | remembered => "History"
  | queued => "Queued"

namespace State

def init (settings : Settings) (order : Order) : State :=
  ⟨settings, order, .off, [], EchoRing.ofCapacity settings.echoCapacity⟩

def enabled (state : State) : Bool :=
  match state.mode with
  | .off => false
  | .on _ _ => true

def queue (state : State) : List Item :=
  match state.mode with
  | .off => []
  | .on _ queue => queue

def snapshot (state : State) : Option Item :=
  match state.mode with
  | .off => none
  | .on snapshot _ => snapshot

/-- Changes nothing while queue mode is off. -/
def withQueue (state : State) (queue : List Item) : State :=
  match state.mode with
  | .off => state
  | .on snapshot _ => { state with mode := .on snapshot queue }

def items (state : State) : List Item := state.history.map Entry.item

def status (state : State) : Status := ⟨state.enabled, state.queue.length, state.order⟩

/-- Queue mode that is already on stays as it is. -/
def enable (state : State) (snapshot : Option Item) : State :=
  if state.enabled then state else { state with mode := .on snapshot [] }

def disable (state : State) : State := { state with mode := .off }

def recordEcho (state : State) (sequence : UInt32) : State :=
  { state with echoes := state.echoes.record sequence }

def isEcho (state : State) (sequence : UInt32) : Bool := state.echoes.contains sequence

/-- How many items history has room for: at least one. -/
def room (state : State) : Nat := max 1 state.settings.historyCapacity

/-- The newest entry, if the item has its content and came less than the window after it. A time
before the entry's own counts as no time at all. -/
def echoed? (state : State) (item : Item) (time : Nat) : Option Entry :=
  state.history.getLast?.filter fun newest =>
    time - newest.time < state.settings.dedupWindow && item.same newest.item

/-- The oldest entries make room for a new one. -/
def remember (state : State) (item : Item) (time : Nat) : State :=
  { state with
    history := state.history.drop (state.history.length + 1 - state.room) ++ [⟨item, time⟩] }

def enqueue (state : State) (item : Item) : State := state.withQueue (state.queue ++ [item])

def accept (state : State) (item : Item) (time : Nat) : Outcome × State :=
  if item.isEmpty then (.ignoredEmpty, state)
  else if (state.echoed? item time).isSome then (.duplicate, state)
  else
    let remembered := state.remember item time
    if state.enabled then (.queued, remembered.enqueue item) else (.remembered, remembered)

def next? (order : Order) (queue : List Item) : Option (Item × List Item) :=
  match order with
  | .fifo => queue.head?.map fun item => (item, queue.tail)
  | .lifo => queue.getLast?.map fun item => (item, queue.dropLast)

def dequeue (state : State) : Except Error (Item × State) :=
  if state.enabled then
    match next? state.order state.queue with
    | some (item, rest) => .ok (item, state.withQueue rest)
    | none => .error .empty
  else .error .disabled

def remove (state : State) (index : Nat) : Except Error (Item × State) :=
  match state.queue[index]? with
  | some item => .ok (item, state.withQueue (state.queue.eraseIdx index))
  | none => .error (.indexOutOfRange index state.queue.length)

def clear (state : State) : State := state.withQueue []

def withOrder (state : State) (order : Order) : State := { state with order }

def toggleOrder (state : State) : State := state.withOrder state.order.toggled

def parseOrder (text : String) : Except Error Order :=
  match Order.ofLabel? text with
  | some order => .ok order
  | none => .error (.invalidOrder text)

/-- The oldest remembered item with an identity. -/
def find (state : State) (id : ItemId) : Except Error Item :=
  match state.items.find? (·.id == id) with
  | some item => .ok item
  | none => .error (.notFound id)

end State

end PasteQueue.Queue

import PasteQueue.Text.Digits

/-!
The order in which queued items are pasted, and the status line of the queue.
-/

namespace PasteQueue.Queue

inductive Order
  | lifo | fifo
  deriving DecidableEq, Repr

namespace Order

instance : Inhabited Order := ⟨lifo⟩

def label : Order → String
  | lifo => "LIFO"
  | fifo => "FIFO"

def ofLabel? : String → Option Order
  | "LIFO" => some lifo
  | "FIFO" => some fifo
  | _ => none

def toggled : Order → Order
  | lifo => fifo
  | fifo => lifo

end Order

structure Status where
  enabled : Bool
  length : Nat
  order : Order
  deriving DecidableEq, Repr

def Status.text (status : Status) : String :=
  if status.enabled then
    "ClipQueue: ON [" ++ status.order.label ++ "] (" ++ Text.decimal status.length ++ ")"
  else "ClipQueue: OFF"

end PasteQueue.Queue

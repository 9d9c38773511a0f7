import Mathlib.Data.List.Induction
import PasteQueue.Proofs.Queue.Frame

/-!
Requests to history and queue, one after the other, each with the reply to it. Every operation that
can change the state is a request; a run of them is what a caller sees of the state.
-/

namespace PasteQueue.Queue

open Clipboard (Item)

inductive Request
  | enable (snapshot : Option Item)
  | disable
  | recordEcho (sequence : UInt32)
  | accept (item : Item) (time : Nat)
  | dequeue
  | remove (index : Nat)
  | clear
  | toggleOrder
  | setOrder (order : Order)
  deriving DecidableEq, Repr

inductive Reply
  | done
  | changed (whether : Bool)
  | restored (snapshot : Option Item)
  | judged (outcome : Outcome)
  | taken (item : Item)
  | refused (fault : Error)
  | ordered (order : Order)
  deriving DecidableEq, Repr

structure Event where
  request : Request
  reply : Reply
  deriving DecidableEq, Repr

namespace State

/-- A refused request leaves the state as it was. -/
def take (state : State) : Except Error (Item × State) → Reply × State
  | .ok (item, after) => (.taken item, after)
  | .error fault => (.refused fault, state)

def perform (state : State) : Request → Reply × State
  | .enable snapshot => (.changed !state.enabled, state.enable snapshot)
  | .disable => (.restored state.snapshot, state.disable)
  | .recordEcho sequence => (.done, state.recordEcho sequence)
  | .accept item time => (.judged (state.accept item time).1, (state.accept item time).2)
  | .dequeue => state.take state.dequeue
  | .remove index => state.take (state.remove index)
  | .clear => (.done, state.clear)
  | .toggleOrder => (.ordered state.toggleOrder.order, state.toggleOrder)
  | .setOrder order => (.changed (state.order != order), state.withOrder order)

def reply (state : State) (request : Request) : Reply := (state.perform request).1

def next (state : State) (request : Request) : State := (state.perform request).2

def after (state : State) (requests : List Request) : State := requests.foldl next state

/-- What happened in a run, the oldest event first. -/
def events (state : State) : List Request → List Event
  | [] => []
  | request :: rest => ⟨request, state.reply request⟩ :: (state.next request).events rest

theorem after_concat (state : State) (requests : List Request) (request : Request) :
    state.after (requests ++ [request]) = (state.after requests).next request :=
  List.foldl_append

theorem events_concat (state : State) (requests : List Request) (request : Request) :
    state.events (requests ++ [request]) =
      state.events requests ++ [⟨request, (state.after requests).reply request⟩] := by
  induction requests generalizing state with
  | nil => rfl
  | cons first rest continues => exact congrArg (_ :: ·) (continues (state.next first))

/-- What every request keeps, in view of what has happened, holds at the end of every run. -/
theorem run_induction (state : State) (holds : List Event → State → Prop) (start : holds [] state)
    (step : ∀ events before request, holds events before →
      holds (events ++ [⟨request, before.reply request⟩]) (before.next request))
    (requests : List Request) : holds (state.events requests) (state.after requests) := by
  induction requests using List.reverseRecOn with
  | nil => exact start
  | append_singleton requests request before =>
    rw [events_concat, after_concat]
    exact step _ _ request before

end State

/-- Items of the same content, offered too far apart to be echoes of each other. -/
def sample (serial : Nat) : Item := ⟨.minted serial, .text "note"⟩

def offers (count : Nat) : List Request :=
  (List.range count).map fun serial => .accept (sample serial) (2000 * serial)

end PasteQueue.Queue

import PasteQueue.Capture.Session
import PasteQueue.Registry

/-!
What happens to an input event. A modifier key by itself passes. An active capture takes the event.
Otherwise the registry is asked for the signature and then, for a key press, for its reduced form;
a match starts the action. Captured and matched events are consumed, others go on to the rest of
the system.
-/

namespace PasteQueue

inductive Verdict (α : Type)
  | passed
  | captured
  | matched (action : α)
  deriving DecidableEq, Repr

def Verdict.consumed {α : Type} : Verdict α → Bool
  | passed => false
  | captured | matched _ => true

namespace Dispatch

variable {α : Type}

def target : String := "clipqueue_host::application::dispatch"

/-- The action for a signature; its full form goes before its reduced one. -/
def action? (registry : Registry α) (signature : Signature) : Option α :=
  (registry.action? signature).or (signature.reduced?.bind registry.action?)

def handle (registry : Registry α) (session : Capture.Session) (signature : Signature) :
    Verdict α × Capture.Session :=
  if signature.isBareModifier then (.passed, session)
  else
    match session.offer signature with
    | (true, after) => (.captured, after)
    | (false, after) =>
      match action? registry signature with
      | some action => (.matched action, after)
      | none => (.passed, after)

def records (registry : Registry α) (session : Capture.Session) (signature : Signature) :
    List Log.Record :=
  if signature.isBareModifier then
    [⟨.trace, target, "bare modifier passed through", [("key", .plain signature.hint)]⟩]
  else
    session.offerRecords signature ++
      match (handle registry session signature).1 with
      | .matched _ => [⟨.debug, target, "hotkey matched", [("hotkey", .plain signature.hint)]⟩]
      | _ => []

end Dispatch

end PasteQueue

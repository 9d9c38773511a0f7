import PasteQueue.Log.Record

/-!
The clipboard watcher. Change notifications go into a channel that holds one; a worker takes it,
lets the debounce time pass, discards what has come meanwhile and then handles one update. It ends
once nobody can notify it any more and nothing is pending.
-/

namespace PasteQueue

namespace Watcher

def target : String := "clipqueue_host::application::clipboard_watch"

inductive Phase
  | idle | debouncing | updating | ended
  deriving DecidableEq, Repr

end Watcher

/-- Notifiers have gone once nobody is left who could notify. -/
structure Watcher where
  debounce : Nat := 30
  pending : Bool := false
  notifiersGone : Bool := false
  phase : Watcher.Phase := .idle
  deriving DecidableEq, Repr

namespace Watcher

/-- A pending notification absorbs this one; a worker that has ended takes none. -/
def notify (watcher : Watcher) : Watcher :=
  if watcher.phase = .ended then watcher else { watcher with pending := true }

def notifyRecord (watcher : Watcher) : Log.Record :=
  if watcher.phase = .ended then
    ⟨.warn, target, "clipboard watcher stopped; change dropped", []⟩
  else if watcher.pending then ⟨.trace, target, "clipboard change coalesced", []⟩
  else ⟨.trace, target, "clipboard change queued", []⟩

/-- The idle worker takes what is pending, or ends if nothing can come any more. -/
def receive (watcher : Watcher) : Watcher :=
  if watcher.pending then { watcher with pending := false, phase := .debouncing }
  else if watcher.notifiersGone then { watcher with phase := .ended }
  else { watcher with phase := .idle }

/-- The debounce time is over: what has piled up is discarded, and the update begins. -/
def drain (watcher : Watcher) : Watcher := { watcher with pending := false, phase := .updating }

def dropNotifiers (watcher : Watcher) : Watcher := { watcher with notifiersGone := true }

def stop (watcher : Watcher) : Watcher := { watcher with phase := .ended }

def exitRecord : Log.Record := ⟨.debug, target, "clipboard watcher exiting", []⟩

end Watcher

end PasteQueue

import PasteQueue.Log.Record
import PasteQueue.Signature.Hint

/-!
The registry of hotkeys. Registrations are kept in buckets by the hash of their signature; a look-up
goes through one bucket, in the order of registration, for an equal signature, so a signature that
only shares the hash is never taken for another.
-/

namespace PasteQueue

structure Registration (α : Type) where
  signature : Signature
  id : String
  action : α
  deriving Repr

/-- The hash that finds the bucket belongs to the registry. -/
structure Registry (α : Type) where
  hash : Signature → UInt64 := Signature.hash
  buckets : List (UInt64 × List (Registration α)) := []

namespace Registry

variable {α : Type}

def place (key : UInt64) (entry : Registration α) :
    List (UInt64 × List (Registration α)) → List (UInt64 × List (Registration α))
  | [] => [(key, [entry])]
  | bucket :: rest =>
    if bucket.1 = key then (bucket.1, bucket.2 ++ [entry]) :: rest
    else bucket :: place key entry rest

/-- Two registrations may share an id, a signature or both. -/
def insert (registry : Registry α) (entry : Registration α) : Registry α :=
  { registry with buckets := place (registry.hash entry.signature) entry registry.buckets }

def contains (registry : Registry α) (id : String) : Bool :=
  registry.buckets.any fun bucket => bucket.2.any (·.id == id)

/-- Takes the first registration with the id out of the first bucket that has one; a bucket without
registrations goes. -/
def remove (id : String) :
    List (UInt64 × List (Registration α)) → List (UInt64 × List (Registration α))
  | [] => []
  | bucket :: rest =>
    if bucket.2.any (·.id == id) then
      match bucket.2.eraseP (·.id == id) with
      | [] => rest
      | entries => (bucket.1, entries) :: rest
    else bucket :: remove id rest

def erase (registry : Registry α) (id : String) : Registry α :=
  { registry with buckets := remove id registry.buckets }

def clear (registry : Registry α) : Registry α := { registry with buckets := [] }

/-- The first registration of an equal signature. -/
def find? (registry : Registry α) (signature : Signature) : Option (Registration α) :=
  (registry.buckets.lookup (registry.hash signature)).bind
    (·.find? fun entry => entry.signature == signature)

def action? (registry : Registry α) (signature : Signature) : Option α :=
  (registry.find? signature).map Registration.action

def toList (registry : Registry α) : List (Registration α) := registry.buckets.flatMap Prod.snd

def size (registry : Registry α) : Nat := registry.toList.length

def bucketCount (registry : Registry α) : Nat := registry.buckets.length

def isEmpty (registry : Registry α) : Bool := registry.size == 0

def target : String := "clipqueue_core::matcher"

def insertRecord (registry : Registry α) (entry : Registration α) : Log.Record :=
  ⟨.debug, target, "registering signature",
    [("id", .plain entry.id), ("hotkey", .plain entry.signature.hint),
      ("hash", .number (registry.hash entry.signature).toNat)]⟩

def eraseRecord (registry : Registry α) (id : String) : Log.Record :=
  if registry.contains id then
    ⟨.debug, target, "unregistered signature", [("id", .quoted id)]⟩
  else ⟨.trace, target, "unregister: id not registered", [("id", .quoted id)]⟩

def clearRecord : Log.Record := ⟨.debug, target, "cleared signature registry", []⟩

end Registry

end PasteQueue

import PasteQueue.Clipboard.Item
import PasteQueue.Text.Digits

/-!
Short labels for items: `#1`, `#2` and so on, in the order in which the items first appear.
-/

namespace PasteQueue.Session

open Clipboard (Item ItemId)

/-- The identities that have a label, the latest first. -/
structure Labels where
  known : List ItemId := []
  deriving Repr

namespace Labels

def name (number : Nat) : String := "#" ++ Text.decimal number

def add (labels : Labels) (id : ItemId) : Labels :=
  if labels.known.contains id then labels else ⟨id :: labels.known⟩

def extend (labels : Labels) (items : List Item) : List Item × Labels :=
  items.foldl (fun (fresh, labels) item =>
    if labels.known.contains item.id then (fresh, labels)
    else (fresh ++ [item], labels.add item.id)) ([], labels)

def text? (labels : Labels) (id : ItemId) : Option String :=
  (labels.known.reverse.findIdx? (· == id)).map fun index => name (index + 1)

def text (labels : Labels) (id : ItemId) : String := (labels.text? id).getD id.text

/-- The identity that a text labels; any other text is taken for an identity itself. -/
def resolve (labels : Labels) (text : String) : ItemId :=
  (labels.known.find? fun id => labels.text? id == some text).getD (.named text)

end Labels

end PasteQueue.Session

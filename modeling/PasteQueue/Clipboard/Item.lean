import PasteQueue.Clipboard.Content

/-!
Clipboard items: contents with an identity, by which a remembered item is found again.
-/

namespace PasteQueue.Clipboard

/-- An identity is given from outside or minted for a new item. -/
inductive ItemId
  | named (text : String)
  | minted (serial : Nat)
  deriving DecidableEq, Repr, Inhabited

def ItemId.text : ItemId → String
  | named text => text
  | minted serial => "item-" ++ Text.decimal serial

structure Item where
  id : ItemId
  content : Content
  deriving DecidableEq, Repr, Inhabited

namespace Item

def kind (item : Item) : Kind := item.content.kind

def size (item : Item) : Nat := item.content.size

def preview (item : Item) : String := item.content.preview

def isEmpty (item : Item) : Bool := item.kind == .empty

def same (first second : Item) : Bool := first.content.same second.content

end Item

end PasteQueue.Clipboard

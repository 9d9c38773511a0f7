import PasteQueue.Clipboard.Content
import PasteQueue.Data
import PasteQueue.Key.Modifiers
import PasteQueue.Queue.Order
import PasteQueue.Signature.Basic

/-!
How values are written as structured data, and read back. A choice is its name, or a record of its
name and contents; a structure is a record, or on reading the list of its fields in order.
-/

namespace PasteQueue

namespace Queue

def Order.toData (order : Order) : Data := .text order.label

def Order.ofData? (data : Data) : Option Order := data.choice?.bind Order.ofLabel?

def Status.toData (status : Status) : Data :=
  .record [("enabled", .bool status.enabled), ("queue_len", .integer status.length),
    ("order", status.order.toData)]

/-- Fields that a status does not have are passed over. -/
def Status.ofData? : Data → Option Status
  | .list [enabled, length, order] => do
    return ⟨← enabled.bool?, ← length.nat? Data.wordBound, ← Order.ofData? order⟩
  | .record fields => do
    let enabled ← fields.lookup "enabled"
    let length ← fields.lookup "queue_len"
    let order ← fields.lookup "order"
    return ⟨← enabled.bool?, ← length.nat? Data.wordBound, ← Order.ofData? order⟩
  | _ => none

end Queue

namespace Clipboard

def Kind.all : List Kind := [.empty, .text, .files, .image]

def Kind.toData (kind : Kind) : Data := .text kind.label

def Kind.ofData? (data : Data) : Option Kind :=
  data.choice?.bind fun name => Kind.all.find? (·.label == name)

def Content.toData : Content → Data
  | .empty => .text "Empty"
  | .text body => .record [("Text", .text body)]
  | .files paths => .record [("Files", .list (paths.map Data.text))]
  | .image png => .record [("Image", .list (png.map fun byte => .integer byte.toNat))]

def Content.ofData? : Data → Option Content
  | .record [("Text", body)] => body.text?.map .text
  | .record [("Files", paths)] => do
    let paths ← paths.list?
    return .files (← paths.mapM Data.text?)
  | .record [("Image", png)] => do
    let png ← png.list?
    return .image ((← png.mapM (Data.nat? 256)).map UInt8.ofNat)
  | data => if data.choice? = some "Empty" then some .empty else none

end Clipboard

namespace Source

def all : List Source := [keyboard, mouseButton, mouseWheel, hid, unknown]

def dataName : Source → String
  | keyboard => "Keyboard"
  | mouseButton => "MouseButton"
  | mouseWheel => "MouseWheel"
  | hid => "Hid"
  | unknown => "Unknown"

def toData (source : Source) : Data := .text source.dataName

def ofData? (data : Data) : Option Source :=
  data.choice?.bind fun name => all.find? (·.dataName == name)

end Source

namespace Key.Modifiers

def toData (modifiers : Modifiers) : Data := .integer modifiers.bits.toNat

def ofData? (data : Data) : Option Modifiers := (data.nat? 256).map fun bits => ⟨UInt8.ofNat bits⟩

end Key.Modifiers

end PasteQueue

/-!
Key codes and their names. A code has at most one canonical name; a name is read without regard to
ASCII case, and some keys have further names that are only read, never written.
-/

namespace PasteQueue.Key

abbrev Code := UInt16

def names : List (Code × String) := [
  (0x08, "Backspace"), (0x09, "Tab"), (0x0C, "Clear"), (0x0D, "Enter"), (0x10, "Shift"),
  (0x11, "Ctrl"), (0x12, "Alt"), (0x13, "Pause"), (0x14, "CapsLock"), (0x1B, "Esc"),
  (0x20, "Space"), (0x21, "PageUp"), (0x22, "PageDown"), (0x23, "End"), (0x24, "Home"),
  (0x25, "Left"), (0x26, "Up"), (0x27, "Right"), (0x28, "Down"), (0x2C, "PrintScreen"),
  (0x2D, "Insert"), (0x2E, "Delete"), (0x30, "0"), (0x31, "1"), (0x32, "2"), (0x33, "3"),
  (0x34, "4"), (0x35, "5"), (0x36, "6"), (0x37, "7"), (0x38, "8"), (0x39, "9"), (0x41, "A"),
  (0x42, "B"), (0x43, "C"), (0x44, "D"), (0x45, "E"), (0x46, "F"), (0x47, "G"), (0x48, "H"),
  (0x49, "I"), (0x4A, "J"), (0x4B, "K"), (0x4C, "L"), (0x4D, "M"), (0x4E, "N"), (0x4F, "O"),
  (0x50, "P"), (0x51, "Q"), (0x52, "R"), (0x53, "S"), (0x54, "T"), (0x55, "U"), (0x56, "V"),
  (0x57, "W"), (0x58, "X"), (0x59, "Y"), (0x5A, "Z"), (0x5B, "LWin"), (0x5C, "RWin"),
  (0x5D, "Apps"), (0x5F, "Sleep"), (0x60, "Num0"), (0x61, "Num1"), (0x62, "Num2"), (0x63, "Num3"),
  (0x64, "Num4"), (0x65, "Num5"), (0x66, "Num6"), (0x67, "Num7"), (0x68, "Num8"), (0x69, "Num9"),
  (0x6A, "NumMultiply"), (0x6B, "NumAdd"), (0x6C, "NumSeparator"), (0x6D, "NumSubtract"),
  (0x6E, "NumDecimal"), (0x6F, "NumDivide"), (0x70, "F1"), (0x71, "F2"), (0x72, "F3"),
  (0x73, "F4"), (0x74, "F5"), (0x75, "F6"), (0x76, "F7"), (0x77, "F8"), (0x78, "F9"),
  (0x79, "F10"), (0x7A, "F11"), (0x7B, "F12"), (0x7C, "F13"), (0x7D, "F14"), (0x7E, "F15"),
  (0x7F, "F16"), (0x80, "F17"), (0x81, "F18"), (0x82, "F19"), (0x83, "F20"), (0x84, "F21"),
  (0x85, "F22"), (0x86, "F23"), (0x87, "F24"), (0x90, "NumLock"), (0x91, "ScrollLock"),
  (0xA0, "LShift"), (0xA1, "RShift"), (0xA2, "LCtrl"), (0xA3, "RCtrl"), (0xA4, "LAlt"),
  (0xA5, "RAlt"), (0xA6, "BrowserBack"), (0xA7, "BrowserForward"), (0xA8, "BrowserRefresh"),
  (0xA9, "BrowserStop"), (0xAA, "BrowserSearch"), (0xAB, "BrowserFavorites"),
  (0xAC, "BrowserHome"), (0xAD, "VolumeMute"), (0xAE, "VolumeDown"), (0xAF, "VolumeUp"),
  (0xB0, "MediaNextTrack"), (0xB1, "MediaPrevTrack"), (0xB2, "MediaStop"),
  (0xB3, "MediaPlayPause"), (0xB4, "LaunchMail"), (0xB5, "LaunchMediaSelect"),
  (0xB6, "LaunchApp1"), (0xB7, "LaunchApp2"), (0xBA, "Semicolon"), (0xBB, "Equals"),
  (0xBC, "Comma"), (0xBD, "Minus"), (0xBE, "Period"), (0xBF, "Slash"), (0xC0, "Grave"),
  (0xDB, "LeftBracket"), (0xDC, "Backslash"), (0xDD, "RightBracket"), (0xDE, "Quote"),
  (0xE2, "IntlBackslash")]

/-- Names that are read but never written. -/
def aliases : List (Code × String) := [
  (0x0D, "Return"), (0x1B, "Escape"), (0x11, "Control"), (0x12, "Menu"), (0x2E, "Del"),
  (0x2D, "Ins"), (0x21, "PgUp"), (0x22, "PgDn"), (0x2C, "PrtSc"), (0xC0, "Tilde"),
  (0xC0, "Backquote"), (0xAD, "AudioVolumeMute"), (0xAE, "AudioVolumeDown"),
  (0xAF, "AudioVolumeUp")]

def name? (code : Code) : Option String := names.lookup code

def fold (text : List Char) : List Char := text.map Char.toLower

def findName? (table : List (Code × String)) (text : List Char) : Option Code :=
  (table.find? fun entry => fold entry.2.toList == fold text).map Prod.fst

/-- The code of a name; a canonical name wins over an alias. -/
def ofName? (text : List Char) : Option Code :=
  (findName? names text).or (findName? aliases text)

/-- The keys that only modify others: shift, control, alt and the system keys, by side or not. -/
def isModifier (code : Code) : Bool :=
  (0x10 ≤ code && code ≤ 0x12) || code == 0x5B || code == 0x5C || (0xA0 ≤ code && code ≤ 0xA5)

theorem ofName?_names : ∀ entry ∈ names, ofName? entry.2.toList = some entry.1 := by
  decide +kernel

/-- An alias is read as the key it stands for, which has a canonical name. -/
theorem ofName?_aliases :
    ∀ entry ∈ aliases, ofName? entry.2.toList = some entry.1 ∧ (name? entry.1).isSome := by
  decide +kernel

end PasteQueue.Key

import PasteQueue.Proofs.Signature.Stored

/-!
What is read back from the raw bytes of a key press, and of a key alone.
-/

namespace PasteQueue

theorem Layout.wordAt?_word (n : UInt16) (rest : List UInt8) : wordAt? (word n ++ rest) 0 = some n :=
  congrArg some (ofBytes_word n)

namespace Signature

variable (code scan : UInt16) (flags : UInt32) (message : UInt16) (held : Key.Modifiers)

theorem key?_keyOnly : (keyOnly code held).key? = some code := Layout.wordAt?_word code []

theorem key?_keyboard : (keyboard code scan flags message held).key? = some code :=
  Layout.wordAt?_word code (Layout.word scan ++ Layout.doubleWord flags ++ Layout.word message)

theorem message?_keyboard : (keyboard code scan flags message held).message? = some message :=
  Layout.wordAt?_word message []

theorem keyboard_ne_keyOnly (other : UInt16) (others : Key.Modifiers) :
    keyboard code scan flags message held ≠ keyOnly other others := by
  intro same
  have length : 10 = 2 := congrArg (·.raw.length) same
  cases length

end Signature

end PasteQueue

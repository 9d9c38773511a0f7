import PasteQueue.Config.Interchange

/-!
Configuration files: where they are, how they are read and how they are written.
-/

namespace PasteQueue.Config

/-! ### Paths -/

/-- A path under another. Below the empty path it stands alone, and an absolute one replaces the
other. -/
def joinPath (base part : String) : String :=
  if base.isEmpty || part.toList.head? == some '/' then part
  else if base.toList.getLast? == some '/' then base ++ part
  else base ++ "/" ++ part

/-- The directory of the configuration: below the user's configuration directory or, without one, in
the home directory. A variable that is set but empty counts. -/
def directory? (configHome home : Option String) : Except Error String :=
  match configHome.or (home.map (joinPath · ".config")) with
  | some base => .ok (joinPath base "clipqueue")
  | none => .error .noDirectory

def path? (configHome home : Option String) : Except Error String :=
  (directory? configHome home).map (joinPath · "config.toml")

/-! ### Reading and writing -/

inductive Found
  | nothing
  | file (bytes : ByteArray)
  | unreadable

/-- Without a file everything has its default. A file has to hold UTF-8. -/
def load : Found → Except Error Config
  | .nothing => .ok {}
  | .unreadable => .error .io
  | .file bytes =>
    match String.fromUTF8? bytes with
    | none => .error .io
    | some text =>
      match ofToml? text with
      | some config => .ok config
      | none => .error .malformed

inductive Obstacle
  | none
  /-- The directories above cannot be made. -/
  | above
  /-- The path itself cannot be written. -/
  | here
  deriving DecidableEq, Repr

/-- The text that is written. The directories above come first, then the text, then the file. -/
def save (config : Config) (obstacle : Obstacle) : Except Error String :=
  match obstacle, config.toToml? with
  | .above, _ => .error .io
  | _, none => .error .unwritable
  | .here, some _ => .error .io
  | .none, some text => .ok text

end PasteQueue.Config

import PasteQueue.Text.Digits
import PasteQueue.Text.Visible

/-!
Quoted texts: double quotes around the text, and a backslash before quotes, backslashes and what
cannot be shown.
-/

namespace PasteQueue.Text

def escape (c : Char) : String :=
  match c with
  | '\x00' => "\\0"
  | '\t' => "\\t"
  | '\n' => "\\n"
  | '\r' => "\\r"
  | '"' => "\\\""
  | '\\' => "\\\\"
  | c => if isVisible c then c.toString else "\\u\x7b" ++ hexLower c.toNat ++ "\x7d"

def quoted (text : String) : String :=
  "\"" ++ String.join (text.toList.map escape) ++ "\""

end PasteQueue.Text

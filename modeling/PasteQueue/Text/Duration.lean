import PasteQueue.Text.Digits

/-!
How a span of whole milliseconds is written: `0ns`, milliseconds below one second, otherwise
seconds with as many of three decimals as are needed.
-/

namespace PasteQueue.Text

/-- The decimals of a fraction of a thousand, without the zeros at the end. -/
def decimals (thousandths : Nat) : List Char :=
  (((padLeft 3 (decimal thousandths)).toList.reverse).dropWhile (· == '0')).reverse

def duration (millis : Nat) : String :=
  if millis = 0 then "0ns"
  else if millis < 1000 then decimal millis ++ "ms"
  else
    let rest := millis % 1000
    if rest = 0 then decimal (millis / 1000) ++ "s"
    else decimal (millis / 1000) ++ "." ++ String.ofList (decimals rest) ++ "s"

end PasteQueue.Text

/-!
Rests on the clock, in milliseconds. A deadline may lie at any time, but nobody rests for longer
than the longest rest.
-/

namespace PasteQueue.Clock

def longestRest : Nat := 30 * 365 * 86400000

def rest (millis : Nat) : Nat := min millis longestRest

end PasteQueue.Clock

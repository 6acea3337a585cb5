/-!
Sets of code points given by closed ranges.
-/

namespace DaemonLaunch.Text

/-- Whether a code point lies in one of the ranges. -/
def inRanges (ranges : List (Nat × Nat)) (code : Nat) : Bool :=
  ranges.any fun range => range.1 ≤ code && code ≤ range.2

end DaemonLaunch.Text

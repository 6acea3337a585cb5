/-!
How deep the parts of a pattern nest. Single characters and places have depth zero; a group, a
repetition, a pair of brackets and an operator inside brackets are each one deeper than what they
hold.
-/

namespace DaemonLaunch.LogFilter.Pattern

/-- How deep a pattern may nest. -/
def mostNesting : Nat := 250

/-- The depth of parts that stand together. One part alone is just that part; several are a level of
their own. -/
def together : List Nat → Nat
  | [] => 0
  | [depth] => depth
  | depths => depths.foldr max 0 + 1

end DaemonLaunch.LogFilter.Pattern

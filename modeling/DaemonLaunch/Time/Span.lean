import DaemonLaunch.Text.Numeral

/-!
Spans of time in whole nanoseconds, and their text: the largest of the units s, ms, µs and ns that
is not greater than the span, with as many decimals as it needs.
-/

namespace DaemonLaunch

structure Span where
  nanoseconds : Nat
  deriving DecidableEq, Repr, Inhabited

namespace Span

def ofMilliseconds (n : Nat) : Span := ⟨n * 1000000⟩

def ofSeconds (n : Nat) : Span := ⟨n * 1000000000⟩

def seconds (s : Span) : Nat := s.nanoseconds / 1000000000

def milliseconds (s : Span) : Nat := s.nanoseconds / 1000000

private def inUnit (zeros size count : Nat) (unit : String) : String :=
  let fraction := Text.padLeft zeros '0' (toString (count % size))
  let shown := (fraction.toList.reverse.dropWhile (· == '0')).reverse
  toString (count / size) ++ (if shown.isEmpty then "" else "." ++ String.ofList shown) ++ unit

def text (s : Span) : String :=
  let n := s.nanoseconds
  if 1000000000 ≤ n then inUnit 9 1000000000 n "s"
  else if 1000000 ≤ n then inUnit 6 1000000 n "ms"
  else if 1000 ≤ n then inUnit 3 1000 n "µs"
  else inUnit 0 1 n "ns"

end Span

end DaemonLaunch

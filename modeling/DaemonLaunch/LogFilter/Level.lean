import DaemonLaunch.Bounds
import DaemonLaunch.Text.Numeral

/-!
Levels of log events and the thresholds that filters set on them.
-/

namespace DaemonLaunch

/-- How much an event matters, from most to least. -/
inductive Level
  | error
  | warn
  | info
  | debug
  | trace
  deriving DecidableEq, Repr

namespace Level

/-- The place of the level, counted from the one that matters most. -/
def rank : Level → Nat
  | error => 1
  | warn => 2
  | info => 3
  | debug => 4
  | trace => 5

def name : Level → String
  | error => "ERROR"
  | warn => "WARN"
  | info => "INFO"
  | debug => "DEBUG"
  | trace => "TRACE"

end Level

/-- The least important level let through, if any is. -/
abbrev Threshold := Option Level

namespace Threshold

def passes (threshold : Threshold) (level : Level) : Bool :=
  match threshold with
  | none => false
  | some least => level.rank ≤ least.rank

/-- The threshold of each number from zero to five. -/
def byNumber : List Threshold :=
  [none, some .error, some .warn, some .info, some .debug, some .trace]

/-- The threshold of each word. -/
def byWord : List (String × Threshold) :=
  [("off", none), ("error", some .error), ("warn", some .warn), ("info", some .info),
    ("debug", some .debug), ("trace", some .trace)]

/-- A threshold is a number from zero to five or one of six words in any case of letters. -/
def ofText? (text : List Char) : Option Threshold :=
  match Text.natural? Bounds.mostUnsigned64 text with
  | some number => byNumber[number]?
  | none => byWord.lookup (String.ofList (text.map Char.toLower))

end Threshold

end DaemonLaunch

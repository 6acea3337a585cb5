import DaemonLaunch.Errno
import DaemonLaunch.Text.Numeral

/-!
Failures of input and output: a code from the system, or a condition found on the way to it.
-/

namespace DaemonLaunch

inductive IoError
  | system (code : ErrorCode)
  /-- A file name holds the character NUL. -/
  | nulInName
  /-- The bytes are not UTF-8. -/
  | notText
  /-- A writer took no more bytes before all were written. -/
  | wroteNothing
  /-- A failure with a text of its own. -/
  | custom (text : String)
  deriving DecidableEq, Repr

namespace IoError

private def libraryText (code : ErrorCode) : String :=
  match errnoTable.find? fun entry => entry.number == code with
  | some entry => entry.libraryText
  | none => "Unknown error " ++ Text.ofInt code.toInt

def message : IoError → String
  | .system code => libraryText code ++ " (os error " ++ Text.ofInt code.toInt ++ ")"
  | .nulInName => "file name contained an unexpected NUL byte"
  | .notText => "stream did not contain valid UTF-8"
  | .wroteNothing => "failed to write whole buffer"
  | .custom text => text

end IoError

end DaemonLaunch

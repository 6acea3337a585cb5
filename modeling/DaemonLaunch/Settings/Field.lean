import DaemonLaunch.Text.Numeral
import DaemonLaunch.Text.Quoted

/-!
The fields of a settings document and the values a document may hold for them.
-/

namespace DaemonLaunch.Settings

/-- A value of a document, as far as settings look at it. -/
inductive Value
  | integer (n : Int)
  /-- A number with a fraction or an exponent, by its text. -/
  | real (shown : String)
  | boolean (b : Bool)
  | text (s : String)
  | map
  | sequence
  | null
  deriving DecidableEq, Repr

namespace Value

private def marked (kind shown : String) : String := kind ++ " \x60" ++ shown ++ "\x60"

/-- The kind of the value and, for a scalar, the value itself. -/
def describe : Value → String
  | integer n => marked "integer" (Text.ofInt n)
  | real shown => marked "floating point" shown
  | boolean b => marked "boolean" (if b then "true" else "false")
  | text s => "string " ++ Text.quote s
  | map => "map"
  | sequence => "sequence"
  | null => "null"

end Value

/-- The fields in the order in which a list gives them. -/
inductive Field
  | sleepSeconds
  | detachStreams
  | enterRoot
  | logFilter
  | logFile
  deriving DecidableEq, Repr

namespace Field

def all : List Field := [sleepSeconds, detachStreams, enterRoot, logFilter, logFile]

def key : Field → String
  | sleepSeconds => "sleep_secs"
  | detachStreams => "detach_stdio"
  | enterRoot => "chdir_root"
  | logFilter => "log_level"
  | logFile => "log_file"

def ofKey? (key : String) : Option Field := all.find? fun field => field.key == key

theorem ofKey?_key (field : Field) : ofKey? field.key = some field := by
  cases field <;> decide

theorem key_of_ofKey? {key : String} {field : Field} (h : ofKey? key = some field) :
    field.key = key := by
  simpa using List.find?_some h

/-- What a document is to give for the field. -/
def expected : Field → String
  | sleepSeconds => "u64"
  | detachStreams => "a boolean"
  | enterRoot => "a boolean"
  | logFilter => "a string"
  | logFile => "path string"

end Field

/-- A value that is not what was expected in its place. -/
structure Mismatch where
  found : Value
  expected : String
  /-- The kind is right and the value is not. -/
  outOfRange : Bool := false
  deriving DecidableEq, Repr

def Mismatch.message (m : Mismatch) : String :=
  (if m.outOfRange then "invalid value: " else "invalid type: ") ++ m.found.describe ++
    ", expected " ++ m.expected

end DaemonLaunch.Settings

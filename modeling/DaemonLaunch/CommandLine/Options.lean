import DaemonLaunch.Bounds
import DaemonLaunch.Settings.Draft

/-!
What a command line may give: options with a value, each at most once, and flags. The values
override settings.
-/

namespace DaemonLaunch.CommandLine

/-- Options that take a value. -/
inductive ValueOption
  | settingsFile
  | sleepSeconds
  | logFilter
  | logFile
  deriving DecidableEq, Repr

/-- Options that take none. -/
inductive Flag
  | keepStreams
  | enterRoot
  deriving DecidableEq, Repr

/-- Everything with a name on the command line. -/
inductive Switch
  | option (o : ValueOption)
  | flag (f : Flag)
  | help
  | version
  deriving DecidableEq, Repr

namespace Switch

/-- The names that stand after two dashes. -/
def names : List (String × Switch) :=
  [("config", option .settingsFile), ("sleep-secs", option .sleepSeconds),
    ("keep-stdio", flag .keepStreams), ("chdir-root", flag .enterRoot),
    ("log-level", option .logFilter), ("log-file", option .logFile), ("help", help),
    ("version", version)]

/-- The letters that stand after one dash. -/
def letters : List (Char × Switch) :=
  [('c', option .settingsFile), ('s', option .sleepSeconds), ('h', help), ('V', version)]

end Switch

/-- What is wrong with a command line. -/
inductive UsageError
  | unknownArgument
  | missingValue
  | badValue
  | surplusValue
  | repeated
  deriving DecidableEq, Repr

/-- What a command line gives. -/
structure Options where
  settingsFile : Option String := none
  sleepSeconds : Option Nat := none
  keepStreams : Bool := false
  enterRoot : Bool := false
  logFilter : Option String := none
  logFile : Option String := none
  deriving DecidableEq, Repr, Inhabited

namespace Options

def has (o : Options) : ValueOption → Bool
  | .settingsFile => o.settingsFile.isSome
  | .sleepSeconds => o.sleepSeconds.isSome
  | .logFilter => o.logFilter.isSome
  | .logFile => o.logFile.isSome

private def path (value : String) : Except UsageError String :=
  if value.isEmpty then .error .missingValue else .ok value

private def seconds (value : String) : Except UsageError Nat :=
  match Text.natural? Bounds.mostUnsigned64 value.toList with
  | some n => .ok n
  | none => .error .badValue

/-- Gives an option its value. That it has one already counts before what is wrong with the new
one. -/
def give (o : Options) (option : ValueOption) (value : String) : Except UsageError Options :=
  if o.has option then .error .repeated
  else
    match option with
    | .settingsFile => do return { o with settingsFile := some (← path value) }
    | .sleepSeconds => do return { o with sleepSeconds := some (← seconds value) }
    | .logFilter => .ok { o with logFilter := some value }
    | .logFile => do return { o with logFile := some (← path value) }

def raise (o : Options) : Flag → Except UsageError Options
  | .keepStreams => if o.keepStreams then .error .repeated else .ok { o with keepStreams := true }
  | .enterRoot => if o.enterRoot then .error .repeated else .ok { o with enterRoot := true }

/-- The settings that the options override. -/
def overrides (o : Options) : Settings.Draft where
  sleepSeconds := o.sleepSeconds
  detachStreams := if o.keepStreams then some false else none
  enterRoot := if o.enterRoot then some true else none
  logFilter := o.logFilter
  logFile := o.logFile.map some

theorem give_settingsFile {o o' : Options} {value : String} :
    o.give .settingsFile value = .ok o' ↔
      o.settingsFile = none ∧ value ≠ "" ∧ o' = { o with settingsFile := some value } := by
  cases hgiven : o.settingsFile <;> by_cases hempty : value = "" <;>
    simp [give, has, hgiven, path, hempty, bind, Except.bind, pure, Except.pure, eq_comm (a := o')]

theorem give_sleepSeconds {o o' : Options} {value : String} :
    o.give .sleepSeconds value = .ok o' ↔ o.sleepSeconds = none ∧
      ∃ n, Text.natural? Bounds.mostUnsigned64 value.toList = some n ∧
        o' = { o with sleepSeconds := some n } := by
  cases hgiven : o.sleepSeconds <;> cases hread :
    Text.natural? Bounds.mostUnsigned64 value.toList <;>
    simp [give, has, hgiven, seconds, hread, bind, Except.bind, pure, Except.pure,
      eq_comm (a := o')]

theorem give_logFilter {o o' : Options} {value : String} :
    o.give .logFilter value = .ok o' ↔
      o.logFilter = none ∧ o' = { o with logFilter := some value } := by
  cases hgiven : o.logFilter <;> simp [give, has, hgiven, eq_comm (a := o')]

theorem give_logFile {o o' : Options} {value : String} :
    o.give .logFile value = .ok o' ↔
      o.logFile = none ∧ value ≠ "" ∧ o' = { o with logFile := some value } := by
  cases hgiven : o.logFile <;> by_cases hempty : value = "" <;>
    simp [give, has, hgiven, path, hempty, bind, Except.bind, pure, Except.pure, eq_comm (a := o')]

theorem raise_keepStreams {o o' : Options} :
    o.raise .keepStreams = .ok o' ↔
      o.keepStreams = false ∧ o' = { o with keepStreams := true } := by
  cases hraised : o.keepStreams <;> simp [raise, hraised, eq_comm (a := o')]

theorem raise_enterRoot {o o' : Options} :
    o.raise .enterRoot = .ok o' ↔ o.enterRoot = false ∧ o' = { o with enterRoot := true } := by
  cases hraised : o.enterRoot <;> simp [raise, hraised, eq_comm (a := o')]

end Options

end DaemonLaunch.CommandLine

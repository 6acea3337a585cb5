import DaemonLaunch.Time.Span

/-!
The settings of a launch.
-/

namespace DaemonLaunch

def Settings.defaultSleepSeconds : Nat := 200

def Settings.defaultDetachStreams : Bool := true

def Settings.defaultLogFilter : String := "off"

structure Settings where
  sleepSeconds : Nat := Settings.defaultSleepSeconds
  /-- Whether the daemon's standard streams lead to the null device. -/
  detachStreams : Bool := Settings.defaultDetachStreams
  /-- Whether the daemon changes to the root directory. -/
  enterRoot : Bool := false
  logFilter : String := Settings.defaultLogFilter
  /-- The file that log lines are appended to; standard error if there is none. -/
  logFile : Option String := none
  deriving DecidableEq, Repr, Inhabited

namespace Settings

def sleepSpan (s : Settings) : Span := Span.ofSeconds s.sleepSeconds

end Settings

end DaemonLaunch

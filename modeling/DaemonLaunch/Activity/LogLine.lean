import DaemonLaunch.Activity.Call
import DaemonLaunch.Time.Stamp

/-!
The lines of a log: the time, the level in five columns, and the message. On a terminal the time is
dimmed and the level has a colour.
-/

namespace DaemonLaunch

def Level.column (level : Level) : String := Text.padLeft 5 ' ' level.name

def Level.colour : Level → String
  | .error => "31"
  | .warn => "33"
  | .info => "32"
  | .debug => "34"
  | .trace => "35"

namespace LogEvent

/-- The line of an event at a time. -/
def line (event : LogEvent) (now : Span) : String :=
  now.stamp ++ " " ++ event.level.column ++ " " ++ event.message ++ "\n"

private def escape (code text : String) : String := "\x1b[" ++ code ++ "m" ++ text ++ "\x1b[0m"

def colouredLine (event : LogEvent) (now : Span) : String :=
  escape "2" now.stamp ++ " " ++ escape event.level.colour event.level.column ++ " " ++
    event.message ++ "\n"

end LogEvent

end DaemonLaunch

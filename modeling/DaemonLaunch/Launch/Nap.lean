import DaemonLaunch.Activity

/-!
The work of a daemon that has nothing to do: it sleeps for a span of time and says so in the log.
-/

namespace DaemonLaunch.Activity

def nap (span : Span) : Activity Unit := do
  let target := "doublefork::daemon::workload"
  log .info target
    ("Daemon " ++ (← ask .ownId).unsignedText ++ " sleeping for " ++ toString span.seconds ++ "s")
  perform (.sleep span)
  log .info target ("Daemon " ++ (← ask .ownId).unsignedText ++ " finished sleeping")

end DaemonLaunch.Activity

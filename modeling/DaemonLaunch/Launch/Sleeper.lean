import DaemonLaunch.Launch.Announcement
import DaemonLaunch.Launch.Generation
import DaemonLaunch.Launch.Nap
import DaemonLaunch.Launch.Surroundings

/-!
Launching a daemon that sleeps. The launcher exits at once, the session's leader announces the
daemon and exits, and the daemon changes its surroundings and sleeps.
-/

namespace DaemonLaunch

open Activity

namespace Sleeper

private def logTarget : String := "doublefork::cli"

/-- What the daemon does. -/
def dwell (s : Settings) : Launch Unit := do
  log .info logTarget ("Daemon " ++ (← ask .ownId).unsignedText ++ " started")
  if s.detachStreams then Launch.detachStreams
  if s.enterRoot then Launch.enterRoot
  nap s.sleepSpan

/-- What each of the three processes does. -/
def play (s : Settings) : Generation → Launch Unit
  | .launcher child => do
    log .debug logTarget ("Handed off to session leader " ++ child.text)
    exit (α := Unit) 0
  | .leader daemon => do
    Announcement.announce standardOutput daemon
    exit (α := Unit) 0
  | .daemon => dwell s

end Sleeper

/-- Launches a sleeping daemon. Only the daemon comes back. -/
def launchSleeper (s : Settings) : Launch Unit := do
  Sleeper.play s (← Generation.detach)

end DaemonLaunch

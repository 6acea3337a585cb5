import DaemonLaunch.Launch
import DaemonLaunch.Launch.Announcement
import DaemonLaunch.Launch.TaskStatus

/-!
A daemon that has been launched, known by its identifier: whether it runs, its session and terminal,
and how it is stopped.
-/

namespace DaemonLaunch

structure Daemon where
  pid : Pid
  deriving DecidableEq, Repr

namespace Daemon

open Activity

/-- How long to sleep between two looks at a daemon. -/
def pollInterval : Span := Span.ofMilliseconds 100

/-- How long a daemon may take to end once it has been killed. -/
def killPatience : Span := Span.ofSeconds 1

private def logTarget : String := "doublefork::daemon::handle"

/-- The daemon with a number, which must be positive. -/
def ofNumber (number : Int32) : Except LaunchError Daemon :=
  if number ≤ 0 then .error (.other (.badPid number)) else .ok ⟨⟨number⟩⟩

/-- The daemon that a line announces. -/
def ofAnnouncement (line : String) : Except LaunchError Daemon :=
  match Announcement.number line with
  | .error cause => .error (.other cause)
  | .ok number => ofNumber number

/-- The status of the daemon, unless it cannot be read. -/
def status (d : Daemon) : Activity (Option TaskStatus) := do
  match ← ask (.readStatus d.pid) with
  | .error _ => return none
  | .ok bytes => return (String.fromUTF8? bytes).bind TaskStatus.ofLine?

/-- Whether the daemon exists and is not dead. One that may not be signalled exists; one without a
status does not. -/
def isRunning (d : Daemon) : Activity Bool := do
  match ← ask (.kill d.pid none) with
  | .ok () => alive
  | .error code => if Errno.ofCode code = .notPermitted then alive else return false
where
  alive : Activity Bool := do
    match ← d.status with
    | some status => return !status.isDead
    | none => return false

def session (d : Daemon) : Launch Pid := do
  Launch.accept (fun code => .other (.noSession d.pid (.ofCode code))) (← ask (.sessionOf d.pid))

/-- Whether the daemon leads its session, which a detached one does not. -/
def leadsSession (d : Daemon) : Launch Bool := do
  return (← d.session) = d.pid

/-- Whether the daemon has a controlling terminal, if that can be found out. -/
def hasTerminal (d : Daemon) : Activity (Option Bool) := do
  return (← d.status).map fun status => status.terminal != 0

def signal (d : Daemon) (signal : Signal) : Launch Unit := do
  Launch.accept (fun code => .signal (.refused signal (.ofCode code)))
    (← ask (.kill d.pid (some signal)))

/-- Looks until the daemon does not run, or until the clock shows that the timeout has passed since
the start. There is a sleep between two looks, so that many looks at most are needed if they suffice
for the timeout. -/
def awaitEndFrom (d : Daemon) (timeout start : Span) : (looks : Nat) → Activity Bool
  | 0 => return !(← d.isRunning)
  | looks + 1 => do
    if ← d.isRunning then
      if timeout.nanoseconds ≤ (← perform .now).nanoseconds - start.nanoseconds then return false
      else
        perform (.sleep pollInterval)
        d.awaitEndFrom timeout start looks
    else return true

/-- Waits for the end of the daemon; the answer is whether it has come. -/
def awaitEnd (d : Daemon) (timeout : Span) : Activity Bool := do
  -- a look at the start, and one after each sleep, the last of which may begin shortly before the
  -- timeout
  d.awaitEndFrom timeout (← perform .now) (timeout.nanoseconds / pollInterval.nanoseconds + 2)

/-- Waits for the end of a killed daemon, which must come. -/
def awaitDeath (d : Daemon) : Launch Unit := do
  if ← d.awaitEnd killPatience then return ()
  else throw (.signal (.survived d.pid))

/-- Kills the daemon, which has not ended within the timeout. -/
def kill (d : Daemon) (timeout : Span) : Launch Unit := do
  log .warn logTarget
    ("Daemon " ++ d.pid.text ++ " did not stop within " ++ timeout.text ++ ", sending SIGKILL")
  d.signal .kill
  d.awaitDeath

/-- Waits for the end of the daemon, and kills it after the timeout. -/
def awaitOrKill (d : Daemon) (timeout : Span) : Launch Unit := do
  if ← d.awaitEnd timeout then
    log .debug logTarget ("Daemon " ++ d.pid.text ++ " stopped")
  else
    d.kill timeout

/-- Asks the daemon to end, and kills it if it has not ended after the timeout. -/
def stop (d : Daemon) (timeout : Span) : Launch Unit := do
  log .info logTarget ("Stopping daemon (PID: " ++ d.pid.text ++ ")")
  d.signal .terminate
  d.awaitOrKill timeout

end Daemon

end DaemonLaunch

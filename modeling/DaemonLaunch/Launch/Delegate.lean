import DaemonLaunch.Launch.Handoff

/-!
Delegating work to a daemon. The caller forks a process in between, which starts a session, forks
the daemon and reports over a pipe; the caller receives the report and goes on. The daemon does the
work, and neither child comes back to what the caller does next.
-/

namespace DaemonLaunch

open Activity

namespace Delegate

private def logTarget : String := "doublefork::daemon::spawn"

/-- Does the work and exits, also where the work breaks off. -/
def work {α : Type} (body : Activity Unit) : Activity α := do
  match ← body.attempt with
  | some () => exit 0
  | none => exit Ending.fault.status

/-- Sends the report and exits, with success if there is a daemon and the caller can know of it. -/
def report {α : Type} (handoff : Handoff) : Activity α := do
  let interruptions ← perform .interruptions
  match ← (pipeEnd interruptions).writeAll handoff.bytes, handoff with
  | .ok (), .daemon _ => exit 0
  | _, _ => exit 1

def between {α : Type} (body : Activity Unit) : Activity α := do
  match ← ask .newSession with
  | .error code => report (.noSession (.ofCode code))
  | .ok _ =>
    match ← ask .fork with
    | .error code => report (.noFork (.ofCode code))
    | .ok (.parent daemon) => report (.daemon daemon)
    | .ok .child => work body

/-- Takes over the daemon that has been reported. -/
def adopt (received : Except LaunchError Handoff) : Launch Daemon := do
  let handoff ← received
  let daemon ← handoff.result
  log .debug logTarget ("Spawned detached daemon " ++ daemon.pid.text)
  return daemon

/-- The caller: it receives the report, waits for the process in between to end, and takes the
daemon over. -/
def takeOver (child : Pid) : Launch Daemon := do
  let received ← (liftM Handoff.receive.run : Launch (Except LaunchError Handoff))
  match ← ask (.reap child) with
  | .ok () => pure ()
  | .error code =>
    log .warn logTarget
      ("Failed to reap intermediate process " ++ child.text ++ ": " ++ (Errno.ofCode code).message)
  adopt received

end Delegate

/-- Has the work done by a new daemon. -/
def delegate (body : Activity Unit) : Launch Daemon := do
  Launch.accept (fun code => .handoff (.noPipe (.ofCode code))) (← ask .openPipe)
  match ← Launch.accept (fun code => .fork .first (.ofCode code)) (← ask .fork) with
  | .parent child => Delegate.takeOver child
  | .child => Delegate.between (α := Daemon) body

end DaemonLaunch

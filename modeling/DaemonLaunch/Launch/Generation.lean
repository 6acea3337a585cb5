import DaemonLaunch.Launch

/-!
Detaching by forking twice. The first child leads a session of its own and so has no terminal; the
second child, the daemon, does not lead the session and so can never get one.
-/

namespace DaemonLaunch

open Activity

/-- What a process is once the family has forked twice. -/
inductive Generation
  /-- The process that was there before. -/
  | launcher (child : Pid)
  | leader (daemon : Pid)
  | daemon
  deriving DecidableEq, Repr

namespace Generation

def logTarget : String := "doublefork::daemon::daemonize"

/-- Forks, and gives the child's identifier in the parent. -/
def fork (stage : ForkStage) : Launch (Option Pid) := do
  match ← Launch.accept (fun code => .fork stage (.ofCode code)) (← ask .fork) with
  | .parent child => return some child
  | .child => return none

/-- The second fork, which parts the session's leader and the daemon. -/
def part : Launch Generation := do
  match ← fork .second with
  | some child =>
    log .debug logTarget ("Second fork created pid " ++ child.text)
    return leader child
  | none => return daemon

/-- What the first child does: it starts a session and forks. -/
def lead : Launch Generation := do
  let session ← Launch.accept (fun code => .session (.ofCode code)) (← ask .newSession)
  log .debug logTarget ("Started new session " ++ session.text)
  part

/-- Forks twice. It is done three times: in the launcher, in the session's leader and in the
daemon. -/
def detach : Launch Generation := do
  match ← fork .first with
  | some child =>
    log .debug logTarget ("First fork created pid " ++ child.text)
    return launcher child
  | none => lead

end Generation

end DaemonLaunch

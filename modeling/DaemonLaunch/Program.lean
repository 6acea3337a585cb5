import DaemonLaunch.Launch.Preparation
import DaemonLaunch.Launch.Sleeper

/-!
The program: it reads its command line, gathers the settings, starts the log and launches a sleeping
daemon. Its status is 0 for success, 1 for an error and 2 for a command line that cannot be read.
-/

namespace DaemonLaunch.Program

open Activity

/-- What stands on standard error about a command line that cannot be read. Readers of command lines
have texts of their own for this, and `<usage error>` stands for them. -/
def usageText : String := "<usage error>\n"

/-- Answers a command line that gives no options. -/
def answer {α : Type} : CommandLine.Stop → Activity α
  | .usage _ => do
    perform (.complain usageText)
    exit 2
  | .help => do
    perform (.print CommandLine.helpText.toUTF8.toList)
    exit 0
  | .version => do
    perform (.print CommandLine.versionText.toUTF8.toList)
    exit 0

def launch (options : CommandLine.Options) : Launch Unit := do
  let settings ← Settings.ofOptions options
  settings.startLog
  launchSleeper settings

def run (arguments : List String) : Activity Unit := do
  match CommandLine.read arguments with
  | .error reason => answer reason
  | .ok options =>
    match ← (launch options).run with
    | .ok () => exit 0
    | .error e =>
      perform (.complain (e.message ++ "\n"))
      exit e.exitStatus

end DaemonLaunch.Program

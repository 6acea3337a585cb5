import DaemonLaunch.IoError
import DaemonLaunch.Signal
import DaemonLaunch.Json
import DaemonLaunch.Toml
import DaemonLaunch.LogFilter
import DaemonLaunch.Activity.Identity

/-!
Everything that can go wrong when a daemon is launched or dealt with, and the wording of it. Each
error belongs to a kind; the kind gives the heading and the cause gives the rest.
-/

namespace DaemonLaunch

/-- Which of the two forks of a launch. -/
inductive ForkStage
  | first
  | second
  deriving DecidableEq, Repr

def ForkStage.text : ForkStage → String
  | first => "1"
  | second => "2"

/-- Why the pid of the daemon did not arrive. -/
inductive HandoffCause
  | noPipe (errno : Errno)
  /-- The pipe ended before the record was complete. -/
  | silent
  | unreadable (failure : IoError)
  | badRecord (tag value : Int32)
  deriving DecidableEq, Repr

/-- Why the standard streams could not be detached. -/
inductive StreamCause
  | noNullDevice (failure : IoError)
  | notRedirected (stream : Stream) (errno : Errno)
  deriving DecidableEq, Repr

/-- Why a daemon was not stopped. -/
inductive SignalCause
  | refused (signal : Signal) (errno : Errno)
  | survived (pid : Pid)
  deriving DecidableEq, Repr

/-- Which file of the configuration failed. -/
inductive ConfigurationCause
  | unreadable (failure : IoError)
  | noLogFile (path : String) (failure : IoError)
  deriving DecidableEq, Repr

/-- Why a settings file has no meaning. -/
inductive DocumentCause
  | unknownFormat (extension : String)
  | toml (error : Toml.Error)
  | json (error : Json.Error)
  deriving DecidableEq, Repr

inductive SettingCause
  | zeroSleep
  | badFilter (filter : String) (error : LogFilter.FilterError)
  | noDirectory (path : String)
  deriving DecidableEq, Repr

inductive OtherCause
  | badPid (number : Int32)
  | notAnnouncement (line : String)
  | badNumber (line : String)
  | numberTooLarge
  | noSession (pid : Pid) (errno : Errno)
  | notInRoot (failure : IoError)
  deriving DecidableEq, Repr

inductive LaunchError
  | fork (stage : ForkStage) (errno : Errno)
  | session (errno : Errno)
  | handoff (cause : HandoffCause)
  | streams (cause : StreamCause)
  | signal (cause : SignalCause)
  | configuration (cause : ConfigurationCause)
  | document (cause : DocumentCause)
  | setting (cause : SettingCause)
  | inputOutput (failure : IoError)
  | other (cause : OtherCause)
  deriving DecidableEq, Repr

namespace HandoffCause

def message : HandoffCause → String
  | noPipe errno => "Failed to create pipe: " ++ errno.message
  | silent => "Intermediate process exited without reporting the daemon PID"
  | unreadable failure => "Failed to read daemon PID: " ++ failure.message
  | badRecord tag value =>
    "Unexpected handoff record (tag " ++ Text.ofInt tag.toInt ++ ", value " ++
      Text.ofInt value.toInt ++ ")"

end HandoffCause

def StreamCause.message : StreamCause → String
  | noNullDevice failure => "Failed to open /dev/null: " ++ failure.message
  | notRedirected stream errno => "Failed to redirect " ++ stream.name ++ ": " ++ errno.message

def SignalCause.message : SignalCause → String
  | refused signal errno => "Failed to send " ++ signal.name ++ ": " ++ errno.message
  | survived pid => "Daemon " ++ pid.text ++ " survived SIGKILL"

def ConfigurationCause.message : ConfigurationCause → String
  | unreadable failure => "Failed to read config file: " ++ failure.message
  | noLogFile path failure => "Failed to open log file " ++ path ++ ": " ++ failure.message

def DocumentCause.message : DocumentCause → String
  | unknownFormat extension => "Unsupported file format: " ++ extension ++ ". Use .toml or .json"
  | toml error => "Failed to parse TOML: " ++ error.message
  | json error => "Failed to parse JSON: " ++ error.message

def SettingCause.message : SettingCause → String
  | zeroSleep => "sleep_secs must be at least 1"
  | badFilter filter error => "Invalid log_level " ++ Text.quote filter ++ ": " ++ error.message
  | noDirectory path => "Log file directory does not exist: " ++ path

def OtherCause.message : OtherCause → String
  | badPid number => "Invalid process ID: " ++ Text.ofInt number.toInt
  | notAnnouncement line => "Not a daemon announcement: " ++ Text.quote line
  | badNumber line => "Invalid PID in announcement: " ++ Text.quote line
  | numberTooLarge => "Invalid PID in announcement: number too large to fit in target type"
  | noSession pid errno => "getsid(" ++ pid.text ++ ") failed: " ++ errno.message
  | notInRoot failure => "Failed to change directory to /: " ++ failure.message

namespace LaunchError

/-- The kinds of errors that have a heading in front of their cause. -/
inductive Kind
  | handoff
  | streams
  | signal
  | configuration
  | document
  | setting
  | inputOutput
  | other
  deriving DecidableEq, Repr

/-- What stands before the cause. -/
def Kind.heading : Kind → String
  | handoff => "Daemon handoff failed: "
  | streams => "Failed to detach standard streams: "
  | signal => "Signal error: "
  | configuration => "Configuration error: "
  | document => "Invalid configuration file: "
  | setting => "Configuration validation failed: "
  | inputOutput => "IO error: "
  | other => ""

private def coded (errno : Errno) : String :=
  Text.ofInt errno.code.toInt ++ " (" ++ errno.description ++ ")"

def message : LaunchError → String
  | fork stage errno => "fork #" ++ stage.text ++ " failed: " ++ coded errno
  | session errno => "setsid failed: " ++ coded errno
  | handoff cause => Kind.heading .handoff ++ cause.message
  | streams cause => Kind.heading .streams ++ cause.message
  | signal cause => Kind.heading .signal ++ cause.message
  | configuration cause => Kind.heading .configuration ++ cause.message
  | document cause => Kind.heading .document ++ cause.message
  | setting cause => Kind.heading .setting ++ cause.message
  | inputOutput failure => Kind.heading .inputOutput ++ failure.message
  | other cause => Kind.heading .other ++ cause.message

/-- The status with which a program fails. -/
def failureStatus : Nat := 1

/-- The status with which a program ends on an error. -/
def exitStatus (_ : LaunchError) : Nat := failureStatus

end LaunchError

end DaemonLaunch

/-!
The signals of the system with their numbers and names.
-/

namespace DaemonLaunch

inductive Signal
  | hangup
  | interrupt
  | quit
  | illegal
  | trap
  | abort
  | bus
  | arithmetic
  | kill
  | user1
  | segment
  | user2
  | brokenPipe
  | alarm
  | terminate
  | stackFault
  | child
  | resume
  | stop
  | keyboardStop
  | terminalInput
  | terminalOutput
  | urgent
  | cpuLimit
  | fileLimit
  | virtualAlarm
  | profile
  | windowChange
  | pollable
  | powerFailure
  | badCall
  deriving DecidableEq, Repr

namespace Signal

/-- Every signal, from number one upwards without a gap. -/
def all : List Signal :=
  [.hangup, .interrupt, .quit, .illegal, .trap, .abort, .bus, .arithmetic, .kill, .user1, .segment,
    .user2, .brokenPipe, .alarm, .terminate, .stackFault, .child, .resume, .stop, .keyboardStop,
    .terminalInput, .terminalOutput, .urgent, .cpuLimit, .fileLimit, .virtualAlarm, .profile,
    .windowChange, .pollable, .powerFailure, .badCall]

def number : Signal → Nat
  | .hangup => 1
  | .interrupt => 2
  | .quit => 3
  | .illegal => 4
  | .trap => 5
  | .abort => 6
  | .bus => 7
  | .arithmetic => 8
  | .kill => 9
  | .user1 => 10
  | .segment => 11
  | .user2 => 12
  | .brokenPipe => 13
  | .alarm => 14
  | .terminate => 15
  | .stackFault => 16
  | .child => 17
  | .resume => 18
  | .stop => 19
  | .keyboardStop => 20
  | .terminalInput => 21
  | .terminalOutput => 22
  | .urgent => 23
  | .cpuLimit => 24
  | .fileLimit => 25
  | .virtualAlarm => 26
  | .profile => 27
  | .windowChange => 28
  | .pollable => 29
  | .powerFailure => 30
  | .badCall => 31

def name : Signal → String
  | .hangup => "SIGHUP"
  | .interrupt => "SIGINT"
  | .quit => "SIGQUIT"
  | .illegal => "SIGILL"
  | .trap => "SIGTRAP"
  | .abort => "SIGABRT"
  | .bus => "SIGBUS"
  | .arithmetic => "SIGFPE"
  | .kill => "SIGKILL"
  | .user1 => "SIGUSR1"
  | .segment => "SIGSEGV"
  | .user2 => "SIGUSR2"
  | .brokenPipe => "SIGPIPE"
  | .alarm => "SIGALRM"
  | .terminate => "SIGTERM"
  | .stackFault => "SIGSTKFLT"
  | .child => "SIGCHLD"
  | .resume => "SIGCONT"
  | .stop => "SIGSTOP"
  | .keyboardStop => "SIGTSTP"
  | .terminalInput => "SIGTTIN"
  | .terminalOutput => "SIGTTOU"
  | .urgent => "SIGURG"
  | .cpuLimit => "SIGXCPU"
  | .fileLimit => "SIGXFSZ"
  | .virtualAlarm => "SIGVTALRM"
  | .profile => "SIGPROF"
  | .windowChange => "SIGWINCH"
  | .pollable => "SIGIO"
  | .powerFailure => "SIGPWR"
  | .badCall => "SIGSYS"

def ofName? (name : String) : Option Signal := all.find? fun signal => signal.name == name

end Signal

end DaemonLaunch

import DaemonLaunch.CommandLine.Options

/-!
Command lines. Arguments are read from left to right and the first problem counts. An option is
taken only when the next one is reached or the arguments end, for its value may stand in the
argument after it; so an unknown argument counts before a bad value in front of it.
-/

namespace DaemonLaunch.CommandLine

/-- Why a command line gives no options. -/
inductive Stop
  | usage (error : UsageError)
  | help
  | version
  deriving DecidableEq, Repr

/-- How far the reading has come. -/
structure Reading where
  taken : Options := {}
  /-- The last option and its value, not taken yet. -/
  pending : Option (ValueOption × Option String) := none
  deriving DecidableEq, Repr

namespace Reading

def settle (r : Reading) : Except UsageError Options :=
  match r.pending with
  | none => .ok r.taken
  | some (_, none) => .error .missingValue
  | some (option, some value) => r.taken.give option value

/-- Reads an argument that is no switch: it can only be the value of the pending option. -/
def word (r : Reading) (argument : String) : Except UsageError Reading :=
  match r.pending with
  | some (option, none) => .ok { r with pending := some (option, some argument) }
  | _ => .error .unknownArgument

def asStop {α : Type} : Except UsageError α → Except Stop α
  | .ok value => .ok value
  | .error e => .error (.usage e)

/-- Reads a switch, with a value if one is attached to it. -/
def switch (r : Reading) (s : Switch) (value? : Option String) : Except Stop Reading :=
  match s, value? with
  | .option o, some value => asStop do return { taken := ← (← r.settle).give o value }
  | .option o, none => asStop do return { taken := ← r.settle, pending := some (o, none) }
  | _, some _ => .error (.usage .surplusValue)
  | .flag f, none => asStop do return { taken := ← (← r.settle).raise f }
  | .help, none => do
    let _ ← asStop r.settle
    throw .help
  | .version, none => do
    let _ ← asStop r.settle
    throw .version

/-- Reads what stands after two dashes: a name, and perhaps an equals sign and a value. -/
def long (r : Reading) (text : List Char) : Except Stop Reading :=
  match Switch.names.lookup (String.ofList (text.takeWhile (· != '='))) with
  | none => .error (.usage .unknownArgument)
  | some s =>
    match text.dropWhile (· != '=') with
    | [] => r.switch s none
    | _ :: value => r.switch s (some (String.ofList value))

/-- Reads what stands after one dash: a letter, and for an option perhaps a value, with or without
an equals sign. -/
def short (r : Reading) (letter : Char) (rest : List Char) : Except Stop Reading :=
  match Switch.letters.lookup letter with
  | none => .error (.usage .unknownArgument)
  | some (.option o) =>
    match rest with
    | [] => r.switch (.option o) none
    | '=' :: value => r.switch (.option o) (some (String.ofList value))
    | value => r.switch (.option o) (some (String.ofList value))
  | some s => r.switch s none

def step (r : Reading) (argument : String) : Except Stop Reading :=
  match argument.toList with
  | '-' :: '-' :: text => r.long text
  | '-' :: letter :: rest => r.short letter rest
  | _ => asStop (r.word argument)

/-- Reads the arguments. Two dashes alone end them, and none may follow. -/
def finish (r : Reading) : List String → Except Stop Options
  | [] => asStop r.settle
  | argument :: rest =>
    if argument == "--" then
      if rest.isEmpty then asStop r.settle else .error (.usage .unknownArgument)
    else do (← r.step argument).finish rest

end Reading

/-- The options that arguments give. -/
def read (arguments : List String) : Except Stop Options := Reading.finish {} arguments

def helpText : String :=
  "doublefork - detach into the background and sleep

Usage: doublefork [OPTIONS]

Options:
  -c, --config <CONFIG>          Load settings from a TOML or JSON file
  -s, --sleep-secs <SLEEP_SECS>  How long the daemon sleeps, in seconds
      --keep-stdio               Leave the daemon's standard streams attached to the caller's
      --chdir-root               Change the daemon's working directory to /
      --log-level <LOG_LEVEL>    Tracing filter directive (default: off)
      --log-file <LOG_FILE>      Append logs to this file instead of stderr
  -h, --help                     Print help
  -V, --version                  Print version
"

def versionText : String := "doublefork 0.1.0\n"

end DaemonLaunch.CommandLine

import DaemonLaunch.Launch
import DaemonLaunch.CommandLine

/-!
What comes before a launch: the settings are gathered from a file and from options and checked, and
the log is opened.
-/

namespace DaemonLaunch

open Activity

/-- The filter that a text stands for. -/
def LogFilter.read (text : String) : Launch LogFilter :=
  match LogFilter.ofText text with
  | .ok filter => pure filter
  | .error .tornCharacter => (fault : Activity LogFilter)
  | .error e => throw (.setting (.badFilter text e))

namespace Settings

/-- Checks that a daemon can be launched with the settings: it sleeps, the filter has a meaning, and
there is a directory for the log file. -/
def check (s : Settings) : Launch Unit := do
  if s.sleepSeconds = 0 then throw (.setting .zeroSleep)
  let _ ← LogFilter.read s.logFilter
  match s.logFile with
  | none => return ()
  | some path =>
    if ← perform (.isDirectory (Path.directory path)) then return ()
    else throw (.setting (.noDirectory (Path.directory path)))

def ofToml (text : String) : Except LaunchError Settings :=
  match Toml.draftOf text with
  | .ok draft => .ok draft.complete
  | .error e => .error (.document (.toml e))

def ofJson (text : String) : Except LaunchError Settings :=
  match Json.draftOf text with
  | .ok draft => .ok draft.complete
  | .error e => .error (.document (.json e))

/-- The settings that a text gives; the extension of its file tells how it is written. -/
def ofDocument (extension text : String) : Except LaunchError Settings :=
  if extension == "toml" then ofToml text
  else if extension == "json" then ofJson text
  else .error (.document (.unknownFormat extension))

/-- The text of a settings file. -/
def readFile (path : String) : Launch String := do
  match ← perform (.readFile path) with
  | .error failure => throw (.configuration (.unreadable failure))
  | .ok bytes =>
    match String.fromUTF8? bytes with
    | some text => return text
    | none => throw (.configuration (.unreadable .notText))

def load (path : String) : Launch Settings := do
  let text ← readFile path
  let settings ← ofDocument (Path.extension path) text
  settings.check
  return settings

/-- The settings that options ask for: those of a file or the default ones, where the options do not
override them. What a file gives must hold up without the options. -/
def ofOptions (options : CommandLine.Options) : Launch Settings := do
  let base ← match options.settingsFile with
    | some path => load path
    | none => pure {}
  let settings := options.overrides.fillFrom base
  settings.check
  return settings

/-- The place where log lines go. -/
def openSink (s : Settings) : Launch LogSink := do
  match s.logFile with
  | none => return .errorStream
  | some path =>
    match ← perform (.openLog path) with
    | .ok place => return .file place
    | .error failure => throw (.configuration (.noLogFile path failure))

/-- Sets up the log. A process has one log for good: later settings only have their filter read and
their file opened. -/
def startLog (s : Settings) : Launch Unit := do
  let filter ← LogFilter.read s.logFilter
  let sink ← s.openSink
  if ← perform .hasLogger then return ()
  else perform (.installLogger ⟨filter, sink⟩)

end Settings

end DaemonLaunch

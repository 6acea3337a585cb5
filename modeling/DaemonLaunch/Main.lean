import Std.Time.DateTime.Timestamp
import DaemonLaunch.Program
import DaemonLaunch.Activity.LogLine

/-!
The command line program on a real system. Files, streams, the clock and sleep are those of the
system. Requests that need processes other than this one are refused as not implemented, since the
runtime has no calls for them.
-/

namespace DaemonLaunch

private def codeOf (word : UInt32) : ErrorCode :=
  -- some file operations report the code with a minus sign
  if word.toInt32 < 0 then -word.toInt32 else word.toInt32

def IoError.ofFailure : IO.Error → IoError
  | .alreadyExists _ code _ | .otherError code _ | .resourceBusy code _ | .resourceVanished code _
  | .unsupportedOperation code _ | .hardwareFault code _ | .unsatisfiedConstraints code _
  | .illegalOperation code _ | .protocolError code _ | .timeExpired code _ | .interrupted _ code _
  | .noFileOrDirectory _ code _ | .invalidArgument _ code _ | .permissionDenied _ code _
  | .resourceExhausted _ code _ | .inappropriateType _ code _ | .noSuchThing _ code _ =>
    .system (codeOf code)
  | .unexpectedEof => .notText
  | .userError text => .custom text

namespace Program

private def onFile {α : Type} (path : String) (operation : IO α) : IO (Except IoError α) := do
  if path.toList.contains '\x00' then return .error .nulInName
  else
    try return .ok (← operation)
    catch failure => return .error (.ofFailure failure)

private def pathOf (place : Location) : String := "/" ++ "/".intercalate place.reverse

private def openLog (path : String) : IO (Except IoError Location) :=
  -- the place is noted from the root, so that it is found after a change of directory
  onFile path do
    let _ ← IO.FS.Handle.mk path .append
    return (FileSystem.names (← IO.FS.realPath path).toString).reverse

private def ownId : IO Pid := do
  -- the system shows the identifier in the status line
  let line ← IO.FS.readFile "/proc/self/stat"
  return ⟨Int32.ofNat ((Text.numeral? (line.toList.takeWhile Char.isDigit)).getD 0)⟩

private def refuse {α : Type} : IO (Except ErrorCode α) := return .error .notImplemented

private def serve : (request : Request) → IO request.Reply
  | .ownId => ownId
  | .readStatus pid => do
    try return .ok (← IO.FS.readBinFile ("/proc/" ++ pid.text ++ "/stat"))
    catch _ => return .error .noEntry
  | .fork | .newSession | .openPipe | .receive _ | .send _ | .reap _ | .openNull | .redirect _
  | .enterDirectory _ | .kill _ _ | .sessionOf _ => refuse

private def now : IO Span := do
  return ⟨(← Std.Time.Timestamp.now).toNanosecondsSinceUnixEpoch.toInt.toNat⟩

private def emit (logger : Option Logger) (event : LogEvent) : IO Unit := do
  match logger with
  | none => return ()
  | some logger =>
    if logger.filter.admits event.level event.target then
      match logger.sink with
      | .errorStream => IO.eprint (event.colouredLine (← now))
      | .file place =>
        let handle ← IO.FS.Handle.mk (pathOf place) .append
        handle.putStr (event.line (← now))

private def sleepLimit : Nat := 0x80000000

private partial def sleepFor (milliseconds : Nat) : IO Unit := do
  IO.sleep (min milliseconds sleepLimit).toUInt32
  if sleepLimit < milliseconds then sleepFor (milliseconds - sleepLimit)

private def answerCall (logger : IO.Ref (Option Logger)) : (c : Call) → IO c.Answer
  | .ask request => serve request
  | .now => return ⟨← IO.monoNanosNow⟩
  | .interruptions => return 0
  | .sleep span => sleepFor ((span.nanoseconds + 999999) / 1000000)
  | .emit event => do emit (← logger.get) event
  | .print bytes => do (← IO.getStdout).write ⟨bytes.toArray⟩
  | .complain text => IO.eprint text
  | .readFile path => onFile path (IO.FS.readBinFile path)
  | .isDirectory path => do
    match ← onFile path (do (← IO.FS.realPath path).isDir) with
    | .ok found => return found
    | .error _ => return false
  | .openLog path => openLog path
  | .hasLogger => return (← logger.get).isSome
  | .installLogger chosen => logger.set (some chosen)
  | .mark _ => return ()

private def execute (logger : IO.Ref (Option Logger)) : Activity Unit → IO Nat
  | .done () => return 0
  | .stop ending => return ending.status
  | .call c next => do execute logger (next (← answerCall logger c))

end Program

end DaemonLaunch

def main (arguments : List String) : IO UInt32 := do
  let logger ← IO.mkRef none
  return (← DaemonLaunch.Program.execute logger (DaemonLaunch.Program.run arguments)).toUInt32

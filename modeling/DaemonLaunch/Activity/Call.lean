import DaemonLaunch.IoError
import DaemonLaunch.Signal
import DaemonLaunch.LogFilter
import DaemonLaunch.FileSystem
import DaemonLaunch.Time.Span
import DaemonLaunch.Activity.Identity

/-!
What a process can ask for. Requests go to the system, which may refuse them; the other calls
concern the clock, the standard streams, the files and the log of the process itself. Every call has
a type of answers.
-/

namespace DaemonLaunch

/-- What a process is after a fork. -/
inductive Forked
  | parent (child : Pid)
  | child
  deriving DecidableEq, Repr

/-- Something happened that a log may record. -/
structure LogEvent where
  level : Level
  target : String
  message : String
  deriving DecidableEq, Repr

/-- Where log lines go. -/
inductive LogSink
  | errorStream
  | file (place : Location)
  deriving DecidableEq, Repr

/-- Which events are recorded, and where. -/
structure Logger where
  filter : LogFilter
  sink : LogSink
  deriving DecidableEq, Repr

inductive Request
  | ownId
  | fork
  | newSession
  | openPipe
  /-- Reads some bytes from the pipe, at most the given count and none at its end. -/
  | receive (most : Nat)
  | send (bytes : List UInt8)
  | reap (child : Pid)
  | openNull
  /-- Lets a standard stream lead to the null device. -/
  | redirect (stream : Stream)
  | enterDirectory (path : String)
  /-- Sends a signal, or only looks whether the process exists. -/
  | kill (target : Pid) (signal : Option Signal)
  | sessionOf (target : Pid)
  | readStatus (target : Pid)
  deriving DecidableEq, Repr

abbrev Request.Reply : Request → Type
  | ownId => Pid
  | fork => Except ErrorCode Forked
  | newSession => Except ErrorCode Pid
  | openPipe => Except ErrorCode Unit
  | receive _ => Except ErrorCode (List UInt8)
  | send _ => Except ErrorCode Nat
  | reap _ => Except ErrorCode Unit
  | openNull => Except ErrorCode Unit
  | redirect _ => Except ErrorCode Unit
  | enterDirectory _ => Except ErrorCode Unit
  | kill _ _ => Except ErrorCode Unit
  | sessionOf _ => Except ErrorCode Pid
  | readStatus _ => Except ErrorCode ByteArray

/-- Everything a process can ask for. -/
inductive Call
  | ask (request : Request)
  /-- Reads the clock. -/
  | now
  | sleep (span : Span)
  /-- How often requests are still interrupted, at most. -/
  | interruptions
  | emit (event : LogEvent)
  | print (bytes : List UInt8)
  | complain (text : String)
  | readFile (path : String)
  | isDirectory (path : String)
  | openLog (path : String)
  | hasLogger
  | installLogger (logger : Logger)
  /-- Leaves a mark in the history. -/
  | mark (label : String)

abbrev Call.Answer : Call → Type
  | ask request => request.Reply
  | now => Span
  | sleep _ => Unit
  | interruptions => Nat
  | emit _ => Unit
  | print _ => Unit
  | complain _ => Unit
  | readFile _ => Except IoError ByteArray
  | isDirectory _ => Bool
  | openLog _ => Except IoError Location
  | hasLogger => Bool
  | installLogger _ => Unit
  | mark _ => Unit

end DaemonLaunch

import DaemonLaunch.Activity.Machine

/-!
Scripted systems: a system whose answers are laid down beforehand. Forks, reads and the first writes
are answered in order; other requests fail if the script says so. Processes to be watched live, die
at a time or after a signal, linger as dead ones until they are reaped, and then no longer exist.
-/

namespace DaemonLaunch

inductive ForkOutcome
  | parent (child : Pid)
  /-- The process goes on as the child with the given identifier. -/
  | child (self : Pid)
  | failed (code : ErrorCode)
  deriving DecidableEq, Repr

/-- The outcome of a read; no bytes are the end of the pipe. -/
inductive ReadOutcome
  | bytes (chunk : List UInt8)
  | failed (code : ErrorCode)
  deriving DecidableEq, Repr

inductive SendOutcome
  /-- It takes that many bytes at most. -/
  | takes (most : Nat)
  | failed (code : ErrorCode)
  deriving DecidableEq, Repr

structure Task where
  pid : Pid
  session : Pid := ⟨0⟩
  terminal : Int32 := 0
  name : String := "doublefork"
  state : String := "S"
  deadState : String := "Z"
  /-- The time from which on the process is dead. -/
  death : Option Span := none
  /-- The signals that the process dies of, with the delay. -/
  fatal : List (Signal × Span) := []
  /-- How long the dead process remains; for ever when absent. -/
  lingers : Option Span := none
  /-- The errors for signals, no signal being the test for existence. -/
  killErrors : List (Option Signal × ErrorCode) := []
  sessionError : Option ErrorCode := none
  statusError : Option ErrorCode := none
  statusLine : Option ByteArray := none

namespace Task

def isDead (task : Task) (now : Span) : Bool :=
  match task.death with
  | none => false
  | some death => death.nanoseconds ≤ now.nanoseconds

/-- A process exists as long as it lives or lingers. -/
def isPresent (task : Task) (now : Span) : Bool :=
  match task.death, task.lingers with
  | some death, some lingers => now.nanoseconds < death.nanoseconds + lingers.nanoseconds
  | _, _ => true

/-- The process after it has received a signal: a living one dies of a fatal signal after the delay,
unless it dies before. -/
def receive (task : Task) (signal : Signal) (now : Span) : Task :=
  match task.fatal.lookup signal with
  | none => task
  | some delay =>
    if task.isDead now then task
    else
      let due := now.nanoseconds + delay.nanoseconds
      match task.death with
      | some death => { task with death := some ⟨min death.nanoseconds due⟩ }
      | none => { task with death := some ⟨due⟩ }

def usualStatus (task : Task) (now : Span) : String :=
  let state := if task.isDead now then task.deadState else task.state
  task.pid.text ++ " (" ++ task.name ++ ") " ++ state ++ " 1 " ++ task.session.text ++ " " ++
    task.session.text ++ " " ++ Text.ofInt task.terminal.toInt ++ " -1 4194560 0 0\n"

def status (task : Task) (now : Span) : ByteArray :=
  task.statusLine.getD (task.usualStatus now).toUTF8

end Task

/-- The state of a scripted system. -/
structure Script where
  self : Pid := ⟨1000⟩
  forks : List ForkOutcome := []
  newSessionError : Option ErrorCode := none
  pipeError : Option ErrorCode := none
  reads : List ReadOutcome := []
  /-- The outcomes of the first writes; the error and the limit are those of all that follow. -/
  sends : List SendOutcome := []
  sendError : Option ErrorCode := none
  /-- The most bytes that a write takes. -/
  sendLimit : Option Nat := none
  reapError : Option ErrorCode := none
  nullError : Option ErrorCode := none
  redirectErrors : List (Stream × ErrorCode) := []
  directoryError : Option ErrorCode := none
  tasks : List Task := []
  /-- The bytes written to the pipe, once there is one. -/
  pipe : Option (List UInt8) := none

namespace Script

def orFail {α : Type} (failure : Option ErrorCode) (value : α) : Except ErrorCode α :=
  match failure with
  | some code => .error code
  | none => .ok value

def forked (s : Script) (self : Pid) (later : List ForkOutcome) : Script :=
  { s with self := self, forks := later }

def fork (s : Script) : Except ErrorCode Forked × Script :=
  match s.forks with
  | [] => (.error .notImplemented, s)
  | .parent child :: forks => (.ok (.parent child), s.forked s.self forks)
  | .child self :: forks => (.ok .child, s.forked self forks)
  | .failed code :: forks => (.error code, s.forked s.self forks)

def piped (s : Script) : Script := { s with pipe := some [] }

/-- The answer of a read and the reads that are left. -/
def nextRead (most : Nat) : List ReadOutcome → Except ErrorCode (List UInt8) × List ReadOutcome
  | [] => (.ok [], [])
  | .failed code :: reads => (.error code, reads)
  | .bytes chunk :: reads =>
    (.ok (chunk.take most), if most < chunk.length then .bytes (chunk.drop most) :: reads
      else reads)

def withReads (s : Script) (reads : List ReadOutcome) : Script := { s with reads := reads }

def receive (s : Script) (most : Nat) : Except ErrorCode (List UInt8) × Script :=
  let read := nextRead most s.reads
  (read.1, s.withReads read.2)

/-- The outcome of a write of that many bytes unless another one is laid down for it. -/
def usualSend (s : Script) (count : Nat) : SendOutcome :=
  match s.sendError with
  | some code => .failed code
  | none => .takes (s.sendLimit.getD count)

def sendOutcome (s : Script) (count : Nat) : SendOutcome := s.sends.head?.getD (s.usualSend count)

/-- The system with other writes to come, and with more bytes in the pipe. -/
def withSends (s : Script) (sends : List SendOutcome) (taken : List UInt8) : Script :=
  { s with sends := sends, pipe := s.pipe.map (· ++ taken) }

def send (s : Script) (bytes : List UInt8) : Except ErrorCode Nat × Script :=
  match s.sendOutcome bytes.length with
  | .failed code => (.error code, s.withSends s.sends.tail [])
  | .takes most => (.ok (bytes.take most).length, s.withSends s.sends.tail (bytes.take most))

/-- The process with an identifier, if it exists at the time. -/
def task? (s : Script) (pid : Pid) (now : Span) : Option Task :=
  s.tasks.find? fun task => task.pid = pid && task.isPresent now

def updateTask (s : Script) (pid : Pid) (change : Task → Task) : Script :=
  { s with tasks := s.tasks.map fun task => if task.pid = pid then change task else task }

def kill (s : Script) (pid : Pid) (signal : Option Signal) (now : Span) :
    Except ErrorCode Unit × Script :=
  match s.task? pid now with
  | none => (.error .noProcess, s)
  | some task =>
    match task.killErrors.lookup signal with
    | some code => (.error code, s)
    | none =>
      match signal with
      | none => (.ok (), s)
      | some signal => (.ok (), s.updateTask pid (·.receive signal now))

def sessionOf (s : Script) (pid : Pid) (now : Span) : Except ErrorCode Pid :=
  match s.task? pid now with
  | none => .error .noProcess
  | some task => orFail task.sessionError task.session

def readStatus (s : Script) (pid : Pid) (now : Span) : Except ErrorCode ByteArray :=
  match s.task? pid now with
  | none => .error .noEntry
  | some task => orFail task.statusError (task.status now)

/-- How many reads and writes are interrupted among those that are laid down. -/
def interruptions (s : Script) : Nat :=
  s.reads.count (.failed .interrupted) + s.sends.count (.failed .interrupted)

/-- The kernel that follows the script. -/
def kernel : Kernel Script where
  interruptions := interruptions
  serve
    | .ownId, _, s => (s.self, s)
    | .fork, _, s => s.fork
    | .newSession, _, s => (orFail s.newSessionError s.self, s)
    | .openPipe, _, s =>
      match s.pipeError with
      | some code => (.error code, s)
      | none => (.ok (), s.piped)
    | .receive most, _, s => s.receive most
    | .send bytes, _, s => s.send bytes
    | .reap _, _, s => (orFail s.reapError (), s)
    | .openNull, _, s => (orFail s.nullError (), s)
    | .redirect stream, _, s => (orFail (s.redirectErrors.lookup stream) (), s)
    | .enterDirectory _, _, s => (orFail s.directoryError (), s)
    | .kill pid signal, now, s => s.kill pid signal now
    | .sessionOf pid, now, s => (s.sessionOf pid now, s)
    | .readStatus pid, now, s => (s.readStatus pid now, s)

theorem forked_self (s : Script) : s.forked s.self s.forks = s := rfl

@[simp] theorem withReads_reads (s : Script) (reads : List ReadOutcome) :
    (s.withReads reads).reads = reads := rfl

theorem withReads_self (s : Script) : s.withReads s.reads = s := rfl

@[simp] theorem withReads_withReads (s : Script) (reads reads' : List ReadOutcome) :
    (s.withReads reads).withReads reads' = s.withReads reads' := rfl

theorem withSends_self (s : Script) : s.withSends s.sends [] = s := by
  simp only [withSends, List.append_nil, Option.map_id']

@[simp] theorem withSends_withSends (s : Script) (sends sends' : List SendOutcome)
    (taken taken' : List UInt8) :
    (s.withSends sends taken).withSends sends' taken' = s.withSends sends' (taken ++ taken') := by
  simp only [withSends, Option.map_map, Function.comp_def, List.append_assoc]

section Serving

variable (now : Span) (s : Script)

@[simp] theorem serve_fork : kernel.serve .fork now s = s.fork := rfl

@[simp] theorem serve_newSession :
    kernel.serve .newSession now s = (orFail s.newSessionError s.self, s) := rfl

@[simp] theorem serve_receive (most : Nat) : kernel.serve (.receive most) now s = s.receive most :=
  rfl

@[simp] theorem serve_send (bytes : List UInt8) : kernel.serve (.send bytes) now s = s.send bytes :=
  rfl

theorem serve_openPipe {s : Script} (h : s.pipeError = none) :
    kernel.serve .openPipe now s = (.ok (), s.piped) := by
  simp only [kernel, h]

end Serving

end Script

end DaemonLaunch

import DaemonLaunch.Word
import DaemonLaunch.Launch.Daemon

/-!
The record by which the process between the caller and the daemon reports what it has made: two
words, a tag and a value. The value is the identifier of the daemon or the number of an error.
-/

namespace DaemonLaunch

/-- What the process in between reports. -/
inductive Handoff
  | daemon (pid : Pid)
  /-- There is no new session, and so no daemon. -/
  | noSession (errno : Errno)
  | noFork (errno : Errno)
  deriving DecidableEq, Repr

namespace Handoff

def tag : Handoff → Int32
  | daemon _ => 0
  | noSession _ => 1
  | noFork _ => 2

def value : Handoff → Int32
  | daemon pid => pid.number
  | noSession errno | noFork errno => errno.code

/-- How many bytes a record takes. -/
def size : Nat := 8

def bytes (h : Handoff) : List UInt8 := Word.bytes h.tag ++ Word.bytes h.value

/-- The report with a tag and a value. A daemon must have a positive identifier; an error number is
brought to a known one. -/
def ofWords (tag value : Int32) : Except HandoffCause Handoff :=
  if tag = 0 ∧ 0 < value then .ok (.daemon ⟨value⟩)
  else if tag = 1 then .ok (.noSession (.ofCode value))
  else if tag = 2 then .ok (.noFork (.ofCode value))
  else .error (.badRecord tag value)

/-- The report at the start of a sequence of bytes; one that is cut short reports nothing. -/
def ofBytes : List UInt8 → Except HandoffCause Handoff
  | a :: b :: c :: d :: e :: f :: g :: h :: _ =>
    ofWords (Word.ofBytes a b c d) (Word.ofBytes e f g h)
  | _ => .error .silent

/-- The report that bytes stand for. -/
def decode (bytes : List UInt8) : Except LaunchError Handoff := (ofBytes bytes).mapError .handoff

theorem ofBytes_words_append (tag value : Int32) (rest : List UInt8) :
    ofBytes (Word.bytes tag ++ Word.bytes value ++ rest) = ofWords tag value := by
  simp only [Word.bytes, List.cons_append, List.nil_append, ofBytes, Word.ofBytes_bytes]

/-- What the report means to the caller. -/
def result : Handoff → Except LaunchError Daemon
  | daemon pid => .ok ⟨pid⟩
  | noSession errno => .error (.session errno)
  | noFork errno => .error (.fork .second errno)

open Activity

/-- Receives that many bytes from the pipe, however many come at a time. Reads are interrupted so
often at most, and then made again. -/
def receiveBytes : (interruptions count : Nat) → ExceptT HandoffCause Activity (List UInt8)
  | _, 0 => return []
  | interruptions, n + 1 => do
    match ← ask (.receive (n + 1)) with
    | .error code =>
      if _h : code = .interrupted ∧ 0 < interruptions then receiveBytes (interruptions - 1) (n + 1)
      else throw (.unreadable (.system code))
    | .ok [] => throw .silent
    | .ok (b :: chunk) => return b :: chunk ++ (← receiveBytes interruptions (n - chunk.length))
  -- a read that is made again has one interruption less to come, any other has fewer bytes
  termination_by interruptions count => interruptions + count
  decreasing_by all_goals omega

/-- Receives a report. -/
def receive : Launch Handoff := do
  let interruptions ← perform .interruptions
  let bytes ← ExceptT.adapt .handoff (receiveBytes interruptions size)
  decode bytes

end Handoff

end DaemonLaunch

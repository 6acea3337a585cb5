import DaemonLaunch.Errno.Table

/-!
Error numbers. A raw code is any word a failing call may leave behind; an `Errno` is one of the
known numbers, and every unknown code becomes the number zero.
-/

namespace DaemonLaunch

/-- The word with which a call fails. -/
abbrev ErrorCode := Int32

namespace ErrorCode

def noEntry : ErrorCode := 2
def noProcess : ErrorCode := 3
def interrupted : ErrorCode := 4
def notDirectory : ErrorCode := 20
def isDirectory : ErrorCode := 21
def nameTooLong : ErrorCode := 36
def notImplemented : ErrorCode := 38

/-- Whether the table has the code. -/
def isKnown (code : ErrorCode) : Bool := errnoTable.any fun entry => entry.number == code

end ErrorCode

structure Errno where
  code : ErrorCode
  known : code.isKnown = true := by decide
  deriving DecidableEq

namespace Errno

instance : Repr Errno := ⟨fun e n => Repr.reprPrec e.code.toInt n⟩

/-- The number that stands for every unknown code. -/
def unknown : Errno := ⟨0, by decide⟩

instance : Inhabited Errno := ⟨unknown⟩

def notPermitted : Errno := ⟨1, by decide⟩

/-- The known number of a code. -/
def ofCode (code : ErrorCode) : Errno :=
  if h : code.isKnown = true then ⟨code, h⟩ else unknown

@[simp] theorem ofCode_code (e : Errno) : ofCode e.code = e := by
  simp [ofCode, e.known]

private def entry (e : Errno) : ErrnoEntry :=
  (errnoTable.find? fun entry => entry.number == e.code).getD ⟨0, "", "", ""⟩

def name (e : Errno) : String := e.entry.name

/-- What the number means. -/
def description (e : Errno) : String := e.entry.description

def message (e : Errno) : String := e.name ++ ": " ++ e.description

end Errno

end DaemonLaunch

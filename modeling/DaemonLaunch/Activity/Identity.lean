import DaemonLaunch.Text.Numeral

/-!
Identifiers of processes and of sessions.
-/

namespace DaemonLaunch

/-- A process identifier. The system gives out positive ones; others may still be asked for. -/
structure Pid where
  number : Int32
  deriving DecidableEq, Repr, Inhabited

namespace Pid

def text (pid : Pid) : String := Text.ofInt pid.number.toInt

/-- The identifier as a word without sign. -/
def unsignedText (pid : Pid) : String := toString pid.number.toUInt32.toNat

instance : ToString Pid := ⟨Pid.text⟩

end Pid

inductive Stream
  | input
  | output
  | error
  deriving DecidableEq, Repr

namespace Stream

/-- All streams in the order of their descriptors. -/
def all : List Stream := [input, output, error]

def descriptor : Stream → Nat
  | input => 0
  | output => 1
  | error => 2

def name : Stream → String
  | input => "stdin"
  | output => "stdout"
  | error => "stderr"

end Stream

end DaemonLaunch

import DaemonLaunch.Proofs.HandoffRecord
import Mathlib.Data.Nat.Digits.Defs

/-!
All records of eight bytes. Which of them report something is told by their tag and their value, and
a record that reports something is written again as it was, but for error numbers that nobody knows.
-/

namespace DaemonLaunch

namespace Word

/-- The number that bytes stand for. The lowest byte comes first, and the highest one has the
sign. -/
def signedValue (bytes : List UInt8) : Int :=
  Int.bmod (Nat.ofDigits 256 (bytes.map UInt8.toNat) : Nat) (256 ^ bytes.length)

end Word

namespace Handoff

/-- What a buffer of eight bytes holds: a tag in its first half and a value in the other one. -/
structure Holds (buffer : List UInt8) (tag value : Int32) : Prop where
  length : buffer.length = size
  tag : tag.toInt = Word.signedValue (buffer.take 4)
  value : value.toInt = Word.signedValue (buffer.drop 4)

variable {buffer : List UInt8} {tag value : Int32} {report : Handoff}

/-- The value that is left of a record: of error numbers only the known ones are kept. -/
def kept (tag value : Int32) : Int32 := if tag = 0 ∨ ErrorCode.isKnown value then value else 0

/-- No error has the number 41. -/
example : (ofBytes [1, 0, 0, 0, 41, 0, 0, 0]).map bytes = .ok [1, 0, 0, 0, 0, 0, 0, 0] := by rfl

end Handoff

end DaemonLaunch

import DaemonLaunch.Settings.Field
import DaemonLaunch.Text.Cut

/-!
What can be wrong with a JSON document, and where. While reading, a fault keeps the text that is
left; the line and the column follow from how much of the document stands before it. Columns count
bytes since the last line feed.
-/

namespace DaemonLaunch.Json

inductive Problem
  | endInValue
  | endInList
  | endInObject
  | endInText
  | expectedValue
  | expectedIdent
  | expectedColon
  | expectedCommaOrBracket
  | expectedCommaOrBrace
  | keyNotText
  | trailingComma
  | trailingCharacters
  | badNumber
  | numberOutOfRange
  | badEscape
  | loneSurrogate
  | endOfHexEscape
  | controlCharacter
  | mismatch (m : Settings.Mismatch)
  | duplicate (field : Settings.Field)
  deriving DecidableEq, Repr

namespace Problem

private def ticked (s : String) : String := "\x60" ++ s ++ "\x60"

def message : Problem → String
  | endInValue => "EOF while parsing a value"
  | endInList => "EOF while parsing a list"
  | endInObject => "EOF while parsing an object"
  | endInText => "EOF while parsing a string"
  | expectedValue => "expected value"
  | expectedIdent => "expected ident"
  | expectedColon => "expected " ++ ticked ":"
  | expectedCommaOrBracket => "expected " ++ ticked "," ++ " or " ++ ticked "]"
  | expectedCommaOrBrace => "expected " ++ ticked "," ++ " or " ++ ticked "\x7d"
  | keyNotText => "key must be a string"
  | trailingComma => "trailing comma"
  | trailingCharacters => "trailing characters"
  | badNumber => "invalid number"
  | numberOutOfRange => "number out of range"
  | badEscape => "invalid escape"
  | loneSurrogate => "lone leading surrogate in hex escape"
  | endOfHexEscape => "unexpected end of hex escape"
  | controlCharacter => "control character (\\u0000-\\u001F) found while parsing a string"
  | mismatch m => m.message
  | duplicate field => "duplicate field " ++ ticked field.key

end Problem

/-- A problem met with `rest` still to be read, of which `ahead` bytes count as read. -/
structure Fault where
  problem : Problem
  rest : List Char
  ahead : Nat := 0

/-- A fault at the point reached. -/
def failAt {α : Type} (problem : Problem) (rest : List Char) : Except Fault α :=
  .error ⟨problem, rest, 0⟩

/-- A fault at the next character, which has been looked at. -/
def failOn {α : Type} (problem : Problem) (rest : List Char) : Except Fault α :=
  .error ⟨problem, rest, if rest.isEmpty then 0 else 1⟩

/-- The line and column reached after so many bytes of a text, from the given ones on. -/
def advance : Nat → Nat × Nat → List Char → Nat × Nat
  | _, place, [] => place
  | bytes, (line, column), c :: rest =>
    if bytes = 0 then (line, column)
    else if c == '\n' then advance (bytes - 1) (line + 1, 0) rest
    else if c.utf8Size ≤ bytes then advance (bytes - c.utf8Size) (line, column + c.utf8Size) rest
    else (line, column + bytes)

structure Error where
  problem : Problem
  line : Nat
  column : Nat
  deriving DecidableEq, Repr

/-- The fault with its place in the document. -/
def Fault.place (text : List Char) (fault : Fault) : Error :=
  let bytes := Text.byteCount text - Text.byteCount fault.rest + fault.ahead
  let (line, column) := advance bytes (1, 0) text
  ⟨fault.problem, line, column⟩

def Error.message (e : Error) : String :=
  e.problem.message ++ " at line " ++ toString e.line ++ " column " ++ toString e.column

end DaemonLaunch.Json

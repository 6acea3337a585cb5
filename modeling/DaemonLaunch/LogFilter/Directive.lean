import DaemonLaunch.LogFilter.Level
import DaemonLaunch.LogFilter.Pattern
import DaemonLaunch.Text.Cut

/-!
One directive of a log filter: `target[span{field=value}]=level`, every part optional. A machine
goes over the characters of the piece without the blanks at its ends, while the parts it finds are
cut at byte offsets out of the piece with its blanks; a cut inside a character breaks the reading
off.
-/

namespace DaemonLaunch.LogFilter

/-- Why a log filter cannot be read. -/
inductive FilterError
  | malformed
  | badLevel
  | badPattern
  /-- A part would end inside a character. -/
  | tornCharacter
  deriving DecidableEq, Repr

namespace FilterError

/-- What is said of a filter that is refused. The engine for patterns has texts of its own for the
patterns that it refuses, and `<regex error>` stands for them. -/
def message : FilterError → String
  | malformed => "invalid filter directive"
  | badLevel =>
    "error parsing level filter: expected one of \"off\", \"error\", \"warn\", \"info\", \"debug\", \"trace\", " ++
      "or a number 0-5"
  | badPattern => "invalid field filter: <regex error>"
  | tornCharacter => "byte index is not a character boundary"

end FilterError

/-- A field named by a directive, with or without a value to compare it with. -/
structure FieldMatch where
  name : List Char
  hasValue : Bool
  deriving DecidableEq, Repr

/-- Which events a threshold is set for. -/
structure Directive where
  threshold : Threshold := some .trace
  target : Option (List Char) := none
  span : Option (List Char) := none
  fields : List FieldMatch := []
  deriving DecidableEq, Repr

/-- Where the machine stands; offsets are those at which the part being read starts. -/
inductive DirectiveState
  | start
  | word (start : Nat)
  | span (start : Nat)
  | field (start : Nat)
  | fields
  | target
  | level (start : Nat)
  deriving DecidableEq, Repr

/-- A field is a name, or a name and a value that is a number or a pattern; what follows a second
sign is ignored. -/
def FieldMatch.ofText (text : List Char) : Except FilterError FieldMatch :=
  match text.splitOn '=' with
  | name :: value :: _ =>
    if Text.isDecimal value || isPattern value then .ok ⟨name, true⟩ else .error .badPattern
  | [name] => .ok ⟨name, false⟩
  | [] => .ok ⟨[], false⟩

namespace Directive

private def part (piece : List Char) (start stop : Nat) : Except FilterError (List Char) :=
  match Text.slice? piece start stop with
  | some text => .ok text
  | none => .error .tornCharacter

private def lastPart (piece : List Char) (start : Nat) : Except FilterError (List Char) :=
  match Text.dropBytes? start piece with
  | some text => .ok text
  | none => .error .tornCharacter

/-- One step of the machine at a character with the given offset. -/
def step (piece : List Char) (offset : Nat) (c : Char) (d : Directive) :
    DirectiveState → Except FilterError (Directive × DirectiveState)
  | .start =>
    if c == '[' then .ok (d, .span (offset + 1))
    else if Text.isLetterOrNumber c || c == '-' || c == ':' || c == '_' then .ok (d, .word offset)
    else .error .malformed
  | .word start =>
    if c == '=' then do
      let target ← part piece start offset
      return ({ d with target := some target }, .level (offset + 1))
    else if c == '[' then do
      let target ← part piece start offset
      return ({ d with target := some target }, .span (offset + 1))
    else .ok (d, .word start)
  | .span start =>
    if c == ']' then do
      let span ← part piece start offset
      return ({ d with span := some span }, .target)
    else if c == '{' then do
      let span ← part piece start offset
      return ({ d with span := if span.isEmpty then none else some span }, .field (offset + 1))
    else .ok (d, .span start)
  | .field start =>
    if c == '}' then do
      let text ← part piece start offset
      if text.isEmpty then throw .malformed
      let field ← FieldMatch.ofText text
      return ({ d with fields := d.fields ++ [field] }, .fields)
    else .ok (d, .field start)
  | .fields => if c == ']' then .ok (d, .target) else .error .malformed
  | .target => if c == '=' then .ok (d, .level (offset + 1)) else .error .malformed
  | .level start => .ok (d, .level start)

/-- What the state at the end makes of the rest of the piece. -/
def finish (piece : List Char) (d : Directive) : DirectiveState → Except FilterError Directive
  | .word start => do
    let text ← lastPart piece start
    match if text.isEmpty then some (some .trace) else Threshold.ofText? text with
    | some threshold => return { d with threshold := threshold, target := none }
    | none => return { d with threshold := some .trace, target := some text }
  | .level start => do
    let text ← lastPart piece start
    match if text.isEmpty then some (some .trace) else Threshold.ofText? text with
    | some threshold => return { d with threshold := threshold }
    | none => throw .badLevel
  | .target => return d
  | _ => throw .malformed

/-- The machine over the characters from an offset on. -/
def scan (piece : List Char) (offset : Nat) (d : Directive) (state : DirectiveState) :
    List Char → Except FilterError Directive
  | [] => finish piece d state
  | c :: rest => do
    let (d, state) ← step piece offset c d state
    scan piece (offset + c.utf8Size) d state rest

/-- The directive that a piece of a log filter stands for. -/
def ofText (piece : List Char) : Except FilterError Directive :=
  scan piece 0 {} .start (Text.trim piece)

end Directive

end DaemonLaunch.LogFilter

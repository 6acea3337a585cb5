import DaemonLaunch.Text.Letter
import DaemonLaunch.LogFilter.Pattern.Bracket

/-!
Which texts are search patterns that a field of a log filter may be compared with. Patterns are
regular expressions over text, without back references and without looking around. They end before a
closing brace, so that the counted repetition, which needs one, is never complete. Values of fields
never occur, so a pattern is only checked.
-/

namespace DaemonLaunch.LogFilter.Pattern

/-- One part of a branch. -/
inductive Part
  /-- Flags for what follows. They are nothing that can be repeated. -/
  | setting
  | piece (depth : Nat)

def Part.depth : Part → Nat
  | setting => 0
  | piece depth => depth

/-- The whole pattern, or a group that is still open. -/
structure Scope where
  /-- The mode of what is read next. -/
  mode : Mode := {}
  /-- The depths of the finished branches. -/
  branches : List Nat := []
  /-- The parts of the present branch, the last one first. -/
  parts : List Part := []

namespace Scope

def add (scope : Scope) (part : Part) : Scope := { scope with parts := part :: scope.parts }

def branch (scope : Scope) : Nat := together (scope.parts.map Part.depth)

def depth (scope : Scope) : Nat := together (scope.branch :: scope.branches)

/-- The scope at the start of its next branch. -/
def nextBranch (scope : Scope) : Scope :=
  { scope with branches := scope.branch :: scope.branches, parts := [] }

/-- The scope with its last part repeated, if there is one that can be. -/
def repeatLast? (scope : Scope) : Option Scope :=
  match scope.parts with
  | .piece depth :: parts => some { scope with parts := .piece (depth + 1) :: parts }
  | _ => none

end Scope

/-- What has been read of a pattern. -/
structure Reading where
  scope : Scope := {}
  /-- The scopes around the present one, the innermost first. -/
  outer : List Scope := []
  /-- The names of groups, which are all different. -/
  names : List (List Char) := []

namespace Reading

/-- The reading inside a new group. -/
def enter (reading : Reading) (mode : Mode) : Reading :=
  { reading with scope := { mode := mode }, outer := reading.scope :: reading.outer }

/-- The reading after the end of the present group. -/
def leave? (reading : Reading) : Option Reading :=
  match reading.outer with
  | [] => none
  | around :: outer =>
    some { reading with scope := around.add (.piece (reading.scope.depth + 1)), outer := outer }

def add (reading : Reading) (part : Part) : Reading :=
  { reading with scope := reading.scope.add part }

private def isName (name : List Char) : Bool :=
  match name with
  | [] => false
  | first :: more =>
    (first == '_' || Text.isLetter first) &&
      more.all fun c => "_.[]".toList.contains c || Text.isLetterOrNumber c

private def enterNamed (reading : Reading) (text : List Char) : Option (Reading × List Char) :=
  let name := text.takeWhile (· != '>')
  match text.dropWhile (· != '>') with
  | [] => none
  | _ :: rest =>
    if isName name && !reading.names.contains name then
      some ({ reading.enter reading.scope.mode with names := name :: reading.names }, rest)
    else none

private def openGroup (reading : Reading) (text : List Char) : Option (Reading × List Char) :=
  match reading.scope.mode.skip text with
  | '?' :: 'P' :: '<' :: rest | '?' :: '<' :: rest => reading.enterNamed rest
  | '?' :: rest =>
    match Flags.read { mode := reading.scope.mode } rest with
    | some (flags, ':' :: rest) => some (reading.enter flags.mode, rest)
    | some (flags, _ :: rest) =>
      if flags.seen.isEmpty then none
      else some ({ reading with scope := { reading.scope with mode := flags.mode } }.add .setting,
        rest)
    | _ => none
  | text => some (reading.enter reading.scope.mode, text)

private def addAtom (reading : Reading) (atom : Atom) (rest : List Char) :
    Option (Reading × List Char) :=
  if atom.isUsable reading.scope.mode then some (reading.add (.piece 0), rest) else none

/-- The reading after the next character and what belongs to it, and the rest. -/
def step (reading : Reading) (c : Char) (rest : List Char) : Option (Reading × List Char) :=
  match c with
  | '(' => reading.openGroup rest
  | ')' => reading.leave?.map fun reading => (reading, rest)
  | '|' => some ({ reading with scope := reading.scope.nextBranch }, rest)
  | '[' => (readBracket reading.scope.mode rest).map fun (depth, rest) =>
    (reading.add (.piece depth), rest)
  | '?' | '*' | '+' =>
    reading.scope.repeatLast?.map fun scope =>
      ({ reading with scope := scope }, if rest.head? == some '?' then rest.tail else rest)
  | '{' => none
  | '\\' => (Atom.readEscape reading.scope.mode rest).bind fun (atom, rest) =>
    reading.addAtom atom rest
  | '.' => reading.addAtom .anyCharacter rest
  | '^' | '$' => reading.addAtom .border rest
  | c => reading.addAtom (.literal c) rest

/-- The reading after the whole text; `fuel` bounds the steps. -/
def finish? : Nat → Reading → List Char → Option Reading
  | 0, _, _ => none
  | fuel + 1, reading, text =>
    match reading.scope.mode.skip text with
    | [] => some reading
    | c :: rest => (reading.step c rest).bind fun (reading, rest) => finish? fuel reading rest

end Reading

end DaemonLaunch.LogFilter.Pattern

namespace DaemonLaunch.LogFilter

/-- Whether the text is a search pattern: it can be read to its end, no group is left open, and it
does not nest too deep. -/
def isPattern (text : List Char) : Bool :=
  match Pattern.Reading.finish? (text.length + 1) {} text with
  | some reading => reading.outer.isEmpty && reading.scope.depth ≤ Pattern.mostNesting
  | none => false

end DaemonLaunch.LogFilter

import DaemonLaunch.LogFilter.Pattern.Atom
import DaemonLaunch.LogFilter.Pattern.Nesting

/-!
Characters between brackets: single ones, ranges, named classes, further brackets, and the operators
between sets of them. A pattern is never matched here, so reading keeps of the brackets only how
deep they nest.
-/

namespace DaemonLaunch.LogFilter.Pattern

/-- Brackets that are still open. -/
structure Bracket where
  /-- The depth of all that stands before the last operator. -/
  before : Option Nat := none
  /-- The depths of the members after it. -/
  members : List Nat := []
  /-- Whether nothing but hyphens has been read. -/
  fresh : Bool := false

namespace Bracket

/-- The depth of what the brackets hold so far. -/
def depth (bracket : Bracket) : Nat :=
  match bracket.before with
  | none => together bracket.members
  | some before => max before (together bracket.members) + 1

def add (bracket : Bracket) (depth : Nat) : Bracket :=
  { bracket with members := depth :: bracket.members, fresh := false }

/-- The brackets after an operator. -/
def operate (bracket : Bracket) : Bracket := { before := some bracket.depth }

/-- Whether a hyphen or a closing bracket stands for itself here: hyphens do at the start of
brackets, and a closing bracket as the very first member. -/
def takesSign (bracket : Bracket) (c : Char) : Bool :=
  bracket.fresh && (c == '-' || (c == ']' && bracket.members.isEmpty))

/-- The brackets with a sign that stands for itself. -/
def addSign (bracket : Bracket) (c : Char) : Bracket :=
  { bracket with members := 0 :: bracket.members, fresh := c == '-' }

end Bracket

private def openBracket? (mode : Mode) (text : List Char) : Option (List Char) :=
  -- without Unicode the characters that are not named include halves of characters, so a caret is
  -- refused
  match mode.skip text with
  | '^' :: rest => if mode.unicode then some rest else none
  | text => some text

private def namedClasses : List String :=
  ["alnum", "alpha", "ascii", "blank", "cntrl", "digit", "graph", "lower", "print", "punct",
    "space", "upper",
    "word", "xdigit"]

private def readNamedClass (text : List Char) : Option (Bool × List Char) :=
  match text with
  | ':' :: text =>
    let negated := text.head? == some '^'
    let text := if negated then text.tail else text
    match text.dropWhile (· != ':') with
    | ':' :: ']' :: rest =>
      if namedClasses.contains (String.ofList (text.takeWhile (· != ':'))) then some (negated, rest)
      else none
    | _ => none
  | _ => none

private def isNamedMember (mode : Mode) (negated : Bool) : Bool :=
  if mode.unicode then !mode.foldCase else !negated

private def readAtom (mode : Mode) : List Char → Option (Atom × List Char)
  | [] => none
  | '\\' :: rest => Atom.readEscape mode rest
  | c :: rest => some (.literal c, rest)

private def readMember (mode : Mode) (text : List Char) : Option (List Char) :=
  (readAtom mode text).bind fun (first, rest) =>
    let alone (rest : List Char) : Option (List Char) :=
      if first.isMember mode then some rest else none
    match mode.skip rest with
    | '-' :: more =>
      let next := mode.afterHyphen? more
      if next == some ']' || next == some '-' then alone ('-' :: more)
      else (readAtom mode (mode.skip more)).bind fun (last, rest) =>
        match first.char?, last.char? with
        | some a, some b =>
          if a ≤ b && first.isMember mode && last.isMember mode then some rest else none
        | _, _ => none
    | rest => alone rest

private def readMembers (mode : Mode) :
    Nat → Bracket → List Bracket → List Char → Option (Nat × List Char)
  | 0, _, _, _ => none
  | fuel + 1, bracket, outer, text =>
    match mode.skip text with
    | [] => none
    | c :: rest =>
      if bracket.takesSign c then
        if (Atom.literal c).isMember mode then readMembers mode fuel (bracket.addSign c) outer rest
        else none
      else match c, rest with
        | '[', rest =>
          match readNamedClass rest with
          | some (negated, rest) =>
            if isNamedMember mode negated then readMembers mode fuel (bracket.add 0) outer rest
            else none
          | none =>
            (openBracket? mode rest).bind
              (readMembers mode fuel { fresh := true } (bracket :: outer))
        | ']', rest => match outer with
          | [] => some (bracket.depth + 1, rest)
          | around :: outer => readMembers mode fuel (around.add (bracket.depth + 1)) outer rest
        | '&', '&' :: rest | '-', '-' :: rest | '~', '~' :: rest =>
          readMembers mode fuel bracket.operate outer rest
        | c, rest =>
          (readMember mode (c :: rest)).bind (readMembers mode fuel (bracket.add 0) outer)

/-- The depth of brackets and the rest after them, in the text after the first of them. -/
def readBracket (mode : Mode) (text : List Char) : Option (Nat × List Char) :=
  (openBracket? mode text).bind fun text =>
    readMembers mode (text.length + 1) { fresh := true } [] text

end DaemonLaunch.LogFilter.Pattern

import DaemonLaunch.LogFilter.Pattern.Mode
import DaemonLaunch.Text.Hexadecimal

/-!
Atoms of a pattern: what stands for one character or for one place. Which of them a pattern may use
depends on the mode. The tables of letter pairs and of character classes for all scripts are not
available, so ignoring case and the classes named by a letter need a mode without Unicode; and a
mode without Unicode must not match half a character.
-/

namespace DaemonLaunch.LogFilter.Pattern

/-- One character or one place of a pattern. -/
inductive Atom
  | literal (c : Char)
  /-- A character up to two hundred and fifty-five given by its number in two digits. Without
  Unicode it is a byte. -/
  | byte (c : Char)
  | anyCharacter
  /-- Digits, white space or word characters, or all others. -/
  | shorthand (negated : Bool)
  /-- The start or end of the text or of a line. -/
  | border
  /-- A start or end of a word, or a place that is neither. -/
  | wordBorder
  deriving DecidableEq, Repr

namespace Atom

/-- The character that the atom stands for, if it stands for a single one. -/
def char? : Atom → Option Char
  | literal c | byte c => some c
  | _ => none

/-- Whether a pattern may hold the atom outside brackets. -/
def isUsable (mode : Mode) : Atom → Bool
  | literal _ => !(mode.unicode && mode.foldCase)
  | byte c => if mode.unicode then !mode.foldCase else c.toNat < 0x80
  | anyCharacter => mode.unicode
  | shorthand negated => !mode.unicode && !negated
  | border => true
  | wordBorder => !mode.unicode

/-- Whether a pattern may hold the atom inside brackets. -/
def isMember (mode : Mode) : Atom → Bool
  | literal c | byte c => if mode.unicode then !mode.foldCase else c.toNat < 0x80
  | shorthand negated => !mode.unicode && !negated
  | _ => false

private def readNumber (mode : Mode) : Nat → Nat → List Char → Option (Nat × List Char)
  | 0, value, text => some (value, text)
  | count + 1, value, text =>
    match mode.skip text with
    | [] => none
    | c :: rest => (Text.hexDigit? c).bind fun digit =>
      readNumber mode count (16 * value + digit) rest

private def readNumbered (mode : Mode) (count : Nat) (text : List Char) :
    Option (Char × List Char) :=
  (readNumber mode count 0 text).bind fun (code, rest) =>
    if code.isValidChar then some (Char.ofNat code, rest) else none

/-- The atom after a backslash, and the rest. An ASCII character that is no letter and no digit
stands for itself. -/
def readEscape (mode : Mode) : List Char → Option (Atom × List Char)
  | [] => none
  | c :: rest =>
    match c with
    | 'x' => (readNumbered mode 2 rest).map fun (c, rest) => (byte c, rest)
    | 'u' => (readNumbered mode 4 rest).map fun (c, rest) => (literal c, rest)
    | 'U' => (readNumbered mode 8 rest).map fun (c, rest) => (literal c, rest)
    | 'd' | 's' | 'w' => some (shorthand false, rest)
    | 'D' | 'S' | 'W' => some (shorthand true, rest)
    | 'A' | 'z' => some (border, rest)
    | 'b' | 'B' | '<' | '>' => some (wordBorder, rest)
    | 'a' => some (literal '\x07', rest)
    | 't' => some (literal '\t', rest)
    | 'n' => some (literal '\n', rest)
    | 'v' => some (literal '\x0b', rest)
    | 'f' => some (literal '\x0c', rest)
    | 'r' => some (literal '\r', rest)
    | c => if c.toNat < 0x80 && !c.isAlphanum then some (literal c, rest) else none

end Atom

end DaemonLaunch.LogFilter.Pattern

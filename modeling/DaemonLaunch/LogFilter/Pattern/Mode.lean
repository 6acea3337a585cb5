import DaemonLaunch.Text.Blank

/-!
Modes of a pattern: which of its stretches ignore the case of letters, which speak of bytes in place
of Unicode, and which are spaced, so that blanks and comments between their parts count for nothing.
Flags change the mode.
-/

namespace DaemonLaunch.LogFilter.Pattern

/-- How a stretch of a pattern is read. -/
structure Mode where
  foldCase : Bool := false
  unicode : Bool := true
  spaced : Bool := false
  deriving DecidableEq, Repr

namespace Mode

private def dropComments : Bool → List Char → List Char
  | _, [] => []
  | true, c :: rest => dropComments (c != '\n') rest
  | false, c :: rest =>
    if c == '#' then dropComments true rest
    else if Text.isBlank c then dropComments false rest
    else c :: rest

/-- The text from the next character that counts. -/
def skip (mode : Mode) (text : List Char) : List Char :=
  if mode.spaced then dropComments false text else text

/-- The character that tells what a hyphen inside brackets is, in the text after the hyphen. Blanks
are passed over in a spaced pattern, and so is the sign that opens a comment, but not the comment
itself. -/
def afterHyphen? (mode : Mode) (text : List Char) : Option Char :=
  if mode.spaced then
    match text.dropWhile Text.isBlank with
    | '#' :: comment => (comment.dropWhile Text.isBlank).head?
    | rest => rest.head?
  else text.head?

/-- The mode with one flag switched on or off. Some flags only change what is matched, not what is a
pattern. -/
def set? (mode : Mode) (on : Bool) : Char → Option Mode
  | 'i' => some { mode with foldCase := on }
  | 'u' => some { mode with unicode := on }
  | 'x' => some { mode with spaced := on }
  | 'm' | 's' | 'U' | 'R' => some mode
  | _ => none

end Mode

/-- What a run of flags has come to: the mode, the flags seen, and whether they are being switched
on. -/
structure Flags where
  mode : Mode
  seen : List Char := []
  on : Bool := true

namespace Flags

/-- One flag, or the hyphen before those that are switched off. Nothing may be said twice. -/
def add? (flags : Flags) (c : Char) : Option Flags :=
  if flags.seen.contains c then none
  else if c == '-' then some { flags with seen := c :: flags.seen, on := false }
  else
    (flags.mode.set? flags.on c).map fun mode => { flags with mode := mode, seen := c :: flags.seen }

/-- The flags up to the colon or parenthesis that ends them, and the text from there on. A hyphen is
not the last. -/
def read (flags : Flags) : List Char → Option (Flags × List Char)
  | [] => none
  | c :: rest =>
    if c == ':' || c == ')' then
      if flags.seen.head? == some '-' then none else some (flags, c :: rest)
    else (flags.add? c).bind fun flags => read flags rest

end Flags

end DaemonLaunch.LogFilter.Pattern

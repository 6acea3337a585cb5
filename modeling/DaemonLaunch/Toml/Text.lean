import DaemonLaunch.Text.Hexadecimal

/-!
Blanks, comments and quoted texts of TOML. Every reader gives what it has read and the text that is
left.
-/

namespace DaemonLaunch.Toml

def isSpace (c : Char) : Bool := c == ' ' || c == '\t'

/-- The text from the next character that is not a blank within the line. -/
def skipSpace (text : List Char) : List Char := text.dropWhile isSpace

/-- The characters that may stand as they are in comments and in quoted texts. -/
def isPlain (c : Char) : Bool := c == '\t' || (0x20 ≤ c.toNat && c.toNat ≤ 0x7e) || 0x80 ≤ c.toNat

def readNewline : List Char → Option (List Char)
  | '\n' :: rest => some rest
  | '\r' :: '\n' :: rest => some rest
  | _ => none

/-- The text after the blanks, the comment and the end that close a line; the document may end there
too. -/
def readLineEnd (text : List Char) : Option (List Char) :=
  let rest := match skipSpace text with
    | '#' :: rest => rest.dropWhile isPlain
    | rest => rest
  if rest.isEmpty then some [] else readNewline rest

/-- The text after blanks, comments and ends of lines. -/
def skipTrivia (text : List Char) : List Char := go false text
where
  go : Bool → List Char → List Char
    | _, [] => []
    | inComment, c :: rest =>
      if c == '\n' then go false rest
      else if c == '\r' && rest.head? == some '\n' then go false rest
      else if inComment then if isPlain c then go true rest else c :: rest
      else if c == '#' then go true rest
      else if isSpace c then go false rest
      else c :: rest

/-- The number given by hexadecimal digits. -/
def hexValue? (digits : List Char) : Option Nat :=
  digits.foldl (fun value c => value.bind fun n => (Text.hexDigit? c).map (16 * n + ·)) (some 0)

private def readScalar (count : Nat) (text : List Char) : Option Char :=
  let digits := text.take count
  if digits.length < count then none
  else (hexValue? digits).bind fun code => if code.isValidChar then some (Char.ofNat code) else none

/-- The character that an escape stands for and the count of characters after the backslash. -/
def readEscape : List Char → Option (Char × Nat)
  | [] => none
  | c :: rest =>
    match c with
    | 'b' => some ('\x08', 1)
    | 't' => some ('\t', 1)
    | 'n' => some ('\n', 1)
    | 'f' => some ('\x0c', 1)
    | 'r' => some ('\r', 1)
    | '"' => some ('"', 1)
    | '\\' => some ('\\', 1)
    | 'u' => (readScalar 4 rest).map (·, 5)
    | 'U' => (readScalar 8 rest).map (·, 9)
    | _ => none

/-- A text on one line up to its closing mark, after passing over the given count of characters.
Escapes are replaced between double quotes only. -/
def readLineFrom (mark : Char) (passed : Nat) : List Char → Option (List Char × List Char)
  | [] => none
  | c :: rest =>
    match passed with
    | passed + 1 => readLineFrom mark passed rest
    | 0 =>
      if c == mark then some ([], rest)
      else if c == '\\' && mark == '"' then do
        let (meant, count) ← readEscape rest
        let (more, left) ← readLineFrom mark count rest
        return (meant :: more, left)
      else if isPlain c then do
        let (more, left) ← readLineFrom mark 0 rest
        return (c :: more, left)
      else none

section LineSteps

variable {mark c : Char} {rest more left : List Char}

theorem readLineFrom_mark : readLineFrom mark 0 (mark :: rest) = some ([], rest) := by
  simp [readLineFrom]

theorem readLineFrom_plain (hmark : c ≠ mark) (hescape : c ≠ '\\') (hplain : isPlain c = true)
    (h : readLineFrom mark 0 rest = some (more, left)) :
    readLineFrom mark 0 (c :: rest) = some (c :: more, left) := by
  simp [readLineFrom, hmark, hescape, hplain, h]

theorem readLineFrom_escaped (hc : c = '"' ∨ c = '\\')
    (h : readLineFrom '"' 0 rest = some (more, left)) :
    readLineFrom '"' 0 ('\\' :: c :: rest) = some (c :: more, left) := by
  obtain rfl | rfl := hc
  all_goals simp [readLineFrom, readEscape, h]

theorem readLineFrom_code {a b : Char} {high low : Nat} (ha : Text.hexDigit? a = some high)
    (hb : Text.hexDigit? b = some low)
    (hcode : (16 * high + low).isValidChar) (h : readLineFrom '"' 0 rest = some (more, left)) :
    readLineFrom '"' 0 ('\\' :: 'u' :: '0' :: '0' :: a :: b :: rest) =
      some (Char.ofNat (16 * high + low) :: more, left) := by
  have hzero : Text.hexDigit? '0' = some 0 := by decide
  have hvalue : hexValue? ['0', '0', a, b] = some (16 * high + low) := by
    simp [hexValue?, hzero, ha, hb]
  have hescape : readEscape ('u' :: '0' :: '0' :: a :: b :: rest) =
      some (Char.ofNat (16 * high + low), 5) := by
    simp [readEscape, readScalar, hvalue, hcode]
  simp [readLineFrom, hescape, h]

end LineSteps

private def continuation (text : List Char) : Option Nat :=
  match readNewline (skipSpace text) with
  | none => none
  | some rest => some (text.length - (go rest).length)
where
  go : List Char → List Char
    | [] => []
    | c :: rest =>
      if isSpace c || c == '\n' || (c == '\r' && rest.head? == some '\n') then go rest
      else c :: rest

/-- A text over several lines up to its three closing marks, after passing over the given count of
characters. One or two marks may stand in the text, also right before the closing ones. -/
def readLinesFrom (mark : Char) (passed : Nat) : List Char → Option (List Char × List Char)
  | [] => none
  | c :: rest =>
    match passed with
    | passed + 1 => readLinesFrom mark passed rest
    | 0 =>
      if c == mark then
        let run := rest.takeWhile (· == mark)
        if run.length < 2 then do
          let (more, left) ← readLinesFrom mark run.length rest
          return (c :: run ++ more, left)
        else if run.length ≤ 4 then some (run.drop 2, rest.dropWhile (· == mark))
        else none
      else if c == '\\' && mark == '"' then
        match continuation rest with
        | some count => readLinesFrom mark count rest
        | none => do
          let (meant, count) ← readEscape rest
          let (more, left) ← readLinesFrom mark count rest
          return (meant :: more, left)
      else if c == '\r' then if rest.head? == some '\n' then readLinesFrom mark 0 rest else none
      else if c == '\n' || isPlain c then do
        let (more, left) ← readLinesFrom mark 0 rest
        return (c :: more, left)
      else none

/-- A quoted text of any kind. A line that ends right after three opening marks does not count. -/
def readQuoted (text : List Char) : Option (String × List Char) := do
  let (chars, rest) ← match text with
    | '"' :: '"' :: '"' :: rest => readLinesFrom '"' 0 ((readNewline rest).getD rest)
    | '\'' :: '\'' :: '\'' :: rest => readLinesFrom '\'' 0 ((readNewline rest).getD rest)
    | '"' :: rest => readLineFrom '"' 0 rest
    | '\'' :: rest => readLineFrom '\'' 0 rest
    | _ => none
  return (String.ofList chars, rest)

theorem readQuoted_line {text chars rest : List Char} (hline : ∀ more, text ≠ '"' :: '"' :: more)
    (h : readLineFrom '"' 0 text = some (chars, rest)) :
    readQuoted ('"' :: text) = some (String.ofList chars, rest) := by
  rw [readQuoted, h]
  · rfl
  · exact hline

/-- A quoted text on one line. -/
def readQuotedLine (text : List Char) : Option (String × List Char) := do
  let (chars, rest) ← match text with
    | '"' :: rest => readLineFrom '"' 0 rest
    | '\'' :: rest => readLineFrom '\'' 0 rest
    | _ => none
  return (String.ofList chars, rest)

end DaemonLaunch.Toml

import DaemonLaunch.Toml.Number
import DaemonLaunch.Toml.Contents
import DaemonLaunch.Settings.Draft
import DaemonLaunch.Text.Cut

/-!
Settings as a TOML document. The whole document is read before the first field is looked at, so a
syntax error anywhere comes before a value of the wrong kind; only the latter is shown with its
line.
-/

namespace DaemonLaunch.Toml

open Settings (Value Field Draft Mismatch)

/-- Values nest, and keys have parts, fewer than so many times. -/
def nestingLimit : Nat := 80

def isBare (c : Char) : Bool := c.isAlphanum || c == '_' || c == '-'

/-- One part of a key, bare or quoted. -/
def readKeyPart (text : List Char) : Option (String × List Char) :=
  match text with
  | '"' :: _ | '\'' :: _ => readQuotedLine text
  | _ =>
    let bare := text.takeWhile isBare
    if bare.isEmpty then none else some (String.ofList bare, text.dropWhile isBare)

private def readKeyParts : Nat → List Char → Option (List String × List Char)
  | 0, _ => none
  | fuel + 1, text => do
    let (part, rest) ← readKeyPart (skipSpace text)
    match skipSpace rest with
    | '.' :: rest => do
      let (parts, rest) ← readKeyParts fuel rest
      return (part :: parts, rest)
    | rest => return ([part], rest)

def readKey (text : List Char) : Option (KeyPath × List Char) := do
  let start := skipSpace text
  let (_, stop) ← readKeyPart start
  let (keys, rest) ← readKeyParts (text.length + 1) text
  if keys.length < nestingLimit then return (⟨keys, ⟨start, stop⟩⟩, rest) else none

private def readEquals : List Char → Option (List Char)
  | '=' :: rest => some (skipSpace rest)
  | _ => none

private def readItems (readItem : List Char → Option (Value × List Char)) :
    Nat → List Char → Option (List Char)
  | 0, _ => none
  | fuel + 1, text =>
    match skipTrivia text with
    | ']' :: rest => some rest
    | text => do
      let (_, rest) ← readItem text
      match skipTrivia rest with
      | ',' :: rest => readItems readItem fuel rest
      | ']' :: rest => return rest
      | _ => none

private def readPairs (readItem : List Char → Option (Value × List Char)) :
    Nat → InlineNames → List Char → Option (List Char)
  | 0, _, _ => none
  | fuel + 1, names, text => do
    let (path, rest) ← readKey text
    let (_, rest) ← readItem (← readEquals rest)
    let names ← names.add path.keys
    match skipSpace rest with
    | ',' :: rest => readPairs readItem fuel names rest
    | '}' :: rest => return rest
    | _ => none

/-- A value in which others may nest so many times. -/
def readValue (depth : Nat) (text : List Char) : Option (Value × List Char) :=
  match text with
  | '[' :: rest =>
    match depth with
    | 0 => none
    | depth + 1 => (readItems (readValue depth) (rest.length + 1) rest).map (.sequence, ·)
  | '{' :: rest =>
    match depth with
    | 0 => none
    | depth + 1 =>
      match skipSpace rest with
      | '}' :: rest => some (.map, rest)
      | _ => (readPairs (readValue depth) (rest.length + 1) [] rest).map (.map, ·)
  | '"' :: _ | '\'' :: _ => (readQuoted text).map fun (s, rest) => (.text s, rest)
  | 't' :: 'r' :: 'u' :: 'e' :: rest => some (.boolean true, rest)
  | 'f' :: 'a' :: 'l' :: 's' :: 'e' :: rest => some (.boolean false, rest)
  | _ => readNumber text

private def readHeader (c : Contents) (text : List Char) : Option (Contents × List Char) :=
  match text with
  | '[' :: '[' :: rest => do
    let (path, rest) ← readKey rest
    match rest with
    | ']' :: ']' :: rest => return (← c.openTables path ⟨text, rest⟩, ← readLineEnd rest)
    | _ => none
  | '[' :: rest => do
    let (path, rest) ← readKey rest
    match rest with
    | ']' :: rest => return (← c.openTable path ⟨text, rest⟩, ← readLineEnd rest)
    | _ => none
  | _ => none

/-- A key and its value up to the end of the line. -/
def readPair (c : Contents) (text : List Char) : Option (Contents × List Char) := do
  let (path, rest) ← readKey text
  let start ← readEquals rest
  let (value, stop) ← readValue (nestingLimit - 1) start
  return (← c.addValue path value ⟨start, stop⟩, ← readLineEnd stop)

/-- The lines of a document; `fuel` bounds their count. -/
def readLines : Nat → Contents → List Char → Option Contents
  | 0, _, _ => none
  | fuel + 1, c, text =>
    match skipSpace text with
    | [] => some c
    | '#' :: rest => do readLines fuel c (← readLineEnd ('#' :: rest))
    | '[' :: rest => do
      let (c, rest) ← readHeader c ('[' :: rest)
      readLines fuel c rest
    | '\n' :: rest => readLines fuel c rest
    | '\r' :: rest => do readLines fuel c (← readNewline ('\r' :: rest))
    | text => do
      let (c, rest) ← readPair c text
      readLines fuel c rest

/-- The contents of a document, which may start with a byte order mark. -/
def readDocument (text : List Char) : Option Contents :=
  let start := match text with
    | '\ufeff' :: rest => rest
    | _ => text
  readLines (start.length + 1) {} start

section Scalars

variable {rest left : List Char} (depth : Nat)

theorem readValue_number {c : Char} (hc : c = '-' ∨ c.isDigit = true) :
    readValue depth (c :: rest) = readNumber (c :: rest) := by
  have hne : ∀ {x : Char} {more more' : List Char}, x.isDigit = false → x ≠ '-' →
      c :: more ≠ x :: more' := by
    intro x more more' hdigit hminus heq
    obtain rfl | hc := hc
    · exact hminus (List.cons.inj heq).1.symm
    · exact Text.ne_of_isDigit hc hdigit (List.cons.inj heq).1
  rw [readValue]
  all_goals exact fun more => hne (by decide) (by decide)

theorem readValue_boolean (b : Bool) :
    readValue depth ((if b then "true" else "false").toList ++ rest) = some (.boolean b, rest) := by
  cases b with
  | false => simp [readValue]
  | true => simp [readValue]

theorem readValue_quoted {s : String} (h : readQuoted ('"' :: rest) = some (s, left)) :
    readValue depth ('"' :: rest) = some (.text s, left) := by
  simp [readValue, h]

end Scalars

section BareKeys

variable {key : String} {rest : List Char} (hne : key ≠ "")
  (hbare : ∀ c ∈ key.toList, isBare c = true)

private theorem ne_of_isBare {c d : Char} (hc : isBare c = true) (hd : isBare d = false) :
    c ≠ d := by
  rintro rfl
  rw [hc] at hd
  cases hd

include hne hbare in
private theorem exists_cons_of_bare : ∃ c more, key.toList = c :: more ∧ isBare c = true := by
  obtain ⟨c, more, hcons⟩ := List.exists_cons_of_ne_nil (show key.toList ≠ [] by simpa using hne)
  exact ⟨c, more, hcons, hbare c (by simp [hcons])⟩

include hne hbare in
private theorem skipSpace_bare : skipSpace (key.toList ++ rest) = key.toList ++ rest := by
  obtain ⟨c, more, hcons, hc⟩ := exists_cons_of_bare hne hbare
  have hspace : isSpace c = false := by
    simp [isSpace, ne_of_isBare hc (d := ' ') (by decide), ne_of_isBare hc (d := '\t') (by decide)]
  simp [skipSpace, hcons, hspace]

include hne hbare in
private theorem readKeyPart_bare :
    readKeyPart (key.toList ++ ' ' :: rest) = some (key, ' ' :: rest) := by
  obtain ⟨c, more, hcons, hc⟩ := exists_cons_of_bare hne hbare
  have hstop : isBare ' ' = false := by decide
  rw [readKeyPart]
  · rw [List.takeWhile_append_of_pos hbare, List.dropWhile_append_of_pos hbare]
    simp [hstop, hne]
  · intro text heq
    rw [hcons] at heq
    exact ne_of_isBare hc (by decide) (List.cons.inj heq).1
  · intro text heq
    rw [hcons] at heq
    exact ne_of_isBare hc (by decide) (List.cons.inj heq).1

include hne hbare in
private theorem readKey_bare :
    ∃ first, readKey (key.toList ++ ' ' :: '=' :: rest) = some (⟨[key], first⟩, '=' :: rest) := by
  have hstop : skipSpace (' ' :: '=' :: rest) = '=' :: rest := rfl
  have hparts : ∀ fuel, readKeyParts (fuel + 1) (key.toList ++ ' ' :: '=' :: rest) =
      some ([key], '=' :: rest) := by
    intro fuel
    simp [readKeyParts, skipSpace_bare hne hbare, readKeyPart_bare hne hbare, hstop]
  refine ⟨⟨key.toList ++ ' ' :: '=' :: rest, ' ' :: '=' :: rest⟩, ?_⟩
  simp [readKey, skipSpace_bare hne hbare, readKeyPart_bare hne hbare, hparts, nestingLimit]

include hne hbare in
theorem readPair_bare {c : Contents} {pairs : List (String × Value)} (hholds : c.Holds pairs)
    (hnew : key ∉ pairs.map Prod.fst)
    {text left : List Char} {value : Value} (hstart : skipSpace text = text)
    (hvalue : readValue (nestingLimit - 1) text = some (value, '\n' :: left)) :
    ∃ c', readPair c (key.toList ++ " = ".toList ++ text) = some (c', left) ∧
      c'.Holds (pairs ++ [(key, value)]) := by
  obtain ⟨first, hkey⟩ : ∃ first, readKey (key.toList ++ ' ' :: '=' :: ' ' :: text) =
      some (⟨[key], first⟩, '=' :: ' ' :: text) := readKey_bare hne hbare
  obtain ⟨c', hadd, hholds'⟩ := hholds.addValue hnew first value ⟨text, '\n' :: left⟩
  have hequals : readEquals ('=' :: ' ' :: text) = some text := congrArg some hstart
  have hend : readLineEnd ('\n' :: left) = some left := by rfl
  have hline : key.toList ++ " = ".toList ++ text = key.toList ++ ' ' :: '=' :: ' ' :: text := by
    simp
  refine ⟨c', ?_, hholds'⟩
  rw [hline]
  simp [readPair, hkey, hequals, hvalue, hadd, hend]

include hne hbare in
theorem readLines_bare {c : Contents} (fuel : Nat) :
    readLines (fuel + 1) c (key.toList ++ rest) =
      (readPair c (key.toList ++ rest)).bind fun (c, left) => readLines fuel c left := by
  obtain ⟨d, more, hcons, hd⟩ := exists_cons_of_bare hne hbare
  have hfirst : ∀ {x : Char} {text : List Char},
      isBare x = false → d :: (more ++ rest) ≠ x :: text :=
    fun hx heq => ne_of_isBare hd hx (List.cons.inj heq).1
  rw [readLines, skipSpace_bare hne hbare, hcons, List.cons_append]
  split
  · next hempty => cases hempty
  · next hcomment => exact absurd hcomment (hfirst (by decide))
  · next hheader => exact absurd hheader (hfirst (by decide))
  · next hline => exact absurd hline (hfirst (by decide))
  · next hline => exact absurd hline (hfirst (by decide))
  · rfl

end BareKeys

theorem readDocument_lines {text : List Char} (hmark : ∀ rest, text ≠ '\ufeff' :: rest) :
    readDocument text = readLines (text.length + 1) {} text := by
  rw [readDocument]
  exact hmark

/-- Where a value of the wrong kind stands: its line and column, the line's text, and how many marks
go below it. -/
structure Place where
  line : Nat
  column : Nat
  source : String
  width : Nat
  deriving DecidableEq, Repr

/-- The place of a stretch. The column counts characters; the marks count bytes and end with the
line. -/
def Stretch.place (text : List Char) (stretch : Stretch) : Place :=
  let before := text.take (text.length - stretch.start.length)
  let lineStart := (before.reverse.takeWhile (· != '\n')).reverse
  let source := lineStart ++ stretch.start.takeWhile (· != '\n')
  let bytes := Text.byteCount stretch.start - Text.byteCount stretch.stop
  { line := before.count '\n' + 1
    column := lineStart.length + 1
    source := String.ofList source
    width := max 1 (min bytes (Text.byteCount source - lineStart.length)) }

inductive Error
  | malformed
  | mismatch (m : Mismatch) (place : Place)
  deriving DecidableEq, Repr

namespace Error

private def spaces (n : Nat) : String := String.ofList (List.replicate n ' ')

/-- What is said of a document that is refused. Readers of TOML have texts of their own for
documents that they cannot read, and `<syntax error>` stands for them. -/
def message : Error → String
  | malformed => "<syntax error>"
  | mismatch m place =>
    let number := toString place.line
    let margin := spaces (number.length + 1) ++ "|"
    "TOML parse error at line " ++ number ++ ", column " ++ toString place.column ++ "\n" ++
      margin ++ "\n" ++
      number ++ " | " ++ place.source ++ "\n" ++
      margin ++ spaces place.column ++ String.ofList (List.replicate place.width '^') ++ "\n" ++
      m.message ++ "\n"

end Error

/-- Takes the fields from the entries in order; other entries are left alone. -/
def assignEntries (text : List Char) : Draft → List Entry → Except Error Draft
  | draft, [] => .ok draft
  | draft, entry :: entries =>
    match Field.ofKey? entry.key with
    | none => assignEntries text draft entries
    | some field =>
      match draft.assign field entry.value with
      | .ok draft => assignEntries text draft entries
      | .error m => .error (.mismatch m (entry.stretch.place text))

/-- The fields that a document gives. -/
def draftOf (text : String) : Except Error Draft :=
  match readDocument text.toList with
  | none => .error .malformed
  | some contents => assignEntries text.toList {} contents.entries

end DaemonLaunch.Toml

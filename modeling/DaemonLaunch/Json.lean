import DaemonLaunch.Json.Skip
import DaemonLaunch.Settings.Draft

/-!
Settings as a JSON document: an object with the fields as members, each at most once and other
members passed over, or a list of the fields' values in their order.
-/

namespace DaemonLaunch.Json

open Settings (Value Field Draft)

/-- A scalar, or the kind of a list or an object, which is not read. -/
def readValue (text : List Char) : Except Fault (Value × List Char) :=
  match text with
  | [] => failAt .endInValue []
  | c :: rest =>
    if c == 'n' then (.null, ·) <$> readWord "ull".toList rest
    else if c == 't' then (.boolean true, ·) <$> readWord "rue".toList rest
    else if c == 'f' then (.boolean false, ·) <$> readWord "alse".toList rest
    else if c == '-' then readNumber true rest
    else if c.isDigit then readNumber false text
    else if c == '"' then do
      let (s, rest) ← readQuoted rest
      return (.text s, rest)
    else if c == '[' then .ok (.sequence, text)
    else if c == '{' then .ok (.map, text)
    else failOn .expectedValue text

section Scalars

variable {rest left : List Char}

theorem readValue_integer {n : Int} (hleast : Bounds.leastSigned64 ≤ n)
    (hmost : n ≤ Bounds.mostSigned64)
    (hrest : EndsNumber rest) : readValue ((Text.ofInt n).toList ++ rest) =
      .ok (.integer n, rest) := by
  rw [Text.toList_ofInt]
  split
  · have hvalue : -(n.natAbs : Int) = n := by omega
    have hread :=
      readNumber_negative hrest (n := n.natAbs) (by omega) (by rw [hvalue]; exact hleast)
    rw [hvalue] at hread
    simp [readValue, hread]
  · have hvalue : (n.natAbs : Int) = n := by omega
    have hfit : n.natAbs ≤ Bounds.mostUnsigned64 := by
      simp only [Bounds.mostSigned64, Bounds.mostUnsigned64] at hmost ⊢
      omega
    have hread := readNumber_natural hrest hfit
    obtain ⟨c, ds, hcons, hc⟩ := Text.exists_toDigits_cons n.natAbs
    have hne : ∀ {d : Char}, d.isDigit = false → c ≠ d := Text.ne_of_isDigit hc
    rw [hvalue, hcons, List.cons_append] at hread
    rw [hcons, List.cons_append]
    simp [readValue, hne (d := 'n') (by decide), hne (d := 't') (by decide),
      hne (d := 'f') (by decide), hne (d := '-') (by decide), hc, hread]

theorem readValue_boolean (b : Bool) :
    readValue ((if b then "true" else "false").toList ++ rest) = .ok (.boolean b, rest) := by
  cases b with
  | false => simp [readValue, readWord, Functor.map, Except.map]
  | true => simp [readValue, readWord, Functor.map, Except.map]

theorem readValue_quoted {s : String} (h : readQuoted rest = .ok (s, left)) :
    readValue ('"' :: rest) = .ok (.text s, left) := by
  simp [readValue, h, bind, Except.bind, pure, Except.pure]

end Scalars

def readField (draft : Draft) (field : Field) (text : List Char) :
    Except Fault (Draft × List Char) := do
  let (value, rest) ← readValue (skipSpace text)
  match draft.assign field value with
  | .ok draft => return (draft, rest)
  | .error mismatch => failAt (.mismatch mismatch) rest

private def readColon (text : List Char) : Except Fault (List Char) :=
  match skipSpace text with
  | [] => failAt .endInObject []
  | ':' :: rest => .ok rest
  | rest => failOn .expectedColon rest

private def failDuplicate (field : Field) (text : List Char) : Except Fault (Draft × List Char) :=
  -- a brace after the key and the blanks counts as read
  match skipSpace text with
  | '}' :: rest => failAt (.duplicate field) rest
  | rest => failAt (.duplicate field) rest

/-- A member of an object. -/
def readMember (draft : Draft) (text : List Char) : Except Fault (Draft × List Char) := do
  let (key, rest) ← readQuoted text
  match Field.ofKey? key with
  | none => do
    let rest ← readColon rest
    return (draft, ← passValue rest)
  | some field =>
    if draft.has field then failDuplicate field rest
    else do
      let rest ← readColon rest
      readField draft field rest

section Members

variable {draft draft' : Draft} {key : String} {field : Field} {value : Value}
  {text afterKey afterColon left : List Char}

theorem readMember_field (hkey : readQuoted text = .ok (key, afterKey))
    (hfield : Field.ofKey? key = some field)
    (hfresh : draft.has field = false) (hcolon : skipSpace afterKey = ':' :: afterColon)
    (hvalue : readValue (skipSpace afterColon) = .ok (value, left))
    (hassign : draft.assign field value = .ok draft') :
    readMember draft text = .ok (draft', left) := by
  simp [readMember, hkey, hfield, hfresh, readColon, hcolon, readField, hvalue, hassign, bind,
    Except.bind, pure, Except.pure]

theorem readMember_other (hkey : readQuoted text = .ok (key, afterKey))
    (hother : Field.ofKey? key = none)
    (hcolon : skipSpace afterKey = ':' :: afterColon) (hpass : passValue afterColon = .ok left) :
    readMember draft text = .ok (draft, left) := by
  simp [readMember, hkey, hother, readColon, hcolon, hpass, bind, Except.bind, pure, Except.pure]

end Members

/-- The members of an object up to its end; `fuel` bounds their count. -/
def readMembers : Nat → Draft → List Char → Except Fault (Draft × List Char)
  | 0, _, text => failAt .endInObject text
  | fuel + 1, draft, text =>
    match skipSpace text with
    | [] => failAt .endInObject []
    | '}' :: rest => .ok (draft, rest)
    | ',' :: rest =>
      match skipSpace rest with
      | [] => failAt .endInValue []
      | '"' :: rest => do
        let (draft, rest) ← readMember draft rest
        readMembers fuel draft rest
      | '}' :: _ => failOn .trailingComma (skipSpace rest)
      | rest => failOn .keyNotText rest
    | rest => failOn .expectedCommaOrBrace rest

/-- An object after its opening brace. -/
def readObject (text : List Char) : Except Fault (Draft × List Char) :=
  match skipSpace text with
  | [] => failAt .endInObject []
  | '}' :: rest => .ok ({}, rest)
  | '"' :: rest => do
    let (draft, rest) ← readMember {} rest
    readMembers (rest.length + 1) draft rest
  | rest => failOn .keyNotText rest

private def readListEnd (text : List Char) : Except Fault (List Char) :=
  match skipSpace text with
  | [] => failAt .endInList []
  | ']' :: rest => .ok rest
  | ',' :: rest =>
    match skipSpace rest with
    | ']' :: _ => failOn .trailingComma (skipSpace rest)
    | rest => failOn .trailingCharacters rest
  | rest => failOn .trailingCharacters rest

/-- The values of the given fields, as many as the list has, and the end of the list. -/
def readElements (first : Bool) (draft : Draft) :
    List Field → List Char → Except Fault (Draft × List Char)
  | [], text => do return (draft, ← readListEnd text)
  | field :: fields, text =>
    match skipSpace text with
    | [] => failAt .endInList []
    | ']' :: rest => .ok (draft, rest)
    | c :: rest =>
      if first then do
        let (draft, rest) ← readField draft field (c :: rest)
        readElements false draft fields rest
      else if c == ',' then
        match skipSpace rest with
        | [] => failAt .endInValue []
        | ']' :: _ => failOn .trailingComma (skipSpace rest)
        | rest => do
          let (draft, rest) ← readField draft field rest
          readElements false draft fields rest
      else failOn .expectedCommaOrBracket (c :: rest)

def readDocument (text : List Char) : Except Fault Draft := do
  let (draft, rest) ← match skipSpace text with
    | '{' :: rest => readObject rest
    | '[' :: rest => readElements true {} Field.all rest
    | start => do
      let (value, rest) ← readValue start
      failAt (.mismatch { found := value, expected := "struct FixtureConfig" }) rest
  match skipSpace rest with
  | [] => return draft
  | rest => failOn .trailingCharacters rest

/-- The fields that a document gives. -/
def draftOf (text : String) : Except Error Draft :=
  match readDocument text.toList with
  | .ok draft => .ok draft
  | .error fault => .error (fault.place text.toList)

end DaemonLaunch.Json

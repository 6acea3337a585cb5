import DaemonLaunch.Json.Number

/-!
Passing over a JSON value of any depth. The open lists and objects stand on a stack, so that the
depth is not limited.
-/

namespace DaemonLaunch.Json

/-- A list or an object whose end has not been met. -/
inductive Frame
  | list
  | object
  deriving DecidableEq, Repr

private def Frame.closing : Frame → Char
  | list => ']'
  | object => '}'

private def Frame.atEnd : Frame → Problem
  | list => .endInList
  | object => .endInObject

private def Frame.expectedMore : Frame → Problem
  | list => .expectedCommaOrBracket
  | object => .expectedCommaOrBrace

private def passStart (text : List Char) : Except Fault (Option Frame × List Char) :=
  match text with
  | [] => failAt .endInValue []
  | c :: rest =>
    if c == 'n' then (none, ·) <$> readWord "ull".toList rest
    else if c == 't' then (none, ·) <$> readWord "rue".toList rest
    else if c == 'f' then (none, ·) <$> readWord "alse".toList rest
    else if c == '-' then (none, ·) <$> passNumber rest
    else if c.isDigit then (none, ·) <$> passNumber text
    else if c == '"' then (none, ·) <$> passQuoted rest
    else if c == '[' then .ok (some .list, rest)
    else if c == '{' then .ok (some .object, rest)
    else failOn .expectedValue text

private def passClosings (opened : Bool) :
    List Frame → List Char → Except Fault (List Frame × List Char)
  | [], text => .ok ([], text)
  | frame :: outer, text =>
    match skipSpace text with
    | [] => failAt frame.atEnd []
    | c :: rest =>
      if c == ',' && !opened then .ok (frame :: outer, rest)
      else if c == frame.closing then passClosings false outer rest
      else if opened then .ok (frame :: outer, c :: rest)
      else failOn frame.expectedMore (c :: rest)

private def passKey (text : List Char) : Except Fault (List Char) :=
  match skipSpace text with
  | [] => failAt .endInObject []
  | '"' :: rest => do
    let rest ← passQuoted rest
    match skipSpace rest with
    | [] => failAt .endInObject []
    | ':' :: rest => return rest
    | rest => failOn .expectedColon rest
  | rest => failOn .keyNotText rest

private def passFrames : Nat → List Frame → List Char → Except Fault (List Char)
  | 0, _, text => failAt .endInValue text
  | fuel + 1, frames, text => do
    let (opening, rest) ← passStart (skipSpace text)
    let (frames, rest) ← match opening with
      | some frame => passClosings true (frame :: frames) rest
      | none => passClosings false frames rest
    match frames with
    | [] => return rest
    | .list :: _ => passFrames fuel frames rest
    | .object :: _ => do
      let rest ← passKey rest
      passFrames fuel frames rest

def passValue (text : List Char) : Except Fault (List Char) := passFrames (text.length + 1) [] text

section Scalars

variable {text rest left : List Char}

private theorem passValue_of_passStart (h : passStart (skipSpace text) = .ok (none, left)) :
    passValue text = .ok left := by
  simp [passValue, passFrames, h, passClosings, bind, Except.bind, pure, Except.pure]

theorem passValue_integer {n : Int} (hstart : skipSpace text = (Text.ofInt n).toList ++ rest)
    (hrest : EndsNumber rest) :
    passValue text = .ok rest := by
  apply passValue_of_passStart
  have hpass := passNumber_digits hrest n.natAbs
  rw [hstart, Text.toList_ofInt]
  split
  · simp [passStart, hpass, Functor.map, Except.map]
  · obtain ⟨c, ds, hcons, hc⟩ := Text.exists_toDigits_cons n.natAbs
    have hne : ∀ {d : Char}, d.isDigit = false → c ≠ d := Text.ne_of_isDigit hc
    rw [hcons, List.cons_append] at hpass ⊢
    simp [passStart, hne (d := 'n') (by decide), hne (d := 't') (by decide),
      hne (d := 'f') (by decide), hne (d := '-') (by decide), hc, hpass, Functor.map, Except.map]

theorem passValue_boolean {b : Bool}
    (hstart : skipSpace text = (if b then "true" else "false").toList ++ rest) :
    passValue text = .ok rest := by
  apply passValue_of_passStart
  rw [hstart]
  cases b with
  | false => simp [passStart, readWord, Functor.map, Except.map]
  | true => simp [passStart, readWord, Functor.map, Except.map]

theorem passValue_quoted {s : String} (hstart : skipSpace text = '"' :: rest)
    (h : readQuoted rest = .ok (s, left)) :
    passValue text = .ok left := by
  apply passValue_of_passStart
  rw [hstart]
  simp [passStart, passQuoted_of_readQuoted h, Functor.map, Except.map]

end Scalars

end DaemonLaunch.Json

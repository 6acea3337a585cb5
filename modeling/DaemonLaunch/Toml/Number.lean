import DaemonLaunch.Bounds
import DaemonLaunch.Settings.Field
import DaemonLaunch.Decimal.FloatText
import DaemonLaunch.Toml.Text

/-!
Numbers, dates and times of TOML. Integers have 64 bits and a sign; underscores may stand between
digits. A floating point number is the nearest one to its decimal; the text of one never has an
exponent.
-/

namespace DaemonLaunch.Toml

open Settings (Value)

def floatFormat : Decimal.FloatFormat := ⟨none⟩

private def readDigits (isDigit : Char → Bool) : List Char → Option (List Char × List Char)
  | [] => none
  | c :: rest =>
    if isDigit c then go [c] rest else none
where
  /-- The digits read so far are in reverse. -/
  go (digits : List Char) : List Char → Option (List Char × List Char)
    | [] => some (digits.reverse, [])
    | '_' :: c :: rest => if isDigit c then go (c :: digits) rest else none
    | c :: rest =>
      if isDigit c then go (c :: digits) rest
      else if c == '_' then none
      else some (digits.reverse, c :: rest)

private def readSign : List Char → Bool × List Char
  | '-' :: rest => (true, rest)
  | '+' :: rest => (false, rest)
  | text => (false, text)

private def readWhole (text : List Char) : Option (List Char × List Char) :=
  match text with
  | '0' :: rest => some (['0'], rest)
  | _ => readDigits Char.isDigit text

private def integerInRange (n : Int) : Option Value :=
  if Bounds.leastSigned64 ≤ n && n ≤ Bounds.mostSigned64 then some (.integer n) else none

private def valueIn (base : Nat) (digits : List Char) : Nat :=
  digits.foldl (fun value c => base * value + ((hexValue? [c]).getD 0)) 0

private def isHexDigit (c : Char) : Bool := (hexValue? [c]).isSome
private def isOctalDigit (c : Char) : Bool := '0' ≤ c && c ≤ '7'
private def isBinaryDigit (c : Char) : Bool := c == '0' || c == '1'

private def nearest (digits : List Char) (exponent : Int) : Float :=
  -- far beyond the range the number is infinite or zero
  let n := Nat.ofDigitChars 10 digits 0
  let size := ((Nat.toDigits 10 n).length : Int) + exponent
  if n = 0 then 0.0
  else if 400 < size then 1.0 / 0.0
  else if size < -400 then 0.0
  else if 0 ≤ exponent then Float.ofScientific n false exponent.toNat
  else Float.ofScientific n true exponent.natAbs

private def readExponent (text : List Char) : Option (Int × List Char) := do
  let (negative, rest) := readSign text
  let (digits, rest) ← readDigits Char.isDigit rest
  let n := Nat.ofDigitChars 10 digits 0
  return (if negative then -(n : Int) else n, rest)

private def real (negative : Bool) (digits : List Char) (exponent : Int) : Option Value :=
  let f := nearest digits exponent
  if f.isInf && !negative then none
  else some (.real (floatFormat.render (if negative then -f else f)))

private def readDecimal (text : List Char) : Option (Value × List Char) := do
  let (negative, start) := readSign text
  let (whole, rest) ← readWhole start
  match rest with
  | '.' :: rest => do
    let (fraction, rest) ← readDigits Char.isDigit rest
    let (exponent, rest) ← match rest with
      | 'e' :: rest | 'E' :: rest => readExponent rest
      | _ => some (0, rest)
    return (← real negative (whole ++ fraction) (exponent - fraction.length), rest)
  | 'e' :: rest | 'E' :: rest => do
    let (exponent, rest) ← readExponent rest
    return (← real negative whole exponent, rest)
  | _ =>
    let n : Int := Nat.ofDigitChars 10 whole 0
    return (← integerInRange (if negative then -n else n), rest)

private def readSpecial (text : List Char) : Option (Value × List Char) :=
  let (negative, rest) := readSign text
  match rest with
  | 'i' :: 'n' :: 'f' :: rest => some (.real (if negative then "-inf" else "inf"), rest)
  | 'n' :: 'a' :: 'n' :: rest => some (.real "NaN", rest)
  | _ => none

private def readFixed (count least most : Nat) (text : List Char) : Option (Nat × List Char) :=
  let digits := text.take count
  if digits.length = count && digits.all Char.isDigit then
    let n := Nat.ofDigitChars 10 digits 0
    if least ≤ n && n ≤ most then some (n, text.drop count) else none
  else none

private def readMark (mark : Char) : List Char → Option (List Char)
  | c :: rest => if c == mark then some rest else none
  | [] => none

private def daysInMonth (year month : Nat) : Nat :=
  if month = 2 then if year % 4 = 0 && (year % 100 ≠ 0 || year % 400 = 0) then 29 else 28
  else if month = 4 || month = 6 || month = 9 || month = 11 then 30 else 31

private def readDate (text : List Char) : Option (List Char) := do
  let (year, rest) ← readFixed 4 0 9999 text
  let rest ← readMark '-' rest
  let (month, rest) ← readFixed 2 1 12 rest
  let rest ← readMark '-' rest
  let (_, rest) ← readFixed 2 1 (daysInMonth year month) rest
  return rest

private def readTime (text : List Char) : Option (List Char) := do
  let (_, rest) ← readFixed 2 0 23 text
  let rest ← readMark ':' rest
  let (_, rest) ← readFixed 2 0 59 rest
  let rest ← readMark ':' rest
  let (_, rest) ← readFixed 2 0 60 rest
  match rest with
  | '.' :: c :: more => return if c.isDigit then more.dropWhile Char.isDigit else rest
  | _ => return rest

private def readOffset (text : List Char) : Option (List Char) :=
  match text with
  | 'Z' :: rest | 'z' :: rest => some rest
  | '+' :: rest | '-' :: rest => do
    let (_, rest) ← readFixed 2 0 23 rest
    let rest ← readMark ':' rest
    let (_, rest) ← readFixed 2 0 59 rest
    return rest
  | _ => some text

private def readMoment (text : List Char) : Option (List Char) :=
  match readDate text with
  | some rest =>
    match rest with
    | c :: more =>
      if c == 'T' || c == 't' || c == ' ' then
        match readTime more with
        | some rest => readOffset rest
        | none => some rest
      else some rest
    | [] => some []
  | none => readTime text

def readNumber (text : List Char) : Option (Value × List Char) :=
  match readMoment text with
  | some rest => some (.map, rest)
  | none =>
    match text with
    | '0' :: 'x' :: rest => do
      let (digits, rest) ← readDigits isHexDigit rest
      return (← integerInRange (valueIn 16 digits), rest)
    | '0' :: 'o' :: rest => do
      let (digits, rest) ← readDigits isOctalDigit rest
      return (← integerInRange (valueIn 8 digits), rest)
    | '0' :: 'b' :: rest => do
      let (digits, rest) ← readDigits isBinaryDigit rest
      return (← integerInRange (valueIn 2 digits), rest)
    | _ =>
      match readSpecial text with
      | some result => some result
      | none => readDecimal text

/-! A whole number at the end of a line is read as it is. -/

section WholeNumbers

variable {digits rest : List Char}

private theorem readDigits_go_line (hdigits : ∀ c ∈ digits, c.isDigit = true) (before : List Char) :
    readDigits.go Char.isDigit before (digits ++ '\n' :: rest) =
      some (before.reverse ++ digits, '\n' :: rest) := by
  induction digits generalizing before with
  | nil => simp [readDigits.go]
  | cons c digits ih =>
    have hc := hdigits c (by simp)
    rw [List.cons_append, readDigits.go, if_pos hc, ih (fun d hd => hdigits d (by simp [hd]))]
    · simp
    · rintro d more rfl
      exact absurd hc (by decide)

private theorem readWhole_line {n : Nat} :
    readWhole (Nat.toDigits 10 n ++ '\n' :: rest) = some (Nat.toDigits 10 n, '\n' :: rest) := by
  obtain ⟨-, hzero⟩ | ⟨c, ds, hcons, hc, hdigits⟩ := Text.toDigits_cases n
  · rw [hzero]
    rfl
  · rw [hcons, List.cons_append, readWhole, readDigits, if_pos (hdigits c (by simp)),
      readDigits_go_line fun d hd => hdigits d (by simp [hd])]
    · rfl
    · rintro more ⟨⟩
      exact hc rfl

private theorem readSign_ofInt (n : Int) :
    readSign ((Text.ofInt n).toList ++ '\n' :: rest) =
      (decide (n < 0), Nat.toDigits 10 n.natAbs ++ '\n' :: rest) := by
  rw [Text.toList_ofInt]
  split
  · next hnegative => simp [readSign, hnegative]
  · next hnatural =>
    obtain ⟨c, ds, hcons, hc⟩ := Text.exists_toDigits_cons n.natAbs
    rw [hcons, List.cons_append, readSign]
    · simp [hnatural]
    · rintro more ⟨⟩
      exact absurd hc (by decide)
    · rintro more ⟨⟩
      exact absurd hc (by decide)

private theorem readDecimal_ofInt {n : Int} (hleast : Bounds.leastSigned64 ≤ n)
    (hmost : n ≤ Bounds.mostSigned64) :
    readDecimal ((Text.ofInt n).toList ++ '\n' :: rest) = some (.integer n, '\n' :: rest) := by
  have hvalue : (if n < 0 then -(n.natAbs : Int) else n.natAbs) = n := by omega
  have hrange : integerInRange n = some (.integer n) := by simp [integerInRange, hleast, hmost]
  simp only [readDecimal, readSign_ofInt, readWhole_line, Option.bind_eq_bind, Option.bind_some,
    Nat.ofDigitChars_ten_toDigits, decide_eq_true_eq, hvalue, hrange, Option.pure_def]
  rfl

private theorem readSpecial_ofInt (n : Int) :
    readSpecial ((Text.ofInt n).toList ++ '\n' :: rest) = none := by
  obtain ⟨c, ds, hcons, hc⟩ := Text.exists_toDigits_cons n.natAbs
  rw [readSpecial, readSign_ofInt, hcons]
  dsimp only [List.cons_append]
  split
  · next hinf => exact absurd (List.cons.inj hinf).1 (Text.ne_of_isDigit hc (by decide))
  · next hnan => exact absurd (List.cons.inj hnan).1 (Text.ne_of_isDigit hc (by decide))
  · rfl

private theorem readFixed_eq_some {count least most n : Nat} {text left : List Char}
    (h : readFixed count least most text = some (n, left)) :
    (∀ c ∈ text.take count, c.isDigit = true) ∧ left = text.drop count := by
  simp only [readFixed, Option.ite_none_right_eq_some, Bool.and_eq_true, List.all_eq_true,
    Option.some.injEq, Prod.mk.injEq] at h
  exact ⟨h.1.2, h.2.2.2.symm⟩

private theorem readMark_of_readFixed {count least most n : Nat} {left : List Char} (mark : Char)
    (hdigits : ∀ c ∈ digits, c.isDigit = true) (hmark : mark.isDigit = false) (hline : mark ≠ '\n')
    (h : readFixed count least most (digits ++ '\n' :: rest) = some (n, left)) :
    readMark mark left = none := by
  obtain ⟨hall, rfl⟩ := readFixed_eq_some h
  have hwithin : count ≤ digits.length := by
    refine Nat.le_of_not_lt fun hbeyond => ?_
    obtain ⟨extra, hextra⟩ : ∃ extra, count - digits.length = extra + 1 :=
      ⟨count - digits.length - 1, by omega⟩
    have hend : '\n' ∈ (digits ++ '\n' :: rest).take count := by simp [List.take_append, hextra]
    exact absurd (hall '\n' hend) (by decide)
  rw [List.drop_append_of_le_length hwithin]
  cases hleft : digits.drop count with
  | nil => simp [readMark, Ne.symm hline]
  | cons c more =>
    have hc : c.isDigit = true := hdigits c (List.mem_of_mem_drop (hleft ▸ List.mem_cons_self))
    simp [readMark, Text.ne_of_isDigit hc hmark]

private theorem readFixed_minus {count least most : Nat} :
    readFixed (count + 1) least most ('-' :: rest) = none := by
  simp [readFixed]

private theorem readMoment_ofInt (n : Int) :
    readMoment ((Text.ofInt n).toList ++ '\n' :: rest) = none := by
  rw [Text.toList_ofInt]
  split
  · simp [readMoment, readDate, readTime, readFixed_minus]
  · have hdigits : ∀ c ∈ Nat.toDigits 10 n.natAbs, c.isDigit = true :=
      fun c hc => Text.isDigit_of_mem_toDigits hc
    have hdate : readDate (Nat.toDigits 10 n.natAbs ++ '\n' :: rest) = none := by
      rw [readDate]
      match hyear : readFixed 4 0 9999 (Nat.toDigits 10 n.natAbs ++ '\n' :: rest) with
      | none => rfl
      | some (year, left) => simp [readMark_of_readFixed '-' hdigits (by decide) (by decide) hyear]
    have htime : readTime (Nat.toDigits 10 n.natAbs ++ '\n' :: rest) = none := by
      rw [readTime]
      match hhour : readFixed 2 0 23 (Nat.toDigits 10 n.natAbs ++ '\n' :: rest) with
      | none => rfl
      | some (hour, left) => simp [readMark_of_readFixed ':' hdigits (by decide) (by decide) hhour]
    rw [readMoment, hdate]
    exact htime

private theorem ofInt_ne_zero_mark {n : Int} {mark : Char} {more : List Char}
    (hline : mark ≠ '\n') :
    (Text.ofInt n).toList ++ '\n' :: rest ≠ '0' :: mark :: more := by
  rw [Text.toList_ofInt]
  split
  · rintro ⟨⟩
  · obtain ⟨-, hzero⟩ | ⟨c, ds, hcons, hc, -⟩ := Text.toDigits_cases n.natAbs
    · rw [hzero]
      intro h
      exact hline (List.cons.inj (List.cons.inj h).2).1.symm
    · rw [hcons]
      exact fun h => hc (List.cons.inj h).1

/-- A whole number within 64 bits is read from its text at the end of a line. -/
theorem readNumber_ofInt {n : Int} (hleast : Bounds.leastSigned64 ≤ n)
    (hmost : n ≤ Bounds.mostSigned64) (rest : List Char) :
    readNumber ((Text.ofInt n).toList ++ '\n' :: rest) = some (.integer n, '\n' :: rest) := by
  rw [readNumber, readMoment_ofInt]
  · rw [readSpecial_ofInt]
    exact readDecimal_ofInt hleast hmost
  · exact fun more => ofInt_ne_zero_mark (by decide)
  · exact fun more => ofInt_ne_zero_mark (by decide)
  · exact fun more => ofInt_ne_zero_mark (by decide)

end WholeNumbers

end DaemonLaunch.Toml

import DaemonLaunch.Bounds
import DaemonLaunch.Json.Text
import DaemonLaunch.Decimal.FloatText

/-!
Numbers of JSON. A whole number within 64 bits is an integer; every other number, and zero with a
minus sign, is a floating point number. Its leading digits that fit 64 bits are scaled by a power of
ten with one rounding each, and a number beyond the greatest one is refused. A number may also only
be passed over.
-/

namespace DaemonLaunch.Json

open Settings (Value)

/-- Numbers from 0.00001 up to sixteen digits before the point are written without an exponent. -/
def floatFormat : Decimal.FloatFormat := ⟨some (-5, 15)⟩

private def readDigits (start : Nat) : List Char → Nat × Nat × List Char
  -- reading stops where the number would not fit 64 bits
  | [] => (start, 0, [])
  | c :: rest =>
    let next := start * 10 + (c.toNat - '0'.toNat)
    if c.isDigit && next ≤ Bounds.mostUnsigned64 then
      let (value, count, rest) := readDigits next rest
      (value, count + 1, rest)
    else (start, 0, c :: rest)

private def startsWithDigit (text : List Char) : Bool :=
  match text with
  | c :: _ => c.isDigit
  | [] => false

private def scale (rest : List Char) : Nat → Float → Int → Except Fault Float
  -- below the least power of the table the value is divided step by step
  | 0, f, _ => .ok f
  | fuel + 1, f, exponent =>
    if exponent.natAbs ≤ 308 then
      let power := Float.ofScientific 1 false exponent.natAbs
      if 0 ≤ exponent then
        if (f * power).isInf then failAt .numberOutOfRange rest else .ok (f * power)
      else .ok (f / power)
    else if f == 0 then .ok f
    else if 0 ≤ exponent then failAt .numberOutOfRange rest
    else scale rest fuel (f / 1e308) (exponent + 308)

private def finish (negative : Bool) (digits : Nat) (exponent : Int) (rest : List Char) :
    Except Fault (Value × List Char) := do
  let f ← scale rest 8 (UInt64.ofNat digits).toFloat exponent
  return (.real (floatFormat.render (if negative then -f else f)), rest)

private def readExponent (negative : Bool) (digits : Nat) (exponent : Int) (text : List Char) :
    Except Fault (Value × List Char) :=
  let (down, text) := match text with
    | '+' :: rest => (false, rest)
    | '-' :: rest => (true, rest)
    | _ => (false, text)
  match text with
  | [] => failAt .endInValue []
  | c :: rest =>
    if !c.isDigit then .error ⟨.badNumber, c :: rest, 1⟩
    else
      let all := text.takeWhile Char.isDigit
      let rest := text.dropWhile Char.isDigit
      let power := Nat.ofDigitChars 10 all 0
      if (power : Int) ≤ Bounds.mostSigned32 then
        finish negative digits (if down then exponent - power else exponent + power) rest
      else if digits ≠ 0 && !down then
        -- the reading ends with the digit that exceeds the range
        let within := (List.range (all.length + 1)).takeWhile fun n =>
          (Nat.ofDigitChars 10 (all.take n) 0 : Int) ≤ Bounds.mostSigned32
        failAt .numberOutOfRange (text.drop within.length)
      else .ok (.real (floatFormat.render (if negative then -0.0 else 0.0)), rest)

private def readScaled (negative : Bool) (digits : Nat) (exponent : Int) (text : List Char) :
    Except Fault (Value × List Char) :=
  match text with
  | 'e' :: rest | 'E' :: rest => readExponent negative digits exponent rest
  | _ => finish negative digits exponent text

private def readFraction (negative : Bool) (digits : Nat) (exponent : Int) (text : List Char) :
    Except Fault (Value × List Char) :=
  let (digits, count, rest) := readDigits digits text
  if startsWithDigit rest then
    readScaled negative digits (exponent - count) (rest.dropWhile Char.isDigit)
  else if count = 0 then failOn (if rest.isEmpty then .endInValue else .badNumber) rest
  else readScaled negative digits (exponent - count) rest

private def readWhole (negative : Bool) (digits : Nat) (text : List Char) :
    Except Fault (Value × List Char) :=
  match text with
  | '.' :: rest => readFraction negative digits 0 rest
  | 'e' :: rest | 'E' :: rest => readExponent negative digits 0 rest
  | _ =>
    if !negative then .ok (.integer digits, text)
    else if 0 < digits && Bounds.leastSigned64 ≤
      -(digits : Int) then .ok (.integer (-(digits : Int)), text)
    else finish true digits 0 text

/-- The number after its sign. -/
def readNumber (negative : Bool) (text : List Char) : Except Fault (Value × List Char) :=
  match text with
  | [] => failAt .endInValue []
  | c :: rest =>
    if !c.isDigit then .error ⟨.badNumber, c :: rest, 1⟩
    else if c == '0' then
      if startsWithDigit rest then failOn .badNumber rest else readWhole negative 0 rest
    else
      let (digits, _, rest) := readDigits 0 text
      if startsWithDigit rest then
        let extra := rest.takeWhile Char.isDigit
        match rest.dropWhile Char.isDigit with
        | '.' :: rest => readFraction negative digits extra.length rest
        | rest => readScaled negative digits extra.length rest
      else readWhole negative digits rest

/-- The text after a number that follows its sign; any size will do. -/
def passNumber (text : List Char) : Except Fault (List Char) := do
  let afterWhole ← match text with
    | [] => failAt .badNumber []
    | c :: rest =>
      if !c.isDigit then .error ⟨.badNumber, c :: rest, 1⟩
      else if c == '0' then
        if startsWithDigit rest then failOn .badNumber rest else pure rest
      else pure (rest.dropWhile Char.isDigit)
  let afterFraction ← match afterWhole with
    | '.' :: rest =>
      if startsWithDigit rest then pure (rest.dropWhile Char.isDigit) else failOn .badNumber rest
    | rest => pure rest
  match afterFraction with
  | 'e' :: rest | 'E' :: rest =>
    let digits := match rest with
      | '+' :: rest | '-' :: rest => rest
      | _ => rest
    match digits with
    | [] => failAt .badNumber []
    | c :: rest =>
      if c.isDigit then pure (rest.dropWhile Char.isDigit) else .error ⟨.badNumber, c :: rest, 1⟩
  | rest => pure rest

/-! A whole number that has an end is read as it is. -/

/-- A text that does not go on with a number. -/
def EndsNumber (text : List Char) : Prop :=
  ∀ c rest, text = c :: rest → c.isDigit = false ∧ c ≠ '.' ∧ c ≠ 'e' ∧ c ≠ 'E'

section WholeNumbers

variable {rest : List Char}

private theorem EndsNumber.startsWithDigit_eq (h : EndsNumber rest) :
    startsWithDigit rest = false := by
  cases rest with
  | nil => rfl
  | cons c rest => exact (h c rest rfl).1

private theorem le_ofDigitChars (digits : List Char) (start : Nat) :
    start ≤ Nat.ofDigitChars 10 digits start := by
  induction digits generalizing start with
  | nil => simp
  | cons c digits ih =>
    rw [Nat.ofDigitChars_cons]
    exact Nat.le_trans (by omega) (ih _)

private theorem readDigits_append (hrest : startsWithDigit rest = false) {digits : List Char}
    (start : Nat) (hdigits : ∀ c ∈ digits, c.isDigit = true)
    (hfit : Nat.ofDigitChars 10 digits start ≤ Bounds.mostUnsigned64) :
    readDigits start (digits ++ rest) =
      (Nat.ofDigitChars 10 digits start, digits.length, rest) := by
  induction digits generalizing start with
  | nil =>
    cases rest with
    | nil => rfl
    | cons c rest =>
      have hc : c.isDigit = false := hrest
      simp [readDigits, hc]
  | cons c digits ih =>
    rw [Nat.ofDigitChars_cons, Nat.mul_comm 10 start] at hfit
    have hnext : start * 10 + (c.toNat - '0'.toNat) ≤ Bounds.mostUnsigned64 :=
      Nat.le_trans (le_ofDigitChars _ _) hfit
    have hread := ih _ (fun d hd => hdigits d (by simp [hd])) hfit
    rw [Nat.ofDigitChars_cons, Nat.mul_comm 10 start]
    simp only [List.cons_append, readDigits, hdigits c (by simp), hnext, decide_true, Bool.and_self,
      if_true, hread, List.length_cons]

private theorem readNumber_digits (hrest : EndsNumber rest) (negative : Bool) {n : Nat}
    (hfit : n ≤ Bounds.mostUnsigned64) :
    readNumber negative (Nat.toDigits 10 n ++ rest) = readWhole negative n rest := by
  obtain ⟨rfl, hzero⟩ | ⟨c, ds, hcons, hc, hdigits⟩ := Text.toDigits_cases n
  · rw [hzero]
    simp [readNumber, hrest.startsWithDigit_eq]
  · have hvalue : Nat.ofDigitChars 10 (c :: ds) 0 = n := by
      rw [← hcons, Nat.ofDigitChars_ten_toDigits]
    have hread := readDigits_append hrest.startsWithDigit_eq 0 hdigits (by rw [hvalue]; exact hfit)
    rw [hvalue, List.cons_append] at hread
    rw [hcons, List.cons_append]
    simp [readNumber, hdigits c (by simp), hc, hread, hrest.startsWithDigit_eq]

private theorem readWhole_end (hrest : EndsNumber rest) (negative : Bool) (n : Nat) :
    readWhole negative n rest =
      if !negative then .ok (.integer n, rest)
      else if 0 < n && Bounds.leastSigned64 ≤ -(n : Int) then .ok (.integer (-(n : Int)), rest)
      else finish true n 0 rest := by
  rw [readWhole]
  · rintro more rfl
    exact (hrest _ _ rfl).2.1 rfl
  · rintro more rfl
    exact (hrest _ _ rfl).2.2.1 rfl
  · rintro more rfl
    exact (hrest _ _ rfl).2.2.2 rfl

theorem readNumber_natural (hrest : EndsNumber rest) {n : Nat} (hfit : n ≤ Bounds.mostUnsigned64) :
    readNumber false (Nat.toDigits 10 n ++ rest) = .ok (.integer n, rest) := by
  rw [readNumber_digits hrest false hfit, readWhole_end hrest]
  rfl

theorem readNumber_negative (hrest : EndsNumber rest) {n : Nat} (hpos : 0 < n)
    (hfit : Bounds.leastSigned64 ≤ -(n : Int)) :
    readNumber true (Nat.toDigits 10 n ++ rest) = .ok (.integer (-(n : Int)), rest) := by
  have hunsigned : n ≤ Bounds.mostUnsigned64 := by
    simp only [Bounds.leastSigned64, Bounds.mostUnsigned64] at hfit ⊢
    omega
  rw [readNumber_digits hrest true hunsigned, readWhole_end hrest]
  simp [hpos, hfit]

theorem passNumber_digits (hrest : EndsNumber rest) (n : Nat) :
    passNumber (Nat.toDigits 10 n ++ rest) = .ok rest := by
  have hwhole : passNumber (Nat.toDigits 10 n ++ rest) = passNumber ('0' :: rest) := by
    obtain ⟨-, hzero⟩ | ⟨c, ds, hcons, hc, hdigits⟩ := Text.toDigits_cases n
    · rw [hzero]
      rfl
    · have hdrop : (ds ++ rest).dropWhile Char.isDigit = rest := by
        rw [List.dropWhile_append_of_pos fun d hd => hdigits d (by simp [hd])]
        cases rest with
        | nil => rfl
        | cons d more => rw [List.dropWhile_cons_of_neg (by simp [(hrest d more rfl).1])]
      rw [hcons, List.cons_append]
      simp [passNumber, hdigits c (by simp), hc, hdrop, hrest.startsWithDigit_eq]
  rw [hwhole]
  cases rest with
  | nil => rfl
  | cons c more =>
    obtain ⟨hdigit, hpoint, hsmall, hlarge⟩ := hrest c more rfl
    simp [passNumber, startsWithDigit, hdigit, hpoint, hsmall, hlarge, bind, Except.bind, pure,
      Except.pure]

end WholeNumbers

end DaemonLaunch.Json

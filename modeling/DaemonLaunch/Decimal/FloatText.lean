import DaemonLaunch.Decimal.Shortest

/-!
The text of a floating point number from its shortest decimal. A format says for which decimal
exponents the number is written with a point only; outside of them the first digit stands before the
point and an exponent with its sign follows. A number written with a point has at least one digit
after it.
-/

namespace DaemonLaunch.Decimal

/-- Where the notation without an exponent is used: the least and the greatest place of the first
digit, or always. -/
structure FloatFormat where
  positional : Option (Int × Int)

private def zeros (n : Nat) : List Char := List.replicate n '0'

private def Scaled.withPoint (x : Scaled) : List Char :=
  let digits := Nat.toDigits 10 x.digits
  if 0 ≤ x.exponent then digits ++ zeros x.exponent.toNat ++ ['.', '0']
  else
    let places := (-x.exponent).toNat
    if places < digits.length then
      digits.take (digits.length - places) ++ '.' :: digits.drop (digits.length - places)
    else '0' :: '.' :: zeros (places - digits.length) ++ digits

private def Scaled.place (x : Scaled) : Int :=
  x.exponent + (Nat.toDigits 10 x.digits).length - 1

private def Scaled.withExponent (x : Scaled) : List Char :=
  let mantissa := match Nat.toDigits 10 x.digits with
    | [d] => [d]
    | d :: more => d :: '.' :: more
    | [] => []
  let sign := if x.place < 0 then '-' else '+'
  mantissa ++ 'e' :: sign :: Nat.toDigits 10 x.place.natAbs

private def signBit : Nat := 0x8000000000000000

def FloatFormat.render (format : FloatFormat) (x : Float) : String :=
  if x.isNaN then "NaN"
  else
    let bits := x.toBits
    let sign := if signBit ≤ bits.toNat then ['-'] else []
    let size := UInt64.ofNat (bits.toNat % signBit)
    if x.isInf then String.ofList (sign ++ ['i', 'n', 'f'])
    else if size = 0 then String.ofList (sign ++ ['0', '.', '0'])
    else
      let decimal := (Binary.ofBits size).shortest
      let plain := match format.positional with
        | none => true
        | some (least, most) => least ≤ decimal.place && decimal.place ≤ most
      String.ofList (sign ++ if plain then decimal.withPoint else decimal.withExponent)

end DaemonLaunch.Decimal

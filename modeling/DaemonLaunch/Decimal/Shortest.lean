/-!
The shortest decimal that reads back as a given binary number. The numbers that round to `m · 2^q`
form an interval; decimals with one digit, two digits and so on up to seventeen are tried, and of
the two neighbours on the first grid that meets the interval the nearer one is taken, the even one
when both are equally near.
-/

namespace DaemonLaunch.Decimal

/-- A positive binary number `mantissa · 2^exponent`. At a `boundary` the number below is nearer
than the one above. -/
structure Binary where
  mantissa : Nat
  exponent : Int
  boundary : Bool

/-- A decimal number `digits · 10^exponent`. -/
structure Scaled where
  digits : Nat
  exponent : Int
  deriving DecidableEq, Repr

private def tenTo (g : Int) : Nat := Nat.pow 10 g.toNat

private def twoTo (p : Int) : Nat := Nat.pow 2 p.toNat

private def compareScaled (a : Nat) (g : Int) (b : Nat) (p : Int) : Ordering :=
  compare (a * tenTo g * twoTo (-p)) (b * twoTo p * tenTo (-g))

namespace Binary

private def quarters (x : Binary) : Nat := 4 * x.mantissa

private def lowEnd (x : Binary) : Nat := x.quarters - (if x.boundary then 1 else 2)

private def highEnd (x : Binary) : Nat := x.quarters + 2

private def admits (x : Binary) (g : Int) (a : Nat) : Bool :=
  let below := compareScaled a g x.lowEnd (x.exponent - 2)
  let above := compareScaled a g x.highEnd (x.exponent - 2)
  if x.mantissa % 2 = 0 then below != .lt && above != .gt else below == .gt && above == .lt

private def scaledDown (x : Binary) (g : Int) : Nat :=
  let p := x.exponent - 2
  (x.quarters * twoTo p * tenTo (-g)) / (tenTo g * twoTo (-p))

private def leadingPlace (x : Binary) : Int :=
  let whole := x.scaledDown 0
  if whole ≠ 0 then ((Nat.toDigits 10 whole).length : Int) - 1
  else match (List.range 400).find? fun k : Nat => x.scaledDown (-(k : Int)) ≠ 0 with
    | some k => -(k : Int)
    | none => 0

private def onGrid (x : Binary) (g : Int) : Option Nat :=
  let low := x.scaledDown g
  match x.admits g low, x.admits g (low + 1) with
  | true, false => some low
  | false, true => some (low + 1)
  | false, false => none
  | true, true =>
    match compareScaled (2 * low + 1) g (2 * x.quarters) (x.exponent - 2) with
    | .gt => some low
    | .lt => some (low + 1)
    | .eq => some (if low % 2 = 0 then low else low + 1)

private def stripZeros : Nat → Scaled → Scaled
  | 0, s => s
  | fuel + 1, s =>
    if s.digits ≠ 0 ∧ s.digits % 10 = 0 then stripZeros fuel ⟨s.digits / 10, s.exponent + 1⟩ else s

/-- The decimal with the fewest digits that rounds to the number. -/
def shortest (x : Binary) : Scaled :=
  let place := x.leadingPlace
  let found := (List.range 17).findSome? fun n : Nat =>
    (x.onGrid (place - n)).map fun digits => stripZeros 20 ⟨digits, place - n⟩
  found.getD ⟨x.scaledDown (place - 16), place - 16⟩

end Binary

private def leadingBit : Nat := 0x10000000000000

/-- The binary number that the bits of a finite positive double word stand for. -/
def Binary.ofBits (bits : UInt64) : Binary :=
  let fraction : Nat := bits.toNat % leadingBit
  let biased : Nat := bits.toNat / leadingBit % 2048
  if biased = 0 then ⟨fraction, -1074, false⟩
  else ⟨leadingBit + fraction, (biased : Int) - 1075, fraction == 0 && biased != 1⟩

end DaemonLaunch.Decimal

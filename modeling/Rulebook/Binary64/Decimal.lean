import Rulebook.Binary64

/-!
# Decimals and binary64 numbers

Reading and writing binary64 numbers in decimal. Reading rounds the exact decimal once. Writing
chooses the **shortest** decimal that reads back as the number, and among those of that length the
nearest one; a `Layout` then says how the digits are set out.

## Main definitions

* `Decimal.toBinary64`: the number nearest to a decimal;
* `Binary64.shortest`: the shortest decimal that reads back as a magnitude;
* `Layout`, `Layout.write`: the spelling of a number, and the layout in use, `Layout.plain`.
-/

namespace Rulebook

/-- The exact decimal `digits · 10 ^ exponent`. -/
structure Decimal where
  digits : Nat
  exponent : Int
deriving DecidableEq

namespace Decimal

/-- The factor by which the exponent multiplies. -/
def scaleUp (exponent : Int) : Nat := Nat.pow 10 exponent.toNat

/-- The factor by which the exponent divides. -/
def scaleDown (exponent : Int) : Nat := Nat.pow 10 (-exponent).toNat

/-- The number nearest to a decimal. An exponent that makes the value certainly too large, or
certainly smaller than half a unit, is answered without writing the power out. -/
def toBinary64 (negative : Bool) (d : Decimal) : Binary64 :=
  if d.digits = 0 then .finite negative .zero
  else if 310 < d.exponent then .infinite negative
  else if d.exponent < -(d.digits.log2 + 400 : Int) then .finite negative .zero
  else .round negative (d.digits * scaleUp d.exponent * unitsPerOne) (scaleDown d.exponent)

end Decimal

namespace Binary64

/-! ### The shortest decimal -/

/-- The numbers that round to a magnitude, in quarters of a unit: halfway to the neighbour on
either side, the ends included when the significand is even. -/
structure Neighbourhood where
  low : Nat
  high : Nat
  closed : Bool

/-- The neighbourhood of a magnitude. Below a power of two the numbers stand twice as close. -/
def neighbourhood (units : Nat) : Neighbourhood :=
  let shift := units.log2 - 52
  let step := Nat.pow 2 shift
  let below := if units = Nat.pow 2 units.log2 ∧ 0 < shift then step else 2 * step
  ⟨4 * units - below, 4 * units + 2 * step, (units / step) % 2 == 0⟩

/-- Does a decimal round to the magnitude with this neighbourhood? -/
def Neighbourhood.covers (n : Neighbourhood) (d : Decimal) : Bool :=
  let value := d.digits * Decimal.scaleUp d.exponent * (4 * unitsPerOne)
  let low := n.low * Decimal.scaleDown d.exponent
  let high := n.high * Decimal.scaleDown d.exponent
  if n.closed then decide (low ≤ value) && decide (value ≤ high)
  else decide (low < value) && decide (value < high)

/-- How many decimal digits a whole number has. -/
def decimalLength (n : Nat) : Nat := (Nat.toDigits 10 n).length

/-- The exponent of the leading decimal digit of a positive number of units. -/
def leadingExponent (units : Nat) : Int :=
  (decimalLength (units * Nat.pow 10 400 / unitsPerOne) : Int) - 401

/-- The decimal on the grid `10 ^ exponent` that reads back as the magnitude, when one of its two
neighbours on that grid does; of two the nearer, a tie going to the even one. -/
def onGrid? (units : Nat) (exponent : Int) : Option Decimal :=
  let num := units * Decimal.scaleDown exponent
  let den := unitsPerOne * Decimal.scaleUp exponent
  let below : Decimal := ⟨num / den, exponent⟩
  let above : Decimal := ⟨num / den + 1, exponent⟩
  let near := neighbourhood units
  match near.covers below, near.covers above with
  | true, true => some ⟨roundHalfEven num den, exponent⟩
  | true, false => some below
  | false, true => some above
  | false, false => none

/-- The shortest decimal that reads back as a positive magnitude: of the grids with one digit, two
digits and so on, the first that has one. Seventeen digits always suffice. -/
def shortest (units : Nat) : Decimal :=
  let leading := leadingExponent units
  let found := (List.range 17).findSome? fun (n : Nat) => onGrid? units (leading - n)
  found.getD ⟨units * Decimal.scaleDown (leading - 17) /
    (unitsPerOne * Decimal.scaleUp (leading - 17)), leading - 17⟩

end Binary64

/-! ### Layout -/

/-- How a number is set out. -/
structure Layout where
  /-- The least decimal exponent of the leading digit that is written positionally. -/
  leastPositional : Int
  /-- The greatest decimal exponent of the leading digit that is written positionally. -/
  greatestPositional : Int
  /-- What follows a positional number without a fraction. -/
  wholeMark : String
  /-- What stands between the digits and the exponent. -/
  exponentMark : String
  /-- The least number of digits of the exponent. -/
  exponentWidth : Nat
  /-- The spelling of infinity. -/
  infinity : String
  /-- The spelling of a NaN. -/
  notANumber : String

namespace Layout

/-- Numbers are positional from `0.0001` to below `10 ^ 16`, keep a fraction, and otherwise carry
an exponent with a sign and at least two digits. -/
def plain : Layout where
  leastPositional := -4
  greatestPositional := 15
  wholeMark := ".0"
  exponentMark := "e"
  exponentWidth := 2
  infinity := "inf"
  notANumber := "nan"

/-- A run of zeros. -/
def zeros (n : Nat) : List Char := List.replicate n '0'

/-- The digits of a decimal without the zeros at their end. -/
def significant (d : Decimal) : List Char :=
  ((Nat.toDigits 10 d.digits).reverse.dropWhile (· == '0')).reverse

/-- Digits with a point after the first `point` of them, zeros filling what is missing. -/
def positional (wholeMark : List Char) (digits : List Char) (point : Int) : List Char :=
  if point ≤ 0 then '0' :: '.' :: (zeros (-point).toNat ++ digits)
  else
    let before := point.toNat
    if digits.length ≤ before then digits ++ zeros (before - digits.length) ++ wholeMark
    else digits.take before ++ '.' :: digits.drop before

/-- Digits with a point after the first of them, and the exponent of that first digit. -/
def scientific (l : Layout) (digits : List Char) (exponent : Int) : List Char :=
  let exponentDigits := Nat.toDigits 10 exponent.natAbs
  let fraction := digits.drop 1
  digits.take 1 ++ (if fraction.isEmpty then [] else '.' :: fraction) ++ l.exponentMark.toList ++
    (if exponent < 0 then '-' else '+') ::
      (zeros (l.exponentWidth - exponentDigits.length) ++ exponentDigits)

/-- The spelling of a positive number of units. -/
def writeUnits (l : Layout) (units : Nat) : List Char :=
  let d := Binary64.shortest units
  let digits := significant d
  let leading : Int := (Nat.toDigits 10 d.digits).length + d.exponent - 1
  if l.leastPositional ≤ leading ∧ leading ≤ l.greatestPositional then
    positional l.wholeMark.toList digits (leading + 1)
  else
    l.scientific digits leading

/-- The spelling of a number. -/
def write (l : Layout) : Binary64 → String
  | .nan => l.notANumber
  | .infinite negative => if negative then "-" ++ l.infinity else l.infinity
  | .finite negative m =>
    let body :=
      if m.units = 0 then '0' :: l.wholeMark.toList else l.writeUnits m.units
    String.ofList (if negative then '-' :: body else body)

end Layout

end Rulebook

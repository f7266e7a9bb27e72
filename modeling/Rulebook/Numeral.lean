import Rulebook.Fault
import Rulebook.Binary64.Decimal
import Rulebook.Text.Blank
import Rulebook.Text.Digit

/-!
# Numerals

The numbers that texts write. A numeral is a decimal literal with an optional sign, a fraction and
an exponent, or a signed `Infinity`, or an unsigned whole number in base sixteen, eight or two
after `0x`, `0o` or `0b`. Blanks may surround it, and blanks alone write zero. Every other text
writes a NaN.

## Main definitions

* `Numeral.readDecimal?`: a decimal literal without sign;
* `Numeral.readBased?`: a whole number in another base;
* `Numeral.read`: the number a text writes.
-/

namespace Rulebook.Numeral

open Text

/-! ### Decimal literals -/

/-- Is a character a decimal digit? -/
def isDecimal (c : Char) : Bool := (decimalDigit? c).isSome

/-- The number that some digits write, in the given base. -/
def valueOf (base : Nat) (digits : List Nat) : Nat :=
  digits.foldl (fun value digit => base * value + digit) 0

/-- The values of the decimal digits among some characters. -/
def decimals (cs : List Char) : List Nat := cs.filterMap decimalDigit?

/-- A sign that stands in front: is it a minus, and what follows? -/
def takeSign : List Char → Bool × List Char
  | '-' :: rest => (true, rest)
  | '+' :: rest => (false, rest)
  | cs => (false, cs)

/-- The exponent after the digits of a literal, up to its end; none is zero. -/
def readExponent? : List Char → Option Int
  | [] => some 0
  | c :: rest =>
    if c = 'e' ∨ c = 'E' then
      let (negative, digits) := takeSign rest
      if digits.isEmpty || !digits.all isDecimal then none
      else
        let n : Int := valueOf 10 (decimals digits)
        some (if negative then -n else n)
    else none

/-- The digits of a fraction, if a point stands in front, and what follows. -/
def takeFraction : List Char → List Char × List Char
  | '.' :: rest => (rest.takeWhile isDecimal, rest.dropWhile isDecimal)
  | cs => ([], cs)

/-- The decimal that a literal without sign writes: digits, a fraction and an exponent, with at
least one digit before the exponent. -/
def readDecimal? (cs : List Char) : Option Decimal := do
  let whole := cs.takeWhile isDecimal
  let (fraction, rest) := takeFraction (cs.dropWhile isDecimal)
  if whole.isEmpty && fraction.isEmpty then none
  let exponent ← readExponent? rest
  return ⟨valueOf 10 (decimals (whole ++ fraction)), exponent - fraction.length⟩

/-! ### Other bases -/

/-- The value of a digit in bases up to sixteen. -/
def digit? (base : Nat) (c : Char) : Option Nat :=
  let value? :=
    if 'a' ≤ c ∧ c ≤ 'f' then some (c.toNat - 'a'.toNat + 10)
    else if 'A' ≤ c ∧ c ≤ 'F' then some (c.toNat - 'A'.toNat + 10)
    else decimalDigit? c
  value?.filter (· < base)

/-- The base that the letter after a leading zero announces. -/
def base? (c : Char) : Option Nat :=
  if c = 'x' ∨ c = 'X' then some 16
  else if c = 'o' ∨ c = 'O' then some 8
  else if c = 'b' ∨ c = 'B' then some 2
  else none

/-- The base that a text announces, and the characters after the announcement. -/
def announced? : List Char → Option (Nat × List Char)
  | '0' :: c :: rest => (base? c).map (·, rest)
  | _ => none

/-- The whole number that digits of a base write; there has to be at least one. -/
def readBased? (base : Nat) (cs : List Char) : Option Nat :=
  if cs.isEmpty then none else (cs.mapM (digit? base)).map (valueOf base)

/-! ### Texts -/

/-- The spelling of infinity. -/
def infinity : List Char := "Infinity".toList

/-- An integer as a binary64 number, refused when it is too large. -/
def ofInt (n : Int) : Except Fault Binary64 := Fault.integerTooLarge.ifNone (Binary64.ofInt? n)

/-- An integer that counts as a number counts as a finite one. -/
theorem isFinite_of_ofInt {n : Int} {x : Binary64} (h : ofInt n = .ok x) : x.isFinite = true :=
  Binary64.isFinite_of_ofInt? (Fault.ifNone_eq_ok_iff.1 h)

/-- The number that a text without surrounding blanks writes in base ten, or a NaN. -/
def readSigned (cs : List Char) : Binary64 :=
  let (negative, rest) := takeSign cs
  if rest = infinity then .infinite negative
  else (readDecimal? rest).elim .nan (Decimal.toBinary64 negative)

/-- Is a character a sign? -/
def isSign (c : Char) : Bool := c == '+' || c == '-'

/-- The number that a text writes, or a NaN. Only a whole number in another base can be too large,
since a decimal literal becomes infinite. -/
def read (s : List Char) : Except Fault Binary64 :=
  let cs := trim s
  if cs.isEmpty then .ok .zero
  else
    match announced? (cs.dropWhile isSign) with
    | some (base, digits) =>
      if cs.head?.any isSign then .ok .nan
      else
        match readBased? base digits with
        | some n => ofInt n
        | none => .ok .nan
    | none => .ok (readSigned cs)

end Rulebook.Numeral

import Capability.Floating.Datum

/-!
The shortest decimal text of a floating-point value.

Many decimal numbers read back as one floating-point value: all those in the
interval halfway to its two neighbours, with the ends if the mantissa is even.
The text has the fewest digits that some number of the interval has.  On a grid
of decimal numbers of one length only the two around the value can be nearest to
it, so that trying these two on finer and finer grids finds the number; of two
in the interval the nearer is taken, and the greater if both are equally near.
Arithmetic is on natural numbers throughout.
-/

namespace Capability
namespace Floating

/-- The number `coefficient * 10 ^ exponent`. -/
structure Decimal where
  coefficient : Nat
  exponent : Int
deriving DecidableEq, Repr

/-- A power of ten as a fraction, numerator first. -/
def tenPower (exponent : Int) : Nat × Nat :=
  if 0 ≤ exponent then (Nat.pow 10 exponent.toNat, 1) else (1, Nat.pow 10 (-exponent).toNat)

/-- The numbers that read back as one value, over a common denominator. -/
structure Interval where
  low : Nat
  value : Nat
  high : Nat
  denominator : Nat
  /-- Whether the ends read back as well. -/
  closed : Bool

namespace Interval

/-- The interval of the value `mantissa * 2 ^ exponent`. -/
def of (mantissa : Nat) (exponent : Int) (narrow : Bool) : Interval :=
  let scale := Nat.pow 2 exponent.toNat
  { low := (4 * mantissa - if narrow then 1 else 2) * scale
    value := 4 * mantissa * scale
    high := (4 * mantissa + 2) * scale
    denominator := 4 * Nat.pow 2 (-exponent).toNat
    closed := mantissa % 2 == 0 }

/-- Whether `coefficient * 10 ^ place` lies in the interval. -/
def covers (interval : Interval) (coefficient : Nat) (place : Int) : Bool :=
  let (up, down) := tenPower place
  let point := coefficient * up * interval.denominator
  if interval.closed then interval.low * down ≤ point && point ≤ interval.high * down
  else interval.low * down < point && point < interval.high * down

/-- The greatest multiple of `10 ^ place` that is not above the value. -/
def below (interval : Interval) (place : Int) : Nat :=
  let (up, down) := tenPower place
  interval.value * down / (interval.denominator * up)

/-- Whether the value is nearer to the multiple below it than to the next one. -/
def nearerBelow (interval : Interval) (place : Int) : Bool :=
  let (up, down) := tenPower place
  2 * interval.value * down < (2 * interval.below place + 1) * up * interval.denominator

/-- The number of the interval on one grid that is nearest to the value. -/
def onGrid? (interval : Interval) (place : Int) : Option Decimal :=
  let lower := interval.below place
  match interval.covers lower place, interval.covers (lower + 1) place with
  | true, true => some ⟨if interval.nearerBelow place then lower else lower + 1, place⟩
  | true, false => some ⟨lower, place⟩
  | false, true => some ⟨lower + 1, place⟩
  | false, false => none

/-- The exponent of the value's first digit, searched for among the given number of places. -/
def leadingPlace (interval : Interval) : Nat → Int → Int
  | 0, place => place
  | steps + 1, place =>
    if interval.below place = 0 then interval.leadingPlace steps (place - 1) else place

end Interval

/-- The number without zeros at its end. -/
def Decimal.trim (fuel : Nat) (decimal : Decimal) : Decimal :=
  match fuel with
  | 0 => decimal
  | fuel + 1 =>
    if decimal.coefficient % 10 == 0 && decimal.coefficient != 0 then
      Decimal.trim fuel ⟨decimal.coefficient / 10, decimal.exponent + 1⟩
    else decimal

/-- Seventeen digits tell any two values of the formats used here apart. -/
def enoughDigits : Nat := 17

/-- No format used here has a value with a digit beyond this place. -/
def lastPlace : Nat := 310

/-- The number with the fewest digits that reads back as `mantissa * 2 ^ exponent`. -/
def shortest (mantissa : Nat) (exponent : Int) (narrow : Bool) : Decimal :=
  let interval := Interval.of mantissa exponent narrow
  let leading := interval.leadingPlace (2 * lastPlace + 40) lastPlace
  let grids := (List.range enoughDigits).map fun (digits : Nat) => leading - digits
  match grids.findSome? interval.onGrid? with
  | some decimal => decimal.trim 20
  | none => ⟨mantissa, exponent⟩

end Floating
end Capability

import Capability.Floating.Shortest

/-!
Writing decimal numbers.

A style says between which exponents of the first digit a number is written by
position and how the exponent is written beyond.  A whole number written by
position ends in `.0`, so that it is still seen to be a floating-point number.
-/

namespace Capability
namespace Floating

/-- How a decimal number is written. -/
structure Style where
  /-- Least exponent of the first digit that is written by position. -/
  least : Int
  /-- First exponent beyond `least` that is written out again. -/
  limit : Int
  /-- Whether a positive exponent has its sign written. -/
  signed : Bool
  /-- Least number of digits of the exponent. -/
  width : Nat

/-- Dumps write an exponent below `0.0001` and from `1e16` on. -/
def Style.dump : Style := ⟨-4, 16, false, 1⟩

/-- Messages about documents write one below `0.00001` and from `1e+16` on. -/
def Style.document : Style := ⟨-5, 16, true, 2⟩

/-- Zeros, as many as asked for. -/
def zeros (count : Nat) : List Char := List.replicate count '0'

namespace Style

/-- The digits with the point after the given number of them. -/
def positional (digits : List Char) (point : Int) : List Char :=
  if point ≤ 0 then ['0', '.'] ++ zeros (-point).toNat ++ digits
  else if digits.length ≤ point.toNat then
    digits ++ zeros (point.toNat - digits.length) ++ ['.', '0']
  else digits.take point.toNat ++ '.' :: digits.drop point.toNat

/-- The exponent with its mark. -/
def exponent (style : Style) (value : Int) : List Char :=
  let digits := Nat.toDigits 10 value.natAbs
  let sign := if value < 0 then ['-'] else if style.signed then ['+'] else []
  'e' :: sign ++ zeros (style.width - digits.length) ++ digits

/-- A positive number. -/
def decimal (style : Style) (number : Decimal) : List Char :=
  let digits := Nat.toDigits 10 number.coefficient
  let leading : Int := digits.length + number.exponent - 1
  if style.least ≤ leading && leading < style.limit then
    positional digits (leading + 1)
  else
    match digits with
    | first :: [] => first :: style.exponent leading
    | first :: rest => first :: '.' :: rest ++ style.exponent leading
    | [] => []

/-- The value that bits stand for. -/
def text (style : Style) (format : Format) (bits : Nat) : String :=
  let sign (negative : Bool) : List Char := if negative then ['-'] else []
  String.ofList <| match format.datum bits with
    | .notANumber => "NaN".toList
    | .infinite negative => sign negative ++ "inf".toList
    | .finite negative 0 _ _ => sign negative ++ "0.0".toList
    | .finite negative mantissa exponent narrow =>
      sign negative ++ style.decimal (shortest mantissa exponent narrow)

end Style
end Floating
end Capability

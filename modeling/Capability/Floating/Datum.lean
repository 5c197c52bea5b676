/-!
Floating-point values as the bits that hold them.

A value is kept as its bits, so that nothing is lost on the way in or out.  What
the bits stand for is read off them: not a number, an infinity, or a signed
mantissa times a power of two.  Two values compare as the numbers they stand
for, the two zeros being one number, and what is not a number is related to
nothing.
-/

namespace Capability
namespace Floating

/-- A binary interchange format: the widths of its two fields below the sign. -/
structure Format where
  fractionBits : Nat
  exponentBits : Nat

/-- Sixty-four bits. -/
def Format.double : Format := ⟨52, 11⟩

/-- Thirty-two bits. -/
def Format.single : Format := ⟨23, 8⟩

namespace Format

/-- The field of the sign. -/
def isNegative (format : Format) (bits : Nat) : Bool :=
  bits / Nat.pow 2 (format.fractionBits + format.exponentBits) % 2 == 1

/-- The bits below the sign. -/
def magnitude (format : Format) (bits : Nat) : Nat :=
  bits % Nat.pow 2 (format.fractionBits + format.exponentBits)

/-- The bits below the sign of the infinities. -/
def infinity (format : Format) : Nat :=
  (Nat.pow 2 format.exponentBits - 1) * Nat.pow 2 format.fractionBits

/-- Whether the bits stand for no number. -/
def isNaN (format : Format) (bits : Nat) : Bool := format.infinity < format.magnitude bits

/-- A key that orders the bits of numbers as the numbers are ordered. -/
def key (format : Format) (bits : Nat) : Int :=
  if format.isNegative bits then -(format.magnitude bits : Int) else format.magnitude bits

/-- The ordering of two values; there is none if either is not a number. -/
def compare? (format : Format) (left right : Nat) : Option Ordering :=
  if format.isNaN left || format.isNaN right then none
  else some (Ord.compare (format.key left) (format.key right))

end Format

/-- The number that bits stand for. -/
inductive Datum where
  | notANumber
  | infinite (negative : Bool)
  /--
  The number `mantissa * 2 ^ exponent`.  The neighbour below is half as far away
  as the one above if `narrow` holds.
  -/
  | finite (negative : Bool) (mantissa : Nat) (exponent : Int) (narrow : Bool)
deriving DecidableEq, Repr

/-- Read bits as a number. -/
def Format.datum (format : Format) (bits : Nat) : Datum :=
  let negative := format.isNegative bits
  let fraction := bits % Nat.pow 2 format.fractionBits
  let field := format.magnitude bits / Nat.pow 2 format.fractionBits
  let unit : Int := (2 : Int) - Nat.pow 2 (format.exponentBits - 1) - format.fractionBits
  if format.isNaN bits then .notANumber
  else if format.magnitude bits = format.infinity then .infinite negative
  else if field = 0 then .finite negative fraction unit false
  else .finite negative (Nat.pow 2 format.fractionBits + fraction) (unit + (field - 1))
    (fraction == 0 && 1 < field)

end Floating
end Capability

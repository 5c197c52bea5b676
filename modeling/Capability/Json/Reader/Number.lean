import Capability.Json.Reader.Basic

/-!
Reading numbers.

Digits are collected in a word of 64 bits.  A number without a fraction and
without an exponent whose digits fit the word, and whose negation fits a signed
word, is an integer.  Any other number is a double: as many digits as fit the
word are rounded to a double and multiplied or divided by a power of ten, which
rounds again.  A number too great for a double is a fault, a number too small is
zero.
-/

namespace Capability
namespace Json
namespace Reader


/-- A number as it is written: an integer of 64 bits, or the bits of a double. -/
inductive Number where
  | integer (number : Int)
  | real (bits : Nat)

/-- Whether an integer fits the word that holds the digits of a number. -/
def fitsWord (number : Nat) : Bool := number < Nat.pow 2 64

/-- Read digits while the number they continue fits a word; says how many were read. -/
def digitsFitting : (fuel number count : Nat) → Reader (Nat × Nat)
  | 0, number, count => pure (number, count)
  | fuel + 1, number, count => do
    match ← peek? with
    | some c =>
      if c.isDigit then
        let next := number * 10 + (c.toNat - 48)
        if fitsWord next then do
          advance
          digitsFitting fuel next (count + 1)
        else pure (number, count)
      else pure (number, count)
    | none => pure (number, count)

/-- Read digits without regard to their value; says how many there were. -/
def digitsSkipped : (fuel count : Nat) → Reader Nat
  | 0, count => pure count
  | fuel + 1, count => do
    match ← peek? with
    | some c => if c.isDigit then do advance; digitsSkipped fuel (count + 1) else pure count
    | none => pure count

def skipDigits : Reader Nat := do
  digitsSkipped (← remaining) 0

/-- Divide a double by powers of ten until the exponent left is in the range of doubles. -/
def scaledDown : (steps : Nat) → Float → Int → Float × Int
  | 0, value, exponent => (value, exponent)
  | steps + 1, value, exponent =>
    if exponent.natAbs ≤ 308 || value == 0 then (value, exponent)
    else scaledDown steps (value / Float.ofScientific 1 false 308) (exponent + 308)

/-- A signed double. -/
def signed (positive : Bool) (value : Float) : Number :=
  .real (if positive then value else -value).toBits.toNat

/--
The double for digits and a power of ten.  The digits are rounded first, and
the product or quotient with the power is rounded again.
-/
def scaled (positive : Bool) (significand : Nat) (exponent : Int) : Reader Number :=
  let value := (UInt64.ofNat significand).toFloat
  if 308 < exponent then
    if value == 0 then pure (signed positive value) else here .numberOutOfRange
  else if 0 ≤ exponent then
    let product := value * Float.ofScientific 1 false exponent.toNat
    if product.isInf then here .numberOutOfRange else pure (signed positive product)
  else
    let (value, exponent) := scaledDown 3 value exponent
    if 308 < exponent.natAbs then pure (signed positive 0)
    else pure (signed positive (value / Float.ofScientific 1 false exponent.natAbs))

/-- Greatest exponent that is computed with. -/
def greatestExponent : Nat := Nat.pow 2 31 - 1

/-- Read the digits of an exponent; there is none if it is too great to compute with. -/
def exponentDigits : (fuel exponent : Nat) → Reader (Option Nat)
  | 0, exponent => pure (some exponent)
  | fuel + 1, exponent => do
    match ← peek? with
    | some c =>
      if c.isDigit then do
        advance
        let next := exponent * 10 + (c.toNat - 48)
        if next ≤ greatestExponent then exponentDigits fuel next else pure none
      else pure (some exponent)
    | none => pure (some exponent)

def exponentSign : Reader Bool := do
  match ← peek? with
  | some '+' => advance; pure true
  | some '-' => advance; pure false
  | _ => pure true

/-- Read the exponent whose mark is next. -/
def exponentPart (positive : Bool) (significand : Nat) (exponent : Int) : Reader Number := do
  advance
  let raises ← exponentSign
  match ← peek? with
  | none => here .endInValue
  | some c =>
    if !c.isDigit then within 1 .invalidNumber
    else do
      advance
      match ← exponentDigits (← remaining) (c.toNat - 48) with
      | none =>
        if significand ≠ 0 && raises then here .numberOutOfRange
        else do
          let _ ← skipDigits
          pure (signed positive 0)
      | some power =>
        scaled positive significand (if raises then exponent + power else exponent - power)

/-- Read an exponent, if there is one, and finish the number. -/
def exponentOrEnd (positive : Bool) (significand : Nat) (exponent : Int) : Reader Number := do
  match ← peek? with
  | some 'e' | some 'E' => exponentPart positive significand exponent
  | _ => scaled positive significand exponent

/-- Read the fraction whose point is next.  Digits that fit no word are without effect. -/
def fractionPart (positive : Bool) (significand : Nat) (exponent : Int) : Reader Number := do
  advance
  let (significand, count) ← digitsFitting (← remaining) significand 0
  let beyond ← skipDigits
  if count + beyond = 0 then
    match ← peek? with
    | some _ => ahead .invalidNumber
    | none => ahead .endInValue
  else exponentOrEnd positive significand (exponent - count)

/-- Read what may follow the digits of an integer that fits a word. -/
def afterInteger (positive : Bool) (significand : Nat) : Reader Number := do
  match ← peek? with
  | some '.' => fractionPart positive significand 0
  | some 'e' | some 'E' => exponentPart positive significand 0
  | _ =>
    if positive then pure (.integer significand)
    else if significand = 0 || Nat.pow 2 63 < significand then
      pure (signed false (UInt64.ofNat significand).toFloat)
    else pure (.integer (-(significand : Int)))

/-- Read what may follow the digits of an integer of which some fit no word. -/
def afterLongInteger (positive : Bool) (significand : Nat) (exponent : Nat) : Reader Number := do
  match ← peek? with
  | some '.' => fractionPart positive significand exponent
  | _ => exponentOrEnd positive significand exponent

/-- Read a number whose sign has been read. -/
def unsigned (positive : Bool) : Reader Number := do
  match ← peek? with
  | none => here .endInValue
  | some '0' =>
    advance
    match ← peek? with
    | some c => if c.isDigit then ahead .invalidNumber else afterInteger positive 0
    | none => afterInteger positive 0
  | some c =>
    if !c.isDigit then within 1 .invalidNumber
    else do
      advance
      let (significand, _) ← digitsFitting (← remaining) (c.toNat - 48) 0
      match ← skipDigits with
      | 0 => afterInteger positive significand
      | beyond + 1 => afterLongInteger positive significand (beyond + 1)

/-- Read a number whose first character has been seen. -/
def number : Reader Number := do
  match ← peek? with
  | some '-' => advance; unsigned false
  | _ => unsigned true

end Reader
end Json
end Capability

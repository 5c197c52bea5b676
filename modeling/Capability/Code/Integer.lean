import Capability.Code.Parser

/-!
Integer literals, and the numbers by which members without a name are called.

An integer may be written in four bases, with underscores between its digits and
with a suffix behind them.  A decimal number with a point or an exponent is no
integer, and neither is one with a digit that its base does not have.  A member
is called by its number in the tuple it belongs to, however the number is
written; it has no sign, no suffix, and at most thirty-two bits.
-/

namespace Capability
namespace Code

/-- An integer literal. -/
structure Integer where
  isNegative : Bool
  magnitude : Nat
  suffix : List Char
deriving DecidableEq, Repr

namespace Integer

/-- Whether an exponent follows its mark, so that the number is not an integer. -/
def beginsExponent : List Char → Bool
  | [] => false
  | c :: rest => if c = '_' then beginsExponent rest else c = '+' || c = '-' || c.isDigit

/-- Whether a character is read as a digit, be it one of the base or not. -/
def isDigitOf (base : Nat) (c : Char) : Bool := c.isDigit || (10 < base && Lexeme.isHex c)

/-- Whether a decimal number that goes on like this is none of the integers. -/
def isFractional (base : Nat) : List Char → Bool
  | [] => false
  | c :: rest => base == 10 && (c == '.' || ((c == 'e' || c == 'E') && beginsExponent rest))

/-- The value of digits behind those read before, if there are any, and the rest behind them. -/
def digits? (base : Nat) : (before : Option Nat) → List Char → Option (Nat × List Char)
  | before, [] => before.map (·, [])
  | before, c :: rest =>
    if c = '_' then digits? base before rest
    else if isDigitOf base c then
      if Lexeme.hexValue c < base then
        digits? base (some (before.getD 0 * base + Lexeme.hexValue c)) rest
      else none
    else if isFractional base (c :: rest) then none
    else before.map (·, c :: rest)

/-- The value and the suffix of a number without a sign. -/
def magnitude? : List Char → Option (Nat × List Char)
  | '0' :: 'x' :: rest => digits? 16 none rest
  | '0' :: 'o' :: rest => digits? 8 none rest
  | '0' :: 'b' :: rest => digits? 2 none rest
  | c :: rest => if c.isDigit then digits? 10 none (c :: rest) else none
  | [] => none

/-- Whether characters can be a suffix: none at all, or those of a word. -/
def isSuffix (chars : List Char) : Bool :=
  chars.isEmpty || (Lexeme.plainWord? chars).any List.isEmpty

/-- The integer that a literal without a sign is. -/
def ofText? (text : String) : Option Integer := do
  let (value, suffix) ← magnitude? text.toList
  if isSuffix suffix then some ⟨false, value, suffix⟩ else none

/-- The largest number by which a member can be called. -/
def largestIndex : Nat := 4294967295

/-- The number by which a member is called. -/
def index (integer : Integer) : Except Complaint Nat :=
  if !integer.suffix.isEmpty then .error (.refused false "expected unsuffixed integer")
  else if integer.isNegative then .error (.refused false "invalid digit found in string")
  else if largestIndex < integer.magnitude then
    .error (.refused false "number too large to fit in target type")
  else .ok integer.magnitude

end Integer

namespace Tokens

/-- The integer that stands ahead, with a sign or without, and the tokens behind it. -/
def integer? : Tokens → Option (Integer × Tokens)
  | .literal text :: rest => (Integer.ofText? text).map (·, rest)
  | .mark '-' _ :: .literal text :: rest =>
    (Integer.ofText? text).map fun found => (⟨true, found.magnitude, found.suffix⟩, rest)
  | _ => none

/-- The text of the number with a fraction or an exponent that stands ahead, and the tokens
behind it. -/
def fraction? : Tokens → Option (String × Tokens)
  | .literal text :: rest =>
    if isNumber text && (Integer.ofText? text).isNone then some (text, rest) else none
  | .mark '-' _ :: .literal text :: rest =>
    if isNumber text && (Integer.ofText? text).isNone then some ("-" ++ text, rest) else none
  | _ => none

/-- The number of a member, as it is written. -/
def index (number : Nat) : Tokens := [.literal (toString number)]

end Tokens

/-- The number that a part of a number between its points is. -/
def Integer.indexOfPart (part : String) : Except Complaint Nat :=
  match Tokens.ofText? part with
  | none => .error .unreadable
  | some tokens =>
    match tokens.integer? with
    | none => .error (.refused tokens.isEmpty "expected integer literal")
    | some (integer, rest) => do
      let number ← integer.index
      if rest.isEmpty then .ok number else .error (.leftover none)

/-- The numbers between the points of a number, and whether a point ends it. -/
def Integer.indices (text : String) : Except Complaint (List Nat × Bool) := do
  let parts := text.splitOn "."
  let endsInPoint := parts.getLast? == some ""
  return (← (if endsInPoint then parts.dropLast else parts).mapM indexOfPart, endsInPoint)

end Code
end Capability

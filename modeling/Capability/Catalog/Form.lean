import Capability.Json.Value

/-!
How values of the catalog's types are written as JSON values.

A form reads a value and writes it again.  Integers are held to the range of
their type, floating-point values are given by their bits and byte strings by
hexadecimal digits.
-/

namespace Capability

/-! ### Bytes as digits -/

namespace Text

/-- The value of a hexadecimal digit, small or capital. -/
def hexValue? (c : Char) : Option Nat :=
  if '0' ≤ c && c ≤ '9' then some (c.toNat - 48)
  else if 'a' ≤ c && c ≤ 'f' then some (c.toNat - 87)
  else if 'A' ≤ c && c ≤ 'F' then some (c.toNat - 55)
  else none

/-- The bytes that pairs of digits spell. -/
def unhexFrom? : List Char → Option (List UInt8)
  | [] => some []
  | [_] => none
  | high :: low :: rest => do
    let byte := (← hexValue? high) * 16 + (← hexValue? low)
    return UInt8.ofNat byte :: (← unhexFrom? rest)

/-- The bytes that a text spells. -/
def unhex? (text : String) : Option (List UInt8) := unhexFrom? text.toList

/-- A small hexadecimal digit. -/
def hexDigit (value : Nat) : Char :=
  if value < 10 then Char.ofNat (48 + value) else Char.ofNat (87 + value)

/-- Bytes as pairs of small digits. -/
def hex (bytes : List UInt8) : String :=
  String.ofList (bytes.flatMap fun byte => [hexDigit (byte.toNat / 16), hexDigit (byte.toNat % 16)])

/-- The number that bytes spell, the most significant one first. -/
def bigEndian (bytes : List UInt8) : Nat :=
  bytes.foldl (fun number byte => number * 256 + byte.toNat) 0

end Text

/-! ### Forms -/

namespace Catalog

open Json (Value)

/-- How values of a type are written. -/
structure Form (α : Type) where
  read : Value → Option α
  write : α → Value

namespace Form

/-- Integers from a least to a greatest one. -/
def integer (least greatest : Int) : Form Int where
  read
    | .integer number => if least ≤ number && number ≤ greatest then some number else none
    | _ => none
  write number := .integer number

/-- Integers of so many bits that are not negative. -/
def unsigned (width : Nat) : Form Int := integer 0 (Nat.pow 2 width - 1)

/-- Integers of so many bits. -/
def signed (width : Nat) : Form Int := integer (-Nat.pow 2 (width - 1)) (Nat.pow 2 (width - 1) - 1)

/-- Truth values. -/
def boolean : Form Bool where
  read
    | .boolean truth => some truth
    | _ => none
  write truth := .boolean truth

/-- Texts. -/
def text : Form String where
  read
    | .string content => some content
    | _ => none
  write content := .string content

/-- Texts of one character. -/
def character : Form Char where
  read
    | .string content =>
      match content.toList with
      | [c] => some c
      | _ => none
    | _ => none
  write c := .string (String.singleton c)

/-- Byte strings. -/
def bytes : Form (List UInt8) where
  read
    | .string content => Text.unhex? content
    | _ => none
  write content := .string (Text.hex content)

/-- Byte strings of one length. -/
def bytesOf (length : Nat) : Form (List UInt8) where
  read value := (bytes.read value).filter fun content => content.length == length
  write := bytes.write

/-- The bytes of a number, the most significant one first. -/
def bigEndianBytes : (count number : Nat) → List UInt8
  | 0, _ => []
  | count + 1, number => UInt8.ofNat (number / Nat.pow 256 count) :: bigEndianBytes count number

/-- Floating-point values of so many bytes, as their bits. -/
def bits (count : Nat) : Form Nat where
  read value := ((bytesOf count).read value).map Text.bigEndian
  write number := .string (Text.hex (bigEndianBytes count number))

/-- Lists of values of one form. -/
def list {α : Type} (item : Form α) : Form (List α) where
  read
    | .array values => values.mapM item.read
    | _ => none
  write items := .array (items.map item.write)

/-- Pairs, as lists of which items after the second are not looked at. -/
def pair {α β : Type} (first : Form α) (second : Form β) : Form (α × β) where
  read
    | .array (left :: right :: _) => do return (← first.read left, ← second.read right)
    | _ => none
  write parts := .array [first.write parts.1, second.write parts.2]

/-- Values that may be absent. -/
def optional {α : Type} (item : Form α) : Form (Option α) where
  read
    | .null => some none
    | value => (item.read value).map some
  write
    | none => .null
    | some value => item.write value

/-- The only value of its type, however it is written. -/
def only : Form Unit where
  read _ := some ()
  write _ := .null

end Form
end Catalog
end Capability

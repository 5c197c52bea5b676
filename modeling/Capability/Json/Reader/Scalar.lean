import Capability.Json.Reader.Number
import Capability.Json.Reader.Text

/-!
Reading single values of a wanted kind.

Where a value of another kind stands, it is read as far as it is no list and no
object, and the fault says what was found and what was wanted.
-/

namespace Capability
namespace Json
namespace Reader


/-- Find out what stands where something else was wanted.  Brackets are not read. -/
def found : Reader Found := do
  match ← peek? with
  | some 'n' => knownWord "null"; pure .null
  | some 't' => knownWord "true"; pure (.boolean true)
  | some 'f' => knownWord "false"; pure (.boolean false)
  | some '"' => return .string (← stringToken)
  | some '[' => pure .sequence
  | some '\x7b' => pure .map
  | some c =>
    if c = '-' || c.isDigit then do
      match ← number with
      | .integer value => pure (.integer value)
      | .real bits => pure (.real bits)
    else ahead .valueExpected
  | none => ahead .valueExpected

/-- Give up because something else stands here than what was wanted. -/
def unexpected {α : Type} (expected : String) : Reader α := do
  unplaced (.invalidType (← found) expected)


/-- Read a truth value. -/
def boolean : Reader Bool := settled do
  match ← peekToken? with
  | none => ahead .endInValue
  | some 't' => knownWord "true"; pure true
  | some 'f' => knownWord "false"; pure false
  | some _ => unexpected "a boolean"

def text : Reader String := settled do
  match ← peekToken? with
  | none => ahead .endInValue
  | some '"' => stringToken
  | some _ => unexpected "a string"

/-- Read the absence of a value. -/
def unit : Reader Unit := settled do
  match ← peekToken? with
  | none => ahead .endInValue
  | some 'n' => knownWord "null"
  | some _ => unexpected "unit"

/-- Read a natural number that fits a word of 64 bits. -/
def size : Reader UInt64 := settled do
  match ← peekToken? with
  | none => ahead .endInValue
  | some c =>
    if c = '-' || c.isDigit then do
      match ← number with
      | .integer value =>
        if value < 0 then unplaced (.invalidValue (.integer value) "usize")
        else pure (UInt64.ofNat value.toNat)
      | .real bits => unplaced (.invalidType (.real bits) "usize")
    else unexpected "usize"

end Reader
end Json
end Capability

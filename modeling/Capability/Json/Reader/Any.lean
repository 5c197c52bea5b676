import Capability.Json.Reader.List
import Capability.Json.Value

/-!
Reading values of any kind.
-/

namespace Capability
namespace Json
namespace Reader


mutual

/-- Read a value of any kind. -/
def value : (fuel : Nat) → Reader Value
  | 0 => ahead .valueExpected
  | fuel + 1 => do
    match ← peekToken? with
    | none => ahead .endInValue
    | some '[' => do
      advance
      bracketed (return .array (← valueItems fuel [])) listEnd
    | some '\x7b' => do
      advance
      bracketed (return .object (← valueMembers fuel [])) objectEnd
    | some _ => do
      match ← found with
      | .null => pure .null
      | .boolean truth => pure (.boolean truth)
      | .integer number => pure (.integer number)
      | .real bits => pure (.real bits)
      | .string text => pure (.string text)
      | .sequence | .map => ahead .valueExpected

/-- Read the items of a list of values. -/
def valueItems : (fuel : Nat) → List Value → Reader (List Value)
  | 0, _ => ahead .endInList
  | fuel + 1, read => do
    if ← anotherItem read.isEmpty then
      let item ← value fuel
      valueItems fuel (item :: read)
    else pure read.reverse

/-- Read the members of an object of values. -/
def valueMembers : (fuel : Nat) → List (String × Value) → Reader (List (String × Value))
  | 0, _ => ahead .endInObject
  | fuel + 1, read => do
    if ← anotherName read.isEmpty then
      let name ← stringToken
      colon
      let item ← value fuel
      valueMembers fuel ((name, item) :: read)
    else pure read.reverse

end

end Reader

def Value.parse (text : String) : Except Fault Value :=
  Reader.run (Reader.value (2 * text.length + 2)) text

end Json
end Capability

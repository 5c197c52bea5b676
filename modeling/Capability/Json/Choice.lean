import Capability.Json.Cursor
import Capability.Json.Value

/-!
Telling one of several named values from a JSON value that is at hand already.

A named value is its name, or an object with the name as its only member, bound
to `null`.
-/

namespace Capability
namespace Json

/-- How a message names a value at hand. -/
def Value.found : Value → Found
  | null => .null
  | boolean truth => .boolean truth
  | integer number => .integer number
  | real bits => .real bits
  | string text => .string text
  | array _ => .sequence
  | object _ => .map

/-- The names of an object's members without repetition. -/
def memberNames (members : List (String × Value)) : List String :=
  (members.map (·.1)).eraseDups

/-- The value with a given name. -/
def named {α : Type} (label : α → String) (all : List α) (name : String) : Except Cause α :=
  match all.find? fun value => label value == name with
  | some value => .ok value
  | none => .error (.unknownVariant name (all.map label))

/-- The named value that a JSON value is. -/
def Value.choice {α : Type} (label : α → String) (all : List α) (value : Value) :
    Except Cause α :=
  match value with
  | string name => named label all name
  | object members =>
    match memberNames members with
    | [name] => do
      let chosen ← named label all name
      match value.member? name with
      | some null => .ok chosen
      | some content => .error (.invalidType content.found "unit")
      | none => .ok chosen
    | _ => .error (.invalidValue .map "map with a single key")
  | other => .error (.invalidType other.found "string or map")

end Json
end Capability

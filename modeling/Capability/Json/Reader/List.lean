import Capability.Json.Reader.Scalar

/-!
Reading lists, and reading one of several named values.
-/

namespace Capability
namespace Json
namespace Reader


/-- Look for a bracket's end or for another item; the first item has no comma before it. -/
def anotherItem (isFirst : Bool) : Reader Bool := do
  match ← peekToken? with
  | none => ahead .endInList
  | some ']' => pure false
  | some c =>
    if isFirst then pure true
    else if c = ',' then do
      advance
      match ← peekToken? with
      | some ']' => ahead .trailingComma
      | some _ => pure true
      | none => ahead .endInValue
    else ahead .listSeparatorExpected

def listEnd : Reader Unit := do
  match ← peekToken? with
  | some ']' => advance
  | some ',' => do
    advance
    match ← peekToken? with
    | some ']' => ahead .trailingComma
    | _ => ahead .trailingCharacters
  | some _ => ahead .trailingCharacters
  | none => ahead .endInList

/-- Look for an object's end or for another name; the first name has no comma before it. -/
def anotherName (isFirst : Bool) : Reader Bool := do
  match ← peekToken? with
  | none => ahead .endInObject
  | some '\x7d' => pure false
  | some c =>
    if isFirst then
      if c = '"' then pure true else ahead .keyNotString
    else if c = ',' then do
      advance
      match ← peekToken? with
      | some '"' => pure true
      | some '\x7d' => ahead .trailingComma
      | some _ => ahead .keyNotString
      | none => ahead .endInValue
    else ahead .objectSeparatorExpected

def objectEnd : Reader Unit := do
  match ← peekToken? with
  | some '\x7d' => advance
  | some ',' => ahead .trailingComma
  | some _ => ahead .trailingCharacters
  | none => ahead .endInObject

/-- Read the colon behind a name. -/
def colon : Reader Unit := do
  match ← peekToken? with
  | some ':' => advance
  | some _ => ahead .colonExpected
  | none => ahead .endInObject

/--
Read what is between brackets and then the closing bracket.  The bracket is
looked for even when the content could not be read; the first fault counts.
-/
def bracketed {α : Type} (content : Reader α) (closing : Reader Unit) : Reader α := fun cursor =>
  match content cursor with
  | .ok value stopped =>
    match closing stopped with
    | .ok _ behind => .ok value behind
    | .error fault behind => .error fault behind
  | .error fault stopped =>
    match closing stopped with
    | .ok _ behind => .error fault behind
    | .error _ behind => .error fault behind

/-- Read the items of a list, in reverse behind those read before. -/
def items {α : Type} (item : Reader α) : (fuel : Nat) → List α → Reader (List α)
  | 0, _ => ahead .endInList
  | fuel + 1, read => do
    if ← anotherItem read.isEmpty then
      let value ← item
      items item fuel (value :: read)
    else pure read.reverse

def list {α : Type} (item : Reader α) : Reader (List α) := settled do
  match ← peekToken? with
  | none => ahead .endInValue
  | some '[' => do
    advance
    bracketed (do items item ((← remaining) + 1) []) listEnd
  | some _ => unexpected "a sequence"

/-! ### Choices -/

/-- Read the name of one of several values, whose quotation mark is next. -/
def choiceName {α : Type} (name : α → String) (all : List α) : Reader α := settled do
  let chosen ← stringToken
  match all.find? fun value => name value == chosen with
  | some value => pure value
  | none => unplaced (.unknownVariant chosen (all.map name))

/-- Read the name of one of several values where an object begins that binds it. -/
def choiceKey {α : Type} (name : α → String) (all : List α) : Reader α := do
  match ← peekToken? with
  | some '"' => choiceName name all
  | some _ => ahead .keyNotString
  | none => ahead .endInObject

/-- Read one of several values: its name, or an object that binds its name to `null`. -/
def choice {α : Type} (name : α → String) (all : List α) : Reader α := do
  match ← peekToken? with
  | some '\x7b' => do
    advance
    let value ← choiceKey name all
    colon
    unit
    match ← peekToken? with
    | some '\x7d' => advance; pure value
    | some _ => here .valueExpected
    | none => here .endInObject
  | some '"' => choiceName name all
  | some _ => ahead .valueExpected
  | none => ahead .endInValue

end Reader
end Json
end Capability

import Capability.Json.Reader.List
import Capability.Json.Reader.Skip
import Capability.Json.Value

/-!
Reading and writing records.

A record is written as an object with all its fields in their order.  It is read
from an object whose members may be in any order, with members between them that
are no field of it, or from a list of its fields in their order.  Every field
must be there, and none twice.
-/

namespace Capability
namespace Json

/-- One field of a record: its name, its written value, and how reading it changes the record. -/
structure Field (ρ : Type) where
  name : String
  write : ρ → Value
  read : Reader (ρ → ρ)

/-- A field of which the value is read and written as given. -/
def Field.of {ρ α : Type} (write : α → Value) (read : Reader α)
    (name : String) (get : ρ → α) (set : α → ρ → ρ) : Field ρ where
  name := name
  write record := write (get record)
  read := set <$> read

/-- A field that holds a truth value. -/
def Field.boolean {ρ : Type} (name : String) (get : ρ → Bool) (set : Bool → ρ → ρ) : Field ρ :=
  .of .boolean Reader.boolean name get set

/-- A field that holds a text. -/
def Field.text {ρ : Type} (name : String) (get : ρ → String) (set : String → ρ → ρ) : Field ρ :=
  .of .string Reader.text name get set

/-- A field that holds a natural number of 64 bits. -/
def Field.size {ρ : Type} (name : String) (get : ρ → UInt64) (set : UInt64 → ρ → ρ) : Field ρ :=
  .of (fun number => .integer number.toNat) Reader.size name get set

/-- A field that holds one of several named values. -/
def Field.choice {ρ α : Type} (label : α → String) (all : List α)
    (name : String) (get : ρ → α) (set : α → ρ → ρ) : Field ρ :=
  .of (fun value => .string (label value)) (Reader.choice label all) name get set

/-- The written form of a record: its fields in their order. -/
structure Shape (ρ : Type) where
  name : String
  fields : List (Field ρ)
  /-- The record before any field has been read. -/
  blank : ρ

namespace Shape

variable {ρ : Type}

/-- A record written as an object with all its fields in their order. -/
def write (shape : Shape ρ) (record : ρ) : Value :=
  .object (shape.fields.map fun field => (field.name, field.write record))

def field? (shape : Shape ρ) (name : String) : Option (Field ρ) :=
  shape.fields.find? fun field => field.name == name

/-- The first field that is not among the names seen. -/
def missing? (shape : Shape ρ) (seen : List String) : Option (Field ρ) :=
  shape.fields.find? fun field => !seen.contains field.name

/-- How a message names the record. -/
def title (shape : Shape ρ) : String := "struct " ++ shape.name

/-- What a message wants of a list of the record's fields. -/
def expectedLength (shape : Shape ρ) : String :=
  shape.title ++ " with " ++ toString shape.fields.length ++ " elements"

open Reader

/-- Read the members of an object, given the names of the fields read before. -/
def members (shape : Shape ρ) :
    (fuel : Nat) → (isFirst : Bool) → (seen : List String) → ρ → Reader ρ
  | 0, _, _, _ => ahead .endInObject
  | fuel + 1, isFirst, seen, record => do
    if ← anotherName isFirst then
      let name ← stringToken
      match shape.field? name with
      | none => do
        colon
        skipValue
        shape.members fuel false seen record
      | some field =>
        if seen.contains name then unplaced (.duplicateField name)
        else do
          colon
          let change ← field.read
          shape.members fuel false (name :: seen) (change record)
    else
      match shape.missing? seen with
      | some field => unplaced (.missingField field.name)
      | none => pure record

/-- Read the fields of a record from a list, in their order. -/
def positional (shape : Shape ρ) : (fields : List (Field ρ)) → (count : Nat) → ρ → Reader ρ
  | [], _, record => pure record
  | field :: rest, count, record => do
    if ← anotherItem (count == 0) then
      let change ← field.read
      shape.positional rest (count + 1) (change record)
    else unplaced (.invalidLength count shape.expectedLength)

/-- Read a record, from an object or from a list of its fields. -/
def read (shape : Shape ρ) : Reader ρ := settled do
  match ← peekToken? with
  | none => ahead .endInValue
  | some '[' => do
    advance
    bracketed (shape.positional shape.fields 0 shape.blank) listEnd
  | some '\x7b' => do
    advance
    bracketed (do shape.members ((← remaining) + 1) true [] shape.blank) objectEnd
  | some _ => unexpected shape.title

end Shape

/-- A field that holds a record of its own. -/
def Field.record {ρ α : Type} (shape : Shape α)
    (name : String) (get : ρ → α) (set : α → ρ → ρ) : Field ρ :=
  .of shape.write shape.read name get set

end Json
end Capability

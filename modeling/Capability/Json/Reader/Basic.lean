import Capability.Json.Cursor

/-!
Reading JSON texts.

A reader takes a cursor to a value and the cursor behind it, or to a fault and
the cursor at which it gave up.  The second cursor matters: the closing bracket
of a structure is looked for even when a member could not be read, and a fault
that has no place yet is reported behind that bracket.

White space is skipped in front of every token.  A fault about a byte that was
only looked at is placed behind that byte.  Readers of repeated parts take the
number of characters ahead as their fuel, of which every part costs at least one.
-/

namespace Capability
namespace Json

/-- A way to read a value from a text. -/
abbrev Reader (α : Type) := EStateM Fault Cursor α

namespace Reader

/-- Give up without a place. -/
def unplaced {α : Type} (cause : Cause) : Reader α :=
  throw ⟨cause, none⟩

/-- Give up at the place that has been reached. -/
def here {α : Type} (cause : Cause) : Reader α := fun cursor =>
  .error ⟨cause, some cursor.offset⟩ cursor

/-- Give up behind the next byte, which is not read. -/
def ahead {α : Type} (cause : Cause) : Reader α := fun cursor =>
  .error ⟨cause, some cursor.lookedAt⟩ cursor

/-- Give up after some bytes that are read no further. -/
def within {α : Type} (bytes : Nat) (cause : Cause) : Reader α := fun cursor =>
  .error ⟨cause, some (cursor.offset + bytes)⟩ cursor

/-- Give a fault without a place the place at which reading gave up. -/
def settled {α : Type} (read : Reader α) : Reader α := fun cursor =>
  match read cursor with
  | .error ⟨cause, none⟩ stopped => .error ⟨cause, some stopped.offset⟩ stopped
  | outcome => outcome

/-- The next character, which is not read. -/
def peek? : Reader (Option Char) := fun cursor => .ok cursor.peek? cursor

/-- Read the next character. -/
def advance : Reader Unit := fun cursor => .ok () cursor.advance

/-- The next character behind white space, which alone is read. -/
def peekToken? : Reader (Option Char) := fun cursor =>
  let next := cursor.skipBlank
  .ok next.peek? next

/-- How many characters lie ahead. -/
def remaining : Reader Nat := fun cursor => .ok cursor.rest.length cursor

/-! ### Words -/

/-- Read the rest of a word. -/
def word : List Char → Reader Unit
  | [] => pure ()
  | expected :: rest => do
    match ← peek? with
    | none => here .endInValue
    | some c => if c = expected then do advance; word rest else within 1 .wordExpected

/-- Read a word whose first letter has been seen. -/
def knownWord (text : String) : Reader Unit := do
  advance
  word (text.toList.drop 1)

/-! ### Whole texts -/

/-- Read a whole text with a reader.  Nothing but white space may follow the value. -/
def run {α : Type} (read : Reader α) (text : String) : Except Fault α :=
  let whole : Reader α := do
    let value ← read
    match ← peekToken? with
    | none => pure value
    | some _ => ahead .trailingCharacters
  match whole (Cursor.start text) with
  | .ok value _ => .ok value
  | .error fault _ => .error fault

end Reader
end Json
end Capability

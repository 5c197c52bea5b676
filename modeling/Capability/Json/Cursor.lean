import Capability.Text.Quoted
import Capability.Floating.Notation

/-!
Places in a JSON text, what can go wrong there, and the message about it.

A text is read from a cursor, which knows how many bytes lie behind it and which
characters lie ahead.  A fault is a cause together with the place it is reported
at.  Some faults are found only after more of the text has been looked at; those
are without a place at first and get the place of the cursor that closes the
structure they are about.

A place is reported as a line and a column.  Lines count from one.  Columns
count the bytes of the line that lie before the place.
-/

namespace Capability
namespace Json

/-- A place in a text. -/
structure Cursor where
  /-- Bytes read so far. -/
  offset : Nat
  /-- Characters still to be read. -/
  rest : List Char

def Cursor.start (text : String) : Cursor := ⟨0, text.toList⟩

/-- The cursor behind the next character. -/
def Cursor.advance (cursor : Cursor) : Cursor :=
  match cursor.rest with
  | [] => cursor
  | c :: rest => ⟨cursor.offset + c.utf8Size, rest⟩

/-- The next character. -/
def Cursor.peek? (cursor : Cursor) : Option Char := cursor.rest.head?

/-- White space of JSON. -/
def isBlank (c : Char) : Bool := c == ' ' || c == '\n' || c == '\t' || c == '\r'

/-- The cursor behind the white space from some place on. -/
def skipBlankFrom (offset : Nat) : List Char → Cursor
  | [] => ⟨offset, []⟩
  | c :: rest => if isBlank c then skipBlankFrom (offset + 1) rest else ⟨offset, c :: rest⟩

/-- The cursor behind white space. -/
def Cursor.skipBlank (cursor : Cursor) : Cursor := skipBlankFrom cursor.offset cursor.rest

/-- The place of the byte that was looked at but not read; at the end of the text, the end. -/
def Cursor.lookedAt (cursor : Cursor) : Nat :=
  if cursor.rest.isEmpty then cursor.offset else cursor.offset + 1

/-- A value found where another was wanted. -/
inductive Found where
  | null
  | boolean (truth : Bool)
  | integer (number : Int)
  | real (bits : Nat)
  | string (text : String)
  | sequence
  | map
deriving DecidableEq, Repr

/-- How a message names what was found. -/
def Found.name : Found → String
  | null => "null"
  | boolean truth => "boolean `" ++ (if truth then "true" else "false") ++ "`"
  | integer number => "integer `" ++ toString number ++ "`"
  | real bits => "floating point `" ++ Floating.Style.document.text .double bits ++ "`"
  | string text => "string " ++ Text.quote text
  | sequence => "sequence"
  | map => "map"

/-- Why a text cannot be read. -/
inductive Cause where
  | endInValue
  | endInList
  | endInObject
  | endInString
  | valueExpected
  | wordExpected
  | colonExpected
  | listSeparatorExpected
  | objectSeparatorExpected
  | trailingComma
  | trailingCharacters
  | keyNotString
  | invalidNumber
  | numberOutOfRange
  | invalidEscape
  | endOfHexEscape
  | loneSurrogate
  | controlCharacter
  | invalidType (found : Found) (expected : String)
  | invalidValue (found : Found) (expected : String)
  | missingField (name : String)
  | duplicateField (name : String)
  | invalidLength (length : Nat) (expected : String)
  | unknownVariant (name : String) (known : List String)
deriving DecidableEq, Repr

/-- Names that a message offers to choose from. -/
def oneOf : List String → String
  | [] => "there are no variants"
  | [name] => "expected `" ++ name ++ "`"
  | [first, second] => "expected `" ++ first ++ "` or `" ++ second ++ "`"
  | names => "expected one of " ++ ", ".intercalate (names.map fun name => "`" ++ name ++ "`")

def Cause.message : Cause → String
  | endInValue => "EOF while parsing a value"
  | endInList => "EOF while parsing a list"
  | endInObject => "EOF while parsing an object"
  | endInString => "EOF while parsing a string"
  | valueExpected => "expected value"
  | wordExpected => "expected ident"
  | colonExpected => "expected `:`"
  | listSeparatorExpected => "expected `,` or `]`"
  | objectSeparatorExpected => "expected `,` or `\x7d`"
  | trailingComma => "trailing comma"
  | trailingCharacters => "trailing characters"
  | keyNotString => "key must be a string"
  | invalidNumber => "invalid number"
  | numberOutOfRange => "number out of range"
  | invalidEscape => "invalid escape"
  | endOfHexEscape => "unexpected end of hex escape"
  | loneSurrogate => "lone leading surrogate in hex escape"
  | controlCharacter => "control character (\\u0000-\\u001F) found while parsing a string"
  | invalidType found expected => "invalid type: " ++ found.name ++ ", expected " ++ expected
  | invalidValue found expected => "invalid value: " ++ found.name ++ ", expected " ++ expected
  | missingField name => "missing field `" ++ name ++ "`"
  | duplicateField name => "duplicate field `" ++ name ++ "`"
  | invalidLength length expected =>
    "invalid length " ++ toString length ++ ", expected " ++ expected
  | unknownVariant name known => "unknown variant `" ++ name ++ "`, " ++ oneOf known

/-- A cause and, once known, the number of bytes before the place it is reported at. -/
structure Fault where
  cause : Cause
  place : Option Nat
deriving DecidableEq, Repr

/-- A line and a column. -/
structure Position where
  line : Nat
  column : Nat
deriving DecidableEq, Repr

/-- The position that lies some bytes into a text, counted on from a position before it. -/
def Position.after (position : Position) : Nat → List Char → Position
  | 0, _ => position
  | bytes + 1, [] => ⟨position.line, position.column + bytes + 1⟩
  | bytes + 1, c :: rest =>
    if bytes + 1 < c.utf8Size then ⟨position.line, position.column + bytes + 1⟩
    else
      let next : Position :=
        if c = '\n' then ⟨position.line + 1, 0⟩
        else ⟨position.line, position.column + c.utf8Size⟩
      next.after (bytes + 1 - c.utf8Size) rest
termination_by _ text => text.length

def Position.of (text : String) (place : Nat) : Position :=
  Position.after ⟨1, 0⟩ place text.toList

/-- The message about a fault in a text.  Every fault has a place when reading has ended. -/
def Fault.message (fault : Fault) (text : String) : String :=
  match fault.place with
  | none => fault.cause.message
  | some place =>
    let position := Position.of text place
    fault.cause.message ++ " at line " ++ toString position.line
      ++ " column " ++ toString position.column

end Json
end Capability

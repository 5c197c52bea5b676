import Capability.Floating.Notation

/-!
JSON values and their two written forms.

The compact form has no layout at all.  The indented form puts every member on a
line of its own, two spaces deeper than the bracket that opens the list, and
writes an empty list or object as a pair of brackets.  Both write the members of
an object in the order in which the value holds them, and both write a text by
escaping only what must be escaped: the quotation mark, the backslash and the
control characters below the space.
-/

namespace Capability
namespace Json

/-- A JSON value.  Objects keep the order of their members. -/
inductive Value where
  | null
  | boolean (truth : Bool)
  | integer (number : Int)
  /-- A number that is no integer of 64 bits, as the bits of a double. -/
  | real (bits : Nat)
  | string (text : String)
  | array (items : List Value)
  | object (members : List (String × Value))

/-- One character of a written text. -/
def escape (c : Char) : List Char :=
  if c = '"' then ['\\', '"']
  else if c = '\\' then ['\\', '\\']
  else if c = '\x08' then ['\\', 'b']
  else if c = '\x0c' then ['\\', 'f']
  else if c = '\n' then ['\\', 'n']
  else if c = '\r' then ['\\', 'r']
  else if c = '\t' then ['\\', 't']
  else if c.toNat < 0x10 then ['\\', 'u', '0', '0', '0'] ++ Nat.toDigits 16 c.toNat
  else if c.toNat < 0x20 then ['\\', 'u', '0', '0'] ++ Nat.toDigits 16 c.toNat
  else [c]

/-- A written text, between quotation marks. -/
def quoted (text : String) : List Char :=
  '"' :: text.toList.flatMap escape ++ ['"']

/-- A written integer. -/
def digits (number : Int) : List Char :=
  (if number < 0 then ['-'] else []) ++ Nat.toDigits 10 number.natAbs

/-- A written number of the format of doubles; what is not a finite number is written `null`. -/
def realText (bits : Nat) : List Char :=
  match Floating.Format.double.datum bits with
  | .finite .. => (Floating.Style.document.text .double bits).toList
  | _ => "null".toList

/-- What is written instead of a blank line, a space or nothing: the layout of one form. -/
structure Layout where
  /-- How far each level of nesting is indented; nothing is indented in the compact form. -/
  indent : Option Nat

/-- No layout. -/
def Layout.compact : Layout := ⟨none⟩

/-- Two spaces for each level. -/
def Layout.indented : Layout := ⟨some 2⟩

/-- The start of a new line at some depth. -/
def Layout.newline (layout : Layout) (depth : Nat) : List Char :=
  match layout.indent with
  | none => []
  | some width => '\n' :: List.replicate (width * depth) ' '

/-- What stands between a name and its value. -/
def Layout.colon (layout : Layout) : List Char :=
  match layout.indent with
  | none => [':']
  | some _ => [':', ' ']

namespace Value

mutual

/-- The written form of a value whose brackets stand at the given depth. -/
def write (layout : Layout) (depth : Nat) : Value → List Char
  | null => "null".toList
  | boolean truth => if truth then "true".toList else "false".toList
  | integer number => digits number
  | real bits => realText bits
  | string text => quoted text
  | array [] => ['[', ']']
  | array (item :: rest) =>
    '[' :: layout.newline (depth + 1) ++ write layout (depth + 1) item
      ++ writeItems layout (depth + 1) rest ++ layout.newline depth ++ [']']
  | object [] => ['\x7b', '\x7d']
  | object ((name, value) :: rest) =>
    '\x7b' :: layout.newline (depth + 1) ++ quoted name ++ layout.colon
      ++ write layout (depth + 1) value
      ++ writeMembers layout (depth + 1) rest ++ layout.newline depth ++ ['\x7d']

/-- The items after the first, each behind a comma. -/
def writeItems (layout : Layout) (depth : Nat) : List Value → List Char
  | [] => []
  | item :: rest =>
    ',' :: layout.newline depth ++ write layout depth item ++ writeItems layout depth rest

/-- The members after the first, each behind a comma. -/
def writeMembers (layout : Layout) (depth : Nat) : List (String × Value) → List Char
  | [] => []
  | (name, value) :: rest =>
    ',' :: layout.newline depth ++ quoted name ++ layout.colon ++ write layout depth value
      ++ writeMembers layout depth rest

end

/-- The form without layout. -/
def compact (value : Value) : String := String.ofList (value.write .compact 0)

/-- The indented form. -/
def pretty (value : Value) : String := String.ofList (value.write .indented 0)

/-- The member of an object with a given name; the last one, if several have it. -/
def member? (value : Value) (name : String) : Option Value :=
  match value with
  | object members => (members.reverse.find? fun entry => entry.1 == name).map (·.2)
  | _ => none

end Value
end Json
end Capability

import Capability.Json.Reader.Basic

/-!
Reading texts between quotation marks.

An escape by code unit stands for one code unit of sixteen bits.  The units that
stand for halves of a character must come in pairs.
-/

namespace Capability
namespace Json
namespace Reader


/-- The value of a hexadecimal digit. -/
def hexDigit? (c : Char) : Option Nat :=
  if c.isDigit then some (c.toNat - 48)
  else if 'a' ≤ c && c ≤ 'f' then some (c.toNat - 87)
  else if 'A' ≤ c && c ≤ 'F' then some (c.toNat - 55)
  else none

/-- The number that hexadecimal digits spell. -/
def hexNumber? : (number : Nat) → List Char → Option Nat
  | number, [] => some number
  | number, c :: rest => do hexNumber? (number * 16 + (← hexDigit? c)) rest

/-- Whether there are at least so many bytes ahead. -/
def hasBytes : Nat → List Char → Bool
  | 0, _ => true
  | _ + 1, [] => false
  | bytes + 1, c :: rest => hasBytes (bytes + 1 - c.utf8Size) rest
termination_by _ text => text.length

/-- How many bytes a text takes. -/
def utf8Length : List Char → Nat
  | [] => 0
  | c :: rest => c.utf8Size + utf8Length rest

/-- Give up at the end of the text. -/
def atEnd {α : Type} (cause : Cause) : Reader α := fun cursor =>
  .error ⟨cause, some (cursor.offset + utf8Length cursor.rest)⟩ cursor

/-- Read the four digits of an escape by code unit. -/
def hexEscape : Reader Nat := fun cursor =>
  if hasBytes 4 cursor.rest then
    match hexNumber? 0 (cursor.rest.take 4) with
    | some unit => .ok unit ⟨cursor.offset + 4, cursor.rest.drop 4⟩
    | none => within 4 .invalidEscape cursor
  else atEnd .endInString cursor

/-- Read the character that the second half of a pair of code units must start with. -/
def pairMark (mark : Char) : Reader Unit := do
  match ← peek? with
  | none => here .endInString
  | some c => if c = mark then advance else within 1 .endOfHexEscape

/-- Read an escape by code unit, whose mark has been read; two surrogates spell one character. -/
def unicodeEscape : Reader Char := do
  let unit ← hexEscape
  if 0xDC00 ≤ unit && unit ≤ 0xDFFF then here .loneSurrogate
  else if unit < 0xD800 || 0xDBFF < unit then pure (Char.ofNat unit)
  else do
    pairMark '\\'
    pairMark 'u'
    let second ← hexEscape
    if second < 0xDC00 || 0xDFFF < second then here .loneSurrogate
    else pure (Char.ofNat (0x10000 + (unit - 0xD800) * 0x400 + (second - 0xDC00)))

/-- The character that a letter stands for behind a backslash. -/
def shortEscape? : Char → Option Char
  | '"' => some '"'
  | '\\' => some '\\'
  | '/' => some '/'
  | 'b' => some '\x08'
  | 'f' => some '\x0c'
  | 'n' => some '\n'
  | 'r' => some '\r'
  | 't' => some '\t'
  | _ => none

/-- Read what follows a backslash. -/
def escaped : Reader Char := do
  match ← peek? with
  | none => here .endInString
  | some 'u' => advance; unicodeEscape
  | some c =>
    match shortEscape? c with
    | some plain => advance; pure plain
    | none => within 1 .invalidEscape

/-- Read the rest of a string; what has been read is in reverse. -/
def stringRest : (fuel : Nat) → List Char → Reader String
  | 0, _ => here .endInString
  | fuel + 1, read => do
    match ← peek? with
    | none => here .endInString
    | some '"' => advance; pure (String.ofList read.reverse)
    | some '\\' => do
      advance
      let c ← escaped
      stringRest fuel (c :: read)
    | some c =>
      if c.toNat < 0x20 then do
        advance
        here .controlCharacter
      else do
        advance
        stringRest fuel (c :: read)

/-- Read a string whose quotation mark is next. -/
def stringToken : Reader String := do
  advance
  stringRest ((← remaining) + 1) []

end Reader
end Json
end Capability

import Capability.Unicode.Printable

/-!
Quoted text.

A developer's dump and a source literal both write text between quotation marks
and escape what would not survive there: the mark itself, the backslash, layout
controls by their letters, and by their code point every character that cannot
be shown or that would attach itself to the character before it.
-/

namespace Capability
namespace Text

/-- The lower-case hexadecimal digits of a number. -/
def hexDigits (n : Nat) : List Char := Nat.toDigits 16 n

/-- A character by its code point. -/
def escapeCode (c : Char) : List Char :=
  ['\\', 'u', '\x7b'] ++ hexDigits c.toNat ++ ['\x7d']

/-- One character between the given quotation marks. -/
def escape (mark c : Char) : List Char :=
  if c = Char.ofNat 0 then ['\\', '0']
  else if c = '\t' then ['\\', 't']
  else if c = '\r' then ['\\', 'r']
  else if c = '\n' then ['\\', 'n']
  else if c = '\\' then ['\\', '\\']
  else if c = mark then ['\\', mark]
  else if Unicode.isExtender c || Unicode.isUnprintable c then escapeCode c
  else [c]

/-- A text in double quotation marks. -/
def quote (text : String) : String :=
  String.ofList ('"' :: text.toList.flatMap (escape '"') ++ ['"'])

/-- A character in single quotation marks. -/
def quoteChar (c : Char) : String :=
  String.ofList ('\'' :: escape '\'' c ++ ['\''])

/-- The body of a source literal.  A null before an octal digit must not run into that digit. -/
def literalBody : List Char → List Char
  | [] => []
  | c :: rest =>
    if c = Char.ofNat 0 && rest.head?.any (fun next => '0' ≤ next && next ≤ '7') then
      ['\\', 'x', '0', '0'] ++ literalBody rest
    else escape '"' c ++ literalBody rest

/-- A text as a string literal of source code. -/
def literal (text : String) : String :=
  String.ofList ('"' :: literalBody text.toList ++ ['"'])

end Text
end Capability

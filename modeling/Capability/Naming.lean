import Capability.Unicode.Alphanumeric
import Capability.Unicode.Case

/-!
Conversions between the spellings of names.

A name in camel case becomes a name in snake case by lowering its capitals and
setting an underscore in front of those that open a word.  Where a word opens is
decided from the neighbours of the capital alone: after a small letter or a
digit every capital opens one, and within a run of capitals only the last does,
if a small letter follows it.

Source text printed token by token has a blank between any two tokens.  The
compact form keeps a blank only where it keeps two words apart.
-/

namespace Capability
namespace Naming

/-- Whether a capital with the given neighbours opens a word. -/
def opensWord : (before after : Option Char) → Bool
  | none, _ => false
  | some before, after =>
    if before = '_' then false
    else if Unicode.isLowercase before || before.isDigit then true
    else if Unicode.isUppercase before then after.any Unicode.isLowercase
    else false

/-- Snake case of the rest of a name, given the character before it. -/
def snakeFrom (before : Option Char) : List Char → List Char
  | [] => []
  | c :: rest =>
    if Unicode.isUppercase c then
      if opensWord before rest.head? then '_' :: Unicode.lower c ++ snakeFrom (some c) rest
      else Unicode.lower c ++ snakeFrom (some c) rest
    else c :: snakeFrom (some c) rest

/-- Snake case: `PairI32String` becomes `pair_i32_string`, `HTTPHeader` becomes `http_header`. -/
def snakeCase (name : String) : String :=
  String.ofList (snakeFrom none name.toList)

/-- Snake case in capitals; only ASCII letters have their capital written. -/
def screamingSnakeCase (name : String) : String :=
  String.ofList ((snakeFrom none name.toList).map Char.toUpper)

/-- Characters of which words consist; an apostrophe opens the name of a lifetime. -/
def isWordCharacter (c : Char) : Bool :=
  Unicode.isAlphanumeric c || c == '_' || c == '\''

/-- Compact form of the rest of a text, given the last character kept so far. -/
def compactFrom (kept : Option Char) : List Char → List Char
  | [] => []
  | c :: rest =>
    if c = ' ' && !(kept.any isWordCharacter && rest.head?.any isWordCharacter) then
      compactFrom kept rest
    else c :: compactFrom (some c) rest

/-- Source text without the blanks that keep no two words apart. -/
def compact (text : String) : String :=
  String.ofList (compactFrom none text.toList)

/-- Words that are reserved and cannot name a module as they stand. -/
def keywords : List String :=
  ["abstract", "as", "async", "await", "become", "box", "break", "const", "continue", "crate",
    "do", "dyn", "else", "enum", "extern", "false", "final", "fn", "for", "gen", "if", "impl",
    "in", "let", "loop", "macro", "match", "mod", "move", "mut", "override", "priv", "pub", "ref",
    "return", "self", "Self", "static", "struct", "super", "trait", "true", "try", "type",
    "typeof", "unsafe", "unsized", "use", "virtual", "where", "while", "yield"]

/-- Reserved words that have no raw form either. -/
def neverRaw : List String := ["crate", "self", "Self", "super"]

/-- Whether a name is a reserved word. -/
def isKeyword (name : String) : Bool := keywords.contains name

/-- Whether a name may be written as a raw identifier. -/
def canBeRaw (name : String) : Bool := !neverRaw.contains name

/--
The method that answers a question: `HasEq` asks `has_eq`, and a question whose
name does not start so asks `is_` followed by its name in snake case.
-/
def queryMethod (name : String) : String :=
  let snake := snakeFrom none name.toList
  if "has_".toList.isPrefixOf snake then String.ofList snake
  else String.ofList ("is_".toList ++ snake)

/-- The method that asks for an obligation: `CopyNew` is asked for by `should_impl_copy_new`. -/
def obligationMethod (name : String) : String := "should_impl_" ++ snakeCase name

end Naming
end Capability

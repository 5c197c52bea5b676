import Capability.Code.Expression
import Capability.Code.Integer

/-!
What the parsers of types, expressions, statements, patterns and items share.

These parsers need each other without end.  Each is written over a set of rules
that it calls for parts; the rules are then built in levels, those of one level
calling those of the level below.  A level is spent only where a part is entered
whose tokens are part of the whole, so that a text never needs more levels than
a small multiple of its tokens.

Plain paths, literals, attributes and blocks are read whole wherever they stand.
An attribute is named by a plain path, and may have a group of any tokens or a
value behind its name.  What an attribute says about the thing it stands in
follows the opening brace of that thing.
-/

namespace Capability
namespace Code

/-- The parsers that parts are read with. -/
structure Rules where
  type : (allowsPlus : Bool) → Parser TypeExpr
  /-- A bound on a parameter or on an associated type. -/
  bound : Parser Bound
  expression : (allowsRecord : Bool) → Parser Expression
  /-- An expression without operators between operands. -/
  operand : (allowsRecord : Bool) → Parser Expression
  /-- An expression that a block ends where it stands first in a branch. -/
  leadingExpression : Parser Expression
  /-- Statements up to the end of the tokens, and the tokens that write them. -/
  statements : Parser Tokens
  /-- A pattern without alternatives. -/
  pattern : Parser Pattern
  /-- An item, and the tokens that write it. -/
  item : Parser Tokens

/-- Rules that read nothing. -/
def Rules.none : Rules where
  type _ := Parser.expected []
  bound := Parser.expected []
  expression _ := Parser.expected []
  operand _ := Parser.expected []
  leadingExpression := Parser.expected []
  statements := Parser.expected []
  pattern := Parser.expected []
  item := Parser.expected []

namespace Grammar

open Code.Parser

/-! ### Paths without arguments -/

/-- Words that may stand for a segment although they are reserved. -/
def scopeWords : List String := ["super", "self", "Self", "crate"]

/-- Whether a word that may stand for a segment although it is reserved stands ahead. -/
def isAtScopeWord : Parser Bool := isAt fun tokens => scopeWords.any tokens.atKeyword

/-- Whether a segment stands ahead. -/
def isAtSegment : Parser Bool := do
  return (← isAt Tokens.atName) || (← isAtScopeWord)

/-- Read the names of a path without arguments; those read before are in reverse. -/
def plainSegments : (fuel : Nat) → List Segment → Parser (List Segment)
  | 0, before => return before.reverse
  | fuel + 1, before => do
    if ← isAtSegment then
      let segment := Segment.mk (← anyWord) .none
      if ← operator? "::" then
        if ← isAtSegment then plainSegments fuel (segment :: before)
        else refuse "expected path segment after `::`"
      else return (segment :: before).reverse
    else return (Segment.mk (← name) .none :: before).reverse

/-- Read a path without arguments. -/
def plainPath : Parser Path := do
  let isGlobal ← operator? "::"
  return .mk isGlobal (← plainSegments ((← ahead).length + 1) [])

/-- Read the brackets of a macro or of an attribute, whatever is between them. -/
def anyGroup : Parser TokenTree := do
  match ← ahead with
  | .group delimiter content :: rest =>
    continueWith rest
    return .group delimiter content
  | _ => expected ["delimiter"]

/-! ### Literals -/

/-- Read a literal that stands ahead; a number keeps its sign. -/
def literal : Parser Tokens := do
  match ← ahead with
  | .mark '-' _ :: .literal text :: rest =>
    continueWith rest
    return [.literal ("-" ++ text)]
  | tokens =>
    pass 1
    return tokens.take 1

/-! ### Attributes -/

def attributeName : Parser Tokens := do
  if ← keyword? "unsafe" then return Tokens.plain "unsafe" else return (← plainPath).tokens

/-- Whether a literal stands ahead, and nothing behind it. -/
def isAtLastLiteral : Parser Bool := isAt fun tokens =>
  tokens.atLiteral && tokens.length == (if tokens.atOperator "-" then 2 else 1)

/-- Read the value of an attribute: a literal alone, or an expression. -/
def attributeValue (rules : Rules) : Parser Tokens := do
  if ← isAtLastLiteral then literal
  else if ← isAt fun tokens => tokens.atOperator "#" && tokens.skipped.atGroup .bracket then
    refuse "unexpected attribute inside of attribute"
  else return (← rules.expression true).tokens

/-- Read what is between the brackets of an attribute. -/
def attributeContent (rules : Rules) : Parser Tokens := do
  let named ← attributeName
  if ← isAt fun tokens =>
      tokens.atGroup .parenthesis || tokens.atGroup .bracket || tokens.atGroup .brace then
    return named ++ [← anyGroup]
  else if ← isAt fun tokens =>
      tokens.atOperator "=" && !tokens.atOperator "==" && !tokens.atOperator "=>" then
    operator "="
    return named ++ Tokens.operator "=" ++ (← attributeValue rules)
  else return named

/-- Read an attribute of what follows it. -/
def outerAttribute (rules : Rules) : Parser Tokens := do
  operator "#"
  return Tokens.operator "#" ++ Tokens.grouped .bracket (← group .bracket (attributeContent rules))

def attributes (rules : Rules) : Parser Tokens := do
  return (← repeated (return !(← isAtOperator "#")) (outerAttribute rules)).flatten

/-- Read an attribute of what encloses it. -/
def innerAttribute (rules : Rules) : Parser Tokens := do
  operator "#"
  operator "!"
  return Tokens.operator "#!" ++ Tokens.grouped .bracket (← group .bracket (attributeContent rules))

/-- Read attributes of what encloses them. -/
def innerAttributes (rules : Rules) : Parser Tokens := do
  let isDone : Parser Bool := isAt fun tokens =>
    !(tokens.atOperator "#" && Tokens.atOperator "!" tokens.skipped)
  return (← repeated isDone (innerAttribute rules)).flatten

/-! ### Blocks -/

/-- A block: the attributes inside it, and its statements. -/
structure Block where
  inner : Tokens
  content : Tokens

def Block.tokens (block : Block) : Tokens := Tokens.grouped .brace (block.inner ++ block.content)

/-- Read statements in braces, and the attributes of what encloses them. -/
def block (rules : Rules) : Parser Block :=
  group .brace do
    let inner ← innerAttributes rules
    return ⟨inner, ← rules.statements⟩

/-- Read statements in braces, in which no attributes of what encloses them can stand. -/
def plainBlock (rules : Rules) : Parser Tokens := do
  return Tokens.grouped .brace (← group .brace rules.statements)

def constantArgument (rules : Rules) : Parser Tokens := do
  if ← isAt Tokens.atLiteral then literal
  else if ← isAt Tokens.atName then return Tokens.word (← name)
  else if ← isAtGroup .brace then return (← block rules).tokens
  else expected []

end Grammar
end Code
end Capability

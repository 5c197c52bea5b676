import Capability.Code.Grammar.Declarations
import Capability.Code.Grammar.Expressions

/-!
The grammar of statements, all rules together, and items that define a type.

A statement is a binding, an item, the call of a macro in braces, or an
expression.  An expression that does not end with a block of its own must be the
last statement or be followed by a semicolon.

Of an item that defines a type its kind, its name and its parameters are kept;
visibilities, fields, variants and conditions are recognised.
-/

namespace Capability
namespace Code

/-- What an item defines. -/
inductive ItemKind where
  | record
  | enumeration
  | union
deriving DecidableEq, Repr

/-- An item that defines a type. -/
structure Item where
  kind : ItemKind
  name : Word
  /-- The tokens of each parameter. -/
  parameters : List Tokens

namespace Grammar

open Code.Parser

/-! ### Bindings -/

def endsInBraces (tokens : Tokens) : Bool :=
  tokens.getLast?.any fun last => Tokens.atGroup .brace [last]

/-- Read the value of a binding, and the block for a value that does not match.  No block can follow
a value that ends with braces itself. -/
def boundValue (rules : Rules) : Parser Tokens := do
  let (value, written) ← consumed (rules.expression true)
  if endsInBraces written then return value.tokens
  else if ← keyword? "else" then
    return value.tokens ++ Tokens.plain "else" ++ (← plainBlock rules)
  else return value.tokens

/-- Read the binding of a pattern to a value. -/
def binding (rules : Rules) : Parser Tokens := do
  keyword "let"
  let bound ← rules.pattern
  let type ← do
    if ← operator? ":" then pure (Tokens.operator ":" ++ (← rules.type true).tokens) else pure []
  let value ← do
    if ← operator? "=" then pure (Tokens.operator "=" ++ (← boundValue rules)) else pure []
  operator ";"
  return Tokens.plain "let" ++ bound.tokens ++ type ++ value ++ Tokens.operator ";"

/-! ### Items and macros among statements -/

/-- What the call of a macro that stands ahead is. -/
inductive LeadingCall where
  /-- Nothing, or a part of an expression. -/
  | operand
  /-- An item, because it declares a name. -/
  | item
  /-- A statement by itself, because of its braces. -/
  | statement
deriving DecidableEq

/-- Find out what the call of a macro that stands ahead is. -/
def leadingCall : Parser LeadingCall := glimpse do
  if (← attempt? plainPath).isNone || !(← isAtOperator "!") then return .operand
  let arguments := (← ahead).skipped
  let behind := arguments.skipped
  if arguments.atName || arguments.atKeyword "try" then return .item
  else if arguments.atGroup .brace && !isContinued behind then return .statement
  else return .operand

/-- Read the call of a macro that is a statement by itself. -/
def callStatement : Parser Tokens := do
  let path ← plainPath
  operator "!"
  let arguments ← anyGroup
  return path.tokens ++ Tokens.operator "!" ++ [arguments] ++ (← operatorTokens? ";")

/-- Words that begin an item wherever a statement can stand. -/
def statementItemWords : List String :=
  ["pub", "extern", "use", "fn", "mod", "type", "struct", "enum", "trait", "impl", "macro"]

/-- Words that begin a function behind the word for one that runs on its own. -/
def functionWords : List String := ["unsafe", "extern", "fn"]

/-- Whether an item begins with a word for constants, rather than a block or a function without a
name. -/
def isConstantItem (behind : Tokens) : Bool :=
  !(behind.atGroup .brace || behind.atKeyword "static" || behind.atKeyword "move"
    || behind.atOperator "|"
    || (behind.atKeyword "async" && !functionWords.any (Tokens.atKeyword · behind.skipped)))

/-- Whether an item stands ahead that is not the call of a macro. -/
def isAtItem : Parser Bool := isAt fun tokens =>
  let next := tokens.skipped
  statementItemWords.any tokens.atKeyword
    || (tokens.atKeyword "crate" && !next.atOperator "::")
    || (tokens.atKeyword "static" && (next.atKeyword "mut" || next.atName))
    || (tokens.atKeyword "const" && isConstantItem next)
    || (tokens.atKeyword "unsafe" && !next.atGroup .brace)
    || (tokens.atKeyword "async" && functionWords.any next.atKeyword)
    || (tokens.atKeyword "union" && next.atName)
    || (tokens.atKeyword "auto" && next.atKeyword "trait")
    || (tokens.atKeyword "default" && (next.atKeyword "unsafe" || next.atKeyword "impl"))

/-! ### Statements -/

structure Statement where
  tokens : Tokens
  /-- Whether a semicolon is missing if another statement follows. -/
  needsSemicolon : Bool

/-- Read an expression that is a statement, given its attributes. -/
def expressionStatement (rules : Rules) (annotations : Tokens) : Parser Statement := do
  let found ← leadingExpression rules
  let tokens := (found.annotatedFirst annotations).statementTokens
  if ← operator? ";" then return ⟨tokens ++ Tokens.operator ";", false⟩
  else return ⟨tokens, found.needsSemicolon⟩

def statement (rules : Rules) : Parser Statement := do
  let before ← ahead
  let annotations ← attributes rules
  match ← leadingCall with
  | .statement => return ⟨annotations ++ (← callStatement), false⟩
  | .item => return ⟨← declaration rules before annotations, false⟩
  | .operand =>
    if ← isAtKeyword "let" then return ⟨annotations ++ (← binding rules), false⟩
    else if ← isAtItem then return ⟨← declaration rules before annotations, false⟩
    else expressionStatement rules annotations

/-- Read statements up to the end of the tokens; semicolons may stand alone. -/
def statementsFrom (rules : Rules) : (fuel : Nat) → Parser Tokens
  | 0 => return []
  | fuel + 1 => do
    if ← operator? ";" then return Tokens.operator ";" ++ (← statementsFrom rules fuel)
    else if ← isEnd then return []
    else
      let found ← statement rules
      if ← isEnd then return found.tokens
      else if found.needsSemicolon then refuse "unexpected token, expected `;`"
      else return found.tokens ++ (← statementsFrom rules fuel)

/-- Read statements up to the end of the tokens. -/
def statements (rules : Rules) : Parser Tokens := do
  statementsFrom rules ((← ahead).length + 1)

/-! ### All rules -/

/-- Rules that call others for their parts. -/
def layer (rules : Rules) : Rules where
  type := type rules
  bound := bound rules ⟨false, true⟩
  expression := expression rules
  operand := operand rules
  leadingExpression := leadingExpression rules
  statements := statements rules
  pattern := pattern rules
  item := anyItem rules

/-- Rules for texts of bounded depth. -/
def rules : (depth : Nat) → Rules
  | 0 => Rules.none
  | depth + 1 => layer (rules depth)

/-- Rules for the tokens ahead. -/
def rulesAhead : Parser Rules := return rules (8 * (← ahead).size + 16)

/-! ### Items that define a type -/

def itemKind : Parser ItemKind := do
  if ← keyword? "struct" then return .record
  else if ← keyword? "enum" then return .enumeration
  else if ← keyword? "union" then return .union
  else expected ["`struct`", "`enum`", "`union`"]

/-- Read what an item of a kind consists of. -/
def itemBody (rules : Rules) : ItemKind → Parser Tokens
  | .record => recordBody rules
  | .enumeration => enumerationBody rules
  | .union => unionBody rules

/-- Read an item that defines a type. -/
def item : Parser Item := do
  let rules ← rulesAhead
  let _ ← attributes rules
  let _ ← visibility
  let kind ← itemKind
  let itemName ← name
  let introduced ← generics rules
  let _ ← itemBody rules kind
  return ⟨kind, itemName, introduced.items.map Prod.snd⟩

end Grammar
end Code
end Capability

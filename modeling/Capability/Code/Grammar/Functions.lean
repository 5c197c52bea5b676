import Capability.Code.Grammar.Generics
import Capability.Code.Grammar.Patterns

/-!
The grammar of the heads of functions with a name.

The first parameter of a method may be the value it is called on; no other
parameter may be.  A parameter is a pattern and a type, or a type with arguments
alone.  The last parameter may stand for any number of further ones.
-/

namespace Capability
namespace Code
namespace Grammar

open Code.Parser

/-! ### Words in front of a function -/

/-- Read the words for a calling convention, if they stand ahead. -/
def convention? : Parser Tokens := do
  if ← keyword? "extern" then
    if ← isAt Tokens.atText then return Tokens.plain "extern" ++ (← literal)
    else return Tokens.plain "extern"
  else return []

/-- The words in front of a function, and whether one of them says that it is safe. -/
structure Qualifiers where
  isSafe : Bool
  tokens : Tokens

/-- Read the words in front of a function; only where it is allowed one can say that it is safe. -/
def qualifiers (allowsSafe : Bool) : Parser Qualifiers := do
  let isConstant ← keywordTokens? "const"
  let isAsync ← keywordTokens? "async"
  let isUnsafe ← keywordTokens? "unsafe"
  let isSafe ← if allowsSafe && isUnsafe.isEmpty then keyword? "safe" else pure false
  return ⟨isSafe, isConstant ++ isAsync ++ isUnsafe ++ (← convention?)⟩

/-- Whether a function stands ahead, behind the words that may be in front of it. -/
def isAtSignature (allowsSafe : Bool) : Parser Bool := glimpse do
  let _ ← keyword? "const"
  let _ ← keyword? "async"
  let isSafe ← if allowsSafe then keyword? "safe" else pure false
  if !isSafe then let _ ← keyword? "unsafe"
  let _ ← convention?
  isAtKeyword "fn"

/-! ### Parameters -/

/-- Read the value that a method is called on. -/
def receiver (rules : Rules) : Parser Tokens := do
  let isReference ← operator? "&"
  let lifetime ← if isReference then lifetime? else pure none
  let isMutable ← keywordTokens? "mut"
  keyword "self"
  let plain := (if isReference then Tokens.operator "&" else [])
    ++ (lifetime.map Tokens.lifetime).getD [] ++ isMutable ++ Tokens.plain "self"
  if isReference then return plain
  else if ← operator? ":" then
    return plain ++ Tokens.operator ":" ++ (← rules.type true).tokens
  else return plain

inductive FunctionParameter where
  | receiver (tokens : Tokens)
  | typed (tokens : Tokens)
  /-- Any number of further parameters. -/
  | variadic (tokens : Tokens)

/-- Read a parameter that is a pattern or a type, behind its attributes. -/
def typedParameter (rules : Rules) : Parser FunctionParameter := do
  if ← isAt fun tokens => tokens.atName && Tokens.atOperator "<" tokens.skipped then
    let type ← rules.type true
    return .typed (Tokens.plain "_" ++ Tokens.operator ":" ++ type.tokens)
  let pattern ← rules.pattern
  operator ":"
  let named := pattern.tokens ++ Tokens.operator ":"
  if ← operator? "..." then return .variadic (named ++ Tokens.operator "...")
  else return .typed (named ++ (← rules.type true).tokens)

/-- Read a parameter behind its attributes. -/
def functionParameter (rules : Rules) : Parser FunctionParameter := do
  if ← operator? "..." then return .variadic (Tokens.operator "...")
  else
    match ← attempt? (receiver rules) with
    | some tokens => return .receiver tokens
    | none => typedParameter rules

/-- Refuse a parameter that a method is called on unless it is the first one. -/
def checkReceiver (isFirst hasReceiver : Bool) : FunctionParameter → Parser Unit
  | .receiver _ =>
    if hasReceiver then object "unexpected second method receiver"
    else if !isFirst then object "unexpected method receiver"
    else return
  | _ => return

def functionParameters (rules : Rules) :
    (fuel : Nat) → (isFirst hasReceiver : Bool) → Parser Tokens
  | 0, _, _ => return []
  | fuel + 1, isFirst, hasReceiver => do
    if ← isEnd then return []
    let annotations ← attributes rules
    let parameter ← functionParameter rules
    checkReceiver isFirst hasReceiver parameter
    let further (tokens : Tokens) (hasReceiver : Bool) : Parser Tokens := do
      if ← isEnd then return annotations ++ tokens
      operator ","
      return annotations ++ tokens ++ Tokens.operator ","
        ++ (← functionParameters rules fuel false hasReceiver)
    match parameter with
    | .receiver tokens => further tokens true
    | .typed tokens => further tokens hasReceiver
    | .variadic tokens =>
      if ← isEnd then return annotations ++ tokens
      operator ","
      return annotations ++ tokens ++ Tokens.operator ","

/-! ### Heads -/

/-- The head of a function. -/
structure Signature where
  /-- Whether a word says that the function is safe. -/
  isSafe : Bool
  tokens : Tokens

/-- Read the result of a function with a name, if an arrow stands ahead. -/
def functionResult (rules : Rules) : Parser Tokens := do
  if ← operator? "->" then return Tokens.operator "->" ++ (← rules.type true).tokens
  else return []

/-- Read the head of a function, from the words in front of it to its conditions. -/
def signature (rules : Rules) (allowsSafe : Bool) : Parser Signature := do
  let leading ← qualifiers allowsSafe
  keyword "fn"
  let functionName ← name
  let introduced ← generics rules
  let parameters : Parser Tokens := do
    functionParameters rules ((← ahead).length + 1) true false
  groupThen .parenthesis parameters fun found => do
    let output ← functionResult rules
    let required ← whereConditions rules
    return ⟨leading.isSafe, leading.tokens ++ Tokens.plain "fn" ++ Tokens.word functionName
      ++ introduced.tokens ++ Tokens.grouped .parenthesis found ++ output ++ required.tokens⟩

end Grammar
end Code
end Capability

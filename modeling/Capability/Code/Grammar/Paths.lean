import Capability.Code.Grammar.Basic

/-!
The grammar of paths and their arguments.

A path in a type takes its arguments in angle brackets directly; in an
expression a pair of colons must come before them.  A trait may take its
arguments as a function does, in parentheses.
-/

namespace Capability
namespace Code
namespace Grammar

open Code.Parser

/-! ### Arguments -/

/-- Whether a value that needs no braces as a constant argument, or braces, stand ahead. -/
def isAtConstant : Parser Bool := isAt fun tokens => tokens.atLiteral || tokens.atGroup .brace

/-- The only segment of a path that could be the name of an associated item. -/
def associatedName? : TypeExpr → Option Segment
  | .path (.mk false [segment]) => some segment
  | _ => none

/-- Read an argument in angle brackets. -/
def argument (rules : Rules) : Parser Argument := do
  if ← isAt fun tokens => tokens.atLifetime && !Tokens.atOperator "+" tokens.skipped then
    return .lifetime (← lifetime)
  if ← isAtConstant then
    return .constant (← constantArgument rules)
  let type ← rules.type true
  match associatedName? type with
  | none => return .type type
  | some segment =>
    if ← operator? "=" then
      if ← isAtConstant then
        return .associatedConstant segment.name segment.arguments (← constantArgument rules)
      else return .associatedType segment.name segment.arguments (← rules.type true)
    else if ← operator? ":" then
      let isDone : Parser Bool := isAt fun tokens => tokens.atOperator "," || tokens.atOperator ">"
      let bounds ← chained isDone "+" rules.bound
      return .constraint segment.name segment.arguments bounds.items bounds.trailing
    else return .type type

/-- Read arguments in angle brackets. -/
def angleArguments (rules : Rules) : Parser Arguments := do
  let turbofish ← operator? "::"
  operator "<"
  let arguments ← separatedUntil (isAtOperator ">") "," (argument rules)
  operator ">"
  return .angle turbofish arguments.items arguments.trailing

/-- Read the result of a function, if an arrow stands ahead. -/
def result (rules : Rules) : Parser (Option TypeExpr) := do
  if ← operator? "->" then return some (← rules.type false) else return none

/-- Read the arguments of a function trait. -/
def functionArguments (rules : Rules) : Parser Arguments := do
  groupThen .parenthesis (listed (rules.type true)) fun inputs =>
    return .parenthesized inputs.items inputs.trailing (← result rules)

/-! ### Paths -/

/-- Words that stand for a segment without arguments. -/
def bareScopeWords : List String := ["super", "self", "crate", "try"]

/-- Whether a pair of colons and an opening angle bracket stand ahead. -/
def isAtTurbofish : Parser Bool := isAt fun tokens =>
  tokens.atOperator "::" && Tokens.atOperator "<" (tokens.drop 2)

/-- Read a segment of a path. -/
def segment (rules : Rules) (inExpression : Bool) : Parser Segment := do
  if ← isAt fun tokens => bareScopeWords.any tokens.atKeyword then
    return .mk (← anyWord) .none
  let word ← if ← isAtKeyword "Self" then anyWord else name
  let isDirect ← isAt fun tokens =>
    !inExpression && tokens.atOperator "<"
      && !(tokens.atOperator "<=" || tokens.atOperator "<<=")
  if isDirect || (← isAtTurbofish) then
    return .mk word (← angleArguments rules)
  return .mk word .none

/-- Whether a pair of colons stands ahead, and no parentheses follow it. -/
def isAtFurtherSegment : Parser Bool := isAt fun tokens =>
  tokens.atOperator "::" && !Tokens.atGroup .parenthesis (tokens.drop 2)

/-- Read further segments, each behind a pair of colons, until a condition ends them. -/
def furtherSegments (rules : Rules) (inExpression : Bool) (isDone : Parser Bool) :
    Parser (List Segment) :=
  repeated isDone do
    operator "::"
    segment rules inExpression

def path (rules : Rules) (inExpression : Bool) : Parser Path := do
  let isGlobal ← operator? "::"
  let first ← segment rules inExpression
  let further ← furtherSegments rules inExpression (return !(← isAtFurtherSegment))
  return .mk isGlobal (first :: further)

/-- Read a path within a type, from the angle bracket in front of the type. -/
def qualifiedPath (rules : Rules) (inExpression : Bool) : Parser TypeExpr := do
  operator "<"
  let type ← rules.type true
  let traitPath ← do
    if ← keyword? "as" then pure (some (← path rules false)) else pure none
  operator ">"
  operator "::"
  let first ← segment rules inExpression
  let further ← furtherSegments rules inExpression (return !(← isAtOperator "::"))
  return .qualified type traitPath (first :: further)

end Grammar
end Code
end Capability

import Capability.Code.Grammar.Operators

/-!
The grammar of expressions that end in a block: choices, repetitions, and blocks
behind a word or a label.

In a condition no record can stand, because braces follow it.  Where such an
expression stands first in a statement or in a branch it is complete with its
block, and only a point or a question mark goes on behind it.
-/

namespace Capability
namespace Code
namespace Grammar

open Code.Parser

/-- An expression that ends a statement by itself. -/
def closed (content : Tokens) : Expression := .operand .closed [] content

/-- Read a condition, in which no record can stand. -/
def condition (rules : Rules) : Parser Tokens := do
  return (← rules.expression false).conditionTokens

/-! ### Choices by conditions -/

/-- Read alternatives of a condition behind the first; the last one may be without a condition. -/
def elseBranches (rules : Rules) : (fuel : Nat) → Parser Tokens
  | 0 => return []
  | fuel + 1 => do
    if ← keyword? "else" then
      if ← keyword? "if" then
        let head := Tokens.plain "else" ++ Tokens.plain "if" ++ (← condition rules)
        let body ← plainBlock rules
        return head ++ body ++ (← elseBranches rules fuel)
      else if ← isAtGroup .brace then return Tokens.plain "else" ++ (← plainBlock rules)
      else expected ["`if`", "curly braces"]
    else return []

/-- Read a choice by conditions. -/
def conditional (rules : Rules) : Parser Expression := do
  keyword "if"
  let head := Tokens.plain "if" ++ (← condition rules)
  let body ← plainBlock rules
  return closed (head ++ body ++ (← elseBranches rules ((← ahead).length + 1)))

/-! ### Repetitions -/

/-- Read a repetition. -/
def loop (rules : Rules) : Parser Tokens := do
  if ← keyword? "loop" then return Tokens.plain "loop" ++ (← block rules).tokens
  else if ← keyword? "while" then
    let head := Tokens.plain "while" ++ (← condition rules)
    return head ++ (← block rules).tokens
  else
    keyword "for"
    let each ← alternatives rules
    keyword "in"
    let head := Tokens.plain "for" ++ each.tokens ++ Tokens.plain "in" ++ (← condition rules)
    return head ++ (← block rules).tokens

/-- Whether a repetition stands ahead. -/
def isAtLoop : Parser Bool := isAt fun tokens =>
  tokens.atKeyword "loop" || tokens.atKeyword "while"
    || (tokens.atKeyword "for" && !atParameters tokens.skipped)

/-- Read a repetition or a block behind a label. -/
def labelled (rules : Rules) : Parser Expression := do
  let label ← lifetime
  operator ":"
  let body ← do
    if ← isAt fun tokens => ["while", "for", "loop"].any tokens.atKeyword then loop rules
    else if ← isAtGroup .brace then pure (← block rules).tokens
    else refuse "expected loop or block expression"
  return .operand .labelled [] (Tokens.lifetime label ++ Tokens.operator ":" ++ body)

/-! ### Choices by patterns -/

/-- Read the condition behind the pattern of a branch, if there is one. -/
def guard? (rules : Rules) : Parser Tokens := do
  if ← keyword? "if" then return Tokens.plain "if" ++ (← rules.expression true).tokens
  else return []

/-- Read one branch of a choice by patterns. -/
def branch (rules : Rules) : Parser Tokens := do
  let annotations ← attributes rules
  let matched ← alternatives rules
  let guard ← guard? rules
  operator "=>"
  let body ← rules.leadingExpression
  let arm := annotations ++ matched.tokens ++ guard ++ Tokens.operator "=>" ++ body.tokens
  if body.needsComma && !(← isEnd) then
    operator ","
    return arm ++ Tokens.operator ","
  else return arm ++ (← operatorTokens? ",")

/-- Read a choice by patterns. -/
def choice (rules : Rules) : Parser Expression := do
  keyword "match"
  let subject ← condition rules
  let body ← group .brace do
    let inner ← innerAttributes rules
    return inner ++ (← repeated isEnd (branch rules)).flatten
  return closed (Tokens.plain "match" ++ subject ++ Tokens.grouped .brace body)

/-! ### Blocks -/

/-- Read a block in braces alone. -/
def bareBlock (rules : Rules) : Parser Expression := do
  let content ← block rules
  return .operand (if content.inner.isEmpty then .block else .closed) [] content.tokens

/-- Whether a word and a block stand ahead. -/
def isAtBlockOf (text : String) : Parser Bool := isAt fun tokens =>
  tokens.atKeyword text && Tokens.atGroup .brace tokens.skipped

/-- Read a block behind a word, in which attributes of what encloses them can stand. -/
def blockOf (rules : Rules) (text : String) : Parser Expression := do
  keyword text
  return closed (Tokens.plain text ++ (← block rules).tokens)

/-- Read a block behind the word for a try. -/
def tryBlock (rules : Rules) : Parser Expression := do
  keyword "try"
  return closed (Tokens.plain "try" ++ (← plainBlock rules))

/-! ### Expressions that stand first -/

/-- Read an expression that is complete with its block, if one stands ahead. -/
def closedExpression? (rules : Rules) : Parser (Option Expression) := do
  if ← isAtKeyword "if" then return some (← conditional rules)
  else if ← isAtLoop then return some (closed (← loop rules))
  else if ← isAtKeyword "match" then return some (← choice rules)
  else if ← isAtBlockOf "try" then return some (← tryBlock rules)
  else if ← isAtKeyword "unsafe" then return some (← blockOf rules "unsafe")
  else if ← isAtBlockOf "const" then return some (← blockOf rules "const")
  else if ← isAtGroup .brace then return some (← bareBlock rules)
  else if ← isAt Tokens.atLifetime then return some (← labelled rules)
  else return none

/-- Whether an expression that is complete with its block goes on behind it. -/
def isContinued (tokens : Tokens) : Bool :=
  (tokens.atOperator "." && !tokens.atOperator "..") || tokens.atOperator "?"

/-- Read an expression that a block ends where it stands first in a statement or a branch. -/
def leadingExpression (rules : Rules) : Parser Expression := do
  let annotations ← attributes rules
  match ← closedExpression? rules with
  | some complete =>
    if ← isAt isContinued then
      let operand ← trailersBehind rules complete
      operationsBehind rules true (operand.annotated annotations) .lowest
    else return complete.annotated annotations
  | none =>
    let operand ← rules.operand true
    operationsBehind rules true (operand.annotated annotations) .lowest

end Grammar
end Code
end Capability

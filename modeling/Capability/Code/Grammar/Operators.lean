import Capability.Code.Grammar.Patterns

/-!
The grammar of operators, and of what follows an operand.

An operator binds its operands according to its precedence.  Comparisons are not
chained, nothing is joined to a range, and a cast takes nothing that follows an
operand.
-/

namespace Capability
namespace Code
namespace Grammar

open Code.Parser

/-! ### Precedence -/

/-- How strongly operators bind, from the weakest on. -/
inductive Precedence where
  | lowest
  | assign
  | range
  | disjunction
  | conjunction
  | compare
  | bitOr
  | bitXor
  | bitAnd
  | shift
  | sum
  | product
  | cast
deriving DecidableEq

/-- The place of a precedence in their order. -/
def Precedence.rank (precedence : Precedence) : Nat := precedence.ctorIdx

/-- The operators between two operands; one that begins another comes behind it. -/
def binaryOperators : List (String × Precedence) :=
  [("+=", .assign), ("-=", .assign), ("*=", .assign), ("/=", .assign), ("%=", .assign),
    ("^=", .assign), ("&=", .assign), ("|=", .assign), ("<<=", .assign), (">>=", .assign),
    ("&&", .conjunction), ("||", .disjunction), ("<<", .shift), (">>", .shift),
    ("==", .compare), ("<=", .compare), ("!=", .compare), (">=", .compare),
    ("+", .sum), ("-", .sum), ("*", .product), ("/", .product), ("%", .product),
    ("^", .bitXor), ("&", .bitAnd), ("|", .bitOr), ("<", .compare), (">", .compare)]

/-- The operator between two operands that stands ahead. -/
def binaryOperator? : Parser (Option (String × Precedence)) := do
  let tokens ← ahead
  return binaryOperators.find? fun (text, _) => tokens.atOperator text

/-- The precedence of the operator ahead, of whatever kind. -/
def precedenceAhead : Parser Precedence := do
  match ← binaryOperator? with
  | some (_, precedence) => return precedence
  | none =>
    let tokens ← ahead
    return if tokens.atOperator "=" && !tokens.atOperator "=>" then .assign
      else if tokens.atOperator ".." then .range
      else if tokens.atKeyword "as" then .cast
      else .lowest

/-! ### Ranges and casts -/

/-- Read the dots of a range of values. -/
def rangeLimits : Parser String := do
  if ← operator? "..=" then return "..="
  else if ← isAtOperator "..." then expected ["`..=`"]
  else
    operator ".."
    return ".."

/-- Operators in front of which a range has no end. -/
def rangeEnders : List String :=
  [",", ";", "?", "=>", "=", "+", "/", "%", "^", ">", "<=", "!=", "-=", "*=", "&=", "|=", "<<="]

/-- Whether a range ends with its dots, which allow it. -/
def isRangeEnd (allowsRecord : Bool) : Parser Bool := isAt fun tokens =>
  tokens.isEmpty || rangeEnders.any tokens.atOperator
    || (tokens.atOperator "." && !tokens.atOperator "..")
    || (!allowsRecord && tokens.atGroup .brace) || tokens.atKeyword "as"

/-- Complain about what cannot follow a cast. -/
def checkCast : Parser Unit := do
  let tokens ← ahead
  if tokens.atOperator "." && !tokens.atOperator ".." then
    let next := tokens.skipped
    if next.atKeyword "await" then refuse "casts cannot be followed by `.await`"
    else if next.atName && (next.skipped.atGroup .parenthesis || next.skipped.atOperator "::") then
      refuse "casts cannot be followed by a method call"
    else refuse "casts cannot be followed by a field access"
  else if tokens.atOperator "?" then refuse "casts cannot be followed by `?`"
  else if tokens.atGroup .bracket then refuse "casts cannot be followed by indexing"
  else if tokens.atGroup .parenthesis then refuse "casts cannot be followed by a function call"

/-! ### Operators -/

/-- Whether an assignment of a value stands ahead. -/
def isAtAssignment (tokens : Tokens) : Bool :=
  tokens.atOperator "=" && !tokens.atOperator "==" && !tokens.atOperator "=>"

mutual

/-- Read operators that bind at least as strongly as a precedence, behind an operand. -/
def operations (rules : Rules) (allowsRecord : Bool) :
    (fuel : Nat) → Expression → Precedence → Parser Expression
  | 0, left, _ => return left
  | fuel + 1, left, base => do
    if left.isRange then return left
    match ← binaryOperator? with
    | some (text, precedence) =>
      if precedence.rank < base.rank then return left
      if precedence = .compare && left.isComparison then
        refuse "comparison operators cannot be chained"
      operator text
      let right ← rightOperand rules allowsRecord fuel precedence
      operations rules allowsRecord fuel (.binary left text right) base
    | none =>
      let tokens ← ahead
      if base.rank ≤ Precedence.assign.rank && isAtAssignment tokens then
        operator "="
        let right ← rightOperand rules allowsRecord fuel .assign
        operations rules allowsRecord fuel (.binary left "=" right) base
      else if base.rank ≤ Precedence.range.rank && tokens.atOperator ".." then
        let limits ← rangeLimits
        let stop ← rangeStop rules allowsRecord fuel limits
        operations rules allowsRecord fuel (.range [] (some left) limits stop) base
      else if base.rank ≤ Precedence.cast.rank && tokens.atKeyword "as" then
        keyword "as"
        let type ← rules.type false
        checkCast
        operations rules allowsRecord fuel (.cast left type) base
      else return left

/-- Read the end of a range, if it has one. -/
def rangeStop (rules : Rules) (allowsRecord : Bool) :
    (fuel : Nat) → (limits : String) → Parser (Option Expression)
  | 0, _ => return none
  | fuel + 1, limits => do
    if limits == ".." && (← isRangeEnd allowsRecord) then return none
    else return some (← rightOperand rules allowsRecord fuel .range)

/-- Read the right operand of an operator with the operators that bind more strongly. -/
def rightOperand (rules : Rules) (allowsRecord : Bool) :
    (fuel : Nat) → Precedence → Parser Expression
  | 0, _ => rules.operand allowsRecord
  | fuel + 1, precedence => do
    let operand ← rules.operand allowsRecord
    extended rules allowsRecord fuel operand precedence

/-- Extend a right operand as long as an operator that binds more strongly follows it. -/
def extended (rules : Rules) (allowsRecord : Bool) :
    (fuel : Nat) → Expression → Precedence → Parser Expression
  | 0, operand, _ => return operand
  | fuel + 1, operand, precedence => do
    let next ← precedenceAhead
    if precedence.rank < next.rank || (next = precedence && precedence = .assign) then
      let before := (← ahead).length
      let wider ← operations rules allowsRecord fuel operand next
      if (← ahead).length = before then return wider
      else extended rules allowsRecord fuel wider precedence
    else return operand

end

/-- So much fuel as the operators ahead can need. -/
def operatorFuel : Parser Nat := return 4 * (← ahead).length + 8

def operationsBehind (rules : Rules) (allowsRecord : Bool) (left : Expression)
    (base : Precedence) : Parser Expression := do
  operations rules allowsRecord (← operatorFuel) left base

def expression (rules : Rules) (allowsRecord : Bool) : Parser Expression := do
  let first ← rules.operand allowsRecord
  operationsBehind rules allowsRecord first .lowest

/-- Read a range without a beginning. -/
def openRange (rules : Rules) (allowsRecord : Bool) : Parser Expression := do
  let limits ← rangeLimits
  let stop ← rangeStop rules allowsRecord (← operatorFuel) limits
  return .range [] none limits stop

/-! ### What follows an operand -/

/-- Read expressions with commas between them. -/
def expressionList (rules : Rules) : Parser Tokens := do
  let found ← listed (rules.expression true)
  return commaSeparated (found.items.map Expression.tokens) found.trailing

/-- Read arguments in parentheses. -/
def callArguments (rules : Rules) : Parser Tokens := do
  return Tokens.grouped .parenthesis (← group .parenthesis (expressionList rules))

/-- An operand with a member behind a point. -/
def pointed (base : Expression) (tokens : Tokens) : Expression :=
  .trailed [] base true (Tokens.operator "." ++ tokens)

/-- Read a member of an operand, or a call of a method, behind the point. -/
def memberBehind (rules : Rules) (base : Expression) : Parser Expression := do
  if ← keyword? "await" then return pointed base (Tokens.plain "await")
  else
    let found ← member
    if found.isNamed && (← isAtOperator "::") then
      let arguments := (← angleArguments rules).tokens
      return pointed base (found.tokens ++ arguments ++ (← callArguments rules))
    else if found.isNamed && (← isAtGroup .parenthesis) then
      return pointed base (found.tokens ++ (← callArguments rules))
    else return pointed base found.tokens

/-- Read what stands behind the point of an operand; a number can call a member of a member. -/
def access (rules : Rules) (base : Expression) : Parser Expression := do
  match (← ahead).fraction? with
  | none => memberBehind rules base
  | some (text, rest) =>
    let (numbers, endsInPoint) ← Integer.indices text
    continueWith rest
    let reached := numbers.foldl (fun inner number => pointed inner (Tokens.index number)) base
    if endsInPoint then memberBehind rules reached else return reached

/-- Read what follows an operand: calls, members, positions and question marks. -/
def trailers (rules : Rules) : (fuel : Nat) → Expression → Parser Expression
  | 0, base => return base
  | fuel + 1, base => do
    let tokens ← ahead
    if tokens.atGroup .parenthesis then
      trailers rules fuel (.trailed [] base false (← callArguments rules))
    else if tokens.atOperator "." && !tokens.atOperator ".." && !base.isRange then
      operator "."
      trailers rules fuel (← access rules base)
    else if tokens.atGroup .bracket then
      let position ← group .bracket (rules.expression true)
      trailers rules fuel (.trailed [] base false (Tokens.grouped .bracket position.tokens))
    else if tokens.atOperator "?" && !base.isRange then
      operator "?"
      trailers rules fuel (.trailed [] base true (Tokens.operator "?"))
    else return base

/-- Read all that follows an operand. -/
def trailersBehind (rules : Rules) (base : Expression) : Parser Expression := do
  trailers rules ((← ahead).length + 1) base

end Grammar
end Code
end Capability

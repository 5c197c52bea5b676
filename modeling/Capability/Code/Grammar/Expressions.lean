import Capability.Code.Grammar.Blocks

/-!
The grammar of operands.

Expressions stand in types as lengths and constant arguments, in attributes as
their values, and in all that blocks contain.  An operand is told by its first
tokens; a jump, a function without a name and a binding take all that follows as
their value.
-/

namespace Capability
namespace Code
namespace Grammar

open Code.Parser

/-- An operand about which nothing more must be known. -/
def plain (content : Tokens) : Expression := .operand .plain [] content

/-! ### Functions without names -/

/-- Read a parameter of a function without a name. -/
def closureParameter (rules : Rules) : Parser Tokens := do
  let annotations ← attributes rules
  let parameter ← rules.pattern
  if ← operator? ":" then
    return annotations ++ parameter.tokens ++ Tokens.operator ":" ++ (← rules.type true).tokens
  else return parameter.annotatedTokens annotations

/-- Read the words in front of the parameters of a function without a name. -/
def closureWords (rules : Rules) : Parser Tokens := do
  let boundNames ← binder? rules
  let isConstant ← keywordTokens? "const"
  let isStatic ← keywordTokens? "static"
  let isAsync ← keywordTokens? "async"
  let isMoving ← keywordTokens? "move"
  return boundNames ++ isConstant ++ isStatic ++ isAsync ++ isMoving

/-- Read a function without a name. -/
def closure (rules : Rules) (allowsRecord : Bool) : Parser Expression := do
  let words ← closureWords rules
  operator "|"
  let parameters ← separatedUntil (isAtOperator "|") "," (closureParameter rules)
  operator "|"
  let head := words ++ Tokens.operator "|" ++ commaSeparated parameters.items parameters.trailing
    ++ Tokens.operator "|"
  if ← operator? "->" then
    let output ← rules.type true
    return plain (head ++ Tokens.operator "->" ++ output.tokens ++ (← plainBlock rules))
  else return .led .function [] head (← rules.expression allowsRecord)

/-- Whether a function without a name stands ahead. -/
def isAtClosure : Parser Bool := isAt fun tokens =>
  let next := tokens.skipped
  tokens.atOperator "|" || tokens.atKeyword "move" || tokens.atKeyword "static"
    || (tokens.atKeyword "for" && atParameters next)
    || (tokens.atKeyword "const" && !next.atGroup .brace)
    || (tokens.atKeyword "async" && (next.atOperator "|" || next.atKeyword "move"))

/-! ### Jumps -/

/-- Whether an expression can begin here. -/
def isAtExpression : Parser Bool := isAt fun tokens =>
  (tokens.atAnyWord && !(["as", "else", "in"].any tokens.atKeyword))
    || tokens.atGroup .parenthesis || tokens.atGroup .bracket || tokens.atGroup .brace
    || tokens.atLiteral
    || (tokens.atOperator "!" && !tokens.atOperator "!=")
    || (tokens.atOperator "-" && !tokens.atOperator "-=" && !tokens.atOperator "->")
    || (tokens.atOperator "*" && !tokens.atOperator "*=")
    || (tokens.atOperator "|" && !tokens.atOperator "|=")
    || (tokens.atOperator "&" && !tokens.atOperator "&=")
    || tokens.atOperator ".."
    || (tokens.atOperator "<" && !tokens.atOperator "<=" && !tokens.atOperator "<<=")
    || tokens.atOperator "::" || tokens.atLifetime || tokens.atOperator "#"

/-- Read the value of a jump if one can begin here, in which a record may stand. -/
def jumpValue (rules : Rules) (lead : Lead) (head : Tokens) (allowsBrace : Bool) :
    Parser Expression := do
  if (← isAtExpression) && (allowsBrace || !(← isAtGroup .brace)) then
    return .led lead [] head (← rules.expression true)
  else return plain head

/-- Read a jump out of a block.  A label that is followed by its block must be in parentheses. -/
def breakExpression (rules : Rules) (allowsRecord : Bool) : Parser Expression := do
  keyword "break"
  if ← isAt fun tokens => tokens.atLifetime && Tokens.atOperator ":" tokens.skipped then
    let _ ← rules.expression true
    object "parentheses required"
  let label ← lifetime?
  let head := Tokens.plain "break" ++ (label.map Tokens.lifetime).getD []
  jumpValue rules (.jump label.isSome) head allowsRecord

/-- Read a jump back to the start of a repetition. -/
def continueExpression : Parser Expression := do
  keyword "continue"
  let label ← lifetime?
  return plain (Tokens.plain "continue" ++ (label.map Tokens.lifetime).getD [])

/-- Read a word that hands a value on. -/
def resultExpression (rules : Rules) (text : String) : Parser Expression := do
  keyword text
  jumpValue rules .result (Tokens.plain text) true

/-- Read a call that takes the place of the present one, which is kept as it is written. -/
def becomeExpression (rules : Rules) : Parser Expression := do
  let (_, tokens) ← consumed do
    keyword "become"
    let _ ← rules.expression true
  return .verbatim tokens

/-! ### Records, tuples and arrays -/

def recordField (rules : Rules) : Parser Tokens := do
  let annotations ← attributes rules
  let field ← member
  if !field.isNamed || (← isAtOperator ":") then
    operator ":"
    return annotations ++ field.tokens ++ Tokens.operator ":" ++ (← rules.expression true).tokens
  else return annotations ++ field.tokens

/-- Read the fields of a record, up to the dots in front of the record that has the others. -/
def recordFields (rules : Rules) : (fuel : Nat) → Parser Tokens
  | 0 => return []
  | fuel + 1 => do
    if ← isEnd then return []
    if ← operator? ".." then
      if ← isEnd then return Tokens.operator ".."
      else return Tokens.operator ".." ++ (← rules.expression true).tokens
    let field ← recordField rules
    if ← isEnd then return field
    operator ","
    return field ++ Tokens.operator "," ++ (← recordFields rules fuel)

/-- Read a path, a call of a macro, or a record. -/
def pathExpression (rules : Rules) (allowsRecord : Bool) : Parser Expression := do
  let path ← anyPath rules
  if namesMacro path && (← isAtCall) then
    operator "!"
    let arguments ← anyGroup
    let isBraced := Tokens.atGroup .brace [arguments]
    return .operand (.macroCall isBraced) [] (path.tokens ++ Tokens.operator "!" ++ [arguments])
  else if allowsRecord && (← isAtGroup .brace) then
    let fields ← group .brace do recordFields rules ((← ahead).length + 1)
    return plain (path.tokens ++ Tokens.grouped .brace fields)
  else return plain path.tokens

/-- Read the elements of an array, or its element and its length. -/
def elements (rules : Rules) : Parser Tokens := do
  if ← isEnd then return []
  let first := (← rules.expression true).tokens
  if ← isEnd then return first
  else if ← operator? "," then
    return first ++ Tokens.operator "," ++ (← expressionList rules)
  else if ← operator? ";" then
    return first ++ Tokens.operator ";" ++ (← rules.expression true).tokens
  else refuse "expected `,` or `;`"

/-! ### Operands -/

/-- Read a pattern and the value that it must match. -/
def matchCondition (rules : Rules) (allowsRecord : Bool) : Parser Expression := do
  keyword "let"
  let matched ← alternatives rules
  operator "="
  let first ← rules.operand allowsRecord
  let value ← operationsBehind rules allowsRecord first .compare
  return .led .binding [] (Tokens.plain "let" ++ matched.tokens ++ Tokens.operator "=") value

/-- Whether a block that runs on its own stands ahead. -/
def isAtAsyncBlock : Parser Bool := isAt fun tokens =>
  let next := tokens.skipped
  tokens.atKeyword "async"
    && (next.atGroup .brace || (next.atKeyword "move" && next.skipped.atGroup .brace))

/-- Read a block that runs on its own. -/
def asyncBlock (rules : Rules) : Parser Expression := do
  keyword "async"
  let word ← keywordTokens? "move"
  return plain (Tokens.plain "async" ++ word ++ (← plainBlock rules))

/-- Whether a path stands ahead, as an expression. -/
def isAtPathExpression : Parser Bool := do
  return (← isAtPath) || (← isAt fun tokens =>
    tokens.atKeyword "try"
      && (Tokens.atOperator "!" tokens.skipped || Tokens.atOperator "::" tokens.skipped))

/-- Read an operand without what stands before and behind it. -/
def atom (rules : Rules) (allowsRecord : Bool) : Parser Expression := do
  if ← isAt Tokens.atLiteral then return plain (← literal)
  else if ← isAtAsyncBlock then asyncBlock rules
  else if ← isAtBlockOf "try" then tryBlock rules
  else if ← isAtClosure then closure rules allowsRecord
  else if ← isAtBuiltin then return .verbatim (← builtin)
  else if ← isAtPathExpression then pathExpression rules allowsRecord
  else if ← isAtGroup .parenthesis then
    return plain (Tokens.grouped .parenthesis (← group .parenthesis (expressionList rules)))
  else if ← isAtKeyword "break" then breakExpression rules allowsRecord
  else if ← isAtKeyword "continue" then continueExpression
  else if ← isAtKeyword "return" then resultExpression rules "return"
  else if ← isAtKeyword "become" then becomeExpression rules
  else if ← isAtGroup .bracket then
    return plain (Tokens.grouped .bracket (← group .bracket (elements rules)))
  else if ← isAtKeyword "let" then matchCondition rules allowsRecord
  else if ← isAtKeyword "if" then conditional rules
  else if ← isAtLoop then return closed (← loop rules)
  else if ← isAtKeyword "match" then choice rules
  else if ← isAtKeyword "yield" then resultExpression rules "yield"
  else if ← isAtKeyword "unsafe" then blockOf rules "unsafe"
  else if ← isAtKeyword "const" then blockOf rules "const"
  else if ← isAtGroup .brace then bareBlock rules
  else if ← isAtOperator ".." then openRange rules allowsRecord
  else if ← keyword? "_" then return plain (Tokens.plain "_")
  else if ← isAt Tokens.atLifetime then labelled rules
  else refuse "expected an expression"

/-- Read the words behind the mark of a reference. -/
def referenceWords : Parser Tokens := do
  let isRaw ← isAt fun tokens => tokens.atKeyword "raw"
    && (Tokens.atKeyword "mut" tokens.skipped || Tokens.atKeyword "const" tokens.skipped)
  if isRaw then
    let word ← anyWord
    return Tokens.word word ++ Tokens.word (← anyWord)
  else keywordTokens? "mut"

/-- Read the sign in front of an operand, if there is one. -/
def sign? : Parser Tokens := do
  if ← operator? "&" then return Tokens.operator "&" ++ (← referenceWords)
  else if ← operator? "*" then return Tokens.operator "*"
  else if ← operator? "!" then return Tokens.operator "!"
  else operatorTokens? "-"

/-- Read an operand with what stands before and behind it. -/
def operand (rules : Rules) (allowsRecord : Bool) : Parser Expression := do
  let before ← ahead
  let annotations ← attributes rules
  let head ← sign?
  if head.isEmpty then
    let found ← trailersBehind rules (← atom rules allowsRecord)
    if found.isVerbatim then return .verbatim (← since before)
    else if !annotations.isEmpty && found.isRange then
      object "attributes are not allowed on range expressions starting with `..`"
    else return found.annotated annotations
  else return .led .sign annotations head (← rules.operand allowsRecord)

end Grammar
end Code
end Capability

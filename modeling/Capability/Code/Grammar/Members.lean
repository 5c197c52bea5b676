import Capability.Code.Grammar.Functions

/-!
The grammar of what traits, implementations and foreign blocks consist of.

A member is a function, a constant or a type, or a call of a macro that stands
for members.  A member that is only half a member where it stands, such as a
function without a body in an implementation, is kept as it is written.
-/

namespace Capability
namespace Code
namespace Grammar

open Code.Parser

/-! ### Words that begin a declaration -/

/-- What the call of a macro can begin with. -/
def callBeginnings : List String := ["identifier", "`self`", "`super`", "`crate`", "`::`"]

/-- Whether the path of a macro stands ahead. -/
def isAtCallPath : Parser Bool := isAt fun tokens =>
  tokens.atName || ["self", "super", "crate"].any tokens.atKeyword || tokens.atOperator "::"

/-- Complain that none of several words begins a declaration; those that stand ahead have been
looked at for more than themselves. -/
def declarationExpected {α : Type} (words : List String) (allowsCall : Bool) : Parser α := do
  let tokens ← ahead
  let wanted := (words.filter fun word => !tokens.atKeyword word).map fun word => "`" ++ word ++ "`"
  expected (if allowsCall then wanted ++ callBeginnings else wanted)

/-- Read the name that a call of a macro declares, if there is one. -/
def calledName? : Parser Tokens := do
  if (← isAtKeyword "try") || (← isAt Tokens.atName) then return Tokens.word (← anyWord)
  else return []

/-- Read the call of a macro that stands for declarations; only an item can declare a name. -/
def declarationCall (allowsName : Bool) : Parser Tokens := do
  let path ← plainPath
  operator "!"
  let declared ← if allowsName then calledName? else pure []
  let arguments ← anyGroup
  let call := path.tokens ++ Tokens.operator "!" ++ declared ++ [arguments]
  if Tokens.atGroup .brace [arguments] then return call
  else
    operator ";"
    return call ++ Tokens.operator ";"

/-! ### Constants -/

/-- A constant behind the word for it. -/
structure Constant where
  /-- Whether it takes no parameters and states no conditions. -/
  isPlain : Bool
  hasValue : Bool
  /-- The tokens of a plain constant. -/
  tokens : Tokens

/-- Whether the name of a constant stands ahead. -/
def isAtConstantName : Parser Bool := do
  return (← isAt Tokens.atName) || (← isAtKeyword "_")

/-- Read a constant from its word on. -/
def constant (rules : Rules) : Parser Constant := do
  keyword "const"
  let constantName ← if ← isAtConstantName then anyWord else expected ["identifier", "`_`"]
  let introduced ← generics rules
  operator ":"
  let type ← rules.type true
  let value ← do
    if ← operator? "=" then pure (Tokens.operator "=" ++ (← rules.expression true).tokens)
    else pure []
  let required ← whereConditions rules
  operator ";"
  return ⟨!introduced.isPresent && !required.isPresent, !value.isEmpty,
    Tokens.plain "const" ++ Tokens.word constantName ++ Tokens.operator ":" ++ type.tokens
      ++ value ++ Tokens.operator ";"⟩

/-! ### Types -/

/-- Where the conditions of a type can stand. -/
inductive ConditionsPlace where
  | beforeValue
  | behindValue
  | anywhere
deriving DecidableEq

/-- A type that is declared, as an item or as a member. -/
structure DeclaredType where
  /-- The tokens from the word for a type to the parameters. -/
  head : Tokens
  /-- Whether there is a colon, with bounds behind it or without. -/
  hasColon : Bool
  bounds : Separated Bound
  value : Option TypeExpr
  conditions : Tokens

namespace DeclaredType

/-- The tokens of the bounds, unless there are none. -/
def boundTokens (declared : DeclaredType) : Tokens :=
  Grammar.boundTokens ⟨declared.bounds.items.map Bound.tokens, declared.bounds.trailing⟩

def valueTokens (declared : DeclaredType) : Tokens :=
  (declared.value.map fun type => Tokens.operator "=" ++ type.tokens).getD []

/-- Whether the type is set equal to another, and nothing else is said about it. -/
def isAlias (declared : DeclaredType) : Bool := declared.value.isSome && !declared.hasColon

end DeclaredType

/-- Read a type that is declared, from its word on. -/
def declaredType (rules : Rules) (place : ConditionsPlace) : Parser DeclaredType := do
  keyword "type"
  let typeName ← name
  let introduced ← generics rules
  let hasColon ← operator? ":"
  let isDone : Parser Bool := isAt fun tokens =>
    tokens.atKeyword "where" || tokens.atOperator "=" || tokens.atOperator ";"
  let bounds ← if hasColon then separatedUntil isDone "+" rules.bound else pure ⟨[], false⟩
  let before ← if place = .behindValue then pure ⟨false, []⟩ else whereConditions rules
  let value ← if ← operator? "=" then pure (some (← rules.type true)) else pure none
  let behind ← do
    if place = .beforeValue || before.isPresent then pure ⟨false, []⟩ else whereConditions rules
  operator ";"
  return ⟨Tokens.plain "type" ++ Tokens.word typeName ++ introduced.tokens, hasColon, bounds, value,
    before.tokens ++ behind.tokens⟩

/-! ### Functions -/

/-- Read the body of a function, in which attributes of the function can stand. -/
def functionBody (rules : Rules) : Parser Tokens := do return (← block rules).tokens

/-! ### Members of traits -/

def traitConstant (rules : Rules) : Parser (Option Tokens) := do
  let isFunction ← isAt fun tokens =>
    ["async", "unsafe", "extern", "fn"].any tokens.skipped.atKeyword
  let isConstant ← glimpse do
    keyword "const"
    isAtConstantName
  if isConstant then
    let found ← constant rules
    return if found.isPlain then some found.tokens else none
  else if isFunction then
    return some (← signature rules false).tokens
  else
    keyword "const"
    expected ["identifier", "`_`", "`async`", "`unsafe`", "`extern`", "`fn`"]

/-- Read a function of a trait, with a body or without. -/
def traitFunction (rules : Rules) : Parser Tokens := do
  let head := (← signature rules false).tokens
  if ← isAtGroup .brace then return head ++ (← functionBody rules)
  else if ← operator? ";" then return head ++ Tokens.operator ";"
  else expected ["curly braces", "`;`"]

def traitType (rules : Rules) : Parser Tokens := do
  let declared ← declaredType rules .behindValue
  return declared.head ++ declared.boundTokens ++ declared.valueTokens ++ declared.conditions
    ++ Tokens.operator ";"

/-- Read a member of a trait; one that says who may see it is kept as it is written. -/
def traitMember (rules : Rules) : Parser Tokens := do
  let before ← ahead
  let annotations ← attributes rules
  let words := (← visibility) ++ (← keywordTokens? "default")
  let content ← do
    if ← isAtSignature false then pure (some (← traitFunction rules))
    else if ← isAtKeyword "const" then traitConstant rules
    else if ← isAtKeyword "type" then pure (some (← traitType rules))
    else if words.isEmpty && (← isAtCallPath) then pure (some (← declarationCall false))
    else declarationExpected ["fn", "const", "type"] words.isEmpty
  match content with
  | some tokens => if words.isEmpty then return annotations ++ tokens else since before
  | none => since before

/-! ### Members of implementations -/

/-- Read the word for a default, if it stands ahead and names no macro. -/
def defaultWord? : Parser Tokens := do
  if ← isAt fun tokens => tokens.atKeyword "default" && !Tokens.atOperator "!" tokens.skipped then
    keywordTokens? "default"
  else return []

/-- Read a function of an implementation, if it has a body. -/
def implementedFunction (rules : Rules) : Parser (Option Tokens) := do
  let head := (← signature rules false).tokens
  if ← operator? ";" then return none else return some (head ++ (← functionBody rules))

def implementedMember (rules : Rules) : Parser Tokens := do
  let before ← ahead
  let annotations ← attributes rules
  let visible ← visibility
  let default ← defaultWord?
  let words := visible ++ default
  let content ← do
    if ← isAtSignature false then implementedFunction rules
    else if ← isAtKeyword "const" then
      let found ← constant rules
      pure (if found.isPlain && found.hasValue then some found.tokens else none)
    else if ← isAtKeyword "type" then
      let declared ← declaredType rules .behindValue
      pure (if declared.isAlias then
        some (declared.head ++ declared.valueTokens ++ declared.conditions ++ Tokens.operator ";")
        else none)
    else if words.isEmpty && (← isAtCallPath) then pure (some (← declarationCall false))
    else
      declarationExpected ((if default.isEmpty then ["default"] else []) ++ ["fn", "const", "type"])
        words.isEmpty
  match content with
  | some tokens => return annotations ++ words ++ tokens
  | none => since before

/-! ### Members of foreign blocks -/

/-- Read a function of a foreign block; one with a body is kept as it is written. -/
def foreignFunction (rules : Rules) : Parser (Option Tokens) := do
  let head ← signature rules true
  if ← isAtGroup .brace then
    let _ ← functionBody rules
    return none
  else
    operator ";"
    return if head.isSafe then none else some (head.tokens ++ Tokens.operator ";")

/-- Read a value of a foreign block. -/
def foreignStatic (rules : Rules) : Parser (Option Tokens) := do
  let isQualified := !(← isAtKeyword "static")
  if isQualified then pass 1
  keyword "static"
  let isMutable ← keywordTokens? "mut"
  let valueName ← name
  operator ":"
  let type ← rules.type true
  let hasValue ← operator? "="
  if hasValue then let _ ← rules.expression true
  operator ";"
  return if isQualified || hasValue then none
    else some (Tokens.plain "static" ++ isMutable ++ Tokens.word valueName ++ Tokens.operator ":"
      ++ type.tokens ++ Tokens.operator ";")

/-- Whether a value of a foreign block stands ahead. -/
def isAtForeignStatic : Parser Bool := isAt fun tokens =>
  tokens.atKeyword "static"
    || ((tokens.atKeyword "unsafe" || tokens.atKeyword "safe")
      && Tokens.atKeyword "static" tokens.skipped)

/-- Read a member of a foreign block. -/
def foreignMember (rules : Rules) : Parser Tokens := do
  let before ← ahead
  let annotations ← attributes rules
  let visible ← visibility
  let content ← do
    if ← isAtSignature true then foreignFunction rules
    else if ← isAtForeignStatic then foreignStatic rules
    else if ← isAtKeyword "type" then
      let declared ← declaredType rules .anywhere
      pure (if declared.hasColon || declared.value.isSome then none
        else some (declared.head ++ declared.conditions ++ Tokens.operator ";"))
    else if visible.isEmpty && (← isAtCallPath) then pure (some (← declarationCall false))
    else declarationExpected ["fn", "static", "type"] visible.isEmpty
  match content with
  | some tokens => return annotations ++ visible ++ tokens
  | none => since before

end Grammar
end Code
end Capability

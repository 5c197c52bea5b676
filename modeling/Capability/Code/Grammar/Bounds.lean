import Capability.Code.Grammar.Paths

/-!
The grammar of bounds and of the parameters that a binder introduces.

A bound is a lifetime, a trait, or what may be captured.  A trait may stand in
parentheses, take its arguments as a function does, and be lifted by a question
mark; a trait that holds in constants only is kept as it is written.
-/

namespace Capability
namespace Code
namespace Grammar

open Code.Parser

/-! ### Parameters -/

/-- Read the lifetimes that bound a lifetime, up to a condition. -/
def lifetimeBounds (isDone : Parser Bool) : Parser (Separated Word) := chained isDone "+" lifetime

/-- Whether one of several operators stands ahead. -/
def isAtOneOf (operators : List String) : Parser Bool := isAt fun tokens =>
  operators.any tokens.atOperator

/-- Bounds behind a colon, unless there are none. -/
def boundTokens (bounds : Separated Tokens) : Tokens :=
  if bounds.items.isEmpty then []
  else Tokens.operator ":" ++ plusSeparated bounds.items bounds.trailing

def isAtLifetimeBoundsEnd : Parser Bool := do
  return (← isEnd) || (← isAtOneOf [",", ">"])

/-- Read a parameter that is a lifetime, and keep its tokens. -/
def lifetimeParameter : Parser Tokens := do
  let parameter ← lifetime
  if ← operator? ":" then
    let bounds ← lifetimeBounds isAtLifetimeBoundsEnd
    return Tokens.lifetime parameter ++
      boundTokens ⟨bounds.items.map Tokens.lifetime, bounds.trailing⟩
  else return Tokens.lifetime parameter

/-- Read a parameter that is a type, and keep its tokens. -/
def typeParameter (rules : Rules) : Parser Tokens := do
  let parameter ← name
  let bounds ← do
    if ← operator? ":" then chained (isAtOneOf [",", ">", "="]) "+" rules.bound
    else pure ⟨[], false⟩
  let default ← do
    if ← operator? "=" then pure (Tokens.operator "=" ++ (← rules.type true).tokens) else pure []
  return Tokens.word parameter ++ boundTokens ⟨bounds.items.map Bound.tokens, bounds.trailing⟩
    ++ default

/-- Read a parameter that is a constant, and keep its tokens. -/
def constantParameter (rules : Rules) : Parser Tokens := do
  keyword "const"
  let parameter ← name
  operator ":"
  let type ← rules.type true
  let default ← do
    if ← operator? "=" then pure (Tokens.operator "=" ++ (← constantArgument rules)) else pure []
  return Tokens.plain "const" ++ Tokens.word parameter ++ Tokens.operator ":" ++ type.tokens
    ++ default

/-- Read a parameter of a binder, and keep its tokens. -/
def boundParameter (rules : Rules) : Parser Tokens := do
  let annotations ← attributes rules
  let parameter ← do
    if ← isAt Tokens.atName then typeParameter rules
    else if ← isAt Tokens.atLifetime then lifetimeParameter
    else if ← isAtKeyword "const" then constantParameter rules
    else expected ["identifier", "lifetime", "`const`"]
  return annotations ++ parameter

/-- Whether parameters stand ahead rather than a path within a type. -/
def atParameters (tokens : Tokens) : Bool :=
  let next := tokens.skipped
  let second := next.skipped
  tokens.atOperator "<" && (next.atOperator ">" || next.atOperator "#"
    || ((next.atLifetime || next.atName)
      && ([">", ",", "="].any second.atOperator
        || (second.atOperator ":" && !second.atOperator "::")))
    || next.atKeyword "const")

/-- Read a binder, and keep its tokens. -/
def binder (rules : Rules) : Parser Tokens := do
  keyword "for"
  operator "<"
  let parameters ← separatedUntil (isAtOperator ">") "," (boundParameter rules)
  operator ">"
  return Tokens.plain "for" ++ angled (commaSeparated parameters.items parameters.trailing)

/-- Read a binder if one stands ahead. -/
def binder? (rules : Rules) : Parser Tokens := do
  if ← isAtKeyword "for" then binder rules else return []

/-! ### Bounds -/

/-- Which bounds are allowed besides lifetimes and ordinary traits. -/
structure BoundForms where
  /-- Whether what may be captured can be said. -/
  capture : Bool
  /-- Whether a trait can be required to hold in constants. -/
  constant : Bool

/-- Read the mark of a trait that holds in constants, if it stands ahead. -/
def constantMark (forms : BoundForms) : Parser Bool := do
  if ← isAtGroup .bracket then
    group .bracket (keyword "const")
    if forms.constant then return true else object "`[const]` is not allowed here"
  else if ← keyword? "const" then
    if forms.constant then return true else object "`const` is not allowed here"
  else return false

/-- Whether a path could take arguments as a function does, having none or an empty list. -/
def takesFunctionArguments (path : Path) : Bool :=
  path.last?.any fun segment =>
    match segment.arguments with
    | .none => true
    | .angle _ arguments _ => arguments.isEmpty
    | .parenthesized .. => false

/-- Read a path that names a trait. -/
def traitPath (rules : Rules) : Parser Path := do
  let plain ← path rules false
  let isAtArguments ← isAt fun tokens =>
    tokens.atGroup .parenthesis ||
      (tokens.atOperator "::" && Tokens.atGroup .parenthesis (tokens.drop 2))
  if takesFunctionArguments plain && isAtArguments then
    let _ ← operator? "::"
    return plain.withArguments (← functionArguments rules)
  else return plain

/-- Read a trait that bounds a type; nothing if it is to be kept as it is written. -/
def traitBound (rules : Rules) (forms : BoundForms) (isParenthesized : Bool) :
    Parser (Option Bound) := do
  let leading ← binder? rules
  let isConstant ← constantMark forms
  let isRelaxed ← operator? "?"
  let following ← if leading.isEmpty && isRelaxed then binder? rules else pure leading
  let path ← traitPath rules
  if isRelaxed && !following.isEmpty then
    object "`for<...>` binder not allowed with `?` trait polarity modifier"
  return if isConstant then none else some (.trait isParenthesized isRelaxed following path)

/-- Read one thing that may be captured. -/
def capturedItem : Parser WrittenArgument := do
  let (isLifetime, tokens) ← do
    if ← isAt Tokens.atLifetime then pure (true, Tokens.lifetime (← lifetime))
    else if (← isAt Tokens.atName) || (← isAtKeyword "Self") then
      pure (false, Tokens.word (← anyWord))
    else expected ["lifetime", "identifier", "`>`"]
  if ← operator? "," then return ⟨isLifetime, true, tokens⟩
  else if ← isAtOperator ">" then return ⟨isLifetime, false, tokens⟩
  else expected ["`,`", "`>`"]

/-- Read what may be captured. -/
def captured (forms : BoundForms) : Parser Bound := do
  keyword "use"
  operator "<"
  let items ← repeated (isAtOperator ">") capturedItem
  operator ">"
  if forms.capture then return .capture (Tokens.plain "use" ++ angled (joinArguments items))
  else object "`use<...>` precise capturing syntax is not allowed here"

def bound (rules : Rules) (forms : BoundForms) : Parser Bound := do
  if ← isAt Tokens.atLifetime then return .lifetime (← lifetime)
  if ← isAtKeyword "use" then return ← captured forms
  let (readBound, tokens) ← consumed do
    if ← isAtGroup .parenthesis then group .parenthesis (traitBound rules forms true)
    else traitBound rules forms false
  return readBound.getD (.verbatim tokens)

/-- Whether a bound may stand behind a plus sign. -/
def isAtFurtherBound (forms : BoundForms) : Parser Bool := isAt fun tokens =>
  tokens.atAnyWord || tokens.atOperator "::" || tokens.atOperator "?" || tokens.atLifetime
    || tokens.atGroup .parenthesis || (forms.constant && tokens.atGroup .bracket)

/-- Read further bounds behind a first one, as long as plus signs follow and until a condition. -/
def furtherBounds (isDone : Parser Bool) (item : Parser Bound) (first : Bound) :
    Parser (Separated Bound) := do
  if ← operator? "+" then
    let further ← chained isDone "+" item
    return ⟨first :: further.items, further.trailing || further.items.isEmpty⟩
  else return ⟨[first], false⟩

/-- Read bounds, more than one only if plus signs are allowed. -/
def bounds (rules : Rules) (forms : BoundForms) (allowsPlus : Bool) : Parser (Separated Bound) := do
  let first ← bound rules forms
  if allowsPlus then
    furtherBounds (return !(← isAtFurtherBound forms)) (bound rules forms) first
  else return ⟨[first], false⟩

end Grammar
end Code
end Capability

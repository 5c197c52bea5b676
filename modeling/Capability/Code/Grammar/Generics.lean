import Capability.Code.Grammar.Types

/-!
The grammar of what items have in common: who may see them, the parameters they
take, and the conditions on these.

Parameters are written with the lifetimes first.  Parameters and conditions of
which there are none are not written at all.
-/

namespace Capability
namespace Code
namespace Grammar

open Code.Parser

/-! ### Visibility -/

/-- Whether a group has a single word for a scope between its parentheses. -/
def isScope (tokens : Tokens) : Bool :=
  tokens.length == 1 && ["crate", "self", "super"].any tokens.atKeyword

/-- Read who may see something. -/
def visibility : Parser Tokens := do
  let (_, tokens) ← consumed do
    if ← keyword? "pub" then
      match ← ahead with
      | .group .parenthesis content :: _ =>
        if isScope content then pass 1
        else if Tokens.atKeyword "in" content then
          group .parenthesis do
            keyword "in"
            let _ ← plainPath
      | _ => return
  return tokens

/-! ### Parameters -/

/-- The parameters that an item takes, each with whether it is a lifetime. -/
structure Generics where
  /-- Whether there are angle brackets, with parameters in them or without. -/
  isPresent : Bool
  items : List (Bool × Tokens)
  trailing : Bool

namespace Generics

/-- No parameters. -/
def none : Generics := ⟨false, [], false⟩

/-- The tokens of the parameters. -/
def tokens (generics : Generics) : Tokens :=
  if generics.items.isEmpty then []
  else angled (joinArguments (withCommas generics.trailing generics.items))

end Generics

/-- Read a parameter of an item. -/
def genericParameter (rules : Rules) : Parser (Bool × Tokens) := do
  let annotations ← attributes rules
  if ← isAt Tokens.atLifetime then return (true, annotations ++ (← lifetimeParameter))
  let parameter ← do
    if ← isAt Tokens.atName then typeParameter rules
    else if ← isAtKeyword "const" then constantParameter rules
    else if ← keyword? "_" then pure (Tokens.plain "_")
    else expected ["lifetime", "identifier", "`const`"]
  return (false, annotations ++ parameter)

/-- Read the parameters of an item, if there are any. -/
def generics (rules : Rules) : Parser Generics := do
  if ← operator? "<" then
    let found ← separatedUntil (isAtOperator ">") "," (genericParameter rules)
    operator ">"
    return ⟨true, found.items, found.trailing⟩
  else return .none

/-! ### Conditions -/

/-- The conditions on the parameters of an item. -/
structure Conditions where
  /-- Whether there is the word for them, with conditions behind it or without. -/
  isPresent : Bool
  tokens : Tokens

/-- Whether conditions on parameters have ended. -/
def isAtConditionsEnd : Parser Bool := isAt fun tokens =>
  tokens.isEmpty || tokens.atGroup .brace || [",", ";", "="].any tokens.atOperator
    || (tokens.atOperator ":" && !tokens.atOperator "::")

/-- Whether the bounds in a condition on a lifetime have ended. -/
def isAtLifetimeConditionEnd : Parser Bool := do
  return (← isAtConditionsEnd) || (← isAtOperator ":")

/-- Read a condition on a lifetime or on a type. -/
def whereCondition (rules : Rules) : Parser Tokens := do
  if ← isAt fun tokens => tokens.atLifetime && Tokens.atOperator ":" tokens.skipped then
    let bounded ← lifetime
    operator ":"
    let found ← lifetimeBounds isAtLifetimeConditionEnd
    return Tokens.lifetime bounded ++ Tokens.operator ":"
      ++ plusSeparated (found.items.map Tokens.lifetime) found.trailing
  else
    let boundNames ← binder? rules
    let bounded ← rules.type true
    operator ":"
    let found ← chained isAtConditionsEnd "+" rules.bound
    return boundNames ++ bounded.tokens ++ Tokens.operator ":"
      ++ plusSeparated (found.items.map Bound.tokens) found.trailing

/-- Read the conditions on the parameters of an item, if there are any. -/
def whereConditions (rules : Rules) : Parser Conditions := do
  if ← keyword? "where" then
    if ← isAt atParameters then
      refuse "generic parameters on `where` clauses are reserved for future use"
    let found ← chained isAtConditionsEnd "," (whereCondition rules)
    if found.items.isEmpty then return ⟨true, []⟩
    else return ⟨true, Tokens.plain "where" ++ commaSeparated found.items found.trailing⟩
  else return ⟨false, []⟩

end Grammar
end Code
end Capability

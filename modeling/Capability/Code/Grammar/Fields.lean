import Capability.Code.Grammar.Generics

/-!
The grammar of fields and variants, and of the bodies of items that define a type.

A field without a name of its own may be defined on the spot as a structure or a
union; its type is kept as it is written.  Who may see a variant is read and not
written.
-/

namespace Capability
namespace Code
namespace Grammar

open Code.Parser

/-! ### Fields -/

/-- Read a field without a name. -/
def plainField (rules : Rules) : Parser Tokens := do
  let annotations ← attributes rules
  let visible ← visibility
  return annotations ++ visible ++ (← rules.type true).tokens

/-- Whether a type that is defined on the spot stands ahead. -/
def isAtLocalType : Parser Bool := isAt fun tokens =>
  tokens.atKeyword "struct"
    || (tokens.atKeyword "union" && Tokens.atGroup .brace tokens.skipped)

/-- Read a field with a name, given how fields within it are read. -/
def namedFieldOver (rules : Rules) (inner : Parser Tokens) : Parser Tokens := do
  let annotations ← attributes rules
  let visible ← visibility
  let isNameless ← isAtKeyword "_"
  let field ← if isNameless then anyWord else name
  operator ":"
  let type ← do
    if isNameless && (← isAtLocalType) then
      let (_, tokens) ← consumed do
        let _ ← anyWord
        inner
      pure tokens
    else pure (← rules.type true).tokens
  return annotations ++ visible ++ Tokens.word field ++ Tokens.operator ":" ++ type

/-- Read fields with names, in so many levels of types that are defined on the spot. -/
def namedFieldsWithin (rules : Rules) : (depth : Nat) → Parser Tokens
  | 0 => expected []
  | depth + 1 => do
    let found ← group .brace (listed (namedFieldOver rules (namedFieldsWithin rules depth)))
    return Tokens.grouped .brace (commaSeparated found.items found.trailing)

def namedFields (rules : Rules) : Parser Tokens := do
  namedFieldsWithin rules ((← ahead).size + 1)

/-- Read fields without names. -/
def plainFields (rules : Rules) : Parser Tokens := do
  let found ← group .parenthesis (listed (plainField rules))
  return Tokens.grouped .parenthesis (commaSeparated found.items found.trailing)

/-! ### Bodies -/

/-- Read a variant of an enumeration. -/
def variant (rules : Rules) : Parser Tokens := do
  let annotations ← attributes rules
  let _ ← visibility
  let variantName ← name
  let fields ← do
    if ← isAtGroup .brace then namedFields rules
    else if ← isAtGroup .parenthesis then plainFields rules
    else pure []
  let value ← do
    if ← operator? "=" then pure (Tokens.operator "=" ++ (← rules.expression true).tokens)
    else pure []
  return annotations ++ Tokens.word variantName ++ fields ++ value

/-- Read what a structure consists of. -/
def recordBody (rules : Rules) : Parser Tokens := do
  let leading ← whereConditions rules
  if ← isAtGroup .brace then return leading.tokens ++ (← namedFields rules)
  else if ← operator? ";" then return leading.tokens ++ Tokens.operator ";"
  else if leading.isPresent then expected ["curly braces", "`;`"]
  else if ← isAtGroup .parenthesis then
    let fields ← plainFields rules
    let following ← whereConditions rules
    if ← operator? ";" then return fields ++ following.tokens ++ Tokens.operator ";"
    else expected (if following.isPresent then ["`;`"] else ["`where`", "`;`"])
  else expected ["`where`", "parentheses", "curly braces", "`;`"]

/-- Read what an enumeration consists of. -/
def enumerationBody (rules : Rules) : Parser Tokens := do
  let leading ← whereConditions rules
  let found ← group .brace (listed (variant rules))
  return leading.tokens ++ Tokens.grouped .brace (commaSeparated found.items found.trailing)

/-- Read what a union consists of. -/
def unionBody (rules : Rules) : Parser Tokens := do
  let leading ← whereConditions rules
  return leading.tokens ++ (← namedFields rules)

end Grammar
end Code
end Capability

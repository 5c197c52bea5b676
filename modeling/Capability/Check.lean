import Capability.Code.Grammar.Statements
import Capability.Condition
import Capability.Detection.Table

/-!
Checks of types: each states a condition on a type, and all of them must hold.

Checks are used in two ways.  As a value, they become one truth value, the
conjunction of all conditions.  As assertions, each check becomes an assertion
of its own with a message that names the type and the condition.  Both refuse
the same checks, with the same first unknown name.
-/

namespace Capability

open Code

/-- A condition on a type. -/
structure Check where
  type : TypeExpr
  condition : Condition

namespace Check

open Code.Parser

/-- Read a type, a colon and a condition. -/
def parser : Parser Check := do
  let type ← (← Grammar.rulesAhead).type true
  operator ":"
  return ⟨type, ← Condition.parser⟩

/-- Read one or more checks with commas between them; a comma may follow the last one. -/
def listParser : Parser (List Check) := do
  let first ← parser
  if ← operator? "," then return first :: (← chained isEnd "," parser).items
  else return [first]

def parseList (text : String) : Except Complaint (List Check) := Parser.parse listParser text

def typeText (check : Check) : String := check.type.tokens.compactText

/-- The message of the assertion that the check becomes. -/
def message (check : Check) : String :=
  "`" ++ check.typeText ++ "` does not satisfy `" ++ check.condition.text ++ "`"

end Check

/-- The code for one check: a formula in a scope with the predicates of the type. -/
structure CheckedBlock where
  type : TypeExpr
  formula : Formula

namespace CheckedBlock

/-- The code for a check, or the first name in its condition that is unknown. -/
def ofCheck (check : Check) : Except UnknownQuery CheckedBlock := do
  return ⟨check.type, ← check.condition.formula⟩

/-- The tokens of the code. -/
def tokens (block : CheckedBlock) : Tokens :=
  Detection.withPredicates block.type.tokens (block.formula.tokens Detection.predicatesName)

/-- What the code computes, if the predicates of its type are known. -/
def value? (predicatesOf : TypeExpr → Option Predicates) (block : CheckedBlock) : Option Bool := do
  block.formula.value? (← predicatesOf block.type)

end CheckedBlock

/-- An assertion that fails with a message. -/
structure Assertion where
  block : CheckedBlock
  message : String

def Assertion.tokens (assertion : Assertion) : Tokens :=
  written "const _: () = ::core::assert!"
    ++ Tokens.enclosed (assertion.block.tokens ++ written "," ++ Tokens.quoted assertion.message)
    ++ written ";"

namespace Check

/-- Checks as one value: the code of each, in order. -/
def conjunction (checks : List Check) : Except UnknownQuery (List CheckedBlock) :=
  checks.mapM CheckedBlock.ofCheck

/-- The tokens of checks as one value. -/
def conjunctionTokens (blocks : List CheckedBlock) : Tokens :=
  Tokens.enclosed ((Tokens.operator "&&").intercalate (blocks.map CheckedBlock.tokens))

/-- What checks compute as one value, if the predicates of all their types are known. -/
def conjunctionValue? (predicatesOf : TypeExpr → Option Predicates) (blocks : List CheckedBlock) :
    Option Bool := do
  return (← blocks.mapM (CheckedBlock.value? predicatesOf)).all id

/-- Checks as assertions, in order. -/
def assertions (checks : List Check) : Except UnknownQuery (List Assertion) :=
  checks.mapM fun check => return ⟨← CheckedBlock.ofCheck check, check.message⟩

end Check

/-- The code of the error about an unknown name, which stops the compilation. -/
def UnknownQuery.tokens (unknown : UnknownQuery) : Tokens :=
  written "::core::compile_error!" ++ Tokens.braced (Tokens.quoted unknown.message)

/-- The code invokes `::core::compile_error!` in braces, with the message as its only token. -/
theorem UnknownQuery.tokens_eq (unknown : UnknownQuery) :
    unknown.tokens = [.mark ':' true, .mark ':' false, .word (.plain "core"),
      .mark ':' true, .mark ':' false, .word (.plain "compile_error"), .mark '!' false,
      .group .brace [.literal (Text.literal unknown.message)]] := rfl

namespace Check

/-- The code of checks as one value, behind blocks that are already collected.  The blocks are
joined when there is one for each check. -/
def valueCodeFrom (collected : List Tokens) : List Check → Tokens
  | [] => Tokens.enclosed ((Tokens.operator "&&").intercalate collected)
  | check :: rest =>
    match CheckedBlock.ofCheck check with
    | .ok block => valueCodeFrom (collected ++ [block.tokens]) rest
    | .error unknown => unknown.tokens

/-- The code that checks become where a value is asked for. -/
def valueCode (checks : List Check) : Tokens := valueCodeFrom [] checks

/-- The code of checks as assertions, behind what is already emitted. -/
def assertionCodeFrom (emitted : Tokens) : List Check → Tokens
  | [] => emitted
  | check :: rest =>
    match CheckedBlock.ofCheck check with
    | .ok block => assertionCodeFrom (emitted ++ Assertion.tokens ⟨block, check.message⟩) rest
    | .error unknown => unknown.tokens

/-- The code that checks become where they are asserted. -/
def assertionCode (checks : List Check) : Tokens := assertionCodeFrom [] checks

end Check
end Capability

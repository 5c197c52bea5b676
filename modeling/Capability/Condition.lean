import Capability.Code.Parser
import Capability.Naming
import Capability.Predicates

/-!
Conditions on a type: questions joined by conjunction, disjunction and negation.

A condition asks its questions by name, and a name may be unknown.  What a
condition means is settled for predicates at hand.

A disjunction joins conjunctions by bars, a conjunction joins negations by
ampersands, and a negation is a name or a condition in parentheses behind any
number of exclamation marks.  Both joins lean to the left.  An operator is a
single mark, so that where two bars stand side by side an operand is missing.

The code that is emitted for a condition calls one method of the predicates in
scope for each question, and joins the answers by the operators of the language.
Its meaning is that of those methods; a method that the predicates do not have
has none.
-/

namespace Capability

/-- A condition on a type. -/
inductive Condition where
  | named (name : Code.Word)
  | both (left right : Condition)
  | either (left right : Condition)
  | not (operand : Condition)
deriving DecidableEq, Repr

namespace Condition

/-- The text of a condition, with parentheses around each conjunction and disjunction. -/
def text : Condition → String
  | named name => name.written
  | both left right => "(" ++ text left ++ " & " ++ text right ++ ")"
  | either left right => "(" ++ text left ++ " | " ++ text right ++ ")"
  | not operand => "!" ++ text operand

/-- The names that a condition asks by, from left to right. -/
def names : Condition → List Code.Word
  | named name => [name]
  | both left right | either left right => names left ++ names right
  | not operand => names operand

/-- Whether a condition holds of a type with given predicates, if all its names are known. -/
def holds? (predicates : Predicates) : Condition → Option Bool
  | named name => (Query.ofName? name.written).map predicates.answer
  | both left right => do return (← holds? predicates left) && (← holds? predicates right)
  | either left right => do return (← holds? predicates left) || (← holds? predicates right)
  | not operand => (holds? predicates operand).map Bool.not

/-! ### Reading -/

open Code
open Code.Parser

/-- Read an operand behind any number of exclamation marks. -/
def negated (operand : Parser Condition) : (fuel : Nat) → Parser Condition
  | 0 => operand
  | fuel + 1 => do
    if ← operator? "!" then return .not (← negated operand fuel)
    else operand

/-- Read further operands, each behind a mark, and join each to what was read before it. -/
def joined (mark : String) (join : Condition → Condition → Condition)
    (operand : Parser Condition) : (fuel : Nat) → Condition → Parser Condition
  | 0, left => return left
  | fuel + 1, left => do
    if ← operator? mark then joined mark join operand fuel (join left (← operand))
    else return left

/-- Read operands with a mark between them. -/
def chain (mark : String) (join : Condition → Condition → Condition)
    (operand : Parser Condition) : Parser Condition := do
  let first ← operand
  joined mark join operand ((← ahead).length + 1) first

/-- Read a name, or a condition in parentheses. -/
def primary (enclosed : Parser Condition) : Parser Condition := do
  if ← isAtGroup .parenthesis then group .parenthesis enclosed
  else return .named (← name)

/-- Read a condition whose parentheses are nested less deeply than a bound. -/
def nested : (depth : Nat) → Parser Condition
  | 0 => expected []
  | depth + 1 =>
    let negation : Parser Condition := do
      negated (primary (nested depth)) ((← ahead).length + 1)
    chain "|" .either (chain "&" .both negation)

def parser : Parser Condition := do nested ((← ahead).size + 1)

def parse (text : String) : Except Complaint Condition := Parser.parse parser text

end Condition

/-! ### Code -/

/-- Code that computes a truth value from predicates. -/
inductive Formula where
  /-- A call of a method of the predicates. -/
  | call (method : String)
  | both (left right : Formula)
  | either (left right : Formula)
  | not (operand : Formula)
deriving DecidableEq, Repr

namespace Query

/-- The method that answers the question. -/
def method (query : Query) : String := Naming.queryMethod query.name

/-- The question that a method answers. -/
def ofMethod? (method : String) : Option Query :=
  all.find? fun query => query.method == method

end Query

namespace Formula

open Code

/-- The tokens of a formula that reads given predicates. -/
def tokens (predicates : Tokens) : Formula → Tokens
  | call method =>
    predicates ++ Tokens.operator "." ++ Tokens.plain method ++ Tokens.grouped .parenthesis []
  | both left right =>
    Tokens.grouped .parenthesis
      (tokens predicates left ++ Tokens.operator "&&" ++ tokens predicates right)
  | either left right =>
    Tokens.grouped .parenthesis
      (tokens predicates left ++ Tokens.operator "||" ++ tokens predicates right)
  | not operand =>
    Tokens.grouped .parenthesis (Tokens.operator "!" ++ tokens predicates operand)

/-- What the code computes, if the predicates have all its methods. -/
def value? (predicates : Predicates) : Formula → Option Bool
  | call method => (Query.ofMethod? method).map predicates.answer
  | both left right => do return (← value? predicates left) && (← value? predicates right)
  | either left right => do return (← value? predicates left) || (← value? predicates right)
  | not operand => (value? predicates operand).map Bool.not

end Formula

/-- A name that no question has. -/
structure UnknownQuery where
  name : String
deriving DecidableEq, Repr

/-- The message about an unknown name, which lists the names that are known. -/
def UnknownQuery.message (unknown : UnknownQuery) : String :=
  "unknown capability predicate `" ++ unknown.name ++ "`; expected one of: "
    ++ ", ".intercalate (Query.all.map Query.name)

/-- The code for a condition, or the first name from the left that is unknown. -/
def Condition.formula : Condition → Except UnknownQuery Formula
  | named name =>
    if (Query.ofName? name.written).isSome then
      .ok (.call (Naming.queryMethod name.written))
    else .error ⟨name.written⟩
  | both left right => do return .both (← formula left) (← formula right)
  | either left right => do return .either (← formula left) (← formula right)
  | not operand => do return .not (← formula operand)

end Capability

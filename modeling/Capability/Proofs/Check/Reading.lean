import Capability.Check
import Capability.Proofs.Condition.Grammar

/-!
# Lists of checks as they are written

A check is a type, a colon and a condition.  Between checks there are commas, and
one may follow the last.  Which tokens make up a type is for the grammar of types
to say: here it is enough that a type is read from them in front of the colon.
Behind the colon stands exactly what the grammar of conditions derives, since
neither a comma nor the end of the tokens continues a condition.
-/

namespace Capability
namespace Check

open Code
open Code.Parser

/-! ## How checks are written -/

/-- The parser of a type with all rules that the tokens ahead may need. -/
def typeParser : Parser TypeExpr := do (← Grammar.rulesAhead).type true

/-- A check is written by some tokens in front of the rest; `expression` are those of its
condition. -/
inductive Written : (tokens expression rest : Tokens) → Check → Prop where
  | intro {front expression rest : Tokens} {joint : Bool} {type : TypeExpr}
      {condition : Condition} :
      typeParser ⟨front ++ .mark ':' joint :: (expression ++ rest), none⟩ =
        .ok (type, ⟨.mark ':' joint :: (expression ++ rest), none⟩) →
      Condition.Derives .condition expression condition →
      Written (front ++ .mark ':' joint :: expression) expression rest ⟨type, condition⟩

/-- One check or more with commas between them, and perhaps one behind the last. -/
inductive Listed : (tokens : Tokens) → (expressions : List Tokens) → List Check → Prop where
  | last {tokens expression : Tokens} {check : Check} : Written tokens expression [] check →
      Listed tokens [expression] [check]
  | trailing {tokens expression : Tokens} {joint : Bool} {check : Check} :
      Written tokens expression [.mark ',' joint] check →
      Listed (tokens ++ [.mark ',' joint]) [expression] [check]
  | more {tokens expression others : Tokens} {joint : Bool} {expressions : List Tokens}
      {check : Check} {checks : List Check} :
      Written tokens expression (.mark ',' joint :: others) check →
      Listed others expressions checks →
      Listed (tokens ++ .mark ',' joint :: others) (expression :: expressions) (check :: checks)

/-! ## How they are read -/

/-- What can follow a check: a comma, or nothing. -/
def Follows (rest : Tokens) : Prop := rest = [] ∨ rest.StartsWith ','

theorem Follows.stops {rest : Tokens} (follows : Follows rest) :
    Condition.Phrase.condition.Stops rest := by
  rcases follows with rfl | ⟨joint, behind, rfl⟩
  · exact Condition.Phrase.stops_nil _
  · constructor
    · rintro ⟨_, _, same⟩
      cases same
    · rintro ⟨_, _, same⟩
      cases same

theorem parser_eq : parser = (do
    let type ← typeParser
    operator ":"
    return ⟨type, ← Condition.parser⟩) := rfl

theorem colon_toList : ":".toList = [':'] := rfl

theorem comma_toList : ",".toList = [','] := rfl

theorem no_comma : operator? "," ⟨[], none⟩ = .ok (false, ⟨[], none⟩) :=
  operator?_absent comma_toList nofun

namespace Written

variable {tokens expression rest : Tokens} {check : Check}

/-- A check is read by its parser in front of what can follow it. -/
theorem read (written : Written tokens expression rest check) (follows : Follows rest) :
    parser ⟨tokens ++ rest, none⟩ = .ok (check, ⟨rest, none⟩) := by
  cases written with
  | @intro front expression rest joint type condition readsType derived =>
      -- The bound on the depth counts the tokens behind the condition, too.
      have readsCondition : Condition.parser ⟨expression ++ rest, none⟩ =
          .ok (condition, ⟨rest, none⟩) := by
        apply derived.takes (Tokens.size (expression ++ rest)) _ rest follows.stops
        rw [Tokens.size_append]
        omega
      rw [parser_eq, List.append_assoc]
      refine (bind_of_ok readsType _).trans ?_
      refine (bind_of_ok (operator_present colon_toList joint _ none) _).trans ?_
      exact bind_of_ok readsCondition _

theorem length_pos (written : Written tokens expression rest check) : 0 < tokens.length := by
  cases written with
  | intro _ _ =>
      rw [List.length_append, List.length_cons]
      omega

variable {fuel : Nat} {before : List Check}

end Written

namespace Listed

variable {tokens : Tokens} {expressions : List Tokens} {checks : List Check}

theorem length_le (listed : Listed tokens expressions checks) :
    checks.length ≤ tokens.length := by
  induction listed with
  | last written => exact written.length_pos
  | trailing written =>
      have := written.length_pos
      rw [List.length_append, List.length_singleton]
      omega
  | more written _ inductionHypothesis =>
      rw [List.length_append, List.length_cons, List.length_cons]
      omega

end Listed

end Check
end Capability

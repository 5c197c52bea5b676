import Capability.Proofs.Check.Reading
import Capability.Proofs.Condition.Emission
import Mathlib.Data.List.Forall2

/-!
# Checks as one value mean what their conditions say

Each check becomes a block that brings the predicates of its type into scope and
ends with the code of its condition.  The blocks are joined by ampersands between
parentheses.  Whatever predicates are assigned to the types, the code has one truth
value, and it is true exactly if every condition holds of its type.

Names are looked up check by check, and within a check from left to right.  So the
first unknown name of all is the one that is complained about, and no code is
emitted as long as there is one.

The code is made check by check, with the blocks collected on the way.  What the
results are about is the code itself, which is that of all blocks or that of the
first error.
-/

namespace Capability

open Code
open Meaning

/-! ## Blocks side by side -/

/-- Phrases behind a conjunction, with ampersands in front of them, belong to it. -/
theorem Meaning.Denotes.further {assigned : Tokens → Predicates} {scope : Option Predicates}
    {left : Tokens} {first : Bool} (denotes : Denotes assigned scope .conjunction left first)
    {phrases : List Tokens} {values : List Bool}
    (others : List.Forall₂ (Denotes assigned scope .operand) phrases values) :
    Denotes assigned scope .conjunction
      (left ++ phrases.flatMap (Tokens.operator "&&" ++ ·)) (first && values.all id) := by
  induction others generalizing left first with
  | nil =>
      rw [List.flatMap_nil, List.append_nil, List.all_nil, Bool.and_true]
      exact denotes
  | @cons phrase value phrases values head _ inductionHypothesis =>
      have longer : Denotes assigned scope .conjunction
          (left ++ Tokens.operator "&&" ++ phrase) (first && value) := .both denotes head
      have whole := inductionHypothesis longer
      rw [List.flatMap_cons, List.all_cons, ← Bool.and_assoc, ← List.append_assoc,
        ← List.append_assoc]
      exact whole

theorem intercalate_cons {α : Type} (separator first : List α) (others : List (List α)) :
    separator.intercalate (first :: others) = first ++ others.flatMap (separator ++ ·) := by
  induction others generalizing first with
  | nil => simp
  | cons second others inductionHypothesis =>
      rw [List.intercalate_cons_cons, inductionHypothesis, List.flatMap_cons, List.append_assoc,
        List.append_assoc]

/-! ## Errors -/

namespace Check

/-- Whether a check holds under an assignment of predicates to types. -/
def holds? (assigned : Tokens → Predicates) (check : Check) : Option Bool :=
  check.condition.holds? (assigned check.type.tokens)

/-- Whether all checks hold under an assignment of predicates to types. -/
def allHold? (assigned : Tokens → Predicates) (checks : List Check) : Option Bool :=
  (checks.mapM (holds? assigned)).map (·.all id)

/-- The names of all checks, in the order in which they are written. -/
def names (checks : List Check) : List Word := checks.flatMap (·.condition.names)

/-- The names of checks are the words that their conditions are written with. -/
theorem Listed.names_eq {tokens : Tokens} {expressions : List Tokens} {checks : List Check}
    (listed : Listed tokens expressions checks) :
    names checks = expressions.flatMap Condition.words := by
  have same : ∀ {tokens expression rest check}, Written tokens expression rest check →
      check.condition.names = Condition.words expression := by
    rintro _ _ _ _ ⟨_, derived⟩
    exact derived.names_eq_words
  induction listed with
  | last written | trailing written =>
      rw [names, List.flatMap_singleton, List.flatMap_singleton, same written]
  | more written _ inductionHypothesis =>
      rw [names, List.flatMap_cons, List.flatMap_cons, same written, ← inductionHypothesis]
      rfl

/-! ## The code of checks -/

/-- A block has the truth value of its check, in every scope. -/
def Lowers (check : Check) (block : CheckedBlock) : Prop :=
  ∀ assigned scope, ∃ value, check.holds? assigned = some value ∧
    Denotes assigned scope .operand block.tokens value

theorem ofCheck_of_known {check : Check} (known : check.condition.unknown? = none) :
    ∃ block, CheckedBlock.ofCheck check = .ok block ∧ check.Lowers block := by
  rcases Condition.emits_of_known known with ⟨formula, isFormula, lowers⟩
  refine ⟨⟨check.type, formula⟩, ?_, fun assigned scope => ?_⟩
  · rw [CheckedBlock.ofCheck, isFormula]
    rfl
  · rcases lowers assigned (assigned check.type.tokens) with ⟨value, holds, denotes⟩
    have noBlock : (formula.tokens Detection.predicatesName).atGroup .brace = false := by
      cases formula <;> rfl
    exact ⟨value, holds, .block noBlock (.disjunct (.conjunct denotes))⟩

/-- Checks whose names are all known have code, of which each block has the truth
value of its check. -/
theorem conjunction_of_known {checks : List Check}
    (known : (names checks).find? Condition.isUnknown = none) :
    ∃ blocks, conjunction checks = .ok blocks ∧ List.Forall₂ Lowers checks blocks := by
  induction checks with
  | nil => exact ⟨[], rfl, .nil⟩
  | cons check checks inductionHypothesis =>
      rw [names, List.flatMap_cons, List.find?_append, Option.or_eq_none_iff] at known
      rcases ofCheck_of_known known.1 with ⟨block, isBlock, lowers⟩
      rcases inductionHypothesis known.2 with ⟨blocks, areBlocks, allLower⟩
      refine ⟨block :: blocks, ?_, .cons lowers allLower⟩
      rw [conjunction] at areBlocks
      rw [conjunction, List.mapM_cons, isBlock, areBlocks]
      rfl

/-- The first unknown name of all checks is the one that is complained about. -/
theorem conjunction_of_unknown {checks : List Check} {name : Word}
    (unknown : (names checks).find? Condition.isUnknown = some name) :
    conjunction checks = .error ⟨name.written⟩ := by
  induction checks with
  | nil => cases unknown
  | cons check checks inductionHypothesis =>
      rw [names, List.flatMap_cons, List.find?_append] at unknown
      rcases Option.or_eq_some_iff.mp unknown with found | ⟨known, found⟩
      · rw [conjunction, List.mapM_cons, CheckedBlock.ofCheck, Condition.formula_of_unknown found]
        rfl
      · rcases ofCheck_of_known known with ⟨block, isBlock, _⟩
        have refused := inductionHypothesis found
        rw [conjunction] at refused
        rw [conjunction, List.mapM_cons, isBlock, refused]
        rfl

/-- The blocks of checks have truth values, which are those of the checks. -/
theorem exists_values {checks : List Check} {blocks : List CheckedBlock}
    (lower : List.Forall₂ Lowers checks blocks) (assigned : Tokens → Predicates)
    (scope : Option Predicates) :
    ∃ values, checks.mapM (holds? assigned) = some values ∧
      List.Forall₂ (Denotes assigned scope .operand) (blocks.map CheckedBlock.tokens) values := by
  induction lower with
  | nil => exact ⟨[], rfl, .nil⟩
  | cons lowers _ inductionHypothesis =>
      rcases lowers assigned scope with ⟨value, holds, denotes⟩
      rcases inductionHypothesis with ⟨values, allHold, allDenote⟩
      refine ⟨value :: values, ?_, .cons denotes allDenote⟩
      rw [List.mapM_cons, holds, allHold]
      rfl

/-- The code of checks has exactly the truth value of all of them together. -/
theorem denotes_conjunctionTokens_iff {checks : List Check} {blocks : List CheckedBlock}
    (lower : List.Forall₂ Lowers checks blocks) (notEmpty : checks ≠ [])
    (assigned : Tokens → Predicates) (scope : Option Predicates) (value : Bool) :
    Denotes assigned scope .disjunction (conjunctionTokens blocks) value ↔
      allHold? assigned checks = some value := by
  rcases exists_values lower assigned scope with ⟨values, allHold, allDenote⟩
  have denotes :
      Denotes assigned scope .disjunction (conjunctionTokens blocks) (values.all id) := by
    cases lower with
    | nil => exact absurd rfl notEmpty
    | cons _ _ =>
        rw [List.map_cons] at allDenote
        cases allDenote with
        | cons head others =>
            have joined := (Denotes.conjunct head).further others
            rw [conjunctionTokens, List.map_cons, intercalate_cons]
            exact .disjunct (.conjunct (.enclosed (.disjunct joined)))
  have holds : allHold? assigned checks = some (values.all id) := by
    rw [allHold?, allHold, Option.map_some]
  rw [holds, Option.some.injEq]
  exact ⟨fun other => denotes.unique other, fun same => same ▸ denotes⟩

/-! ## The code check by check -/

theorem conjunction_cons (check : Check) (checks : List Check) :
    conjunction (check :: checks) =
      (do return (← CheckedBlock.ofCheck check) :: (← conjunction checks)) := List.mapM_cons

/-- Blocks are collected for all checks, or nothing is left but the first error. -/
theorem valueCodeFrom_eq (collected : List Tokens) (checks : List Check) :
    valueCodeFrom collected checks =
      match conjunction checks with
      | .ok blocks => Tokens.enclosed
          ((Tokens.operator "&&").intercalate (collected ++ blocks.map CheckedBlock.tokens))
      | .error unknown => unknown.tokens := by
  -- Each step moves one block to those that are collected, so these have to be arbitrary.
  induction checks generalizing collected with
  | nil => exact congrArg _ (congrArg _ (List.append_nil collected).symm)
  | cons check checks inductionHypothesis =>
      rw [valueCodeFrom, conjunction_cons]
      cases CheckedBlock.ofCheck check with
      | error unknown => rfl
      | ok block =>
          refine (inductionHypothesis _).trans ?_
          cases conjunction checks with
          | error unknown => rfl
          | ok blocks =>
              change Tokens.enclosed ((Tokens.operator "&&").intercalate _) = _
              rw [List.append_assoc]
              rfl

theorem valueCode_of_blocks {checks : List Check} {blocks : List CheckedBlock}
    (areBlocks : conjunction checks = .ok blocks) :
    valueCode checks = conjunctionTokens blocks := by
  rw [valueCode, valueCodeFrom_eq, areBlocks]
  rfl

theorem valueCode_of_error {checks : List Check} {unknown : UnknownQuery}
    (refused : conjunction checks = .error unknown) : valueCode checks = unknown.tokens := by
  rw [valueCode, valueCodeFrom_eq, refused]

/-! ## From the tokens of checks to what they mean -/

/-- The type `Vec<u8>`. -/
def vectorTokens : Tokens :=
  Tokens.plain "Vec" ++ Tokens.operator "<" ++ Tokens.plain "u8" ++ Tokens.operator ">"

/-- `Vec<u8>` as a path. -/
def vectorType : TypeExpr :=
  .path (.mk false [.mk (.plain "Vec")
    (.angle false [.type (.path (.mk false [.mk (.plain "u8") .none]))] false)])

/-- The condition `HasEq & !Send`. -/
def hasEqNotSend : Tokens :=
  Tokens.plain "HasEq" ++ Tokens.operator "&" ++ Tokens.operator "!" ++ Tokens.plain "Send"

/-- The check of `Point` for a condition that is a single name, with a comma behind it. -/
def pointTokens (name : String) : Tokens :=
  Tokens.plain "Point" ++ Tokens.operator ":" ++ Tokens.plain name ++ Tokens.operator ","

/-- `Point` as a path. -/
def pointType : TypeExpr := .path (.mk false [.mk (.plain "Point") .none])

/-- Two checks: that of `Vec<u8>` for `HasEq & !Send`, and that of `Point` for a single name. -/
def vectorPoint (name : String) : List Check :=
  [⟨vectorType, .both (.named (.plain "HasEq")) (.not (.named (.plain "Send")))⟩,
    ⟨pointType, .named (.plain name)⟩]

def vectorPointTokens (name : String) : Tokens :=
  vectorTokens ++ Tokens.operator ":" ++ hasEqNotSend ++ Tokens.operator "," ++ pointTokens name

end Check
end Capability

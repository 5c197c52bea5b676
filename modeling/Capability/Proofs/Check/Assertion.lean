import Capability.Proofs.Check.Conjunction
import Capability.Proofs.Text.Literal

/-!
# Assertions and one value say the same

Checks are turned into one value by collecting a block for each and joining the
blocks at the end, and into assertions by emitting one for each on the way.  An
unknown name ends both, and neither keeps anything of what the checks in front of
it became.

Emitted assertions are read as items here: constants without a name, each of which
asserts a condition with a message.  An error is read as a macro that stops the
compilation with a message.  Both can be read in one way only.  Whatever
predicates are assigned to the types, the value is true exactly if all of the
asserted conditions are.  The message is the text that is emitted as a literal; that
braces in it have a meaning of their own for an assertion is not considered.
-/

namespace Capability

open Code
open Meaning

/-! ## Assertions as they are read -/

namespace Meaning

/-- Code asserts conditions, of which each has a truth value and a message. -/
inductive Asserts (assigned : Tokens → Predicates) (scope : Option Predicates) :
    Tokens → List (Bool × String) → Prop where
  | nothing : Asserts assigned scope [] []
  | more {condition rest : Tokens} {value : Bool} {message : String}
      {outcomes : List (Bool × String)} :
      Denotes assigned scope .disjunction condition value →
      Asserts assigned scope rest outcomes →
      Asserts assigned scope
        (written "const _: () = ::core::assert!"
          ++ (Tokens.enclosed (condition ++ (written "," ++ Tokens.quoted message))
            ++ (written ";" ++ rest)))
        ((value, message) :: outcomes)

variable {assigned : Tokens → Predicates} {scope : Option Predicates}

/-- From what an assertion encloses, its condition and its message can be read off. -/
theorem enclosed_inj {left right : Tokens} {first second : String}
    (same : left ++ (written "," ++ Tokens.quoted first) =
      right ++ (written "," ++ Tokens.quoted second)) :
    left = right ∧ first = second := by
  have length : (written "," ++ Tokens.quoted first).length =
      (written "," ++ Tokens.quoted second).length := by
    rw [List.length_append, List.length_append]
    rfl
  rcases List.append_inj' same length with ⟨conditions, behind⟩
  have literals := (List.cons.inj (List.append_cancel_left behind)).1
  exact ⟨conditions, Text.literal_injective (TokenTree.literal.inj literals)⟩

/-- Code asserts the same, however it is read. -/
theorem Asserts.unique {tokens : Tokens} {first second : List (Bool × String)}
    (left : Asserts assigned scope tokens first) (right : Asserts assigned scope tokens second) :
    first = second := by
  induction left generalizing second with
  | nothing =>
      generalize empty : ([] : Tokens) = tokens at right
      cases right with
      | nothing => rfl
      | more _ _ =>
          have parts := List.append_eq_nil_iff.mp (List.append_eq_nil_iff.mp empty.symm).2
          cases parts.1
  | @more condition rest value message outcomes denotes _ inductionHypothesis =>
      generalize whole : written "const _: () = ::core::assert!" ++ _ = tokens at right
      cases right with
      | nothing =>
          have parts := List.append_eq_nil_iff.mp (List.append_eq_nil_iff.mp whole).2
          cases parts.1
      | more otherDenotes others =>
          -- The words in front are the same, so the groups behind them are, too.
          have items := List.cons.inj (List.append_cancel_left whole)
          rcases enclosed_inj (TokenTree.group.inj items.1).2 with ⟨rfl, rfl⟩
          cases List.append_cancel_left items.2
          rw [denotes.unique otherDenotes, inductionHypothesis others]

/-! ## Errors as they are read -/

/-- Code stops the compilation with a message. -/
inductive Stops : Tokens → String → Prop where
  | invoked {outer inner bang : Bool} (message : String) :
      Stops [.mark ':' true, .mark ':' outer, .word (.plain "core"), .mark ':' true,
        .mark ':' inner, .word (.plain "compile_error"), .mark '!' bang,
        .group .brace [.literal (Text.literal message)]] message

/-- Code stops the compilation with the same message, however it is read. -/
theorem Stops.unique {tokens : Tokens} {first second : String} (left : Stops tokens first)
    (right : Stops tokens second) : first = second := by
  cases left with
  | invoked message =>
      generalize whole : [TokenTree.mark ':' true, _, _, _, _, _, _, _] = tokens at right
      cases right with
      | invoked other =>
          have groups := Option.some.inj (congrArg List.getLast? whole)
          have literals := (List.cons.inj (TokenTree.group.inj groups).2).1
          exact Text.literal_injective (TokenTree.literal.inj literals)

/-- The code of an error stops the compilation with the message of the error, and with no other. -/
theorem stops_error_iff (unknown : UnknownQuery) (message : String) :
    Stops unknown.tokens message ↔ message = unknown.message := by
  have stops : Stops unknown.tokens unknown.message := by
    rw [unknown.tokens_eq]
    exact .invoked unknown.message
  exact ⟨fun other => other.unique stops, fun same => same ▸ stops⟩

end Meaning

namespace Check

/-! ## Two ways through a list of checks -/

/-- Assertions are emitted for all checks, or nothing is left but the first error. -/
theorem assertionCodeFrom_eq (emitted : Tokens) (checks : List Check) :
    assertionCodeFrom emitted checks =
      match assertions checks with
      | .ok asserted => emitted ++ asserted.flatMap Assertion.tokens
      | .error unknown => unknown.tokens := by
  induction checks generalizing emitted with
  | nil => exact (List.append_nil emitted).symm
  | cons check checks inductionHypothesis =>
      rw [assertionCodeFrom, assertions, List.mapM_cons, ← assertions]
      cases CheckedBlock.ofCheck check with
      | error unknown => rfl
      | ok block =>
          refine (inductionHypothesis _).trans ?_
          cases assertions checks with
          | error unknown => rfl
          | ok asserted =>
              change emitted ++ _ ++ _ = _
              rw [List.append_assoc]
              rfl

/-- An assertion is made of the block of its check and of the message. -/
theorem assertions_eq (checks : List Check) :
    assertions checks = (conjunction checks).map
      fun blocks => List.zipWith Assertion.mk blocks (checks.map message) := by
  induction checks with
  | nil => rfl
  | cons check checks inductionHypothesis =>
      rw [assertions, List.mapM_cons, ← assertions, inductionHypothesis, conjunction_cons]
      cases CheckedBlock.ofCheck check with
      | error unknown => rfl
      | ok block =>
          cases conjunction checks with
          | error unknown => rfl
          | ok blocks => rfl

theorem code_of_unknown {checks : List Check} {name : Word}
    (unknown : (names checks).find? Condition.isUnknown = some name) :
    assertionCode checks = UnknownQuery.tokens ⟨name.written⟩ ∧
      valueCode checks = UnknownQuery.tokens ⟨name.written⟩ := by
  have refused := conjunction_of_unknown unknown
  refine ⟨?_, valueCode_of_error refused⟩
  rw [assertionCode, assertionCodeFrom_eq, assertions_eq, refused]
  rfl

theorem code_of_blocks {checks : List Check} {blocks : List CheckedBlock}
    (areBlocks : conjunction checks = .ok blocks) :
    assertionCode checks =
        (List.zipWith Assertion.mk blocks (checks.map message)).flatMap Assertion.tokens ∧
      valueCode checks = conjunctionTokens blocks := by
  refine ⟨?_, valueCode_of_blocks areBlocks⟩
  rw [assertionCode, assertionCodeFrom_eq, assertions_eq, areBlocks]
  rfl

/-! ## What is asserted -/

/-- A check is what an outcome says: it has the truth value, and the message is about it. -/
def Concludes (assigned : Tokens → Predicates) (check : Check) (outcome : Bool × String) : Prop :=
  check.holds? assigned = some outcome.1 ∧
    outcome.2 = "`" ++ check.typeText ++ "` does not satisfy `" ++ check.condition.text ++ "`"

/-- The assertions of checks are read one by one, with the outcome of each check. -/
theorem exists_outcomes {checks : List Check} {blocks : List CheckedBlock}
    (lower : List.Forall₂ Lowers checks blocks) (assigned : Tokens → Predicates)
    (scope : Option Predicates) :
    ∃ outcomes, List.Forall₂ (Concludes assigned) checks outcomes ∧
      Asserts assigned scope
        ((List.zipWith Assertion.mk blocks (checks.map message)).flatMap Assertion.tokens)
        outcomes := by
  induction lower with
  | nil => exact ⟨[], .nil, .nothing⟩
  | @cons check block _ _ lowers _ inductionHypothesis =>
      rcases lowers assigned scope with ⟨value, holds, denotes⟩
      rcases inductionHypothesis with ⟨outcomes, conclude, others⟩
      refine ⟨(value, check.message) :: outcomes, .cons ⟨holds, rfl⟩ conclude, ?_⟩
      have whole : Asserts assigned scope _ ((value, check.message) :: outcomes) :=
        .more (.disjunct (.conjunct denotes)) others
      rw [List.map_cons, List.zipWith_cons_cons, List.flatMap_cons, Assertion.tokens,
        List.append_assoc, List.append_assoc, List.append_assoc]
      exact whole

theorem allHold?_of_outcomes {assigned : Tokens → Predicates} {checks : List Check}
    {outcomes : List (Bool × String)}
    (conclude : List.Forall₂ (Concludes assigned) checks outcomes) :
    allHold? assigned checks = some (outcomes.all (·.1)) := by
  have values : checks.mapM (holds? assigned) = some (outcomes.map (·.1)) := by
    induction conclude with
    | nil => rfl
    | cons concludes _ inductionHypothesis =>
        rw [List.mapM_cons, concludes.1, inductionHypothesis]
        rfl
  rw [allHold?, values, Option.map_some, List.all_map]
  rfl

/-! ## Agreement -/

theorem ne_nil_of_run_listParser {tokens : Tokens} {checks : List Check}
    (parsed : Parser.run listParser tokens = .ok checks) : checks ≠ [] := by
  have read := Parser.run_eq_ok_iff.mp parsed
  rcases Parser.bind_eq_ok read with ⟨first, middle, _, behindFirst⟩
  rcases Parser.bind_eq_ok behindFirst with ⟨isComma, behind, _, behindComma⟩
  cases isComma with
  | false =>
      cases behindComma
      exact List.cons_ne_nil _ _
  | true =>
      rcases Parser.bind_eq_ok behindComma with ⟨further, ended, _, whole⟩
      cases whole
      exact List.cons_ne_nil _ _

theorem assertion_ne_error (assertion : Assertion) (rest : Tokens) (unknown : UnknownQuery) :
    assertion.tokens ++ rest ≠ unknown.tokens := by
  rw [unknown.tokens_eq]
  intro same
  -- An error begins in a colon, an assertion in a word, and a value in a parenthesis.
  cases congrArg List.head? same

theorem conjunction_ne_error (blocks : List CheckedBlock) (unknown : UnknownQuery) :
    conjunctionTokens blocks ≠ unknown.tokens := by
  rw [unknown.tokens_eq]
  intro same
  cases congrArg List.head? same

/--
Checks that are read become an error as assertions exactly if they do as one value.
It is the same error, it is about the first unknown name of all checks, and there is
no other code: the compilation stops with the message of the error.  If all names are known, the assertions are one for each check, in the
order of the checks: each asserts what has the truth value of its check, with a
message that names the type and the condition.  The value then is that of all
asserted conditions together, whatever predicates are assigned to the types and
whatever predicates are in scope around the code.
-/
theorem assertions_agree_with_value {tokens : Tokens} {checks : List Check}
    (parsed : Parser.run listParser tokens = .ok checks) :
    (∀ unknown : UnknownQuery,
      assertionCode checks = unknown.tokens ↔ valueCode checks = unknown.tokens) ∧
    match (names checks).find? Condition.isUnknown with
    | some name =>
        assertionCode checks = UnknownQuery.tokens ⟨name.written⟩ ∧
          valueCode checks = UnknownQuery.tokens ⟨name.written⟩ ∧
          ∀ message, Stops (valueCode checks) message ↔
            message = UnknownQuery.message ⟨name.written⟩
    | none => ∀ assigned scope, ∃ outcomes,
        (∀ others, Asserts assigned scope (assertionCode checks) others ↔ others = outcomes) ∧
          List.Forall₂ (Concludes assigned) checks outcomes ∧
          ∀ value, Denotes assigned scope .disjunction (valueCode checks) value ↔
            outcomes.all (·.1) = value := by
  cases unknown : (names checks).find? Condition.isUnknown with
  | some name =>
      rcases code_of_unknown unknown with ⟨asserted, valued⟩
      refine ⟨fun other => ?_, asserted, valued, fun message => ?_⟩
      · rw [asserted, valued]
      · rw [valued]
        exact stops_error_iff _ message
  | none =>
      have notEmpty := ne_nil_of_run_listParser parsed
      rcases conjunction_of_known unknown with ⟨blocks, areBlocks, lower⟩
      rcases code_of_blocks areBlocks with ⟨asserted, valued⟩
      refine ⟨fun other => ?_, fun assigned scope => ?_⟩
      · rw [asserted, valued]
        refine iff_of_false ?_ (conjunction_ne_error blocks other)
        cases lower with
        | nil => exact absurd rfl notEmpty
        | cons _ _ => exact assertion_ne_error _ _ other
      · rcases exists_outcomes lower assigned scope with ⟨outcomes, conclude, asserts⟩
        rw [← asserted] at asserts
        refine ⟨outcomes, fun others => ?_, conclude, fun value => ?_⟩
        · exact ⟨fun also => also.unique asserts, fun same => same ▸ asserts⟩
        · rw [valued, denotes_conjunctionTokens_iff lower notEmpty,
            allHold?_of_outcomes conclude, Option.some.injEq]

/-- Both agree on a generic type with a negation in front of another check.  With an unknown
name in the last check nothing is left of what the first became. -/
theorem assertions_agree_on_vector_point :
    Parser.run listParser (vectorPointTokens "Hashable") = .ok (vectorPoint "Hashable") ∧
      (∀ assigned scope,
        Asserts assigned scope (assertionCode (vectorPoint "Hashable"))
            [((assigned vectorTokens).hasEq && !(assigned vectorTokens).send,
                "`Vec<u8>` does not satisfy `(HasEq & !Send)`"),
              ((assigned (Tokens.plain "Point")).hashable,
                "`Point` does not satisfy `Hashable`")] ∧
          ∀ value,
            Denotes assigned scope .disjunction (valueCode (vectorPoint "Hashable")) value ↔
              ((assigned vectorTokens).hasEq && !(assigned vectorTokens).send &&
                (assigned (Tokens.plain "Point")).hashable) = value) ∧
      Parser.run listParser (vectorPointTokens "Sized") = .ok (vectorPoint "Sized") ∧
      assertionCode (vectorPoint "Sized") = UnknownQuery.tokens ⟨"Sized"⟩ ∧
      valueCode (vectorPoint "Sized") = UnknownQuery.tokens ⟨"Sized"⟩ ∧
      Stops (valueCode (vectorPoint "Sized")) (UnknownQuery.message ⟨"Sized"⟩) := by
  have known : Parser.run listParser (vectorPointTokens "Hashable") =
      .ok (vectorPoint "Hashable") := rfl
  have unknown : Parser.run listParser (vectorPointTokens "Sized") =
      .ok (vectorPoint "Sized") := rfl
  rcases (assertions_agree_with_value unknown).2 with ⟨asserted, valued, stops⟩
  refine ⟨known, fun assigned scope => ?_, unknown, asserted, valued, (stops _).mpr rfl⟩
  have agrees := (assertions_agree_with_value known).2
  rcases agrees assigned scope with ⟨outcomes, reads, conclude, means⟩
  cases conclude with
  | @cons _ vector _ _ concludesVector others =>
      cases others with
      | @cons _ point _ _ concludesPoint nothing =>
          cases nothing
          have vectorIs : vector =
              ((assigned vectorTokens).hasEq && !(assigned vectorTokens).send,
                "`Vec<u8>` does not satisfy `(HasEq & !Send)`") :=
            Prod.ext (Option.some.inj concludesVector.1.symm) concludesVector.2
          have pointIs : point =
              ((assigned (Tokens.plain "Point")).hashable,
                "`Point` does not satisfy `Hashable`") :=
            Prod.ext (Option.some.inj concludesPoint.1.symm) concludesPoint.2
          rw [vectorIs, pointIs] at reads means
          refine ⟨(reads _).mpr rfl, fun value => (means value).trans ?_⟩
          rw [List.all_cons, List.all_cons, List.all_nil, Bool.and_true]

end Check
end Capability

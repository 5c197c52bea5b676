import Capability.Condition
import Capability.Detection.Table

/-!
# What code with a truth value means

Emitted code is read here as the language reads it, and not as it was made.
Operators stand between two marks of a kind: two bars join less tightly than two
ampersands, and these less tightly than a negation, which takes the call of a
method behind it as a whole.  What a call answers depends on the predicates in
scope; a block brings those of a type into scope, and any predicates may be
assigned to the types.

The relation says which readings there are.  That there is only one is a theorem:
what a phrase means can be found in one pass over its tokens, which keeps the
truth of the disjuncts behind it, that of the conjuncts behind it since, and
whether the next operand is negated.
-/

namespace Capability

open Code

/-! ## Methods -/

/-- What a method of predicates answers, by the name under which code calls it. -/
def Predicates.call? (predicates : Predicates) : (method : String) → Option Bool
  | "is_default_constructible" => some predicates.defaultConstructible
  | "is_copy_constructible" => some predicates.copyConstructible
  | "is_move_constructible" => some predicates.moveConstructible
  | "is_destructible" => some predicates.destructible
  | "is_trivially_destructible" => some predicates.triviallyDestructible
  | "is_trivially_copyable" => some predicates.triviallyCopyable
  | "is_trivially_movable" => some predicates.triviallyMovable
  | "is_send" => some predicates.send
  | "is_sync" => some predicates.sync
  | "is_equality_comparable" => some predicates.equalityComparable
  | "has_eq" => some predicates.hasEq
  | "has_ne" => some predicates.hasNe
  | "has_lt" => some predicates.hasLt
  | "has_le" => some predicates.hasLe
  | "has_gt" => some predicates.hasGt
  | "has_ge" => some predicates.hasGe
  | "has_three_way" => some predicates.threeWay.isPresent
  | "is_partially_ordered" => some predicates.isPartiallyOrdered
  | "is_totally_ordered" => some predicates.totallyOrdered
  | "is_hashable" => some predicates.hashable
  | "is_debuggable" => some predicates.debuggable
  | "is_displayable" => some predicates.display.isPresent
  | _ => Option.none

/-- The method that a question is turned into answers it. -/
theorem Predicates.call?_method (predicates : Predicates) (query : Query) :
    predicates.call? query.method = some (predicates.answer query) := by
  cases query <;> rfl

namespace Meaning

/-! ## Phrases of code -/

/-- The phrases of code with a truth value, from the tightest to the loosest. -/
inductive Level where
  | operand
  | conjunction
  | disjunction

/-- Two marks that are one operator. -/
def doubled (mark : Char) (joint : Bool) : Tokens := [.mark mark true, .mark mark joint]

/-- The declaration of the constant that holds the predicates of a type. -/
def declaration (type : Tokens) : Tokens :=
  written "const __PREDICATES: ::bridge_caps::Predicates =" ++ Detection.predicatesOf type
    ++ written ";"

/--
The truth value of code, given the predicates of each type and those in scope, if
there are any.  At the end of a block stands an expression that is no block itself,
since that would end a statement.
-/
inductive Denotes (assigned : Tokens → Predicates) :
    (scope : Option Predicates) → Level → Tokens → Bool → Prop where
  | called {predicates : Predicates} {joint : Bool} {method : String} {answer : Bool} :
      predicates.call? method = some answer →
      Denotes assigned (some predicates) .operand
        [.word (.plain "__PREDICATES"), .mark '.' joint, .word (.plain method),
          .group .parenthesis []] answer
  | enclosed {scope : Option Predicates} {content : Tokens} {value : Bool} :
      Denotes assigned scope .disjunction content value →
      Denotes assigned scope .operand [.group .parenthesis content] value
  | block {scope : Option Predicates} {type body : Tokens} {value : Bool} :
      body.atGroup .brace = false →
      Denotes assigned (some (assigned type)) .disjunction body value →
      Denotes assigned scope .operand [.group .brace (declaration type ++ body)] value
  | negated {scope : Option Predicates} {joint : Bool} {tokens : Tokens} {value : Bool} :
      Denotes assigned scope .operand tokens value →
      Denotes assigned scope .operand (.mark '!' joint :: tokens) (!value)
  | conjunct {scope : Option Predicates} {tokens : Tokens} {value : Bool} :
      Denotes assigned scope .operand tokens value →
      Denotes assigned scope .conjunction tokens value
  | both {scope : Option Predicates} {left right : Tokens} {joint first second : Bool} :
      Denotes assigned scope .conjunction left first →
      Denotes assigned scope .operand right second →
      Denotes assigned scope .conjunction (left ++ doubled '&' joint ++ right) (first && second)
  | disjunct {scope : Option Predicates} {tokens : Tokens} {value : Bool} :
      Denotes assigned scope .conjunction tokens value →
      Denotes assigned scope .disjunction tokens value
  | either {scope : Option Predicates} {left right : Tokens} {joint first second : Bool} :
      Denotes assigned scope .disjunction left first →
      Denotes assigned scope .conjunction right second →
      Denotes assigned scope .disjunction (left ++ doubled '|' joint ++ right) (first || second)

/-! ## Reading from left to right -/

/-- What the next token belongs to.  In front of an operand it is known whether it is
negated. -/
inductive Turn where
  | operand (negated : Bool)
  | operator

/--
The truth value of code of which a part has been read: `before` is that of the
disjuncts that are complete, and `since` that of the conjuncts of the next one.
-/
inductive Reads (assigned : Tokens → Predicates) :
    (scope : Option Predicates) → (before since : Bool) → Turn → Tokens → Bool → Prop where
  | ended {scope : Option Predicates} {before since : Bool} :
      Reads assigned scope before since .operator [] (before || since)
  | conjoined {scope : Option Predicates} {before since joint value : Bool} {rest : Tokens} :
      Reads assigned scope before since (.operand false) rest value →
      Reads assigned scope before since .operator (doubled '&' joint ++ rest) value
  | disjoined {scope : Option Predicates} {before since joint value : Bool} {rest : Tokens} :
      Reads assigned scope (before || since) true (.operand false) rest value →
      Reads assigned scope before since .operator (doubled '|' joint ++ rest) value
  | negated {scope : Option Predicates} {before since isNegated joint value : Bool}
      {rest : Tokens} :
      Reads assigned scope before since (.operand !isNegated) rest value →
      Reads assigned scope before since (.operand isNegated) (.mark '!' joint :: rest) value
  | called {predicates : Predicates} {before since isNegated joint answer value : Bool}
      {method : String} {rest : Tokens} :
      predicates.call? method = some answer →
      Reads assigned (some predicates) before (since && (isNegated ^^ answer)) .operator rest
        value →
      Reads assigned (some predicates) before since (.operand isNegated)
        (.word (.plain "__PREDICATES") :: .mark '.' joint :: .word (.plain method) ::
          .group .parenthesis [] :: rest) value
  | enclosed {scope : Option Predicates} {before since isNegated inner value : Bool}
      {content rest : Tokens} :
      Reads assigned scope false true (.operand false) content inner →
      Reads assigned scope before (since && (isNegated ^^ inner)) .operator rest value →
      Reads assigned scope before since (.operand isNegated)
        (.group .parenthesis content :: rest) value
  | block {scope : Option Predicates} {before since isNegated inner value : Bool}
      {type body content rest : Tokens} :
      content = declaration type ++ body →
      Reads assigned (some (assigned type)) false true (.operand false) body inner →
      Reads assigned scope before (since && (isNegated ^^ inner)) .operator rest value →
      Reads assigned scope before since (.operand isNegated) (.group .brace content :: rest) value

variable {assigned : Tokens → Predicates}

/-- How reading goes on behind a phrase of a certain truth value.  Behind a disjunction
it is known which truth value the disjuncts have together, but not how it divides into
that of the complete ones and that of the last one. -/
def Level.Continues (assigned : Tokens → Predicates) (scope : Option Predicates)
    (tokens : Tokens) (value : Bool) : Level → Prop
  | operand => ∀ before since isNegated rest result,
      Reads assigned scope before (since && (isNegated ^^ value)) .operator rest result →
      Reads assigned scope before since (.operand isNegated) (tokens ++ rest) result
  | conjunction => ∀ before since rest result,
      Reads assigned scope before (since && value) .operator rest result →
      Reads assigned scope before since (.operand false) (tokens ++ rest) result
  | disjunction => ∀ before rest result,
      (∀ complete since, (complete || since) = (before || value) →
        Reads assigned scope complete since .operator rest result) →
      Reads assigned scope before true (.operand false) (tokens ++ rest) result

/-- A phrase that is all of the code is read to the end. -/
theorem Level.Continues.reads {scope : Option Predicates} {tokens : Tokens} {value : Bool}
    (continues : disjunction.Continues assigned scope tokens value) :
    Reads assigned scope false true (.operand false) tokens value := by
  have whole := continues false [] value fun complete since same => by
    rw [← Bool.false_or value, ← same]
    exact .ended
  rwa [List.append_nil] at whole

/-- Every phrase is read to its truth value, whatever has been read before it. -/
theorem Denotes.continues {scope : Option Predicates} {level : Level} {tokens : Tokens}
    {value : Bool} (denotes : Denotes assigned scope level tokens value) :
    level.Continues assigned scope tokens value := by
  induction denotes with
  | called answers => exact fun _ _ _ _ _ further => .called answers further
  | enclosed _ inner => exact fun _ _ _ _ _ further => .enclosed inner.reads further
  | block _ _ inner => exact fun _ _ _ _ _ further => .block rfl inner.reads further
  | negated _ inner =>
      intro before since isNegated rest result further
      apply Reads.negated
      apply inner
      rwa [Bool.not_xor, ← Bool.xor_not]
  | conjunct _ inner =>
      intro before since rest result further
      apply inner
      rwa [Bool.false_xor]
  | both _ _ left right =>
      intro before since rest result further
      rw [List.append_assoc, List.append_assoc]
      apply left
      apply Reads.conjoined
      apply right
      rwa [Bool.false_xor, Bool.and_assoc]
  | disjunct _ inner =>
      intro before rest result further
      apply inner
      apply further
      rw [Bool.true_and]
  | either _ _ left right =>
      intro before rest result further
      rw [List.append_assoc, List.append_assoc]
      apply left
      intro complete since same
      apply Reads.disjoined
      apply right
      apply further
      rw [Bool.true_and, same, Bool.or_assoc]

/-- From a declaration its type can be read off, and where it ends. -/
theorem declaration_inj {left right leftBody rightBody : Tokens}
    (same : declaration left ++ leftBody = declaration right ++ rightBody) :
    left = right ∧ leftBody = rightBody := by
  simp only [declaration, Detection.predicatesOf, List.append_assoc] at same
  have behind := List.append_cancel_left (List.append_cancel_left same)
  rcases List.cons.inj behind with ⟨initial, bodies⟩
  have content := (TokenTree.group.inj initial).2
  simp only [Detection.factsOf, List.append_assoc] at content
  have rest : written ", ::core::mem::needs_drop::" ++ (angled left ++ written "()") =
      written ", ::core::mem::needs_drop::" ++ (angled right ++ written "()") :=
    (List.cons.inj (List.append_cancel_left content)).2
  have angles := List.append_cancel_right (List.append_cancel_left rest)
  exact ⟨List.append_cancel_left (List.append_cancel_right angles),
    List.append_cancel_left bodies⟩

/-- One pass over code gives one truth value. -/
theorem Reads.unique {scope : Option Predicates} {before since : Bool} {turn : Turn}
    {tokens : Tokens} {first second : Bool}
    (left : Reads assigned scope before since turn tokens first)
    (right : Reads assigned scope before since turn tokens second) : first = second := by
  induction left generalizing second with
  | ended =>
      cases right with
      | ended => rfl
  | conjoined _ inductionHypothesis =>
      cases right with
      | conjoined right => exact inductionHypothesis right
  | disjoined _ inductionHypothesis =>
      cases right with
      | disjoined right => exact inductionHypothesis right
  | negated _ inductionHypothesis =>
      cases right with
      | negated right => exact inductionHypothesis right
  | called answers _ inductionHypothesis =>
      cases right with
      | called otherAnswers right =>
          cases answers.symm.trans otherAnswers
          exact inductionHypothesis right
  | enclosed _ _ innerHypothesis restHypothesis =>
      cases right with
      | enclosed inner right =>
          cases innerHypothesis inner
          exact restHypothesis right
  | block split _ _ innerHypothesis restHypothesis =>
      cases right with
      | block otherSplit inner right =>
          -- The same content declares the predicates of one type only.
          rcases declaration_inj (split.symm.trans otherSplit) with ⟨rfl, rfl⟩
          cases innerHypothesis inner
          exact restHypothesis right

/-- Code has one truth value at most. -/
theorem Denotes.unique {scope : Option Predicates} {tokens : Tokens} {first second : Bool}
    (left : Denotes assigned scope .disjunction tokens first)
    (right : Denotes assigned scope .disjunction tokens second) : first = second :=
  left.continues.reads.unique right.continues.reads

end Meaning
end Capability

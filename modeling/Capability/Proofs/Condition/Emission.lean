import Capability.Proofs.Condition.Derivation
import Capability.Proofs.Condition.Meaning

/-!
# What is emitted for a condition

The names of a condition are the words of its tokens, in the order in which they
are written.  The first of them that is unknown is the one that is complained
about.  If there is none, code is emitted, and its truth value is the one that the
condition has: each name becomes the call of a method that answers the question of
that name, and around each conjunction, disjunction and negation there are
parentheses, so that nothing depends on how tightly operators join.
-/

namespace Capability

open Code

namespace Condition

/-! ## Names in the order of the tokens -/

mutual

/-- The words of a token tree, in the order in which they are written. -/
def treeWords : TokenTree → List Word
  | .word name => [name]
  | .group _ content => words content
  | _ => []

/-- The words of a list of token trees. -/
def words : Tokens → List Word
  | [] => []
  | tree :: rest => treeWords tree ++ words rest

end

theorem words_append (front behind : Tokens) :
    words (front ++ behind) = words front ++ words behind := by
  induction front with
  | nil => rfl
  | cons tree front inductionHypothesis =>
      rw [List.cons_append, words, words, inductionHypothesis, List.append_assoc]

/-- The names of a tree that is joined from the left. -/
theorem names_tree (junction : Junction) (first : Condition) (parts : List Part) :
    (junction.tree first parts).names = first.names ++ parts.flatMap (·.condition.names) := by
  induction parts generalizing first with
  | nil => exact (List.append_nil _).symm
  | cons part parts inductionHypothesis =>
      rw [List.flatMap_cons, ← List.append_assoc, ← names_join junction]
      exact inductionHypothesis _

theorem words_parts (junction : Junction) {parts : List Part}
    (same : ∀ part ∈ parts, part.condition.names = words part.tokens) :
    words (parts.flatMap (Part.written junction)) = parts.flatMap (·.condition.names) := by
  induction parts with
  | nil => rfl
  | cons part parts inductionHypothesis =>
      rw [List.flatMap_cons, List.flatMap_cons, words_append, same part List.mem_cons_self,
        inductionHypothesis fun part member => same part (List.mem_cons_of_mem _ member)]
      rfl

/-- The names of a condition are the words that it is written with. -/
theorem Derives.names_eq_words {phrase : Phrase} {tokens : Tokens} {condition : Condition}
    (derived : Derives phrase tokens condition) : condition.names = words tokens := by
  induction derived with
  | named _ => rfl
  | enclosed _ inner => exact inner.trans (List.append_nil _).symm
  | negated _ inner => exact inner
  | joined _ _ firstNames partNames =>
      rw [names_tree, words_append, firstNames, words_parts _ partNames]

/-! ## Unknown names -/

/-- Whether a name is that of no question. -/
def isUnknown (name : Word) : Bool := !(Query.all.map Query.name).contains name.written

/-- The first name of a condition that is unknown. -/
def unknown? (condition : Condition) : Option Word := condition.names.find? isUnknown

theorem exists_query_of_known {name : Word} (known : isUnknown name = false) :
    ∃ query : Query, query.name = name.written ∧ Query.ofName? name.written = some query := by
  have listed := List.contains_iff_mem.mp ((Bool.not_eq_false' _).mp known)
  rcases List.mem_map.mp listed with ⟨query, member, same⟩
  have found : (Query.ofName? name.written).isSome = true :=
    List.find?_isSome.mpr ⟨query, member, beq_iff_eq.mpr same⟩
  rcases Option.isSome_iff_exists.mp found with ⟨other, isOther⟩
  have named := List.find?_some (p := fun query : Query => query.name == name.written) isOther
  exact ⟨other, beq_iff_eq.mp named, isOther⟩

theorem ofName?_of_unknown {name : Word} (unknown : isUnknown name = true) :
    Query.ofName? name.written = none := by
  refine List.find?_eq_none.mpr fun query member same => ?_
  have listed := List.mem_map.mpr ⟨query, member, beq_iff_eq.mp same⟩
  rw [isUnknown, List.contains_iff_mem.mpr listed] at unknown
  cases unknown

theorem unknown?_join (junction : Junction) (left right : Condition) :
    (junction.join left right).unknown? = left.unknown?.or right.unknown? := by
  rw [unknown?, names_join, List.find?_append, unknown?, unknown?]

/-! ## The code of a condition -/

/-- What joins formulas as conditions are joined. -/
def Junction.formula : Junction → Formula → Formula → Formula
  | both => .both
  | either => .either

theorem formula_join (junction : Junction) (left right : Condition) :
    (junction.join left right).formula =
      (do return junction.formula (← left.formula) (← right.formula)) := by
  cases junction <;> rfl

/-- A formula has the truth value that a condition has, whatever the predicates are. -/
def Lowers (condition : Condition) (formula : Formula) : Prop :=
  ∀ assigned predicates, ∃ value, condition.holds? predicates = some value ∧
    Meaning.Denotes assigned (some predicates) .operand
      (formula.tokens Detection.predicatesName) value

namespace Lowers

theorem named {name : Word} (known : isUnknown name = false) :
    (named name).Lowers (.call (Naming.queryMethod name.written)) := by
  intro assigned predicates
  rcases exists_query_of_known known with ⟨query, same, found⟩
  refine ⟨predicates.answer query, ?_, .called ?_⟩
  · rw [holds?, found, Option.map_some]
  · rw [← same]
    exact predicates.call?_method query

theorem join (junction : Junction) {left right : Condition} {first second : Formula}
    (leftLowers : left.Lowers first) (rightLowers : right.Lowers second) :
    (junction.join left right).Lowers (junction.formula first second) := by
  intro assigned predicates
  rcases leftLowers assigned predicates with ⟨leftValue, leftHolds, leftDenotes⟩
  rcases rightLowers assigned predicates with ⟨rightValue, rightHolds, rightDenotes⟩
  cases junction with
  | both =>
      refine ⟨leftValue && rightValue, ?_, ?_⟩
      · rw [Junction.join, holds?, leftHolds, rightHolds]
        rfl
      · exact .enclosed (.disjunct (.both (.conjunct leftDenotes) rightDenotes))
  | either =>
      refine ⟨leftValue || rightValue, ?_, ?_⟩
      · rw [Junction.join, holds?, leftHolds, rightHolds]
        rfl
      · exact .enclosed (.either (.disjunct (.conjunct leftDenotes)) (.conjunct rightDenotes))

theorem not {condition : Condition} {formula : Formula} (lowers : condition.Lowers formula) :
    (not condition).Lowers (.not formula) := by
  intro assigned predicates
  rcases lowers assigned predicates with ⟨value, holds, denotes⟩
  refine ⟨!value, ?_, .enclosed (.disjunct (.conjunct (.negated denotes)))⟩
  rw [holds?, holds, Option.map_some]

end Lowers

/-- That a condition has code of the same truth value. -/
def Emits (condition : Condition) : Prop :=
  ∃ formula, condition.formula = .ok formula ∧ condition.Lowers formula

theorem Emits.join (junction : Junction) {left right : Condition} (leftEmits : left.Emits)
    (rightEmits : right.Emits) : (junction.join left right).Emits := by
  rcases leftEmits with ⟨first, isFirst, leftLowers⟩
  rcases rightEmits with ⟨second, isSecond, rightLowers⟩
  refine ⟨junction.formula first second, ?_, leftLowers.join junction rightLowers⟩
  rw [formula_join, isFirst, isSecond]
  rfl

/-- A condition whose names are all known has a formula of the same truth value. -/
theorem emits_of_known {condition : Condition} (known : condition.unknown? = none) :
    condition.Emits := by
  have joined : ∀ (junction : Junction) {left right : Condition},
      (left.unknown? = none → left.Emits) → (right.unknown? = none → right.Emits) →
      (junction.join left right).unknown? = none → (junction.join left right).Emits := by
    intro junction left right leftHypothesis rightHypothesis known
    rw [unknown?_join, Option.or_eq_none_iff] at known
    exact .join junction (leftHypothesis known.1) (rightHypothesis known.2)
  induction condition with
  | named name =>
      have isKnown : isUnknown name = false :=
        Bool.eq_false_iff.mpr (List.find?_eq_none.mp known name (List.mem_singleton.mpr rfl))
      rcases exists_query_of_known isKnown with ⟨query, _, found⟩
      refine ⟨_, ?_, .named isKnown⟩
      rw [formula, found]
      rfl
  | both left right leftHypothesis rightHypothesis =>
      exact joined .both leftHypothesis rightHypothesis known
  | either left right leftHypothesis rightHypothesis =>
      exact joined .either leftHypothesis rightHypothesis known
  | not operand inductionHypothesis =>
      rcases inductionHypothesis known with ⟨inner, isInner, lowers⟩
      refine ⟨_, ?_, lowers.not⟩
      rw [formula, isInner]
      rfl

/-- The first unknown name of a condition is the one that is complained about. -/
theorem formula_of_unknown {condition : Condition} {name : Word}
    (unknown : condition.unknown? = some name) : condition.formula = .error ⟨name.written⟩ := by
  -- On the right of a join a name comes first only if all names on the left are known.
  have joined : ∀ (junction : Junction) {left right : Condition},
      (left.unknown? = some name → left.formula = .error ⟨name.written⟩) →
      (right.unknown? = some name → right.formula = .error ⟨name.written⟩) →
      (junction.join left right).unknown? = some name →
      (junction.join left right).formula = .error ⟨name.written⟩ := by
    intro junction left right leftHypothesis rightHypothesis unknown
    rw [unknown?_join] at unknown
    rw [formula_join]
    rcases Option.or_eq_some_iff.mp unknown with found | ⟨known, found⟩
    · rw [leftHypothesis found]
      rfl
    · rcases emits_of_known known with ⟨first, isFirst, _⟩
      rw [isFirst, rightHypothesis found]
      rfl
  induction condition with
  | named word =>
      have isUnknown := List.find?_some unknown
      have same := List.mem_singleton.mp (List.mem_of_find?_eq_some unknown)
      rw [← same, formula, ofName?_of_unknown isUnknown]
      rfl
  | both left right leftHypothesis rightHypothesis =>
      exact joined .both leftHypothesis rightHypothesis unknown
  | either left right leftHypothesis rightHypothesis =>
      exact joined .either leftHypothesis rightHypothesis unknown
  | not operand inductionHypothesis =>
      rw [formula, inductionHypothesis unknown]
      rfl

end Condition
end Capability

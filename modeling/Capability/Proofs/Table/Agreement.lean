import Capability.Catalog.Entries
import Capability.Manifest

/-!
# The table of a type agrees with its predicates

What can be offered on a type is decided twice.  Predicates are combined from
the traits of the type; the slots of its table are filled by the first source
whose own bounds the type meets.  Neither is computed from the other, and where
one promises an operation that the other lacks, a binding breaks.

Both are compared here through the traits alone.  A source is present exactly
if the type has every trait that the source is built from, so that a slot is
filled exactly if the bounds of one of its sources are met.  That this is what
the predicates say is a matter of each operation by itself, except for the
three-way comparison: a total order fills its slot, while the predicates only
look at the partial one, and it takes a lawful set of traits to bring them
together.
-/

namespace Capability

/-- What the predicates of a type say about an operation.  Every value can be
moved and ended, so those two operations are said of every type. -/
def Predicates.offers (predicates : Predicates) : Operation → Bool
  | .defaultNew => predicates.defaultConstructible
  | .copyNew => predicates.copyConstructible
  | .moveNew | .destruct => true
  | .eq => predicates.hasEq
  | .ne => predicates.hasNe
  | .lt => predicates.hasLt
  | .le => predicates.hasLe
  | .gt => predicates.hasGt
  | .ge => predicates.hasGe
  | .threeWay => decide (predicates.threeWay ≠ .absent)
  | .hash => predicates.hashable
  | .debug => predicates.debuggable
  | .display => decide (predicates.display ≠ .absent)

/-! ## Sources and their bounds -/

/-- A choice among sources comes to what the first of them holds that holds
anything. -/
theorem Selection.eval_firstAvailable {σ β : Type} (holds : σ → Option β) (sources : List σ) :
    (firstAvailable sources).eval holds = sources.findSome? holds := by
  induction sources with
  | nil => rfl
  | cons first rest inductionHypothesis =>
      cases rest with
      | nil =>
          simp only [firstAvailable, eval, List.findSome?]
          cases holds first <;> rfl
      | cons second others =>
          simp only [firstAvailable, eval, List.findSome?_cons]
          cases holds first with
          | none => exact inductionHypothesis
          | some found => rfl

/-- The traits that a source is built from. -/
def Source.bounds {operation : Operation} : Source operation → List Trait
  | default => [.default]
  | clone => [.clone]
  | move | drop => []
  | ownEq | ownNe => [.partialEq]
  | singleEq => [.equal]
  | singleNe => [.notEqual]
  | ownLt | ownLe | ownGt | ownGe => [.partialOrd]
  | singleLt => [.lessThan]
  | singleLe => [.lessEqual]
  | singleGt => [.greaterThan]
  | singleGe => [.greaterEqual]
  | strong => [.ord]
  | partialOrder => [.partialOrd]
  | synthesizedOwn => [.lessThan, .partialEq]
  | synthesizedSingle => [.lessThan, .equal]
  | hash => [.hash]
  | debug => [.debug]
  | toString => [.display]
  | stringCast => [.stringCast]
  | stringView => [.stringView]

/-- A source is present on the types within its bounds and on no others. -/
theorem Source.isSome_resolve {α : Type} (behaviour : Behaviour α) {operation : Operation}
    (source : Source operation) :
    (source.resolve behaviour).isSome = source.bounds.all behaviour.traits := by
  cases source
  case move | drop => rfl
  case clone | singleEq | singleNe | singleLt | singleLe | singleGt | singleGe | debug | toString
      | stringCast =>
    exact (Bool.and_true _).symm
  case default | ownEq | ownNe | ownLt | ownLe | ownGt | ownGe | strong | partialOrder | hash
      | stringView =>
    exact Option.isSome_map.trans (Bool.and_true _).symm
  case synthesizedOwn =>
    simp only [resolve, bounds, List.all_cons, List.all_nil, Behaviour.traits]
    cases behaviour.lessThan? <;> cases behaviour.equality? <;> rfl
  case synthesizedSingle =>
    simp only [resolve, bounds, List.all_cons, List.all_nil, Behaviour.traits]
    cases behaviour.lessThan? <;> cases behaviour.equal? <;> rfl

/-- Whether one of an operation's sources is within its bounds on a set of traits. -/
def Operation.isSourced (operation : Operation) (traits : TraitSet) : Bool :=
  operation.sources.any fun source => source.bounds.all traits

namespace Table

variable {α : Type}

/-- A slot holds the function of the first source that is present. -/
theorem slot_of (behaviour : Behaviour α) (operation : Operation) :
    (of behaviour).slot operation = operation.sources.findSome? (Source.resolve behaviour) :=
  Selection.eval_firstAvailable _ _

/-- A slot is filled exactly if the bounds of one of its sources are met. -/
theorem has_of (behaviour : Behaviour α) (operation : Operation) :
    (of behaviour).has operation = operation.isSourced behaviour.traits := by
  rw [has, slot_of, List.isSome_findSome?, Operation.isSourced]
  congr 1
  funext source
  exact source.isSome_resolve behaviour

theorem mem_operations (table : Table α) (operation : Operation) :
    operation ∈ table.operations ↔ table.has operation = true := by
  rw [operations, List.mem_filter]
  exact and_iff_right operation.mem_all

end Table

/-! ## The two decisions on one set of traits -/

/-- A type with a total order has a partial one, so that either both of the
sources that use an order of the type's own are present or the partial one is. -/
theorem TraitSet.Lawful.strong_or_partial {traits : TraitSet} (lawful : traits.Lawful) :
    (traits .ord || traits .partialOrd) = traits .partialOrd := by
  cases total : traits .ord with
  | false => rfl
  | true => rw [lawful.partialOrd_of_ord total, Bool.or_self]

/-- The display text has a source exactly if the predicates name one. -/
theorem Predicates.offers_display (traits : TraitSet) (needsDrop : Bool) :
    (Predicates.ofTraits traits needsDrop).offers .display =
      (traits .display || traits .stringCast || traits .stringView) := by
  cases own : traits .display <;> cases cast : traits .stringCast <;>
    cases view : traits .stringView <;> simp [offers, ofTraits, own, cast, view]

/-- The predicates promise a three-way comparison if there is a partial order,
or `<` together with some `==`. -/
theorem Predicates.offers_threeWay (traits : TraitSet) (needsDrop : Bool) :
    (Predicates.ofTraits traits needsDrop).offers .threeWay =
      (traits .partialOrd ||
        (traits .lessThan && (traits .partialEq || traits .equal))) := by
  cases order : traits .partialOrd <;> cases less : traits .lessThan <;>
    cases own : traits .partialEq <;> cases single : traits .equal <;>
    simp [offers, ofTraits, order, less, own, single]

/-- On a lawful set of traits the predicates offer what has a source, and
nothing else. -/
theorem Operation.isSourced_eq_offers {traits : TraitSet} (lawful : traits.Lawful)
    (needsDrop : Bool) (operation : Operation) :
    operation.isSourced traits = (Predicates.ofTraits traits needsDrop).offers operation := by
  cases operation
  -- Only here does it matter that the set is lawful: a total order fills the slot,
  -- and the predicates look at the partial one.
  case threeWay =>
    rw [Predicates.offers_threeWay, Bool.and_or_distrib_left, ← lawful.strong_or_partial]
    simp [isSourced, sources, Source.bounds, Bool.or_assoc]
  case display =>
    rw [Predicates.offers_display]
    simp [isSourced, sources, Source.bounds, Bool.or_assoc]
  all_goals simp [isSourced, sources, Source.bounds, Predicates.offers, Predicates.ofTraits]

/-- On a type with a lawful set of traits the filled slots are those that its
predicates offer. -/
theorem Table.has_eq_offers {α : Type} {behaviour : Behaviour α} (lawful : behaviour.traits.Lawful)
    (operation : Operation) :
    (Table.of behaviour).has operation = behaviour.predicates.offers operation :=
  (Table.has_of behaviour operation).trans
    (operation.isSourced_eq_offers lawful behaviour.needsDrop)

/-! ## The table and the manifest of a type -/

/-- Detection is sound and complete: on every type with a lawful set of traits
the filled slots are those that its predicates offer, and its manifest lists
exactly these, each once and in the order of the table. -/
theorem table_manifest_agree_with_predicates {α : Type} (name sourceType : String)
    (behaviour : Behaviour α) (lawful : behaviour.traits.Lawful) :
    (∀ operation, (Table.of behaviour).has operation = behaviour.predicates.offers operation) ∧
      (Manifest.of name sourceType behaviour).operations.Sublist Operation.all ∧
      (Manifest.of name sourceType behaviour).operations.Nodup ∧
      (∀ operation, operation ∈ (Manifest.of name sourceType behaviour).operations ↔
        ((Table.of behaviour).slot operation).isSome = true) ∧
      ∀ operation, (Manifest.of name sourceType behaviour).has operation =
        (Table.of behaviour).has operation := by
  have listed : (Manifest.of name sourceType behaviour).operations =
      (Table.of behaviour).operations := rfl
  refine ⟨fun operation => ?_, ?_, ?_, ?_, fun operation => ?_⟩
  · rw [Table.has_of]
    exact operation.isSourced_eq_offers lawful behaviour.needsDrop
  · exact List.filter_sublist
  · exact Operation.all_nodup.filter _
  · exact (Table.of behaviour).mem_operations
  · apply Bool.eq_iff_iff.mpr
    rw [Manifest.has, List.contains_iff_mem, listed]
    exact (Table.of behaviour).mem_operations operation

/-- A type with `==` of its own and `<` from a single operator: its slot for the
three-way comparison is filled, and its slot for `>` is not. -/
theorem halfStd_table_agrees :
    Catalog.halfStd.behaviour.traits.Lawful ∧
      (Table.of Catalog.halfStd.behaviour).has .threeWay = true ∧
      (Table.of Catalog.halfStd.behaviour).has .gt = false := by
  have lawful : Catalog.halfStd.behaviour.traits.Lawful := by
    constructor <;> decide
  have agree := table_manifest_agree_with_predicates "HalfStd" "HalfStd" _ lawful
  exact ⟨lawful, (agree.1 .threeWay).trans (by decide), (agree.1 .gt).trans (by decide)⟩

end Capability

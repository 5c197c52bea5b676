import Capability.Proofs.Table.Obligation

/-!
# More traits withdraw nothing

A type that comes to implement further traits, and is ended as before, keeps everything that
could be done with it.  The predicates could break this in two ways.  Comparisons and display
texts are chosen by priority, so that a new trait changes the choice; and the obligation to
end values with work, or to copy them bit by bit, rests on what a type does not have.

Neither happens.  Each choice is a chain of tests for traits, and with more traits a chain
ends no later, so that the choice only moves towards what has priority.  What is negated is
only whether ending a value does work, and this no trait decides.  A slot asks for less than
either: of one of its sources all traits are there, and they still are among more.

Nothing of this needs lawful sets, because no step from traits to capabilities relies on what
traits require of each other.
-/

namespace Capability

/-! ## What grows -/

/-- How much of a three-way comparison is the type's own. -/
def ThreeWaySupport.rank : ThreeWaySupport → Nat
  | absent => 0
  | synthesized => 1
  | native => 2

theorem ThreeWaySupport.isPresent_iff (support : ThreeWaySupport) :
    support.isPresent = true ↔ 0 < support.rank := by
  cases support <;> decide

/-- How far a source of display text comes before others. -/
def DisplaySource.priority : DisplaySource → Nat
  | absent => 0
  | stringView => 1
  | stringCast => 2
  | toString => 3

theorem DisplaySource.isPresent_iff (source : DisplaySource) :
    source.isPresent = true ↔ 0 < source.priority := by
  cases source <;> decide

/-- What the predicates of one type grant, those of another grant as well. -/
structure Predicates.Within (less more : Predicates) : Prop where
  answers : ∀ query, less.answer query = true → more.answer query = true
  /-- The support for the comparison is the same, or more of it is the type's own. -/
  threeWay : less.threeWay.rank ≤ more.threeWay.rank
  /-- The display text has the same source, or one that comes before it. -/
  display : less.display.priority ≤ more.display.priority

/-! ## Predicates of more traits -/

namespace TraitSet.Subset

variable {small large : TraitSet}

theorem either (subset : small.Subset large) (first second : Trait)
    (one : (small first || small second) = true) : (large first || large second) = true := by
  rcases Bool.or_eq_true_iff.mp one with holds | holds
  · rw [subset first holds, Bool.true_or]
  · rw [subset second holds, Bool.or_true]

variable (needsDrop : Bool)

/-- Where `<` and `==` are, they stay. -/
theorem operators (subset : small.Subset large)
    (both : ((small .partialOrd || small .lessThan) && (small .partialEq || small .equal)) = true) :
    ((large .partialOrd || large .lessThan) && (large .partialEq || large .equal)) = true := by
  rcases Bool.and_eq_true_iff.mp both with ⟨less, equal⟩
  rw [subset.either .partialOrd .lessThan less, subset.either .partialEq .equal equal,
    Bool.and_self]

theorem rank_threeWay (subset : small.Subset large) :
    (Predicates.ofTraits small needsDrop).threeWay.rank ≤
      (Predicates.ofTraits large needsDrop).threeWay.rank := by
  simp only [Predicates.ofTraits]
  -- Where the chain of the larger set goes on past a test, so does that of the smaller one.
  split
  · next order =>
      exact Nat.le_of_eq (congrArg ThreeWaySupport.rank (if_pos (subset _ order)).symm)
  · split
    · next operators =>
        rw [if_pos (subset.operators operators)]
        split <;> decide
    · exact Nat.zero_le _

theorem priority_display (subset : small.Subset large) :
    (Predicates.ofTraits small needsDrop).display.priority ≤
      (Predicates.ofTraits large needsDrop).display.priority := by
  simp only [Predicates.ofTraits]
  split
  · next own =>
      exact Nat.le_of_eq (congrArg DisplaySource.priority (if_pos (subset _ own)).symm)
  · split
    · next cast =>
        rw [if_pos (subset _ cast)]
        split <;> decide
    · split
      · next view =>
          rw [if_pos (subset _ view)]
          split
          · decide
          · split <;> decide
      · exact Nat.zero_le _

/-- The predicates of a set of traits are within those of a larger one. -/
theorem within (subset : small.Subset large) :
    (Predicates.ofTraits small needsDrop).Within (.ofTraits large needsDrop) where
  threeWay := subset.rank_threeWay needsDrop
  display := subset.priority_display needsDrop
  answers query yes := by
    have compared :
        (Predicates.ofTraits small needsDrop).threeWay.isPresent = true →
          (Predicates.ofTraits large needsDrop).threeWay.isPresent = true := by
      rw [ThreeWaySupport.isPresent_iff, ThreeWaySupport.isPresent_iff]
      exact fun present => Nat.lt_of_lt_of_le present (subset.rank_threeWay needsDrop)
    cases query
    case moveConstructible | destructible | triviallyDestructible => exact yes
    case defaultConstructible | copyConstructible | triviallyCopyable | send | sync
        | equalityComparable | totallyOrdered | hashable | debuggable =>
      exact subset _ yes
    case hasEq | hasNe | hasLt | hasLe | hasGt | hasGe => exact subset.either _ _ yes
    case triviallyMovable =>
      rcases Bool.and_eq_true_iff.mp yes with ⟨unpin, ends⟩
      exact Bool.and_eq_true_iff.mpr ⟨subset .unpin unpin, ends⟩
    case hasThreeWay => exact compared yes
    case partiallyOrdered =>
      rcases Bool.or_eq_true_iff.mp yes with present | operators
      · exact Bool.or_eq_true_iff.mpr (.inl (compared present))
      · exact Bool.or_eq_true_iff.mpr (.inr (subset.operators operators))
    case displayable =>
      have present := (DisplaySource.isPresent_iff _).mp yes
      exact (DisplaySource.isPresent_iff _).mpr
        (Nat.lt_of_lt_of_le present (subset.priority_display needsDrop))

/-- What has a source among some traits has one among more. -/
theorem isSourced (subset : small.Subset large) {operation : Operation}
    (sourced : operation.isSourced small = true) : operation.isSourced large = true := by
  rcases List.any_eq_true.mp sourced with ⟨source, listed, met⟩
  have stillMet : source.bounds.all large = true :=
    List.all_eq_true.mpr fun bound required => subset bound (List.all_eq_true.mp met bound required)
  exact List.any_eq_true.mpr ⟨source, listed, stillMet⟩

end TraitSet.Subset

/-! ## Obligations -/

/-- The question whose answer an obligation passes on, if it passes on a single one. -/
def Obligation.query? : Obligation → Option Query
  | default => some .defaultConstructible
  | copyNew => some .copyConstructible
  | moveNew => some .moveConstructible
  | partialEq => some .hasEq
  | eq => some .equalityComparable
  | partialOrd => some .partiallyOrdered
  | ord => some .totallyOrdered
  | hash => some .hashable
  | debug => some .debuggable
  | display => some .displayable
  | trivial | unpin => some .triviallyMovable
  | send => some .send
  | sync => some .sync
  | drop | copy => none

theorem Profile.imposes_derive (predicates : Predicates) {obligation : Obligation} {query : Query}
    (passes : obligation.query? = some query) :
    (derive predicates).imposes obligation = predicates.answer query := by
  cases obligation <;> cases passes <;> rfl

/-- Predicates within others impose fewer obligations, if both say the same of ending a value. -/
theorem Predicates.Within.imposes {less more : Predicates} (within : less.Within more)
    (ends : (Profile.derive less).needsDrop = (Profile.derive more).needsDrop)
    {obligation : Obligation} (imposed : (Profile.derive less).imposes obligation = true) :
    (Profile.derive more).imposes obligation = true := by
  cases passes : obligation.query? with
  | some query =>
      rw [Profile.imposes_derive _ passes] at imposed ⊢
      exact within.answers query imposed
  | none =>
      cases obligation with
      | drop => exact ends.symm.trans imposed
      | copy =>
        rcases Bool.and_eq_true_iff.mp imposed with ⟨trivially, noDrop⟩
        rcases Bool.and_eq_true_iff.mp trivially with ⟨copied, moved⟩
        have copiedStill := within.answers .triviallyCopyable copied
        have movedStill := within.answers .triviallyMovable moved
        have noDropStill : (!(Profile.derive more).needsDrop) = true := ends ▸ noDrop
        exact Bool.and_eq_true_iff.mpr
          ⟨Bool.and_eq_true_iff.mpr ⟨copiedStill, movedStill⟩, noDropStill⟩
      | default | copyNew | moveNew | partialEq | eq | partialOrd | ord | hash | debug | display
      | trivial | unpin | send | sync => cases passes

/-! ## Capabilities of more traits -/

/-- With more traits, and ended with work or without it as before, a type loses nothing: no
answer to a question turns to no, no obligation is lifted, no slot is emptied, and its
comparison and its display text only move towards the sources that come first. -/
theorem more_traits_withdraw_nothing {small large : TraitSet} (subset : small.Subset large)
    (needsDrop : Bool) :
    (Predicates.ofTraits small needsDrop).Within (.ofTraits large needsDrop) ∧
      (∀ obligation, (Profile.derive (.ofTraits small needsDrop)).imposes obligation = true →
        (Profile.derive (.ofTraits large needsDrop)).imposes obligation = true) ∧
      ∀ {α β : Type} (less : Behaviour α) (more : Behaviour β), less.traits = small →
        more.traits = large → ∀ operation, (Table.of less).has operation = true →
          (Table.of more).has operation = true := by
  have within := subset.within needsDrop
  refine ⟨within, fun obligation => within.imposes rfl, ?_⟩
  rintro α β less more rfl rfl operation filled
  rw [Table.has_of] at filled ⊢
  exact subset.isSourced filled

/-- From single operators `<` and `==` to a partial order beside them: the comparison that was
made of the operators becomes the type's own, and its slot stays filled. -/
theorem more_traits_withdraw_nothing_both :
    Catalog.version.behaviour.traits.Subset Catalog.both.behaviour.traits ∧
      Catalog.version.behaviour.predicates.threeWay = .synthesized ∧
      Catalog.both.behaviour.predicates.threeWay = .native ∧
      Catalog.both.behaviour.predicates.answer .partiallyOrdered = true ∧
      (Profile.derive Catalog.both.behaviour.predicates).imposes .partialOrd = true ∧
      (Table.of Catalog.both.behaviour).has .threeWay = true := by
  have subset : Catalog.version.behaviour.traits.Subset Catalog.both.behaviour.traits := by
    intro candidate
    cases candidate <;> decide
  rcases more_traits_withdraw_nothing subset false with ⟨within, imposes, has⟩
  exact ⟨subset, rfl, rfl, within.answers .partiallyOrdered rfl, imposes .partialOrd rfl,
    has Catalog.version.behaviour Catalog.both.behaviour rfl rfl .threeWay (by decide)⟩

end Capability

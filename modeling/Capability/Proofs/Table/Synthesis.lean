import Capability.Proofs.Table.Comparison

/-!
# When a synthesized comparison is an order

A comparison that is made from `<` and `==` asks both about the operands as they
stand and never about the operands exchanged.  Where neither holds it answers that
the first operand is the greater one, so that of two values which nothing relates
each is said to be greater than the other.

Nothing is required of the two operators of a type.  The comparison therefore is an
order of the type only if these operators rule such values out, and exactly one
condition does: of any two values either the first is smaller, or they are equal,
or the second is smaller, and no two of these hold together.  Reflexivity of `==`
and its symmetry follow; that `<` is transitive does not, and where it is, the
comparison is as well.
-/

namespace Capability

/-- The outcome that fits the operands in the other order. -/
def Comparison.reverse : Comparison → Comparison
  | less => greater
  | equal => equal
  | greater => less
  | unordered => unordered

variable {α : Type} {less equal : α → α → Bool}

/-- Of any two values exactly one of three holds: the first is the smaller one,
they are equal, or the second is the smaller one. -/
def Trichotomous (less equal : α → α → Bool) : Prop :=
  ∀ left right, [less left right, equal left right, less right left].count true = 1

namespace Comparison

/-- A comparison relates any two values, and the other way round if they are exchanged. -/
structure Orders (compare : α → α → Comparison) : Prop where
  ordered : ∀ left right, compare left right ≠ .unordered
  reversed : ∀ left right, compare right left = (compare left right).reverse

/-- An outcome tells which of three relations holds. -/
structure Tells (outcome : Comparison) (isLess isEqual isGreater : Bool) : Prop where
  less : outcome = .less ↔ isLess = true
  equal : outcome = .equal ↔ isEqual = true
  greater : outcome = .greater ↔ isGreater = true

/-! ## From operators to outcomes -/

/-- Two relations that are asked tell about a third if exactly one of the three holds. -/
theorem tells_synthesize {isLess isEqual isGreater : Bool}
    (one : [isLess, isEqual, isGreater].count true = 1) :
    (synthesize isLess isEqual).Tells isLess isEqual isGreater := by
  have onlyOne : ∀ first second third : Bool, [first, second, third].count true = 1 →
      (first = true ∧ second = false ∧ third = false) ∨
        (first = false ∧ second = true ∧ third = false) ∨
        (first = false ∧ second = false ∧ third = true) := by
    decide
  rcases onlyOne _ _ _ one with ⟨rfl, rfl, rfl⟩ | ⟨rfl, rfl, rfl⟩ | ⟨rfl, rfl, rfl⟩ <;>
    constructor <;> decide

/-- The outcome made from the operators of trichotomous values is never `unordered`. -/
theorem synthesize_ne_unordered (trichotomous : Trichotomous less equal) (left right : α) :
    synthesize (less left right) (equal left right) ≠ .unordered := by
  intro unrelated
  rcases (readOff_synthesize _ _).unordered.mp unrelated with ⟨isLess, isEqual⟩
  have one := trichotomous left right
  have atLeast : ∀ third : Bool, [true, true, third].count true ≠ 1 := by decide
  rw [isLess, isEqual] at one
  exact atLeast _ one

theorem orders_of_trichotomous (trichotomous : Trichotomous less equal) :
    Orders fun left right => synthesize (less left right) (equal left right) where
  ordered := synthesize_ne_unordered trichotomous
  reversed left right := by
    have there := tells_synthesize (trichotomous left right)
    have back := tells_synthesize (trichotomous right left)
    cases outcome : synthesize (less left right) (equal left right) with
    | less => exact back.greater.mpr (there.less.mp outcome)
    | greater => exact back.less.mpr (there.greater.mp outcome)
    | unordered => exact absurd outcome (synthesize_ne_unordered trichotomous left right)
    | equal =>
        -- Equality need not be symmetric, but the other two outcomes are those of `<`.
        cases exchanged : synthesize (less right left) (equal right left) with
        | equal => rfl
        | less => cases outcome.symm.trans (there.greater.mpr (back.less.mp exchanged))
        | greater => cases outcome.symm.trans (there.less.mpr (back.greater.mp exchanged))
        | unordered =>
            exact absurd exchanged (synthesize_ne_unordered trichotomous right left)

/-! ## From outcomes to operators -/

/-- The outcome for the operands as they stand decides two of the three relations, and
the outcome for the operands exchanged the third. -/
theorem trichotomous_of_orders
    (orders : Orders fun left right => synthesize (less left right) (equal left right)) :
    Trichotomous less equal := by
  intro left right
  have there := readOff_synthesize (less left right) (equal left right)
  have back := readOff_synthesize (less right left) (equal right left)
  have reversed := orders.reversed left right
  cases outcome : synthesize (less left right) (equal left right) with
  | less =>
      rw [outcome] at reversed
      rw [(there.less.mp outcome).1, (there.less.mp outcome).2, (back.greater.mp reversed).1]
      rfl
  | equal =>
      rw [outcome] at reversed
      rw [(there.equal.mp outcome).1, (there.equal.mp outcome).2, (back.equal.mp reversed).1]
      rfl
  | greater =>
      rw [outcome] at reversed
      rw [(there.greater.mp outcome).1, (there.greater.mp outcome).2, (back.less.mp reversed).1]
      rfl
  | unordered => exact absurd outcome (orders.ordered left right)

theorem orders_iff_trichotomous :
    (Orders fun left right => synthesize (less left right) (equal left right)) ↔
      Trichotomous less equal :=
  ⟨trichotomous_of_orders, orders_of_trichotomous⟩

end Comparison

/-- No value is smaller than itself, since that would hold twice, so each equals itself. -/
theorem Trichotomous.equal_self (trichotomous : Trichotomous less equal) (value : α) :
    equal value value = true := by
  have twice : ∀ first second : Bool, [first, second, first].count true = 1 → second = true := by
    decide
  exact twice _ _ (trichotomous value value)

/-! ## Types with a synthesized comparison -/

namespace Behaviour

variable {behaviour : Behaviour α}

/-- The `<` and the `==` of a type without an order of its own: its `<` is the single
operator, and its `==` is its own equality if it has one.  They are what the table offers. -/
structure Operators (behaviour : Behaviour α) (less equal : α → α → Bool) : Prop where
  lessThan : behaviour.lessThan? = some less
  equality : (behaviour.equality?.map (·.eq)).or behaviour.equal? = some equal
  offersLess : (Table.of behaviour).slot .lt = some less
  offersEqual : (Table.of behaviour).slot .eq = some equal

theorem noPartial_of_synthesized (synthesized : behaviour.predicates.threeWay = .synthesized) :
    behaviour.partialOrder? = none := by
  cases isPartial : behaviour.partialOrder? with
  | none => rfl
  | some order =>
      have native : behaviour.predicates.threeWay = .native := by
        simp only [predicates, Predicates.ofTraits, traits, isPartial, Option.isSome_some, if_true]
      cases synthesized.symm.trans native

/-- Without a partial order there is no total one, as a total order requires a partial. -/
theorem noTotal_of_synthesized (lawful : behaviour.traits.Lawful)
    (synthesized : behaviour.predicates.threeWay = .synthesized) : behaviour.order? = none := by
  cases total : behaviour.order? with
  | none => rfl
  | some order =>
      have hasTotal : behaviour.traits .ord = true := congrArg Option.isSome total
      have hasPartial : behaviour.partialOrder?.isSome = true := lawful.partialOrd_of_ord hasTotal
      rw [noPartial_of_synthesized synthesized] at hasPartial
      cases hasPartial

/-- A type whose comparison is synthesized has both operators, and the slot of its
comparison gives the byte of the outcome made from them. -/
theorem exists_operators (lawful : behaviour.traits.Lawful)
    (synthesized : behaviour.predicates.threeWay = .synthesized) :
    ∃ less equal : α → α → Bool, behaviour.Operators less equal ∧
      (Table.of behaviour).Gives fun left right =>
        .synthesize (less left right) (equal left right) := by
  have noTotal := noTotal_of_synthesized lawful synthesized
  have noPartial := noPartial_of_synthesized synthesized
  have filled : (Table.of behaviour).has .threeWay = true := by
    rw [Table.has_eq_offers lawful]
    exact decide_eq_true (by rw [synthesized]; decide)
  rcases Table.gives_synthesized noTotal noPartial filled with
    ⟨less, equal, slotLess, slotEqual, gives⟩
  rcases Option.isSome_iff_exists.mp (Table.operators_of_has noTotal noPartial filled).1 with
    ⟨single, lessThan⟩
  refine ⟨less, equal, ⟨?_, ?_, slotLess, slotEqual⟩, gives⟩
  · exact lessThan.trans ((Table.slot_lt noPartial lessThan).symm.trans slotLess)
  · refine Eq.trans ?_ slotEqual
    rw [Table.slot_of, Operation.sources, List.findSome?_cons, List.findSome?_cons,
      Source.resolve, Source.resolve]
    cases behaviour.equality? with
    | some equality => rfl
    | none => cases behaviour.equal? <;> rfl

end Behaviour

/--
A type whose comparison is synthesized has a `<` and an `==`, whatever these are, and
its comparison never says `unordered` and turns round with its operands if and only if
they are trichotomous.  In that case every outcome tells which of `<`, `==` and `<` the
other way round holds, each value is equal to itself, and where `<` is transitive, so
are the relations of being compared as less and as greater.
-/
theorem synthesized_orders_iff_trichotomous (behaviour : Behaviour α)
    (lawful : behaviour.traits.Lawful)
    (synthesized : behaviour.predicates.threeWay = .synthesized) :
    ∃ (less equal : α → α → Bool) (compare : α → α → Comparison), behaviour.Operators less equal ∧
      (∀ left right, (Table.of behaviour).compare? left right = some (compare left right)) ∧
      (((∀ left right, compare left right ≠ .unordered) ∧
          ∀ left right, compare right left = (compare left right).reverse) ↔
        Trichotomous less equal) ∧
      (Trichotomous less equal →
        (∀ left right,
          (compare left right = .less ↔ less left right = true) ∧
            (compare left right = .equal ↔ equal left right = true) ∧
            (compare left right = .greater ↔ less right left = true)) ∧
        (∀ value, compare value value = .equal) ∧
        ((∀ x y z, less x y = true → less y z = true → less x z = true) →
          (∀ x y z, compare x y = .less → compare y z = .less → compare x z = .less) ∧
            ∀ x y z, compare x y = .greater → compare y z = .greater →
              compare x z = .greater)) := by
  rcases Behaviour.exists_operators lawful synthesized with ⟨less, equal, operators, gives⟩
  refine ⟨less, equal, fun left right => .synthesize (less left right) (equal left right),
    operators, gives.compare?, ?_, fun trichotomous => ?_⟩
  · rw [← Comparison.orders_iff_trichotomous]
    exact ⟨fun both => ⟨both.1, both.2⟩, fun orders => ⟨orders.ordered, orders.reversed⟩⟩
  · have tells := fun left right => Comparison.tells_synthesize (trichotomous left right)
    refine ⟨fun left right => ⟨(tells left right).less, (tells left right).equal,
      (tells left right).greater⟩, fun value => ?_, fun transitive => ⟨?_, ?_⟩⟩
    · exact (tells value value).equal.mpr (trichotomous.equal_self value)
    · intro x y z first second
      exact (tells x z).less.mpr (transitive x y z ((tells x y).less.mp first)
        ((tells y z).less.mp second))
    · intro x y z first second
      exact (tells x z).greater.mpr (transitive z y x ((tells y z).greater.mp second)
        ((tells x y).greater.mp first))

theorem Catalog.compareInts_trichotomous :
    Trichotomous (fun left right => compareInts left right == .lt)
      fun left right => compareInts left right == .eq := by
  intro left right
  simp only [compareInts]
  rcases Int.lt_trichotomy left right with smaller | rfl | greater
  · rw [Int.compare_eq_lt.mpr smaller, Int.compare_eq_gt.mpr smaller]
    rfl
  · rw [Int.compare_eq_eq.mpr rfl]
    rfl
  · rw [Int.compare_eq_gt.mpr greater, Int.compare_eq_lt.mpr greater]
    rfl

/-- The `<` and the `==` of numbers are trichotomous, so that their comparison is an
order, which says of two whether the other way round the first would be the smaller;
where both operators hold of everything, the comparison is none. -/
theorem synthesized_orders_version_not_broken :
    (Catalog.version.behaviour.traits.Lawful ∧
      Catalog.version.behaviour.predicates.threeWay = .synthesized ∧
      ∀ left right : Int, right < left →
        (Table.of Catalog.version.behaviour).compare? left right = some .greater) ∧
      Catalog.broken.behaviour.traits.Lawful ∧
      Catalog.broken.behaviour.predicates.threeWay = .synthesized ∧
      ¬ ∃ compare, (∀ left right,
        (Table.of Catalog.broken.behaviour).compare? left right = some (compare left right)) ∧
          Comparison.Orders compare := by
  have versionLawful : Catalog.version.behaviour.traits.Lawful := by constructor <;> decide
  have brokenLawful : Catalog.broken.behaviour.traits.Lawful := by constructor <;> decide
  have versionSynthesized : Catalog.version.behaviour.predicates.threeWay = .synthesized := by
    decide
  have brokenSynthesized : Catalog.broken.behaviour.predicates.threeWay = .synthesized := by
    decide
  refine ⟨⟨versionLawful, versionSynthesized, fun left right smaller => ?_⟩, brokenLawful,
    brokenSynthesized, ?_⟩
  · rcases synthesized_orders_iff_trichotomous _ versionLawful versionSynthesized with
      ⟨less, equal, compare, operators, compared, _, tells⟩
    cases operators.lessThan
    cases operators.equality
    have greater := ((tells Catalog.compareInts_trichotomous).1 left right).2.2
    have isGreater := greater.mpr (beq_iff_eq.mpr (Int.compare_eq_lt.mpr smaller))
    exact (compared left right).trans (congrArg some isGreater)
  · rintro ⟨other, otherCompared, orders⟩
    rcases synthesized_orders_iff_trichotomous _ brokenLawful brokenSynthesized with
      ⟨less, equal, compare, operators, compared, equivalent, _⟩
    cases operators.lessThan
    cases operators.equality
    have same : compare = other := by
      funext left right
      exact Option.some.inj ((compared left right).symm.trans (otherCompared left right))
    subst same
    cases equivalent.mp ⟨orders.ordered, orders.reversed⟩ () ()

end Capability

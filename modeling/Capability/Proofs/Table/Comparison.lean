import Capability.Proofs.Table.Agreement

/-!
# The seven comparisons of a table

A table compares two values in seven ways: by six operators and by the three-way
comparison, whose outcome crosses the boundary as a byte.  Each slot is filled on
its own.  The operators have two sources each and the three-way comparison has
four, and nothing in the selection looks at what was chosen for another slot.

That the synthesized comparison nevertheless uses the `<` and the `==` that the
table offers rests on the order of the sources alone.  It is reached only on a
type without any order of its own; there the operator `<` has a single source
left, and of two sources for `==` the same one comes first in both places.

A type may implement its operators as it likes, so that the seven answers need
not agree.  They do agree on a type whose operators are the ones that its partial
comparison induces, provided that a total order, if it has one, does not
contradict it: the three-way comparison asks the total order first.
-/

namespace Capability

/-! ## Outcomes -/

namespace Comparison

theorem toByte_mem (outcome : Comparison) :
    outcome.toByte = -1 ∨ outcome.toByte = 0 ∨ outcome.toByte = 1 ∨ outcome.toByte = 127 := by
  cases outcome <;> decide

@[simp] theorem toOrdering?_ofOrdering (ordering : Ordering) :
    (ofOrdering ordering).toOrdering? = some ordering := by
  cases ordering <;> rfl

/-- A total order relates any two values. -/
theorem ofOrdering_ne_unordered (ordering : Ordering) : ofOrdering ordering ≠ .unordered := by
  cases ordering <;> decide

@[simp] theorem ofOrdering?_eq_unordered_iff (answer : Option Ordering) :
    ofOrdering? answer = .unordered ↔ answer = none := by
  cases answer with
  | none => exact iff_of_true rfl rfl
  | some ordering => exact iff_of_false (ofOrdering_ne_unordered ordering) (Option.some_ne_none _)

/-- An outcome other than `unordered` is that of a partial order exactly if the
partial order answers with the ordering that it stands for. -/
theorem ofOrdering?_eq_ofOrdering_iff (answer : Option Ordering) (ordering : Ordering) :
    ofOrdering? answer = ofOrdering ordering ↔ answer = some ordering := by
  constructor
  · intro same
    have read := congrArg toOrdering? same
    rwa [toOrdering?_ofOrdering?, toOrdering?_ofOrdering] at read
  · rintro rfl
    rfl

@[simp] theorem ofOrdering?_eq_less_iff (answer : Option Ordering) :
    ofOrdering? answer = .less ↔ answer = some .lt :=
  ofOrdering?_eq_ofOrdering_iff answer .lt

@[simp] theorem ofOrdering?_eq_equal_iff (answer : Option Ordering) :
    ofOrdering? answer = .equal ↔ answer = some .eq :=
  ofOrdering?_eq_ofOrdering_iff answer .eq

@[simp] theorem ofOrdering?_eq_greater_iff (answer : Option Ordering) :
    ofOrdering? answer = .greater ↔ answer = some .gt :=
  ofOrdering?_eq_ofOrdering_iff answer .gt

end Comparison

/-- What `<` and `==` answered can be read off the outcome made from them. -/
structure Comparison.ReadOff (outcome : Comparison) (isLess isEqual : Bool) : Prop where
  less : outcome = .less ↔ isLess = true ∧ isEqual = false
  greater : outcome = .greater ↔ isLess = false ∧ isEqual = false
  equal : outcome = .equal ↔ isLess = false ∧ isEqual = true
  unordered : outcome = .unordered ↔ isLess = true ∧ isEqual = true

theorem Comparison.readOff_synthesize (isLess isEqual : Bool) :
    (synthesize isLess isEqual).ReadOff isLess isEqual := by
  cases isLess <;> cases isEqual <;> constructor <;> decide

/-! ## Which source fills a slot -/

namespace Table

variable {α : Type} {behaviour : Behaviour α}

/-- A slot holds the function of a source that is present, if all sources of a
higher priority are absent. -/
theorem slot_of_first_present {operation : Operation} (skipped : List (Source operation))
    (chosen : Source operation) {others : List (Source operation)} {function : operation.Function α}
    (priority : operation.sources = skipped ++ chosen :: others)
    (absent : ∀ source ∈ skipped, source.resolve behaviour = none)
    (present : chosen.resolve behaviour = some function) :
    (of behaviour).slot operation = some function := by
  rw [slot_of, priority, List.findSome?_append, List.findSome?_eq_none_iff.mpr absent,
    Option.none_or, List.findSome?_cons, present]

/-- A slot is filled by the source of the highest priority if that one is present. -/
theorem slot_of_preferred {operation : Operation} {preferred : Source operation}
    {others : List (Source operation)} (priority : operation.sources = preferred :: others)
    {function : operation.Function α} (present : preferred.resolve behaviour = some function) :
    (of behaviour).slot operation = some function := by
  exact slot_of_first_present [] preferred priority (List.forall_mem_nil _) present

/-- The slot of the three-way comparison gives the byte of a certain outcome. -/
def Gives (table : Table α) (outcome : α → α → Comparison) : Prop :=
  table.slot .threeWay = some fun left right => (outcome left right).toByte

theorem Gives.threeWay? {table : Table α} {outcome : α → α → Comparison}
    (gives : table.Gives outcome) (left right : α) :
    table.threeWay? left right = some (outcome left right).toByte := by
  rw [Table.threeWay?, gives]
  rfl

theorem Gives.compare? {table : Table α} {outcome : α → α → Comparison}
    (gives : table.Gives outcome) (left right : α) :
    table.compare? left right = some (outcome left right) := by
  rw [Table.compare?, gives.threeWay?, Option.map_some, Comparison.ofByte_toByte]

theorem gives_of_order {order : α → α → Ordering} (total : behaviour.order? = some order) :
    (of behaviour).Gives fun left right => .ofOrdering (order left right) := by
  apply slot_of_preferred rfl
  rw [Source.resolve, total]
  rfl

theorem resolve_strong (noTotal : behaviour.order? = none) :
    Source.strong.resolve behaviour = none := by
  rw [Source.resolve, noTotal]
  rfl

theorem gives_of_partialOrder {order : PartialOrder α} (noTotal : behaviour.order? = none)
    (isPartial : behaviour.partialOrder? = some order) :
    (of behaviour).Gives fun left right => .ofOrdering? (order.compare left right) := by
  apply slot_of_first_present [.strong] .partialOrder rfl
  · exact List.forall_mem_singleton.mpr (resolve_strong noTotal)
  · rw [Source.resolve, isPartial]
    rfl

/-! ### Without an order of the type's own -/

section Unordered

variable (noTotal : behaviour.order? = none) (noPartial : behaviour.partialOrder? = none)

include noPartial in
/-- Without an order of its own a type offers the single operator `<`. -/
theorem slot_lt {less : α → α → Bool} (lessThan : behaviour.lessThan? = some less) :
    (of behaviour).slot .lt = some less := by
  have absent : Source.ownLt.resolve behaviour = none := by
    rw [Source.resolve, noPartial]
    rfl
  exact slot_of_first_present [.ownLt] .singleLt rfl (List.forall_mem_singleton.mpr absent)
    lessThan

include noTotal noPartial in
/-- The sources of the three-way comparison that use an order are absent. -/
theorem resolve_ordered :
    ∀ source ∈ [Source.strong, .partialOrder], source.resolve behaviour = none := by
  have absent : Source.partialOrder.resolve behaviour = none := by
    rw [Source.resolve, noPartial]
    rfl
  exact List.forall_mem_cons.mpr ⟨resolve_strong noTotal, List.forall_mem_singleton.mpr absent⟩

include noTotal noPartial in
/-- Without an order of its own a type has a three-way comparison only if it has
the single operator `<` and some `==`. -/
theorem operators_of_has (filled : (of behaviour).has .threeWay = true) :
    behaviour.lessThan?.isSome = true ∧
      (behaviour.equality?.isSome = true ∨ behaviour.equal?.isSome = true) := by
  rw [has_of] at filled
  simpa [Operation.isSourced, Operation.sources, Source.bounds, Behaviour.traits, noTotal,
    noPartial, ← and_or_left] using filled

include noTotal noPartial in
/-- The synthesized byte is made from the answers of the slots of `<` and `==`,
whichever `==` it is. -/
theorem gives_synthesized (filled : (of behaviour).has .threeWay = true) :
    ∃ less equal, (of behaviour).slot .lt = some less ∧ (of behaviour).slot .eq = some equal ∧
      (of behaviour).Gives fun left right => .synthesize (less left right) (equal left right) := by
  rcases operators_of_has noTotal noPartial filled with ⟨hasLess, hasEqual⟩
  rcases Option.isSome_iff_exists.mp hasLess with ⟨less, lessThan⟩
  have slotLess := slot_lt noPartial lessThan
  cases own : behaviour.equality? with
  | some equality =>
      refine ⟨less, equality.eq, slotLess, ?_, ?_⟩
      · apply slot_of_preferred rfl
        rw [Source.resolve, own]
        rfl
      · apply slot_of_first_present [.strong, .partialOrder] .synthesizedOwn rfl
          (resolve_ordered noTotal noPartial)
        rw [Source.resolve, lessThan, own]
  | none =>
      have present : behaviour.equal?.isSome = true := by simpa [own] using hasEqual
      rcases Option.isSome_iff_exists.mp present with ⟨equal, single⟩
      refine ⟨less, equal, slotLess, ?_, ?_⟩
      · have absent : Source.ownEq.resolve behaviour = none := by
          rw [Source.resolve, own]
          rfl
        exact slot_of_first_present [.ownEq] .singleEq rfl (List.forall_mem_singleton.mpr absent)
          single
      · have absent : Source.synthesizedOwn.resolve behaviour = none := by
          rw [Source.resolve, lessThan, own]
        apply slot_of_first_present ([.strong, .partialOrder] ++ [.synthesizedOwn])
          .synthesizedSingle rfl
        · exact List.forall_mem_append.mpr
            ⟨resolve_ordered noTotal noPartial, List.forall_mem_singleton.mpr absent⟩
        · rw [Source.resolve, lessThan, single]

end Unordered

end Table

/-! ## Types whose comparisons are one -/

/-- The six operators are the ones that the partial comparison induces. -/
structure PartialOrder.Induces {α : Type} (order : PartialOrder α) (equality : Equality α) :
    Prop where
  eq : ∀ left right, equality.eq left right = decide (order.compare left right = some .eq)
  ne : ∀ left right, equality.ne left right = decide (order.compare left right ≠ some .eq)
  lt : ∀ left right, order.lt left right = decide (order.compare left right = some .lt)
  le : ∀ left right, order.le left right =
    decide (order.compare left right = some .lt ∨ order.compare left right = some .eq)
  gt : ∀ left right, order.gt left right = decide (order.compare left right = some .gt)
  ge : ∀ left right, order.ge left right =
    decide (order.compare left right = some .gt ∨ order.compare left right = some .eq)

/-- A type has an equality and a partial order that induces its operators, and a
total order, if there is one, agrees with it. -/
structure Behaviour.Coherent {α : Type} (behaviour : Behaviour α) (equality : Equality α)
    (order : PartialOrder α) : Prop where
  equality? : behaviour.equality? = some equality
  partialOrder? : behaviour.partialOrder? = some order
  induces : order.Induces equality
  total : ∀ strong, behaviour.order? = some strong →
    ∀ left right, order.compare left right = some (strong left right)

/-- All seven slots that compare are filled, and on two values they answer what a
certain outcome says. -/
structure Table.Agrees {α : Type} (table : Table α) (left right : α) (outcome : Comparison) :
    Prop where
  compare : table.compare? left right = some outcome
  less : table.less? left right = some (decide (outcome = .less))
  greater : table.greater? left right = some (decide (outcome = .greater))
  equal : table.equal? left right = some (decide (outcome = .equal))
  lessEqual : table.lessEqual? left right = some (decide (outcome = .less ∨ outcome = .equal))
  greaterEqual : table.greaterEqual? left right =
    some (decide (outcome = .greater ∨ outcome = .equal))
  notEqual : table.notEqual? left right = some (decide (outcome ≠ .equal))

namespace Behaviour.Coherent

variable {α : Type} {behaviour : Behaviour α} {equality : Equality α} {order : PartialOrder α}

/-- Whether or not the type has a total order, its three-way comparison gives what
its partial order answers. -/
theorem gives (coherent : behaviour.Coherent equality order) :
    (Table.of behaviour).Gives fun left right => .ofOrdering? (order.compare left right) := by
  cases total : behaviour.order? with
  | none => exact Table.gives_of_partialOrder total coherent.partialOrder?
  | some strong =>
      have same : ∀ left right,
          Comparison.ofOrdering? (order.compare left right) = .ofOrdering (strong left right) := by
        intro left right
        rw [coherent.total strong total]
        rfl
      simp only [same]
      exact Table.gives_of_order total

/-- The type's own equality fills the slots that ask for it first. -/
theorem slot_of_equality (coherent : behaviour.Coherent equality order) {operation : Operation}
    (preferred : Source operation) {others : List (Source operation)}
    {select : Equality α → operation.Function α} (priority : operation.sources = preferred :: others)
    (selects : preferred.resolve behaviour = behaviour.equality?.map select) :
    (Table.of behaviour).slot operation = some (select equality) := by
  apply Table.slot_of_preferred priority
  rw [selects, coherent.equality?, Option.map_some]

/-- The type's own order fills the slots that ask for it first. -/
theorem slot_of_partialOrder (coherent : behaviour.Coherent equality order) {operation : Operation}
    (preferred : Source operation) {others : List (Source operation)}
    {select : PartialOrder α → operation.Function α}
    (priority : operation.sources = preferred :: others)
    (selects : preferred.resolve behaviour = behaviour.partialOrder?.map select) :
    (Table.of behaviour).slot operation = some (select order) := by
  apply Table.slot_of_preferred priority
  rw [selects, coherent.partialOrder?, Option.map_some]

theorem agrees (coherent : behaviour.Coherent equality order) (left right : α) :
    (Table.of behaviour).Agrees left right (.ofOrdering? (order.compare left right)) where
  compare := coherent.gives.compare? left right
  less := by
    have slot := coherent.slot_of_partialOrder .ownLt rfl rfl
    rw [Table.less?, slot]
    change some (order.lt left right) = _
    simp [coherent.induces.lt]
  greater := by
    have slot := coherent.slot_of_partialOrder .ownGt rfl rfl
    rw [Table.greater?, slot]
    change some (order.gt left right) = _
    simp [coherent.induces.gt]
  equal := by
    have slot := coherent.slot_of_equality .ownEq rfl rfl
    rw [Table.equal?, slot]
    change some (equality.eq left right) = _
    simp [coherent.induces.eq]
  lessEqual := by
    have slot := coherent.slot_of_partialOrder .ownLe rfl rfl
    rw [Table.lessEqual?, slot]
    change some (order.le left right) = _
    simp [coherent.induces.le]
  greaterEqual := by
    have slot := coherent.slot_of_partialOrder .ownGe rfl rfl
    rw [Table.greaterEqual?, slot]
    change some (order.ge left right) = _
    simp [coherent.induces.ge]
  notEqual := by
    have slot := coherent.slot_of_equality .ownNe rfl rfl
    rw [Table.notEqual?, slot]
    change some (equality.ne left right) = _
    simp [coherent.induces.ne]

end Behaviour.Coherent

/-! ## The comparison and its sources -/

/-- An outcome on two values is what the first source of the three-way comparison
that the type has decides. -/
structure Behaviour.Decides {α : Type} (behaviour : Behaviour α) (left right : α)
    (outcome : Comparison) : Prop where
  /-- A total order answers, and never that the values are unrelated. -/
  ofTotal : ∀ order, behaviour.order? = some order →
    outcome.toOrdering? = some (order left right) ∧ outcome ≠ .unordered
  /-- Without one a partial order answers, and the values are unrelated exactly if
  it has no answer. -/
  ofPartial : behaviour.order? = none → ∀ order, behaviour.partialOrder? = some order →
    outcome.toOrdering? = order.compare left right ∧
      (outcome = .unordered ↔ order.compare left right = none)
  /-- Without either the outcome is read off the answers of the slots of `<` and `==`. -/
  ofOperators : behaviour.order? = none → behaviour.partialOrder? = none →
    behaviour.predicates.threeWay = .synthesized ∧
      ∃ isLess isEqual, (Table.of behaviour).less? left right = some isLess ∧
        (Table.of behaviour).equal? left right = some isEqual ∧ outcome.ReadOff isLess isEqual

namespace Behaviour

variable {α : Type} {behaviour : Behaviour α}

theorem decides_of_order {order : α → α → Ordering} (total : behaviour.order? = some order)
    (left right : α) : behaviour.Decides left right (.ofOrdering (order left right)) where
  ofTotal other isOther := by
    cases total.symm.trans isOther
    exact ⟨Comparison.toOrdering?_ofOrdering _, Comparison.ofOrdering_ne_unordered _⟩
  ofPartial noTotal := by
    cases total.symm.trans noTotal
  ofOperators noTotal := by
    cases total.symm.trans noTotal

theorem decides_of_partialOrder {order : PartialOrder α} (noTotal : behaviour.order? = none)
    (isPartial : behaviour.partialOrder? = some order) (left right : α) :
    behaviour.Decides left right (.ofOrdering? (order.compare left right)) where
  ofTotal other isOther := by
    cases noTotal.symm.trans isOther
  ofPartial _ other isOther := by
    cases isPartial.symm.trans isOther
    exact ⟨Comparison.toOrdering?_ofOrdering? _, Comparison.ofOrdering?_eq_unordered_iff _⟩
  ofOperators _ noPartial := by
    cases isPartial.symm.trans noPartial

/-- A type without an order of its own that has a three-way comparison is said to
have a synthesized one. -/
theorem predicates_threeWay (noTotal : behaviour.order? = none)
    (noPartial : behaviour.partialOrder? = none) (filled : (Table.of behaviour).has .threeWay = true) :
    behaviour.predicates.threeWay = .synthesized := by
  rcases Table.operators_of_has noTotal noPartial filled with ⟨hasLess, hasEqual⟩
  have some_eq : (behaviour.equality?.isSome || behaviour.equal?.isSome) = true := by
    rw [Bool.or_eq_true]
    exact hasEqual
  simp only [predicates, Predicates.ofTraits, traits, noPartial, hasLess, some_eq,
    Option.isSome_none, Bool.false_eq_true, if_false, Bool.or_true, Bool.and_self, if_true]

theorem decides_of_operators (noTotal : behaviour.order? = none)
    (noPartial : behaviour.partialOrder? = none) (filled : (Table.of behaviour).has .threeWay = true)
    {less equal : α → α → Bool} (slotLess : (Table.of behaviour).slot .lt = some less)
    (slotEqual : (Table.of behaviour).slot .eq = some equal) (left right : α) :
    behaviour.Decides left right (.synthesize (less left right) (equal left right)) where
  ofTotal order isTotal := by
    cases noTotal.symm.trans isTotal
  ofPartial _ order isPartial := by
    cases noPartial.symm.trans isPartial
  ofOperators _ _ := by
    refine ⟨predicates_threeWay noTotal noPartial filled, less left right, equal left right, ?_, ?_,
      Comparison.readOff_synthesize _ _⟩
    · rw [Table.less?, slotLess]
      rfl
    · rw [Table.equal?, slotEqual]
      rfl

/-- A three-way comparison that is offered gives the byte of the outcome that its
sources decide. -/
theorem exists_gives (filled : (Table.of behaviour).has .threeWay = true) :
    ∃ outcome, (Table.of behaviour).Gives outcome ∧
      ∀ left right, behaviour.Decides left right (outcome left right) := by
  cases total : behaviour.order? with
  | some order => exact ⟨_, Table.gives_of_order total, decides_of_order total⟩
  | none =>
      cases isPartial : behaviour.partialOrder? with
      | some order =>
          exact ⟨_, Table.gives_of_partialOrder total isPartial,
            decides_of_partialOrder total isPartial⟩
      | none =>
          rcases Table.gives_synthesized total isPartial filled with
            ⟨less, equal, slotLess, slotEqual, gives⟩
          exact ⟨_, gives, decides_of_operators total isPartial filled slotLess slotEqual⟩

end Behaviour

/-- On a type that has one, the three-way comparison agrees with the other ways of
comparing, whatever these answer.  Its byte is one of four and is read back as the
outcome that the sources of the comparison decide.  And on a coherent type that is
the outcome of the partial order, and the answers of all seven slots are the ones
that it says. -/
theorem threeWay_agrees_with_sources {α : Type} (behaviour : Behaviour α)
    (filled : (Table.of behaviour).has .threeWay = true) (left right : α) :
    ∃ byte outcome, (Table.of behaviour).threeWay? left right = some byte ∧
      (byte = -1 ∨ byte = 0 ∨ byte = 1 ∨ byte = 127) ∧
      (Table.of behaviour).compare? left right = some outcome ∧ outcome = .ofByte byte ∧
      behaviour.Decides left right outcome ∧
      ∀ equality order, behaviour.Coherent equality order →
        outcome = .ofOrdering? (order.compare left right) ∧
          (Table.of behaviour).Agrees left right outcome := by
  rcases Behaviour.exists_gives filled with ⟨outcome, gives, decides⟩
  refine ⟨(outcome left right).toByte, outcome left right, gives.threeWay? left right,
    Comparison.toByte_mem _, gives.compare? left right, (Comparison.ofByte_toByte _).symm,
    decides left right, ?_⟩
  intro equality order coherent
  have agrees := coherent.agrees left right
  have same := Option.some.inj ((gives.compare? left right).symm.trans agrees.compare)
  exact ⟨same, same ▸ agrees⟩

/-- Operators that are not written for themselves are the induced ones. -/
theorem PartialOrder.induces_ofCompare {α : Type} (compare : α → α → Option Ordering) :
    Induces { compare := compare } (.ofCompare compare) := by
  have isLE : ∀ answer : Option Ordering,
      answer.any Ordering.isLE = decide (answer = some .lt ∨ answer = some .eq) := by
    rintro (_ | _ | _ | _) <;> rfl
  have isGE : ∀ answer : Option Ordering,
      answer.any Ordering.isGE = decide (answer = some .gt ∨ answer = some .eq) := by
    rintro (_ | _ | _ | _) <;> rfl
  constructor <;> intro left right
  case eq | lt | gt => exact Bool.beq_eq_decide_eq _ _
  case ne => exact (congrArg Bool.not (Bool.beq_eq_decide_eq _ _)).trans decide_not.symm
  case le => exact isLE _
  case ge => exact isGE _

theorem Catalog.celsius_coherent :
    Catalog.celsius.behaviour.Coherent (.ofCompare Floating.Format.double.compare?)
      { compare := Floating.Format.double.compare? } :=
  ⟨rfl, rfl, PartialOrder.induces_ofCompare _, by rintro strong ⟨⟩⟩

/-- The double that is no number is unrelated to one in all seven ways; and a type
whose own `==` contradicts its single one compares by the `==` of its table. -/
theorem threeWay_agrees_notANumber_halfStd :
    ((Table.of Catalog.celsius.behaviour).has .threeWay = true ∧
      (Table.of Catalog.celsius.behaviour).Agrees (0x7ff8000000000000 : Nat)
        (0x3ff0000000000000 : Nat) .unordered) ∧
      (Table.of Catalog.halfStd.behaviour).has .threeWay = true ∧
        (Table.of Catalog.halfStd.behaviour).equal? (2 : Int) (2 : Int) = some true ∧
          (Table.of Catalog.halfStd.behaviour).compare? (2 : Int) (2 : Int) = some .equal := by
  have celsius : (Table.of Catalog.celsius.behaviour).has .threeWay = true := by decide
  have halfStd : (Table.of Catalog.halfStd.behaviour).has .threeWay = true := by decide
  constructor
  · rcases threeWay_agrees_with_sources _ celsius (0x7ff8000000000000 : Nat)
      (0x3ff0000000000000 : Nat) with ⟨_, outcome, _, _, _, _, _, coherence⟩
    rcases coherence _ _ Catalog.celsius_coherent with ⟨unrelated, agrees⟩
    rw [unrelated] at agrees
    exact ⟨celsius, agrees⟩
  · rcases threeWay_agrees_with_sources _ halfStd (2 : Int) (2 : Int) with
      ⟨_, outcome, _, _, compared, _, decides, _⟩
    rcases (decides.ofOperators rfl rfl).2 with ⟨isLess, isEqual, less, equal, read⟩
    have notLess : isLess = false := Option.some.inj (less.symm.trans (by decide))
    have isSame : isEqual = true := Option.some.inj (equal.symm.trans (by decide))
    exact ⟨halfStd, isSame ▸ equal, read.equal.mpr ⟨notLess, isSame⟩ ▸ compared⟩

end Capability

import Capability.Proofs.Table.Comparison

/-!
# Which traits are hidden by others

An operation takes the first of its sources that is present, and what stands
behind that source plays no part.  So two types on which the sources up to the
first present one are the same have the same slot, however much they differ in
the traits behind it.

A type's own equality and order come before the traits of single operators, in
the sources of every operator and of the three-way comparison, and in the
predicates, which look for either.  A type with an order of its own therefore
cannot be told from one with other single operators or with none: these are
hidden entirely.  With an equality alone only what rests on the equality is
settled, which includes the comparison made from a given `<`.
-/

namespace Capability

/-! ## Types that differ in single operators -/

/-- Whether a trait is that of a single operator. -/
def Trait.isSingle : Trait → Bool
  | equal | notEqual | lessThan | lessEqual | greaterThan | greaterEqual => true
  | _ => false

/-- Whether a source reads a trait of a single operator. -/
def Source.readsSingle {operation : Operation} : Source operation → Bool
  | singleEq | singleNe | singleLt | singleLe | singleGt | singleGe => true
  | synthesizedOwn | synthesizedSingle => true
  | _ => false

namespace Behaviour

variable {α : Type} {left right : Behaviour α}

/-- The type without its traits of single operators. -/
def withoutSingle (behaviour : Behaviour α) : Behaviour α :=
  { behaviour with
    equal? := none
    notEqual? := none
    lessThan? := none
    lessEqual? := none
    greaterThan? := none
    greaterEqual? := none }

/-- Two types differ at most in the single operators that they implement, and how. -/
def SameBesidesSingle (left right : Behaviour α) : Prop :=
  left.withoutSingle = right.withoutSingle

namespace SameBesidesSingle

/-- What is read off a type without its single operators is the same on both. -/
theorem general {β : Type} (same : left.SameBesidesSingle right) (read : Behaviour α → β) :
    read left.withoutSingle = read right.withoutSingle :=
  congrArg read same

theorem traits (same : left.SameBesidesSingle right) {candidate : Trait}
    (general : candidate.isSingle = false) : left.traits candidate = right.traits candidate := by
  have kept : ∀ behaviour : Behaviour α,
      behaviour.withoutSingle.traits candidate = behaviour.traits candidate := by
    intro behaviour
    cases candidate <;> first | rfl | cases general
  rw [← kept left, same, kept right]

/-- A source that reads no single operator holds the same function on both types. -/
theorem resolve (same : left.SameBesidesSingle right) {operation : Operation}
    {source : Source operation} (general : source.readsSingle = false) :
    source.resolve left = source.resolve right := by
  have kept : ∀ behaviour : Behaviour α,
      source.resolve behaviour.withoutSingle = source.resolve behaviour := by
    intro behaviour
    cases source <;> first | rfl | cases general
  rw [← kept left, same, kept right]

end SameBesidesSingle
end Behaviour

/-! ## Sources that are hidden -/

/-- A search gives the same on both types if they are the same on each source. -/
theorem findSome?_resolve_congr {α : Type} {left right : Behaviour α} {operation : Operation}
    {sources : List (Source operation)}
    (same : ∀ source ∈ sources, source.resolve left = source.resolve right) :
    sources.findSome? (Source.resolve left) = sources.findSome? (Source.resolve right) := by
  induction sources with
  | nil => rfl
  | cons first rest inductionHypothesis =>
      rcases List.forall_mem_cons.mp same with ⟨here, later⟩
      rw [List.findSome?_cons, List.findSome?_cons, here, inductionHypothesis later]

namespace Table

variable {α : Type} {left right : Behaviour α}

/-- A slot whose sources are all the same is the same. -/
theorem slot_of_same {operation : Operation}
    (same : ∀ source ∈ operation.sources, source.resolve left = source.resolve right) :
    (of left).slot operation = (of right).slot operation := by
  rw [slot_of, slot_of]
  exact findSome?_resolve_congr same

/-- A slot depends on the sources up to the first present one alone. -/
theorem slot_of_same_up_to {operation : Operation} (skipped : List (Source operation))
    (chosen : Source operation) {hidden : List (Source operation)}
    (priority : operation.sources = skipped ++ chosen :: hidden)
    (same : ∀ source ∈ skipped ++ [chosen], source.resolve left = source.resolve right)
    (present : chosen.bounds.all left.traits = true) :
    (of left).slot operation = (of right).slot operation := by
  rcases List.forall_mem_append.mp same with ⟨before, here⟩
  rw [← Source.isSome_resolve] at present
  rcases Option.isSome_iff_exists.mp present with ⟨function, holds⟩
  rw [slot_of, slot_of, priority, List.findSome?_append, List.findSome?_append,
    findSome?_resolve_congr before, List.findSome?_cons, List.findSome?_cons,
    ← List.forall_mem_singleton.mp here, holds]

theorem of_eq_of_slot (size : left.size = right.size) (align : left.align = right.align)
    (slot : ∀ operation, (of left).slot operation = (of right).slot operation) :
    of left = of right := by
  have slots : (of left).slot = (of right).slot := funext slot
  calc
    of left = ⟨left.size, left.align, (of left).slot⟩ := rfl
    _ = ⟨right.size, right.align, (of right).slot⟩ := by rw [size, align, slots]
    _ = of right := rfl

end Table

/-! ## What single operators cannot change -/

namespace Behaviour.SameBesidesSingle

variable {α : Type} {left right : Behaviour α}

/-- An operation whose first source is general and present has the same slot on both. -/
theorem slot_of_preferred (same : left.SameBesidesSingle right) {operation : Operation}
    (preferred : Source operation) {hidden : List (Source operation)}
    (priority : operation.sources = preferred :: hidden)
    (general : preferred.readsSingle = false)
    (present : preferred.bounds.all left.traits = true) :
    (Table.of left).slot operation = (Table.of right).slot operation :=
  Table.slot_of_same_up_to [] preferred priority
    (List.forall_mem_singleton.mpr (same.resolve general)) present

/-- An operation without a source that reads a single operator has the same slot on both. -/
theorem slot_of_general (same : left.SameBesidesSingle right) {operation : Operation}
    (general : ∀ source ∈ operation.sources, source.readsSingle = false) :
    (Table.of left).slot operation = (Table.of right).slot operation :=
  Table.slot_of_same fun source member => same.resolve (general source member)

/-- The three-way comparison is the same if its sources up to a present one are general, or
made from `==` of the type's own and from the same `<`. -/
theorem slot_threeWay_of_less (same : left.SameBesidesSingle right)
    (own : left.traits .partialEq = true) {less : α → α → Bool}
    (lessLeft : left.lessThan? = some less) (lessRight : right.lessThan? = some less) :
    (Table.of left).slot .threeWay = (Table.of right).slot .threeWay := by
  have equality : left.equality? = right.equality? :=
    same.general (·.equality?)
  have synthesized :
      Source.synthesizedOwn.resolve left = Source.synthesizedOwn.resolve right := by
    rw [Source.resolve, Source.resolve, lessLeft, lessRight, equality]
  apply Table.slot_of_same_up_to [.strong, .partialOrder] .synthesizedOwn rfl
  · exact List.forall_mem_append.mpr ⟨List.forall_mem_cons.mpr ⟨same.resolve rfl,
      List.forall_mem_singleton.mpr (same.resolve rfl)⟩,
      List.forall_mem_singleton.mpr synthesized⟩
  · have hasLess : left.traits .lessThan = true :=
      Option.isSome_iff_exists.mpr ⟨less, lessLeft⟩
    simp only [Source.bounds, List.all_cons, List.all_nil, hasLess, own, Bool.and_self]

/-- With an order of the type's own every slot is the same. -/
theorem slot_of_partialOrd (same : left.SameBesidesSingle right)
    (equality : left.traits .partialEq = true) (order : left.traits .partialOrd = true)
    (operation : Operation) :
    (Table.of left).slot operation = (Table.of right).slot operation := by
  have ofEquality : [Trait.partialEq].all left.traits = true := by
    simp only [List.all_cons, List.all_nil, equality, Bool.and_self]
  have ofOrder : [Trait.partialOrd].all left.traits = true := by
    simp only [List.all_cons, List.all_nil, order, Bool.and_self]
  cases operation
  case eq => exact same.slot_of_preferred .ownEq rfl rfl ofEquality
  case ne => exact same.slot_of_preferred .ownNe rfl rfl ofEquality
  case lt => exact same.slot_of_preferred .ownLt rfl rfl ofOrder
  case le => exact same.slot_of_preferred .ownLe rfl rfl ofOrder
  case gt => exact same.slot_of_preferred .ownGt rfl rfl ofOrder
  case ge => exact same.slot_of_preferred .ownGe rfl rfl ofOrder
  case threeWay =>
    apply Table.slot_of_same_up_to [.strong] .partialOrder rfl _ ofOrder
    exact List.forall_mem_cons.mpr ⟨same.resolve rfl,
      List.forall_mem_singleton.mpr (same.resolve rfl)⟩
  case defaultNew | copyNew | moveNew | destruct | hash | debug | display =>
    exact same.slot_of_general (by decide)

theorem table_eq (same : left.SameBesidesSingle right)
    (equality : left.traits .partialEq = true) (order : left.traits .partialOrd = true) :
    Table.of left = Table.of right := by
  apply Table.of_eq_of_slot
  · exact same.general (·.size)
  · exact same.general (·.align)
  · exact same.slot_of_partialOrd equality order

/-- What an equality of the type's own settles in the predicates. -/
theorem hasEq_eq (same : left.SameBesidesSingle right) (own : left.traits .partialEq = true) :
    left.predicates.hasEq = right.predicates.hasEq ∧
      left.predicates.hasNe = right.predicates.hasNe := by
  have other : right.traits .partialEq = true := (same.traits rfl).symm.trans own
  constructor <;> simp only [predicates, Predicates.ofTraits, own, other, Bool.true_or]

theorem predicates_eq (same : left.SameBesidesSingle right)
    (equality : left.traits .partialEq = true) (order : left.traits .partialOrd = true) :
    left.predicates = right.predicates := by
  have otherEquality : right.traits .partialEq = true := (same.traits rfl).symm.trans equality
  have otherOrder : right.traits .partialOrd = true := (same.traits rfl).symm.trans order
  have drop : left.needsDrop = right.needsDrop := same.general (·.needsDrop)
  have general : ∀ candidate : Trait, candidate.isSingle = false →
      left.traits candidate = right.traits candidate := fun _ => same.traits
  simp only [predicates, Predicates.ofTraits, equality, otherEquality, order, otherOrder, drop,
    Bool.true_or, if_true, general .default rfl, general .clone rfl, general .copy rfl,
    general .unpin rfl, general .send rfl, general .sync rfl, general .eq rfl, general .ord rfl,
    general .hash rfl, general .debug rfl, general .display rfl, general .stringCast rfl,
    general .stringView rfl]

end Behaviour.SameBesidesSingle

/-! ## What other traits hide -/

namespace Table

variable {α : Type} {behaviour : Behaviour α}

theorem slot_display_of_own (own : [Trait.display].all behaviour.traits = true)
    (cast : Option (α → String)) (view : Option (α → List UInt8)) :
    (of { behaviour with stringCast? := cast, stringView? := view }).slot .display =
      (of behaviour).slot .display :=
  slot_of_same_up_to [] .toString rfl (List.forall_mem_singleton.mpr rfl) own

theorem slot_display_of_cast (own : [Trait.stringCast].all behaviour.traits = true)
    (view : Option (α → List UInt8)) :
    (of { behaviour with stringView? := view }).slot .display = (of behaviour).slot .display :=
  slot_of_same_up_to [.toString] .stringCast rfl
    (List.forall_mem_cons.mpr ⟨rfl, List.forall_mem_singleton.mpr rfl⟩) own

theorem slot_threeWay_of_total (own : [Trait.ord].all behaviour.traits = true)
    (order : Option (PartialOrder α)) :
    (of { behaviour with partialOrder? := order }).slot .threeWay =
      (of behaviour).slot .threeWay :=
  slot_of_same_up_to [] .strong rfl (List.forall_mem_singleton.mpr rfl) own

end Table

/-! ## The order of precedence -/

/-- The general traits of a type come before its single operators and hide them.  Two types
that differ in single operators alone cannot be told apart if they have an order of their
own, and agree in all that rests on their equality if they have one.  In the same way the
display text of the type's own hides its other texts, and its total order hides the partial. -/
theorem own_traits_take_precedence {α : Type} (left right : Behaviour α)
    (lawful : left.traits.Lawful) (same : left.SameBesidesSingle right) :
    (left.traits .partialOrd = true →
        left.predicates = right.predicates ∧
          Profile.derive left.predicates = Profile.derive right.predicates ∧
          Table.of left = Table.of right) ∧
      (left.traits .partialEq = true →
        left.predicates.hasEq = right.predicates.hasEq ∧
          left.predicates.hasNe = right.predicates.hasNe ∧
          (Table.of left).equal? = (Table.of right).equal? ∧
          (Table.of left).notEqual? = (Table.of right).notEqual? ∧
          ∀ less, left.lessThan? = some less → right.lessThan? = some less →
            (Table.of left).compare? = (Table.of right).compare?) ∧
      (left.traits .display = true → ∀ cast view,
        (Table.of { left with stringCast? := cast, stringView? := view }).display? =
          (Table.of left).display?) ∧
      (left.traits .stringCast = true → ∀ view,
        (Table.of { left with stringView? := view }).display? = (Table.of left).display?) ∧
      (left.traits .ord = true → ∀ order,
        (Table.of { left with partialOrder? := order }).compare? = (Table.of left).compare?) := by
  have present : ∀ {candidate : Trait}, left.traits candidate = true →
      [candidate].all left.traits = true := by
    intro candidate holds
    simp only [List.all_cons, List.all_nil, holds, Bool.and_self]
  refine ⟨fun order => ?_, fun equality => ?_, fun own cast view => ?_, fun own view => ?_,
    fun own order => ?_⟩
  · have equality := lawful.partialEq_of_partialOrd order
    have predicates := same.predicates_eq equality order
    exact ⟨predicates, congrArg Profile.derive predicates, same.table_eq equality order⟩
  · rcases same.hasEq_eq equality with ⟨hasEq, hasNe⟩
    refine ⟨hasEq, hasNe, ?_, ?_, fun less lessLeft lessRight => ?_⟩
    · funext first second
      rw [Table.equal?, same.slot_of_preferred .ownEq rfl rfl (present equality), Table.equal?]
    · funext first second
      rw [Table.notEqual?, same.slot_of_preferred .ownNe rfl rfl (present equality),
        Table.notEqual?]
    · funext first second
      rw [Table.compare?, Table.threeWay?,
        same.slot_threeWay_of_less equality lessLeft lessRight, Table.compare?, Table.threeWay?]
  · funext value
    rw [Table.display?, Table.slot_display_of_own (present own), Table.display?]
  · funext value
    rw [Table.display?, Table.slot_display_of_cast (present own), Table.display?]
  · funext first second
    rw [Table.compare?, Table.threeWay?, Table.slot_threeWay_of_total (present own),
      Table.compare?, Table.threeWay?]

/-- A type with an order of its own whose single operators all answer the opposite has the
table of the same type without them. -/
theorem own_traits_take_precedence_both :
    Catalog.both.behaviour.traits.Lawful ∧
      Catalog.both.behaviour.traits .lessThan = true ∧
      Catalog.both.behaviour.withoutSingle.traits .lessThan = false ∧
      (Source.singleLt.resolve Catalog.both.behaviour).map (fun less => less (1 : Int) (2 : Int)) =
        some false ∧
      (Table.of Catalog.both.behaviour).less? (1 : Int) (2 : Int) = some true ∧
      Table.of Catalog.both.behaviour = Table.of Catalog.both.behaviour.withoutSingle := by
  have lawful : Catalog.both.behaviour.traits.Lawful := by
    constructor <;> decide
  rcases own_traits_take_precedence _ Catalog.both.behaviour.withoutSingle lawful rfl with
    ⟨order, _⟩
  exact ⟨lawful, by decide, by decide, by decide, by decide, (order (by decide)).2.2⟩

end Capability

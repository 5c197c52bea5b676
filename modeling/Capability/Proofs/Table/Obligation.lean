import Capability.Proofs.Table.Agreement

/-!
# Obligations promise nothing that the table lacks

The obligations of a binding are derived from predicates by a policy that never
looks at a table.  A generator that acts on them calls through the table.  Hence
each obligation to offer an operation has to mean that the slot is filled, and
the stronger ones have to bring the weaker ones with them.

Eight obligations stand for one operation each, and hold exactly if its slot is
filled.  For seven of these the policy copies a predicate.  An order, though, is
also promised where there are only `<` and `==`; on predicates that come from
traits this adds nothing, because then a comparison is synthesized.

The others rest on traits that require each other.  Neither the predicates nor
the policy check this, so that it has to come from the lawful set of traits.  Only
that nothing is both copied bit by bit and ended with work is ensured by the policy
itself, on any predicates at all.
-/

namespace Capability

/-- The operation that an obligation stands for, if it stands for a single one. -/
def Obligation.operation? : Obligation → Option Operation
  | default => some .defaultNew
  | copyNew => some .copyNew
  | moveNew => some .moveNew
  | partialEq => some .eq
  | partialOrd => some .threeWay
  | hash => some .hash
  | debug => some .debug
  | display => some .display
  | drop | copy | eq | ord | trivial | unpin | send | sync => none

/-! ## Obligations and predicates -/

theorem ThreeWaySupport.isPresent_eq (support : ThreeWaySupport) :
    support.isPresent = decide (support ≠ .absent) := by
  cases support <;> rfl

theorem DisplaySource.isPresent_eq (source : DisplaySource) :
    source.isPresent = decide (source ≠ .absent) := by
  cases source <;> rfl

/-- Where `<` and `==` are promised, predicates that come from traits promise the
comparison that can be built from them. -/
theorem Predicates.isPartiallyOrdered_ofTraits (traits : TraitSet) (needsDrop : Bool) :
    (ofTraits traits needsDrop).isPartiallyOrdered =
      (ofTraits traits needsDrop).offers .threeWay := by
  rw [isPartiallyOrdered, ThreeWaySupport.isPresent_eq, offers, Bool.or_eq_left_iff_imp]
  intro operators
  have present : (ofTraits traits needsDrop).threeWay ≠ .absent := by
    simp only [ofTraits] at operators ⊢
    rw [if_pos operators]
    split <;> decide
  exact decide_eq_true present

theorem Profile.imposes_derive_ofTraits (traits : TraitSet) (needsDrop : Bool)
    {obligation : Obligation} {operation : Operation}
    (stands : obligation.operation? = some operation) :
    (derive (.ofTraits traits needsDrop)).imposes obligation =
      (Predicates.ofTraits traits needsDrop).offers operation := by
  cases obligation <;> cases stands
  case partialOrd => exact Predicates.isPartiallyOrdered_ofTraits traits needsDrop
  case display => exact DisplaySource.isPresent_eq _
  all_goals rfl

/-- The policy on its own never has both. -/
theorem Profile.not_copy_and_needsDrop (predicates : Predicates) :
    ¬ ((derive predicates).copy = true ∧ (derive predicates).needsDrop = true) := by
  rintro ⟨copied, ends⟩
  have kept : (!(derive predicates).needsDrop) = true := (Bool.and_eq_true_iff.mp copied).2
  rw [ends] at kept
  cases kept

/-! ## Obligations and the table -/

/-- The obligations of a profile promise nothing that a table lacks. -/
structure Profile.KeptBy {α : Type} (profile : Profile) (table : Table α) : Prop where
  /-- What stands for one operation holds exactly if its slot is filled. -/
  single : ∀ obligation operation, obligation.operation? = some operation →
    profile.imposes obligation = table.has operation
  /-- An equivalence brings both operators of equality. -/
  equivalence : profile.eq = true → ∀ operation ∈ [Operation.eq, .ne], table.has operation = true
  /-- A total order brings all operators, the comparison and the weaker obligations. -/
  total : profile.ord = true →
    (∀ operation ∈ [Operation.eq, .ne, .lt, .le, .gt, .ge, .threeWay],
      table.has operation = true) ∧
      profile.eq = true ∧ profile.partialEq = true ∧ profile.partialOrd = true
  /-- What is copied bit by bit can be copied and moved, and is held in place. -/
  copied : profile.copy = true →
    table.has .copyNew = true ∧ table.has .moveNew = true ∧ profile.trivial = true
  /-- Nothing that is held in place is ended with work. -/
  inPlace : profile.trivial = true → profile.needsDrop = false

namespace Behaviour

variable {α : Type} {behaviour : Behaviour α}

/-- An obligation that stands for one operation holds exactly if its slot is filled. -/
theorem imposes_eq_has (lawful : behaviour.traits.Lawful) (obligation : Obligation)
    {operation : Operation} (stands : obligation.operation? = some operation) :
    (Profile.derive behaviour.predicates).imposes obligation =
      (Table.of behaviour).has operation :=
  (Profile.imposes_derive_ofTraits behaviour.traits behaviour.needsDrop stands).trans
    (Table.has_eq_offers lawful operation).symm

/-- A type with an equality of its own offers both operators of equality. -/
theorem has_of_partialEq (lawful : behaviour.traits.Lawful)
    (own : behaviour.traits .partialEq = true) :
    ∀ operation ∈ [Operation.eq, .ne], (Table.of behaviour).has operation = true := by
  intro operation member
  rw [Table.has_eq_offers lawful]
  simp only [List.mem_cons, List.not_mem_nil, or_false] at member
  rcases member with rfl | rfl <;>
    simp [Predicates.offers, predicates, Predicates.ofTraits, own]

/-- A type with a partial order offers the operators of an order and the comparison. -/
theorem has_of_partialOrd (lawful : behaviour.traits.Lawful)
    (own : behaviour.traits .partialOrd = true) :
    ∀ operation ∈ [Operation.lt, .le, .gt, .ge, .threeWay],
      (Table.of behaviour).has operation = true := by
  intro operation member
  rw [Table.has_eq_offers lawful]
  simp only [List.mem_cons, List.not_mem_nil, or_false] at member
  rcases member with rfl | rfl | rfl | rfl | rfl <;>
    simp [Predicates.offers, predicates, Predicates.ofTraits, own]

theorem profile_keptBy_table (lawful : behaviour.traits.Lawful) :
    (Profile.derive behaviour.predicates).KeptBy (Table.of behaviour) where
  single obligation _ stands := imposes_eq_has lawful obligation stands
  equivalence isEquivalence := has_of_partialEq lawful (lawful.partialEq_of_eq isEquivalence)
  total isTotal := by
    have equivalence : behaviour.traits .eq = true := lawful.eq_of_ord isTotal
    have equality := has_of_partialEq lawful (lawful.partialEq_of_eq equivalence)
    have order := has_of_partialOrd lawful (lawful.partialOrd_of_ord isTotal)
    refine ⟨List.forall_mem_append.mpr ⟨equality, order⟩, equivalence, ?_, ?_⟩
    · exact (imposes_eq_has lawful .partialEq rfl).trans (equality .eq (by decide))
    · exact (imposes_eq_has lawful .partialOrd rfl).trans
        (order .threeWay (by decide))
  copied isCopied := by
    rcases Bool.and_eq_true_iff.mp isCopied with ⟨trivially, _⟩
    rcases Bool.and_eq_true_iff.mp trivially with ⟨copy, inPlace⟩
    refine ⟨?_, ?_, inPlace⟩
    · rw [Table.has_eq_offers lawful]
      exact lawful.clone_of_copy copy
    · rw [Table.has_eq_offers lawful]
      rfl
  inPlace isInPlace := by
    have ends : (!behaviour.needsDrop) = true := (Bool.and_eq_true_iff.mp isInPlace).2
    change (true && !!behaviour.needsDrop) = false
    rw [ends]
    rfl

end Behaviour

/-- No obligation promises what a type with a lawful set of traits lacks; and on any
predicates at all, consistent or not, nothing is both copied bit by bit and ended
with work. -/
theorem obligations_keep_to_table {α : Type} (behaviour : Behaviour α)
    (lawful : behaviour.traits.Lawful) :
    (Profile.derive behaviour.predicates).KeptBy (Table.of behaviour) ∧
      ∀ predicates : Predicates, ¬ ((Profile.derive predicates).copy = true ∧
        (Profile.derive predicates).needsDrop = true) :=
  ⟨Behaviour.profile_keptBy_table lawful, Profile.not_copy_and_needsDrop⟩

/-- Points are copied bit by bit and ordered totally.  They are held in place, and all
that their obligations promise is in their table. -/
theorem obligations_keep_to_table_point :
    Catalog.point.behaviour.traits.Lawful ∧
      (Profile.derive Catalog.point.behaviour.predicates).partialOrd = true ∧
      (Profile.derive Catalog.point.behaviour.predicates).needsDrop = false ∧
      (Table.of Catalog.point.behaviour).has .ge = true ∧
      (Table.of Catalog.point.behaviour).has .copyNew = true := by
  have lawful : Catalog.point.behaviour.traits.Lawful := by
    constructor <;> decide
  rcases obligations_keep_to_table _ lawful with ⟨kept, _⟩
  have total := kept.total (by decide)
  have copied := kept.copied (by decide)
  exact ⟨lawful, total.2.2.2, kept.inPlace copied.2.2, total.1 .ge (by decide), copied.1⟩

end Capability

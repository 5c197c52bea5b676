import Capability.Digest
import Capability.Traits

/-!
What a type can do, as the functions behind its traits.

A behaviour holds one function for every trait that has one and a flag for every
trait that has none.  Which traits a type implements is read off its behaviour.
Nothing here ties the functions to each other: a type may implement two traits
that contradict each other, and what is offered on it must still be determined.
-/

namespace Capability

/-- The functions of a type's own equality. -/
structure Equality (α : Type) where
  eq : α → α → Bool
  ne : α → α → Bool := fun left right => !eq left right

/-- The functions of a type's own partial order. -/
structure PartialOrder (α : Type) where
  compare : α → α → Option Ordering
  lt : α → α → Bool := fun left right => compare left right == some .lt
  le : α → α → Bool := fun left right => (compare left right).any Ordering.isLE
  gt : α → α → Bool := fun left right => compare left right == some .gt
  ge : α → α → Bool := fun left right => (compare left right).any Ordering.isGE

/-- What can be done with values of a type. -/
structure Behaviour (α : Type) where
  /-- Bytes that a value takes. -/
  size : UInt64
  /-- The number that divides the address of a value. -/
  align : UInt64
  /-- Whether ending a value does work. -/
  needsDrop : Bool := false
  default? : Option α := none
  clone? : Option (α → α) := none
  /-- Whether a copy bit by bit is a value of its own. -/
  copy : Bool := false
  /-- Whether a value may be moved bit by bit although others point to it. -/
  unpin : Bool := true
  send : Bool := true
  sync : Bool := true
  equality? : Option (Equality α) := none
  /-- Whether the type's own equality is an equivalence. -/
  equivalence : Bool := false
  partialOrder? : Option (PartialOrder α) := none
  order? : Option (α → α → Ordering) := none
  equal? : Option (α → α → Bool) := none
  notEqual? : Option (α → α → Bool) := none
  lessThan? : Option (α → α → Bool) := none
  lessEqual? : Option (α → α → Bool) := none
  greaterThan? : Option (α → α → Bool) := none
  greaterEqual? : Option (α → α → Bool) := none
  hash? : Option (Digest → α → Digest) := none
  debug? : Option (α → String) := none
  display? : Option (α → String) := none
  stringCast? : Option (α → String) := none
  stringView? : Option (α → List UInt8) := none

namespace Behaviour

/-- The traits that a type with the given behaviour implements. -/
def traits {α : Type} (behaviour : Behaviour α) : TraitSet
  | .default => behaviour.default?.isSome
  | .clone => behaviour.clone?.isSome
  | .copy => behaviour.copy
  | .unpin => behaviour.unpin
  | .send => behaviour.send
  | .sync => behaviour.sync
  | .partialEq => behaviour.equality?.isSome
  | .eq => behaviour.equivalence
  | .partialOrd => behaviour.partialOrder?.isSome
  | .ord => behaviour.order?.isSome
  | .equal => behaviour.equal?.isSome
  | .notEqual => behaviour.notEqual?.isSome
  | .lessThan => behaviour.lessThan?.isSome
  | .lessEqual => behaviour.lessEqual?.isSome
  | .greaterThan => behaviour.greaterThan?.isSome
  | .greaterEqual => behaviour.greaterEqual?.isSome
  | .hash => behaviour.hash?.isSome
  | .debug => behaviour.debug?.isSome
  | .display => behaviour.display?.isSome
  | .stringCast => behaviour.stringCast?.isSome
  | .stringView => behaviour.stringView?.isSome

end Behaviour
end Capability

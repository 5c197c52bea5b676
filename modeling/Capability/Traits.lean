/-!
The traits that decide what can be offered on a type.

A type is described to this library by the set of traits it implements and by
whether ending one of its values does any work.  A set of traits is lawful if it
respects the traits that other traits require: nobody can copy bit by bit what
cannot be cloned, and no order is total without being partial.
-/

namespace Capability

/-- One trait whose presence is detected on a concrete type. -/
inductive Trait where
  | default
  | clone
  | copy
  | unpin
  | send
  | sync
  | partialEq
  | eq
  | partialOrd
  | ord
  | equal
  | notEqual
  | lessThan
  | lessEqual
  | greaterThan
  | greaterEqual
  | hash
  | debug
  | display
  | stringCast
  | stringView
deriving DecidableEq, Repr

namespace Trait

/-- Every trait, in the order in which the detection table lists them. -/
def all : List Trait :=
  [default, clone, copy, unpin, send, sync, partialEq, eq, partialOrd, ord, equal, notEqual,
    lessThan, lessEqual, greaterThan, greaterEqual, hash, debug, display, stringCast, stringView]

/-- The name of the fact that a type implements the trait. -/
def factName : Trait → String
  | default => "default"
  | clone => "clone"
  | copy => "copy"
  | unpin => "unpin"
  | send => "send"
  | sync => "sync"
  | partialEq => "partial_eq"
  | eq => "eq"
  | partialOrd => "partial_ord"
  | ord => "ord"
  | equal => "equal"
  | notEqual => "not_equal"
  | lessThan => "less_than"
  | lessEqual => "less_equal"
  | greaterThan => "greater_than"
  | greaterEqual => "greater_equal"
  | hash => "hash"
  | debug => "debug"
  | display => "display"
  | stringCast => "string_cast"
  | stringView => "string_view"

/-- The trait whose fact has a given name. -/
def ofFactName? (text : String) : Option Trait :=
  all.find? fun candidate => candidate.factName == text

/-- The list of all traits leaves none out. -/
theorem mem_all (candidate : Trait) : candidate ∈ all := by
  cases candidate <;> decide

end Trait

/-- A set of traits, as the test of membership. -/
abbrev TraitSet := Trait → Bool

namespace TraitSet

/-- The set of the traits that a list names. -/
def ofList (traits : List Trait) : TraitSet :=
  fun candidate => traits.contains candidate

/-- Every trait of the first set is in the second. -/
def Subset (small large : TraitSet) : Prop :=
  ∀ candidate, small candidate = true → large candidate = true

/-- The traits that other traits require are present with them. -/
structure Lawful (traits : TraitSet) : Prop where
  clone_of_copy : traits .copy = true → traits .clone = true
  partialEq_of_eq : traits .eq = true → traits .partialEq = true
  partialEq_of_partialOrd : traits .partialOrd = true → traits .partialEq = true
  eq_of_ord : traits .ord = true → traits .eq = true
  partialOrd_of_ord : traits .ord = true → traits .partialOrd = true

end TraitSet
end Capability

import Capability.Traits

/-!
What is structurally true of a type: which operations it can offer, and how its
three-way comparison and its display text are obtained.

Predicates are a pure function of the set of traits and of whether ending a
value does work.  They are also data of their own, read back from a manifest,
and then nothing ties their fields to each other.
-/

namespace Capability

/-- How the three-way comparison of a type is obtained. -/
inductive ThreeWaySupport where
  /-- From the type's own partial or total order. -/
  | native
  /-- From `<` and `==`, because the type has no comparison of its own. -/
  | synthesized
  | absent
deriving DecidableEq, Repr

namespace ThreeWaySupport

/-- The forms of support, in the order in which their names are listed. -/
def all : List ThreeWaySupport := [native, synthesized, absent]

/-- The name that a manifest writes. -/
def name : ThreeWaySupport → String
  | native => "native"
  | synthesized => "synthesized"
  | absent => "absent"

/-- Whether there is a three-way comparison. -/
def isPresent : ThreeWaySupport → Bool
  | absent => false
  | _ => true

end ThreeWaySupport

/-- Where the display text of a type comes from, highest priority first. -/
inductive DisplaySource where
  /-- The type writes its own display text. -/
  | toString
  /-- A value converts into owned text. -/
  | stringCast
  /-- A value shows its bytes, which are read as text with losses. -/
  | stringView
  | absent
deriving DecidableEq, Repr

namespace DisplaySource

/-- The sources, in the order of their priority. -/
def all : List DisplaySource := [toString, stringCast, stringView, absent]

/-- The name that a manifest writes. -/
def name : DisplaySource → String
  | toString => "to_string"
  | stringCast => "string_cast"
  | stringView => "string_view"
  | absent => "absent"

/-- Whether there is a display text. -/
def isPresent : DisplaySource → Bool
  | absent => false
  | _ => true

end DisplaySource

/-- The structural properties of one type. -/
structure Predicates where
  defaultConstructible : Bool
  copyConstructible : Bool
  moveConstructible : Bool
  destructible : Bool
  triviallyDestructible : Bool
  triviallyCopyable : Bool
  triviallyMovable : Bool
  send : Bool
  sync : Bool
  /-- Equality is an equivalence, not only an `==` operator. -/
  equalityComparable : Bool
  hasEq : Bool
  hasNe : Bool
  hasLt : Bool
  hasLe : Bool
  hasGt : Bool
  hasGe : Bool
  threeWay : ThreeWaySupport
  /-- There is a total order; four relational operators are not enough. -/
  totallyOrdered : Bool
  hashable : Bool
  debuggable : Bool
  display : DisplaySource
deriving DecidableEq, Repr

namespace Predicates

/--
The predicates of a type with the given traits.

Every value can be moved and ended, so those two hold of every type.  Of two
sources for an operator either one suffices.  A type's own partial order makes
its comparison native; without one, `<` together with `==` is enough to build it.
-/
def ofTraits (traits : TraitSet) (needsDrop : Bool) : Predicates :=
  let hasEq := traits .partialEq || traits .equal
  let hasLt := traits .partialOrd || traits .lessThan
  { defaultConstructible := traits .default
    copyConstructible := traits .clone
    moveConstructible := true
    destructible := true
    triviallyDestructible := !needsDrop
    triviallyCopyable := traits .copy
    triviallyMovable := traits .unpin && !needsDrop
    send := traits .send
    sync := traits .sync
    equalityComparable := traits .eq
    hasEq := hasEq
    hasNe := traits .partialEq || traits .notEqual
    hasLt := hasLt
    hasLe := traits .partialOrd || traits .lessEqual
    hasGt := traits .partialOrd || traits .greaterThan
    hasGe := traits .partialOrd || traits .greaterEqual
    threeWay :=
      if traits .partialOrd then .native
      else if hasLt && hasEq then .synthesized
      else .absent
    totallyOrdered := traits .ord
    hashable := traits .hash
    debuggable := traits .debug
    display :=
      if traits .display then .toString
      else if traits .stringCast then .stringCast
      else if traits .stringView then .stringView
      else .absent }

/-- Whether values are ordered at least partially: by a comparison, or by `<` and `==`. -/
def isPartiallyOrdered (predicates : Predicates) : Bool :=
  predicates.threeWay.isPresent || (predicates.hasLt && predicates.hasEq)

end Predicates

/-- A question about a type that a capability expression may ask by name. -/
inductive Query where
  | defaultConstructible
  | copyConstructible
  | moveConstructible
  | destructible
  | triviallyDestructible
  | triviallyCopyable
  | triviallyMovable
  | send
  | sync
  | equalityComparable
  | hasEq
  | hasNe
  | hasLt
  | hasLe
  | hasGt
  | hasGe
  | hasThreeWay
  | partiallyOrdered
  | totallyOrdered
  | hashable
  | debuggable
  | displayable
deriving DecidableEq, Repr

namespace Query

/-- Every question, in the order in which messages list their names. -/
def all : List Query :=
  [defaultConstructible, copyConstructible, moveConstructible, destructible, triviallyDestructible,
    triviallyCopyable, triviallyMovable, send, sync, equalityComparable, hasEq, hasNe, hasLt,
    hasLe, hasGt, hasGe, hasThreeWay, partiallyOrdered, totallyOrdered, hashable, debuggable,
    displayable]

/-- The name by which a capability expression asks the question. -/
def name : Query → String
  | defaultConstructible => "DefaultConstructible"
  | copyConstructible => "CopyConstructible"
  | moveConstructible => "MoveConstructible"
  | destructible => "Destructible"
  | triviallyDestructible => "TriviallyDestructible"
  | triviallyCopyable => "TriviallyCopyable"
  | triviallyMovable => "TriviallyMovable"
  | send => "Send"
  | sync => "Sync"
  | equalityComparable => "EqualityComparable"
  | hasEq => "HasEq"
  | hasNe => "HasNe"
  | hasLt => "HasLt"
  | hasLe => "HasLe"
  | hasGt => "HasGt"
  | hasGe => "HasGe"
  | hasThreeWay => "HasThreeWay"
  | partiallyOrdered => "PartiallyOrdered"
  | totallyOrdered => "TotallyOrdered"
  | hashable => "Hashable"
  | debuggable => "Debuggable"
  | displayable => "Displayable"

/-- The question with a given name. -/
def ofName? (text : String) : Option Query :=
  all.find? fun query => query.name == text

/-- The list of all questions leaves none out. -/
theorem mem_all (query : Query) : query ∈ all := by
  cases query <;> decide

end Query

/-- The answer that a type's predicates give to a question. -/
def Predicates.answer (predicates : Predicates) : Query → Bool
  | .defaultConstructible => predicates.defaultConstructible
  | .copyConstructible => predicates.copyConstructible
  | .moveConstructible => predicates.moveConstructible
  | .destructible => predicates.destructible
  | .triviallyDestructible => predicates.triviallyDestructible
  | .triviallyCopyable => predicates.triviallyCopyable
  | .triviallyMovable => predicates.triviallyMovable
  | .send => predicates.send
  | .sync => predicates.sync
  | .equalityComparable => predicates.equalityComparable
  | .hasEq => predicates.hasEq
  | .hasNe => predicates.hasNe
  | .hasLt => predicates.hasLt
  | .hasLe => predicates.hasLe
  | .hasGt => predicates.hasGt
  | .hasGe => predicates.hasGe
  | .hasThreeWay => predicates.threeWay.isPresent
  | .partiallyOrdered => predicates.isPartiallyOrdered
  | .totallyOrdered => predicates.totallyOrdered
  | .hashable => predicates.hashable
  | .debuggable => predicates.debuggable
  | .displayable => predicates.display.isPresent

end Capability

import Capability.Predicates

/-!
What a binding generator should implement for a type.

The profile turns predicates into obligations by one policy.  The policy is pure
and asks for no consistent predicates: whatever it is given, it never allows
copies bit by bit of a value whose end does work.
-/

namespace Capability

/-- The obligations of a binding for one type. -/
structure Profile where
  /-- Ending a value does work. -/
  needsDrop : Bool
  /-- Values may be copied bit by bit. -/
  copy : Bool
  default : Bool
  copyNew : Bool
  moveNew : Bool
  /-- There is an `==`; it need not be an equivalence. -/
  partialEq : Bool
  /-- Equality is an equivalence. -/
  eq : Bool
  partialOrd : Bool
  ord : Bool
  hash : Bool
  debug : Bool
  display : Bool
  /-- Values may be held in place instead of behind a pointer. -/
  trivial : Bool
  unpin : Bool
  send : Bool
  sync : Bool
deriving DecidableEq, Repr

/-- The policy that turns predicates into obligations. -/
def Profile.derive (predicates : Predicates) : Profile :=
  let needsDrop := predicates.destructible && !predicates.triviallyDestructible
  { needsDrop := needsDrop
    copy := predicates.triviallyCopyable && predicates.triviallyMovable && !needsDrop
    default := predicates.defaultConstructible
    copyNew := predicates.copyConstructible
    moveNew := predicates.moveConstructible
    partialEq := predicates.hasEq
    eq := predicates.equalityComparable
    partialOrd := predicates.isPartiallyOrdered
    ord := predicates.totallyOrdered
    hash := predicates.hashable
    debug := predicates.debuggable
    display := predicates.display.isPresent
    trivial := predicates.triviallyMovable
    unpin := predicates.triviallyMovable
    send := predicates.send
    sync := predicates.sync }

/-- One obligation of a binding. -/
inductive Obligation where
  | drop
  | copy
  | default
  | copyNew
  | moveNew
  | partialEq
  | eq
  | partialOrd
  | ord
  | hash
  | debug
  | display
  | trivial
  | unpin
  | send
  | sync
deriving DecidableEq, Repr

namespace Obligation

/-- Every obligation, in the order in which a registration asks about them. -/
def all : List Obligation :=
  [drop, copy, default, copyNew, moveNew, partialEq, eq, partialOrd, ord, hash, debug, display,
    trivial, unpin, send, sync]

/-- The name of the obligation, from which the name of its question is made. -/
def name : Obligation → String
  | drop => "Drop"
  | copy => "Copy"
  | default => "Default"
  | copyNew => "CopyNew"
  | moveNew => "MoveNew"
  | partialEq => "PartialEq"
  | eq => "Eq"
  | partialOrd => "PartialOrd"
  | ord => "Ord"
  | hash => "Hash"
  | debug => "Debug"
  | display => "Display"
  | trivial => "Trivial"
  | unpin => "Unpin"
  | send => "Send"
  | sync => "Sync"

/-- The list of all obligations leaves none out. -/
theorem mem_all (obligation : Obligation) : obligation ∈ all := by
  cases obligation <;> decide

end Obligation

def Profile.imposes (profile : Profile) : Obligation → Bool
  | .drop => profile.needsDrop
  | .copy => profile.copy
  | .default => profile.default
  | .copyNew => profile.copyNew
  | .moveNew => profile.moveNew
  | .partialEq => profile.partialEq
  | .eq => profile.eq
  | .partialOrd => profile.partialOrd
  | .ord => profile.ord
  | .hash => profile.hash
  | .debug => profile.debug
  | .display => profile.display
  | .trivial => profile.trivial
  | .unpin => profile.unpin
  | .send => profile.send
  | .sync => profile.sync

end Capability

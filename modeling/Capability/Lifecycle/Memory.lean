/-!
Places, the values that live in them, and the calls that begin and end lives.

Every value that is constructed or duplicated is an instance of its own, with a
number that no other instance ever has.  An instance lives until it is ended.
The ledger knows how many instances have begun and which have ended; the places
know which instance they hold, if any.  The calls write to places as they are
told.  Each has a precondition, and only calls that meet it keep ledger and
places in agreement: constructing over a live instance makes the place forget
it, and it then lives on without a place.
-/

namespace Capability
namespace Lifecycle

/-- One value during its life. -/
structure Instance (α : Type) where
  number : Nat
  value : α

/-- Which instances have begun and which have ended. -/
structure Ledger where
  /-- How many have begun; their numbers are those below. -/
  begun : Nat
  /-- The numbers of those that have ended, the latest first. -/
  ended : List Nat

/-- How many instances are alive. -/
def Ledger.alive (ledger : Ledger) : Nat := ledger.begun - ledger.ended.length

/-- The places and the ledger of the instances. -/
structure Memory (α : Type) where
  ledger : Ledger
  /-- The live instance at a place, if there is one. -/
  place : Nat → Option (Instance α)

/-- How new values come about. -/
structure Maker (α : Type) where
  default : α
  clone : α → α

/-- A call on places. -/
inductive Call (α : Type) where
  /-- Write the default value. -/
  | defaultNew (target : Nat)
  /-- Write a duplicate of the value at the source. -/
  | copyNew (target source : Nat)
  /-- Write the value at the source, which holds it no longer. -/
  | moveNew (target source : Nat)
  /-- End the value. -/
  | destruct (target : Nat)
  /-- Write a new value. -/
  | write (target : Nat) (value : α)

namespace Memory

variable {α : Type}

/-- No instance has begun and every place is empty. -/
def empty : Memory α := ⟨⟨0, []⟩, fun _ => none⟩

/-- Whether a place holds a live instance. -/
def holds (memory : Memory α) (target : Nat) : Bool := (memory.place target).isSome

def value? (memory : Memory α) (target : Nat) : Option α := (memory.place target).map (·.value)

/-- The places with the content of one replaced. -/
def put (memory : Memory α) (target : Nat) (content : Option (Instance α)) : Memory α :=
  { memory with place := fun place => if place = target then content else memory.place place }

/-- Begin an instance at a place. -/
def construct (memory : Memory α) (target : Nat) (value : α) : Memory α :=
  let ledger := { memory.ledger with begun := memory.ledger.begun + 1 }
  { memory with ledger := ledger }.put target (some ⟨memory.ledger.begun, value⟩)

/-- End the instance at a place. -/
def finish (memory : Memory α) (target : Nat) : Memory α :=
  match memory.place target with
  | none => memory
  | some ending =>
    let ledger := { memory.ledger with ended := ending.number :: memory.ledger.ended }
    { memory with ledger := ledger }.put target none

/-- What a call does to the places. -/
def perform (maker : Maker α) (memory : Memory α) : Call α → Memory α
  | .defaultNew target => memory.construct target maker.default
  | .copyNew target source =>
    match memory.value? source with
    | none => memory
    | some value => memory.construct target (maker.clone value)
  | .moveNew target source => (memory.put target (memory.place source)).put source none
  | .destruct target => memory.finish target
  | .write target value => memory.construct target value

/-- What a list of calls does to the places. -/
def performAll (maker : Maker α) (memory : Memory α) (calls : List (Call α)) : Memory α :=
  calls.foldl (perform maker) memory

end Memory

/--
The precondition of a call: it writes only to a place that holds no live
instance, reads or ends only a live one, and moves only between two places.
-/
def Call.Permitted {α : Type} (memory : Memory α) : Call α → Prop
  | .defaultNew target | .write target _ => memory.holds target = false
  | .copyNew target source => memory.holds target = false ∧ memory.holds source = true
  | .moveNew target source =>
    target ≠ source ∧ memory.holds target = false ∧ memory.holds source = true
  | .destruct target => memory.holds target = true

/-! ### Guarded calls -/

/-- Why a call on some number of places is refused. -/
inductive Refusal where
  | noSuchPlace
  | overlap
  | deadSource
  | deadPlace
deriving DecidableEq, Repr

/-- The places that a call names. -/
def Call.places {α : Type} : Call α → List Nat
  | .defaultNew target | .destruct target | .write target _ => [target]
  | .copyNew target source | .moveNew target source => [target, source]

/--
Perform a call on the first so many places unless it would read or end what is
not alive.  Writing over a live instance is not refused.
-/
def Memory.attempt {α : Type} (maker : Maker α) (memory : Memory α) (count : Nat)
    (call : Call α) : Except Refusal (Memory α) :=
  if call.places.any (count ≤ ·) then .error .noSuchPlace
  else
    match call with
    | .moveNew target source =>
      if target = source then .error .overlap
      else if memory.holds source then .ok (memory.perform maker call) else .error .deadSource
    | .copyNew _ source =>
      if memory.holds source then .ok (memory.perform maker call) else .error .deadSource
    | .destruct target =>
      if memory.holds target then .ok (memory.perform maker call) else .error .deadPlace
    | .defaultNew _ | .write _ _ => .ok (memory.perform maker call)

end Lifecycle
end Capability

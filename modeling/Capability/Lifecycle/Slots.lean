import Capability.Lifecycle.Memory

/-!
Slots: places that keep track of whether they hold a value.

A slot is a place together with a flag.  Constructing in a slot first ends what
it holds, taking its value moves it out, and clearing or dropping it ends what
it holds.  Beside the slots there are values owned outside them, each at a place
of its own.  Every action is a list of calls on places, chosen from the flags
alone, so that it can be checked that each call is one that its precondition
permits.
-/

namespace Capability
namespace Lifecycle

/-- Some slots and the values owned outside them. -/
structure Slots (α : Type) where
  /-- How many slots there are; slot `i` is place `i`. -/
  count : Nat
  memory : Memory α
  /-- Whether a slot says that it holds a value. -/
  live : Nat → Bool
  /-- The first place that no value outside the slots has been put in yet. -/
  fresh : Nat

/-- What can be done with slots and with values outside them. -/
inductive Action (α : Type) where
  /-- Put a new value outside the slots. -/
  | own (value : α)
  /-- End a value outside the slots. -/
  | disown (place : Nat)
  | defaultNew (slot : Nat)
  /-- Construct a duplicate of the value at a place, which may be another slot. -/
  | copyFrom (slot place : Nat)
  /-- Construct by taking over the value at a place outside the slots. -/
  | moveFrom (slot place : Nat)
  /-- Replace the value of a slot that holds one by the value at a place outside the slots. -/
  | assign (slot place : Nat)
  /-- Move the value of a slot to a fresh place outside the slots. -/
  | take (slot : Nat)
  /-- End the value of a slot. -/
  | clear (slot : Nat)

namespace Slots

variable {α : Type}

def empty (count : Nat) : Slots α := ⟨count, .empty, fun _ => false, count⟩

/-- The calls that empty a slot. -/
def clearing (slots : Slots α) (slot : Nat) : List (Call α) :=
  if slots.live slot then [.destruct slot] else []

def calls (slots : Slots α) : Action α → List (Call α)
  | .own value => [.write slots.fresh value]
  | .disown place => [.destruct place]
  | .defaultNew slot => slots.clearing slot ++ [.defaultNew slot]
  | .copyFrom slot place => slots.clearing slot ++ [.copyNew slot place]
  | .moveFrom slot place => slots.clearing slot ++ [.moveNew slot place]
  | .assign slot place => if slots.live slot then [.destruct slot, .moveNew slot place] else []
  | .take slot => if slots.live slot then [.moveNew slots.fresh slot] else []
  | .clear slot => slots.clearing slot

/-- What the flag of a slot is after an action; `none` if the action changes no flag. -/
def flagged : Action α → Option (Nat × Bool)
  | .own _ | .disown _ | .assign _ _ => none
  | .defaultNew slot | .copyFrom slot _ | .moveFrom slot _ => some (slot, true)
  | .take slot | .clear slot => some (slot, false)

def flagsAfter (slots : Slots α) (action : Action α) : Nat → Bool :=
  match flagged action with
  | none => slots.live
  | some (changed, holds) => fun slot => if slot = changed then holds else slots.live slot

/-- Whether an action uses up the fresh place. -/
def usesFresh (slots : Slots α) : Action α → Bool
  | .own _ => true
  | .take slot => slots.live slot
  | _ => false

def act (maker : Maker α) (slots : Slots α) (action : Action α) : Slots α where
  count := slots.count
  memory := slots.memory.performAll maker (slots.calls action)
  live := slots.flagsAfter action
  fresh := if slots.usesFresh action then slots.fresh + 1 else slots.fresh

def actAll (maker : Maker α) (slots : Slots α) (actions : List (Action α)) : Slots α :=
  actions.foldl (act maker) slots

/-- The value of a slot that says that it holds one. -/
def get? (slots : Slots α) (slot : Nat) : Option α :=
  if slots.live slot then slots.memory.value? slot else none

def values (slots : Slots α) : List (Option α) := (List.range slots.count).map slots.get?

/-- The slots after all of them have been dropped. -/
def dropAll (maker : Maker α) (slots : Slots α) : Slots α :=
  slots.actAll maker ((List.range slots.count).map .clear)

end Slots
end Lifecycle
end Capability

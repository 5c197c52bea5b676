import Capability.Lifecycle.Slots

/-!
Steps that drive slots.

A step names a slot, and some name a second one.  It is refused if a slot does
not exist, if it copies a slot to itself, or if its source holds nothing; and a
step that is refused changes nothing.  Any other step is a list of actions and
has a result.
-/

namespace Capability
namespace Lifecycle

/-- One step of a script. -/
inductive Step (α : Type) where
  | defaultNew (slot : Nat)
  | copyFrom (slot source : Nat)
  /-- Copy from a value that is made for it and ended after it. -/
  | copyValue (slot : Nat) (value : α)
  | moveValue (slot : Nat) (value : α)
  /-- Take the value of the source, which may be the slot itself, and move it in. -/
  | moveSlot (slot source : Nat)
  /-- Write through a reference to the value, if there is one. -/
  | set (slot : Nat) (value : α)
  /-- Take the value and end it. -/
  | take (slot : Nat)
  | get (slot : Nat)
  | isLive (slot : Nat)
  | clear (slot : Nat)
  /-- Drop the slot and put an empty one in its place. -/
  | drop (slot : Nat)

/-- Why a step is refused. -/
inductive StepRefusal where
  | noSuchSlot
  | sameSlot
  | emptySource
deriving DecidableEq, Repr

/-- What a step answers. -/
inductive Result (α : Type) where
  | value (content : Option α)
  | truth (holds : Bool)

namespace Step

variable {α : Type}

/-- The slots that a step names. -/
def slots : Step α → List Nat
  | copyFrom slot source | moveSlot slot source => [slot, source]
  | defaultNew slot | copyValue slot _ | moveValue slot _ | set slot _ | take slot | get slot
  | isLive slot | clear slot | drop slot => [slot]

/-- Why a step is refused, if it is. -/
def refusal? (state : Slots α) (step : Step α) : Option StepRefusal :=
  if step.slots.any (state.count ≤ ·) then some .noSuchSlot
  else
    match step with
    | copyFrom slot source =>
      if slot = source then some .sameSlot
      else if state.live source then none
      else some .emptySource
    | moveSlot _ source => if state.live source then none else some .emptySource
    | _ => none

def actions (state : Slots α) : Step α → List (Action α)
  | defaultNew slot => [.defaultNew slot]
  | copyFrom slot source => [.copyFrom slot source]
  | copyValue slot value =>
    [.own value, .copyFrom slot state.fresh, .disown state.fresh]
  | moveValue slot value => [.own value, .moveFrom slot state.fresh]
  | moveSlot slot source => [.take source, .moveFrom slot state.fresh]
  | set slot value =>
    if state.live slot then [.own value, .assign slot state.fresh] else []
  | take slot => if state.live slot then [.take slot, .disown state.fresh] else []
  | get _ | isLive _ => []
  | clear slot | drop slot => [.clear slot]

/-- What a step answers, given the slots before and after it. -/
def result (before after : Slots α) : Step α → Result α
  | defaultNew slot | copyFrom slot _ | copyValue slot _ | moveValue slot _ | moveSlot slot _
  | set slot _ | get slot => .value (after.get? slot)
  | take slot => .value (before.get? slot)
  | isLive slot => .truth (before.live slot)
  | clear _ | drop _ => .value none

end Step

def Slots.step {α : Type} (maker : Maker α) (state : Slots α) (step : Step α) :
    Except StepRefusal (Result α × Slots α) :=
  match step.refusal? state with
  | some refusal => .error refusal
  | none =>
    let after := state.actAll maker (step.actions state)
    .ok (step.result state after, after)

end Lifecycle
end Capability

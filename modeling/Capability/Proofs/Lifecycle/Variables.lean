import Capability.Lifecycle.Script
import Capability.Proofs.Lifecycle.Slots
import Mathlib.Logic.Function.Basic

/-!
# Slots are optional variables

A slot is a place together with a flag, and every step moves values between places and
raises or lowers flags in an order of its own.  Seen from outside none of this shows: a
slot answers like a variable that holds a value or nothing.

The slots mirror such variables if each flag says whether its variable holds something and
each place holds what its variable holds.  Values that a step puts outside the slots are at
places of their own and do not matter.  One step keeps the mirror and gives the same answer
on both sides, hence so does every client, also one that chooses what it does next by the
answers so far.
-/

namespace Capability
namespace Lifecycle

open Function (update update_self update_of_ne update_eq_self update_idem)

variable {α : Type}

/-! ## Variables -/

/-- Variables that hold a value or nothing. -/
abbrev Variables (α : Type) := Nat → Option α

namespace Variables

def empty : Variables α := fun _ => none

/-- What a step leaves in the variables. -/
def after (maker : Maker α) (contents : Variables α) : Step α → Variables α
  | .defaultNew slot => update contents slot (some maker.default)
  | .copyFrom slot source => update contents slot ((contents source).map maker.clone)
  | .copyValue slot value => update contents slot (some (maker.clone value))
  | .moveValue slot value => update contents slot (some value)
  | .moveSlot slot source => update (update contents source none) slot (contents source)
  | .set slot value => update contents slot ((contents slot).map fun _ => value)
  | .take slot | .clear slot | .drop slot => update contents slot none
  | .get _ | .isLive _ => contents

/-- What a step answers, given the variables before and after it. -/
def result (before after : Variables α) : Step α → Result α
  | .take slot => .value (before slot)
  | .isLive slot => .truth (before slot).isSome
  | .clear _ | .drop _ => .value none
  | .defaultNew slot | .copyFrom slot _ | .copyValue slot _ | .moveValue slot _ | .moveSlot slot _
  | .set slot _ | .get slot => .value (after slot)

/-- Why a step on so many variables is refused, if it is. -/
def refusal? (count : Nat) (contents : Variables α) (step : Step α) : Option StepRefusal :=
  if step.slots.any (count ≤ ·) then some .noSuchSlot
  else
    match step with
    | .copyFrom slot source =>
      if slot = source then some .sameSlot
      else if (contents source).isSome then none
      else some .emptySource
    | .moveSlot _ source => if (contents source).isSome then none else some .emptySource
    | _ => none

def step (maker : Maker α) (count : Nat) (contents : Variables α) (step : Step α) :
    Except StepRefusal (Result α × Variables α) :=
  match contents.refusal? count step with
  | some refusal => .error refusal
  | none => .ok (result contents (contents.after maker step) step, contents.after maker step)

end Variables

/-! ## Values at places -/

namespace Memory

variable (memory : Memory α) (target : Nat)

theorem value?_put (content : Option (Instance α)) :
    (memory.put target content).value? = update memory.value? target (content.map (·.value)) := by
  funext place
  by_cases same : place = target
  · rw [same, update_self, value?, place_put_same]
  · rw [update_of_ne same, value?, place_put_of_ne _ _ same, value?]

theorem value?_construct (value : α) :
    (memory.construct target value).value? = update memory.value? target (some value) :=
  value?_put _ _ _

theorem value?_finish : (memory.finish target).value? = update memory.value? target none := by
  have left := value?_put memory target none
  rw [Option.map_none] at left
  rw [← left]
  funext place
  rw [value?, place_finish, value?]

/-- A value that is moved leaves nothing behind. -/
theorem value?_moveNew (maker : Maker α) (source : Nat) :
    (memory.perform maker (.moveNew target source)).value? =
      update (update memory.value? target (memory.value? source)) source none := by
  rw [perform, value?_put, value?_put]
  rfl

end Memory

namespace Slots

section Action

variable (maker : Maker α) {slots : Slots α} {slot : Nat}

/-- A slot that is cleared holds nothing, whether or not it did before. -/
theorem value?_clearing (tracked : slots.live slot = (slots.memory.value? slot).isSome) :
    (slots.memory.performAll maker (slots.clearing slot)).value? =
      update slots.memory.value? slot none := by
  cases live : slots.live slot with
  | true =>
      rw [clearing, if_pos live]
      exact Memory.value?_finish _ _
  | false =>
      rw [live] at tracked
      have nothing : none = slots.memory.value? slot :=
        (Option.isSome_eq_false_iff.mp tracked.symm |> Option.isNone_iff_eq_none.mp).symm
      rw [clearing, live, nothing, update_eq_self]
      rfl

theorem value?_clear (tracked : slots.live slot = (slots.memory.value? slot).isSome) :
    (slots.act maker (.clear slot)).memory.value? = update slots.memory.value? slot none :=
  value?_clearing maker tracked

theorem value?_defaultNew (tracked : slots.live slot = (slots.memory.value? slot).isSome) :
    (slots.act maker (.defaultNew slot)).memory.value? =
      update slots.memory.value? slot (some maker.default) := by
  refine (congrArg Memory.value? (Memory.performAll_append _ _ _)).trans ?_
  refine (Memory.value?_construct _ _ _).trans ?_
  rw [value?_clearing maker tracked, update_idem]

theorem value?_copyFrom {source : Nat} {value : α}
    (tracked : slots.live slot = (slots.memory.value? slot).isSome) (other : source ≠ slot)
    (reads : slots.memory.value? source = some value) :
    (slots.act maker (.copyFrom slot source)).memory.value? =
      update slots.memory.value? slot (some (maker.clone value)) := by
  have cleared := value?_clearing maker tracked
  have stillReads : (slots.memory.performAll maker (slots.clearing slot)).value? source =
      some value := by
    rw [cleared, update_of_ne other, reads]
  refine (congrArg Memory.value? (Memory.performAll_append _ _ _)).trans ?_
  change (Memory.perform maker _ (.copyNew slot source)).value? = _
  rw [Memory.perform, stillReads]
  refine (Memory.value?_construct _ _ _).trans ?_
  rw [cleared, update_idem]

theorem value?_moveFrom {source : Nat}
    (tracked : slots.live slot = (slots.memory.value? slot).isSome) (other : source ≠ slot) :
    (slots.act maker (.moveFrom slot source)).memory.value? =
      update (update slots.memory.value? slot (slots.memory.value? source)) source none := by
  have cleared := value?_clearing maker tracked
  refine (congrArg Memory.value? (Memory.performAll_append _ _ _)).trans ?_
  refine (Memory.value?_moveNew _ _ maker _).trans ?_
  rw [cleared, update_idem, update_of_ne other]

theorem value?_take (live : slots.live slot = true) :
    (slots.act maker (.take slot)).memory.value? =
      update (update slots.memory.value? slots.fresh (slots.memory.value? slot)) slot none := by
  change (slots.memory.performAll maker (slots.calls (.take slot))).value? = _
  rw [calls, if_pos live]
  exact Memory.value?_moveNew _ _ maker _

end Action
end Slots

/-! ## One step -/

/-- Flags and places say of every slot what its variable holds. -/
structure Mirrors (slots : Slots α) (contents : Variables α) : Prop where
  count_le_fresh : slots.count ≤ slots.fresh
  value_eq : ∀ slot < slots.count, slots.memory.value? slot = contents slot
  live_eq : ∀ slot < slots.count, slots.live slot = (contents slot).isSome

theorem mirrors_empty (count : Nat) : Mirrors (.empty count : Slots α) Variables.empty where
  count_le_fresh := Nat.le_refl _
  value_eq _ _ := rfl
  live_eq _ _ := rfl

namespace Mirrors

section Actions

variable {slots : Slots α} {contents : Variables α} {slot : Nat}

theorem tracked (mirrors : Mirrors slots contents) (within : slot < slots.count) :
    slots.live slot = (slots.memory.value? slot).isSome := by
  rw [mirrors.live_eq slot within, mirrors.value_eq slot within]

theorem get?_eq (mirrors : Mirrors slots contents) (within : slot < slots.count) :
    slots.get? slot = contents slot := by
  rw [Slots.get?, mirrors.live_eq slot within, mirrors.value_eq slot within]
  cases contents slot <;> rfl

/-- What changes one slot and, beside the slots, only what was never used. -/
theorem update (mirrors : Mirrors slots contents) {next : Slots α} {content : Option α}
    (same : next.count = slots.count) (later : slots.fresh ≤ next.fresh)
    (values : ∀ place < slots.count, next.memory.value? place =
      Function.update slots.memory.value? slot content place)
    (flags : ∀ place, next.live place = if place = slot then content.isSome else slots.live place) :
    Mirrors next (Function.update contents slot content) where
  count_le_fresh := by
    rw [same]
    exact Nat.le_trans mirrors.count_le_fresh later
  value_eq place within := by
    rw [same] at within
    rw [values place within]
    by_cases changed : place = slot
    · rw [changed, update_self, update_self]
    · rw [update_of_ne changed, update_of_ne changed, mirrors.value_eq place within]
  live_eq place within := by
    rw [same] at within
    rw [flags]
    by_cases changed : place = slot
    · rw [if_pos changed, changed, update_self]
    · rw [if_neg changed, update_of_ne changed, mirrors.live_eq place within]

variable (maker : Maker α)

/-- A value that is put outside the slots is at the fresh place and changes no slot. -/
theorem own (mirrors : Mirrors slots contents) (value : α) :
    Mirrors (slots.act maker (.own value)) contents ∧
      (slots.act maker (.own value)).memory.value? slots.fresh = some value := by
  have values : (slots.act maker (.own value)).memory.value? =
      Function.update slots.memory.value? slots.fresh (some value) :=
    Memory.value?_construct _ _ _
  refine ⟨⟨Nat.le_succ_of_le mirrors.count_le_fresh, ?_, mirrors.live_eq⟩, ?_⟩
  · intro place within
    have other : place ≠ slots.fresh := Nat.ne_of_lt (Nat.lt_of_lt_of_le within mirrors.count_le_fresh)
    rw [values, update_of_ne other]
    exact mirrors.value_eq place within
  · rw [values, update_self]

theorem disown (mirrors : Mirrors slots contents) {owned : Nat} (beyond : slots.count ≤ owned) :
    Mirrors (slots.act maker (.disown owned)) contents where
  count_le_fresh := mirrors.count_le_fresh
  value_eq place within := by
    have other : place ≠ owned := Nat.ne_of_lt (Nat.lt_of_lt_of_le within beyond)
    change (slots.memory.finish owned).value? place = _
    rw [Memory.value?_finish, update_of_ne other, mirrors.value_eq place within]
  live_eq := mirrors.live_eq

theorem clear (mirrors : Mirrors slots contents) (within : slot < slots.count) :
    Mirrors (slots.act maker (.clear slot)) (Function.update contents slot none) := by
  refine mirrors.update rfl (Nat.le_refl _) (fun place _ => ?_) (fun _ => rfl)
  rw [Slots.value?_clear maker (mirrors.tracked within)]

theorem defaultNew (mirrors : Mirrors slots contents) (within : slot < slots.count) :
    Mirrors (slots.act maker (.defaultNew slot))
      (Function.update contents slot (some maker.default)) := by
  refine mirrors.update rfl (Nat.le_refl _) (fun place _ => ?_) (fun _ => rfl)
  rw [Slots.value?_defaultNew maker (mirrors.tracked within)]

theorem copyFrom (mirrors : Mirrors slots contents) (within : slot < slots.count) {source : Nat}
    {value : α} (other : source ≠ slot) (reads : slots.memory.value? source = some value) :
    Mirrors (slots.act maker (.copyFrom slot source))
      (Function.update contents slot (some (maker.clone value))) := by
  refine mirrors.update rfl (Nat.le_refl _) (fun place _ => ?_) (fun _ => rfl)
  rw [Slots.value?_copyFrom maker (mirrors.tracked within) other reads]

/-- A value that is moved in from outside; nothing is left at its place there. -/
theorem moveFrom (mirrors : Mirrors slots contents) (within : slot < slots.count) {owned : Nat}
    {value : α} (beyond : slots.count ≤ owned) (reads : slots.memory.value? owned = some value) :
    Mirrors (slots.act maker (.moveFrom slot owned))
      (Function.update contents slot (some value)) := by
  have other : owned ≠ slot := Nat.ne_of_gt (Nat.lt_of_lt_of_le within beyond)
  refine mirrors.update rfl (Nat.le_refl _) (fun place placeWithin => ?_) (fun _ => rfl)
  have notOwned : place ≠ owned := Nat.ne_of_lt (Nat.lt_of_lt_of_le placeWithin beyond)
  rw [Slots.value?_moveFrom maker (mirrors.tracked within) other, update_of_ne notOwned, reads]

/-- To assign to a slot that holds a value is to move into it. -/
theorem assign (mirrors : Mirrors slots contents) (within : slot < slots.count)
    (live : slots.live slot = true) {owned : Nat} {value : α} (beyond : slots.count ≤ owned)
    (reads : slots.memory.value? owned = some value) :
    Mirrors (slots.act maker (.assign slot owned))
      (Function.update contents slot (some value)) := by
  have same : slots.act maker (.assign slot owned) = slots.act maker (.moveFrom slot owned) := by
    rw [Slots.act, Slots.calls_assign live, Slots.flagsAfter_assign live]
    rfl
  rw [same]
  exact mirrors.moveFrom maker within beyond reads

/-- The value of a slot is taken to the fresh place. -/
theorem take (mirrors : Mirrors slots contents) (within : slot < slots.count)
    (live : slots.live slot = true) :
    Mirrors (slots.act maker (.take slot)) (Function.update contents slot none) ∧
      (slots.act maker (.take slot)).memory.value? slots.fresh = contents slot := by
  have values := Slots.value?_take maker live
  have freshNe : ∀ place < slots.count, place ≠ slots.fresh := fun place placeWithin =>
    Nat.ne_of_lt (Nat.lt_of_lt_of_le placeWithin mirrors.count_le_fresh)
  constructor
  · refine mirrors.update rfl ?_ (fun place placeWithin => ?_) (fun _ => rfl)
    · change slots.fresh ≤ if slots.live slot then slots.fresh + 1 else slots.fresh
      rw [if_pos live]
      exact Nat.le_succ _
    · rw [values]
      by_cases changed : place = slot
      · rw [changed, update_self, update_self]
      · rw [update_of_ne changed, update_of_ne changed, update_of_ne (freshNe place placeWithin)]
  · rw [values, update_of_ne (Ne.symm (freshNe slot within)), update_self,
      mirrors.value_eq slot within]

end Actions

/-! ## Steps and clients -/

section Steps

variable {slots : Slots α} {contents : Variables α}

theorem within_of_slots {step : Step α} {count slot : Nat} (named : slot ∈ step.slots)
    (exist : step.slots.any (count ≤ ·) = false) : slot < count := by
  have other := List.any_eq_false.mp exist slot named
  rw [decide_eq_true_eq] at other
  exact Nat.lt_of_not_le other

/-- Slots refuse what their variables refuse. -/
theorem refusal?_eq (mirrors : Mirrors slots contents) (step : Step α) :
    step.refusal? slots = contents.refusal? slots.count step := by
  unfold Step.refusal? Variables.refusal?
  cases exist : step.slots.any (slots.count ≤ ·) with
  | true => rfl
  | false =>
      cases step with
      | copyFrom slot source =>
          have sourceWithin : source < slots.count := within_of_slots (by simp [Step.slots]) exist
          simp only [mirrors.live_eq source sourceWithin]
      | moveSlot slot source =>
          have sourceWithin : source < slots.count := within_of_slots (by simp [Step.slots]) exist
          simp only [mirrors.live_eq source sourceWithin]
      | defaultNew | copyValue | moveValue | set | take | get | isLive | clear | drop => rfl

/-- What a step that is not refused says of the slots that it names. -/
theorem named_of_refusal? {count : Nat} {step : Step α}
    (admitted : contents.refusal? count step = none) :
    (∀ slot ∈ step.slots, slot < count) ∧
      (∀ slot source, step = .copyFrom slot source →
        slot ≠ source ∧ ∃ value, contents source = some value) ∧
      ∀ slot source, step = .moveSlot slot source → ∃ value, contents source = some value := by
  unfold Variables.refusal? at admitted
  cases exist : step.slots.any (count ≤ ·) with
  | true =>
      rw [exist] at admitted
      cases admitted
  | false =>
      rw [exist, if_neg Bool.false_ne_true] at admitted
      refine ⟨fun slot named => within_of_slots named exist, ?_, ?_⟩
      · rintro slot source rfl
        by_cases same : slot = source
        · simp [same] at admitted
        · cases held : contents source with
          | none => simp [same, held] at admitted
          | some value => exact ⟨same, value, rfl⟩
      · rintro slot source rfl
        cases held : contents source with
        | none => simp [held] at admitted
        | some value => exact ⟨value, rfl⟩

/-- A step that is not refused keeps the mirror. -/
theorem after (mirrors : Mirrors slots contents) (maker : Maker α) {step : Step α}
    (admitted : contents.refusal? slots.count step = none) :
    Mirrors (slots.actAll maker (step.actions slots)) (contents.after maker step) := by
  rcases named_of_refusal? admitted with ⟨within, copies, moves⟩
  cases step with
  | defaultNew slot => exact mirrors.defaultNew maker (within slot (by simp [Step.slots]))
  | copyFrom slot source =>
      rcases copies slot source rfl with ⟨different, value, held⟩
      have sourceWithin := within source (by simp [Step.slots])
      have copied := mirrors.copyFrom maker (within slot (by simp [Step.slots]))
        (Ne.symm different) ((mirrors.value_eq source sourceWithin).trans held)
      rw [Variables.after, held]
      exact copied
  | copyValue slot value =>
      -- The value is put at the fresh place, copied from there and ended.
      have slotWithin := within slot (by simp [Step.slots])
      rcases mirrors.own maker value with ⟨owning, reads⟩
      have other : slots.fresh ≠ slot :=
        Nat.ne_of_gt (Nat.lt_of_lt_of_le slotWithin mirrors.count_le_fresh)
      exact (owning.copyFrom maker slotWithin other reads).disown maker mirrors.count_le_fresh
  | moveValue slot value =>
      rcases mirrors.own maker value with ⟨owning, reads⟩
      exact owning.moveFrom maker (within slot (by simp [Step.slots])) mirrors.count_le_fresh reads
  | moveSlot slot source =>
      -- The source gives up its value before the slot is refilled, so they may be the same.
      rcases moves slot source rfl with ⟨value, held⟩
      have sourceWithin := within source (by simp [Step.slots])
      have live := mirrors.live_eq source sourceWithin
      rw [held] at live
      rcases mirrors.take maker sourceWithin live with ⟨taken, reads⟩
      rw [held] at reads
      rw [Variables.after, held]
      exact taken.moveFrom maker (within slot (by simp [Step.slots])) mirrors.count_le_fresh reads
  | set slot value =>
      have slotWithin := within slot (by simp [Step.slots])
      have flag := mirrors.live_eq slot slotWithin
      cases held : contents slot with
      | none =>
          rw [held] at flag
          rw [Variables.after, held, Option.map_none, ← held, update_eq_self, Step.actions, flag]
          exact mirrors
      | some before =>
          rw [held, Option.isSome_some] at flag
          rcases mirrors.own maker value with ⟨owning, reads⟩
          rw [Variables.after, held, Step.actions, if_pos flag]
          exact owning.assign maker slotWithin flag mirrors.count_le_fresh reads
  | take slot =>
      have slotWithin := within slot (by simp [Step.slots])
      have flag := mirrors.live_eq slot slotWithin
      cases held : contents slot with
      | none =>
          rw [held] at flag
          rw [Variables.after, ← held, update_eq_self, Step.actions, flag]
          exact mirrors
      | some before =>
          rw [held, Option.isSome_some] at flag
          rw [Step.actions, if_pos flag]
          exact (mirrors.take maker slotWithin flag).1.disown maker mirrors.count_le_fresh
  | get slot => exact mirrors
  | isLive slot => exact mirrors
  | clear slot => exact mirrors.clear maker (within slot (by simp [Step.slots]))
  | drop slot => exact mirrors.clear maker (within slot (by simp [Step.slots]))

/-- What a step answers is what the variables answer. -/
theorem result_eq {next : Slots α} {later : Variables α} {step : Step α}
    (mirrors : Mirrors slots contents) (still : Mirrors next later)
    (same : next.count = slots.count) (within : ∀ slot ∈ step.slots, slot < slots.count) :
    step.result slots next = contents.result later step := by
  have before : ∀ slot ∈ step.slots, slots.get? slot = contents slot := fun slot named =>
    mirrors.get?_eq (within slot named)
  have behind : ∀ slot ∈ step.slots, next.get? slot = later slot := fun slot named =>
    still.get?_eq (same ▸ within slot named)
  cases step with
  | isLive slot =>
      rw [Step.result, Variables.result, mirrors.live_eq slot (within slot (by simp [Step.slots]))]
  | take slot => rw [Step.result, Variables.result, before slot (by simp [Step.slots])]
  | clear | drop => rfl
  | defaultNew slot | copyFrom slot _ | copyValue slot _ | moveValue slot _ | moveSlot slot _
  | set slot _ | get slot =>
      rw [Step.result, Variables.result, behind slot (by simp [Step.slots])]

theorem count_actAll (maker : Maker α) (slots : Slots α) (actions : List (Action α)) :
    (slots.actAll maker actions).count = slots.count := by
  induction actions generalizing slots with
  | nil => rfl
  | cons action rest inductionHypothesis => exact inductionHypothesis (slots.act maker action)

/-- A step is refused by slots and by variables for one reason, or both give one answer and go on
in step with each other. -/
theorem step_cases (mirrors : Mirrors slots contents) (maker : Maker α) (step : Step α) :
    (∃ refusal, slots.step maker step = .error refusal ∧
        contents.step maker slots.count step = .error refusal) ∨
      ∃ answer next later, slots.step maker step = .ok (answer, next) ∧
        contents.step maker slots.count step = .ok (answer, later) ∧
        next.count = slots.count ∧ Mirrors next later := by
  rw [Slots.step, Variables.step, mirrors.refusal?_eq]
  cases admitted : contents.refusal? slots.count step with
  | some refusal => exact .inl ⟨refusal, rfl, rfl⟩
  | none =>
      have still := mirrors.after maker admitted
      have same := count_actAll maker slots (step.actions slots)
      have answers := mirrors.result_eq still same (named_of_refusal? admitted).1
      exact .inr ⟨_, _, _, rfl, by rw [answers], same, still⟩

end Steps
end Mirrors

/-- Someone who takes steps one by one, and may choose each by the answers to those before. -/
inductive Client (α : Type) where
  | done
  | ask (step : Step α) (further : Except StepRefusal (Result α) → Client α)

namespace Client

/-- The answers that a client gets of something that takes steps; a refused step changes nothing. -/
def answers {σ : Type} (take : σ → Step α → Except StepRefusal (Result α × σ)) (state : σ) :
    Client α → List (Except StepRefusal (Result α))
  | done => []
  | ask step further =>
    match take state step with
    | .ok (result, next) => .ok result :: answers take next (further (.ok result))
    | .error refusal => .error refusal :: answers take state (further (.error refusal))

/-- A client that takes certain steps whatever it is answered. -/
def ofSteps : List (Step α) → Client α
  | [] => done
  | step :: rest => ask step fun _ => ofSteps rest

/-- Change the value of a slot through a reference to it, if it holds one, and go on. -/
def change (slot : Nat) (change : α → α) (further : Client α) : Client α :=
  ask (.get slot) fun
    | .ok (.value (some value)) => ask (.set slot (change value)) fun _ => further
    | _ => further

theorem answers_eq (client : Client α) {slots : Slots α} {contents : Variables α}
    (mirrors : Mirrors slots contents) (maker : Maker α) :
    client.answers (Slots.step maker) slots =
      client.answers (Variables.step maker slots.count) contents := by
  induction client generalizing slots contents with
  | done => rfl
  | ask step further inductionHypothesis =>
      rw [answers, answers]
      rcases mirrors.step_cases maker step with
        ⟨refusal, left, right⟩ | ⟨answer, next, later, left, right, same, still⟩
      · rw [left, right]
        exact congrArg _ (inductionHypothesis _ mirrors)
      · rw [left, right, ← same]
        exact congrArg _ (inductionHypothesis _ still)

end Client

/-- No client can tell slots, which are empty at first, from as many variables that hold nothing
at first.  This holds of every sequence of steps, and of writes through references that depend on
what is read there. -/
theorem slots_answer_like_variables (maker : Maker α) (count : Nat) (client : Client α) :
    client.answers (Slots.step maker) (Slots.empty count) =
      client.answers (Variables.step maker count) Variables.empty :=
  client.answers_eq (mirrors_empty count) maker

/-- A new value is changed through its reference and taken, and the slot holds nothing then. -/
example :
    (Client.ask (.defaultNew 0) fun _ => Client.change 0 (· + 7) (.ofSteps
      [.get 0, .take 0, .isLive 0, .clear 0, .take 0])).answers
        (Slots.step ⟨0, id⟩) (Slots.empty 1) =
      [.ok (.value (some 0)), .ok (.value (some 0)), .ok (.value (some 7)), .ok (.value (some 7)),
        .ok (.value (some 7)), .ok (.truth false), .ok (.value none), .ok (.value none)] := rfl

end Lifecycle
end Capability

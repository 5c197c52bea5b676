import Capability.Lifecycle.Slots
import Capability.Proofs.Lifecycle.Calls

/-!
# Slots and the values outside them

A slot decides by its flag alone which calls it makes.  That these calls are
permitted is a fact about all slots and all values outside them at once: the
flags and the owners of values outside must know exactly which places are
occupied.  This is the invariant, and together with the account of the memory it
is all that one action has to preserve.

Who owns values outside the slots is not looked up in the memory.  An owner gets
a place when a value is put there or taken out of a slot, and loses it by ending
the value or moving it into a slot; the actions alone determine the places that
are owned.
-/

namespace Capability
namespace Lifecycle

variable {α : Type}

/-! ## Assigning -/

namespace Slots

variable {slots : Slots α} {slot owned : Nat}

/-- To assign to a slot that holds a value is to move into it. -/
theorem calls_assign (live : slots.live slot = true) :
    slots.calls (.assign slot owned) = slots.calls (.moveFrom slot owned) := by
  refine (if_pos live).trans ?_
  rw [calls, clearing, if_pos live]
  rfl

theorem flagsAfter_assign (live : slots.live slot = true) :
    slots.flagsAfter (.assign slot owned) = slots.flagsAfter (.moveFrom slot owned) := by
  funext place
  by_cases same : place = slot
  · rw [same]
    exact live.trans (if_pos rfl).symm
  · exact (if_neg same).symm

end Slots

/-! ## Owners -/

/-- Some slots together with the places of the values that are owned outside them. -/
structure Holdings (α : Type) where
  slots : Slots α
  outside : List Nat

namespace Holdings

/-- Slots that are all empty, and no value outside them. -/
def empty (count : Nat) : Holdings α := ⟨.empty count, []⟩

/-- The places that are owned outside the slots after an action. -/
def outsideAfter (holdings : Holdings α) : Action α → List Nat
  | .own _ => holdings.slots.fresh :: holdings.outside
  | .take slot =>
    if holdings.slots.live slot then holdings.slots.fresh :: holdings.outside else holdings.outside
  | .disown owned | .moveFrom _ owned | .assign _ owned => holdings.outside.erase owned
  | .defaultNew _ | .copyFrom _ _ | .clear _ => holdings.outside

def act (maker : Maker α) (holdings : Holdings α) (action : Action α) : Holdings α :=
  ⟨holdings.slots.act maker action, holdings.outsideAfter action⟩

def actAll (maker : Maker α) (holdings : Holdings α) (actions : List (Action α)) : Holdings α :=
  actions.foldl (act maker) holdings

/--
What can be said without unsafe code.  A slot that is named exists.  A value is
ended or moved only by its owner.  What is copied is owned outside or is the value
of another slot that says that it holds one, and only to such a slot is there a
reference through which its value can be assigned.
-/
def Legal (holdings : Holdings α) : Action α → Prop
  | .own _ => True
  | .disown owned => owned ∈ holdings.outside
  | .defaultNew slot | .take slot | .clear slot => slot < holdings.slots.count
  | .copyFrom slot source => slot < holdings.slots.count ∧
      (source ∈ holdings.outside ∨
        source < holdings.slots.count ∧ source ≠ slot ∧ holdings.slots.live source = true)
  | .moveFrom slot owned => slot < holdings.slots.count ∧ owned ∈ holdings.outside
  | .assign slot owned => slot < holdings.slots.count ∧ owned ∈ holdings.outside ∧
      holdings.slots.live slot = true

/-- Every action of a list can be said when its turn comes. -/
def AllLegal (maker : Maker α) (holdings : Holdings α) : List (Action α) → Prop
  | [] => True
  | action :: actions => holdings.Legal action ∧ AllLegal maker (holdings.act maker action) actions

instance (holdings : Holdings α) : (action : Action α) → Decidable (holdings.Legal action)
  | .own _ => isTrue trivial
  | .disown _ => inferInstanceAs (Decidable (_ ∈ holdings.outside))
  | .defaultNew _ | .take _ | .clear _ => inferInstanceAs (Decidable (_ < _))
  | .copyFrom _ _ | .moveFrom _ _ | .assign _ _ => inferInstanceAs (Decidable (_ ∧ _))

instance decidableAllLegal (maker : Maker α) (holdings : Holdings α) :
    (actions : List (Action α)) → Decidable (holdings.AllLegal maker actions)
  | [] => isTrue trivial
  | action :: actions =>
    have := decidableAllLegal maker (holdings.act maker action) actions
    inferInstanceAs (Decidable (_ ∧ _))

/-- The calls that a list of actions makes. -/
def calls (maker : Maker α) (holdings : Holdings α) : List (Action α) → List (Call α)
  | [] => []
  | action :: actions =>
    holdings.slots.calls action ++ calls maker (holdings.act maker action) actions

/-! ## What flags and owners know -/

/-- The places that are occupied according to the flags of so many slots and to the
list of places that are owned outside them. -/
def known (count : Nat) (live : Nat → Bool) (outside : List Nat) (place : Nat) : Bool :=
  if place < count then live place else outside.contains place

section Known

variable {count slot owned : Nat} {live : Nat → Bool} {outside : List Nat}

theorem known_slot (within : slot < count) : known count live outside slot = live slot :=
  if_pos within

theorem known_outside (beyond : count ≤ owned) :
    known count live outside owned = outside.contains owned :=
  if_neg (Nat.not_lt.mpr beyond)

/-- A flag that is raised adds a place. -/
theorem known_raise (within : slot < count) :
    known count (fun place => if place = slot then true else live place) outside =
      fun place => place == slot || known count live outside place := by
  funext place
  by_cases same : place = slot
  · rw [same, known_slot within, if_pos rfl, beq_self_eq_true, Bool.true_or]
  · rw [beq_eq_false_iff_ne.mpr same, Bool.false_or, known, if_neg same, known]

/-- A flag that is lowered removes a place. -/
theorem known_lower (within : slot < count) :
    known count (fun place => if place = slot then false else live place) outside =
      fun place => place != slot && known count live outside place := by
  funext place
  by_cases same : place = slot
  · rw [same, known_slot within, if_pos rfl, bne_self_eq_false, Bool.false_and]
  · rw [bne_iff_ne.mpr same, Bool.true_and, known, if_neg same, known]

/-- An owner that gets a value adds its place. -/
theorem known_cons (beyond : count ≤ owned) :
    known count live (owned :: outside) =
      fun place => place == owned || known count live outside place := by
  funext place
  by_cases within : place < count
  · have other : place ≠ owned := by omega
    rw [known_slot within, known_slot within, beq_eq_false_iff_ne.mpr other, Bool.false_or]
  · rw [known, if_neg within, known, if_neg within, List.contains_cons]

/-- An owner that loses a value removes its place. -/
theorem known_erase (beyond : count ≤ owned) (nodup : outside.Nodup) :
    known count live (outside.erase owned) =
      fun place => place != owned && known count live outside place := by
  funext place
  by_cases within : place < count
  · have other : place ≠ owned := by omega
    rw [known_slot within, known_slot within, bne_iff_ne.mpr other, Bool.true_and]
  · rw [known, if_neg within, known, if_neg within, Bool.eq_iff_iff]
    simp [nodup.mem_erase_iff]

/-- A slot that is known to hold nothing can be vacated without a change. -/
theorem vacate_of_dead (within : slot < count) (dead : live slot = false) :
    (fun place => place != slot && known count live outside place) = known count live outside := by
  funext place
  by_cases same : place = slot
  · rw [same, bne_self_eq_false, Bool.false_and, known_slot within, dead]
  · rw [bne_iff_ne.mpr same, Bool.true_and]

end Known

/-- The places that are occupied as far as flags and owners know. -/
abbrev occupied (holdings : Holdings α) : Nat → Bool :=
  known holdings.slots.count holdings.slots.live holdings.outside

/-! ## One action -/

/-- Flags and owners know which places of the memory hold a value. -/
structure Sound (holdings : Holdings α) : Prop where
  accounted : holdings.slots.memory.Accounted
  holds_eq : holdings.slots.memory.holds = holdings.occupied
  count_le_fresh : holdings.slots.count ≤ holdings.slots.fresh
  count_le : ∀ owned ∈ holdings.outside, holdings.slots.count ≤ owned
  lt_fresh : ∀ owned ∈ holdings.outside, owned < holdings.slots.fresh
  nodup : holdings.outside.Nodup

section Action

variable {holdings : Holdings α}

/-- Clearing a slot vacates it, whether or not there is something to end. -/
theorem occupiedAfter_clearing {slot : Nat} (within : slot < holdings.slots.count) :
    occupiedAfter (holdings.slots.clearing slot) holdings.occupied =
      fun place => place != slot && holdings.occupied place := by
  cases live : holdings.slots.live slot with
  | true => rw [Slots.clearing, if_pos live]; rfl
  | false =>
      rw [Slots.clearing, live]
      exact (vacate_of_dead within live).symm

/-- A slot that is cleared and written to is occupied, whatever it held before; `kept`
are the other places that the second call leaves as they are. -/
theorem occupiedAfter_refill {slot : Nat} (within : slot < holdings.slots.count) {call : Call α}
    (kept : Nat → Bool)
    (fills : ∀ occupied, call.occupies occupied =
      fun place => place == slot || (kept place && occupied place)) :
    occupiedAfter (holdings.slots.clearing slot ++ [call]) holdings.occupied =
      fun place => place == slot || (kept place && holdings.occupied place) := by
  rw [occupiedAfter_append, occupiedAfter_clearing within]
  refine (fills _).trans ?_
  funext place
  rw [bne]
  cases place == slot with
  | true => rfl
  | false => rw [Bool.not_false, Bool.true_and]

section Owned

variable {slot owned : Nat}

theorem Sound.owned_ne_slot (sound : holdings.Sound) (within : slot < holdings.slots.count)
    (owns : owned ∈ holdings.outside) : owned ≠ slot :=
  Nat.ne_of_gt (Nat.lt_of_lt_of_le within (sound.count_le owned owns))

theorem Sound.occupiedAfter_moveFrom (sound : holdings.Sound)
    (within : slot < holdings.slots.count) (owns : owned ∈ holdings.outside) :
    occupiedAfter (holdings.slots.calls (.moveFrom slot owned)) holdings.occupied =
      known holdings.slots.count (holdings.slots.flagsAfter (.moveFrom slot owned))
        (holdings.outside.erase owned) := by
  refine (occupiedAfter_refill within (· != owned) fun _ => rfl).trans ?_
  refine Eq.trans ?_ (known_raise within).symm
  rw [known_erase (sound.count_le owned owns) sound.nodup]

end Owned

/-- The calls that an action makes occupy and vacate what flags and owners expect. -/
theorem Sound.occupiedAfter_calls (sound : holdings.Sound) (maker : Maker α) {action : Action α}
    (legal : holdings.Legal action) :
    occupiedAfter (holdings.slots.calls action) holdings.occupied =
      (holdings.act maker action).occupied := by
  cases action with
  | own value => exact (known_cons sound.count_le_fresh).symm
  | disown owned => exact (known_erase (sound.count_le owned legal) sound.nodup).symm
  | defaultNew slot =>
      exact (occupiedAfter_refill legal (fun _ => true) fun _ => rfl).trans (known_raise legal).symm
  | copyFrom slot source =>
      exact (occupiedAfter_refill legal.1 (fun _ => true) fun _ => rfl).trans
        (known_raise legal.1).symm
  | moveFrom slot owned => exact sound.occupiedAfter_moveFrom legal.1 legal.2
  | assign slot owned =>
      rw [Slots.calls_assign legal.2.2, sound.occupiedAfter_moveFrom legal.1 legal.2.1,
        ← Slots.flagsAfter_assign legal.2.2]
      rfl
  | take slot =>
      cases live : holdings.slots.live slot with
      | false =>
          rw [Slots.calls, live, act, outsideAfter, live]
          exact ((known_lower legal).trans (vacate_of_dead legal live)).symm
      | true =>
          -- The value leaves the slot for the fresh place, which gets an owner.
          rw [Slots.calls, if_pos live, act, outsideAfter, if_pos live]
          refine Eq.trans ?_ (known_cons sound.count_le_fresh).symm
          exact congrArg (fun others place => place == holdings.slots.fresh || others place)
            (known_lower legal).symm
  | clear slot => exact (occupiedAfter_clearing legal).trans (known_lower legal).symm

theorem Sound.dead_fresh (sound : holdings.Sound) :
    holdings.slots.memory.holds holdings.slots.fresh = false := by
  rw [sound.holds_eq, occupied, known_outside sound.count_le_fresh]
  by_contra listed
  have owns := List.contains_iff_mem.mp (eq_true_of_ne_false listed)
  exact Nat.lt_irrefl _ (sound.lt_fresh _ owns)

theorem Sound.holds_of_owned (sound : holdings.Sound) {owned : Nat}
    (owns : owned ∈ holdings.outside) : holdings.slots.memory.holds owned = true := by
  rw [sound.holds_eq, occupied, known_outside (sound.count_le owned owns)]
  exact List.contains_iff_mem.mpr owns

theorem Sound.holds_slot (sound : holdings.Sound) {slot : Nat}
    (within : slot < holdings.slots.count) :
    holdings.slots.memory.holds slot = holdings.slots.live slot := by
  rw [sound.holds_eq, occupied, known_slot within]

/-- A slot ends its value only if there is one. -/
theorem Sound.permitted_clearing (sound : holdings.Sound) (maker : Maker α) {slot : Nat}
    (within : slot < holdings.slots.count) :
    holdings.slots.memory.AllPermitted maker (holdings.slots.clearing slot) := by
  cases live : holdings.slots.live slot with
  | false => rw [Slots.clearing, live]; trivial
  | true =>
      rw [Slots.clearing, if_pos live]
      exact ⟨(sound.holds_slot within).trans live, trivial⟩

/-- What is permitted to a slot that has been cleared. -/
theorem Sound.permitted_cleared (sound : holdings.Sound) {maker : Maker α} {slot : Nat}
    (within : slot < holdings.slots.count) {call : Call α}
    (admitted : call.Admitted fun place => place != slot && holdings.slots.memory.holds place) :
    holdings.slots.memory.AllPermitted maker (holdings.slots.clearing slot ++ [call]) := by
  have clears := sound.permitted_clearing maker within
  refine Memory.allPermitted_append.mpr ⟨clears, ?_, trivial⟩
  rw [Call.permitted_iff, Memory.holds_performAll clears, sound.holds_eq,
    occupiedAfter_clearing within, ← sound.holds_eq]
  exact admitted

theorem kept_source {slot source : Nat} (other : source ≠ slot)
    (live : holdings.slots.memory.holds source = true) :
    (source != slot && holdings.slots.memory.holds source) = true := by
  rw [bne_iff_ne.mpr other, Bool.true_and, live]

theorem vacated_slot (slot : Nat) : (slot != slot && holdings.slots.memory.holds slot) = false := by
  rw [bne_self_eq_false, Bool.false_and]

theorem Sound.permitted_moveFrom (sound : holdings.Sound) (maker : Maker α) {slot owned : Nat}
    (within : slot < holdings.slots.count) (owns : owned ∈ holdings.outside) :
    holdings.slots.memory.AllPermitted maker (holdings.slots.calls (.moveFrom slot owned)) := by
  have other := sound.owned_ne_slot within owns
  exact sound.permitted_cleared within ⟨Ne.symm other, vacated_slot slot,
    kept_source other (sound.holds_of_owned owns)⟩

/-- Every call that an action makes is permitted when its turn comes. -/
theorem Sound.permitted (sound : holdings.Sound) (maker : Maker α) {action : Action α}
    (legal : holdings.Legal action) :
    holdings.slots.memory.AllPermitted maker (holdings.slots.calls action) := by
  cases action with
  | own value => exact ⟨sound.dead_fresh, trivial⟩
  | disown owned => exact ⟨sound.holds_of_owned legal, trivial⟩
  | defaultNew slot => exact sound.permitted_cleared legal (vacated_slot slot)
  | copyFrom slot source =>
      refine sound.permitted_cleared legal.1 ⟨vacated_slot slot, ?_⟩
      -- A slot that is copied from is another one, so clearing does not end its value.
      rcases legal.2 with owns | ⟨within, other, live⟩
      · exact kept_source (sound.owned_ne_slot legal.1 owns) (sound.holds_of_owned owns)
      · exact kept_source other ((sound.holds_slot within).trans live)
  | moveFrom slot owned => exact sound.permitted_moveFrom maker legal.1 legal.2
  | assign slot owned =>
      rw [Slots.calls_assign legal.2.2]
      exact sound.permitted_moveFrom maker legal.1 legal.2.1
  | take slot =>
      cases live : holdings.slots.live slot with
      | false => rw [Slots.calls, live]; trivial
      | true =>
          rw [Slots.calls, if_pos live]
          have below := Nat.lt_of_lt_of_le legal sound.count_le_fresh
          have held := (sound.holds_slot legal).trans live
          exact ⟨⟨Nat.ne_of_gt below, sound.dead_fresh, held⟩, trivial⟩
  | clear slot => exact sound.permitted_clearing maker legal

/-- An action that makes an owner uses the fresh place for it. -/
theorem outsideAfter_cases (holdings : Holdings α) (action : Action α) :
    (holdings.slots.usesFresh action = true ∧
        holdings.outsideAfter action = holdings.slots.fresh :: holdings.outside) ∨
      (holdings.outsideAfter action).Sublist holdings.outside := by
  cases action with
  | own value => exact .inl ⟨rfl, rfl⟩
  | take slot =>
      cases live : holdings.slots.live slot with
      | true => exact .inl ⟨live, if_pos live⟩
      | false =>
          rw [outsideAfter, live]
          exact .inr (List.Sublist.refl _)
  | disown owned | moveFrom slot owned | assign slot owned => exact .inr List.erase_sublist
  | defaultNew slot | copyFrom slot source | clear slot => exact .inr (List.Sublist.refl _)

theorem fresh_le_act (maker : Maker α) (slots : Slots α) (action : Action α) :
    slots.fresh ≤ (slots.act maker action).fresh := by
  change slots.fresh ≤ if slots.usesFresh action then slots.fresh + 1 else slots.fresh
  split <;> omega

/-- An action leaves flags and owners in agreement with the memory. -/
theorem Sound.act (sound : holdings.Sound) (maker : Maker α) {action : Action α}
    (legal : holdings.Legal action) : (holdings.act maker action).Sound := by
  have further := fresh_le_act maker holdings.slots action
  have owners : ∀ owned ∈ holdings.outsideAfter action,
      holdings.slots.count ≤ owned ∧ owned < (holdings.slots.act maker action).fresh := by
    intro owned owns
    rcases outsideAfter_cases holdings action with ⟨uses, more⟩ | fewer
    · rw [more, List.mem_cons] at owns
      rcases owns with rfl | owned
      · refine ⟨sound.count_le_fresh, ?_⟩
        rw [Slots.act, if_pos uses]
        exact Nat.lt_succ_self _
      · exact ⟨sound.count_le _ owned, Nat.lt_of_lt_of_le (sound.lt_fresh _ owned) further⟩
    · have before := fewer.mem owns
      exact ⟨sound.count_le _ before, Nat.lt_of_lt_of_le (sound.lt_fresh _ before) further⟩
  constructor
  case accounted => exact sound.accounted.performAll (sound.permitted maker legal)
  case holds_eq =>
    rw [← sound.occupiedAfter_calls maker legal, ← sound.holds_eq]
    exact Memory.holds_performAll (sound.permitted maker legal)
  case count_le_fresh => exact Nat.le_trans sound.count_le_fresh further
  case count_le => exact fun owned owns => (owners owned owns).1
  case lt_fresh => exact fun owned owns => (owners owned owns).2
  case nodup =>
    rcases outsideAfter_cases holdings action with ⟨uses, more⟩ | fewer
    · change (holdings.outsideAfter action).Nodup
      rw [more, List.nodup_cons]
      exact ⟨fun owned => Nat.lt_irrefl _ (sound.lt_fresh _ owned), sound.nodup⟩
    · exact sound.nodup.sublist fewer

end Action

/-! ## Runs -/

theorem sound_empty (count : Nat) : (empty count : Holdings α).Sound where
  accounted := Memory.accounted_empty
  holds_eq := by
    funext place
    rw [occupied, known]
    exact (ite_self false).symm
  count_le_fresh := Nat.le_refl count
  count_le _ owned := nomatch owned
  lt_fresh _ owned := nomatch owned
  nodup := List.nodup_nil

section Runs

variable {maker : Maker α} {holdings : Holdings α}

theorem actAll_append (first second : List (Action α)) :
    holdings.actAll maker (first ++ second) =
      (holdings.actAll maker first).actAll maker second :=
  List.foldl_append

/-- The number of slots never changes. -/
theorem count_actAll (maker : Maker α) (holdings : Holdings α) (actions : List (Action α)) :
    (holdings.actAll maker actions).slots.count = holdings.slots.count := by
  induction actions generalizing holdings with
  | nil => rfl
  | cons action actions inductionHypothesis => exact inductionHypothesis (holdings.act maker action)

theorem allLegal_append {first second : List (Action α)} :
    holdings.AllLegal maker (first ++ second) ↔
      holdings.AllLegal maker first ∧ (holdings.actAll maker first).AllLegal maker second := by
  induction first generalizing holdings with
  | nil => exact ⟨fun legal => ⟨trivial, legal⟩, And.right⟩
  | cons action actions inductionHypothesis =>
      rw [List.cons_append, AllLegal, AllLegal, inductionHypothesis, and_assoc]
      rfl

/-- Flags and owners are in agreement with the memory after every legal run. -/
theorem Sound.actAll {actions : List (Action α)} (sound : holdings.Sound)
    (legal : holdings.AllLegal maker actions) : (holdings.actAll maker actions).Sound := by
  induction actions generalizing holdings with
  | nil => exact sound
  | cons action actions inductionHypothesis =>
      exact inductionHypothesis (sound.act maker legal.1) legal.2

/-- All calls of a legal run are permitted. -/
theorem Sound.allPermitted {actions : List (Action α)} (sound : holdings.Sound)
    (legal : holdings.AllLegal maker actions) :
    holdings.slots.memory.AllPermitted maker (holdings.calls maker actions) := by
  induction actions generalizing holdings with
  | nil => trivial
  | cons action actions inductionHypothesis =>
      exact Memory.allPermitted_append.mpr ⟨sound.permitted maker legal.1,
        inductionHypothesis (sound.act maker legal.1) legal.2⟩

/-- The memory after a run is what its calls make of the memory before. -/
theorem memory_actAll (maker : Maker α) (holdings : Holdings α) (actions : List (Action α)) :
    (holdings.actAll maker actions).slots.memory =
      holdings.slots.memory.performAll maker (holdings.calls maker actions) := by
  induction actions generalizing holdings with
  | nil => rfl
  | cons action actions inductionHypothesis =>
      rw [calls, Memory.performAll_append]
      exact inductionHypothesis (holdings.act maker action)

end Runs

end Holdings
end Lifecycle
end Capability

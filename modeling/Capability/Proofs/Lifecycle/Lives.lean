import Capability.Proofs.Lifecycle.Slots

/-!
# No leak, no second end, no overwritten value

The agreement of flags, owners and memory says what a run does to instances.
What the memory holds is what live slots and owners outside hold, one each; with
the account, so many instances are alive.  A value that is moved into a slot or
taken out of one is the same instance before and after.  And when the flags are
down and nobody owns anything, nothing is alive.

The order in which slots and owners are dropped in the end does not matter: what
is dropped leaves the rest as it was.
-/

namespace Capability
namespace Lifecycle

open scoped List

variable {α : Type}

namespace Memory

/-- No instance is at two places, none ends twice, and none is at a place that has
not begun or has ended. -/
structure AtMostOnce (memory : Memory α) : Prop where
  place_unique : ∀ first second left right, memory.place first = some left →
    memory.place second = some right → left.number = right.number → first = second
  nodup_ended : memory.ledger.ended.Nodup
  ended_begun : ∀ number ∈ memory.ledger.ended, number < memory.ledger.begun
  begun : ∀ place held, memory.place place = some held → held.number < memory.ledger.begun
  not_ended : ∀ place held, memory.place place = some held →
    held.number ∉ memory.ledger.ended

theorem Accounted.atMostOnce {memory : Memory α} (accounted : memory.Accounted) :
    memory.AtMostOnce := by
  rcases accounted with ⟨bound, consistent⟩
  constructor
  case place_unique => exact fun _ _ _ _ => consistent.place_unique
  case nodup_ended => exact consistent.nodup_ended
  case ended_begun =>
    intro number ended
    have listed := List.mem_append_left (memory.placed bound) ended
    exact List.mem_range.mp (consistent.account.mem_iff.mpr listed)
  case begun => exact fun _ _ => consistent.number_lt_begun
  case not_ended => exact fun _ _ => consistent.number_not_ended

/-- An instance is carried from one place to another: none begins, and none ends but
what was at the other place before. -/
structure Carries (before after : Memory α) (source target : Nat) (carried : Instance α) :
    Prop where
  leaves : before.place source = some carried
  arrives : after.place target = some carried
  vacated : after.place source = none
  ledger_eq : after.ledger =
    ⟨before.ledger.begun, (before.number? target).toList ++ before.ledger.ended⟩
  not_ended : carried.number ∉ after.ledger.ended

end Memory

namespace Holdings

variable {maker : Maker α} {holdings : Holdings α}

/-! ## How many are alive -/

/-- The slots that say that they hold a value. -/
def liveSlots (holdings : Holdings α) : List Nat :=
  (List.range holdings.slots.count).filter holdings.slots.live

theorem mem_liveSlots {slot : Nat} :
    slot ∈ holdings.liveSlots ↔ slot < holdings.slots.count ∧ holdings.slots.live slot = true := by
  rw [liveSlots, List.mem_filter, List.mem_range]

/-- The places that hold a value are the live slots and the places owned outside. -/
theorem Sound.held_perm (sound : holdings.Sound) {bound : Nat}
    (consistent : holdings.slots.memory.Consistent bound) :
    (List.range bound).filter holdings.slots.memory.holds ~
      holdings.liveSlots ++ holdings.outside := by
  have apart : ∀ slot ∈ holdings.liveSlots, ∀ owned ∈ holdings.outside, slot ≠ owned :=
    fun slot live owned owns => Ne.symm (sound.owned_ne_slot (mem_liveSlots.mp live).1 owns)
  have nodup : (holdings.liveSlots ++ holdings.outside).Nodup :=
    List.nodup_append.mpr ⟨List.nodup_range.filter _, sound.nodup, apart⟩
  refine (List.perm_ext_iff_of_nodup (List.nodup_range.filter _) nodup).mpr fun place => ?_
  rw [List.mem_filter, List.mem_range, List.mem_append, mem_liveSlots]
  constructor
  · rintro ⟨-, holds⟩
    rw [sound.holds_eq] at holds
    by_cases within : place < holdings.slots.count
    · exact .inl ⟨within, (known_slot within).symm.trans holds⟩
    · rw [occupied, known_outside (Nat.le_of_not_lt within)] at holds
      exact .inr (List.contains_iff_mem.mp holds)
  · intro held
    have holds : holdings.slots.memory.holds place = true := by
      rcases held with ⟨within, live⟩ | owns
      · exact (sound.holds_slot within).trans live
      · exact sound.holds_of_owned owns
    rcases Memory.exists_of_holds holds with ⟨_, content⟩
    exact ⟨consistent.lt_of_place content, holds⟩

/-- As many instances are alive as there are live slots and values outside. -/
theorem Sound.alive_eq (sound : holdings.Sound) : holdings.slots.memory.ledger.alive =
    holdings.liveSlots.length + holdings.outside.length := by
  rcases sound.accounted with ⟨bound, consistent⟩
  rw [consistent.alive_eq, List.countP_eq_length_filter,
    (sound.held_perm consistent).length_eq, List.length_append]

/-! ## What is carried -/

/-- Clearing a slot ends what is there. -/
theorem Sound.performAll_clearing (sound : holdings.Sound) (maker : Maker α) {slot : Nat}
    (within : slot < holdings.slots.count) :
    holdings.slots.memory.performAll maker (holdings.slots.clearing slot) =
      holdings.slots.memory.finish slot := by
  cases live : holdings.slots.live slot with
  | true => rw [Slots.clearing, if_pos live]; rfl
  | false =>
      have dead := Memory.place_eq_none ((sound.holds_slot within).trans live)
      rw [Slots.clearing, live, Memory.finish, dead]
      rfl

/-- A value that is moved into a slot lives on there. -/
theorem Sound.carries_moveFrom (sound : holdings.Sound) {slot owned : Nat}
    (legal : holdings.Legal (.moveFrom slot owned)) :
    ∃ carried, holdings.slots.memory.Carries
      (holdings.act maker (.moveFrom slot owned)).slots.memory owned slot carried := by
  have other := sound.owned_ne_slot legal.1 legal.2
  rcases Memory.exists_of_holds (sound.holds_of_owned legal.2) with ⟨carried, leaves⟩
  have kept : (holdings.slots.memory.finish slot).place owned = some carried := by
    rw [Memory.place_finish, Memory.place_put_of_ne _ _ other, leaves]
  have after : (holdings.act maker (.moveFrom slot owned)).slots.memory =
      ((holdings.slots.memory.finish slot).put slot (some carried)).put owned none := by
    rw [← kept, ← sound.performAll_clearing maker legal.1]
    exact Memory.performAll_append _ _ _
  have arrives : (holdings.act maker (.moveFrom slot owned)).slots.memory.place slot =
      some carried := by
    rw [after, Memory.place_put_of_ne _ _ (Ne.symm other), Memory.place_put_same]
  refine ⟨carried, leaves, arrives, ?_, ?_, ?_⟩
  · rw [after, Memory.place_put_same]
  · rw [after, Memory.ledger_put, Memory.ledger_put, Memory.ledger_finish]
  · exact (sound.act maker legal).accounted.atMostOnce.not_ended slot carried arrives

/-- A value that is taken out of a slot lives on outside. -/
theorem Sound.carries_take (sound : holdings.Sound) {slot : Nat}
    (legal : holdings.Legal (.take slot)) (live : holdings.slots.live slot = true) :
    ∃ carried, holdings.slots.memory.Carries
      (holdings.act maker (.take slot)).slots.memory slot holdings.slots.fresh carried := by
  have other : holdings.slots.fresh ≠ slot :=
    Nat.ne_of_gt (Nat.lt_of_lt_of_le legal sound.count_le_fresh)
  rcases Memory.exists_of_holds ((sound.holds_slot legal).trans live) with ⟨carried, leaves⟩
  have after : (holdings.act maker (.take slot)).slots.memory =
      (holdings.slots.memory.put holdings.slots.fresh (some carried)).put slot none := by
    change holdings.slots.memory.performAll maker (holdings.slots.calls (.take slot)) = _
    rw [Slots.calls, if_pos live, ← leaves]
    rfl
  have arrives : (holdings.act maker (.take slot)).slots.memory.place holdings.slots.fresh =
      some carried := by
    rw [after, Memory.place_put_of_ne _ _ other, Memory.place_put_same]
  refine ⟨carried, leaves, arrives, ?_, ?_, ?_⟩
  · rw [after, Memory.place_put_same]
  · rw [after, Memory.ledger_put, Memory.ledger_put, Memory.number?,
      Memory.place_eq_none sound.dead_fresh]
    rfl
  · exact (sound.act maker legal).accounted.atMostOnce.not_ended _ carried arrives

/-- Taking from a slot that holds nothing changes no place and ends nothing. -/
theorem memory_take_of_dead {slot : Nat} (dead : holdings.slots.live slot = false) :
    (holdings.act maker (.take slot)).slots.memory = holdings.slots.memory := by
  change holdings.slots.memory.performAll maker (holdings.slots.calls (.take slot)) = _
  rw [Slots.calls, dead]
  rfl

/-! ## Dropping everything -/

/-- Everything that is left to drop: the values outside, and the slots. -/
def dropping (holdings : Holdings α) : List (Action α) :=
  holdings.outside.map .disown ++ (List.range holdings.slots.count).map .clear

theorem mem_dropping {action : Action α} : action ∈ holdings.dropping ↔
    (∃ owned ∈ holdings.outside, .disown owned = action) ∨
      (∃ slot < holdings.slots.count, .clear slot = action) := by
  simp [dropping]

theorem Sound.nodup_dropping (sound : holdings.Sound) : holdings.dropping.Nodup := by
  refine List.nodup_append.mpr ⟨?_, ?_, ?_⟩
  · exact sound.nodup.map fun _ _ same => Action.disown.inj same
  · exact List.nodup_range.map fun _ _ same => Action.clear.inj same
  · intro left disowned right cleared same
    rcases List.mem_map.mp disowned with ⟨owned, -, rfl⟩
    rcases List.mem_map.mp cleared with ⟨slot, -, rfl⟩
    cases same

/-- What one drop leaves: the other things to drop are still there, and what is there
was there before. -/
theorem Sound.after_drop (sound : holdings.Sound) (maker : Maker α) {action : Action α}
    (drop : action ∈ holdings.dropping) :
    holdings.Legal action ∧
      (∀ other ∈ holdings.dropping, other ≠ action → other ∈ (holdings.act maker action).dropping) ∧
      (∀ owned ∈ (holdings.act maker action).outside,
        owned ∈ holdings.outside ∧ .disown owned ≠ action) ∧
      ∀ slot, (holdings.act maker action).slots.live slot = true →
        holdings.slots.live slot = true ∧ .clear slot ≠ action := by
  rcases mem_dropping.mp drop with ⟨ending, owns, rfl⟩ | ⟨cleared, within, rfl⟩
  · refine ⟨owns, ?_, ?_, fun slot live => ⟨live, nofun⟩⟩
    · intro other listed different
      rcases mem_dropping.mp listed with ⟨owned, owns, rfl⟩ | slots
      · have kept : owned ≠ ending := fun same => different (congrArg _ same)
        exact mem_dropping.mpr (.inl ⟨owned, (List.mem_erase_of_ne kept).mpr owns, rfl⟩)
      · exact mem_dropping.mpr (.inr slots)
    · intro owned kept
      rcases sound.nodup.mem_erase_iff.mp kept with ⟨different, before⟩
      exact ⟨before, fun same => different (Action.disown.inj same)⟩
  · refine ⟨within, fun other listed _ => listed, fun owned owns => ⟨owns, nofun⟩, ?_⟩
    intro slot live
    change (if slot = cleared then false else holdings.slots.live slot) = true at live
    by_cases same : slot = cleared
    · rw [if_pos same] at live
      cases live
    · rw [if_neg same] at live
      exact ⟨live, fun equal => same (Action.clear.inj equal)⟩

/-- After some of what is left has been dropped, the flags that are up were up before,
the owners that are left were there before, and nothing that has been dropped is among
them. -/
theorem Sound.after_drops (sound : holdings.Sound) (maker : Maker α) {drops : List (Action α)}
    (nodup : drops.Nodup) (left : ∀ action ∈ drops, action ∈ holdings.dropping) :
    holdings.AllLegal maker drops ∧
      (∀ owned ∈ (holdings.actAll maker drops).outside,
        owned ∈ holdings.outside ∧ .disown owned ∉ drops) ∧
      ∀ slot, (holdings.actAll maker drops).slots.live slot = true →
        holdings.slots.live slot = true ∧ .clear slot ∉ drops := by
  induction drops generalizing holdings with
  | nil => exact ⟨trivial, fun _ owns => ⟨owns, nofun⟩, fun _ live => ⟨live, nofun⟩⟩
  | cons action drops inductionHypothesis =>
      rcases List.nodup_cons.mp nodup with ⟨once, nodup⟩
      rcases sound.after_drop maker (left action List.mem_cons_self) with
        ⟨legal, rest, owners, flags⟩
      -- The rest does not contain the first drop again, so all of it is still to drop.
      have leftRest : ∀ other ∈ drops, other ∈ (holdings.act maker action).dropping := by
        intro other listed
        have different : other ≠ action := ne_of_mem_of_not_mem listed once
        exact rest other (left other (List.mem_cons_of_mem _ listed)) different
      rcases inductionHypothesis (sound.act maker legal) nodup leftRest with
        ⟨legalRest, ownersRest, flagsRest⟩
      refine ⟨⟨legal, legalRest⟩, ?_, ?_⟩
      · intro owned owns
        rcases ownersRest owned owns with ⟨before, kept⟩
        rcases owners owned before with ⟨start, other⟩
        exact ⟨start, List.not_mem_cons_of_ne_of_not_mem other kept⟩
      · intro slot live
        rcases flagsRest slot live with ⟨before, kept⟩
        rcases flags slot before with ⟨start, other⟩
        exact ⟨start, List.not_mem_cons_of_ne_of_not_mem other kept⟩

/-- Dropping what is left, in any order, leaves nothing alive. -/
theorem Sound.alive_after_dropping (sound : holdings.Sound) {drops : List (Action α)}
    (all : drops ~ holdings.dropping) : holdings.AllLegal maker drops ∧
      (holdings.actAll maker drops).slots.memory.ledger.alive = 0 := by
  have once : drops.Nodup := all.nodup_iff.mpr sound.nodup_dropping
  rcases sound.after_drops maker once (fun _ => all.mem_iff.mp) with ⟨legal, owners, flags⟩
  refine ⟨legal, ?_⟩
  have nobody : (holdings.actAll maker drops).outside = [] := by
    refine List.eq_nil_iff_forall_not_mem.mpr fun owned owns => ?_
    rcases owners owned owns with ⟨before, kept⟩
    exact kept (all.mem_iff.mpr (mem_dropping.mpr (.inl ⟨owned, before, rfl⟩)))
  have down : (holdings.actAll maker drops).liveSlots = [] := by
    refine List.eq_nil_iff_forall_not_mem.mpr fun slot listed => ?_
    rcases mem_liveSlots.mp listed with ⟨within, live⟩
    rw [count_actAll] at within
    exact (flags slot live).2 (all.mem_iff.mpr (mem_dropping.mpr (.inr ⟨slot, within, rfl⟩)))
  rw [(sound.actAll legal).alive_eq, nobody, down]
  rfl

/-! ## Whole runs -/

/-- A permitted list of calls splits into permitted lists, at any call. -/
theorem permitted_of_split {done later : List (Call α)} {call : Call α} {memory : Memory α}
    (permitted : memory.AllPermitted maker (done ++ call :: later)) :
    call.Permitted (memory.performAll maker done) :=
  (Memory.allPermitted_append.mp permitted).2.1

/--
Over every run of legal actions, on any number of slots that are empty at first:
each call is permitted when its turn comes; at every moment, also between the calls
of one action, an instance is at one place at most and has ended at most once; after
each action as many instances are alive as there are live slots and values outside,
and dropping these in any order leaves none; and what is moved into a slot or taken
out of it is the same instance before and after.
-/
theorem run_keeps_lives (maker : Maker α) (count : Nat) (actions : List (Action α))
    (legal : (empty count).AllLegal maker actions) :
    (∀ done call later, (empty count).calls maker actions = done ++ call :: later →
      call.Permitted (Memory.empty.performAll maker done)) ∧
    (∀ done later, (empty count).calls maker actions = done ++ later →
      (Memory.empty.performAll maker done).AtMostOnce) ∧
    (∀ earlier later, actions = earlier ++ later →
      ((empty count).actAll maker earlier).slots.memory =
          Memory.empty.performAll maker ((empty count).calls maker earlier) ∧
        ((empty count).actAll maker earlier).slots.memory.ledger.alive =
          ((empty count).actAll maker earlier).liveSlots.length +
            ((empty count).actAll maker earlier).outside.length ∧
        ∀ drops, drops ~ ((empty count).actAll maker earlier).dropping →
          ((empty count).actAll maker earlier).AllLegal maker drops ∧
            ((empty count).actAll maker (earlier ++ drops)).slots.memory.ledger.alive = 0) ∧
    (∀ earlier slot owned later, actions = earlier ++ .moveFrom slot owned :: later →
      ∃ carried, ((empty count).actAll maker earlier).slots.memory.Carries
        ((empty count).actAll maker (earlier ++ [.moveFrom slot owned])).slots.memory
        owned slot carried) ∧
    ∀ earlier slot later, actions = earlier ++ .take slot :: later →
      if ((empty count).actAll maker earlier).slots.live slot then
        ∃ carried, ((empty count).actAll maker earlier).slots.memory.Carries
          ((empty count).actAll maker (earlier ++ [.take slot])).slots.memory
          slot ((empty count).actAll maker earlier).slots.fresh carried
      else
        ((empty count).actAll maker (earlier ++ [.take slot])).slots.memory =
          ((empty count).actAll maker earlier).slots.memory := by
  have sound : (empty count : Holdings α).Sound := sound_empty count
  have permitted := sound.allPermitted legal
  refine ⟨?_, ?_, ?_, ?_, ?_⟩
  · intro done call later split
    rw [split] at permitted
    exact permitted_of_split permitted
  · intro done later split
    rw [split] at permitted
    exact (Memory.accounted_empty.performAll (Memory.allPermitted_append.mp permitted).1).atMostOnce
  · rintro earlier later rfl
    have reached := sound.actAll (allLegal_append.mp legal).1
    refine ⟨memory_actAll maker _ earlier, reached.alive_eq, fun drops all => ?_⟩
    rw [actAll_append]
    exact reached.alive_after_dropping all
  · rintro earlier slot owned later rfl
    have both := allLegal_append.mp legal
    rw [actAll_append]
    exact (sound.actAll both.1).carries_moveFrom both.2.1
  · rintro earlier slot later rfl
    have both := allLegal_append.mp legal
    rw [actAll_append]
    split
    case isTrue live => exact (sound.actAll both.1).carries_take both.2.1 live
    case isFalse dead => exact memory_take_of_dead (Bool.eq_false_iff.mpr dead)

/-- A run that constructs over a live slot, takes from an empty one, moves a value
that has been copied into the other slot, copies it back, and takes it out again. -/
def reconstruction : List (Action Nat) :=
  [.own 7, .copyFrom 0 2, .defaultNew 0, .take 1, .moveFrom 1 2, .copyFrom 0 1, .take 1]

/-- At the end of the run one slot is live and one value is outside, and nothing is
alive when both have been dropped. -/
theorem run_keeps_lives_reconstruction :
    (empty 2).AllLegal ⟨0, id⟩ reconstruction ∧
      ((empty 2).actAll ⟨0, id⟩ reconstruction).slots.memory.ledger.alive = 2 ∧
      ((empty 2).actAll ⟨0, id⟩
        (reconstruction ++ [.clear 1, .disown 3, .clear 0])).slots.memory.ledger.alive = 0 := by
  have legal : (empty 2).AllLegal ⟨0, id⟩ reconstruction := by decide
  rcases run_keeps_lives ⟨0, id⟩ 2 reconstruction legal with ⟨_, _, moments, _, _⟩
  rcases moments reconstruction [] (List.append_nil _).symm with ⟨_, alive, dropped⟩
  have all : [Action.clear 1, .disown 3, .clear 0] ~
      ((empty 2).actAll ⟨0, id⟩ reconstruction).dropping :=
    (List.perm_append_singleton (Action.clear 1) [.disown 3, .clear 0]).symm
  exact ⟨legal, alive, (dropped _ all).2⟩

end Holdings
end Lifecycle
end Capability

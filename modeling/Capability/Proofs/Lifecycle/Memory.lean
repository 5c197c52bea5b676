import Capability.Lifecycle.Memory
import Mathlib.Data.List.Nodup

/-!
# Permitted calls keep ledger and places in agreement

The ledger counts lives, and the places hold instances.  Nothing in the calls
ties the two to each other: a call that is not permitted makes a place forget a
live instance or ends one that it does not hold.

What permitted calls preserve is stated as one account.  The numbers of all
instances that have begun are, in some order, the numbers of those that have
ended together with the numbers at the places.  Since no number occurs twice on
the one side, none does on the other; hence an instance ends at most once, is at
one place at most, and is at none after its end.  The account also counts: what
has begun and not ended is what the places hold.

Each call changes the account at one place or carries an instance from one place
to another.  A place is therefore taken out of the list of all places first, and
the change is made beside the others.
-/

namespace Capability
namespace Lifecycle

namespace Memory

open scoped List

variable {α : Type}

/-! ## Places -/

section Put

variable (memory : Memory α) (target : Nat) (content : Option (Instance α))

@[simp] theorem place_put_same : (memory.put target content).place target = content :=
  if_pos rfl

variable {target} in
theorem place_put_of_ne {place : Nat} (other : place ≠ target) :
    (memory.put target content).place place = memory.place place :=
  if_neg other

@[simp] theorem ledger_put : (memory.put target content).ledger = memory.ledger := rfl

end Put

/-- The number of the instance at a place. -/
def number? (memory : Memory α) (place : Nat) : Option Nat :=
  (memory.place place).map (·.number)

/-- The numbers of the instances at places below a bound. -/
def placed (memory : Memory α) (bound : Nat) : List Nat :=
  (List.range bound).filterMap memory.number?

theorem mem_placed {memory : Memory α} {bound number : Nat} :
    number ∈ memory.placed bound ↔ ∃ place < bound, memory.number? place = some number := by
  simp [placed]

/-- The numbers at the places are the one at a certain place and those at the others,
as long as these others hold the same in a second memory, where that place is empty. -/
theorem placed_perm (memory bare : Memory α) {bound target : Nat} (within : target < bound)
    (same : ∀ place, place ≠ target → memory.place place = bare.place place)
    (nothing : bare.place target = none) :
    memory.placed bound ~ (memory.number? target).toList ++ bare.placed bound := by
  have out : List.range bound ~ target :: (List.range bound).erase target :=
    List.perm_cons_erase (List.mem_range.mpr within)
  have others : ((List.range bound).erase target).filterMap memory.number? =
      ((List.range bound).erase target).filterMap bare.number? := by
    apply List.filterMap_congr
    intro place rest
    rw [number?, same place (List.nodup_range.mem_erase_iff.mp rest).1, number?]
  have bareOut := out.filterMap bare.number?
  rw [List.filterMap_cons_none (by rw [number?, nothing, Option.map_none]), ← others] at bareOut
  have fullOut := out.filterMap memory.number?
  cases held : memory.number? target with
  | none =>
      rw [List.filterMap_cons_none held] at fullOut
      exact fullOut.trans bareOut.symm
  | some number =>
      rw [List.filterMap_cons_some held] at fullOut
      exact fullOut.trans (bareOut.symm.cons number)

/-! ## The account -/

/-- All instances that have begun are accounted for: they have ended or are at a
place below the bound, and places from the bound on are empty. -/
structure Consistent (memory : Memory α) (bound : Nat) : Prop where
  account : List.range memory.ledger.begun ~ memory.ledger.ended ++ memory.placed bound
  empty_of_le : ∀ place, bound ≤ place → memory.place place = none

theorem consistent_empty (bound : Nat) : (empty : Memory α).Consistent bound where
  account := by
    have nothing : (empty : Memory α).placed bound = [] := by
      simp [placed, number?, empty]
    rw [nothing]
    exact List.Perm.refl []
  empty_of_le _ _ := rfl

namespace Consistent

variable {memory : Memory α} {bound : Nat}

theorem lt_of_place (consistent : memory.Consistent bound) {place : Nat} {held : Instance α}
    (holds : memory.place place = some held) : place < bound := by
  by_contra beyond
  rw [consistent.empty_of_le place (Nat.le_of_not_lt beyond)] at holds
  cases holds

theorem number_mem_placed (consistent : memory.Consistent bound) {place : Nat}
    {held : Instance α} (holds : memory.place place = some held) :
    held.number ∈ memory.placed bound := by
  refine mem_placed.mpr ⟨place, consistent.lt_of_place holds, ?_⟩
  rw [number?, holds, Option.map_some]

theorem nodup (consistent : memory.Consistent bound) :
    (memory.ledger.ended ++ memory.placed bound).Nodup :=
  consistent.account.nodup_iff.mp List.nodup_range

/-- No instance ends twice. -/
theorem nodup_ended (consistent : memory.Consistent bound) : memory.ledger.ended.Nodup :=
  (List.nodup_append.mp consistent.nodup).1

/-- An instance that is at a place has begun. -/
theorem number_lt_begun (consistent : memory.Consistent bound) {place : Nat} {held : Instance α}
    (holds : memory.place place = some held) : held.number < memory.ledger.begun := by
  have listed := List.mem_append_right memory.ledger.ended (consistent.number_mem_placed holds)
  exact List.mem_range.mp (consistent.account.mem_iff.mpr listed)

/-- An instance that is at a place has not ended. -/
theorem number_not_ended (consistent : memory.Consistent bound) {place : Nat} {held : Instance α}
    (holds : memory.place place = some held) : held.number ∉ memory.ledger.ended := by
  intro ended
  exact (List.nodup_append.mp consistent.nodup).2.2 _ ended _
    (consistent.number_mem_placed holds) rfl

/-- No instance is at two places. -/
theorem place_unique (consistent : memory.Consistent bound) {first second : Nat}
    {left right : Instance α} (atFirst : memory.place first = some left)
    (atSecond : memory.place second = some right) (same : left.number = right.number) :
    first = second := by
  by_contra different
  have out := placed_perm memory (memory.put first none) (consistent.lt_of_place atFirst)
    (fun place other => (memory.place_put_of_ne none other).symm) (memory.place_put_same first none)
  have nodup := out.nodup_iff.mp (List.nodup_append.mp consistent.nodup).2.1
  rw [number?, atFirst, Option.map_some, Option.toList_some, List.singleton_append,
    List.nodup_cons] at nodup
  apply nodup.1
  refine mem_placed.mpr ⟨second, consistent.lt_of_place atSecond, ?_⟩
  rw [number?, place_put_of_ne _ _ (Ne.symm different), atSecond, Option.map_some, same]

/-- As many instances are alive as there are places that hold one. -/
theorem alive_eq (consistent : memory.Consistent bound) :
    memory.ledger.alive = (List.range bound).countP memory.holds := by
  have total := consistent.account.length_eq
  have sameTest : (fun place => (memory.number? place).isSome) = memory.holds := by
    funext place
    exact Option.isSome_map
  rw [List.length_range, List.length_append, placed, List.length_filterMap_eq_countP,
    sameTest] at total
  rw [Ledger.alive]
  omega

/-- A place beyond the bound may be brought within it. -/
theorem widen (consistent : memory.Consistent bound) : memory.Consistent (bound + 1) where
  account := by
    have nothing : memory.number? bound = none := by
      rw [number?, consistent.empty_of_le bound (Nat.le_refl _), Option.map_none]
    have same : memory.placed (bound + 1) = memory.placed bound := by
      rw [placed, List.range_succ, List.filterMap_append, List.filterMap_cons_none nothing,
        List.filterMap_nil, List.append_nil, placed]
    rw [same]
    exact consistent.account
  empty_of_le place beyond := consistent.empty_of_le place (Nat.le_of_succ_le beyond)

/-- What holds of some bound holds of every larger one. -/
theorem mono (consistent : memory.Consistent bound) {wider : Nat} (le : bound ≤ wider) :
    memory.Consistent wider := by
  induction le with
  | refl => exact consistent
  | step _ inductionHypothesis => exact inductionHypothesis.widen

end Consistent

/-! ## What calls preserve -/

theorem place_eq_none {memory : Memory α} {place : Nat} (dead : memory.holds place = false) :
    memory.place place = none :=
  Option.isNone_iff_eq_none.mp (Option.isSome_eq_false_iff.mp dead)

theorem exists_of_holds {memory : Memory α} {place : Nat} (live : memory.holds place = true) :
    ∃ held, memory.place place = some held :=
  Option.isSome_iff_exists.mp live

section Finish

variable (memory : Memory α) (target : Nat)

/-- What is left at the places when an instance ends.  If there is none, nothing changes. -/
theorem place_finish : (memory.finish target).place = (memory.put target none).place := by
  funext place
  cases held : memory.place target with
  | none =>
      rw [finish, held]
      by_cases same : place = target
      · rw [same, held, place_put_same]
      · rw [place_put_of_ne _ _ same]
  | some ending =>
      rw [finish, held]
      rfl

/-- What an instance adds to the ledger when it ends. -/
theorem ledger_finish : (memory.finish target).ledger =
    ⟨memory.ledger.begun, (memory.number? target).toList ++ memory.ledger.ended⟩ := by
  cases held : memory.place target with
  | none => rw [finish, number?, held]; rfl
  | some ending => rw [finish, number?, held]; rfl

end Finish

section Calls

variable {memory : Memory α} {bound target source : Nat}

/-- An instance that begins at an empty place joins the account. -/
theorem Consistent.construct (consistent : memory.Consistent bound) (within : target < bound)
    (dead : memory.holds target = false) (value : α) :
    (memory.construct target value).Consistent bound where
  account := by
    have joined := placed_perm (memory.construct target value) memory within
      (fun place other => place_put_of_ne _ _ other) (place_eq_none dead)
    have begins : (memory.construct target value).number? target = some memory.ledger.begun :=
      congrArg (Option.map _) (place_put_same _ _ _)
    rw [begins] at joined
    change List.range (memory.ledger.begun + 1) ~ memory.ledger.ended ++ _
    rw [List.range_succ]
    calc List.range memory.ledger.begun ++ [memory.ledger.begun]
      _ ~ memory.ledger.begun :: List.range memory.ledger.begun :=
        List.perm_append_singleton _ _
      _ ~ memory.ledger.begun :: (memory.ledger.ended ++ memory.placed bound) :=
        consistent.account.cons _
      _ ~ memory.ledger.ended ++ memory.ledger.begun :: memory.placed bound :=
        List.perm_middle.symm
      _ ~ memory.ledger.ended ++ (memory.construct target value).placed bound :=
        joined.symm.append_left _
  empty_of_le place beyond := by
    have other : place ≠ target := by omega
    exact (place_put_of_ne _ _ other).trans (consistent.empty_of_le place beyond)

/-- An instance that ends passes from its place to those that have ended. -/
theorem Consistent.finish (consistent : memory.Consistent bound) (within : target < bound) :
    (memory.finish target).Consistent bound where
  account := by
    have left : memory.placed bound ~
        (memory.number? target).toList ++ (memory.finish target).placed bound := by
      refine placed_perm _ _ within (fun place other => ?_) ?_
      · rw [place_finish, place_put_of_ne _ _ other]
      · rw [place_finish, place_put_same]
    rw [ledger_finish]
    calc List.range memory.ledger.begun
      _ ~ memory.ledger.ended ++ memory.placed bound := consistent.account
      _ ~ memory.ledger.ended ++
          ((memory.number? target).toList ++ (memory.finish target).placed bound) :=
        left.append_left _
      _ ~ ((memory.number? target).toList ++ memory.ledger.ended) ++
          (memory.finish target).placed bound := by
        rw [← List.append_assoc]
        exact List.perm_append_comm.append_right _
  empty_of_le place beyond := by
    have other : place ≠ target := by omega
    rw [place_finish, place_put_of_ne _ _ other]
    exact consistent.empty_of_le place beyond

/-- An instance that is carried to an empty place stays in the account. -/
theorem Consistent.carry (consistent : memory.Consistent bound) (within : target < bound)
    (different : target ≠ source) (dead : memory.holds target = false)
    (live : memory.holds source = true) :
    ((memory.put target (memory.place source)).put source none).Consistent bound := by
  rcases exists_of_holds live with ⟨held, holds⟩
  constructor
  case account =>
    -- Both before and after, the account is that of the places without the instance, and it.
    have before := placed_perm memory (memory.put source none) (consistent.lt_of_place holds)
      (fun place other => (memory.place_put_of_ne none other).symm)
      (memory.place_put_same source none)
    have after := placed_perm ((memory.put target (memory.place source)).put source none)
      (memory.put source none) within ?_ ?_
    · have arrives : ((memory.put target (memory.place source)).put source none).number? target =
          memory.number? source := by
        rw [number?, place_put_of_ne _ _ different, place_put_same, number?]
      rw [arrives] at after
      exact consistent.account.trans ((before.trans after.symm).append_left _)
    · intro place other
      by_cases same : place = source
      · rw [same, place_put_same, place_put_same]
      · rw [place_put_of_ne _ _ same, place_put_of_ne _ _ other, place_put_of_ne _ _ same]
    · rw [place_put_of_ne _ _ different, place_eq_none dead]
  case empty_of_le =>
    intro place beyond
    have notSource : place ≠ source := by
      have := consistent.lt_of_place holds
      omega
    have notTarget : place ≠ target := by omega
    rw [place_put_of_ne _ _ notSource, place_put_of_ne _ _ notTarget]
    exact consistent.empty_of_le place beyond

end Calls

end Memory
end Lifecycle
end Capability

import Capability.Proofs.Lifecycle.Memory

/-!
# Lists of calls, and the occupation of places

Whether a call is permitted depends on the places that hold something, and on
nothing else about the instances.  What a permitted call leaves occupied depends
on that alone too.  So a list of calls that is to be permitted at every moment
can be checked against a table of occupied places, which knows neither values
nor numbers nor the ledger.  What the account says of instances then follows at
every moment of the list, for each prefix of a permitted list is permitted.
-/

namespace Capability
namespace Lifecycle

variable {α : Type}

/-! ## Occupied places -/

/-- The places that are occupied after a call. -/
def Call.occupies (occupied : Nat → Bool) : Call α → Nat → Bool
  | .defaultNew target | .copyNew target _ | .write target _ =>
    fun place => place == target || occupied place
  | .moveNew target source => fun place => place == target || (place != source && occupied place)
  | .destruct target => fun place => place != target && occupied place

/-- The places that are occupied after a list of calls. -/
def occupiedAfter (calls : List (Call α)) (occupied : Nat → Bool) : Nat → Bool :=
  calls.foldl (fun occupied call => call.occupies occupied) occupied

theorem occupiedAfter_append (first second : List (Call α)) (occupied : Nat → Bool) :
    occupiedAfter (first ++ second) occupied =
      occupiedAfter second (occupiedAfter first occupied) :=
  List.foldl_append

/-- Whether occupied places permit a call. -/
def Call.Admitted (occupied : Nat → Bool) : Call α → Prop
  | .defaultNew target | .write target _ => occupied target = false
  | .copyNew target source => occupied target = false ∧ occupied source = true
  | .moveNew target source => target ≠ source ∧ occupied target = false ∧ occupied source = true
  | .destruct target => occupied target = true

/-- A call is permitted by what is occupied. -/
theorem Call.permitted_iff (memory : Memory α) (call : Call α) :
    call.Permitted memory ↔ call.Admitted memory.holds := by
  cases call <;> rfl

namespace Memory

variable (memory : Memory α)

theorem holds_put_none (target : Nat) :
    (memory.put target none).holds = fun place => place != target && memory.holds place := by
  funext place
  by_cases same : place = target
  · rw [same, holds, place_put_same, bne_self_eq_false, Bool.false_and]
    rfl
  · rw [holds, place_put_of_ne _ _ same, bne_iff_ne.mpr same, Bool.true_and, holds]

theorem holds_put_some (target : Nat) (held : Instance α) :
    (memory.put target (some held)).holds = fun place => place == target || memory.holds place := by
  funext place
  by_cases same : place = target
  · rw [same, holds, place_put_same, beq_self_eq_true, Bool.true_or]
    rfl
  · rw [holds, place_put_of_ne _ _ same, beq_eq_false_iff_ne.mpr same, Bool.false_or, holds]

theorem holds_construct (target : Nat) (value : α) :
    (memory.construct target value).holds = fun place => place == target || memory.holds place :=
  holds_put_some _ _ _

theorem holds_finish (target : Nat) :
    (memory.finish target).holds = fun place => place != target && memory.holds place := by
  rw [← holds_put_none]
  funext place
  rw [holds, place_finish, holds]

variable {memory}

theorem exists_value_of_holds {place : Nat} (live : memory.holds place = true) :
    ∃ value, memory.value? place = some value := by
  rcases exists_of_holds live with ⟨held, holds⟩
  exact ⟨held.value, by rw [value?, holds, Option.map_some]⟩

/-- A permitted call occupies and vacates the places that it is said to. -/
theorem holds_perform (maker : Maker α) {call : Call α} (permitted : call.Permitted memory) :
    (memory.perform maker call).holds = call.occupies memory.holds := by
  cases call with
  | defaultNew target => exact holds_construct _ _ _
  | write target value => exact holds_construct _ _ _
  | destruct target => exact holds_finish _ _
  | copyNew target source =>
      rcases exists_value_of_holds permitted.2 with ⟨value, reads⟩
      rw [perform, reads]
      exact holds_construct _ _ _
  | moveNew target source =>
      rcases exists_of_holds permitted.2.2 with ⟨held, holds⟩
      rw [perform, holds, holds_put_none, holds_put_some]
      funext place
      change (place != source && (place == target || memory.holds place)) =
        (place == target || (place != source && memory.holds place))
      by_cases same : place = target
      · rw [same, beq_self_eq_true, Bool.true_or, Bool.true_or, Bool.and_true]
        exact bne_iff_ne.mpr permitted.1
      · rw [beq_eq_false_iff_ne.mpr same, Bool.false_or, Bool.false_or]

/-! ## Accounted memories -/

/-- The account of a memory is in order, whatever bound its places have. -/
def Accounted (memory : Memory α) : Prop := ∃ bound, memory.Consistent bound

theorem accounted_empty : (empty : Memory α).Accounted := ⟨0, consistent_empty 0⟩

/-- A permitted call keeps the account in order. -/
theorem Accounted.perform (accounted : memory.Accounted) (maker : Maker α) {call : Call α}
    (permitted : call.Permitted memory) : (memory.perform maker call).Accounted := by
  rcases accounted with ⟨bound, consistent⟩
  cases call with
  | defaultNew target =>
      have wider := consistent.mono (Nat.le_max_left bound (target + 1))
      exact ⟨_, wider.construct (Nat.le_max_right _ _) permitted _⟩
  | write target value =>
      have wider := consistent.mono (Nat.le_max_left bound (target + 1))
      exact ⟨_, wider.construct (Nat.le_max_right _ _) permitted _⟩
  | copyNew target source =>
      rcases exists_value_of_holds permitted.2 with ⟨value, reads⟩
      have wider := consistent.mono (Nat.le_max_left bound (target + 1))
      rw [Memory.perform, reads]
      exact ⟨_, wider.construct (Nat.le_max_right _ _) permitted.1 _⟩
  | moveNew target source =>
      have wider := consistent.mono (Nat.le_max_left bound (target + 1))
      exact ⟨_, wider.carry (Nat.le_max_right _ _) permitted.1 permitted.2.1 permitted.2.2⟩
  | destruct target =>
      rcases exists_of_holds permitted with ⟨held, holds⟩
      exact ⟨bound, consistent.finish (consistent.lt_of_place holds)⟩

/-! ## Lists of calls -/

/-- Every call of a list is permitted when its turn comes. -/
def AllPermitted (maker : Maker α) (memory : Memory α) : List (Call α) → Prop
  | [] => True
  | call :: calls => call.Permitted memory ∧ AllPermitted maker (memory.perform maker call) calls

section AllPermitted

variable {maker : Maker α}

theorem performAll_append (memory : Memory α) (first second : List (Call α)) :
    memory.performAll maker (first ++ second) =
      (memory.performAll maker first).performAll maker second :=
  List.foldl_append

theorem allPermitted_append {first second : List (Call α)} :
    memory.AllPermitted maker (first ++ second) ↔
      memory.AllPermitted maker first ∧
        (memory.performAll maker first).AllPermitted maker second := by
  induction first generalizing memory with
  | nil => exact ⟨fun permitted => ⟨trivial, permitted⟩, And.right⟩
  | cons call calls inductionHypothesis =>
      rw [List.cons_append, AllPermitted, AllPermitted, inductionHypothesis, and_assoc]
      rfl

/-- The account is in order after a permitted list of calls. -/
theorem Accounted.performAll {calls : List (Call α)} (accounted : memory.Accounted)
    (permitted : memory.AllPermitted maker calls) : (memory.performAll maker calls).Accounted := by
  induction calls generalizing memory with
  | nil => exact accounted
  | cons call calls inductionHypothesis =>
      exact inductionHypothesis (accounted.perform maker permitted.1) permitted.2

/-- The places that are occupied after a permitted list of calls. -/
theorem holds_performAll {calls : List (Call α)} (permitted : memory.AllPermitted maker calls) :
    (memory.performAll maker calls).holds = occupiedAfter calls memory.holds := by
  induction calls generalizing memory with
  | nil => rfl
  | cons call calls inductionHypothesis =>
      rw [occupiedAfter, List.foldl_cons, ← holds_perform maker permitted.1]
      exact inductionHypothesis permitted.2

end AllPermitted

end Memory
end Lifecycle
end Capability

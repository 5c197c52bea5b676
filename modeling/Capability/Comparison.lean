/-!
Outcomes of a three-way comparison and their encoding in one signed byte.

A comparison of two values of a partially ordered type has four outcomes.  Three
of them are the outcomes of a total order; the fourth says that the operands are
not related at all.  The outcomes cross the boundary as a signed byte, where the
largest byte stands for the fourth and every other byte without a meaning of its
own is read as the fourth as well, so that decoding never fails.
-/

namespace Capability

/-- The outcome of comparing two values that need not be ordered. -/
inductive Comparison where
  | less
  | equal
  | greater
  | unordered
deriving DecidableEq, Repr

namespace Comparison

/-- Decode a byte.  Bytes without a meaning of their own read as `unordered`. -/
def ofByte (byte : Int8) : Comparison :=
  if byte = -1 then less
  else if byte = 0 then equal
  else if byte = 1 then greater
  else unordered

/-- Encode as a byte; the largest byte stands for `unordered`. -/
def toByte : Comparison → Int8
  | less => -1
  | equal => 0
  | greater => 1
  | unordered => 127

/-- The outcome of a total order. -/
def ofOrdering : Ordering → Comparison
  | .lt => less
  | .eq => equal
  | .gt => greater

/-- The outcome of a partial order, which may leave two values unrelated. -/
def ofOrdering? : Option Ordering → Comparison
  | some ordering => ofOrdering ordering
  | none => unordered

/-- The ordering that an ordered outcome stands for. -/
def toOrdering? : Comparison → Option Ordering
  | less => some .lt
  | equal => some .eq
  | greater => some .gt
  | unordered => none

/-- Whether the operands are related at all. -/
def isOrdered : Comparison → Bool
  | unordered => false
  | _ => true

/--
The outcome read off `<` and `==` alone.

One answer of the two decides.  Where neither holds the second operand must be
the smaller one, because nothing else is known; where both hold the answers
contradict each other and the operands count as unrelated.
-/
def synthesize (isLess isEqual : Bool) : Comparison :=
  match isLess, isEqual with
  | true, false => less
  | false, false => greater
  | false, true => equal
  | true, true => unordered

/-- The name of the outcome. -/
def name : Comparison → String
  | less => "Less"
  | equal => "Equal"
  | greater => "Greater"
  | unordered => "Unordered"

/-- Decoding undoes encoding. -/
@[simp] theorem ofByte_toByte (outcome : Comparison) : ofByte outcome.toByte = outcome := by
  cases outcome <;> rfl

/-- Reading an ordered outcome as an ordering and back loses nothing. -/
@[simp] theorem ofOrdering?_toOrdering? (outcome : Comparison) :
    ofOrdering? outcome.toOrdering? = outcome := by
  cases outcome <;> rfl

/-- An outcome of a partial order reads back as the answer it was made from. -/
@[simp] theorem toOrdering?_ofOrdering? (answer : Option Ordering) :
    (ofOrdering? answer).toOrdering? = answer := by
  rcases answer with _ | ordering
  · rfl
  · cases ordering <;> rfl

end Comparison
end Capability

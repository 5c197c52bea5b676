/-!
Sets of characters written as arithmetic runs of code points.

The properties of the character standard are data.  Below U+0080 each property
is a short rule and is stated as one; beyond it the property is a list of runs,
and membership is a search through that list.  White space is a property of a few
runs; the others are long tables.

What is to hold of every character of one table with respect to another is
checked run by run: the ends of two runs tell whether one lies within the other
and whether they have a character in common.
-/

namespace Capability
namespace Unicode

/-- The code points `first`, `first + step`, and so on up to `last`. -/
structure Run where
  first : Nat
  last : Nat
  step : Nat

/-- Whether a code point is one of the run. -/
def Run.covers (run : Run) (code : Nat) : Bool :=
  run.first ≤ code && code ≤ run.last && (code - run.first) % run.step == 0

/-- Membership in a property given by an ASCII rule and by runs beyond ASCII. -/
def member (ascii : Char → Bool) (runs : List Run) (c : Char) : Bool :=
  if c.toNat < 0x80 then ascii c else runs.any fun run => run.covers c.toNat

/-! ### White space -/

/-- White space beyond ASCII. -/
def blankRuns : List Run := [
  ⟨0x85, 0x85, 1⟩, ⟨0xA0, 0xA0, 1⟩, ⟨0x1680, 0x1680, 1⟩, ⟨0x2000, 0x200A, 1⟩, ⟨0x2028, 0x2029, 1⟩,
  ⟨0x202F, 0x202F, 1⟩, ⟨0x205F, 0x205F, 1⟩, ⟨0x3000, 0x3000, 1⟩]

/-- White space: the space, the five ASCII layout controls, and the blanks of other scripts. -/
def isBlank : Char → Bool :=
  member (fun c => c == ' ' || (0x09 ≤ c.toNat && c.toNat ≤ 0x0D)) blankRuns

/-! ### ASCII characters -/

/-- On ASCII a property is its ASCII rule, whatever the runs are. -/
theorem member_of_ascii {ascii : Char → Bool} {runs : List Run} {c : Char}
    (below : c.toNat < 0x80) : member ascii runs c = ascii c := by
  simp [member, below]

/-- A property holds of every ASCII character if it does of every code point below U+0080. -/
theorem ascii_forall {P : Char → Prop} (each : ∀ code : Fin 0x80, P (Char.ofNat code)) {c : Char}
    (below : c.toNat < 0x80) : P c := by
  have here := each ⟨c.toNat, below⟩
  rwa [Char.ofNat_toNat] at here

/-- Letters and digits in the narrow sense are ASCII. -/
theorem ascii_of_isAlphanum {c : Char} (alphanumeric : c.isAlphanum = true) : c.toNat < 0x80 := by
  change (decide ('A'.val ≤ c.val ∧ c.val ≤ 'Z'.val)
    || (decide ('a'.val ≤ c.val) && decide (c.val ≤ 'z'.val))
    || (decide ('0'.val ≤ c.val) && decide (c.val ≤ '9'.val))) = true at alphanumeric
  simp only [Bool.or_eq_true, Bool.and_eq_true, decide_eq_true_eq, UInt32.le_iff_toNat_le]
    at alphanumeric
  change ((65 ≤ c.toNat ∧ c.toNat ≤ 90) ∨ (97 ≤ c.toNat ∧ c.toNat ≤ 122)) ∨
    (48 ≤ c.toNat ∧ c.toNat ≤ 57) at alphanumeric
  omega

theorem ascii_of_isDigit {c : Char} (digit : c.isDigit = true) : c.toNat < 0x80 :=
  ascii_of_isAlphanum (by rw [Char.isAlphanum, digit, Bool.or_true])

/-! ### Runs side by side -/

namespace Run

theorem bounds_of_covers {run : Run} {code : Nat} (covered : run.covers code = true) :
    run.first ≤ code ∧ code ≤ run.last := by
  simp only [covers, Bool.and_eq_true, decide_eq_true_eq] at covered
  exact covered.1

theorem covers_of_bounds {run : Run} {code : Nat} (unit : run.step = 1)
    (low : run.first ≤ code) (high : code ≤ run.last) : run.covers code = true := by
  simp [covers, unit, low, high, Nat.mod_one]

/-- Whether one run ends before the other begins. -/
def isApart (left right : Run) : Bool := left.last.blt right.first || right.last.blt left.first

/-- A run that is apart from every run of a property covers none of its characters. -/
theorem not_member_of_isApart {run : Run} {runs : List Run} {ascii : Char → Bool} {c : Char}
    (apart : runs.all run.isApart = true) (covered : run.covers c.toNat = true)
    (beyond : ¬c.toNat < 0x80) : member ascii runs c = false := by
  rw [member, if_neg beyond, Bool.eq_false_iff]
  intro belongs
  rcases List.any_eq_true.mp belongs with ⟨other, listed, holds⟩
  have here := bounds_of_covers covered
  have there := bounds_of_covers holds
  have noOverlap := List.all_eq_true.mp apart other listed
  simp only [isApart, Bool.or_eq_true, Nat.blt_eq] at noOverlap
  omega

end Run
end Unicode
end Capability

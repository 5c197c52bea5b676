import Capability.Json.Value
import Capability.Proofs.Json.Consumption

/-!
# Reading natural numbers

A natural number below two to the power of sixty-four is read from its decimal
digits as the number it is.  No digit overflows the word in which digits are
collected, because no beginning of the digits stands for more than all of them,
and what follows the digits must not continue them.
-/

namespace Capability
namespace Json
namespace Reader

variable {rest : List Char}

/-! ## Digits -/

theorem le_ofDigitChars (digits : List Char) (number : Nat) :
    number ≤ Nat.ofDigitChars 10 digits number := by
  rw [Nat.ofDigitChars_eq_ofDigitChars_zero]
  have positive : 1 ≤ 10 ^ digits.length := Nat.one_le_pow _ _ (by decide)
  exact Nat.le_trans (Nat.le_mul_of_pos_left number positive) (Nat.le_add_right _ _)

/-- Digits are read as long as they fit, and all of them do if their number does. -/
theorem digitsFitting_consumes {digits : List Char} (areDigits : ∀ c ∈ digits, c.isDigit = true)
    (delimited : Delimited rest) (fuel : Nat) (enough : digits.length ≤ fuel) (number count : Nat)
    (fits : Nat.ofDigitChars 10 digits number < UInt64.size) :
    Consumes (digitsFitting fuel number count) digits rest
      (Nat.ofDigitChars 10 digits number, count + digits.length) := by
  induction digits generalizing fuel number count with
  | nil =>
      cases fuel with
      | zero => exact .pure rest _
      | succ fuel =>
          apply Consumes.peek
          rw [List.nil_append]
          cases found : rest.head? with
          | none => exact .pure rest _
          | some c =>
              simp only [(delimited c found).1]
              exact .pure rest _
  | cons c digits inductionHypothesis =>
      rcases Nat.exists_eq_add_one_of_ne_zero (Nat.ne_zero_of_lt enough) with ⟨fuel, rfl⟩
      rw [Nat.ofDigitChars_cons] at fits
      have next : 10 * number + (c.toNat - '0'.toNat) = number * 10 + (c.toNat - 48) := by
        rw [Nat.mul_comm]
        rfl
      rw [next] at fits
      -- What is collected up to here is at most the whole number, so the word holds it.
      have fitsWord : Reader.fitsWord (number * 10 + (c.toNat - 48)) = true :=
        decide_eq_true (Nat.lt_of_le_of_lt (le_ofDigitChars digits _) fits)
      have others := inductionHypothesis (fun c member => areDigits c (List.mem_cons_of_mem _ member))
        fuel (Nat.le_of_succ_le_succ enough) _ (count + 1) fits
      apply Consumes.peek
      simp only [List.cons_append, List.head?_cons, areDigits c List.mem_cons_self, if_true, fitsWord]
      rw [Nat.ofDigitChars_cons, next, List.length_cons, ← Nat.add_assoc, Nat.add_right_comm]
      exact .advanced others

theorem skipDigits_consumes (delimited : Delimited rest) : Consumes skipDigits [] rest 0 := by
  apply Consumes.remaining
  rw [List.nil_append]
  cases rest with
  | nil => exact .pure [] 0
  | cons c rest =>
      apply Consumes.peek
      simp only [List.nil_append, List.head?_cons, (delimited c rfl).1]
      exact .pure _ 0

/-- The digits of a positive number do not begin with zero. -/
theorem head?_toDigits_ne_zero (number : Nat) (positive : 0 < number) :
    (Nat.toDigits 10 number).head? ≠ some '0' := by
  induction number using Nat.strongRecOn with
  | ind number inductionHypothesis =>
      by_cases small : number < 10
      · rw [Nat.toDigits_of_lt_base small]
        have nonzero : ∀ digit < 10, 0 < digit → [digit.digitChar].head? ≠ some '0' := by decide
        exact nonzero number small positive
      · have quotient : 0 < number / 10 := Nat.div_pos (Nat.not_lt.mp small) (by decide)
        rw [Nat.toDigits_of_base_le (by decide) (Nat.not_lt.mp small), List.head?_append]
        have first := inductionHypothesis (number / 10) (Nat.div_lt_self positive (by decide)) quotient
        cases digits : Nat.toDigits 10 (number / 10) with
        | nil => exact absurd digits Nat.toDigits_ne_nil
        | cons c others =>
            rw [digits] at first
            exact first

/-! ## Whole numbers -/

/-- Digits that nothing continues are an integer. -/
theorem afterInteger_consumes (delimited : Delimited rest) (number : Nat) :
    Consumes (afterInteger true number) [] rest (.integer number) := by
  apply Consumes.peek
  rw [List.nil_append]
  split
  · next found => exact absurd rfl (delimited _ found).2.1
  · next found => exact absurd rfl (delimited _ found).2.2.1
  · next found => exact absurd rfl (delimited _ found).2.2.2
  · exact .pure rest _

theorem unsigned_consumes_zero (delimited : Delimited rest) :
    Consumes (unsigned true) ['0'] rest (.integer 0) := by
  have integer : Consumes (afterInteger true 0) [] rest (.integer 0) :=
    afterInteger_consumes delimited 0
  apply Consumes.peek
  apply Consumes.advanced
  apply Consumes.peek
  rw [List.nil_append]
  cases found : rest.head? with
  | none => exact integer
  | some c =>
      simp only [(delimited c found).1]
      exact integer

/-- Digits that do not begin with zero are an integer if their number fits a word. -/
theorem unsigned_consumes_digits {c : Char} {digits : List Char}
    (areDigits : ∀ digit ∈ c :: digits, digit.isDigit = true) (nonzero : c ≠ '0')
    (delimited : Delimited rest) (fits : Nat.ofDigitChars 10 (c :: digits) 0 < UInt64.size) :
    Consumes (unsigned true) (c :: digits) rest
      (.integer (Nat.ofDigitChars 10 (c :: digits) 0)) := by
  have value : Nat.ofDigitChars 10 (c :: digits) 0 =
      Nat.ofDigitChars 10 digits (c.toNat - 48) := by
    rw [Nat.ofDigitChars_cons, Nat.mul_zero, Nat.zero_add]
    rfl
  rw [value] at fits ⊢
  have isDigit := areDigits c List.mem_cons_self
  have enough : digits.length ≤ (digits ++ rest).length := by
    rw [List.length_append]
    exact Nat.le_add_right _ _
  have others := digitsFitting_consumes
    (fun digit member => areDigits digit (List.mem_cons_of_mem _ member)) delimited _ enough _ 0 fits
  apply Consumes.peek
  simp only [List.cons_append, List.head?_cons, isDigit, Bool.not_true, Bool.false_eq_true, if_false]
  apply Consumes.advanced
  apply Consumes.remaining
  apply others.bind_nil
  apply (skipDigits_consumes delimited).nil_bind
  exact afterInteger_consumes delimited _

/-- The digits of a number that fits a word are read as that number. -/
theorem number_consumes {number : Nat} (fits : number < UInt64.size) (delimited : Delimited rest) :
    Consumes Reader.number (Nat.toDigits 10 number) rest (.integer number) := by
  have areDigits : ∀ c ∈ Nat.toDigits 10 number, c.isDigit = true := fun c member =>
    Nat.isDigit_of_mem_toDigits (by decide) (by decide) member
  have value : Nat.ofDigitChars 10 (Nat.toDigits 10 number) 0 = number :=
    Nat.ofDigitChars_ten_toDigits
  by_cases zero : number = 0
  · subst number
    rw [Nat.toDigits_zero]
    exact .peek (unsigned_consumes_zero delimited)
  · have first := head?_toDigits_ne_zero number (Nat.pos_of_ne_zero zero)
    cases digits : Nat.toDigits 10 number with
    | nil => exact absurd digits Nat.toDigits_ne_nil
    | cons c others =>
        rw [digits] at areDigits value first
        have nonzero : c ≠ '0' := fun equal => first (congrArg some equal)
        have noSign : c ≠ '-' := by
          intro equal
          have isDigit := areDigits c List.mem_cons_self
          rw [equal] at isDigit
          exact absurd isDigit (by decide)
        rw [← value] at fits
        have read := unsigned_consumes_digits areDigits nonzero delimited fits
        rw [value] at read
        apply Consumes.peek
        simp only [List.cons_append, List.head?_cons]
        split
        · next found => exact absurd (Option.some.inj found) noSign
        · exact read

/-! ## Sizes -/

theorem isBlank_of_isDigit {c : Char} (isDigit : c.isDigit = true) : isBlank c = false := by
  cases blank : isBlank c with
  | false => rfl
  | true =>
      simp only [isBlank, Bool.or_eq_true, beq_iff_eq] at blank
      rcases blank with ((rfl | rfl) | rfl) | rfl <;> exact absurd isDigit (by decide)

/-- A number of sixty-four bits is read from the digits that are written for it. -/
theorem size_reads (number : UInt64) : Reads size (digits number.toNat) number := by
  have written : digits number.toNat = Nat.toDigits 10 number.toNat := rfl
  have fits : number.toNat < UInt64.size := number.toNat_lt
  have read : ∀ rest, Delimited rest →
      Consumes Reader.number (Nat.toDigits 10 number.toNat) rest (.integer number.toNat) :=
    fun rest delimited => number_consumes fits delimited
  have areDigits : ∀ c ∈ Nat.toDigits 10 number.toNat, c.isDigit = true := fun c member =>
    Nat.isDigit_of_mem_toDigits (by decide) (by decide) member
  rw [written]
  cases spelled : Nat.toDigits 10 number.toNat with
  | nil => exact absurd spelled Nat.toDigits_ne_nil
  | cons c others =>
      rw [spelled] at read areDigits
      have isDigit := areDigits c List.mem_cons_self
      have opens : Opens (c :: others) := by
        refine ⟨c, others, rfl, isBlank_of_isDigit isDigit, ?_⟩
        intro equal
        rw [equal] at isDigit
        exact absurd isDigit (by decide)
      refine ⟨opens, fun blank rest isBlank delimited => ?_⟩
      apply Consumes.settled
      apply Consumes.peekToken isBlank (opens.solid rest)
      simp only [List.cons_append, List.head?_cons, isDigit, Bool.or_true, if_true]
      apply (read rest delimited).bind_nil
      simp only
      rw [if_neg (Int.not_lt.mpr (Int.natCast_nonneg _)), Int.toNat_natCast, UInt64.ofNat_toNat]
      exact .pure rest number

end Reader
end Json
end Capability

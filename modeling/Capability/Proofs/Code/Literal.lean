import Capability.Proofs.Code.Number
import Capability.Proofs.Code.Quoted

/-!
# Literals in front of other text

What kind of literal stands ahead is decided by its first characters: numbers begin
with a digit and no other literal does.  So a literal is read back in front of any
text that is not within a word and does not go on with it as a number.
-/

namespace Capability
namespace Code
namespace Lexeme

open Unicode (isIdentifierStart isIdentifierContinue)

variable {following : List Char}

/-! ## Literals of any kind -/

/-- Whether a literal can begin with a character. -/
def canBeginLiteral (c : Char) : Bool := c.isDigit || ['"', '\'', 'r', 'b', 'c'].contains c

theorem quoted?_of_other {c : Char} {rest : List Char} (other : c ∉ ['"', 'r', 'b', 'c']) :
    quoted? (c :: rest) = none := by
  unfold quoted?
  split <;> simp_all

theorem character?_of_other {c : Char} {rest : List Char} (other : c ∉ ['\'', 'b']) :
    character? (c :: rest) = none := by
  unfold character?
  split <;> simp_all

/-- Only numbers begin with a digit. -/
theorem literal?_of_digit {c : Char} {rest : List Char} (digit : c.isDigit = true) :
    literal? (c :: rest) = (float? (c :: rest) <|> integer? (c :: rest)) := by
  have noQuote : c ∉ ['"', 'r', 'b', 'c'] := by
    rintro member
    simp only [List.mem_cons, List.not_mem_nil, or_false] at member
    rcases member with rfl | rfl | rfl | rfl <;> cases digit
  have noCharacter : c ∉ ['\'', 'b'] := by
    rintro member
    simp only [List.mem_cons, List.not_mem_nil, or_false] at member
    rcases member with rfl | rfl <;> cases digit
  rw [literal?, quoted?_of_other noQuote, character?_of_other noCharacter]
  rfl

/-- Numbers begin with a digit. -/
theorem number_eq_none {c : Char} {rest : List Char} (notDigit : c.isDigit = false) :
    float? (c :: rest) = none ∧ integer? (c :: rest) = none := by
  constructor
  · rw [float?, notDigit, if_neg Bool.false_ne_true]
  · rw [Option.eq_none_iff_forall_ne_some]
    intro behind read
    rw [isDigit_of_integer? read] at notDigit
    cases notDigit

theorem literal?_eq_none {c : Char} {rest : List Char} (other : canBeginLiteral c = false) :
    literal? (c :: rest) = none := by
  rw [canBeginLiteral, Bool.or_eq_false_iff, List.contains_eq_mem, decide_eq_false_iff_not] at other
  rcases other with ⟨notDigit, notMark⟩
  simp only [List.mem_cons, List.not_mem_nil, or_false, not_or] at notMark
  rcases notMark with ⟨notQuote, notApostrophe, notR, notB, notC⟩
  rw [literal?, quoted?_of_other (by simp [notQuote, notR, notB, notC]),
    character?_of_other (by simp [notApostrophe, notB]), (number_eq_none notDigit).1,
    (number_eq_none notDigit).2]
  rfl

/-- A character literal is no quoted literal, whatever stands behind it. -/
theorem quoted?_of_character? {text behind : List Char} (read : character? text = some behind) :
    quoted? (text ++ following) = none := by
  fun_cases character? text with
  | case1 | case2 => simp [quoted?]
  | case3 => simp_all [character?]

/-- A literal is read back in front of a text that is not within a word and does not go on with
it. -/
theorem literal?_append {text : List Char} (read : literal? text = some [])
    (ends : beginsInWord following = false) (settled : numberGoesOn text following = false) :
    literal? (text ++ following) = some following := by
  cases text with
  | nil => cases read
  | cons c rest =>
    cases digit : c.isDigit with
    | true =>
        rw [literal?_of_digit digit] at read
        rw [List.cons_append, literal?_of_digit digit, ← List.cons_append]
        cases float : float? (c :: rest) with
        | some behind =>
            rw [float] at read
            cases read
            rw [float?_append float ends settled]
            rfl
        | none =>
            rw [float] at read
            rw [float?_append_none float ends settled, integer?_append read ends]
            rfl
    | false =>
        cases quoted : quoted? (c :: rest) with
        | some behind =>
            rw [literal?, quoted] at read
            cases read
            rw [literal?, quoted?_append quoted ends]
            rfl
        | none =>
            rw [literal?, quoted, (number_eq_none digit).1, (number_eq_none digit).2] at read
            cases character : character? (c :: rest) with
            | some behind =>
                rw [character] at read
                cases read
                rw [literal?, quoted?_of_character? character, character?_append character ends]
                rfl
            | none =>
                rw [character] at read
                cases read

end Lexeme
end Code
end Capability

import Capability.Text.Quoted
import Mathlib.Logic.Function.Basic
import Mathlib.Tactic.SplitIfs

/-!
# A literal is read back as its text

Between quotation marks every character of a text stands for itself or is escaped.
How an escape ends can be told from its beginning, so that the characters can be
read back one by one, and two texts are never written as the same literal.
-/

namespace Capability
namespace Text

/-! ## Code points -/

/-- The value of a lower-case hexadecimal digit. -/
def hexValue (c : Char) : Nat :=
  if c.toNat < 'a'.toNat then c.toNat - '0'.toNat else c.toNat + 10 - 'a'.toNat

/-- The number that hexadecimal digits stand for. -/
def ofHexDigits (digits : List Char) : Nat :=
  digits.foldl (fun number digit => number * 16 + hexValue digit) 0

theorem hexValue_digitChar : ∀ digit < 16, hexValue (Nat.digitChar digit) = digit := by decide

theorem digitChar_ne_brace : ∀ digit < 16, Nat.digitChar digit ≠ '\x7d' := by decide

theorem hexDigits_eq (number : Nat) :
    hexDigits number =
      if number < 16 then [Nat.digitChar number]
      else hexDigits (number / 16) ++ [Nat.digitChar (number % 16)] :=
  Nat.toDigits_eq_if (by decide)

theorem ofHexDigits_concat (digits : List Char) (digit : Char) :
    ofHexDigits (digits ++ [digit]) = ofHexDigits digits * 16 + hexValue digit := by
  rw [ofHexDigits, List.foldl_append]
  rfl

theorem ofHexDigits_hexDigits (number : Nat) : ofHexDigits (hexDigits number) = number := by
  induction number using Nat.strongRecOn with
  | ind number inductionHypothesis =>
      rw [hexDigits_eq]
      split
      case isTrue small =>
        have alone := ofHexDigits_concat [] (Nat.digitChar number)
        rw [hexValue_digitChar number small] at alone
        exact alone.trans (Nat.zero_add number)
      case isFalse large =>
        rw [ofHexDigits_concat, inductionHypothesis (number / 16) (by omega),
          hexValue_digitChar _ (Nat.mod_lt _ (by decide)), Nat.div_add_mod']

theorem ne_brace_of_mem_hexDigits {number : Nat} {c : Char} (digit : c ∈ hexDigits number) :
    c ≠ '\x7d' := by
  induction number using Nat.strongRecOn with
  | ind number inductionHypothesis =>
      rw [hexDigits_eq] at digit
      split at digit
      case isTrue small =>
        rw [List.mem_singleton.mp digit]
        exact digitChar_ne_brace number small
      case isFalse large =>
        rcases List.mem_append.mp digit with front | last
        · exact inductionHypothesis (number / 16) (by omega) front
        · rw [List.mem_singleton.mp last]
          exact digitChar_ne_brace _ (Nat.mod_lt _ (by decide))

/-! ## Reading back -/

/-- The first character of the text that the body of a literal stands for, and the rest of
the body. -/
def firstOf? : List Char → Option (Char × List Char)
  | [] => none
  | '\\' :: 'u' :: '\x7b' :: behind =>
    some (Char.ofNat (ofHexDigits (behind.takeWhile (· ≠ '\x7d'))),
      (behind.dropWhile (· ≠ '\x7d')).drop 1)
  | '\\' :: 'x' :: '0' :: '0' :: behind => some (Char.ofNat 0, behind)
  | '\\' :: '0' :: behind => some (Char.ofNat 0, behind)
  | '\\' :: 't' :: behind => some ('\t', behind)
  | '\\' :: 'r' :: behind => some ('\r', behind)
  | '\\' :: 'n' :: behind => some ('\n', behind)
  | '\\' :: c :: behind => some (c, behind)
  | c :: behind => some (c, behind)

theorem firstOf?_escapeCode (c : Char) (behind : List Char) :
    firstOf? (escapeCode c ++ behind) = some (c, behind) := by
  have digits : ∀ digit ∈ hexDigits c.toNat, decide (digit ≠ '\x7d') = true :=
    fun digit member => decide_eq_true (ne_brace_of_mem_hexDigits member)
  have read : firstOf? ('\\' :: 'u' :: '\x7b' :: (hexDigits c.toNat ++ '\x7d' :: behind)) =
      some (c, behind) := by
    rw [firstOf?, List.takeWhile_append_of_pos digits, List.dropWhile_append_of_pos digits,
      List.takeWhile_cons_of_neg (by decide), List.dropWhile_cons_of_neg (by decide),
      List.append_nil, ofHexDigits_hexDigits, Char.ofNat_toNat]
    rfl
  rw [escapeCode, List.append_assoc, List.append_assoc]
  exact read

/-- Whatever a character is written as, it is read back, and nothing behind it. -/
theorem firstOf?_escape (c : Char) (behind : List Char) :
    firstOf? (escape '"' c ++ behind) = some (c, behind) := by
  -- One case for each way to write a character; one that stands for itself is no backslash.
  unfold escape
  split_ifs with null tab back line slash mark special
  · rw [null]; rfl
  · rw [tab]; rfl
  · rw [back]; rfl
  · rw [line]; rfl
  · rw [slash]; rfl
  · rw [mark]; rfl
  · exact firstOf?_escapeCode c behind
  · rw [List.singleton_append, firstOf?]
    all_goals simp [slash]

theorem firstOf?_literalBody (c : Char) (rest : List Char) :
    firstOf? (literalBody (c :: rest)) = some (c, literalBody rest) := by
  rw [literalBody]
  split_ifs with null
  · rw [Bool.and_eq_true, decide_eq_true_eq] at null
    rw [null.1]
    rfl
  · exact firstOf?_escape c _

theorem literalBody_injective : Function.Injective literalBody := by
  intro left
  induction left with
  | nil =>
      intro right same
      cases right with
      | nil => rfl
      | cons c rest =>
          have read := firstOf?_literalBody c rest
          rw [← same] at read
          cases read
  | cons c rest inductionHypothesis =>
      intro right same
      have read := firstOf?_literalBody c rest
      cases right with
      | nil =>
          rw [same] at read
          cases read
      | cons d others =>
          rw [same, firstOf?_literalBody, Option.some.injEq, Prod.mk.injEq] at read
          rw [read.1, inductionHypothesis read.2.symm]

/-- Different texts are different literals. -/
theorem literal_injective : Function.Injective literal := by
  intro left right same
  have bodies := List.append_cancel_right (List.cons.inj (String.ofList_inj.mp same)).2
  exact String.toList_inj.mp (literalBody_injective bodies)

end Text
end Capability

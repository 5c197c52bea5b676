import Capability.Json.Value
import Capability.Proofs.Json.Consumption

/-!
# Reading texts between quotation marks

A text has many spellings: a character may stand for itself, behind a backslash
as a letter, or as one or two code units.  The reader takes every spelling for
the text that it spells.  The written form of a text is one of its spellings,
whatever characters the text holds.
-/

namespace Capability
namespace Json
namespace Reader

/-- The character whose halves are two code units. -/
def paired (high low : Nat) : Char :=
  Char.ofNat (0x10000 + (high - 0xD800) * 0x400 + (low - 0xDC00))

/-- The spellings of a text between quotation marks. -/
inductive Spelled : (text spelling : List Char) → Prop where
  | nil : Spelled [] []
  /-- A character that stands for itself. -/
  | plain {c : Char} {text spelling : List Char} :
      0x20 ≤ c.toNat → c ≠ '"' → c ≠ '\\' → Spelled text spelling →
      Spelled (c :: text) (c :: spelling)
  /-- A letter behind a backslash. -/
  | letter {c letter : Char} {text spelling : List Char} :
      shortEscape? letter = some c → Spelled text spelling →
      Spelled (c :: text) ('\\' :: letter :: spelling)
  /-- A code unit that is no half of a character. -/
  | unit {number : Nat} {digits text spelling : List Char} :
      digits.length = 4 → hexNumber? 0 digits = some number →
      number < 0xD800 ∨ 0xDFFF < number → Spelled text spelling →
      Spelled (Char.ofNat number :: text) ('\\' :: 'u' :: (digits ++ spelling))
  /-- Two code units that are the halves of a character. -/
  | pair {high low : Nat} {first second text spelling : List Char} :
      first.length = 4 → hexNumber? 0 first = some high → 0xD800 ≤ high → high ≤ 0xDBFF →
      second.length = 4 → hexNumber? 0 second = some low → 0xDC00 ≤ low → low ≤ 0xDFFF →
      Spelled text spelling →
      Spelled (paired high low :: text)
        ('\\' :: 'u' :: (first ++ '\\' :: 'u' :: (second ++ spelling)))

/-! ## Escapes -/

theorem hasBytes_of_le_length (text : List Char) (bytes : Nat) (enough : bytes ≤ text.length) :
    hasBytes bytes text = true := by
  induction text generalizing bytes with
  | nil =>
      have none : bytes = 0 := Nat.le_zero.mp enough
      rw [none, hasBytes]
  | cons c text inductionHypothesis =>
      cases bytes with
      | zero => rw [hasBytes]
      | succ bytes =>
          rw [hasBytes]
          apply inductionHypothesis
          have positive : 0 < c.utf8Size := c.utf8Size_pos
          rw [List.length_cons] at enough
          omega

theorem hexEscape_consumes {digits : List Char} {number : Nat} (four : digits.length = 4)
    (spelled : hexNumber? 0 digits = some number) (rest : List Char) :
    Consumes hexEscape digits rest number := by
  intro offset
  refine ⟨offset + 4, ?_⟩
  have enough : hasBytes 4 (digits ++ rest) = true := by
    apply hasBytes_of_le_length
    rw [List.length_append]
    omega
  rw [hexEscape]
  simp only [enough, if_true]
  rw [List.take_left' four, List.drop_left' four, spelled]

theorem pairMark_consumes (mark : Char) (rest : List Char) :
    Consumes (pairMark mark) [mark] rest () := by
  apply Consumes.peek
  simp only [List.cons_append, List.head?_cons, if_pos]
  exact .advance mark rest

/-- A code unit that is no half of a character stands for the character of its number. -/
theorem unicodeEscape_consumes_unit {digits : List Char} {number : Nat} (four : digits.length = 4)
    (spelled : hexNumber? 0 digits = some number) (whole : number < 0xD800 ∨ 0xDFFF < number)
    (rest : List Char) : Consumes unicodeEscape digits rest (Char.ofNat number) := by
  have notLow : ¬ (0xDC00 ≤ number ∧ number ≤ 0xDFFF) := by omega
  have noHalf : number < 0xD800 ∨ 0xDBFF < number := by omega
  apply (hexEscape_consumes four spelled rest).bind_nil
  rw [if_neg (by simpa using notLow), if_pos (by simpa using noHalf)]
  exact .pure rest _

/-- Two code units that are halves of a character stand for that character. -/
theorem unicodeEscape_consumes_pair {first second : List Char} {high low : Nat}
    (firstFour : first.length = 4) (firstSpelled : hexNumber? 0 first = some high)
    (high_ge : 0xD800 ≤ high) (high_le : high ≤ 0xDBFF)
    (secondFour : second.length = 4) (secondSpelled : hexNumber? 0 second = some low)
    (low_ge : 0xDC00 ≤ low) (low_le : low ≤ 0xDFFF) (rest : List Char) :
    Consumes unicodeEscape (first ++ '\\' :: 'u' :: second) rest (paired high low) := by
  have notLow : ¬ (0xDC00 ≤ high ∧ high ≤ 0xDFFF) := by omega
  have half : ¬ (high < 0xD800 ∨ 0xDBFF < high) := by omega
  have lowHalf : ¬ (low < 0xDC00 ∨ 0xDFFF < low) := by omega
  apply (hexEscape_consumes firstFour firstSpelled _).bind
  rw [if_neg (by simpa using notLow), if_neg (by simpa using half)]
  have slash : Consumes (pairMark '\\') ['\\'] ('u' :: second ++ rest) () := pairMark_consumes _ _
  have mark : Consumes (pairMark 'u') ['u'] (second ++ rest) () := pairMark_consumes _ _
  apply slash.bind
  apply mark.bind
  apply (hexEscape_consumes secondFour secondSpelled rest).bind_nil
  rw [if_neg (by simpa using lowHalf)]
  exact .pure rest _

theorem escaped_consumes_letter {c letter : Char} (stands : shortEscape? letter = some c)
    (rest : List Char) : Consumes escaped [letter] rest c := by
  have noUnit : letter ≠ 'u' := by
    intro equal
    have nothing : shortEscape? 'u' = none := rfl
    rw [equal, nothing] at stands
    cases stands
  apply Consumes.peek
  simp only [List.cons_append, List.head?_cons, stands]
  exact .advanced (.pure rest c)

theorem escaped_consumes_unit {text rest : List Char} {c : Char}
    (unit : Consumes unicodeEscape text rest c) : Consumes escaped ('u' :: text) rest c :=
  .peek (.advanced unit)

/-! ## Whole texts -/

private theorem ofList_reverse_cons (c : Char) (read text : List Char) :
    String.ofList ((c :: read).reverse ++ text) = String.ofList (read.reverse ++ c :: text) := by
  rw [List.reverse_cons, List.append_assoc, List.singleton_append]

/-- Behind a backslash the rest of a string is read on with the character that is
spelled there. -/
theorem stringRest_consumes_escape {spelling more rest : List Char} {c : Char} {fuel : Nat}
    {read text : List Char} (character : Consumes escaped spelling (more ++ rest) c)
    (others : Consumes (stringRest fuel (c :: read)) more rest
      (String.ofList ((c :: read).reverse ++ text))) :
    Consumes (stringRest (fuel + 1) read) ('\\' :: (spelling ++ more)) rest
      (String.ofList (read.reverse ++ c :: text)) := by
  rw [ofList_reverse_cons] at others
  exact .peek (.advanced (character.bind others))

/-- The reader takes a spelling, up to and with the quotation mark behind it, for
the text that it spells.  Each character of the text costs one unit of fuel and
at least one character of the spelling. -/
theorem stringRest_consumes {text spelling : List Char} (spelled : Spelled text spelling)
    (fuel : Nat) (enough : spelling.length < fuel) (read rest : List Char) :
    Consumes (stringRest fuel read) (spelling ++ ['"']) rest
      (String.ofList (read.reverse ++ text)) := by
  induction spelled generalizing fuel read with
  | nil =>
      rcases Nat.exists_eq_succ_of_ne_zero (Nat.ne_zero_of_lt enough) with ⟨fuel, rfl⟩
      rw [List.append_nil]
      exact .peek (.advanced (.pure rest _))
  | @plain c text spelling printable noQuote noEscape spelled inductionHypothesis =>
      rcases Nat.exists_eq_succ_of_ne_zero (Nat.ne_zero_of_lt enough) with ⟨fuel, rfl⟩
      have others := inductionHypothesis fuel (Nat.lt_of_succ_lt_succ enough) (c :: read)
      rw [ofList_reverse_cons] at others
      apply Consumes.peek
      simp only [List.cons_append, List.head?_cons]
      rw [if_neg (Nat.not_lt.mpr printable)]
      exact .advanced others
  | @letter c letter text spelling stands spelled inductionHypothesis =>
      rcases Nat.exists_eq_succ_of_ne_zero (Nat.ne_zero_of_lt enough) with ⟨fuel, rfl⟩
      simp only [List.length_cons] at enough
      have others := inductionHypothesis fuel (by omega) (c :: read)
      have escape := stringRest_consumes_escape
        (escaped_consumes_letter stands (spelling ++ ['"'] ++ rest)) others
      exact escape
  | @unit number digits text spelling four hex whole spelled inductionHypothesis =>
      rcases Nat.exists_eq_succ_of_ne_zero (Nat.ne_zero_of_lt enough) with ⟨fuel, rfl⟩
      simp only [List.length_cons, List.length_append] at enough
      have others := inductionHypothesis fuel (by omega) (Char.ofNat number :: read)
      have escape := stringRest_consumes_escape
        (escaped_consumes_unit (unicodeEscape_consumes_unit four hex whole _)) others
      simpa only [List.cons_append, List.append_assoc] using escape
  | @pair high low first second text spelling firstFour firstHex high_ge high_le secondFour
      secondHex low_ge low_le spelled inductionHypothesis =>
      rcases Nat.exists_eq_succ_of_ne_zero (Nat.ne_zero_of_lt enough) with ⟨fuel, rfl⟩
      simp only [List.length_cons, List.length_append] at enough
      have others := inductionHypothesis fuel (by omega) (paired high low :: read)
      have escape := stringRest_consumes_escape
        (escaped_consumes_unit (unicodeEscape_consumes_pair firstFour firstHex high_ge high_le
          secondFour secondHex low_ge low_le _)) others
      simpa only [List.cons_append, List.append_assoc] using escape

theorem stringToken_consumes {text spelling : List Char} (spelled : Spelled text spelling)
    (rest : List Char) :
    Consumes stringToken ('"' :: (spelling ++ ['"'])) rest (String.ofList text) := by
  apply Consumes.advanced
  apply Consumes.remaining
  apply stringRest_consumes spelled _ _ []
  simp only [List.length_append, List.length_cons]
  omega

/-! ## The written form -/

/-- The four digits that are written for a control character. -/
def controlDigits (number : Nat) : List Char :=
  (if number < 0x10 then ['0', '0', '0'] else ['0', '0']) ++ Nat.toDigits 16 number

theorem length_controlDigits : ∀ number < 0x20, (controlDigits number).length = 4 := by
  decide

theorem hexNumber?_controlDigits :
    ∀ number < 0x20, hexNumber? 0 (controlDigits number) = some number := by
  decide

/-- The characters that are written as a letter behind a backslash. -/
def lettered : List Char := ['"', '\\', '\x08', '\x0c', '\n', '\r', '\t']

/-- What is written for a control character without a letter of its own. -/
theorem escape_of_control {c : Char} (noLetter : c ∉ lettered) (control : c.toNat < 0x20) :
    escape c = '\\' :: 'u' :: controlDigits c.toNat := by
  simp only [lettered, List.mem_cons, List.not_mem_nil, or_false, not_or] at noLetter
  simp only [escape, noLetter, if_false, controlDigits, control, if_true]
  split <;> rfl

theorem escape_of_plain {c : Char} (noLetter : c ∉ lettered) (printable : 0x20 ≤ c.toNat) :
    escape c = [c] := by
  simp only [lettered, List.mem_cons, List.not_mem_nil, or_false, not_or] at noLetter
  have noControl : ¬ c.toNat < 0x10 := by omega
  simp only [escape, noLetter, if_false, noControl, Nat.not_lt.mpr printable]

/-- What is written for one character spells it. -/
theorem Spelled.escape (c : Char) {text spelling : List Char} (spelled : Spelled text spelling) :
    Spelled (c :: text) (Json.escape c ++ spelling) := by
  by_cases letter : c ∈ lettered
  · simp only [lettered, List.mem_cons, List.not_mem_nil, or_false] at letter
    rcases letter with rfl | rfl | rfl | rfl | rfl | rfl | rfl <;> exact .letter rfl spelled
  · by_cases control : c.toNat < 0x20
    · rw [escape_of_control letter control]
      have unit := Spelled.unit (length_controlDigits _ control)
        (hexNumber?_controlDigits _ control) (Or.inl (Nat.lt_trans control (by decide))) spelled
      rwa [Char.ofNat_toNat] at unit
    · have printable : 0x20 ≤ c.toNat := Nat.not_lt.mp control
      rw [escape_of_plain letter printable]
      simp only [lettered, List.mem_cons, not_or] at letter
      exact .plain printable letter.1 letter.2.1 spelled

/-- The written form of a text is one of its spellings. -/
theorem spelled_flatMap_escape (text : List Char) : Spelled text (text.flatMap Json.escape) := by
  induction text with
  | nil => exact .nil
  | cons c text inductionHypothesis => exact inductionHypothesis.escape c

end Reader
end Json
end Capability

import Capability.Code.Lexer
import Capability.Proofs.Code.Literal

/-!
# The token ahead

Which token stands ahead is decided by its first character, apart from words that
begin like a literal and from the apostrophe, which opens a character or the name of
a lifetime.  Each kind of token is the one that is read where it stands in front of a
text that does not go on with it.
-/

namespace Capability
namespace Code

open Unicode (isIdentifierStart isIdentifierContinue)

/-! ## Characters that tokens begin with -/

namespace Lexer

/-- Whether a character is neither a blank nor a bracket nor the mark of byte order. -/
def beginsLeaf (c : Char) : Bool :=
  !isBlank c && (bracket? c).isNone && c != byteOrderMark

/-- What separates tokens beyond ASCII, and the mark of byte order. -/
def separatorRuns : List Unicode.Run :=
  Unicode.blankRuns ++ [⟨0x200E, 0x200F, 1⟩, ⟨0xFEFF, 0xFEFF, 1⟩]

theorem separatorRuns_apart :
    separatorRuns.all (fun run => Unicode.identifierStartRuns.all run.isApart) = true := by
  decide +kernel

theorem beginsLeaf_iff (c : Char) :
    beginsLeaf c = true ↔ isBlank c = false ∧ bracket? c = none ∧ c ≠ byteOrderMark := by
  simp [beginsLeaf, and_assoc]

theorem bracket?_of_beyond {c : Char} (beyond : ¬c.toNat < 0x80) : bracket? c = none := by
  unfold bracket?
  split <;> first | rfl | exact absurd (by decide) beyond

theorem covers_of_not_beginsLeaf {c : Char} (beyond : ¬c.toNat < 0x80)
    (separates : beginsLeaf c = false) : ∃ run ∈ separatorRuns, run.covers c.toNat = true := by
  rw [Bool.eq_false_iff, Ne, beginsLeaf_iff, not_and, not_and, bracket?_of_beyond beyond]
    at separates
  by_cases blank : isBlank c = true
  · rw [isBlank, Bool.or_eq_true, Bool.or_eq_true, Unicode.isBlank, Unicode.member, if_neg beyond,
      List.any_eq_true, beq_iff_eq, beq_iff_eq] at blank
    rcases blank with (⟨run, listed, covered⟩ | left) | right
    · exact ⟨run, List.mem_append_left _ listed, covered⟩
    · exact ⟨⟨0x200E, 0x200F, 1⟩, by simp [separatorRuns], by rw [left]; rfl⟩
    · exact ⟨⟨0x200E, 0x200F, 1⟩, by simp [separatorRuns], by rw [right]; rfl⟩
  · have order := separates (by simpa using blank) rfl
    rw [not_not] at order
    exact ⟨⟨0xFEFF, 0xFEFF, 1⟩, by simp [separatorRuns], by rw [order]; decide⟩

/-- No word begins with a character that separates tokens. -/
theorem beginsLeaf_of_start {c : Char} (start : isIdentifierStart c = true) :
    beginsLeaf c = true := by
  by_cases below : c.toNat < 0x80
  · exact Unicode.ascii_forall (P := fun c => isIdentifierStart c = true → beginsLeaf c = true)
      (by decide) below start
  · by_contra separates
    rcases covers_of_not_beginsLeaf below (by simpa using separates) with ⟨run, listed, covered⟩
    have apart := List.all_eq_true.mp separatorRuns_apart run listed
    rw [isIdentifierStart, Unicode.Run.not_member_of_isApart apart covered below] at start
    cases start

theorem beginsLeaf_of_canBeginLiteral {c : Char} (begins : Lexeme.canBeginLiteral c = true) :
    beginsLeaf c = true ∧ c ≠ '/' ∧ c ≠ '-' := by
  have below : c.toNat < 0x80 := by
    rw [Lexeme.canBeginLiteral, Bool.or_eq_true] at begins
    rcases begins with digit | mark
    · exact Unicode.ascii_of_isDigit digit
    · rw [List.contains_eq_mem, decide_eq_true_eq] at mark
      simp only [List.mem_cons, List.not_mem_nil, or_false] at mark
      rcases mark with rfl | rfl | rfl | rfl | rfl <;> decide
  exact Unicode.ascii_forall (P := fun c => Lexeme.canBeginLiteral c = true →
    beginsLeaf c = true ∧ c ≠ '/' ∧ c ≠ '-') (by decide) below begins

theorem beginsLeaf_of_mark {c : Char} (mark : c ∈ Lexeme.markCharacters) : beginsLeaf c = true :=
  List.all_eq_true.mp (by decide : Lexeme.markCharacters.all beginsLeaf = true) c mark

end Lexer

/-! ## Words, literals and marks ahead -/

namespace Lexeme

theorem ascii_of_mark {c : Char} (mark : c ∈ markCharacters) : c.toNat < 0x80 := by
  have each : markCharacters.all (fun c => c.toNat.blt 0x80) = true := by decide
  exact Nat.blt_eq.mp (List.all_eq_true.mp each c mark)

/-- No word begins with a mark or a digit. -/
theorem no_mark_of_start {c : Char} (start : isIdentifierStart c = true) :
    c ∉ markCharacters ∧ c.isDigit = false := by
  have ascii : c.toNat < 0x80 → c ∉ markCharacters ∧ c.isDigit = false := fun below =>
    Unicode.ascii_forall (P := fun c => isIdentifierStart c = true →
      c ∉ markCharacters ∧ c.isDigit = false) (by decide) below start
  constructor
  · exact fun mark => (ascii (ascii_of_mark mark)).1 mark
  · rw [Bool.eq_false_iff]
    intro digit
    rw [(ascii (Unicode.ascii_of_isDigit digit)).2] at digit
    cases digit

theorem beginsComment_of_ne {c : Char} (noStroke : c ≠ '/') (rest : List Char) :
    beginsComment (c :: rest) = false := by
  unfold beginsComment
  split
  · next same => exact absurd (List.cons.inj same).1 noStroke
  · next same => exact absurd (List.cons.inj same).1 noStroke
  · rfl

/-- Whether a text begins like a literal that is not read as a word. -/
def beginsLikeLiteral (text : List Char) : Bool :=
  literalBeginnings.any fun beginning => beginning.toList.isPrefixOf text

/-- Neither a quotation mark stands ahead nor a hash mark in front of it or of another. -/
def noHashes : List Char → Bool
  | '"' :: _ => false
  | '#' :: '"' :: _ => false
  | '#' :: '#' :: _ => false
  | _ => true

theorem rawQuoted?_of_noHashes {quoting : Quoting} {text : List Char}
    (free : noHashes text = true) : rawQuoted? quoting text = none := by
  have noCount : hashes? 0 text = none := by
    unfold noHashes at free
    split at free
    · cases free
    · cases free
    · cases free
    · next noQuote hashQuote hashHash =>
      unfold hashes?
      split
      · next rest => exact absurd rfl (noQuote rest)
      · next rest =>
        unfold hashes?
        split
        · next rest => exact absurd rfl (hashQuote rest)
        · next rest => exact absurd rfl (hashHash rest)
        · rfl
      · rfl
  rw [rawQuoted?, noCount]
  rfl

theorem quoted?_of_word {text : List Char} (noQuote : text.head? ≠ some '"')
    (other : beginsLikeLiteral text = false) : quoted? text = none := by
  have raw : ∀ {rest : List Char}, (text = 'r' :: rest ∨ text = 'b' :: 'r' :: rest ∨
      text = 'c' :: 'r' :: rest) → noHashes rest = true := by
    intro rest begins
    unfold noHashes
    split <;> rcases begins with rfl | rfl | rfl <;>
      first
        | rfl
        | exact absurd other (by simp [beginsLikeLiteral, literalBeginnings])
  unfold quoted?
  split
  · exact absurd rfl noQuote
  · exact rawQuoted?_of_noHashes (raw (.inl rfl))
  · exact absurd other (by simp [beginsLikeLiteral, literalBeginnings])
  · exact rawQuoted?_of_noHashes (raw (.inr (.inl rfl)))
  · exact absurd other (by simp [beginsLikeLiteral, literalBeginnings])
  · exact rawQuoted?_of_noHashes (raw (.inr (.inr rfl)))
  · rfl

/-- Where a word stands that does not begin like a literal, no literal stands. -/
theorem literal?_of_word {c : Char} {rest : List Char} (start : isIdentifierStart c = true)
    (other : beginsLikeLiteral (c :: rest) = false) : literal? (c :: rest) = none := by
  have notDigit := (no_mark_of_start start).2
  have noQuote : c ≠ '"' ∧ c ≠ '\'' := by
    constructor <;> rintro rfl <;> revert start <;> decide
  have noCharacter : character? (c :: rest) = none := by
    unfold character?
    split
    · next same => exact absurd (List.cons.inj same).1 noQuote.2
    · next same =>
      rw [same] at other
      exact absurd other (by simp [beginsLikeLiteral, literalBeginnings])
    · rfl
  rw [literal?, quoted?_of_word (by simpa using noQuote.1) other, noCharacter,
    (number_eq_none notDigit).1, (number_eq_none notDigit).2]
  rfl

/-- Whether the name of a lifetime is ahead, and neither a character nor a literal. -/
def opensLifetime (text : List Char) : Bool :=
  (anyWord? text).any fun found =>
    !(found.2.head? == some '\''
      || found.2.head? == some '#' && !"r#".toList.isPrefixOf text)

theorem word_of_opensLifetime {text : List Char} (lifetime : opensLifetime text = true) :
    ∃ word behind, anyWord? text = some (word, behind) ∧ (behind.head? == some '\'') = false ∧
      (behind.head? == some '#' && !"r#".toList.isPrefixOf text) = false := by
  rw [opensLifetime] at lifetime
  cases ahead : anyWord? text with
  | none => simp [ahead] at lifetime
  | some found =>
      rw [ahead, Option.any_some, Bool.not_eq_true', Bool.or_eq_false_iff] at lifetime
      exact ⟨found.1, found.2, rfl, lifetime⟩

/-- An apostrophe in front of a word without a second one behind it opens no character: a word of
one letter is not closed, and in a longer one the second letter is no apostrophe. -/
theorem character?_of_word {text behind : List Char} (ahead : plainWord? text = some behind)
    (notClosed : (behind.head? == some '\'') = false) : character? ('\'' :: text) = none := by
  cases text with
  | nil => cases ahead
  | cons c rest =>
      rw [plainWord?] at ahead
      split at ahead
      · next start =>
        cases ahead
        have noEscape : c ≠ '\\' := by
          rintro rfl
          exact absurd start (by decide)
        have content : characterContent? (c :: rest) = some rest := by
          unfold characterContent?
          split <;> simp_all
        rw [character?, content]
        cases rest with
        | nil => rfl
        | cons next more =>
            by_cases quote : next = '\''
            · rw [quote] at notClosed
              cases notClosed
            · simp [closingQuote?, quote]
      · cases ahead

/-- The apostrophe of a lifetime does not open a character. -/
theorem literal?_of_lifetime {text : List Char} (lifetime : opensLifetime text = true) :
    literal? ('\'' :: text) = none := by
  rcases word_of_opensLifetime lifetime with ⟨word, behind, ahead, notClosed, _⟩
  have noCharacter : character? ('\'' :: text) = none := by
    by_cases begins : ∃ inner, text = 'r' :: '#' :: inner
    · rcases begins with ⟨inner, rfl⟩
      rfl
    · rw [anyWord?_of_not_raw (not_exists.mp begins)] at ahead
      rcases Option.map_eq_some_iff.mp ahead with ⟨rest, plain, found⟩
      cases found
      exact character?_of_word plain notClosed
  rw [literal?, quoted?_of_other (by decide), noCharacter, (number_eq_none rfl).1,
    (number_eq_none rfl).2]
  rfl

theorem mark?_of_lifetime {text : List Char} (lifetime : opensLifetime text = true) :
    mark? ('\'' :: text) = some (.mark '\'' true, text) := by
  rcases word_of_opensLifetime lifetime with ⟨word, behind, ahead, notClosed, notHashed⟩
  have begins : beginsMark ('\'' :: text) = true := rfl
  rw [mark?, begins, ahead]
  simp only [notClosed, notHashed]
  rfl

/-- A word ahead that does not begin like a literal is the next token. -/
theorem leaf?_of_word {c : Char} {rest behind : List Char} {word : Word}
    (start : isIdentifierStart c = true) (other : beginsLikeLiteral (c :: rest) = false)
    (ahead : anyWord? (c :: rest) = some (word, behind)) :
    leaf? (c :: rest) = some (.word word, behind) := by
  have noMark : mark? (c :: rest) = none := by
    have begins : beginsMark (c :: rest) = false := by
      rw [beginsMark, List.head?_cons, Option.any_some, List.contains_eq_mem,
        decide_eq_false (no_mark_of_start start).1, Bool.and_false]
    rw [mark?, begins]
    rfl
  have found : word? (c :: rest) = some (word, behind) := by
    rw [beginsLikeLiteral] at other
    rw [word?, other, if_neg Bool.false_ne_true, ahead]
  rw [leaf?, literal?_of_word start other, noMark, found]

/-- A mark ahead that begins no comment and opens no character is the next token. -/
theorem leaf?_of_mark {c : Char} {following : List Char} (mark : c ∈ markCharacters)
    (noComment : beginsComment (c :: following) = false)
    (lifetime : c = '\'' → opensLifetime following = true) :
    ∃ joint, leaf? (c :: following) = some (.mark c joint, following) := by
  by_cases apostrophe : c = '\''
  · subst apostrophe
    refine ⟨true, ?_⟩
    rw [leaf?, literal?_of_lifetime (lifetime rfl), mark?_of_lifetime (lifetime rfl)]
  · have each : markCharacters.all (fun c => c == '\'' || !canBeginLiteral c) = true := by decide
    have noLiteral : canBeginLiteral c = false := by
      simpa [apostrophe] using List.all_eq_true.mp each c mark
    have begins : beginsMark (c :: following) = true := by
      rw [beginsMark, noComment, List.head?_cons, Option.any_some, List.contains_eq_mem,
        decide_eq_true mark]
      rfl
    have found : mark? (c :: following) = some (.mark c (beginsMark following), following) := by
      rw [mark?, begins, if_neg apostrophe]
      rfl
    exact ⟨_, by rw [leaf?, literal?_eq_none noLiteral, found]⟩

theorem leaf?_of_literal {text : String} {following : List Char}
    (read : literal? text.toList = some []) (ends : beginsInWord following = false)
    (settled : numberGoesOn text.toList following = false) :
    leaf? (text.toList ++ following) = some (.literal text, following) := by
  simp only [leaf?, literal?_append read ends settled]
  rw [passed_append, String.ofList_toList]

theorem toList_errorLiteral :
    errorLiteral.toList = ['(', '/', '*', 'E', 'R', 'R', 'O', 'R', '*', '/', ')'] := rfl

theorem isPrefix_errorLiteral (following : List Char) :
    errorLiteral.toList.isPrefixOf (errorLiteral.toList ++ following) = true :=
  List.isPrefixOf_iff_prefix.mpr (List.prefix_append _ _)

theorem leaf?_of_errorLiteral (following : List Char) :
    leaf? (errorLiteral.toList ++ following) = some (.literal errorLiteral, following) := by
  have noLiteral : literal? (errorLiteral.toList ++ following) = none := literal?_eq_none rfl
  have noMark : mark? (errorLiteral.toList ++ following) = none := rfl
  have noWord : word? (errorLiteral.toList ++ following) = none := rfl
  rw [leaf?, noLiteral, noMark, noWord, isPrefix_errorLiteral]
  rfl

theorem canBeginLiteral_of_literal? {text rest : List Char} (read : literal? text = some rest) :
    ∃ c behind, text = c :: behind ∧ canBeginLiteral c = true := by
  cases text with
  | nil => cases read
  | cons c behind =>
      refine ⟨c, behind, rfl, ?_⟩
      by_contra other
      rw [literal?_eq_none (by simpa using other)] at read
      cases read

end Lexeme

end Code
end Capability

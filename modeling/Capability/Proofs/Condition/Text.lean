import Capability.Proofs.Code.Spelling
import Capability.Proofs.Condition.Grammar

/-!
# Conditions are read back from their text

The text of a condition has parentheses around each conjunction and disjunction, and around
nothing else.  So the text of every condition is an operand, wherever it stands: a name, a
group, or one of these behind exclamation marks.  Between the parentheses stand two operands
and one operator, and how tightly operators bind or to which side they lean never matters.

By induction on the condition its text spells tokens of which the grammar derives it.  Two
conditions with the same text are therefore read from the same tokens, and are equal.
-/

namespace Capability
namespace Condition

open Code

/-- Whether the names of a condition are ones that the reader of source code gives and that
can name something. -/
def Readable (condition : Condition) : Prop :=
  ∀ name ∈ condition.names, name.IsRead ∧ name.isName = true

instance (condition : Condition) : Decidable condition.Readable :=
  inferInstanceAs (Decidable (∀ name ∈ condition.names,
    Lexeme.anyWord? name.written.toList = some (name, []) ∧ name.isName = true))

theorem readable_join (junction : Junction) {left right : Condition}
    (readable : (junction.join left right).Readable) : left.Readable ∧ right.Readable := by
  rw [Readable, names_join] at readable
  exact ⟨fun name member => readable name (List.mem_append_left _ member),
    fun name member => readable name (List.mem_append_right _ member)⟩

/-! ## Two operands and an operator -/

theorem Derives.single (junction : Junction) {tokens : Tokens} {condition : Condition}
    (derived : Derives junction.operand tokens condition) :
    Derives (.joined junction) tokens condition := by
  have alone : Derives (.joined junction) (tokens ++ [].flatMap (Part.written junction))
      (junction.tree condition []) := .joined derived fun part member => by cases member
  rwa [List.flatMap_nil, List.append_nil] at alone

theorem Derives.pair {junction : Junction} {joint : Bool} {first second : Tokens}
    {left right : Condition} (leftDerived : Derives junction.operand first left)
    (rightDerived : Derives junction.operand second right) :
    Derives (.joined junction) (first ++ .mark junction.mark joint :: second)
      (junction.join left right) := by
  have both : Derives (.joined junction)
      (first ++ [⟨joint, second, right⟩].flatMap (Part.written junction))
      (junction.tree left [⟨joint, second, right⟩]) := by
    apply Derives.joined leftDerived
    intro part member
    rw [List.mem_singleton.mp member]
    exact rightDerived
  rwa [List.flatMap_cons, List.flatMap_nil, List.append_nil] at both

/-- Two operands make up a condition, whichever operator joins them. -/
theorem Derives.operands {junction : Junction} {joint : Bool} {first second : Tokens}
    {left right : Condition} (leftDerived : Derives .operand first left)
    (rightDerived : Derives .operand second right) :
    Derives .condition (first ++ .mark junction.mark joint :: second)
      (junction.join left right) := by
  cases junction with
  | both => exact .single .either (.pair leftDerived rightDerived)
  | either =>
      exact .pair (.single .both leftDerived) (.single .both rightDerived)

/-! ## Spelling a condition -/

theorem text_join (junction : Junction) (left right : Condition) :
    (junction.join left right).text.toList =
      '(' :: (left.text.toList ++ ([' '] ++ ([junction.mark] ++ ([' '] ++ right.text.toList)))
        ++ [')']) := by
  cases junction <;>
    simp [Junction.join, Junction.mark, text, String.toList_append]

theorem text_not (operand : Condition) : operand.not.text.toList = '!' :: operand.text.toList := by
  simp [text, String.toList_append]

/-- The text of a condition begins with an exclamation mark, a parenthesis or a word. -/
theorem Readable.text_eq_cons {condition : Condition} (readable : condition.Readable) :
    ∃ c rest, condition.text.toList = c :: rest ∧
      (c = '!' ∨ c = '(' ∨ Unicode.isIdentifierStart c = true) := by
  cases condition with
  | named name =>
      rcases Word.written_eq_cons (readable name List.mem_cons_self).1 with ⟨c, rest, text, start⟩
      exact ⟨c, rest, text, .inr (.inr start)⟩
  | both left right => exact ⟨'(', _, text_join .both left right, .inr (.inl rfl)⟩
  | either left right => exact ⟨'(', _, text_join .either left right, .inr (.inl rfl)⟩
  | not operand => exact ⟨'!', _, text_not operand, .inl rfl⟩

theorem Readable.no_comment {condition : Condition} (readable : condition.Readable)
    (following : List Char) :
    Lexeme.beginsComment (condition.text.toList ++ following) = false := by
  rcases readable.text_eq_cons with ⟨c, rest, text, begins⟩
  rw [text, List.cons_append]
  apply Lexeme.beginsComment_of_ne
  rintro rfl
  rcases begins with same | same | start
  · exact absurd same (by decide)
  · exact absurd same (by decide)
  · exact absurd start (by decide)

theorem Readable.no_byteOrderMark {condition : Condition} (readable : condition.Readable) :
    condition.text.toList.head? ≠ some Lexer.byteOrderMark := by
  rcases readable.text_eq_cons with ⟨c, rest, text, begins⟩
  rw [text, List.head?_cons, Ne, Option.some_inj]
  rcases begins with rfl | rfl | start
  · decide
  · decide
  · exact ((Lexer.beginsLeaf_iff c).mp (Lexer.beginsLeaf_of_start start)).2.2

/-- In parentheses two operands with an operator between them spell a condition. -/
theorem spells_join (junction : Junction) {left right : Condition} (readable : left.Readable)
    (leftSpells : ∀ following, Lexeme.atSeparator following = true →
      ∃ tokens, Spells left.text.toList tokens following ∧ Derives .operand tokens left)
    (rightSpells : ∀ following, Lexeme.atSeparator following = true →
      ∃ tokens, Spells right.text.toList tokens following ∧ Derives .operand tokens right)
    (following : List Char) :
    ∃ tokens, Spells (junction.join left right).text.toList tokens following ∧
      Derives .operand tokens (junction.join left right) := by
  rw [text_join]
  -- Whether the operator is joint is up to what follows it, so the text is spelled from its end.
  rcases rightSpells (')' :: following) rfl with ⟨second, rightSpelled, rightDerived⟩
  have mark : junction.mark ∈ Lexeme.markCharacters ∧ junction.mark ≠ '/' ∧ junction.mark ≠ '\'' := by
    cases junction <;> decide
  rcases Spells.mark mark.1 mark.2.1 mark.2.2
    ([' '] ++ right.text.toList ++ ')' :: following) with ⟨joint, operator⟩
  rcases leftSpells ([' '] ++ ([junction.mark] ++ ([' '] ++ right.text.toList)) ++ ')' :: following)
    rfl with ⟨first, leftSpelled, leftDerived⟩
  have content := leftSpelled.append ((Spells.blank _).append
    (operator.append ((Spells.blank _).append rightSpelled)))
  refine ⟨_, content.enclosed ?_, .enclosed (leftDerived.operands rightDerived)⟩
  rw [List.append_assoc]
  exact readable.no_comment _

/-- In front of a separator the text of a condition spells an operand. -/
theorem Readable.spells {condition : Condition} (readable : condition.Readable)
    {following : List Char} (separator : Lexeme.atSeparator following = true) :
    ∃ tokens, Spells condition.text.toList tokens following ∧
      Derives .operand tokens condition := by
  induction condition generalizing following with
  | named name =>
      rcases readable name List.mem_cons_self with ⟨read, isName⟩
      exact ⟨_, .word read separator, .named isName⟩
  | both left right leftHypothesis rightHypothesis =>
      rcases readable_join .both readable with ⟨leftReadable, rightReadable⟩
      exact spells_join .both leftReadable (fun _ => leftHypothesis leftReadable)
        (fun _ => rightHypothesis rightReadable) following
  | either left right leftHypothesis rightHypothesis =>
      rcases readable_join .either readable with ⟨leftReadable, rightReadable⟩
      exact spells_join .either leftReadable (fun _ => leftHypothesis leftReadable)
        (fun _ => rightHypothesis rightReadable) following
  | not operand inductionHypothesis =>
      rcases inductionHypothesis readable separator with ⟨tokens, spelled, derived⟩
      rcases Spells.mark (by decide : '!' ∈ Lexeme.markCharacters) (by decide) (by decide)
        (operand.text.toList ++ following) with ⟨joint, negation⟩
      rw [text_not]
      exact ⟨_, negation.append spelled, .negated derived⟩

theorem Readable.parse_text {condition : Condition} (readable : condition.Readable) :
    parse condition.text = .ok condition := by
  rcases readable.spells (rfl : Lexeme.atSeparator [] = true) with ⟨tokens, spelled, derived⟩
  have cutUp := spelled.ofText? readable.no_byteOrderMark
  rw [String.ofList_toList] at cutUp
  have read := run_parser_eq_ok_iff.mpr (.single .either (.single .both derived))
  rw [parse, Parser.parse, cutUp]
  exact read

/-- A condition is read back from its text, however its conjunctions, disjunctions and negations
are nested; and conditions with the same text are equal. -/
theorem text_reads_back (condition : Condition) (readable : condition.Readable) :
    parse condition.text = .ok condition ∧
      ∀ other : Condition, other.Readable → other.text = condition.text → other = condition := by
  refine ⟨readable.parse_text, fun other otherReadable sameText => ?_⟩
  have read := otherReadable.parse_text
  rw [sameText, readable.parse_text] at read
  exact (Except.ok.inj read).symm

/-- A chain that leans to the right is read back as such, with negations of a negation and of a
group and with a raw name in it. -/
theorem text_reads_back_to_right :
    parse "(A | (!!B | !(r#type & C)))" =
      .ok (.either (.named (.plain "A")) (.either (.not (.not (.named (.plain "B"))))
        (.not (.both (.named ⟨"type", true⟩) (.named (.plain "C")))))) :=
  (text_reads_back (.either (.named (.plain "A")) (.either (.not (.not (.named (.plain "B"))))
    (.not (.both (.named ⟨"type", true⟩) (.named (.plain "C")))))) (by decide)).1

end Condition
end Capability

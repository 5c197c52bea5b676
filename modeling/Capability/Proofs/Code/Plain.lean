import Capability.Proofs.Code.Reading

/-!
# Plain tokens

Most types are written by words, lifetimes, brackets and a few marks, and by numbers
of digits alone.  Compact text keeps such tokens apart: behind a word or a number
stands a blank or a mark that neither goes on with it nor opens a literal.
-/

namespace Capability
namespace Code

namespace Lexeme

/-- What may stand behind a word or a number among plain tokens. -/
def separators : List Char := " ~!@$%^&*-=+|;:,<>?()[]\x7b\x7d".toList

/-- Whether a text ends or a separator is ahead. -/
def atSeparator (text : List Char) : Bool := text.head?.all separators.contains

theorem separator_of_head? {text : List Char} (separator : atSeparator text = true) {c : Char}
    (ahead : text.head? = some c) : c ∈ separators := by
  rw [atSeparator, ahead, Option.all_some, List.contains_eq_mem, decide_eq_true_eq] at separator
  exact separator

/-- No word goes on with a separator, and no literal begins there. -/
theorem beginsInWord_of_separator {text : List Char} (separator : atSeparator text = true) :
    beginsInWord text = false := by
  rw [beginsInWord_eq_false_iff]
  rintro c rest rfl
  have each : separators.all (fun c =>
      !Unicode.isIdentifierStart c && !Unicode.isIdentifierContinue c) = true := by
    decide
  simpa using List.all_eq_true.mp each c (separator_of_head? separator rfl)

theorem head?_ne_of_separator {text : List Char} (separator : atSeparator text = true) {c : Char}
    (other : c ∉ separators) : text.head? ≠ some c :=
  fun ahead => other (separator_of_head? separator ahead)

/-- Behind its letters a text that begins like a literal has a quotation mark or a hash mark. -/
theorem wordRest_of_beginsLikeLiteral {c : Char} {rest : List Char}
    (begins : beginsLikeLiteral (c :: rest) = true) :
    ∃ mark ∈ ['"', '#', '\''], (wordRest rest).head? = some mark := by
  rw [beginsLikeLiteral, List.any_eq_true] at begins
  rcases begins with ⟨beginning, listed, isPrefix⟩
  rcases List.isPrefixOf_iff_prefix.mp isPrefix with ⟨behind, same⟩
  simp only [literalBeginnings, List.mem_cons, List.not_mem_nil, or_false] at listed
  rcases listed with rfl | rfl | rfl | rfl | rfl | rfl | rfl | rfl | rfl | rfl <;>
    cases same <;> exact ⟨_, by decide, rfl⟩

/-- A word in front of a separator does not begin like a literal. -/
theorem beginsLikeLiteral_of_plain {word following : List Char} (isWord : isPlainWord word = true)
    (separator : atSeparator following = true) :
    beginsLikeLiteral (word ++ following) = false := by
  rcases (isPlainWord_iff word).mp isWord with ⟨c, rest, rfl, _, continued⟩
  rw [Bool.eq_false_iff]
  intro begins
  rcases wordRest_of_beginsLikeLiteral begins with ⟨mark, listed, ahead⟩
  rw [List.append_eq, wordRest_append continued (beginsInWord_of_separator separator)] at ahead
  have separates := separator_of_head? separator ahead
  simp only [List.mem_cons, List.not_mem_nil, or_false] at listed
  rcases listed with rfl | rfl | rfl <;> exact absurd separates (by decide)

theorem beginsLikeLiteral_of_raw {word : List Char} (isWord : isPlainWord word = true)
    (following : List Char) : beginsLikeLiteral ('r' :: '#' :: word ++ following) = false := by
  rcases (isPlainWord_iff word).mp isWord with ⟨c, rest, rfl, start, _⟩
  have noQuote : '"' ≠ c ∧ '#' ≠ c := by
    constructor <;> rintro rfl <;> exact absurd start (by decide)
  simp [beginsLikeLiteral, literalBeginnings, List.isPrefixOf, noQuote]

end Lexeme

namespace Atom

/-- Words between characters of words, numbers of digits alone, brackets, and marks that neither
begin a comment, a fraction or a raw word. -/
def isPlain : Atom → Bool
  | word name => (word name).startsInWord && (word name).endsInWord
  | mark c => !(['/', '.', '#'].contains c)
  | literal text => text.toList.all Char.isDigit
  | opens _ | closes _ => true

def isWord : Atom → Bool
  | word _ => true
  | _ => false

/-- Whether every apostrophe stands in front of a word. -/
def namesLifetimes : List Atom → Bool
  | [] => true
  | atom :: rest => (atom != mark '\'' || rest.head?.any isWord) && namesLifetimes rest

theorem isKept_of_plain {atom : Atom} (plain : atom.isPlain = true) : atom.isKept = true := by
  cases atom with
  | literal text =>
      have noBlank : ' ' ∉ text.toList := fun member =>
        absurd (List.all_eq_true.mp plain ' ' member) (by decide)
      rw [isKept, Naming.compact, Naming.compactFrom_of_no_blank noBlank, String.ofList_toList,
        beq_self_eq_true]
  | word | mark | opens | closes => rfl

theorem isWordCharacter_of_isDigit {c : Char} (digit : c.isDigit = true) :
    Naming.isWordCharacter c = true := by
  have alphanumeric : Unicode.isAlphanumeric c = true := by
    rw [Unicode.isAlphanumeric, Unicode.member_of_ascii (Unicode.ascii_of_isDigit digit),
      Char.isAlphanum, digit, Bool.or_true]
  rw [Naming.isWordCharacter, alphanumeric]
  rfl

theorem inWord_of_digits {text : String} (whole : (literal text).IsWhole)
    (digits : text.toList.all Char.isDigit = true) :
    (literal text).startsInWord = true ∧ (literal text).endsInWord = true := by
  rw [List.all_eq_true] at digits
  have edge : ∀ {found : Option Char}, found.isSome = true →
      (∀ c, found = some c → c ∈ text.toList) → found.any Naming.isWordCharacter = true := by
    intro found isSome within
    cases found with
    | none => cases isSome
    | some c => exact isWordCharacter_of_isDigit (digits c (within c rfl))
  have nonempty : text.toList ≠ [] := whole.nonempty
  constructor
  · exact edge (List.isSome_head?.mpr nonempty) fun c => List.mem_of_head?
  · exact edge (List.getLast?_isSome.mpr nonempty) fun c => List.mem_of_getLast?

/-- Behind an atom that ends within a word stands a separator. -/
theorem separator_behind {atom : Atom} (inWord : atom.endsInWord = true) {rest : List Atom}
    (whole : ∀ next ∈ rest, next.IsWhole) (plain : ∀ next ∈ rest, next.isPlain = true) :
    Lexeme.atSeparator (spread (some atom) rest) = true := by
  cases rest with
  | nil => rfl
  | cons next more =>
      have wholeNext := (List.forall_mem_cons.mp whole).1
      have plainNext := (List.forall_mem_cons.mp plain).1
      cases starts : next.startsInWord with
      | true =>
          rw [spread, Option.any_some, inWord, starts]
          rfl
      | false =>
          rw [spread, starts, Bool.and_false, if_neg Bool.false_ne_true, List.nil_append]
          cases next with
          | word name =>
              rw [isPlain, starts, Bool.false_and] at plainNext
              cases plainNext
          | mark c =>
              have noWord : Naming.isWordCharacter c = false := starts
              have other : c ∉ ['/', '.', '#'] := by simpa [isPlain] using plainNext
              have each : Lexeme.markCharacters.all (fun c => Naming.isWordCharacter c
                  || ['/', '.', '#'].contains c || Lexeme.separators.contains c) = true := by
                decide
              have separator : c ∈ Lexeme.separators := by
                have separates := List.all_eq_true.mp each c wholeNext
                rw [noWord, List.contains_eq_mem, decide_eq_false other] at separates
                simpa using separates
              simpa [Lexeme.atSeparator, chars] using separator
          | literal text =>
              rw [(inWord_of_digits wholeNext plainNext).1] at starts
              cases starts
          | opens delimiter => cases delimiter <;> rfl
          | closes delimiter => cases delimiter <;> rfl

theorem endsInExponent_of_digits {text : List Char} (digits : text.all Char.isDigit = true) :
    Lexeme.endsInExponent text = false := by
  induction text with
  | nil => rfl
  | cons c rest inductionHypothesis =>
      rw [List.all_cons, Bool.and_eq_true] at digits
      have noMark : ¬(decide (c = 'e') || decide (c = 'E')) = true := by
        rw [Bool.or_eq_true, decide_eq_true_eq, decide_eq_true_eq]
        rintro (rfl | rfl) <;> exact absurd digits.1 (by decide)
      rw [Lexeme.endsInExponent, if_neg noMark, inductionHypothesis digits.2, Bool.and_false]

theorem numberGoesOn_of_separator {text following : List Char}
    (digits : text.all Char.isDigit = true) (separator : Lexeme.atSeparator following = true) :
    Lexeme.numberGoesOn text following = false := by
  have noPoint : following.head? ≠ some '.' := Lexeme.head?_ne_of_separator separator (by decide)
  have noFraction : Lexeme.beginsFraction following = false := by
    unfold Lexeme.beginsFraction
    split
    · exact absurd rfl noPoint
    · rfl
  simp [Lexeme.numberGoesOn, noFraction, noPoint, endsInExponent_of_digits digits]

/-- Behind the apostrophe of a lifetime stands a word in front of a separator. -/
theorem opensLifetime_of_named {rest : List Atom}
    (whole : ∀ next ∈ mark '\'' :: rest, next.IsWhole)
    (plain : ∀ next ∈ mark '\'' :: rest, next.isPlain = true)
    (named : (mark '\'' != mark '\'' || rest.head?.any isWord) = true) :
    Lexeme.opensLifetime (spread (some (mark '\'')) rest) = true := by
  match rest with
  | [] => cases named
  | word name :: more =>
      rw [List.forall_mem_cons, List.forall_mem_cons] at whole plain
      have inWord := (Bool.and_eq_true_iff.mp plain.2.1).2
      have separator : Lexeme.atSeparator (spread (some (word name)) more) = true :=
        separator_behind inWord whole.2.2 plain.2.2
      have noQuote := Lexeme.head?_ne_of_separator separator (by decide : '\'' ∉ Lexeme.separators)
      have noHash := Lexeme.head?_ne_of_separator separator (by decide : '#' ∉ Lexeme.separators)
      rcases name.isRead_iff.mp whole.2.1 with ⟨isWord, rawForm⟩
      have ahead := Lexeme.anyWord?_append isWord rawForm
        (Lexeme.beginsInWord_of_separator separator) (fun _ => noHash)
      have text : spread (some (mark '\'')) (word name :: more) =
          name.written.toList ++ spread (some (word name)) more := rfl
      rw [text, Lexeme.opensLifetime, ahead]
      simp [noQuote, noHash]

/-- A word does not run into a separator. -/
theorem word_not_runsInto {name : Word} (read : name.IsRead) {following : List Char}
    (separator : Lexeme.atSeparator following = true) : (word name).runsInto following = false := by
  have noLiteral : Lexeme.beginsLikeLiteral (name.written.toList ++ following) = false := by
    have isWord := (name.isRead_iff.mp read).1
    cases raw : name.raw with
    | true =>
        rw [Lexeme.written_of_raw raw]
        exact Lexeme.beginsLikeLiteral_of_raw isWord _
    | false =>
        rw [Lexeme.written_of_plain raw]
        exact Lexeme.beginsLikeLiteral_of_plain isWord separator
  have noHash := Lexeme.head?_ne_of_separator separator (by decide : '#' ∉ Lexeme.separators)
  rw [runsInto, Lexeme.beginsInWord_of_separator separator, noLiteral]
  simp [noHash]

/-- Plain atoms do not run into what stands behind them. -/
theorem not_runsInto {atom : Atom} {rest : List Atom} (whole : ∀ next ∈ atom :: rest, next.IsWhole)
    (plain : ∀ next ∈ atom :: rest, next.isPlain = true)
    (named : namesLifetimes (atom :: rest) = true) :
    atom.runsInto (spread (some atom) rest) = false := by
  rcases List.forall_mem_cons.mp whole with ⟨wholeFirst, wholeRest⟩
  rcases List.forall_mem_cons.mp plain with ⟨plainFirst, plainRest⟩
  have separator : atom.endsInWord = true → Lexeme.atSeparator (spread (some atom) rest) = true :=
    fun inWord => separator_behind inWord wholeRest plainRest
  cases atom with
  | word name =>
      rw [isPlain, Bool.and_eq_true] at plainFirst
      exact word_not_runsInto wholeFirst (separator plainFirst.2)
  | mark c =>
      have noStroke : c ≠ '/' := by
        rintro rfl
        cases plainFirst
      rw [runsInto, Lexeme.beginsComment_of_ne noStroke, Bool.false_or]
      by_cases apostrophe : c = '\''
      · subst apostrophe
        rw [opensLifetime_of_named whole plain (Bool.and_eq_true_iff.mp named).1]
        rfl
      · simp [apostrophe]
  | literal text =>
      have separator := separator (inWord_of_digits wholeFirst plainFirst).2
      rw [runsInto, Lexeme.beginsInWord_of_separator separator,
        numberGoesOn_of_separator plainFirst separator]
      rfl
  | opens delimiter =>
      rw [runsInto]
      cases rest with
      | nil => rfl
      | cons next more =>
          have noWord : (opens delimiter).endsInWord = false := judged_opens delimiter
          rcases (List.forall_mem_cons.mp wholeRest).1.eq_cons with ⟨c, behind, same, _, _, stroke⟩
          have noStroke : c ≠ '/' := by
            intro isStroke
            have plainNext := (List.forall_mem_cons.mp plainRest).1
            rw [stroke isStroke] at plainNext
            cases plainNext
          rw [spread, Option.any_some, noWord, same]
          exact Lexeme.beginsComment_of_ne noStroke _
  | closes delimiter => rfl

theorem apart_of_plain {atoms : List Atom} (whole : ∀ atom ∈ atoms, atom.IsWhole)
    (plain : ∀ atom ∈ atoms, atom.isPlain = true) (named : namesLifetimes atoms = true) :
    apart atoms = true := by
  induction atoms with
  | nil => rfl
  | cons atom rest inductionHypothesis =>
      have further := inductionHypothesis (List.forall_mem_cons.mp whole).2
        (List.forall_mem_cons.mp plain).2 (Bool.and_eq_true_iff.mp named).2
      rw [apart, not_runsInto whole plain named, further]
      rfl

end Atom

namespace Tokens

/-- Tokens of source code that are plain. -/
structure IsPlain (tokens : Tokens) : Prop where
  whole : ∀ atom ∈ tokens.atoms, atom.IsWhole
  joined : tokens.joins = true
  plain : ∀ atom ∈ tokens.atoms, atom.isPlain = true
  named : Atom.namesLifetimes tokens.atoms = true

/-- Plain tokens are kept apart. -/
theorem IsPlain.keptApart {tokens : Tokens} (isPlain : tokens.IsPlain) : tokens.KeptApart where
  whole := isPlain.whole
  joined := isPlain.joined
  kept := fun atom member => Atom.isKept_of_plain (isPlain.plain atom member)
  apart := Atom.apart_of_plain isPlain.whole isPlain.plain isPlain.named

end Tokens
end Code
end Capability

import Capability.Proofs.Code.Atom
import Capability.Proofs.Code.Leaf
import Mathlib.Data.List.Forall2

/-!
# Reading compact text

The reader of source code takes the longest token that stands ahead.  Compact text
has no blank that only marks the end of a token, so the reader gives back the atoms
of a text where no atom runs into the characters behind it.

That no atom does is a condition on an atom and the text behind it.  From it follows
that one step of the reader takes one atom, and by induction that the whole text is
read as the atoms it was put together from; brackets then close as they opened.
-/

namespace Capability
namespace Code

open Unicode (isIdentifierStart isIdentifierContinue)

theorem Word.written_eq_cons {word : Word} (read : word.IsRead) :
    ∃ c rest, word.written.toList = c :: rest ∧ isIdentifierStart c = true := by
  cases raw : word.raw with
  | true => exact ⟨'r', _, Lexeme.written_of_raw raw, by decide⟩
  | false =>
      rcases (Lexeme.isPlainWord_iff _).mp (word.isRead_iff.mp read).1 with
        ⟨c, rest, text, start, _⟩
      exact ⟨c, rest, by rw [Lexeme.written_of_plain raw, text], start⟩

theorem Word.no_blank {word : Word} (read : word.IsRead) : ' ' ∉ word.written.toList := by
  have plain : ' ' ∉ word.text.toList := by
    rcases (Lexeme.isPlainWord_iff _).mp (word.isRead_iff.mp read).1 with
      ⟨c, rest, text, start, continued⟩
    rw [text, List.mem_cons, not_or]
    constructor
    · rintro rfl
      exact absurd start (by decide)
    · exact fun member => absurd (List.all_eq_true.mp continued ' ' member) (by decide)
  cases raw : word.raw with
  | true =>
      rw [Lexeme.written_of_raw raw]
      simp [plain]
  | false => rwa [Lexeme.written_of_plain raw]

/-! ## One step of the reader -/

namespace Lexer

def Piece.atoms : Piece → List Atom
  | tree token => token.atoms
  | opens delimiter => [.opens delimiter]
  | closes delimiter => [.closes delimiter]

theorem gap_eq_none {c : Char} {rest : List Char} (noBlank : isBlank c = false)
    (noComment : Lexeme.beginsComment (c :: rest) = false) : gap (c :: rest) = .none := by
  unfold gap
  split
  · next same =>
    rw [same] at noComment
    cases noComment
  · next same =>
    rw [same] at noComment
    cases noComment
  · next same =>
    rw [← (List.cons.inj same).1, noBlank]
    rfl
  · rfl

theorem gap_blank (rest : List Char) : gap (' ' :: rest) = .dropped rest := rfl

theorem piece?_of_leaf {c : Char} {rest following : List Char} {token : TokenTree}
    (noBracket : bracket? c = none) (leaf : Lexeme.leaf? (c :: rest) = some (token, following)) :
    piece? (c :: rest) = some (.tree token, following) := by
  rw [piece?, noBracket, leaf]
  rfl

theorem piece?_of_errorLiteral (following : List Char) :
    piece? (Lexeme.errorLiteral.toList ++ following) =
      some (.tree (.literal Lexeme.errorLiteral), following) := by
  have leaf := Lexeme.leaf?_of_errorLiteral following
  have isPrefix := Lexeme.isPrefix_errorLiteral following
  rcases (⟨_, rfl⟩ : ∃ rest, Lexeme.errorLiteral.toList ++ following = '(' :: rest) with
    ⟨rest, same⟩
  rw [same] at leaf isPrefix ⊢
  simp only [piece?, bracket?, isPrefix, leaf, if_true, Option.map_some]

theorem piece?_of_parenthesis {following : List Char}
    (noComment : Lexeme.beginsComment following = false) :
    piece? ('(' :: following) = some (.opens .parenthesis, following) := by
  have noError : Lexeme.errorLiteral.toList.isPrefixOf ('(' :: following) = false := by
    rw [Bool.eq_false_iff, Lexeme.toList_errorLiteral]
    intro isPrefix
    rcases List.isPrefixOf_iff_prefix.mp isPrefix with ⟨rest, same⟩
    rw [← (List.cons.inj same).2] at noComment
    cases noComment
  simp only [piece?, bracket?, noError, if_neg Bool.false_ne_true]

end Lexer

namespace Atom

/-- An atom as the reader of source code gives it: the text of a word or of a literal is read as
that and nothing is left. -/
def IsWhole : Atom → Prop
  | word name => name.IsRead
  | mark c => c ∈ Lexeme.markCharacters
  | literal text => Lexeme.literal? text.toList = some [] ∨ text = Lexeme.errorLiteral
  | opens _ | closes _ => True

instance : DecidablePred IsWhole
  | word name => inferInstanceAs (Decidable (Lexeme.anyWord? name.written.toList = some (name, [])))
  | mark c => inferInstanceAs (Decidable (c ∈ Lexeme.markCharacters))
  | literal text => inferInstanceAs
      (Decidable (Lexeme.literal? text.toList = some [] ∨ text = Lexeme.errorLiteral))
  | opens _ | closes _ => isTrue trivial

/-- Whether an atom loses no blank of its own; only literals have any. -/
def isKept : Atom → Bool
  | literal text => Naming.compact text == text
  | _ => true

/-- Whether the reader would not stop at the end of an atom in front of a text. -/
def runsInto : Atom → List Char → Bool
  | word name, following =>
    Lexeme.beginsInWord following || Lexeme.beginsLikeLiteral (name.written.toList ++ following)
      || name.written == "r" && following.head? == some '#'
  | mark c, following =>
    Lexeme.beginsComment (c :: following) || c == '\'' && !Lexeme.opensLifetime following
  | literal text, following =>
    Lexeme.beginsInWord following || Lexeme.numberGoesOn text.toList following
  | opens _, following => Lexeme.beginsComment following
  | closes _, _ => false

/-- A whole atom begins with a character that is no blank, and in a stroke only if it is one. -/
theorem IsWhole.eq_cons {atom : Atom} (whole : atom.IsWhole) :
    ∃ c rest, atom.chars = c :: rest ∧ Lexer.isBlank c = false ∧ c ≠ Lexer.byteOrderMark ∧
      (c = '/' → atom = mark '/') := by
  cases atom with
  | word name =>
      rcases Word.written_eq_cons whole with ⟨c, rest, text, start⟩
      have leaf := (Lexer.beginsLeaf_iff c).mp (Lexer.beginsLeaf_of_start start)
      refine ⟨c, rest, text, leaf.1, leaf.2.2, ?_⟩
      rintro rfl
      exact absurd start (by decide)
  | mark c =>
      have leaf := (Lexer.beginsLeaf_iff c).mp (Lexer.beginsLeaf_of_mark whole)
      exact ⟨c, [], rfl, leaf.1, leaf.2.2, fun stroke => by rw [stroke]⟩
  | literal text =>
      rcases whole with read | rfl
      · rcases Lexeme.canBeginLiteral_of_literal? read with ⟨c, rest, same, begins⟩
        rcases Lexer.beginsLeaf_of_canBeginLiteral begins with ⟨leaf, noStroke, _⟩
        rw [Lexer.beginsLeaf_iff] at leaf
        exact ⟨c, rest, same, leaf.1, leaf.2.2, fun stroke => absurd stroke noStroke⟩
      · exact ⟨'(', _, rfl, by decide, by decide, by decide⟩
  | opens delimiter => cases delimiter <;> exact ⟨_, [], rfl, by decide, by decide, by decide⟩
  | closes delimiter => cases delimiter <;> exact ⟨_, [], rfl, by decide, by decide, by decide⟩

/-- No blank and no comment stands where an atom does. -/
theorem IsWhole.gap_eq_none {atom : Atom} (whole : atom.IsWhole) {following : List Char}
    (apart : atom.runsInto following = false) : Lexer.gap (atom.chars ++ following) = .none := by
  rcases whole.eq_cons with ⟨c, rest, same, noBlank, _, stroke⟩
  rw [same, List.cons_append]
  apply Lexer.gap_eq_none noBlank
  by_cases isStroke : c = '/'
  · rw [stroke isStroke, chars] at same
    rw [stroke isStroke, runsInto, Bool.or_eq_false_iff] at apart
    rw [← (List.cons.inj same).2, ← (List.cons.inj same).1]
    exact apart.1
  · exact Lexeme.beginsComment_of_ne isStroke _

theorem IsWhole.nonempty {atom : Atom} (whole : atom.IsWhole) : atom.chars ≠ [] := by
  rcases whole.eq_cons with ⟨c, rest, same, _⟩
  rw [same]
  exact List.cons_ne_nil c rest

/-- The reader takes one atom. -/
theorem IsWhole.piece?_chars {atom : Atom} (whole : atom.IsWhole) {following : List Char}
    (apart : atom.runsInto following = false) :
    ∃ piece, Lexer.piece? (atom.chars ++ following) = some (piece, following) ∧
      piece.atoms = [atom] := by
  cases atom with
  | word name =>
      rcases Word.written_eq_cons whole with ⟨c, rest, text, start⟩
      have leaf := (Lexer.beginsLeaf_iff c).mp (Lexer.beginsLeaf_of_start start)
      simp only [runsInto, Bool.or_eq_false_iff] at apart
      rcases name.isRead_iff.mp whole with ⟨isWord, rawForm⟩
      have ahead := Lexeme.anyWord?_append isWord rawForm apart.1.1 (by simpa using apart.2)
      rw [text, List.cons_append] at ahead apart
      rw [chars, text, List.cons_append]
      exact ⟨_, Lexer.piece?_of_leaf leaf.2.1 (Lexeme.leaf?_of_word start apart.1.2 ahead), rfl⟩
  | mark c =>
      have leaf := (Lexer.beginsLeaf_iff c).mp (Lexer.beginsLeaf_of_mark whole)
      simp only [runsInto, Bool.or_eq_false_iff, Bool.and_eq_false_imp, beq_iff_eq,
        Bool.not_eq_false'] at apart
      rcases Lexeme.leaf?_of_mark whole apart.1 apart.2 with ⟨joint, found⟩
      exact ⟨_, Lexer.piece?_of_leaf leaf.2.1 found, rfl⟩
  | literal text =>
      simp only [runsInto, Bool.or_eq_false_iff] at apart
      rcases whole with read | rfl
      · rcases Lexeme.canBeginLiteral_of_literal? read with ⟨c, rest, same, begins⟩
        rcases Lexer.beginsLeaf_of_canBeginLiteral begins with ⟨leaf, _, noSign⟩
        have found := Lexeme.leaf?_of_literal read apart.1 apart.2
        have single : ofLiteral text = [literal text] := by
          rw [ofLiteral, same]
          split <;> simp_all
        rw [chars]
        rw [same, List.cons_append] at found ⊢
        exact ⟨_, Lexer.piece?_of_leaf ((Lexer.beginsLeaf_iff c).mp leaf).2.1 found, single⟩
      · refine ⟨.tree (.literal Lexeme.errorLiteral), ?_, rfl⟩
        exact Lexer.piece?_of_errorLiteral following
  | opens delimiter =>
      cases delimiter with
      | parenthesis => exact ⟨_, Lexer.piece?_of_parenthesis apart, rfl⟩
      | bracket | brace => exact ⟨_, rfl, rfl⟩
  | closes delimiter => cases delimiter <;> exact ⟨_, rfl, rfl⟩

/-- One step of the reader cuts off one atom. -/
theorem IsWhole.pieces?_chars {atom : Atom} (whole : atom.IsWhole) {following : List Char}
    (apart : atom.runsInto following = false) :
    ∃ piece, piece.atoms = [atom] ∧ ∀ fuel, Lexer.pieces? (fuel + 1) (atom.chars ++ following) =
      (Lexer.pieces? fuel following).map (piece :: ·) := by
  have noGap := whole.gap_eq_none apart
  rcases whole.piece?_chars apart with ⟨piece, read, single⟩
  refine ⟨piece, single, fun fuel => ?_⟩
  rcases whole.eq_cons with ⟨c, rest, same, _⟩
  rw [same, List.cons_append] at noGap read ⊢
  simp only [Lexer.pieces?, noGap, read, Option.bind_eq_bind, Option.bind_some]
  cases Lexer.pieces? fuel following <;> rfl

/-! ## The pieces of a text -/

/-- Whether no atom runs into the text of those behind it. -/
def apart : List Atom → Bool
  | [] => true
  | atom :: rest => !atom.runsInto (spread (some atom) rest) && apart rest

/-- Pieces that are the given atoms, one by one. -/
def Cut (pieces : List Lexer.Piece) (atoms : List Atom) : Prop :=
  List.Forall₂ (fun piece atom => piece.atoms = [atom]) pieces atoms

/-- The reader cuts the text of atoms into these atoms. -/
theorem pieces?_spread {atoms : List Atom} (whole : ∀ atom ∈ atoms, atom.IsWhole)
    (isApart : apart atoms = true) (before : Option Atom) {fuel : Nat}
    (enough : (spread before atoms).length ≤ fuel) :
    ∃ pieces, Lexer.pieces? fuel (spread before atoms) = some pieces ∧ Cut pieces atoms := by
  induction atoms generalizing before fuel with
  | nil =>
      refine ⟨[], ?_, .nil⟩
      cases fuel <;> rfl
  | cons atom rest inductionHypothesis =>
      rw [apart, Bool.and_eq_true, Bool.not_eq_true'] at isApart
      rw [List.forall_mem_cons] at whole
      rcases whole.1.pieces?_chars isApart.1 with ⟨piece, single, step⟩
      have first : ∀ {fuel : Nat}, (atom.chars ++ spread (some atom) rest).length ≤ fuel →
          ∃ pieces, Lexer.pieces? fuel (atom.chars ++ spread (some atom) rest) = some pieces ∧
            Cut pieces (atom :: rest) := by
        intro fuel enough
        have begun := List.length_pos_of_ne_nil whole.1.nonempty
        rw [List.length_append] at enough
        cases fuel with
        | zero => omega
        | succ fuel =>
            have shorter : (spread (some atom) rest).length ≤ fuel := by omega
            rcases inductionHypothesis whole.2 isApart.2 (some atom) shorter with
              ⟨pieces, others, cut⟩
            refine ⟨piece :: pieces, ?_, .cons single cut⟩
            rw [step, others]
            rfl
      -- A blank in front of the atom is one more step, which drops it.
      rw [spread, List.append_assoc] at enough ⊢
      split at enough
      · next blank =>
        cases fuel with
        | zero => cases enough
        | succ fuel =>
            rcases first (Nat.le_of_succ_le_succ enough) with ⟨pieces, read, cut⟩
            refine ⟨pieces, ?_, cut⟩
            rw [if_pos blank, List.singleton_append, Lexer.pieces?, Lexer.gap_blank]
            exact read
      · next noBlank =>
        rw [if_neg noBlank]
        exact first enough

/-! ## Brackets -/

/-- Whether brackets close in the order in which they were opened, given those that are open. -/
def balanced : List Delimiter → List Atom → Bool
  | [], [] => true
  | _ :: _, [] => false
  | unclosed, opens delimiter :: rest => balanced (delimiter :: unclosed) rest
  | expected :: unclosed, closes delimiter :: rest =>
    expected == delimiter && balanced unclosed rest
  | [], closes _ :: _ => false
  | unclosed, _ :: rest => balanced unclosed rest

theorem balanced_ofLiteral (unclosed : List Delimiter) (text : String) (rest : List Atom) :
    balanced unclosed (ofLiteral text ++ rest) = balanced unclosed rest := by
  rw [ofLiteral]
  split <;> simp [balanced]

end Atom

namespace TokenTree

open Atom

mutual

/-- A token tree closes the brackets that it opens. -/
theorem balanced_atoms (tree : TokenTree) (unclosed : List Delimiter) (rest : List Atom) :
    balanced unclosed (atoms tree ++ rest) = balanced unclosed rest := by
  match tree with
  | .word name => simp [atoms, balanced]
  | .mark c joint => simp [atoms, balanced]
  | .literal text => exact balanced_ofLiteral unclosed text rest
  | .group delimiter content =>
      rw [atoms, List.cons_append, List.cons_append, List.append_assoc, balanced,
        balanced_atomsAll content]
      simp [balanced]

theorem balanced_atomsAll (trees : List TokenTree) (unclosed : List Delimiter) (rest : List Atom) :
    balanced unclosed (atomsAll trees ++ rest) = balanced unclosed rest := by
  match trees with
  | [] => rfl
  | tree :: others =>
      rw [atomsAll, List.append_assoc, balanced_atoms tree, balanced_atomsAll others]

end

theorem atomsAll_append (front behind : List TokenTree) :
    atomsAll (front ++ behind) = atomsAll front ++ atomsAll behind := by
  induction front with
  | nil => rfl
  | cons tree rest inductionHypothesis =>
      rw [List.cons_append, atomsAll, atomsAll, inductionHypothesis, List.append_assoc]

end TokenTree

namespace Lexer

/-- The atoms that were read in front of a place within open groups. -/
def atomsBefore (read : Tokens) : List Frame → List Atom
  | [] => TokenTree.atomsAll read.reverse
  | frame :: frames =>
    atomsBefore frame.before frames ++ .opens frame.delimiter :: TokenTree.atomsAll read.reverse

theorem atomsBefore_cons (tree : TokenTree) (read : Tokens) (frames : List Frame) :
    atomsBefore (tree :: read) frames = atomsBefore read frames ++ tree.atoms := by
  have last : TokenTree.atomsAll (tree :: read).reverse =
      TokenTree.atomsAll read.reverse ++ tree.atoms := by
    rw [List.reverse_cons, TokenTree.atomsAll_append, TokenTree.atomsAll, TokenTree.atomsAll,
      List.append_nil]
  cases frames with
  | nil => exact last
  | cons frame frames => rw [atomsBefore, last, atomsBefore, List.append_assoc, List.cons_append]

/-- Pieces whose brackets close as they open are the pieces of trees. -/
theorem trees?_of_balanced {pieces : List Piece} {atoms : List Atom} (cut : Atom.Cut pieces atoms)
    (frames : List Frame) (read : Tokens)
    (balanced : Atom.balanced (frames.map Frame.delimiter) atoms = true) :
    ∃ trees, trees? frames read pieces = some trees ∧
      TokenTree.atomsAll trees = atomsBefore read frames ++ atoms := by
  induction cut generalizing frames read with
  | nil =>
      cases frames with
      | nil => exact ⟨read.reverse, rfl, (List.append_nil _).symm⟩
      | cons frame frames => cases balanced
  | @cons piece atom pieces atoms single cut inductionHypothesis =>
      cases piece with
      | tree token =>
          rw [Piece.atoms] at single
          rw [← List.singleton_append, ← single, TokenTree.balanced_atoms] at balanced
          rcases inductionHypothesis frames (token :: read) balanced with ⟨trees, found, same⟩
          refine ⟨trees, ?_, ?_⟩
          · rw [← found]
            cases frames <;> rfl
          · rw [same, atomsBefore_cons, single, List.append_assoc, List.singleton_append]
      | opens delimiter =>
          cases single
          rcases inductionHypothesis (⟨delimiter, read⟩ :: frames) []
            (by simpa [Atom.balanced] using balanced) with ⟨trees, found, same⟩
          refine ⟨trees, ?_, ?_⟩
          · rw [← found]
            cases frames <;> rfl
          · rw [same, atomsBefore, List.append_assoc]
            rfl
      | closes delimiter =>
          cases single
          cases frames with
          | nil => cases balanced
          | cons frame frames =>
              rw [List.map_cons, Atom.balanced, Bool.and_eq_true, beq_iff_eq] at balanced
              rcases inductionHypothesis frames (.group delimiter read.reverse :: frame.before)
                balanced.2 with ⟨trees, found, same⟩
              refine ⟨trees, ?_, ?_⟩
              · rw [trees?, if_pos balanced.1, found]
              · rw [same, atomsBefore_cons, TokenTree.atoms, atomsBefore, balanced.1]
                simp

theorem withoutMark_of_ne {text : List Char} (noMark : text.head? ≠ some byteOrderMark) :
    withoutMark text = text := by
  cases text with
  | nil => rfl
  | cons c rest =>
      rw [withoutMark, if_neg]
      simpa using noMark

end Lexer

/-! ## Compact text -/

namespace Atom

/-- No mark but the apostrophe of a lifetime is a character of words. -/
theorem judged_mark {c : Char} (mark : c ∈ Lexeme.markCharacters) (other : c ≠ '\'') :
    Judged (some (.mark c)) true := by
  have each : Lexeme.markCharacters.all (fun c =>
      c == '\'' || !Naming.isWordCharacter c) = true := by
    decide
  have noWord : Naming.isWordCharacter c = false := by
    simpa [other] using List.all_eq_true.mp each c mark
  simpa [Judged, last, chars, endsInWord] using noWord

/-- A whole atom stays as it is, a literal if it loses no blank. -/
theorem IsWhole.stays {atom : Atom} (whole : atom.IsWhole) (kept : atom.isKept = true) :
    atom.Stays := by
  cases atom with
  | word name => exact ⟨whole.nonempty, Naming.compactFrom_of_no_blank (Word.no_blank whole) none,
      fun _ => rfl⟩
  | mark c =>
      have noBlank : c ≠ ' ' := by
        rintro rfl
        exact absurd (Lexer.beginsLeaf_of_mark whole) (by decide)
      exact ⟨whole.nonempty, Naming.compactFrom_cons noBlank none [],
        fun other => judged_mark whole (by simpa using other)⟩
  | literal text =>
      rw [isKept, beq_iff_eq, Naming.compact, ← String.toList_inj, String.toList_ofList] at kept
      exact ⟨whole.nonempty, kept, fun _ => rfl⟩
  | opens delimiter => exact Stays.opens delimiter
  | closes delimiter => exact Stays.closes delimiter

end Atom

namespace Tokens

/-- Tokens whose compact text keeps them apart. -/
structure KeptApart (tokens : Tokens) : Prop where
  /-- They are tokens of source code. -/
  whole : ∀ atom ∈ tokens.atoms, atom.IsWhole
  /-- An apostrophe opens a lifetime and joins its name. -/
  joined : tokens.joins = true
  /-- No literal loses a blank of its own. -/
  kept : ∀ atom ∈ tokens.atoms, atom.isKept = true
  /-- No token runs into what stands behind it in the compact text. -/
  apart : Atom.apart tokens.atoms = true

theorem keptApart_iff (tokens : Tokens) :
    tokens.KeptApart ↔ (∀ atom ∈ tokens.atoms, atom.IsWhole) ∧ tokens.joins = true ∧
      (∀ atom ∈ tokens.atoms, atom.isKept = true) ∧ Atom.apart tokens.atoms = true :=
  ⟨fun keptApart => ⟨keptApart.whole, keptApart.joined, keptApart.kept, keptApart.apart⟩,
    fun ⟨whole, joined, kept, apart⟩ => ⟨whole, joined, kept, apart⟩⟩

instance (tokens : Tokens) : Decidable tokens.KeptApart := decidable_of_iff' _ tokens.keptApart_iff

/-- The text of whole atoms that do not run into each other is read as these atoms. -/
theorem ofText?_spread {tokens : Tokens} (whole : ∀ atom ∈ tokens.atoms, atom.IsWhole)
    (isApart : Atom.apart tokens.atoms = true) :
    ∃ read, Tokens.ofText? (String.ofList (Atom.spread none tokens.atoms)) = some read ∧
      read.atoms = tokens.atoms := by
  rcases Atom.pieces?_spread whole isApart none (Nat.le_refl _) with ⟨pieces, cutUp, cut⟩
  have balanced : Atom.balanced [] tokens.atoms = true := by
    have closes := TokenTree.balanced_atomsAll tokens [] []
    rw [List.append_nil] at closes
    exact closes
  rcases Lexer.trees?_of_balanced cut [] [] balanced with ⟨trees, found, same⟩
  have noMark : (Atom.spread none tokens.atoms).head? ≠ some Lexer.byteOrderMark := by
    cases listed : tokens.atoms with
    | nil => simp [Atom.spread]
    | cons atom rest =>
        rcases (whole atom (listed ▸ List.mem_cons_self)).eq_cons with ⟨c, more, same, _, noMark, _⟩
        simpa [Atom.spread, same] using noMark
  refine ⟨trees, ?_, same⟩
  rw [ofText?, String.toList_ofList, Lexer.withoutMark_of_ne noMark, cutUp, Option.bind_some, found]

/-- The compact text of tokens that are kept apart is read as their atoms. -/
theorem KeptApart.ofText?_compactText {tokens : Tokens} (keptApart : tokens.KeptApart) :
    ∃ read, Tokens.ofText? tokens.compactText = some read ∧ read.atoms = tokens.atoms := by
  have text := toList_compactText
    (fun atom member => (keptApart.whole atom member).stays (keptApart.kept atom member))
    keptApart.joined
  rw [← String.ofList_toList (s := tokens.compactText), text]
  exact ofText?_spread keptApart.whole keptApart.apart

end Tokens
end Code
end Capability

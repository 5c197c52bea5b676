import Capability.Proofs.Code.Plain

/-!
# Text that spells tokens

A text is written token by token, and the reader takes it apart again in two passes: it
cuts the text into pieces, and it forms trees of the pieces.  A text spells certain tokens
in front of what follows it if it is cut into pieces that form these tokens, wherever it
stands among other pieces.

Both passes go through a text from its front, so the spellings of two parts make up the
spelling of both, and brackets around a spelling give a group.  What follows a text matters
only where its last token ends.
-/

namespace Capability
namespace Code
namespace Lexer

/-! ## Pieces that are one atom -/

namespace Piece

variable {piece : Piece}

/-- A literal is written by a literal, behind a sign or not. -/
theorem ofLiteral_cases (text : String) :
    Atom.ofLiteral text = [.literal text] ∨
      ∃ number, Atom.ofLiteral text = [.mark '-', .literal number] := by
  rw [Atom.ofLiteral]
  split
  · exact .inr ⟨_, rfl⟩
  · exact .inl rfl

theorem eq_tree {atom : Atom} (single : piece.atoms = [atom]) :
    match atom with
    | .word name => piece = .tree (.word name)
    | .mark c => ∃ joint, piece = .tree (.mark c joint)
    | .literal text => piece = .tree (.literal text)
    | .opens delimiter => piece = .opens delimiter
    | .closes delimiter => piece = .closes delimiter := by
  cases piece with
  | opens delimiter => cases single; rfl
  | closes delimiter => cases single; rfl
  | tree token =>
      cases token with
      | word name => cases single; rfl
      | mark c joint => cases single; exact ⟨joint, rfl⟩
      | literal text =>
          rcases ofLiteral_cases text with same | ⟨number, same⟩
          · cases same.symm.trans single
            rfl
          · cases same.symm.trans single
      | group delimiter content =>
          have two := congrArg List.length single
          simp [Piece.atoms, TokenTree.atoms] at two

end Piece

/-! ## Cutting a text -/

/-- In front of `following` the reader cuts a text into pieces, in no more steps than it has
characters. -/
def Cuts (text : List Char) (pieces : List Piece) (following : List Char) : Prop :=
  ∃ steps ≤ text.length, ∀ fuel,
    pieces? (fuel + steps) (text ++ following) = (pieces? fuel following).map (pieces ++ ·)

namespace Cuts

theorem blank (following : List Char) : Cuts [' '] [] following := by
  refine ⟨1, Nat.le_refl 1, fun fuel => ?_⟩
  rw [List.singleton_append, pieces?, gap_blank]
  exact Option.map_id.symm ▸ rfl

/-- An atom is cut off where it does not run into what follows. -/
theorem atom (atom : Atom) (whole : atom.IsWhole) {following : List Char}
    (apart : atom.runsInto following = false) :
    ∃ piece, piece.atoms = [atom] ∧ Cuts atom.chars [piece] following := by
  rcases whole.pieces?_chars apart with ⟨piece, single, cut⟩
  exact ⟨piece, single, 1, List.length_pos_of_ne_nil whole.nonempty, cut⟩

theorem append {front behind following : List Char} {first second : List Piece}
    (cutFront : Cuts front first (behind ++ following)) (cutBehind : Cuts behind second following) :
    Cuts (front ++ behind) (first ++ second) following := by
  rcases cutFront with ⟨frontSteps, frontBound, cutFront⟩
  rcases cutBehind with ⟨behindSteps, behindBound, cutBehind⟩
  refine ⟨behindSteps + frontSteps, ?_, fun fuel => ?_⟩
  · rw [List.length_append]
    omega
  · rw [List.append_assoc, ← Nat.add_assoc, cutFront, cutBehind, Option.map_map]
    simp only [Function.comp_def, List.append_assoc]

end Cuts

/-! ## Forming trees -/

/-- Among other pieces these add certain tokens to those that were read before. -/
def Forms (pieces : List Piece) (tokens : Tokens) : Prop :=
  ∀ frames read rest, trees? frames read (pieces ++ rest) = trees? frames (tokens.reverse ++ read) rest

namespace Forms

theorem nil : Forms [] [] := fun _ _ _ => rfl

theorem tree (token : TokenTree) : Forms [.tree token] [token] := by
  intro frames read rest
  cases frames <;> rfl

theorem append {first second : List Piece} {front behind : Tokens} (formFront : Forms first front)
    (formBehind : Forms second behind) : Forms (first ++ second) (front ++ behind) := by
  intro frames read rest
  rw [List.append_assoc, formFront, formBehind, List.reverse_append, List.append_assoc]

/-- Brackets around pieces form a group. -/
theorem grouped (delimiter : Delimiter) {pieces : List Piece} {content : Tokens}
    (form : Forms pieces content) :
    Forms (.opens delimiter :: (pieces ++ [.closes delimiter])) [.group delimiter content] := by
  intro frames read rest
  have opened : trees? frames read (.opens delimiter :: (pieces ++ .closes delimiter :: rest)) =
      trees? (⟨delimiter, read⟩ :: frames) [] (pieces ++ .closes delimiter :: rest) := by
    cases frames <;> rfl
  rw [List.cons_append, List.append_assoc, List.singleton_append, opened, form, trees?, if_pos rfl,
    List.append_nil, List.reverse_reverse]
  rfl

end Forms
end Lexer

/-! ## Spelling -/

open Lexer (Cuts Forms)

/-- In front of `following` a text is read as certain tokens. -/
def Spells (text : List Char) (tokens : Tokens) (following : List Char) : Prop :=
  ∃ pieces, Cuts text pieces following ∧ Forms pieces tokens

namespace Spells

theorem blank (following : List Char) : Spells [' '] [] following :=
  ⟨[], .blank following, .nil⟩

theorem word {word : Word} (read : word.IsRead) {following : List Char}
    (separator : Lexeme.atSeparator following = true) :
    Spells word.written.toList [.word word] following := by
  rcases Cuts.atom (.word word) read (Atom.word_not_runsInto read separator) with
    ⟨piece, single, cut⟩
  exact ⟨[piece], cut, Lexer.Piece.eq_tree single ▸ .tree _⟩

/-- Whether a mark is joint is up to what follows it. -/
theorem mark {c : Char} (mark : c ∈ Lexeme.markCharacters) (noComment : c ≠ '/')
    (noLifetime : c ≠ '\'') (following : List Char) :
    ∃ joint, Spells [c] [.mark c joint] following := by
  have apart : (Atom.mark c).runsInto following = false := by
    rw [Atom.runsInto, Lexeme.beginsComment_of_ne noComment, Bool.false_or,
      beq_eq_false_iff_ne.mpr noLifetime, Bool.false_and]
  rcases Cuts.atom (.mark c) mark apart with ⟨piece, single, cut⟩
  rcases Lexer.Piece.eq_tree single with ⟨joint, rfl⟩
  exact ⟨joint, _, cut, .tree _⟩

theorem append {front behind following : List Char} {first second : Tokens}
    (spellFront : Spells front first (behind ++ following))
    (spellBehind : Spells behind second following) :
    Spells (front ++ behind) (first ++ second) following := by
  rcases spellFront with ⟨firstPieces, cutFront, formFront⟩
  rcases spellBehind with ⟨secondPieces, cutBehind, formBehind⟩
  exact ⟨_, cutFront.append cutBehind, formFront.append formBehind⟩

/-- A text in parentheses spells a group, if no comment opens between them. -/
theorem enclosed {text following : List Char} {content : Tokens}
    (spell : Spells text content (')' :: following))
    (noComment : Lexeme.beginsComment (text ++ ')' :: following) = false) :
    Spells ('(' :: (text ++ [')'])) [.group .parenthesis content] following := by
  rcases spell with ⟨pieces, cut, form⟩
  have closed : text ++ [')'] ++ following = text ++ ')' :: following :=
    List.append_assoc _ _ _
  rw [← closed] at noComment
  rcases Cuts.atom (.opens .parenthesis) trivial noComment with ⟨opening, opens, cutOpening⟩
  rcases Cuts.atom (.closes .parenthesis) trivial
    (rfl : (Atom.closes .parenthesis).runsInto following = false) with ⟨closing, closes, cutClosing⟩
  cases Lexer.Piece.eq_tree opens
  cases Lexer.Piece.eq_tree closes
  exact ⟨_, cutOpening.append (cut.append cutClosing), form.grouped .parenthesis⟩

/-- A text that spells tokens up to its end is read as these. -/
theorem ofText? {text : List Char} {tokens : Tokens} (spell : Spells text tokens [])
    (noMark : text.head? ≠ some Lexer.byteOrderMark) :
    Tokens.ofText? (String.ofList text) = some tokens := by
  rcases spell with ⟨pieces, ⟨steps, bound, cut⟩, form⟩
  have cutUp : Lexer.pieces? text.length text = some pieces := by
    have cut := cut (text.length - steps)
    rw [Nat.sub_add_cancel bound, List.append_nil] at cut
    rw [cut]
    cases text.length - steps <;> simp [Lexer.pieces?]
  have formed := form [] [] []
  rw [List.append_nil, List.append_nil] at formed
  rw [Tokens.ofText?, String.toList_ofList, Lexer.withoutMark_of_ne noMark, cutUp, Option.bind_some,
    formed, Lexer.trees?, List.reverse_reverse]

end Spells
end Code
end Capability

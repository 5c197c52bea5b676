import Capability.Code.Grammar.Statements
import Capability.Proofs.Code.Parser
import Capability.Proofs.Code.Word

/-!
# The name of an item

Where an item is read from a text, its name is a word of this text, and not one within
brackets.  Two things are needed for this.

The reader of single tokens gives no word but one that is read back from its own text, and
neither cutting the text into pieces nor forming trees of the pieces makes any further words.
And what stands in front of the name is passed over from its front: a parser of attributes, of
a visibility or of a kind leaves an end of the tokens ahead, whatever it reads inside brackets.
-/

namespace Capability
namespace Code

/-- A token that is read back if it is a word. -/
def TokenTree.ReadsBack (tree : TokenTree) : Prop := ∀ name, tree = .word name → name.IsRead

/-! ## The words of a text -/

namespace Lexeme

theorem eq_mark_of_mark? {text rest : List Char} {token : TokenTree}
    (ahead : mark? text = some (token, rest)) : ∃ c joint, token = .mark c joint := by
  cases text with
  | nil => cases ahead
  | cons c behind =>
      simp only [mark?] at ahead
      split at ahead
      · cases ahead
      · split at ahead
        · -- An apostrophe needs a name behind it, and is a mark like any other then.
          split at ahead
          · cases ahead
          · split at ahead
            · cases ahead
            · cases ahead
              exact ⟨_, _, rfl⟩
        · cases ahead
          exact ⟨_, _, rfl⟩

theorem readsBack_of_leaf? {text rest : List Char} {token : TokenTree}
    (ahead : leaf? text = some (token, rest)) : token.ReadsBack := by
  rintro name rfl
  rw [leaf?] at ahead
  split at ahead
  · cases ahead
  · split at ahead
    · next marked =>
        cases ahead
        rcases eq_mark_of_mark? marked with ⟨_, _, same⟩
        cases same
    · split at ahead
      · next word =>
          cases ahead
          rw [word?] at word
          split at word
          · cases word
          · exact Word.isRead_of_anyWord? word
      · split at ahead <;> cases ahead

end Lexeme

namespace Lexer

theorem readsBack_of_piece? {text rest : List Char} {token : TokenTree}
    (ahead : piece? text = some (.tree token, rest)) : token.ReadsBack := by
  have leaf : ∀ {text : List Char},
      (Lexeme.leaf? text).map (fun found => (Piece.tree found.1, found.2)) =
        some (.tree token, rest) → token.ReadsBack := by
    intro text mapped
    rcases Option.map_eq_some_iff.mp mapped with ⟨⟨found, behind⟩, read, same⟩
    cases same
    exact Lexeme.readsBack_of_leaf? read
  cases text with
  | nil => cases ahead
  | cons c text =>
      rw [piece?] at ahead
      split at ahead
      · next bracket found =>
          split at ahead
          · exact leaf ahead
          · cases ahead
            unfold bracket? at found
            split at found <;> cases found
      · exact leaf ahead

/-- The words of a documenting comment stand between the brackets of its attribute. -/
theorem readsBack_of_docTokens {inner : Bool} {content : List Char} {token : TokenTree}
    (member : token ∈ docTokens inner content) : token.ReadsBack := by
  rintro name rfl
  cases inner <;> simp [docTokens] at member

/-- Every word that a text is cut into is read back. -/
theorem readsBack_of_pieces? {fuel : Nat} {text : List Char} {pieces : List Piece}
    (cut : pieces? fuel text = some pieces) {token : TokenTree} (member : .tree token ∈ pieces) :
    token.ReadsBack := by
  induction fuel generalizing text pieces with
  | zero =>
      cases text with
      | nil => cases cut; cases member
      | cons c rest => cases cut
  | succ fuel inductionHypothesis =>
      cases text with
      | nil => cases cut; cases member
      | cons c rest =>
          rw [pieces?] at cut
          split at cut
          · exact inductionHypothesis cut member
          · next inner content behind _ =>
              split at cut
              · rcases Option.bind_eq_some_iff.mp cut with ⟨more, further, same⟩
                cases same
                rcases List.mem_append.mp member with documented | listed
                · rcases List.mem_map.mp documented with ⟨_, written, same⟩
                  cases same
                  exact readsBack_of_docTokens written
                · exact inductionHypothesis further listed
              · cases cut
          · rcases Option.bind_eq_some_iff.mp cut with ⟨⟨found, behind⟩, ahead, cut⟩
            rcases Option.bind_eq_some_iff.mp cut with ⟨more, further, same⟩
            cases same
            rcases List.mem_cons.mp member with rfl | listed
            · exact readsBack_of_piece? ahead
            · exact inductionHypothesis further listed

/-- Forming trees adds groups alone to the tokens that were cut. -/
theorem readsBack_of_trees? {frames : List Frame} {read trees : Tokens} {pieces : List Piece}
    (formed : trees? frames read pieces = some trees)
    (before : ∀ frame ∈ frames, ∀ tree ∈ frame.before, tree.ReadsBack)
    (behind : ∀ tree ∈ read, tree.ReadsBack)
    (ahead : ∀ token, .tree token ∈ pieces → token.ReadsBack) :
    ∀ tree ∈ trees, tree.ReadsBack := by
  fun_induction trees? frames read pieces with
  | case1 read =>
      cases formed
      exact fun tree member => behind tree (List.mem_reverse.mp member)
  | case2 => cases formed
  | case3 frames read token rest inductionHypothesis =>
      apply inductionHypothesis formed before
      · intro tree member
        rcases List.mem_cons.mp member with rfl | member
        · exact ahead _ List.mem_cons_self
        · exact behind tree member
      · exact fun token member => ahead token (List.mem_cons_of_mem _ member)
  | case4 frames read delimiter rest inductionHypothesis =>
      apply inductionHypothesis formed
      · intro frame member
        rcases List.mem_cons.mp member with rfl | member
        · exact behind
        · exact before frame member
      · exact nofun
      · exact fun token member => ahead token (List.mem_cons_of_mem _ member)
  | case5 frame frames read rest inductionHypothesis =>
      apply inductionHypothesis formed
      · exact fun other member => before other (List.mem_cons_of_mem _ member)
      · intro tree member
        rcases List.mem_cons.mp member with rfl | member
        · exact nofun
        · exact before frame List.mem_cons_self tree member
      · exact fun token member => ahead token (List.mem_cons_of_mem _ member)
  | case6 => cases formed
  | case7 => cases formed

end Lexer

/-- Every word of a text that stands outside brackets is read back. -/
theorem Tokens.isRead_of_ofText? {text : String} {tokens : Tokens} {name : Word}
    (cut : ofText? text = some tokens) (member : .word name ∈ tokens) : name.IsRead := by
  rcases Option.bind_eq_some_iff.mp cut with ⟨pieces, cutUp, formed⟩
  exact Lexer.readsBack_of_trees? formed nofun nofun
    (fun _ => Lexer.readsBack_of_pieces? cutUp) _ member name rfl

/-! ## What parsers leave ahead -/

namespace Parser

variable {α β : Type}

/-- What a parser leaves ahead is an end of what stood ahead. -/
def Advances (parser : Parser α) : Prop :=
  ∀ stream value behind, parser stream = .ok (value, behind) → behind.rest <:+ stream.rest

namespace Advances

theorem bind {parser : Parser α} {next : α → Parser β} (first : parser.Advances)
    (further : ∀ value, (next value).Advances) : (parser >>= next).Advances := by
  intro stream result behind both
  rcases bind_eq_ok both with ⟨value, middle, read, continued⟩
  exact (further value middle result behind continued).trans (first stream value middle read)

theorem pure (value : α) : (pure value : Parser α).Advances := by
  rintro stream _ _ ⟨⟩
  exact List.suffix_refl _

theorem throw (complaint : Complaint) : (throw complaint : Parser α).Advances := nofun

theorem ahead : ahead.Advances := by
  rintro stream _ _ ⟨⟩
  exact List.suffix_refl _

theorem isAt (test : Tokens → Bool) : (isAt test).Advances := ahead.bind fun _ => .pure _

theorem pass (count : Nat) : (pass count).Advances := by
  rintro stream _ _ ⟨⟩
  exact List.drop_suffix count stream.rest

theorem expected (wanted : List String) : (expected wanted : Parser α).Advances :=
  (isAt _).bind fun _ => .throw _

theorem operator (text : String) : (operator text).Advances := by
  refine (isAt _).bind fun present => ?_
  split
  · exact pass _
  · exact .throw _

theorem keyword? (text : String) : (keyword? text).Advances := by
  refine (isAt _).bind fun present => ?_
  split
  · exact (pass 1).bind fun _ => .pure _
  · exact .pure _

/-- A group is passed over as a whole, whatever is read inside. -/
theorem group (delimiter : Delimiter) (content : Parser α) : (group delimiter content).Advances := by
  intro stream value behind read
  rcases stream with ⟨tokens, leftover⟩
  have grouped : tokens.atGroup delimiter = true := by
    cases tokens with
    | nil => cases read
    | cons tree rest =>
        cases tree with
        | word | mark | literal => cases read
        | group found inner =>
            by_cases same : found = delimiter
            · exact decide_eq_true same
            · change (if found = delimiter then _ else _ : Parser α) _ = _ at read
              rw [if_neg same] at read
              cases read
  rcases Tokens.eq_of_atGroup grouped with ⟨inner, rest, rfl⟩
  rcases group_eq_ok_iff.mp read with ⟨inside, _, rfl⟩
  have passed : (behindGroup delimiter rest inside).rest = rest := by
    rw [behindGroup]
    split <;> rfl
  rw [passed]
  exact List.suffix_cons _ _

theorem consumed {parser : Parser α} (advances : parser.Advances) : (consumed parser).Advances :=
  ahead.bind fun _ => advances.bind fun _ => Advances.bind (ahead.bind fun _ => .pure _) fun _ => .pure _

theorem manyUntil {isDone : Parser Bool} {item : Parser α} (done : isDone.Advances)
    (advances : item.Advances) (fuel : Nat) (before : List α) :
    (manyUntil isDone item fuel before).Advances := by
  induction fuel generalizing before with
  | zero => exact .pure _
  | succ fuel inductionHypothesis =>
      refine done.bind fun ended => ?_
      split
      · exact .pure _
      · exact advances.bind fun value => inductionHypothesis (value :: before)

theorem repeated {isDone : Parser Bool} {item : Parser α} (done : isDone.Advances)
    (advances : item.Advances) : (repeated isDone item).Advances :=
  ahead.bind fun _ => done.manyUntil advances _ []

end Advances
end Parser

/-! ## In front of the name -/

namespace Grammar

open Code.Parser

theorem advances_attributes (rules : Rules) : (attributes rules).Advances := by
  have done : (do return !(← isAtOperator "#") : Parser Bool).Advances :=
    (Advances.isAt _).bind fun _ => .pure _
  have outer : (outerAttribute rules).Advances :=
    (Advances.operator "#").bind fun _ => (Advances.group .bracket _).bind fun _ => .pure _
  exact (done.repeated outer).bind fun _ => .pure _

theorem advances_visibility : visibility.Advances := by
  refine Advances.bind (Advances.consumed ?_) fun _ => .pure _
  refine (Advances.keyword? "pub").bind fun isPublic => ?_
  split
  · refine Advances.ahead.bind fun tokens => ?_
    split
    · split
      · exact .pass 1
      · split
        · exact .group _ _
        · exact .pure _
    · exact .pure _
  · exact .pure _

theorem advances_itemKind : itemKind.Advances := by
  refine (Advances.keyword? "struct").bind fun isRecord => ?_
  split
  · exact .pure _
  · refine (Advances.keyword? "enum").bind fun isEnumeration => ?_
    split
    · exact .pure _
    · refine (Advances.keyword? "union").bind fun isUnion => ?_
      split
      · exact .pure _
      · exact .expected _

/-- The name of an item is a word among the tokens of the item, and can name something. -/
theorem name_of_item {stream behind : Stream} {found : Item}
    (read : item stream = .ok (found, behind)) :
    .word found.name ∈ stream.rest ∧ found.name.isName = true := by
  rcases bind_eq_ok read with ⟨inner, start, begun, read⟩
  rcases bind_eq_ok read with ⟨annotations, first, annotated, read⟩
  rcases bind_eq_ok read with ⟨visible, second, seen, read⟩
  rcases bind_eq_ok read with ⟨kind, third, defined, read⟩
  rcases bind_eq_ok read with ⟨itemName, fourth, named, read⟩
  rcases bind_eq_ok read with ⟨introduced, fifth, _, read⟩
  rcases bind_eq_ok read with ⟨body, sixth, _, read⟩
  cases read
  cases begun
  rcases name_eq_ok_iff.mp named with ⟨isName, same⟩
  have left : third.rest <:+ stream.rest :=
    ((advances_itemKind _ _ _ defined).trans (advances_visibility _ _ _ seen)).trans
      (advances_attributes _ _ _ _ annotated)
  rw [same] at left
  exact ⟨left.subset List.mem_cons_self, isName⟩

end Grammar
end Code
end Capability

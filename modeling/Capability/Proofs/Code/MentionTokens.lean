import Capability.Proofs.Code.Atom
import Capability.Proofs.Code.Mentions

/-!
# Mentions are written

Whatever a type mentions is written in it: the first name of each mention is a word among the
tokens of the type.  The tokens of a part are among those of the whole, wherever they are put and
whichever marks stand around them, so that this follows part by part.
-/

namespace Capability
namespace Code

/-! ## Words of tokens -/

namespace TokenTree

theorem atomsAll_eq_flatMap (trees : List TokenTree) : atomsAll trees = trees.flatMap atoms := by
  induction trees with
  | nil => rfl
  | cons tree rest inductionHypothesis => rw [atomsAll, inductionHypothesis, List.flatMap_cons]

mutual

theorem atom_of_heads (tree : TokenTree) (before : List Char) {word : Word}
    (member : word ∈ heads before tree) : .word word ∈ atoms tree := by
  match tree with
  | .word name =>
      rw [heads] at member
      split at member
      · cases member
      · rw [List.mem_singleton.mp member]
        exact List.mem_singleton_self _
  | .group delimiter content =>
      have inner := atom_of_headsAll content [] member
      exact List.mem_append_left _ (List.mem_cons_of_mem _ inner)
  | .mark c joint => cases member
  | .literal text => cases member

theorem atom_of_headsAll (trees : List TokenTree) (before : List Char) {word : Word}
    (member : word ∈ headsAll before trees) : .word word ∈ atomsAll trees := by
  match trees with
  | [] => cases member
  | tree :: rest =>
      rcases List.mem_append.mp member with first | later
      · exact List.mem_append_left _ (atom_of_heads tree before first)
      · exact List.mem_append_right _ (atom_of_headsAll rest _ later)

end

end TokenTree

/-- Among some tokens the first name of each mention is a word. -/
def Writes (tokens : Tokens) (mentions : List Mention) : Prop :=
  ∀ mention ∈ mentions, .word mention.head ∈ tokens.atoms

namespace Writes

variable {tokens more : Tokens} {first second : List Mention}

theorem nil (tokens : Tokens) : Writes tokens [] := fun _ member => by cases member

theorem append (writesFirst : Writes tokens first) (writesSecond : Writes tokens second) :
    Writes tokens (first ++ second) := by
  intro mention member
  rcases List.mem_append.mp member with inFirst | inSecond
  · exact writesFirst mention inFirst
  · exact writesSecond mention inSecond

theorem mono (writes : Writes tokens first) (within : tokens ⊆ more) : Writes more first := by
  intro mention member
  have written := writes mention member
  rw [Tokens.atoms, TokenTree.atomsAll_eq_flatMap, List.mem_flatMap] at written ⊢
  rcases written with ⟨tree, listed, held⟩
  exact ⟨tree, within listed, held⟩

theorem left (writes : Writes tokens first) (more : Tokens) : Writes (tokens ++ more) first :=
  writes.mono (List.subset_append_left _ _)

theorem right (writes : Writes tokens first) (front : Tokens) : Writes (front ++ tokens) first :=
  writes.mono (List.subset_append_right _ _)

theorem angled (writes : Writes tokens first) : Writes (angled tokens) first :=
  (writes.right _).left _

theorem grouped (writes : Writes tokens first) (delimiter : Delimiter) :
    Writes (Tokens.grouped delimiter tokens) first := by
  intro mention member
  have inner := writes mention member
  have group : Tokens.atoms (Tokens.grouped delimiter tokens) =
      .opens delimiter :: tokens.atoms ++ [.closes delimiter] ++ [] := rfl
  rw [group, List.append_nil]
  exact List.mem_append_left _ (List.mem_cons_of_mem _ inner)

theorem kept (tokens : Tokens) : Writes tokens tokens.mentions := by
  intro mention member
  rcases List.mem_flatMap.mp member with ⟨word, head, listed⟩
  have written := TokenTree.atom_of_headsAll tokens [] head
  simp only [List.mem_cons, List.not_mem_nil, or_false] at listed
  rcases listed with rfl | rfl <;> exact written

end Writes

/-! ## Tokens among others -/

theorem subset_intercalate {items : List Tokens} {item : Tokens} (listed : item ∈ items)
    (separator : Tokens) : item ⊆ separator.intercalate items := by
  induction items with
  | nil => cases listed
  | cons first rest inductionHypothesis =>
      cases rest with
      | nil =>
          rw [List.mem_singleton.mp listed]
          simp [List.intercalate]
      | cons next more =>
          have layout : separator.intercalate (first :: next :: more) =
              first ++ (separator ++ separator.intercalate (next :: more)) := by
            simp [List.intercalate]
          rw [layout]
          rcases List.mem_cons.mp listed with rfl | later
          · exact List.subset_append_left _ _
          · apply List.subset_append_of_subset_right
            apply List.subset_append_of_subset_right
            exact inductionHypothesis later

theorem subset_commaSeparated {items : List Tokens} {item : Tokens} (listed : item ∈ items)
    (trailing : Bool) : item ⊆ commaSeparated items trailing :=
  List.subset_append_of_subset_left _ (subset_intercalate listed _)

theorem subset_plusSeparated {items : List Tokens} {item : Tokens} (listed : item ∈ items)
    (trailing : Bool) : item ⊆ plusSeparated items trailing :=
  List.subset_append_of_subset_left _ (subset_intercalate listed _)

theorem subset_joinLifetimes {arguments : List WrittenArgument} {argument : WrittenArgument}
    (listed : argument ∈ arguments) : argument.tokens ⊆ joinLifetimes arguments := by
  induction arguments with
  | nil => cases listed
  | cons first rest inductionHypothesis =>
      rw [joinLifetimes, List.append_assoc]
      rcases List.mem_cons.mp listed with rfl | later
      · exact List.subset_append_left _ _
      · apply List.subset_append_of_subset_right
        apply List.subset_append_of_subset_right
        exact inductionHypothesis later

theorem subset_joinOthers {arguments : List WrittenArgument} {argument : WrittenArgument}
    (listed : argument ∈ arguments) (hasComma : Bool) :
    argument.tokens ⊆ joinOthers hasComma arguments := by
  induction arguments generalizing hasComma with
  | nil => cases listed
  | cons first rest inductionHypothesis =>
      rw [joinOthers]
      rcases List.mem_cons.mp listed with rfl | later
      · apply List.subset_append_of_subset_left
        apply List.subset_append_of_subset_left
        exact List.subset_append_right _ _
      · exact List.subset_append_of_subset_right _ (inductionHypothesis later _)

theorem subset_joinArguments {arguments : List WrittenArgument} {argument : WrittenArgument}
    (listed : argument ∈ arguments) : argument.tokens ⊆ joinArguments arguments := by
  cases isLifetime : argument.isLifetime with
  | true =>
      have kept := List.mem_filter.mpr ⟨listed, isLifetime⟩
      exact List.subset_append_of_subset_left _ (subset_joinLifetimes kept)
  | false =>
      have kept : argument ∈ arguments.filter fun argument => !argument.isLifetime :=
        List.mem_filter.mpr ⟨listed, by rw [isLifetime]; rfl⟩
      exact List.subset_append_of_subset_right _ (subset_joinOthers kept _)

theorem exists_written {items : List (Bool × Tokens)} {item : Bool × Tokens} (listed : item ∈ items)
    (trailing : Bool) : ∃ argument ∈ withCommas trailing items, argument.tokens = item.2 := by
  induction items with
  | nil => cases listed
  | cons first rest inductionHypothesis =>
      cases rest with
      | nil =>
          rw [List.mem_singleton.mp listed]
          exact ⟨_, List.mem_singleton_self _, rfl⟩
      | cons next more =>
          rcases List.mem_cons.mp listed with rfl | later
          · exact ⟨_, List.mem_cons_self, rfl⟩
          · rcases inductionHypothesis later with ⟨argument, among, same⟩
            exact ⟨argument, List.mem_cons_of_mem _ among, same⟩

theorem subset_tokensBehind {segments : List Segment} {item : Tokens}
    (listed : item ∈ Segment.tokensAll segments) : item ⊆ Segment.tokensBehind segments := by
  induction segments with
  | nil => cases listed
  | cons segment rest inductionHypothesis =>
      rw [Segment.tokensBehind]
      rcases List.mem_cons.mp listed with rfl | later
      · exact List.subset_append_of_subset_left _ (List.subset_append_right _ _)
      · exact List.subset_append_of_subset_right _ (inductionHypothesis later)

/-! ## Types -/

theorem head?_of_mentionOf {space : Space} {isGlobal : Bool} {names : List Word}
    {mention : Mention} (member : mention ∈ mentionOf space isGlobal names) :
    names.head? = some mention.head := by
  match names with
  | [] => cases member
  | [name] =>
      rw [mentionOf] at member
      split at member
      · cases member
      · rw [List.mem_singleton.mp member, List.head?_cons]
  | name :: next :: rest =>
      rw [mentionOf] at member
      split at member
      · cases member
      · rw [List.mem_singleton.mp member, List.head?_cons]

theorem Path.writes_mention (path : Path) (space : Space) :
    Writes path.tokens (path.mention space) := by
  rcases path with ⟨isGlobal, segments⟩
  intro mention member
  have head := head?_of_mentionOf member
  cases segments with
  | nil => cases head
  | cons segment rest =>
      rcases segment with ⟨name, arguments⟩
      cases head
      have listed : (Segment.mk mention.head arguments).tokens ∈
          Segment.tokensAll (.mk mention.head arguments :: rest) := List.mem_cons_self
      have written : TokenTree.word mention.head ∈
          (Path.mk isGlobal (.mk mention.head arguments :: rest)).tokens :=
        List.mem_append_right _ (subset_intercalate listed _ List.mem_cons_self)
      rw [Tokens.atoms, TokenTree.atomsAll_eq_flatMap, List.mem_flatMap]
      exact ⟨_, written, List.mem_singleton_self _⟩

theorem TypeExpr.writes_valueMentions (value : TypeExpr) :
    Writes value.tokens value.valueMentions := by
  unfold valueMentions
  split
  · next name => exact Path.writes_mention (.mk false [.mk name .none]) .values
  · exact .nil _

-- The induction is on the type.  Of a list of parts it only matters that the tokens of each are
-- among those of the whole, so that the statements about lists are for any such tokens.
mutual

theorem TypeExpr.writes_mentions (type : TypeExpr) : Writes type.tokens type.mentions := by
  match type with
  | .path path => exact (path.writes_mention .types).append path.writes_innerMentions
  | .qualified self traitPath rest =>
      have within : Writes (angled (self.tokens ++ TypeExpr.asTrait traitPath))
          (self.mentions ++ TypeExpr.traitMentions traitPath) :=
        ((self.writes_mentions.left _).append ((TypeExpr.writes_traitMentions traitPath).right _)).angled
      have behind := Segment.writes_mentionsAll rest fun _ listed => subset_tokensBehind listed
      exact (within.left _).append (behind.right _)
  | .tuple elements trailing =>
      exact (TypeExpr.writes_mentionsAll elements fun _ listed =>
        subset_commaSeparated listed trailing).grouped _
  | .paren inner => exact inner.writes_mentions.grouped _
  | .slice inner => exact inner.writes_mentions.grouped _
  | .pointer _ inner => exact inner.writes_mentions.right _
  | .reference _ _ inner => exact inner.writes_mentions.right _
  | .array element length =>
      exact (((element.writes_mentions.left _).left _).append ((Writes.kept length).right _)).grouped _
  | .function binder qualifiers parameters trailing variadic output =>
      have inputs := Parameter.writes_mentionsAll parameters fun _ listed =>
        subset_commaSeparated listed trailing
      have called := ((inputs.left _).append ((Writes.kept variadic).right _)).grouped .parenthesis
      exact ((called.right _).left _).append ((TypeExpr.writes_resultMentions output).right _)
  | .traitObject _ bounds trailing =>
      exact (Bound.writes_mentionsAll bounds fun _ listed =>
        subset_plusSeparated listed trailing).right _
  | .implTrait bounds trailing =>
      exact (Bound.writes_mentionsAll bounds fun _ listed =>
        subset_plusSeparated listed trailing).right _
  | .macroCall path arguments =>
      have named := (path.writes_mention .macros).append path.writes_innerMentions
      exact ((named.left _).left _).append ((Writes.kept [arguments]).right _)
  | .never => exact .nil _
  | .inferred => exact .nil _
  | .verbatim tokens => exact .kept tokens

theorem TypeExpr.writes_mentionsAll (types : List TypeExpr) {tokens : Tokens}
    (within : ∀ item ∈ TypeExpr.tokensAll types, item ⊆ tokens) :
    Writes tokens (TypeExpr.mentionsAll types) := by
  match types with
  | [] => exact .nil _
  | type :: rest =>
      have first := type.writes_mentions.mono (within _ List.mem_cons_self)
      exact first.append (TypeExpr.writes_mentionsAll rest fun item listed =>
        within item (List.mem_cons_of_mem _ listed))

theorem TypeExpr.writes_resultMentions (output : Option TypeExpr) :
    Writes (arrow (TypeExpr.tokensOption output)) (TypeExpr.resultMentions output) := by
  match output with
  | none => exact .nil _
  | some type => exact type.writes_mentions.right _

theorem TypeExpr.writes_traitMentions (traitPath : Option Path) :
    Writes (TypeExpr.asTrait traitPath) (TypeExpr.traitMentions traitPath) := by
  match traitPath with
  | none => exact .nil _
  | some path => exact ((path.writes_mention .types).append path.writes_innerMentions).right _

theorem Path.writes_innerMentions (path : Path) : Writes path.tokens path.innerMentions := by
  match path with
  | .mk _ segments =>
      exact (Segment.writes_mentionsAll segments fun _ listed => subset_intercalate listed _).right _

theorem Segment.writes_mentionsAll (segments : List Segment) {tokens : Tokens}
    (within : ∀ item ∈ Segment.tokensAll segments, item ⊆ tokens) :
    Writes tokens (Segment.mentionsAll segments) := by
  match segments with
  | [] => exact .nil _
  | .mk name arguments :: rest =>
      have first := (arguments.writes_mentions.right (Tokens.word name)).mono
        (within _ List.mem_cons_self)
      exact first.append (Segment.writes_mentionsAll rest fun item listed =>
        within item (List.mem_cons_of_mem _ listed))

theorem Arguments.writes_mentions (arguments : Arguments) :
    Writes arguments.tokens arguments.mentions := by
  match arguments with
  | .none => exact .nil _
  | .angle turbofish arguments trailing =>
      refine (Argument.writes_mentionsAll arguments fun item listed => ?_).angled.right _
      rcases exists_written listed trailing with ⟨argument, among, same⟩
      rw [← same]
      exact subset_joinArguments among
  | .parenthesized inputs trailing output =>
      have taken := TypeExpr.writes_mentionsAll inputs fun _ listed =>
        subset_commaSeparated listed trailing
      exact ((taken.grouped _).left _).append ((TypeExpr.writes_resultMentions output).right _)

theorem Argument.writes_mentions (argument : Argument) :
    Writes argument.tokens argument.mentions := by
  match argument with
  | .lifetime _ => exact .nil _
  | .type value => exact value.writes_mentions.append value.writes_valueMentions
  | .constant value => exact .kept value
  | .associatedType _ generics value =>
      exact (((generics.writes_mentions.right _).left _).left _).append (value.writes_mentions.right _)
  | .associatedConstant _ generics value =>
      exact (((generics.writes_mentions.right _).left _).left _).append ((Writes.kept value).right _)
  | .constraint _ generics bounds trailing =>
      have bounded := Bound.writes_mentionsAll bounds fun _ listed =>
        subset_plusSeparated listed trailing
      exact (((generics.writes_mentions.right _).left _).left _).append (bounded.right _)

theorem Argument.writes_mentionsAll (arguments : List Argument) {tokens : Tokens}
    (within : ∀ item ∈ Argument.writtenAll arguments, item.2 ⊆ tokens) :
    Writes tokens (Argument.mentionsAll arguments) := by
  match arguments with
  | [] => exact .nil _
  | argument :: rest =>
      have first := argument.writes_mentions.mono (within _ List.mem_cons_self)
      exact first.append (Argument.writes_mentionsAll rest fun item listed =>
        within item (List.mem_cons_of_mem _ listed))

theorem Bound.writes_mentions (bound : Bound) : Writes bound.tokens bound.mentions := by
  match bound with
  | .lifetime _ => exact .nil _
  | .trait isParenthesized _ _ path =>
      have plain := ((path.writes_mention .types).append path.writes_innerMentions).right
      cases isParenthesized with
      | true => exact (plain _).grouped .parenthesis
      | false => exact plain _
  | .capture tokens => exact .kept tokens
  | .verbatim tokens => exact .kept tokens

theorem Bound.writes_mentionsAll (bounds : List Bound) {tokens : Tokens}
    (within : ∀ item ∈ Bound.tokensAll bounds, item ⊆ tokens) :
    Writes tokens (Bound.mentionsAll bounds) := by
  match bounds with
  | [] => exact .nil _
  | bound :: rest =>
      have first := bound.writes_mentions.mono (within _ List.mem_cons_self)
      exact first.append (Bound.writes_mentionsAll rest fun item listed =>
        within item (List.mem_cons_of_mem _ listed))

theorem Parameter.writes_mentions (parameter : Parameter) :
    Writes parameter.tokens parameter.mentions := by
  match parameter with
  | .mk annotations _ value =>
      exact (((Writes.kept annotations).left _).left _).append (value.writes_mentions.right _)
  | .verbatim annotations tokens =>
      exact ((Writes.kept annotations).left _).append ((Writes.kept tokens).right _)

theorem Parameter.writes_mentionsAll (parameters : List Parameter) {tokens : Tokens}
    (within : ∀ item ∈ Parameter.tokensAll parameters, item ⊆ tokens) :
    Writes tokens (Parameter.mentionsAll parameters) := by
  match parameters with
  | [] => exact .nil _
  | parameter :: rest =>
      have first := parameter.writes_mentions.mono (within _ List.mem_cons_self)
      exact first.append (Parameter.writes_mentionsAll rest fun item listed =>
        within item (List.mem_cons_of_mem _ listed))

end

end Code
end Capability

import Capability.Proofs.Code.Item
import Capability.Proofs.Code.Spelling
import Capability.Proofs.Registration.Acceptance

/-!
# An item and its bare name register the same

A type is registered where it is defined, or by a declaration elsewhere that consists of its
name.  The first takes the name from the item.  The second reads the name again, as a type, and
looks for the name that this type lends.

Both come to the same expansion.  A name that is written alone is read as the path of this one
name: none of the other forms of types begins with it, because the words that these begin with
are reserved.  In parentheses it is that path in parentheses, which the plan drops.  And every
item that is read has a name that can be written alone.
-/

namespace Capability
namespace Code

/-- The tokens of a name in so many pairs of parentheses. -/
def Tokens.nested (name : Word) : (depth : Nat) → Tokens
  | 0 => Tokens.word name
  | depth + 1 => Tokens.enclosed (nested name depth)

/-- A name in so many pairs of parentheses, without blanks. -/
def Word.nested (name : Word) : (depth : Nat) → String
  | 0 => name.written
  | depth + 1 => "(" ++ name.nested depth ++ ")"

theorem Tokens.size_nested (name : Word) (depth : Nat) :
    Tokens.size (nested name depth) = 2 * depth + 1 := by
  induction depth with
  | zero => rfl
  | succ depth inductionHypothesis =>
      have grouped : Tokens.size (nested name (depth + 1)) = Tokens.size (nested name depth) + 2 := rfl
      rw [grouped, inductionHypothesis]
      omega

/-! ## Cutting the text -/

namespace Word

variable {name : Word}

/-- A name in parentheses begins neither like a comment nor with a mark of byte order. -/
theorem nested_eq_cons (read : name.IsRead) (depth : Nat) :
    ∃ c rest, (name.nested depth).toList = c :: rest ∧ c ≠ '/' ∧ c ≠ Lexer.byteOrderMark := by
  cases depth with
  | zero =>
      have whole : (Atom.word name).IsWhole := read
      rcases whole.eq_cons with ⟨c, rest, text, _, noMark, stroke⟩
      exact ⟨c, rest, text, fun same => absurd (stroke same) nofun, noMark⟩
  | succ depth =>
      refine ⟨'(', (name.nested depth).toList ++ [')'], ?_, by decide, by decide⟩
      simp [nested, String.toList_append]

/-- In front of a separator a name in parentheses spells itself. -/
theorem spells_nested (read : name.IsRead) (depth : Nat) {following : List Char}
    (separator : Lexeme.atSeparator following = true) :
    Spells (name.nested depth).toList (Tokens.nested name depth) following := by
  induction depth generalizing following with
  | zero => exact .word read separator
  | succ depth inductionHypothesis =>
      have text : (name.nested (depth + 1)).toList = '(' :: ((name.nested depth).toList ++ [')']) := by
        simp [nested, String.toList_append]
      rw [text]
      apply Spells.enclosed (inductionHypothesis rfl)
      rcases nested_eq_cons read depth with ⟨c, rest, inner, noStroke, _⟩
      rw [inner, List.cons_append]
      exact Lexeme.beginsComment_of_ne noStroke _

theorem ofText?_nested (read : name.IsRead) (depth : Nat) :
    Tokens.ofText? (name.nested depth) = some (Tokens.nested name depth) := by
  have unmarked : (name.nested depth).toList.head? ≠ some Lexer.byteOrderMark := by
    rcases nested_eq_cons read depth with ⟨c, rest, text, _, noMark⟩
    rw [text, List.head?_cons]
    exact fun same => noMark (Option.some.inj same)
  have cutUp := (spells_nested read depth rfl).ofText? unmarked
  rwa [String.ofList_toList] at cutUp

end Word

/-! ## A name alone is a type -/

/-- A word that can name something is none of the reserved ones. -/
theorem Tokens.atKeyword_of_isName {name : Word} (isName : name.isName = true) {text : String}
    (reserved : text ∈ reservedWords) (rest : Tokens) :
    atKeyword text (.word name :: rest) = false := by
  rw [atKeyword]
  cases raw : name.raw with
  | true => rfl
  | false =>
      rw [Word.isName, raw, Bool.false_or, Bool.not_eq_true', List.contains_eq_mem,
        decide_eq_false_iff_not] at isName
      have different : name.text ≠ text := by
        rintro rfl
        exact isName reserved
      simpa using different

theorem Tokens.any_atKeyword_of_isName {name : Word} (isName : name.isName = true)
    {texts : List String} (reserved : ∀ text ∈ texts, text ∈ reservedWords) (rest : Tokens) :
    texts.any (fun text => atKeyword text (.word name :: rest)) = false := by
  rw [List.any_eq_false]
  intro text member
  rw [atKeyword_of_isName isName (reserved text member)]
  exact Bool.false_ne_true

namespace Parser

/-- A look ahead answers, and leaves everything ahead. -/
theorem isAt_of_eq {test : Tokens → Bool} {stream : Stream} {answer : Bool}
    (same : test stream.rest = answer) : isAt test stream = .ok (answer, stream) := by
  rw [← same]
  rfl

/-- A group whose content is read to its end, and then what belongs to it behind it. -/
theorem groupThen_of_ok {α β : Type} {delimiter : Delimiter} {content : Parser α}
    {further : α → Parser β} {inner rest : Tokens} {leftover : Option Delimiter} {value : α}
    {result : β} {behind : Stream} (within : content ⟨inner, leftover⟩ = .ok (value, ⟨[], leftover⟩))
    (continued : further value ⟨rest, leftover⟩ = .ok (result, behind)) :
    groupThen delimiter content further ⟨.group delimiter inner :: rest, leftover⟩ =
      .ok (result, behind) := by
  have start : groupThen delimiter content further ⟨.group delimiter inner :: rest, leftover⟩ =
      (content >>= fun value => do
        let left ← ahead
        continueWith rest
        let result ← further value
        noteLeftover delimiter left
        return result) ⟨inner, leftover⟩ := by
    change (if delimiter = delimiter then _ else _ : Parser β) _ = _
    rw [if_pos rfl]
    rfl
  rw [start, bind_of_ok within]
  change (further value >>= fun result => do
    noteLeftover delimiter []
    return result) ⟨rest, leftover⟩ = _
  rw [bind_of_ok continued]
  rfl

end Parser

namespace Grammar

open Code.Parser

section Name

variable {name : Word} (isName : name.isName = true) (rules : Rules) (leftover : Option Delimiter)

include isName

theorem isAtKeyword_of_isName {text : String} (reserved : text ∈ reservedWords) :
    isAtKeyword text ⟨[.word name], leftover⟩ = .ok (false, ⟨[.word name], leftover⟩) :=
  isAt_of_eq (Tokens.atKeyword_of_isName isName reserved [])

theorem segment_of_isName :
    segment rules false ⟨[.word name], leftover⟩ = .ok (.mk name .none, ⟨[], leftover⟩) := by
  have noScope : isAt (fun tokens => bareScopeWords.any tokens.atKeyword) ⟨[.word name], leftover⟩ =
      .ok (false, ⟨[.word name], leftover⟩) :=
    isAt_of_eq (Tokens.any_atKeyword_of_isName isName (by decide) [])
  have noSelf := isAtKeyword_of_isName isName leftover (by decide : "Self" ∈ reservedWords)
  have taken : Parser.name ⟨[.word name], leftover⟩ = .ok (name, ⟨[], leftover⟩) :=
    name_eq_ok_iff.mpr ⟨isName, rfl⟩
  rw [segment, bind_of_ok noScope, if_neg Bool.false_ne_true, bind_of_ok noSelf]
  exact bind_of_ok taken _

theorem path_of_isName :
    path rules false ⟨[.word name], leftover⟩ = .ok (Path.ofWord name, ⟨[], leftover⟩) := by
  have noColons : operator? "::" ⟨[.word name], leftover⟩ =
      .ok (false, ⟨[.word name], leftover⟩) := rfl
  rw [path, bind_of_ok noColons, bind_of_ok (segment_of_isName isName rules leftover)]
  rfl

theorem pathType_of_isName :
    pathType rules [] true ⟨[.word name], leftover⟩ =
      .ok (.path (Path.ofWord name), ⟨[], leftover⟩) := by
  have noBracket : isAtOperator "<" ⟨[.word name], leftover⟩ =
      .ok (false, ⟨[.word name], leftover⟩) := rfl
  rw [pathType, bind_of_ok noBracket, if_neg Bool.false_ne_true,
    bind_of_ok (path_of_isName isName rules leftover)]
  rfl

theorem type_of_isName :
    type rules true ⟨[.word name], leftover⟩ =
      .ok (.path (Path.ofWord name), ⟨[], leftover⟩) := by
  have noBinder := isAtKeyword_of_isName isName leftover (by decide : "for" ∈ reservedWords)
  have noGroup : isAtGroup .parenthesis ⟨[.word name], leftover⟩ =
      .ok (false, ⟨[.word name], leftover⟩) := rfl
  have noFunction : isAtFunction ⟨[.word name], leftover⟩ =
      .ok (false, ⟨[.word name], leftover⟩) :=
    isAt_of_eq (Tokens.any_atKeyword_of_isName isName (by decide) [])
  -- The word for what is built in is not reserved; it would need a mark behind it.
  have notBuiltin : isAtBuiltin ⟨[.word name], leftover⟩ =
      .ok (false, ⟨[.word name], leftover⟩) := isAt_of_eq (Bool.and_false _)
  have atName : isAt Tokens.atName ⟨[.word name], leftover⟩ =
      .ok (true, ⟨[.word name], leftover⟩) := isAt_of_eq isName
  have atPath : isAtPath ⟨[.word name], leftover⟩ = .ok (true, ⟨[.word name], leftover⟩) := by
    rw [isAtPath, isAtSegment, bind_assoc, bind_of_ok atName]
    rfl
  rw [type, bind_of_ok noBinder, if_neg Bool.false_ne_true, bind_of_ok noGroup,
    if_neg Bool.false_ne_true, bind_of_ok noFunction, if_neg Bool.false_ne_true,
    bind_of_ok notBuiltin, if_neg Bool.false_ne_true, bind_of_ok atPath, if_pos rfl]
  exact pathType_of_isName isName rules leftover

end Name

section Group

variable {rules : Rules} {inner : Tokens} {leftover : Option Delimiter} {single : TypeExpr}

/-- One type alone between parentheses. -/
theorem enclosed_of_type (occupied : inner.isEmpty = false) (noLifetime : inner.atLifetime = false)
    (noMark : inner.atOperator "?" = false)
    (read : rules.type true ⟨inner, leftover⟩ = .ok (single, ⟨[], leftover⟩)) :
    enclosed rules ⟨inner, leftover⟩ = .ok (.single single, ⟨[], leftover⟩) := by
  have notEnd : isEnd ⟨inner, leftover⟩ = .ok (false, ⟨inner, leftover⟩) := isAt_of_eq occupied
  have lifetime : isAt Tokens.atLifetime ⟨inner, leftover⟩ = .ok (false, ⟨inner, leftover⟩) :=
    isAt_of_eq noLifetime
  have mark : isAtOperator "?" ⟨inner, leftover⟩ = .ok (false, ⟨inner, leftover⟩) :=
    isAt_of_eq noMark
  have noComma : operator? "," ⟨[], leftover⟩ = .ok (false, ⟨[], leftover⟩) := rfl
  rw [enclosed, bind_of_ok notEnd, if_neg Bool.false_ne_true, bind_of_ok lifetime,
    if_neg Bool.false_ne_true, bind_of_ok mark, if_neg Bool.false_ne_true]
  refine (bind_of_ok read _).trans ?_
  exact bind_of_ok noComma _

theorem type_of_enclosed
    (read : enclosed rules ⟨inner, leftover⟩ = .ok (.single single, ⟨[], leftover⟩)) :
    type rules true ⟨Tokens.enclosed inner, leftover⟩ = .ok (.paren single, ⟨[], leftover⟩) := by
  have noBinder : isAtKeyword "for" ⟨Tokens.enclosed inner, leftover⟩ =
      .ok (false, ⟨Tokens.enclosed inner, leftover⟩) := rfl
  have atGroup : isAtGroup .parenthesis ⟨Tokens.enclosed inner, leftover⟩ =
      .ok (true, ⟨Tokens.enclosed inner, leftover⟩) := rfl
  rw [type, bind_of_ok noBinder, if_neg Bool.false_ne_true, bind_of_ok atGroup, if_pos rfl]
  exact groupThen_of_ok read rfl

end Group

/-- A name in parentheses is read by rules of more levels than there are pairs of them. -/
theorem type_of_nested {name : Word} (isName : name.isName = true) {depth levels : Nat}
    (enough : depth < levels) (leftover : Option Delimiter) :
    (rules levels).type true ⟨Tokens.nested name depth, leftover⟩ =
      .ok ((TypeExpr.path (Path.ofWord name)).enclosed depth, ⟨[], leftover⟩) := by
  induction depth generalizing levels with
  | zero =>
      cases levels with
      | zero => cases enough
      | succ levels => exact type_of_isName isName (rules levels) leftover
  | succ depth inductionHypothesis =>
      cases levels with
      | zero => cases enough
      | succ levels =>
          have read := inductionHypothesis (Nat.lt_of_succ_lt_succ enough)
          apply type_of_enclosed
          -- What is between the parentheses begins with the name, or with further parentheses.
          apply enclosed_of_type _ _ _ read <;> cases depth <;> rfl

end Grammar
end Code

namespace Registration

open Code
open Code.Parser

/-! ## The declaration -/

namespace Declaration

section Nested

variable {name : Word} (isName : name.isName = true) (depth : Nat)

include isName

theorem parser_of_nested :
    parser ⟨Tokens.nested name depth, none⟩ =
      .ok (⟨none, (TypeExpr.path (Path.ofWord name)).enclosed depth⟩, ⟨[], none⟩) := by
  have noAlias : isAtAlias ⟨Tokens.nested name depth, none⟩ =
      .ok (false, ⟨Tokens.nested name depth, none⟩) := by
    apply isAt_of_eq
    cases depth with
    | zero =>
        change (name.isName && false && !false) = false
        rw [Bool.and_false]
        rfl
    | succ depth => rfl
  have unnamed : (pure none : Parser (Option Word)) ⟨Tokens.nested name depth, none⟩ =
      .ok (none, ⟨Tokens.nested name depth, none⟩) := rfl
  have rulesRead : Grammar.rulesAhead ⟨Tokens.nested name depth, none⟩ =
      .ok (Grammar.rules (8 * Tokens.size (Tokens.nested name depth) + 16),
        ⟨Tokens.nested name depth, none⟩) := rfl
  have levels : depth < 8 * Tokens.size (Tokens.nested name depth) + 16 := by
    rw [Tokens.size_nested]
    omega
  rw [parser, bind_of_ok noAlias, if_neg Bool.false_ne_true]
  refine (bind_of_ok unnamed _).trans ?_
  refine (bind_of_ok rulesRead _).trans ?_
  exact bind_of_ok (Grammar.type_of_nested isName levels none) _

theorem run_listParser_of_nested :
    Parser.run listParser (Tokens.nested name depth) =
      .ok [⟨none, (TypeExpr.path (Path.ofWord name)).enclosed depth⟩] := by
  have notEnd : isEnd ⟨Tokens.nested name depth, none⟩ =
      .ok (false, ⟨Tokens.nested name depth, none⟩) := by
    cases depth <;> rfl
  have single : separatedUntil isEnd ";" parser ⟨Tokens.nested name depth, none⟩ =
      .ok (⟨[⟨none, (TypeExpr.path (Path.ofWord name)).enclosed depth⟩], false⟩, ⟨[], none⟩) := by
    change separatedFrom isEnd ";" parser ((Tokens.nested name depth).length + 1) []
      ⟨Tokens.nested name depth, none⟩ = _
    rw [separatedFrom, bind_of_ok notEnd, if_neg Bool.false_ne_true]
    exact bind_of_ok (parser_of_nested isName depth) _
  apply run_eq_ok_iff.mpr
  rw [listParser]
  exact bind_of_ok single _

end Nested
end Declaration

/-! ## The plan -/

theorem bare_enclosed (type : TypeExpr) (depth : Nat) : bare (type.enclosed depth) = bare type := by
  induction depth with
  | zero => rfl
  | succ depth inductionHypothesis => exact inductionHypothesis

theorem Declaration.expand_of_enclosed (name : Word) (depth : Nat) :
    Declaration.expand ⟨none, (TypeExpr.path (Path.ofWord name)).enclosed depth⟩ =
      Plan.expand ⟨name, .path (Path.ofWord name), false, none⟩ := by
  rw [Declaration.expand, Declaration.plan, bare_enclosed]
  rfl

/-- A name that is not raw has an expansion, even if that is an error. -/
theorem Plan.exists_expansion (plan : Plan) (read : plan.name.IsRead)
    (plain : plan.name.raw = false) : ∃ expansion, plan.expand = .ok expansion := by
  have word := (plan.name.isRead_iff.mp read).1
  have written : plan.name.written = plan.name.text := Lexeme.written_of_plain plain
  rw [Plan.expand, Names.of, moduleName_of_word plain word, written,
    composedWord_of_word (isPlainWord_symbolOf word)]
  cases ["crate", "self", "super"].contains (Naming.snakeCase plan.name.text) <;> exact ⟨_, rfl⟩

/-- The name of an item that is read from a text is read back, and can name something. -/
theorem name_of_parseItem {source : String} {item : Item} (parsed : parseItem source = .ok item) :
    item.name.IsRead ∧ item.name.isName = true := by
  rw [parseItem, Parser.parse] at parsed
  split at parsed
  · cases parsed
  · next tokens cut =>
      have named := Grammar.name_of_item (run_eq_ok_iff.mp parsed)
      exact ⟨Tokens.isRead_of_ofText? cut named.1, named.2⟩

/-! ## Both ways -/

/-- Of an item without parameters, whatever else it consists of, and of a text that is nothing but
its name in any number of parentheses, the expansion is the same: the same registration, or the
same error that stops the compilation.  Blanks and comments in the text do not matter. -/
theorem item_expands_like_bare_name {source : String} {item : Item}
    (parsed : parseItem source = .ok item) (concrete : item.parameters = [])
    (plain : item.name.raw = false) :
    ∃ expansion, expandItem item = .ok expansion ∧
      ∀ depth text, Tokens.ofText? text = Tokens.ofText? (item.name.nested depth) →
        ∃ declaration, Declaration.parseList text = .ok [declaration] ∧
          expandAll [declaration] = .ok [expansion] := by
  rcases name_of_parseItem parsed with ⟨read, isName⟩
  have planned : expandItem item =
      Plan.expand ⟨item.name, .path (Path.ofWord item.name), false, none⟩ := by
    rw [expandItem, concrete, List.isEmpty_nil, if_pos rfl]
  rcases Plan.exists_expansion ⟨item.name, .path (Path.ofWord item.name), false, none⟩ read plain
    with ⟨expansion, expands⟩
  refine ⟨expansion, planned.trans expands, fun depth text same => ?_⟩
  refine ⟨⟨none, (TypeExpr.path (Path.ofWord item.name)).enclosed depth⟩, ?_, ?_⟩
  · rw [Declaration.parseList, Parser.parse, same, Word.ofText?_nested read depth]
    exact Declaration.run_listParser_of_nested isName depth
  · rw [expandAll, List.mapM_cons, Declaration.expand_of_enclosed, expands]
    rfl

/-- A union with an attribute, a visibility and a condition, whose name leads to no module. -/
theorem item_expands_like_bare_name_union :
    ∃ item, parseItem "#[repr(C)] pub(crate) union Super where u8: Copy \x7b a: u8, b: i8 \x7d" =
        .ok item ∧
      item.name = .plain "Super" ∧ item.parameters = [] ∧
      expandItem item = .ok (.compileError (NameError.reserved "super" "Super").message) ∧
      ∃ declaration, Declaration.parseList "( (Super) )" = .ok [declaration] ∧
        expandAll [declaration] =
          .ok [.compileError (NameError.reserved "super" "Super").message] := by
  have spaced : Tokens.ofText? "( (Super) )" = Tokens.ofText? ((Word.plain "Super").nested 2) := by
    have isRead : (Word.plain "Super").IsRead := by
      rw [Word.IsRead]
      decide
    rw [Word.ofText?_nested isRead 2]
    rfl
  have read : ((parseItem
      "#[repr(C)] pub(crate) union Super where u8: Copy \x7b a: u8, b: i8 \x7d").toOption.any
        fun item => item.name == .plain "Super" && item.parameters.isEmpty) = true := by
    decide +kernel
  cases parsed : parseItem
      "#[repr(C)] pub(crate) union Super where u8: Copy \x7b a: u8, b: i8 \x7d" with
  | error complaint =>
      rw [parsed] at read
      cases read
  | ok item =>
      rw [parsed, Except.toOption, Option.any_some, Bool.and_eq_true, beq_iff_eq,
        List.isEmpty_iff] at read
      rcases item with ⟨kind, name, parameters⟩
      rcases read with ⟨rfl, rfl⟩
      have refused : expandItem ⟨kind, .plain "Super", []⟩ =
          .ok (.compileError (NameError.reserved "super" "Super").message) := by
        have unnamed : moduleName (.plain "Super") = .error (.reserved "super" "Super") := by
          decide
        rw [expandItem, List.isEmpty_nil, if_pos rfl, Plan.expand, Names.of, unnamed]
        rfl
      rcases item_expands_like_bare_name parsed rfl rfl with ⟨expansion, expanded, registered⟩
      cases refused.symm.trans expanded
      exact ⟨_, rfl, rfl, rfl, refused, registered 2 _ spaced⟩

end Registration
end Capability

import Capability.Code.Parser

/-!
# What the steps of a parser come to

A parser succeeds exactly if each of its steps does, one behind the other.  The
steps that take tokens are described by what stands ahead of them: an operator
of a single mark, a name, or a group, whose content is read on its own and may
leave tokens over.
-/

namespace Capability
namespace Code

/-- Whether a certain mark stands ahead, joint to what follows it or not. -/
def Tokens.StartsWith (mark : Char) (tokens : Tokens) : Prop :=
  ∃ joint rest, tokens = .mark mark joint :: rest

theorem Tokens.eq_of_atGroup {delimiter : Delimiter} {tokens : Tokens}
    (ahead : tokens.atGroup delimiter = true) :
    ∃ content rest, tokens = .group delimiter content :: rest := by
  cases tokens with
  | nil => cases ahead
  | cons tree rest =>
      cases tree with
      | group found content => exact ⟨content, rest, by rw [of_decide_eq_true ahead]⟩
      | word name => cases ahead
      | mark c joint => cases ahead
      | literal text => cases ahead

theorem Tokens.size_cons (tree : TokenTree) (rest : Tokens) :
    Tokens.size (tree :: rest) = tree.size + Tokens.size rest := by
  rw [Tokens.size, TokenTree.sizeAll]
  rfl

theorem Tokens.size_append (front behind : Tokens) :
    Tokens.size (front ++ behind) = Tokens.size front + Tokens.size behind := by
  induction front with
  | nil => rw [List.nil_append, Tokens.size, Tokens.size, TokenTree.sizeAll, Nat.zero_add]
  | cons tree front inductionHypothesis =>
      rw [List.cons_append, Tokens.size_cons, Tokens.size_cons, inductionHypothesis, Nat.add_assoc]

namespace Parser

variable {α β : Type}

/-! ## One step behind another -/

/-- Behind a step that succeeds the rest of the parser goes on where the step ended. -/
theorem bind_of_ok {parser : Parser α} {stream middle : Stream} {value : α}
    (first : parser stream = .ok (value, middle)) (next : α → Parser β) :
    (parser >>= next) stream = next value middle := by
  change Except.bind (parser stream) _ = _
  rw [first]
  rfl

/-- A parser that succeeds has succeeded in its first step and then in the rest. -/
theorem bind_eq_ok {parser : Parser α} {next : α → Parser β} {stream behind : Stream} {result : β}
    (both : (parser >>= next) stream = .ok (result, behind)) :
    ∃ value middle, parser stream = .ok (value, middle) ∧ next value middle = .ok (result, behind) := by
  change Except.bind (parser stream) _ = _ at both
  cases first : parser stream with
  | error complaint =>
      rw [first] at both
      cases both
  | ok answer =>
      rw [first] at both
      exact ⟨answer.1, answer.2, rfl, both⟩

/-! ## Steps that take tokens -/

section SingleMark

variable {text : String} {mark : Char}

/-- Whether an operator of a single mark is read depends on the next token alone. -/
theorem operator?_eq (single : text.toList = [mark]) (stream : Stream) :
    operator? text stream =
      if Tokens.atMarks [mark] stream.rest then
        .ok (true, ⟨stream.rest.drop 1, stream.leftover⟩)
      else .ok (false, stream) := by
  have length : text.length = 1 := by rw [← String.length_toList, single]; rfl
  change (if Tokens.atOperator text stream.rest then _ else _ : Parser Bool) stream = _
  rw [Tokens.atOperator, single, length]
  split
  · rfl
  · rfl

theorem operator?_present (single : text.toList = [mark]) (joint : Bool) (rest : Tokens)
    (leftover : Option Delimiter) :
    operator? text ⟨.mark mark joint :: rest, leftover⟩ = .ok (true, ⟨rest, leftover⟩) := by
  rw [operator?_eq single, Tokens.atMarks, if_pos (decide_eq_true rfl)]
  rfl

theorem operator_present (single : text.toList = [mark]) (joint : Bool) (rest : Tokens)
    (leftover : Option Delimiter) :
    operator text ⟨.mark mark joint :: rest, leftover⟩ = .ok ((), ⟨rest, leftover⟩) := by
  have length : text.length = 1 := by rw [← String.length_toList, single]; rfl
  change (if Tokens.atOperator text (.mark mark joint :: rest) then _ else _ : Parser Unit) _ = _
  rw [Tokens.atOperator, single, Tokens.atMarks, if_pos (decide_eq_true rfl), length]
  rfl

theorem operator?_absent (single : text.toList = [mark]) {stream : Stream}
    (unmarked : ¬ stream.rest.StartsWith mark) : operator? text stream = .ok (false, stream) := by
  rw [operator?_eq single]
  apply if_neg
  intro found
  apply unmarked
  rcases stream with ⟨tokens, leftover⟩
  cases tokens with
  | nil => cases found
  | cons tree rest =>
      cases tree with
      | mark c joint => exact ⟨joint, rest, by rw [of_decide_eq_true found]⟩
      | word name => cases found
      | literal text => cases found
      | group delimiter content => cases found

/-- Either the mark stands ahead and is read, or it does not and nothing is. -/
theorem operator?_cases (single : text.toList = [mark]) (stream : Stream) :
    (∃ joint rest, stream.rest = .mark mark joint :: rest ∧
        operator? text stream = .ok (true, ⟨rest, stream.leftover⟩)) ∨
      operator? text stream = .ok (false, stream) := by
  by_cases ahead : stream.rest.StartsWith mark
  · rcases ahead with ⟨joint, rest, marked⟩
    rcases stream with ⟨tokens, leftover⟩
    cases marked
    exact Or.inl ⟨joint, rest, rfl, operator?_present single joint rest leftover⟩
  · exact Or.inr (operator?_absent single ahead)

end SingleMark

/-- A name is read exactly if a word that is no reserved one stands ahead. -/
theorem name_eq_ok_iff {stream behind : Stream} {word : Word} :
    name stream = .ok (word, behind) ↔
      word.isName = true ∧ stream = ⟨.word word :: behind.rest, behind.leftover⟩ := by
  constructor
  · intro read
    rcases stream with ⟨tokens, leftover⟩
    cases tokens with
    | nil => cases read
    | cons tree rest =>
        cases tree with
        | mark c joint => cases read
        | literal text => cases read
        | group delimiter content => cases read
        | word found =>
            change (if found.isName then _ else _ : Parser Word) _ = _ at read
            by_cases named : found.isName = true
            · rw [if_pos named] at read
              cases read
              exact ⟨named, rfl⟩
            · rw [if_neg named] at read
              cases read
  · rintro ⟨named, rfl⟩
    change (if word.isName then _ else _ : Parser Word) _ = _
    rw [if_pos named]
    rfl

/-- The state behind a group whose content was read up to some state. -/
def behindGroup (delimiter : Delimiter) (rest : Tokens) (inside : Stream) : Stream :=
  if inside.rest.isEmpty then ⟨rest, inside.leftover⟩
  else ⟨rest, inside.leftover <|> some delimiter⟩

/-- A group is read exactly if its content is. -/
theorem group_eq_ok_iff {delimiter : Delimiter} {content : Parser α} {inner rest : Tokens}
    {leftover : Option Delimiter} {value : α} {behind : Stream} :
    group delimiter content ⟨.group delimiter inner :: rest, leftover⟩ = .ok (value, behind) ↔
      ∃ inside, content ⟨inner, leftover⟩ = .ok (value, inside) ∧
        behind = behindGroup delimiter rest inside := by
  have start : group delimiter content ⟨.group delimiter inner :: rest, leftover⟩ =
      (content >>= fun value => do
        let left ← ahead
        continueWith rest
        noteLeftover delimiter left
        return value) ⟨inner, leftover⟩ := by
    change (if delimiter = delimiter then _ else _ : Parser α) _ = _
    rw [if_pos rfl]
    rfl
  have ending : ∀ inside : Stream, ∀ value : α,
      (do
        let left ← ahead
        continueWith rest
        noteLeftover delimiter left
        return value : Parser α) inside = .ok (value, behindGroup delimiter rest inside) := by
    intro inside value
    change Except.ok (value, if inside.rest.isEmpty then _ else _) = _
    rfl
  rw [start]
  constructor
  · intro read
    rcases bind_eq_ok read with ⟨found, inside, within, ended⟩
    rw [ending] at ended
    cases ended
    exact ⟨inside, within, rfl⟩
  · rintro ⟨inside, within, rfl⟩
    rw [bind_of_ok within, ending]

/-- Nothing is left over behind a group exactly if nothing is inside it. -/
theorem behindGroup_leftover {delimiter : Delimiter} {rest : Tokens} {inside : Stream} :
    (behindGroup delimiter rest inside).leftover = none ↔ inside = ⟨[], none⟩ := by
  rcases inside with ⟨left, leftover⟩
  cases left with
  | nil => simp [behindGroup]
  | cons tree left => cases leftover <;> simp [behindGroup]

/-- All of the given tokens are read exactly if nothing is left over, neither at the
end nor in a group. -/
theorem run_eq_ok_iff {parser : Parser α} {tokens : Tokens} {value : α} :
    parser.run tokens = .ok value ↔ parser ⟨tokens, none⟩ = .ok (value, ⟨[], none⟩) := by
  rw [run]
  cases parser ⟨tokens, none⟩ with
  | error complaint => simp
  | ok answer =>
      rcases answer with ⟨found, rest, leftover⟩
      cases leftover with
      | some delimiter => simp
      | none => cases rest <;> simp

end Parser
end Code
end Capability

import Capability.Proofs.Table.Agreement
import Capability.Registration.Expansion
import Mathlib.Logic.ExistsUnique
import Mathlib.Logic.Function.Basic
import Mathlib.Logic.IsEmpty.Basic
import Mathlib.Logic.Unique

/-!
# What the code of a selection evaluates to

The slot of an operation is filled by code: a choice that looks at the constant of the first
source, keeps what it holds if it holds something, and makes the next choice otherwise.  That code
is read here as the language reads it, and not as it was made.  A choice has a subject and two
arms, of which the first one names what the subject holds; each part may be any code of this kind,
and both arms must have a meaning, though only one of them is taken.

The relation says which readings there are.  There is only one, since an arm ends at the first
comma that is not within brackets.  So the code of a selection has the value of the selection, and
that is what the first source holds that holds anything, in a list of any length.  In particular
the code of each slot evaluates to what the table of the type has in that slot.
-/

namespace Capability

open Code Registration

namespace Selection

/-! ## Code that may evaluate to nothing -/

/-- The tokens of something by its name. -/
def something (name : Word) : Tokens := Tokens.plain "Some" ++ Tokens.enclosed (Tokens.word name)

/-- One arm of a choice: the code that is taken if the pattern fits.  The arrow and the comma stand
in front of words, so that neither joins another mark. -/
def arm (pattern body : Tokens) : Tokens :=
  pattern ++ Tokens.operator "=>" ++ body ++ Tokens.operator ","

/-- The tokens of a choice between something, which is given a name, and nothing. -/
def choice (subject : Tokens) (name : Word) (present absent : Tokens) : Tokens :=
  Tokens.plain "match" ++ subject
    ++ Tokens.braced (arm (something name) present ++ arm (Tokens.plain "None") absent)

variable {β : Type}

/--
What code evaluates to, given what the constants hold and the names in scope.  The name in a
pattern is that of a variable, unless it is the word for nothing.
-/
inductive Evaluates (holds : String → Option β) :
    (scope : Word → Option β) → Tokens → Option β → Prop where
  | absent {scope : Word → Option β} : Evaluates holds scope (Tokens.plain "None") none
  | present {scope : Word → Option β} {name : Word} {content : β} :
      scope name = some content → Evaluates holds scope (something name) (some content)
  | constant {scope : Word → Option β} {name : String} :
      Evaluates holds scope (Tokens.plain "D" ++ Tokens.operator "::" ++ Tokens.plain name)
        (holds name)
  | chosen {scope : Word → Option β} {subject present absent : Tokens} {name : Word}
      {value other : Option β} {found : β → Option β} :
      name ≠ .plain "None" →
      Evaluates holds scope subject value →
      (∀ content, Evaluates holds (Function.update scope name (some content)) present
        (found content)) →
      Evaluates holds scope absent other →
      Evaluates holds scope (choice subject name present absent) (value.elim other found)

variable {holds : String → Option β}

/-! ## Code has one value -/

/-- Whether a token is no comma. -/
def isNoComma : TokenTree → Bool
  | .mark c _ => c != ','
  | _ => true

/-- All commas are within brackets. -/
theorem Evaluates.no_comma {scope : Word → Option β} {tokens : Tokens} {value : Option β}
    (evaluates : Evaluates holds scope tokens value) :
    ∀ token ∈ tokens, isNoComma token = true := by
  induction evaluates with
  | absent => exact List.forall_mem_singleton.mpr rfl
  | present _ => exact List.forall_mem_cons.mpr ⟨rfl, List.forall_mem_singleton.mpr rfl⟩
  | constant => exact List.all_eq_true.mp rfl
  | chosen _ _ _ _ subjectHypothesis _ _ =>
      exact List.forall_mem_cons.mpr ⟨rfl, List.forall_mem_append.mpr
        ⟨subjectHypothesis, List.forall_mem_singleton.mpr rfl⟩⟩

/-- Where bodies without commas end can be told from the comma behind them. -/
theorem body_inj {body otherBody rest otherRest : Tokens}
    (free : ∀ token ∈ body, isNoComma token = true)
    (otherFree : ∀ token ∈ otherBody, isNoComma token = true)
    (same : body ++ (Tokens.operator "," ++ rest) =
      otherBody ++ (Tokens.operator "," ++ otherRest)) :
    body = otherBody ∧ rest = otherRest := by
  have stops (behind : Tokens) : (Tokens.operator "," ++ behind).takeWhile isNoComma = [] := rfl
  have bodies := congrArg (List.takeWhile isNoComma) same
  rw [List.takeWhile_append_of_pos free, List.takeWhile_append_of_pos otherFree, stops, stops,
    List.append_nil, List.append_nil] at bodies
  subst bodies
  exact ⟨rfl, List.append_cancel_left (List.append_cancel_left same)⟩

/-- The parts of a choice can be told from its tokens. -/
theorem choice_inj {subject otherSubject present otherPresent absent otherAbsent : Tokens}
    {name otherName : Word} (free : ∀ token ∈ present, isNoComma token = true)
    (otherFree : ∀ token ∈ otherPresent, isNoComma token = true)
    (same : choice subject name present absent = choice otherSubject otherName otherPresent
      otherAbsent) :
    subject = otherSubject ∧ name = otherName ∧ present = otherPresent ∧ absent = otherAbsent := by
  rcases List.append_inj' same rfl with ⟨subjects, groups⟩
  have arms := (TokenTree.group.inj (List.cons.inj groups).1).2
  simp only [arm, List.append_assoc] at arms
  rcases List.append_inj arms rfl with ⟨patterns, bodies⟩
  rcases body_inj free otherFree (List.append_cancel_left bodies) with ⟨first, second⟩
  have names : Tokens.enclosed (Tokens.word name) = Tokens.enclosed (Tokens.word otherName) :=
    List.append_cancel_left patterns
  refine ⟨List.append_cancel_left subjects, ?_, first, ?_⟩
  · have group := (TokenTree.group.inj (List.cons.inj names).1).2
    exact TokenTree.word.inj (List.cons.inj group).1
  · exact List.append_cancel_right
      (List.append_cancel_left (List.append_cancel_left second))

/-- The word that code begins with, which tells its kind. -/
def leadingWord : Tokens → String
  | .word name :: _ => name.text
  | _ => ""

@[simp]
theorem leadingWord_plain (text : String) : leadingWord (Tokens.plain text) = text := rfl

@[simp]
theorem leadingWord_plain_append (text : String) (behind : Tokens) :
    leadingWord (Tokens.plain text ++ behind) = text := rfl

theorem Evaluates.unique_of_inhabited [Nonempty β] {scope : Word → Option β} {tokens : Tokens}
    {value other : Option β} (left : Evaluates holds scope tokens value)
    (right : Evaluates holds scope tokens other) : value = other := by
  generalize same : tokens = otherTokens at right
  induction left generalizing otherTokens other with
  | absent =>
      cases right with
      | absent => rfl
      | present | constant | chosen =>
          exact absurd (congrArg leadingWord same) (by simp [something, choice])
  | present found =>
      cases right with
      | present otherFound =>
          cases same
          exact found.symm.trans otherFound
      | absent | constant | chosen =>
          exact absurd (congrArg leadingWord same) (by simp [something, choice])
  | constant =>
      cases right with
      | constant =>
          cases same
          rfl
      | absent | present | chosen =>
          exact absurd (congrArg leadingWord same) (by simp [something, choice])
  | @chosen _ _ _ _ _ value other found _ _ present _ subjectHypothesis presentHypothesis
      absentHypothesis =>
      cases right with
      | @chosen _ _ _ _ _ otherValue otherOther otherFound _ subject otherPresent absent =>
          have content := Classical.arbitrary β
          rcases choice_inj (present content).no_comma (otherPresent content).no_comma same with
            ⟨sameSubject, rfl, samePresent, sameAbsent⟩
          have values := subjectHypothesis _ sameSubject subject
          have others := absentHypothesis _ sameAbsent absent
          have founds : found = otherFound := funext fun content =>
            presentHypothesis content _ samePresent (otherPresent content)
          rw [values, others, founds]
      | absent | present | constant =>
          exact absurd (congrArg leadingWord same) (by simp [something, choice])

/-- Code evaluates to one value at most. -/
theorem Evaluates.unique {scope : Word → Option β} {tokens : Tokens} {value other : Option β}
    (left : Evaluates holds scope tokens value) (right : Evaluates holds scope tokens other) :
    value = other := by
  -- Without a value to name, the first arm of a choice is code whatever it is, and never taken.
  cases isEmpty_or_nonempty β with
  | inl _ => exact Subsingleton.elim value other
  | inr _ => exact left.unique_of_inhabited right

/-! ## The code of a selection -/

theorem sourceConstant_eq (name : String) :
    sourceConstant name = Tokens.plain "D" ++ Tokens.operator "::" ++ Tokens.plain name := rfl

/-- The code of a choice keeps what its source holds, by a name that is used nowhere else. -/
theorem selectionTokens_orElse (first : String) (rest : Selection String) :
    selectionTokens (orElse first rest) =
      choice (sourceConstant first) (.plain "f") (something (.plain "f")) (selectionTokens rest) :=
  rfl

/-- The code of a selection has its value, whatever names are in scope. -/
theorem evaluates_selectionTokens (holds : String → Option β) (scope : Word → Option β)
    (selection : Selection String) :
    Evaluates holds scope (selectionTokens selection) (selection.eval holds) := by
  have constant (name : String) : Evaluates holds scope (sourceConstant name) (holds name) := by
    rw [sourceConstant_eq]
    exact .constant
  induction selection with
  | nothing => exact .absent
  | source name => exact constant name
  | orElse first rest inductionHypothesis =>
      have value : (orElse first rest).eval holds = (holds first).elim (rest.eval holds) some := by
        rw [eval]
        cases holds first <;> rfl
      have kept (content : β) : Evaluates holds
          (Function.update scope (.plain "f") (some content)) (something (.plain "f"))
          (some content) :=
        .present (Function.update_self ..)
      rw [selectionTokens_orElse, value]
      exact .chosen (by decide) (constant first) kept inductionHypothesis

theorem evaluates_firstAvailable_iff {scope : Word → Option β} {names : List String}
    {value : Option β} :
    Evaluates holds scope (selectionTokens (firstAvailable names)) value ↔
      names.findSome? holds = value := by
  have evaluates := evaluates_selectionTokens holds scope (firstAvailable names)
  rw [eval_firstAvailable] at evaluates
  exact ⟨evaluates.unique, fun same => same ▸ evaluates⟩

/-- The code that selects among sources by their names, of which there may be any number, has one
value: what the first source holds that holds anything, and nothing exactly if no source does. -/
theorem code_takes_first_available (holds : String → Option β) (scope : Word → Option β)
    (names : List String) :
    (∃! value, Evaluates holds scope (selectionTokens (firstAvailable names)) value) ∧
      (∀ found, Evaluates holds scope (selectionTokens (firstAvailable names)) (some found) ↔
        ∃ front name behind, names = front ++ name :: behind ∧ holds name = some found ∧
          ∀ other ∈ front, holds other = none) ∧
      (Evaluates holds scope (selectionTokens (firstAvailable names)) none ↔
        ∀ name ∈ names, holds name = none) := by
  refine ⟨⟨names.findSome? holds, evaluates_firstAvailable_iff.mpr rfl, ?_⟩, fun found => ?_, ?_⟩
  · exact fun value evaluates => (evaluates_firstAvailable_iff.mp evaluates).symm
  · exact evaluates_firstAvailable_iff.trans List.findSome?_eq_some_iff
  · exact evaluates_firstAvailable_iff.trans List.findSome?_eq_none_iff

/-! ## The code of a slot -/

variable {α : Type}

theorem mem_sources {operation : Operation} (source : Source operation) :
    source ∈ operation.sources := by
  cases source <;> decide

/-- The constants of an operation have different names. -/
theorem constant_injective (operation : Operation) :
    Function.Injective (@Source.constant operation) := by
  have listed : ∀ first ∈ operation.sources, ∀ second ∈ operation.sources,
      first.constant = second.constant → first = second := by
    cases operation <;> decide
  exact fun first second => listed first (mem_sources first) second (mem_sources second)

/-- What the constants of an operation hold on a type. -/
def heldBy (behaviour : Behaviour α) (operation : Operation) (name : String) :
    Option (operation.Function α) :=
  (operation.sources.find? fun source => source.constant == name).bind (Source.resolve behaviour)

theorem heldBy_constant (behaviour : Behaviour α) {operation : Operation}
    (source : Source operation) :
    heldBy behaviour operation source.constant = source.resolve behaviour := by
  have listed : (operation.sources.find? fun other => other.constant == source.constant).isSome =
      true :=
    List.find?_isSome.mpr ⟨source, mem_sources source, beq_self_eq_true _⟩
  rcases Option.isSome_iff_exists.mp listed with ⟨other, found⟩
  have named : other.constant = source.constant := by
    simpa using List.find?_some found
  rw [heldBy, found, constant_injective operation named, Option.bind_some]

/-- The code of a slot evaluates to what the table of the type has in the slot. -/
theorem evaluates_sourceTokens_iff (behaviour : Behaviour α) (operation : Operation)
    {scope : Word → Option (operation.Function α)} {value : Option (operation.Function α)} :
    Evaluates (heldBy behaviour operation) scope (sourceTokens operation) value ↔
      (Table.of behaviour).slot operation = value := by
  have held : heldBy behaviour operation ∘ Source.constant = Source.resolve behaviour :=
    funext (heldBy_constant behaviour)
  rw [sourceTokens, evaluates_firstAvailable_iff, List.findSome?_map, held, Table.slot_of]

end Selection
end Capability

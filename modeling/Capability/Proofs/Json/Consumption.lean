import Capability.Json.Reader.List

/-!
# What readers take off a text

A reader that succeeds takes some characters off what is ahead and gives a
value.  Which characters these are depends on what follows them: a number ends
only where no digit does, and white space is taken in front of a token but not
behind it.  `Consumes` therefore speaks of one text in front of one other, and is
composed step by step along a reader; where reading started is immaterial.

`Reads` is what all readers of whole values have in common.  White space in front
of the value does not matter, and behind it anything may come that does not
continue a number.
-/

namespace Capability
namespace Json
namespace Reader

variable {α β : Type}

/-- In front of `rest` the reader takes exactly `text` and gives `value`. -/
def Consumes (read : Reader α) (text rest : List Char) (value : α) : Prop :=
  ∀ offset, ∃ behind, read ⟨offset, text ++ rest⟩ = .ok value ⟨behind, rest⟩

def AllBlank (text : List Char) : Prop := ∀ c ∈ text, isBlank c = true

/-! ## Composition -/

namespace Consumes

variable {text more rest : List Char} {value : α} {result : β}

theorem pure (rest : List Char) (value : α) : Consumes (Pure.pure value) [] rest value :=
  fun offset => ⟨offset, rfl⟩

/-- One reader behind another takes what both take. -/
theorem bind {read : Reader α} {next : α → Reader β} (first : Consumes read text (more ++ rest) value)
    (second : Consumes (next value) more rest result) :
    Consumes (read >>= next) (text ++ more) rest result := by
  intro offset
  rcases first offset with ⟨middle, taken⟩
  rcases second middle with ⟨behind, ended⟩
  refine ⟨behind, ?_⟩
  rw [List.append_assoc]
  change EStateM.bind read next _ = _
  rw [EStateM.bind, taken]
  exact ended

theorem bind_nil {read : Reader α} {next : α → Reader β} (first : Consumes read text rest value)
    (second : Consumes (next value) [] rest result) :
    Consumes (read >>= next) text rest result := by
  have both : Consumes (read >>= next) (text ++ []) rest result := bind first second
  rwa [List.append_nil] at both

theorem nil_bind {read : Reader α} {next : α → Reader β}
    (first : Consumes read [] (text ++ rest) value) (second : Consumes (next value) text rest result) :
    Consumes (read >>= next) text rest result :=
  bind first second

theorem map {read : Reader α} (change : α → β) (first : Consumes read text rest value) :
    Consumes (change <$> read) text rest (change value) := by
  intro offset
  rcases first offset with ⟨behind, taken⟩
  refine ⟨behind, ?_⟩
  show EStateM.map change read _ = _
  rw [EStateM.map, taken]

/-- A reader that succeeds has no fault to be placed. -/
theorem settled {read : Reader α} (first : Consumes read text rest value) :
    Consumes (Reader.settled read) text rest value := by
  intro offset
  rcases first offset with ⟨behind, taken⟩
  refine ⟨behind, ?_⟩
  rw [Reader.settled, taken]

/-- What is between brackets and the closing bracket are taken together. -/
theorem bracketed {content : Reader α} {closing : Reader Unit}
    (inner : Consumes content text (more ++ rest) value) (ending : Consumes closing more rest ()) :
    Consumes (Reader.bracketed content closing) (text ++ more) rest value := by
  intro offset
  rcases inner offset with ⟨middle, taken⟩
  rcases ending middle with ⟨behind, ended⟩
  refine ⟨behind, ?_⟩
  rw [List.append_assoc, Reader.bracketed, taken]
  simp only
  rw [ended]

/-! ## Looking ahead -/

theorem peek {next : Option Char → Reader β}
    (second : Consumes (next (text ++ rest).head?) text rest result) :
    Consumes (peek? >>= next) text rest result := second

theorem remaining {next : Nat → Reader β}
    (second : Consumes (next (text ++ rest).length) text rest result) :
    Consumes (Reader.remaining >>= next) text rest result := second

theorem advance (c : Char) (rest : List Char) : Consumes Reader.advance [c] rest () :=
  fun offset => ⟨offset + c.utf8Size, rfl⟩

theorem advanced {c : Char} {next : Unit → Reader β}
    (second : Consumes (next ()) text rest result) :
    Consumes (Reader.advance >>= next) (c :: text) rest result :=
  (advance c (text ++ rest)).bind second

end Consumes

/-- White space is skipped up to the first character that is none. -/
theorem skipBlankFrom_append {blank rest : List Char} (isBlank : AllBlank blank)
    (solid : rest.head?.any Json.isBlank = false) (offset : Nat) :
    ∃ behind, skipBlankFrom offset (blank ++ rest) = ⟨behind, rest⟩ := by
  induction blank generalizing offset with
  | nil =>
      refine ⟨offset, ?_⟩
      cases rest with
      | nil => rfl
      | cons c rest =>
          have different : Json.isBlank c = false := solid
          rw [List.nil_append, skipBlankFrom, different]
          rfl
  | cons c blank inductionHypothesis =>
      rw [List.cons_append, skipBlankFrom, isBlank c List.mem_cons_self, if_pos rfl]
      exact inductionHypothesis (fun c member => isBlank c (List.mem_cons_of_mem _ member)) _

/-- Looking at the next token takes the white space in front of it. -/
theorem Consumes.peekToken {next : Option Char → Reader β} {blank text rest : List Char} {result : β}
    (isBlank : AllBlank blank) (solid : (text ++ rest).head?.any Json.isBlank = false)
    (second : Consumes (next (text ++ rest).head?) text rest result) :
    Consumes (peekToken? >>= next) (blank ++ text) rest result := by
  intro offset
  rcases skipBlankFrom_append isBlank solid offset with ⟨middle, skipped⟩
  rcases second middle with ⟨behind, ended⟩
  refine ⟨behind, ?_⟩
  change (next (skipBlankFrom offset (blank ++ text ++ rest)).peek?)
    (skipBlankFrom offset (blank ++ text ++ rest)) = _
  rw [List.append_assoc, skipped]
  exact ended

theorem Consumes.peekBlank {next : Option Char → Reader β} {blank rest : List Char} {result : β}
    (isBlank : AllBlank blank) (solid : rest.head?.any Json.isBlank = false)
    (second : Consumes (next rest.head?) [] rest result) :
    Consumes (peekToken? >>= next) blank rest result := by
  have both : Consumes (peekToken? >>= next) (blank ++ []) rest result :=
    .peekToken isBlank solid second
  rwa [List.append_nil] at both

/-! ## Words -/

theorem word_consumes (text rest : List Char) : Consumes (word text) text rest () := by
  induction text with
  | nil => exact .pure rest ()
  | cons c text inductionHypothesis =>
      apply Consumes.peek
      simp only [List.cons_append, List.head?_cons, if_pos]
      exact .advanced inductionHypothesis

/-- A word whose first letter has been seen is taken as a whole. -/
theorem knownWord_consumes {text : String} (rest : List Char) {first : Char} {others : List Char}
    (spelled : text.toList = first :: others) :
    Consumes (knownWord text) text.toList rest () := by
  rw [spelled]
  apply Consumes.advanced
  rw [spelled]
  exact word_consumes others rest

/-! ## Readers of whole values -/

/-- The text does not continue a number that it follows. -/
def Delimited (rest : List Char) : Prop :=
  ∀ c, rest.head? = some c → c.isDigit = false ∧ c ≠ '.' ∧ c ≠ 'e' ∧ c ≠ 'E'

/-- The text begins with neither white space nor the end of a list. -/
def Opens (text : List Char) : Prop :=
  ∃ c more, text = c :: more ∧ isBlank c = false ∧ c ≠ ']'

/-- The reader takes the text, wherever it stands, for the value. -/
structure Reads (read : Reader α) (text : List Char) (value : α) : Prop where
  opens : Opens text
  consumes : ∀ blank rest, AllBlank blank → Delimited rest →
    Consumes read (blank ++ text) rest value

theorem allBlank_nil : AllBlank [] := fun _ member => absurd member List.not_mem_nil

theorem delimited_nil : Delimited [] := fun _ impossible => by cases impossible

theorem Opens.solid {text : List Char} (opens : Opens text) (rest : List Char) :
    (text ++ rest).head?.any isBlank = false := by
  rcases opens with ⟨c, more, rfl, solid, -⟩
  exact solid

theorem Opens.length_pos {text : List Char} (opens : Opens text) : 0 < text.length := by
  rcases opens with ⟨c, more, rfl, _, _⟩
  exact Nat.succ_pos _

/-- White space continues no number, nor does what follows it. -/
theorem Delimited.append {blank rest : List Char} (isBlank : AllBlank blank)
    (delimited : Delimited rest) : Delimited (blank ++ rest) := by
  cases blank with
  | nil => exact delimited
  | cons c blank =>
      intro first found
      cases found
      have alternatives := isBlank c List.mem_cons_self
      simp only [Json.isBlank, Bool.or_eq_true, beq_iff_eq] at alternatives
      rcases alternatives with ((rfl | rfl) | rfl) | rfl <;> decide

theorem Reads.map {read : Reader α} {text : List Char} {value : α} (change : α → β)
    (reads : Reads read text value) : Reads (change <$> read) text (change value) :=
  ⟨reads.opens, fun blank rest isBlank delimited =>
    (reads.consumes blank rest isBlank delimited).map change⟩

/-- A whole text that is the text of one value, with white space around it, is
read as that value. -/
theorem Reads.run {read : Reader α} {text : List Char} {value : α} (reads : Reads read text value)
    {before after : List Char} (blankBefore : AllBlank before) (blankAfter : AllBlank after) :
    Reader.run read (String.ofList (before ++ text ++ after)) = .ok value := by
  have delimited := Delimited.append blankAfter delimited_nil
  rw [List.append_nil] at delimited
  rcases reads.consumes before after blankBefore delimited 0 with ⟨middle, taken⟩
  have skipping : ∃ behind, skipBlankFrom middle (after ++ []) = ⟨behind, []⟩ :=
    skipBlankFrom_append blankAfter rfl middle
  rcases skipping with ⟨behind, skipped⟩
  rw [List.append_nil] at skipped
  rw [Reader.run, Cursor.start, String.toList_ofList]
  simp only [Bind.bind, EStateM.bind, taken, peekToken?, Cursor.skipBlank, skipped]
  rfl

end Reader
end Json
end Capability

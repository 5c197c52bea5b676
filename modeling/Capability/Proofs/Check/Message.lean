import Capability.Proofs.Check.Assertion
import Capability.Proofs.Code.Atom

/-!
# What the message of an assertion shows

The message of an assertion is given as a literal, and what is shown when the
assertion fails is not the text of that literal.  It is read once more, and braces
have a meaning there: a pair of equal braces shows one of them, and any other brace
belongs to the place of a value.  No values are given along with a message, so a
message with such a place shows nothing, and the assertion is refused even where its
condition holds.

The text of an accepted condition has no brace, because the names of the questions
have none.  The type is written with the tokens that were read for it.  Among these
can be a block, as the length of an array or as an argument, and a literal with any
characters.  So the message shows itself exactly if no token of the type has a brace.
-/

namespace Capability

/-! ## Texts as they are shown -/

namespace Text

def isBrace (c : Char) : Bool := c = '\x7b' || c = '\x7d'

/-- Whether there is a brace in a text. -/
def hasBrace (text : String) : Bool := text.toList.any isBrace

/-- What the characters of a message show.  A brace that is not followed by the same brace belongs
to the place of a value; there are no values, and nothing is shown. -/
def shownChars? : List Char → Option (List Char)
  | [] => some []
  | '\x7b' :: '\x7b' :: rest => (shownChars? rest).map ('\x7b' :: ·)
  | '\x7d' :: '\x7d' :: rest => (shownChars? rest).map ('\x7d' :: ·)
  | c :: rest => if isBrace c then none else (shownChars? rest).map (c :: ·)

/-- What a message shows, if it has no place for a value. -/
def shown? (message : String) : Option String :=
  (shownChars? message.toList).map String.ofList

/-- A message shows no more than its characters, and fewer if there is a brace among them. -/
theorem length_of_shownChars? {message shown : List Char}
    (shows : shownChars? message = some shown) :
    shown.length + (message.any isBrace).toNat ≤ message.length := by
  fun_induction shownChars? message generalizing shown with
  | case1 =>
      cases shows
      rfl
  | case2 rest inductionHypothesis | case3 rest inductionHypothesis =>
      rcases Option.map_eq_some_iff.mp shows with ⟨others, showsOthers, rfl⟩
      have shorter := inductionHypothesis showsOthers
      rw [List.any_cons, List.length_cons, List.length_cons, List.length_cons]
      change others.length + 1 + 1 ≤ rest.length + 1 + 1
      omega
  | case4 c rest _ _ brace => cases shows
  | case5 c rest _ _ plain inductionHypothesis =>
      rcases Option.map_eq_some_iff.mp shows with ⟨others, showsOthers, rfl⟩
      have shorter := inductionHypothesis showsOthers
      rw [List.any_cons, Bool.eq_false_iff.mpr plain, Bool.false_or, List.length_cons,
        List.length_cons]
      omega

theorem shownChars?_of_no_brace {message : List Char} (plain : message.any isBrace = false) :
    shownChars? message = some message := by
  fun_induction shownChars? message with
  | case1 => rfl
  | case2 rest _ | case3 rest _ => cases plain
  | case4 c rest _ _ brace =>
      rw [List.any_cons, brace] at plain
      cases plain
  | case5 c rest _ _ _ inductionHypothesis =>
      rw [List.any_cons, Bool.or_eq_false_iff] at plain
      rw [inductionHypothesis plain.2]
      rfl

theorem length_lt_of_shown? {message other : String} (brace : hasBrace message = true)
    (shows : shown? message = some other) : other.length < message.length := by
  rcases Option.map_eq_some_iff.mp shows with ⟨shown, found, rfl⟩
  have shorter := length_of_shownChars? found
  rw [hasBrace] at brace
  rw [brace] at shorter
  rw [String.length_ofList, ← String.length_toList]
  exact shorter

/-- The messages that show themselves are those without a brace. -/
theorem shown?_eq_self_iff (message : String) :
    shown? message = some message ↔ hasBrace message = false := by
  constructor
  · intro shows
    cases brace : hasBrace message with
    | false => rfl
    | true => exact absurd (length_lt_of_shown? brace shows) (Nat.lt_irrefl _)
  · intro plain
    rw [shown?, shownChars?_of_no_brace plain, Option.map_some, String.ofList_toList]

theorem hasBrace_append (front behind : String) :
    hasBrace (front ++ behind) = (hasBrace front || hasBrace behind) := by
  rw [hasBrace, String.toList_append, List.any_append, hasBrace, hasBrace]

end Text

open Text (isBrace hasBrace shown?)

/-! ## Braces of a type -/

/-- Compact text leaves out blanks alone, which are no braces. -/
theorem Naming.any_isBrace_compactFrom (kept : Option Char) (text : List Char) :
    (compactFrom kept text).any isBrace = text.any isBrace := by
  have any_solid (text : List Char) : (solid text).any isBrace = text.any isBrace := by
    rw [solid, List.any_filter]
    congr 1
    funext c
    by_cases blank : c = ' '
    · rw [blank]
      rfl
    · rw [decide_eq_true blank, Bool.true_and]
  rw [← any_solid, solid_compactFrom, any_solid]

namespace Code

namespace TokenTree

mutual

/-- Whether there is a brace in a token, or around or within a group. -/
def hasBrace : TokenTree → Bool
  | word name => Text.hasBrace name.written
  | mark c _ => isBrace c
  | literal text => Text.hasBrace text
  | group delimiter content => delimiter == .brace || hasBraceAll content

def hasBraceAll : List TokenTree → Bool
  | [] => false
  | tree :: rest => hasBrace tree || hasBraceAll rest

end

mutual

theorem any_isBrace_chars (tree : TokenTree) : (chars tree).any isBrace = hasBrace tree := by
  cases tree with
  | word name => rfl
  | mark c joint => exact Bool.or_false _
  | literal text => rfl
  | group delimiter content =>
      rw [chars, List.any_append, List.any_append, any_isBrace_charsAll content, hasBrace]
      cases delimiter with
      | parenthesis | bracket => exact Bool.or_false _
      | brace => rfl

theorem any_isBrace_charsAll (trees : List TokenTree) :
    (charsAll trees).any isBrace = hasBraceAll trees := by
  match trees with
  | [] => rfl
  | [last] =>
      rw [charsAll, any_isBrace_chars last, hasBraceAll]
      exact (Bool.or_false _).symm
  | tree :: next :: rest =>
      have gap : ((if isJoint tree then [] else [' ']).any isBrace) = false := by
        cases isJoint tree <;> rfl
      rw [charsAll, List.any_append, List.any_append, gap, Bool.or_false, any_isBrace_chars tree,
        any_isBrace_charsAll (next :: rest)]
      rfl

end

end TokenTree

/-- Whether there is a brace in the text of tokens. -/
def Tokens.hasBrace (tokens : Tokens) : Bool := TokenTree.hasBraceAll tokens

theorem Tokens.hasBrace_compactText (tokens : Tokens) :
    Text.hasBrace tokens.compactText = tokens.hasBrace := by
  rw [compactText, Naming.compact, Text.hasBrace, String.toList_ofList,
    Naming.any_isBrace_compactFrom, text, String.toList_ofList, TokenTree.any_isBrace_charsAll,
    hasBrace]

end Code

/-! ## Braces of a condition -/

theorem Query.hasBrace_name (query : Query) : hasBrace query.name = false := by
  cases query <;> decide

/-- There is no brace in a condition whose names are all known. -/
theorem Condition.hasBrace_text {condition : Condition} (known : condition.unknown? = none) :
    hasBrace condition.text = false := by
  have marks : hasBrace "(" = false ∧ hasBrace " & " = false ∧ hasBrace " | " = false ∧
      hasBrace ")" = false ∧ hasBrace "!" = false := by decide
  rcases marks with ⟨opening, conjunction, disjunction, closing, negation⟩
  induction condition with
  | named name =>
      have isKnown : isUnknown name = false :=
        Bool.eq_false_iff.mpr (List.find?_eq_none.mp known name (List.mem_singleton.mpr rfl))
      rcases exists_query_of_known isKnown with ⟨query, same, _⟩
      rw [text, ← same]
      exact query.hasBrace_name
  | both left right leftHypothesis rightHypothesis =>
      have parts := Option.or_eq_none_iff.mp ((unknown?_join .both left right).symm.trans known)
      simp only [text, Text.hasBrace_append, leftHypothesis parts.1, rightHypothesis parts.2,
        opening, conjunction, closing, Bool.or_false]
  | either left right leftHypothesis rightHypothesis =>
      have parts := Option.or_eq_none_iff.mp ((unknown?_join .either left right).symm.trans known)
      simp only [text, Text.hasBrace_append, leftHypothesis parts.1, rightHypothesis parts.2,
        opening, disjunction, closing, Bool.or_false]
  | not operand inductionHypothesis =>
      simp only [text, Text.hasBrace_append, inductionHypothesis known, negation, Bool.or_false]

namespace Check

/-! ## Messages -/

theorem unknown?_of_ofCheck {check : Check} {block : CheckedBlock}
    (accepted : CheckedBlock.ofCheck check = .ok block) : check.condition.unknown? = none := by
  cases unknown : check.condition.unknown? with
  | none => rfl
  | some name =>
      rw [CheckedBlock.ofCheck, Condition.formula_of_unknown unknown] at accepted
      cases accepted

/-- The message of an accepted check has a brace exactly if the type has one. -/
theorem hasBrace_message {check : Check} (known : check.condition.unknown? = none) :
    hasBrace check.message = check.type.tokens.hasBrace := by
  have front : hasBrace "`" = false := by decide
  have between : hasBrace "` does not satisfy `" = false := by decide
  simp only [message, typeText, Text.hasBrace_append, Code.Tokens.hasBrace_compactText, front, between,
    Condition.hasBrace_text known, Bool.or_false, Bool.false_or]

/-- An assertion shows what it says of a check, or the type of the check has a brace. -/
structure ShowsOf (check : Check) (assertion : Assertion) : Prop where
  block_type : assertion.block.type = check.type
  message_eq : assertion.message =
    "`" ++ check.typeText ++ "` does not satisfy `" ++ check.condition.text ++ "`"
  condition_plain : hasBrace check.condition.text = false
  shows_iff : shown? assertion.message = some assertion.message ↔
    check.type.tokens.hasBrace = false
  /-- What is shown instead lacks some of the characters, if anything is shown at all. -/
  shorter : check.type.tokens.hasBrace = true →
    ∀ other, shown? assertion.message = some other → other.length < assertion.message.length

theorem showsOf_of_ofCheck {check : Check} {block : CheckedBlock}
    (accepted : CheckedBlock.ofCheck check = .ok block) :
    check.ShowsOf ⟨block, check.message⟩ := by
  have known := unknown?_of_ofCheck accepted
  have braces := hasBrace_message known
  refine ⟨?_, rfl, Condition.hasBrace_text known, ?_, fun brace other shows => ?_⟩
  · rcases Condition.emits_of_known known with ⟨formula, isFormula, _⟩
    rw [CheckedBlock.ofCheck, isFormula] at accepted
    cases accepted
    rfl
  · rw [Text.shown?_eq_self_iff, braces]
  · exact Text.length_lt_of_shown? (braces.trans brace) shows

/--
The assertions of accepted checks are emitted in the order of the checks, each with a
message about the type and the condition of its check.  The condition is written
without braces.  So the message shows itself if the type has no brace; otherwise it
shows fewer characters than it has, or it asks for a value that is not given and the
assertion is refused.
-/
theorem message_shows_itself_iff {checks : List Check} {asserted : List Assertion}
    (accepted : assertions checks = .ok asserted) :
    assertionCode checks = asserted.flatMap Assertion.tokens ∧
      List.Forall₂ ShowsOf checks asserted := by
  constructor
  · rw [assertionCode, assertionCodeFrom_eq, accepted]
    rfl
  · induction checks generalizing asserted with
    | nil =>
        cases accepted
        exact .nil
    | cons check checks inductionHypothesis =>
        rw [assertions, List.mapM_cons, ← assertions] at accepted
        cases isBlock : CheckedBlock.ofCheck check with
        | error unknown =>
            rw [isBlock] at accepted
            cases accepted
        | ok block =>
            cases others : assertions checks with
            | error unknown =>
                rw [isBlock, others] at accepted
                cases accepted
            | ok further =>
                rw [isBlock, others] at accepted
                cases accepted
                exact .cons (showsOf_of_ofCheck isBlock) (inductionHypothesis others)

/-- The checks of a text with their assertions, if they are read and accepted. -/
def accepted? (text : String) : Option (List Check × List Assertion) :=
  match parseList text with
  | .ok checks => (assertions checks).toOption.map (checks, ·)
  | .error _ => none

theorem of_accepted? {text : String} {checks : List Check} {asserted : List Assertion}
    (found : accepted? text = some (checks, asserted)) :
    parseList text = .ok checks ∧ assertions checks = .ok asserted := by
  rw [accepted?] at found
  split at found
  case h_1 read parsed =>
    rcases Option.map_eq_some_iff.mp found with ⟨others, made, same⟩
    cases same
    cases emitted : assertions checks with
    | error unknown =>
        rw [emitted] at made
        cases made
    | ok all =>
        rw [emitted] at made
        cases made
        exact ⟨parsed, rfl⟩
  case h_2 => cases found

/-- The message about arrays whose length is a sum shows itself.  With a block within a block as
the length it shows another length. -/
theorem message_shows_itself_of_arrays :
    ∃ checks asserted,
      parseList "[u8; 4 + N]: Send & !HasEq, [u8; \x7b \x7b 4 \x7d \x7d]: Send" = .ok checks ∧
        assertions checks = .ok asserted ∧
        asserted.map (fun assertion => (assertion.message, shown? assertion.message)) =
          [("`[u8;4+N]` does not satisfy `(Send & !HasEq)`",
              some "`[u8;4+N]` does not satisfy `(Send & !HasEq)`"),
            ("`[u8;\x7b\x7b4\x7d\x7d]` does not satisfy `Send`",
              some "`[u8;\x7b4\x7d]` does not satisfy `Send`")] ∧
        assertionCode checks = asserted.flatMap Assertion.tokens ∧
        List.Forall₂ ShowsOf checks asserted := by
  have read : ((accepted?
      "[u8; 4 + N]: Send & !HasEq, [u8; \x7b \x7b 4 \x7d \x7d]: Send").any fun found =>
        found.2.map (fun assertion => (assertion.message, shown? assertion.message)) ==
          [("`[u8;4+N]` does not satisfy `(Send & !HasEq)`",
              some "`[u8;4+N]` does not satisfy `(Send & !HasEq)`"),
            ("`[u8;\x7b\x7b4\x7d\x7d]` does not satisfy `Send`",
              some "`[u8;\x7b4\x7d]` does not satisfy `Send`")]) = true := by
    decide +kernel
  rcases (Option.any_eq_true _ _).mp read with ⟨⟨checks, asserted⟩, found, messages⟩
  rcases of_accepted? found with ⟨parsed, accepted⟩
  exact ⟨checks, asserted, parsed, accepted, beq_iff_eq.mp messages,
    message_shows_itself_iff accepted⟩

/-- A check is read and accepted, as a value and as an assertion, but the message of the assertion
has a place for a value. -/
theorem message_shows_nothing :
    ∃ checks assertion,
      parseList "[u8; \x7b 4 \x7d]: Send" = .ok checks ∧
        (∃ blocks, conjunction checks = .ok blocks) ∧
        assertions checks = .ok [assertion] ∧
        assertion.message = "`[u8;\x7b4\x7d]` does not satisfy `Send`" ∧
        shown? assertion.message = none := by
  have read : ((accepted? "[u8; \x7b 4 \x7d]: Send").any fun found =>
      found.2.map Assertion.message == ["`[u8;\x7b4\x7d]` does not satisfy `Send`"]) = true := by
    decide +kernel
  rcases (Option.any_eq_true _ _).mp read with ⟨⟨checks, asserted⟩, found, messages⟩
  rcases of_accepted? found with ⟨parsed, accepted⟩
  have blocks : ∃ blocks, conjunction checks = .ok blocks := by
    have made := accepted
    rw [assertions_eq] at made
    cases all : conjunction checks with
    | error unknown =>
        rw [all] at made
        cases made
    | ok blocks => exact ⟨blocks, rfl⟩
  rcases List.map_eq_singleton_iff.mp (beq_iff_eq.mp messages) with ⟨assertion, rfl, message⟩
  refine ⟨checks, assertion, parsed, blocks, accepted, message, ?_⟩
  rw [message]
  decide

end Check
end Capability

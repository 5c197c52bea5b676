import Capability.Proofs.Naming.SnakeCase
import Capability.Registration.Expansion

/-!
# The names of a registration

A registration makes two words out of the registered name: the module's, which is
the name in snake case, and the exported function's, which has an ending as well.
A text that is no word cannot be made one, and then nothing is expanded.

For a name that is not raw this never happens.  Snake case leaves words words,
and the reserved words without a raw form are told apart before a raw word is made.  A
name in raw form keeps its mark in snake case instead of giving it up to the module's
own raw form, so that no raw name has an expansion.
-/

namespace Capability

open Code

/-- Two names have the same symbol exactly if they have the same snake case. -/
theorem symbolOf_eq_iff {first second : String} :
    symbolOf first = symbolOf second ↔ Naming.snakeCase first = Naming.snakeCase second := by
  rw [symbolOf, symbolOf, ← String.toList_inj, ← String.toList_inj, String.toList_append,
    String.toList_append, List.append_left_inj]

namespace Registration

theorem plainWord_of_word {text : String} (word : Lexeme.isPlainWord text.toList = true) :
    plainWord text = .ok (.plain text) := by
  rw [plainWord, if_pos word]

theorem rawWord_of_word {text : String} (word : Lexeme.isPlainWord text.toList = true)
    (raw : text ∉ Lexeme.notRaw) : rawWord text = .ok ⟨text, true⟩ := by
  simp [rawWord, word, raw]

/-- A word does not begin like a raw word. -/
theorem composedWord_of_word {text : String} (word : Lexeme.isPlainWord text.toList = true) :
    composedWord text = .ok (.plain text) := by
  rw [composedWord]
  split
  · next inner same => exact absurd same (Lexeme.ne_raw_of_isPlainWord word inner)
  · exact plainWord_of_word word

/-! ## Names that are not raw -/

theorem isPlainWord_snakeCase {name : String} (word : Lexeme.isPlainWord name.toList = true) :
    Lexeme.isPlainWord (Naming.snakeCase name).toList = true := by
  rw [Naming.snakeCase, String.toList_ofList]
  exact Naming.isPlainWord_snakeFrom word

theorem isPlainWord_symbolOf {name : String} (word : Lexeme.isPlainWord name.toList = true) :
    Lexeme.isPlainWord (symbolOf name).toList = true := by
  rw [symbolOf, String.toList_append]
  exact Lexeme.isPlainWord_append (isPlainWord_snakeCase word) (by decide)

/-- A reserved word that may be written raw has a raw form. -/
theorem rawForm_of_keyword {text : String} (keyword : Naming.isKeyword text = true)
    (canBeRaw : Naming.canBeRaw text = true) : text ∉ Lexeme.notRaw := by
  have never : ∀ word ∈ Lexeme.notRaw,
      Naming.isKeyword word = false ∨ Naming.canBeRaw word = false := by
    decide
  intro member
  rcases never text member with other | other
  · rw [keyword] at other
    cases other
  · rw [canBeRaw] at other
    cases other

/-- The module of a name that is not raw, unless it would be one of three reserved words. -/
theorem moduleName_of_word {name : Word} (plain : name.raw = false)
    (word : Lexeme.isPlainWord name.text.toList = true) :
    moduleName name =
      if ["crate", "self", "super"].contains (Naming.snakeCase name.text) then
        .error (.reserved (Naming.snakeCase name.text) name.text)
      else .ok ⟨Naming.snakeCase name.text, Naming.isKeyword (Naming.snakeCase name.text)⟩ := by
  have written : name.written = name.text := Lexeme.written_of_plain plain
  have snakeWord := isPlainWord_snakeCase word
  have canBeRaw := Naming.canBeRaw_snakeCase name.text
  rw [moduleName, written]
  cases keyword : Naming.isKeyword (Naming.snakeCase name.text) with
  | false =>
      have free : Naming.snakeCase name.text ∉ ["crate", "self", "super"] := by
        have reserved : ∀ word ∈ ["crate", "self", "super"], Naming.isKeyword word = true := by
          decide
        intro member
        rw [reserved _ member] at keyword
        cases keyword
      rw [Bool.not_false, if_pos rfl, plainWord_of_word snakeWord,
        List.contains_eq_mem, decide_eq_false free]
      rfl
  | true =>
      rw [Bool.not_true, if_neg Bool.false_ne_true, canBeRaw]
      cases free : ["crate", "self", "super"].contains (Naming.snakeCase name.text) with
      | true => rfl
      | false =>
          rw [free, Bool.not_false] at canBeRaw
          exact rawWord_of_word snakeWord (rawForm_of_keyword keyword canBeRaw)

/-! ## Raw names -/

/-- Snake case of a raw name begins like a raw name. -/
theorem snakeCase_of_raw {name : Word} (raw : name.raw = true) :
    (Naming.snakeCase name.written).toList =
      'r' :: '#' :: Naming.snakeFrom (some '#') name.text.toList := by
  rw [Naming.snakeCase, String.toList_ofList, Lexeme.written_of_raw raw]
  rfl

theorem moduleName_of_raw {name : Word} (raw : name.raw = true) :
    moduleName name = .error (.invalid (Naming.snakeCase name.written)) := by
  have snake := snakeCase_of_raw raw
  have noKeyword : Naming.isKeyword (Naming.snakeCase name.written) = false := by
    have noMark : ∀ keyword ∈ Naming.keywords, '#' ∉ keyword.toList := by
      decide
    rw [Naming.isKeyword, List.contains_eq_mem, decide_eq_false_iff_not]
    intro member
    apply noMark _ member
    rw [snake]
    exact List.mem_cons_of_mem _ List.mem_cons_self
  have noWord : Lexeme.isPlainWord (Naming.snakeCase name.written).toList = false := by
    rw [Bool.eq_false_iff]
    exact fun isWord => Lexeme.ne_raw_of_isPlainWord isWord _ snake
  simp [moduleName, noKeyword, plainWord, noWord]

/-! ## The names of an expanded registration -/

/-- A composed word is written as the text that it is composed of. -/
theorem written_of_composedWord {text : String} {word : Word}
    (composed : composedWord text = .ok word) : word.written = text := by
  rw [composedWord] at composed
  split at composed
  · next inner begins =>
      rw [rawWord] at composed
      split at composed
      · cases composed
      · split at composed
        · cases composed
        · cases composed
          rw [← String.toList_inj, Lexeme.written_of_raw rfl, String.toList_ofList, begins]
  · rw [plainWord] at composed
    split at composed
    · cases composed
      exact Lexeme.written_of_plain rfl
    · cases composed

/-- A module is written by the snake case of the registered name. -/
theorem text_of_moduleName {name module : Word} (made : moduleName name = .ok module) :
    module.text = Naming.snakeCase name.written := by
  rw [moduleName] at made
  split at made
  · rw [plainWord] at made
    split at made
    · cases made
      rfl
    · cases made
  · split at made
    · rw [rawWord] at made
      split at made
      · cases made
      · split at made
        · cases made
        · cases made
          rfl
    · cases made

/-- The names that a registered name leads to: it is not raw, and the symbol is its own. -/
theorem Names.of_eq_ok {name : Word} {names : Names} (made : Names.of name = .ok names) :
    names.name = name ∧ name.raw = false ∧ names.symbol = symbolOf name.written ∧
      names.module.text = Naming.snakeCase name.written := by
  rw [Names.of] at made
  cases modules : moduleName name with
  | error problem =>
      rw [modules] at made
      cases made
  | ok module =>
      cases composed : composedWord (symbolOf name.written) with
      | error problem =>
          rw [modules, composed] at made
          cases made
      | ok symbol =>
          rw [modules, composed] at made
          cases made
          refine ⟨rfl, ?_, written_of_composedWord composed, text_of_moduleName modules⟩
          rw [Bool.eq_false_iff]
          intro raw
          rw [moduleName_of_raw raw] at modules
          cases modules

theorem Plan.names_of_expand {plan : Plan} {registered : Registered}
    (expands : plan.expand = .ok (.registration registered)) :
    Names.of plan.name = .ok registered.names ∧ registered.plan = plan := by
  rw [expand] at expands
  split at expands
  · next names made =>
      cases expands
      exact ⟨made, rfl⟩
  · cases expands
  · cases expands

/-! ## Expansions -/

/-- What the registration of a name comes to.  A raw name has no expansion.  A name that
is not raw has one: an error that stops the compilation if its snake case is a reserved
word without a raw form, and else a module by its snake case, raw where that is a reserved
word, with an exported function named after the snake case itself. -/
theorem expansion_of_names (plan : Plan) (read : plan.name.IsRead) :
    (plan.name.raw = true →
      plan.expand = .error (.invalid (Naming.snakeCase plan.name.written))) ∧
      (plan.name.raw = false →
        plan.expand =
          .ok (if ["crate", "self", "super"].contains (Naming.snakeCase plan.name.text) then
            .compileError
              (NameError.reserved (Naming.snakeCase plan.name.text) plan.name.text).message
          else .registration
            ⟨{ name := plan.name
               module := ⟨Naming.snakeCase plan.name.text,
                Naming.isKeyword (Naming.snakeCase plan.name.text)⟩
               symbol := Naming.snakeCase plan.name.text ++ "_bridge_vtable" }, plan⟩)) := by
  constructor
  · intro raw
    rw [Plan.expand, Names.of, moduleName_of_raw raw]
    rfl
  · intro plain
    have word := (plan.name.isRead_iff.mp read).1
    have written : plan.name.written = plan.name.text := Lexeme.written_of_plain plain
    have symbol := composedWord_of_word (isPlainWord_symbolOf word)
    rw [Plan.expand, Names.of, moduleName_of_word plain word, written, symbol]
    cases ["crate", "self", "super"].contains (Naming.snakeCase plan.name.text) <;> rfl

/-- A type named by a reserved word in lower case and one named by a word whose snake case is
the reserved word: both would have the raw module, and only the second has it. -/
theorem expansion_of_names_type :
    (Word.plain "Type").IsRead ∧ (⟨"type", true⟩ : Word).IsRead ∧
      (∃ registered,
        Plan.expand ⟨.plain "Type", .path (Path.ofWord (.plain "Type")), false, none⟩ =
          .ok (.registration registered) ∧
        registered.names.module = ⟨"type", true⟩ ∧
        registered.names.symbol = "type_bridge_vtable") ∧
      Plan.expand ⟨⟨"type", true⟩, .path (Path.ofWord ⟨"type", true⟩), false, none⟩ =
        .error (.invalid "r#type") := by
  have plainRead : (Word.plain "Type").IsRead := by
    rw [Word.IsRead]
    decide
  have rawRead : (⟨"type", true⟩ : Word).IsRead := by
    rw [Word.IsRead]
    decide
  have plainExpansion := (expansion_of_names
    ⟨.plain "Type", .path (Path.ofWord (.plain "Type")), false, none⟩ plainRead).2 rfl
  have rawExpansion := (expansion_of_names
    ⟨⟨"type", true⟩, .path (Path.ofWord ⟨"type", true⟩), false, none⟩ rawRead).1 rfl
  exact ⟨plainRead, rawRead, ⟨_, plainExpansion, by decide⟩, rawExpansion⟩

/-- The name of a type that is a raw reserved word is no error of the program that
registers it, and still the registration has no expansion. -/
theorem raw_name_not_expanded :
    ∃ declaration, Declaration.parseList "r#type" = .ok [declaration] ∧
      Naming.snakeCase "type" ∉ ["crate", "self", "super"] ∧
      declaration.expand = .error (.invalid "r#type") := by
  refine ⟨⟨none, .path (Path.ofWord ⟨"type", true⟩)⟩, ?_, ?_, ?_⟩
  · rfl
  · decide
  · rfl

end Registration
end Capability

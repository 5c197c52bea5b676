import Capability.Code.Lexeme
import Mathlib.Data.List.TakeWhile

/-!
# Words

A word begins with a letter or an underscore and goes on as long as characters
follow that may continue it.  So a word is read back in front of any text that
does not go on with it, except that `r` must not stand in front of a hash mark,
which would make it the beginning of a raw word.
-/

namespace Capability

namespace Code

/-- A word as the reader of source code gives it: its text is read back as the word. -/
def Word.IsRead (word : Word) : Prop :=
  Lexeme.anyWord? word.written.toList = some (word, [])

namespace Lexeme

open Unicode (isIdentifierStart isIdentifierContinue)

/-- Whether a text begins with a character of words. -/
def beginsInWord (text : List Char) : Bool :=
  text.head?.any fun c => isIdentifierStart c || isIdentifierContinue c

/-- A text that does not begin within a word. -/
theorem beginsInWord_eq_false_iff (text : List Char) :
    beginsInWord text = false ↔ ∀ c rest, text = c :: rest →
      isIdentifierStart c = false ∧ isIdentifierContinue c = false := by
  cases text with
  | nil => simp [beginsInWord]
  | cons c rest =>
      rw [beginsInWord, List.head?_cons, Option.any_some, Bool.or_eq_false_iff]
      constructor
      · rintro parts _ _ same
        cases same
        exact parts
      · exact fun parts => parts c rest rfl

/-! ## Words that are not raw -/

theorem isPlainWord_cons (c : Char) (rest : List Char) :
    isPlainWord (c :: rest) = (isIdentifierStart c && rest.all isIdentifierContinue) := by
  rw [isPlainWord, plainWord?]
  cases isIdentifierStart c with
  | false => rfl
  | true =>
      rw [if_pos rfl, Option.any_some, wordRest, Bool.true_and, Bool.eq_iff_iff,
        List.isEmpty_iff, List.dropWhile_eq_nil_iff, List.all_eq_true]

theorem isPlainWord_iff (text : List Char) :
    isPlainWord text = true ↔ ∃ c rest, text = c :: rest ∧ isIdentifierStart c = true ∧
      rest.all isIdentifierContinue = true := by
  cases text with
  | nil => simp [isPlainWord, plainWord?]
  | cons c rest =>
      rw [isPlainWord_cons, Bool.and_eq_true]
      constructor
      · rintro ⟨start, continued⟩
        exact ⟨c, rest, rfl, start, continued⟩
      · rintro ⟨_, _, same, start, continued⟩
        cases same
        exact ⟨start, continued⟩

/-- A word goes on being a word with further characters that continue one. -/
theorem isPlainWord_append {text more : List Char} (word : isPlainWord text = true)
    (continued : more.all isIdentifierContinue = true) : isPlainWord (text ++ more) = true := by
  rcases (isPlainWord_iff text).mp word with ⟨c, rest, rfl, start, restContinued⟩
  rw [List.cons_append, isPlainWord_cons, start, List.all_append, restContinued, continued]
  rfl

/-- The characters behind a word are those that do not continue it. -/
theorem wordRest_append {word following : List Char}
    (continued : word.all isIdentifierContinue = true) (ends : beginsInWord following = false) :
    wordRest (word ++ following) = following := by
  rw [wordRest, List.dropWhile_append_of_pos (List.all_eq_true.mp continued)]
  cases following with
  | nil => rfl
  | cons c rest =>
      have other := ((beginsInWord_eq_false_iff _).mp ends c rest rfl).2
      exact List.dropWhile_cons_of_neg (by rw [other]; exact Bool.false_ne_true)

/-- A word is read off the text that it stands in front of. -/
theorem plainWord?_append {word following : List Char} (isWord : isPlainWord word = true)
    (ends : beginsInWord following = false) :
    plainWord? (word ++ following) = some following := by
  rcases (isPlainWord_iff word).mp isWord with ⟨c, rest, rfl, start, continued⟩
  rw [List.cons_append, plainWord?, if_pos start, wordRest_append continued ends]

/-- What is read of a text is a word in front of the rest. -/
theorem eq_append_of_plainWord? {text rest : List Char} (ahead : plainWord? text = some rest) :
    ∃ word, text = word ++ rest ∧ isPlainWord word = true := by
  cases text with
  | nil => cases ahead
  | cons c text =>
      rw [plainWord?] at ahead
      split at ahead
      · next start =>
          cases ahead
          refine ⟨c :: text.takeWhile isIdentifierContinue, ?_, ?_⟩
          · rw [wordRest, List.cons_append, List.takeWhile_append_dropWhile]
          · rw [isPlainWord_cons, start, Bool.true_and, List.all_takeWhile]
      · cases ahead

/-- A reader that leaves a rest passed over what stands in front of it. -/
theorem passed_append (front rest : List Char) :
    passed (front ++ rest) rest = String.ofList front := by
  rw [passed, List.length_append, Nat.add_sub_cancel, List.take_left]

/-! ## Raw words and others -/

theorem hash_no_word : isIdentifierContinue '#' = false := by
  decide

/-- A text that is one word does not begin like a raw word. -/
theorem ne_raw_of_isPlainWord {text : List Char} (isWord : isPlainWord text = true)
    (inner : List Char) : text ≠ 'r' :: '#' :: inner := by
  rintro rfl
  rw [isPlainWord_cons, List.all_cons, hash_no_word, Bool.false_and, Bool.and_false] at isWord
  cases isWord

theorem anyWord?_of_raw (inner : List Char) :
    anyWord? ('r' :: '#' :: inner) = (plainWord? inner).bind fun rest =>
      if notRaw.contains (passed inner rest) then none
      else some (⟨passed inner rest, true⟩, rest) := by
  rw [anyWord?]
  rfl

theorem anyWord?_of_not_raw {text : List Char} (other : ∀ inner, text ≠ 'r' :: '#' :: inner) :
    anyWord? text = (plainWord? text).map fun rest => (⟨passed text rest, false⟩, rest) := by
  unfold anyWord?
  split
  · next inner => exact absurd rfl (other inner)
  · cases plainWord? text <;> rfl

theorem written_of_raw {word : Word} (raw : word.raw = true) :
    word.written.toList = 'r' :: '#' :: word.text.toList := by
  rw [Word.written, if_pos raw, String.toList_append]
  rfl

theorem written_of_plain {word : Word} (plain : word.raw = false) : word.written = word.text := by
  rw [Word.written, plain, if_neg Bool.false_ne_true]

/-- A word is read back in front of any text that does not go on with it and does not make it
the beginning of a raw word. -/
theorem anyWord?_append {word : Word} {following : List Char}
    (isWord : isPlainWord word.text.toList = true) (rawForm : word.raw = true → word.text ∉ notRaw)
    (ends : beginsInWord following = false)
    (apart : word.written = "r" → following.head? ≠ some '#') :
    anyWord? (word.written.toList ++ following) = some (word, following) := by
  cases raw : word.raw with
  | true =>
      rw [written_of_raw raw, List.cons_append, List.cons_append, anyWord?_of_raw,
        plainWord?_append isWord ends, Option.bind_some, passed_append, String.ofList_toList,
        List.contains_eq_mem, decide_eq_false (rawForm raw), if_neg Bool.false_ne_true, ← raw]
  | false =>
      rw [written_of_plain raw] at apart ⊢
      have other : ∀ inner, word.text.toList ++ following ≠ 'r' :: '#' :: inner := by
        intro inner same
        rcases (isPlainWord_iff _).mp isWord with ⟨c, rest, text, _, continued⟩
        rw [text, List.cons_append] at same
        cases rest with
        | nil =>
            have isR : word.text = "r" := by
              rw [← String.ofList_toList (s := word.text), text, (List.cons.inj same).1]
            apply apart isR
            rw [List.nil_append] at same
            rw [(List.cons.inj same).2, List.head?_cons]
        | cons next rest =>
            have isHash : next = '#' := (List.cons.inj (List.cons.inj same).2).1
            rw [List.all_cons, isHash, hash_no_word] at continued
            cases continued
      rw [anyWord?_of_not_raw other, plainWord?_append isWord ends, Option.map_some,
        passed_append, String.ofList_toList, ← raw]

/-- The text of a word that is read is one word, which has a raw form if the word is raw. -/
theorem isPlainWord_of_anyWord? {text rest : List Char} {word : Word}
    (ahead : anyWord? text = some (word, rest)) :
    isPlainWord word.text.toList = true ∧ (word.raw = true → word.text ∉ notRaw) := by
  by_cases begins : ∃ inner, text = 'r' :: '#' :: inner
  · rcases begins with ⟨inner, rfl⟩
    rw [anyWord?_of_raw] at ahead
    rcases Option.bind_eq_some_iff.mp ahead with ⟨behind, plain, found⟩
    rcases eq_append_of_plainWord? plain with ⟨front, rfl, isWord⟩
    rw [passed_append, List.contains_eq_mem] at found
    split at found
    · cases found
    · next free =>
        cases found
        rw [decide_eq_true_eq] at free
        exact ⟨by rwa [String.toList_ofList], fun _ => free⟩
  · rw [anyWord?_of_not_raw (not_exists.mp begins)] at ahead
    rcases Option.map_eq_some_iff.mp ahead with ⟨behind, plain, found⟩
    rcases eq_append_of_plainWord? plain with ⟨front, rfl, isWord⟩
    rw [passed_append] at found
    cases found
    exact ⟨by rwa [String.toList_ofList], fun raw => Bool.noConfusion raw⟩

end Lexeme

namespace Word

theorem isRead_iff (word : Word) :
    word.IsRead ↔ Lexeme.isPlainWord word.text.toList = true ∧
      (word.raw = true → word.text ∉ Lexeme.notRaw) := by
  constructor
  · exact Lexeme.isPlainWord_of_anyWord?
  · rintro ⟨isWord, rawForm⟩
    have apart : word.written = "r" → ([] : List Char).head? ≠ some '#' := by
      rintro _ ⟨⟩
    have read := Lexeme.anyWord?_append isWord rawForm rfl apart
    rwa [List.append_nil] at read

/-- Every word that is read of a text is one that is read back. -/
theorem isRead_of_anyWord? {text rest : List Char} {word : Word}
    (ahead : Lexeme.anyWord? text = some (word, rest)) : word.IsRead :=
  word.isRead_iff.mpr (Lexeme.isPlainWord_of_anyWord? ahead)

end Word
end Code
end Capability

import Capability.Proofs.Registration.Names

/-!
# Snake case undoes camel case

Words of small letters and digits that are put together in camel case can be told apart again:
each begins with a capital, and the character in front of it is a small letter or a digit, which
is all that snake case looks at.  Only a word of a single letter leaves a capital there.  Such a
word may stand at the end, where nothing follows it, and is not admitted elsewhere: `AB2` becomes
`ab2`, although it may have been put together from `a` and `b2`.

Since no word has an underscore in it, the words are read off their snake case.  What is made of
a name adds something to its snake case, in front or behind, or writes it in capitals; either can
be undone.  So names put together from different words have different methods, fields,
constants and symbols.
-/

namespace Capability
namespace Naming

/-! ## Words in camel case -/

/-- The characters of words behind the first one. -/
def isSmall (c : Char) : Bool := c.isLower || c.isDigit

/-- Whether a text is a word: a small letter, and behind it small letters and digits. -/
def isWord : List Char → Bool
  | [] => false
  | c :: rest => c.isLower && rest.all isSmall

/-- A word with its first letter as a capital. -/
def capitalized : List Char → List Char
  | [] => []
  | c :: rest => c.toUpper :: rest

/-- Words put together, each with its first letter as a capital. -/
def camelCase (words : List String) : String :=
  String.ofList ((words.map String.toList).flatMap capitalized)

/-- Words that a name can be put together from: at least one, and none of a single letter but at
the end. -/
structure Compound (words : List String) : Prop where
  nonempty : words ≠ []
  isWord : ∀ word ∈ words, isWord word.toList = true
  long : ∀ word ∈ words.dropLast, 2 ≤ word.length

theorem isWord_eq_true_iff (word : List Char) :
    isWord word = true ↔ ∃ c rest, word = c :: rest ∧ c.isLower = true ∧ rest.all isSmall = true := by
  cases word with
  | nil => simp [isWord]
  | cons c rest =>
      rw [isWord, Bool.and_eq_true]
      constructor
      · rintro ⟨isLower, small⟩
        exact ⟨c, rest, rfl, isLower, small⟩
      · rintro ⟨_, _, same, isLower, small⟩
        cases same
        exact ⟨isLower, small⟩

/-! ## The characters of words -/

theorem ascii_of_isSmall {c : Char} (small : isSmall c = true) : c.toNat < 0x80 := by
  apply Unicode.ascii_of_isAlphanum
  rcases Bool.or_eq_true_iff.mp small with lower | digit
  · change ((c.isUpper || c.isLower) || c.isDigit) = true
    rw [lower, Bool.or_true, Bool.true_or]
  · rw [Char.isAlphanum, digit, Bool.or_true]

/-- Snake case leaves a character of a word as it is, and a capital behind it opens a word. -/
theorem opensWord_of_isSmall {c : Char} (small : isSmall c = true) :
    Unicode.isUppercase c = false ∧ c ≠ '_' ∧ ∀ after, opensWord (some c) after = true := by
  have below := ascii_of_isSmall small
  have ascii := Unicode.ascii_forall
    (P := fun c => isSmall c = true → c.isUpper = false ∧ c ≠ '_') (by decide) below small
  refine ⟨?_, ascii.2, fun after => ?_⟩
  · rw [Unicode.isUppercase, Unicode.member_of_ascii below, ascii.1]
  · have behind : (Unicode.isLowercase c || c.isDigit) = true := by
      rw [Unicode.isLowercase, Unicode.member_of_ascii below]
      exact small
    rw [opensWord, if_neg ascii.2, if_pos behind]

/-- The capital of a small letter is lowered to this letter. -/
theorem lower_toUpper {c : Char} (isLower : c.isLower = true) :
    Unicode.isUppercase c.toUpper = true ∧ Unicode.lower c.toUpper = [c] := by
  have small : isSmall c = true := by
    rw [isSmall, isLower, Bool.true_or]
  have ascii := Unicode.ascii_forall
    (P := fun c => c.isLower = true →
      c.toUpper.isUpper = true ∧ c.toUpper.toNat < 0x80 ∧ c.toUpper.toLower = c)
    (by decide) (ascii_of_isSmall small) isLower
  exact ⟨Unicode.isUppercase_of_isUpper ascii.1,
    by rw [Unicode.lower_of_ascii ascii.2.1, ascii.2.2]⟩

/-! ## Snake case of words -/

/-- Small letters and digits stay, and the last of them is in front of what follows. -/
theorem snakeFrom_append_of_small {small : List Char} (each : small.all isSmall = true)
    (before : Option Char) (following : List Char) :
    snakeFrom before (small ++ following) =
      small ++ snakeFrom (small.getLast?.or before) following := by
  induction small generalizing before with
  | nil => rfl
  | cons c rest inductionHypothesis =>
      rw [List.all_cons, Bool.and_eq_true] at each
      have same := (opensWord_of_isSmall each.1).1
      rw [List.cons_append, snakeFrom, same, if_neg Bool.false_ne_true,
        inductionHypothesis each.2, List.getLast?_cons, Option.or_some, Option.some_or]
      rfl

/-- A word with a capital in front has an underscore in front of it if it opens one. -/
theorem snakeFrom_capitalized {c : Char} {rest : List Char} (isLower : c.isLower = true)
    (small : rest.all isSmall = true) {before : Option Char} {opens : Bool}
    (decided : ∀ after, opensWord before after = opens) (following : List Char) :
    snakeFrom before (capitalized (c :: rest) ++ following) =
      (if opens then ['_'] else []) ++ (c :: rest) ++
        snakeFrom (rest.getLast?.or (some c.toUpper)) following := by
  rcases lower_toUpper isLower with ⟨capital, lowered⟩
  rw [capitalized, List.cons_append, snakeFrom, capital, if_pos rfl, decided, lowered,
    snakeFrom_append_of_small small]
  cases opens <;> rfl

/-- Words in camel case are set apart again, the first one by what stands before it. -/
theorem snakeFrom_flatMap_capitalized {word : List Char} {others : List (List Char)}
    (each : ∀ part ∈ word :: others, isWord part = true)
    (long : ∀ part ∈ (word :: others).dropLast, 2 ≤ part.length) {before : Option Char}
    {opens : Bool} (decided : ∀ after, opensWord before after = opens) :
    snakeFrom before ((word :: others).flatMap capitalized) =
      (if opens then ['_'] else []) ++ ['_'].intercalate (word :: others) := by
  induction others generalizing word before opens with
  | nil =>
      rcases (isWord_eq_true_iff word).mp (each word List.mem_cons_self) with
        ⟨c, rest, rfl, isLower, small⟩
      rw [List.flatMap_cons, List.flatMap_nil, snakeFrom_capitalized isLower small decided,
        snakeFrom, List.append_nil, List.intercalate_singleton]
  | cons second others inductionHypothesis =>
      rcases List.forall_mem_cons.mp each with ⟨first, further⟩
      rw [List.dropLast_cons_cons] at long
      rcases List.forall_mem_cons.mp long with ⟨twoOrMore, furtherLong⟩
      rcases (isWord_eq_true_iff word).mp first with ⟨c, rest, rfl, isLower, small⟩
      -- Behind a word of two characters or more stands a small one, so that the next is set apart.
      have nonempty : rest ≠ [] := by
        rintro rfl
        exact Nat.not_succ_le_self 1 twoOrMore
      have last := List.getLast?_eq_some_getLast nonempty
      have isSmallLast := List.all_eq_true.mp small _ (List.getLast_mem nonempty)
      have next := inductionHypothesis further furtherLong (opensWord_of_isSmall isSmallLast).2.2
      rw [List.flatMap_cons, snakeFrom_capitalized isLower small decided, last, Option.some_or, next,
        List.intercalate_cons_cons, if_pos rfl, List.append_assoc, List.append_assoc]

namespace Compound

variable {words others : List String}

theorem toLists (compound : Compound words) :
    ∃ first more, words.map String.toList = first :: more ∧
      (∀ part ∈ first :: more, Naming.isWord part = true) ∧
      ∀ part ∈ (first :: more).dropLast, 2 ≤ part.length := by
  rcases List.exists_cons_of_ne_nil compound.nonempty with ⟨first, more, rfl⟩
  refine ⟨first.toList, more.map String.toList, rfl, ?_, ?_⟩
  · rw [← List.map_cons]
    exact List.forall_mem_map.mpr compound.isWord
  · rw [← List.map_cons, ← List.map_dropLast]
    exact List.forall_mem_map.mpr fun word member => compound.long word member

/-- Snake case of words in camel case has these words with underscores between them. -/
theorem snakeCase_camelCase (compound : Compound words) :
    snakeCase (camelCase words) = "_".intercalate words := by
  rcases compound.toLists with ⟨first, more, same, each, long⟩
  have spelled := snakeFrom_flatMap_capitalized each long (fun _ => rfl : ∀ after,
    opensWord none after = false)
  rw [← String.toList_inj, String.toList_intercalate, snakeCase, camelCase, String.toList_ofList,
    String.toList_ofList, same, spelled]
  rfl

/-- Words without underscores are read off between them. -/
theorem intercalate_injective (compound : Compound words) (other : Compound others)
    (same : "_".intercalate others = "_".intercalate words) : others = words := by
  have apart : ∀ {parts : List String}, Compound parts →
      (['_'].intercalate (parts.map String.toList)).splitOn '_' = parts.map String.toList := by
    intro parts compound
    apply List.splitOn_intercalate
    · refine List.forall_mem_map.mpr fun word member underscore => ?_
      rcases (isWord_eq_true_iff _).mp (compound.isWord word member) with
        ⟨c, rest, text, isLower, small⟩
      have each : ∀ c ∈ word.toList, isSmall c = true := by
        rw [text]
        refine List.forall_mem_cons.mpr ⟨?_, List.all_eq_true.mp small⟩
        rw [isSmall, isLower, Bool.true_or]
      exact (opensWord_of_isSmall (each '_' underscore)).2.1 rfl
    · exact fun empty => compound.nonempty (List.map_eq_nil_iff.mp empty)
  rw [← String.toList_inj, String.toList_intercalate, String.toList_intercalate] at same
  have lists : others.map String.toList = words.map String.toList := by
    rw [← apart other, ← apart compound]
    exact congrArg (List.splitOn '_') same
  exact (List.map_inj_right fun _ _ => String.toList_inj.mp).mp lists

end Compound

/-! ## What is made of a name -/

theorem screamingSnakeCase_eq (name : String) :
    screamingSnakeCase name = (snakeCase name).toUpper := by
  rw [← String.toList_inj, screamingSnakeCase, String.toUpper, String.toList_map, snakeCase,
    String.toList_ofList, String.toList_ofList]

/-- Characters that are no capitals of ASCII are got back from their capitals. -/
theorem toLower_toUpper {c : Char} (small : c.isUpper = false) : c.toUpper.toLower = c := by
  by_cases below : c.toNat < 0x80
  · exact Unicode.ascii_forall (P := fun c => c.isUpper = false → c.toUpper.toLower = c)
      (by decide) below small
  · have beyond : ¬c.val ≤ 'z'.val := by
      intro within
      have bound : c.toNat ≤ 0x7A := UInt32.le_iff_toNat_le.mp within
      omega
    have upper : c.toUpper = c := dif_neg fun within => beyond within.2
    rw [upper]
    exact dif_neg fun within => beyond (UInt32.le_trans within.2 (by decide))

/-- Snake case in capitals tells apart what snake case does, which has no capitals of its own. -/
theorem screamingSnakeCase_eq_iff {first second : String} :
    screamingSnakeCase first = screamingSnakeCase second ↔ snakeCase first = snakeCase second := by
  have back : ∀ name, (screamingSnakeCase name).toList.map Char.toLower =
      (snakeCase name).toList := by
    intro name
    have kept : ∀ c ∈ (snakeCase name).toList, (Char.toLower ∘ Char.toUpper) c = id c := by
      intro c member
      apply toLower_toUpper
      rw [Bool.eq_false_iff]
      exact fun isUpper => capital_not_mem_snakeCase isUpper name member
    rw [screamingSnakeCase_eq, String.toUpper, String.toList_map, List.map_map,
      List.map_congr_left kept, List.map_id]
  constructor
  · intro same
    rw [← String.toList_inj, ← back, same, back]
  · intro same
    rw [screamingSnakeCase_eq, screamingSnakeCase_eq, same]

theorem obligationMethod_eq_iff {first second : String} :
    obligationMethod first = obligationMethod second ↔ snakeCase first = snakeCase second := by
  rw [obligationMethod, obligationMethod, ← String.toList_inj, ← String.toList_inj,
    String.toList_append, String.toList_append, List.append_right_inj]

theorem toList_queryMethod (name : String) :
    (queryMethod name).toList =
      if "has_".toList.isPrefixOf (snakeCase name).toList then (snakeCase name).toList
      else "is_".toList ++ (snakeCase name).toList := by
  have snake : (snakeCase name).toList = snakeFrom none name.toList := String.toList_ofList
  rw [snake]
  simp only [queryMethod]
  split <;> exact String.toList_ofList

/-- A method that begins with `is_` does not begin with `has_`, so it is never the snake case of
a name that keeps its own beginning. -/
theorem queryMethod_eq_iff {first second : String} :
    queryMethod first = queryMethod second ↔ snakeCase first = snakeCase second := by
  have apart : ∀ {own other : List Char}, "has_".toList.isPrefixOf own = true →
      own ≠ "is_".toList ++ other := by
    rintro _ other begins rfl
    cases begins
  constructor
  · intro same
    rw [← String.toList_inj, toList_queryMethod, toList_queryMethod] at same
    rw [← String.toList_inj]
    split at same
    · next firstHas =>
        split at same
        · exact same
        · exact absurd same (apart firstHas)
    · split at same
      · next secondHas => exact absurd same.symm (apart secondHas)
      · exact List.append_cancel_left same
  · intro same
    rw [← String.toList_inj, toList_queryMethod, toList_queryMethod, same]

/-! ## Names from different words -/

open Code (Word)
open Detection (Names)

/-- What is made of two names is different: the methods that ask about them, the field and the
constant of their detection, and the symbol that they are exported by. -/
structure NamedApart (first second : String) : Prop where
  query : queryMethod first ≠ queryMethod second
  obligation : obligationMethod first ≠ obligationMethod second
  field : (Names.ofTrait (.plain first)).field ≠ (Names.ofTrait (.plain second)).field
  constant : (Names.ofTrait (.plain first)).constant ≠ (Names.ofTrait (.plain second)).constant
  symbol : symbolOf first ≠ symbolOf second

theorem namedApart_of_snakeCase_ne {first second : String}
    (apart : snakeCase first ≠ snakeCase second) : NamedApart first second where
  query same := apart (queryMethod_eq_iff.mp same)
  obligation same := apart (obligationMethod_eq_iff.mp same)
  field same := apart (congrArg Word.text same)
  constant same := by
    apply apart
    rw [← screamingSnakeCase_eq_iff, ← String.toList_inj]
    have texts := congrArg (String.toList ∘ Word.text) same
    have spelled : ∀ name, String.toList (Names.ofTrait (.plain name)).constant.text =
        "IS_".toList ++ (screamingSnakeCase name).toList := fun _ => String.toList_append
    rw [Function.comp_apply, Function.comp_apply, spelled, spelled] at texts
    exact List.append_cancel_left texts
  symbol same := apart (symbolOf_eq_iff.mp same)

/-- Snake case undoes camel case: the words come out again with underscores between them, in
small letters or in capitals.  So from different words never the same name is made. -/
theorem snakeCase_undoes_camelCase (words : List String) (compound : Compound words) :
    snakeCase (camelCase words) = "_".intercalate words ∧
      screamingSnakeCase (camelCase words) = ("_".intercalate words).toUpper ∧
      ∀ others, Compound others → others ≠ words →
        NamedApart (camelCase others) (camelCase words) := by
  have spelled := compound.snakeCase_camelCase
  refine ⟨spelled, ?_, fun others other different => ?_⟩
  · rw [screamingSnakeCase_eq, spelled]
  · apply namedApart_of_snakeCase_ne
    rw [spelled, other.snakeCase_camelCase]
    exact fun same => different (compound.intercalate_injective other same)

/-- A word with a digit at its end and a last word of a single letter; the same characters cut
into other words make another name. -/
theorem snakeCase_undoes_camelCase_pair :
    Compound ["pair", "i32", "x"] ∧ Compound ["pairi32", "x"] ∧
      snakeCase "PairI32X" = "pair_i32_x" ∧ screamingSnakeCase "PairI32X" = "PAIR_I32_X" ∧
      symbolOf "Pairi32X" ≠ symbolOf "PairI32X" := by
  have first : Compound ["pair", "i32", "x"] := by
    constructor <;> decide
  have second : Compound ["pairi32", "x"] := by
    constructor <;> decide
  rcases snakeCase_undoes_camelCase _ first with ⟨snake, screaming, apart⟩
  have capitals : ("_".intercalate ["pair", "i32", "x"]).toUpper = "PAIR_I32_X" := by
    rw [← String.toList_inj, String.toUpper, String.toList_map]
    decide
  exact ⟨first, second, snake, screaming.trans capitals, (apart _ second (by decide)).symbol⟩

end Naming
end Capability

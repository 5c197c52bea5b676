import Capability.Proofs.Json.Record

/-!
# Well-formed texts

The grammar of JSON texts says nothing about what a text stands for.  A number has
digits as many as one likes, and a code unit between quotation marks need not have the
other half of a character next to it.  White space may stand around every bracket, comma
and colon.  Of a list the grammar keeps the texts of the items, of an object the bodies
of the names with the texts of the values, both in the order in which they stand.
-/

namespace Capability
namespace Json

open Reader

/-! ## Scalars -/

/-- One digit or more. -/
inductive IsDigits : List Char → Prop where
  | intro {c : Char} {more : List Char} :
      (∀ digit ∈ c :: more, digit.isDigit = true) → IsDigits (c :: more)

/-- The digits of a whole number, which do not begin with zero unless it is zero. -/
inductive IsWhole : List Char → Prop where
  | zero : IsWhole ['0']
  | digits {c : Char} {more : List Char} :
      c ≠ '0' → (∀ digit ∈ c :: more, digit.isDigit = true) → IsWhole (c :: more)

/-- A point with digits behind it, or nothing. -/
inductive IsFraction : List Char → Prop where
  | absent : IsFraction []
  | point {digits : List Char} : IsDigits digits → IsFraction ('.' :: digits)

/-- A mark, perhaps a sign, and digits; or nothing. -/
inductive IsExponent : List Char → Prop where
  | absent : IsExponent []
  | mark {letter : Char} {sign digits : List Char} :
      letter = 'e' ∨ letter = 'E' → sign = [] ∨ sign = ['+'] ∨ sign = ['-'] → IsDigits digits →
      IsExponent (letter :: (sign ++ digits))

/-- A number without its sign. -/
inductive IsUnsigned : List Char → Prop where
  | intro {whole fraction exponent : List Char} :
      IsWhole whole → IsFraction fraction → IsExponent exponent →
      IsUnsigned (whole ++ (fraction ++ exponent))

inductive IsNumber : List Char → Prop where
  | positive {text : List Char} : IsUnsigned text → IsNumber text
  | negative {text : List Char} : IsUnsigned text → IsNumber ('-' :: text)

/-- What stands between quotation marks: characters, letters behind a backslash, and code units. -/
inductive IsBody : List Char → Prop where
  | nil : IsBody []
  | plain {c : Char} {body : List Char} :
      0x20 ≤ c.toNat → c ≠ '"' → c ≠ '\\' → IsBody body → IsBody (c :: body)
  | letter {c letter : Char} {body : List Char} :
      shortEscape? letter = some c → IsBody body → IsBody ('\\' :: letter :: body)
  | unit {number : Nat} {digits body : List Char} :
      digits.length = 4 → hexNumber? 0 digits = some number → IsBody body →
      IsBody ('\\' :: 'u' :: (digits ++ body))

/-- A body between quotation marks. -/
def inQuotes (body : List Char) : List Char := '"' :: (body ++ ['"'])

/-! ## Lists and objects -/

/-- What a text can be as a whole, or between brackets. -/
inductive Phrase where
  | value
  /-- Items, from the first one on or from behind an item, with the text of each. -/
  | items (isFirst : Bool) (texts : List (List Char))
  /-- Members, with the body of the name and the text of the value of each. -/
  | members (isFirst : Bool) (members : List (List Char × List Char))

/-- A text is well formed. -/
inductive Derives : Phrase → List Char → Prop where
  | null : Derives .value "null".toList
  | boolean (truth : Bool) : Derives .value (if truth then "true".toList else "false".toList)
  | number {text : List Char} : IsNumber text → Derives .value text
  | string {body : List Char} : IsBody body → Derives .value (inQuotes body)
  | list {text : List Char} {texts : List (List Char)} :
      Derives (.items true texts) text → Derives .value ('[' :: (text ++ [']']))
  | object {text : List Char} {members : List (List Char × List Char)} :
      Derives (.members true members) text → Derives .value ('\x7b' :: (text ++ ['\x7d']))
  | noItem {isFirst : Bool} {blank : List Char} :
      AllBlank blank → Derives (.items isFirst []) blank
  | item {isFirst : Bool} {gap text more : List Char} {texts : List (List Char)} :
      Separated isFirst gap → Derives .value text → Derives (.items false texts) more →
      Derives (.items isFirst (text :: texts)) (gap ++ (text ++ more))
  | noMember {isFirst : Bool} {blank : List Char} :
      AllBlank blank → Derives (.members isFirst []) blank
  | member {isFirst : Bool} {gap body before behind text more : List Char}
      {members : List (List Char × List Char)} :
      Separated isFirst gap → IsBody body → AllBlank before → AllBlank behind →
      Derives .value text → Derives (.members false members) more →
      Derives (.members isFirst ((body, text) :: members))
        (gap ++ (inQuotes body ++ (before ++ ':' :: (behind ++ (text ++ more)))))

/-! ## What texts begin with -/

/-- The text does not begin with a digit. -/
def NoDigit (rest : List Char) : Prop := ∀ c, rest.head? = some c → c.isDigit = false

theorem Reader.Delimited.noDigit {rest : List Char} (delimited : Delimited rest) : NoDigit rest :=
  fun c found => (delimited c found).1

/-- No digit comes behind the digits of a fraction. -/
theorem IsExponent.noDigit {exponent rest : List Char} (isExponent : IsExponent exponent)
    (delimited : Delimited rest) : NoDigit (exponent ++ rest) := by
  cases isExponent with
  | absent => exact delimited.noDigit
  | mark isMark _ _ =>
      intro c found
      cases found
      rcases isMark with rfl | rfl <;> decide

/-- No digit comes behind the digits of a whole number. -/
theorem IsFraction.noDigit {fraction exponent rest : List Char} (isFraction : IsFraction fraction)
    (isExponent : IsExponent exponent) (delimited : Delimited rest) :
    NoDigit (fraction ++ exponent ++ rest) := by
  cases isFraction with
  | absent => exact isExponent.noDigit delimited
  | point _ =>
      intro c found
      cases found
      decide

/-- A text that spells another is well formed between quotation marks. -/
theorem Reader.Spelled.isBody {text body : List Char} (spelled : Spelled text body) :
    IsBody body := by
  induction spelled with
  | nil => exact .nil
  | plain printable noQuote noEscape _ inner => exact .plain printable noQuote noEscape inner
  | letter stands _ inner => exact .letter stands inner
  | unit four hex _ _ inner => exact .unit four hex inner
  | pair firstFour firstHex _ _ secondFour secondHex _ _ _ inner =>
      exact .unit firstFour firstHex (.unit secondFour secondHex inner)

/-- A number begins with a digit or a sign. -/
theorem IsUnsigned.eq_cons {text : List Char} (isUnsigned : IsUnsigned text) :
    ∃ c more, text = c :: more ∧ c.isDigit = true := by
  cases isUnsigned with
  | intro isWhole _ _ =>
      cases isWhole with
      | zero => exact ⟨'0', _, rfl, by decide⟩
      | digits _ areDigits => exact ⟨_, _, rfl, areDigits _ List.mem_cons_self⟩

theorem IsNumber.eq_cons {text : List Char} (isNumber : IsNumber text) :
    ∃ c more, text = c :: more ∧ (c = '-' ∨ c.isDigit = true) := by
  cases isNumber with
  | positive isUnsigned =>
      rcases isUnsigned.eq_cons with ⟨c, more, same, isDigit⟩
      exact ⟨c, more, same, .inr isDigit⟩
  | negative _ => exact ⟨'-', _, rfl, .inl rfl⟩

theorem ne_of_isDigit {c : Char} (isDigit : c.isDigit = true) :
    c ≠ 'n' ∧ c ≠ 't' ∧ c ≠ 'f' ∧ c ≠ '-' ∧ c ≠ '"' ∧ c ≠ '[' ∧ c ≠ '\x7b' := by
  refine ⟨?_, ?_, ?_, ?_, ?_, ?_, ?_⟩ <;>
    · rintro rfl
      exact absurd isDigit (by decide)

/-- No number begins like a value of another kind. -/
theorem IsNumber.begins {text : List Char} (isNumber : IsNumber text) :
    ∃ c more, text = c :: more ∧ (c = '-' ∨ c.isDigit = true) ∧
      c ≠ 'n' ∧ c ≠ 't' ∧ c ≠ 'f' ∧ c ≠ '"' ∧ c ≠ '[' ∧ c ≠ '\x7b' := by
  rcases isNumber.eq_cons with ⟨c, more, same, rfl | isDigit⟩
  · exact ⟨'-', more, same, by decide⟩
  · rcases ne_of_isDigit isDigit with ⟨noNull, noTrue, noFalse, _, noQuote, noList, noObject⟩
    exact ⟨c, more, same, .inr isDigit, noNull, noTrue, noFalse, noQuote, noList, noObject⟩

/-- A value begins with neither white space nor the end of a list. -/
theorem Derives.opens {text : List Char} (derives : Derives .value text) : Opens text := by
  cases derives with
  | null => exact ⟨'n', _, rfl, by decide, by decide⟩
  | boolean truth =>
      cases truth with
      | false => exact ⟨'f', _, rfl, by decide, by decide⟩
      | true => exact ⟨'t', _, rfl, by decide, by decide⟩
  | number isNumber =>
      rcases isNumber.eq_cons with ⟨c, more, same, rfl | isDigit⟩
      · exact ⟨'-', more, same, by decide, by decide⟩
      · refine ⟨c, more, same, isBlank_of_isDigit isDigit, ?_⟩
        rintro rfl
        exact absurd isDigit (by decide)
  | string _ => exact opens_quotation _
  | list _ => exact ⟨'[', _, rfl, by decide, by decide⟩
  | object _ => exact ⟨'\x7b', _, rfl, by decide, by decide⟩

/-- What follows an item continues no number. -/
theorem Derives.items_delimited {text : List Char} {texts : List (List Char)}
    (derives : Derives (.items false texts) text) (rest : List Char) :
    Delimited (text ++ ']' :: rest) := by
  cases derives with
  | noItem isBlank =>
      apply Delimited.append isBlank
      intro c found
      cases found
      decide
  | item separated _ _ =>
      rw [List.append_assoc]
      exact separated.delimited _

/-- What follows a member continues no number. -/
theorem Derives.members_delimited {text : List Char} {members : List (List Char × List Char)}
    (derives : Derives (.members false members) text) (rest : List Char) :
    Delimited (text ++ '\x7d' :: rest) := by
  cases derives with
  | noMember isBlank =>
      apply Delimited.append isBlank
      intro c found
      cases found
      decide
  | member separated _ _ _ _ _ =>
      rw [List.append_assoc]
      exact separated.delimited _

/-! ## Texts without white space -/

theorem derives_digits (number : Nat) : Derives .value (digits number) := by
  have written : digits number = Nat.toDigits 10 number := rfl
  have areDigits : ∀ c ∈ Nat.toDigits 10 number, c.isDigit = true := fun c member =>
    Nat.isDigit_of_mem_toDigits (by decide) (by decide) member
  have isWhole : IsWhole (Nat.toDigits 10 number) := by
    by_cases zero : number = 0
    · subst zero
      exact .zero
    · have noZero := head?_toDigits_ne_zero number (Nat.pos_of_ne_zero zero)
      cases text : Nat.toDigits 10 number with
      | nil => exact absurd text Nat.toDigits_ne_nil
      | cons c more =>
          rw [text] at areDigits noZero
          exact .digits (fun same => noZero (congrArg some same)) areDigits
  have isUnsigned := IsUnsigned.intro isWhole .absent .absent
  rw [List.append_nil, List.append_nil] at isUnsigned
  rw [written]
  exact .number (.positive isUnsigned)

/-- The items of a list with a comma in front of each but the first. -/
def joinItems : (isFirst : Bool) → List (List Char) → List Char
  | _, [] => []
  | isFirst, text :: texts => (if isFirst then [] else [',']) ++ (text ++ joinItems false texts)

/-- The members of an object with a comma in front of each but the first. -/
def joinMembers : (isFirst : Bool) → List (List Char × List Char) → List Char
  | _, [] => []
  | isFirst, (body, text) :: members => (if isFirst then [] else [',']) ++
      (inQuotes body ++ ([] ++ ':' :: ([] ++ (text ++ joinMembers false members))))

/-- The bodies of names as they are written, with what the names are bound to. -/
def writtenNames (named : List (String × List Char)) : List (List Char × List Char) :=
  named.map fun member => (member.1.toList.flatMap escape, member.2)

/-- A list in brackets. -/
def joinedList (texts : List (List Char)) : List Char := '[' :: (joinItems true texts ++ [']'])

/-- An object in brackets. -/
def joinedObject (named : List (String × List Char)) : List Char :=
  '\x7b' :: (joinMembers true (writtenNames named) ++ ['\x7d'])

theorem separated_joined (isFirst : Bool) :
    Separated isFirst (if isFirst then [] else [',']) := by
  cases isFirst with
  | true => exact .first allBlank_nil
  | false => exact .next allBlank_nil allBlank_nil

theorem derives_joinItems {texts : List (List Char)} (derive : ∀ text ∈ texts, Derives .value text)
    (isFirst : Bool) : Derives (.items isFirst texts) (joinItems isFirst texts) := by
  induction texts generalizing isFirst with
  | nil => exact .noItem allBlank_nil
  | cons text texts inductionHypothesis =>
      rcases List.forall_mem_cons.mp derive with ⟨first, others⟩
      exact .item (separated_joined isFirst) first (inductionHypothesis others false)

theorem derives_joinMembers {named : List (String × List Char)}
    (derive : ∀ member ∈ named, Derives .value member.2) (isFirst : Bool) :
    Derives (.members isFirst (writtenNames named)) (joinMembers isFirst (writtenNames named)) := by
  induction named generalizing isFirst with
  | nil => exact .noMember allBlank_nil
  | cons member named inductionHypothesis =>
      rcases List.forall_mem_cons.mp derive with ⟨first, others⟩
      exact .member (separated_joined isFirst) (spelled_flatMap_escape member.1.toList).isBody
        allBlank_nil allBlank_nil first (inductionHypothesis others false)

theorem derives_joinedList {texts : List (List Char)} (derive : ∀ text ∈ texts, Derives .value text) :
    Derives .value (joinedList texts) :=
  .list (derives_joinItems derive true)

theorem derives_joinedObject {named : List (String × List Char)}
    (derive : ∀ member ∈ named, Derives .value member.2) : Derives .value (joinedObject named) :=
  .object (derives_joinMembers derive true)

end Json
end Capability

import Capability.Proofs.Code.Word
import Capability.Unicode.Run

/-!
# Numbers in front of other text

The readers of numbers are not told where a number ends.  Behind its suffix a number
must not run into a word.  Without a suffix it can go on with a point that makes a
fraction of it, and behind the mark of an exponent with a sign.  Beyond that nothing
matters, so that a number is read back in front of any other text.
-/

namespace Capability
namespace Code
namespace Lexeme

open Unicode (isIdentifierStart isIdentifierContinue)

variable {following : List Char}

/-! ## Digits -/

theorem continue_of_isAlphanum {c : Char} (alphanumeric : c.isAlphanum = true) :
    isIdentifierContinue c = true := by
  rw [isIdentifierContinue, Unicode.member_of_ascii (Unicode.ascii_of_isAlphanum alphanumeric),
    alphanumeric, Bool.true_or]

theorem continue_of_isDigit {c : Char} (digit : c.isDigit = true) :
    isIdentifierContinue c = true :=
  continue_of_isAlphanum (by rw [Char.isAlphanum, digit, Bool.or_true])

theorem continue_of_isHex {c : Char} (hex : isHex c = true) : isIdentifierContinue c = true := by
  have below : c.toNat < 0x80 := by
    simp only [isHex, Bool.or_eq_true, Bool.and_eq_true, decide_eq_true_eq, Char.le_def,
      UInt32.le_iff_toNat_le] at hex
    change (c.isDigit = true ∨ (97 ≤ c.toNat ∧ c.toNat ≤ 102)) ∨ (65 ≤ c.toNat ∧ c.toNat ≤ 70)
      at hex
    rcases hex with (digit | small) | capital
    · exact Unicode.ascii_of_isDigit digit
    · omega
    · omega
  exact Unicode.ascii_forall (P := fun c => isHex c = true → isIdentifierContinue c = true)
    (by decide) below hex

/-- A text that is not within a word begins with no character of a number. -/
theorem not_number_of_ends {c : Char} {rest : List Char} (ends : beginsInWord (c :: rest) = false) :
    c.isDigit = false ∧ isHex c = false ∧ c ≠ '_' ∧ c ≠ 'e' ∧ c ≠ 'E' := by
  have other := ((beginsInWord_eq_false_iff _).mp ends c rest rfl).2
  refine ⟨?_, ?_, ?_, ?_, ?_⟩
  · rw [Bool.eq_false_iff]
    intro digit
    rw [continue_of_isDigit digit] at other
    cases other
  · rw [Bool.eq_false_iff]
    intro hex
    rw [continue_of_isHex hex] at other
    cases other
  all_goals
    rintro rfl
    exact absurd other (by decide)

theorem digitsRest?_of_ends {base : Nat} {isEmpty : Bool} (ends : beginsInWord following = false) :
    digitsRest? base isEmpty following = if isEmpty then none else some following := by
  cases following with
  | nil => rfl
  | cons c rest =>
      rcases not_number_of_ends ends with ⟨notDigit, notHex, notUnderscore, _, _⟩
      simp [digitsRest?, notUnderscore, notDigit, notHex]

/-- The digits of an integer end where a text begins that is not within a word. -/
theorem digitsRest?_append {base : Nat} {isEmpty : Bool} {text : List Char}
    (ends : beginsInWord following = false) :
    digitsRest? base isEmpty (text ++ following) =
      (digitsRest? base isEmpty text).map (· ++ following) := by
  fun_induction digitsRest? base isEmpty text with
  | case1 => exact digitsRest?_of_ends ends
  | case2 isEmpty notEmpty =>
      rw [List.nil_append, digitsRest?_of_ends ends, if_neg notEmpty]
      rfl
  | case3 | case4 | case5 | case7 => simp_all [digitsRest?]
  | case6 isEmpty c rest notUnderscore digit tooLarge =>
      rw [List.cons_append, digitsRest?, if_neg notUnderscore, if_pos digit, if_neg tooLarge]
      rfl
  | case8 c rest notUnderscore notDigit notHex =>
      rw [List.cons_append, digitsRest?, if_neg notUnderscore, if_neg notDigit, if_neg notHex,
        if_pos rfl]
      rfl
  | case9 isEmpty c rest notUnderscore notDigit notHex notEmpty =>
      rw [List.cons_append, digitsRest?, if_neg notUnderscore, if_neg notDigit, if_neg notHex,
        if_neg notEmpty]
      rfl

/-! ## Numbers -/

/-- Whether a text begins with a sign. -/
def beginsWithSign (text : List Char) : Bool := text.head?.any fun c => c == '+' || c == '-'

/-- Whether a text begins with a point that makes a fraction of the number in front of it. -/
def beginsFraction : List Char → Bool
  | '.' :: rest => !rest.head?.any fun next => next == '.' || isIdentifierStart next
  | _ => false

/-- Whether a number ends in the mark of an exponent, with underscores behind it or not. -/
def endsInExponent : List Char → Bool
  | [] => false
  | c :: rest =>
    if c = 'e' || c = 'E' then rest.all (· == '_')
    else (isDecimal c || c == '.') && endsInExponent rest

/-- Whether a number goes on with what follows it: with a fraction, with a second point, or with
the sign of an exponent. -/
def numberGoesOn (number following : List Char) : Bool :=
  number.all isDecimal && beginsFraction following
    || number.getLast? == some '.' && following.head? == some '.'
    || endsInExponent number && beginsWithSign following

/-- An exponent in front of other text. -/
def Exponent.before (following : List Char) : Exponent → Exponent
  | digits rest => digits (rest ++ following)
  | missing => missing

theorem exponent_of_ends {signed valued : Bool} (ends : beginsInWord following = false)
    (noSign : signed = false → valued = false → beginsWithSign following = false) :
    exponent signed valued following = if valued then .digits following else .missing := by
  cases following with
  | nil => rfl
  | cons c rest =>
      rcases not_number_of_ends ends with ⟨notDigit, _, notUnderscore, _, _⟩
      cases signed <;> cases valued <;>
        simp_all [exponent, beginsWithSign]

theorem exponent_append {signed valued : Bool} {text : List Char}
    (ends : beginsInWord following = false)
    (noSign : text.all (· == '_') = true → signed = false → valued = false →
      beginsWithSign following = false) :
    exponent signed valued (text ++ following) =
      (exponent signed valued text).before following := by
  fun_induction exponent signed valued text with
  | case1 signed =>
      rw [List.nil_append, exponent_of_ends ends (noSign rfl)]
      rfl
  | case2 signed valued notValued =>
      rw [List.nil_append, exponent_of_ends ends (noSign rfl), if_neg notValued]
      rfl
  | case3 signed c rest sign => simp [exponent, sign, Exponent.before]
  | case4 valued c rest sign notValued => simp [exponent, sign, notValued, Exponent.before]
  | case5 signed valued c rest sign notValued notSigned inductionHypothesis =>
      have further := inductionHypothesis (fun _ signed => Bool.noConfusion signed)
      rw [List.cons_append, exponent, if_pos sign, if_neg notValued, if_neg notSigned, further]
  | case6 signed valued c rest notSign digit inductionHypothesis =>
      have further := inductionHypothesis (fun _ _ valued => Bool.noConfusion valued)
      rw [List.cons_append, exponent, if_neg notSign, if_pos digit, further]
  | case7 signed valued rest notSign notDigit inductionHypothesis =>
      have further := inductionHypothesis (fun all => noSign (by simpa using all))
      rw [List.cons_append, exponent, if_neg notSign, if_neg notDigit, if_pos rfl, further]
  | case8 signed c rest notSign notDigit notUnderscore =>
      rw [List.cons_append, exponent, if_neg notSign, if_neg notDigit, if_neg notUnderscore]
      rfl
  | case9 signed valued c rest notSign notDigit notUnderscore notValued =>
      rw [List.cons_append, exponent, if_neg notSign, if_neg notDigit, if_neg notUnderscore,
        if_neg notValued]
      rfl

theorem floatRest?_of_ends {dotted : Bool} (ends : beginsInWord following = false)
    (noFraction : dotted = false → beginsFraction following = false) :
    floatRest? dotted following = if dotted then some following else none := by
  cases following with
  | nil => rfl
  | cons c rest =>
      rcases not_number_of_ends ends with ⟨notDigit, _, notUnderscore, notSmall, notCapital⟩
      cases dotted with
      | true => simp [floatRest?, isDecimal, notDigit, notUnderscore, notSmall, notCapital]
      | false =>
          by_cases point : c = '.'
          · subst point
            have noFraction := noFraction rfl
            rw [beginsFraction, Bool.not_eq_false'] at noFraction
            rw [floatRest?, if_neg (by decide), if_pos (by decide), if_pos noFraction]
            rfl
          · simp [floatRest?, isDecimal, notDigit, notUnderscore, notSmall, notCapital, point]

theorem endsInExponent_cons {c : Char} {rest : List Char} (digit : isDecimal c = true ∨ c = '.')
    (ends : endsInExponent rest = true) : endsInExponent (c :: rest) = true := by
  have notMark : ¬(decide (c = 'e') || decide (c = 'E')) = true := by
    rw [Bool.or_eq_true, decide_eq_true_eq, decide_eq_true_eq]
    rintro (rfl | rfl) <;> exact absurd digit (by decide)
  have further : (isDecimal c || c == '.') = true := by
    rcases digit with digit | rfl
    · rw [digit, Bool.true_or]
    · decide
  rw [endsInExponent, if_neg notMark, further, ends]
  rfl

/-- Whether a point is followed by another one or by a word does not depend on what is behind
the text, unless that begins with a second point. -/
theorem behindPoint_append {rest : List Char} (ends : beginsInWord following = false)
    (noPoint : rest = [] → following.head? ≠ some '.') :
    ((rest ++ following).head?.any fun next => next == '.' || isIdentifierStart next) =
      rest.head?.any fun next => next == '.' || isIdentifierStart next := by
  cases rest with
  | cons next rest => rfl
  | nil =>
      cases following with
      | nil => rfl
      | cons next more =>
          have notStart := ((beginsInWord_eq_false_iff _).mp ends next more rfl).1
          have notPoint : next ≠ '.' := fun same => noPoint rfl (congrArg some same)
          simp [notStart, notPoint]

/-- The mark of an exponent in front of a text that is not within a word and does not begin with
the sign of the exponent. -/
theorem floatRest?_append_of_mark {dotted : Bool} {c : Char} {rest : List Char}
    (ends : beginsInWord following = false)
    (mark : (decide (c = 'e') || decide (c = 'E')) = true)
    (noSign : endsInExponent (c :: rest) = true → beginsWithSign following = false) :
    floatRest? dotted (c :: (rest ++ following)) =
      (floatRest? dotted (c :: rest)).map (· ++ following) := by
  have digits : exponent false false (rest ++ following) =
      (exponent false false rest).before following := by
    apply exponent_append ends
    intro all _ _
    exact noSign (by rw [endsInExponent, if_pos mark, all])
  have isMark : c = 'e' ∨ c = 'E' := by
    simpa only [Bool.or_eq_true, decide_eq_true_eq] using mark
  have notDigit : ¬isDecimal c = true := by
    rcases isMark with rfl | rfl <;> decide
  have notPoint : ¬(decide (c = '.') && !dotted) = true := by
    rcases isMark with rfl | rfl <;> exact Bool.false_ne_true
  rw [floatRest?, floatRest?, if_neg notDigit, if_neg notDigit, if_neg notPoint, if_neg notPoint,
    if_pos mark, if_pos mark, digits]
  cases exponent false false rest with
  | digits behind => rfl
  | missing => cases dotted <;> rfl

/-- The digits of a number in front of a text that is not within a word and does not go on with
the number. -/
theorem floatRest?_append {dotted : Bool} {text : List Char}
    (ends : beginsInWord following = false)
    (noFraction : dotted = false → text.all isDecimal = true → beginsFraction following = false)
    (noPoint : text.getLast? = some '.' → following.head? ≠ some '.')
    (noSign : endsInExponent text = true → beginsWithSign following = false) :
    floatRest? dotted (text ++ following) = (floatRest? dotted text).map (· ++ following) := by
  -- Behind a point the number has one, so whether it has one is arbitrary here.
  induction text generalizing dotted with
  | nil =>
      rw [List.nil_append, floatRest?_of_ends ends (fun dotted => noFraction dotted rfl)]
      cases dotted <;> rfl
  | cons c rest inductionHypothesis =>
      have laterPoint : rest.getLast? = some '.' → following.head? ≠ some '.' := by
        intro last
        exact noPoint (by rw [List.getLast?_cons, last, Option.getD_some])
      rw [List.cons_append]
      by_cases digit : isDecimal c = true
      · rw [floatRest?, floatRest?, if_pos digit, if_pos digit]
        apply inductionHypothesis
        · intro dotted all
          exact noFraction dotted (by rw [List.all_cons, digit, all]; rfl)
        · exact laterPoint
        · exact fun ends => noSign (endsInExponent_cons (.inl digit) ends)
      by_cases point : (decide (c = '.') && !dotted) = true
      · have isPoint : c = '.' := of_decide_eq_true (Bool.and_eq_true_iff.mp point).1
        have behind := behindPoint_append ends fun empty : rest = [] =>
          noPoint (by rw [empty, isPoint]; rfl)
        rw [floatRest?, floatRest?, if_neg digit, if_neg digit, if_pos point, if_pos point, behind]
        split
        · rfl
        · apply inductionHypothesis
          · exact fun dotted => Bool.noConfusion dotted
          · exact laterPoint
          · exact fun ends => noSign (endsInExponent_cons (.inr isPoint) ends)
      by_cases mark : (decide (c = 'e') || decide (c = 'E')) = true
      · exact floatRest?_append_of_mark ends mark noSign
      · rw [floatRest?, floatRest?, if_neg digit, if_neg digit, if_neg point, if_neg point,
          if_neg mark, if_neg mark]
        cases dotted <;> rfl

theorem wordBreak?_eq_some {text rest : List Char} (read : wordBreak? text = some rest) :
    text = rest := by
  rw [wordBreak?] at read
  split at read
  · cases read
  · exact Option.some.inj read

theorem wordBreak?_of_ends (ends : beginsInWord following = false) :
    wordBreak? following = some following := by
  cases following with
  | nil => rfl
  | cons c rest =>
      have other := ((beginsInWord_eq_false_iff _).mp ends c rest rfl).2
      rw [wordBreak?, List.head?_cons, Option.any_some, other, if_neg Bool.false_ne_true]

theorem numberEnd?_append {suffix : List Char} (all : numberEnd? suffix = some [])
    (ends : beginsInWord following = false) :
    numberEnd? (suffix ++ following) = some following := by
  cases suffix with
  | nil =>
      rw [List.nil_append, numberEnd?]
      cases following with
      | nil => rfl
      | cons c rest =>
          have notStart := ((beginsInWord_eq_false_iff _).mp ends c rest rfl).1
          rw [List.head?_cons, Option.any_some, notStart, if_neg Bool.false_ne_true,
            wordBreak?_of_ends ends]
  | cons c rest =>
      rw [numberEnd?, List.head?_cons, Option.any_some] at all
      split at all
      · next start =>
          rcases Option.bind_eq_some_iff.mp all with ⟨behind, ahead, broken⟩
          have isWord : isPlainWord (c :: rest) = true := by
            rw [isPlainWord, ahead, wordBreak?_eq_some broken]
            rfl
          rw [numberEnd?, List.cons_append, List.head?_cons, Option.any_some, if_pos start,
            ← List.cons_append, plainWord?_append isWord ends]
          exact wordBreak?_of_ends ends
      · cases wordBreak?_eq_some all

/-- What does not end a number does not end it in front of other text. -/
theorem numberEnd?_append_none {c : Char} {rest : List Char}
    (refused : numberEnd? (c :: rest) = none) : numberEnd? (c :: rest ++ following) = none := by
  rw [numberEnd?, List.head?_cons, Option.any_some] at refused
  rw [List.cons_append, numberEnd?, List.head?_cons, Option.any_some]
  split at refused
  · next start =>
      -- Behind a word there is no character that continues it.
      exfalso
      rw [plainWord?, if_pos start, Option.bind_some, wordRest, wordBreak?] at refused
      split at refused
      · next continued =>
          have stops := List.head?_dropWhile_not isIdentifierContinue rest
          cases ahead : (rest.dropWhile isIdentifierContinue).head? with
          | none => simp [ahead] at continued
          | some c => simp_all
      · cases refused
  · next notStart =>
      rw [if_neg notStart, wordBreak?, List.head?_cons]
      rw [wordBreak?, List.head?_cons] at refused
      split at refused
      · next continued => rw [if_pos continued]
      · cases refused

theorem floatRest?_append_of_settled {c : Char} {rest : List Char} (digit : c.isDigit = true)
    (ends : beginsInWord following = false) (settled : numberGoesOn (c :: rest) following = false) :
    floatRest? false (rest ++ following) = (floatRest? false rest).map (· ++ following) := by
  have decimal : isDecimal c = true := by
    rw [isDecimal, digit, Bool.true_or]
  simp only [numberGoesOn, Bool.or_eq_false_iff, Bool.and_eq_false_imp, beq_iff_eq,
    beq_eq_false_iff_ne] at settled
  rcases settled with ⟨⟨noFraction, noPoint⟩, noSign⟩
  apply floatRest?_append ends
  · intro _ all
    exact noFraction (by rw [List.all_cons, decimal, all]; rfl)
  · intro last
    exact noPoint (by rw [List.getLast?_cons, last, Option.getD_some])
  · exact fun mark => noSign (endsInExponent_cons (.inl decimal) mark)

theorem float?_append {text : List Char} (read : float? text = some [])
    (ends : beginsInWord following = false) (settled : numberGoesOn text following = false) :
    float? (text ++ following) = some following := by
  cases text with
  | nil => cases read
  | cons c rest =>
      rw [float?] at read
      split at read
      · next digit =>
          rcases Option.bind_eq_some_iff.mp read with ⟨suffix, digits, number⟩
          rw [List.cons_append, float?, if_pos digit,
            floatRest?_append_of_settled digit ends settled, digits]
          exact numberEnd?_append number ends
      · cases read

theorem float?_append_none {c : Char} {rest : List Char} (refused : float? (c :: rest) = none)
    (ends : beginsInWord following = false) (settled : numberGoesOn (c :: rest) following = false) :
    float? (c :: rest ++ following) = none := by
  rw [float?] at refused
  rw [List.cons_append, float?]
  split
  · next digit =>
      rw [if_pos digit] at refused
      rw [floatRest?_append_of_settled digit ends settled]
      cases digits : floatRest? false rest with
      | none => rfl
      | some suffix =>
          rw [digits, Option.bind_some] at refused
          cases suffix with
          | nil => cases refused
          | cons next more => exact numberEnd?_append_none refused
  · rfl

theorem integer?_append {text : List Char} (read : integer? text = some [])
    (ends : beginsInWord following = false) : integer? (text ++ following) = some following := by
  have number : ∀ {base : Nat} {digits : List Char},
      (digitsRest? base true digits).bind numberEnd? = some [] →
      (digitsRest? base true (digits ++ following)).bind numberEnd? = some following := by
    intro base digits read
    rcases Option.bind_eq_some_iff.mp read with ⟨suffix, ahead, number⟩
    rw [digitsRest?_append ends, ahead]
    exact numberEnd?_append number ends
  -- The letter that announces another base is the literal's own.
  have based : ∀ {mark : Char} {rest : List Char}, isIdentifierContinue mark = true →
      text ++ following = '0' :: mark :: rest → ∃ rest, text = '0' :: mark :: rest := by
    intro mark rest continued same
    match text with
    | [] => cases read
    | [c] =>
        rw [List.singleton_append] at same
        have other := ((beginsInWord_eq_false_iff _).mp ends mark rest (List.cons.inj same).2).2
        rw [continued] at other
        cases other
    | c :: d :: rest =>
        rw [List.cons_append, List.cons_append] at same
        cases same
        exact ⟨rest, rfl⟩
  unfold integer? at read ⊢
  split at read
  · exact number read
  · exact number read
  · exact number read
  · next notHex notOctal notBinary =>
      split
      · next rest same =>
        rcases based (by decide) same with ⟨rest, own⟩
        exact absurd own (notHex rest)
      · next rest same =>
        rcases based (by decide) same with ⟨rest, own⟩
        exact absurd own (notOctal rest)
      · next rest same =>
        rcases based (by decide) same with ⟨rest, own⟩
        exact absurd own (notBinary rest)
      · exact number read

theorem ten_le_hexValue {c : Char} (hex : isHex c = true) (notDigit : ¬c.isDigit = true) :
    10 ≤ hexValue c := by
  rw [hexValue, if_neg notDigit]
  simp only [isHex, Bool.or_eq_true, Bool.and_eq_true, decide_eq_true_eq, Char.le_def,
    UInt32.le_iff_toNat_le, notDigit, Bool.false_eq_true, false_or] at hex
  change (97 ≤ c.toNat ∧ c.toNat ≤ 102) ∨ (65 ≤ c.toNat ∧ c.toNat ≤ 70) at hex
  split <;> omega

/-- An integer begins with a digit. -/
theorem isDigit_of_integer? {c : Char} {rest behind : List Char}
    (read : integer? (c :: rest) = some behind) : c.isDigit = true := by
  unfold integer? at read
  split at read
  · next same => rw [(List.cons.inj same).1]; rfl
  · next same => rw [(List.cons.inj same).1]; rfl
  · next same => rw [(List.cons.inj same).1]; rfl
  · rcases Option.bind_eq_some_iff.mp read with ⟨suffix, digits, _⟩
    by_contra notDigit
    have notHex : ¬(isHex c && decide (hexValue c < 10)) = true := by
      rw [Bool.and_eq_true, decide_eq_true_eq]
      rintro ⟨hex, small⟩
      have large := ten_le_hexValue hex notDigit
      omega
    rw [digitsRest?, if_neg notDigit, if_neg notHex] at digits
    split at digits <;> cases digits

end Lexeme
end Code
end Capability

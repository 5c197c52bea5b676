import Capability.Proofs.Json.Grammar

/-!
# Values that nobody asked for

A value that is skipped can be any well-formed value, whatever its depth: the brackets
that are open around it are kept in a list while it is skipped.  The statements about
skipping are therefore made in front of a text that is skipped with the brackets that
are left: a value leads to the state behind it, and so does what stands between
brackets, together with the bracket that closes them.

Every step of skipping takes at least one character or closes what the step before has
opened, so that two units of fuel for each character are enough.
-/

namespace Capability
namespace Json
namespace Reader

variable {rest : List Char}

/-! ## Numbers -/

theorem digitsSkipped_consumes {digits : List Char} (areDigits : ∀ c ∈ digits, c.isDigit = true)
    (noDigit : NoDigit rest) (fuel : Nat) (enough : digits.length ≤ fuel) (count : Nat) :
    Consumes (digitsSkipped fuel count) digits rest (count + digits.length) := by
  induction digits generalizing fuel count with
  | nil =>
      cases fuel with
      | zero => exact .pure rest _
      | succ fuel =>
          apply Consumes.peek
          rw [List.nil_append]
          cases found : rest.head? with
          | none => exact .pure rest _
          | some c =>
              simp only [noDigit c found]
              exact .pure rest _
  | cons c digits inductionHypothesis =>
      rcases Nat.exists_eq_add_one_of_ne_zero (Nat.ne_zero_of_lt enough) with ⟨fuel, rfl⟩
      have others := inductionHypothesis (fun c member => areDigits c (List.mem_cons_of_mem _ member))
        fuel (Nat.le_of_succ_le_succ enough) (count + 1)
      apply Consumes.peek
      simp only [List.cons_append, List.head?_cons, areDigits c List.mem_cons_self, if_true]
      rw [List.length_cons, Nat.add_comm digits.length, ← Nat.add_assoc]
      exact .advanced others

theorem skipDigits_consumes_all {digits : List Char} (areDigits : ∀ c ∈ digits, c.isDigit = true)
    (noDigit : NoDigit rest) : Consumes skipDigits digits rest digits.length := by
  have enough : digits.length ≤ (digits ++ rest).length := by
    rw [List.length_append]
    exact Nat.le_add_right _ _
  have skipped := digitsSkipped_consumes areDigits noDigit _ enough 0
  rw [Nat.zero_add] at skipped
  exact .remaining skipped

theorem exponentSign_consumes {sign digits : List Char}
    (isSign : sign = [] ∨ sign = ['+'] ∨ sign = ['-']) (areDigits : IsDigits digits) :
    ∃ raises, Consumes exponentSign sign (digits ++ rest) raises := by
  rcases isSign with rfl | rfl | rfl
  · cases areDigits with
    | @intro c more all =>
        refine ⟨true, .peek ?_⟩
        have isDigit := all c List.mem_cons_self
        rw [List.nil_append, List.cons_append, List.head?_cons]
        split
        · next found =>
            cases found
            exact absurd isDigit (by decide)
        · next found =>
            cases found
            exact absurd isDigit (by decide)
        · exact .pure _ true
  · exact ⟨true, .peek (.advanced (.pure _ true))⟩
  · exact ⟨false, .peek (.advanced (.pure _ false))⟩

theorem skipExponent_consumes {text : List Char} (isExponent : IsExponent text)
    (delimited : Delimited rest) : Consumes skipExponentOrEnd text rest () := by
  cases isExponent with
  | absent =>
      apply Consumes.peek
      rw [List.nil_append]
      split
      · next found => exact absurd rfl (delimited _ found).2.2.1
      · next found => exact absurd rfl (delimited _ found).2.2.2
      · exact .pure rest ()
  | @mark letter sign digits isMark isSign areDigits =>
      have signed : ∃ raises, Consumes exponentSign sign (digits ++ rest) raises :=
        exponentSign_consumes isSign areDigits
      rcases signed with ⟨raises, signed⟩
      have skipped : Consumes skipExponent (letter :: (sign ++ digits)) rest () := by
        apply Consumes.advanced
        apply signed.bind
        cases areDigits with
        | @intro c more all =>
            apply Consumes.peek
            simp only [List.cons_append, List.head?_cons, all c List.mem_cons_self, if_true]
            exact (skipDigits_consumes_all all delimited.noDigit).bind_nil (.pure rest ())
      apply Consumes.peek
      rcases isMark with rfl | rfl <;> exact skipped

theorem skipFraction_consumes {fraction exponent : List Char} (isFraction : IsFraction fraction)
    (isExponent : IsExponent exponent) (delimited : Delimited rest) :
    Consumes (do
      match ← peek? with
      | some '.' => do
        advance
        match ← skipDigits with
        | 0 => ahead .invalidNumber
        | _ + 1 => skipExponentOrEnd
      | _ => skipExponentOrEnd) (fraction ++ exponent) rest () := by
  have ending := skipExponent_consumes isExponent delimited
  cases isFraction with
  | absent =>
      apply Consumes.peek
      split
      · next found =>
          cases isExponent with
          | absent => exact absurd rfl (delimited _ found).2.1
          | mark isMark _ _ =>
              cases found
              exact absurd isMark (by decide)
      · exact ending
  | point areDigits =>
      cases areDigits with
      | intro all =>
          apply Consumes.peek
          apply Consumes.advanced
          exact (skipDigits_consumes_all all (isExponent.noDigit delimited)).bind ending

theorem skipUnsigned_consumes {text : List Char} (isUnsigned : IsUnsigned text)
    (delimited : Delimited rest) : Consumes skipUnsigned text rest () := by
  cases isUnsigned with
  | @intro whole fraction exponent isWhole isFraction isExponent =>
      have ending := skipFraction_consumes isFraction isExponent delimited
      have noDigit := isFraction.noDigit isExponent delimited
      cases isWhole with
      | zero =>
          change Consumes _ ('0' :: (fraction ++ exponent)) rest ()
          apply Consumes.peek
          apply Consumes.advanced
          apply Consumes.peek
          cases found : (fraction ++ exponent ++ rest).head? with
          | none => exact ending
          | some c =>
              simp only [noDigit c found]
              exact ending
      | @digits c more nonzero areDigits =>
          have isDigit := areDigits c List.mem_cons_self
          apply Consumes.peek
          simp only [List.cons_append, List.head?_cons, isDigit, if_true]
          exact (skipDigits_consumes_all areDigits noDigit).bind ending

/-! ## Strings -/

theorem skipString_consumes {body : List Char} (isBody : IsBody body) (fuel : Nat)
    (enough : body.length < fuel) : Consumes (skipString fuel) (body ++ ['"']) rest () := by
  induction isBody generalizing fuel with
  | nil =>
      rcases Nat.exists_eq_succ_of_ne_zero (Nat.ne_zero_of_lt enough) with ⟨fuel, rfl⟩
      exact .peek (.advance '"' rest)
  | plain printable noQuote noEscape _ inductionHypothesis =>
      rcases Nat.exists_eq_succ_of_ne_zero (Nat.ne_zero_of_lt enough) with ⟨fuel, rfl⟩
      apply Consumes.peek
      simp only [List.cons_append, List.head?_cons]
      rw [if_neg (Nat.not_lt.mpr printable)]
      exact .advanced (inductionHypothesis fuel (Nat.lt_of_succ_lt_succ enough))
  | @letter c letter body stands _ inductionHypothesis =>
      rcases Nat.exists_eq_succ_of_ne_zero (Nat.ne_zero_of_lt enough) with ⟨fuel, rfl⟩
      rw [List.length_cons, List.length_cons] at enough
      have noUnit : letter ≠ 'u' := by
        rintro rfl
        cases stands
      have short : (shortEscape? letter).isSome = true := Option.isSome_of_eq_some stands
      rw [List.cons_append, List.cons_append]
      apply Consumes.peek
      apply Consumes.advanced
      apply Consumes.peek
      simp only [List.cons_append, List.head?_cons, short, if_true]
      exact .advanced (inductionHypothesis fuel (by omega))
  | @unit number digits body four hex _ inductionHypothesis =>
      rcases Nat.exists_eq_succ_of_ne_zero (Nat.ne_zero_of_lt enough) with ⟨fuel, rfl⟩
      simp only [List.length_cons, List.length_append] at enough
      have others := inductionHypothesis fuel (by omega)
      have escape := hexEscape_consumes four hex (body ++ ['"'] ++ rest)
      rw [List.cons_append, List.cons_append, List.append_assoc]
      exact .peek (.advanced (.peek (.advanced (escape.bind others))))

/-- The name of a member is skipped with its colon. -/
theorem skipName_consumes {blank body before : List Char} (isBlank : AllBlank blank)
    (isBody : IsBody body) (blankBefore : AllBlank before) :
    Consumes skipName (blank ++ (inQuotes body ++ (before ++ [':']))) rest () := by
  have enough : body.length < (body ++ ['"'] ++ (before ++ [':']) ++ rest).length + 1 := by
    simp only [List.length_append]
    omega
  apply Consumes.peekToken isBlank rfl
  change Consumes _ ('"' :: (body ++ ['"'] ++ (before ++ [':']))) rest ()
  apply Consumes.advanced
  apply Consumes.remaining
  apply (skipString_consumes isBody _ enough).bind
  exact .peekToken blankBefore rfl (.advance ':' rest)

/-! ## Between brackets -/

/-- The character that opens a bracket. -/
def Bracket.opening : Bracket → Char
  | list => '['
  | object => '\x7b'

/-- With enough fuel, skipping goes from a state to the end of a text. -/
def Skips (need : Nat) (state : Skipping) (brackets : List Bracket) (text rest : List Char) :
    Prop :=
  ∀ fuel, need ≤ fuel → Consumes (skipWithin fuel state brackets) text rest ()

namespace Skips

variable {need : Nat} {brackets : List Bracket} {isFirst : Bool}

/-- One step in front of a text that is skipped costs one unit of fuel. -/
theorem step {state next : Skipping} {others : List Bracket} {text more : List Char}
    (behind : Skips need next others more rest)
    (moves : ∀ fuel, Consumes (skipWithin fuel next others) more rest () →
      Consumes (skipWithin (fuel + 1) state brackets) text rest ()) :
    Skips (need + 1) state brackets text rest := by
  intro fuel enough
  rcases Nat.exists_eq_succ_of_ne_zero (Nat.ne_zero_of_lt enough) with ⟨fuel, rfl⟩
  exact moves fuel (behind fuel (Nat.le_of_succ_le_succ enough))

theorem mono {state : Skipping} {text : List Char} {bound : Nat} (below : need ≤ bound)
    (skips : Skips need state brackets text rest) : Skips bound state brackets text rest :=
  fun fuel enough => skips fuel (Nat.le_trans below enough)

/-- The bracket that was opened last is closed, with white space in front. -/
theorem close (bracket : Bracket) {blank more : List Char} (isBlank : AllBlank blank)
    (behind : Skips need (.separator false) brackets more rest) :
    Skips (need + 1) (.separator isFirst) (bracket :: brackets)
      (blank ++ bracket.closing :: more) rest := by
  have solid : ((bracket.closing :: more) ++ rest).head?.any Json.isBlank = false := by
    cases bracket <;> rfl
  refine behind.step fun fuel later => .peekToken isBlank solid ?_
  simp only [List.cons_append, List.head?_cons, if_true]
  exact .advanced later

/-- In front of an item of a list the gap is taken, but for white space behind a comma. -/
theorem item {gap text : List Char} (separated : Separated isFirst gap) (opens : Opens text)
    {more : List Char} (behind : ∀ blank, AllBlank blank →
      Skips need .value (.list :: brackets) (blank ++ (text ++ more)) rest) :
    Skips (need + 1) (.separator isFirst) (.list :: brackets) (gap ++ (text ++ more)) rest := by
  cases separated with
  | first isBlank =>
      refine (behind [] allBlank_nil).step fun fuel later => ?_
      rcases opens with ⟨c, others, rfl, solid, noEnd⟩
      have solidly : ((c :: others ++ more) ++ rest).head?.any Json.isBlank = false := solid
      apply Consumes.peekToken isBlank solidly
      simp only [List.cons_append, List.head?_cons, Bracket.closing, noEnd, if_false, Bool.not_true,
        Bool.and_false, Bool.false_eq_true, if_true, reduceCtorEq]
      exact later
  | @next before between blankBefore blankBetween =>
      refine (behind between blankBetween).step fun fuel later => ?_
      rw [List.append_assoc]
      exact .peekToken blankBefore rfl (.advanced later)

/-- In front of the value of a member the gap and the name are taken. -/
theorem member {gap body before text : List Char} (separated : Separated isFirst gap)
    (isBody : IsBody body) (blankBefore : AllBlank before)
    (behind : Skips need .value (.object :: brackets) text rest) :
    Skips (need + 1) (.separator isFirst) (.object :: brackets)
      (gap ++ (inQuotes body ++ (before ++ [':']) ++ text)) rest := by
  have named : ∀ blank, AllBlank blank →
      Consumes skipName (blank ++ (inQuotes body ++ (before ++ [':']))) (text ++ rest) () :=
    fun _ isBlank => skipName_consumes isBlank isBody blankBefore
  refine behind.step fun fuel later => ?_
  cases separated with
  | first isBlank => exact .peekToken isBlank rfl ((named [] allBlank_nil).bind later)
  | @next front between blankFront blankBetween =>
      rw [List.append_assoc]
      apply Consumes.peekToken blankFront rfl
      change Consumes _ (',' :: (between ++ (inQuotes body ++ (before ++ [':']) ++ text))) rest ()
      rw [← List.append_assoc between]
      exact .advanced ((named between blankBetween).bind later)

/-! ## Values -/

section Values

variable {blank text more : List Char}

theorem word (isBlank : AllBlank blank) (isWord : text = "null".toList ∨ text = "true".toList ∨
      text = "false".toList) (behind : Skips need (.separator false) brackets more rest) :
    Skips (need + 1) .value brackets (blank ++ (text ++ more)) rest := by
  refine behind.step fun fuel later => ?_
  rcases isWord with rfl | rfl | rfl <;>
    exact .peekToken isBlank rfl ((knownWord_consumes (more ++ rest) rfl).bind later)

theorem number (isBlank : AllBlank blank) (isNumber : IsNumber text)
    (delimited : Delimited (more ++ rest))
    (behind : Skips need (.separator false) brackets more rest) :
    Skips (need + 1) .value brackets (blank ++ (text ++ more)) rest := by
  refine behind.step fun fuel later => ?_
  cases isNumber with
  | positive isUnsigned =>
      have skipped : Consumes (skipUnsigned >>= fun _ =>
          skipWithin fuel (.separator false) brackets) (text ++ more) rest () :=
        (skipUnsigned_consumes isUnsigned delimited).bind later
      rcases isUnsigned.eq_cons with ⟨c, others, rfl, isDigit⟩
      rcases ne_of_isDigit isDigit with ⟨noNull, noTrue, noFalse, noSign, noQuote, noList, noObject⟩
      have solid : ((c :: others ++ more) ++ rest).head?.any Json.isBlank = false :=
        isBlank_of_isDigit isDigit
      apply Consumes.peekToken isBlank solid
      simp only [List.cons_append, List.head?_cons, isDigit, if_true]
      exact skipped
  | negative isUnsigned =>
      exact .peekToken isBlank rfl (.advanced ((skipUnsigned_consumes isUnsigned delimited).bind later))

theorem string {body : List Char} (isBlank : AllBlank blank) (isBody : IsBody body)
    (behind : Skips need (.separator false) brackets more rest) :
    Skips (need + 1) .value brackets (blank ++ (inQuotes body ++ more)) rest := by
  refine behind.step fun fuel later => ?_
  have enough : body.length < (body ++ ['"'] ++ more ++ rest).length + 1 := by
    simp only [List.length_append]
    omega
  exact .peekToken isBlank rfl
    (.advanced (.remaining ((skipString_consumes isBody _ enough).bind later)))

/-- A bracket is opened in front of what it holds. -/
theorem opened (bracket : Bracket) (isBlank : AllBlank blank)
    (behind : Skips need (.separator true) (bracket :: brackets) more rest) :
    Skips (need + 1) .value brackets (blank ++ bracket.opening :: more) rest := by
  refine behind.step fun _ later => ?_
  cases bracket <;> exact .peekToken isBlank rfl (.advanced later)

end Values

end Skips

/-- What skipping does with a phrase in front of a text that is skipped. -/
def SkipsPhrase : Phrase → List Char → Prop
  | .value, text => ∀ need brackets blank more rest, AllBlank blank → Delimited (more ++ rest) →
      Skips need (.separator false) brackets more rest →
      Skips (need + 2 * text.length - 1) .value brackets (blank ++ (text ++ more)) rest
  | .items isFirst _, text => ∀ need brackets more rest,
      Skips need (.separator false) brackets more rest →
      Skips (need + 2 * text.length + 1) (.separator isFirst) (.list :: brackets)
        (text ++ ']' :: more) rest
  | .members isFirst _, text => ∀ need brackets more rest,
      Skips need (.separator false) brackets more rest →
      Skips (need + 2 * text.length + 1) (.separator isFirst) (.object :: brackets)
        (text ++ '\x7d' :: more) rest

/-- Every well-formed phrase is skipped.  A value costs less fuel than two units for each of its
characters, and what stands between brackets leaves one unit for the bracket that closes it. -/
theorem skips_of_derives {phrase : Phrase} {text : List Char} (derives : Derives phrase text) :
    SkipsPhrase phrase text := by
  -- A value is skipped in front of whatever can be skipped behind it, so that an open bracket is
  -- no case of its own: the list of brackets is only longer in the statement for what is inside.
  induction derives with
  | null =>
      intro need brackets blank more rest isBlank _ behind
      have positive := Derives.null.opens.length_pos
      exact (Skips.word isBlank (.inl rfl) behind).mono (by omega)
  | boolean truth =>
      intro need brackets blank more rest isBlank _ behind
      have positive := (Derives.boolean truth).opens.length_pos
      cases truth with
      | false => exact (Skips.word isBlank (.inr (.inr rfl)) behind).mono (by omega)
      | true => exact (Skips.word isBlank (.inr (.inl rfl)) behind).mono (by omega)
  | number isNumber =>
      intro need brackets blank more rest isBlank delimited behind
      have positive := (Derives.number isNumber).opens.length_pos
      exact (Skips.number isBlank isNumber delimited behind).mono (by omega)
  | @string body isBody =>
      intro need brackets blank more rest isBlank _ behind
      have positive := (Derives.string isBody).opens.length_pos
      exact (Skips.string isBlank isBody behind).mono (by omega)
  | @list text texts _ inner =>
      intro need brackets blank more rest isBlank _ behind
      have opened := (inner need brackets more rest behind).opened .list isBlank
      rw [List.cons_append, List.append_assoc, List.singleton_append]
      refine opened.mono ?_
      simp only [List.length_cons, List.length_append, List.length_nil]
      omega
  | @object text members _ inner =>
      intro need brackets blank more rest isBlank _ behind
      have opened := (inner need brackets more rest behind).opened .object isBlank
      rw [List.cons_append, List.append_assoc, List.singleton_append]
      refine opened.mono ?_
      simp only [List.length_cons, List.length_append, List.length_nil]
      omega
  | noItem isBlank =>
      intro need brackets more rest behind
      exact (Skips.close .list isBlank behind).mono (by omega)
  | @item isFirst gap text more texts separated item further first others =>
      intro need brackets following rest behind
      have later := others need brackets following rest behind
      have delimited := further.items_delimited (following ++ rest)
      have positive := item.opens.length_pos
      have items := Skips.item separated item.opens fun blank isBlank =>
        first _ _ blank (more ++ ']' :: following) rest isBlank
          (by rwa [List.append_assoc, List.cons_append]) later
      rw [List.append_assoc, List.append_assoc]
      refine items.mono ?_
      simp only [List.length_append]
      omega
  | noMember isBlank =>
      intro need brackets more rest behind
      exact (Skips.close .object isBlank behind).mono (by omega)
  | @member isFirst gap body before between text more members separated isBody blankBefore
      blankBetween value further first others =>
      intro need brackets following rest behind
      have later := others need brackets following rest behind
      have delimited := further.members_delimited (following ++ rest)
      have positive := value.opens.length_pos
      have skipped := first _ _ between (more ++ '\x7d' :: following) rest blankBetween
        (by rwa [List.append_assoc, List.cons_append]) later
      have members := Skips.member separated isBody blankBefore skipped
      simp only [List.append_assoc, List.cons_append, List.nil_append] at members ⊢
      refine members.mono ?_
      simp only [List.length_append, List.length_cons]
      omega

/-- A value that nobody asked for is skipped, whatever value it is. -/
theorem skipValue_reads {text : List Char} (derives : Derives .value text) :
    Reads skipValue text () := by
  refine ⟨derives.opens, fun blank rest isBlank delimited => ?_⟩
  have ended : Skips 1 (.separator false) [] [] rest := by
    intro fuel enough
    rcases Nat.exists_eq_succ_of_ne_zero (Nat.ne_zero_of_lt enough) with ⟨fuel, rfl⟩
    exact .pure rest ()
  have skips := skips_of_derives derives 1 [] blank [] rest isBlank delimited ended
  rw [List.append_nil] at skips
  apply Consumes.remaining
  apply skips
  rw [List.length_append, List.length_append]
  omega

end Reader
end Json
end Capability

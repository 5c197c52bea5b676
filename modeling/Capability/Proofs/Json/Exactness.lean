import Capability.Proofs.Json.Skip

/-!
# Where readers stop

What is read of a text need not be what was wanted there.  But as long as a text is well
formed, a reader that gives a value has taken just the text of one value: it stops in front
of what follows, or it gives no value at all.  This is what keeps the members of an object
apart from each other, whatever their values are.

`Yields` says of the value of a reader and of what it leaves what holds if there is a value.
It is composed along a reader as `Consumes` is.
-/

namespace Capability
namespace Json
namespace Reader

variable {α β : Type}

/-- If the reader gives a value for a text, this holds of the value and of what is left. -/
def Yields (read : Reader α) (text : List Char) (post : α → List Char → Prop) : Prop :=
  ∀ offset value stopped, read ⟨offset, text⟩ = .ok value stopped → post value stopped.rest

namespace Yields

variable {text rest : List Char} {post : α → List Char → Prop} {after : β → List Char → Prop}

theorem trivial (read : Reader α) (text : List Char) : Yields read text fun _ _ => True :=
  fun _ _ _ _ => True.intro

theorem mono {weaker : α → List Char → Prop} {read : Reader α} (yields : Yields read text post)
    (weaken : ∀ value behind, post value behind → weaker value behind) : Yields read text weaker :=
  fun offset value stopped done => weaken _ _ (yields offset value stopped done)

theorem of_consumes {read : Reader α} {value : α} (consumes : Consumes read text rest value) :
    Yields read (text ++ rest) fun _ behind => behind = rest := by
  intro offset result stopped done
  rcases consumes offset with ⟨behind, taken⟩
  rw [taken] at done
  cases done
  rfl

theorem pure {value : α} (holds : post value text) : Yields (Pure.pure value) text post := by
  intro offset result stopped done
  cases done
  exact holds

theorem bind {read : Reader α} {next : α → Reader β} (first : Yields read text post)
    (second : ∀ value behind, post value behind → Yields (next value) behind after) :
    Yields (read >>= next) text after := by
  intro offset result stopped done
  change EStateM.bind read next _ = _ at done
  rw [EStateM.bind] at done
  cases taken : read ⟨offset, text⟩ with
  | error fault middle =>
      rw [taken] at done
      cases done
  | ok value middle =>
      rw [taken] at done
      exact second value middle.rest (first offset value middle taken) _ _ _ done

/-- Behind a reader that gives a value for sure. -/
theorem consumed {read : Reader α} {next : α → Reader β} {value : α}
    (consumes : Consumes read text rest value) (second : Yields (next value) rest after) :
    Yields (read >>= next) (text ++ rest) after := by
  intro offset result stopped done
  rcases consumes offset with ⟨behind, taken⟩
  change EStateM.bind read next _ = _ at done
  rw [EStateM.bind, taken] at done
  exact second _ _ _ done

theorem map {read : Reader α} (change : α → β) (first : Yields read text post)
    (second : ∀ value behind, post value behind → after (change value) behind) :
    Yields (change <$> read) text after := by
  intro offset result stopped done
  change EStateM.map change read _ = _ at done
  rw [EStateM.map] at done
  cases taken : read ⟨offset, text⟩ with
  | error fault middle =>
      rw [taken] at done
      cases done
  | ok value middle =>
      rw [taken] at done
      cases done
      exact second value _ (first offset value _ taken)

theorem settled {read : Reader α} (yields : Yields read text post) :
    Yields (Reader.settled read) text post := by
  intro offset value stopped done
  rw [Reader.settled] at done
  split at done
  · cases done
  · exact yields offset value stopped done

theorem bracketed {content : Reader α} {closing : Reader Unit} {final : α → List Char → Prop}
    (inner : Yields content text post)
    (ending : ∀ value behind, post value behind → Yields closing behind fun _ => final value) :
    Yields (Reader.bracketed content closing) text final := by
  intro offset value stopped done
  rw [Reader.bracketed] at done
  cases taken : content ⟨offset, text⟩ with
  | error fault middle =>
      rw [taken] at done
      simp only at done
      split at done <;> cases done
  | ok result middle =>
      rw [taken] at done
      simp only at done
      cases ended : closing middle with
      | error fault behind =>
          rw [ended] at done
          cases done
      | ok nothing behind =>
          rw [ended] at done
          cases done
          exact ending _ _ (inner offset _ _ taken) _ _ _ ended

/-! ### No value -/

theorem unplaced (cause : Cause) : Yields (Reader.unplaced cause) text post := nofun

theorem here (cause : Cause) : Yields (Reader.here cause) text post := nofun

theorem ahead (cause : Cause) : Yields (Reader.ahead cause) text post := nofun

theorem within (bytes : Nat) (cause : Cause) : Yields (Reader.within bytes cause) text post := nofun

theorem unexpected (expected : String) : Yields (Reader.unexpected expected) text post :=
  (trivial found text).bind fun _ _ _ => unplaced _

/-! ### Looking ahead -/

theorem peek {next : Option Char → Reader β} (second : Yields (next text.head?) text after) :
    Yields (peek? >>= next) text after := second

theorem remaining {next : Nat → Reader β} (second : Yields (next text.length) text after) :
    Yields (Reader.remaining >>= next) text after := second

theorem advance (c : Char) {final : Unit → List Char → Prop} (holds : final () text) :
    Yields Reader.advance (c :: text) final := by
  intro offset value stopped done
  cases done
  exact holds

theorem advanced {c : Char} {next : Unit → Reader β} (second : Yields (next ()) text after) :
    Yields (Reader.advance >>= next) (c :: text) after :=
  fun offset => second (offset + c.utf8Size)

theorem peekToken {next : Option Char → Reader β} {blank : List Char} (isBlank : AllBlank blank)
    (solid : text.head?.any Json.isBlank = false) (second : Yields (next text.head?) text after) :
    Yields (peekToken? >>= next) (blank ++ text) after := by
  intro offset value stopped done
  rcases skipBlankFrom_append isBlank solid offset with ⟨middle, skipped⟩
  change (next (skipBlankFrom offset (blank ++ text)).peek?)
    (skipBlankFrom offset (blank ++ text)) = _ at done
  rw [skipped] at done
  exact second _ _ _ done

end Yields

/-! ## Strings -/

variable {rest : List Char}

theorem pairMark_yields {c mark : Char} (different : c ≠ mark) {next : Unit → Reader β}
    {text : List Char} {post : β → List Char → Prop} :
    Yields (pairMark mark >>= next) (c :: text) post := by
  have never : Yields (pairMark mark) (c :: text) fun _ _ => False := by
    refine .peek ?_
    simp only [List.head?_cons, different, if_false]
    exact .within 1 _
  exact never.bind fun _ _ => False.elim

theorem pairMark_yields_next {mark : Char} {next : Unit → Reader β} {text : List Char}
    {post : β → List Char → Prop} (second : Yields (next ()) text post) :
    Yields (pairMark mark >>= next) (mark :: text) post :=
  .consumed (pairMark_consumes mark text) second

/-- A code unit is read by itself, or with the other half of a character behind it. -/
theorem unicodeEscape_yields {number : Nat} {digits body : List Char} (four : digits.length = 4)
    (hex : hexNumber? 0 digits = some number) (isBody : IsBody body) :
    Yields unicodeEscape (digits ++ (body ++ '"' :: rest)) fun c behind =>
      ∃ others, behind = others ++ '"' :: rest ∧ IsBody others ∧
        ∀ text, Spelled text others → Spelled (c :: text) ('\\' :: 'u' :: (digits ++ body)) := by
  refine .consumed (hexEscape_consumes four hex (body ++ '"' :: rest)) ?_
  split
  case isTrue => exact .here _
  case isFalse notLow =>
    simp only [Bool.and_eq_true, decide_eq_true_eq] at notLow
    split
    case isTrue whole =>
      simp only [Bool.or_eq_true, decide_eq_true_eq] at whole
      exact .pure ⟨body, rfl, isBody, fun _ spelled => .unit four hex (by omega) spelled⟩
    case isFalse half =>
      simp only [Bool.or_eq_true, decide_eq_true_eq] at half
      cases isBody with
      | nil => exact pairMark_yields (by decide)
      | plain _ _ noEscape _ => exact pairMark_yields noEscape
      | @letter c letter others stands isBody =>
          refine pairMark_yields_next (pairMark_yields ?_)
          rintro rfl
          cases stands
      | @unit low second others secondFour secondHex isBody =>
          refine pairMark_yields_next (pairMark_yields_next ?_)
          change Yields _ (second ++ others ++ '"' :: rest) _
          rw [List.append_assoc]
          refine .consumed (hexEscape_consumes secondFour secondHex _) ?_
          split
          case isTrue => exact .here _
          case isFalse isLow =>
            simp only [Bool.or_eq_true, decide_eq_true_eq] at isLow
            exact .pure ⟨others, rfl, isBody, fun _ spelled => .pair four hex (by omega) (by omega)
              secondFour secondHex (by omega) (by omega) spelled⟩

/-- What is read behind some characters is spelled by the body. -/
theorem stringRest_yields (fuel : Nat) {body : List Char} (isBody : IsBody body)
    (read : List Char) :
    Yields (stringRest fuel read) (body ++ '"' :: rest) fun value behind => behind = rest ∧
      ∃ text, Spelled text body ∧ value = String.ofList (read.reverse ++ text) := by
  -- A pair of code units is read at once, so the induction is on the fuel and not on the body.
  induction fuel generalizing body read with
  | zero => exact .here _
  | succ fuel inductionHypothesis =>
      have behindOne : ∀ {c : Char} {others : List Char}, IsBody others →
          (∀ text, Spelled text others → Spelled (c :: text) body) →
          Yields (stringRest fuel (c :: read)) (others ++ '"' :: rest) fun value behind =>
            behind = rest ∧
              ∃ text, Spelled text body ∧ value = String.ofList (read.reverse ++ text) := by
        intro c others isBody spells
        refine (inductionHypothesis isBody (c :: read)).mono ?_
        rintro value behind ⟨same, text, spelled, rfl⟩
        refine ⟨same, c :: text, spells text spelled, ?_⟩
        rw [List.reverse_cons, List.append_assoc, List.singleton_append]
      cases isBody with
      | nil => exact .peek (.advanced (.pure ⟨rfl, [], .nil, by rw [List.append_nil]⟩))
      | @plain c body printable noQuote noEscape isBody =>
          refine .peek ?_
          simp only [List.cons_append, List.head?_cons]
          rw [if_neg (Nat.not_lt.mpr printable)]
          exact .advanced (behindOne isBody fun _ => .plain printable noQuote noEscape)
      | @letter c letter body stands isBody =>
          have escape : Yields (escaped >>= fun c => stringRest fuel (c :: read))
              ([letter] ++ (body ++ '"' :: rest)) _ :=
            .consumed (escaped_consumes_letter stands _)
              (behindOne isBody fun _ => .letter stands)
          exact .peek (.advanced escape)
      | @unit number digits body four hex isBody =>
          have escape : Yields escaped ('u' :: (digits ++ (body ++ '"' :: rest))) _ :=
            .peek (.advanced (unicodeEscape_yields four hex isBody))
          rw [← List.append_assoc] at escape
          refine .peek (.advanced (escape.bind ?_))
          rintro c _ ⟨others, rfl, isBody, spells⟩
          exact behindOne isBody spells

/-- A name is read up to the quotation mark behind it, and as the text that its body spells. -/
theorem stringToken_yields {body : List Char} (isBody : IsBody body) :
    Yields stringToken (inQuotes body ++ rest) fun name behind =>
      behind = rest ∧ Spelled name.toList body := by
  have text : inQuotes body ++ rest = '"' :: (body ++ '"' :: rest) := by
    rw [inQuotes, List.cons_append, List.append_assoc, List.singleton_append]
  rw [text]
  refine .advanced (.remaining ((stringRest_yields _ isBody []).mono ?_))
  rintro _ _ ⟨same, text, spelled, rfl⟩
  exact ⟨same, by rwa [String.toList_ofList]⟩

/-- A body spells one text at most. -/
theorem Spelled.unique {first second : String} {body : List Char}
    (left : Spelled first.toList body) (right : Spelled second.toList body) : first = second := by
  rcases stringToken_consumes left [] 0 with ⟨_, leftRead⟩
  rcases stringToken_consumes right [] 0 with ⟨_, rightRead⟩
  rw [String.ofList_toList] at leftRead rightRead
  rw [leftRead] at rightRead
  cases rightRead
  rfl

/-! ## Numbers -/

/-- Whether a number was read as a double. -/
def Number.IsReal (number : Number) : Prop := ∃ bits, number = .real bits

theorem scaled_yields (positive : Bool) (significand : Nat) (exponent : Int) (text : List Char) :
    Yields (scaled positive significand exponent) text fun number _ => number.IsReal := by
  have reals : ∀ value : Float, Yields (Pure.pure (signed positive value)) text
      fun number _ => number.IsReal := fun _ => .pure ⟨_, rfl⟩
  unfold scaled
  simp only
  split
  case isTrue =>
    split
    · exact reals _
    · exact .here _
  case isFalse =>
    split <;> split
    · exact .here _
    · exact reals _
    · exact reals _
    · exact reals _

theorem exponentPart_yields (positive : Bool) (significand : Nat) (exponent : Int) (c : Char)
    (text : List Char) : Yields (exponentPart positive significand exponent) (c :: text)
      fun number _ => number.IsReal := by
  refine .advanced ((Yields.trivial _ _).bind fun raises behind _ => .peek ?_)
  cases behind with
  | nil => exact .here _
  | cons digit more =>
      simp only [List.head?_cons]
      split
      · exact .within 1 _
      · refine .advanced (.remaining ((Yields.trivial _ _).bind fun power _ _ => ?_))
        cases power with
        | some power => exact scaled_yields _ _ _ _
        | none =>
            simp only
            split
            · exact .here _
            · exact (Yields.trivial _ _).bind fun _ _ _ => .pure ⟨_, rfl⟩

theorem exponentOrEnd_yields (positive : Bool) (significand : Nat) (exponent : Int)
    (text : List Char) : Yields (exponentOrEnd positive significand exponent) text
      fun number _ => number.IsReal := by
  refine .peek ?_
  cases text with
  | nil => exact scaled_yields _ _ _ _
  | cons c more =>
      simp only [List.head?_cons]
      split
      · exact exponentPart_yields _ _ _ _ _
      · exact exponentPart_yields _ _ _ _ _
      · exact scaled_yields _ _ _ _

theorem fractionPart_yields (positive : Bool) (significand : Nat) (exponent : Int) (c : Char)
    (text : List Char) : Yields (fractionPart positive significand exponent) (c :: text)
      fun number _ => number.IsReal := by
  refine .advanced (.remaining ((Yields.trivial _ _).bind fun fitting _ _ =>
    (Yields.trivial _ _).bind fun beyond behind _ => ?_))
  rcases fitting with ⟨collected, count⟩
  simp only
  split
  · refine .peek ?_
    cases behind <;> exact .ahead _
  · exact exponentOrEnd_yields _ _ _ _

theorem afterLongInteger_yields (positive : Bool) (significand exponent : Nat)
    (text : List Char) : Yields (afterLongInteger positive significand exponent) text
      fun number _ => number.IsReal := by
  refine .peek ?_
  cases text with
  | nil => exact exponentOrEnd_yields _ _ _ _
  | cons c more =>
      simp only [List.head?_cons]
      split
      · exact fractionPart_yields _ _ _ _ _
      · exact exponentOrEnd_yields _ _ _ _

theorem Number.IsReal.ne_integer {number : Number} (isReal : number.IsReal) (value : Int) :
    number ≠ .integer value := by
  rcases isReal with ⟨bits, rfl⟩
  nofun

/-- Behind a sign no integer is read that is not negative. -/
theorem unsigned_yields_negative (text : List Char) :
    Yields (unsigned false) text fun number _ => ∀ value, number = .integer value → value < 0 := by
  have ofReal : ∀ number : Number, ∀ behind : List Char, number.IsReal →
      ∀ value, number = .integer value → value < 0 :=
    fun _ _ isReal value isInteger => absurd isInteger (isReal.ne_integer value)
  have afterDigits : ∀ significand behind, Yields (afterInteger false significand) behind
      fun number _ => ∀ value, number = .integer value → value < 0 := by
    intro significand behind
    refine .peek ?_
    have finished : Yields
        (if significand = 0 || Nat.pow 2 63 < significand then
          Pure.pure (signed false (UInt64.ofNat significand).toFloat)
        else Pure.pure (Number.integer (-(significand : Int)))) behind
        fun number _ => ∀ value, number = .integer value → value < 0 := by
      split
      case isTrue => exact .pure nofun
      case isFalse small =>
        simp only [Bool.or_eq_true, decide_eq_true_eq, not_or] at small
        refine .pure ?_
        rintro value ⟨⟩
        omega
    cases behind with
    | nil => exact finished
    | cons c more =>
        simp only [List.head?_cons]
        split
        · exact (fractionPart_yields _ _ _ _ _).mono ofReal
        · exact (exponentPart_yields _ _ _ _ _).mono ofReal
        · exact (exponentPart_yields _ _ _ _ _).mono ofReal
        · exact finished
  refine .peek ?_
  cases text with
  | nil => exact .here _
  | cons c more =>
      simp only [List.head?_cons]
      split
      · next none => cases none
      · refine .advanced (.peek ?_)
        cases more.head? with
        | none => exact afterDigits _ _
        | some next =>
            simp only
            split
            · exact .ahead _
            · exact afterDigits _ _
      · split
        · exact .within 1 _
        · refine .advanced (.remaining ((Yields.trivial _ _).bind fun fitting _ _ =>
            (Yields.trivial _ _).bind fun beyond behind _ => ?_))
          cases beyond with
          | zero => exact afterDigits _ _
          | succ beyond => exact (afterLongInteger_yields _ _ _ _).mono ofReal

/-- Of digits that nothing continues some are collected, and the others are left. -/
theorem digitsFitting_yields (fuel number count : Nat) {digits tail : List Char}
    (noDigit : NoDigit tail) :
    Yields (digitsFitting fuel number count) (digits ++ tail) fun _ behind =>
      ∃ left, left <:+ digits ∧ behind = left ++ tail := by
  induction fuel generalizing number count digits with
  | zero => exact .pure ⟨digits, List.suffix_refl _, rfl⟩
  | succ fuel inductionHypothesis =>
      have stays : Yields (Pure.pure (number, count)) (digits ++ tail) fun _ behind =>
          ∃ left, left <:+ digits ∧ behind = left ++ tail :=
        .pure ⟨digits, List.suffix_refl _, rfl⟩
      refine .peek ?_
      cases digits with
      | nil =>
          cases found : tail.head? with
          | none =>
              simp only [List.nil_append, found]
              exact stays
          | some c =>
              simp only [List.nil_append, found, noDigit c found]
              exact stays
      | cons c digits =>
          simp only [List.cons_append, List.head?_cons]
          split
          case isFalse => exact stays
          case isTrue =>
            split
            case isFalse => exact stays
            case isTrue =>
              refine .advanced ((inductionHypothesis _ _).mono ?_)
              rintro _ _ ⟨left, suffix, rfl⟩
              exact ⟨left, suffix.trans (List.suffix_cons c digits), rfl⟩

/-- An integer is read only where neither a fraction nor an exponent follows. -/
theorem afterInteger_yields (significand : Nat) {fraction exponent rest : List Char}
    (isFraction : IsFraction fraction) (isExponent : IsExponent exponent)
    (delimited : Delimited rest) :
    Yields (afterInteger true significand) (fraction ++ exponent ++ rest) fun number behind =>
      ∀ value, number = .integer value → behind = rest := by
  have ofReal : ∀ number : Number, ∀ behind : List Char, number.IsReal →
      ∀ value, number = .integer value → behind = rest :=
    fun _ _ isReal value isInteger => absurd isInteger (isReal.ne_integer value)
  cases isFraction with
  | point _ => exact .peek ((fractionPart_yields _ _ _ _ _).mono ofReal)
  | absent =>
      cases isExponent with
      | mark isMark _ _ =>
          refine .peek ?_
          rcases isMark with rfl | rfl <;> exact (exponentPart_yields _ _ _ _ _).mono ofReal
      | absent =>
          have whole := Yields.of_consumes (afterInteger_consumes delimited significand)
          exact whole.mono fun _ _ same _ _ => same

/-- What is read as an integer is the whole text of a number. -/
theorem unsigned_yields_integer {text rest : List Char} (isUnsigned : IsUnsigned text)
    (delimited : Delimited rest) :
    Yields (unsigned true) (text ++ rest) fun number behind =>
      ∀ value, number = .integer value → behind = rest := by
  cases isUnsigned with
  | @intro whole fraction exponent isWhole isFraction isExponent =>
      have noDigit := isFraction.noDigit isExponent delimited
      have ending := fun significand =>
        afterInteger_yields significand isFraction isExponent delimited
      rw [List.append_assoc]
      cases isWhole with
      | zero =>
          change Yields _ ('0' :: (fraction ++ exponent ++ rest)) _
          refine .peek (.advanced (.peek ?_))
          cases found : (fraction ++ exponent ++ rest).head? with
          | none => exact ending 0
          | some c =>
              simp only [noDigit c found]
              exact ending 0
      | @digits c more nonzero areDigits =>
          have isDigit := areDigits c List.mem_cons_self
          refine .peek ?_
          simp only [List.cons_append, List.head?_cons, isDigit, Bool.not_true, Bool.false_eq_true,
            if_false]
          refine .advanced (.remaining ((digitsFitting_yields _ _ _ noDigit).bind ?_))
          rintro fitting _ ⟨left, suffix, rfl⟩
          -- The digits that did not fit are skipped, and there is no integer if there are any.
          have allDigits : ∀ digit ∈ left, digit.isDigit = true := fun digit member =>
            areDigits digit (List.mem_cons_of_mem _ (suffix.mem member))
          refine .consumed (skipDigits_consumes_all allDigits noDigit) ?_
          cases left with
          | nil => exact ending _
          | cons digit others =>
              refine (afterLongInteger_yields _ _ _ _).mono fun _ _ isReal value isInteger => ?_
              exact absurd isInteger (isReal.ne_integer value)

/-! ## Scalars -/

/-- In front of what continues no number, the reader takes just the text of a well-formed value
if it gives a value for it. -/
def Exact (read : Reader α) : Prop :=
  ∀ text, Derives .value text → ∀ blank rest, AllBlank blank → Delimited rest →
    Yields read (blank ++ (text ++ rest)) fun _ behind => behind = rest

theorem boolean_exact : Exact boolean := by
  intro text derives blank rest isBlank delimited
  refine .settled (.peekToken isBlank (derives.opens.solid rest) ?_)
  cases derives with
  | boolean truth =>
      cases truth with
      | false => exact .consumed (knownWord_consumes rest rfl) (.pure rfl)
      | true => exact .consumed (knownWord_consumes rest rfl) (.pure rfl)
  | number isNumber =>
      rcases isNumber.begins with ⟨c, more, rfl, _, _, noTrue, noFalse, _⟩
      simp only [List.cons_append, List.head?_cons]
      exact .unexpected _
  | null | string _ | list _ | object _ => exact .unexpected _

theorem text_exact : Exact Reader.text := by
  intro text derives blank rest isBlank delimited
  refine .settled (.peekToken isBlank (derives.opens.solid rest) ?_)
  cases derives with
  | string isBody => exact (stringToken_yields isBody).mono fun _ _ read => read.1
  | number isNumber =>
      rcases isNumber.begins with ⟨c, more, rfl, _, _, _, _, noQuote, _⟩
      simp only [List.cons_append, List.head?_cons]
      exact .unexpected _
  | boolean truth => cases truth <;> exact .unexpected _
  | null | list _ | object _ => exact .unexpected _

theorem size_exact : Exact size := by
  intro text derives blank rest isBlank delimited
  refine .settled (.peekToken isBlank (derives.opens.solid rest) ?_)
  cases derives with
  | number isNumber =>
      cases isNumber with
      | positive isUnsigned =>
          have read := unsigned_yields_integer isUnsigned delimited
          rcases isUnsigned.eq_cons with ⟨c, more, rfl, isDigit⟩
          have noSign := (ne_of_isDigit isDigit).2.2.2.1
          have number : Yields Reader.number (c :: more ++ rest) fun number behind =>
              ∀ value, number = .integer value → behind = rest := by
            refine .peek ?_
            split
            · next found => exact absurd (Option.some.inj found) noSign
            · exact read
          simp only [List.cons_append, List.head?_cons, isDigit, Bool.or_true, if_true]
          refine number.bind fun number behind whole => ?_
          cases number with
          | real bits => exact .unplaced _
          | integer value =>
              simp only
              split
              · exact .unplaced _
              · exact .pure (whole value rfl)
      | @negative text _ =>
          refine (Yields.peek (.advanced (unsigned_yields_negative (text ++ rest)))).bind ?_
          intro number behind negative
          cases number with
          | real bits => exact .unplaced _
          | integer value =>
              simp only [negative value rfl, if_true]
              exact .unplaced _
  | boolean truth => cases truth <;> exact .unexpected _
  | null | string _ | list _ | object _ => exact .unexpected _

/-! ## Choices -/

variable {name : α → String} {all : List α}

theorem choiceName_yields {body rest : List Char} (isBody : IsBody body) :
    Yields (choiceName name all) (inQuotes body ++ rest) fun _ behind => behind = rest := by
  refine .settled ((stringToken_yields isBody).bind ?_)
  rintro chosen _ ⟨rfl, _⟩
  split
  · exact .pure rfl
  · exact .unplaced _

theorem unit_yields {text blank rest : List Char} (derives : Derives .value text)
    (isBlank : AllBlank blank) :
    Yields unit (blank ++ (text ++ rest)) fun _ behind => behind = rest := by
  refine .settled (.peekToken isBlank (derives.opens.solid rest) ?_)
  cases derives with
  | null => exact .of_consumes (knownWord_consumes rest rfl)
  | number isNumber =>
      rcases isNumber.begins with ⟨c, more, rfl, _, noNull, _⟩
      simp only [List.cons_append, List.head?_cons]
      exact .unexpected _
  | boolean truth => cases truth <;> exact .unexpected _
  | string _ | list _ | object _ => exact .unexpected _

/-- The name is read where a choice is bound to something. -/
theorem choiceKey_yields {text rest : List Char} {members : List (List Char × List Char)}
    (derives : Derives (.members true members) text) :
    Yields (choiceKey name all) (text ++ '\x7d' :: rest) fun _ behind =>
      ∃ before between content more others,
        behind = (before ++ [':']) ++ (between ++ (content ++ (more ++ '\x7d' :: rest))) ∧
          AllBlank before ∧ AllBlank between ∧ Derives .value content ∧
          Derives (.members false others) more := by
  cases derives with
  | noMember isBlank => exact .peekToken isBlank rfl (.ahead _)
  | @member _ gap body before between content more others separated isBody blankBefore blankBetween
      value further =>
      cases separated with
      | first isBlank =>
          rw [List.append_assoc, List.append_assoc]
          refine .peekToken isBlank rfl ((choiceName_yields isBody).mono ?_)
          rintro _ _ rfl
          refine ⟨before, between, content, more, others, ?_, blankBefore, blankBetween, value,
            further⟩
          simp only [List.append_assoc, List.cons_append, List.nil_append]

theorem choice_exact : Exact (choice name all) := by
  intro text derives blank rest isBlank delimited
  refine .peekToken isBlank (derives.opens.solid rest) ?_
  cases derives with
  | string isBody => exact choiceName_yields isBody
  | @object text members derives =>
      have content : '\x7b' :: (text ++ ['\x7d']) ++ rest = '\x7b' :: (text ++ '\x7d' :: rest) := by
        rw [List.cons_append, List.append_assoc, List.singleton_append]
      rw [content]
      refine .advanced ((choiceKey_yields derives).bind ?_)
      rintro chosen _ ⟨before, between, content, more, others, rfl, blankBefore, blankBetween, value,
        further⟩
      refine .consumed (colon_consumes blankBefore _) ((unit_yields value blankBetween).bind ?_)
      rintro _ _ rfl
      cases further with
      | noMember isBlank => exact .peekToken isBlank rfl (.advanced (.pure rfl))
      | member separated _ _ _ _ _ =>
          cases separated with
          | next blankFront _ =>
              rw [List.append_assoc, List.append_assoc]
              exact .peekToken blankFront rfl (.here _)
  | number isNumber =>
      rcases isNumber.begins with ⟨c, more, rfl, _, _, _, _, noQuote, _, noObject⟩
      simp only [List.cons_append, List.head?_cons]
      exact .ahead _
  | boolean truth => cases truth <;> exact .ahead _
  | null | list _ => exact .ahead _

end Reader
end Json
end Capability

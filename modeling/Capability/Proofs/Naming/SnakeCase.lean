import Capability.Naming
import Capability.Proofs.Code.Word
import Capability.Unicode.Run

/-!
# Snake case of a word

Snake case lowers the capitals of a name one by one and sets underscores between
them.  That a word stays a word rests on the tables of characters: what may start
or continue a word may do so in lower case too.  The tables list runs of
characters, so that this is checked run by run and not character by character.  A run of
capitals either holds no member of the property at all, or its lower-case forms
lie within one run of the property, or it is a single capital beyond ASCII whose
form is an ASCII letter.
-/

namespace Capability
namespace Unicode

/-! ## Runs -/

theorem toNat_ofNat (code : Nat) :
    (Char.ofNat code).toNat = if code.isValidChar then code else 0 := by
  by_cases valid : code.isValidChar
  · rw [Char.ofNat, dif_pos valid, if_pos valid]
    rfl
  · rw [Char.ofNat, dif_neg valid, if_neg valid]
    rfl

/-- Where the lower-case forms of a run of capitals begin. -/
def Lowering.first (lowering : Lowering) : Nat := (lowering.run.first + lowering.shift).toNat

/-- Where the lower-case forms of a run of capitals end. -/
def Lowering.last (lowering : Lowering) : Nat := (lowering.run.last + lowering.shift).toNat

/-- The code point of the lower-case form of a code point. -/
def Lowering.shifted (lowering : Lowering) (code : Nat) : Nat := (code + lowering.shift).toNat

theorem Lowering.shifted_bounds {lowering : Lowering} {code : Nat}
    (covered : lowering.run.covers code = true) :
    lowering.first ≤ lowering.shifted code ∧ lowering.shifted code ≤ lowering.last := by
  have bounds := Run.bounds_of_covers covered
  simp only [first, last, shifted]
  omega

/-- What the lower-case form of a character can be. -/
inductive Lowered (c : Char) : Prop where
  | ascii : c.toNat < 0x80 → lower c = [c.toLower] → Lowered c
  /-- The capital I with a dot above. -/
  | dotted : c.toNat = 0x130 → lower c = ['i', Char.ofNat 0x307] → Lowered c
  | listed {lowering : Lowering} : ¬c.toNat < 0x80 → lowering ∈ loweringRuns →
      lowering.run.covers c.toNat = true →
      lower c = [Char.ofNat (lowering.shifted c.toNat)] → Lowered c
  | same : ¬c.toNat < 0x80 → lower c = [c] → Lowered c

theorem lowered (c : Char) : Lowered c := by
  by_cases below : c.toNat < 0x80
  · exact .ascii below (lower_of_ascii below)
  · by_cases dotted : c.toNat = 0x130
    · exact .dotted dotted (by rw [lower, if_neg below, if_pos dotted])
    · cases found : loweringRuns.find? fun lowering => lowering.run.covers c.toNat with
      | none => exact .same below (by rw [lower, if_neg below, if_neg dotted, found])
      | some lowering =>
          have covered := List.find?_some found
          apply Lowered.listed below (List.mem_of_find?_eq_some found) covered
          rw [lower, if_neg below, if_neg dotted, found]
          rfl

/-- Whether the lower-case forms of a run of capitals that has members in a property are
members again. -/
def Lowering.keeps (ascii : Char → Bool) (runs : List Run) (lowering : Lowering) : Bool :=
  runs.all lowering.run.isApart
    || runs.any (fun run =>
        run.step.beq 1 && run.first.ble lowering.first && lowering.last.ble run.last)
      && 0x80 ≤ lowering.first
      && (lowering.last < 0xD800 || (0xDFFF < lowering.first && lowering.last < 0x110000))
    || lowering.run.first == lowering.run.last && lowering.first < 0x80
      && ascii (Char.ofNat lowering.first)

/-- A property of characters that lowering does not leave. -/
structure KeptByLowering (ascii : Char → Bool) (runs : List Run) : Prop where
  below : ∀ code : Fin 0x80, ascii (Char.ofNat code) = true →
    ascii (Char.ofNat code).toLower = true ∧ (Char.ofNat code).toLower.toNat < 0x80
  dotted : ascii 'i' = true
  beyond : loweringRuns.all (Lowering.keeps ascii runs) = true

theorem keptByLowering_identifierStart :
    KeptByLowering (fun c => c.isAlpha || c == '_') identifierStartRuns where
  below := by decide
  dotted := by decide
  beyond := by decide +kernel

theorem keptByLowering_identifierContinue :
    KeptByLowering (fun c => c.isAlphanum || c == '_') identifierContinueRuns where
  below := by decide
  dotted := by decide
  beyond := by decide +kernel

namespace KeptByLowering

variable {ascii : Char → Bool} {runs : List Run}

theorem toLower_of_ascii (kept : KeptByLowering ascii runs) {c : Char} (below : c.toNat < 0x80)
    (belongs : member ascii runs c = true) : member ascii runs c.toLower = true := by
  rw [member_of_ascii below] at belongs
  have lowered := ascii_forall
    (P := fun c => ascii c = true → ascii c.toLower = true ∧ c.toLower.toNat < 0x80)
    kept.below below
  rcases lowered belongs with ⟨again, belowAgain⟩
  rw [member_of_ascii belowAgain]
  exact again

/-- A capital beyond ASCII whose form is listed keeps to the property. -/
theorem shifted (kept : KeptByLowering ascii runs) {lowering : Lowering}
    (listed : lowering ∈ loweringRuns) {c : Char} (covered : lowering.run.covers c.toNat = true)
    (beyond : ¬ c.toNat < 0x80) (belongs : member ascii runs c = true) :
    member ascii runs (Char.ofNat (lowering.shifted c.toNat)) = true := by
  have keeps := List.all_eq_true.mp kept.beyond lowering listed
  simp only [Lowering.keeps, Bool.or_eq_true, Bool.and_eq_true, decide_eq_true_eq] at keeps
  rcases keeps with (apart | ⟨⟨within, below⟩, valid⟩) | ⟨⟨single, below⟩, again⟩
  · -- No run of the property meets the run of capitals, but the character is in both.
    rw [Run.not_member_of_isApart apart covered beyond] at belongs
    cases belongs
  · rcases List.any_eq_true.mp within with ⟨run, ofProperty, holds⟩
    simp only [Bool.and_eq_true, Nat.ble_eq] at holds
    have bounds := Lowering.shifted_bounds covered
    have isValid : (lowering.shifted c.toNat).isValidChar := by
      rcases valid with before | behind
      · exact .inl (by omega)
      · exact .inr (by omega)
    rw [member, toNat_ofNat, if_pos isValid, if_neg (by omega)]
    exact List.any_eq_true.mpr ⟨run, ofProperty, Run.covers_of_bounds
      (Nat.eq_of_beq_eq_true holds.1.1) (by omega) (by omega)⟩
  · have same : lowering.shifted c.toNat = lowering.first := by
      have here := Run.bounds_of_covers covered
      rw [beq_iff_eq] at single
      rw [Lowering.shifted, Lowering.first]
      omega
    have isValid : lowering.first.isValidChar := .inl (by omega)
    have isBelow : (Char.ofNat lowering.first).toNat < 0x80 := by
      rw [toNat_ofNat, if_pos isValid]
      exact below
    rw [same, member_of_ascii isBelow]
    exact again

/-- The lower-case form of a character begins in a property that is kept, and what follows
can only be the dot of the dotted capital I. -/
theorem lower (kept : KeptByLowering ascii runs) {c : Char}
    (belongs : member ascii runs c = true) :
    ∃ lowered more, Unicode.lower c = lowered :: more ∧ member ascii runs lowered = true ∧
      (more = [] ∨ more = [Char.ofNat 0x307]) := by
  cases lowered c with
  | ascii below form =>
      exact ⟨c.toLower, [], form, kept.toLower_of_ascii below belongs, .inl rfl⟩
  | dotted _ form =>
      have isMember : member ascii runs 'i' = true :=
        (member_of_ascii (by decide)).trans kept.dotted
      exact ⟨'i', _, form, isMember, .inr rfl⟩
  | listed beyond listed covered form =>
      exact ⟨_, [], form, kept.shifted listed covered beyond belongs, .inl rfl⟩
  | same _ form => exact ⟨c, [], form, belongs, .inl rfl⟩

end KeptByLowering

/-! ## What lowering does not give -/

theorem bounds_of_isUpper {c : Char} (isUpper : c.isUpper = true) :
    0x41 ≤ c.toNat ∧ c.toNat ≤ 0x5A := by
  change decide (0x41 ≤ c.val ∧ c.val ≤ 0x5A) = true at isUpper
  exact of_decide_eq_true isUpper

theorem isUppercase_of_isUpper {c : Char} (isUpper : c.isUpper = true) : isUppercase c = true := by
  have below : c.toNat < 0x80 := Nat.lt_of_le_of_lt (bounds_of_isUpper isUpper).2 (by decide)
  rw [isUppercase, member_of_ascii below, isUpper]

/-- Beyond ASCII no lower-case form has an ASCII character in it that comes before the small
letters. -/
theorem lower_of_beyond {c small : Char} (beyond : ¬c.toNat < 0x80) (member : small ∈ lower c) :
    small.toNat = 0 ∨ 0x5F < small.toNat := by
  cases lowered c with
  | ascii below _ => exact absurd below beyond
  | dotted _ form =>
      rw [form, List.mem_cons, List.mem_singleton] at member
      rcases member with rfl | rfl
      · exact .inr (by decide)
      · exact .inr (by decide)
  | @listed lowering _ listed covered form =>
      have apart : ∀ lowering ∈ loweringRuns, 0x5F < lowering.first := by
        decide +kernel
      have above := apart lowering listed
      have shifted := Lowering.shifted_bounds covered
      rw [form, List.mem_singleton] at member
      rw [member, toNat_ofNat]
      split <;> omega
  | same _ form =>
      rw [form, List.mem_singleton] at member
      rw [member]
      omega

/-- No lower-case form has a capital of ASCII in it. -/
theorem capital_not_mem_lower {capital : Char} (isUpper : capital.isUpper = true) (c : Char) :
    capital ∉ lower c := by
  have bounds := bounds_of_isUpper isUpper
  intro member
  by_cases below : c.toNat < 0x80
  · have lowered := ascii_forall (P := fun c => c.toLower.isUpper = false) (by decide) below
    rw [lower_of_ascii below, List.mem_singleton] at member
    rw [member, lowered] at isUpper
    cases isUpper
  · have apart := lower_of_beyond below member
    omega

end Unicode

/-! ## Snake case -/

namespace Naming

open Code
open Unicode (isIdentifierStart isIdentifierContinue)

/-- The dot that is left of the dotted capital I. -/
theorem dot_continues : isIdentifierContinue (Char.ofNat 0x307) = true := by
  decide

/-- The lower-case form of a character that may continue a word continues it. -/
theorem lower_continues {c : Char} (continued : isIdentifierContinue c = true) :
    (Unicode.lower c).all isIdentifierContinue = true := by
  rcases Unicode.keptByLowering_identifierContinue.lower continued with
    ⟨lowered, more, form, isContinued, rfl | rfl⟩
  · rw [form, List.all_cons, List.all_nil, isIdentifierContinue, isContinued]
    rfl
  · rw [form, List.all_cons, List.all_cons, List.all_nil, dot_continues, isIdentifierContinue,
      isContinued]
    rfl

theorem snakeFrom_continues {text : List Char} (continued : text.all isIdentifierContinue = true)
    (before : Option Char) : (snakeFrom before text).all isIdentifierContinue = true := by
  induction text generalizing before with
  | nil => rfl
  | cons c rest inductionHypothesis =>
      rw [List.all_cons, Bool.and_eq_true] at continued
      have underscore : isIdentifierContinue '_' = true := by
        decide
      have later := inductionHypothesis continued.2 (some c)
      have lowered := lower_continues continued.1
      rw [snakeFrom]
      split
      · split <;> simp [underscore, lowered, later]
      · simp [continued.1, later]

/-- Snake case makes words of words. -/
theorem isPlainWord_snakeFrom {text : List Char} (word : Lexeme.isPlainWord text = true) :
    Lexeme.isPlainWord (snakeFrom none text) = true := by
  rcases (Lexeme.isPlainWord_iff text).mp word with ⟨c, rest, rfl, start, continued⟩
  have later := snakeFrom_continues continued (some c)
  rw [snakeFrom]
  split
  · rcases Unicode.keptByLowering_identifierStart.lower start with
      ⟨lowered, more, form, isStart, dot⟩
    have moreContinued : more.all isIdentifierContinue = true := by
      rcases dot with rfl | rfl
      · rfl
      · rw [List.all_cons, List.all_nil, dot_continues]
        rfl
    rw [opensWord, if_neg Bool.false_ne_true, form, List.cons_append, Lexeme.isPlainWord_cons,
      List.all_append, moreContinued, later, isIdentifierStart, isStart]
    rfl
  · rw [Lexeme.isPlainWord_cons, start, later]
    rfl

/-- No name in snake case has a capital of ASCII in it. -/
theorem capital_not_mem_snakeFrom {capital : Char} (isUpper : capital.isUpper = true)
    (before : Option Char) (text : List Char) : capital ∉ snakeFrom before text := by
  induction text generalizing before with
  | nil => exact List.not_mem_nil
  | cons c rest inductionHypothesis =>
      have later := inductionHypothesis (some c)
      have lowered := Unicode.capital_not_mem_lower isUpper c
      have noUnderscore : capital ≠ '_' := by
        rintro rfl
        exact absurd isUpper (by decide)
      rw [snakeFrom]
      split
      · split <;> simp [lowered, later, noUnderscore]
      · next small =>
          have other : capital ≠ c := by
            rintro rfl
            exact small (Unicode.isUppercase_of_isUpper isUpper)
          simp [other, later]

theorem capital_not_mem_snakeCase {capital : Char} (isUpper : capital.isUpper = true)
    (name : String) : capital ∉ (snakeCase name).toList := by
  rw [snakeCase, String.toList_ofList]
  exact capital_not_mem_snakeFrom isUpper none name.toList

/-- Of the reserved words without a raw form snake case gives only those without a capital. -/
theorem canBeRaw_snakeCase (name : String) :
    canBeRaw (snakeCase name) = !(["crate", "self", "super"].contains (snakeCase name)) := by
  have other : snakeCase name ≠ "Self" := by
    intro same
    apply capital_not_mem_snakeCase (by decide : 'S'.isUpper = true) name
    rw [same]
    decide
  simp [canBeRaw, neverRaw, other]

end Naming
end Capability

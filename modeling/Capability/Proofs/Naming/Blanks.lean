import Capability.Naming
import Mathlib.Logic.ExistsUnique

/-!
# Blanks of compact text

A text is cut at its blanks into its other characters, each with the run of blanks behind it, and
the run that it begins with.  Every text is cut in one way, and the runs are maximal, since no
character between them is a blank.

Compact text decides about each blank by itself, from the character that was last kept and the
one that comes next.  Within a run only the last blank has something else than a blank ahead of
it, and what was last kept is then still the character in front of the run, because nothing of
the run has been kept before.  So a run becomes one blank if it keeps two words apart, and is
left out otherwise.

What is left of a text is then read from the front.  All blanks in it stand between words, and a
text with no other blanks stays as it is, so that compact text is compact already.
-/

namespace Capability
namespace Naming

/-! ## Single blanks -/

/-- A character is kept unless it is a blank that keeps no two words apart. -/
theorem compactFrom_keeps {kept : Option Char} {c : Char} {rest : List Char}
    (between : c = ' ' → kept.any isWordCharacter = true ∧
      rest.head?.any isWordCharacter = true) :
    compactFrom kept (c :: rest) = c :: compactFrom (some c) rest := by
  rw [compactFrom, if_neg]
  simpa using between

theorem compactFrom_cons {c : Char} (other : c ≠ ' ') (kept : Option Char) (rest : List Char) :
    compactFrom kept (c :: rest) = c :: compactFrom (some c) rest :=
  compactFrom_keeps fun blank => absurd blank other

theorem compactFrom_blank {kept : Option Char} {rest : List Char}
    (noWords : (kept.any isWordCharacter && rest.head?.any isWordCharacter) = false) :
    compactFrom kept (' ' :: rest) = compactFrom kept rest := by
  rw [compactFrom, noWords, if_pos (by decide)]

/-- What is done with a character: a blank that keeps no two words apart is left out, and anything
else is kept. -/
theorem compactFrom_cases (kept : Option Char) (c : Char) (rest : List Char) :
    (c = ' ' ∧ (kept.any isWordCharacter && rest.head?.any isWordCharacter) = false ∧
        compactFrom kept (c :: rest) = compactFrom kept rest) ∨
      ((c = ' ' → kept.any isWordCharacter = true ∧ rest.head?.any isWordCharacter = true) ∧
        compactFrom kept (c :: rest) = c :: compactFrom (some c) rest) := by
  by_cases blank : c = ' '
  · subst blank
    cases words : kept.any isWordCharacter && rest.head?.any isWordCharacter with
    | false => exact .inl ⟨rfl, rfl, compactFrom_blank words⟩
    | true =>
        have both := Bool.and_eq_true_iff.mp words
        exact .inr ⟨fun _ => both, compactFrom_keeps fun _ => both⟩
  · exact .inr ⟨fun same => absurd same blank, compactFrom_cons blank kept rest⟩

theorem length_compactFrom_le (kept : Option Char) (text : List Char) :
    (compactFrom kept text).length ≤ text.length := by
  induction text generalizing kept with
  | nil => exact Nat.le_refl _
  | cons c rest inductionHypothesis =>
      rcases compactFrom_cases kept c rest with ⟨_, _, leftOut⟩ | ⟨_, keeps⟩
      · rw [leftOut]
        exact Nat.le_succ_of_le (inductionHypothesis kept)
      · rw [keeps]
        exact Nat.succ_le_succ (inductionHypothesis (some c))

/-- A text that stays as it is begins with a character that stays. -/
theorem stays_cons {kept : Option Char} {c : Char} {rest : List Char}
    (stays : compactFrom kept (c :: rest) = c :: rest) :
    (c = ' ' → kept.any isWordCharacter = true ∧ rest.head?.any isWordCharacter = true) ∧
      compactFrom (some c) rest = rest := by
  rcases compactFrom_cases kept c rest with ⟨_, _, leftOut⟩ | ⟨between, keeps⟩
  · -- A text without one of its characters is shorter.
    have shorter := length_compactFrom_le kept rest
    rw [← leftOut, stays, List.length_cons] at shorter
    omega
  · exact ⟨between, (List.cons.inj (keeps.symm.trans stays)).2⟩

theorem getLast?_cons_or {α : Type} (first : α) (rest : List α) (before : Option α) :
    (first :: rest).getLast?.or before = rest.getLast?.or (some first) := by
  rw [List.getLast?_cons, Option.some_or, Option.or_some]

/-- A text that stays as it is does so in front of any other. -/
theorem compactFrom_append {kept : Option Char} {text : List Char}
    (stays : compactFrom kept text = text) (following : List Char) :
    compactFrom kept (text ++ following) =
      text ++ compactFrom (text.getLast?.or kept) following := by
  induction text generalizing kept with
  | nil => rfl
  | cons c rest inductionHypothesis =>
      rcases stays_cons stays with ⟨between, later⟩
      have ahead : c = ' ' → kept.any isWordCharacter = true ∧
          (rest ++ following).head?.any isWordCharacter = true := by
        intro blank
        rcases between blank with ⟨before, behind⟩
        cases rest with
        | nil => cases behind
        | cons next more => exact ⟨before, behind⟩
      rw [List.cons_append, compactFrom_keeps ahead, inductionHypothesis later, getLast?_cons_or]
      rfl

theorem isWordCharacter_blank : isWordCharacter ' ' = false := by
  decide

/-! ## Runs of blanks -/

/-- A text cut at its blanks. -/
@[ext]
structure Cut where
  /-- The number of blanks that the text begins with. -/
  leading : Nat
  /-- The other characters, each with the number of blanks behind it. -/
  cells : List (Char × Nat)
  noBlank : ∀ cell ∈ cells, cell.1 ≠ ' '

/-- The characters of cells, with something written for each run between them, given its length
and the characters in front of it and behind it. -/
def fill (write : (before : Option Char) → (run : Nat) → (after : Option Char) → List Char)
    (before : Option Char) (run : Nat) : List (Char × Nat) → List Char
  | [] => write before run none
  | (c, next) :: rest => write before run (some c) ++ c :: fill write (some c) next rest

/-- A run of blanks as it stands. -/
def blanks (_before : Option Char) (run : Nat) (_after : Option Char) : List Char :=
  List.replicate run ' '

/-- One blank for a run that keeps two words apart, and nothing for any other. -/
def separator (before : Option Char) (run : Nat) (after : Option Char) : List Char :=
  if 0 < run ∧ before.any isWordCharacter = true ∧ after.any isWordCharacter = true then [' ']
  else []

namespace Cut

/-- The text that was cut. -/
def text (cut : Cut) : List Char := fill blanks none cut.leading cut.cells

/-- The text with a separator for each run of blanks. -/
def separated (cut : Cut) : List Char := fill separator none cut.leading cut.cells

end Cut

/-! ## The cut of a text -/

/-- The number of blanks that a text begins with, and its other characters with the number of
blanks behind each. -/
def cellsOf : List Char → Nat × List (Char × Nat)
  | [] => (0, [])
  | c :: rest =>
    if c = ' ' then ((cellsOf rest).1 + 1, (cellsOf rest).2)
    else (0, (c, (cellsOf rest).1) :: (cellsOf rest).2)

theorem cellsOf_noBlank (text : List Char) : ∀ cell ∈ (cellsOf text).2, cell.1 ≠ ' ' := by
  induction text with
  | nil => exact fun _ member => absurd member List.not_mem_nil
  | cons c rest inductionHypothesis =>
      rw [cellsOf]
      split
      · exact inductionHypothesis
      · next other => exact List.forall_mem_cons.mpr ⟨other, inductionHypothesis⟩

theorem cellsOf_replicate_append (run : Nat) (text : List Char) :
    cellsOf (List.replicate run ' ' ++ text) = (run + (cellsOf text).1, (cellsOf text).2) := by
  induction run with
  | zero => rw [List.replicate_zero, List.nil_append, Nat.zero_add]
  | succ run inductionHypothesis =>
      rw [List.replicate_succ, List.cons_append, cellsOf, if_pos rfl, inductionHypothesis,
        Nat.add_right_comm]

/-- The cells of a text make up the text again. -/
theorem fill_cellsOf (before : Option Char) (text : List Char) :
    fill blanks before (cellsOf text).1 (cellsOf text).2 = text := by
  induction text generalizing before with
  | nil => rfl
  | cons c rest inductionHypothesis =>
      rw [cellsOf]
      split
      · next blank =>
          have longer : fill blanks before ((cellsOf rest).1 + 1) (cellsOf rest).2 =
              ' ' :: fill blanks before (cellsOf rest).1 (cellsOf rest).2 := by
            cases (cellsOf rest).2 <;> rfl
          rw [longer, inductionHypothesis, blank]
      · exact congrArg (c :: ·) (inductionHypothesis (some c))

/-- From the text of cells the cells can be told. -/
theorem cellsOf_fill {cells : List (Char × Nat)} (noBlank : ∀ cell ∈ cells, cell.1 ≠ ' ')
    (before : Option Char) (run : Nat) : cellsOf (fill blanks before run cells) = (run, cells) := by
  induction cells generalizing before run with
  | nil =>
      have whole := cellsOf_replicate_append run []
      rwa [List.append_nil] at whole
  | cons cell rest inductionHypothesis =>
      rcases List.forall_mem_cons.mp noBlank with ⟨other, further⟩
      rw [fill, blanks, cellsOf_replicate_append, cellsOf, if_neg other,
        inductionHypothesis further, Nat.add_zero]

/-- Every text is cut in one way. -/
theorem Cut.existsUnique (text : List Char) : ∃! cut : Cut, cut.text = text := by
  refine ⟨⟨_, _, cellsOf_noBlank text⟩, fill_cellsOf none text, ?_⟩
  rintro cut rfl
  have found := cellsOf_fill cut.noBlank none cut.leading
  exact Cut.ext (congrArg Prod.fst found).symm (congrArg Prod.snd found).symm

/-! ## Runs of blanks in compact text -/

/-- At the end of a text nothing of a run is kept. -/
theorem compactFrom_replicate (kept : Option Char) (run : Nat) :
    compactFrom kept (List.replicate run ' ') = [] := by
  induction run with
  | zero => rfl
  | succ run inductionHypothesis =>
      have noWord : (List.replicate run ' ').head?.any isWordCharacter = false := by
        cases run with
        | zero => rfl
        | succ run => exact isWordCharacter_blank
      rw [List.replicate_succ, compactFrom_blank, inductionHypothesis]
      rw [noWord, Bool.and_false]

/-- In front of another character only the last blank of a run may be kept. -/
theorem compactFrom_replicate_append (kept : Option Char) (run : Nat) {c : Char} (other : c ≠ ' ')
    (rest : List Char) :
    compactFrom kept (List.replicate run ' ' ++ c :: rest) =
      separator kept run (some c) ++ c :: compactFrom (some c) rest := by
  induction run with
  | zero => exact compactFrom_cons other kept rest
  | succ run inductionHypothesis =>
      rw [List.replicate_succ, List.cons_append]
      cases run with
      | zero =>
          rw [List.replicate_zero, List.nil_append]
          rcases compactFrom_cases kept ' ' (c :: rest) with
            ⟨_, noWords, leftOut⟩ | ⟨words, keeps⟩
          · have apart : separator kept 1 (some c) = [] :=
              if_neg fun ⟨_, both⟩ =>
                Bool.eq_false_iff.mp noWords (Bool.and_eq_true_iff.mpr both)
            rw [leftOut, apart, compactFrom_cons other, List.nil_append]
          · have between : separator kept 1 (some c) = [' '] :=
              if_pos ⟨Nat.one_pos, words rfl⟩
            rw [keeps, between, compactFrom_cons other, List.singleton_append]
      | succ run =>
          rw [compactFrom_blank, inductionHypothesis]
          · simp only [separator, Nat.succ_pos, true_and]
          · exact (congrArg _ isWordCharacter_blank).trans (Bool.and_false _)

/-- In compact text each run of blanks is written as a separator. -/
theorem compactFrom_fill {cells : List (Char × Nat)} (noBlank : ∀ cell ∈ cells, cell.1 ≠ ' ')
    (kept : Option Char) (run : Nat) :
    compactFrom kept (fill blanks kept run cells) = fill separator kept run cells := by
  induction cells generalizing kept run with
  | nil =>
      have nothing : separator kept run none = [] := if_neg fun ⟨_, _, word⟩ => nomatch word
      rw [fill, blanks, compactFrom_replicate, fill, nothing]
  | cons cell rest inductionHypothesis =>
      rcases List.forall_mem_cons.mp noBlank with ⟨other, further⟩
      rw [fill, blanks, compactFrom_replicate_append kept run other, inductionHypothesis further,
        fill]

theorem Cut.toList_compact {cut : Cut} {text : String} (cuts : cut.text = text.toList) :
    (compact text).toList = cut.separated := by
  rw [compact, String.toList_ofList, ← cuts]
  exact compactFrom_fill cut.noBlank none cut.leading

/-! ## What is left of a text -/

/-- The characters of a text that are no blanks. -/
def solid (text : List Char) : List Char := text.filter (· ≠ ' ')

theorem solid_cons_blank (rest : List Char) : solid (' ' :: rest) = solid rest := rfl

theorem solid_cons_congr (c : Char) {left right : List Char} (same : solid left = solid right) :
    solid (c :: left) = solid (c :: right) := by
  simp only [solid, List.filter_cons] at same ⊢
  rw [same]

theorem solid_compactFrom (kept : Option Char) (text : List Char) :
    solid (compactFrom kept text) = solid text := by
  induction text generalizing kept with
  | nil => rfl
  | cons c rest inductionHypothesis =>
      rcases compactFrom_cases kept c rest with ⟨rfl, _, leftOut⟩ | ⟨_, keeps⟩
      · rw [leftOut, solid_cons_blank]
        exact inductionHypothesis kept
      · rw [keeps]
        exact solid_cons_congr c (inductionHypothesis (some c))

/-- Next to a character of words, the first character of words that is left was the next one. -/
theorem eq_cons_of_compactFrom {a b : Char} (first : isWordCharacter a = true)
    (second : isWordCharacter b = true) {text behind : List Char}
    (left : compactFrom (some a) text = b :: behind) :
    ∃ rest, text = b :: rest ∧ compactFrom (some b) rest = behind := by
  induction text with
  | nil => cases left
  | cons c rest inductionHypothesis =>
      rcases compactFrom_cases (some a) c rest with ⟨_, noWords, leftOut⟩ | ⟨_, keeps⟩
      · -- A blank in front of `b` would stand between two words, and be kept.
        rcases inductionHypothesis (leftOut.symm.trans left) with ⟨_, rfl, _⟩
        simp [first, second] at noWords
      · rcases List.cons.inj (keeps.symm.trans left) with ⟨rfl, further⟩
        exact ⟨rest, rfl, further⟩

/-- Where two characters of words are left next to each other, they were so before, as is told by
the characters around them. -/
theorem adjacent_of_compactFrom {a b : Char} (first : isWordCharacter a = true)
    (second : isWordCharacter b = true) {kept : Option Char} {text front behind : List Char}
    (left : compactFrom kept text = front ++ a :: b :: behind) :
    ∃ before after, text = before ++ a :: b :: after ∧ solid before = solid front ∧
      solid after = solid behind := by
  induction text generalizing kept front with
  | nil => cases front <;> cases left
  | cons c rest inductionHypothesis =>
      rcases compactFrom_cases kept c rest with ⟨rfl, _, leftOut⟩ | ⟨_, keeps⟩
      · rcases inductionHypothesis (leftOut.symm.trans left) with
          ⟨before, after, rfl, sameFront, sameBehind⟩
        exact ⟨' ' :: before, after, rfl, (solid_cons_blank before).trans sameFront, sameBehind⟩
      · rw [keeps] at left
        cases front with
        | nil =>
            rcases List.cons.inj left with ⟨rfl, later⟩
            rcases eq_cons_of_compactFrom first second later with ⟨after, rfl, rfl⟩
            exact ⟨[], after, rfl, rfl, (solid_compactFrom _ after).symm⟩
        | cons next front =>
            rcases List.cons.inj left with ⟨rfl, later⟩
            rcases inductionHypothesis later with ⟨before, after, rfl, sameFront, sameBehind⟩
            exact ⟨c :: before, after, rfl, solid_cons_congr c sameFront, sameBehind⟩

/-- Every blank of a text stands between two words, of which the first may be in front of the
text. -/
def Separates (kept : Option Char) (text : List Char) : Prop :=
  ∀ front behind, text = front ++ ' ' :: behind →
    (front.getLast?.or kept).any isWordCharacter = true ∧
      behind.head?.any isWordCharacter = true

/-- Characters of words are no blanks, so that one which comes next is still next. -/
theorem head?_compactFrom_of_word {kept : Option Char} {text : List Char}
    (word : text.head?.any isWordCharacter = true) :
    (compactFrom kept text).head? = text.head? := by
  cases text with
  | nil => rfl
  | cons c rest =>
      have other : c ≠ ' ' := by
        rintro rfl
        exact Bool.eq_false_iff.mp isWordCharacter_blank word
      rw [compactFrom_cons other]
      rfl

/-- The blanks that are left stand between words. -/
theorem separates_compactFrom (kept : Option Char) (text : List Char) :
    Separates kept (compactFrom kept text) := by
  intro front behind left
  induction text generalizing kept front with
  | nil => cases front <;> cases left
  | cons c rest inductionHypothesis =>
      rcases compactFrom_cases kept c rest with ⟨_, _, leftOut⟩ | ⟨between, keeps⟩
      · exact inductionHypothesis kept front (leftOut.symm.trans left)
      · rw [keeps] at left
        cases front with
        | nil =>
            rcases List.cons.inj left with ⟨rfl, rfl⟩
            rcases between rfl with ⟨before, after⟩
            rw [head?_compactFrom_of_word after]
            exact ⟨before, after⟩
        | cons next front =>
            rcases List.cons.inj left with ⟨rfl, later⟩
            rw [getLast?_cons_or]
            exact inductionHypothesis (some c) front later

/-- A text whose blanks stand between words stays as it is. -/
theorem Separates.compactFrom_eq {kept : Option Char} {text : List Char}
    (separates : Separates kept text) : compactFrom kept text = text := by
  induction text generalizing kept with
  | nil => rfl
  | cons c rest inductionHypothesis =>
      have between : c = ' ' → kept.any isWordCharacter = true ∧
          rest.head?.any isWordCharacter = true := by
        rintro rfl
        exact separates [] rest rfl
      have further : Separates (some c) rest := by
        intro front behind same
        rw [← getLast?_cons_or c front kept]
        exact separates (c :: front) behind (congrArg (c :: ·) same)
      rw [compactFrom_keeps between, inductionHypothesis further]

theorem compactFrom_of_no_blank {text : List Char} (noBlank : ' ' ∉ text) (kept : Option Char) :
    compactFrom kept text = text := by
  apply Separates.compactFrom_eq
  rintro front behind rfl
  exact absurd (List.mem_append_right front List.mem_cons_self) noBlank

/-! ## Compact text -/

/-- Compact text has one blank for each run of blanks that stands between two characters of words,
and nothing for the others.  So it keeps all other characters in order, joins no two words, and
has no blank that keeps no two words apart; compact text of it is the same text. -/
theorem compact_separates_words_alone (text : String) :
    (∃! cut : Cut, cut.text = text.toList) ∧
      (∀ cut : Cut, cut.text = text.toList → (compact text).toList = cut.separated) ∧
      solid (compact text).toList = solid text.toList ∧
      (∀ front a b behind, (compact text).toList = front ++ a :: b :: behind →
        isWordCharacter a = true → isWordCharacter b = true →
        ∃ before after, text.toList = before ++ a :: b :: after ∧ solid before = solid front ∧
          solid after = solid behind) ∧
      (∀ front behind, (compact text).toList = front ++ ' ' :: behind →
        front.getLast?.any isWordCharacter = true ∧ behind.head?.any isWordCharacter = true) ∧
      compact (compact text) = compact text := by
  have characters : (compact text).toList = compactFrom none text.toList := String.toList_ofList
  have separates := separates_compactFrom none text.toList
  refine ⟨Cut.existsUnique _, fun _ => Cut.toList_compact, ?_, ?_, ?_, ?_⟩
  · rw [characters, solid_compactFrom]
  · intro front a b behind left first second
    exact adjacent_of_compactFrom first second (characters.symm.trans left)
  · intro front behind left
    rw [← Option.or_none (o := front.getLast?)]
    exact separates front behind (characters.symm.trans left)
  · rw [compact, characters, separates.compactFrom_eq]
    rfl

/-- A text that begins and ends with blanks, with runs of blanks next to a mark, behind the name of
a lifetime, and in front of a letter beyond ASCII. -/
theorem compact_separates_words_of_lifetime :
    (∃ cut : Cut, cut.text = " & 'a   dyn  Ünit ".toList ∧
        (compact " & 'a   dyn  Ünit ").toList = cut.separated ∧
        cut.separated = "&'a dyn Ünit".toList) ∧
      (∃ before after, " & 'a   dyn  Ünit ".toList = before ++ 'd' :: 'y' :: after ∧
        solid before = "&'a".toList ∧ solid after = "nÜnit".toList) ∧
      "&'a".toList.getLast?.any isWordCharacter = true ∧
      "dyn Ünit".toList.head?.any isWordCharacter = true := by
  let cut : Cut :=
    ⟨1, [('&', 1), ('\'', 0), ('a', 3), ('d', 0), ('y', 0), ('n', 2), ('Ü', 0), ('n', 0), ('i', 0),
      ('t', 1)], by decide⟩
  have cuts : cut.text = " & 'a   dyn  Ünit ".toList := by
    decide
  have separated : cut.separated = "&'a dyn Ünit".toList := by
    decide +kernel
  rcases compact_separates_words_alone " & 'a   dyn  Ünit " with
    ⟨_, written, _, adjacent, between, _⟩
  have left := (written cut cuts).trans separated
  rcases adjacent "&'a ".toList 'd' 'y' "n Ünit".toList left (by decide) (by decide) with
    ⟨before, after, same, front, behind⟩
  exact ⟨⟨cut, cuts, written cut cuts, separated⟩, ⟨before, after, same, front, behind⟩,
    between "&'a".toList "dyn Ünit".toList left⟩

end Naming
end Capability

import Capability.Proofs.Naming.SnakeCase

/-!
# Where snake case sets underscores

A name in snake case has the characters of the name, with its capitals lowered, and single
underscores between some of them.  The characters are told apart here by whether an underscore
is set in front of them, so that a name so marked gives back both the name and its snake case.

An underscore is set only in front of a capital, behind a letter or a digit.  That it stands
between characters, and not beside another underscore, is then a matter of what these two are
lowered to: something, in which there is no underscore.

Where lowering leaves no capital, snake case finds nothing to do a second time.  Some capitals
have no small form, such as those of the mathematical alphabets.  One of these stays a capital,
and may have a small letter behind it only after the first time.
-/

namespace Capability

namespace Unicode

theorem lower_ne_nil (c : Char) : lower c ≠ [] := by
  cases lowered c with
  | ascii _ form | dotted _ form | listed _ _ _ form | same _ form =>
      rw [form]
      exact List.cons_ne_nil _ _

/-- Only the underscore itself is lowered to one. -/
theorem eq_underscore_of_mem_lower {c : Char} (member : '_' ∈ lower c) : c = '_' := by
  by_cases below : c.toNat < 0x80
  · have kept := ascii_forall (P := fun c => '_' = c.toLower → c = '_') (by decide) below
    rw [lower_of_ascii below, List.mem_singleton] at member
    exact kept member
  · have apart := lower_of_beyond below member
    exact absurd apart (by decide)

/-- The small form of an ASCII character is no capital. -/
theorem isUppercase_of_mem_lower_of_ascii {c small : Char} (below : c.toNat < 0x80)
    (member : small ∈ lower c) : isUppercase small = false := by
  have isSmall := ascii_forall
    (P := fun c => c.toLower.toNat < 0x80 ∧ c.toLower.isUpper = false) (by decide) below
  rw [lower_of_ascii below, List.mem_singleton] at member
  rw [member, isUppercase, member_of_ascii isSmall.1]
  exact isSmall.2

end Unicode

namespace Naming

/-! ## Marked names -/

/-- What a character of a name becomes in snake case. -/
def lowered (c : Char) : List Char :=
  if Unicode.isUppercase c then Unicode.lower c else [c]

/-- The text of a name whose characters are marked if an underscore is set in front of them. -/
def spread (marked : List (Char × Bool)) : List Char :=
  marked.flatMap fun (c, isSetApart) => if isSetApart then '_' :: lowered c else lowered c

/-- Underscores are set in front of capitals alone, and each stands between two characters
that are no underscores. -/
def SetApart (marked : List (Char × Bool)) : Prop :=
  ∀ front c behind, marked = front ++ (c, true) :: behind →
    Unicode.isUppercase c = true ∧
      (∃ before, (spread front).getLast? = some before ∧ before ≠ '_') ∧
      ∃ after, (lowered c ++ spread behind).head? = some after ∧ after ≠ '_'

theorem lowered_ne_nil (c : Char) : lowered c ≠ [] := by
  rw [lowered]
  split
  · exact Unicode.lower_ne_nil c
  · exact List.cons_ne_nil _ _

theorem eq_underscore_of_mem_lowered {c : Char} (member : '_' ∈ lowered c) : c = '_' := by
  rw [lowered] at member
  split at member
  · exact Unicode.eq_underscore_of_mem_lower member
  · exact (List.mem_singleton.mp member).symm

theorem isUppercase_underscore : Unicode.isUppercase '_' = false := by
  decide

/-- A character that is no underscore begins and ends, lowered, with none. -/
theorem exists_ends_lowered {c : Char} (other : c ≠ '_') :
    (∃ first, (lowered c).head? = some first ∧ first ≠ '_') ∧
      ∃ last, (lowered c).getLast? = some last ∧ last ≠ '_' := by
  have noUnderscore : ∀ small ∈ lowered c, small ≠ '_' := by
    rintro small member rfl
    exact other (eq_underscore_of_mem_lowered member)
  have nonempty := lowered_ne_nil c
  have first := List.head?_eq_some_head nonempty
  have last := List.getLast?_eq_some_getLast nonempty
  exact ⟨⟨_, first, noUnderscore _ (List.mem_of_head? first)⟩,
    ⟨_, last, noUnderscore _ (List.mem_of_getLast? last)⟩⟩

/-! ## The marks of snake case -/

/-- The marks of the rest of a name, given the character before it. -/
def marks (before : Option Char) : List Char → List (Char × Bool)
  | [] => []
  | c :: rest => (c, Unicode.isUppercase c && opensWord before rest.head?) :: marks (some c) rest

theorem map_fst_marks (before : Option Char) (name : List Char) :
    (marks before name).map Prod.fst = name := by
  induction name generalizing before with
  | nil => rfl
  | cons c rest inductionHypothesis =>
      rw [marks, List.map_cons, inductionHypothesis]

theorem spread_cons (c : Char) (isSetApart : Bool) (marked : List (Char × Bool)) :
    spread ((c, isSetApart) :: marked) =
      (if isSetApart then '_' :: lowered c else lowered c) ++ spread marked := rfl

/-- Snake case is the text of the marked name. -/
theorem snakeFrom_eq_spread (before : Option Char) (name : List Char) :
    snakeFrom before name = spread (marks before name) := by
  induction name generalizing before with
  | nil => rfl
  | cons c rest inductionHypothesis =>
      rw [snakeFrom, marks, spread_cons, lowered, ← inductionHypothesis]
      cases Unicode.isUppercase c with
      | false => rfl
      | true => cases opensWord before rest.head? <;> rfl

/-- A word is opened behind some character, which is no underscore. -/
theorem exists_before_of_opensWord {before after : Option Char}
    (opens : opensWord before after = true) : ∃ previous, before = some previous ∧ previous ≠ '_' := by
  cases before with
  | none => cases opens
  | some previous =>
      refine ⟨previous, rfl, ?_⟩
      rintro rfl
      rw [opensWord, if_pos rfl] at opens
      cases opens

/-- The character in front of a mark is no underscore; at the front of the name it is the one
before the name. -/
theorem before_mark {before : Option Char} {name : List Char} {front behind : List (Char × Bool)}
    {c : Char} (cut : marks before name = front ++ (c, true) :: behind) :
    Unicode.isUppercase c = true ∧
      ∃ previous, (front.map Prod.fst).getLast?.or before = some previous ∧ previous ≠ '_' := by
  induction name generalizing before front with
  | nil => cases front <;> cases cut
  | cons d rest inductionHypothesis =>
      rw [marks] at cut
      cases front with
      | nil =>
          have here : (d, Unicode.isUppercase d && opensWord before rest.head?) = (c, true) :=
            (List.cons.inj cut).1
          rcases Prod.mk.inj here with ⟨rfl, isMarked⟩
          rcases Bool.and_eq_true_iff.mp isMarked with ⟨capital, opens⟩
          exact ⟨capital, exists_before_of_opensWord opens⟩
      | cons first front =>
          rcases List.cons.inj cut with ⟨rfl, later⟩
          rcases inductionHypothesis later with ⟨capital, previous, found, other⟩
          refine ⟨capital, previous, ?_, other⟩
          rw [Option.or_some] at found
          rw [List.map_cons, List.getLast?_cons, Option.some_or]
          exact found

theorem setApart_marks (name : List Char) : SetApart (marks none name) := by
  intro front c behind cut
  rcases before_mark cut with ⟨capital, previous, found, other⟩
  refine ⟨capital, ?_, ?_⟩
  · -- The last character in front of the mark is the last that the previous one is lowered to.
    rw [Option.or_none, List.getLast?_map] at found
    rcases Option.map_eq_some_iff.mp found with ⟨⟨d, isSetApart⟩, last, rfl⟩
    rcases List.getLast?_eq_some_iff.mp last with ⟨earlier, rfl⟩
    rcases (exists_ends_lowered other).2 with ⟨before, ends, noUnderscore⟩
    refine ⟨before, ?_, noUnderscore⟩
    rw [spread, List.flatMap_append, List.getLast?_append, List.flatMap_cons, List.flatMap_nil,
      List.append_nil]
    cases isSetApart with
    | false =>
        change (lowered d).getLast?.or _ = _
        rw [ends, Option.some_or]
    | true =>
        change ('_' :: lowered d).getLast?.or _ = _
        rw [List.getLast?_cons, ends, Option.getD_some, Option.some_or]
  · have noUnderscore : c ≠ '_' := by
      rintro rfl
      rw [isUppercase_underscore] at capital
      cases capital
    rcases (exists_ends_lowered noUnderscore).1 with ⟨after, begins, other⟩
    exact ⟨after, by rw [List.head?_append, begins, Option.some_or], other⟩

/-! ## Names without capitals -/

/-- Where there is no capital, nothing is changed. -/
theorem snakeFrom_of_small {name : List Char}
    (small : ∀ c ∈ name, Unicode.isUppercase c = false) (before : Option Char) :
    snakeFrom before name = name := by
  induction name generalizing before with
  | nil => rfl
  | cons c rest inductionHypothesis =>
      rcases List.forall_mem_cons.mp small with ⟨here, later⟩
      rw [snakeFrom, here, if_neg Bool.false_ne_true, inductionHypothesis later]

/-- If no capital of a name is lowered to a capital, its snake case has none. -/
theorem small_snakeFrom {name : List Char}
    (small : ∀ c ∈ name, ∀ d ∈ Unicode.lower c, Unicode.isUppercase d = false)
    (before : Option Char) : ∀ d ∈ snakeFrom before name, Unicode.isUppercase d = false := by
  induction name generalizing before with
  | nil => exact fun _ member => absurd member List.not_mem_nil
  | cons c rest inductionHypothesis =>
      rcases List.forall_mem_cons.mp small with ⟨here, later⟩
      have further := inductionHypothesis later (some c)
      rw [snakeFrom]
      cases capital : Unicode.isUppercase c with
      | false => exact List.forall_mem_cons.mpr ⟨capital, further⟩
      | true =>
          rw [if_pos rfl]
          split
          · exact List.forall_mem_cons.mpr
              ⟨isUppercase_underscore, List.forall_mem_append.mpr ⟨here, further⟩⟩
          · exact List.forall_mem_append.mpr ⟨here, further⟩

theorem snakeCase_of_small {name : String}
    (small : ∀ c ∈ name.toList, Unicode.isUppercase c = false) : snakeCase name = name := by
  rw [snakeCase, snakeFrom_of_small small, String.ofList_toList]

theorem snakeCase_snakeCase {name : String}
    (small : ∀ c ∈ name.toList, ∀ d ∈ Unicode.lower c, Unicode.isUppercase d = false) :
    snakeCase (snakeCase name) = snakeCase name := by
  apply snakeCase_of_small
  rw [snakeCase, String.toList_ofList]
  exact small_snakeFrom small none

/-! ## The shape of snake case -/

/-- Snake case of any name is made of the characters of the name, the capitals lowered, and of
single underscores, each in front of a lowered capital and between characters that are no
underscores.  A name without capitals is left as it is, and so is the snake case of a name whose
characters have no capital in their small forms, as those of ASCII. -/
theorem snakeCase_sets_single_underscores (name : String) :
    (∃ marked, marked.map Prod.fst = name.toList ∧ (snakeCase name).toList = spread marked ∧
        SetApart marked) ∧
      ((∀ c ∈ name.toList, Unicode.isUppercase c = false) → snakeCase name = name) ∧
      ((∀ c ∈ name.toList, ∀ d ∈ Unicode.lower c, Unicode.isUppercase d = false) →
        snakeCase (snakeCase name) = snakeCase name) ∧
      ((∀ c ∈ name.toList, c.toNat < 0x80) → snakeCase (snakeCase name) = snakeCase name) := by
  refine ⟨⟨marks none name.toList, map_fst_marks none _, ?_, setApart_marks _⟩,
    snakeCase_of_small, snakeCase_snakeCase, fun ascii => ?_⟩
  · rw [snakeCase, String.toList_ofList, snakeFrom_eq_spread]
  · exact snakeCase_snakeCase fun c member _ =>
      Unicode.isUppercase_of_mem_lower_of_ascii (ascii c member)

/-- A name with capitals in and beyond ASCII, one whose capitals are all ASCII, and one that has
none. -/
theorem snakeCase_sets_single_underscores_ecole :
    (∀ c ∈ "ÉcoleDesÎles".toList, ∀ d ∈ Unicode.lower c, Unicode.isUppercase d = false) ∧
      snakeCase "ÉcoleDesÎles" = "école_des_îles" ∧
      snakeCase "école_des_îles" = "école_des_îles" ∧
      (∀ c ∈ "HTTPHeader_2D".toList, c.toNat < 0x80) ∧
      snakeCase (snakeCase "HTTPHeader_2D") = snakeCase "HTTPHeader_2D" ∧
      (∀ c ∈ "öl_x2".toList, Unicode.isUppercase c = false) ∧ snakeCase "öl_x2" = "öl_x2" := by
  have beyond :
      ∀ c ∈ "ÉcoleDesÎles".toList, ∀ d ∈ Unicode.lower c, Unicode.isUppercase d = false := by
    have each : ("ÉcoleDesÎles".toList.all fun c =>
        (Unicode.lower c).all fun d => !Unicode.isUppercase d) = true := by
      decide +kernel
    intro c member d lowered
    simpa using List.all_eq_true.mp (List.all_eq_true.mp each c member) d lowered
  have form : snakeCase "ÉcoleDesÎles" = "école_des_îles" := by
    decide +kernel
  have within : ∀ c ∈ "HTTPHeader_2D".toList, c.toNat < 0x80 := by
    have each : ("HTTPHeader_2D".toList.all fun c => decide (c.toNat < 0x80)) = true := by
      decide
    exact fun c member => of_decide_eq_true (List.all_eq_true.mp each c member)
  have small : ∀ c ∈ "öl_x2".toList, Unicode.isUppercase c = false := by
    have each : ("öl_x2".toList.all fun c => !Unicode.isUppercase c) = true := by
      decide +kernel
    intro c member
    simpa using List.all_eq_true.mp each c member
  have again := (snakeCase_sets_single_underscores "ÉcoleDesÎles").2.2.1 beyond
  rw [form] at again
  exact ⟨beyond, form, again, within,
    (snakeCase_sets_single_underscores "HTTPHeader_2D").2.2.2 within, small,
    (snakeCase_sets_single_underscores "öl_x2").2.1 small⟩

/-- A capital without a small form is set apart the second time, when a small letter follows it. -/
example : snakeCase "𝐀𝐁C" = "𝐀𝐁c" ∧ snakeCase "𝐀𝐁c" = "𝐀_𝐁c" := by
  decide +kernel

end Naming
end Capability

import Capability.Code.Lexer
import Capability.Proofs.Code.Word
import Capability.Proofs.Naming.Blanks

/-!
# Compact text

The text of tokens has a blank between any two of them, and the compact text keeps
a blank only where it keeps two words apart.  Which blanks these are is decided by
characters, and not by tokens.

The compact text is put together from atoms: words, marks, literals and brackets,
with a blank between two of them exactly if the first ends and the second begins
with a character of words.  This holds as long as no literal loses a blank of its own.
-/

namespace Capability
namespace Code

open Naming (isWordCharacter)

/-! ## Atoms -/

/-- A token by itself, or a bracket of a group. -/
inductive Atom where
  | word (name : Word)
  | mark (character : Char)
  | literal (text : String)
  | opens (delimiter : Delimiter)
  | closes (delimiter : Delimiter)
deriving DecidableEq, Repr

namespace Atom

def chars : Atom → List Char
  | word name => name.written.toList
  | mark c => [c]
  | literal text => text.toList
  | opens .parenthesis => ['(']
  | opens .bracket => ['[']
  | opens .brace => ['\x7b']
  | closes .parenthesis => [')']
  | closes .bracket => [']']
  | closes .brace => ['\x7d']

/-- Whether a blank behind the atom can keep two words apart.  The apostrophe of a lifetime
joins what follows it. -/
def endsInWord : Atom → Bool
  | mark _ => false
  | atom => atom.chars.getLast?.any isWordCharacter

def startsInWord (atom : Atom) : Bool := atom.chars.head?.any isWordCharacter

/-- The atoms of a literal; a negative number is written as its sign and the number. -/
def ofLiteral (text : String) : List Atom :=
  match text.toList with
  | '-' :: number => [mark '-', literal (String.ofList number)]
  | _ => [literal text]

/-- Text of atoms that stands behind an atom or at the beginning, with a blank wherever that
keeps two words apart. -/
def spread (before : Option Atom) : List Atom → List Char
  | [] => []
  | atom :: rest =>
    (if before.any endsInWord && atom.startsInWord then [' '] else [])
      ++ atom.chars ++ spread (some atom) rest

end Atom

namespace TokenTree

mutual

/-- The atoms that a token tree is written by. -/
def atoms : TokenTree → List Atom
  | word name => [.word name]
  | mark c _ => [.mark c]
  | literal text => Atom.ofLiteral text
  | group delimiter content => .opens delimiter :: atomsAll content ++ [.closes delimiter]

def atomsAll : List TokenTree → List Atom
  | [] => []
  | tree :: rest => atoms tree ++ atomsAll rest

end

mutual

/-- Whether every apostrophe joins what follows it. -/
def joins : TokenTree → Bool
  | mark c joint => c != '\'' || joint
  | group _ content => joinsAll content
  | _ => true

def joinsAll : List TokenTree → Bool
  | [] => true
  | tree :: rest => joins tree && joinsAll rest

end

end TokenTree

namespace Tokens

/-- The atoms that tokens are written by, which is all of the tokens but for the joints of marks. -/
def atoms (tokens : Tokens) : List Atom := TokenTree.atomsAll tokens

end Tokens

namespace Atom

/-! ## The compact text of atoms -/

/-- The character that an atom leaves as the last one. -/
def last (before : Option Atom) : Option Char := before.bind fun atom => atom.chars.getLast?

/-- Whether it is judged by tokens what happens behind an atom: that a blank is kept if the last
character tells so, and that none is kept where there is none. -/
def Judged (before : Option Atom) : (blank : Bool) → Prop
  | true => (last before).any isWordCharacter = before.any endsInWord
  | false => before.any endsInWord = false

/-- An atom whose text stays as it is when blanks are left out.  The apostrophe of a lifetime is
a character of words, but what follows it is its name. -/
structure Stays (atom : Atom) : Prop where
  nonempty : atom.chars ≠ []
  text : Naming.compactFrom none atom.chars = atom.chars
  judged : atom ≠ .mark '\'' → Judged (some atom) true

theorem Stays.eq_cons {atom : Atom} (stays : atom.Stays) :
    ∃ c rest, atom.chars = c :: rest ∧ c ≠ ' ' := by
  cases same : atom.chars with
  | nil => exact absurd same stays.nonempty
  | cons c rest =>
      refine ⟨c, rest, rfl, fun blank => ?_⟩
      have text := stays.text
      rw [same] at text
      cases ((Naming.stays_cons text).1 blank).1

/-- An atom is kept as a whole, whatever stands around it. -/
theorem Stays.compactFrom_append {atom : Atom} (stays : atom.Stays) (kept : Option Char)
    (following : List Char) :
    Naming.compactFrom kept (atom.chars ++ following) =
      atom.chars ++ Naming.compactFrom (last (some atom)) following := by
  rcases stays.eq_cons with ⟨c, rest, same, other⟩
  have whole : Naming.compactFrom kept atom.chars = atom.chars := by
    have text := stays.text
    rw [same, Naming.compactFrom_cons other] at text ⊢
    exact text
  rw [Naming.compactFrom_append whole, same, List.getLast?_cons]
  simp [last, same, List.getLast?_cons]

/-- The blank in front of an atom, if there is one. -/
def gap (blank : Bool) : List Char := if blank then [' '] else []

/-- A blank in front of an atom is kept exactly if it keeps two words apart. -/
theorem Stays.compactFrom_gap {atom : Atom} (stays : atom.Stays) {before : Option Atom}
    {blank : Bool} (judged : Judged before blank) (following : List Char) :
    Naming.compactFrom (last before) (gap blank ++ (atom.chars ++ following)) =
      spread before [atom] ++ Naming.compactFrom (last (some atom)) following := by
  rw [spread, spread, List.append_nil]
  cases blank with
  | false =>
      rw [Judged] at judged
      rw [judged, Bool.false_and, if_neg Bool.false_ne_true]
      exact stays.compactFrom_append _ _
  | true =>
      rcases stays.eq_cons with ⟨c, rest, same, other⟩
      have ahead : (atom.chars ++ following).head?.any isWordCharacter = atom.startsInWord := by
        rw [startsInWord, same]
        rfl
      rw [Judged] at judged
      rw [gap, if_pos rfl, List.singleton_append, Naming.compactFrom, ahead, judged]
      cases before.any endsInWord && atom.startsInWord with
      | false => exact stays.compactFrom_append _ _
      | true =>
          rw [if_neg (by decide), stays.compactFrom_append]
          rfl

theorem spread_cons (before : Option Atom) (atom : Atom) (rest : List Atom) :
    spread before (atom :: rest) = spread before [atom] ++ spread (some atom) rest := by
  simp [spread]

theorem spread_append (before : Option Atom) (front behind : List Atom) :
    spread before (front ++ behind) =
      spread before front ++ spread (front.getLast?.or before) behind := by
  induction front generalizing before with
  | nil => rfl
  | cons atom rest inductionHypothesis =>
      rw [List.cons_append, spread, spread, inductionHypothesis, Naming.getLast?_cons_or]
      simp only [List.append_assoc]

theorem judged_opens (delimiter : Delimiter) : Judged (some (opens delimiter)) false := by
  cases delimiter <;> rw [Judged] <;> decide

theorem Stays.opens (delimiter : Delimiter) : Stays (.opens delimiter) := by
  refine ⟨?_, ?_, fun _ => ?_⟩ <;> cases delimiter <;> first | decide | (rw [Judged]; decide)

theorem Stays.closes (delimiter : Delimiter) : Stays (.closes delimiter) := by
  refine ⟨?_, ?_, fun _ => ?_⟩ <;> cases delimiter <;> first | decide | (rw [Judged]; decide)

/-- The blank behind an opening brace is left out. -/
theorem compactFrom_opening (delimiter : Delimiter) {before : Option Atom} {blank : Bool}
    (judged : Judged before blank) (following : List Char) :
    Naming.compactFrom (last before) (gap blank ++ (TokenTree.opening delimiter ++ following)) =
      spread before [opens delimiter] ++
        Naming.compactFrom (last (some (opens delimiter))) following := by
  cases delimiter with
  | parenthesis => exact (Stays.opens .parenthesis).compactFrom_gap judged following
  | bracket => exact (Stays.opens .bracket).compactFrom_gap judged following
  | brace =>
      have noWord : (last (some (opens .brace))).any isWordCharacter = false := by decide
      have dropped : Naming.compactFrom (last (some (opens .brace))) (' ' :: following) =
          Naming.compactFrom (last (some (opens .brace))) following :=
        Naming.compactFrom_blank (by rw [noWord, Bool.false_and])
      rw [← dropped]
      exact (Stays.opens .brace).compactFrom_gap judged (' ' :: following)

/-- The blank in front of a closing brace is left out. -/
theorem compactFrom_closing (isEmpty : Bool) (delimiter : Delimiter) (before : Option Atom)
    (following : List Char) :
    Naming.compactFrom (last before) (TokenTree.closing isEmpty delimiter ++ following) =
      spread before [closes delimiter]
        ++ Naming.compactFrom (last (some (closes delimiter))) following := by
  have plain : spread before [closes delimiter] = (closes delimiter).chars := by
    have other : (closes delimiter).startsInWord = false := by
      cases delimiter <;> decide
    rw [spread, spread, other, Bool.and_false, if_neg Bool.false_ne_true, List.nil_append,
      List.append_nil]
  rw [plain, ← (Stays.closes delimiter).compactFrom_append]
  cases delimiter with
  | parenthesis | bracket => rfl
  | brace =>
      cases isEmpty with
      | true => rfl
      | false =>
          have other : isWordCharacter '\x7d' = false := by decide
          apply Naming.compactFrom_blank
          exact (congrArg _ other).trans (Bool.and_false _)

end Atom

/-! ## The compact text of tokens -/

namespace TokenTree

open Atom
open Naming (compactFrom)

theorem atoms_ne_nil (tree : TokenTree) : atoms tree ≠ [] := by
  cases tree with
  | word name | mark c joint => exact List.cons_ne_nil _ _
  | literal text =>
      rw [atoms, Atom.ofLiteral]
      split <;> exact List.cons_ne_nil _ _
  | group delimiter content =>
      rw [atoms]
      exact List.cons_ne_nil _ _

theorem getLast?_atoms_or (tree : TokenTree) (before : Option Atom) :
    (atoms tree).getLast?.or before = (atoms tree).getLast? := by
  cases ending : (atoms tree).getLast? with
  | none => exact absurd (List.getLast?_eq_none_iff.mp ending) (atoms_ne_nil tree)
  | some atom => rfl

theorem getLast?_group (delimiter : Delimiter) (content : List TokenTree) :
    (atoms (group delimiter content)).getLast? = some (.closes delimiter) := by
  rw [atoms, List.getLast?_append, List.getLast?_singleton, Option.some_or]

/-- A blank behind a tree is judged by its last atom, and a mark that joins what follows it keeps
none. -/
theorem judged_last {tree : TokenTree} (stays : ∀ atom ∈ atoms tree, atom.Stays)
    (joined : joins tree = true) : Judged (atoms tree).getLast? (!isJoint tree) := by
  cases tree with
  | word name => exact (stays _ List.mem_cons_self).judged (by simp)
  | mark c joint =>
      cases joint with
      | true => rfl
      | false =>
          rw [joins, Bool.or_false, bne_iff_ne] at joined
          exact (stays _ List.mem_cons_self).judged (by simpa using joined)
  | literal text =>
      rw [atoms, Atom.ofLiteral] at stays ⊢
      split at stays <;> exact (stays _ (by simp)).judged (by simp)
  | group delimiter content =>
      rw [getLast?_group]
      exact (Stays.closes delimiter).judged (by simp)

/-- A literal is kept as a whole; a negative number is the sign and the number. -/
theorem compactFrom_literal {text : String} (stays : ∀ atom ∈ Atom.ofLiteral text, atom.Stays)
    {before : Option Atom} {blank : Bool} (judged : Judged before blank) (following : List Char) :
    compactFrom (last before) (gap blank ++ (text.toList ++ following)) =
      spread before (Atom.ofLiteral text) ++
        compactFrom (last (Atom.ofLiteral text).getLast?) following := by
  rw [Atom.ofLiteral] at stays ⊢
  split at stays
  · next number negative =>
      have sign := (stays (.mark '-') (by simp)).compactFrom_gap judged (number ++ following)
      have digits := (stays (.literal (String.ofList number)) (by simp)).compactFrom_append
        (last (some (.mark '-'))) following
      rw [Atom.chars, String.toList_ofList] at digits
      rw [negative]
      refine sign.trans ?_
      rw [digits]
      simp [spread, endsInWord, Atom.chars]
  · exact (stays _ List.mem_cons_self).compactFrom_gap judged following

mutual

/-- The compact text of a tree is put together from its atoms, behind an atom that a blank may
separate from it. -/
theorem compactFrom_chars (tree : TokenTree) (stays : ∀ atom ∈ atoms tree, atom.Stays)
    (joined : joins tree = true) {before : Option Atom} {blank : Bool}
    (judged : Judged before blank) (following : List Char) :
    compactFrom (last before) (gap blank ++ (chars tree ++ following)) =
      spread before (atoms tree) ++ compactFrom (last (atoms tree).getLast?) following := by
  match tree with
  | .word name => exact (stays _ List.mem_cons_self).compactFrom_gap judged following
  | .mark c _ => exact (stays _ List.mem_cons_self).compactFrom_gap judged following
  | .literal text => exact compactFrom_literal stays judged following
  | .group delimiter content =>
      rw [atoms, List.forall_mem_append, List.forall_mem_cons] at stays
      have inside := compactFrom_charsAll content stays.1.2 joined (judged_opens delimiter)
        Bool.noConfusion (closing content.isEmpty delimiter ++ following)
      rw [gap, if_neg Bool.false_ne_true, List.nil_append] at inside
      rw [TokenTree.chars, List.append_assoc, List.append_assoc,
        compactFrom_opening delimiter judged, inside, compactFrom_closing, getLast?_group, atoms,
        List.cons_append, spread_cons before _ (atomsAll content ++ [Atom.closes delimiter]),
        spread_append]
      simp only [List.append_assoc]

theorem compactFrom_charsAll (trees : List TokenTree) (stays : ∀ atom ∈ atomsAll trees, atom.Stays)
    (joined : joinsAll trees = true) {before : Option Atom} {blank : Bool}
    (judged : Judged before blank) (nonempty : blank = true → trees ≠ [])
    (following : List Char) :
    compactFrom (last before) (gap blank ++ (charsAll trees ++ following)) =
      spread before (atomsAll trees) ++
        compactFrom (last ((atomsAll trees).getLast?.or before)) following := by
  match trees with
  | [] =>
      have noBlank : blank = false := by
        rw [Bool.eq_false_iff]
        exact fun isBlank => nonempty isBlank rfl
      rw [noBlank]
      rfl
  | [tree] =>
      rw [atomsAll, atomsAll, List.append_nil] at stays ⊢
      rw [joinsAll, joinsAll, Bool.and_true] at joined
      rw [charsAll, compactFrom_chars tree stays joined judged, getLast?_atoms_or]
  | tree :: next :: rest =>
      rw [atomsAll, List.forall_mem_append] at stays
      rw [joinsAll, Bool.and_eq_true] at joined
      have first := compactFrom_chars tree stays.1 joined.1 judged
        (gap (!isJoint tree) ++ (charsAll (next :: rest) ++ following))
      have others := compactFrom_charsAll (next :: rest) stays.2 joined.2
        (judged_last stays.1 joined.1) (fun _ => List.cons_ne_nil _ _) following
      have separated : charsAll (tree :: next :: rest) =
          chars tree ++ (gap (!isJoint tree) ++ charsAll (next :: rest)) := by
        rw [charsAll, List.append_assoc, gap]
        cases isJoint tree <;> rfl
      have listed : atomsAll (tree :: next :: rest) = atoms tree ++ atomsAll (next :: rest) := by
        rw [atomsAll]
      rw [separated, List.append_assoc, List.append_assoc, first, others, listed, spread_append,
        getLast?_atoms_or, List.getLast?_append, Option.or_assoc, getLast?_atoms_or,
        List.append_assoc]

end

end TokenTree

namespace Tokens

/-- Whether every apostrophe joins what follows it. -/
def joins (tokens : Tokens) : Bool := TokenTree.joinsAll tokens

/-- The compact text of tokens is put together from their atoms. -/
theorem toList_compactText {tokens : Tokens} (stays : ∀ atom ∈ tokens.atoms, atom.Stays)
    (joined : tokens.joins = true) :
    tokens.compactText.toList = Atom.spread none tokens.atoms := by
  have start : Atom.Judged none false := rfl
  have put := TokenTree.compactFrom_charsAll tokens stays joined start Bool.noConfusion []
  rw [List.append_nil, Naming.compactFrom, List.append_nil] at put
  rw [compactText, Naming.compact, String.toList_ofList, text, String.toList_ofList]
  exact put

end Tokens
end Code
end Capability

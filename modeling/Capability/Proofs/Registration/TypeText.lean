import Capability.Proofs.Code.Plain
import Capability.Registration.Expansion

/-!
# The text of a registered type

The text under which a type is registered is read back as the tokens of the type, if
compact text keeps these apart.  It does so for plain tokens, and in general where no
literal has a blank that is left out and no token runs into the next one.  Both can
happen in the length of an array or in a constant argument: there the text is read as
other tokens, and two types can have the same text.
-/

namespace Capability
namespace Registration

open Code

/-- What a text with a single declaration registers. -/
def registered? (text : String) : Option Registered :=
  match Declaration.parseList text with
  | .ok [declaration] =>
    match declaration.expand with
    | .ok (.registration registered) => some registered
    | _ => none
  | _ => none

namespace Registered

/-- Two registered types whose tokens are kept apart have the same tokens if they have the same
text. -/
theorem atoms_eq_of_typeText_eq {left right : Registered} (leftApart : left.type.KeptApart)
    (rightApart : right.type.KeptApart) (same : left.typeText = right.typeText) :
    left.type.atoms = right.type.atoms := by
  rcases leftApart.ofText?_compactText with ⟨leftRead, leftFound, leftAtoms⟩
  rcases rightApart.ofText?_compactText with ⟨rightRead, rightFound, rightAtoms⟩
  have sameRead : some leftRead = some rightRead := by
    rw [← leftFound, ← rightFound]
    exact congrArg Tokens.ofText? same
  rw [← leftAtoms, ← rightAtoms, Option.some.inj sameRead]

/-- The text of a type of plain tokens is read back as these tokens. -/
theorem ofText?_typeText_of_plain {registered : Registered} (isPlain : registered.type.IsPlain) :
    ∃ read, Tokens.ofText? registered.typeText = some read ∧
      read.atoms = registered.type.atoms :=
  isPlain.keptApart.ofText?_compactText

end Registered

/-- The text of a registered type whose tokens are kept apart is read back as these tokens, and
no other such type that has other tokens has the same text. -/
theorem typeText_faithful (registered : Registered) (keptApart : registered.type.KeptApart) :
    (∃ read, Tokens.ofText? registered.typeText = some read ∧
        read.atoms = registered.type.atoms) ∧
      ∀ other : Registered, other.type.KeptApart → other.type.atoms ≠ registered.type.atoms →
        other.typeText ≠ registered.typeText :=
  ⟨keptApart.ofText?_compactText, fun _ otherApart different same =>
    different (Registered.atoms_eq_of_typeText_eq otherApart keptApart same)⟩

/-- A type with lifetimes, a raw name, an array length and a negative number, and one that has
another number. -/
theorem typeText_faithful_of_pointer :
    ∃ pointer pair,
      registered? "A = Box<dyn for<'a> Fn(&'a [u8; 4 + N]) -> (u32, r#in::T) + Send + '_>" =
          some pointer ∧
        registered? "A = ([u8; -4], u8)" = some pair ∧
        pointer.type.KeptApart ∧ pair.type.KeptApart ∧
        pointer.typeText = "Box<dyn for<'a>Fn(&'a[u8;4+N])->(u32,r#in::T)+Send+'_>" ∧
        (∃ read, Tokens.ofText? pointer.typeText = some read ∧
          read.atoms = pointer.type.atoms) ∧
        pair.typeText ≠ pointer.typeText := by
  have pointerRead : ((registered?
      "A = Box<dyn for<'a> Fn(&'a [u8; 4 + N]) -> (u32, r#in::T) + Send + '_>").any fun pointer =>
        decide pointer.type.KeptApart
          && pointer.typeText == "Box<dyn for<'a>Fn(&'a[u8;4+N])->(u32,r#in::T)+Send+'_>") =
      true := by
    decide +kernel
  have pairRead : ((registered?
      "A = Box<dyn for<'a> Fn(&'a [u8; 4 + N]) -> (u32, r#in::T) + Send + '_>").any fun pointer =>
        (registered? "A = ([u8; -4], u8)").any fun pair =>
          decide pair.type.KeptApart && pair.type.atoms != pointer.type.atoms) = true := by
    decide +kernel
  rcases (Option.any_eq_true _ _).mp pointerRead with ⟨pointer, found, holds⟩
  rw [found, Option.any_some] at pairRead
  rcases (Option.any_eq_true _ _).mp pairRead with ⟨pair, pairFound, different⟩
  rw [Bool.and_eq_true, decide_eq_true_eq, beq_iff_eq] at holds
  rw [Bool.and_eq_true, decide_eq_true_eq, bne_iff_ne] at different
  have faithful := typeText_faithful pointer holds.1
  exact ⟨pointer, pair, found, pairFound, holds.1, different.1, holds.2, faithful.1,
    faithful.2 pair different.1 different.2⟩

/-- A blank within a literal is lost, so that two types with different tokens have the same text
and the text of one of them is read as the other. -/
theorem typeText_loses_blank :
    ∃ blank empty,
      registered? "A = [u8; f(\" \")]" = some blank ∧ registered? "A = [u8; f(\"\")]" = some empty ∧
        blank.type.atoms ≠ empty.type.atoms ∧ blank.typeText = empty.typeText ∧
        ∀ read, Tokens.ofText? blank.typeText = some read → read.atoms ≠ blank.type.atoms := by
  have both : ((registered? "A = [u8; f(\" \")]").any fun blank =>
      (registered? "A = [u8; f(\"\")]").any fun empty =>
        blank.type.atoms != empty.type.atoms && blank.typeText == empty.typeText
          && (Tokens.ofText? blank.typeText).all fun read => read.atoms != blank.type.atoms) =
      true := by
    decide +kernel
  rcases (Option.any_eq_true _ _).mp both with ⟨blank, found, both⟩
  rcases (Option.any_eq_true _ _).mp both with ⟨empty, emptyFound, holds⟩
  rw [Bool.and_eq_true, Bool.and_eq_true, bne_iff_ne, beq_iff_eq] at holds
  refine ⟨blank, empty, found, emptyFound, holds.1.1, holds.1.2, ?_⟩
  intro read readBack
  simpa [readBack] using holds.2

end Registration
end Capability

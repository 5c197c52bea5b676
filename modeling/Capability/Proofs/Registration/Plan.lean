import Capability.Proofs.Registration.Names

/-!
# What a declaration registers

A declaration that expands to a module registers its type without the parentheses around it.
If the type has a constructor, it is a path whose last name has arguments in angle brackets,
and these are the arguments of the constructor.
-/

namespace Capability
namespace Registration

open Code

/-! ## The plan of an expansion -/

/-- What is registered is the declared type without the parentheses around it. -/
theorem Declaration.of_plan {declaration : Declaration} {plan : Plan}
    (planned : declaration.plan = .ok plan) :
    plan.type = bare declaration.type ∧ constructorOf plan.type = .ok plan.constructor := by
  rw [Declaration.plan] at planned
  cases found : constructorOf (bare declaration.type) with
  | error problem =>
      rw [found] at planned
      cases planned
  | ok constructor =>
      rw [found] at planned
      simp only [bind, Except.bind] at planned
      split at planned
      · cases planned
        exact ⟨rfl, found⟩
      · split at planned
        · cases planned
          exact ⟨rfl, found⟩
        · cases planned

theorem Declaration.plan_of_expand {declaration : Declaration} {registered : Registered}
    (expands : declaration.expand = .ok (.registration registered)) :
    declaration.plan = .ok registered.plan ∧
      registered.plan.expand = .ok (.registration registered) := by
  rw [Declaration.expand] at expands
  split at expands
  · next plan planned =>
      have same : registered.plan = plan := (Plan.names_of_expand expands).2
      rw [same]
      exact ⟨planned, expands⟩
  · cases expands

/-! ## The constructor of a type -/

theorem typeArguments_of_mapM {arguments : List Argument} {types : List TypeExpr}
    (taken : arguments.mapM typeArgument = .ok types) : arguments = types.map .type := by
  induction arguments generalizing types with
  | nil =>
      cases taken
      rfl
  | cons argument rest inductionHypothesis =>
      rw [List.mapM_cons] at taken
      cases argument with
      | type value =>
          cases others : rest.mapM typeArgument with
          | error problem =>
              rw [others] at taken
              cases taken
          | ok more =>
              rw [others] at taken
              cases taken
              rw [List.map_cons, ← inductionHypothesis others]
      | lifetime | constant | associatedType | associatedConstant | constraint => cases taken

/-- A constructor is the path that is split, whose last name has the arguments. -/
theorem of_split {path : Path} {constructor : Constructor}
    (found : split path = .ok (some constructor)) :
    constructor.base = path ∧ ∃ name turbofish trailing,
      path.last? = some (.mk name (.angle turbofish (constructor.arguments.map .type) trailing)) := by
  rw [split] at found
  split at found
  · next name turbofish arguments trailing last =>
      cases taken : arguments.mapM typeArgument with
      | error problem =>
          rw [taken] at found
          cases found
      | ok types =>
          rw [taken] at found
          by_cases few : types.length ≤ maximumArguments
          · simp only [bind, Except.bind, if_pos few, pure, Except.pure] at found
            cases found
            rw [typeArguments_of_mapM taken] at last
            exact ⟨rfl, name, turbofish, trailing, last⟩
          · simp only [bind, Except.bind, if_neg few] at found
            cases found
  · cases found

/-- A registered type with a constructor is the path that the constructor is made of. -/
theorem of_constructor {type : TypeExpr} {constructor : Constructor}
    (found : constructorOf type = .ok (some constructor)) :
    type = .path constructor.base ∧ ∃ name turbofish trailing,
      constructor.base.last? =
        some (.mk name (.angle turbofish (constructor.arguments.map .type) trailing)) := by
  cases type with
  | path path =>
      rcases of_split found with ⟨rfl, last⟩
      exact ⟨rfl, last⟩
  | tuple | array => cases found
  | qualified | paren | slice | pointer | reference | function | traitObject | implTrait
  | macroCall | never | inferred | verbatim => cases found

end Registration
end Capability

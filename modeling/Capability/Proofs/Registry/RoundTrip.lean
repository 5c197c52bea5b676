import Capability.Proofs.Json.Record
import Capability.Proofs.Registry.Insertion

/-!
# Reading a registry undoes writing it

The written forms of predicates, profiles and manifests are lawful shapes: their
fields have different names, each field is restored, and the fields make up the
whole record.  So every list of manifests is restored from its text, whatever its
names, texts, sizes and operations are.  Reading a registry inserts these
manifests again, and where no name and no symbol occurs twice, no insertion is
refused.
-/

namespace Capability

open Json Json.Reader Json.Shape

/-! ## Lawful shapes -/

theorem Predicates.shape_lawful : Predicates.shape.Lawful := by
  have support : Restores (choice ThreeWaySupport.name ThreeWaySupport.all)
      fun value => .string value.name :=
    choice_restores (by decide) fun value => by cases value <;> decide
  have source : Restores (choice DisplaySource.name DisplaySource.all)
      fun value => .string value.name :=
    choice_restores (by decide) fun value => by cases value <;> decide
  refine ⟨by decide, fun record => ?_⟩
  apply Exists.intro
  constructor
  case left =>
    iterate 16 apply Restoring.field boolean_restores
    apply Restoring.field support
    iterate 3 apply Restoring.field boolean_restores
    exact .field source .nil
  case right => rfl

theorem Profile.shape_lawful : Profile.shape.Lawful := by
  refine ⟨by decide, fun record => ?_⟩
  apply Exists.intro
  constructor
  case left =>
    iterate 16 apply Restoring.field boolean_restores
    exact .nil
  case right => rfl

theorem operations_restores :
    Restores (list (choice Operation.name Operation.all)) fun operations =>
      .array (operations.map fun operation => .string operation.name) :=
  list_restores (choice_restores (by decide) Operation.mem_all)

theorem Manifest.shape_lawful : Manifest.shape.Lawful := by
  refine ⟨by decide, fun record => ?_⟩
  apply Exists.intro
  constructor
  case left =>
    iterate 3 apply Restoring.field text_restores
    iterate 2 apply Restoring.field size_restores
    apply Restoring.field Predicates.shape_lawful.restores
    apply Restoring.field Profile.shape_lawful.restores
    exact .field operations_restores .nil
  case right => rfl

/-! ## Registries -/

namespace Registry

/-- Every list of manifests is read back from its text, in every layout. -/
theorem readManifests_write (manifests : List Manifest) (layout : Layout) :
    readManifests (String.ofList
      ((Value.array (manifests.map Manifest.shape.write)).write layout 0)) = .ok manifests := by
  have reads := list_restores Manifest.shape_lawful.restores layout 0 manifests
  have whole := reads.run allBlank_nil allBlank_nil
  rwa [List.nil_append, List.append_nil] at whole

/-- A registry without repetition is read back from its text, in every layout. -/
theorem Unique.ofJson_write {registry : Registry} (unique : registry.Unique) (layout : Layout) :
    ofJson (String.ofList (registry.write.write layout 0)) = .ok registry := by
  rw [ofJson, write, readManifests_write]
  exact insertAll_of_unique unique

end Registry
end Capability

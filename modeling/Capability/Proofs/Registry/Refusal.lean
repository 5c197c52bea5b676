import Capability.Proofs.Registry.Loading
import Capability.Proofs.Registry.Run

/-!
# What is refused, and what a refusal leaves behind

A registry is changed where it is.  An insertion looks for the name, then for the
symbol, and only then adds the manifest, so that a refusal is always met before
anything is changed.  This says nothing as long as an insertion that is refused
gives no registry at all; so it is said of one that has the registry as its state,
and both are shown to be the same.

Which refusal is met follows from the entries alone.  A name that is taken comes
first, whoever has the symbol.  Otherwise the entry with the symbol is the only
one, since symbols are without repetition in every registry that can be reached,
and its name differs from that of the manifest, since no entry has that one.
-/

namespace Capability
namespace Registry

/-- A registry that some run of calls leads to, from where a run may start. -/
def Reachable (registry : Registry) : Prop :=
  ∃ origin loaded calls, Origin origin loaded ∧ origin.run calls = registry

theorem Reachable.unique {registry : Registry} (reachable : registry.Reachable) :
    registry.Unique := by
  rcases reachable with ⟨origin, loaded, calls, start, rfl⟩
  exact start.unique.run calls

/-! ## Insertion in place -/

/-- What is done to a registry where it is.  There is a registry behind it whether or not it is
refused. -/
abbrev InPlace := ExceptT RegistryError (StateM Registry)

/-- Add a manifest to the registry at hand. -/
def insertInPlace (manifest : Manifest) : InPlace Unit := do
  let registry ← get
  if registry.entries.any fun entry => entry.name == manifest.name then
    throw (.duplicateName manifest.name)
  match registry.exporter? manifest.symbol with
  | some first => throw (.duplicateSymbol manifest.symbol first.name manifest.name)
  | none => set (Registry.mk (registry.entries ++ [manifest]))

def registerInPlace {α : Type} (name sourceType : String) (behaviour : Behaviour α) :
    InPlace Unit :=
  insertInPlace (Manifest.of name sourceType behaviour)

/-- A call as it is made on the registry at hand. -/
def Call.inPlace : Call → InPlace Unit
  | insert manifest => insertInPlace manifest
  | register name sourceType behaviour => registerInPlace name sourceType behaviour

theorem any_name_iff (registry : Registry) (name : String) :
    (registry.entries.any fun entry => entry.name == name) = true ↔ name ∈ registry.names := by
  simp only [List.any_eq_true, beq_iff_eq, names, List.mem_map]

/-- An insertion in place answers as the insertion does.  The registry behind it is the new one,
and where the insertion is refused it is the one that was there before. -/
theorem run_insertInPlace (registry : Registry) (manifest : Manifest) :
    (insertInPlace manifest).run.run registry =
      match registry.insert manifest with
      | .ok next => (.ok (), next)
      | .error refusal => (.error refusal, registry) := by
  have opened : (insertInPlace manifest).run.run registry =
      ((if registry.entries.any fun entry => entry.name == manifest.name then
          throw (.duplicateName manifest.name)
        else
          match registry.exporter? manifest.symbol with
          | some first => throw (.duplicateSymbol manifest.symbol first.name manifest.name)
          | none => set (Registry.mk (registry.entries ++ [manifest]))) :
        InPlace Unit).run.run registry := rfl
  rw [opened, Registry.insert]
  cases named : registry.get? manifest.name with
  | some entry =>
      rcases of_get? named with ⟨member, same⟩
      have taken : manifest.name ∈ registry.names := List.mem_map.mpr ⟨entry, member, same⟩
      rw [if_pos ((registry.any_name_iff _).mpr taken)]
      rfl
  | none =>
      have free : manifest.name ∉ registry.names := (registry.get?_eq_none_iff _).mp named
      rw [if_neg fun any => free ((registry.any_name_iff _).mp any)]
      cases registry.exporter? manifest.symbol <;> rfl

theorem Call.run_inPlace (registry : Registry) (call : Call) :
    call.inPlace.run.run registry =
      match registry.insert call.manifest with
      | .ok next => (.ok (), next)
      | .error refusal => (.error refusal, registry) := by
  cases call <;> exact run_insertInPlace registry _

/-- The runs by which registries are reached are made of calls in place. -/
theorem Call.registry_inPlace (registry : Registry) (call : Call) :
    (call.inPlace.run.run registry).2 = registry.after call := by
  rw [call.run_inPlace, after, call.perform_eq_insert]
  cases registry.insert call.manifest <;> rfl

/-! ## Which refusal is met -/

/-- An insertion reads nothing, so that it finds nothing unreadable. -/
theorem insert_ne_unreadable (registry : Registry) (manifest : Manifest) (message : String) :
    registry.insert manifest ≠ .error (.unreadable message) := by
  intro refused
  rw [Registry.insert] at refused
  cases named : registry.get? manifest.name with
  | some entry =>
      rw [named] at refused
      cases refused
  | none =>
      cases exported : registry.exporter? manifest.symbol with
      | some first =>
          rw [named, exported] at refused
          cases refused
      | none =>
          rw [named, exported] at refused
          cases refused

theorem exists_insert_iff (registry : Registry) (manifest : Manifest) :
    (∃ next, registry.insert manifest = .ok next) ↔
      ∀ entry ∈ registry.entries, entry.name ≠ manifest.name ∧ entry.symbol ≠ manifest.symbol := by
  simp only [insert_eq_ok_iff, exists_and_left, exists_eq, and_true, names, symbols, List.mem_map,
    not_exists, not_and, forall_and]

/-! ## What an insertion changes -/

/-- Behind an insertion the manifest is found under its name, and under every other name what was
found before. -/
theorem get?_of_insert {registry next : Registry} {manifest : Manifest}
    (inserted : registry.insert manifest = .ok next) (name : String) :
    next.get? name = if name = manifest.name then some manifest else registry.get? name := by
  rcases insert_eq_ok_iff.mp inserted with ⟨free, _, rfl⟩
  have behind : get? ⟨registry.entries ++ [manifest]⟩ name =
      (registry.get? name).or (if manifest.name == name then some manifest else none) := by
    rw [get?, List.find?_append, List.find?_singleton]
    rfl
  rw [behind]
  by_cases same : name = manifest.name
  · rw [same, (registry.get?_eq_none_iff _).mpr free, Option.none_or, if_pos (beq_self_eq_true _),
      if_pos rfl]
  · rw [if_neg same, if_neg fun equal => same (beq_iff_eq.mp equal).symm, Option.or_none]

/-- Which refusal an insertion meets, and what is there behind it, in every registry that can be
reached.  The manifest is refused for its name exactly if an entry has the name, whoever has its
symbol.  It is refused for its symbol exactly if no entry has the name and some entry has the
symbol; this entry is the only one with the symbol, and it is the one that is named, by a name that
is not that of the manifest.  Otherwise the insertion succeeds.

Every call that brings the manifest answers so where it is made in place, as it is in a run.  A
refused one leaves the registry as it was.  One that succeeds adds the manifest behind the entries
and nothing else: it is found under its name, and under every other name what was found before. -/
theorem refusals_exact_and_harmless {registry : Registry} (reachable : registry.Reachable)
    (manifest : Manifest) :
    (∀ name, registry.insert manifest = .error (.duplicateName name) ↔
      name = manifest.name ∧ ∃ entry ∈ registry.entries, entry.name = manifest.name) ∧
    (∀ symbol first second,
      registry.insert manifest = .error (.duplicateSymbol symbol first second) ↔
        symbol = manifest.symbol ∧ second = manifest.name ∧
          (∀ entry ∈ registry.entries, entry.name ≠ manifest.name) ∧
          ∃ owner ∈ registry.entries, owner.symbol = manifest.symbol ∧ owner.name = first) ∧
    (∀ symbol first second,
      registry.insert manifest = .error (.duplicateSymbol symbol first second) →
        first ≠ second ∧ ∃ owner, owner.name = first ∧
          (registry.entries.filter fun entry => entry.symbol == manifest.symbol) = [owner]) ∧
    ((∃ next, registry.insert manifest = .ok next) ↔
      ∀ entry ∈ registry.entries,
        entry.name ≠ manifest.name ∧ entry.symbol ≠ manifest.symbol) ∧
    (∀ message, registry.insert manifest ≠ .error (.unreadable message)) ∧
    ∀ call : Call, call.manifest = manifest →
      (call.inPlace.run.run registry).2 = registry.after call ∧
      (∀ refusal, registry.insert manifest = .error refusal →
        call.inPlace.run.run registry = (.error refusal, registry)) ∧
      ∀ next, registry.insert manifest = .ok next →
        call.inPlace.run.run registry = (.ok (), next) ∧
          next.entries = registry.entries ++ [manifest] ∧ next.size = registry.size + 1 ∧
          ∀ name, next.get? name =
            if name = manifest.name then some manifest else registry.get? name := by
  have unique := reachable.unique
  refine ⟨unique.insert_eq_duplicateName_iff manifest,
    unique.insert_eq_duplicateSymbol_iff manifest, ?_, exists_insert_iff registry manifest,
    insert_ne_unreadable registry manifest, ?_⟩
  · intro symbol first second refused
    rcases (unique.insert_eq_duplicateSymbol_iff _ _ _ _).mp refused with
      ⟨_, rfl, free, owner, member, same, rfl⟩
    refine ⟨free owner member, owner, rfl, ?_⟩
    rw [← same]
    exact filter_key_of_mem unique.symbols_nodup member
  · rintro call rfl
    refine ⟨call.registry_inPlace registry, ?_, ?_⟩
    · intro refusal refused
      rw [call.run_inPlace, refused]
    · intro next inserted
      refine ⟨?_, ?_, ?_, get?_of_insert inserted⟩
      · rw [call.run_inPlace, inserted]
      · rw [(insert_eq_ok_iff.mp inserted).2.2]
      · rw [(insert_eq_ok_iff.mp inserted).2.2, size, List.length_append]
        rfl

/-- The registry behind the registration of a point and of a temperature. -/
def pointAndCelsius : Registry := ⟨[Catalog.point.manifest, Catalog.celsius.manifest]⟩

theorem reachable_pointAndCelsius : pointAndCelsius.Reachable :=
  ⟨empty, [], [.insert Catalog.point.manifest, .insert Catalog.celsius.manifest], .new, rfl⟩

/-- A manifest with the name of one entry and the symbol of another is refused for its name; under
a name of its own it is refused for its symbol.  Neither changes the registry. -/
theorem refusals_exact_of_two_clashes :
    pointAndCelsius.Reachable ∧
      ((Call.insert { Catalog.point.manifest with
          symbol := Catalog.celsius.manifest.symbol }).inPlace.run.run pointAndCelsius) =
        (.error (.duplicateName "Point"), pointAndCelsius) ∧
      ((Call.insert { Catalog.point.manifest with
          name := "Place", symbol := Catalog.celsius.manifest.symbol }).inPlace.run.run
            pointAndCelsius) =
        (.error (.duplicateSymbol "celsius_bridge_vtable" "Celsius" "Place"), pointAndCelsius) := by
  have apart : ∀ entry ∈ pointAndCelsius.entries, entry.name ≠ "Place" := by decide
  refine ⟨reachable_pointAndCelsius, ?_, ?_⟩
  · rcases refusals_exact_and_harmless reachable_pointAndCelsius { Catalog.point.manifest with
      symbol := Catalog.celsius.manifest.symbol } with ⟨named, _, _, _, _, calls⟩
    exact (calls _ rfl).2.1 _
      ((named "Point").mpr ⟨rfl, Catalog.point.manifest, List.mem_cons_self, rfl⟩)
  · rcases refusals_exact_and_harmless reachable_pointAndCelsius { Catalog.point.manifest with
      name := "Place", symbol := Catalog.celsius.manifest.symbol } with
      ⟨_, exported, _, _, _, calls⟩
    exact (calls _ rfl).2.1 _ ((exported _ _ _).mpr
      ⟨by decide, rfl, apart, Catalog.celsius.manifest,
        List.mem_cons_of_mem _ List.mem_cons_self, rfl, by decide⟩)

end Registry
end Capability

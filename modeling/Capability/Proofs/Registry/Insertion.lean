import Capability.Proofs.Keyed
import Capability.Registry

/-!
# Insertion into a registry

An insertion succeeds exactly if neither the name nor the symbol of the
manifest is taken, and then it changes nothing but the end of the entries.
From this alone follow that names and symbols stay without repetition, that
inserting a list one by one succeeds exactly on lists without repetition, and
that a look-up finds the only entry with a name.
-/

namespace Capability
namespace Registry

/-- No name and no symbol occurs twice. -/
structure Unique (registry : Registry) : Prop where
  names_nodup : registry.names.Nodup
  symbols_nodup : registry.symbols.Nodup

theorem unique_empty : empty.Unique :=
  ⟨List.nodup_nil, List.nodup_nil⟩

/-! ## One insertion -/

theorem get?_eq_none_iff (registry : Registry) (name : String) :
    registry.get? name = none ↔ name ∉ registry.names := by
  simp only [get?, names, List.find?_eq_none, beq_iff_eq, List.mem_map, not_exists, not_and]

theorem exporter?_eq_none_iff (registry : Registry) (symbol : String) :
    registry.exporter? symbol = none ↔ symbol ∉ registry.symbols := by
  simp only [exporter?, symbols, List.find?_eq_none, beq_iff_eq, List.mem_map, not_exists, not_and]

/-- Everything that a successful insertion says: what was free before it, and
what the registry holds behind it. -/
theorem insert_eq_ok_iff {registry next : Registry} {manifest : Manifest} :
    registry.insert manifest = .ok next ↔
      manifest.name ∉ registry.names ∧ manifest.symbol ∉ registry.symbols ∧
        next = ⟨registry.entries ++ [manifest]⟩ := by
  rw [← get?_eq_none_iff, ← exporter?_eq_none_iff, insert]
  cases named : registry.get? manifest.name with
  | some entry => simp
  | none =>
      cases exported : registry.exporter? manifest.symbol with
      | some entry => simp
      | none => simp [eq_comm]

theorem Unique.insert {registry next : Registry} {manifest : Manifest} (unique : registry.Unique)
    (inserted : registry.insert manifest = .ok next) : next.Unique := by
  rcases insert_eq_ok_iff.mp inserted with ⟨newName, newSymbol, rfl⟩
  exact ⟨nodup_key_concat unique.names_nodup newName,
    nodup_key_concat unique.symbols_nodup newSymbol⟩

/-! ## Insertion one by one -/

/-- Inserting one by one succeeds exactly if the first insertion does and then the others do. -/
theorem insertAll_cons_eq_ok_iff {registry next : Registry} {manifest : Manifest}
    {rest : List Manifest} :
    registry.insertAll (manifest :: rest) = .ok next ↔
      ∃ middle, registry.insert manifest = .ok middle ∧ middle.insertAll rest = .ok next := by
  rw [insertAll]
  cases first : registry.insert manifest with
  | error refusal => simp [bind, Except.bind]
  | ok middle => simp [bind, Except.bind]

/-- A successful insertion one by one appends the manifests as they are. -/
theorem entries_of_insertAll {manifests : List Manifest} {registry next : Registry}
    (inserted : registry.insertAll manifests = .ok next) :
    next.entries = registry.entries ++ manifests := by
  induction manifests generalizing registry with
  | nil =>
      cases inserted
      exact (List.append_nil _).symm
  | cons manifest rest inductionHypothesis =>
      rcases insertAll_cons_eq_ok_iff.mp inserted with ⟨middle, first, others⟩
      rcases insert_eq_ok_iff.mp first with ⟨_, _, rfl⟩
      rw [inductionHypothesis others, List.append_assoc]
      rfl

theorem Unique.insertAll {manifests : List Manifest} {registry next : Registry}
    (unique : registry.Unique) (inserted : registry.insertAll manifests = .ok next) :
    next.Unique := by
  induction manifests generalizing registry with
  | nil =>
      cases inserted
      exact unique
  | cons manifest rest inductionHypothesis =>
      rcases insertAll_cons_eq_ok_iff.mp inserted with ⟨middle, first, others⟩
      exact inductionHypothesis (unique.insert first) others

/-- Where the entries together with further manifests are without repetition,
inserting these one by one succeeds. -/
theorem insertAll_of_unique {manifests : List Manifest} {registry : Registry}
    (unique : Unique ⟨registry.entries ++ manifests⟩) :
    registry.insertAll manifests = .ok ⟨registry.entries ++ manifests⟩ := by
  induction manifests generalizing registry with
  | nil => rw [List.append_nil]; rfl
  | cons manifest rest inductionHypothesis =>
      have together : registry.entries ++ manifest :: rest =
          (registry.entries ++ [manifest]) ++ rest := by
        rw [List.append_assoc, List.singleton_append]
      have newName : manifest.name ∉ registry.names := key_free_of_nodup unique.names_nodup
      have newSymbol : manifest.symbol ∉ registry.symbols := key_free_of_nodup unique.symbols_nodup
      have first := insert_eq_ok_iff.mpr ⟨newName, newSymbol, rfl⟩
      rw [together] at unique ⊢
      exact insertAll_cons_eq_ok_iff.mpr ⟨_, first, inductionHypothesis unique⟩

/-! ## Look-ups -/

/-- A look-up finds the first entry with a name. -/
theorem get?_eq_head? (registry : Registry) (name : String) :
    registry.get? name = (registry.entries.filter fun entry => entry.name == name).head? :=
  (List.head?_filter).symm

/-- Where names are without repetition, a look-up finds a manifest exactly if it
is the one entry with the name. -/
theorem Unique.get?_eq_some_iff {registry : Registry} (unique : registry.Unique) (name : String)
    (manifest : Manifest) :
    registry.get? name = some manifest ↔
      (registry.entries.filter fun entry => entry.name == name) = [manifest] := by
  rw [get?_eq_head?]
  constructor
  · intro found
    have listed := List.mem_filter.mp (List.mem_of_head? found)
    rw [← beq_iff_eq.mp listed.2]
    exact filter_key_of_mem unique.names_nodup listed.1
  · intro only
    rw [only]
    rfl

theorem Unique.get?_of_mem {registry : Registry} (unique : registry.Unique) {manifest : Manifest}
    (member : manifest ∈ registry.entries) : registry.get? manifest.name = some manifest :=
  find?_key_of_mem unique.names_nodup member

end Registry
end Capability

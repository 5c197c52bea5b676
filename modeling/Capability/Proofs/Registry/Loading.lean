import Capability.Catalog.Entries
import Capability.Proofs.Registry.RoundTrip

/-!
# Which lists of manifests are loaded

Loading a text inserts the manifests that it lists one by one into a registry
that begins empty, and stops at the first that is refused.  The registry at that
point holds exactly the manifests in front of it.  Hence a list is loaded if and
only if it is without repetition, which does not depend on its order; and the
refusal is the one that the first manifest with an earlier name or symbol meets,
whatever stands behind it.

A manifest can clash with two earlier ones, with the name of one and with the
symbol of another.  The name is looked at first.  Among manifests without
repetition a symbol has only one owner, so that the refusal is settled.
-/

namespace Capability
namespace Registry

/-- A manifest meets a refusal behind earlier ones: its name is taken, or its name
is free and its symbol belongs to one of them. -/
inductive Clash (earlier : List Manifest) (manifest : Manifest) : RegistryError → Prop where
  | name {other : Manifest} : other ∈ earlier → other.name = manifest.name →
      Clash earlier manifest (.duplicateName manifest.name)
  | symbol {owner : Manifest} : (∀ other ∈ earlier, other.name ≠ manifest.name) →
      owner ∈ earlier → owner.symbol = manifest.symbol →
      Clash earlier manifest (.duplicateSymbol manifest.symbol owner.name manifest.name)

/-- A refusal is the one that the first clashing manifest of a list meets: all in
front of it are without repetition. -/
def FirstClash (manifests : List Manifest) (refusal : RegistryError) : Prop :=
  ∃ before manifest behind, manifests = before ++ manifest :: behind ∧
    Unique ⟨before⟩ ∧ Clash before manifest refusal

/-! ## One insertion that is refused -/

theorem not_mem_names_iff {registry : Registry} {name : String} :
    name ∉ registry.names ↔ ∀ entry ∈ registry.entries, entry.name ≠ name := by
  simp only [names, List.mem_map, not_exists, not_and, ne_eq]

theorem exporter?_of_mem {registry : Registry} (unique : registry.Unique) {owner : Manifest}
    (member : owner ∈ registry.entries) : registry.exporter? owner.symbol = some owner :=
  find?_key_of_mem unique.symbols_nodup member

theorem of_get? {registry : Registry} {name : String} {entry : Manifest}
    (found : registry.get? name = some entry) : entry ∈ registry.entries ∧ entry.name = name := by
  have named := List.find?_some found
  exact ⟨List.mem_of_find?_eq_some found, beq_iff_eq.mp named⟩

theorem of_exporter? {registry : Registry} {symbol : String} {entry : Manifest}
    (found : registry.exporter? symbol = some entry) :
    entry ∈ registry.entries ∧ entry.symbol = symbol := by
  have exported := List.find?_some found
  exact ⟨List.mem_of_find?_eq_some found, beq_iff_eq.mp exported⟩

/-- A registry without repetition refuses exactly what clashes with its entries. -/
theorem Unique.insert_eq_error_iff {registry : Registry} (unique : registry.Unique)
    {manifest : Manifest} {refusal : RegistryError} :
    registry.insert manifest = .error refusal ↔ Clash registry.entries manifest refusal := by
  constructor
  · intro refused
    rw [Registry.insert] at refused
    cases named : registry.get? manifest.name with
    | some entry =>
        rw [named] at refused
        cases refused
        exact .name (of_get? named).1 (of_get? named).2
    | none =>
        rw [named] at refused
        have free := not_mem_names_iff.mp ((registry.get?_eq_none_iff manifest.name).mp named)
        cases exported : registry.exporter? manifest.symbol with
        | none =>
            rw [exported] at refused
            cases refused
        | some owner =>
            rw [exported] at refused
            cases refused
            exact .symbol free (of_exporter? exported).1 (of_exporter? exported).2
  · intro clash
    rw [Registry.insert]
    cases clash with
    | @name other member same =>
        rw [← same, unique.get?_of_mem member]
    | @symbol owner free member same =>
        have named := (registry.get?_eq_none_iff manifest.name).mpr (not_mem_names_iff.mpr free)
        rw [named, ← same, exporter?_of_mem unique member]

theorem Unique.insert_eq_duplicateName_iff {registry : Registry} (unique : registry.Unique)
    (manifest : Manifest) (name : String) :
    registry.insert manifest = .error (.duplicateName name) ↔
      name = manifest.name ∧ ∃ entry ∈ registry.entries, entry.name = manifest.name := by
  rw [unique.insert_eq_error_iff]
  constructor
  · intro clash
    cases clash with
    | name member same => exact ⟨rfl, _, member, same⟩
  · rintro ⟨rfl, entry, member, same⟩
    exact .name member same

theorem Unique.insert_eq_duplicateSymbol_iff {registry : Registry} (unique : registry.Unique)
    (manifest : Manifest) (symbol first second : String) :
    registry.insert manifest = .error (.duplicateSymbol symbol first second) ↔
      symbol = manifest.symbol ∧ second = manifest.name ∧
        (∀ entry ∈ registry.entries, entry.name ≠ manifest.name) ∧
        ∃ owner ∈ registry.entries, owner.symbol = manifest.symbol ∧ owner.name = first := by
  rw [unique.insert_eq_error_iff]
  constructor
  · intro clash
    cases clash with
    | @symbol owner free member same => exact ⟨rfl, rfl, free, owner, member, same, rfl⟩
  · rintro ⟨rfl, rfl, free, owner, member, same, rfl⟩
    exact .symbol free member same

/-! ## Insertion one by one that is refused -/

/-- Inserting one by one is refused exactly where the first insertion is, or where
it succeeds and the others are refused. -/
theorem insertAll_cons_eq_error_iff {registry : Registry} {manifest : Manifest}
    {rest : List Manifest} {refusal : RegistryError} :
    registry.insertAll (manifest :: rest) = .error refusal ↔
      registry.insert manifest = .error refusal ∨
        ∃ middle, registry.insert manifest = .ok middle ∧
          middle.insertAll rest = .error refusal := by
  rw [insertAll]
  cases first : registry.insert manifest with
  | error met => simp [bind, Except.bind]
  | ok middle => simp [bind, Except.bind]

/-- A refusal is met by a single manifest, in the registry that the manifests in
front of it have made. -/
theorem insertAll_eq_error_iff {manifests : List Manifest} {registry : Registry}
    {refusal : RegistryError} :
    registry.insertAll manifests = .error refusal ↔
      ∃ before manifest behind reached, manifests = before ++ manifest :: behind ∧
        registry.insertAll before = .ok reached ∧ reached.insert manifest = .error refusal := by
  induction manifests generalizing registry with
  | nil =>
      constructor
      · intro refused
        cases refused
      · rintro ⟨before, manifest, behind, _, parts, _, _⟩
        exact absurd parts.symm (List.append_ne_nil_of_right_ne_nil _ (List.cons_ne_nil _ _))
  | cons first rest inductionHypothesis =>
      rw [insertAll_cons_eq_error_iff]
      constructor
      · rintro (refused | ⟨middle, inserted, others⟩)
        · exact ⟨[], first, rest, registry, rfl, rfl, refused⟩
        · rcases inductionHypothesis.mp others with
            ⟨before, manifest, behind, reached, rfl, made, refused⟩
          exact ⟨first :: before, manifest, behind, reached, rfl,
            insertAll_cons_eq_ok_iff.mpr ⟨middle, inserted, made⟩, refused⟩
      · rintro ⟨before, manifest, behind, reached, parts, made, refused⟩
        cases before with
        | nil =>
            cases parts
            cases made
            exact .inl refused
        | cons head before =>
            cases parts
            rcases insertAll_cons_eq_ok_iff.mp made with ⟨middle, inserted, others⟩
            exact .inr ⟨middle, inserted, inductionHypothesis.mpr
              ⟨before, manifest, behind, reached, rfl, others, refused⟩⟩

/-! ## Whole lists -/

/-- A list makes a registry exactly if it is without repetition, and then these are
its entries. -/
theorem ofList_eq_ok_iff {manifests : List Manifest} {registry : Registry} :
    ofList manifests = .ok registry ↔ Unique ⟨manifests⟩ ∧ registry = ⟨manifests⟩ := by
  constructor
  · intro made
    have same : registry = ⟨manifests⟩ := congrArg Registry.mk (entries_of_insertAll made)
    exact ⟨same ▸ unique_empty.insertAll made, same⟩
  · rintro ⟨unique, rfl⟩
    have inserted : empty.insertAll manifests = .ok ⟨empty.entries ++ manifests⟩ :=
      insertAll_of_unique unique
    exact inserted

theorem exists_ofList_iff {manifests : List Manifest} :
    (∃ registry, ofList manifests = .ok registry) ↔ Unique ⟨manifests⟩ := by
  simp only [ofList_eq_ok_iff, exists_and_left, exists_eq, and_true]

theorem ofList_eq_error_iff {manifests : List Manifest} {refusal : RegistryError} :
    ofList manifests = .error refusal ↔ FirstClash manifests refusal := by
  rw [ofList, insertAll_eq_error_iff]
  constructor
  · rintro ⟨before, manifest, behind, reached, parts, made, refused⟩
    rcases ofList_eq_ok_iff.mp made with ⟨unique, rfl⟩
    exact ⟨before, manifest, behind, parts, unique, unique.insert_eq_error_iff.mp refused⟩
  · rintro ⟨before, manifest, behind, parts, unique, clash⟩
    exact ⟨before, manifest, behind, ⟨before⟩, parts, ofList_eq_ok_iff.mpr ⟨unique, rfl⟩,
      unique.insert_eq_error_iff.mpr clash⟩

/-- Whether a list is without repetition does not depend on its order. -/
theorem unique_of_perm {first second : List Manifest} (shuffled : first.Perm second) :
    Unique ⟨first⟩ ↔ Unique ⟨second⟩ := by
  have sameNames := (shuffled.map (·.name)).nodup_iff
  have sameSymbols := (shuffled.map (·.symbol)).nodup_iff
  constructor
  · rintro ⟨names, symbols⟩
    exact ⟨sameNames.mp names, sameSymbols.mp symbols⟩
  · rintro ⟨names, symbols⟩
    exact ⟨sameNames.mpr names, sameSymbols.mpr symbols⟩

theorem ofJson_of_read {text : String} {manifests : List Manifest}
    (read : readManifests text = .ok manifests) : ofJson text = ofList manifests := by
  rw [ofJson, read]

/-! ## Texts -/

/-- A text that lists manifests is loaded exactly if these are without repetition,
and then they are the entries in the order of the text.  Otherwise the refusal is
that of the first manifest with an earlier name or symbol.  So the order of the
list does not matter to whether it is loaded.  A text that lists no manifests is
unreadable, and no clash is reported of it. -/
theorem ofJson_accepts_exactly_clash_free (text : String) :
    (∀ manifests, readManifests text = .ok manifests →
      ((∃ registry, ofJson text = .ok registry) ↔
        (manifests.map (·.name)).Nodup ∧ (manifests.map (·.symbol)).Nodup) ∧
      (∀ registry, ofJson text = .ok registry → registry.entries = manifests) ∧
      (∀ refusal, ofJson text = .error refusal ↔ FirstClash manifests refusal) ∧
      ∀ otherText shuffled, readManifests otherText = .ok shuffled → shuffled.Perm manifests →
        ((∃ registry, ofJson otherText = .ok registry) ↔ ∃ registry, ofJson text = .ok registry)) ∧
    ∀ fault, readManifests text = .error fault →
      ofJson text = .error (.unreadable (fault.message text)) := by
  constructor
  · intro manifests read
    refine ⟨?_, ?_, ?_, ?_⟩
    · rw [ofJson_of_read read, exists_ofList_iff]
      exact ⟨fun unique => ⟨unique.names_nodup, unique.symbols_nodup⟩,
        fun nodup => ⟨nodup.1, nodup.2⟩⟩
    · intro registry loaded
      rw [ofJson_of_read read, ofList_eq_ok_iff] at loaded
      rw [loaded.2]
    · intro refusal
      rw [ofJson_of_read read, ofList_eq_error_iff]
    · intro otherText shuffled otherRead permutation
      rw [ofJson_of_read read, ofJson_of_read otherRead, exists_ofList_iff, exists_ofList_iff]
      exact unique_of_perm permutation
  · intro fault unreadable
    rw [ofJson, unreadable]

/-- A list of three manifests of which the second has the symbol of the first and
the third has its name: the clash of the second is reported. -/
theorem ofJson_symbol_clash_before_name_clash :
    ∃ text, readManifests text = .ok [Catalog.point.manifest,
        { Catalog.celsius.manifest with symbol := Catalog.point.manifest.symbol },
        Catalog.point.manifest] ∧
      ofJson text = .error (.duplicateSymbol "point_bridge_vtable" "Point" "Celsius") := by
  have read := readManifests_write [Catalog.point.manifest,
    { Catalog.celsius.manifest with symbol := Catalog.point.manifest.symbol },
    Catalog.point.manifest] .compact
  refine ⟨_, read, ?_⟩
  apply (((ofJson_accepts_exactly_clash_free _).1 _ read).2.2.1 _).mpr
  have single : Unique ⟨[Catalog.point.manifest]⟩ :=
    ⟨List.pairwise_singleton _ _, List.pairwise_singleton _ _⟩
  refine ⟨[Catalog.point.manifest], _, _, rfl, single, ?_⟩
  have free : ∀ other ∈ [Catalog.point.manifest], other.name ≠ "Celsius" := by
    decide
  exact .symbol free List.mem_cons_self rfl

end Registry
end Capability

import Capability.Catalog.Entries
import Capability.Proofs.Registry.RoundTrip

/-!
# Registries over whole runs

A registry is new or is read from a text, and from then on it changes only by
calls, each of which may be refused.  A refused call leaves no trace.  What a
run of calls comes to is therefore settled by what was loaded and by which
manifests were accepted: the entries are these and nothing else, in the order of
the calls and as they were given.

Because no name and no symbol is ever repeated, the text of a registry behind a run
describes this registry, and a run may start again from it.
-/

namespace Capability
namespace Registry

/-- One call that may change a registry.  Registering a type inserts the manifest
of that type; an insertion may be of any manifest at all. -/
inductive Call : Type 1 where
  | insert (manifest : Manifest)
  | register {α : Type} (name sourceType : String) (behaviour : Behaviour α)

namespace Call

def manifest : Call → Manifest
  | insert manifest => manifest
  | register name sourceType behaviour => Manifest.of name sourceType behaviour

/-- The answer of a registry to a call. -/
def perform (registry : Registry) : Call → Except RegistryError Registry
  | insert manifest => registry.insert manifest
  | register name sourceType behaviour => registry.register name sourceType behaviour

/-- Both calls are insertions of the manifest that they bring. -/
theorem perform_eq_insert (registry : Registry) (call : Call) :
    call.perform registry = registry.insert call.manifest := by
  cases call <;> rfl

end Call

/-- The registry behind a call, which is the old one if the call is refused. -/
def after (registry : Registry) (call : Call) : Registry :=
  match call.perform registry with
  | .ok next => next
  | .error _ => registry

def run (registry : Registry) (calls : List Call) : Registry := calls.foldl after registry

/-- The manifests of those calls of a run that succeed, in the order of the calls. -/
def accepted (registry : Registry) : List Call → List Manifest
  | [] => []
  | call :: rest =>
    match call.perform registry with
    | .ok next => call.manifest :: accepted next rest
    | .error _ => accepted registry rest

/-- Where a run may start, and the manifests that were loaded there: at a new
registry, or at one that a text describes. -/
inductive Origin : Registry → List Manifest → Prop where
  | new : Origin empty []
  | loaded {text : String} {manifests : List Manifest} {registry : Registry} :
      readManifests text = .ok manifests → ofJson text = .ok registry → Origin registry manifests

/-! ## What a run preserves -/

theorem run_append (registry : Registry) (before behind : List Call) :
    registry.run (before ++ behind) = (registry.run before).run behind :=
  List.foldl_append

theorem Origin.entries {registry : Registry} {loaded : List Manifest}
    (origin : Origin registry loaded) : registry.entries = loaded := by
  cases origin with
  | new => rfl
  | loaded read described =>
      rw [ofJson, read] at described
      exact entries_of_insertAll described

theorem Origin.unique {registry : Registry} {loaded : List Manifest}
    (origin : Origin registry loaded) : registry.Unique := by
  cases origin with
  | new => exact unique_empty
  | loaded read described =>
      rw [ofJson, read] at described
      exact unique_empty.insertAll described

/-- One call keeps names and symbols without repetition, whether or not it succeeds. -/
theorem Unique.after {registry : Registry} (unique : registry.Unique) (call : Call) :
    (registry.after call).Unique := by
  cases answer : call.perform registry with
  | error refusal => simpa only [Registry.after, answer] using unique
  | ok next =>
      simp only [Registry.after, answer]
      exact unique.insert ((call.perform_eq_insert registry).symm.trans answer)

theorem Unique.run {registry : Registry} (unique : registry.Unique) (calls : List Call) :
    (registry.run calls).Unique := by
  induction calls generalizing registry with
  | nil => exact unique
  | cons call rest inductionHypothesis => exact inductionHypothesis (unique.after call)

theorem entries_of_perform {registry next : Registry} {call : Call}
    (answer : call.perform registry = .ok next) :
    next.entries = registry.entries ++ [call.manifest] := by
  rw [call.perform_eq_insert] at answer
  rw [(insert_eq_ok_iff.mp answer).2.2]

/-- Behind a run the entries are the old ones and then the accepted manifests. -/
theorem entries_run (registry : Registry) (calls : List Call) :
    (registry.run calls).entries = registry.entries ++ registry.accepted calls := by
  induction calls generalizing registry with
  | nil => exact (List.append_nil _).symm
  | cons call rest inductionHypothesis =>
      change ((registry.after call).run rest).entries = _
      rw [inductionHypothesis]
      cases answer : call.perform registry with
      | error refusal => simp only [after, accepted, answer]
      | ok next =>
          simp only [after, accepted, answer]
          rw [entries_of_perform answer, List.append_assoc, List.singleton_append]

theorem mem_run {registry : Registry} {manifest : Manifest} (member : manifest ∈ registry.entries)
    (calls : List Call) : manifest ∈ (registry.run calls).entries := by
  rw [entries_run]
  exact List.mem_append_left _ member

/-- The manifest of a successful call is among the entries behind every later run. -/
theorem mem_run_of_perform {registry next : Registry} {call : Call}
    (answer : call.perform registry = .ok next) (later : List Call) :
    call.manifest ∈ (registry.run (call :: later)).entries := by
  have taken : registry.after call = next := by simp only [after, answer]
  change call.manifest ∈ ((registry.after call).run later).entries
  rw [taken]
  apply mem_run
  rw [entries_of_perform answer]
  exact List.mem_append_right _ List.mem_cons_self

/-- The invariant of a registry over whole runs from a new or a loaded one.
Names and symbols are without repetition; the entries are the loaded manifests
and then the accepted ones; a look-up finds a manifest exactly if it is the one
entry with the name; and what was once accepted is found ever after. -/
theorem registry_invariant_over_runs {origin : Registry} {loaded : List Manifest}
    (start : Origin origin loaded) (calls : List Call) :
    (origin.run calls).names.Nodup ∧
      (origin.run calls).symbols.Nodup ∧
      (origin.run calls).entries = loaded ++ origin.accepted calls ∧
      (∀ name manifest, (origin.run calls).get? name = some manifest ↔
        ((origin.run calls).entries.filter fun entry => entry.name == name) = [manifest]) ∧
      ∀ before call later next, calls = before ++ call :: later →
        call.perform (origin.run before) = .ok next →
        (origin.run calls).get? call.manifest.name = some call.manifest := by
  have unique := start.unique.run calls
  refine ⟨unique.names_nodup, unique.symbols_nodup, ?_, unique.get?_eq_some_iff, ?_⟩
  · rw [entries_run, start.entries]
  · intro before call later next parts answer
    -- The run is cut where the call is made; what comes later keeps every entry.
    apply unique.get?_of_mem
    rw [parts, run_append]
    exact mem_run_of_perform answer later

/-- A manifest with a name of its own and the symbol of another. -/
def clashing : Manifest := { Catalog.celsius.manifest with symbol := Catalog.point.manifest.symbol }

/-- Of two manifests with different names and the same symbol only the first is
accepted, and it is the one that is found behind the run of both.  Behind a text that
describes the first, the second is refused as well, and a type with a symbol of its own
is registered. -/
theorem registry_invariant_symbol_clash :
    Origin empty [] ∧
      (empty.run [.insert Catalog.point.manifest, .insert clashing]).entries
          = [Catalog.point.manifest] ∧
      (empty.run [.insert Catalog.point.manifest, .insert clashing]).get? "Point"
          = some Catalog.point.manifest ∧
      ∃ text, readManifests text = .ok [Catalog.point.manifest] ∧
        ofJson text = .ok ⟨[Catalog.point.manifest]⟩ ∧
        (Registry.run ⟨[Catalog.point.manifest]⟩ [.insert clashing,
          .register "Celsius" "Celsius" Catalog.celsius.behaviour]).entries
            = [Catalog.point.manifest, Catalog.celsius.manifest] ∧
        (Registry.run ⟨[Catalog.point.manifest]⟩ [.insert clashing,
          .register "Celsius" "Celsius" Catalog.celsius.behaviour]).get? "Celsius"
            = some Catalog.celsius.manifest := by
  have accepted : empty.accepted [.insert Catalog.point.manifest, .insert clashing] =
      [Catalog.point.manifest] := by
    decide
  have taken : (Call.insert Catalog.point.manifest).perform empty =
      .ok ⟨[Catalog.point.manifest]⟩ := by
    rfl
  rcases registry_invariant_over_runs Origin.new [.insert Catalog.point.manifest,
    .insert clashing] with ⟨_, _, entries, _, found⟩
  refine ⟨Origin.new, entries.trans accepted, found [] _ _ _ rfl taken, ?_⟩
  have read := readManifests_write [Catalog.point.manifest] .compact
  have described : ofJson (String.ofList ((Json.Value.array
      ([Catalog.point.manifest].map Manifest.shape.write)).write .compact 0)) =
        .ok ⟨[Catalog.point.manifest]⟩ := by
    rw [ofJson, read]
    rfl
  have acceptedLater : Registry.accepted ⟨[Catalog.point.manifest]⟩ [.insert clashing,
      .register "Celsius" "Celsius" Catalog.celsius.behaviour] = [Catalog.celsius.manifest] := by
    decide
  have takenLater :
      (Call.register "Celsius" "Celsius" Catalog.celsius.behaviour).perform
          (Registry.run ⟨[Catalog.point.manifest]⟩ [.insert clashing]) =
        .ok ⟨[Catalog.point.manifest, Catalog.celsius.manifest]⟩ := by
    rfl
  rcases registry_invariant_over_runs (Origin.loaded read described) [.insert clashing,
    .register "Celsius" "Celsius" Catalog.celsius.behaviour] with ⟨_, _, entries, _, found⟩
  refine ⟨_, read, described, ?_, found [.insert clashing] _ [] _ rfl takenLater⟩
  rw [entries, acceptedLater]
  rfl

/-! ## Texts behind runs -/

/-- The whole format of a registry goes there and back: a registry behind any run
from a new or a loaded one is read back from its indented text, and from its
compact text as well. -/
theorem ofJson_toJson {origin : Registry} {loaded : List Manifest} (start : Origin origin loaded)
    (calls : List Call) :
    ofJson (origin.run calls).toJson = .ok (origin.run calls) ∧
      ofJson (origin.run calls).write.compact = .ok (origin.run calls) := by
  have unique := start.unique.run calls
  exact ⟨unique.ofJson_write .indented, unique.ofJson_write .compact⟩

/-- A registry goes there and back whose one manifest has a name with a quotation
mark, a backslash, a line break, a control character and a character that takes two
units, and the largest size there is. -/
theorem ofJson_toJson_awkward :
    Origin empty [] ∧
      ofJson (empty.run [.insert { Catalog.point.manifest with
        name := "\"\\\n\u0001😀", size := 18446744073709551615 }]).toJson =
          .ok ⟨[{ Catalog.point.manifest with
            name := "\"\\\n\u0001😀", size := 18446744073709551615 }]⟩ := by
  have back := ofJson_toJson Origin.new [.insert { Catalog.point.manifest with
    name := "\"\\\n\u0001😀", size := 18446744073709551615 }]
  exact ⟨Origin.new, back.1⟩

end Registry
end Capability

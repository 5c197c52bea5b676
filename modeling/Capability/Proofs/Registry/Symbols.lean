import Capability.Proofs.Registration.Names
import Capability.Proofs.Registry.Loading
import Capability.Proofs.Registry.Run
import Capability.Proofs.Table.Agreement

/-!
# Which registrations clash

A registration exports its table under a symbol that is made of the registered name,
and snake case does not keep all names apart: `HTTPHeader` and `HttpHeader` have one
symbol.  A registry only compares names and symbols as they are.  Both together mean
that a type is refused for its symbol exactly if another name has the same snake
case, and that this other name is the only one.

The names are those of expanded registrations, so that they are never raw, and what
the registry holds of a type is what the module of its registration says.
-/

namespace Capability

open Code

/-! ## Registered types -/

/-- A type for which a registration has made a module, and the behaviour of its values. -/
structure Enrolment : Type 1 where
  {Value : Type}
  registered : Registration.Registered
  expands : registered.plan.expand = .ok (.registration registered)
  behaviour : Behaviour Value

namespace Enrolment

/-- The name of the type, as the module of its registration holds it. -/
def name (enrolment : Enrolment) : String := enrolment.registered.names.name.written

/-- The manifest of the type: what the module says, together with its table. -/
def manifest (enrolment : Enrolment) : Manifest :=
  { Manifest.of enrolment.name enrolment.registered.typeText enrolment.behaviour with
    symbol := enrolment.registered.names.symbol }

/-- The call that registers the type. -/
def call (enrolment : Enrolment) : Registry.Call :=
  .register enrolment.name enrolment.registered.typeText enrolment.behaviour

theorem names_eq (enrolment : Enrolment) :
    enrolment.registered.names.name = enrolment.registered.plan.name ∧
      enrolment.registered.plan.name.raw = false ∧
      enrolment.registered.names.symbol = symbolOf enrolment.name := by
  rcases Registration.Names.of_eq_ok (Registration.Plan.names_of_expand enrolment.expands).1 with
    ⟨same, plain, symbol, _⟩
  exact ⟨same, plain, by rw [name, same, symbol]⟩

theorem manifest_symbol (enrolment : Enrolment) :
    enrolment.manifest.symbol = symbolOf enrolment.manifest.name :=
  enrolment.names_eq.2.2

/-- The manifest that is inserted is the one that the module says. -/
theorem manifest_call (enrolment : Enrolment) : enrolment.call.manifest = enrolment.manifest := by
  rw [manifest, enrolment.names_eq.2.2]
  rfl

/-- An entry says of a type what the module of its registration says, the profile that
follows from the predicates, and the slots that are filled. -/
structure DescribedBy (enrolment : Enrolment) (entry : Manifest) : Prop where
  name_eq : entry.name = enrolment.registered.plan.name.text
  symbol_eq : entry.symbol = enrolment.registered.names.symbol
  profile_eq : entry.profile = Profile.derive entry.predicates
  operations_eq : entry.operations = (Table.of enrolment.behaviour).operations
  mem_operations : ∀ operation, operation ∈ entry.operations ↔
    ((Table.of enrolment.behaviour).slot operation).isSome = true

theorem describedBy_manifest (enrolment : Enrolment) :
    enrolment.DescribedBy enrolment.manifest where
  name_eq := by
    rcases enrolment.names_eq with ⟨same, plain, _⟩
    rw [← Lexeme.written_of_plain plain, ← same]
    rfl
  symbol_eq := rfl
  profile_eq := rfl
  operations_eq := rfl
  mem_operations := (Table.of enrolment.behaviour).mem_operations

end Enrolment

namespace Registry

/-- The registry behind registrations, one by one from an empty registry. -/
def enrolled (enrolments : List Enrolment) : Registry :=
  empty.run (enrolments.map Enrolment.call)

/-! ## What is registered -/

/-- What a run accepts was brought by one of its calls. -/
theorem mem_accepted {calls : List Call} {registry : Registry} {manifest : Manifest}
    (member : manifest ∈ registry.accepted calls) : ∃ call ∈ calls, call.manifest = manifest := by
  induction calls generalizing registry with
  | nil => cases member
  | cons call rest inductionHypothesis =>
      have later : ∀ next : Registry, manifest ∈ next.accepted rest →
          ∃ other ∈ call :: rest, other.manifest = manifest := by
        intro next listed
        rcases inductionHypothesis listed with ⟨other, among, same⟩
        exact ⟨other, List.mem_cons_of_mem _ among, same⟩
      rw [accepted] at member
      split at member
      · next next answer =>
          rcases List.mem_cons.mp member with same | listed
          · exact ⟨call, List.mem_cons_self, same.symm⟩
          · exact later next listed
      · exact later registry member

/-- Every entry is the manifest of one of the registered types. -/
theorem mem_enrolled {enrolments : List Enrolment} {entry : Manifest}
    (member : entry ∈ (enrolled enrolments).entries) :
    ∃ enrolment ∈ enrolments, enrolment.manifest = entry := by
  rw [enrolled, entries_run] at member
  rcases mem_accepted member with ⟨call, among, same⟩
  rcases List.mem_map.mp among with ⟨enrolment, listed, rfl⟩
  exact ⟨enrolment, listed, enrolment.manifest_call.symm.trans same⟩

theorem symbol_of_mem_enrolled {enrolments : List Enrolment} {entry : Manifest}
    (member : entry ∈ (enrolled enrolments).entries) : entry.symbol = symbolOf entry.name := by
  rcases mem_enrolled member with ⟨enrolment, _, rfl⟩
  exact enrolment.manifest_symbol

theorem unique_enrolled (enrolments : List Enrolment) : (enrolled enrolments).Unique :=
  unique_empty.run _

/-- Among registered types a name is the only one with its snake case. -/
theorem eq_of_snakeCase_eq {enrolments : List Enrolment} {first second : Manifest}
    (firstListed : first ∈ (enrolled enrolments).entries)
    (secondListed : second ∈ (enrolled enrolments).entries)
    (same : Naming.snakeCase first.name = Naming.snakeCase second.name) : first = second := by
  have symbols : first.symbol = second.symbol := by
    rw [symbol_of_mem_enrolled firstListed, symbol_of_mem_enrolled secondListed]
    exact symbolOf_eq_iff.mpr same
  have unique := unique_enrolled enrolments
  have found := exporter?_of_mem unique firstListed
  rw [symbols, exporter?_of_mem unique secondListed] at found
  exact (Option.some.inj found).symm

/-! ## One more registration -/

section Another

variable (earlier : List Enrolment) (new : Enrolment)

theorem perform_enrolled_eq :
    new.call.perform (enrolled earlier) = (enrolled earlier).insert new.manifest := by
  rw [Call.perform_eq_insert, new.manifest_call]

/-- A type clashes with the symbol of an entry exactly if their names have the same snake case. -/
theorem symbol_eq_iff {earlier : List Enrolment} {entry : Manifest}
    (member : entry ∈ (enrolled earlier).entries) (new : Enrolment) :
    entry.symbol = new.manifest.symbol ↔
      Naming.snakeCase entry.name = Naming.snakeCase new.name := by
  rw [symbol_of_mem_enrolled member, new.manifest_symbol]
  exact symbolOf_eq_iff

theorem perform_eq_duplicateName_iff (name : String) :
    new.call.perform (enrolled earlier) = .error (.duplicateName name) ↔
      name = new.name ∧ ∃ entry ∈ (enrolled earlier).entries, entry.name = new.name := by
  rw [perform_enrolled_eq]
  exact (unique_enrolled earlier).insert_eq_duplicateName_iff new.manifest name

theorem perform_eq_duplicateSymbol_iff (symbol first second : String) :
    new.call.perform (enrolled earlier) = .error (.duplicateSymbol symbol first second) ↔
      (∀ entry ∈ (enrolled earlier).entries, entry.name ≠ new.name) ∧
        (∃ owner ∈ (enrolled earlier).entries, owner.name = first ∧
          Naming.snakeCase owner.name = Naming.snakeCase new.name) ∧
        symbol = Naming.snakeCase new.name ++ "_bridge_vtable" ∧ second = new.name := by
  have exported : new.manifest.symbol = Naming.snakeCase new.name ++ "_bridge_vtable" :=
    new.manifest_symbol
  rw [perform_enrolled_eq, (unique_enrolled earlier).insert_eq_duplicateSymbol_iff, ← exported]
  constructor
  · rintro ⟨isSymbol, isSecond, free, owner, member, same, isFirst⟩
    exact ⟨free, ⟨owner, member, isFirst, (symbol_eq_iff member new).mp same⟩, isSymbol, isSecond⟩
  · rintro ⟨free, ⟨owner, member, isFirst, same⟩, isSymbol, isSecond⟩
    exact ⟨isSymbol, isSecond, free, owner, member, (symbol_eq_iff member new).mpr same, isFirst⟩

/-- A registration succeeds exactly if no entry's name has the same snake case, and then it adds
the manifest of its type. -/
theorem perform_eq_ok_iff (next : Registry) :
    new.call.perform (enrolled earlier) = .ok next ↔
      (∀ entry ∈ (enrolled earlier).entries,
        Naming.snakeCase entry.name ≠ Naming.snakeCase new.name) ∧
        next = ⟨(enrolled earlier).entries ++ [new.manifest]⟩ := by
  rw [perform_enrolled_eq, insert_eq_ok_iff]
  constructor
  · rintro ⟨_, newSymbol, made⟩
    refine ⟨fun entry member same => newSymbol ?_, made⟩
    exact List.mem_map.mpr ⟨entry, member, (symbol_eq_iff member new).mpr same⟩
  · rintro ⟨apart, made⟩
    refine ⟨?_, ?_, made⟩
    · intro taken
      rcases List.mem_map.mp taken with ⟨entry, member, same⟩
      exact apart entry member (congrArg Naming.snakeCase same)
    · intro taken
      rcases List.mem_map.mp taken with ⟨entry, member, same⟩
      exact apart entry member ((symbol_eq_iff member new).mp same)

end Another

/-- Over every run of registrations from an empty registry.  One more registration is refused for
its name exactly if an entry has the name.  It is refused for its symbol exactly if no entry has
the name and the name of an entry has the same snake case; this entry is the only such one and
is the one that is named.  Otherwise it succeeds.  Every entry describes a registered type, and no
two entries export one symbol. -/
theorem symbol_clash_iff_snakeCase_clash (earlier : List Enrolment) (new : Enrolment) :
    (∀ name, new.call.perform (enrolled earlier) = .error (.duplicateName name) ↔
      name = new.name ∧ ∃ entry ∈ (enrolled earlier).entries, entry.name = new.name) ∧
    (∀ symbol first second,
      new.call.perform (enrolled earlier) = .error (.duplicateSymbol symbol first second) ↔
        (∀ entry ∈ (enrolled earlier).entries, entry.name ≠ new.name) ∧
          (∃ owner ∈ (enrolled earlier).entries, owner.name = first ∧
            Naming.snakeCase owner.name = Naming.snakeCase new.name) ∧
          symbol = Naming.snakeCase new.name ++ "_bridge_vtable" ∧ second = new.name) ∧
    (∀ owner ∈ (enrolled earlier).entries, ∀ other ∈ (enrolled earlier).entries,
      Naming.snakeCase owner.name = Naming.snakeCase other.name → owner = other) ∧
    (∀ next, new.call.perform (enrolled earlier) = .ok next ↔
      (∀ entry ∈ (enrolled earlier).entries,
        Naming.snakeCase entry.name ≠ Naming.snakeCase new.name) ∧
        next = ⟨(enrolled earlier).entries ++ [new.manifest]⟩) ∧
    (∀ entry ∈ (enrolled earlier).entries, ∃ enrolment ∈ earlier, enrolment.DescribedBy entry) ∧
    (enrolled earlier).symbols.Nodup := by
  refine ⟨perform_eq_duplicateName_iff earlier new, perform_eq_duplicateSymbol_iff earlier new,
    fun _ ownerListed _ otherListed same => eq_of_snakeCase_eq ownerListed otherListed same,
    perform_eq_ok_iff earlier new, ?_, (unique_enrolled earlier).symbols_nodup⟩
  intro entry member
  rcases mem_enrolled member with ⟨enrolment, listed, rfl⟩
  exact ⟨enrolment, listed, enrolment.describedBy_manifest⟩

/-- Two types that are registered by two spellings of one name. -/
def headers : Enrolment × Enrolment where
  fst :=
    { registered := ⟨⟨.plain "HTTPHeader", .plain "http_header", "http_header_bridge_vtable"⟩,
        ⟨.plain "HTTPHeader", .path (Path.ofWord (.plain "HTTPHeader")), false, none⟩⟩
      expands := rfl
      behaviour := Catalog.point.behaviour }
  snd :=
    { registered := ⟨⟨.plain "HttpHeader", .plain "http_header", "http_header_bridge_vtable"⟩,
        ⟨.plain "HttpHeader", .path (Path.ofWord (.plain "HttpHeader")), false, none⟩⟩
      expands := rfl
      behaviour := Catalog.point.behaviour }

/-- The second spelling is refused for the symbol of the first. -/
theorem symbol_clash_of_headers :
    headers.2.call.perform (enrolled [headers.1]) =
      .error (.duplicateSymbol "http_header_bridge_vtable" "HTTPHeader" "HttpHeader") := by
  have accepted : headers.1.call.perform (enrolled []) = .ok (enrolled [headers.1]) := rfl
  have entries : (enrolled [headers.1]).entries = [headers.1.manifest] := by
    rw [((symbol_clash_iff_snakeCase_clash [] headers.1).2.2.2.1 _).mp accepted |>.2]
    rfl
  refine ((symbol_clash_iff_snakeCase_clash [headers.1] headers.2).2.1 _ _ _).mpr ⟨?_, ?_, ?_, rfl⟩
  · rw [entries]
    decide
  · rw [entries]
    exact ⟨headers.1.manifest, List.mem_cons_self, rfl, by decide⟩
  · decide

end Registry
end Capability

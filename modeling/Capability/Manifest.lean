import Capability.Json.Record
import Capability.Naming
import Capability.Profile
import Capability.Table

/-!
The manifest of a registered type, and its written form.

A manifest says everything that a generator of bindings needs to know about one
type: under which name and symbol it is registered, how large its values are,
what is structurally true of it, what follows for a binding, and which slots of
its table are filled.  Its written form is a record of records; truth values,
texts and numbers are written as such, and choices by their names.
-/

namespace Capability

open Json (Shape)

/-- Everything that a generator of bindings needs to know about one type. -/
structure Manifest where
  name : String
  /-- The type as it was written at registration. -/
  sourceType : String
  /-- The name under which the table is exported. -/
  symbol : String
  size : UInt64
  align : UInt64
  predicates : Predicates
  profile : Profile
  /-- The operations whose slots are filled. -/
  operations : List Operation
deriving DecidableEq, Repr

/-- The symbol under which a type of a given name exports its table. -/
def symbolOf (name : String) : String := Naming.snakeCase name ++ "_bridge_vtable"

def Behaviour.predicates {α : Type} (behaviour : Behaviour α) : Predicates :=
  Predicates.ofTraits behaviour.traits behaviour.needsDrop

namespace Manifest

/-- The manifest of a type with the given behaviour, registered under a name. -/
def of {α : Type} (name sourceType : String) (behaviour : Behaviour α) : Manifest :=
  let table := Table.of behaviour
  { name := name
    sourceType := sourceType
    symbol := symbolOf name
    size := table.size
    align := table.align
    predicates := behaviour.predicates
    profile := Profile.derive behaviour.predicates
    operations := table.operations }

/-- Whether the type offers an operation. -/
def has (manifest : Manifest) (operation : Operation) : Bool :=
  manifest.operations.contains operation

end Manifest

/-! ### Written forms -/

/-- Predicates of which none holds. -/
def Predicates.none : Predicates where
  defaultConstructible := false
  copyConstructible := false
  moveConstructible := false
  destructible := false
  triviallyDestructible := false
  triviallyCopyable := false
  triviallyMovable := false
  send := false
  sync := false
  equalityComparable := false
  hasEq := false
  hasNe := false
  hasLt := false
  hasLe := false
  hasGt := false
  hasGe := false
  threeWay := .absent
  totallyOrdered := false
  hashable := false
  debuggable := false
  display := .absent

/-- The written form of predicates. -/
def Predicates.shape : Shape Predicates where
  name := "Predicates"
  blank := .none
  fields := [
    .boolean "default_constructible" (·.defaultConstructible)
      fun holds record => { record with defaultConstructible := holds },
    .boolean "copy_constructible" (·.copyConstructible)
      fun holds record => { record with copyConstructible := holds },
    .boolean "move_constructible" (·.moveConstructible)
      fun holds record => { record with moveConstructible := holds },
    .boolean "destructible" (·.destructible)
      fun holds record => { record with destructible := holds },
    .boolean "trivially_destructible" (·.triviallyDestructible)
      fun holds record => { record with triviallyDestructible := holds },
    .boolean "trivially_copyable" (·.triviallyCopyable)
      fun holds record => { record with triviallyCopyable := holds },
    .boolean "trivially_movable" (·.triviallyMovable)
      fun holds record => { record with triviallyMovable := holds },
    .boolean "send" (·.send) fun holds record => { record with send := holds },
    .boolean "sync" (·.sync) fun holds record => { record with sync := holds },
    .boolean "equality_comparable" (·.equalityComparable)
      fun holds record => { record with equalityComparable := holds },
    .boolean "has_eq" (·.hasEq) fun holds record => { record with hasEq := holds },
    .boolean "has_ne" (·.hasNe) fun holds record => { record with hasNe := holds },
    .boolean "has_lt" (·.hasLt) fun holds record => { record with hasLt := holds },
    .boolean "has_le" (·.hasLe) fun holds record => { record with hasLe := holds },
    .boolean "has_gt" (·.hasGt) fun holds record => { record with hasGt := holds },
    .boolean "has_ge" (·.hasGe) fun holds record => { record with hasGe := holds },
    .choice ThreeWaySupport.name ThreeWaySupport.all "three_way" (·.threeWay)
      fun support record => { record with threeWay := support },
    .boolean "totally_ordered" (·.totallyOrdered)
      fun holds record => { record with totallyOrdered := holds },
    .boolean "hashable" (·.hashable) fun holds record => { record with hashable := holds },
    .boolean "debuggable" (·.debuggable) fun holds record => { record with debuggable := holds },
    .choice DisplaySource.name DisplaySource.all "display" (·.display)
      fun source record => { record with display := source }]

/-- The predicates that a text describes. -/
def Predicates.read (text : String) : Except Json.Fault Predicates :=
  Json.Reader.run Predicates.shape.read text

/-- The written form of a profile. -/
def Profile.shape : Shape Profile where
  name := "Profile"
  blank := Profile.derive .none
  fields := [
    .boolean "needs_drop" (·.needsDrop) fun holds record => { record with needsDrop := holds },
    .boolean "copy" (·.copy) fun holds record => { record with copy := holds },
    .boolean "default" (·.default) fun holds record => { record with default := holds },
    .boolean "copy_new" (·.copyNew) fun holds record => { record with copyNew := holds },
    .boolean "move_new" (·.moveNew) fun holds record => { record with moveNew := holds },
    .boolean "partial_eq" (·.partialEq) fun holds record => { record with partialEq := holds },
    .boolean "eq" (·.eq) fun holds record => { record with eq := holds },
    .boolean "partial_ord" (·.partialOrd) fun holds record => { record with partialOrd := holds },
    .boolean "ord" (·.ord) fun holds record => { record with ord := holds },
    .boolean "hash" (·.hash) fun holds record => { record with hash := holds },
    .boolean "debug" (·.debug) fun holds record => { record with debug := holds },
    .boolean "display" (·.display) fun holds record => { record with display := holds },
    .boolean "trivial" (·.trivial) fun holds record => { record with trivial := holds },
    .boolean "unpin" (·.unpin) fun holds record => { record with unpin := holds },
    .boolean "send" (·.send) fun holds record => { record with send := holds },
    .boolean "sync" (·.sync) fun holds record => { record with sync := holds }]

/-- The written form of a list of operations. -/
def operationsField {ρ : Type} (name : String) (get : ρ → List Operation)
    (set : List Operation → ρ → ρ) : Json.Field ρ :=
  .of (fun operations => .array (operations.map fun operation => .string operation.name))
    (Json.Reader.list (Json.Reader.choice Operation.name Operation.all)) name get set

/-- The written form of a manifest. -/
def Manifest.shape : Shape Manifest where
  name := "TypeManifest"
  blank := ⟨"", "", "", 0, 0, .none, Profile.derive .none, []⟩
  fields := [
    .text "name" (·.name) fun text record => { record with name := text },
    .text "rust_type" (·.sourceType) fun text record => { record with sourceType := text },
    .text "symbol" (·.symbol) fun text record => { record with symbol := text },
    .size "size" (·.size) fun number record => { record with size := number },
    .size "align" (·.align) fun number record => { record with align := number },
    .record Predicates.shape "predicates" (·.predicates)
      fun predicates record => { record with predicates := predicates },
    .record Profile.shape "profile" (·.profile)
      fun profile record => { record with profile := profile },
    operationsField "operations" (·.operations)
      fun operations record => { record with operations := operations }]

end Capability

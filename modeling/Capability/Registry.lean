import Capability.Manifest

/-!
An ordered set of manifests with unique names and symbols.

Manifests are kept in the order of their insertion.  An insertion fails if the
name is taken, and otherwise if the symbol is; it then changes nothing.  The
written form is a list of manifests.  Reading it takes the whole text first and
then inserts what was read one by one, so that a text that cannot be read never
gives a clash, and a clash is always that of the first manifest that has one.
-/

namespace Capability

/-- Why a registry refuses. -/
inductive RegistryError where
  /-- A manifest with the name is there. -/
  | duplicateName (name : String)
  /-- The manifest of another name has the symbol. -/
  | duplicateSymbol (symbol first second : String)
  /-- A text is not a list of manifests. -/
  | unreadable (message : String)
deriving DecidableEq, Repr

/-- The message about a refusal. -/
def RegistryError.message : RegistryError → String
  | duplicateName name => "type `" ++ name ++ "` is already registered"
  | duplicateSymbol symbol first second =>
    "symbol `" ++ symbol ++ "` is exported by both `" ++ first ++ "` and `" ++ second ++ "`"
  | unreadable message => "manifest serialization failed: " ++ message

/-- Manifests in the order of their registration. -/
structure Registry where
  entries : List Manifest
deriving DecidableEq, Repr

namespace Registry

/-- A registry without entries. -/
def empty : Registry := ⟨[]⟩

/-- The manifest registered under a name. -/
def get? (registry : Registry) (name : String) : Option Manifest :=
  registry.entries.find? fun entry => entry.name == name

/-- The manifest that exports a symbol. -/
def exporter? (registry : Registry) (symbol : String) : Option Manifest :=
  registry.entries.find? fun entry => entry.symbol == symbol

/-- The registry with one more manifest at its end. -/
def insert (registry : Registry) (manifest : Manifest) : Except RegistryError Registry :=
  match registry.get? manifest.name with
  | some _ => .error (.duplicateName manifest.name)
  | none =>
    match registry.exporter? manifest.symbol with
    | some first => .error (.duplicateSymbol manifest.symbol first.name manifest.name)
    | none => .ok ⟨registry.entries ++ [manifest]⟩

/-- The registry with a type of the given behaviour registered at its end. -/
def register {α : Type} (registry : Registry) (name sourceType : String)
    (behaviour : Behaviour α) : Except RegistryError Registry :=
  registry.insert (Manifest.of name sourceType behaviour)

/-- Insert manifests one by one. -/
def insertAll (registry : Registry) : List Manifest → Except RegistryError Registry
  | [] => .ok registry
  | manifest :: rest => do insertAll (← registry.insert manifest) rest

/-- The registry of the manifests of a list. -/
def ofList (manifests : List Manifest) : Except RegistryError Registry :=
  empty.insertAll manifests

/-- The names of the entries, in their order. -/
def names (registry : Registry) : List String := registry.entries.map (·.name)

/-- The symbols of the entries, in their order. -/
def symbols (registry : Registry) : List String := registry.entries.map (·.symbol)

/-- The number of entries. -/
def size (registry : Registry) : Nat := registry.entries.length

/-- Whether there are no entries. -/
def isEmpty (registry : Registry) : Bool := registry.entries.isEmpty

/-! ### Written form -/

/-- The written form of the entries. -/
def write (registry : Registry) : Json.Value := .array (registry.entries.map Manifest.shape.write)

/-- The indented text of the entries. -/
def toJson (registry : Registry) : String := registry.write.pretty

/-- The manifests that a text lists. -/
def readManifests (text : String) : Except Json.Fault (List Manifest) :=
  Json.Reader.run (Json.Reader.list Manifest.shape.read) text

/-- The registry that a text describes. -/
def ofJson (text : String) : Except RegistryError Registry :=
  match readManifests text with
  | .ok manifests => ofList manifests
  | .error fault => .error (.unreadable (fault.message text))

end Registry
end Capability

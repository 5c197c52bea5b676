import Capability.Detection.Row
import Capability.Traits

/-!
The detection of all traits.

Each trait has a row.  The rows of some groups are guarded by a feature of the
package, so that without the feature their facts read as absent.  From the rows
come the definitions of the constants, the record of facts, and the code that
computes the facts and the predicates of a concrete type.
-/

namespace Capability

open Code

namespace Trait

def path : Trait → List String
  | default => ["core", "default", "Default"]
  | clone => ["core", "clone", "Clone"]
  | copy => ["core", "marker", "Copy"]
  | unpin => ["core", "marker", "Unpin"]
  | send => ["core", "marker", "Send"]
  | sync => ["core", "marker", "Sync"]
  | partialEq => ["core", "cmp", "PartialEq"]
  | eq => ["core", "cmp", "Eq"]
  | partialOrd => ["core", "cmp", "PartialOrd"]
  | ord => ["core", "cmp", "Ord"]
  | equal => ["crate", "ops", "Equal"]
  | notEqual => ["crate", "ops", "NotEqual"]
  | lessThan => ["crate", "ops", "LessThan"]
  | lessEqual => ["crate", "ops", "LessEqual"]
  | greaterThan => ["crate", "ops", "GreaterThan"]
  | greaterEqual => ["crate", "ops", "GreaterEqual"]
  | hash => ["core", "hash", "Hash"]
  | debug => ["core", "fmt", "Debug"]
  | display => ["core", "fmt", "Display"]
  | stringCast => ["crate", "shim", "format", "StringCast"]
  | stringView => ["crate", "shim", "format", "StringView"]

/-- Whether the trait is detected on types without a known size, too. -/
def allowsUnsized : Trait → Bool
  | default | clone | copy => false
  | _ => true

/-- The feature that guards the detection of the trait; the empty name if none does. -/
def feature : Trait → String
  | default | clone | copy | unpin | send | sync => ""
  | partialEq | eq | partialOrd | ord | equal | notEqual | lessThan | lessEqual | greaterThan
  | greaterEqual => "cmp"
  | hash => "hash"
  | debug | display | stringCast | stringView => "fmt"

/-- The last name of the path. -/
def title (trait : Trait) : String := (trait.path.getLast?).getD ""

/-- The description of the detected bounds. -/
def description (trait : Trait) : String :=
  "::".intercalate trait.path ++ if trait.allowsUnsized then " + ?Sized" else ""

/-- A bound by a trait with a path of plain names. -/
def boundOf (isRelaxed : Bool) (path : List String) : Bound :=
  .trait false isRelaxed [] (.mk false (path.map fun name => .mk (.plain name) .none))

def row (trait : Trait) : Detection.Row where
  bounds :=
    ⟨boundOf false trait.path :: if trait.allowsUnsized then [boundOf true ["Sized"]] else [],
      false⟩
  source := trait.description

/-- The names in the code that detects the trait. -/
def detectionNames (trait : Trait) : Detection.Names :=
  Detection.Names.ofTrait (.plain trait.title)

end Trait

namespace Detection

/-- The code that computes the facts of a type. -/
def factsOf (type : Tokens) : Tokens :=
  let entry (trait : Trait) : Tokens :=
    Tokens.word trait.detectionNames.field ++ written ":" ++ trait.detectionNames.query type
      ++ written ","
  written "::bridge_caps::detect::Facts" ++ Tokens.braced (Trait.all.flatMap entry)

/-- The code that computes the predicates of a type. -/
def predicatesOf (type : Tokens) : Tokens :=
  written "::bridge_caps::Predicates::from_facts"
    ++ Tokens.enclosed
      (factsOf type ++ written ", ::core::mem::needs_drop::" ++ angled type ++ written "()")

/-- Code in a scope where a constant holds the predicates of a type. -/
def withPredicates (type body : Tokens) : Tokens :=
  Tokens.braced
    (written "const __PREDICATES: ::bridge_caps::Predicates =" ++ predicatesOf type ++ written ";"
      ++ body)

/-- The name of the constant that holds predicates. -/
def predicatesName : Tokens := written "__PREDICATES"

/-- The code for the predicates of a type. -/
def predicatesBlock (type : Tokens) : Tokens := withPredicates type predicatesName

/-- The definitions that detection rests on: the constants of all rows and the record of facts. -/
def definitions : Tokens :=
  let definition (trait : Trait) : Tokens :=
    trait.detectionNames.definition trait.row.tokens (featureGuard trait.feature)
  let field (trait : Trait) : Tokens :=
    written "#" ++ Tokens.grouped .bracket
        (written "doc =" ++ Tokens.quoted ("`T: " ++ trait.description ++ "`"))
      ++ written "pub" ++ Tokens.word trait.detectionNames.field ++ written ": bool,"
  let absent (trait : Trait) : Tokens :=
    Tokens.word trait.detectionNames.field ++ written ": false,"
  Trait.all.flatMap definition
    ++ written "#[doc = r\" Raw trait facts for one concrete type, one flag per detected bound.\"]"
    ++ written "#[doc = r\"\"]"
    ++ written "#[doc = r\" Built by the registration macros; a group disabled by cargo\"]"
    ++ written "#[doc = r\" features reports every fact in it as `false`.\"]"
    ++ written "#[derive(Clone, Copy, Debug, PartialEq, Eq, Hash)] pub struct Facts"
    ++ Tokens.braced (Trait.all.flatMap field)
    ++ written "impl Facts"
    ++ Tokens.braced
      (written "#[doc = r\" Every fact absent.\"] pub const NONE: Self = Self"
        ++ Tokens.braced (Trait.all.flatMap absent) ++ written ";")

end Detection
end Capability

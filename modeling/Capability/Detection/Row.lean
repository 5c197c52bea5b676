import Capability.Code.Grammar.Statements
import Capability.Unicode.Run

/-!
Detection of one trait.

A row describes what is detected by bounds on a type.  It is named after the
first trait among them.  The code for a row is a trait that everything
implements, with a constant that says no, and a constant of the same name that
says yes on the types within the bounds; the second is found first.
-/

namespace Capability
namespace Detection

open Code

/-- What is detected, and the text that describes it. -/
structure Row where
  bounds : Parser.Separated Bound
  source : String

/-- Why a row cannot be used. -/
inductive Problem where
  /-- The description is no list of bounds. -/
  | unreadable (source : String) (complaint : Complaint)
  /-- No bound is a trait. -/
  | nameless (bounds : String)
  /-- A name made from that of the trait is not a word. -/
  | invalidName (name : String)

/-- The message about an unusable row. -/
def Problem.message : Problem → String
  | unreadable source complaint =>
    "Failed to parse bounds '" ++ source ++ "': " ++ complaint.message
  | nameless bounds => "Cannot infer a fact name from bounds: " ++ bounds
  | invalidName name => Text.quote name ++ " is not a valid Ident"

/-- A text without the blanks around it. -/
def trimmed (text : String) : String :=
  let chars := text.toList.dropWhile Unicode.isBlank
  String.ofList (chars.reverse.dropWhile Unicode.isBlank).reverse

/-- Read one bound of any form. -/
def singleBound : Parser Bound := do Grammar.bound (← Grammar.rulesAhead) ⟨true, true⟩

/-- Read the bounds of a trait object. -/
def objectBounds : Parser (Parser.Separated Bound) := do
  let rules ← Grammar.rulesAhead
  let _ ← Parser.keyword? "dyn"
  Grammar.objectBounds rules true

namespace Row

/-- The row that a description stands for: one bound, or else the bounds of a trait object. -/
def parse (description : String) : Except Problem Row :=
  let source := trimmed description
  match Parser.parse singleBound source with
  | .ok bound => .ok ⟨⟨[bound], false⟩, source⟩
  | .error _ =>
    match Parser.parse objectBounds ("dyn " ++ source) with
    | .ok bounds => .ok ⟨bounds, source⟩
    | .error complaint => .error (.unreadable source complaint)

/-- The tokens of the bounds. -/
def tokens (row : Row) : Tokens :=
  plusSeparated (row.bounds.items.map Bound.tokens) row.bounds.trailing

/-- The name of the trait that a bound requires. -/
def boundName? : Bound → Option Word
  | .trait _ _ _ path => path.last?.map Segment.name
  | _ => none

/-- The name of the first trait among the bounds. -/
def name (row : Row) : Except Problem Word :=
  match row.bounds.items.findSome? boundName? with
  | some word => .ok word
  | none => .error (.nameless row.tokens.text)

end Row

/-- The names in the code for a row. -/
structure Names where
  trait : Word
  /-- The constant that says whether the trait is implemented. -/
  constant : Word
  /-- The trait that everything implements. -/
  fallback : Word
  /-- The fact. -/
  field : Word

/-- The names made from the name of a trait. -/
def Names.ofTrait (trait : Word) : Names where
  trait := trait
  constant := .plain ("IS_" ++ Naming.screamingSnakeCase trait.text)
  fallback := .plain (trait.text ++ "Fallback")
  field := .plain (Naming.snakeCase trait.text)

/-- The names in the code for a row; a raw name makes no valid name for the constant. -/
def Row.names (row : Row) : Except Problem Names := do
  let trait ← row.name
  if trait.raw then .error (.invalidName ("IS_" ++ Naming.screamingSnakeCase trait.written))
  else .ok (Names.ofTrait trait)

namespace Names

/-- The type on which constants are looked up, without its argument. -/
def detector : Tokens := written "crate::detect::Detect<T>"

/-- The code that defines the constants of a row, the second one only under a condition. -/
def definition (names : Names) (bounds guard : Tokens) : Tokens :=
  let constant (answer : String) : Tokens :=
    written "const" ++ Tokens.word names.constant ++ written (": bool =") ++ written answer
      ++ written ";"
  written "#[doc(hidden)] pub trait" ++ Tokens.word names.fallback
    ++ Tokens.braced (constant "false")
    ++ written "impl<T: ?Sized>" ++ Tokens.word names.fallback ++ written "for" ++ detector
    ++ Tokens.braced []
    ++ guard ++ written "impl" ++ angled (written "T:" ++ bounds) ++ detector
    ++ Tokens.braced (written "pub" ++ constant "true")

/-- The code that looks up the constant of a row for a type. -/
def query (names : Names) (type : Tokens) : Tokens :=
  Tokens.braced
    (written "#[allow(unused_imports)] use ::bridge_caps::detect::" ++ Tokens.word names.fallback
      ++ written ";" ++ written "::bridge_caps::detect::Detect::" ++ angled type
      ++ written "::" ++ Tokens.word names.constant)

end Names

/-- The condition that a feature of the package is enabled; none if it has no name. -/
def featureGuard (feature : String) : Tokens :=
  if feature.isEmpty then []
  else
    written "#" ++ Tokens.grouped .bracket
      (Tokens.plain "cfg" ++ Tokens.enclosed (written "feature =" ++ Tokens.quoted feature))

end Detection
end Capability

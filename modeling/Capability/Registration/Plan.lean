import Capability.Code.Grammar.Statements

/-!
Declarations of types to register, and what they register.

A declaration is a type, with an alias in front of it or not.  Declarations are
listed with semicolons between them, and there must be at least one.

Only types that own their value can be registered: paths, tuples and arrays.  A
path without type arguments lends its last name; everything else needs an alias.
A path with arguments is split into a constructor and its arguments, which must
be types and few.
-/

namespace Capability
namespace Registration

open Code

/-! ### Reading -/

/-- A type to register, and the name to register it by if that is not its own. -/
structure Declaration where
  givenName : Option Word
  type : TypeExpr

namespace Declaration

open Code.Parser

/-- Whether a name and a single equals sign stand ahead. -/
def isAtAlias : Parser Bool := isAt fun tokens =>
  tokens.atName && Tokens.atOperator "=" tokens.skipped && !Tokens.atOperator "==" tokens.skipped

def parser : Parser Declaration := do
  let givenName ← do
    if ← isAtAlias then
      let word ← name
      operator "="
      pure (some word)
    else pure none
  return ⟨givenName, ← (← Grammar.rulesAhead).type true⟩

/-- Read one or more declarations with semicolons between them; one may follow the last. -/
def listParser : Parser (List Declaration) := do
  let declarations ← separatedUntil isEnd ";" parser
  if declarations.items.isEmpty then refuse "expected at least one type to register"
  else return declarations.items

def parseList (text : String) : Except Complaint (List Declaration) :=
  Parser.parse listParser text

end Declaration

/-- Read a text that is an item which defines a type. -/
def parseItem (text : String) : Except Complaint Item := Parser.parse Grammar.item text

/-! ### Plans -/

/-- A path whose last name takes parameters, and the types that they stand for. -/
structure Constructor where
  /-- The path without the arguments of its last name. -/
  base : Path
  arguments : List TypeExpr

namespace Constructor

/-- The names of the parameters. -/
def parameters (constructor : Constructor) : List Word :=
  (List.range constructor.arguments.length).map fun index => .plain ("P" ++ toString index)

/-- The path applied to its parameters. -/
def path (constructor : Constructor) : Path :=
  constructor.base.withArguments
    (.angle false
      (constructor.parameters.map fun parameter => .type (.path (Path.ofWord parameter))) false)

end Constructor

/-- A type that will be registered. -/
structure Plan where
  name : Word
  type : TypeExpr
  /-- Whether the name is new and is to be defined. -/
  isAlias : Bool
  constructor : Option Constructor

/-- Why a declaration cannot be registered. -/
inductive PlanError where
  | notOwned
  | notTypeArgument
  | tooManyArguments (count : Nat)
  | needsAlias
deriving DecidableEq, Repr

/-- How many type arguments a registered type may have. -/
def maximumArguments : Nat := 2

/-- The message about a declaration that cannot be registered. -/
def PlanError.message : PlanError → String
  | notOwned => "registered types must be owned value types: a path, tuple or array"
  | notTypeArgument => "only type arguments are supported in registered instantiations"
  | tooManyArguments count =>
    "at most " ++ toString maximumArguments ++ " type arguments are supported, found "
      ++ toString count
  | needsAlias => "this type needs an alias: `bridge!(Alias = Type)`"

def typeArgument : Argument → Except PlanError TypeExpr
  | .type value => .ok value
  | _ => .error .notTypeArgument

/-- Split a path into a constructor and its arguments, if its last name has arguments. -/
def split (path : Path) : Except PlanError (Option Constructor) :=
  match path.last? with
  | some (.mk _ (.angle _ arguments _)) => do
    let types ← arguments.mapM typeArgument
    if types.length ≤ maximumArguments then return some ⟨path, types⟩
    else throw (.tooManyArguments types.length)
  | _ => .ok none

/-- A type without the parentheses around it. -/
def bare : TypeExpr → TypeExpr
  | .paren inner => bare inner
  | type => type

/-- The constructor of a type that can be registered. -/
def constructorOf : TypeExpr → Except PlanError (Option Constructor)
  | .path path => split path
  | .tuple .. | .array .. => .ok none
  | _ => .error .notOwned

/-- The name that a type lends if it has no constructor. -/
def ownName? : TypeExpr → Option Word
  | .path path => path.last?.map Segment.name
  | _ => none

/-- What a declaration registers. -/
def Declaration.plan (declaration : Declaration) : Except PlanError Plan := do
  let type := bare declaration.type
  let constructor ← constructorOf type
  match declaration.givenName with
  | some name => return ⟨name, type, true, constructor⟩
  | none =>
    match constructor, ownName? type with
    | none, some name => return ⟨name, type, false, none⟩
    | _, _ => throw .needsAlias

end Registration
end Capability

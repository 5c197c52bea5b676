import Capability.Code.Grammar.Bounds

/-!
The grammar of types.

Which type stands ahead is decided by its first token.  Plus signs join bounds
only where a type may stand that is not enclosed by an operator; a type in
parentheses in front of a plus sign is a bound.
-/

namespace Capability
namespace Code
namespace Grammar

open Code.Parser

def typeBeginnings : List String :=
  ["`for`", "parentheses", "`fn`", "`unsafe`", "`extern`", "identifier", "`::`", "`<`", "`dyn`",
    "square brackets", "`*`", "`&`", "`!`", "`impl`", "`_`", "lifetime"]

/-- The forms of bounds on a trait object. -/
def objectForms : BoundForms := ⟨false, false⟩

/-! ### Trait objects and promised types -/

def Bound.isTrait : Bound → Bool
  | .trait .. | .verbatim _ => true
  | .lifetime _ | .capture _ => false

/-- Read the bounds of a trait object, of which one must be a trait. -/
def objectBounds (rules : Rules) (allowsPlus : Bool) : Parser (Separated Bound) := do
  let found ← bounds rules objectForms allowsPlus
  if found.items.any Bound.isTrait then return found
  else object "at least one trait is required for an object type"

/-- Read a trait object that may be marked as one. -/
def traitObject (rules : Rules) (allowsPlus : Bool) : Parser TypeExpr := do
  let isMarked ← keyword? "dyn"
  let found ← objectBounds rules allowsPlus
  return .traitObject isMarked found.items found.trailing

/-- Read a trait object behind its mark; one with a star is kept as it is written. -/
def markedTraitObject (rules : Rules) (allowsPlus : Bool) : Parser TypeExpr := do
  let ((isStarred, found), tokens) ← consumed do
    keyword "dyn"
    let isStarred ← operator? "*"
    return (isStarred, ← objectBounds rules allowsPlus)
  return if isStarred then .verbatim tokens else .traitObject true found.items found.trailing

/-- Read a promised type. -/
def implTrait (rules : Rules) (allowsPlus : Bool) : Parser TypeExpr := do
  keyword "impl"
  let found ← bounds rules ⟨true, true⟩ allowsPlus
  if found.items.any Bound.isTrait then return .implTrait found.items found.trailing
  else object "at least one trait must be specified"

/-! ### Types in parentheses -/

/-- What stands in parentheses. -/
inductive Enclosed where
  | tuple (elements : List TypeExpr) (trailing : Bool)
  | single (inner : TypeExpr)
  /-- A type that no plus sign can follow. -/
  | closed (inner : TypeExpr)
  | bound (first : Bound)

/-- Read what stands in parentheses. -/
def enclosed (rules : Rules) : Parser Enclosed := do
  if ← isEnd then return .tuple [] false
  if ← isAt Tokens.atLifetime then return .closed (← traitObject rules true)
  if ← isAtOperator "?" then
    match ← traitBound rules objectForms true with
    | some first => return .bound first
    | none => expected []
  let first ← rules.type true
  if ← operator? "," then
    let others ← listed (rules.type true)
    return .tuple (first :: others.items) (others.trailing || others.items.isEmpty)
  else return .single first

/-- The bound that a type in parentheses is in front of a plus sign. -/
def enclosedBound? : TypeExpr → Option Bound
  | .path path => some (.trait true false [] path)
  | .traitObject false [.trait _ isRelaxed binder path] false =>
    some (.trait true isRelaxed binder path)
  | .traitObject false [other] false => some other
  | _ => none

/-- Read a type in parentheses, or a trait object whose first bound is in parentheses. -/
def enclosedType (rules : Rules) (allowsPlus : Bool) : Parser TypeExpr := do
  let further (first : Bound) : Parser TypeExpr := do
    let found ← furtherBounds (return false) (bound rules objectForms) first
    return .traitObject false found.items found.trailing
  groupThen .parenthesis (enclosed rules) fun
    | .tuple elements trailing => return .tuple elements trailing
    | .closed inner => return .paren inner
    | .bound first => further first
    | .single inner => do
      if allowsPlus && (← isAtOperator "+") then
        match enclosedBound? inner with
        | some first => further first
        | none => return .paren inner
      else return .paren inner

/-! ### Functions -/

/-- Read the words before `fn`, and keep their tokens. -/
def functionQualifiers : Parser Tokens := do
  let (_, tokens) ← consumed do
    let _ ← keyword? "unsafe"
    if ← keyword? "extern" then
      if ← isAt Tokens.atText then pass 1
  return tokens

/-- Whether a name and a colon stand ahead, or a word that may take the place of a name. -/
def isAtParameterName (others : List String) : Parser Bool := isAt fun tokens =>
  (tokens.atName || others.any tokens.atKeyword) && Tokens.atOperator ":" tokens.skipped

/-- Whether the mark of further parameters stands ahead, with a name or without. -/
def isAtVariadic : Parser Bool := do
  if ← isAtOperator "..." then return true
  else
    return (← isAtParameterName ["_"]) && (← isAt fun tokens =>
      Tokens.atOperator "..." (tokens.drop 2))

/-- Read the mark of further parameters. -/
def variadic : Parser Unit := do
  if !(← isAtOperator "...") then pass 2
  operator "..."
  let _ ← operator? ","

/-- Whether two certain words stand ahead. -/
def isAtKeywords (first second : String) : Parser Bool := isAt fun tokens =>
  tokens.atKeyword first && Tokens.atKeyword second tokens.skipped

/-- Read a parameter of a function type behind its attributes. -/
def parameter (rules : Rules) (annotations : Tokens) (isFirst : Bool) : Parser Parameter := do
  let ((parameterName, type), tokens) ← consumed do
    let isOwner := isFirst && (← isAtKeywords "mut" "self")
    if isOwner then pass 1
    let isSelf := isFirst && (← isAtKeyword "self")
    let isNamed := (← isAtParameterName (if isSelf then ["_", "self"] else ["_"]))
      && !(← isAt fun tokens => Tokens.atOperator "::" tokens.skipped)
    let parameterName ← do
      if isNamed then
        let word ← anyWord
        operator ":"
        pure (some word)
      else pure none
    if isFirst && !(isNamed && isSelf) && (← isAtKeywords "mut" "self") then
      pass 2
      return (parameterName, none)
    else if isOwner && !isNamed then
      keyword "self"
      return (parameterName, none)
    else
      let type ← rules.type true
      return (parameterName, if isOwner then none else some type)
  return match type with
    | some type => .mk annotations parameterName type
    | none => .verbatim annotations tokens

/-- The parameters of a function type. -/
structure Parameters where
  items : List Parameter
  trailing : Bool
  /-- The tokens of the mark of further parameters. -/
  variadic : Tokens

/-- Read the parameters of a function type; those read before are in reverse. -/
def parametersFrom (rules : Rules) : (fuel : Nat) → List Parameter → Parser Parameters
  | 0, before => return ⟨before.reverse, !before.isEmpty, []⟩
  | fuel + 1, before => do
    if ← isEnd then return ⟨before.reverse, !before.isEmpty, []⟩
    let annotations ← attributes rules
    if ← isAtVariadic then
      let (_, tokens) ← consumed variadic
      return ⟨before.reverse, !before.isEmpty, annotations ++ tokens⟩
    let next ← parameter rules annotations before.isEmpty
    if ← isEnd then return ⟨(next :: before).reverse, false, []⟩
    operator ","
    parametersFrom rules fuel (next :: before)

/-- Read a function type behind its binder. -/
def functionType (rules : Rules) (boundNames : Tokens) : Parser TypeExpr := do
  let qualifiers ← functionQualifiers
  keyword "fn"
  let parameters : Parser Parameters := do parametersFrom rules ((← ahead).length + 1) []
  groupThen .parenthesis parameters fun found =>
    return .function boundNames qualifiers found.items found.trailing found.variadic
      (← result rules)

/-! ### Types that are paths or begin with one -/

/-- Whether a path stands ahead where only its first word is looked at. -/
def isAtPath : Parser Bool := do
  return (← isAtSegment) || (← isAtOneOf ["::", "<"])

/-- Read a path, a call of a macro, or a trait object that begins with a path. -/
def pathType (rules : Rules) (boundNames : Tokens) (allowsPlus : Bool) : Parser TypeExpr := do
  if ← isAtOperator "<" then return ← qualifiedPath rules false
  let plain ← path rules false
  let isCall ← isAt fun tokens => tokens.atOperator "!" && !tokens.atOperator "!="
  if isCall && plain.isPlain then
    operator "!"
    return .macroCall plain (← anyGroup)
  if !boundNames.isEmpty || (allowsPlus && (← isAtOperator "+")) then
    let first := Bound.trait false false boundNames plain
    if allowsPlus then
      let isDone : Parser Bool := return !(← isAtFurtherBound objectForms)
      let found ← furtherBounds isDone (bound rules objectForms) first
      return .traitObject false found.items found.trailing
    else return .traitObject false [first] false
  else return .path plain

/-! ### All types -/

def pointer (rules : Rules) : Parser TypeExpr := do
  operator "*"
  let isMutable ← do
    if ← keyword? "const" then pure false
    else if ← keyword? "mut" then pure true
    else expected ["`const`", "`mut`"]
  return .pointer isMutable (← rules.type false)

def reference (rules : Rules) : Parser TypeExpr := do
  operator "&"
  let lifetime ← lifetime?
  let isMutable ← keyword? "mut"
  return .reference lifetime isMutable (← rules.type false)

/-- Read an array or a slice. -/
def sequence (rules : Rules) : Parser TypeExpr :=
  group .bracket do
    let element ← rules.type true
    if ← operator? ";" then
      return .array element (← rules.expression true).tokens
    else return .slice element

/-- Whether something built in stands ahead. -/
def isAtBuiltin : Parser Bool := isAt fun tokens =>
  tokens.atKeyword "builtin" && Tokens.atOperator "#" tokens.skipped

/-- Read something built in, which is kept as it is written. -/
def builtin : Parser Tokens := do
  let (_, tokens) ← consumed do
    keyword "builtin"
    operator "#"
    let _ ← name
    group .parenthesis skipAll
  return tokens

/-- Whether a function type stands ahead, behind its binder. -/
def isAtFunction : Parser Bool := isAt fun tokens =>
  ["fn", "unsafe", "extern"].any tokens.atKeyword

/-- Read a type behind a binder. -/
def boundType (rules : Rules) (allowsPlus : Bool) : Parser TypeExpr := do
  let boundNames ← binder rules
  if ← isAtFunction then functionType rules boundNames
  else if ← isAtSegment then pathType rules boundNames allowsPlus
  else
    expected ["identifier", "`fn`", "`unsafe`", "`extern`", "`super`", "`self`", "`Self`",
      "`crate`"]

def type (rules : Rules) (allowsPlus : Bool) : Parser TypeExpr := do
  if ← isAtKeyword "for" then boundType rules allowsPlus
  else if ← isAtGroup .parenthesis then enclosedType rules allowsPlus
  else if ← isAtFunction then functionType rules []
  else if ← isAtBuiltin then return .verbatim (← builtin)
  else if ← isAtPath then pathType rules [] allowsPlus
  else if ← isAtKeyword "dyn" then markedTraitObject rules allowsPlus
  else if ← isAtGroup .bracket then sequence rules
  else if ← isAtOperator "*" then pointer rules
  else if ← isAtOperator "&" then reference rules
  else if ← operator? "!" then return .never
  else if ← isAtKeyword "impl" then implTrait rules allowsPlus
  else if ← keyword? "_" then return .inferred
  else if ← isAt Tokens.atLifetime then traitObject rules true
  else expected typeBeginnings

end Grammar
end Code
end Capability

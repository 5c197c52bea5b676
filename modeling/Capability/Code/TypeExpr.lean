import Capability.Code.Parser

/-!
Types as they are written, and the tokens that write them.

A type is a path, a tuple, an array, or one of the forms that only borrow, point,
call or promise.  Of the expressions in it, which are the lengths of arrays and
constant arguments, the tokens that write them are kept.  Where the order or the
marks of arguments can be written in several ways, the tokens are those of one of
them: lifetimes come before other arguments.

A type within a group that no bracket delimits is left out, as such groups are: it
is not the type in parentheses, and only the tokens of another macro can hold it.
-/

namespace Capability
namespace Code

mutual

/-- A type. -/
inductive TypeExpr where
  | path (path : Path)
  /-- A path within a type, of which the first so many segments name a trait. -/
  | qualified (self : TypeExpr) (traitPath : Option Path) (rest : List Segment)
  | tuple (elements : List TypeExpr) (trailing : Bool)
  | paren (inner : TypeExpr)
  | array (element : TypeExpr) (length : Tokens)
  | slice (element : TypeExpr)
  | pointer (isMutable : Bool) (target : TypeExpr)
  | reference (lifetime : Option Word) (isMutable : Bool) (target : TypeExpr)
  /-- A function, with the tokens of its binder and of the words before `fn`. -/
  | function (binder qualifiers : Tokens) (parameters : List Parameter) (trailing : Bool)
      (variadic : Tokens) (output : Option TypeExpr)
  | traitObject (isMarked : Bool) (bounds : List Bound) (trailing : Bool)
  | implTrait (bounds : List Bound) (trailing : Bool)
  | macroCall (path : Path) (arguments : TokenTree)
  | never
  | inferred
  /-- A type that is kept as it is written. -/
  | verbatim (tokens : Tokens)

/-- A path: names, with arguments, between pairs of colons. -/
inductive Path where
  | mk (isGlobal : Bool) (segments : List Segment)

/-- A name of a path with its arguments. -/
inductive Segment where
  | mk (name : Word) (arguments : Arguments)

/-- The arguments of a name. -/
inductive Arguments where
  | none
  /-- Arguments in angle brackets, with a pair of colons before them or not. -/
  | angle (turbofish : Bool) (arguments : List Argument) (trailing : Bool)
  /-- The parameters and the result of a function trait. -/
  | parenthesized (inputs : List TypeExpr) (trailing : Bool) (output : Option TypeExpr)

/-- One argument in angle brackets. -/
inductive Argument where
  | lifetime (name : Word)
  | type (value : TypeExpr)
  | constant (value : Tokens)
  /-- The value of an associated type. -/
  | associatedType (name : Word) (generics : Arguments) (value : TypeExpr)
  /-- The value of an associated constant. -/
  | associatedConstant (name : Word) (generics : Arguments) (value : Tokens)
  /-- Bounds on an associated type. -/
  | constraint (name : Word) (generics : Arguments) (bounds : List Bound) (trailing : Bool)

/-- A bound on a type. -/
inductive Bound where
  | lifetime (name : Word)
  /-- A trait, in parentheses or not, possibly lifted by a question mark. -/
  | trait (isParenthesized isRelaxed : Bool) (binder : Tokens) (path : Path)
  /-- What a type may capture, which is no trait. -/
  | capture (tokens : Tokens)
  /-- A bound by a trait that is kept as it is written. -/
  | verbatim (tokens : Tokens)

/-- A parameter of a function type, with the tokens of its attributes. -/
inductive Parameter where
  | mk (annotations : Tokens) (name : Option Word) (value : TypeExpr)
  /-- A parameter that is kept as it is written. -/
  | verbatim (annotations tokens : Tokens)

end

/-- There is at least the type without values. -/
instance : Inhabited TypeExpr := ⟨.never⟩

namespace Path

/-- Whether the path starts from the outermost scope. -/
def isGlobal : Path → Bool
  | mk isGlobal _ => isGlobal

/-- The names of the path with their arguments. -/
def segments : Path → List Segment
  | mk _ segments => segments

end Path

namespace Segment

/-- The name. -/
def name : Segment → Word
  | mk name _ => name

/-- The arguments of the name. -/
def arguments : Segment → Arguments
  | mk _ arguments => arguments

end Segment

/-! ### Tokens -/

/-- Tokens with commas between them. -/
def commaSeparated (items : List Tokens) (trailing : Bool) : Tokens :=
  (Tokens.operator ",").intercalate items ++ if trailing then Tokens.operator "," else []

/-- Tokens with plus signs between them. -/
def plusSeparated (items : List Tokens) (trailing : Bool) : Tokens :=
  (Tokens.operator "+").intercalate items ++ if trailing then Tokens.operator "+" else []

/-- Whether an argument is a lifetime. -/
def Argument.isLifetime : Argument → Bool
  | lifetime _ => true
  | _ => false

/-- A written argument: whether it is a lifetime, whether a comma follows it, and its tokens. -/
structure WrittenArgument where
  isLifetime : Bool
  hasComma : Bool
  tokens : Tokens

/-- Mark the last argument as being without a comma unless one trails the list. -/
def withCommas (trailing : Bool) : List (Bool × Tokens) → List WrittenArgument
  | [] => []
  | [(isLifetime, tokens)] => [⟨isLifetime, trailing, tokens⟩]
  | (isLifetime, tokens) :: next :: rest =>
    ⟨isLifetime, true, tokens⟩ :: withCommas trailing (next :: rest)

/-- Arguments in their order, each with its comma. -/
def joinLifetimes : List WrittenArgument → Tokens
  | [] => []
  | argument :: rest =>
    argument.tokens ++ (if argument.hasComma then Tokens.operator "," else []) ++ joinLifetimes rest

/-- Whether the last argument of a list is followed by a comma, or there is none. -/
def endsWithComma (arguments : List WrittenArgument) : Bool :=
  arguments.getLast?.all (·.hasComma)

/-- Further arguments, with a comma before each unless one is there already. -/
def joinOthers (hasComma : Bool) : List WrittenArgument → Tokens
  | [] => []
  | argument :: rest =>
    (if hasComma then [] else Tokens.operator ",") ++ argument.tokens
      ++ (if argument.hasComma then Tokens.operator "," else [])
      ++ joinOthers argument.hasComma rest

/-- Arguments with the lifetimes first, each with the comma that it was written with. -/
def joinArguments (arguments : List WrittenArgument) : Tokens :=
  let lifetimes := arguments.filter (·.isLifetime)
  let others := arguments.filter fun argument => !argument.isLifetime
  joinLifetimes lifetimes ++ joinOthers (endsWithComma lifetimes) others

/-- Tokens in angle brackets. -/
def angled (content : Tokens) : Tokens := Tokens.operator "<" ++ content ++ Tokens.operator ">"

/-- The arrow and the result of a function, whose tokens are given. -/
def arrow : Option Tokens → Tokens
  | none => []
  | some result => Tokens.operator "->" ++ result

mutual

def TypeExpr.tokens : TypeExpr → Tokens
  | .path path => path.tokens
  | .qualified self traitPath rest =>
    angled (self.tokens ++ TypeExpr.asTrait traitPath)
      ++ Segment.tokensBehind rest
  | .tuple elements trailing =>
    Tokens.grouped .parenthesis (commaSeparated (TypeExpr.tokensAll elements) trailing)
  | .paren inner => Tokens.grouped .parenthesis inner.tokens
  | .array element length =>
    Tokens.grouped .bracket (element.tokens ++ Tokens.operator ";" ++ length)
  | .slice element => Tokens.grouped .bracket element.tokens
  | .pointer isMutable target =>
    Tokens.operator "*" ++ Tokens.plain (if isMutable then "mut" else "const") ++ target.tokens
  | .reference lifetime isMutable target =>
    Tokens.operator "&" ++ (lifetime.map Tokens.lifetime).getD []
      ++ (if isMutable then Tokens.plain "mut" else []) ++ target.tokens
  | .function binder qualifiers parameters trailing variadic output =>
    binder ++ qualifiers ++ Tokens.plain "fn"
      ++ Tokens.grouped .parenthesis
        (commaSeparated (Parameter.tokensAll parameters) trailing ++ variadic)
      ++ arrow (TypeExpr.tokensOption output)
  | .traitObject isMarked bounds trailing =>
    (if isMarked then Tokens.plain "dyn" else []) ++ plusSeparated (Bound.tokensAll bounds) trailing
  | .implTrait bounds trailing =>
    Tokens.plain "impl" ++ plusSeparated (Bound.tokensAll bounds) trailing
  | .macroCall path arguments => path.tokens ++ Tokens.operator "!" ++ [arguments]
  | .never => Tokens.operator "!"
  | .inferred => Tokens.plain "_"
  | .verbatim tokens => tokens

/-- The tokens of types. -/
def TypeExpr.tokensAll : List TypeExpr → List Tokens
  | [] => []
  | type :: rest => type.tokens :: TypeExpr.tokensAll rest

/-- The tokens of a type that may be absent. -/
def TypeExpr.tokensOption : Option TypeExpr → Option Tokens
  | none => none
  | some type => some type.tokens

/-- The trait of a qualified path. -/
def TypeExpr.asTrait : Option Path → Tokens
  | none => []
  | some path => Tokens.plain "as" ++ path.tokens

def Path.tokens : Path → Tokens
  | .mk isGlobal segments =>
    (if isGlobal then Tokens.operator "::" else [])
      ++ (Tokens.operator "::").intercalate (Segment.tokensAll segments)

def Segment.tokens : Segment → Tokens
  | .mk name arguments => Tokens.word name ++ arguments.tokens

def Segment.tokensAll : List Segment → List Tokens
  | [] => []
  | segment :: rest => segment.tokens :: Segment.tokensAll rest

/-- The tokens of segments, each behind a pair of colons. -/
def Segment.tokensBehind : List Segment → Tokens
  | [] => []
  | segment :: rest => Tokens.operator "::" ++ segment.tokens ++ Segment.tokensBehind rest

def Arguments.tokens : Arguments → Tokens
  | .none => []
  | .angle turbofish arguments trailing =>
    (if turbofish then Tokens.operator "::" else [])
      ++ angled (joinArguments (withCommas trailing (Argument.writtenAll arguments)))
  | .parenthesized inputs trailing output =>
    Tokens.grouped .parenthesis (commaSeparated (TypeExpr.tokensAll inputs) trailing)
      ++ arrow (TypeExpr.tokensOption output)

def Argument.tokens : Argument → Tokens
  | .lifetime name => Tokens.lifetime name
  | .type value => value.tokens
  | .constant value => value
  | .associatedType name generics value =>
    Tokens.word name ++ generics.tokens ++ Tokens.operator "=" ++ value.tokens
  | .associatedConstant name generics value =>
    Tokens.word name ++ generics.tokens ++ Tokens.operator "=" ++ value
  | .constraint name generics bounds trailing =>
    Tokens.word name ++ generics.tokens ++ Tokens.operator ":"
      ++ plusSeparated (Bound.tokensAll bounds) trailing

/-- The tokens of arguments, each with whether it is a lifetime. -/
def Argument.writtenAll : List Argument → List (Bool × Tokens)
  | [] => []
  | argument :: rest => (argument.isLifetime, argument.tokens) :: Argument.writtenAll rest

def Bound.tokens : Bound → Tokens
  | .lifetime name => Tokens.lifetime name
  | .trait isParenthesized isRelaxed binder path =>
    let plain := (if isRelaxed then Tokens.operator "?" else []) ++ binder ++ path.tokens
    if isParenthesized then Tokens.grouped .parenthesis plain else plain
  | .capture tokens => tokens
  | .verbatim tokens => tokens

def Bound.tokensAll : List Bound → List Tokens
  | [] => []
  | bound :: rest => bound.tokens :: Bound.tokensAll rest

def Parameter.tokens : Parameter → Tokens
  | .mk annotations name value =>
    annotations ++ (name.map fun word => Tokens.word word ++ Tokens.operator ":").getD []
      ++ value.tokens
  | .verbatim annotations tokens => annotations ++ tokens

def Parameter.tokensAll : List Parameter → List Tokens
  | [] => []
  | parameter :: rest => parameter.tokens :: Parameter.tokensAll rest

end

/-! ### How types end -/

mutual

/-- Whether a type ends in a name without arguments, to which a following angle bracket would seem
to open them. -/
def TypeExpr.endsOpen : TypeExpr → Bool
  | .path path => path.endsOpen
  | .qualified _ _ rest => Segment.lastEndsOpen rest
  | .pointer _ target => target.endsOpen
  | .reference _ _ target => target.endsOpen
  | .function _ _ _ _ _ output => TypeExpr.resultEndsOpen output
  | .traitObject _ bounds _ => Bound.lastEndsOpen bounds
  | .implTrait bounds _ => Bound.lastEndsOpen bounds
  | _ => false

/-- Whether the result of a function ends so. -/
def TypeExpr.resultEndsOpen : Option TypeExpr → Bool
  | none => false
  | some type => type.endsOpen

/-- Whether a path ends so. -/
def Path.endsOpen : Path → Bool
  | .mk _ segments => Segment.lastEndsOpen segments

/-- Whether a segment ends so. -/
def Segment.endsOpen : Segment → Bool
  | .mk _ arguments => arguments.endsOpen

/-- Whether the last of some segments ends so. -/
def Segment.lastEndsOpen : List Segment → Bool
  | [] => false
  | [last] => last.endsOpen
  | _ :: rest => Segment.lastEndsOpen rest

/-- Whether a name with these arguments ends so. -/
def Arguments.endsOpen : Arguments → Bool
  | .none => true
  | .angle .. => false
  | .parenthesized _ _ output => TypeExpr.resultEndsOpen output

/-- Whether a bound ends so. -/
def Bound.endsOpen : Bound → Bool
  | .trait _ _ _ path => path.endsOpen
  | .lifetime _ | .capture _ | .verbatim _ => false

/-- Whether the last of some bounds ends so. -/
def Bound.lastEndsOpen : List Bound → Bool
  | [] => false
  | [last] => last.endsOpen
  | _ :: rest => Bound.lastEndsOpen rest

end

namespace Path

/-- A path of one name without arguments. -/
def ofWord (name : Word) : Path := .mk false [.mk name .none]

/-- Whether no name of the path has arguments. -/
def isPlain (path : Path) : Bool :=
  path.segments.all fun segment =>
    match segment.arguments with
    | .none => true
    | _ => false

/-- The last name of the path with its arguments. -/
def last? (path : Path) : Option Segment := path.segments.getLast?

/-- The path with other arguments for its last name. -/
def withArguments (path : Path) (arguments : Arguments) : Path :=
  match path.segments.getLast? with
  | none => path
  | some (.mk name _) => .mk path.isGlobal (path.segments.dropLast ++ [.mk name arguments])

end Path

end Code
end Capability

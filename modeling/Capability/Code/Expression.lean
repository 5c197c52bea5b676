import Capability.Code.TypeExpr

/-!
Expressions and patterns, and the tokens that write them.

Of an expression that is kept, the operands, the operators between them and the
words in front of them are told apart, because they decide what may follow and
where parentheses are needed.  What stands within brackets is kept as the tokens
that write it.

Parentheses that were written are operands of their own.  Others are written
only where the tokens would be read differently without them: around a range
that has attributes, around a cast in front of an angle bracket, around the value
of a jump that begins with a label, around a block at the front of an optional
value within a condition, and around a call of a macro in braces at the front of
a statement that goes on behind it.

Of a pattern its tokens are kept, and what must be known to write it in another
place: behind the attributes of a parameter, or as an element of a slice.
-/

namespace Capability
namespace Code

/-- What must be known about an operand to read and to write what follows it. -/
inductive Shape where
  | plain
  /-- A block in braces alone, without a label and without attributes inside it. -/
  | block
  /-- A block or a repetition behind a label. -/
  | labelled
  /-- Another form that ends a statement by itself. -/
  | closed
  /-- A call of a macro, in braces or in other brackets. -/
  | macroCall (isBraced : Bool)
deriving DecidableEq, Repr

/-- The words and marks that an expression can begin with in front of its value. -/
inductive Lead where
  /-- The mark of a reference or of an operation on one operand. -/
  | sign
  /-- The jump out of a block, to a label or not. -/
  | jump (isLabelled : Bool)
  /-- The word that hands a value on. -/
  | result
  /-- The parameters of a function without a name. -/
  | function
  /-- The pattern that a value must match. -/
  | binding
deriving DecidableEq, Repr

/-- An expression.  Annotations are the tokens of its attributes. -/
inductive Expression where
  | operand (shape : Shape) (annotations content : Tokens)
  /-- An expression that is kept as it is written. -/
  | verbatim (tokens : Tokens)
  /-- What follows an operand: a call, a position, or, behind a point, a member. -/
  | trailed (annotations : Tokens) (base : Expression) (isPointed : Bool) (trailer : Tokens)
  | led (lead : Lead) (annotations head : Tokens) (value : Expression)
  | binary (left : Expression) (operator : String) (right : Expression)
  | cast (value : Expression) (type : TypeExpr)
  | range (annotations : Tokens) (start : Option Expression) (limits : String)
      (stop : Option Expression)

namespace Expression

/-- Operators that compare. -/
def comparisons : List String := ["==", "!=", "<", "<=", ">", ">="]

/-- Whether an expression is a comparison, which takes no second one. -/
def isComparison : Expression → Bool
  | binary _ operator _ => comparisons.contains operator
  | _ => false

/-- Whether an expression is a range, which takes no operator behind it. -/
def isRange : Expression → Bool
  | range .. => true
  | _ => false

/-- Whether an expression is kept as it is written. -/
def isVerbatim : Expression → Bool
  | verbatim _ => true
  | _ => false

/-- Whether an expression needs a comma behind it if it is a branch and another follows. -/
def needsComma : Expression → Bool
  | operand .block .. | operand .labelled .. | operand .closed .. => false
  | _ => true

/-- Whether an expression needs a semicolon behind it if it is a statement and another follows. -/
def needsSemicolon : Expression → Bool
  | operand (.macroCall isBraced) .. => !isBraced
  | other => other.needsComma

/-- Whether an expression is a block in braces alone, without attributes. -/
def isBareBlock : Expression → Bool
  | operand .block [] _ => true
  | _ => false

/-- Whether an expression begins with a label, attributes aside. -/
def beginsWithLabel : Expression → Bool
  | operand .labelled .. => true
  | trailed _ base _ _ => base.beginsWithLabel
  | binary left _ _ => left.beginsWithLabel
  | cast value _ => value.beginsWithLabel
  | range _ (some start) _ _ => start.beginsWithLabel
  | _ => false

/-! ### Attributes -/

/-- The expression with further attributes in front of its own; one that is kept as it is written
takes none. -/
def annotated (annotations : Tokens) : Expression → Expression
  | operand shape own content => operand shape (annotations ++ own) content
  | trailed own base isPointed trailer => trailed (annotations ++ own) base isPointed trailer
  | led lead own head value => led lead (annotations ++ own) head value
  | range own start limits stop => range (annotations ++ own) start limits stop
  | other => other

/-- The expression with further attributes for what it begins with. -/
def annotatedFirst (annotations : Tokens) : Expression → Expression
  | binary left operator right => binary (left.annotatedFirst annotations) operator right
  | cast value type => cast (value.annotatedFirst annotations) type
  | other => other.annotated annotations

/-! ### Tokens -/

/-- The place in which an expression is written. -/
structure Place where
  /-- Within a condition, and not in brackets there. -/
  inCondition : Bool
  /-- At the front of a value that a block in a condition would end. -/
  isOptional : Bool
  /-- In front of an operator that begins with an opening angle bracket. -/
  beforeAngle : Bool
  /-- As a statement, or behind a point of one. -/
  isStatement : Bool
  /-- At the front of a statement that goes on behind it. -/
  beginsStatement : Bool

namespace Place

/-- In brackets, or where nothing else can follow. -/
def alone : Place := ⟨false, false, false, false, false⟩

def condition : Place := { alone with inCondition := true }

def statement : Place := { alone with isStatement := true }

def leftOf (place : Place) (operator : String) : Place where
  inCondition := place.inCondition
  isOptional := place.isOptional
  beforeAngle := operator == "<" || operator == "<<"
  isStatement := false
  beginsStatement := place.isStatement || place.beginsStatement

/-- In front of a point or of a question mark. -/
def beforePoint (place : Place) : Place where
  inCondition := place.inCondition
  isOptional := place.isOptional
  beforeAngle := false
  isStatement := place.isStatement || place.beginsStatement
  beginsStatement := false

/-- To the right of an operator. -/
def right (place : Place) : Place where
  inCondition := place.inCondition
  isOptional := false
  beforeAngle := place.beforeAngle
  isStatement := false
  beginsStatement := false

/-- Behind what leads a value. -/
def behind (place : Place) : Lead → Place
  | .jump _ => { place.right with inCondition := false, isOptional := place.inCondition }
  | .result => { place.right with inCondition := false }
  | _ => place.right

def rangeEnd (place : Place) : Place := { place.right with isOptional := place.inCondition }

/-- Whether an expression must stand in parentheses in a place, whatever it is a part of. -/
def encloses (place : Place) (expression : Expression) : Bool :=
  (place.beginsStatement && !expression.needsSemicolon)
    || (place.isOptional && expression.isBareBlock)

/-- Whether an operand of an operator must stand in parentheses in a place. -/
def enclosesOperand (place : Place) : Expression → Bool
  | .cast _ type => place.beforeAngle && type.endsOpen
  | _ => false

end Place

def parenthesized (tokens : Tokens) : Tokens := Tokens.grouped .parenthesis tokens

/-- Tokens that depend on their place, in parentheses or not. -/
def enclosedIf (isEnclosed : Bool) (place : Place) (tokens : Place → Tokens) : Tokens :=
  if isEnclosed then parenthesized (tokens .alone) else tokens place

/-- The tokens of a part in a place, given those that it has without parentheses of its own. -/
def partTokens (part : Expression) (bare : Place → Tokens) (place : Place) : Tokens :=
  enclosedIf (place.encloses part) place bare

/-- The tokens of an operand of an operator, given those that it has without parentheses of its
own. -/
def operandTokens (part : Expression) (bare : Place → Tokens) (place : Place) : Tokens :=
  enclosedIf (place.enclosesOperand part) place (partTokens part bare)

/-- The tokens of the value behind a lead, given those that it has without parentheses of its
own. -/
def leadTokens (lead : Lead) (part : Expression) (bare : Place → Tokens) (place : Place) :
    Tokens :=
  enclosedIf (lead == .jump false && part.beginsWithLabel) (place.behind lead)
    (partTokens part bare)

/-- The words of a cast. -/
def castTokens (type : TypeExpr) : Tokens := Tokens.plain "as" ++ type.tokens

mutual

/-- The tokens of an expression in a place, without parentheses of its own. -/
def bareTokens : Expression → Place → Tokens
  | operand _ annotations content, _ => annotations ++ content
  | verbatim tokens, _ => tokens
  | trailed annotations base isPointed trailer, place =>
    annotations
      ++ partTokens base (fun inner => base.bareTokens inner)
        (if isPointed then place.beforePoint else place.leftOf "(")
      ++ trailer
  | led lead annotations head value, place =>
    annotations ++ head ++ leadTokens lead value (fun inner => value.bareTokens inner) place
  | binary left operator right, place =>
    operandTokens left (fun inner => left.bareTokens inner) (place.leftOf operator)
      ++ Tokens.operator operator
      ++ operandTokens right (fun inner => right.bareTokens inner) place.right
  | cast value type, place =>
    operandTokens value (fun inner => value.bareTokens inner) (place.leftOf "as")
      ++ castTokens type
  | range annotations start limits stop, place =>
    annotations ++ enclosedIf (!annotations.isEmpty) place fun inner =>
      boundTokens start (inner.leftOf limits) ++ Tokens.operator limits
        ++ boundTokens stop inner.rangeEnd

/-- The tokens of the start or the end of a range, if there is one. -/
def boundTokens : Option Expression → Place → Tokens
  | none, _ => []
  | some bound, place => partTokens bound (fun inner => bound.bareTokens inner) place

end

def tokensAt (expression : Expression) (place : Place) : Tokens :=
  partTokens expression expression.bareTokens place

/-- The tokens of an expression by itself. -/
def tokens (expression : Expression) : Tokens := expression.tokensAt .alone

def conditionTokens (expression : Expression) : Tokens := expression.tokensAt .condition

def statementTokens (expression : Expression) : Tokens := expression.tokensAt .statement

end Expression

/-! ### Patterns -/

/-- What must be known about a pattern. -/
inductive PatternForm where
  | plain
  /-- A range, with both ends or not. -/
  | range (isComplete : Bool)
  /-- A constant block, and its tokens without the attributes inside it. -/
  | constant (bare : Tokens)
  /-- A pattern that is kept as it is written. -/
  | verbatim

structure Pattern where
  form : PatternForm
  tokens : Tokens

namespace Pattern

/-- A pattern about which nothing more must be known. -/
def plain (tokens : Tokens) : Pattern := ⟨.plain, tokens⟩

/-- Whether the pattern is a range without one of its ends. -/
def isOpenRange (pattern : Pattern) : Bool :=
  match pattern.form with
  | .range isComplete => !isComplete
  | _ => false

/-- The tokens of the pattern with certain attributes and no others. -/
def annotatedTokens (annotations : Tokens) (pattern : Pattern) : Tokens :=
  match pattern.form with
  | .plain => annotations ++ pattern.tokens
  | .range _ =>
    if annotations.isEmpty then pattern.tokens
    else annotations ++ Tokens.grouped .parenthesis pattern.tokens
  | .constant bare => annotations ++ bare
  | .verbatim => pattern.tokens

end Pattern

end Code
end Capability

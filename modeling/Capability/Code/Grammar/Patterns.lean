import Capability.Code.Grammar.Types

/-!
The grammar of patterns.

A pattern of one kind is told by its first tokens; alternatives are joined by
bars.  The end of a range is a literal, a path or a constant block, and may be
missing behind two dots.
-/

namespace Capability
namespace Code
namespace Grammar

open Code.Parser

/-! ### Members -/

/-- A member of a record or of a tuple. -/
structure Member where
  isNamed : Bool
  tokens : Tokens

def member : Parser Member := do
  if ← isAt Tokens.atName then return ⟨true, Tokens.word (← name)⟩
  else
    match (← ahead).integer? with
    | some (integer, rest) =>
      let number ← integer.index
      continueWith rest
      return ⟨false, Tokens.index number⟩
    | none => refuse "expected identifier or integer"

/-! ### Ranges -/

/-- Read a path, or a path within a type. -/
def anyPath (rules : Rules) : Parser TypeExpr := do
  if ← isAtOperator "<" then qualifiedPath rules true
  else return .path (← path rules true)

/-- Whether what has been read is a path without arguments, which can name a macro. -/
def namesMacro : TypeExpr → Bool
  | .path path => path.isPlain
  | _ => false

/-- Whether the call of a macro goes on here behind its name. -/
def isAtCall : Parser Bool := isAt fun tokens => tokens.atOperator "!" && !tokens.atOperator "!="

/-- Words and marks in front of which a range has no end. -/
def isAtRangeEnd : Parser Bool := isAt fun tokens =>
  tokens.isEmpty || ["|", "=", ",", ";"].any tokens.atOperator
    || (tokens.atOperator ":" && !tokens.atOperator "::") || tokens.atKeyword "if"

def rangeEndBeginnings : List String :=
  ["literal", "identifier", "`::`", "`<`", "`self`", "`Self`", "`super`", "`crate`", "`const`"]

/-- Read a constant block as a pattern. -/
def constantPattern (rules : Rules) : Parser Pattern := do
  keyword "const"
  let content ← block rules
  let bare := Tokens.plain "const" ++ Tokens.grouped .brace content.content
  return ⟨.constant bare, Tokens.plain "const" ++ content.tokens⟩

/-- Read the end of a range, or a pattern that can be one. -/
def rangeEnd (rules : Rules) : Parser Pattern := do
  if ← isAt Tokens.atLiteral then return .plain (← literal)
  else if ← isAtPath then return .plain (← anyPath rules).tokens
  else if ← isAtKeyword "const" then constantPattern rules
  else expected rangeEndBeginnings

/-- Read the end of a range behind its dots, of which the closed ones need one. -/
def rangeBehind (rules : Rules) (start : Option Tokens) (isClosed : Bool) : Parser Pattern := do
  let limits := Tokens.operator (if isClosed then "..=" else "..")
  if ← isAtRangeEnd then
    if isClosed then refuse "expected range upper bound"
    else
      match start with
      | some first => return ⟨.range false, first ++ limits⟩
      | none => return .plain limits
  else
    let stop ← rangeEnd rules
    return ⟨.range start.isSome, start.getD [] ++ limits ++ stop.tokens⟩

/-- Read a range from its dots on; three dots close it as an equals sign does. -/
def rangeFrom (rules : Rules) (start : Option Tokens) : Parser Pattern := do
  if ← operator? "..=" then rangeBehind rules start true
  else if ← operator? "..." then rangeBehind rules start true
  else
    operator ".."
    rangeBehind rules start false

/-! ### Alternatives -/

/-- Read the alternatives of a pattern, the first of which a bar may precede. -/
def alternatives (rules : Rules) : Parser Pattern := do
  let leading ← operatorTokens? "|"
  let first ← rules.pattern
  let isDone : Parser Bool := isAt fun tokens =>
    !(tokens.atOperator "|" && !tokens.atOperator "||" && !tokens.atOperator "|=")
  let further ← repeated isDone do
    operator "|"
    return Tokens.operator "|" ++ (← rules.pattern).tokens
  if leading.isEmpty && further.isEmpty then return first
  else return .plain (leading ++ first.tokens ++ further.flatten)

/-- Read alternatives with commas between them. -/
def patternList (rules : Rules) : Parser Tokens := do
  let found ← listed (alternatives rules)
  return commaSeparated (found.items.map Pattern.tokens) found.trailing

/-- Read an element of a slice. -/
def element (rules : Rules) : Parser Pattern := do
  let found ← alternatives rules
  if found.isOpenRange then
    object "range pattern is not allowed unparenthesized inside slice pattern"
  else return found

/-! ### Fields -/

/-- Read the pattern of a field that is named by what it binds. -/
def boundField (isBoxed : Bool) (before : Tokens) : Parser Tokens := do
  let words := (← keywordTokens? "ref") ++ (← keywordTokens? "mut")
  let field ← name
  if isBoxed then since before else return words ++ Tokens.word field

/-- Read the pattern of a field behind its attributes. -/
def fieldPattern (rules : Rules) : Parser Tokens := do
  let before ← ahead
  if ← keyword? "box" then boundField true before
  else if (← isAtKeyword "ref") || (← isAtKeyword "mut") then boundField false before
  else
    let field ← member
    if !field.isNamed || (← isAtOperator ":") then
      operator ":"
      return field.tokens ++ Tokens.operator ":" ++ (← alternatives rules).tokens
    else return field.tokens

/-- Read the patterns of fields; two dots end them. -/
def fieldPatterns (rules : Rules) : (fuel : Nat) → Parser Tokens
  | 0 => return []
  | fuel + 1 => do
    if ← isEnd then return []
    let annotations ← attributes rules
    if ← operator? ".." then return annotations ++ Tokens.operator ".."
    let field := annotations ++ (← fieldPattern rules)
    if ← isEnd then return field
    operator ","
    return field ++ Tokens.operator "," ++ (← fieldPatterns rules fuel)

/-! ### Patterns of each kind -/

/-- Read a pattern that begins with a path. -/
def pathPattern (rules : Rules) : Parser Pattern := do
  let path ← anyPath rules
  if namesMacro path && (← isAtCall) then
    operator "!"
    return .plain (path.tokens ++ Tokens.operator "!" ++ [← anyGroup])
  else if ← isAtGroup .brace then
    let fields ← group .brace do fieldPatterns rules ((← ahead).length + 1)
    return .plain (path.tokens ++ Tokens.grouped .brace fields)
  else if ← isAtGroup .parenthesis then
    let elements ← group .parenthesis (patternList rules)
    return .plain (path.tokens ++ Tokens.grouped .parenthesis elements)
  else if ← isAtOperator ".." then rangeFrom rules (some path.tokens)
  else return .plain path.tokens

/-- Read a pattern that binds a name. -/
def namePattern (rules : Rules) : Parser Pattern := do
  let words := (← keywordTokens? "ref") ++ (← keywordTokens? "mut")
  let bound ← if ← isAtKeyword "self" then anyWord else name
  if ← operator? "@" then
    return .plain
      (words ++ Tokens.word bound ++ Tokens.operator "@" ++ (← rules.pattern).tokens)
  else return .plain (words ++ Tokens.word bound)

/-- Read a pattern that begins with what can be the end of a range. -/
def boundPattern (rules : Rules) : Parser Pattern := do
  let first ← rangeEnd rules
  if ← isAtOperator ".." then rangeFrom rules (some first.tokens) else return first

/-- Read a pattern of a box, which is kept as it is written. -/
def boxPattern (rules : Rules) : Parser Pattern := do
  let (_, tokens) ← consumed do
    keyword "box"
    rules.pattern
  return ⟨.verbatim, tokens⟩

def referencePattern (rules : Rules) : Parser Pattern := do
  operator "&"
  let word ← keywordTokens? "mut"
  return .plain (Tokens.operator "&" ++ word ++ (← rules.pattern).tokens)

/-- Whether a pattern stands ahead that begins with a path and does not bind a name. -/
def isAtPathPattern : Parser Bool := isAt fun tokens =>
  let next := tokens.skipped
  (tokens.atName && (next.atOperator "::" || next.atOperator "!" || next.atGroup .brace
      || next.atGroup .parenthesis || next.atOperator ".."))
    || (tokens.atKeyword "self" && next.atOperator "::")
    || tokens.atOperator "::" || tokens.atOperator "<"
    || ["Self", "super", "crate"].any tokens.atKeyword

/-- Whether a pattern stands ahead that begins with what can be the end of a range. -/
def isAtBoundPattern : Parser Bool := isAt fun tokens =>
  tokens.atOperator "-" || tokens.atLiteral || tokens.atKeyword "const"

/-- Whether a pattern stands ahead that binds a name. -/
def isAtNamePattern : Parser Bool := isAt fun tokens =>
  tokens.atName || ["ref", "mut", "self"].any tokens.atKeyword

/-- What a pattern can begin with, besides three dots where those stand ahead. -/
def patternBeginnings (atThreeDots : Bool) : List String :=
  ["identifier", "`::`", "`<`", "`_`", "literal", "`const`", "`ref`", "`mut`", "`&`",
    "parentheses", "square brackets"] ++ (if atThreeDots then [] else ["`..`"]) ++ ["`const`"]

/-- Read a pattern without alternatives. -/
def pattern (rules : Rules) : Parser Pattern := do
  if ← isAtPathPattern then pathPattern rules
  else if ← keyword? "_" then return .plain (Tokens.plain "_")
  else if ← isAtKeyword "box" then boxPattern rules
  else if ← isAtBoundPattern then boundPattern rules
  else if ← isAtNamePattern then namePattern rules
  else if ← isAtOperator "&" then referencePattern rules
  else if ← isAtGroup .parenthesis then
    return .plain (Tokens.grouped .parenthesis (← group .parenthesis (patternList rules)))
  else if ← isAtGroup .bracket then
    let found ← group .bracket (listed (element rules))
    return .plain
      (Tokens.grouped .bracket (commaSeparated (found.items.map Pattern.tokens) found.trailing))
  else if (← isAtOperator "..") && !(← isAtOperator "...") then rangeFrom rules none
  else expected (patternBeginnings (← isAtOperator "..."))

end Grammar
end Code
end Capability

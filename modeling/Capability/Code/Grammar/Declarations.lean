import Capability.Code.Grammar.Fields
import Capability.Code.Grammar.Members

/-!
The grammar of items.

Which item stands ahead is told by the word behind its visibility.  An item that
is only half an item, or whose meaning is not settled, is kept as it is written,
with its attributes; any other is written anew from its parts.
-/

namespace Capability
namespace Code
namespace Grammar

open Code.Parser

/-! ### Uses -/

/-- What a tree of uses can begin with. -/
def useBeginnings : List String :=
  ["identifier", "`self`", "`super`", "`crate`", "`try`", "`*`", "curly braces"]

/-- Whether a name in a tree of uses stands ahead. -/
def isAtUseName : Parser Bool := isAt fun tokens =>
  tokens.atName || ["self", "super", "crate", "try"].any tokens.atKeyword

/-- Read the name by which something is used. -/
def useAlias : Parser Tokens := do
  if (← isAt Tokens.atName) || (← isAtKeyword "_") then return Tokens.word (← anyWord)
  else refuse "expected identifier or underscore"

/--
Read the trees of uses in braces, given how one of them is read; each may begin
at the outermost scope where that is allowed.  The answer has no value if one
does, or if one of them has none.
-/
def useTrees (allowsRoot : Bool) (tree : (allowsRoot : Bool) → Parser (Option Tokens)) :
    (fuel : Nat) → Parser (Option Tokens)
  | 0 => return some []
  | fuel + 1 => do
    if ← isEnd then return some []
    let isRooted ← if allowsRoot then operator? "::" else pure false
    let first ← tree (allowsRoot && !isRooted)
    let kept := if isRooted then none else first
    if ← isEnd then return kept
    operator ","
    let further ← useTrees allowsRoot tree fuel
    return do some ((← kept) ++ Tokens.operator "," ++ (← further))

/-- Read a tree of uses; the answer has no value if some part begins at the outermost scope. -/
def useTree : (fuel : Nat) → (allowsRoot : Bool) → Parser (Option Tokens)
  | 0, _ => expected useBeginnings
  | fuel + 1, allowsRoot => do
    if ← isAtUseName then
      let used := Tokens.word (← anyWord)
      if ← operator? "::" then
        return (← useTree fuel false).map fun rest => used ++ Tokens.operator "::" ++ rest
      else if ← keyword? "as" then return some (used ++ Tokens.plain "as" ++ (← useAlias))
      else return some used
    else if ← operator? "*" then return some (Tokens.operator "*")
    else if ← isAtGroup .brace then
      let found ← group .brace do
        useTrees allowsRoot (useTree fuel) ((← ahead).length + 1)
      return found.map (Tokens.grouped .brace)
    else expected useBeginnings

/-- Read the use of names. -/
def useItem : Parser (Option Tokens) := do
  keyword "use"
  let root ← operatorTokens? "::"
  let found ← useTree ((← ahead).size + 1) root.isEmpty
  operator ";"
  return found.map fun tree => Tokens.plain "use" ++ root ++ tree ++ Tokens.operator ";"

/-! ### Foreign code -/

/-- Read the use of a foreign package. -/
def foreignPackage : Parser Tokens := do
  keyword "extern"
  keyword "crate"
  let package ← if ← isAtKeyword "self" then anyWord else name
  let renamed ← do
    if ← keyword? "as" then
      let given ← if ← isAtKeyword "_" then anyWord else name
      pure (Tokens.plain "as" ++ Tokens.word given)
    else pure []
  operator ";"
  return Tokens.plain "extern" ++ Tokens.plain "crate" ++ Tokens.word package ++ renamed
    ++ Tokens.operator ";"

/-- Read members in braces, and the attributes of what encloses them. -/
def memberBlock (rules : Rules) (member : Parser Tokens) : Parser Tokens := do
  let content ← group .brace do
    let inner ← innerAttributes rules
    return inner ++ (← repeated isEnd member).flatten
  return Tokens.grouped .brace content

/-- Read a block of foreign members. -/
def foreignBlock (rules : Rules) : Parser Tokens := do
  let isUnsafe ← keywordTokens? "unsafe"
  if !(← isAtKeyword "extern") then expected ["`extern`"]
  let convention ← convention?
  return isUnsafe ++ convention ++ (← memberBlock rules (foreignMember rules))

/-- Read the use of a foreign package or a block of foreign members. -/
def foreignItem (rules : Rules) (visible : Tokens) : Parser Tokens := do
  let form ← glimpse do
    keyword "extern"
    if ← isAtKeyword "crate" then return true
    else if ← isAtGroup .brace then return false
    else if ← isAt Tokens.atText then
      pass 1
      if ← isAtGroup .brace then return false else expected ["curly braces"]
    else expected ["`crate`", "curly braces", "string literal"]
  if form then foreignPackage
  else if visible.isEmpty then foreignBlock rules
  else object "expected `extern`"

/-! ### Values -/

/-- Read a value of the whole program; nothing if it has no type or no value. -/
def staticItem (rules : Rules) : Parser (Option Tokens) := do
  keyword "static"
  let isMutable ← keywordTokens? "mut"
  let valueName ← name
  let head := Tokens.plain "static" ++ isMutable ++ Tokens.word valueName
  if ← operator? "=" then
    let _ ← rules.expression true
    operator ";"
    return none
  operator ":"
  let type ← rules.type true
  if ← operator? ";" then return none
  operator "="
  let value ← rules.expression true
  operator ";"
  return some (head ++ Tokens.operator ":" ++ type.tokens ++ Tokens.operator "=" ++ value.tokens
    ++ Tokens.operator ";")

/-! ### Modules -/

/-- Read a module, with its items in braces or elsewhere. -/
def moduleItem (rules : Rules) : Parser Tokens := do
  let isUnsafe ← keywordTokens? "unsafe"
  keyword "mod"
  let moduleName ← if ← isAtKeyword "try" then anyWord else name
  let head := isUnsafe ++ Tokens.plain "mod" ++ Tokens.word moduleName
  if ← operator? ";" then return head ++ Tokens.operator ";"
  else if ← isAtGroup .brace then return head ++ (← memberBlock rules rules.item)
  else expected ["`;`", "curly braces"]

/-! ### Traits -/

/-- Read the rest of a trait behind its parameters. -/
def traitRest (rules : Rules) : Parser Tokens := do
  let isDone : Parser Bool := isAt fun tokens => tokens.atKeyword "where" || tokens.atGroup .brace
  let bounds ← if ← operator? ":" then separatedUntil isDone "+" rules.bound else pure ⟨[], false⟩
  let required ← whereConditions rules
  return boundTokens ⟨bounds.items.map Bound.tokens, bounds.trailing⟩ ++ required.tokens
    ++ (← memberBlock rules (traitMember rules))

/-- Read the rest of another name for bounds, behind its parameters. -/
def traitAliasRest (rules : Rules) : Parser Tokens := do
  operator "="
  let isDone : Parser Bool := isAt fun tokens => tokens.atKeyword "where" || tokens.atOperator ";"
  let bounds ← separatedUntil isDone "+" rules.bound
  let required ← whereConditions rules
  operator ";"
  return Tokens.operator "=" ++ plusSeparated (bounds.items.map Bound.tokens) bounds.trailing
    ++ required.tokens ++ Tokens.operator ";"

/-- Read a trait that words stand in front of. -/
def qualifiedTrait (rules : Rules) : Parser Tokens := do
  let words := (← keywordTokens? "unsafe") ++ (← keywordTokens? "auto")
  keyword "trait"
  let head := words ++ Tokens.plain "trait" ++ Tokens.word (← name)
  let introduced ← generics rules
  return head ++ introduced.tokens ++ (← traitRest rules)

/-- Read a trait, or another name for bounds. -/
def traitItem (rules : Rules) : Parser Tokens := do
  keyword "trait"
  let head := Tokens.plain "trait" ++ Tokens.word (← name)
  let introduced ← generics rules
  let isTrait ← isAt fun tokens =>
    tokens.atGroup .brace || tokens.atOperator ":" || tokens.atKeyword "where"
  if isTrait then return head ++ introduced.tokens ++ (← traitRest rules)
  else if ← isAtOperator "=" then return head ++ introduced.tokens ++ (← traitAliasRest rules)
  else expected ["curly braces", "`:`", "`where`", "`=`"]

/-! ### Implementations -/

/-- Read the mark of an implementation that holds in constants, if it stands ahead. -/
def constantImplementation : Parser Bool := do
  if ← isAt fun tokens => tokens.atOperator "?" && Tokens.atKeyword "const" tokens.skipped then
    pass 2
    return true
  else keyword? "const"

/-- Read the mark of an implementation that says what does not hold, if it stands ahead. -/
def negative? : Parser Tokens := do
  if ← isAt fun tokens => tokens.atOperator "!" && !Tokens.atGroup .brace tokens.skipped then
    operatorTokens? "!"
  else return []

/-- What is implemented for which type. -/
structure Implemented where
  /-- Whether it is a trait or nothing but the type. -/
  isSettled : Bool
  tokens : Tokens

/-- Read what is implemented for which type. -/
def implemented (rules : Rules) : Parser Implemented := do
  let polarity ← negative?
  let first ← rules.type true
  if ← keyword? "for" then
    let target ← rules.type true
    let isTrait := match first with
      | .path _ => true
      | _ => false
    return ⟨isTrait, polarity ++ first.tokens ++ Tokens.plain "for" ++ target.tokens⟩
  else if polarity.isEmpty then return ⟨true, first.tokens⟩
  else object "inherent impls cannot be negative"

/-- Read an implementation; nothing if it is for constants or not of a trait. -/
def implementation (rules : Rules) : Parser (Option Tokens) := do
  let words := (← keywordTokens? "default") ++ (← keywordTokens? "unsafe")
  keyword "impl"
  let introduced ← if ← isAt atParameters then generics rules else pure .none
  let isConstant ← constantImplementation
  let content ← implemented rules
  let required ← whereConditions rules
  let members ← memberBlock rules (implementedMember rules)
  if isConstant || !content.isSettled then return none
  else
    return some (words ++ Tokens.plain "impl" ++ introduced.tokens ++ content.tokens
      ++ required.tokens ++ members)

/-- Read an implementation behind its visibility; nothing if that is stated. -/
def implementationItem (rules : Rules) (visible : Tokens) : Parser (Option Tokens) := do
  let found ← implementation rules
  return if visible.isEmpty then found else none

/-! ### Macros -/

/-- Read the definition of a macro. -/
def macroItem : Parser Unit := do
  keyword "macro"
  let _ ← name
  if ← isAtGroup .parenthesis then
    group .parenthesis skipAll
    if ← isAtGroup .brace then group .brace skipAll else expected ["curly braces"]
  else if ← isAtGroup .brace then group .brace skipAll
  else expected ["parentheses", "curly braces"]

/-! ### All items -/

/-- Words that begin an item. -/
def itemWords : List String :=
  ["fn", "extern", "use", "static", "const", "unsafe", "mod", "type", "struct", "enum", "union",
    "trait", "auto", "impl", "default", "macro"]

/-- Read a function; nothing if it has no body. -/
def functionItem (rules : Rules) : Parser (Option Tokens) := do
  let head := (← signature rules false).tokens
  if ← operator? ";" then return none else return some (head ++ (← functionBody rules))

/-- Read the rest of an item that defines a type, behind the word for its kind. -/
def typeDefinition (rules : Rules) (body : Rules → Parser Tokens) : Parser Tokens := do
  let kind ← anyWord
  let head := Tokens.word kind ++ Tokens.word (← name)
  let introduced ← generics rules
  return head ++ introduced.tokens ++ (← body rules)

/-- Read an item from the word on that says it is unsafe. -/
def unsafeItem (rules : Rules) (visible : Tokens) : Parser (Option Tokens) := do
  let next := (← ahead).skipped
  if next.atKeyword "trait" || (next.atKeyword "auto" && Tokens.atKeyword "trait" next.skipped) then
    return some (← qualifiedTrait rules)
  else if next.atKeyword "impl" then implementationItem rules visible
  else if next.atKeyword "extern" then
    if visible.isEmpty then return some (← foreignBlock rules) else object "expected `extern`"
  else if next.atKeyword "mod" then return some (← moduleItem rules)
  else
    keyword "unsafe"
    declarationExpected ["trait", "auto", "impl", "extern", "mod"] false

/-- Read an item behind its visibility; nothing if it is to be kept as it is written. -/
def itemContent (rules : Rules) (visible : Tokens) : Parser (Option Tokens) := do
  if ← isAtSignature false then functionItem rules
  else if ← isAtKeyword "extern" then return some (← foreignItem rules visible)
  else if ← isAtKeyword "use" then useItem
  else if ← isAtKeyword "static" then staticItem rules
  else if ← isAtKeyword "const" then
    let found ← constant rules
    return if found.isPlain && found.hasValue then some found.tokens else none
  else if ← isAtKeyword "unsafe" then unsafeItem rules visible
  else if ← isAtKeyword "mod" then return some (← moduleItem rules)
  else if ← isAtKeyword "type" then
    let declared ← declaredType rules .beforeValue
    return if declared.isAlias then
      some (declared.head ++ declared.conditions ++ declared.valueTokens ++ Tokens.operator ";")
      else none
  else if ← isAtKeyword "struct" then return some (← typeDefinition rules recordBody)
  else if ← isAtKeyword "enum" then return some (← typeDefinition rules enumerationBody)
  else if ← isAt fun tokens => tokens.atKeyword "union" && tokens.skipped.atName then
    return some (← typeDefinition rules unionBody)
  else if ← isAtKeyword "trait" then return some (← traitItem rules)
  else if ← isAtKeywords "auto" "trait" then return some (← qualifiedTrait rules)
  else if (← isAtKeyword "impl") || (← isAt fun tokens =>
      tokens.atKeyword "default" && !Tokens.atOperator "!" tokens.skipped) then
    implementationItem rules visible
  else if ← isAtKeyword "macro" then
    macroItem
    return none
  else if visible.isEmpty && (← isAtCallPath) then return some (← declarationCall true)
  else declarationExpected itemWords visible.isEmpty

/-- Read an item behind its attributes, given the tokens from the attributes on. -/
def declaration (rules : Rules) (before annotations : Tokens) : Parser Tokens := do
  let visible ← visibility
  match ← itemContent rules visible with
  | some content => return annotations ++ visible ++ content
  | none => since before

def anyItem (rules : Rules) : Parser Tokens := do
  let before ← ahead
  let annotations ← attributes rules
  declaration rules before annotations

end Grammar
end Code
end Capability

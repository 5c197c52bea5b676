import Capability.Code.Lexer

/-!
Reading tokens.

A parser takes the tokens ahead to a value and the tokens behind it, or to a
complaint.  Tokens left over between brackets are not a complaint at once: what
follows the group is read first, and only if nothing else is wrong the first
leftover is complained about.  Therefore the state remembers it.

A complaint says that the tokens have ended if they have, with one exception: a
missing operator is reported by its name alone.
-/

namespace Capability
namespace Code

/-- Why tokens are refused. -/
inductive Complaint where
  /-- The text has no token structure. -/
  | unreadable
  /-- Tokens are left over, at the end or in front of a closing bracket. -/
  | leftover (enclosing : Option Delimiter)
  /-- An operator is missing. -/
  | operatorExpected (operator : String)
  /-- None of the things that could stand here does. -/
  | expected (atEnd : Bool) (wanted : List String)
  /-- A reserved word stands where a name is wanted. -/
  | reserved (word : String)
  /-- Something is refused for a reason of its own, which the end of the tokens may explain. -/
  | refused (atEnd : Bool) (reason : String)
deriving DecidableEq, Repr

/-- What a message wants instead of leftover tokens. -/
def Delimiter.closingName : Delimiter → String
  | parenthesis => "`)`"
  | bracket => "`]`"
  | brace => "`\x7d`"

/-- How a message names a group. -/
def Delimiter.name : Delimiter → String
  | parenthesis => "parentheses"
  | bracket => "square brackets"
  | brace => "curly braces"

namespace Complaint

/-- A message, which says so if the tokens have ended. -/
def withEnd (atEnd : Bool) (reason : String) : String :=
  if atEnd then "unexpected end of input, " ++ reason else reason

def message : Complaint → String
  | unreadable => "cannot parse string into token stream"
  | leftover none => "unexpected token"
  | leftover (some enclosing) => "unexpected token, expected " ++ enclosing.closingName
  | operatorExpected operator => "expected `" ++ operator ++ "`"
  | expected atEnd [] => if atEnd then "unexpected end of input" else "unexpected token"
  | expected atEnd [wanted] => withEnd atEnd ("expected " ++ wanted)
  | expected atEnd [first, second] => withEnd atEnd ("expected " ++ first ++ " or " ++ second)
  | expected atEnd wanted => withEnd atEnd ("expected one of: " ++ ", ".intercalate wanted)
  | reserved word => "expected identifier, found keyword `" ++ word ++ "`"
  | refused atEnd reason => withEnd atEnd reason

end Complaint

/-- Words that are reserved and name nothing unless they are raw. -/
def reservedWords : List String :=
  ["_", "abstract", "as", "async", "await", "become", "box", "break", "const", "continue", "crate",
    "do", "dyn", "else", "enum", "extern", "false", "final", "fn", "for", "if", "impl", "in",
    "let", "loop", "macro", "match", "mod", "move", "mut", "override", "priv", "pub", "ref",
    "return", "Self", "self", "static", "struct", "super", "trait", "true", "try", "type",
    "typeof", "unsafe", "unsized", "use", "virtual", "where", "while", "yield"]

/-- Whether a word can name something. -/
def Word.isName (word : Word) : Bool := word.raw || !reservedWords.contains word.text

/-! ### What stands ahead -/

namespace Tokens

/-- Whether the marks of an operator stand ahead, joint up to the last one. -/
def atMarks : List Char → Tokens → Bool
  | [], _ => true
  | [c], .mark found _ :: _ => found = c
  | c :: next :: more, .mark found joint :: rest =>
    found = c && joint && atMarks (next :: more) rest
  | _, _ => false

/-- Whether an operator stands ahead; more marks may follow it. -/
def atOperator (operator : String) (tokens : Tokens) : Bool := atMarks operator.toList tokens

/-- Whether a certain word stands ahead, not in raw form. -/
def atKeyword (text : String) : Tokens → Bool
  | .word word :: _ => !word.raw && word.text == text
  | _ => false

/-- Whether some word stands ahead, reserved or not. -/
def atAnyWord : Tokens → Bool
  | .word _ :: _ => true
  | _ => false

/-- Whether a word that can name something stands ahead. -/
def atName : Tokens → Bool
  | .word word :: _ => word.isName
  | _ => false

/-- Whether a lifetime stands ahead. -/
def atLifetime : Tokens → Bool
  | .mark '\'' true :: .word _ :: _ => true
  | _ => false

/-- Whether a group with certain brackets stands ahead. -/
def atGroup (delimiter : Delimiter) : Tokens → Bool
  | .group found _ :: _ => found = delimiter
  | _ => false

/-- Whether a literal text is that of a number. -/
def isNumber (text : String) : Bool := text.toList.head?.any Char.isDigit

/-- Whether a literal text is that of a text, which may be written without escapes. -/
def isText (text : String) : Bool :=
  match text.toList with
  | '"' :: _ | 'r' :: _ => true
  | _ => false

/-- Whether the literal of a text stands ahead. -/
def atText : Tokens → Bool
  | .literal text :: _ => isText text
  | _ => false

/-- Whether a literal stands ahead: a token that is one, a truth value or a negative number. -/
def atLiteral : Tokens → Bool
  | .literal _ :: _ => true
  | .word word :: _ => !word.raw && (word.text == "true" || word.text == "false")
  | .mark '-' _ :: .literal text :: _ => isNumber text
  | _ => false

/-- The tokens behind the next one; a lifetime counts as one token. -/
def skipped : Tokens → Tokens
  | .mark '\'' true :: .word _ :: rest => rest
  | _ :: rest => rest
  | [] => []

end Tokens

/-! ### Parsers -/

/-- The tokens ahead, and where the first tokens were left over between brackets. -/
structure Stream where
  rest : Tokens
  leftover : Option Delimiter

/-- A way to read a value from tokens. -/
abbrev Parser (α : Type) := StateT Stream (Except Complaint) α

namespace Parser

def ahead : Parser Tokens := return (← get).rest

/-- Whether something holds of the tokens ahead. -/
def isAt (test : Tokens → Bool) : Parser Bool := return test (← ahead)

/-- Whether no tokens are ahead. -/
def isEnd : Parser Bool := isAt List.isEmpty

/-- Whether an operator stands ahead. -/
def isAtOperator (operator : String) : Parser Bool := isAt (Tokens.atOperator operator)

/-- Whether a certain word stands ahead. -/
def isAtKeyword (text : String) : Parser Bool := isAt (Tokens.atKeyword text)

/-- Whether a group stands ahead. -/
def isAtGroup (delimiter : Delimiter) : Parser Bool := isAt (Tokens.atGroup delimiter)

/-- Go on with other tokens. -/
def continueWith (rest : Tokens) : Parser Unit := modify fun stream => { stream with rest := rest }

/-- Pass over so many tokens. -/
def pass (count : Nat) : Parser Unit := do continueWith ((← ahead).drop count)

/-- Complain that none of several things stands here. -/
def expected {α : Type} (wanted : List String) : Parser α := do
  throw (.expected (← isEnd) wanted)

/-- Complain for a reason of its own. -/
def refuse {α : Type} (reason : String) : Parser α := do
  throw (.refused (← isEnd) reason)

/-- Complain about something that has been read already. -/
def object {α : Type} (reason : String) : Parser α := throw (.refused false reason)

def operator (text : String) : Parser Unit := do
  if ← isAtOperator text then pass text.length else throw (.operatorExpected text)

/-- Read an operator if it stands ahead. -/
def operator? (text : String) : Parser Bool := do
  if ← isAtOperator text then
    pass text.length
    return true
  else return false

/-- Read a certain word. -/
def keyword (text : String) : Parser Unit := do
  if ← isAtKeyword text then pass 1 else expected ["`" ++ text ++ "`"]

/-- Read a certain word if it stands ahead. -/
def keyword? (text : String) : Parser Bool := do
  if ← isAtKeyword text then
    pass 1
    return true
  else return false

/-- Read a word that can name something. -/
def name : Parser Word := do
  match ← ahead with
  | .word word :: rest =>
    if word.isName then
      continueWith rest
      return word
    else throw (.reserved word.written)
  | _ => expected ["identifier"]

def anyWord : Parser Word := do
  match ← ahead with
  | .word word :: rest =>
    continueWith rest
    return word
  | _ => expected ["identifier"]

def lifetime : Parser Word := do
  match ← ahead with
  | .mark '\'' true :: .word word :: rest =>
    continueWith rest
    return word
  | _ => expected ["lifetime"]

/-- Read a lifetime if one stands ahead. -/
def lifetime? : Parser (Option Word) := do
  if ← isAt Tokens.atLifetime then return some (← lifetime) else return none

/-- Remember that tokens were left over in a group, unless some were before. -/
def noteLeftover (delimiter : Delimiter) (rest : Tokens) : Parser Unit :=
  modify fun stream =>
    if rest.isEmpty then stream
    else { stream with leftover := stream.leftover <|> some delimiter }

/--
Read a group with certain brackets, its content with one parser, and then with
another what belongs to the group behind it.  Tokens left over in the group are
remembered only behind all of this.
-/
def groupThen {α β : Type} (delimiter : Delimiter) (content : Parser α) (further : α → Parser β) :
    Parser β := do
  match ← ahead with
  | .group found inner :: rest =>
    if found = delimiter then
      continueWith inner
      let value ← content
      let left ← ahead
      continueWith rest
      let result ← further value
      noteLeftover delimiter left
      return result
    else expected [delimiter.name]
  | _ => expected [delimiter.name]

/-- Read a group with certain brackets, and its content with a parser. -/
def group {α : Type} (delimiter : Delimiter) (content : Parser α) : Parser α :=
  groupThen delimiter content fun value => return value

/-- Pass over all tokens ahead. -/
def skipAll : Parser Unit := continueWith []

/-- The tokens passed over since others were ahead. -/
def since (before : Tokens) : Parser Tokens := do
  return before.take (before.length - (← ahead).length)

/-- Read a value together with the tokens that it is written with. -/
def consumed {α : Type} (parser : Parser α) : Parser (α × Tokens) := do
  let before ← ahead
  let value ← parser
  return (value, ← since before)

/-- Read a value if that is possible, and otherwise nothing. -/
def attempt? {α : Type} (parser : Parser α) : Parser (Option α) := fun stream =>
  match parser stream with
  | .ok (value, behind) => .ok (some value, behind)
  | .error _ => .ok (none, stream)

/-- Find out something about the tokens ahead by reading them, and leave them ahead. -/
def glimpse {α : Type} (parser : Parser α) : Parser α := do
  let stream ← get
  let value ← parser
  set stream
  return value

/-- The tokens of an operator if it stands ahead. -/
def operatorTokens? (text : String) : Parser Tokens := do
  if ← operator? text then return Tokens.operator text else return []

/-- The tokens of a certain word if it stands ahead. -/
def keywordTokens? (text : String) : Parser Tokens := do
  if ← keyword? text then return Tokens.plain text else return []

/-- Read values, given how the next one is read, until a condition ends them; the values read
before are in reverse. -/
def manyUntil {α : Type} (isDone : Parser Bool) (item : Parser α) :
    (fuel : Nat) → List α → Parser (List α)
  | 0, before => return before.reverse
  | fuel + 1, before => do
    if ← isDone then return before.reverse
    else manyUntil isDone item fuel ((← item) :: before)

/-- Read values until a condition ends them. -/
def repeated {α : Type} (isDone : Parser Bool) (item : Parser α) : Parser (List α) := do
  manyUntil isDone item ((← ahead).length + 1) []

/-- Values with a separator between them. -/
structure Separated (α : Type) where
  items : List α
  /-- Whether a separator follows the last item. -/
  trailing : Bool
deriving Repr

/--
Read values with an operator between them, until a condition holds in front of a
value or in front of an operator; those read before are in reverse.
-/
def separatedFrom {α : Type} (isDone : Parser Bool) (between : String) (item : Parser α) :
    (fuel : Nat) → List α → Parser (Separated α)
  | 0, before => return ⟨before.reverse, false⟩
  | fuel + 1, before => do
    if ← isDone then return ⟨before.reverse, !before.isEmpty⟩
    else do
      let value ← item
      if ← isDone then return ⟨(value :: before).reverse, false⟩
      else do
        operator between
        separatedFrom isDone between item fuel (value :: before)

/-- Read values with an operator between them until a condition holds. -/
def separatedUntil {α : Type} (isDone : Parser Bool) (between : String) (item : Parser α) :
    Parser (Separated α) := do
  separatedFrom isDone between item ((← ahead).length + 1) []

/-- Read values with commas between them up to the end of the tokens. -/
def listed {α : Type} (item : Parser α) : Parser (Separated α) := separatedUntil isEnd "," item

/--
Read values with an operator between them, as long as the operator follows a
value and until a condition holds in front of one; those read before are in
reverse.
-/
def chainedFrom {α : Type} (isDone : Parser Bool) (between : String) (item : Parser α) :
    (fuel : Nat) → List α → Parser (Separated α)
  | 0, before => return ⟨before.reverse, false⟩
  | fuel + 1, before => do
    if ← isDone then return ⟨before.reverse, !before.isEmpty⟩
    else do
      let value ← item
      if ← operator? between then chainedFrom isDone between item fuel (value :: before)
      else return ⟨(value :: before).reverse, false⟩

/-- Read values with an operator between them, as long as the operator follows a value. -/
def chained {α : Type} (isDone : Parser Bool) (between : String) (item : Parser α) :
    Parser (Separated α) := do
  chainedFrom isDone between item ((← ahead).length + 1) []

/-- Read all of the given tokens. -/
def run {α : Type} (parser : Parser α) (tokens : Tokens) : Except Complaint α :=
  match parser ⟨tokens, none⟩ with
  | .error complaint => .error complaint
  | .ok (value, ⟨rest, leftover⟩) =>
    match leftover with
    | some delimiter => .error (.leftover (some delimiter))
    | none => if rest.isEmpty then .ok value else .error (.leftover none)

/-- Read all of a text. -/
def parse {α : Type} (parser : Parser α) (text : String) : Except Complaint α :=
  match Tokens.ofText? text with
  | none => .error .unreadable
  | some tokens => parser.run tokens

end Parser
end Code
end Capability

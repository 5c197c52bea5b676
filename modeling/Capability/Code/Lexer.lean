import Capability.Code.Lexeme
import Capability.Naming

/-!
From characters to token trees.

White space and comments separate tokens and are dropped.  A comment that
documents what follows is kept, as an attribute that holds its text.  Brackets
must be closed in the order in which they were opened.  Where any of this fails
the whole text is refused, without saying where.

Code that is emitted is given by its text and read in the same way.  The compact
text of tokens is their text without the blanks that keep no two words apart.
-/

namespace Capability
namespace Code
namespace Lexer

/-! ### White space and comments -/

/-- Characters that separate tokens; the marks of writing direction are among them. -/
def isBlank (c : Char) : Bool :=
  Unicode.isBlank c || c.toNat == 0x200E || c.toNat == 0x200F

/-- The rest of a line and what follows it; a carriage return at its end belongs to neither. -/
def line : List Char → List Char × List Char
  | [] => ([], [])
  | '\n' :: rest => ([], '\n' :: rest)
  | '\r' :: '\n' :: rest => ([], '\n' :: rest)
  | c :: rest =>
    let (content, behind) := line rest
    (c :: content, behind)

/--
The characters of a comment between brackets and what follows it, given how many
of its brackets are open.  The comment's own closing bracket is left out.
-/
def block? : (depth : Nat) → List Char → Option (List Char × List Char)
  | depth, '/' :: '*' :: rest => do
    let (content, behind) ← block? (depth + 1) rest
    some ('/' :: '*' :: content, behind)
  | 0, '*' :: '/' :: rest => some ([], rest)
  | depth + 1, '*' :: '/' :: rest => do
    let (content, behind) ← block? depth rest
    some ('*' :: '/' :: content, behind)
  | depth, c :: rest => do
    let (content, behind) ← block? depth rest
    some (c :: content, behind)
  | _, [] => none

/-- Whether a comment on a line of its own, behind its two strokes, documents something. -/
def documents : List Char → Bool
  | '/' :: '/' :: _ => false
  | '/' :: _ => true
  | '!' :: _ => true
  | _ => false

/-- Whether a comment between brackets, behind the opening one, documents something. -/
def blockDocuments : List Char → Bool
  | '*' :: '*' :: _ => false
  | '*' :: '/' :: _ => false
  | '*' :: _ => true
  | '!' :: _ => true
  | _ => false

/-- What stands at the beginning of the characters ahead, if no token does. -/
inductive Gap where
  /-- Something to drop, and the rest behind it. -/
  | dropped (rest : List Char)
  /-- A comment that documents something: what encloses it, or what follows it. -/
  | doc (inner : Bool) (content rest : List Char)
  | none

/-- Read white space or a comment. -/
def gap : List Char → Gap
  | '/' :: '/' :: rest =>
    if documents rest then
      let (content, behind) := line (rest.drop 1)
      .doc (rest.head? == some '!') content behind
    else .dropped (line rest).2
  | '/' :: '*' :: rest =>
    match block? 0 rest with
    | Option.none => .none
    | some (content, behind) =>
      if blockDocuments rest then .doc (rest.head? == some '!') (content.drop 1) behind
      else .dropped behind
  | c :: rest => if isBlank c then .dropped rest else .none
  | [] => .none

/-- Whether every carriage return ends a line. -/
def linesEnd : List Char → Bool
  | [] => true
  | '\r' :: '\n' :: rest => linesEnd rest
  | c :: rest => c != '\r' && linesEnd rest

/-- The attribute that a documenting comment is. -/
def docTokens (inner : Bool) (content : List Char) : Tokens :=
  let literal := TokenTree.literal (Text.literal (String.ofList content))
  let annotation := TokenTree.group .bracket [.word (.plain "doc"), .mark '=' false, literal]
  if inner then [.mark '#' false, .mark '!' false, annotation] else [.mark '#' false, annotation]

/-! ### Pieces -/

/-- A token or a bracket. -/
inductive Piece where
  | tree (token : TokenTree)
  | opens (delimiter : Delimiter)
  | closes (delimiter : Delimiter)

/-- The bracket that a character is. -/
def bracket? : Char → Option Piece
  | '(' => some (.opens .parenthesis)
  | '[' => some (.opens .bracket)
  | '\x7b' => some (.opens .brace)
  | ')' => some (.closes .parenthesis)
  | ']' => some (.closes .bracket)
  | '\x7d' => some (.closes .brace)
  | _ => none

/-- The bracket or other token ahead. -/
def piece? : List Char → Option (Piece × List Char)
  | [] => none
  | c :: rest =>
    match bracket? c with
    | some bracket =>
      if Lexeme.errorLiteral.toList.isPrefixOf (c :: rest) then
        (Lexeme.leaf? (c :: rest)).map fun found => (.tree found.1, found.2)
      else some (bracket, rest)
    | none => (Lexeme.leaf? (c :: rest)).map fun found => (.tree found.1, found.2)

/-- The pieces of a text. -/
def pieces? : (fuel : Nat) → List Char → Option (List Piece)
  | _, [] => some []
  | 0, _ :: _ => none
  | fuel + 1, c :: rest =>
    match gap (c :: rest) with
    | .dropped behind => pieces? fuel behind
    | .doc inner content behind =>
      if linesEnd content then do
        let more ← pieces? fuel behind
        some ((docTokens inner content).map .tree ++ more)
      else none
    | .none => do
      let (found, behind) ← piece? (c :: rest)
      let more ← pieces? fuel behind
      some (found :: more)

/-! ### Trees -/

/-- A group that is still open: its brackets, and what came before it, in reverse. -/
structure Frame where
  delimiter : Delimiter
  before : Tokens

/-- The trees of pieces, given the open groups and the tokens since the last bracket in reverse. -/
def trees? : List Frame → Tokens → List Piece → Option Tokens
  | [], read, [] => some read.reverse
  | _ :: _, _, [] => none
  | frames, read, .tree token :: rest => trees? frames (token :: read) rest
  | frames, read, .opens delimiter :: rest => trees? (⟨delimiter, read⟩ :: frames) [] rest
  | frame :: frames, read, .closes delimiter :: rest =>
    if frame.delimiter = delimiter then
      trees? frames (.group delimiter read.reverse :: frame.before) rest
    else none
  | [], _, .closes _ :: _ => none

/-- The mark of byte order that a text may begin with. -/
def byteOrderMark : Char := Char.ofNat 0xFEFF

/-- The text without a mark of byte order. -/
def withoutMark : List Char → List Char
  | c :: rest => if c = byteOrderMark then rest else c :: rest
  | [] => []

end Lexer

/-- The tokens of a text, if it has a token structure. -/
def Tokens.ofText? (text : String) : Option Tokens :=
  let chars := Lexer.withoutMark text.toList
  (Lexer.pieces? chars.length chars).bind (Lexer.trees? [] [])

/-! ### Tokens from their text -/

/-- The tokens of a text; none if it has no token structure. -/
def written (source : String) : Tokens := (Tokens.ofText? source).getD []

namespace Tokens

/-- The text of tokens without the blanks that keep no two words apart. -/
def compactText (tokens : Tokens) : String := Naming.compact tokens.text

def quoted (content : String) : Tokens := [.literal (Text.literal content)]

def braced (content : Tokens) : Tokens := grouped .brace content

def enclosed (content : Tokens) : Tokens := grouped .parenthesis content

end Tokens

end Code
end Capability

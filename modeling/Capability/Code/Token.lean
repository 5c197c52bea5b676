/-!
Tokens of source code, and their text.

Source code is a list of token trees: words, single marks, literals, and groups
between brackets.  A mark is joint if another mark follows it without a blank;
operators of several marks are read and written as joint marks.  The text of
tokens has a blank between any two of them, except behind a joint mark.

All brackets are visible.  Groups that no bracket delimits are left out: a text
never has them, they come only from the tokens that another macro hands on.
-/

namespace Capability
namespace Code

/-- A word, which may be written in raw form to escape its being reserved. -/
structure Word where
  text : String
  raw : Bool
deriving DecidableEq, Repr

def Word.written (word : Word) : String :=
  if word.raw then "r#" ++ word.text else word.text

/-- A word that is not raw. -/
def Word.plain (text : String) : Word := ⟨text, false⟩

/-- The brackets of a group. -/
inductive Delimiter where
  | parenthesis
  | bracket
  | brace
deriving DecidableEq, Repr

/-- One token, or a group of tokens between brackets. -/
inductive TokenTree where
  | word (name : Word)
  | mark (character : Char) (joint : Bool)
  | literal (text : String)
  | group (delimiter : Delimiter) (content : List TokenTree)

/-- A piece of source code. -/
abbrev Tokens := List TokenTree

namespace TokenTree

mutual

/-- Whether two token trees are the same. -/
def same : TokenTree → TokenTree → Bool
  | word left, word right => left == right
  | mark left leftJoint, mark right rightJoint => left == right && leftJoint == rightJoint
  | literal left, literal right => left == right
  | group left inner, group right outer => left == right && sameAll inner outer
  | _, _ => false

/-- Whether two lists of token trees are the same. -/
def sameAll : List TokenTree → List TokenTree → Bool
  | [], [] => true
  | left :: lefts, right :: rights => same left right && sameAll lefts rights
  | _, _ => false

end

/-- Token trees are compared by their structure. -/
instance : BEq TokenTree := ⟨same⟩

mutual

/-- How many tokens there are, a group counting for its two brackets. -/
def size : TokenTree → Nat
  | group _ content => sizeAll content + 2
  | _ => 1

def sizeAll : List TokenTree → Nat
  | [] => 0
  | tree :: rest => size tree + sizeAll rest

end

/-- The opening bracket of a group, with the blank that follows it. -/
def opening : Delimiter → List Char
  | .parenthesis => ['(']
  | .bracket => ['[']
  | .brace => ['\x7b', ' ']

/-- The closing bracket of a group, with the blank before it unless the group is empty. -/
def closing (isEmpty : Bool) : Delimiter → List Char
  | .parenthesis => [')']
  | .bracket => [']']
  | .brace => if isEmpty then ['\x7d'] else [' ', '\x7d']

/-- Whether a token is a mark that joins the next token. -/
def isJoint : TokenTree → Bool
  | mark _ joint => joint
  | _ => false

mutual

/-- The text of a token tree. -/
def chars : TokenTree → List Char
  | word name => name.written.toList
  | mark c _ => [c]
  | literal text => text.toList
  | group delimiter content =>
    opening delimiter ++ charsAll content ++ closing content.isEmpty delimiter

/-- The text of a list of token trees. -/
def charsAll : List TokenTree → List Char
  | [] => []
  | [last] => chars last
  | tree :: next :: rest =>
    chars tree ++ (if isJoint tree then [] else [' ']) ++ charsAll (next :: rest)

end

end TokenTree

namespace Tokens

def text (tokens : Tokens) : String := String.ofList (TokenTree.charsAll tokens)

def size (tokens : Tokens) : Nat := TokenTree.sizeAll tokens

/-- A single word. -/
def word (name : Word) : Tokens := [.word name]

/-- A single word that is not raw. -/
def plain (name : String) : Tokens := [.word (.plain name)]

/-- The marks of an operator, joint up to the last one. -/
def marks : List Char → Tokens
  | [] => []
  | [last] => [.mark last false]
  | c :: next :: rest => .mark c true :: marks (next :: rest)

def operator (text : String) : Tokens := marks text.toList

def lifetime (name : Word) : Tokens := [.mark '\'' true, .word name]

/-- Tokens between brackets. -/
def grouped (delimiter : Delimiter) (content : Tokens) : Tokens := [.group delimiter content]

end Tokens
end Code
end Capability

import Capability.Code.Token
import Capability.Text.Quoted
import Capability.Unicode.Identifier
import Capability.Unicode.Run

/-!
The single tokens of source code, read off its characters.

Each reader takes the characters ahead and gives what is left behind the token,
or nothing if no such token stands there.  Literals are recognised but not
evaluated; their text is kept.  A literal may end in a word, its suffix.
-/

namespace Capability
namespace Code
namespace Lexeme

open Unicode (isIdentifierStart isIdentifierContinue)

/-! ### Words -/

/-- The rest behind the characters that continue a word. -/
def wordRest (text : List Char) : List Char := text.dropWhile isIdentifierContinue

/-- The rest behind a word that is not raw. -/
def plainWord? : List Char → Option (List Char)
  | c :: rest => if isIdentifierStart c then some (wordRest rest) else none
  | [] => none

/-- Whether a text is one word that is not raw. -/
def isPlainWord (text : List Char) : Bool := (plainWord? text).any List.isEmpty

/-- The characters that a reader passed over. -/
def passed (text rest : List Char) : String := String.ofList (text.take (text.length - rest.length))

/-- Words that have no raw form. -/
def notRaw : List String := ["_", "super", "self", "Self", "crate"]

/-- The word ahead, which may be raw. -/
def anyWord? (text : List Char) : Option (Word × List Char) :=
  match text with
  | 'r' :: '#' :: inner => do
    let rest ← plainWord? inner
    let name := passed inner rest
    if notRaw.contains name then none else some (⟨name, true⟩, rest)
  | _ => do
    let rest ← plainWord? text
    some (⟨passed text rest, false⟩, rest)

/-- Beginnings of literals, which are not read as words. -/
def literalBeginnings : List String :=
  ["r\"", "r#\"", "r##", "b\"", "b'", "br\"", "br#", "c\"", "cr\"", "cr#"]

/-- The word ahead, if it does not begin a literal. -/
def word? (text : List Char) : Option (Word × List Char) :=
  if literalBeginnings.any fun beginning => beginning.toList.isPrefixOf text then none
  else anyWord? text

/-- The rest behind the suffix of a literal. -/
def suffixRest (text : List Char) : List Char := (plainWord? text).getD text

/-! ### Escapes -/

/-- Whether a character is a hexadecimal digit. -/
def isHex (c : Char) : Bool :=
  c.isDigit || ('a' ≤ c && c ≤ 'f') || ('A' ≤ c && c ≤ 'F')

/-- The value of a hexadecimal digit. -/
def hexValue (c : Char) : Nat :=
  if c.isDigit then c.toNat - 48 else if c.toNat < 97 then c.toNat - 55 else c.toNat - 87

/-- The kinds of quoted literals, which differ in what they may contain. -/
inductive Quoting where
  | text
  | bytes
  /-- Text that holds no null. -/
  | terminated
deriving DecidableEq

/-- The rest behind the two digits of an escape. -/
def byteEscape? (quoting : Quoting) : List Char → Option (List Char)
  | high :: low :: rest =>
    if !isHex high || !isHex low then none
    else
      match quoting with
      | .text => if '0' ≤ high && high ≤ '7' then some rest else none
      | .bytes => some rest
      | .terminated => if high = '0' && low = '0' then none else some rest
  | _ => none

/-- The value and the rest behind the digits of an escape by code point. -/
def codeDigits? : (value count : Nat) → List Char → Option (Nat × List Char)
  | _, _, [] => none
  | value, count, c :: rest =>
    if isHex c then
      if count = 6 then none else codeDigits? (value * 16 + hexValue c) (count + 1) rest
    else if c = '_' && 0 < count then codeDigits? value count rest
    else if c = '\x7d' && 0 < count then some (value, rest)
    else none

/-- Whether a number is the code point of a character. -/
def isScalar (code : Nat) : Bool := code < 0xD800 || (0xDFFF < code && code < 0x110000)

/-- The code point and the rest behind an escape by code point. -/
def codeEscape? : List Char → Option (Nat × List Char)
  | '\x7b' :: text => do
    let (code, rest) ← codeDigits? 0 0 text
    if isScalar code then some (code, rest) else none
  | _ => none

/-- Whether a letter behind a backslash stands for a character in a quoted literal. -/
def isShortEscape (quoting : Quoting) (c : Char) : Bool :=
  c == 'n' || c == 'r' || c == 't' || c == '\\' || c == '\'' || c == '"'
    || (c == '0' && quoting != .terminated)

/-! ### Quoted literals -/

/-- The rest behind the blanks that a backslash at the end of a line swallows. -/
def continuation? (pending : Bool) : List Char → Option (List Char)
  | [] => none
  | c :: rest =>
    if pending then if c = '\n' then continuation? false rest else none
    else if c = ' ' || c = '\t' || c = '\n' then continuation? false rest
    else if c = '\r' then continuation? true rest
    else some (c :: rest)

/-- Whether a character may stand in a quoted literal as it is. -/
def isPlain (quoting : Quoting) (c : Char) : Bool :=
  match quoting with
  | .text => true
  | .bytes => c.toNat < 0x80
  | .terminated => c.toNat != 0

/-- The rest behind a quoted literal whose opening mark has been read, and its suffix. -/
def quotedRest? (quoting : Quoting) : (fuel : Nat) → List Char → Option (List Char)
  | 0, _ => none
  | _, [] => none
  | fuel + 1, c :: rest =>
    if c = '"' then some (suffixRest rest)
    else if c = '\r' then
      match rest with
      | '\n' :: rest => quotedRest? quoting fuel rest
      | _ => none
    else if c = '\\' then
      match rest with
      | 'x' :: rest => do quotedRest? quoting fuel (← byteEscape? quoting rest)
      | 'u' :: rest =>
        if quoting = .bytes then none
        else do
          let (code, rest) ← codeEscape? rest
          if code = 0 && quoting = .terminated then none else quotedRest? quoting fuel rest
      | '\n' :: rest => do quotedRest? quoting fuel (← continuation? false rest)
      | '\r' :: rest => do quotedRest? quoting fuel (← continuation? true rest)
      | escaped :: rest =>
        if isShortEscape quoting escaped then quotedRest? quoting fuel rest else none
      | [] => none
    else if isPlain quoting c then quotedRest? quoting fuel rest
    else none

/-- The number of hash marks before a quotation mark, and the rest behind it. -/
def hashes? : (count : Nat) → List Char → Option (Nat × List Char)
  | count, '"' :: rest => if 255 < count then none else some (count, rest)
  | count, '#' :: rest => hashes? (count + 1) rest
  | _, _ => none

/-- The rest behind a literal without escapes that ends in so many hash marks, and its suffix. -/
def rawRest? (quoting : Quoting) (count : Nat) : List Char → Option (List Char)
  | [] => none
  | c :: rest =>
    if c = '"' && (List.replicate count '#').isPrefixOf rest then
      some (suffixRest (rest.drop count))
    else if c = '\r' then
      match rest with
      | '\n' :: rest => rawRest? quoting count rest
      | _ => none
    else if isPlain quoting c then rawRest? quoting count rest
    else none

/-- The rest behind a literal without escapes whose first letters have been read. -/
def rawQuoted? (quoting : Quoting) (text : List Char) : Option (List Char) := do
  let (count, rest) ← hashes? 0 text
  rawRest? quoting count rest

/-- The rest behind a quoted literal of any kind. -/
def quoted? (text : List Char) : Option (List Char) :=
  match text with
  | '"' :: rest => quotedRest? .text (rest.length + 1) rest
  | 'r' :: rest => rawQuoted? .text rest
  | 'b' :: '"' :: rest => quotedRest? .bytes (rest.length + 1) rest
  | 'b' :: 'r' :: rest => rawQuoted? .bytes rest
  | 'c' :: '"' :: rest => quotedRest? .terminated (rest.length + 1) rest
  | 'c' :: 'r' :: rest => rawQuoted? .terminated rest
  | _ => none

/-! ### Characters and bytes -/

/-- The rest behind the content of a character literal. -/
def characterContent? : List Char → Option (List Char)
  | '\\' :: 'x' :: rest => byteEscape? .text rest
  | '\\' :: 'u' :: rest => (codeEscape? rest).map (·.2)
  | '\\' :: c :: rest => if isShortEscape .text c then some rest else none
  | ['\\'] => none
  | _ :: rest => some rest
  | [] => none

/-- The rest behind the content of a byte literal. -/
def byteContent? : List Char → Option (List Char)
  | '\\' :: 'x' :: rest => byteEscape? .bytes rest
  | '\\' :: c :: rest => if isShortEscape .bytes c then some rest else none
  | ['\\'] => none
  | c :: rest => if c.toNat < 0x80 then some rest else none
  | [] => none

/-- The rest behind a closing quotation mark and a suffix. -/
def closingQuote? : List Char → Option (List Char)
  | '\'' :: rest => some (suffixRest rest)
  | _ => none

/-- The rest behind a character or byte literal. -/
def character? : List Char → Option (List Char)
  | '\'' :: rest => do closingQuote? (← characterContent? rest)
  | 'b' :: '\'' :: rest => do closingQuote? (← byteContent? rest)
  | _ => none

/-! ### Numbers -/

/-- Refuses a number that runs into a word. -/
def wordBreak? (rest : List Char) : Option (List Char) :=
  if rest.head?.any isIdentifierContinue then none else some rest

/-- The rest behind the suffix of a number, which must end there. -/
def numberEnd? (rest : List Char) : Option (List Char) :=
  if rest.head?.any isIdentifierStart then (plainWord? rest).bind wordBreak? else wordBreak? rest

/-- Whether a character goes on with a decimal number. -/
def isDecimal (c : Char) : Bool := c.isDigit || c == '_'

/-- What stands behind the mark of an exponent. -/
inductive Exponent where
  /-- Digits, and the rest behind them. -/
  | digits (rest : List Char)
  /-- No digits, so that the mark belongs to a suffix. -/
  | missing

/-- Read an exponent behind its mark. -/
def exponent (signed valued : Bool) : List Char → Exponent
  | [] => if valued then .digits [] else .missing
  | c :: rest =>
    if c = '+' || c = '-' then
      if valued then .digits (c :: rest) else if signed then .missing else exponent true valued rest
    else if c.isDigit then exponent signed true rest
    else if c = '_' then exponent signed valued rest
    else if valued then .digits (c :: rest) else .missing

/-- The rest behind the digits of a number with a fraction or an exponent. -/
def floatRest? (dotted : Bool) : List Char → Option (List Char)
  | [] => if dotted then some [] else none
  | c :: rest =>
    if isDecimal c then floatRest? dotted rest
    else if c = '.' && !dotted then
      if rest.head?.any fun next => next == '.' || isIdentifierStart next then none
      else floatRest? true rest
    else if c = 'e' || c = 'E' then
      match exponent false false rest with
      | .digits rest => some rest
      | .missing => if dotted then some (c :: rest) else none
    else if dotted then some (c :: rest)
    else none

/-- The rest behind a number with a fraction or an exponent. -/
def float? : List Char → Option (List Char)
  | c :: rest => if c.isDigit then (floatRest? false rest).bind numberEnd? else none
  | [] => none

/-- The rest behind the digits of a number of the given base. -/
def digitsRest? (base : Nat) (isEmpty : Bool) : List Char → Option (List Char)
  | [] => if isEmpty then none else some []
  | c :: rest =>
    if c = '_' then
      if isEmpty && base = 10 then none else digitsRest? base isEmpty rest
    else if c.isDigit then
      if hexValue c < base then digitsRest? base false rest else none
    else if isHex c && hexValue c < base then digitsRest? base false rest
    else if isEmpty then none else some (c :: rest)

/-- The rest behind an integer. -/
def integer? (text : List Char) : Option (List Char) :=
  let digits :=
    match text with
    | '0' :: 'x' :: rest => digitsRest? 16 true rest
    | '0' :: 'o' :: rest => digitsRest? 8 true rest
    | '0' :: 'b' :: rest => digitsRest? 2 true rest
    | _ => digitsRest? 10 true text
  digits.bind numberEnd?

/-- The rest behind a literal of any kind. -/
def literal? (text : List Char) : Option (List Char) :=
  quoted? text <|> character? text <|> float? text <|> integer? text

/-! ### Marks -/

/-- The marks of source code. -/
def markCharacters : List Char := "~!@#$%^&*-=+|;:,<.>/?'".toList

/-- Whether a comment begins here. -/
def beginsComment : List Char → Bool
  | '/' :: '/' :: _ => true
  | '/' :: '*' :: _ => true
  | _ => false

/-- Whether a mark stands here. -/
def beginsMark (text : List Char) : Bool :=
  !beginsComment text && text.head?.any markCharacters.contains

/-- The mark ahead.  An apostrophe must open the name of a lifetime. -/
def mark? (text : List Char) : Option (TokenTree × List Char) :=
  match text with
  | [] => none
  | c :: rest =>
    if !beginsMark text then none
    else if c = '\'' then
      match anyWord? rest with
      | none => none
      | some (_, behind) =>
        let closes := behind.head? == some '\''
        let hashed := behind.head? == some '#' && !"r#".toList.isPrefixOf rest
        if closes || hashed then none else some (.mark c true, rest)
    else some (.mark c (beginsMark rest), rest)

/-- A literal that stands for source code that could not be read. -/
def errorLiteral : String := "(/*ERROR*/)"

/-- The token ahead that is no bracket. -/
def leaf? (text : List Char) : Option (TokenTree × List Char) :=
  match literal? text with
  | some rest => some (.literal (passed text rest), rest)
  | none =>
    match mark? text with
    | some found => some found
    | none =>
      match word? text with
      | some (name, rest) => some (.word name, rest)
      | none =>
        if errorLiteral.toList.isPrefixOf text then
          some (.literal errorLiteral, text.drop errorLiteral.length)
        else none

end Lexeme
end Code
end Capability

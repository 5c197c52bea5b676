import Capability.Json.Reader.Text
import Capability.Json.Reader.Number

/-!
Skipping values that nobody asked for.

A skipped value must be well formed, but it is not looked at closely: its
numbers may be of any size, and the halves of a character need no partner.
Skipping keeps the brackets that are open in a list, so that its depth has no
bound but the text.
-/

namespace Capability
namespace Json
namespace Reader

/-- Skip the rest of a string; surrogates need no partner. -/
def skipString : (fuel : Nat) → Reader Unit
  | 0 => here .endInString
  | fuel + 1 => do
    match ← peek? with
    | none => here .endInString
    | some '"' => advance
    | some '\\' => do
      advance
      match ← peek? with
      | none => here .endInString
      | some 'u' => do
        advance
        let _ ← hexEscape
        skipString fuel
      | some c =>
        if (shortEscape? c).isSome then do
          advance
          skipString fuel
        else within 1 .invalidEscape
    | some c =>
      if c.toNat < 0x20 then here .controlCharacter
      else do
        advance
        skipString fuel

/-- Skip an exponent whose mark is next. -/
def skipExponent : Reader Unit := do
  advance
  let _ ← exponentSign
  match ← peek? with
  | none => here .invalidNumber
  | some c =>
    if c.isDigit then do
      let _ ← skipDigits
      pure ()
    else within 1 .invalidNumber

def skipExponentOrEnd : Reader Unit := do
  match ← peek? with
  | some 'e' | some 'E' => skipExponent
  | _ => pure ()

/-- Skip a number whose sign has been read. -/
def skipUnsigned : Reader Unit := do
  match ← peek? with
  | none => here .invalidNumber
  | some '0' => do
    advance
    match ← peek? with
    | some c => if c.isDigit then ahead .invalidNumber else pure ()
    | none => pure ()
  | some c =>
    if c.isDigit then do
      let _ ← skipDigits
      pure ()
    else within 1 .invalidNumber
  match ← peek? with
  | some '.' => do
    advance
    match ← skipDigits with
    | 0 => ahead .invalidNumber
    | _ + 1 => skipExponentOrEnd
  | _ => skipExponentOrEnd

/-- A bracket that has been opened and not yet closed. -/
inductive Bracket where
  | list
  | object
deriving DecidableEq

/-- The end of the text within a bracket. -/
def Bracket.ended : Bracket → Cause
  | list => .endInList
  | object => .endInObject

/-- Something else than a separator within a bracket. -/
def Bracket.separatorExpected : Bracket → Cause
  | list => .listSeparatorExpected
  | object => .objectSeparatorExpected

/-- The character that closes a bracket. -/
def Bracket.closing : Bracket → Char
  | list => ']'
  | object => '\x7d'

/-- Skip the name of a member and its colon. -/
def skipName : Reader Unit := do
  match ← peekToken? with
  | some '"' => advance; skipString ((← remaining) + 1)
  | some _ => ahead .keyNotString
  | none => ahead .endInObject
  match ← peekToken? with
  | some ':' => advance
  | some _ => ahead .colonExpected
  | none => ahead .endInObject

/-- What is left to skip. -/
inductive Skipping where
  /-- A value comes next. -/
  | value
  /-- A value has just ended, or a bracket has been opened and holds none yet (`fresh`). -/
  | separator (fresh : Bool)

/-- Skip a value, given the brackets that are open around it, innermost first. -/
def skipWithin : (fuel : Nat) → Skipping → List Bracket → Reader Unit
  | 0, _, _ => ahead .valueExpected
  | fuel + 1, .value, brackets => do
    match ← peekToken? with
    | none => ahead .endInValue
    | some 'n' => knownWord "null"; skipWithin fuel (.separator false) brackets
    | some 't' => knownWord "true"; skipWithin fuel (.separator false) brackets
    | some 'f' => knownWord "false"; skipWithin fuel (.separator false) brackets
    | some '-' => advance; skipUnsigned; skipWithin fuel (.separator false) brackets
    | some '"' => do
      advance
      skipString ((← remaining) + 1)
      skipWithin fuel (.separator false) brackets
    | some '[' => advance; skipWithin fuel (.separator true) (.list :: brackets)
    | some '\x7b' => advance; skipWithin fuel (.separator true) (.object :: brackets)
    | some c =>
      if c.isDigit then do
        skipUnsigned
        skipWithin fuel (.separator false) brackets
      else ahead .valueExpected
  | _ + 1, .separator _, [] => pure ()
  | fuel + 1, .separator fresh, bracket :: brackets => do
    match ← peekToken? with
    | none => ahead bracket.ended
    | some c =>
      if c = bracket.closing then do
        advance
        skipWithin fuel (.separator false) brackets
      else if c = ',' && !fresh then do
        advance
        if bracket = .object then skipName
        skipWithin fuel .value (bracket :: brackets)
      else if fresh then do
        if bracket = .object then skipName
        skipWithin fuel .value (bracket :: brackets)
      else ahead bracket.separatorExpected

/-- Skip a value of any kind and depth. -/
def skipValue : Reader Unit := do
  skipWithin (2 * (← remaining) + 2) .value []

end Reader
end Json
end Capability

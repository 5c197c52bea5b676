/-!
Reading bytes as text.

A byte sequence that is not well formed is read with losses.  Reading follows
the grammar of well-formed sequences byte by byte.  Wherever the bytes stop
following it, the longest start of a well-formed sequence read so far is given
up and one replacement character stands for it; a byte that can start nothing is
given up alone.  Reading goes on at the byte that broke the sequence.
-/

namespace Capability
namespace Text

/-- The character that stands for bytes that could not be read. -/
def replacement : Char := Char.ofNat 0xFFFD

/-- What has been read of a sequence of several bytes. -/
structure Pending where
  /-- The bits read so far. -/
  value : Nat
  /-- How many bytes are still to come; at least one. -/
  missing : Nat
  /-- Least value of the next byte. -/
  low : UInt8
  /-- Greatest value of the next byte. -/
  high : UInt8

/-- What a byte does at the start of a sequence. -/
inductive Lead where
  | character (c : Char)
  | opens (pending : Pending)
  | invalid

/--
The role of a byte at the start of a sequence.  The bounds on the second byte
exclude overlong forms, surrogates and values beyond the last code point.
-/
def Lead.of (byte : UInt8) : Lead :=
  if byte < 0x80 then .character (Char.ofNat byte.toNat)
  else if byte < 0xC2 then .invalid
  else if byte < 0xE0 then .opens ⟨byte.toNat - 0xC0, 1, 0x80, 0xBF⟩
  else if byte = 0xE0 then .opens ⟨0, 2, 0xA0, 0xBF⟩
  else if byte = 0xED then .opens ⟨0xD, 2, 0x80, 0x9F⟩
  else if byte < 0xF0 then .opens ⟨byte.toNat - 0xE0, 2, 0x80, 0xBF⟩
  else if byte = 0xF0 then .opens ⟨0, 3, 0x90, 0xBF⟩
  else if byte < 0xF4 then .opens ⟨byte.toNat - 0xF0, 3, 0x80, 0xBF⟩
  else if byte = 0xF4 then .opens ⟨4, 3, 0x80, 0x8F⟩
  else .invalid

/-- Whether a byte may come next in a sequence. -/
def Pending.accepts (pending : Pending) (byte : UInt8) : Bool :=
  pending.low ≤ byte && byte ≤ pending.high

/-- The bits of a sequence after one more byte. -/
def Pending.extend (pending : Pending) (byte : UInt8) : Nat :=
  pending.value * 64 + (byte.toNat - 0x80)

/-- Read the rest of the bytes, given what is pending of a sequence. -/
def decodeFrom : Option Pending → List UInt8 → List Char
  | none, [] => []
  | some _, [] => [replacement]
  | none, byte :: rest =>
    match Lead.of byte with
    | .character c => c :: decodeFrom none rest
    | .opens pending => decodeFrom (some pending) rest
    | .invalid => replacement :: decodeFrom none rest
  | some pending, byte :: rest =>
    if pending.accepts byte then
      if pending.missing ≤ 1 then Char.ofNat (pending.extend byte) :: decodeFrom none rest
      else decodeFrom (some ⟨pending.extend byte, pending.missing - 1, 0x80, 0xBF⟩) rest
    else
      replacement :: match Lead.of byte with
        | .character c => c :: decodeFrom none rest
        | .opens next => decodeFrom (some next) rest
        | .invalid => replacement :: decodeFrom none rest

/-- The characters read from a byte sequence. -/
def decode (bytes : List UInt8) : List Char := decodeFrom none bytes

/-- The well-formed byte sequence of a text. -/
def encode (chars : List Char) : List UInt8 := chars.flatMap String.utf8EncodeChar

/-- The text of a byte sequence, with losses where it is not well formed. -/
def lossy (bytes : List UInt8) : String := String.ofList (decode bytes)

end Text
end Capability

/-!
The digest behind the hash operation.

A value is absorbed part by part into one 64-bit word: a part that fits a word
is added and the sum multiplied by an odd constant.  A run of bytes is first
folded to one word by the halves of wide products, so that a long run costs one
product for every sixteen bytes.  All arithmetic wraps at 64 bits.  The digest
is deterministic and holds no secret; it is no protection against collisions.
-/

namespace Capability

/-- The running state of a digest. -/
structure Digest where
  state : UInt64
deriving DecidableEq, Repr

namespace Digest

/-- The state before anything is absorbed. -/
def start : Digest := ⟨0⟩

/-- The odd constant by which the state is multiplied after every part. -/
def multiplier : UInt64 := 0xf1357aea2e62a9c5

/-- Absorb one word. -/
def word (digest : Digest) (part : UInt64) : Digest :=
  ⟨(digest.state + part) * multiplier⟩

/-- The low half of a product of 128 bits, combined with its high half. -/
def fold (left right : UInt64) : UInt64 :=
  let product := left.toNat * right.toNat
  UInt64.ofNat (product % Nat.pow 2 64) ^^^ UInt64.ofNat (product / Nat.pow 2 64)

/-- The little-endian number that bytes spell. -/
def littleEndian : List UInt8 → UInt64
  | [] => 0
  | byte :: rest => byte.toUInt64 ||| (littleEndian rest <<< 8)

/-- The eight bytes from a place on, as a word. -/
def word64 (bytes : List UInt8) (place : Nat) : UInt64 :=
  littleEndian ((bytes.drop place).take 8)

/-- The four bytes from a place on, as a word. -/
def word32 (bytes : List UInt8) (place : Nat) : UInt64 :=
  littleEndian ((bytes.drop place).take 4)

/-- The byte at a place, as a word. -/
def word8 (bytes : List UInt8) (place : Nat) : UInt64 :=
  littleEndian ((bytes.drop place).take 1)

/-- The two words that a run of bytes starts from. -/
def seeds : UInt64 × UInt64 := (0x243f6a8885a308d3, 0x13198a2e03707344)

/-- The word that keeps a run of zeros from having no effect. -/
def guardWord : UInt64 := 0xa4093822299f31d0

/-- Fold blocks of sixteen bytes, as many as asked for. -/
def blocks : Nat → List UInt8 → UInt64 × UInt64 → UInt64 × UInt64
  | 0, _, words => words
  | count + 1, bytes, (first, second) =>
    let next := fold (first ^^^ word64 bytes 0) (guardWord ^^^ word64 bytes 8)
    blocks count (bytes.drop 16) (second, next)

/-- Fold the whole run, overlapping where its length is not a multiple of the words read. -/
def foldRun (bytes : List UInt8) : UInt64 × UInt64 :=
  let length := bytes.length
  let (first, second) := seeds
  if length = 0 then (first, second)
  else if length < 4 then
    (first ^^^ word8 bytes 0,
      second ^^^ ((word8 bytes (length - 1) <<< 8) ||| word8 bytes (length / 2)))
  else if length < 8 then (first ^^^ word32 bytes 0, second ^^^ word32 bytes (length - 4))
  else if length ≤ 16 then (first ^^^ word64 bytes 0, second ^^^ word64 bytes (length - 8))
  else
    let (first, second) := blocks ((length - 1) / 16) bytes (first, second)
    (first ^^^ word64 bytes (length - 16), second ^^^ word64 bytes (length - 8))

/-- Absorb a run of bytes as one part. -/
def bytes (digest : Digest) (run : List UInt8) : Digest :=
  let (first, second) := foldRun run
  digest.word (fold first second ^^^ UInt64.ofNat run.length)

/-- Absorb a text: its bytes, then a byte that no text contains. -/
def text (digest : Digest) (content : String) : Digest :=
  (digest.bytes content.toUTF8.toList).word 0xff

/-- Absorb a natural number that fits a word. -/
def nat (digest : Digest) (value : Nat) : Digest :=
  digest.word (UInt64.ofNat value)

/-- Absorb an integer of the given number of bits, a negative one as its complement. -/
def int (width : Nat) (digest : Digest) (value : Int) : Digest :=
  digest.nat (value % Nat.pow 2 width).toNat

/-- Absorb the parts of a list after its length. -/
def list {α : Type} (absorb : Digest → α → Digest) (digest : Digest) (parts : List α) : Digest :=
  parts.foldl absorb (digest.nat parts.length)

/-- Absorb a list of bytes: its length, then the bytes as one run. -/
def byteList (digest : Digest) (content : List UInt8) : Digest :=
  (digest.nat content.length).bytes content

/-- The hash of what has been absorbed. -/
def finish (digest : Digest) : UInt64 :=
  (digest.state <<< 26) ||| (digest.state >>> 38)

end Digest
end Capability

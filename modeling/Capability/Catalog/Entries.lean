import Capability.Catalog.Behaviours
import Capability.Catalog.Form
import Capability.Manifest
import Capability.Text.Utf8

/-!
A catalog of registered types.

The catalog has a type for every way in which a type can come by an operation:
through the traits of a whole order, through those of single operators, through
both when they disagree, and not at all; with display text from each source; and
with values that are plain, owned, pinned or bound to one thread.  Every entry
says how values of the type are written and what can be done with them.
-/

namespace Capability
namespace Catalog

/-- A registered type. -/
structure Entry where
  name : String
  /-- The type as it was written at registration. -/
  sourceType : String
  Carrier : Type
  form : Form Carrier
  behaviour : Behaviour Carrier

/-- The manifest of a registered type. -/
def Entry.manifest (entry : Entry) : Manifest :=
  Manifest.of entry.name entry.sourceType entry.behaviour

/-- The table of a registered type. -/
def Entry.table (entry : Entry) : Table entry.Carrier := Table.of entry.behaviour

/-- A type registered under its own name. -/
def named {α : Type} (name : String) (form : Form α) (behaviour : Behaviour α) : Entry :=
  ⟨name, name, α, form, behaviour⟩

/-! ### Operators of every origin -/

/-- The relation that an ordering of integers gives. -/
def relation (holds : Ordering → Bool) : Option (Int → Int → Bool) :=
  some fun left right => holds (compareInts left right)

/-- Pairs of coordinates with every trait of plain data. -/
def point : Entry :=
  named "Point" (.pair (.signed 32) (.signed 32))
    { ordered (fun left right => (compareInts left.1 right.1).then (compareInts left.2 right.2))
        (copied (plain 8 4)) with
      default? := some (0, 0)
      hash? := some fun digest value => (digest.int 32 value.1).int 32 value.2
      debug? := some fun value =>
        dumpRecord "Point" [("x", toString value.1), ("y", toString value.2)] }

/-- Doubles, of which some are related to nothing. -/
def celsius : Entry :=
  named "Celsius" (.bits 8)
    { partiallyOrdered Floating.Format.double.compare? (copied (plain 8 8)) with
      debug? := some fun value => dumpTuple "Celsius" [dumpFloat .double value] }

/-- Single-precision values. -/
def angle : Entry :=
  ⟨"Angle", "geometry::Angle", Nat, .bits 4,
    { partiallyOrdered Floating.Format.single.compare? (copied (plain 4 4)) with
      debug? := some fun value => dumpTuple "Angle" [dumpFloat .single value] }⟩

/-- Single operators `<` and `==`. -/
def version : Entry :=
  named "Version" (.unsigned 32)
    { plain 4 4 with
      lessThan? := relation (· == .lt)
      equal? := relation (· == .eq) }

/-- An equality of its own and a single `<`. -/
def rank : Entry :=
  named "Rank" (.unsigned 8)
    { plain 1 1 with
      equality? := some .identity
      lessThan? := relation (· == .lt) }

/-- Operators that contradict each other. -/
def broken : Entry :=
  named "Broken" .only
    { plain 0 1 with
      lessThan? := some fun _ _ => true
      equal? := some fun _ _ => true }

/-- All single operators but one. -/
def loose : Entry :=
  named "Loose" (.unsigned 32)
    { plain 4 4 with
      lessThan? := relation (· == .lt)
      lessEqual? := relation Ordering.isLE
      greaterThan? := relation (· == .gt)
      greaterEqual? := relation Ordering.isGE
      equal? := relation (· == .eq) }

/-- A single `!=`. -/
def neOnly : Entry :=
  named "NeOnly" (.unsigned 32) { plain 4 4 with notEqual? := relation (· != .eq) }

/-- A single `<`. -/
def ltOnly : Entry :=
  named "LtOnly" (.unsigned 32) { plain 4 4 with lessThan? := relation (· == .lt) }

/-- A partial order, beside single operators that answer the opposite. -/
def both : Entry :=
  named "Both" (.signed 32)
    { partiallyOrdered (fun left right => some (compareInts left right)) (plain 4 4) with
      equal? := relation (· != .eq)
      notEqual? := relation (· == .eq)
      lessThan? := relation (· != .lt)
      lessEqual? := relation (· == .gt)
      greaterThan? := relation (· != .gt)
      greaterEqual? := relation (· == .lt) }

/-- An equality of its own, beside a single one that answers the opposite. -/
def halfStd : Entry :=
  named "HalfStd" (.signed 32)
    { plain 4 4 with
      equality? := some .identity
      equal? := relation (· != .eq)
      notEqual? := relation (· == .eq)
      lessThan? := relation (· == .lt)
      greaterEqual? := relation Ordering.isGE }

/-- A total order that runs against the partial one. -/
def rev : Entry :=
  named "Rev" (.signed 32)
    { plain 4 4 with
      equality? := some .identity
      equivalence := true
      partialOrder? := some (.ofOrder compareInts)
      order? := some fun left right => compareInts right left }

/-! ### Display text of every origin -/

/-- Owned values without an order. -/
def ownedText : Behaviour String := { plain 24 8 with needsDrop := true }

/-- Display text of its own, and a conversion that is not used. -/
def label : Entry :=
  named "Label" .text
    { ownedText with
      display? := some fun content => "label:" ++ content
      stringCast? := some id }

/-- A conversion into text. -/
def tag : Entry :=
  named "Tag" .text { ownedText with stringCast? := some id }

/-- A view of bytes. -/
def blob : Entry :=
  named "Blob" .bytes { plain 24 8 with needsDrop := true, stringView? := some id }

/-- A conversion into text, and a view of bytes that is not used. -/
def castView : Entry :=
  named "CastView" .bytes
    { plain 24 8 with
      needsDrop := true
      stringCast? := some fun content => "cast:" ++ toString content.length
      stringView? := some id }

/-- All three sources. -/
def allThree : Entry :=
  named "AllThree" .text
    { ownedText with
      display? := some fun content => "display:" ++ content
      stringCast? := some fun content => "cast:" ++ content
      stringView? := some fun content => Text.encode content.toList }

/-! ### Lives of every kind -/

/-- Values whose number is kept count of. -/
def tracked : Entry :=
  named "Tracked" (.unsigned 64)
    { owned (plain 8 8) with
      default? := some 0xDEADBEEF
      equality? := some .identity
      debug? := some fun value => dumpRecord "Tracked" [("value", toString value)] }

/-- Plain data without an equality. -/
def plainPair : Entry :=
  named "Plain" (.pair (.unsigned 32) (.unsigned 16))
    { copied (plain 8 4) with default? := some (0, 0) }

/-- Owned values that cannot be duplicated. -/
def moveOnly : Entry :=
  named "MoveOnly" (.unsigned 32) { plain 8 8 with needsDrop := true }

/-- Shared values that stay in their thread. -/
def opaqueValue : Entry :=
  named "Opaque" (.unsigned 8) { plain 8 8 with needsDrop := true, send := false, sync := false }

/-- A type with one value. -/
def matchUnit : Entry :=
  named "Match" .only { plain 0 1 with default? := some () }

/-- The names of the suits. -/
def suits : List String := ["Clubs", "Hearts", "Spades"]

/-- A choice of three. -/
def suit : Entry :=
  named "Suit" (.integer 0 2)
    { ordered compareInts (copied (plain 1 1)) with
      hash? := some (Digest.int 64)
      debug? := some fun value => suits[value.toNat]?.getD "" }

/-- Values that must not be moved. -/
def pinned : Entry :=
  named "Pinned" (.unsigned 8) { copied (plain 1 1) with unpin := false }

/-! ### Texts, lists and pairs -/

/-- Byte strings. -/
def bytes : Entry :=
  ⟨"Bytes", "Vec<u8>", List UInt8, .bytes,
    { byteStrings (owned (plain 24 8)) with default? := some [] }⟩

/-- Owned texts. -/
def texts : Behaviour String :=
  { ordered compareTexts (owned (plain 24 8)) with
    default? := some ""
    hash? := some Digest.text
    debug? := some Text.quote
    display? := some id
    stringCast? := some id
    stringView? := some fun content => Text.encode content.toList }

def text : Entry := ⟨"Text", "String", String, .text, texts⟩

/-- Lists of texts. -/
def names : Entry :=
  ⟨"Names", "Vec<String>", List String, .list .text,
    { ordered (compareLists compareTexts) (owned (plain 24 8)) with
      default? := some []
      hash? := some (Digest.list Digest.text)
      debug? := some fun content => dumpList (content.map Text.quote) }⟩

/-- Pairs of an integer and a text. -/
def pairI32String : Entry :=
  ⟨"PairI32String", "Pair<i32,String>", Int × String, .pair (.signed 32) .text,
    { owned (plain 32 8) with
      equality? := some .identity
      debug? := some fun value =>
        dumpRecord "Pair" [("first", toString value.1), ("second", Text.quote value.2)] }⟩

/-- A byte in a wrapper without traits. -/
def wrappedU8 : Entry :=
  ⟨"WrappedU8", "Wrapper<u8>", Int, .unsigned 8, plain 1 1⟩

/-- Pairs of integers. -/
def coords : Entry :=
  ⟨"Coords", "(i32,i32)", Int × Int, .pair (.signed 32) (.signed 32),
    { ordered (fun left right => (compareInts left.1 right.1).then (compareInts left.2 right.2))
        (copied (plain 8 4)) with
      default? := some (0, 0)
      hash? := some fun digest value => (digest.int 32 value.1).int 32 value.2
      debug? := some fun value => dumpTuple "" [toString value.1, toString value.2] }⟩

/-- Pairs of doubles. -/
def floatPair : Entry :=
  ⟨"FloatPair", "(f64,f64)", Nat × Nat, .pair (.bits 8) (.bits 8),
    { partiallyOrdered
        (comparePairs Floating.Format.double.compare? Floating.Format.double.compare?)
        (copied (plain 16 8)) with
      default? := some (0, 0)
      debug? := some fun value =>
        dumpTuple "" [dumpFloat .double value.1, dumpFloat .double value.2] }⟩

/-- Values of unknown type. -/
def anyBox : Entry :=
  ⟨"AnyBox", "Box<dyn std::any::Any>", Int, .signed 32,
    { plain 16 8 with
      needsDrop := true
      send := false
      sync := false
      debug? := some fun _ => "Any \x7b .. \x7d" }⟩

/-- Four bytes. -/
def quad : Entry :=
  ⟨"Quad", "[u8;4]", List UInt8, .bytesOf 4,
    { byteStrings (copied (plain 4 1)) with default? := some [0, 0, 0, 0] }⟩

/-- The empty tuple. -/
def unit : Entry :=
  ⟨"Unit", "()", Unit, .only,
    { ordered (fun _ _ => .eq) (copied (plain 0 1)) with
      default? := some ()
      hash? := some fun digest _ => digest
      debug? := some fun _ => "()" }⟩

/-- Integers that may be absent. -/
def optI32 : Entry :=
  ⟨"OptI32", "Option<i32>", Option Int, .optional (.signed 32),
    { ordered (compareOptions compareInts) (copied (plain 8 4)) with
      default? := some none
      hash? := some fun digest value =>
        match value with
        | none => digest.nat 0
        | some number => (digest.nat 1).int 32 number
      debug? := some fun value =>
        match value with
        | none => "None"
        | some number => dumpTuple "Some" [toString number] }⟩

/-- Integers that can be changed in place. -/
def cellU32 : Entry :=
  ⟨"CellU32", "Cell<u32>", Int, .unsigned 32,
    { ordered compareInts (plain 4 4) with
      clone? := some id
      sync := false
      default? := some 0
      debug? := some fun value => dumpRecord "Cell" [("value", toString value)] }⟩

/-! ### Single values -/

/-- Signed bytes. -/
def tiny : Entry := ⟨"Tiny", "i8", Int, .signed 8, integers 8 1⟩

/-- Integers of two bytes. -/
def short : Entry := ⟨"Short", "u16", Int, .unsigned 16, integers 16 2⟩

/-- Integers of eight bytes. -/
def word : Entry := ⟨"Word", "u64", Int, .unsigned 64, integers 64 8⟩

/-- Signed integers of eight bytes. -/
def long : Entry := ⟨"Long", "i64", Int, .signed 64, integers 64 8⟩

/-- The name of a truth value. -/
def truthName (truth : Bool) : String := if truth then "true" else "false"

/-- Truth values. -/
def flag : Entry :=
  ⟨"Flag", "bool", Bool, .boolean,
    { ordered (fun left right => compare left.toNat right.toNat) (copied (plain 1 1)) with
      default? := some false
      hash? := some fun digest truth => digest.nat truth.toNat
      debug? := some truthName
      display? := some truthName }⟩

/-- Characters. -/
def letter : Entry :=
  ⟨"Letter", "char", Char, .character,
    { ordered (fun left right => compare left.toNat right.toNat) (copied (plain 4 4)) with
      default? := some (Char.ofNat 0)
      hash? := some fun digest c => digest.nat c.toNat
      debug? := some Text.quoteChar
      display? := some String.singleton }⟩

/-- Texts with an equality but without an order. -/
def token : Entry :=
  named "Token" .text
    { owned (plain 24 8) with
      equality? := some .identity
      equivalence := true
      hash? := some Digest.text
      debug? := some fun content => dumpRecord "Token" [("text", Text.quote content)] }

/-- Bytes under a name that is a reserved word in snake case. -/
def ref : Entry :=
  named "Ref" (.unsigned 8) { plain 1 1 with clone? := some id, equality? := some .identity }

def entries : List Entry :=
  [point, celsius, angle, version, rank, broken, loose, neOnly, ltOnly, both, halfStd, rev, label,
    tag, blob, castView, allThree, tracked, plainPair, moveOnly, opaqueValue, matchUnit, suit,
    pinned, bytes, text, names, pairI32String, wrappedU8, coords, floatPair, anyBox, quad, unit,
    optI32, cellU32, tiny, short, word, long, flag, letter, token, ref]

/-- The entry registered under a name. -/
def entry? (name : String) : Option Entry :=
  entries.find? fun entry => entry.name == name

/-- The entry that a type in source text means: by its name, or as it was registered. -/
def entryOfSource? (text : String) : Option Entry :=
  entries.find? fun entry => entry.name == text || entry.sourceType == text

end Catalog
end Capability

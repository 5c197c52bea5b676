import Capability.Behaviour
import Capability.Floating.Notation
import Capability.Text.Quoted

/-!
Behaviours from which those of the catalog's types are put together.
-/

namespace Capability

/-! ### Equality and order -/

def Equality.identity {α : Type} [DecidableEq α] : Equality α where
  eq left right := decide (left = right)

/-- The equality under which values compare as equal. -/
def Equality.ofCompare {α : Type} (compare : α → α → Option Ordering) : Equality α where
  eq left right := compare left right == some .eq

/-- The partial order that a total order is. -/
def PartialOrder.ofOrder {α : Type} (order : α → α → Ordering) : PartialOrder α where
  compare left right := some (order left right)

namespace Catalog

/-- The order of lists by their first difference; a list comes after its beginnings. -/
def compareLists {α : Type} (order : α → α → Ordering) : List α → List α → Ordering
  | [], [] => .eq
  | [], _ :: _ => .lt
  | _ :: _, [] => .gt
  | left :: lefts, right :: rights => (order left right).then (compareLists order lefts rights)

/-- The order of pairs by their first parts and then by their second parts. -/
def comparePairs {α β : Type} (first : α → α → Option Ordering) (second : β → β → Option Ordering)
    (left right : α × β) : Option Ordering :=
  match first left.1 right.1 with
  | some .eq => second left.2 right.2
  | outcome => outcome

/-- The order of optional values; an absent value comes first. -/
def compareOptions {α : Type} (order : α → α → Ordering) : Option α → Option α → Ordering
  | none, none => .eq
  | none, some _ => .lt
  | some _, none => .gt
  | some left, some right => order left right

/-- The order of integers. -/
def compareInts (left right : Int) : Ordering := compare left right

def compareTexts (left right : String) : Ordering := compare left right

def compareBytes (left right : UInt8) : Ordering := compare left.toNat right.toNat

/-! ### Dumps -/

/-- A dump of a value with named parts. -/
def dumpRecord (name : String) (parts : List (String × String)) : String :=
  name ++ " \x7b " ++ ", ".intercalate (parts.map fun part => part.1 ++ ": " ++ part.2) ++ " \x7d"

/-- A dump of a value with parts in order. -/
def dumpTuple (name : String) (parts : List String) : String :=
  name ++ "(" ++ ", ".intercalate parts ++ ")"

def dumpList (items : List String) : String := "[" ++ ", ".intercalate items ++ "]"

/-! ### Kinds of values -/

/-- A type without any traits but those that every plain type has. -/
def plain {α : Type} (size align : UInt64) : Behaviour α where
  size := size
  align := align

/-- Values that can be copied bit by bit. -/
def copied {α : Type} (behaviour : Behaviour α) : Behaviour α :=
  { behaviour with clone? := some id, copy := true }

/-- Values that can be duplicated and whose end does work. -/
def owned {α : Type} (behaviour : Behaviour α) : Behaviour α :=
  { behaviour with clone? := some id, needsDrop := true }

/-- Values with an equality that is an equivalence and a total order. -/
def ordered {α : Type} (order : α → α → Ordering) (behaviour : Behaviour α) : Behaviour α :=
  { behaviour with
    equality? := some (.ofCompare fun left right => some (order left right))
    equivalence := true
    partialOrder? := some (.ofOrder order)
    order? := some order }

/-- Values with a partial order alone. -/
def partiallyOrdered {α : Type} (compare : α → α → Option Ordering) (behaviour : Behaviour α) :
    Behaviour α :=
  { behaviour with
    equality? := some (.ofCompare compare)
    partialOrder? := some { compare := compare } }

/-- Integers of so many bits. -/
def integers (width : Nat) (size : UInt64) : Behaviour Int :=
  { ordered compareInts (copied (plain size size)) with
    default? := some 0
    hash? := some (Digest.int width)
    debug? := some toString
    display? := some toString }

/-- Byte strings, given how their beginning is laid out. -/
def byteStrings (behaviour : Behaviour (List UInt8)) : Behaviour (List UInt8) :=
  { ordered (compareLists compareBytes) behaviour with
    hash? := some Digest.byteList
    debug? := some fun content => dumpList (content.map fun byte => toString byte.toNat)
    stringView? := some id }

/-- The dump of a floating-point value. -/
def dumpFloat (format : Floating.Format) (bits : Nat) : String :=
  Floating.Style.dump.text format bits

end Catalog
end Capability

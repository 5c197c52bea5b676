import Capability.Predicates
import Capability.Source

/-!
The table of operations of a type.

A table has one slot for each operation.  A slot that is empty means that the
type lacks the operation and that it must not be offered.  The table of a type
is filled by the first source of each operation that the type has, and can be
called through: a call answers nothing exactly if the slot is empty.
-/

namespace Capability

/-- The operations of a type, with the size and alignment of its values. -/
structure Table (α : Type) where
  size : UInt64
  align : UInt64
  slot : (operation : Operation) → Option (operation.Function α)

namespace Table

variable {α : Type}

/-- The table of a type with the given behaviour. -/
def of (behaviour : Behaviour α) : Table α where
  size := behaviour.size
  align := behaviour.align
  slot operation := (Selection.firstAvailable operation.sources).eval (Source.resolve behaviour)

/-- Whether the slot of an operation is filled. -/
def has (table : Table α) (operation : Operation) : Bool := (table.slot operation).isSome

/-- The operations whose slots are filled, in the order of the table. -/
def operations (table : Table α) : List Operation := Operation.all.filter table.has

/-- The table with the slots of all other operations emptied. -/
def restrict (table : Table α) (kept : List Operation) : Table α :=
  { table with slot := fun operation =>
      if kept.contains operation then table.slot operation else none }

/-! ### Calls -/

/-- Whether the operands are equal. -/
def equal? (table : Table α) (left right : α) : Option Bool :=
  (table.slot .eq).map fun relation => relation left right

/-- Whether the operands differ. -/
def notEqual? (table : Table α) (left right : α) : Option Bool :=
  (table.slot .ne).map fun relation => relation left right

/-- Whether the first operand is the smaller one. -/
def less? (table : Table α) (left right : α) : Option Bool :=
  (table.slot .lt).map fun relation => relation left right

/-- Whether the first operand is not the greater one. -/
def lessEqual? (table : Table α) (left right : α) : Option Bool :=
  (table.slot .le).map fun relation => relation left right

/-- Whether the first operand is the greater one. -/
def greater? (table : Table α) (left right : α) : Option Bool :=
  (table.slot .gt).map fun relation => relation left right

/-- Whether the first operand is not the smaller one. -/
def greaterEqual? (table : Table α) (left right : α) : Option Bool :=
  (table.slot .ge).map fun relation => relation left right

/-- The byte that the three-way comparison gives. -/
def threeWay? (table : Table α) (left right : α) : Option Int8 :=
  (table.slot .threeWay).map fun comparison => comparison left right

/-- The outcome that the byte of the three-way comparison stands for. -/
def compare? (table : Table α) (left right : α) : Option Comparison :=
  (table.threeWay? left right).map Comparison.ofByte

def hash? (table : Table α) (value : α) : Option UInt64 :=
  (table.slot .hash).map fun digest => digest value

/-- The text that a developer's dump shows for a value. -/
def debug? (table : Table α) (value : α) : Option String :=
  (table.slot .debug).map fun write => write value

/-- The text that is displayed for a value. -/
def display? (table : Table α) (value : α) : Option String :=
  (table.slot .display).map fun write => write value

/-! ### Dumps -/

/-- A developer's dump of the table on one line. -/
def dump (table : Table α) : String :=
  "BridgeVTable \x7b size: " ++ toString table.size.toNat
    ++ ", align: " ++ toString table.align.toNat
    ++ ", operations: [" ++ ", ".intercalate (table.operations.map Operation.label) ++ "] \x7d"

/-- A developer's dump of the table with a line for every entry. -/
def dumpLines (table : Table α) : String :=
  let entries := table.operations.map fun operation => "        " ++ operation.label ++ ",\n"
  let operations := if entries.isEmpty then "[]" else "[\n" ++ String.join entries ++ "    ]"
  "BridgeVTable \x7b\n    size: " ++ toString table.size.toNat
    ++ ",\n    align: " ++ toString table.align.toNat
    ++ ",\n    operations: " ++ operations ++ ",\n\x7d"

end Table
end Capability

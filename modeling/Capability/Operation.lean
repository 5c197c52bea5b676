/-!
The operations that can be offered on values of a type.

There are fourteen: four that make and end values, six relations, the three-way
comparison, hashing and two texts.  Their order here is the order in which a
table of operations lists them and in which a manifest names them.
-/

namespace Capability

/-- One operation on values of a type. -/
inductive Operation where
  | defaultNew
  | copyNew
  | moveNew
  | destruct
  | eq
  | ne
  | lt
  | le
  | gt
  | ge
  | threeWay
  | hash
  | debug
  | display
deriving DecidableEq, Repr

namespace Operation

/-- Every operation, in the order of the table. -/
def all : List Operation :=
  [defaultNew, copyNew, moveNew, destruct, eq, ne, lt, le, gt, ge, threeWay, hash, debug, display]

/-- The name by which a manifest and the table's source call the operation. -/
def name : Operation → String
  | defaultNew => "default_new"
  | copyNew => "copy_new"
  | moveNew => "move_new"
  | destruct => "destruct"
  | eq => "eq"
  | ne => "ne"
  | lt => "lt"
  | le => "le"
  | gt => "gt"
  | ge => "ge"
  | threeWay => "three_way"
  | hash => "hash"
  | debug => "debug"
  | display => "display"

/-- The name under which a developer's dump of a table shows the operation. -/
def label : Operation → String
  | defaultNew => "DefaultNew"
  | copyNew => "CopyNew"
  | moveNew => "MoveNew"
  | destruct => "Destruct"
  | eq => "Eq"
  | ne => "Ne"
  | lt => "Lt"
  | le => "Le"
  | gt => "Gt"
  | ge => "Ge"
  | threeWay => "ThreeWay"
  | hash => "Hash"
  | debug => "Debug"
  | display => "Display"

def ofName? (text : String) : Option Operation :=
  all.find? fun operation => operation.name == text

/-- The list of all operations leaves none out. -/
theorem mem_all (operation : Operation) : operation ∈ all := by
  cases operation <;> decide

/-- No operation is listed twice. -/
theorem all_nodup : all.Nodup := by
  decide

end Operation
end Capability

import Capability.Behaviour
import Capability.Comparison
import Capability.Operation
import Capability.Text.Utf8

/-!
Where the functions of an operation table come from.

Every operation has a list of sources, best first.  A source is present on a
type that implements the traits it is built from, and then yields a function of
the operation's own kind.  An operator comes from the type's own equality or
order if there is one, and otherwise from a trait of that operator alone; no
operator is derived from another.  The selection of the first source that is
present is itself data: a nested choice that can be evaluated, and that the
registration of a type writes out as source text.
-/

namespace Capability

/-- What a function that performs the operation takes and gives. -/
def Operation.Function (α : Type) : Operation → Type
  | defaultNew => Unit → α
  | copyNew => α → α
  | moveNew => α → α
  | destruct => α → Unit
  | eq | ne | lt | le | gt | ge => α → α → Bool
  | threeWay => α → α → Int8
  | hash => α → UInt64
  | debug | display => α → String

/-- A place where the function of an operation may come from. -/
inductive Source : Operation → Type where
  | default : Source .defaultNew
  | clone : Source .copyNew
  | move : Source .moveNew
  | drop : Source .destruct
  | ownEq : Source .eq
  | singleEq : Source .eq
  | ownNe : Source .ne
  | singleNe : Source .ne
  | ownLt : Source .lt
  | singleLt : Source .lt
  | ownLe : Source .le
  | singleLe : Source .le
  | ownGt : Source .gt
  | singleGt : Source .gt
  | ownGe : Source .ge
  | singleGe : Source .ge
  /-- The type's total order. -/
  | strong : Source .threeWay
  /-- The type's partial order. -/
  | partialOrder : Source .threeWay
  /-- `<` together with the type's own equality. -/
  | synthesizedOwn : Source .threeWay
  /-- `<` together with the single operator `==`. -/
  | synthesizedSingle : Source .threeWay
  | hash : Source .hash
  | debug : Source .debug
  | toString : Source .display
  | stringCast : Source .display
  | stringView : Source .display
deriving DecidableEq

/-- The sources of an operation, in the order of their priority. -/
def Operation.sources : (operation : Operation) → List (Source operation)
  | .defaultNew => [.default]
  | .copyNew => [.clone]
  | .moveNew => [.move]
  | .destruct => [.drop]
  | .eq => [.ownEq, .singleEq]
  | .ne => [.ownNe, .singleNe]
  | .lt => [.ownLt, .singleLt]
  | .le => [.ownLe, .singleLe]
  | .gt => [.ownGt, .singleGt]
  | .ge => [.ownGe, .singleGe]
  | .threeWay => [.strong, .partialOrder, .synthesizedOwn, .synthesizedSingle]
  | .hash => [.hash]
  | .debug => [.debug]
  | .display => [.toString, .stringCast, .stringView]

namespace Source

/-- The name of the constant that holds the source's function, if it is present. -/
def constant {operation : Operation} : Source operation → String
  | default => "DEFAULT_NEW"
  | clone => "COPY_NEW"
  | move => "MOVE_NEW"
  | drop => "DESTRUCT"
  | ownEq => "EQ_STD"
  | singleEq => "EQ_OP"
  | ownNe => "NE_STD"
  | singleNe => "NE_OP"
  | ownLt => "LT_STD"
  | singleLt => "LT_OP"
  | ownLe => "LE_STD"
  | singleLe => "LE_OP"
  | ownGt => "GT_STD"
  | singleGt => "GT_OP"
  | ownGe => "GE_STD"
  | singleGe => "GE_OP"
  | strong => "CMP_STRONG"
  | partialOrder => "CMP_PARTIAL"
  | synthesizedOwn => "CMP_SYNTH_STD"
  | synthesizedSingle => "CMP_SYNTH_OP"
  | hash => "HASH"
  | debug => "DEBUG"
  | toString => "DISPLAY_TO_STRING"
  | stringCast => "DISPLAY_STRING_CAST"
  | stringView => "DISPLAY_STRING_VIEW"

/-- The function of the source, if the type has the traits that the source is built from. -/
def resolve {α : Type} (behaviour : Behaviour α) {operation : Operation} :
    Source operation → Option (operation.Function α)
  | default => behaviour.default?.map fun value _ => value
  | clone => behaviour.clone?
  | move => some id
  | drop => some fun _ => ()
  | ownEq => behaviour.equality?.map (·.eq)
  | singleEq => behaviour.equal?
  | ownNe => behaviour.equality?.map (·.ne)
  | singleNe => behaviour.notEqual?
  | ownLt => behaviour.partialOrder?.map (·.lt)
  | singleLt => behaviour.lessThan?
  | ownLe => behaviour.partialOrder?.map (·.le)
  | singleLe => behaviour.lessEqual?
  | ownGt => behaviour.partialOrder?.map (·.gt)
  | singleGt => behaviour.greaterThan?
  | ownGe => behaviour.partialOrder?.map (·.ge)
  | singleGe => behaviour.greaterEqual?
  | strong => behaviour.order?.map fun order left right =>
    (Comparison.ofOrdering (order left right)).toByte
  | partialOrder => behaviour.partialOrder?.map fun order left right =>
    (Comparison.ofOrdering? (order.compare left right)).toByte
  | synthesizedOwn =>
    match behaviour.lessThan?, behaviour.equality? with
    | some lessThan, some equality => some fun left right =>
      (Comparison.synthesize (lessThan left right) (equality.eq left right)).toByte
    | _, _ => none
  | synthesizedSingle =>
    match behaviour.lessThan?, behaviour.equal? with
    | some lessThan, some equal => some fun left right =>
      (Comparison.synthesize (lessThan left right) (equal left right)).toByte
    | _, _ => none
  | hash => behaviour.hash?.map fun absorb value => (absorb .start value).finish
  | debug => behaviour.debug?
  | toString => behaviour.display?
  | stringCast => behaviour.stringCast?
  | stringView => behaviour.stringView?.map fun view value => Text.lossy (view value)

end Source

/-- A choice between sources: each is taken if it is present, and else the rest decides. -/
inductive Selection (σ : Type) where
  | nothing
  | source (chosen : σ)
  | orElse (first : σ) (rest : Selection σ)

namespace Selection

/-- The choice of the first source of a list that is present. -/
def firstAvailable {σ : Type} : List σ → Selection σ
  | [] => nothing
  | [last] => source last
  | first :: second :: rest => orElse first (firstAvailable (second :: rest))

/-- What the choice comes to, given what each source holds. -/
def eval {σ : Type} {β : Type} (holds : σ → Option β) : Selection σ → Option β
  | nothing => none
  | source chosen => holds chosen
  | orElse first rest =>
    match holds first with
    | some found => some found
    | none => rest.eval holds

end Selection
end Capability

import Capability.Proofs.Code.Mentions

/-!
# Types in place of names

Names that stand for types can be replaced by these types, all at once.  A name is replaced
where it is looked up among types: as the first name of a path that does not start from the
outermost scope.  What is written behind a replaced name has to go on behind the type.  Behind
a type that is a name itself this is always possible; other types are followed by the names of
their members, but not by arguments, and no type but a name stands where a trait is wanted.  In
these cases there is nothing that the names could be replaced by.

What becomes of expressions depends on what their names mean, which is not known of tokens.
It is only known that an expression stays as it is if none of its words is replaced.
-/

namespace Capability
namespace Code

/-- Names of types are replaced, but a mention stays as it is: its first name is none of them,
or it is replaced by itself. -/
def Leaves (replaced : Word → Option TypeExpr) (mention : Mention) : Prop :=
  mention.space = .types → replaced mention.head = none ∨
    replaced mention.head = some (.path (.ofWord mention.head))

/-- Types in place of names. -/
structure Substitution where
  /-- The type in place of a name. -/
  type : Word → Option TypeExpr
  /-- What becomes of tokens that are kept as they are written. -/
  kept : Tokens → Tokens
  kept_of_leaves : ∀ tokens, (∀ mention ∈ tokens.mentions, Leaves type mention) →
    kept tokens = tokens

/-- Types in place of names among types that keep nothing as it is written. -/
def Substitution.ofTypes (type : Word → Option TypeExpr) : Substitution :=
  ⟨type, id, fun _ _ => rfl⟩

/-- What is kept as a single token tree. -/
def Substitution.keptTree? (substitution : Substitution) (tree : TokenTree) : Option TokenTree :=
  match substitution.kept [tree] with
  | [other] => some other
  | _ => none

namespace Path

/-- The type in place of the first name of a path. -/
def head? (substitution : Substitution) : Path → Option TypeExpr
  | mk false (.mk name _ :: _) => substitution.type name
  | _ => none

/-- A path with a name in place of its first name, if the type is one. -/
def renamed? (path : Path) : TypeExpr → Option Path
  | .path (mk isGlobal [.mk name .none]) =>
    match path.segments with
    | .mk _ arguments :: rest => some (mk isGlobal (.mk name arguments :: rest))
    | [] => none
  | _ => none

/-- What is written by a path with a type in place of its first name. -/
def behind? (path : Path) (type : TypeExpr) : Option TypeExpr :=
  match path.segments with
  | [.mk _ .none] => some type
  | .mk _ arguments :: rest =>
    match path.renamed? type, arguments with
    | some renamed, _ => some (.path renamed)
    | none, .none => some (.qualified type none rest)
    | none, _ => none
  | [] => none

/-- A path as a type, with a type in place of its first name. -/
def asType? (substitution : Substitution) (path : Path) : Option TypeExpr :=
  match path.head? substitution with
  | none => some (.path path)
  | some type => path.behind? type

/-- A path as a trait, with a type in place of its first name. -/
def asTrait? (substitution : Substitution) (path : Path) : Option Path :=
  match path.head? substitution with
  | none => some path
  | some type => path.renamed? type

end Path

mutual

/-- A type with types in place of names. -/
def TypeExpr.substitute? (substitution : Substitution) : TypeExpr → Option TypeExpr
  | .path path => do (← path.substituteInside? substitution).asType? substitution
  | .qualified self traitPath rest =>
    return .qualified (← self.substitute? substitution)
      (← TypeExpr.substituteTrait? substitution traitPath)
      (← Segment.substituteAll? substitution rest)
  | .tuple elements trailing =>
    return .tuple (← TypeExpr.substituteAll? substitution elements) trailing
  | .paren inner => return .paren (← inner.substitute? substitution)
  | .array element length =>
    return .array (← element.substitute? substitution) (substitution.kept length)
  | .slice element => return .slice (← element.substitute? substitution)
  | .pointer isMutable target => return .pointer isMutable (← target.substitute? substitution)
  | .reference lifetime isMutable target =>
    return .reference lifetime isMutable (← target.substitute? substitution)
  | .function binder qualifiers parameters trailing variadic output =>
    return .function binder qualifiers (← Parameter.substituteAll? substitution parameters) trailing
      (substitution.kept variadic) (← TypeExpr.substituteResult? substitution output)
  | .traitObject isMarked bounds trailing =>
    return .traitObject isMarked (← Bound.substituteAll? substitution bounds) trailing
  | .implTrait bounds trailing =>
    return .implTrait (← Bound.substituteAll? substitution bounds) trailing
  | .macroCall path arguments => do
    return .macroCall (← path.substituteInside? substitution) (← substitution.keptTree? arguments)
  | .never => some .never
  | .inferred => some .inferred
  | .verbatim tokens => some (.verbatim (substitution.kept tokens))

def TypeExpr.substituteAll? (substitution : Substitution) :
    List TypeExpr → Option (List TypeExpr)
  | [] => some []
  | type :: rest =>
    return (← type.substitute? substitution) :: (← TypeExpr.substituteAll? substitution rest)

def TypeExpr.substituteResult? (substitution : Substitution) :
    Option TypeExpr → Option (Option TypeExpr)
  | none => some none
  | some type => return some (← type.substitute? substitution)

def TypeExpr.substituteTrait? (substitution : Substitution) : Option Path → Option (Option Path)
  | none => some none
  | some path => do
    return some (← (← path.substituteInside? substitution).asTrait? substitution)

/-- A path with types in place of names in its arguments. -/
def Path.substituteInside? (substitution : Substitution) : Path → Option Path
  | .mk isGlobal segments => return .mk isGlobal (← Segment.substituteAll? substitution segments)

def Segment.substitute? (substitution : Substitution) : Segment → Option Segment
  | .mk name arguments => return .mk name (← arguments.substitute? substitution)

def Segment.substituteAll? (substitution : Substitution) : List Segment → Option (List Segment)
  | [] => some []
  | segment :: rest =>
    return (← segment.substitute? substitution) :: (← Segment.substituteAll? substitution rest)

def Arguments.substitute? (substitution : Substitution) : Arguments → Option Arguments
  | .none => some .none
  | .angle turbofish arguments trailing =>
    return .angle turbofish (← Argument.substituteAll? substitution arguments) trailing
  | .parenthesized inputs trailing output =>
    return .parenthesized (← TypeExpr.substituteAll? substitution inputs) trailing
      (← TypeExpr.substituteResult? substitution output)

def Argument.substitute? (substitution : Substitution) : Argument → Option Argument
  | .lifetime name => some (.lifetime name)
  | .type value => return .type (← value.substitute? substitution)
  | .constant value => some (.constant (substitution.kept value))
  | .associatedType name generics value =>
    return .associatedType name (← generics.substitute? substitution)
      (← value.substitute? substitution)
  | .associatedConstant name generics value =>
    return .associatedConstant name (← generics.substitute? substitution) (substitution.kept value)
  | .constraint name generics bounds trailing =>
    return .constraint name (← generics.substitute? substitution)
      (← Bound.substituteAll? substitution bounds) trailing

def Argument.substituteAll? (substitution : Substitution) :
    List Argument → Option (List Argument)
  | [] => some []
  | argument :: rest =>
    return (← argument.substitute? substitution) :: (← Argument.substituteAll? substitution rest)

def Bound.substitute? (substitution : Substitution) : Bound → Option Bound
  | .lifetime name => some (.lifetime name)
  | .trait isParenthesized isRelaxed binder path => do
    return .trait isParenthesized isRelaxed binder
      (← (← path.substituteInside? substitution).asTrait? substitution)
  | .capture tokens => some (.capture (substitution.kept tokens))
  | .verbatim tokens => some (.verbatim (substitution.kept tokens))

def Bound.substituteAll? (substitution : Substitution) : List Bound → Option (List Bound)
  | [] => some []
  | bound :: rest =>
    return (← bound.substitute? substitution) :: (← Bound.substituteAll? substitution rest)

def Parameter.substitute? (substitution : Substitution) : Parameter → Option Parameter
  | .mk annotations name value =>
    return .mk (substitution.kept annotations) name (← value.substitute? substitution)
  | .verbatim annotations tokens =>
    some (.verbatim (substitution.kept annotations) (substitution.kept tokens))

def Parameter.substituteAll? (substitution : Substitution) :
    List Parameter → Option (List Parameter)
  | [] => some []
  | parameter :: rest =>
    return (← parameter.substitute? substitution) :: (← Parameter.substituteAll? substitution rest)

end


/-! ## What is left as it is -/

variable {substitution : Substitution}

theorem Substitution.keptTree?_of_leaves {tree : TokenTree}
    (leaves : ∀ mention ∈ Tokens.mentions [tree], Leaves substitution.type mention) :
    substitution.keptTree? tree = some tree := by
  rw [keptTree?, substitution.kept_of_leaves [tree] leaves]

/-- The first name of a path that stays as it is stands for no other type. -/
theorem Path.head?_of_leaves {path : Path}
    (leaves : ∀ mention ∈ path.mention .types, Leaves substitution.type mention) :
    path.head? substitution = none ∨ ∃ name arguments rest,
      path = .mk false (.mk name arguments :: rest) ∧
        path.head? substitution = some (.path (.ofWord name)) := by
  rcases path with ⟨isGlobal, segments⟩
  match isGlobal, segments with
  | true, _ => exact .inl rfl
  | false, [] => exact .inl rfl
  | false, [.mk name arguments] =>
      rcases leaves _ (List.mem_singleton_self _) rfl with free | same
      · exact .inl free
      · exact .inr ⟨name, arguments, [], rfl, same⟩
  | false, .mk name arguments :: .mk next others :: rest =>
      rcases leaves _ (List.mem_singleton_self _) rfl with free | same
      · exact .inl free
      · exact .inr ⟨name, arguments, _, rfl, same⟩

theorem Path.asTrait?_of_leaves {path : Path}
    (leaves : ∀ mention ∈ path.mention .types, Leaves substitution.type mention) :
    path.asTrait? substitution = some path := by
  rcases path.head?_of_leaves leaves with free | ⟨name, arguments, rest, rfl, same⟩
  · rw [asTrait?, free]
  · rw [asTrait?, same]
    rfl

theorem Path.asType?_of_leaves {path : Path}
    (leaves : ∀ mention ∈ path.mention .types, Leaves substitution.type mention) :
    path.asType? substitution = some (.path path) := by
  rcases path.head?_of_leaves leaves with free | ⟨name, arguments, rest, rfl, same⟩
  · rw [asType?, free]
  · rw [asType?, same]
    match arguments, rest with
    | .none, [] => rfl
    | .none, _ :: _ => rfl
    | .angle .., _ => rfl
    | .parenthesized .., _ => rfl

mutual

/-- A type of which no mention is replaced stays as it is. -/
theorem TypeExpr.substitute?_of_leaves (type : TypeExpr)
    (leaves : ∀ mention ∈ type.mentions, Leaves substitution.type mention) :
    type.substitute? substitution = some type := by
  match type with
  | .path path =>
      have parts := List.forall_mem_append.mp leaves
      rw [TypeExpr.substitute?, path.substituteInside?_of_leaves parts.2]
      exact path.asType?_of_leaves parts.1
  | .qualified self traitPath rest =>
      rw [TypeExpr.mentions, List.forall_mem_append, List.forall_mem_append] at leaves
      rw [TypeExpr.substitute?, self.substitute?_of_leaves leaves.1.1,
        TypeExpr.substituteTrait?_of_leaves traitPath leaves.1.2,
        Segment.substituteAll?_of_leaves rest leaves.2]
      rfl
  | .tuple elements trailing =>
      rw [TypeExpr.substitute?, TypeExpr.substituteAll?_of_leaves elements leaves]
      rfl
  | .paren inner | .slice inner | .pointer _ inner | .reference _ _ inner =>
      rw [TypeExpr.substitute?, inner.substitute?_of_leaves leaves]
      rfl
  | .array element length =>
      have parts := List.forall_mem_append.mp leaves
      rw [TypeExpr.substitute?, element.substitute?_of_leaves parts.1,
        substitution.kept_of_leaves length parts.2]
      rfl
  | .function _ _ parameters _ variadic output =>
      rw [TypeExpr.mentions, List.forall_mem_append, List.forall_mem_append] at leaves
      rw [TypeExpr.substitute?, Parameter.substituteAll?_of_leaves parameters leaves.1.1,
        substitution.kept_of_leaves variadic leaves.1.2,
        TypeExpr.substituteResult?_of_leaves output leaves.2]
      rfl
  | .traitObject _ bounds _ | .implTrait bounds _ =>
      rw [TypeExpr.substitute?, Bound.substituteAll?_of_leaves bounds leaves]
      rfl
  | .macroCall path arguments =>
      rw [TypeExpr.mentions, List.forall_mem_append, List.forall_mem_append] at leaves
      rw [TypeExpr.substitute?, path.substituteInside?_of_leaves leaves.1.2,
        Substitution.keptTree?_of_leaves leaves.2]
      rfl
  | .never => rfl
  | .inferred => rfl
  | .verbatim tokens => rw [TypeExpr.substitute?, substitution.kept_of_leaves tokens leaves]

theorem TypeExpr.substituteAll?_of_leaves (types : List TypeExpr)
    (leaves : ∀ mention ∈ TypeExpr.mentionsAll types, Leaves substitution.type mention) :
    TypeExpr.substituteAll? substitution types = some types := by
  match types with
  | [] => rfl
  | type :: rest =>
      have parts := List.forall_mem_append.mp leaves
      rw [TypeExpr.substituteAll?, type.substitute?_of_leaves parts.1,
        TypeExpr.substituteAll?_of_leaves rest parts.2]
      rfl

theorem TypeExpr.substituteResult?_of_leaves (result : Option TypeExpr)
    (leaves : ∀ mention ∈ TypeExpr.resultMentions result, Leaves substitution.type mention) :
    TypeExpr.substituteResult? substitution result = some result := by
  match result with
  | none => rfl
  | some type =>
      rw [TypeExpr.substituteResult?, type.substitute?_of_leaves leaves]
      rfl

theorem TypeExpr.substituteTrait?_of_leaves (traitPath : Option Path)
    (leaves : ∀ mention ∈ TypeExpr.traitMentions traitPath, Leaves substitution.type mention) :
    TypeExpr.substituteTrait? substitution traitPath = some traitPath := by
  match traitPath with
  | none => rfl
  | some path =>
      have parts := List.forall_mem_append.mp leaves
      have trait := path.asTrait?_of_leaves parts.1
      rw [TypeExpr.substituteTrait?, path.substituteInside?_of_leaves parts.2]
      simp only [bind, Option.bind_some, trait]
      rfl

theorem Path.substituteInside?_of_leaves (path : Path)
    (leaves : ∀ mention ∈ path.innerMentions, Leaves substitution.type mention) :
    path.substituteInside? substitution = some path := by
  match path with
  | .mk _ segments =>
      rw [Path.substituteInside?, Segment.substituteAll?_of_leaves segments leaves]
      rfl

theorem Segment.substitute?_of_leaves (segment : Segment)
    (leaves : ∀ mention ∈ segment.mentions, Leaves substitution.type mention) :
    segment.substitute? substitution = some segment := by
  match segment with
  | .mk _ arguments =>
      rw [Segment.substitute?, arguments.substitute?_of_leaves leaves]
      rfl

theorem Segment.substituteAll?_of_leaves (segments : List Segment)
    (leaves : ∀ mention ∈ Segment.mentionsAll segments, Leaves substitution.type mention) :
    Segment.substituteAll? substitution segments = some segments := by
  match segments with
  | [] => rfl
  | segment :: rest =>
      have parts := List.forall_mem_append.mp leaves
      rw [Segment.substituteAll?, segment.substitute?_of_leaves parts.1,
        Segment.substituteAll?_of_leaves rest parts.2]
      rfl

theorem Arguments.substitute?_of_leaves (arguments : Arguments)
    (leaves : ∀ mention ∈ arguments.mentions, Leaves substitution.type mention) :
    arguments.substitute? substitution = some arguments := by
  match arguments with
  | .none => rfl
  | .angle _ inner _ =>
      rw [Arguments.substitute?, Argument.substituteAll?_of_leaves inner leaves]
      rfl
  | .parenthesized inputs _ output =>
      have parts := List.forall_mem_append.mp leaves
      rw [Arguments.substitute?, TypeExpr.substituteAll?_of_leaves inputs parts.1,
        TypeExpr.substituteResult?_of_leaves output parts.2]
      rfl

theorem Argument.substitute?_of_leaves (argument : Argument)
    (leaves : ∀ mention ∈ argument.mentions, Leaves substitution.type mention) :
    argument.substitute? substitution = some argument := by
  match argument with
  | .lifetime _ => rfl
  | .type value =>
      have parts := List.forall_mem_append.mp leaves
      rw [Argument.substitute?, value.substitute?_of_leaves parts.1]
      rfl
  | .constant value => rw [Argument.substitute?, substitution.kept_of_leaves value leaves]
  | .associatedType _ generics value =>
      have parts := List.forall_mem_append.mp leaves
      rw [Argument.substitute?, generics.substitute?_of_leaves parts.1,
        value.substitute?_of_leaves parts.2]
      rfl
  | .associatedConstant _ generics value =>
      have parts := List.forall_mem_append.mp leaves
      rw [Argument.substitute?, generics.substitute?_of_leaves parts.1,
        substitution.kept_of_leaves value parts.2]
      rfl
  | .constraint _ generics bounds _ =>
      have parts := List.forall_mem_append.mp leaves
      rw [Argument.substitute?, generics.substitute?_of_leaves parts.1,
        Bound.substituteAll?_of_leaves bounds parts.2]
      rfl

theorem Argument.substituteAll?_of_leaves (arguments : List Argument)
    (leaves : ∀ mention ∈ Argument.mentionsAll arguments, Leaves substitution.type mention) :
    Argument.substituteAll? substitution arguments = some arguments := by
  match arguments with
  | [] => rfl
  | argument :: rest =>
      have parts := List.forall_mem_append.mp leaves
      rw [Argument.substituteAll?, argument.substitute?_of_leaves parts.1,
        Argument.substituteAll?_of_leaves rest parts.2]
      rfl

theorem Bound.substitute?_of_leaves (bound : Bound)
    (leaves : ∀ mention ∈ bound.mentions, Leaves substitution.type mention) :
    bound.substitute? substitution = some bound := by
  match bound with
  | .lifetime _ => rfl
  | .trait _ _ _ path =>
      have parts := List.forall_mem_append.mp leaves
      have trait := path.asTrait?_of_leaves parts.1
      rw [Bound.substitute?, path.substituteInside?_of_leaves parts.2]
      simp only [bind, Option.bind_some, trait]
      rfl
  | .capture tokens | .verbatim tokens =>
      rw [Bound.substitute?, substitution.kept_of_leaves tokens leaves]

theorem Bound.substituteAll?_of_leaves (bounds : List Bound)
    (leaves : ∀ mention ∈ Bound.mentionsAll bounds, Leaves substitution.type mention) :
    Bound.substituteAll? substitution bounds = some bounds := by
  match bounds with
  | [] => rfl
  | bound :: rest =>
      have parts := List.forall_mem_append.mp leaves
      rw [Bound.substituteAll?, bound.substitute?_of_leaves parts.1,
        Bound.substituteAll?_of_leaves rest parts.2]
      rfl

theorem Parameter.substitute?_of_leaves (parameter : Parameter)
    (leaves : ∀ mention ∈ parameter.mentions, Leaves substitution.type mention) :
    parameter.substitute? substitution = some parameter := by
  match parameter with
  | .mk annotations _ value =>
      have parts := List.forall_mem_append.mp leaves
      rw [Parameter.substitute?, substitution.kept_of_leaves annotations parts.1,
        value.substitute?_of_leaves parts.2]
      rfl
  | .verbatim annotations tokens =>
      have parts := List.forall_mem_append.mp leaves
      rw [Parameter.substitute?, substitution.kept_of_leaves annotations parts.1,
        substitution.kept_of_leaves tokens parts.2]

theorem Parameter.substituteAll?_of_leaves (parameters : List Parameter)
    (leaves : ∀ mention ∈ Parameter.mentionsAll parameters, Leaves substitution.type mention) :
    Parameter.substituteAll? substitution parameters = some parameters := by
  match parameters with
  | [] => rfl
  | parameter :: rest =>
      have parts := List.forall_mem_append.mp leaves
      rw [Parameter.substituteAll?, parameter.substitute?_of_leaves parts.1,
        Parameter.substituteAll?_of_leaves rest parts.2]
      rfl

end

end Code
end Capability

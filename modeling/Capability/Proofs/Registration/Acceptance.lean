import Capability.Proofs.Registration.Plan

/-!
# Which declarations are registered

The parentheses around a declared type are dropped.  What is left decides: a type that owns
its value is a path, a tuple or an array; the arguments in angle brackets behind the last name
of a path must be types, and few; and without an alias only a path that lends its last name
as it stands can be named.

Each of these demands can be missed apart from the others, and several can be at once.  The
demands have a fixed order, so that a declaration is refused for the first that it misses.
-/

namespace Capability
namespace Code

namespace TypeExpr

/-- A type in so many pairs of parentheses. -/
def enclosed (type : TypeExpr) : (depth : Nat) → TypeExpr
  | 0 => type
  | depth + 1 => .paren (type.enclosed depth)

/-- The types that own their values: paths that do not begin in a type, tuples and arrays. -/
inductive Owns : TypeExpr → Prop where
  | path {path : Path} : Owns (.path path)
  | tuple {elements : List TypeExpr} {trailing : Bool} : Owns (.tuple elements trailing)
  | array {element : TypeExpr} {length : Tokens} : Owns (.array element length)

/-- A type is a path whose last name has these arguments in angle brackets. -/
inductive Applies : TypeExpr → List Argument → Prop where
  | intro {path : Path} {name : Word} {turbofish trailing : Bool} {arguments : List Argument} :
      path.last? = some (.mk name (.angle turbofish arguments trailing)) →
      Applies (.path path) arguments

/-- A type is a path that ends in a name without angle brackets. -/
inductive EndsIn : TypeExpr → Word → Prop where
  | intro {path : Path} {name : Word} {arguments : Arguments} :
      path.last? = some (.mk name arguments) →
      (∀ turbofish inner trailing, arguments ≠ .angle turbofish inner trailing) →
      EndsIn (.path path) name

theorem Applies.unique {type : TypeExpr} {first second : List Argument}
    (left : type.Applies first) (right : type.Applies second) : first = second := by
  cases left with
  | intro last =>
      cases right with
      | intro other =>
          rw [last] at other
          cases other
          rfl

theorem Applies.not_endsIn {type : TypeExpr} {arguments : List Argument} {name : Word}
    (applies : type.Applies arguments) : ¬type.EndsIn name := by
  intro ends
  cases applies with
  | intro last =>
      cases ends with
      | intro other plain =>
          rw [last] at other
          cases other
          exact plain _ _ _ rfl

end TypeExpr
end Code

namespace Registration

open Code

/-! ## Parentheses -/

theorem exists_enclosed_bare (type : TypeExpr) : ∃ depth, type = (bare type).enclosed depth := by
  fun_induction bare type with
  | case1 inner inductionHypothesis =>
      rcases inductionHypothesis with ⟨depth, same⟩
      exact ⟨depth + 1, congrArg TypeExpr.paren same⟩
  | case2 type => exact ⟨0, rfl⟩

theorem bare_ne_paren (type inner : TypeExpr) : bare type ≠ .paren inner := by
  fun_induction bare type with
  | case1 _ inductionHypothesis => exact inductionHypothesis
  | case2 type other => exact other inner

/-! ## The constructor of a type -/

theorem mapM_error {arguments : List Argument} {problem : PlanError}
    (refused : arguments.mapM typeArgument = .error problem) :
    problem = .notTypeArgument ∧ ∃ argument ∈ arguments, ∀ type, argument ≠ .type type := by
  induction arguments with
  | nil => cases refused
  | cons argument rest inductionHypothesis =>
      rw [List.mapM_cons] at refused
      cases argument with
      | type type =>
          cases others : rest.mapM typeArgument with
          | ok types =>
              rw [others] at refused
              cases refused
          | error met =>
              rw [others] at refused
              cases refused
              rcases inductionHypothesis others with ⟨same, other, listed, noType⟩
              exact ⟨same, other, List.mem_cons_of_mem _ listed, noType⟩
      | lifetime | constant | associatedType | associatedConstant | constraint =>
          cases refused
          exact ⟨rfl, _, List.mem_cons_self, nofun⟩

/-- What can become of a type where its constructor is looked for. -/
inductive Splits : TypeExpr → Except PlanError (Option Constructor) → Prop where
  | notOwned {type : TypeExpr} : ¬type.Owns → Splits type (.error .notOwned)
  | whole {type : TypeExpr} : type.Owns → (∀ arguments, ¬type.Applies arguments) →
      Splits type (.ok none)
  | notTypeArgument {type : TypeExpr} {arguments : List Argument} {argument : Argument} :
      type.Owns → type.Applies arguments → argument ∈ arguments →
      (∀ value, argument ≠ .type value) → Splits type (.error .notTypeArgument)
  | tooMany {type : TypeExpr} {types : List TypeExpr} :
      type.Owns → type.Applies (types.map .type) → 2 < types.length →
      Splits type (.error (.tooManyArguments types.length))
  | applied {path : Path} {types : List TypeExpr} :
      TypeExpr.Applies (.path path) (types.map .type) → types.length ≤ 2 →
      Splits (.path path) (.ok (some ⟨path, types⟩))

theorem splits_path (path : Path) : Splits (.path path) (split path) := by
  rw [split]
  split
  · next name turbofish arguments trailing last =>
      have applies : TypeExpr.Applies (.path path) arguments := .intro last
      cases taken : arguments.mapM typeArgument with
      | error problem =>
          rcases mapM_error taken with ⟨rfl, argument, listed, noType⟩
          exact .notTypeArgument .path applies listed noType
      | ok types =>
          rw [typeArguments_of_mapM taken] at applies
          by_cases few : types.length ≤ maximumArguments
          · simp only [bind, Except.bind, if_pos few, pure, Except.pure]
            exact .applied applies few
          · simp only [bind, Except.bind, if_neg few]
            exact .tooMany .path applies (Nat.lt_of_not_le few)
  · next noAngle =>
      refine .whole .path ?_
      intro arguments applies
      cases applies with
      | intro last => exact noAngle _ _ _ _ last

theorem splits_constructorOf (type : TypeExpr) : Splits type (constructorOf type) := by
  cases type with
  | path path => exact splits_path path
  | tuple => exact .whole .tuple nofun
  | array => exact .whole .array nofun
  | qualified | paren | slice | pointer | reference | function | traitObject | implTrait
  | macroCall | never | inferred | verbatim => exact .notOwned nofun

namespace Splits

variable {type : TypeExpr} {result : Option Constructor}

/-- A constructor is found exactly if there are angle brackets, and then it has the arguments that
stand in them. -/
theorem eq_some_iff (splits : Splits type (.ok result)) (constructor : Constructor) :
    result = some constructor ↔
      type = .path constructor.base ∧ type.Applies (constructor.arguments.map .type) := by
  cases splits with
  | whole _ plain =>
      constructor
      · exact nofun
      · rintro ⟨_, applies⟩
        exact absurd applies (plain _)
  | @applied path types applies _ =>
      constructor
      · rintro ⟨⟩
        exact ⟨rfl, applies⟩
      · rintro ⟨same, others⟩
        rcases constructor with ⟨base, arguments⟩
        cases same
        have equal : types = arguments :=
          (List.map_inj_right fun _ _ => Argument.type.inj).mp (applies.unique others)
        rw [equal]

theorem eq_none_iff (splits : Splits type (.ok result)) :
    result = none ↔ ∀ arguments, ¬type.Applies arguments := by
  cases splits with
  | whole _ plain => exact ⟨fun _ => plain, fun _ => rfl⟩
  | applied applies _ =>
      constructor
      · exact nofun
      · intro plain
        exact absurd applies (plain _)

end Splits

/-! ## What is demanded -/

/-- The types that can be registered, by an alias or without one.  A path that is read has a
name; one without any would take an alias like a tuple. -/
inductive Registrable (given : Option Word) : TypeExpr → Prop where
  | tuple {elements : List TypeExpr} {trailing : Bool} : given.isSome = true →
      Registrable given (.tuple elements trailing)
  | array {element : TypeExpr} {length : Tokens} : given.isSome = true →
      Registrable given (.array element length)
  | plain {type : TypeExpr} {name : Word} : type.EndsIn name → Registrable given type
  | applied {type : TypeExpr} {types : List TypeExpr} : type.Applies (types.map .type) →
      types.length ≤ 2 → given.isSome = true → Registrable given type
  | nameless {path : Path} : path.segments = [] → given.isSome = true →
      Registrable given (.path path)

/-- What a plan records of a type that is registered. -/
structure Plan.Records (plan : Plan) (given : Option Word) (type : TypeExpr) : Prop where
  type_eq : plan.type = type
  isAlias_eq : plan.isAlias = given.isSome
  name_of_alias : ∀ name, given = some name → plan.name = name
  name_of_type : given = none → type.EndsIn plan.name
  constructor_none : plan.constructor = none ↔ ∀ arguments, ¬type.Applies arguments
  constructor_some : ∀ constructor, plan.constructor = some constructor ↔
    type = .path constructor.base ∧ type.Applies (constructor.arguments.map .type)

namespace PlanError

/-- That a type misses what is demanded, as the error says. -/
def Concerns (given : Option Word) (type : TypeExpr) : PlanError → Prop
  | notOwned => ¬type.Owns
  | notTypeArgument => ∃ arguments, type.Applies arguments ∧
      ∃ argument ∈ arguments, ∀ value, argument ≠ .type value
  | tooManyArguments count => ∃ arguments, type.Applies arguments ∧
      arguments.length = count ∧ 2 < count
  | needsAlias => given = none ∧ ∀ name, ¬type.EndsIn name

/-- The place of an error among the demands. -/
def rank : PlanError → Nat
  | notOwned => 0
  | notTypeArgument => 1
  | tooManyArguments _ => 2
  | needsAlias => 3

/-- That an error concerns a type, and none with an earlier place does. -/
def IsFirst (given : Option Word) (type : TypeExpr) (problem : PlanError) : Prop :=
  problem.Concerns given type ∧
    ∀ earlier : PlanError, earlier.rank < problem.rank → ¬earlier.Concerns given type

variable {given : Option Word} {type : TypeExpr}

/-- Of the errors with one place at most one concerns a type. -/
theorem Concerns.eq_of_rank {first second : PlanError} (left : first.Concerns given type)
    (right : second.Concerns given type) (same : first.rank = second.rank) : first = second := by
  cases first <;> cases second <;> cases same <;> try rfl
  rcases left with ⟨arguments, applies, rfl, _⟩
  rcases right with ⟨others, alsoApplies, rfl, _⟩
  rw [applies.unique alsoApplies]

theorem IsFirst.unique {first second : PlanError} (left : first.IsFirst given type)
    (right : second.IsFirst given type) : first = second := by
  rcases lt_trichotomy first.rank second.rank with before | same | behind
  · exact absurd left.1 (right.2 first before)
  · exact left.1.eq_of_rank right.1 same
  · exact absurd right.1 (left.2 second behind)

end PlanError

namespace Registrable

variable {given : Option Word} {type : TypeExpr}

theorem owns (registrable : Registrable given type) : type.Owns := by
  cases registrable with
  | tuple => exact .tuple
  | array => exact .array
  | plain ends =>
      cases ends
      exact .path
  | applied applies =>
      cases applies
      exact .path
  | nameless => exact .path

/-- What stands in the angle brackets of a registrable type are types, and few. -/
theorem types_of_applies (registrable : Registrable given type) {arguments : List Argument}
    (applies : type.Applies arguments) :
    arguments.length ≤ 2 ∧ ∀ argument ∈ arguments, ∃ value, argument = .type value := by
  cases registrable with
  | tuple | array => cases applies
  | plain ends => exact absurd ends applies.not_endsIn
  | applied others few =>
      rw [applies.unique others, List.length_map]
      refine ⟨few, fun argument listed => ?_⟩
      rcases List.mem_map.mp listed with ⟨value, _, same⟩
      exact ⟨value, same.symm⟩
  | nameless empty =>
      cases applies with
      | intro last =>
          rw [Path.last?, empty] at last
          cases last

theorem exists_endsIn (registrable : Registrable given type) (unnamed : given = none) :
    ∃ name, type.EndsIn name := by
  subst unnamed
  cases registrable with
  | plain ends => exact ⟨_, ends⟩
  | tuple named | array named | applied _ _ named | nameless _ named => cases named

theorem not_concerns (registrable : Registrable given type) (problem : PlanError) :
    ¬problem.Concerns given type := by
  intro concerns
  cases problem with
  | notOwned => exact concerns registrable.owns
  | notTypeArgument =>
      rcases concerns with ⟨arguments, applies, argument, listed, noType⟩
      rcases (registrable.types_of_applies applies).2 argument listed with ⟨value, same⟩
      exact noType value same
  | tooManyArguments count =>
      rcases concerns with ⟨arguments, applies, rfl, many⟩
      exact Nat.not_le_of_lt many (registrable.types_of_applies applies).1
  | needsAlias =>
      rcases registrable.exists_endsIn concerns.1 with ⟨name, ends⟩
      exact concerns.2 name ends

end Registrable

/-! ## What becomes of a declaration -/

namespace Splits

variable {type : TypeExpr} {result : Option Constructor}

/-- Where no constructor can be looked for, the error is the first that concerns the type. -/
theorem isFirst {problem : PlanError} (splits : Splits type (.error problem))
    (given : Option Word) : problem.IsFirst given type := by
  cases splits with
  | notOwned borrowed => exact ⟨borrowed, fun _ before => absurd before (Nat.not_lt_zero _)⟩
  | notTypeArgument owns applies listed noType =>
      refine ⟨⟨_, applies, _, listed, noType⟩, ?_⟩
      intro earlier before concerns
      cases earlier with
      | notOwned => exact concerns owns
      | notTypeArgument | tooManyArguments | needsAlias =>
          simp only [PlanError.rank] at before
          omega
  | @tooMany _ types owns applies many =>
      refine ⟨⟨_, applies, List.length_map _, many⟩, ?_⟩
      intro earlier before concerns
      cases earlier with
      | notOwned => exact concerns owns
      | notTypeArgument =>
          rcases concerns with ⟨others, alsoApplies, argument, listed, noType⟩
          rw [alsoApplies.unique applies] at listed
          rcases List.mem_map.mp listed with ⟨value, _, same⟩
          exact noType value same.symm
      | tooManyArguments | needsAlias =>
          simp only [PlanError.rank] at before
          omega

theorem registrable (splits : Splits type (.ok result)) {given : Option Word}
    (named : given.isSome = true) : Registrable given type := by
  cases splits with
  | applied applies few => exact .applied applies few named
  | whole owns plain =>
      cases owns with
      | tuple => exact .tuple named
      | array => exact .array named
      | @path path =>
          cases last : path.last? with
          | none => exact .nameless (List.getLast?_eq_none_iff.mp last) named
          | some segment =>
              rcases segment with ⟨name, arguments⟩
              refine .plain (.intro last ?_)
              rintro turbofish inner trailing rfl
              exact plain inner (.intro last)

/-- Without a constructor a type ends in the name that it lends. -/
theorem endsIn_iff (splits : Splits type (.ok result)) (name : Word) :
    type.EndsIn name ↔ result = none ∧ ownName? type = some name := by
  rw [splits.eq_none_iff]
  constructor
  · intro ends
    refine ⟨fun _ applies => applies.not_endsIn ends, ?_⟩
    cases ends with
    | intro last => exact congrArg (Option.map Segment.name) last
  · rintro ⟨plain, lent⟩
    cases type with
    | path path =>
        rcases Option.map_eq_some_iff.mp lent with ⟨⟨own, arguments⟩, last, rfl⟩
        refine .intro last ?_
        rintro turbofish inner trailing rfl
        exact plain inner (.intro last)
    | qualified | tuple | paren | array | slice | pointer | reference | function | traitObject
    | implTrait | macroCall | never | inferred | verbatim => cases lent

end Splits

/-- Without an alias and without a name of its own, a type misses nothing but an alias. -/
theorem Splits.isFirst_needsAlias {type : TypeExpr} {result : Option Constructor}
    (splits : Splits type (.ok result)) (unnamed : ∀ name, ¬type.EndsIn name) :
    PlanError.needsAlias.IsFirst none type := by
  refine ⟨⟨rfl, unnamed⟩, ?_⟩
  intro earlier before
  -- Under some alias the type could be registered, and the other errors do not look at the alias.
  have registrable : Registrable (some (.plain "A")) type := splits.registrable rfl
  cases earlier with
  | notOwned => exact registrable.not_concerns .notOwned
  | notTypeArgument => exact registrable.not_concerns .notTypeArgument
  | tooManyArguments count => exact registrable.not_concerns (.tooManyArguments count)
  | needsAlias => exact absurd before (Nat.lt_irrefl _)

/-- A declaration is refused for the first error that concerns its type without parentheses, or
this type is registrable and the plan records it. -/
theorem Declaration.plan_cases (declaration : Declaration) :
    (∃ problem, declaration.plan = .error problem ∧
      problem.IsFirst declaration.givenName (bare declaration.type)) ∨
    ∃ plan, declaration.plan = .ok plan ∧
      Registrable declaration.givenName (bare declaration.type) ∧
      plan.Records declaration.givenName (bare declaration.type) := by
  rcases declaration with ⟨given, type⟩
  have splits := splits_constructorOf (bare type)
  simp only [Declaration.plan]
  generalize bare type = core at splits ⊢
  generalize constructorOf core = outcome at splits ⊢
  cases outcome with
  | error problem => exact .inl ⟨problem, rfl, splits.isFirst given⟩
  | ok constructor =>
      cases given with
      | some name =>
          refine .inr ⟨⟨name, core, true, constructor⟩, rfl, splits.registrable rfl, ?_⟩
          refine ⟨rfl, rfl, fun _ => Option.some.inj, fun unnamed => ?_, splits.eq_none_iff,
            splits.eq_some_iff⟩
          cases unnamed
      | none =>
          by_cases named : ∃ name, core.EndsIn name
          · rcases named with ⟨name, ends⟩
            rcases (splits.endsIn_iff name).mp ends with ⟨rfl, lent⟩
            refine .inr ⟨⟨name, core, false, none⟩, ?_, .plain ends, ?_⟩
            · simp only [bind, Except.bind, lent]
              rfl
            · refine ⟨rfl, rfl, fun other given => ?_, fun _ => ends, splits.eq_none_iff,
                splits.eq_some_iff⟩
              cases given
          · have unnamed : ∀ name, ¬core.EndsIn name := fun name ends => named ⟨name, ends⟩
            refine .inl ⟨.needsAlias, ?_, splits.isFirst_needsAlias unnamed⟩
            simp only [bind, Except.bind]
            split
            · next name lent =>
                exact absurd ((splits.endsIn_iff name).mpr ⟨rfl, lent⟩) (unnamed name)
            · rfl

/-- Which declarations are registered, and what is refused of the others.  The type that counts is
the declared one without the parentheses around it, however many there are.

It is registered exactly if it is a tuple or an array with an alias, or a path that ends in a name
without angle brackets, or a path with at most two arguments in angle brackets, all of them types,
and an alias.  The plan then holds this type, the alias or else the last name of the path, whether
there is an alias, and a constructor exactly if there are angle brackets, with their arguments.

Otherwise the declaration is refused for what the type misses first: to own its values, to have
types as arguments, to have at most two of them, and to have an alias. -/
theorem plan_accepts_exactly_registrable (declaration : Declaration) :
    (∃ depth, declaration.type = (bare declaration.type).enclosed depth) ∧
    (∀ inner, bare declaration.type ≠ .paren inner) ∧
    ((∃ plan, declaration.plan = .ok plan) ↔
      Registrable declaration.givenName (bare declaration.type)) ∧
    (∀ plan, declaration.plan = .ok plan →
      plan.Records declaration.givenName (bare declaration.type)) ∧
    ∀ problem, declaration.plan = .error problem ↔
      problem.IsFirst declaration.givenName (bare declaration.type) := by
  refine ⟨exists_enclosed_bare _, bare_ne_paren _, ?_⟩
  rcases declaration.plan_cases with ⟨met, refused, isFirst⟩ | ⟨plan, planned, registrable, records⟩
  · rw [refused]
    refine ⟨⟨?_, fun registrable => absurd isFirst.1 (registrable.not_concerns met)⟩, nofun, ?_⟩
    · rintro ⟨plan, planned⟩
      cases planned
    · intro problem
      constructor
      · rintro ⟨⟩
        exact isFirst
      · intro first
        rw [isFirst.unique first]
  · rw [planned]
    refine ⟨⟨fun _ => registrable, fun _ => ⟨plan, rfl⟩⟩, ?_, ?_⟩
    · rintro other ⟨⟩
      exact records
    · intro problem
      constructor
      · exact nofun
      · intro first
        exact absurd first.1 (registrable.not_concerns problem)

end Registration
end Capability

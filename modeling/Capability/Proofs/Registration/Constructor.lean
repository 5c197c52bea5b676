import Capability.Proofs.Code.Substitution
import Capability.Proofs.Keyed
import Capability.Proofs.Registration.Acceptance
import Capability.Proofs.Registration.Scope
import Mathlib.Data.List.Forall2

/-!
# Constructors applied to their arguments

The constructor of a registered path has parameters in place of the last arguments.  Applied
to these arguments it is to be the registered path again: the arguments take the places of the
parameters, all at once.

The parameters have fixed names, and whatever is called so in the path of the constructor stands
for a parameter there.  So the path comes back if nothing that the constructor mentions has the
name of a parameter, or if it is replaced by itself.  It cannot come back if this is missed by the
name that the constructor's path begins with.
-/

namespace Capability
namespace Code

variable {substitution : Substitution}

theorem Segment.substituteAll?_append (front behind : List Segment) :
    Segment.substituteAll? substitution (front ++ behind) = do
      return (← Segment.substituteAll? substitution front)
        ++ (← Segment.substituteAll? substitution behind) := by
  induction front with
  | nil => simp [substituteAll?]
  | cons segment front inductionHypothesis =>
      rw [List.cons_append, substituteAll?, substituteAll?, inductionHypothesis]
      cases segment.substitute? substitution <;>
        cases substituteAll? substitution front <;>
          cases substituteAll? substitution behind <;> rfl

theorem Path.withArguments_eq {path : Path} {name : Word} {arguments : Arguments}
    (last : path.last? = some (.mk name arguments)) (others : Arguments) :
    path.withArguments others =
      .mk path.isGlobal (path.segments.dropLast ++ [.mk name others]) := by
  rw [last?] at last
  rw [withArguments, last]

theorem Segment.names_of_substituteAll? {segments others : List Segment}
    (replaced : Segment.substituteAll? substitution segments = some others) :
    others.map Segment.name = segments.map Segment.name := by
  induction segments generalizing others with
  | nil =>
      cases replaced
      rfl
  | cons segment rest inductionHypothesis =>
      rcases segment with ⟨name, arguments⟩
      simp only [substituteAll?, substitute?, Option.bind_eq_bind, Option.bind_eq_some_iff]
        at replaced
      rcases replaced with ⟨first, ⟨inner, _, isFirst⟩, further, isFurther, isAll⟩
      cases isFirst
      cases isAll
      exact congrArg (name :: ·) (inductionHypothesis isFurther)

theorem Path.mention_global (space : Space) (segments : List Segment) :
    (Path.mk true segments).mention space = [] := by
  match segments with
  | [] => rfl
  | [_] => rfl
  | _ :: _ :: _ => rfl

theorem Path.mention_relative (name : Word) (arguments : Arguments) (rest : List Segment) :
    (Path.mk false (.mk name arguments :: rest)).mention .types =
      [⟨.types, name, rest.map Segment.name⟩] := by
  cases rest <;> rfl

/-- A type that takes the place of a name, so that a path of names results, is a name without
arguments. -/
theorem Path.name_of_behind? {name : Word} {arguments : Arguments} {rest : List Segment}
    {target : Path} {type : TypeExpr}
    (behind : (Path.mk false (.mk name arguments :: rest)).behind? type = some (.path target))
    (notAlone : .mk name arguments :: rest ≠ [.mk name .none]) :
    ∃ isGlobal other, type = .path (.mk isGlobal [.mk other .none]) ∧
      target = .mk isGlobal (.mk other arguments :: rest) := by
  rw [behind?] at behind
  split at behind
  · next alone =>
      cases alone
      exact absurd rfl notAlone
  · next longer =>
      cases longer
      cases isRenamed : (Path.mk false (.mk name arguments :: rest)).renamed? type with
      | none =>
          rw [isRenamed] at behind
          cases arguments <;> cases behind
      | some renamed =>
          rw [isRenamed] at behind
          cases behind
          unfold renamed? at isRenamed
          split at isRenamed
          · next isGlobal other =>
              cases isRenamed
              exact ⟨isGlobal, other, rfl, rfl⟩
          · cases isRenamed
  · next none => cases none

/-- Where a path comes back with its names, its first name stayed as it is, unless the path is
this name alone. -/
theorem Path.leaves_of_asType? {path target : Path}
    (result : path.asType? substitution = some (.path target))
    (sameStart : path.isGlobal = target.isGlobal)
    (sameNames : path.segments.map Segment.name = target.segments.map Segment.name)
    (notAlone : ∀ name, path.segments ≠ [.mk name .none]) :
    ∀ mention ∈ path.mention .types, Leaves substitution.type mention := by
  rcases path with ⟨isGlobal, segments⟩
  match isGlobal, segments with
  | true, segments =>
      rw [mention_global]
      exact nofun
  | false, [] => exact nofun
  | false, .mk name arguments :: rest =>
      rw [mention_relative, List.forall_mem_singleton]
      intro _
      cases stands : substitution.type name with
      | none => exact .inl rfl
      | some type =>
          have head : (Path.mk false (.mk name arguments :: rest)).head? substitution = some type :=
            stands
          rw [asType?, head] at result
          rcases name_of_behind? result (notAlone name) with ⟨isGlobal, other, rfl, rfl⟩
          cases sameStart
          cases (List.cons.inj sameNames).1
          exact .inr rfl

/-- Names as arguments become the types that they stand for. -/
theorem Argument.substituteAll?_names {names : List Word} {types : List TypeExpr}
    (each : List.Forall₂ (fun name type => substitution.type name = some type) names types) :
    Argument.substituteAll? substitution (names.map fun name => .type (.path (.ofWord name))) =
      some (types.map .type) := by
  induction each with
  | nil => rfl
  | @cons name type names types stands _ inductionHypothesis =>
      have first : (TypeExpr.path (.ofWord name)).substitute? substitution = some type := by
        have head : (Path.ofWord name).head? substitution = some type := stands
        have alone : (Path.ofWord name).asType? substitution = some type := by
          rw [Path.asType?, head]
          rfl
        exact alone
      have argument : (Argument.type (.path (.ofWord name))).substitute? substitution =
          some (.type type) := by
        rw [Argument.substitute?, first]
        rfl
      rw [List.map_cons, substituteAll?, argument, inductionHypothesis]
      rfl

end Code

namespace Registration

open Code

namespace Constructor

/-! ## Parameters and arguments -/

/-- The argument that a word stands for where it is the name of a parameter. -/
def binding (constructor : Constructor) (word : Word) : Option TypeExpr :=
  ((constructor.parameters.zip constructor.arguments).find? fun pair =>
    pair.1.text == word.text).map Prod.snd

variable (constructor : Constructor)

theorem length_parameters : constructor.parameters.length = constructor.arguments.length := by
  rw [parameters, List.length_map, List.length_range]

theorem nodup_parameters :
    ((constructor.parameters.zip constructor.arguments).map fun pair => pair.1.text).Nodup := by
  have first : (constructor.parameters.zip constructor.arguments).map Prod.fst =
      constructor.parameters :=
    List.map_fst_zip (Nat.le_of_eq constructor.length_parameters)
  have texts : ((constructor.parameters.zip constructor.arguments).map fun pair => pair.1.text) =
      (List.range constructor.arguments.length).map fun index => "P" ++ toString index := by
    rw [← Function.comp_def, ← List.map_map, first, parameters, List.map_map]
    rfl
  rw [texts]
  refine List.Pairwise.map _ ?_ List.nodup_range
  intro left right different same
  rw [← String.toList_inj, String.toList_append, String.toList_append, Nat.toString_eq_repr,
    Nat.toString_eq_repr, Nat.toList_repr, Nat.toList_repr] at same
  have digits : Nat.toDigits 10 left = Nat.toDigits 10 right := List.append_cancel_left same
  apply different
  rw [← @Nat.ofDigitChars_ten_toDigits left, digits, Nat.ofDigitChars_ten_toDigits]

theorem binding_parameters : List.Forall₂
    (fun parameter argument => constructor.binding parameter = some argument)
    constructor.parameters constructor.arguments := by
  rw [List.forall₂_iff_zip]
  refine ⟨constructor.length_parameters, fun {parameter argument} listed => ?_⟩
  have found := find?_key_of_mem constructor.nodup_parameters listed
  rw [binding, found]
  rfl

theorem parameter_of_binding {constructor : Constructor} {word : Word} {argument : TypeExpr}
    (stands : constructor.binding word = some argument) :
    .plain word.text ∈ constructor.parameters ∧
      ∃ index : Nat, word.text = "P" ++ toString index := by
  rcases Option.map_eq_some_iff.mp stands with ⟨⟨parameter, _⟩, found, rfl⟩
  have same := List.find?_some found
  rw [beq_iff_eq] at same
  have listed : parameter ∈ constructor.parameters :=
    (List.of_mem_zip (List.mem_of_find?_eq_some found)).1
  rcases List.mem_map.mp listed with ⟨index, _, rfl⟩
  rw [← same]
  exact ⟨listed, index, rfl⟩

/-- No parameter has the name of a reserved word. -/
theorem isName_of_parameter {word : Word} {index : Nat}
    (same : word.text = "P" ++ toString index) : word.isName = true := by
  have others : ∀ reserved ∈ reservedWords, reserved.toList.head? ≠ some 'P' := by decide
  have free : word.text ∉ reservedWords := by
    intro member
    apply others _ member
    rw [same, String.toList_append]
    rfl
  rw [Word.isName, List.contains_eq_mem, decide_eq_false free, Bool.not_false, Bool.or_true]

/-- What no parameter hides is left as it is. -/
theorem leaves_of_not_captures {constructor : Constructor} {mention : Mention}
    (free : ¬constructor.Captures mention) : Leaves constructor.binding mention := by
  intro isType
  cases stands : constructor.binding mention.head with
  | none => exact .inl rfl
  | some argument =>
      rcases parameter_of_binding stands with ⟨listed, index, same⟩
      exact absurd ⟨isType, isName_of_parameter same, listed⟩ free

/-! ## The path of a constructor -/

section Path

variable {constructor : Constructor} {name : Word} {arguments : Arguments}
  {substitution : Substitution}

theorem substituteAll?_last (same : substitution.type = constructor.binding) (name : Word) :
    Segment.substituteAll? substitution [.mk name (.angle false
      (constructor.parameters.map fun parameter => .type (.path (.ofWord parameter))) false)] =
        some [.mk name (.angle false (constructor.arguments.map .type) false)] := by
  have each := constructor.binding_parameters
  rw [← same] at each
  rw [Segment.substituteAll?, Segment.substitute?, Arguments.substitute?,
    Argument.substituteAll?_names each]
  rfl

theorem mentions_eq (last : constructor.base.last? = some (.mk name arguments)) :
    constructor.mentions = constructor.base.mention .types ++
      Segment.mentionsAll constructor.base.segments.dropLast := by
  rw [mentions, TypeExpr.mentions, Path.mention_withArguments .types last,
    Path.innerMentions_withArguments last, Arguments.mentions, List.append_nil]

/-- Where all that a constructor mentions stays as it is, the constructor becomes the registered
path, whose last arguments are written as those of the constructor. -/
theorem substitute?_path (same : substitution.type = constructor.binding)
    (last : constructor.base.last? = some (.mk name arguments))
    (leaves : ∀ mention ∈ constructor.mentions, Leaves constructor.binding mention) :
    (TypeExpr.path constructor.path).substitute? substitution = some (.path
      (constructor.base.withArguments (.angle false (constructor.arguments.map .type) false))) := by
  rw [mentions_eq last, List.forall_mem_append, ← same] at leaves
  have inside : constructor.path.substituteInside? substitution = some
      (constructor.base.withArguments (.angle false (constructor.arguments.map .type) false)) := by
    rw [path, Path.withArguments_eq last, Path.withArguments_eq last, Path.substituteInside?,
      Segment.substituteAll?_append, Segment.substituteAll?_of_leaves _ leaves.2,
      substituteAll?_last same]
    rfl
  rw [TypeExpr.substitute?, inside]
  apply Path.asType?_of_leaves
  rw [Path.mention_withArguments .types last]
  exact leaves.1

/-- Where the constructor becomes the registered path, the name that it begins with stayed as
it is. -/
theorem leaves_of_substitute?_path (same : substitution.type = constructor.binding)
    (last : constructor.base.last? = some (.mk name arguments)) {others : Arguments}
    (result : (TypeExpr.path constructor.path).substitute? substitution =
      some (.path (constructor.base.withArguments others))) :
    ∀ mention ∈ constructor.base.mention .types, Leaves constructor.binding mention := by
  rw [TypeExpr.substitute?] at result
  rcases Option.bind_eq_some_iff.mp result with ⟨inner, isInner, result⟩
  rw [path, Path.withArguments_eq last, Path.substituteInside?, Segment.substituteAll?_append,
    substituteAll?_last same] at isInner
  rcases Option.bind_eq_some_iff.mp isInner with ⟨segments, areSegments, isInner⟩
  rcases Option.bind_eq_some_iff.mp areSegments with ⟨front, isFront, areSegments⟩
  cases areSegments
  cases isInner
  -- The names in front are the old ones, whatever has become of their arguments.
  have names : (front ++ [Segment.mk name
      (.angle false (constructor.arguments.map .type) false)]).map Segment.name =
        constructor.base.segments.map Segment.name := by
    rw [List.map_append, Segment.names_of_substituteAll? isFront,
      Path.segments_eq_of_last last, List.map_append, List.dropLast_concat]
    rfl
  have sameMention : (Code.Path.mk constructor.base.isGlobal (front ++ [Segment.mk name
      (.angle false (constructor.arguments.map .type) false)])).mention .types =
        constructor.base.mention .types :=
    congrArg (mentionOf .types constructor.base.isGlobal) names
  rw [← sameMention, ← same]
  apply Path.leaves_of_asType? result
  · exact (constructor.base.isGlobal_withArguments others).symm
  · rw [Path.segments_withArguments last]
    refine names.trans ?_
    rw [Path.segments_eq_of_last last, List.dropLast_concat, List.map_append, List.map_append]
    rfl
  · intro own alone
    have ends := congrArg List.getLast? alone
    rw [Path.segments, List.getLast?_concat] at ends
    cases ends

end Path

end Constructor

/-! ## The constructor of a registration -/

theorem few_of_split {path : Path} {constructor : Constructor}
    (splits : split path = .ok (some constructor)) : constructor.arguments.length ≤ 2 := by
  have found := splits_path path
  rw [splits] at found
  cases found with
  | applied _ few => exact few

/-- A path that is split into a constructor and its arguments is the constructor's path with these
arguments in angle brackets.  Where they take the place of the parameters, the constructor becomes
the registered path again, apart from a pair of colons in front of the brackets and a comma at the
end of them.  This holds if nothing that the constructor mentions is the name of a parameter, unless
it stands for itself, and only if that is so of the name that the path begins with.  The module
defines the constructor with its parameters and a type for each argument; there are as many of
these, and at most two. -/
theorem constructor_becomes_registered_path {path : Path} {constructor : Constructor}
    (splits : split path = .ok (some constructor)) :
    (∃ turbofish trailing, path = path.withArguments
      (.angle turbofish (constructor.arguments.map .type) trailing)) ∧
    (∀ substitution : Substitution, substitution.type = constructor.binding →
      ((∀ mention ∈ constructor.mentions, Leaves constructor.binding mention) →
        (TypeExpr.path constructor.path).substitute? substitution = some (.path
          (path.withArguments (.angle false (constructor.arguments.map .type) false)))) ∧
      ∀ turbofish trailing,
        (TypeExpr.path constructor.path).substitute? substitution = some (.path
          (path.withArguments (.angle turbofish (constructor.arguments.map .type) trailing))) →
        ∀ mention ∈ path.mention .types, Leaves constructor.binding mention) ∧
    List.Forall₂ (fun parameter argument => constructor.binding parameter = some argument)
      constructor.parameters constructor.arguments ∧
    (∃ documentation, Registered.constructorMembers constructor =
      ⟨.typeAlias, "TyCon", documentation ++ (Member.typeAlias "TyCon"
          (angled (commaSeparated (constructor.parameters.map Tokens.word) false))
          constructor.path.tokens).tokens⟩ ::
        constructor.arguments.mapIdx fun index argument =>
          Member.typeAlias ("TyArg" ++ toString index) [] argument.tokens) ∧
    constructor.arguments.length = constructor.parameters.length ∧
    constructor.parameters.length ≤ 2 := by
  rcases of_split splits with ⟨rfl, name, turbofish, trailing, last⟩
  have sameLength := constructor.length_parameters
  refine ⟨⟨turbofish, trailing, ?_⟩, ?_, constructor.binding_parameters, ⟨_, rfl⟩,
    sameLength.symm, sameLength.symm ▸ few_of_split splits⟩
  · rw [Path.withArguments_eq last, ← Path.segments_eq_of_last last]
    cases constructor.base
    rfl
  · intro substitution same
    exact ⟨constructor.substitute?_path same last,
      fun _ _ => constructor.leaves_of_substitute?_path same last⟩

/-! ## Parameters among the names of a path -/

/-- A type that is a name. -/
def named (name : String) : TypeExpr := .path (.ofWord (.plain name))

/-- The path `shapes::Pair::<P1, u8>`, of which an argument has the name of a parameter. -/
def shapesPair : Path :=
  .mk false [.mk (.plain "shapes") .none,
    .mk (.plain "Pair") (.angle true [.type (named "P1"), .type (named "u8")] false)]

/-- The path `P0<i32>`, of which the last name is that of a parameter. -/
def firstParameter : Path :=
  .mk false [.mk (.plain "P0") (.angle false [.type (named "i32")] false)]

/-- The constructor of a pair becomes the pair again, since its arguments take their places at
once. -/
theorem constructor_becomes_pair :
    split shapesPair = .ok (some ⟨shapesPair, [named "P1", named "u8"]⟩) ∧
      (TypeExpr.path (Constructor.path ⟨shapesPair, [named "P1", named "u8"]⟩)).substitute?
          (.ofTypes (Constructor.binding ⟨shapesPair, [named "P1", named "u8"]⟩)) =
        some (.path (.mk false [.mk (.plain "shapes") .none,
          .mk (.plain "Pair") (.angle false [.type (named "P1"), .type (named "u8")] false)])) := by
  have splits : split shapesPair = .ok (some ⟨shapesPair, [named "P1", named "u8"]⟩) := rfl
  have free : ∀ mention ∈ Constructor.mentions ⟨shapesPair, [named "P1", named "u8"]⟩,
      ¬Constructor.Captures ⟨shapesPair, [named "P1", named "u8"]⟩ mention := by
    decide
  refine ⟨splits, ?_⟩
  exact ((constructor_becomes_registered_path splits).2.1 (.ofTypes _) rfl).1
    fun mention member => Constructor.leaves_of_not_captures (free mention member)

/-- A constructor by the name of a parameter is defined as this parameter with arguments, so that
the registered path does not come back. -/
theorem constructor_named_as_parameter :
    Declaration.expand ⟨some (.plain "A"), .path firstParameter⟩ = .ok (.registration
        ⟨⟨.plain "A", .plain "a", "a_bridge_vtable"⟩,
          ⟨.plain "A", .path firstParameter, true, some ⟨firstParameter, [named "i32"]⟩⟩⟩) ∧
      Constructor.path ⟨firstParameter, [named "i32"]⟩ =
        .mk false [.mk (.plain "P0") (.angle false [.type (named "P0")] false)] ∧
      (TypeExpr.path (Constructor.path ⟨firstParameter, [named "i32"]⟩)).substitute?
          (.ofTypes (Constructor.binding ⟨firstParameter, [named "i32"]⟩)) =
        some (.path (.mk false [.mk (.plain "i32") (.angle false [.type (named "i32")] false)])) ∧
      ∀ turbofish trailing,
        (TypeExpr.path (Constructor.path ⟨firstParameter, [named "i32"]⟩)).substitute?
            (.ofTypes (Constructor.binding ⟨firstParameter, [named "i32"]⟩)) ≠
          some (.path (firstParameter.withArguments
            (.angle turbofish [.type (named "i32")] trailing))) := by
  have becomes : (TypeExpr.path (Constructor.path ⟨firstParameter, [named "i32"]⟩)).substitute?
      (.ofTypes (Constructor.binding ⟨firstParameter, [named "i32"]⟩)) =
        some (.path (.mk false [.mk (.plain "i32") (.angle false [.type (named "i32")] false)])) :=
    rfl
  refine ⟨rfl, rfl, becomes, fun turbofish trailing => ?_⟩
  rw [becomes]
  intro same
  have names : some (Word.plain "i32") = some (.plain "P0") :=
    congrArg ownName? (Option.some.inj same)
  exact absurd names (by decide)

end Registration
end Capability

import Capability.Proofs.Code.MentionTokens
import Capability.Proofs.Registration.Plan

/-!
# What a registered type means in its module

The module of a registration names the registered type again, and the constructor and the
arguments that it was put together from.  It does so by the same tokens, but one level further
in.  There `self` and `super` are other modules than outside, an item of the module hides what
has its name outside, and all other names come in from outside.

Hence the module keeps the meaning of the type if none of the mentions of the type is shifted:
by `self` or `super`, or by the name of an item of the module.  The constructor is named with
parameters, and its path must not mention their names either.  These conditions are exact as
long as nothing outside leads into the module.  They are not checked anywhere, so that there
are registrations whose module names another type than the registered one.
-/

namespace Capability
namespace Registration

open Code

variable {ε : Type}

/-! ## Scopes -/

/-- What names stand for at a place in a program. -/
structure Scope (ε : Type) where
  /-- The module that the place is in. -/
  self : ε
  super : Option ε
  crate : ε
  named : Space → String → Option ε

namespace Scope

/-- What the first name of a path stands for.  Other reserved words name nothing. -/
def find (scope : Scope ε) (space : Space) (head : Word) : Option ε :=
  if head = .plain "self" then some scope.self
  else if head = .plain "super" then scope.super
  else if head = .plain "crate" then some scope.crate
  else if head.isName then scope.named space head.text
  else none

/-- What a mention leads to: what its first name stands for, and the names to follow from there. -/
def resolve (scope : Scope ε) (mention : Mention) : Option ε × List Word :=
  (scope.find mention.space mention.head, mention.rest)

/-- All that something with these mentions takes from the place where it is written. -/
def meaning (scope : Scope ε) (mentions : List Mention) : List (Option ε × List Word) :=
  mentions.map scope.resolve

/-- Within a definition its parameters hide the types that have their names. -/
def withParameters (scope : Scope ε) (parameters : List Word) (parameter : String → ε) :
    Scope ε where
  self := scope.self
  super := scope.super
  crate := scope.crate
  named space name :=
    if space = .types ∧ .plain name ∈ parameters then some (parameter name)
    else scope.named space name

theorem meaning_eq_iff (first second : Scope ε) (mentions : List Mention) :
    first.meaning mentions = second.meaning mentions ↔
      ∀ mention ∈ mentions, first.resolve mention = second.resolve mention :=
  List.map_inj_left

theorem resolve_eq_iff (first second : Scope ε) (mention : Mention) :
    first.resolve mention = second.resolve mention ↔
      first.find mention.space mention.head = second.find mention.space mention.head := by
  rw [resolve, resolve, Prod.mk.injEq]
  exact and_iff_left rfl

theorem find_self (scope : Scope ε) (space : Space) :
    scope.find space (.plain "self") = some scope.self := rfl

theorem find_super (scope : Scope ε) (space : Space) :
    scope.find space (.plain "super") = scope.super := rfl

theorem find_of_isName (scope : Scope ε) (space : Space) {head : Word} (isName : head.isName = true) :
    scope.find space head = scope.named space head.text := by
  have other : ∀ word : Word, word.isName = false → head ≠ word := by
    rintro word reserved rfl
    rw [isName] at reserved
    cases reserved
  rw [find, if_neg (other _ rfl), if_neg (other _ rfl), if_neg (other _ rfl), if_pos isName]

end Scope

/-! ## The module -/

/-- The kinds of names that an item of a module declares. -/
def MemberKind.spaces : MemberKind → List Space
  | typeAlias => [.types]
  | constant | function | static | exported => [.values]
  | marker => [.types, .values]
  | importing | implementation => []

def Member.declares (space : Space) (name : String) (member : Member) : Bool :=
  member.kind.spaces.contains space && member.name == name

namespace Registered

/-- Whether the module of a registration declares a name. -/
def declares (registered : Registered) (space : Space) (name : String) : Bool :=
  registered.members.any (Member.declares space name)

/-- Whether a mention is looked up elsewhere in the module than outside. -/
def Shifts (registered : Registered) (mention : Mention) : Prop :=
  mention.head = .plain "self" ∨ mention.head = .plain "super" ∨
    mention.head.isName = true ∧ registered.declares mention.space mention.head.text = true

instance (registered : Registered) (mention : Mention) : Decidable (registered.Shifts mention) :=
  inferInstanceAs (Decidable (_ ∨ _ ∨ _ ∧ _))

end Registered

namespace Constructor

/-- What a constructor mentions apart from its parameters. -/
def mentions (constructor : Constructor) : List Mention :=
  (TypeExpr.path (constructor.base.withArguments .none)).mentions

/-- Whether a parameter of a constructor hides what is mentioned. -/
def Captures (constructor : Constructor) (mention : Mention) : Prop :=
  mention.space = .types ∧ mention.head.isName = true ∧
    .plain mention.head.text ∈ constructor.parameters

instance (constructor : Constructor) (mention : Mention) :
    Decidable (constructor.Captures mention) :=
  inferInstanceAs (Decidable (_ ∧ _ ∧ _))

end Constructor

/-- No mention of the registered type leads elsewhere in the module. -/
structure Registered.Unshifted (registered : Registered) : Prop where
  type : ∀ mention ∈ registered.plan.type.mentions, ¬registered.Shifts mention
  constructor : ∀ constructor, registered.plan.constructor = some constructor →
    ∀ mention ∈ constructor.mentions, ¬constructor.Captures mention

instance (registered : Registered) : Decidable registered.Unshifted :=
  decidable_of_iff
    ((∀ mention ∈ registered.plan.type.mentions, ¬registered.Shifts mention) ∧
      ∀ constructor ∈ registered.plan.constructor.toList, ∀ mention ∈ constructor.mentions,
        ¬constructor.Captures mention)
    ⟨fun ⟨type, constructor⟩ => ⟨type, fun _ found => constructor _ (Option.mem_toList.mpr found)⟩,
      fun ⟨type, constructor⟩ => ⟨type, fun _ listed => constructor _ (Option.mem_toList.mp listed)⟩⟩

/-- A registration is emitted into a module: what is added to the program, and that the new
module is seen outside by its name. -/
structure Emission (registered : Registered) (outside : Scope ε) where
  module : ε
  /-- The items of the new module. -/
  own : Space → String → ε
  /-- The parameters of the constructor. -/
  parameter : String → ε
  seen : outside.named .types registered.names.module.text = some module

namespace Emission

variable {registered : Registered} {outside : Scope ε}

/-- The scope within the new module, which imports all that is named outside. -/
def inside (emission : Emission registered outside) : Scope ε where
  self := emission.module
  super := some outside.self
  crate := outside.crate
  named space name :=
    if registered.declares space name then some (emission.own space name)
    else outside.named space name

/-- The module names by its definitions what the same tokens name outside: the type, its
arguments, and the constructor up to its parameters. -/
structure Keeps (emission : Emission registered outside) : Prop where
  type : emission.inside.meaning registered.plan.type.mentions =
    outside.meaning registered.plan.type.mentions
  argument : ∀ constructor, registered.plan.constructor = some constructor →
    ∀ argument ∈ constructor.arguments,
      emission.inside.meaning argument.mentions = outside.meaning argument.mentions
  constructor : ∀ constructor, registered.plan.constructor = some constructor →
    (emission.inside.withParameters constructor.parameters emission.parameter).meaning
      constructor.mentions = outside.meaning constructor.mentions

/-- What is new is not what some name stands for outside, and no module is within itself. -/
structure IsApart (emission : Emission registered outside) : Prop where
  module_ne : emission.module ≠ outside.self
  super_ne : outside.super ≠ some outside.self
  own_ne : ∀ space name, registered.declares space name = true →
    outside.named space name ≠ some (emission.own space name)
  parameter_ne : ∀ name, outside.named .types name ≠ some (emission.parameter name)

/-! ## One mention -/

theorem resolve_inside (emission : Emission registered outside) {mention : Mention}
    (unshifted : ¬registered.Shifts mention) :
    emission.inside.resolve mention = outside.resolve mention := by
  rw [Registered.Shifts, not_or, not_or, not_and] at unshifted
  rcases unshifted with ⟨noSelf, noSuper, undeclared⟩
  rw [Scope.resolve_eq_iff, Scope.find, Scope.find, if_neg noSelf, if_neg noSelf, if_neg noSuper,
    if_neg noSuper]
  -- What is left of the two scopes differs only in the names that the module declares.
  refine if_congr Iff.rfl rfl ?_
  by_cases isName : mention.head.isName = true
  · rw [if_pos isName, if_pos isName]
    exact if_neg (undeclared isName)
  · rw [if_neg isName, if_neg isName]

theorem resolve_inside_ne {emission : Emission registered outside} (apart : emission.IsApart)
    {mention : Mention} (shifts : registered.Shifts mention) :
    emission.inside.resolve mention ≠ outside.resolve mention := by
  rw [Ne, Scope.resolve_eq_iff]
  rcases shifts with isSelf | isSuper | ⟨isName, declared⟩
  · rw [isSelf, Scope.find_self, Scope.find_self]
    exact fun same => apart.module_ne (Option.some.inj same)
  · rw [isSuper, Scope.find_super, Scope.find_super]
    exact fun same => apart.super_ne same.symm
  · rw [Scope.find_of_isName _ _ isName, Scope.find_of_isName _ _ isName]
    have hidden : emission.inside.named mention.space mention.head.text =
        some (emission.own mention.space mention.head.text) := if_pos declared
    rw [hidden]
    exact fun same => apart.own_ne _ _ declared same.symm

end Emission

namespace Scope

variable {scope : Scope ε} {constructor : Constructor} {parameter : String → ε}

theorem resolve_withParameters {mention : Mention} (free : ¬constructor.Captures mention) :
    (scope.withParameters constructor.parameters parameter).resolve mention =
      scope.resolve mention := by
  rw [resolve_eq_iff]
  by_cases isName : mention.head.isName = true
  · rw [find_of_isName _ _ isName, find_of_isName _ _ isName]
    exact if_neg fun hidden => free ⟨hidden.1, isName, hidden.2⟩
  · simp only [find, if_neg isName]
    rfl

theorem find_withParameters {mention : Mention} (captured : constructor.Captures mention) :
    (scope.withParameters constructor.parameters parameter).find mention.space mention.head =
      some (parameter mention.head.text) := by
  rw [find_of_isName _ _ captured.2.1]
  exact if_pos ⟨captured.1, captured.2.2⟩

end Scope

/-! ## The constructor of a type -/

/-- A type mentions what its arguments and its constructor mention. -/
theorem mentions_of_constructor {type : TypeExpr} {constructor : Constructor}
    (found : constructorOf type = .ok (some constructor)) :
    (∀ argument ∈ constructor.arguments, argument.mentions ⊆ type.mentions) ∧
      constructor.mentions ⊆ type.mentions := by
  rcases of_constructor found with ⟨rfl, name, turbofish, trailing, last⟩
  rw [TypeExpr.mentions, Path.innerMentions_of_last last, Arguments.mentions,
    Argument.mentionsAll_eq_flatMap]
  constructor
  · intro argument listed mention member
    apply List.mem_append_right
    apply List.mem_append_right
    rw [List.mem_flatMap]
    exact ⟨.type argument, List.mem_map_of_mem listed, List.mem_append_left _ member⟩
  · rw [Constructor.mentions, TypeExpr.mentions, Path.mention_withArguments .types last,
      Path.innerMentions_withArguments last, Arguments.mentions, List.append_nil, ← List.append_assoc]
    exact List.subset_append_left _ _

/-- Besides, the path of the constructor mentions its parameters. -/
theorem mentions_path {type : TypeExpr} {constructor : Constructor}
    (found : constructorOf type = .ok (some constructor)) :
    (TypeExpr.path constructor.path).mentions =
      constructor.mentions ++ constructor.parameters.flatMap fun parameter =>
        [⟨.types, parameter, []⟩, ⟨.values, parameter, []⟩] := by
  rcases of_constructor found with ⟨_, name, turbofish, trailing, last⟩
  rw [TypeExpr.mentions, Constructor.path, Path.mention_withArguments .types last,
    Path.innerMentions_withArguments last, Arguments.mentions, Argument.mentionsAll_eq_flatMap,
    List.flatMap_map, Constructor.mentions, TypeExpr.mentions,
    Path.mention_withArguments .types last, Path.innerMentions_withArguments last,
    Arguments.mentions, List.append_nil, List.append_assoc]
  rfl

/-! ## The names that the module declares -/

namespace Registered

theorem any_declares_of_kinds {members : List Member} {space : Space}
    (other : ∀ member ∈ members, space ∉ member.kind.spaces) (name : String) :
    members.any (Member.declares space name) = false := by
  rw [List.any_eq_false]
  intro member listed
  rw [Member.declares, List.contains_eq_mem, decide_eq_false (other member listed), Bool.false_and]
  exact Bool.false_ne_true

theorem any_declares_constructorMembers (constructor : Constructor) (name : String) :
    (constructorMembers constructor).any (Member.declares .types name) = true ↔
      name = "TyCon" ∨ ∃ index < constructor.arguments.length, name = "TyArg" ++ toString index := by
  have first (tokens : Tokens) :
      Member.declares .types name ⟨.typeAlias, "TyCon", tokens⟩ = true ↔ name = "TyCon" := by
    rw [Member.declares, MemberKind.spaces, List.contains_eq_mem, Bool.and_eq_true, beq_iff_eq]
    exact ⟨fun both => both.2.symm, fun same => ⟨rfl, same.symm⟩⟩
  rw [constructorMembers, List.any_cons, Bool.or_eq_true]
  refine or_congr (first _) ?_
  rw [List.any_eq_true]
  constructor
  · rintro ⟨member, listed, declared⟩
    rcases List.mem_mapIdx.mp listed with ⟨index, within, rfl⟩
    refine ⟨index, within, ?_⟩
    rw [Member.declares, Bool.and_eq_true, beq_iff_eq] at declared
    exact declared.2.symm
  · rintro ⟨index, within, rfl⟩
    refine ⟨_, List.mem_mapIdx.mpr ⟨index, within, rfl⟩, ?_⟩
    rw [Member.declares, Bool.and_eq_true, beq_iff_eq]
    exact ⟨rfl, rfl⟩

/-- The types that the module declares. -/
theorem declares_types_iff (registered : Registered) (name : String) :
    registered.declares .types name = true ↔
      name = "Type" ∨ name = "Registration" ∨
        ∃ constructor, registered.plan.constructor = some constructor ∧
          (name = "TyCon" ∨
            ∃ index < constructor.arguments.length, name = "TyArg" ++ toString index) := by
  have constants : registered.constantMembers.any (Member.declares .types name) = false := rfl
  have questions : questionMembers.any (Member.declares .types name) = false :=
    any_declares_of_kinds (by decide) name
  have marker : registered.markerMembers.any (Member.declares .types name) =
      ("Registration" == name) := Bool.or_false _
  have types : registered.typeMembers.any (Member.declares .types name) =
      ("Type" == name || ((registered.plan.constructor.map constructorMembers).getD []).any
        (Member.declares .types name)) := rfl
  rw [declares, members, List.any_append, List.any_append, List.any_append, constants, questions,
    marker, types, Bool.or_false, Bool.or_false, Bool.or_eq_true, Bool.or_eq_true, beq_iff_eq,
    beq_iff_eq, or_right_comm, or_assoc, eq_comm, @eq_comm _ "Registration"]
  cases registered.plan.constructor with
  | none => simp
  | some constructor =>
      rw [Option.map_some, Option.getD_some, any_declares_constructorMembers]
      simp

/-- The name of the module is in snake case, and no type that it declares is. -/
theorem not_declares_module {registered : Registered} {name : String}
    (snake : registered.names.module.text = Naming.snakeCase name) :
    ¬registered.declares .types registered.names.module.text = true := by
  have absent : ∀ capital : Char, capital.isUpper = true →
      capital ∉ registered.names.module.text.toList := by
    intro capital isUpper
    rw [snake]
    exact Naming.capital_not_mem_snakeCase isUpper name
  rw [declares_types_iff]
  rintro (same | same | ⟨constructor, _, same | ⟨index, _, same⟩⟩)
  · exact absent 'T' (by decide) (by rw [same]; decide)
  · exact absent 'R' (by decide) (by rw [same]; decide)
  · exact absent 'T' (by decide) (by rw [same]; decide)
  · refine absent 'T' (by decide) ?_
    rw [same, String.toList_append]
    exact List.mem_append_left _ (by decide)

end Registered

/-! ## The meaning of the type -/

namespace Emission

variable {registered : Registered} {outside : Scope ε}

theorem keeps_of_unshifted (emission : Emission registered outside)
    (found : constructorOf registered.plan.type = .ok registered.plan.constructor)
    (unshifted : registered.Unshifted) : emission.Keeps := by
  have same : ∀ mention ∈ registered.plan.type.mentions,
      emission.inside.resolve mention = outside.resolve mention :=
    fun mention member => emission.resolve_inside (unshifted.type mention member)
  constructor
  · rw [Scope.meaning_eq_iff]
    exact same
  · intro constructor isConstructor argument listed
    rw [isConstructor] at found
    rw [Scope.meaning_eq_iff]
    intro mention member
    exact same mention ((mentions_of_constructor found).1 argument listed member)
  · intro constructor isConstructor
    rw [isConstructor] at found
    rw [Scope.meaning_eq_iff]
    intro mention member
    rw [Scope.resolve_withParameters (unshifted.constructor constructor isConstructor mention member)]
    exact same mention ((mentions_of_constructor found).2 member)

theorem unshifted_of_keeps {emission : Emission registered outside} (apart : emission.IsApart)
    (keeps : emission.Keeps) : registered.Unshifted := by
  constructor
  · intro mention member shifts
    exact resolve_inside_ne apart shifts ((Scope.meaning_eq_iff _ _ _).mp keeps.type mention member)
  · intro constructor isConstructor mention member captured
    have same := (Scope.meaning_eq_iff _ _ _).mp (keeps.constructor constructor isConstructor)
      mention member
    rw [Scope.resolve_eq_iff, Scope.find_withParameters captured,
      Scope.find_of_isName _ _ captured.2.1, captured.1] at same
    exact apart.parameter_ne _ same.symm

/-- The name of the module leads into the module, from outside as well as from inside. -/
theorem resolve_module (emission : Emission registered outside) {name : String}
    (snake : registered.names.module.text = Naming.snakeCase name)
    (isName : registered.names.module.isName = true) (rest : List Word) :
    emission.inside.resolve ⟨.types, registered.names.module, rest⟩ = (some emission.module, rest) ∧
      outside.resolve ⟨.types, registered.names.module, rest⟩ = (some emission.module, rest) := by
  have seen : outside.find .types registered.names.module = some emission.module :=
    (Scope.find_of_isName _ _ isName).trans emission.seen
  have fromInside : emission.inside.find .types registered.names.module = some emission.module :=
    (Scope.find_of_isName _ _ isName).trans
      ((if_neg (Registered.not_declares_module snake)).trans emission.seen)
  exact ⟨congrArg (·, rest) fromInside, congrArg (·, rest) seen⟩

end Emission

/-- The module of a registration repeats the declared type.  What the type mentions is written in
its tokens, and what the path of the constructor mentions are these and its parameters.

In the module the type, its arguments and its constructor mean what the same tokens mean outside,
if no mention of the type begins with `self`, with `super` or with the name of an item of the
module, and none of the constructor with that of a parameter.  Otherwise they do not, unless
something outside leads into the module.  The types among the items are the type itself, the
marker, the constructor and the arguments.  A mention that begins with the name of the module
leads into the module, wherever it stands. -/
theorem module_keeps_meaning_iff_unshifted (declaration : Declaration) (registered : Registered)
    (expands : declaration.expand = .ok (.registration registered)) (outside : Scope ε)
    (emission : Emission registered outside) :
    (registered.plan.type = bare declaration.type ∧
      Writes registered.type registered.plan.type.mentions ∧
      ∀ constructor, registered.plan.constructor = some constructor →
        (TypeExpr.path constructor.path).mentions =
          constructor.mentions ++ constructor.parameters.flatMap fun parameter =>
            [⟨.types, parameter, []⟩, ⟨.values, parameter, []⟩]) ∧
    (registered.Unshifted → emission.Keeps) ∧
    (emission.IsApart → emission.Keeps → registered.Unshifted) ∧
    (∀ name, registered.declares .types name = true ↔
      name = "Type" ∨ name = "Registration" ∨
        ∃ constructor, registered.plan.constructor = some constructor ∧
          (name = "TyCon" ∨
            ∃ index < constructor.arguments.length, name = "TyArg" ++ toString index)) ∧
    (registered.names.module.isName = true → ∀ rest,
      emission.inside.resolve ⟨.types, registered.names.module, rest⟩ =
          (some emission.module, rest) ∧
        outside.resolve ⟨.types, registered.names.module, rest⟩ =
          (some emission.module, rest)) := by
  rcases Declaration.plan_of_expand expands with ⟨planned, made⟩
  rcases Declaration.of_plan planned with ⟨type, found⟩
  rcases Names.of_eq_ok (Plan.names_of_expand made).1 with ⟨_, _, _, snake⟩
  refine ⟨⟨type, registered.plan.type.writes_mentions, ?_⟩, emission.keeps_of_unshifted found,
    Emission.unshifted_of_keeps, registered.declares_types_iff, emission.resolve_module snake⟩
  intro constructor isConstructor
  rw [isConstructor] at found
  exact mentions_path found

/-! ## A module in a module -/

/-- The scope of a module of a crate, in which every name is that of an item of the module. -/
def Scope.shapes : Scope (List String) where
  self := ["crate", "shapes"]
  super := some ["crate"]
  crate := ["crate"]
  named _ name := some ["crate", "shapes", name]

/-- A registration by the name `A` in that module. -/
def Emission.shapes (registered : Registered) (named : registered.names.module.text = "a") :
    Emission registered Scope.shapes where
  module := ["crate", "shapes", "a"]
  own _ name := ["crate", "shapes", "a", name]
  parameter name := ["crate", "shapes", "a", "TyCon", name]
  seen := by rw [named]; rfl

theorem Emission.isApart_shapes (registered : Registered)
    (named : registered.names.module.text = "a") : (shapes registered named).IsApart where
  module_ne := by simp [Scope.shapes, shapes]
  super_ne := by simp [Scope.shapes]
  own_ne space name _ := by simp [Scope.shapes, shapes]
  parameter_ne name := by simp [Scope.shapes, shapes]

/-- The registration of `Pair<geometry::Angle, [Vec<u8>; 4]>` by the name `A`. -/
def Registered.pair : Registered :=
  let angle := .path (.mk false [.mk (.plain "geometry") .none, .mk (.plain "Angle") .none])
  let vector := .path (.mk false
    [.mk (.plain "Vec") (.angle false [.type (.path (Path.ofWord (.plain "u8")))] false)])
  let array := .array vector [.literal "4"]
  let path := .mk false [.mk (.plain "Pair") (.angle false [.type angle, .type array] false)]
  { names := ⟨.plain "A", .plain "a", "a_bridge_vtable"⟩
    plan := ⟨.plain "A", .path path, true, some ⟨path, [angle, array]⟩⟩ }

/-- The registration of `super::X` by the name `A`. -/
def Registered.superPath : Registered where
  names := ⟨.plain "A", .plain "a", "a_bridge_vtable"⟩
  plan :=
    ⟨.plain "A", .path (.mk false [.mk (.plain "super") .none, .mk (.plain "X") .none]), true, none⟩

/-- Nothing is shifted in a pair: its module leads where the same tokens lead outside. -/
theorem module_keeps_meaning_of_pair :
    Declaration.expand ⟨some (.plain "A"), Registered.pair.plan.type⟩ =
        .ok (.registration .pair) ∧
      Registered.pair.Unshifted ∧ (Emission.shapes .pair rfl).Keeps ∧
      (Emission.shapes .pair rfl).inside.meaning Registered.pair.plan.type.mentions =
        [(some ["crate", "shapes", "Pair"], []),
          (some ["crate", "shapes", "geometry"], [.plain "Angle"]),
          (some ["crate", "shapes", "Vec"], []),
          (some ["crate", "shapes", "u8"], []), (some ["crate", "shapes", "u8"], [])] := by
  have expands : Declaration.expand ⟨some (.plain "A"), Registered.pair.plan.type⟩ =
      .ok (.registration .pair) := rfl
  have unshifted : Registered.pair.Unshifted := by decide
  have keeps := (module_keeps_meaning_iff_unshifted _ _ expands Scope.shapes
    (.shapes .pair rfl)).2.1 unshifted
  exact ⟨expands, unshifted, keeps, keeps.type.trans rfl⟩

/-- A path that begins with `super` is emitted as it is, and leads from the module that holds the
registration where it should lead from the one around it. -/
theorem super_path_leads_elsewhere :
    Declaration.expand ⟨some (.plain "A"), Registered.superPath.plan.type⟩ =
        .ok (.registration .superPath) ∧
      ⟨.types, .plain "super", [.plain "X"]⟩ ∈ Registered.superPath.plan.type.mentions ∧
      (Emission.shapes .superPath rfl).IsApart ∧ ¬(Emission.shapes .superPath rfl).Keeps ∧
      Scope.shapes.meaning Registered.superPath.plan.type.mentions =
        [(some ["crate"], [.plain "X"])] ∧
      (Emission.shapes .superPath rfl).inside.meaning Registered.superPath.plan.type.mentions =
        [(some ["crate", "shapes"], [.plain "X"])] := by
  refine ⟨rfl, List.mem_singleton_self _, Emission.isApart_shapes _ _, ?_, rfl, rfl⟩
  intro keeps
  cases keeps.type

end Registration
end Capability

import Capability.Detection.Table
import Capability.Profile
import Capability.Registration.Names
import Capability.Source

/-!
The code that a registration expands to.

A registration defines a module.  The module names the type, holds its
predicates, its profile and its table of operations as constants, answers each
question by a function, and exports the table for the foreign side.  A type
registered by a new name is also defined by that name next to the module.
-/

namespace Capability
namespace Registration

open Code

/-! ### The table of operations -/

/-- The constant that holds what a source gives, by the name of the constant. -/
def sourceConstant (name : String) : Tokens := written "D::" ++ Tokens.plain name

/-- The code of a selection among the named sources, each of which may be absent. -/
def selectionTokens : Selection String → Tokens
  | .nothing => written "None"
  | .source chosen => sourceConstant chosen
  | .orElse first rest =>
    written "match" ++ sourceConstant first
      ++ Tokens.braced
        (written "Some(f) => Some(f), None =>" ++ selectionTokens rest ++ written ",")

/-- The code that selects the source of an operation. -/
def sourceTokens (operation : Operation) : Tokens :=
  selectionTokens (Selection.firstAvailable (operation.sources.map Source.constant))

/-- The code of one slot of the table. -/
def slotTokens (operation : Operation) : Tokens :=
  Tokens.plain operation.name ++ written ":" ++ sourceTokens operation ++ written ","

/-- The code of the table. -/
def tableTokens : Tokens :=
  Tokens.braced
    (written "#[allow(unused_imports)] use ::bridge_caps::detect::slots::*;"
      ++ written "type D = ::bridge_caps::detect::Detect<Type>;"
      ++ written "::bridge_caps::BridgeVTable"
      ++ Tokens.braced
        (written "size: ::core::mem::size_of::<Type>(), align: ::core::mem::align_of::<Type>(),"
          ++ Operation.all.flatMap slotTokens))

/-! ### The module -/

/-- What an item of the module is. -/
inductive MemberKind where
  | importing
  | typeAlias
  | constant
  | function
  | marker
  | implementation
  | static
  | exported
deriving DecidableEq, Repr

/-- An item of the module. -/
structure Member where
  kind : MemberKind
  name : String
  tokens : Tokens

namespace Member

/-- A type by a new name. -/
def typeAlias (name : String) (parameters type : Tokens) : Member where
  kind := .typeAlias
  name := name
  tokens := written "pub type" ++ Tokens.plain name ++ parameters ++ written "=" ++ type
    ++ written ";"

/-- A public constant. -/
def constant (name : String) (type value : Tokens) : Member where
  kind := .constant
  name := name
  tokens := written "pub const" ++ Tokens.plain name ++ written ":" ++ type ++ written "="
    ++ value ++ written ";"

/-- A public function without parameters that is evaluated at compile time. -/
def function (name : String) (result body : Tokens) : Member where
  kind := .function
  name := name
  tokens := written "#[inline] pub const fn" ++ Tokens.plain name ++ written "() ->" ++ result
    ++ Tokens.braced body

/-- A function that answers by a method of a constant. -/
def question (holder method : String) : Member :=
  function method (written "bool")
    (Tokens.plain holder ++ written "." ++ Tokens.plain method ++ written "()")

end Member

/-- A type that is registered under names. -/
structure Registered where
  names : Names
  plan : Plan

namespace Registered

def type (registered : Registered) : Tokens := registered.plan.type.tokens

def typeText (registered : Registered) : String := registered.type.compactText

/-- The parameters of the constructor as they are declared. -/
def parameterList (constructor : Constructor) : Tokens :=
  angled (commaSeparated (constructor.parameters.map Tokens.word) false)

/-- The constructor in short: its parameters, unless there are none, and the path. -/
def constructorSummary (constructor : Constructor) : Tokens :=
  Tokens.plain "TyCon"
    ++ (if constructor.arguments.isEmpty then [] else parameterList constructor)
    ++ written "=" ++ constructor.path.tokens

/-- The definitions of the constructor and of its arguments. -/
def constructorMembers (constructor : Constructor) : List Member :=
  let base := Member.typeAlias "TyCon" (parameterList constructor) constructor.path.tokens
  { base with
    tokens :=
      written "#[doc = r\" The generic type constructor of the registered instantiation.\"]"
        ++ base.tokens }
    :: constructor.arguments.mapIdx fun index argument =>
      Member.typeAlias ("TyArg" ++ toString index) [] argument.tokens

/-- The definitions that the module begins with. -/
def typeMembers (registered : Registered) : List Member :=
  ⟨.importing, "super", written "#[allow(unused_imports)] use super::*;"⟩
    :: Member.typeAlias "Type" [] registered.type
    :: (registered.plan.constructor.map constructorMembers).getD []

/-- The constants of the module. -/
def constantMembers (registered : Registered) : List Member :=
  let text (name content : String) := Member.constant name (written "&str") (Tokens.quoted content)
  [text "NAME" registered.names.name.written,
    text "RUST_TYPE" registered.typeText,
    text "SYMBOL" registered.names.symbol,
    Member.constant "PREDICATES" (written "::bridge_caps::Predicates")
      (Detection.predicatesOf (written "Type")),
    Member.constant "PROFILE" (written "::bridge_caps::Profile")
      (written "::bridge_caps::Profile::derive(PREDICATES)"),
    Member.constant "VTABLE" (written "::bridge_caps::BridgeVTable<Type>") tableTokens]

/-- The functions of the module that answer questions. -/
def questionMembers : List Member :=
  Query.all.map (fun query => Member.question "PREDICATES" (Naming.queryMethod query.name))
    ++ Obligation.all.map (fun obligation =>
      Member.question "PROFILE" (Naming.obligationMethod obligation.name))
    ++ [Member.function "three_way_support" (written "::bridge_caps::ThreeWaySupport")
        (written "PREDICATES.three_way"),
      Member.function "display_source" (written "::bridge_caps::DisplaySource")
        (written "PREDICATES.display"),
      Member.function "abi_size" (written "usize") (written "::core::mem::size_of::<Type>()"),
      Member.function "abi_align" (written "usize") (written "::core::mem::align_of::<Type>()")]

/-- One constant of the implementation, taken from the module. -/
def associatedConstant (name : String) (type : Tokens) : Tokens :=
  written "const" ++ Tokens.plain name ++ written ":" ++ type ++ written "=" ++ Tokens.plain name
    ++ written ";"

/-- The marker of the registration, its implementation, and the exported function. -/
def markerMembers (registered : Registered) : List Member :=
  [⟨.marker, "Registration",
      written "#[doc = r\" Marker carrying this registration into generic code.\"]"
        ++ written "pub struct Registration;"⟩,
    ⟨.implementation, "Registration",
      written "impl ::bridge_caps::Registered for Registration"
        ++ Tokens.braced
          (written "type Target = Type;"
            ++ associatedConstant "NAME" (written "&'static str")
            ++ associatedConstant "RUST_TYPE" (written "&'static str")
            ++ associatedConstant "SYMBOL" (written "&'static str")
            ++ associatedConstant "PREDICATES" (written "::bridge_caps::Predicates")
            ++ associatedConstant "PROFILE" (written "::bridge_caps::Profile")
            ++ associatedConstant "VTABLE" (written "::bridge_caps::BridgeVTable<Type>"))⟩,
    ⟨.static, "EXPORTED_VTABLE",
      written "static EXPORTED_VTABLE: ::bridge_caps::BridgeVTable<Type> = VTABLE;"⟩,
    ⟨.exported, registered.names.symbol,
      written "#[doc = r\" Address of the vtable for the foreign side.\"]"
        ++ written "#[unsafe(no_mangle)] pub extern \"C\" fn"
        ++ Tokens.plain registered.names.symbol
        ++ written "() -> *const ::bridge_caps::BridgeVTable<Type>"
        ++ Tokens.braced (written "&EXPORTED_VTABLE")⟩]

/-- The items of the module, in order. -/
def members (registered : Registered) : List Member :=
  registered.typeMembers ++ registered.constantMembers ++ questionMembers
    ++ registered.markerMembers

/-- What documents a definition: a text with the registered type in it. -/
def documentation (registered : Registered) (before after : String) : Tokens :=
  written "doc = concat!"
    ++ Tokens.enclosed
      (Tokens.quoted before ++ written "," ++ Tokens.quoted registered.typeText ++ written ","
        ++ Tokens.quoted after)

def moduleDocumentation (registered : Registered) : Tokens :=
  registered.documentation "Bridge registration of `" "`."

/-- The code of the module. -/
def moduleTokens (registered : Registered) : Tokens :=
  written "#" ++ Tokens.grouped .bracket registered.moduleDocumentation
    ++ written "#[allow(dead_code, non_snake_case, clippy::all)] pub mod"
    ++ Tokens.word registered.names.module
    ++ Tokens.braced (registered.members.flatMap Member.tokens)

/-- The code that defines the registered type by its new name. -/
def aliasTokens (registered : Registered) : Tokens :=
  written "#"
    ++ Tokens.grouped .bracket
      (registered.documentation "Canonical name of `" "` across the bridge.")
    ++ written "pub type" ++ Tokens.word registered.names.name ++ written "=" ++ registered.type
    ++ written ";"

end Registered

/-! ### Expansions -/

/-- What one declaration expands to. -/
inductive Expansion where
  /-- An error that stops the compilation. -/
  | compileError (message : String)
  | registration (registered : Registered)

/-- The code of an expansion. -/
def Expansion.tokens : Expansion → Tokens
  | compileError message =>
    written "::core::compile_error!" ++ Tokens.braced (Tokens.quoted message)
  | registration registered =>
    (if registered.plan.isAlias then registered.aliasTokens else []) ++ registered.moduleTokens

/-- The expansion of a plan; there is none if a name would be invalid. -/
def Plan.expand (plan : Plan) : Except NameError Expansion :=
  match Names.of plan.name with
  | .ok names => .ok (.registration ⟨names, plan⟩)
  | .error (.reserved module name) => .ok (.compileError (NameError.reserved module name).message)
  | .error problem => .error problem

def Declaration.expand (declaration : Declaration) : Except NameError Expansion :=
  match declaration.plan with
  | .ok plan => plan.expand
  | .error problem => .ok (.compileError problem.message)

/-- The expansions of declarations, in order. -/
def expandAll (declarations : List Declaration) : Except NameError (List Expansion) :=
  declarations.mapM Declaration.expand

/-- The message about an item that has parameters. -/
def parametersMessage : String :=
  "derive(Bridge) needs a concrete type; register an instantiation with `bridge!(Alias = Type<..>)`"

/-- The expansion of an item that defines a type, which must have no parameters. -/
def expandItem (item : Item) : Except NameError Expansion :=
  if item.parameters.isEmpty then
    Plan.expand ⟨item.name, .path (Path.ofWord item.name), false, none⟩
  else .ok (.compileError parametersMessage)

end Registration
end Capability

import Capability.Manifest
import Capability.Registration.Plan

/-!
The names that a registration introduces.

The module of a registration has the registered name in snake case, in raw form
where that is a reserved word.  A few reserved words have no raw form; their
types need another name.  A registered name that is raw itself keeps its mark in
snake case, which leads to a text that is no word at all.
-/

namespace Capability
namespace Registration

open Code

/-- Why a registered name leads to no module. -/
inductive NameError where
  /-- The name of the module would be a reserved word without a raw form. -/
  | reserved (module : String) (name : String)
  /-- A text that was to be a word is none. -/
  | invalid (text : String)
  /-- A text that was to be a raw word has no raw form. -/
  | neverRaw (text : String)
deriving DecidableEq, Repr

/-- The message about a name that leads to no module. -/
def NameError.message : NameError → String
  | reserved module name =>
    "`" ++ module ++ "` cannot name the registration module; use `bridge!(Alias = " ++ name ++ ")`"
  | invalid text => Text.quote text ++ " is not a valid Ident"
  | neverRaw text => "`r#" ++ text ++ "` cannot be a raw identifier"

/-- A text as a word that is not raw. -/
def plainWord (text : String) : Except NameError Word :=
  if Lexeme.isPlainWord text.toList then .ok (.plain text) else .error (.invalid text)

/-- A text as a raw word. -/
def rawWord (text : String) : Except NameError Word :=
  if !Lexeme.isPlainWord text.toList then .error (.invalid text)
  else if Lexeme.notRaw.contains text then .error (.neverRaw text)
  else .ok ⟨text, true⟩

/-- A composed text as a word, which is raw if the text begins like one. -/
def composedWord (text : String) : Except NameError Word :=
  match text.toList with
  | 'r' :: '#' :: inner => rawWord (String.ofList inner)
  | _ => plainWord text

/-- The module of a registration. -/
def moduleName (name : Word) : Except NameError Word :=
  let module := Naming.snakeCase name.written
  if !Naming.isKeyword module then plainWord module
  else if Naming.canBeRaw module then rawWord module
  else .error (.reserved module name.written)

/-- The names that a registration introduces. -/
structure Names where
  name : Word
  /-- The module of the registration. -/
  module : Word
  /-- The exported function. -/
  symbol : String

/-- The names that the registration of a name introduces. -/
def Names.of (name : Word) : Except NameError Names := do
  let module ← moduleName name
  let symbol ← composedWord (symbolOf name.written)
  return ⟨name, module, symbol.written⟩

end Registration
end Capability

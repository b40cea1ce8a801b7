import FormFlow.Identifier.Basic
import FormFlow.Script.Fault
import FormFlow.Text.Slug

/-!
# Projects

A project owns the validator scripts that nodes and edges refer to by key.
-/

namespace FormFlow

structure Validator where
  key : ValidatorKey
  name : String
  kind : ScriptKind
  code : String
deriving DecidableEq

namespace Validator

/-- The key of a validator: the given one without the white space around it or, when that is missing
or blank, the slug of the name. -/
def keyFor (given : Option String) (name : String) : ValidatorKey :=
  match given.map fun key => Text.trim key.toList with
  | some (c :: rest) => ⟨String.ofList (c :: rest)⟩
  | _ => ⟨String.ofList (Text.slug name.toList)⟩

def make (key : Option String) (name : String) (kind : ScriptKind) (code : String) : Validator :=
  ⟨keyFor key name, name, kind, code⟩

end Validator

structure Project where
  id : ProjectId
  name : String
  validators : List Validator
deriving DecidableEq

/-- The validators of a kind whose keys are among `keys`, in the order of the project. -/
def Project.select (project : Project) (keys : List ValidatorKey) (kind : ScriptKind) :
    List Validator :=
  project.validators.filter fun validator => validator.kind = kind && validator.key ∈ keys

end FormFlow

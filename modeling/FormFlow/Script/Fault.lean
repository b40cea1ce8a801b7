import FormFlow.Access

/-!
# What can be wrong with a validator script

A line may fail to be read, the lines of a script may not fit together, or a condition may fail when
the script runs.
-/

namespace FormFlow

/-- What a validator script decides. -/
inductive ScriptKind where
  /-- Which fields are hidden, read only or writable. -/
  | fieldVisibility
  /-- Whether a step to another node is allowed. -/
  | stepAccess
deriving DecidableEq

def ScriptKind.name : ScriptKind → String
  | .fieldVisibility => "field_visibility"
  | .stepAccess => "step_access"

def ScriptKind.ofName? : String → Option ScriptKind
  | "field_visibility" => some .fieldVisibility
  | "step_access" => some .stepAccess
  | _ => none

@[simp] theorem ScriptKind.ofName?_name (kind : ScriptKind) : ofName? kind.name = some kind := by
  cases kind <;> rfl

/-- Why a line, or a script as a whole, cannot be compiled. -/
inductive CompileFault where
  /-- The line, or the right side of an assignment, cannot be read. -/
  | unreadable (fault : SyntaxFault)
  | expectedStatement (found : Token)
  | foreignStatement (word : String) (kind : ScriptKind)
  | noFields (permission : Permission)
  | expectedField (found : Token)
  | repeatedField (name : String)
  | danglingComma
  | expectedSeparator (name : String) (found : Token)
  | expectedGuard (found : Token)
  | badCondition (fault : SyntaxFault)
  | expectedAssign (keyword : String)
  /-- Rules and assignments stand in one script. -/
  | mixedForms
deriving DecidableEq

def CompileFault.message : CompileFault → String
  | .unreadable fault => fault.message
  | .expectedStatement found => s!"expected a statement, found '{found.describe}'"
  | .foreignStatement word kind => s!"'{word}' is not a {kind.name} statement"
  | .noFields permission => s!"'{permission.name}' needs at least one field"
  | .expectedField found => s!"expected a field name, found '{found.describe}'"
  | .repeatedField name => s!"field '{name}' listed twice"
  | .danglingComma => "expected a field name after ','"
  | .expectedSeparator name found =>
      s!"expected ',' or 'when' after '{name}', found '{found.describe}'"
  | .expectedGuard found => s!"expected 'when', found '{found.describe}'"
  | .badCondition fault => s!"bad condition: {fault.message}"
  | .expectedAssign keyword => s!"expected '=' after '{keyword}'"
  | .mixedForms => "allow/deny rules and result assignments cannot be mixed"

/-- Why a script has no outcome. -/
inductive ScriptFault where
  | compile (line : Nat) (fault : CompileFault)
  | runtime (fault : EvalFault)
deriving DecidableEq

def ScriptFault.message : ScriptFault → String
  | .compile line fault => s!"line {line}: {fault.message}"
  | .runtime fault => s!"runtime error: {fault.message}"

end FormFlow

import FormFlow.Expression.Eval
import FormFlow.Identifier.Basic

/-!
# Access rules

What a caller may do with a field is decided by an ordered list of rules. A rule matches by its
role, when that is among the caller's roles in the context, or by its condition, when that is not
the empty text and holds. The first rule that matches decides.
-/

namespace FormFlow

/-- What a caller may do with a field. -/
inductive Permission where
  | read
  | write
  | hidden
deriving DecidableEq

namespace Permission

def name : Permission → String
  | .read => "read"
  | .write => "write"
  | .hidden => "hidden"

def ofName? : String → Option Permission
  | "read" => some .read
  | "write" => some .write
  | "hidden" => some .hidden
  | _ => none

@[simp] theorem ofName?_name (permission : Permission) :
    ofName? permission.name = some permission := by
  cases permission <;> rfl

end Permission

/-- Grants a permission to a role, or when a condition on the data holds. -/
structure AccessRule where
  role : Option RoleId
  condition : Option String
  permission : Permission
deriving DecidableEq

namespace AccessRule

def forRole (role : RoleId) (permission : Permission) : AccessRule :=
  ⟨some role, none, permission⟩

def whenHolds (condition : String) (permission : Permission) : AccessRule :=
  ⟨none, some condition, permission⟩

/-- Is the rule's role among the roles that the context lists? -/
def matchesRole (rule : AccessRule) (context : Fields Value) : Bool :=
  match rule.role, (context.get? "role_ids").bind Value.items? with
  | some role, some roles => roles.any fun item => item.text? = some role.text
  | _, _ => false

/-- Is the rule's condition given, not empty, and true in the context? -/
def matchesCondition (rule : AccessRule) (context : Fields Value) : Bool :=
  match rule.condition with
  | some condition => !condition.isEmpty && evaluate condition context
  | none => false

def applies (rule : AccessRule) (context : Fields Value) : Bool :=
  rule.matchesRole context || rule.matchesCondition context

/-- The permission of the first rule that applies, or the default. -/
def resolve (rules : List AccessRule) (context : Fields Value) (default : Permission) :
    Permission :=
  ((rules.find? (·.applies context)).map AccessRule.permission).getD default

end AccessRule

end FormFlow

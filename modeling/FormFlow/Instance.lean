import FormFlow.Identifier.Basic
import FormFlow.Timestamp
import FormFlow.Value.Basic

/-!
# Document instances

An instance is one document on its way through a process. Its context keeps, for every node, the
data that was submitted there; conditions and validators see that data together with the roles of
the caller.
-/

namespace FormFlow

inductive Status where
  | draft
  | active
  | completed
  | cancelled
deriving DecidableEq

namespace Status

def name : Status → String
  | .draft => "draft"
  | .active => "active"
  | .completed => "completed"
  | .cancelled => "cancelled"

def ofName? : String → Option Status
  | "draft" => some .draft
  | "active" => some .active
  | "completed" => some .completed
  | "cancelled" => some .cancelled
  | _ => none

@[simp] theorem ofName?_name (status : Status) : ofName? status.name = some status := by
  cases status <;> rfl

/-- Has the document come to its end? -/
def isTerminal (status : Status) : Bool :=
  status = .completed || status = .cancelled

end Status

structure Instance where
  id : InstanceId
  /-- Documents are numbered in the order of their creation. -/
  documentNumber : Nat
  process : ProcessId
  /-- The node where the document is. -/
  current : Option NodeId
  status : Status
  /-- The data submitted at each node, under the id of the node. -/
  context : Fields Value
  createdAt : Timestamp
  updatedAt : Timestamp

namespace Instance

def isActive (document : Instance) : Bool :=
  document.status = .active

def isCompleted (document : Instance) : Bool :=
  document.status = .completed

/-- Keep data as what was submitted at a node. -/
def record (document : Instance) (node : NodeId) (data : Fields Value) (now : Timestamp) :
    Instance :=
  { document with context := document.context.insert node.text (.object data), updatedAt := now }

def moveTo (document : Instance) (node : NodeId) (now : Timestamp) : Instance :=
  { document with current := some node, status := .active, updatedAt := now }

def complete (document : Instance) (now : Timestamp) : Instance :=
  { document with current := none, status := .completed, updatedAt := now }

/-- The roles of a caller as conditions see them. -/
def roleList (roles : List RoleId) : Value :=
  .list (roles.map fun role => .string role.text)

/-- The data by node and the roles of the caller: what conditions see. -/
def contextWithRoles (document : Instance) (roles : List RoleId) : Fields Value :=
  document.context.insert "role_ids" (roleList roles)

/-- The fields submitted at a node. -/
def dataAt (document : Instance) (node : NodeId) : Fields Value :=
  ((document.context.get? node.text).bind Value.fields?).getD []

/-- The fields submitted at all nodes in one map, those of later nodes over those of earlier ones
and those of the node in focus over all, and the roles of the caller: what validators see. -/
def flatContext (document : Instance) (focus : Option NodeId) (roles : List RoleId) :
    Fields Value :=
  let others := document.context.filter fun entry => focus.map NodeId.text ≠ some entry.1
  let data := others.map fun entry => entry.2.fields?.getD []
  let flat := (data ++ [focus.elim [] document.dataAt]).foldl Fields.extend []
  Fields.insert flat "role_ids" (roleList roles)

end Instance

/-- The data submitted at one node of one instance. -/
structure Submission where
  id : SubmissionId
  document : InstanceId
  node : NodeId
  form : FormId
  data : Fields Value
  submittedAt : Timestamp

end FormFlow

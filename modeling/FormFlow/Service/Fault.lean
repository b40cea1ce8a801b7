import FormFlow.Store
import FormFlow.Text.Quoted

/-!
# Faults of the service

A call fails because a definition is missing or malformed, because the request does not fit the
state of the instance, or because the store refuses. What goes wrong in the conditions and
validators of authors never shows up here.
-/

namespace FormFlow

/-- A definition is missing or malformed. -/
inductive DefinitionFault where
  | processNotFound (id : ProcessId)
  | noStart (process : ProcessId)
  | nodeNotFound (process : ProcessId) (node : NodeId)
  | formNotFound (id : FormId)
deriving DecidableEq

def DefinitionFault.message : DefinitionFault → String
  | .processNotFound id => s!"process definition not found: {id.uuid.text}"
  | .noStart process => s!"process definition {process.uuid.text} has no start node"
  | .nodeNotFound process node =>
      s!"node '{node.text}' not found in process definition {process.uuid.text}"
  | .formNotFound id => s!"form definition not found: {id.uuid.text}"

/-- The request does not fit the state of the instance. -/
inductive StateMismatch where
  | notActive (id : InstanceId) (status : Status)
  | nodeMismatch (given : NodeId) (current : Option NodeId)
  | formMismatch (node : NodeId) (given : FormId)
  | noTransition (node : NodeId)
  | transitionNotAvailable (node : NodeId) (key : EdgeKey)
deriving DecidableEq

/-- A node, or its absence, as messages show it. -/
def showNode : Option NodeId → String
  | none => "None"
  | some node => s!"Some(NodeId({String.ofList (Text.quoted node.text.toList)}))"

def StateMismatch.message : StateMismatch → String
  | .notActive id status => s!"instance {id.uuid.text} is {status.name}, not active"
  | .nodeMismatch given current =>
      s!"node '{given.text}' is not the current node ({showNode current})"
  | .formMismatch node given => s!"form {given.uuid.text} is not bound to node '{node.text}'"
  | .noTransition node => s!"no transition out of node '{node.text}' is available"
  | .transitionNotAvailable node key =>
      s!"transition '{key.text}' out of node '{node.text}' is not available"

/-- Why a call fails. -/
inductive ServiceFault where
  | definition (fault : DefinitionFault)
  | mismatch (fault : StateMismatch)
  | instanceNotFound (id : InstanceId)
  | store (fault : StoreFault)
deriving DecidableEq

namespace ServiceFault

def message : ServiceFault → String
  | .definition fault => fault.message
  | .mismatch fault => fault.message
  | .instanceNotFound id => s!"process instance not found: {id.uuid.text}"
  | .store fault => s!"store error: {fault.message}"

/-- Is the request to blame, and not the system? -/
def isRejection : ServiceFault → Bool
  | .mismatch _ | .instanceNotFound _ => true
  | .definition _ | .store _ => false

end ServiceFault

end FormFlow

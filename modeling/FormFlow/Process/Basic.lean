import FormFlow.Identifier.Basic

/-!
# Processes

A process is the graph that documents walk: nodes, of which steps are bound to forms, and edges
between them. The order of the edges matters, for they are always considered in the order of the
definition. Nothing is assumed about the graph: nodes may share an id and edges may lead nowhere.
-/

namespace FormFlow

inductive NodeKind where
  | start
  /-- A step with a form to fill in. -/
  | step
  /-- A point of routing, without a form. -/
  | gateway
  | finish
deriving DecidableEq

namespace NodeKind

def name : NodeKind → String
  | .start => "start"
  | .step => "step"
  | .gateway => "gateway"
  | .finish => "end"

def ofName? : String → Option NodeKind
  | "start" => some .start
  | "step" => some .step
  | "gateway" => some .gateway
  | "end" => some .finish
  | _ => none

@[simp] theorem ofName?_name (kind : NodeKind) : ofName? kind.name = some kind := by
  cases kind <;> rfl

end NodeKind

structure Node where
  id : NodeId
  kind : NodeKind
  label : String
  form : Option FormId
  /-- A condition kept for designers; routing follows the order of the edges. -/
  condition : Option String
  /-- Validators that decide about fields while a document is here. -/
  validators : List ValidatorKey
deriving DecidableEq

namespace Node

/-- A node with nothing but an id and a kind. -/
def bare (id : NodeId) (kind : NodeKind) : Node :=
  { id, kind, label := "", form := none, condition := none, validators := [] }

/-- A step bound to a form. -/
def step (id : NodeId) (form : FormId) : Node :=
  { bare id .step with form := some form }

end Node

structure Edge where
  id : EdgeId
  source : NodeId
  target : NodeId
  key : EdgeKey
  label : String
  /-- A condition that must hold for the edge to be open. -/
  condition : Option String
  /-- Validators that must allow the step along the edge. -/
  gates : List ValidatorKey
deriving DecidableEq

/-- An edge with nothing but its ends, keyed by its id. -/
def Edge.between (id : EdgeId) (source target : NodeId) : Edge :=
  { id, source, target, key := ⟨id.text⟩, label := "", condition := none, gates := [] }

structure Process where
  id : ProcessId
  name : String
  description : String
  version : UInt32
  project : Option ProjectId
  nodes : List Node
  edges : List Edge
deriving DecidableEq

namespace Process

/-- A first version without a description. -/
def ofGraph (id : ProcessId) (name : String) (project : Option ProjectId) (nodes : List Node)
    (edges : List Edge) : Process :=
  { id, name, description := "", version := 1, project, nodes, edges }

/-- The first node with an id. -/
def node? (process : Process) (id : NodeId) : Option Node :=
  process.nodes.find? fun node => node.id = id

/-- The first start node. -/
def start? (process : Process) : Option Node :=
  process.nodes.find? fun node => node.kind = .start

/-- The edges that leave a node. -/
def edgesFrom (process : Process) (id : NodeId) : List Edge :=
  process.edges.filter fun edge => edge.source = id

def hasOutgoing (process : Process) (id : NodeId) : Bool :=
  !(process.edgesFrom id).isEmpty

theorem mem_edgesFrom {process : Process} {id : NodeId} {edge : Edge} :
    edge ∈ process.edgesFrom id ↔ edge ∈ process.edges ∧ edge.source = id := by
  simp [edgesFrom]

theorem node?_some {process : Process} {id : NodeId} {node : Node}
    (hfound : process.node? id = some node) : node ∈ process.nodes ∧ node.id = id :=
  ⟨List.mem_of_find?_eq_some hfound, by simpa using List.find?_some hfound⟩

end Process

end FormFlow

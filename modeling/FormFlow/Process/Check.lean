import FormFlow.Process.Basic

/-!
# Checking processes

A check lists what a designer should repair in a graph. Processes with issues are run all the same.
-/

namespace FormFlow

/-- Something wrong with the graph of a process. -/
inductive Issue where
  | noStart
  | severalStarts (nodes : List NodeId)
  /-- A node repeats the id of an earlier one. -/
  | duplicateNode (node : NodeId)
  /-- An edge has an end that is no node; the source is named if both are none. -/
  | danglingEdge (edge : EdgeId) (missing : NodeId)
  | stepWithoutForm (node : NodeId)
  /-- No path leads from the first start node to the node. -/
  | unreachable (node : NodeId)
deriving DecidableEq

namespace Process

def nodeIds (process : Process) : List NodeId :=
  process.nodes.map Node.id

/-- The ids of the start nodes. -/
def startIds (process : Process) : List NodeId :=
  (process.nodes.filter fun node => node.kind = .start).map Node.id

/-- There should be exactly one start node. -/
def startIssues (process : Process) : List Issue :=
  match process.startIds with
  | [] => [.noStart]
  | [_] => []
  | several => [.severalStarts several]

/-- The issues of the nodes after those whose ids are `seen`. A repeated node is looked at no
further. -/
def nodeIssuesAfter (seen : List NodeId) : List Node → List Issue
  | [] => []
  | node :: rest =>
      if node.id ∈ seen then .duplicateNode node.id :: nodeIssuesAfter seen rest
      else
        (if node.kind = .step ∧ node.form = none then [.stepWithoutForm node.id] else []) ++
          nodeIssuesAfter (node.id :: seen) rest

/-- The end of an edge that is no node. -/
def danglingEnd? (process : Process) (edge : Edge) : Option NodeId :=
  [edge.source, edge.target].find? fun id => id ∉ process.nodeIds

def edgeIssues (process : Process) : List Issue :=
  process.edges.filterMap fun edge => (process.danglingEnd? edge).map (.danglingEdge edge.id)

/-- The edges between nodes of the process. -/
def links (process : Process) : List Edge :=
  process.edges.filter fun edge => process.danglingEnd? edge = none

/-- Add the targets of the links that leave what has been reached. -/
def spread (links : List Edge) (reached : List NodeId) : List NodeId :=
  links.foldl (fun reached edge =>
    if edge.source ∈ reached ∧ edge.target ∉ reached then edge.target :: reached
    else reached) reached

/-- Everything that links lead to from `start`. A round that adds anything adds a node, so there are
no more rounds that do than nodes. -/
def reachableFrom (process : Process) (start : NodeId) : List NodeId :=
  Nat.repeat (spread process.links) process.nodes.length [start]

/-- Nodes that cannot be reached from the first start node, if there is one. -/
def reachIssues (process : Process) : List Issue :=
  match process.startIds with
  | [] => []
  | start :: _ =>
      let reached := process.reachableFrom start
      (process.nodeIds.filter fun id => id ∉ reached).map .unreachable

/-- Everything wrong with the graph. -/
def issues (process : Process) : List Issue :=
  process.startIssues ++ nodeIssuesAfter [] process.nodes ++ process.edgeIssues ++
    process.reachIssues

end Process

end FormFlow

import FormFlow.Process.Basic

/-!
# Walking forward

From any node a walk follows the first edge out of each node without a form, until it comes to a
node with one. It ends elsewhere when there is no edge to follow, when an edge leads to no node,
or when it comes back to where it has been.
-/

namespace FormFlow

/-- Where a walk ends. -/
inductive Resolution where
  /-- At a node with a form. -/
  | form (node : Node)
  /-- At an end node without edges. -/
  | finish (node : Node)
  /-- At another node without a form and without edges. -/
  | deadEnd (node : Node)
  /-- At a node it has already visited. -/
  | cycle (id : NodeId)
  /-- At an id that no node has. -/
  | missing (id : NodeId)
deriving DecidableEq

/-- The node with a form that a walk has come to. -/
def Resolution.form? : Resolution → Option Node
  | .form node => some node
  | _ => none

namespace Process

/-- How many nodes are not among those visited. -/
def unvisited (process : Process) (visited : List NodeId) : Nat :=
  process.nodes.countP fun node => node.id ∉ visited

/-- Visiting a node leaves fewer to visit. -/
theorem unvisited_cons_lt {process : Process} {visited : List NodeId} {node : Node}
    (hmem : node ∈ process.nodes) (hfresh : node.id ∉ visited) :
    process.unvisited (node.id :: visited) < process.unvisited visited := by
  obtain ⟨before, after, hsplit⟩ := List.append_of_mem hmem
  have hle : ∀ nodes : List Node,
      nodes.countP (fun other => other.id ∉ node.id :: visited) ≤
        nodes.countP (fun other => other.id ∉ visited) := fun nodes =>
    List.countP_mono_left fun other _ => by simp
  rw [unvisited, unvisited, hsplit, List.countP_append, List.countP_append, List.countP_cons,
    List.countP_cons, if_neg (by simp), if_pos (by simpa using hfresh)]
  have hlower := hle before
  have hupper := hle after
  omega

/-- The walk from a node, given the nodes it has visited before. -/
def walk (process : Process) (visited : List NodeId) (current : NodeId) : Resolution :=
  if current ∈ visited then .cycle current
  else
    match _ : process.node? current with
    | none => .missing current
    | some node =>
        if node.form.isSome then .form node
        else
          match (process.edgesFrom current).head? with
          | some edge => process.walk (current :: visited) edge.target
          | none => if node.kind = .finish then .finish node else .deadEnd node
termination_by process.unvisited visited
decreasing_by
  obtain ⟨hmem, rfl⟩ := node?_some ‹process.node? current = some _›
  exact unvisited_cons_lt hmem ‹_›

/-- Where the walk from a node ends. -/
def resolveForward (process : Process) (start : NodeId) : Resolution :=
  process.walk [] start

end Process

end FormFlow

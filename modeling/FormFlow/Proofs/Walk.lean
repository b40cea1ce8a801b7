import FormFlow.Process.Walk
import Mathlib.Logic.Relation

/-!
# Where walks end

A walk follows first edges to where it stops, unless it goes round in a circle. If it ends at a form
it has come to a node of the process which is bound to one, and the walk from that node stays there.
-/

namespace FormFlow

theorem Resolution.form?_eq_some_iff {resolution : Resolution} {node : Node} :
    resolution.form? = some node ↔ resolution = .form node := by
  cases resolution <;> simp [Resolution.form?]

namespace Process

section Following

variable (process : Process)

/-- The walk goes on from a node without a form to the target of the first edge out of it. -/
def Follows (id next : NodeId) : Prop :=
  ∃ node edge, process.node? id = some node ∧ node.form = none ∧
    (process.edgesFrom id).head? = some edge ∧ edge.target = next

/-- What there is at the id where a walk stops that does not go round in a circle. -/
inductive Stops : NodeId → Resolution → Prop
  | form {node : Node} (hknown : process.node? node.id = some node) (hbound : node.form.isSome) :
      Stops node.id (.form node)
  | finish {node : Node} (hknown : process.node? node.id = some node) (hblank : node.form = none)
      (hisolated : process.edgesFrom node.id = []) (hkind : node.kind = .finish) :
      Stops node.id (.finish node)
  | deadEnd {node : Node} (hknown : process.node? node.id = some node) (hblank : node.form = none)
      (hisolated : process.edgesFrom node.id = []) (hkind : node.kind ≠ .finish) :
      Stops node.id (.deadEnd node)
  | missing {id : NodeId} (hunknown : process.node? id = none) : Stops id (.missing id)

/-- A walk goes round in a circle, or follows edges to where it stops. -/
theorem walk_cycle_or_stops (visited : List NodeId) (current : NodeId) :
    (∃ id, process.walk visited current = .cycle id) ∨
      ∃ last, Relation.ReflTransGen process.Follows current last ∧
        process.Stops last (process.walk visited current) := by
  fun_induction process.walk visited current with
  | case1 visited current _ => exact .inl ⟨current, rfl⟩
  | case2 visited current _ hunknown => exact .inr ⟨current, .refl, .missing hunknown⟩
  | case3 visited current _ node hknown hbound =>
      obtain rfl := (node?_some hknown).2
      exact .inr ⟨node.id, .refl, .form hknown hbound⟩
  | case4 visited current _ node hknown hblank edge hfirst ih =>
      have follows : process.Follows current edge.target :=
        ⟨node, edge, hknown, by simpa using hblank, hfirst, rfl⟩
      rcases ih with hcircles | ⟨last, path, stops⟩
      · exact .inl hcircles
      · exact .inr ⟨last, path.head follows, stops⟩
  | case5 visited current _ node hknown hblank hisolated hkind =>
      obtain rfl := (node?_some hknown).2
      refine .inr ⟨node.id, .refl, .finish hknown ?_ ?_ hkind⟩
      · simpa using hblank
      · exact List.head?_eq_none_iff.mp hisolated
  | case6 visited current _ node hknown hblank hisolated hkind =>
      obtain rfl := (node?_some hknown).2
      refine .inr ⟨node.id, .refl, .deadEnd hknown ?_ ?_ hkind⟩
      · simpa using hblank
      · exact List.head?_eq_none_iff.mp hisolated

end Following

variable {process : Process} {visited : List NodeId} {current : NodeId} {node : Node}

/-- The node at which a walk ends with a form is the first one with its id, and has a form. -/
theorem walk_form (h : process.walk visited current = .form node) :
    process.node? node.id = some node ∧ node.form.isSome := by
  rcases process.walk_cycle_or_stops visited current with ⟨id, hcircles⟩ | ⟨last, -, stops⟩
  · exact nomatch hcircles.symm.trans h
  · rw [h] at stops
    cases stops with
    | form hknown hbound => exact ⟨hknown, hbound⟩

theorem resolveForward_form (h : process.resolveForward current = .form node) :
    process.node? node.id = some node ∧ node.form.isSome :=
  walk_form h

/-- A node with a form resolves to itself. -/
theorem resolveForward_of_form (hn : process.node? node.id = some node) (hf : node.form.isSome) :
    process.resolveForward node.id = .form node := by
  rw [resolveForward, walk, if_neg (by simp)]
  split
  next h => simp [hn] at h
  next found h =>
    obtain rfl : found = node := by simpa [hn] using h.symm
    rw [if_pos hf]

/-- The walk from where a walk has ended with a form ends there again. -/
theorem resolveForward_fixed (h : process.resolveForward current = .form node) :
    process.resolveForward node.id = .form node :=
  resolveForward_of_form (resolveForward_form h).1 (resolveForward_form h).2

end Process

end FormFlow

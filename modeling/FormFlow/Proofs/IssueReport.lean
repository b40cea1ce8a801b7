import FormFlow.Proofs.Reachability

/-!
# What the check of a process reports

Each part of the check reports issues of its own sort, so what is reported can be told part by part.
A repeated node is reported for each repetition of its id, a dangling edge once, and a node is
reported as unreachable exactly if no path leads to it from the first start node.
-/

namespace FormFlow

open Relation

/-- The parts of the check. -/
inductive CheckPart where
  | starts | nodes | edges | paths
deriving DecidableEq

/-- The part of the check that reports an issue. -/
def Issue.part : Issue → CheckPart
  | .noStart | .severalStarts _ => .starts
  | .duplicateNode _ | .stepWithoutForm _ => .nodes
  | .danglingEdge _ _ => .edges
  | .unreachable _ => .paths

namespace Process

variable {process : Process} {edge : Edge} {issue : Issue} {id missing : NodeId}

/-! ## Start nodes -/

theorem part_of_mem_startIssues (hmem : issue ∈ process.startIssues) : issue.part = .starts := by
  unfold startIssues at hmem
  split at hmem
  · rw [List.mem_singleton.mp hmem]
    rfl
  · cases hmem
  · rw [List.mem_singleton.mp hmem]
    rfl

theorem length_startIds (process : Process) :
    process.startIds.length = process.nodes.countP fun node => node.kind = .start := by
  rw [startIds, List.length_map, List.countP_eq_length_filter]

theorem head?_startIds (process : Process) :
    process.startIds.head? = process.start?.map Node.id := by
  rw [startIds, List.head?_map, List.head?_filter]
  rfl

theorem mem_nodeIds_of_start? {first : Node} (hstart : process.start? = some first) :
    first.id ∈ process.nodeIds :=
  List.mem_map_of_mem (List.mem_of_find?_eq_some hstart)

/-! ## Nodes -/

theorem part_of_mem_nodeIssuesAfter {seen : List NodeId} {nodes : List Node}
    (hmem : issue ∈ nodeIssuesAfter seen nodes) : issue.part = .nodes := by
  induction nodes generalizing seen with
  | nil => cases hmem
  | cons node rest ih =>
      rw [nodeIssuesAfter] at hmem
      split at hmem
      · rcases List.mem_cons.mp hmem with rfl | hlater
        · rfl
        · exact ih hlater
      · rcases List.mem_append.mp hmem with hhere | hlater
        · split at hhere
          · rw [List.mem_singleton.mp hhere]
            rfl
          · cases hhere
        · exact ih hlater

/-- A node is reported for every id that has been seen before it. -/
theorem count_nodeIssuesAfter (seen : List NodeId) (nodes : List Node) (id : NodeId) :
    (nodeIssuesAfter seen nodes).count (.duplicateNode id) =
      (nodes.map Node.id).count id - if id ∈ seen then 0 else 1 := by
  induction nodes generalizing seen with
  | nil => simp [nodeIssuesAfter]
  | cons node rest ih =>
      rw [nodeIssuesAfter, List.map_cons, List.count_cons]
      by_cases hknown : node.id ∈ seen
      · rw [if_pos hknown, List.count_cons, ih]
        by_cases hsame : node.id = id
        · subst hsame
          simp [hknown]
        · simp [hsame]
      · have hsilent : (if node.kind = .step ∧ node.form = none then
            [Issue.stepWithoutForm node.id] else []).count (.duplicateNode id) = 0 := by
          split <;> simp
        rw [if_neg hknown, List.count_append, hsilent, ih, Nat.zero_add]
        by_cases hsame : node.id = id
        · subst hsame
          simp [hknown]
        · simp [hsame, Ne.symm hsame]

theorem nodeIssuesAfter_eq_nil_iff {seen : List NodeId} {nodes : List Node} :
    nodeIssuesAfter seen nodes = [] ↔
      (nodes.map Node.id).Nodup ∧ (∀ node ∈ nodes, node.id ∉ seen) ∧
        ∀ node ∈ nodes, node.kind = .step → node.form.isSome := by
  induction nodes generalizing seen with
  | nil => simp [nodeIssuesAfter]
  | cons node rest ih =>
      rw [nodeIssuesAfter]
      by_cases hknown : node.id ∈ seen
      · simp [hknown]
      · have hbound : (if node.kind = .step ∧ node.form = none then
            [Issue.stepWithoutForm node.id] else []) = [] ↔
              (node.kind = .step → node.form.isSome) := by
          cases node.form <;> simp
        rw [if_neg hknown, List.append_eq_nil_iff, hbound, ih, List.map_cons, List.nodup_cons,
          List.forall_mem_cons, List.forall_mem_cons]
        simp only [List.mem_cons, not_or, List.mem_map, not_exists, not_and]
        constructor
        · rintro ⟨hhere, hdistinct, hfresh, hlater⟩
          exact ⟨⟨fun other hmem => (hfresh other hmem).1, hdistinct⟩,
            ⟨hknown, fun other hmem => (hfresh other hmem).2⟩, hhere, hlater⟩
        · rintro ⟨⟨hapart, hdistinct⟩, ⟨-, hfresh⟩, hhere, hlater⟩
          exact ⟨hhere, hdistinct, fun other hmem => ⟨hapart other hmem, hfresh other hmem⟩, hlater⟩

/-! ## Edges -/

/-- An end of an edge is no node. If neither end is one, it is the source that counts. -/
def Lacks (process : Process) (edge : Edge) (missing : NodeId) : Prop :=
  missing ∉ process.nodeIds ∧
    (edge.source = missing ∨ edge.source ∈ process.nodeIds ∧ edge.target = missing)

instance (process : Process) (edge : Edge) (missing : NodeId) :
    Decidable (process.Lacks edge missing) :=
  inferInstanceAs (Decidable (_ ∧ _))

theorem danglingEnd?_eq_some_iff :
    process.danglingEnd? edge = some missing ↔ process.Lacks edge missing := by
  unfold danglingEnd? Lacks
  by_cases hsource : edge.source ∈ process.nodeIds <;>
    by_cases htarget : edge.target ∈ process.nodeIds <;>
      grind

theorem part_of_mem_edgeIssues (hmem : issue ∈ process.edgeIssues) : issue.part = .edges := by
  obtain ⟨edge, -, h⟩ := List.mem_filterMap.mp hmem
  obtain ⟨missing, -, rfl⟩ := Option.map_eq_some_iff.mp h
  rfl

theorem count_edgeIssues (process : Process) (name : EdgeId) (missing : NodeId) :
    process.edgeIssues.count (.danglingEdge name missing) =
      process.edges.countP fun edge => edge.id = name ∧ process.Lacks edge missing := by
  rw [edgeIssues, List.count, List.countP_filterMap]
  apply List.countP_congr
  intro edge _
  rw [decide_eq_true_iff, ← danglingEnd?_eq_some_iff]
  cases process.danglingEnd? edge <;> simp

/-! ## Paths -/

/-- Nothing can be reached without a start node, and what the paths from the first one lead to is
not reported. -/
theorem mem_reachIssues_iff : issue ∈ process.reachIssues ↔
    ∃ id first, issue = .unreachable id ∧ process.start? = some first ∧ id ∈ process.nodeIds ∧
      ¬ ReflTransGen process.Links first.id id := by
  have hhead := process.head?_startIds
  unfold reachIssues
  split
  next hstarts =>
    rw [hstarts] at hhead
    simp [Option.map_eq_none_iff.mp hhead.symm]
  next start rest hstarts =>
    rw [hstarts] at hhead
    obtain ⟨first, hfirst, rfl⟩ := Option.map_eq_some_iff.mp hhead.symm
    simp only [List.mem_map, List.mem_filter, decide_eq_true_iff,
      mem_reachableFrom_iff (mem_nodeIds_of_start? hfirst), hfirst, Option.some.injEq]
    constructor
    · rintro ⟨id, ⟨hmem, hcut⟩, rfl⟩
      exact ⟨id, first, rfl, rfl, hmem, hcut⟩
    · rintro ⟨id, _, rfl, rfl, hmem, hcut⟩
      exact ⟨id, ⟨hmem, hcut⟩, rfl⟩

theorem reachIssues_eq_nil_iff : process.reachIssues = [] ↔
    ∀ first, process.start? = some first →
      ∀ id ∈ process.nodeIds, ReflTransGen process.Links first.id id := by
  rw [List.eq_nil_iff_forall_not_mem]
  constructor
  · intro hsilent first hstart id hmem
    apply Classical.byContradiction
    exact fun hcut => hsilent _ (mem_reachIssues_iff.mpr ⟨id, first, rfl, hstart, hmem, hcut⟩)
  · intro hreached issue hmem
    obtain ⟨id, first, -, hstart, hknown, hcut⟩ := mem_reachIssues_iff.mp hmem
    exact hcut (hreached first hstart id hknown)

/-! ## The whole check -/

/-- What a part of the check reports. -/
def issuesOf (process : Process) : CheckPart → List Issue
  | .starts => process.startIssues
  | .nodes => nodeIssuesAfter [] process.nodes
  | .edges => process.edgeIssues
  | .paths => process.reachIssues

theorem part_of_mem_issuesOf {part : CheckPart} (hmem : issue ∈ process.issuesOf part) :
    issue.part = part := by
  cases part with
  | starts => exact part_of_mem_startIssues hmem
  | nodes => exact part_of_mem_nodeIssuesAfter hmem
  | edges => exact part_of_mem_edgeIssues hmem
  | paths =>
      obtain ⟨id, first, rfl, -⟩ := mem_reachIssues_iff.mp hmem
      rfl

/-- An issue is reported as often as by the part that it comes from. -/
theorem count_issues (process : Process) (issue : Issue) :
    process.issues.count issue = (process.issuesOf issue.part).count issue := by
  have hsilent : ∀ part, part ≠ issue.part → (process.issuesOf part).count issue = 0 :=
    fun part hother => List.count_eq_zero.mpr fun hmem => hother (part_of_mem_issuesOf hmem).symm
  have hsum : process.issues.count issue =
      (process.issuesOf .starts).count issue + (process.issuesOf .nodes).count issue +
        (process.issuesOf .edges).count issue + (process.issuesOf .paths).count issue := by
    simp only [issues, issuesOf, List.count_append]
  rw [hsum]
  cases hpart : issue.part <;> rw [hpart] at hsilent <;> simp [hsilent]

theorem mem_issues_iff : issue ∈ process.issues ↔ issue ∈ process.issuesOf issue.part := by
  rw [← List.count_pos_iff, count_issues, List.count_pos_iff]

/-- A graph that a designer need not repair. -/
structure WellFormed (process : Process) : Prop where
  start : (process.nodes.countP fun node => node.kind = .start) = 1
  distinct : process.nodeIds.Nodup
  ends : ∀ edge ∈ process.edges,
    edge.source ∈ process.nodeIds ∧ edge.target ∈ process.nodeIds
  forms : ∀ node ∈ process.nodes, node.kind = .step → node.form.isSome
  reached : ∀ first, process.start? = some first →
    ∀ id ∈ process.nodeIds, ReflTransGen process.Links first.id id

theorem issues_eq_nil_iff : process.issues = [] ↔ process.WellFormed := by
  have hstart : process.startIssues = [] ↔
      (process.nodes.countP fun node => node.kind = .start) = 1 := by
    rw [startIssues_eq_nil_iff, ← length_startIds, List.length_eq_one_iff]
  simp only [issues, List.append_eq_nil_iff, hstart, nodeIssuesAfter_eq_nil_iff,
    edgeIssues_eq_nil_iff, reachIssues_eq_nil_iff]
  constructor
  · rintro ⟨⟨⟨hstart, hdistinct, -, hforms⟩, hends⟩, hreached⟩
    exact ⟨hstart, hdistinct, hends, hforms, hreached⟩
  · rintro ⟨hstart, hdistinct, hends, hforms, hreached⟩
    exact ⟨⟨⟨hstart, hdistinct, fun _ _ => List.not_mem_nil, hforms⟩, hends⟩, hreached⟩

end Process

/-- The check of any graph, whatever its ids and edges. It finds nothing exactly if there is one
start node, no id is repeated, the ends of every edge are nodes, every step has a form, and paths of
edges lead from the start node to every node. A node is reported as unreachable exactly if no path
of edges between nodes leads to its id from that of the first start node; a dangling edge is
reported once, under its source if that is missing too; and an id is reported as a duplicate once
for every node after the first that has it. -/
theorem check_reports_what_is_wrong (process : Process) :
    (process.issues = [] ↔ process.WellFormed) ∧
    (∀ id, .unreachable id ∈ process.issues ↔
      ∃ first, process.start? = some first ∧ id ∈ process.nodeIds ∧
        ¬ ReflTransGen process.Links first.id id) ∧
    (∀ name missing, process.issues.count (.danglingEdge name missing) =
      process.edges.countP fun edge => edge.id = name ∧ process.Lacks edge missing) ∧
    ∀ id, process.issues.count (.duplicateNode id) = process.nodeIds.count id - 1 := by
  refine ⟨Process.issues_eq_nil_iff, ?_, ?_, ?_⟩
  · intro id
    rw [Process.mem_issues_iff]
    apply Process.mem_reachIssues_iff.trans
    constructor
    · rintro ⟨_, first, hsame, hfound⟩
      cases hsame
      exact ⟨first, hfound⟩
    · rintro ⟨first, hfound⟩
      exact ⟨id, first, rfl, hfound⟩
  · intro name missing
    rw [Process.count_issues]
    exact process.count_edgeIssues name missing
  · intro id
    rw [Process.count_issues]
    exact Process.count_nodeIssuesAfter [] process.nodes id

end FormFlow

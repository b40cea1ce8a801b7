import FormFlow.Proofs.Gates
import FormFlow.Proofs.Session

/-!
# Which edge a submit takes

A submit follows the first edge out of its step that is open and has the key the caller chooses, in
the order of the definition. It is refused when edges leave the step but none of them will do, and
completes the document when no edge leaves the step at all.
-/

namespace FormFlow

/-- Has an edge the key that a caller chooses, if the caller chooses one? -/
def Edge.hasKey (edge : Edge) (chosen : Option EdgeKey) : Bool :=
  chosen.all fun key => edge.key = key

theorem Edge.hasKey_iff {edge : Edge} {chosen : Option EdgeKey} :
    edge.hasKey chosen = true ↔ ∀ key, chosen = some key → edge.key = key := by
  simp [hasKey, Option.all_eq_true]

/-- Why a submit is refused at a node that has edges but none to take. -/
def StateMismatch.unavailable (node : NodeId) : Option EdgeKey → StateMismatch
  | none => .noTransition node
  | some key => .transitionNotAvailable node key

/-- An edge that a submit may take: it is open, and it has the key that the caller chooses, if the
caller chooses one. -/
structure Edge.Eligible (edge : Edge) (fuel : Nat) (project : Option Project) (view : View)
    (chosen : Option EdgeKey) : Prop where
  opened : edge.Open fuel project view
  chosen : ∀ key, chosen = some key → edge.key = key

namespace Process

variable {process : Process} {node : NodeId} {sandbox : Sandbox} {project : Option Project}
  {view : View} {chosen : Option EdgeKey}

theorem hasOutgoing_eq_true_iff :
    process.hasOutgoing node = true ↔ process.edgesFrom node ≠ [] := by
  simp [hasOutgoing]

theorem chooseEdge_of_no_edges (openEdges : List Edge) (h : process.edgesFrom node = []) :
    process.chooseEdge node openEdges chosen = .ok none := by
  unfold chooseEdge
  rw [if_neg]
  rw [hasOutgoing_eq_true_iff]
  exact fun hne => hne h

/-- Among open edges the first one with the key is taken. -/
theorem chooseEdge_eq (openEdges : List Edge) (h : process.edgesFrom node ≠ []) :
    process.chooseEdge node openEdges chosen =
      match openEdges.find? fun edge => edge.hasKey chosen with
      | some edge => .ok (some edge)
      | none => .error (.unavailable node chosen) := by
  unfold chooseEdge
  rw [if_pos (hasOutgoing_eq_true_iff.mpr h)]
  cases chosen with
  | none => cases openEdges <;> rfl
  | some key => rfl

theorem eligible_iff (ready : sandbox.Ready) {edge : Edge} :
    edge.isOpen sandbox project view = true ∧ edge.hasKey chosen = true ↔
      edge.Eligible sandbox.fuel project view chosen := by
  rw [Edge.isOpen_iff ready, Edge.hasKey_iff]
  constructor
  · intro h
    exact ⟨h.1, h.2⟩
  · intro h
    exact ⟨h.opened, h.chosen⟩

/-- The first edge that is eligible is taken. -/
theorem chooseEdge_of_first (ready : sandbox.Ready) {before after : List Edge} {edge : Edge}
    (hedges : process.edgesFrom node = before ++ edge :: after)
    (hedge : edge.Eligible sandbox.fuel project view chosen)
    (hbefore : ∀ other ∈ before, ¬ other.Eligible sandbox.fuel project view chosen) :
    process.chooseEdge node (process.openEdges sandbox project node view) chosen =
      .ok (some edge) := by
  have hfirst : (process.openEdges sandbox project node view).find?
      (fun edge => edge.hasKey chosen) = some edge := by
    rw [openEdges, List.find?_filter, List.find?_eq_some_iff_append]
    constructor
    · exact decide_eq_true ((eligible_iff ready).mpr hedge)
    · refine ⟨before, after, hedges, ?_⟩
      intro other hother
      rw [Bool.not_eq_true', decide_eq_false_iff_not, eligible_iff ready]
      exact hbefore other hother
  have hne : process.edgesFrom node ≠ [] := by
    rw [hedges]
    exact List.append_ne_nil_of_right_ne_nil _ (List.cons_ne_nil _ _)
  rw [chooseEdge_eq _ hne, hfirst]

/-- A submit that may take none of the edges is refused. -/
theorem chooseEdge_of_none (ready : sandbox.Ready) (hne : process.edgesFrom node ≠ [])
    (h : ∀ edge ∈ process.edgesFrom node,
      ¬ edge.Eligible sandbox.fuel project view chosen) :
    process.chooseEdge node (process.openEdges sandbox project node view) chosen =
      .error (.unavailable node chosen) := by
  have hnone : (process.openEdges sandbox project node view).find?
      (fun edge => edge.hasKey chosen) = none := by
    rw [openEdges, List.find?_filter, List.find?_eq_none]
    intro edge hedge
    rw [decide_eq_true_iff, eligible_iff ready]
    exact h edge hedge
  rw [chooseEdge_eq _ hne, hnone]

/-- The open edges do not depend on the order of the validators in the project. -/
theorem openEdges_shuffled (ready : sandbox.Ready) {owner shuffled : Project}
    (h : shuffled.validators.Perm owner.validators) :
    process.openEdges sandbox (some shuffled) node view =
      process.openEdges sandbox (some owner) node view := by
  apply List.filter_congr
  intro edge _
  rw [Bool.eq_iff_iff, Edge.isOpen_iff ready, Edge.isOpen_iff ready]
  constructor
  · exact fun hopen => hopen.shuffled h
  · exact fun hopen => hopen.shuffled h.symm

end Process

/-- In a sandbox that is ready, whatever the store, a submit of the step that the document is at
looks at the edges out of the step in the order of the definition. Without any it completes the
document, whatever key is chosen; else it follows the first one that is open and has the chosen
key, if one is chosen; and if there is none it is refused and changes nothing. The answer is the
same in whatever order the runs of the gates end, and in whatever order the project keeps its
validators. -/
theorem submit_follows_first_open_edge {store : Store} {sandbox : Sandbox} {step : OpenStep}
    {request : SubmitRequest} (ready : sandbox.Ready) (hs : step.Holds store)
    (hr : request.Names step) (submission : SubmissionId) (now : Timestamp) :
    let answer := (Service.submit sandbox request submission now).runOn store
    let edges := step.process.edgesFrom step.node.id
    let project := store.projectOf step.process
    let view := step.view request now
    let eligible := fun edge : Edge => edge.Eligible sandbox.fuel project view request.chosen
    (edges = [] → answer = step.settle store request submission now (.ok none) ∧
      answer.1 = .ok ⟨step.document.id, .completed, none, true⟩) ∧
    (∀ before edge after, edges = before ++ edge :: after → eligible edge →
      (∀ other ∈ before, ¬ eligible other) →
      answer = step.settle store request submission now (.ok (some edge))) ∧
    (edges ≠ [] → (∀ edge ∈ edges, ¬ eligible edge) →
      answer = (.error (.mismatch (.unavailable step.node.id request.chosen)), store)) ∧
    (∀ ended : Edge → List Validator, (∀ edge ∈ edges, (ended edge).Perm (edge.runs project)) →
      answer = step.settle store request submission now
        (step.process.chooseEdge step.node.id
          (edges.filter fun edge => edge.isOpenAfter sandbox (ended edge) view)
          request.chosen)) ∧
    ∀ owner shuffled : Project, project = some owner → shuffled.id = owner.id →
      shuffled.validators.Perm owner.validators →
      ((Service.submit sandbox request submission now).runOn (store.putProject shuffled)).1 =
        answer.1 := by
  intro answer edges project view eligible
  have hanswer : answer = step.settle store request submission now _ :=
    hs.runOn_submit hr sandbox submission now
  refine ⟨?_, ?_, ?_, ?_, ?_⟩
  · intro hnone
    have hcomplete : answer = step.settle store request submission now (.ok none) := by
      rw [hanswer, Process.chooseEdge_of_no_edges _ hnone]
    rw [hcomplete]
    exact ⟨rfl, rfl⟩
  · intro before edge after hedges hedge hbefore
    rw [hanswer, Process.chooseEdge_of_first ready hedges hedge hbefore]
  · intro hne hnone
    rw [hanswer, Process.chooseEdge_of_none ready hne hnone]
    rfl
  · intro ended hended
    have hopen : step.process.openEdges sandbox project step.node.id view =
        edges.filter fun edge => edge.isOpenAfter sandbox (ended edge) view :=
      List.filter_congr fun edge hedge => Edge.isOpen_eq_isOpenAfter (hended edge hedge)
    rw [hanswer, hopen]
  · intro owner shuffled howner hid hperm
    have hshuffled : (store.putProject shuffled).projectOf step.process = some shuffled :=
      Store.projectOf_putProject howner hid
    have hlater : step.Holds (store.putProject shuffled) :=
      ⟨hs.stored, hs.known, hs.active, hs.resolved, hs.bound⟩
    rw [hlater.runOn_submit hr, hanswer, hshuffled, Process.openEdges_shuffled ready hperm]
    change _ = (step.settle store request submission now (step.process.chooseEdge step.node.id
      (step.process.openEdges sandbox project step.node.id view) request.chosen)).1
    rw [howner]
    exact OpenStep.settle_answer ..

/-- A clerk sends a large purchase to approval; the same request of anyone else follows the edge
after that one, and is refused if it asks for approval by key. -/
theorem submit_follows_first_open_edge_sent :
    let submit := fun request : SubmitRequest =>
      (Service.submit Purchase.started.sandbox request ⟨⟨51⟩⟩ Purchase.noon).runOn
        Purchase.started.store
    let other := { Purchase.large with roles := [] }
    let asking := { other with chosen := some Purchase.send.key }
    submit Purchase.large = Purchase.atRequest.settle Purchase.started.store Purchase.large
        ⟨⟨51⟩⟩ Purchase.noon (.ok (some Purchase.send)) ∧
      submit other = Purchase.atRequest.settle Purchase.started.store other
        ⟨⟨51⟩⟩ Purchase.noon (.ok (some Purchase.skip)) ∧
      submit asking =
        (.error (.mismatch (.transitionNotAvailable Purchase.request.id Purchase.send.key)),
          Purchase.started.store) := by
  intro submit other asking
  have ready : Purchase.started.sandbox.Ready := Sandbox.ready_create _ (by decide)
  have hedges : Purchase.atRequest.process.edgesFrom Purchase.atRequest.node.id =
      [Purchase.send, Purchase.skip] := by decide
  have hnames : ∀ request : SubmitRequest, request.document = Purchase.document →
      request.node = Purchase.request.id → request.form = none →
      request.Names Purchase.atRequest := by
    intro request hd hn hf
    exact ⟨hd, hn, fun given h => by rw [hf] at h; cases h⟩
  refine ⟨?_, ?_, ?_⟩
  · obtain ⟨-, hfirst, -⟩ := submit_follows_first_open_edge ready Purchase.atRequest_holds
      (hnames Purchase.large rfl rfl rfl) ⟨⟨51⟩⟩ Purchase.noon
    refine hfirst [] _ _ hedges ⟨(Edge.isOpen_iff ready).mp ?_, ?_⟩ ?_
    · decide +kernel
    · exact fun key h => nomatch h
    · exact fun edge h => nomatch h
  · obtain ⟨-, hfirst, -⟩ := submit_follows_first_open_edge ready Purchase.atRequest_holds
      (hnames other rfl rfl rfl) ⟨⟨51⟩⟩ Purchase.noon
    refine hfirst [Purchase.send] _ _ hedges ⟨(Edge.isOpen_iff ready).mp ?_, ?_⟩ ?_
    · decide +kernel
    · exact fun key h => nomatch h
    · intro edge hedge heligible
      obtain rfl := List.mem_singleton.mp hedge
      refine absurd ((Edge.isOpen_iff ready).mpr heligible.opened) ?_
      decide +kernel
  · obtain ⟨-, -, hnone, -⟩ := submit_follows_first_open_edge ready Purchase.atRequest_holds
      (hnames asking rfl rfl rfl) ⟨⟨51⟩⟩ Purchase.noon
    rw [hedges] at hnone
    refine hnone (List.cons_ne_nil _ _) ?_
    intro edge hedge heligible
    have hcases : edge = Purchase.send ∨ edge = Purchase.skip := by simpa using hedge
    rcases hcases with rfl | rfl
    · refine absurd ((Edge.isOpen_iff ready).mpr heligible.opened) ?_
      decide +kernel
    · exact absurd (heligible.chosen _ rfl) (by decide)

end FormFlow

import FormFlow.Proofs.EdgeChoice
import FormFlow.Proofs.Metering

/-!
# Gates fail closed

A run of a gate that fails denies the step, whatever it would have answered. So of two ways in which
the runs of gates may end, of which the first differs from the second only by failures, the first
leaves no edge open that the second does not: lost runs close edges and never open one. A sandbox
with less fuel, one that crashes or stalls, and one that is shut down lose runs in this way.
-/

namespace FormFlow

/-- How the runs of gates end: one run for each edge and validator. -/
abbrev GateRuns := Edge → Validator → Except ValidatorFault Bool

/-- A result is the one that was expected, or a failure. -/
def LostOr {α : Type} (expected result : Except ValidatorFault α) : Prop :=
  result = expected ∨ ∃ fault, result = .error fault

namespace Edge

/-- Is an edge open, when the runs of its gates end so? -/
def isOpenBy (edge : Edge) (runs : GateRuns) (project : Option Project) (view : View) : Bool :=
  edge.condition.all (fun condition => evaluate condition view.conditions) &&
    Sandbox.tally ((edge.runs project).map (runs edge))

/-- An edge that is open although runs were lost would be open without the loss. -/
theorem isOpenBy_of_lost {edge : Edge} {weak strong : GateRuns} {project : Option Project}
    {view : View} (hlost : ∀ validator ∈ edge.runs project,
      LostOr (strong edge validator) (weak edge validator))
    (hopen : edge.isOpenBy weak project view = true) :
    edge.isOpenBy strong project view = true := by
  rw [isOpenBy, Bool.and_eq_true, Sandbox.tally_eq_true_iff, List.forall_mem_map] at hopen ⊢
  obtain ⟨hcondition, hruns⟩ := hopen
  refine ⟨hcondition, ?_⟩
  intro validator hmem
  have hallowed := hruns validator hmem
  rcases hlost validator hmem with hsame | ⟨fault, hfault⟩
  · rw [← hsame, hallowed]
  · rw [hfault] at hallowed
    cases hallowed

end Edge

namespace Process

variable {process : Process} {node : NodeId}

/-- The edges out of a node that are open when the runs of their gates end so, in the order of the
definition. -/
def openEdgesBy (process : Process) (runs : GateRuns) (project : Option Project) (node : NodeId)
    (view : View) : List Edge :=
  (process.edgesFrom node).filter fun edge => edge.isOpenBy runs project view

theorem openEdgesBy_sublist {weak strong : GateRuns} {project : Option Project} {view : View}
    (hlost : ∀ edge ∈ process.edgesFrom node, ∀ validator ∈ edge.runs project,
      LostOr (strong edge validator) (weak edge validator)) :
    (process.openEdgesBy weak project node view).Sublist
      (process.openEdgesBy strong project node view) := by
  have hweak : process.openEdgesBy weak project node view =
      (process.openEdgesBy strong project node view).filter
        fun edge => edge.isOpenBy weak project view := by
    rw [openEdgesBy, openEdgesBy, List.filter_filter]
    apply List.filter_congr
    intro edge hedge
    rw [Bool.eq_iff_iff, Bool.and_eq_true]
    constructor
    · exact fun hopen => ⟨hopen, Edge.isOpenBy_of_lost (hlost edge hedge) hopen⟩
    · exact fun hopen => hopen.1
  rw [hweak]
  exact List.filter_sublist

/-- What cannot be chosen among edges cannot be chosen among fewer of them. -/
theorem chooseEdge_refused {few many : List Edge} (hfew : few.Sublist many)
    {chosen : Option EdgeKey} {fault : StateMismatch}
    (h : process.chooseEdge node many chosen = .error fault) :
    process.chooseEdge node few chosen = .error fault := by
  by_cases hnone : process.edgesFrom node = []
  · rw [chooseEdge_of_no_edges many hnone] at h
    cases h
  · rw [chooseEdge_eq many hnone] at h
    rw [chooseEdge_eq few hnone]
    split at h
    next => cases h
    next hmany =>
      have hkeyless := List.find?_eq_none.mp hmany
      have hfound : few.find? (fun edge => edge.hasKey chosen) = none := by
        rw [List.find?_eq_none]
        exact fun edge hedge => hkeyless edge (hfew.subset hedge)
      rw [hfound]
      exact h

end Process

namespace Sandbox

/-- Each run of a gate in `weak` ends as it does in `strong`, or fails. -/
def Weaker (weak strong : Sandbox) : Prop :=
  ∀ context validator,
    LostOr (strong.allowedBy context validator) (weak.allowedBy context validator)

/-- How the runs of gates end in a sandbox. -/
def gateRuns (sandbox : Sandbox) (view : View) : GateRuns :=
  fun edge validator => sandbox.allowedBy (stepContext view.flat edge.target) validator

end Sandbox

theorem Process.openEdges_eq_openEdgesBy (process : Process) (sandbox : Sandbox)
    (project : Option Project) (node : NodeId) (view : View) :
    process.openEdges sandbox project node view =
      process.openEdgesBy (sandbox.gateRuns view) project node view :=
  List.filter_congr fun _ _ => Edge.isOpen_eq_isOpenAfter (.refl _)

/-! ## Sandboxes that lose runs -/

/-- What a script answers on some fuel it answers on more. -/
theorem Script.runCode_more {α : Type} {kind : ScriptKind} {code : String} {fuel more : Nat}
    {run : Script → Metered α} {outcome : α} (hends : ∀ script, (run script).Ends)
    (hle : fuel ≤ more) (h : runCode kind code fuel run = .ok outcome) :
    runCode kind code more run = .ok outcome := by
  obtain ⟨script, hcompile, hrun⟩ := runCode_eq_ok_iff.mp h
  obtain ⟨result, steps, htakes⟩ := hends script
  have hsame : ((run script).runWith (.withFuel more)).1 =
      ((run script).runWith (.withFuel fuel)).1 := by
    apply htakes.exact.more fuel more none hle
    intro hempty
    cases hrun.symm.trans hempty
  exact runCode_eq_ok_iff.mpr ⟨script, hcompile, hsame.trans hrun⟩

namespace Sandbox

variable {sandbox weak strong : Sandbox}

/-- A run has an outcome only in a sandbox that is ready. -/
theorem ready_of_run_ok {α : Type} {script : Except ScriptFault α} {outcome : α}
    (h : sandbox.run script = .ok outcome) : sandbox.Ready := by
  obtain ⟨engine, fuel, free, closed, timeout⟩ := sandbox
  cases closed with
  | true => cases h
  | false =>
      cases free with
      | zero => cases h
      | succ others =>
          by_cases htime : timeout = 0
          · cases engine <;> simp [run, Pool.run, Engine.job, Pool.inTime, htime] at h
          · cases engine with
            | interpreting => exact ⟨rfl, rfl, Nat.succ_pos others, Nat.pos_of_ne_zero htime⟩
            | crashing => simp [run, Pool.run, Engine.job, Pool.inTime, htime] at h
            | stalling => cases h

/-- A sandbox is weaker than one that is ready and gives its runs as much fuel, and a sandbox that
is not ready is weaker than any. -/
theorem weaker_of_resources (h : weak.Ready → strong.Ready ∧ weak.fuel ≤ strong.fuel) :
    weak.Weaker strong := by
  intro context validator
  cases hweak : weak.allowedBy context validator with
  | error fault => exact .inr ⟨fault, rfl⟩
  | ok allowed =>
      have ready : weak.Ready := ready_of_run_ok hweak
      obtain ⟨strongReady, hfuel⟩ := h ready
      have hcode := ready.run_eq_ok_iff.mp hweak
      have hmore := Script.runCode_more (Script.allows_ends context) hfuel hcode
      exact .inl (strongReady.run_eq_ok_iff.mpr hmore).symm

theorem shutdown_not_ready : ¬ sandbox.shutdown.Ready :=
  fun ready => Bool.noConfusion ready.accepting

/-- With less fuel a sandbox is as ready as before. -/
theorem ready_of_fuel {fuel : Nat} (h : Ready { sandbox with fuel }) : sandbox.Ready :=
  ⟨h.interpreting, h.accepting, h.room, h.time⟩

end Sandbox

/-! ## Sandboxes and submits -/

theorem Process.openEdges_sublist {weak strong : Sandbox} (hweaker : weak.Weaker strong)
    (process : Process) (project : Option Project) (node : NodeId) (view : View) :
    (process.openEdges weak project node view).Sublist
      (process.openEdges strong project node view) := by
  rw [openEdges_eq_openEdgesBy, openEdges_eq_openEdgesBy]
  exact openEdgesBy_sublist fun edge _ validator _ => hweaker _ validator

theorem OpenStep.choice_refused {weak strong : Sandbox} (hweaker : weak.Weaker strong)
    {step : OpenStep} {project : Option Project} {request : SubmitRequest} {now : Timestamp}
    {fault : StateMismatch} (h : step.choice strong project request now = .error fault) :
    step.choice weak project request now = .error fault := by
  unfold choice at h ⊢
  cases hform : request.checkForm step.node step.form with
  | error refused =>
      rw [hform] at h
      exact h
  | ok =>
      rw [hform] at h
      exact Process.chooseEdge_refused (Process.openEdges_sublist hweaker ..) h

/-- A submit that is refused in a sandbox is refused in every weaker one, for the same reason. -/
theorem submit_refused_of_weaker {weak strong : Sandbox} (hweaker : weak.Weaker strong)
    {store : Store} {request : SubmitRequest} {submission : SubmissionId} {now : Timestamp}
    {fault : ServiceFault}
    (h : ((Service.submit strong request submission now).runOn store).1 = .error fault) :
    (Service.submit weak request submission now).runOn store = (.error fault, store) := by
  rw [runOn_submit] at h ⊢
  cases hopen : store.openStep request.document request.node with
  | error refused =>
      rw [hopen] at h
      cases h
      rfl
  | ok step =>
      rw [hopen] at h
      cases hchoice : step.choice strong (store.projectOf step.process) request now with
      | ok taken =>
          simp only [hchoice] at h
          cases h
      | error refused =>
          simp only [hchoice] at h
          cases h
          simp only [OpenStep.choice_refused hweaker hchoice]
          rfl

/-- Gates fail closed. Let the runs of gates end in two ways, of which the first has some runs fail
that the second has answer: the edges that are open in the first way are among those that are open
in the second, in the same order. So it is in two sandboxes of which the first only fails where the
second does not, and what a submit is refused for in the second it is refused for in the first. Less
fuel makes for such a sandbox, and so does the shutdown. -/
theorem gates_fail_closed :
    (∀ (process : Process) (project : Option Project) (node : NodeId) (view : View)
        (weak strong : GateRuns),
      (∀ edge ∈ process.edgesFrom node, ∀ validator ∈ edge.runs project,
        LostOr (strong edge validator) (weak edge validator)) →
      (process.openEdgesBy weak project node view).Sublist
        (process.openEdgesBy strong project node view)) ∧
    (∀ weak strong : Sandbox, weak.Weaker strong →
      (∀ (process : Process) (project : Option Project) (node : NodeId) (view : View),
        (process.openEdges weak project node view).Sublist
          (process.openEdges strong project node view)) ∧
      ∀ (store : Store) (request : SubmitRequest) (submission : SubmissionId) (now : Timestamp)
          (fault : ServiceFault),
        ((Service.submit strong request submission now).runOn store).1 = .error fault →
        (Service.submit weak request submission now).runOn store = (.error fault, store)) ∧
    (∀ (sandbox : Sandbox) (fuel : Nat), fuel ≤ sandbox.fuel →
      Sandbox.Weaker { sandbox with fuel } sandbox) ∧
    ∀ sandbox : Sandbox, sandbox.shutdown.Weaker sandbox := by
  refine ⟨?_, ?_, ?_, ?_⟩
  · intro process project node view weak strong hlost
    exact Process.openEdgesBy_sublist hlost
  · intro weak strong hweaker
    constructor
    · exact Process.openEdges_sublist hweaker
    · intro store request submission now fault h
      exact submit_refused_of_weaker hweaker h
  · intro sandbox fuel hle
    apply Sandbox.weaker_of_resources
    exact fun ready => ⟨Sandbox.ready_of_fuel ready, hle⟩
  · intro sandbox
    apply Sandbox.weaker_of_resources
    exact fun ready => absurd ready Sandbox.shutdown_not_ready

/-- The way to approval is closed to a clerk when the gate runs out of fuel, or when its run is
lost, and someone who is no clerk is refused it then as before. -/
theorem gates_fail_closed_starved :
    let sandbox := Purchase.started.sandbox
    let starved : Sandbox := { sandbox with fuel := 2 }
    let view := Purchase.atRequest.view Purchase.large Purchase.noon
    let opened := fun sandbox : Sandbox =>
      Purchase.process.openEdges sandbox (some Purchase.project) Purchase.request.id view
    let lost : GateRuns := fun _ _ => .error (.pool (.timeout 2000))
    let refused : SubmitRequest :=
      { Purchase.large with roles := [], chosen := some Purchase.send.key }
    let fault : ServiceFault :=
      .mismatch (.transitionNotAvailable Purchase.request.id Purchase.send.key)
    opened sandbox = [Purchase.send, Purchase.skip] ∧
      opened starved = [Purchase.skip] ∧ (opened starved).Sublist (opened sandbox) ∧
      (Purchase.process.openEdgesBy lost (some Purchase.project) Purchase.request.id view).Sublist
        (Purchase.process.openEdgesBy (sandbox.gateRuns view) (some Purchase.project)
          Purchase.request.id view) ∧
      (Service.submit starved refused ⟨⟨51⟩⟩ Purchase.noon).runOn Purchase.started.store =
        (.error fault, Purchase.started.store) := by
  intro sandbox starved view opened lost refused fault
  obtain ⟨hruns, hsandbox, hfuel, -⟩ := gates_fail_closed
  have hweaker : starved.Weaker sandbox := hfuel sandbox 2 (by decide)
  obtain ⟨hedges, hsubmit⟩ := hsandbox starved sandbox hweaker
  refine ⟨by decide +kernel, by decide +kernel, hedges .., ?_, ?_⟩
  · exact hruns _ _ _ _ _ _ fun _ _ _ _ => .inr ⟨_, rfl⟩
  · exact hsubmit _ _ _ _ _ (by decide +kernel)

end FormFlow

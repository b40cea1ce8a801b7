import FormFlow.Process.Check
import FormFlow.Proofs.Session

/-!
# Where documents rest

A document that takes an edge is settled where the walk from its target leads: it comes to the form,
it stays at the target if the walk gets stuck or goes round in circles, and it is completed if the
walk comes to an end node or leaves the graph. A start looks for a form only. So while the
definitions stay as they are, the one kind of active document that has an end ahead of it is one
that has not been moved since it was started.
-/

namespace FormFlow

namespace Process

/-- A document may rest at a node which has a form, or from which the walk comes to nothing. -/
inductive Rests (process : Process) (node : NodeId) : Prop
  | form {here : Node} (hown : here.id = node) (hwalk : process.resolveForward node = .form here)
  | deadEnd {last : Node} (hwalk : process.resolveForward node = .deadEnd last)
  | cycle {id : NodeId} (hwalk : process.resolveForward node = .cycle id)

/-- The walk from a node comes to an end node, or to an id that no node has. -/
inductive Passes (process : Process) (node : NodeId) : Prop
  | finish {last : Node} (hwalk : process.resolveForward node = .finish last)
  | missing {id : NodeId} (hwalk : process.resolveForward node = .missing id)

/-- From the start node the walk passes by all forms. -/
def Strands (process : Process) (node : NodeId) : Prop :=
  ∃ first, process.start? = some first ∧ first.id = node ∧ process.Passes node

variable {process : Process} {node : NodeId} {edge : Edge}

theorem Passes.not_rests (hpasses : process.Passes node) : ¬ process.Rests node := by
  rintro (⟨-, hwalk⟩ | hwalk | hwalk) <;> rcases hpasses with hpasses | hpasses <;>
    exact nomatch hwalk.symm.trans hpasses

theorem rests_or_passes (h : (process.resolveForward node).form? = none) :
    process.Rests node ∨ process.Passes node := by
  cases hwalk : process.resolveForward node with
  | form here => rw [hwalk] at h; cases h
  | finish last => exact .inr (.finish hwalk)
  | deadEnd last => exact .inl (.deadEnd hwalk)
  | cycle id => exact .inl (.cycle hwalk)
  | missing id => exact .inr (.missing hwalk)

/-- A document rests at the node with the form that a walk comes to. -/
theorem rests_of_form {here : Node} (hwalk : process.resolveForward node = .form here) :
    process.Rests here.id :=
  .form rfl (resolveForward_fixed hwalk)

/-- A document rests where an edge takes it. -/
theorem Goal.rests (goal : process.Goal edge (some node)) : process.Rests node := by
  cases goal with
  | form _ hwalk => exact rests_of_form hwalk
  | deadEnd _ hwalk => exact .deadEnd hwalk
  | cycle _ hwalk => exact .cycle hwalk

end Process

/-- A document stands at a node of a known process where it may rest, or where it was started. -/
def Instance.Placed (document : Instance) (processes : Table Process) : Prop :=
  ∃ process current, processes.get? document.process = some process ∧
    document.current = some current ∧
    (process.Rests current ∨ document.context = [] ∧ process.Strands current)

/-- A document begins where it may rest, unless the walk passes by all forms. -/
theorem Process.placed_firstRecord {process : Process} {processes : Table Process} {first : Node}
    (hknown : processes.get? process.id = some process) (hstart : process.start? = some first)
    (id : InstanceId) (now : Timestamp) (number : Nat) :
    (process.firstRecord first ⟨id, process.id, some first.id, .active, [], now⟩ number).Placed
      processes := by
  unfold firstRecord
  cases hwalk : (process.resolveForward first.id).form? with
  | some node =>
      refine ⟨process, node.id, ?_, Instance.arrivedAt_current .., .inl ?_⟩
      · rw [Instance.arrivedAt_process]
        exact hknown
      · exact rests_of_form (Resolution.form?_eq_some_iff.mp hwalk)
  | none =>
      refine ⟨process, first.id, hknown, rfl, ?_⟩
      rcases rests_or_passes hwalk with rests | passes
      · exact .inl rests
      · exact .inr ⟨rfl, first, hstart, rfl, passes⟩

namespace Session

variable {session : Session} {operation : Operation} {document : Instance}

/-- An active document that an operation writes is placed. -/
theorem Writes.placed (writes : session.Writes operation document)
    (hactive : document.isActive = true) : document.Placed session.store.processes := by
  cases writes with
  | @begins id found first hknown hstart document now =>
      have hown : found.id = id := Table.key_of_get? hknown
      subst hown
      exact Process.placed_firstRecord hknown hstart document now _
  | @arrives step holds roles now =>
      obtain ⟨current, -, hwalk⟩ := holds.resolved
      refine ⟨step.process, step.node.id, ?_, Instance.arrivedAt_current .., .inl ?_⟩
      · rw [OpenStep.arrived, Instance.arrivedAt_process]
        exact holds.known
      · exact Process.rests_of_form hwalk
  | @leaves step request now taken holds _ _ _ _ =>
      cases taken with
      | none => cases hactive
      | some edge =>
          obtain ⟨goal, hgoal, hadvance⟩ := step.process.advance_goal edge
            (step.document.record step.node.id request.data now) now
          rw [OpenStep.leave, Option.elim_some, hadvance] at hactive ⊢
          cases goal with
          | none => cases hactive
          | some node => exact ⟨step.process, node, holds.known, rfl, .inl hgoal.rests⟩

/-- The processes are as they were, and every active document is placed. -/
structure Orderly (processes : Table Process) (session : Session) : Prop where
  fixed : session.store.processes = processes
  placed : ∀ id document, session.store.instances.get? id = some document →
    document.isActive = true → document.Placed processes

/-- Operations other than those of authors keep a session orderly. -/
theorem Orderly.perform {processes : Table Process} (orderly : session.Orderly processes)
    (hfixed : operation.definition? = none) : (session.perform operation).2.Orderly processes := by
  constructor
  · rw [session.perform_processes hfixed]
    exact orderly.fixed
  · intro id document hstored hactive
    rcases session.perform_writes operation with hsame | ⟨written, hput, writes⟩
    · rw [hsame] at hstored
      exact orderly.placed id document hstored hactive
    · rw [hput, Table.get?_put_document] at hstored
      by_cases hid : id = written.id
      · rw [if_pos hid] at hstored
        cases hstored
        rw [← orderly.fixed]
        exact writes.placed hactive
      · rw [if_neg hid] at hstored
        exact orderly.placed id document hstored hactive

end Session

/-- On a store that begins without documents, as long as authors change no definition and whatever
else is called in whatever order: the process of every active document is known, and the document
stands at a node where it may rest, for the node has a form or the walk from it gets stuck or goes
round in circles. The one exception is a document that nothing has been submitted to, whose process
was started although the walk from its start node comes to an end node or leaves the graph. -/
theorem active_document_rests {first last : Session} {events : List Event}
    (hempty : first.store.instances = .empty) (run : Runs first events last)
    (hfixed : ∀ event ∈ events, event.operation.definition? = none) {id : InstanceId}
    {document : Instance} (hstored : last.store.instances.get? id = some document)
    (hactive : document.status = .active) :
    ∃ process current, last.store.processes.get? document.process = some process ∧
      document.current = some current ∧
      (process.Rests current ∨ document.context = [] ∧ process.Strands current) := by
  have hbegins : first.Orderly first.store.processes := by
    refine ⟨rfl, fun id document h => ?_⟩
    rw [hempty] at h
    cases h
  have hends : last.Orderly first.store.processes :=
    run.invariant_of (fun _ _ _ hfixed orderly => orderly.perform hfixed) hfixed hbegins
  rw [hends.fixed]
  exact hends.placed id document hstored (decide_eq_true hactive)

/-- The purchase that waits for approval rests there. -/
theorem active_document_rests_waiting :
    ∃ document process, Purchase.waiting.store.instances.get? Purchase.document = some document ∧
      document.current = some Purchase.approval.id ∧
      Purchase.waiting.store.processes.get? document.process = some process ∧
      process.Rests Purchase.approval.id := by
  have hlater : Runs Purchase.started [⟨.submit Purchase.large ⟨⟨51⟩⟩ Purchase.noon, _⟩]
      Purchase.waiting := .cons trivial (.nil _)
  have fresh : (Operation.start Purchase.process.id Purchase.document Purchase.noon).Fresh
      Purchase.session.store := rfl
  have run : Runs Purchase.session [⟨.start Purchase.process.id Purchase.document Purchase.noon, _⟩,
      ⟨.submit Purchase.large ⟨⟨51⟩⟩ Purchase.noon, _⟩] Purchase.waiting := .cons fresh hlater
  have hwaits : (Purchase.waiting.store.instances.get? Purchase.document).map
      (fun document => (document.status, document.current, document.context.isEmpty)) =
        some (.active, some Purchase.approval.id, false) := by
    decide +kernel
  obtain ⟨document, hstored, hdocument⟩ := Option.map_eq_some_iff.mp hwaits
  simp only [Prod.mk.injEq] at hdocument
  obtain ⟨hactive, hthere, hfilled⟩ := hdocument
  obtain ⟨process, current, hknown, hcurrent, rests | ⟨hblank, -⟩⟩ :=
    active_document_rests rfl run (by simp [Operation.definition?]) hstored hactive
  · obtain rfl := Option.some.inj (hcurrent.symm.trans hthere)
    exact ⟨document, process, hstored, hthere, hknown, rests⟩
  · rw [hblank] at hfilled
    cases hfilled

/-! ## A document with its end ahead -/

namespace Errand

/-- An errand is done as soon as it is started. -/
def process : Process :=
  .ofGraph ⟨⟨32⟩⟩ "Errand" none [.bare ⟨"start"⟩ .start, .bare ⟨"done"⟩ .finish]
    [.between ⟨"begin"⟩ ⟨"start"⟩ ⟨"done"⟩]

def session : Session :=
  ⟨Store.empty.putProcess process, .create .standard .interpreting⟩

/-- A session in which one errand has been started. -/
def started : Session :=
  (session.perform (.start process.id Purchase.document Purchase.noon)).2

end Errand

/-- The graph has no issues and the walk from the start node comes to the end node, and yet the
errand is active after its start, at a node where no document may rest. -/
theorem started_errand_is_active :
    Errand.process.issues = [] ∧ Errand.session.store.instances = .empty ∧
      (∃ events, Runs Errand.session events Errand.started ∧
        ∀ event ∈ events, event.operation.definition? = none) ∧
      ((Errand.started.store.instances.get? Purchase.document).map
        fun document => (document.process, document.status, document.current)) =
          some (Errand.process.id, .active, some ⟨"start"⟩) ∧
      (Errand.started.store.processes.get? Errand.process.id) = some Errand.process ∧
      Errand.process.resolveForward ⟨"start"⟩ = .finish (.bare ⟨"done"⟩ .finish) ∧
      ¬ Errand.process.Rests ⟨"start"⟩ := by
  have hwalk : Errand.process.resolveForward ⟨"start"⟩ = .finish (.bare ⟨"done"⟩ .finish) := by
    decide +kernel
  have fresh : (Operation.start Errand.process.id Purchase.document Purchase.noon).Fresh
      Errand.session.store := rfl
  refine ⟨by decide +kernel, rfl, ⟨_, .cons fresh (.nil _), ?_⟩, by decide +kernel, ?_, hwalk, ?_⟩
  · simp [Operation.definition?]
  · with_unfolding_all rfl
  · exact (Process.Passes.finish hwalk).not_rests

end FormFlow

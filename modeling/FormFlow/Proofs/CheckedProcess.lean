import FormFlow.Process.Check
import FormFlow.Proofs.EdgeChoice

/-!
# Processes without issues

The check of a process and the walk of a document go over the same graph in ways of their own. Where
the check finds nothing, there is a start node and every edge leads to a node. So no walk leaves the
graph, and a document that a submit completes has come to an end of its process.
-/

namespace FormFlow

open Relation

namespace Process

variable {process : Process} {id next : NodeId} {edge : Edge}

/-! ## What the check rules out -/

theorem node?_isSome_iff : (process.node? id).isSome ↔ id ∈ process.nodeIds := by
  simp [node?, nodeIds, List.find?_isSome]

theorem mem_nodeIds_of_node? {node : Node} (hknown : process.node? id = some node) :
    id ∈ process.nodeIds := by
  apply node?_isSome_iff.mp
  rw [hknown]
  rfl

theorem startIssues_eq_nil_iff : process.startIssues = [] ↔ ∃ id, process.startIds = [id] := by
  unfold startIssues
  split
  next hnone => simp [hnone]
  next id hone => simp [hone]
  next several _ hmany => simpa using hmany

theorem danglingEnd?_eq_none_iff :
    process.danglingEnd? edge = none ↔
      edge.source ∈ process.nodeIds ∧ edge.target ∈ process.nodeIds := by
  simp [danglingEnd?]

theorem edgeIssues_eq_nil_iff :
    process.edgeIssues = [] ↔ ∀ edge ∈ process.edges,
      edge.source ∈ process.nodeIds ∧ edge.target ∈ process.nodeIds := by
  simp only [edgeIssues, List.filterMap_eq_nil_iff, Option.map_eq_none_iff,
    danglingEnd?_eq_none_iff]

/-- A process has a start node if it has the id of one. -/
theorem exists_start?_of_startIds (h : process.startIds = [id]) :
    ∃ first, process.start? = some first := by
  have hmem : id ∈ process.startIds := by rw [h]; exact List.mem_singleton_self id
  obtain ⟨node, hnode, -⟩ := List.mem_map.mp hmem
  obtain ⟨hknown, hkind⟩ := List.mem_filter.mp hnode
  apply Option.isSome_iff_exists.mp
  exact List.find?_isSome.mpr ⟨node, hknown, hkind⟩

/-- What documents rely on in the graph of their process. -/
structure Sound (process : Process) : Prop where
  start : ∃ first, process.start? = some first
  targets : ∀ edge ∈ process.edges, edge.target ∈ process.nodeIds

theorem sound_of_issues (h : process.issues = []) : process.Sound := by
  simp only [issues, List.append_eq_nil_iff] at h
  obtain ⟨⟨⟨hstarts, -⟩, hedges⟩, -⟩ := h
  constructor
  · obtain ⟨id, hone⟩ := startIssues_eq_nil_iff.mp hstarts
    exact exists_start?_of_startIds hone
  · exact fun edge hedge => (edgeIssues_eq_nil_iff.mp hedges edge hedge).2

/-! ## Walks -/

theorem Sound.follows (sound : process.Sound) (follows : process.Follows id next) :
    next ∈ process.nodeIds := by
  obtain ⟨node, edge, -, -, hfirst, rfl⟩ := follows
  have hleaves : edge ∈ process.edgesFrom id := List.mem_of_head? hfirst
  exact sound.targets edge (mem_edgesFrom.mp hleaves).1

/-- Edges that lead on from a node lead to a node. -/
theorem Sound.path (sound : process.Sound) (path : ReflTransGen process.Follows id next)
    (hknown : id ∈ process.nodeIds) : next ∈ process.nodeIds := by
  induction path with
  | refl => exact hknown
  | tail _ follows _ => exact sound.follows follows

/-- No walk from a node leaves the graph. -/
theorem Sound.resolveForward_ne_missing (sound : process.Sound) (hknown : id ∈ process.nodeIds)
    (lost : NodeId) : process.resolveForward id ≠ .missing lost := by
  intro hwalk
  rcases process.walk_cycle_or_stops [] id with ⟨again, hcircles⟩ | ⟨last, path, stops⟩
  · exact nomatch hcircles.symm.trans hwalk
  · rw [show process.walk [] id = .missing lost from hwalk] at stops
    cases stops with
    | missing hunknown =>
        have hfound := node?_isSome_iff.mpr (sound.path path hknown)
        rw [hunknown] at hfound
        cases hfound

/-- An edge leads to an end node, or to a node from which first edges out of nodes without a form
lead to an end node that no edge leaves. -/
inductive LeadsToEnd (process : Process) (edge : Edge) : Prop
  | atOnce {target : Node} (hknown : process.node? edge.target = some target)
      (hkind : target.kind = .finish)
  | onward {last : Node} (path : ReflTransGen process.Follows edge.target last.id)
      (hknown : process.node? last.id = some last) (hkind : last.kind = .finish)
      (hisolated : process.edgesFrom last.id = [])

theorem leadsToEnd_of_walk {last : Node}
    (hwalk : process.resolveForward edge.target = .finish last) : process.LeadsToEnd edge := by
  rcases process.walk_cycle_or_stops [] edge.target with ⟨again, hcircles⟩ | ⟨id, path, stops⟩
  · exact nomatch hcircles.symm.trans hwalk
  · rw [show process.walk [] edge.target = .finish last from hwalk] at stops
    cases stops with
    | finish hknown hblank hisolated hkind => exact .onward path hknown hkind hisolated

/-- A document stays active at a node that has a form, or at the target of an edge from which the
walk gets stuck or goes round in a circle. -/
inductive StaysAt (process : Process) (edge : Edge) : NodeId → Prop
  | form {here : Node} (hknown : process.node? here.id = some here)
      (hwalk : process.resolveForward here.id = .form here) : StaysAt process edge here.id
  | deadEnd {last : Node} (hwalk : process.resolveForward edge.target = .deadEnd last) :
      StaysAt process edge edge.target
  | cycle {id : NodeId} (hwalk : process.resolveForward edge.target = .cycle id) :
      StaysAt process edge edge.target

/-- Along an edge of a sound process a document is completed only if the edge leads to an end, and
stays at a node otherwise. -/
theorem Sound.goal (sound : process.Sound) (hknown : edge ∈ process.edges) {place : Option NodeId}
    (goal : process.Goal edge place) :
    place.elim (process.LeadsToEnd edge) fun node =>
      node ∈ process.nodeIds ∧ process.StaysAt edge node := by
  have htarget : edge.target ∈ process.nodeIds := sound.targets edge hknown
  cases goal with
  | absent hunknown =>
      have hfound := node?_isSome_iff.mpr htarget
      rw [hunknown] at hfound
      cases hfound
  | finish hknown hkind => exact .atOnce hknown hkind
  | form _ hwalk =>
      obtain ⟨hhere, -⟩ := resolveForward_form hwalk
      exact ⟨mem_nodeIds_of_node? hhere, .form hhere (resolveForward_fixed hwalk)⟩
  | ended _ hwalk => exact leadsToEnd_of_walk hwalk
  | lost _ hwalk => exact absurd hwalk (sound.resolveForward_ne_missing htarget _)
  | deadEnd _ hwalk => exact ⟨htarget, .deadEnd hwalk⟩
  | cycle _ hwalk => exact ⟨htarget, .cycle hwalk⟩

end Process

/-! ## Submits -/

namespace OpenStep

variable {step : OpenStep} {sandbox : Sandbox} {project : Option Project}
  {request : SubmitRequest} {now : Timestamp}

/-- Without an edge to choose from a submit takes none. -/
theorem edgesFrom_of_choice_none (h : step.choice sandbox project request now = .ok none) :
    step.process.edgesFrom step.node.id = [] := by
  unfold choice at h
  split at h
  · cases h
  · apply Classical.byContradiction
    intro hdeparts
    rw [Process.chooseEdge_eq _ hdeparts] at h
    split at h <;> cases h

/-- A submit takes an edge that leaves its step. -/
theorem mem_edgesFrom_of_choice_some {edge : Edge}
    (h : step.choice sandbox project request now = .ok (some edge)) :
    edge ∈ step.process.edgesFrom step.node.id := by
  unfold choice at h
  split at h
  · cases h
  · by_cases hisolated : step.process.edgesFrom step.node.id = []
    · rw [Process.chooseEdge_of_no_edges _ hisolated] at h
      cases h
    · rw [Process.chooseEdge_eq _ hisolated] at h
      split at h
      next found hchosen =>
        cases h
        exact (List.mem_filter.mp (List.mem_of_find?_eq_some hchosen)).1
      next => cases h

/-- In a sound process a document that leaves a step comes to an end or stays at a node. -/
theorem leave_of_sound {taken : Option Edge} (sound : step.process.Sound)
    (hchoice : step.choice sandbox project request now = .ok taken) :
    let left := step.leave request.data now taken
    let edges := step.process.edgesFrom step.node.id
    left.status = .completed ∧ left.current = none ∧
        (edges = [] ∨ ∃ edge ∈ edges, taken = some edge ∧ step.process.LeadsToEnd edge) ∨
      left.status = .active ∧ ∃ edge ∈ edges, ∃ node ∈ step.process.nodeIds,
        taken = some edge ∧ left.current = some node ∧ step.process.StaysAt edge node := by
  intro left edges
  cases taken with
  | none => exact .inl ⟨rfl, rfl, .inl (edgesFrom_of_choice_none hchoice)⟩
  | some edge =>
      have hleaves : edge ∈ edges := mem_edgesFrom_of_choice_some hchoice
      obtain ⟨place, goal, hadvance⟩ := step.process.advance_goal edge
        (step.document.record step.node.id request.data now) now
      have hplace := sound.goal (Process.mem_edgesFrom.mp hleaves).1 goal
      have hleft : left = place.elim _ _ := hadvance
      rw [hleft]
      cases place with
      | none => exact .inl ⟨rfl, rfl, .inr ⟨edge, hleaves, rfl, hplace⟩⟩
      | some node => exact .inr ⟨rfl, edge, hleaves, node, hplace.1, rfl, rfl, hplace.2⟩

end OpenStep

/-- Where a process has no issues and stays as it is: it can always be started; no walk from one of
its nodes leaves the graph; and a submit that succeeds either completes the document, because no
edge leaves the step or the edge it takes leads to an end, or leaves it active at a node of the
process, which has a form or is the target of the edge. -/
theorem checked_process_is_never_left {process : Process} (hchecked : process.issues = [])
    {session : Session} (hkept : session.store.processes.get? process.id = some process) :
    (∀ id now, ∃ document, (session.perform (.start process.id id now)).1 = .ok document) ∧
    (∀ node ∈ process.nodeIds, ∀ lost, process.resolveForward node ≠ .missing lost) ∧
    ∀ (request : SubmitRequest) (submission : SubmissionId) (now : Timestamp)
      (outcome : SubmitOutcome) (document : Instance),
      session.store.instances.get? request.document = some document →
      document.process = process.id →
      (session.perform (.submit request submission now)).1 = .ok outcome →
      ∃ (step : OpenStep) (taken : Option Edge) (after : Instance),
        step.Holds session.store ∧ step.document = document ∧
        step.process = process ∧ step.node.id = request.node ∧
        step.choice session.sandbox (session.store.projectOf process) request now = .ok taken ∧
        (session.perform (.submit request submission now)).2.store.instances.get?
          request.document = some after ∧ outcome = .of after ∧
        (after.status = .completed ∧ after.current = none ∧
            (process.edgesFrom request.node = [] ∨ ∃ edge ∈ process.edgesFrom request.node,
              taken = some edge ∧ process.LeadsToEnd edge) ∨
          after.status = .active ∧ ∃ edge ∈ process.edgesFrom request.node,
            ∃ node ∈ process.nodeIds, taken = some edge ∧ after.current = some node ∧
              process.StaysAt edge node) := by
  have sound := Process.sound_of_issues hchecked
  refine ⟨?_, ?_, ?_⟩
  · intro id now
    obtain ⟨first, hstart⟩ := sound.start
    simp only [Session.perform, Session.call, runOn_start, hkept, hstart]
    exact ⟨_, rfl⟩
  · exact fun node hmem lost => sound.resolveForward_ne_missing hmem lost
  · intro request submission now outcome document hinstance hown hsucceeds
    obtain ⟨step, taken, hfound, hchoice⟩ := session.exists_of_submit_ok hsucceeds
    obtain ⟨holds, hid, hthere⟩ := Store.openStep_eq_ok_iff.mp hfound
    have hdocument : step.document = document := by
      have hstored := holds.stored
      rw [hid] at hstored
      exact Option.some.inj (hstored.symm.trans hinstance)
    have hprocess : step.process = process := by
      have hknown := holds.known
      rw [hdocument, hown] at hknown
      exact Option.some.inj (hknown.symm.trans hkept)
    have hperformed := session.perform_submit hfound hchoice submission
    let left := step.leave request.data now taken
    have hleft : request.document = left.id := hid.symm.trans (step.leave_id ..).symm
    have hafter : (session.perform (.submit request submission now)).2.store.instances.get?
        request.document = some left := by
      rw [hperformed, hleft]
      exact Table.get?_put_self session.store.instances left
    have hanswer : outcome = .of left := by
      rw [hperformed] at hsucceeds
      exact (Except.ok.inj hsucceeds).symm
    have hsettled := OpenStep.leave_of_sound (hprocess ▸ sound) hchoice
    rw [hprocess] at hchoice hsettled
    rw [hthere] at hsettled
    exact ⟨step, taken, left, holds, hdocument, hprocess, hthere, hchoice, hafter, hanswer,
      hsettled⟩

/-- The purchase has no issues, and a small one is completed along an edge that leads to an end. -/
theorem checked_process_is_never_left_small :
    let submit : Operation :=
      .submit (.plain Purchase.document Purchase.request.id []) ⟨⟨51⟩⟩ Purchase.noon
    (∃ document, (Purchase.started.perform (.start Purchase.process.id ⟨⟨42⟩⟩ Purchase.noon)).1 =
        .ok document) ∧
      Purchase.process.resolveForward ⟨"start"⟩ ≠ .missing ⟨"nowhere"⟩ ∧
      (Purchase.started.perform submit).1 = .ok ⟨Purchase.document, .completed, none, true⟩ ∧
      ∃ edge ∈ Purchase.process.edgesFrom Purchase.request.id,
        Purchase.process.LeadsToEnd edge := by
  intro submit
  have hchecked : Purchase.process.issues = [] := by decide +kernel
  have holds := Purchase.atRequest_holds
  obtain ⟨hstarts, hwalks, hsubmits⟩ := checked_process_is_never_left hchecked holds.known
  have hsucceeds : (Purchase.started.perform submit).1 =
      .ok ⟨Purchase.document, .completed, none, true⟩ := by
    decide +kernel
  obtain ⟨step, taken, after, -, -, -, -, -, -, hanswer, hcompleted | hactive⟩ :=
    hsubmits _ _ _ _ _ holds.stored rfl hsucceeds
  · obtain ⟨-, -, hisolated | ⟨edge, hleaves, -, ends⟩⟩ := hcompleted
    · have hdeparts : Purchase.process.edgesFrom Purchase.request.id ≠ [] := by decide +kernel
      exact absurd hisolated hdeparts
    · exact ⟨hstarts _ _, hwalks _ (by decide) _, hsucceeds, edge, hleaves, ends⟩
  · have hstatus : after.status = .completed := (congrArg SubmitOutcome.status hanswer).symm
    rw [hstatus] at hactive
    cases hactive.1

end FormFlow

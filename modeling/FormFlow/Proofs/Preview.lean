import FormFlow.Proofs.EdgeChoice

/-!
# What a form offers is what a submit takes

The form of a step lists transitions as if the saved draft were submitted. A submit of that draft
looks at the same view of the document, so it finds the same edges open: no caller is offered a
transition that is then refused, or refused one that was not offered.
-/

namespace FormFlow

/-- The submission that has just been stored is found. -/
theorem Store.submission?_upsert (store : Store) (submission : Submission) :
    ((store.upsert submission).submission? submission.document submission.node).map
      Submission.data = some submission.data := by
  rw [submission?_upsert_eq, if_pos rfl]
  exact congrArg some (store.withKnownId_data submission)

/-- The transitions along the edges that a submit finds open. -/
def OpenStep.offers (step : OpenStep) (store : Store) (sandbox : Sandbox)
    (request : SubmitRequest) (now : Timestamp) : List Transition :=
  (step.process.openEdges sandbox (store.projectOf step.process) step.node.id
    (step.view request now)).map Transition.along

/-- The form of a step offers what a submit of the saved data finds open. -/
theorem Store.shown_transitions {store : Store} {step : OpenStep} {request : SubmitRequest}
    (hdata : (store.submission? step.document.id step.node.id).map Submission.data =
      some request.data) (sandbox : Sandbox) (form : Form) (asked sent : Timestamp) :
    (store.shown sandbox step form request.roles asked).transitions =
      step.offers store sandbox request sent := by
  simp only [shown, hdata, Option.elim_some]
  rfl

/-- A choice among open edges is refused only if edges leave the node and no open one has the
chosen key. -/
theorem Process.chooseEdge_ok_iff {process : Process} {node : NodeId} {openEdges : List Edge}
    {chosen : Option EdgeKey} :
    (∃ taken, process.chooseEdge node openEdges chosen = .ok taken) ↔
      process.edgesFrom node = [] ∨ ∃ edge ∈ openEdges, edge.hasKey chosen = true := by
  by_cases hnone : process.edgesFrom node = []
  · simp [chooseEdge_of_no_edges openEdges hnone, hnone]
  · rw [chooseEdge_eq openEdges hnone]
    cases hfound : openEdges.find? fun edge => edge.hasKey chosen with
    | none =>
        have hno := List.find?_eq_none.mp hfound
        simpa [hnone] using hno
    | some edge =>
        have hmem := List.mem_of_find?_eq_some hfound
        have hkey : edge.hasKey chosen = true :=
          List.find?_some (p := fun edge : Edge => edge.hasKey chosen) hfound
        constructor
        · intro _
          exact .inr ⟨edge, hmem, hkey⟩
        · intro _
          exact ⟨some edge, rfl⟩

namespace OpenStep.Holds

variable {step : OpenStep} {store : Store} {sandbox : Sandbox} {request : SubmitRequest}

/-- A submit succeeds if no edge leaves its step, or if it is offered a transition with the chosen
key, or with any when it chooses none. -/
theorem submit_ok_iff (hs : step.Holds store) (sandbox : Sandbox) (hr : request.Names step)
    (submission : SubmissionId) (now : Timestamp) :
    (∃ outcome, ((Service.submit sandbox request submission now).runOn store).1 = .ok outcome) ↔
      step.process.edgesFrom step.node.id = [] ∨
        ∃ offer ∈ step.offers store sandbox request now,
          ∀ key, request.chosen = some key → offer.key = key := by
  rw [hs.runOn_submit hr]
  have hsettle : ∀ chosen : Except StateMismatch (Option Edge),
      (∃ outcome, (step.settle store request submission now chosen).1 = .ok outcome) ↔
        ∃ taken, chosen = .ok taken := by
    intro chosen
    cases chosen <;> simp [settle]
  rw [hsettle, Process.chooseEdge_ok_iff, offers]
  apply or_congr_right
  constructor
  · rintro ⟨edge, hedge, hkey⟩
    exact ⟨.along edge, List.mem_map_of_mem hedge, Edge.hasKey_iff.mp hkey⟩
  · rintro ⟨offer, hoffer, hkey⟩
    obtain ⟨edge, hedge, rfl⟩ := List.mem_map.mp hoffer
    exact ⟨edge, hedge, Edge.hasKey_iff.mpr hkey⟩

/-- A submit that chooses no key follows the edge of the first transition it is offered. -/
theorem submit_follows_first_offer (hs : step.Holds store) (hr : request.Names step)
    (hchosen : request.chosen = none) (submission : SubmissionId) (now : Timestamp)
    {first : Transition} {rest : List Transition}
    (hoffers : step.offers store sandbox request now = first :: rest) :
    ∃ edge ∈ step.process.edgesFrom step.node.id, Transition.along edge = first ∧
      let answer := (Service.submit sandbox request submission now).runOn store
      let moved := step.leave request.data now (some edge)
      answer.1 = .ok (.of moved) ∧
        answer.2.instances.get? step.document.id = some moved := by
  obtain ⟨edge, others, hopen, hfirst, -⟩ := List.map_eq_cons_iff.mp hoffers
  have hedge : edge ∈ step.process.edgesFrom step.node.id := by
    have hmem : edge ∈ step.process.openEdges sandbox (store.projectOf step.process)
        step.node.id (step.view request now) := by
      rw [hopen]
      exact List.mem_cons_self
    exact (List.mem_filter.mp hmem).1
  refine ⟨edge, hedge, hfirst, ?_⟩
  have hchoice : step.process.chooseEdge step.node.id (edge :: others) none =
      .ok (some edge) :=
    Process.chooseEdge_eq _ (List.ne_nil_of_mem hedge)
  rw [hs.runOn_submit hr, hopen, hchosen, hchoice]
  constructor
  · rfl
  · rw [← step.leave_id request.data now (some edge)]
    exact Table.get?_put_self store.instances _

end OpenStep.Holds

/-- What the caller of a submit sends for a step, choosing a key or none. -/
def OpenStep.request (step : OpenStep) (data : Fields Value) (roles : List RoleId)
    (chosen : Option EdgeKey) : SubmitRequest :=
  { document := step.document.id, node := step.node.id, form := none, data, roles, chosen }

theorem OpenStep.request_names (step : OpenStep) (data : Fields Value) (roles : List RoleId)
    (chosen : Option EdgeKey) : (step.request data roles chosen).Names step := by
  constructor
  · rfl
  · rfl
  · intro given h
    cases h

/-- A form previews a step for a caller: it is of the node of the step, shows what was saved there,
and offers what a submit of that finds open, whatever key the caller chooses and whenever. -/
structure CurrentForm.Previews (form : CurrentForm) (step : OpenStep) (store : Store)
    (sandbox : Sandbox) (saved : Fields Value) (roles : List RoleId) : Prop where
  node : form.node = step.node.id
  data : form.data = some saved
  offers : ∀ chosen now,
    form.transitions = step.offers store sandbox (step.request saved roles chosen) now

/-- The form of a step with saved data is a preview of the step, to which the document has come
now. -/
theorem OpenStep.Holds.previews {step : OpenStep} {store after : Store} {sandbox : Sandbox}
    {data : Fields Value} {roles : List RoleId} {asked : Timestamp} {form : CurrentForm}
    (hs : step.Holds store)
    (hdata : (store.submission? step.document.id step.node.id).map Submission.data = some data)
    (h : (Service.currentForm sandbox step.document.id roles asked).runOn store =
      (.ok (some form), after)) :
    (step.arrived asked).Holds after ∧
      form.Previews (step.arrived asked) after sandbox data roles := by
  rw [hs.runOn_currentForm] at h
  split at h
  · cases h
  · rename_i found _
    cases h
    rw [← step.document.arrivedAt_id step.node.id asked] at hdata
    constructor
    · exact hs.arrived asked
    · constructor
      · rfl
      · exact hdata
      · intro chosen now
        let request := (step.arrived asked).request data roles chosen
        have hsaved : (store.submission? (step.arrived asked).document.id
            (step.arrived asked).node.id).map Submission.data = some request.data := hdata
        exact Store.shown_transitions hsaved sandbox found asked now

/-- A save that succeeds has found the step of the document, and stores the data there. -/
theorem Session.perform_save {session drafted : Session} {id : InstanceId} {node : NodeId}
    {data : Fields Value} {draft : SubmissionId} {saved : Timestamp}
    (h : session.perform (.save id node data draft saved) = (.ok (), drafted)) :
    ∃ step : OpenStep, step.document.id = id ∧ step.node.id = node ∧
      step.Holds session.store ∧ step.Holds drafted.store ∧
      (drafted.store.submission? id node).map Submission.data = some data := by
  simp only [perform, call, runOn_save] at h
  split at h
  · cases h
  · rename_i step hopen
    obtain ⟨hs, rfl, rfl⟩ := Store.openStep_eq_ok_iff.mp hopen
    cases h
    exact ⟨step, rfl, rfl, hs, hs.upsert _, session.store.submission?_upsert _⟩

/-- After a save has succeeded, the form that is shown to a caller is the one of the saved node
with the saved data, and a submit of that data by the same caller goes by it: with a key it
succeeds exactly when the form offers a transition with the key, without one exactly when the form
offers any, and then it follows the edge of the first; at a node that no edge leaves it always
succeeds. And a save succeeds only at the node whose form is shown, or would be if it were in the
store. -/
theorem form_offers_what_submit_takes {session drafted : Session} {id : InstanceId}
    {node : NodeId} {data : Fields Value} {draft : SubmissionId} {saved : Timestamp}
    (hsave : session.perform (.save id node data draft saved) = (.ok (), drafted)) :
    (∀ roles asked,
      (∃ form, (session.perform (.currentForm id roles asked)).1 = .ok (some form) ∧
        form.node = node) ∨
      ∃ missing, (session.perform (.currentForm id roles asked)).1 =
        .error (.definition (.formNotFound missing))) ∧
    ∀ roles asked form shown,
      drafted.perform (.currentForm id roles asked) = (.ok (some form), shown) →
      form.node = node ∧ form.data = some data ∧
      ∃ document process, shown.store.instances.get? id = some document ∧
        shown.store.processes.get? document.process = some process ∧
        ∀ submission sent,
          let submit := fun chosen => shown.perform
            (.submit { document := id, node, form := none, data, roles, chosen } submission sent)
          (∀ key, (∃ outcome, (submit (some key)).1 = .ok outcome) ↔
            process.edgesFrom node = [] ∨ ∃ offer ∈ form.transitions, offer.key = key) ∧
          ((∃ outcome, (submit none).1 = .ok outcome) ↔
            process.edgesFrom node = [] ∨ form.transitions ≠ []) ∧
          ∀ first rest, form.transitions = first :: rest →
            ∃ edge ∈ process.edgesFrom node, Transition.along edge = first ∧
              let moved := process.advance (document.record node data sent) edge sent
              (submit none).1 = .ok (.of moved) ∧
              (submit none).2.store.instances.get? id = some moved := by
  obtain ⟨step, rfl, rfl, hs, hdrafted, hdata⟩ := Session.perform_save hsave
  constructor
  · intro roles asked
    simp only [Session.perform, Session.call, hs.runOn_currentForm]
    cases session.store.forms.get? step.form with
    | none => exact .inr ⟨step.form, rfl⟩
    | some form => exact .inl ⟨_, rfl, rfl⟩
  · intro roles asked form shown hshown
    obtain ⟨store, sandbox⟩ := drafted
    obtain ⟨after, same⟩ := shown
    have hrun : (Service.currentForm sandbox step.document.id roles asked).runOn store =
        (.ok (some form), after) := by
      rw [Session.perform, Session.call, Prod.mk.injEq, Session.mk.injEq] at hshown
      exact Prod.ext hshown.1 hshown.2.1
    obtain rfl : sandbox = same := congrArg (fun result => result.2.sandbox) hshown
    obtain ⟨hthere, hpreview⟩ := hdrafted.previews hdata hrun
    -- from here on the document is where the form has moved it
    have hid : (step.arrived asked).document.id = step.document.id :=
      step.document.arrivedAt_id ..
    rw [← hid]
    refine ⟨hpreview.node, hpreview.data, (step.arrived asked).document, step.process,
      hthere.stored, hthere.known, ?_⟩
    intro submission sent submit
    have hnames := (step.arrived asked).request_names data roles
    have hok := fun chosen => hthere.submit_ok_iff sandbox (hnames chosen) submission sent
    refine ⟨?_, ?_, ?_⟩
    · intro key
      refine (hok (some key)).trans (or_congr_right ?_)
      rw [← hpreview.offers (some key) sent]
      constructor
      · rintro ⟨offer, hoffer, hkey⟩
        exact ⟨offer, hoffer, hkey key rfl⟩
      · rintro ⟨offer, hoffer, rfl⟩
        exact ⟨offer, hoffer, fun key h => Option.some.inj h⟩
    · refine (hok none).trans (or_congr_right ?_)
      rw [← hpreview.offers none sent]
      constructor
      · rintro ⟨offer, hoffer, -⟩
        exact List.ne_nil_of_mem hoffer
      · intro hne
        obtain ⟨offer, hoffer⟩ := List.exists_mem_of_ne_nil _ hne
        refine ⟨offer, hoffer, ?_⟩
        intro key h
        cases h
    · intro first rest hfirst
      rw [hpreview.offers none sent] at hfirst
      exact hthere.submit_follows_first_offer (hnames none) rfl submission sent hfirst

/-- A clerk who has saved a large purchase is offered both ways out of the request, and may submit
it along the second. -/
theorem form_offers_what_submit_takes_clerk :
    ∃ drafted form shown,
      Purchase.started.perform (.save Purchase.document Purchase.request.id Purchase.large.data
        ⟨⟨51⟩⟩ Purchase.noon) = (.ok (), drafted) ∧
      drafted.perform (.currentForm Purchase.document Purchase.large.roles Purchase.noon) =
        (.ok (some form), shown) ∧
      form.node = Purchase.request.id ∧
      form.transitions = [.along Purchase.send, .along Purchase.skip] ∧
      ∃ outcome, (shown.perform (.submit { Purchase.large with chosen := some Purchase.skip.key }
        ⟨⟨52⟩⟩ Purchase.noon)).1 = .ok outcome := by
  let drafted := (Purchase.started.perform (.save Purchase.document Purchase.request.id
    Purchase.large.data ⟨⟨51⟩⟩ Purchase.noon)).2
  have hsave : Purchase.started.perform (.save Purchase.document Purchase.request.id
      Purchase.large.data ⟨⟨51⟩⟩ Purchase.noon) = (.ok (), drafted) := by
    with_unfolding_all rfl
  let answer := drafted.perform
    (.currentForm Purchase.document Purchase.large.roles Purchase.noon)
  have hoffers : answer.1.toOption.join.map CurrentForm.transitions =
      some [.along Purchase.send, .along Purchase.skip] := by
    decide +kernel
  obtain ⟨form, hform, htransitions⟩ := Option.map_eq_some_iff.mp hoffers
  have hshown : answer = (.ok (some form), answer.2) := by
    apply Prod.ext
    · revert hform
      rcases answer.1 with fault | (_ | found) <;> simp [Except.toOption]
    · rfl
  obtain ⟨hnode, -, document, process, -, -, hsubmit⟩ :=
    (form_offers_what_submit_takes hsave).2 _ _ _ _ hshown
  refine ⟨drafted, form, answer.2, hsave, hshown, hnode, htransitions, ?_⟩
  refine ((hsubmit ⟨⟨52⟩⟩ Purchase.noon).1 Purchase.skip.key).mpr (.inr ?_)
  rw [htransitions]
  exact ⟨.along Purchase.skip, by simp, rfl⟩

end FormFlow

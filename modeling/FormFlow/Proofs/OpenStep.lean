import FormFlow.Proofs.Decision
import FormFlow.Proofs.Walk

/-!
# Open steps

A document is at a step when it is active and the walk from its current node ends with the form
of the step. Saving, submitting and showing the current form look the step up in ways of their
own; all three find exactly this one.
-/

namespace FormFlow

/-- The store has the document and its process, the document is active, and the walk from its
current node ends at the node of the step. -/
structure OpenStep.Holds (step : OpenStep) (store : Store) : Prop where
  stored : store.instances.get? step.document.id = some step.document
  known : store.processes.get? step.document.process = some step.process
  active : step.document.isActive = true
  resolved : ∃ current, step.document.current = some current ∧
    step.process.resolveForward current = .form step.node
  bound : step.node.form = some step.form

namespace Process

variable {process : Process} {document : Instance} {given : NodeId} {node : Node} {form : FormId}

theorem currentFormNode_eq_ok_iff :
    process.currentFormNode document given = .ok (node, form) ↔
      document.isActive = true ∧
      (∃ current, document.current = some current ∧
        process.resolveForward current = .form node) ∧
      node.form = some form ∧ node.id = given := by
  constructor
  · intro h
    unfold currentFormNode at h
    split at h
    · cases h
    rename_i ha
    split at h
    · cases h
    rename_i found hr
    obtain ⟨current, hc, hw⟩ := Option.bind_eq_some_iff.mp hr
    split at h
    case isFalse => cases h
    rename_i hid
    split at h
    · rename_i hf
      cases h
      exact ⟨by simpa using ha, ⟨current, hc, Resolution.form?_eq_some_iff.mp hw⟩, hf, hid⟩
    · cases h
  · rintro ⟨ha, ⟨current, hc, hw⟩, hf, hid⟩
    simp [currentFormNode, ha, hc, hw, hf, hid, Resolution.form?]

end Process

namespace Store

variable {store : Store} {id : InstanceId} {given : NodeId} {step : OpenStep} {form : Form}

/-- A save or a submit finds the step of the document it names, if that is at the given node. -/
theorem openStep_eq_ok_iff :
    store.openStep id given = .ok step ↔
      step.Holds store ∧ step.document.id = id ∧ step.node.id = given := by
  constructor
  · intro h
    unfold openStep at h
    split at h
    · cases h
    rename_i document hd
    split at h
    · cases h
    rename_i process hp
    split at h
    · cases h
    rename_i node form hn
    cases h
    obtain ⟨ha, hr, hf, hnode⟩ := Process.currentFormNode_eq_ok_iff.mp hn
    have hid : document.id = id := id_of_get? hd
    refine ⟨⟨?_, hp, ha, hr, hf⟩, hid, hnode⟩
    rwa [hid]
  · rintro ⟨hs, hid, hnode⟩
    have hn := Process.currentFormNode_eq_ok_iff.mpr ⟨hs.active, hs.resolved, hs.bound, hnode⟩
    rw [openStep, ← hid, hs.stored]
    simp only [hs.known, hn]

/-- A caller is shown the step that the document is at. -/
theorem holds_of_shownStep (h : store.shownStep id = .ok (some (step, form))) :
    step.Holds store ∧ step.document.id = id := by
  unfold shownStep at h
  split at h
  · cases h
  rename_i document hd
  split at h
  · cases h
  rename_i current hc
  split at h
  · cases h
  rename_i ha
  split at h
  · cases h
  rename_i process hp
  split at h
  · cases h
  rename_i node hw
  split at h
  · cases h
  rename_i formId hf
  split at h
  · cases h
  cases h
  have hid : document.id = id := id_of_get? hd
  refine ⟨⟨?_, hp, by simpa using ha, ?_, hf⟩, hid⟩
  · rwa [hid]
  · exact ⟨current, hc, Resolution.form?_eq_some_iff.mp hw⟩

end Store

namespace OpenStep.Holds

variable {step : OpenStep} {store : Store}

/-- A save or a submit finds the step that the document is at under the node of the step, and under
any other node it is told that node. -/
theorem openStep_eq (hs : step.Holds store) (given : NodeId) :
    store.openStep step.document.id given =
      if step.node.id = given then .ok step
      else .error (.mismatch (.nodeMismatch given (some step.node.id))) := by
  obtain ⟨current, hc, hw⟩ := hs.resolved
  rw [Store.openStep, hs.stored]
  simp only [hs.known, Process.currentFormNode, hs.active, hc, hw, Resolution.form?, hs.bound,
    Option.bind_some, Bool.not_true, Bool.false_eq_true, if_false]
  by_cases hnode : step.node.id = given
  · simp only [if_pos hnode]
  · simp only [if_neg hnode]

/-- The form of the step that a document is at is shown, if it is in the store. -/
theorem runOn_currentForm (hs : step.Holds store) (sandbox : Sandbox) (roles : List RoleId)
    (now : Timestamp) :
    (Service.currentForm sandbox step.document.id roles now).runOn store =
      match store.forms.get? step.form with
      | none => (.error (.definition (.formNotFound step.form)), store)
      | some form =>
          (.ok (some (store.shown sandbox (step.arrived now) form roles now)),
            store.replace (step.arrived now).document) := by
  obtain ⟨current, hc, hw⟩ := hs.resolved
  rw [FormFlow.runOn_currentForm, Store.shownStep, hs.stored]
  simp only [hc, hs.active, hs.known, hw, hs.bound, Resolution.form?, Bool.not_true,
    Bool.false_eq_true, if_false]
  cases store.forms.get? step.form <;> rfl

/-- A document stays at its step when a submission is stored. -/
theorem upsert (hs : step.Holds store) (submission : Submission) :
    step.Holds (store.upsert submission) :=
  ⟨hs.stored, hs.known, hs.active, hs.resolved, hs.bound⟩

/-- A document that has come to the node of its step is still at the step. -/
theorem arrived (hs : step.Holds store) (now : Timestamp) :
    (step.arrived now).Holds (store.replace (step.arrived now).document) := by
  obtain ⟨current, hc, hw⟩ := hs.resolved
  constructor
  · exact Table.get?_put_self store.instances _
  · rw [OpenStep.arrived, Instance.arrivedAt_process]
    exact hs.known
  · exact Instance.arrivedAt_isActive _ _ hs.active
  · exact ⟨step.node.id, Instance.arrivedAt_current .., Process.resolveForward_fixed hw⟩
  · exact hs.bound

end OpenStep.Holds

/-- A request names the document and the node of a step, and no form but that of the step. -/
structure SubmitRequest.Names (request : SubmitRequest) (step : OpenStep) : Prop where
  document : request.document = step.document.id
  node : request.node = step.node.id
  form : ∀ given, request.form = some given → given = step.form

/-- A submit of the step that a document is at is settled by the choice of an edge. -/
theorem OpenStep.Holds.runOn_submit {step : OpenStep} {store : Store} {request : SubmitRequest}
    (hs : step.Holds store) (hr : request.Names step) (sandbox : Sandbox)
    (submission : SubmissionId) (now : Timestamp) :
    (Service.submit sandbox request submission now).runOn store =
      step.settle store request submission now
        (step.process.chooseEdge step.node.id
          (step.process.openEdges sandbox (store.projectOf step.process) step.node.id
            (step.view request now)) request.chosen) := by
  have hopen : store.openStep request.document request.node = .ok step :=
    Store.openStep_eq_ok_iff.mpr ⟨hs, hr.document.symm, hr.node.symm⟩
  have hform : request.checkForm step.node step.form = .ok () := by
    rw [SubmitRequest.checkForm]
    cases hf : request.form with
    | none => rfl
    | some given => exact if_pos (hr.form given hf)
  rw [FormFlow.runOn_submit, hopen]
  simp only [OpenStep.choice, hform]

end FormFlow

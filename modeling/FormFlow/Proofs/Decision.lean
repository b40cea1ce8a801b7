import FormFlow.Service.Basic

/-!
# What a call decides

Every call reads the store, decides, and only then writes. The decision is a function of the
store. For each call one equation says what it answers and what it writes, so that nothing after
this module opens a call again.
-/

namespace FormFlow

namespace ServiceCall

variable {α β : Type}

/-- A call goes on in the store that its first part leaves, unless that part fails. -/
theorem runOn_bind (call : ServiceCall α) (next : α → ServiceCall β) (store : Store) :
    (call >>= next).runOn store =
      match call.runOn store with
      | (.ok result, after) => (next result).runOn after
      | (.error fault, after) => (.error fault, after) := by
  have h : (call >>= next).runOn store =
      ((ExceptT.bindCont next (call.runOn store).1).run) (call.runOn store).2 :=
    Call.run_bind call.run (ExceptT.bindCont next) store
  rw [h]
  obtain ⟨answer, after⟩ := call.runOn store
  cases answer <;> rfl

@[simp] theorem runOn_pure (result : α) (store : Store) :
    (pure result : ServiceCall α).runOn store = (.ok result, store) := rfl

@[simp] theorem runOn_ask (request : StoreRequest) (store : Store) :
    (ask request).runOn store = (.ok (store.answer request).1, (store.answer request).2) := rfl

@[simp] theorem runOn_require_some (result : α) (fault : ServiceFault) (store : Store) :
    (require (some result) fault).runOn store = (.ok result, store) := rfl

@[simp] theorem runOn_require_none (fault : ServiceFault) (store : Store) :
    (require (none : Option α) fault).runOn store = (.error fault, store) := rfl

@[simp] theorem runOn_fits_ok (result : α) (store : Store) :
    (Service.fits (.ok result)).runOn store = (.ok result, store) := rfl

end ServiceCall

open ServiceCall

/-! ## Reading -/

/-- The catalogs among `all` under the given ids, added to those that are known. -/
def pickCatalogs (all known : Table Catalog) : List CatalogId → Table Catalog
  | [] => known
  | id :: rest =>
      match known.get? id, all.get? id with
      | none, some catalog => pickCatalogs all (known.put catalog) rest
      | _, _ => pickCatalogs all known rest

/-- A document at a step of its process, which is bound to a form. -/
structure OpenStep where
  document : Instance
  process : Process
  node : Node
  form : FormId

namespace Store

/-- The project of a process, if the store knows it. -/
def projectOf (store : Store) (process : Process) : Option Project :=
  process.project.bind store.projects.get?

/-- The row of a document in a list. -/
def summary (store : Store) (document : Instance) : DocumentSummary :=
  .of document (store.processes.get? document.process)

/-- The step that a save or a submit works on. -/
def openStep (store : Store) (id : InstanceId) (given : NodeId) : Except ServiceFault OpenStep :=
  match store.instances.get? id with
  | none => .error (.instanceNotFound id)
  | some document =>
      match store.processes.get? document.process with
      | none => .error (.definition (.processNotFound document.process))
      | some process =>
          match process.currentFormNode document given with
          | .error fault => .error (.mismatch fault)
          | .ok (node, form) => .ok ⟨document, process, node, form⟩

/-- The step that is shown to a caller, with its form; none if the document has come to none. -/
def shownStep (store : Store) (id : InstanceId) : Except ServiceFault (Option (OpenStep × Form)) :=
  match store.instances.get? id with
  | none => .error (.instanceNotFound id)
  | some document =>
      match document.current with
      | none => .ok none
      | some current =>
          if !document.isActive then .ok none
          else
            match store.processes.get? document.process with
            | none => .error (.definition (.processNotFound document.process))
            | some process =>
                match (process.resolveForward current).form? with
                | none => .ok none
                | some node =>
                    match node.form with
                    | none => .ok none
                    | some form =>
                        match store.forms.get? form with
                        | none => .error (.definition (.formNotFound form))
                        | some found => .ok (some (⟨document, process, node, form⟩, found))

/-- Write a document over the one with its id. -/
def replace (store : Store) (document : Instance) : Store :=
  { store with instances := store.instances.put document }

/-- Enter a new document, whose number is the last one given from now on. -/
def enter (store : Store) (document : Instance) : Store :=
  { store.replace document with lastNumber := document.documentNumber }

/-- The form of a step as the caller sees it. -/
def shown (store : Store) (sandbox : Sandbox) (step : OpenStep) (form : Form)
    (roles : List RoleId) (now : Timestamp) : CurrentForm :=
  let saved := (store.submission? step.document.id step.node.id).map Submission.data
  let working := saved.elim step.document fun data => step.document.record step.node.id data now
  let view := View.of working step.node.id roles
  let project := store.projectOf step.process
  let validators :=
    project.elim [] fun project => project.select step.node.validators .fieldVisibility
  let overrides := sandbox.fieldPermissions validators view.flat
  let catalogs := pickCatalogs store.catalogs .empty (form.fields.filterMap FieldDefinition.catalog)
  { form := form.render catalogs fun field => field.permission overrides view.conditions
    node := step.node.id
    data := saved
    transitions :=
      (step.process.openEdges sandbox project step.node.id view).map Transition.along
    document := step.document }

/-- The project of a process can be put anew. -/
theorem projectOf_putProject {store : Store} {process : Process} {owner project : Project}
    (h : store.projectOf process = some owner) (hid : project.id = owner.id) :
    (store.putProject project).projectOf process = some project := by
  obtain ⟨id, hproject, howner⟩ := Option.bind_eq_some_iff.mp h
  have hkey : id = project.id := by
    rw [hid]
    exact (Table.key_of_get? howner).symm
  rw [projectOf, hproject, hkey]
  exact Table.get?_put_self store.projects project

/-- A document is stored under its own id. -/
theorem id_of_get? {store : Store} {id : InstanceId} {document : Instance}
    (h : store.instances.get? id = some document) : document.id = id :=
  Table.key_of_get? h

/-- A new document replaced at once might have been entered so. -/
theorem replace_enter (store : Store) {first second : Instance} (hid : first.id = second.id)
    (hnumber : first.documentNumber = second.documentNumber) :
    (store.enter first).replace second = store.enter second := by
  simp only [replace, enter, hnumber]
  rw [Table.put_put _ hid]

theorem withKnownId_id (store : Store) (submission : Submission) :
    (store.withKnownId submission).id =
      ((store.submission? submission.document submission.node).map Submission.id).getD
        submission.id := by
  unfold withKnownId
  cases store.submission? submission.document submission.node <;> rfl

theorem withKnownId_data (store : Store) (submission : Submission) :
    (store.withKnownId submission).data = submission.data := by
  unfold withKnownId
  split <;> rfl

theorem key_withKnownId (store : Store) (submission : Submission) :
    Keyed.key (store.withKnownId submission) = (submission.document, submission.node) := by
  unfold withKnownId
  split <;> rfl

/-- A submission that is stored replaces the one of its document and node, and no other. -/
theorem submission?_upsert_eq (store : Store) (submission : Submission) (id : InstanceId)
    (node : NodeId) :
    (store.upsert submission).submission? id node =
      if (id, node) = (submission.document, submission.node) then
        some (store.withKnownId submission)
      else store.submission? id node := by
  rw [submission?, upsert, Table.get?_put, key_withKnownId]
  rfl

end Store

namespace Instance

variable (document : Instance) (node : NodeId) (now : Timestamp)

/-- A document that has come to a node. -/
def arrivedAt : Instance :=
  if document.current = some node then document else document.moveTo node now

/-- A document that has come to a node was there or has been moved there. -/
theorem arrivedAt_cases :
    document.current = some node ∧ document.arrivedAt node now = document ∨
      document.arrivedAt node now = document.moveTo node now := by
  unfold arrivedAt
  split
  next h => exact .inl ⟨h, rfl⟩
  next => exact .inr rfl

@[simp] theorem arrivedAt_id : (document.arrivedAt node now).id = document.id := by
  rcases document.arrivedAt_cases node now with ⟨-, h⟩ | h <;> rw [h]
  rfl

@[simp] theorem arrivedAt_documentNumber :
    (document.arrivedAt node now).documentNumber = document.documentNumber := by
  rcases document.arrivedAt_cases node now with ⟨-, h⟩ | h <;> rw [h]
  rfl

@[simp] theorem arrivedAt_process : (document.arrivedAt node now).process = document.process := by
  rcases document.arrivedAt_cases node now with ⟨-, h⟩ | h <;> rw [h]
  rfl

@[simp] theorem arrivedAt_current : (document.arrivedAt node now).current = some node := by
  rcases document.arrivedAt_cases node now with ⟨hthere, h⟩ | h <;> rw [h]
  · exact hthere
  · rfl

variable {document} in
theorem arrivedAt_isActive (h : document.isActive = true) :
    (document.arrivedAt node now).isActive = true := by
  rcases document.arrivedAt_cases node now with ⟨-, hsame⟩ | hmoved
  · rwa [hsame]
  · rw [hmoved]
    rfl

end Instance

theorem Instance.arrivedAt_context (document : Instance) (node : NodeId) (now : Timestamp) :
    (document.arrivedAt node now).context = document.context := by
  rcases document.arrivedAt_cases node now with ⟨-, h⟩ | h <;> rw [h]
  rfl

/-- A view shows nothing of a document but its context. -/
theorem Instance.view_congr {first second : Instance} (h : first.context = second.context)
    (node : NodeId) (roles : List RoleId) :
    View.of first node roles = View.of second node roles := by
  cases first
  cases second
  cases h
  rfl

/-- Nothing is shown of a document but its context and the document itself, nothing of the store but
projects, catalogs and the submission for the step, and nothing of the moment. -/
theorem Store.shown_congr {store other : Store} (step twin : OpenStep)
    (hprojects : store.projects = other.projects) (hcatalogs : store.catalogs = other.catalogs)
    (hprocess : step.process = twin.process) (hnode : step.node = twin.node)
    (hsubmission : store.submission? step.document.id step.node.id =
      other.submission? twin.document.id twin.node.id)
    (hcontext : step.document.context = twin.document.context) (sandbox : Sandbox) (form : Form)
    (roles : List RoleId) (now later : Timestamp) :
    store.shown sandbox step form roles now =
      { other.shown sandbox twin form roles later with document := step.document } := by
  have hview : ∀ saved : Option (Fields Value),
      View.of (saved.elim step.document fun data => step.document.record twin.node.id data now)
          twin.node.id roles =
        View.of (saved.elim twin.document fun data => twin.document.record twin.node.id data later)
          twin.node.id roles := by
    intro saved
    apply Instance.view_congr
    cases saved with
    | none => exact hcontext
    | some data => simp only [Option.elim_some, Instance.record, hcontext]
  rw [hnode] at hsubmission
  simp only [shown, projectOf, hprojects, hcatalogs, hprocess, hnode, hsubmission, hview]

/-- The first record of a document, moved on from the start node to the first step. -/
def Process.firstRecord (process : Process) (first : Node) (new : Store.NewInstance)
    (number : Nat) : Instance :=
  match (process.resolveForward first.id).form? with
  | some node => (new.numbered number).arrivedAt node.id new.now
  | none => new.numbered number

namespace Process

variable (process : Process) (edge : Edge)

/-- An edge leads to a node that is no end node. -/
def Enters : Prop :=
  ∃ target, process.node? edge.target = some target ∧ target.kind ≠ .finish

/-- Where a document that takes an edge goes, which is nowhere if that completes it. -/
inductive Goal : Option NodeId → Prop
  | absent (hunknown : process.node? edge.target = none) : Goal none
  | finish {target : Node} (hknown : process.node? edge.target = some target)
      (hkind : target.kind = .finish) : Goal none
  | form {next : Node} (enters : process.Enters edge)
      (hwalk : process.resolveForward edge.target = .form next) : Goal (some next.id)
  | ended {last : Node} (enters : process.Enters edge)
      (hwalk : process.resolveForward edge.target = .finish last) : Goal none
  | lost {id : NodeId} (enters : process.Enters edge)
      (hwalk : process.resolveForward edge.target = .missing id) : Goal none
  | deadEnd {last : Node} (enters : process.Enters edge)
      (hwalk : process.resolveForward edge.target = .deadEnd last) : Goal (some edge.target)
  | cycle {id : NodeId} (enters : process.Enters edge)
      (hwalk : process.resolveForward edge.target = .cycle id) : Goal (some edge.target)

/-- A document that takes an edge goes to the goal, or is completed if there is none. -/
theorem advance_goal (document : Instance) (now : Timestamp) :
    ∃ goal, process.Goal edge goal ∧ process.advance document edge now =
      goal.elim (document.complete now) fun node => document.moveTo node now := by
  unfold advance
  split
  next hunknown => exact ⟨none, .absent hunknown, rfl⟩
  next target hknown =>
    split
    next hkind => exact ⟨none, .finish hknown hkind, rfl⟩
    next hkind =>
      have enters : process.Enters edge := ⟨target, hknown, hkind⟩
      split
      next next hwalk => exact ⟨some next.id, .form enters hwalk, rfl⟩
      next hwalk => exact ⟨none, .ended enters hwalk, rfl⟩
      next hwalk => exact ⟨none, .lost enters hwalk, rfl⟩
      next hwalk => exact ⟨some edge.target, .deadEnd enters hwalk, rfl⟩
      next hwalk => exact ⟨some edge.target, .cycle enters hwalk, rfl⟩

end Process

namespace OpenStep

/-- The step with the document moved to it. -/
def arrived (step : OpenStep) (now : Timestamp) : OpenStep :=
  { step with document := step.document.arrivedAt step.node.id now }

/-- What the caller of a submit sees: the data of the request as if submitted. -/
def view (step : OpenStep) (request : SubmitRequest) (now : Timestamp) : View :=
  .of (step.document.record step.node.id request.data now) step.node.id request.roles

/-- The document after the step has been left along an edge, or completed without one. -/
def leave (step : OpenStep) (data : Fields Value) (now : Timestamp) (taken : Option Edge) :
    Instance :=
  let working := step.document.record step.node.id data now
  taken.elim (working.complete now) fun edge => step.process.advance working edge now

/-- A document that leaves a step is completed or moved to a node, with the data kept under the
node of the step. -/
theorem leave_cases (step : OpenStep) (data : Fields Value) (now : Timestamp)
    (taken : Option Edge) :
    step.leave data now taken = (step.document.record step.node.id data now).complete now ∨
      ∃ node, step.leave data now taken =
        (step.document.record step.node.id data now).moveTo node now := by
  unfold leave
  cases taken with
  | none => exact .inl rfl
  | some edge =>
      obtain ⟨goal, -, hadvance⟩ :=
        step.process.advance_goal edge (step.document.record step.node.id data now) now
      rw [Option.elim_some, hadvance]
      cases goal with
      | none => exact .inl rfl
      | some node => exact .inr ⟨node, rfl⟩

@[simp] theorem leave_id (step : OpenStep) (data : Fields Value) (now : Timestamp)
    (taken : Option Edge) : (step.leave data now taken).id = step.document.id := by
  rcases step.leave_cases data now taken with h | ⟨node, h⟩ <;> rw [h] <;> rfl

/-- What a submit answers and leaves behind when it is refused, or takes an edge out of the step. -/
def settle (step : OpenStep) (store : Store) (request : SubmitRequest)
    (submission : SubmissionId) (now : Timestamp) :
    Except StateMismatch (Option Edge) → Except ServiceFault SubmitOutcome × Store
  | .error fault => (.error (.mismatch fault), store)
  | .ok taken =>
      let moved := step.leave request.data now taken
      (.ok (.of moved),
        (store.upsert
          ⟨submission, moved.id, step.node.id, step.form, request.data, now⟩).replace moved)

/-- What a submit answers does not depend on the store once the edge is chosen. -/
theorem settle_answer (step : OpenStep) (store other : Store) (request : SubmitRequest)
    (submission : SubmissionId) (now : Timestamp) (chosen : Except StateMismatch (Option Edge)) :
    (step.settle store request submission now chosen).1 =
      (step.settle other request submission now chosen).1 := by
  cases chosen <;> rfl

/-- The edge that a request takes out of a step, if the request is not refused. -/
def choice (step : OpenStep) (sandbox : Sandbox) (project : Option Project)
    (request : SubmitRequest) (now : Timestamp) : Except StateMismatch (Option Edge) :=
  match request.checkForm step.node step.form with
  | .error fault => .error fault
  | .ok () =>
      step.process.chooseEdge step.node.id
        (step.process.openEdges sandbox project step.node.id (step.view request now)) request.chosen

end OpenStep

/-! ## The calls -/

section Calls

variable (store : Store)

theorem runOn_loadDocument (id : InstanceId) :
    (Service.loadDocument id).runOn store =
      ((store.instances.get? id).elim (.error (.instanceNotFound id)) .ok, store) := by
  rw [Service.loadDocument, runOn_bind]
  cases h : store.instances.get? id <;> simp [Store.answer, h]

theorem runOn_loadProcess (id : ProcessId) :
    (Service.loadProcess id).runOn store =
      ((store.processes.get? id).elim (.error (.definition (.processNotFound id))) .ok, store) := by
  rw [Service.loadProcess, runOn_bind]
  cases h : store.processes.get? id <;> simp [Store.answer, h]

theorem runOn_loadProject (process : Process) :
    (Service.loadProject process).runOn store = (.ok (store.projectOf process), store) := by
  unfold Service.loadProject Store.projectOf
  cases process.project <;> rfl

theorem runOn_loadCatalogs (known : Table Catalog) (ids : List CatalogId) :
    (Service.loadCatalogs known ids).runOn store =
      (.ok (pickCatalogs store.catalogs known ids), store) := by
  induction ids generalizing known with
  | nil => rfl
  | cons id rest ih =>
      rw [Service.loadCatalogs, pickCatalogs]
      cases hk : known.get? id with
      | some catalog => exact ih known
      | none =>
          simp only [runOn_bind, runOn_ask, Store.answer]
          cases store.catalogs.get? id with
          | none => exact ih known
          | some catalog => exact ih (known.put catalog)

theorem runOn_showForm (sandbox : Sandbox) (process : Process) (node : Node) (formId : FormId)
    (form : Form) (document : Instance) (roles : List RoleId) (now : Timestamp) :
    (Service.showForm sandbox process node form document roles now).runOn store =
      (.ok (store.shown sandbox ⟨document, process, node, formId⟩ form roles now), store) := by
  simp only [Service.showForm, runOn_bind, runOn_ask, Store.answer, runOn_loadProject,
    runOn_loadCatalogs, runOn_pure]
  rfl

theorem runOn_create {α : Type} (new : Store.NewInstance) (next : Instance → ServiceCall α) :
    (ask (.create new) >>= next).runOn store =
      (next (new.numbered (store.lastNumber + 1))).runOn
        (store.enter (new.numbered (store.lastNumber + 1))) := rfl

/-- A document that is stored can be updated. -/
theorem runOn_update {α : Type} {old document : Instance}
    (h : store.instances.get? document.id = some old) (next : Unit → ServiceCall α) :
    (ask (.update document) >>= fun answer => accept answer >>= next).runOn store =
      (next ()).runOn (store.replace document) := by
  rw [runOn_bind, runOn_ask]
  simp only [Store.answer, Store.update, h]
  rfl

/-- The submission and the document of a commit are both written. -/
theorem runOn_commit {α : Type} {old document : Instance} (submission : Submission)
    (h : store.instances.get? document.id = some old) (next : Unit → ServiceCall α) :
    (ask (.commit submission document) >>= fun answer => accept answer >>= next).runOn store =
      (next ()).runOn ((store.upsert submission).replace document) := by
  rw [runOn_bind, runOn_ask]
  simp only [Store.answer, Store.commit, h]
  rfl

/-- A document that is stored is found at the node where it arrives. -/
theorem runOn_arrive {document : Instance} {current : NodeId} (node : Node) (now : Timestamp)
    (hid : store.instances.get? document.id = some document)
    (hc : document.current = some current) :
    (Service.arrive document current node now).runOn store =
      (.ok (document.arrivedAt node.id now),
        store.replace (document.arrivedAt node.id now)) := by
  by_cases hn : node.id = current
  · rw [Service.arrive, if_pos hn, Instance.arrivedAt, if_pos (by rw [hc, hn]), runOn_pure,
      Store.replace, Table.put_of_get? hid]
  · have hm : ¬ document.current = some node.id := by
      rw [hc, Option.some.injEq]
      exact fun h => hn h.symm
    have hmoved : store.instances.get? (document.moveTo node.id now).id = some document := hid
    rw [Service.arrive, if_neg hn, Instance.arrivedAt, if_neg hm]
    exact runOn_update store hmoved _

/-- A start fails before it writes, or enters one new document. -/
theorem runOn_start (process : ProcessId) (id : InstanceId) (now : Timestamp) :
    (Service.start process id now).runOn store =
      match store.processes.get? process with
      | none => (.error (.definition (.processNotFound process)), store)
      | some found =>
          match found.start? with
          | none => (.error (.definition (.noStart found.id)), store)
          | some first =>
              let document := found.firstRecord first
                ⟨id, found.id, some first.id, .active, [], now⟩ (store.lastNumber + 1)
              (.ok document, store.enter document) := by
  rw [Service.start, runOn_bind, runOn_loadProcess]
  cases store.processes.get? process with
  | none => rfl
  | some found =>
      simp only [Option.elim_some]
      rw [runOn_bind]
      cases found.start? with
      | none => rfl
      | some first =>
          simp only [runOn_require_some]
          refine (runOn_create ..).trans ?_
          unfold Process.firstRecord
          cases (found.resolveForward first.id).form? with
          | none => rfl
          | some node =>
              -- the document that arrives has just been created
              refine (runOn_arrive _ node now (Table.get?_put_self store.instances _) rfl).trans ?_
              rw [Store.replace_enter]
              · simp
              · simp

/-- A call for the current form fails before it writes, or moves at most the document. -/
theorem runOn_currentForm (sandbox : Sandbox) (id : InstanceId) (roles : List RoleId)
    (now : Timestamp) :
    (Service.currentForm sandbox id roles now).runOn store =
      match store.shownStep id with
      | .error fault => (.error fault, store)
      | .ok none => (.ok none, store)
      | .ok (some (step, form)) =>
          let arrived := step.arrived now
          (.ok (some (store.shown sandbox arrived form roles now)),
            store.replace arrived.document) := by
  rw [Service.currentForm, Store.shownStep, runOn_bind, runOn_loadDocument]
  cases hd : store.instances.get? id with
  | none => rfl
  | some document =>
      simp only [Option.elim_some]
      cases hc : document.current with
      | none => rfl
      | some current =>
          dsimp only
          by_cases ha : document.isActive
          · simp only [ha, Bool.not_true, Bool.false_eq_true, if_false]
            rw [runOn_bind, runOn_loadProcess]
            cases store.processes.get? document.process with
            | none => rfl
            | some process =>
                simp only [Option.elim_some]
                cases (process.resolveForward current).form? with
                | none => rfl
                | some node =>
                    dsimp only
                    cases node.form with
                    | none => rfl
                    | some formId =>
                        dsimp only
                        rw [runOn_bind, runOn_ask]
                        simp only [Store.answer]
                        rw [runOn_bind]
                        cases store.forms.get? formId with
                        | none => rfl
                        | some form =>
                            simp only [runOn_require_some]
                            have hid : store.instances.get? document.id = some document := by
                              rwa [Store.id_of_get? hd]
                            rw [runOn_bind, runOn_arrive store node now hid hc]
                            simp only
                            rw [runOn_bind, runOn_showForm _ sandbox process node formId]
                            rfl
          · simp only [ha]
            rfl

/-- A save fails before it writes, or stores one submission. -/
theorem runOn_save (id : InstanceId) (given : NodeId) (data : Fields Value)
    (submission : SubmissionId) (now : Timestamp) :
    (Service.save id given data submission now).runOn store =
      match store.openStep id given with
      | .error fault => (.error fault, store)
      | .ok step =>
          (.ok (),
            store.upsert ⟨submission, step.document.id, step.node.id, step.form, data, now⟩) := by
  rw [Service.save, Store.openStep, runOn_bind, runOn_loadDocument]
  cases store.instances.get? id with
  | none => rfl
  | some document =>
      simp only [Option.elim_some, runOn_bind, runOn_loadProcess]
      cases store.processes.get? document.process with
      | none => rfl
      | some process =>
          simp only [Option.elim_some]
          cases process.currentFormNode document given <;> rfl

/-- A submit fails before it writes, or stores one submission and the document it belongs to. -/
theorem runOn_submit (sandbox : Sandbox) (request : SubmitRequest) (submission : SubmissionId)
    (now : Timestamp) :
    (Service.submit sandbox request submission now).runOn store =
      match store.openStep request.document request.node with
      | .error fault => (.error fault, store)
      | .ok step =>
          step.settle store request submission now
            (step.choice sandbox (store.projectOf step.process) request now) := by
  rw [Service.submit, Store.openStep, runOn_bind, runOn_loadDocument]
  cases hd : store.instances.get? request.document with
  | none => rfl
  | some document =>
      simp only [Option.elim_some]
      rw [runOn_bind, runOn_loadProcess]
      cases store.processes.get? document.process with
      | none => rfl
      | some process =>
          simp only [Option.elim_some]
          rw [runOn_bind]
          cases process.currentFormNode document request.node with
          | error fault => rfl
          | ok found =>
              obtain ⟨node, form⟩ := found
              simp only [runOn_fits_ok, OpenStep.choice]
              rw [runOn_bind]
              cases request.checkForm node form with
              | error fault => rfl
              | ok fine =>
                  simp only [runOn_fits_ok]
                  rw [runOn_bind, runOn_loadProject]
                  simp only
                  rw [runOn_bind]
                  simp only [OpenStep.view]
                  generalize process.chooseEdge node.id _ request.chosen = edge
                  cases edge with
                  | error fault => rfl
                  | ok taken =>
                      simp only [runOn_fits_ok]
                      let step : OpenStep := ⟨document, process, node, form⟩
                      have hid : store.instances.get? (step.leave request.data now taken).id =
                          some document := by
                        rwa [OpenStep.leave_id, Store.id_of_get? hd]
                      exact runOn_commit store _ hid _

/-- Documents are summed up from the processes that the store has. -/
theorem runOn_summaries (known : List (ProcessId × Option Process)) (documents : List Instance)
    (hk : ∀ id process, known.lookup id = some process → process = store.processes.get? id) :
    (Service.summaries known documents).runOn store =
      (.ok (documents.map store.summary), store) := by
  induction documents generalizing known with
  | nil => rfl
  | cons document rest ih =>
      rw [Service.summaries]
      cases hl : known.lookup document.process with
      | some process =>
          simp only [runOn_bind, ih known hk, runOn_pure, List.map_cons, Store.summary]
          rw [hk _ _ hl]
      | none =>
          simp only [runOn_bind, runOn_ask, Store.answer]
          rw [ih]
          · rfl
          · intro id process h
            rw [List.lookup_cons] at h
            split at h
            · rename_i hid
              rw [eq_of_beq hid, Option.some.inj h]
            · exact hk id process h

/-- A list of documents changes nothing. -/
theorem runOn_listDocuments (project : Option ProjectId) :
    (Service.listDocuments project).runOn store =
      (.ok ((store.listInstances.filter fun document =>
          project.elim true fun id =>
            document.process ∈ (store.processesInProject id).map Process.id).map store.summary),
        store) := by
  rw [Service.listDocuments, runOn_bind, runOn_ask]
  cases project with
  | none =>
      have hall : store.listInstances.filter (fun _ => true) = store.listInstances :=
        List.filter_eq_self.mpr fun _ _ => rfl
      simp only [Store.answer, Option.elim_none, hall]
      exact runOn_summaries store [] _ (by simp)
  | some id =>
      simp only [runOn_bind, runOn_ask, Store.answer]
      exact runOn_summaries store [] _ (by simp)

end Calls

end FormFlow

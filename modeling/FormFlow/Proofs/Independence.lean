import FormFlow.Proofs.Fetching

/-!
# Independent documents

A call for a document reads the definitions, the document and its submissions, and writes the
document and its submissions. So it answers and writes the same in any two stores that agree on
these, and calls for different documents may come in either order.
-/

namespace FormFlow

/-! ## What calls read -/

structure Store.SameDefinitions (store other : Store) : Prop where
  processes : other.processes = store.processes
  forms : other.forms = store.forms
  projects : other.projects = store.projects
  catalogs : other.catalogs = store.catalogs

/-- Two stores have the same definitions and the same of one document. -/
structure Store.AgreeOn (id : InstanceId) (store other : Store) : Prop
    extends store.SameDefinitions other where
  document : other.instances.get? id = store.instances.get? id
  submissions : ∀ node, other.submission? id node = store.submission? id node

namespace Store.AgreeOn

theorem refl (id : InstanceId) (store : Store) : store.AgreeOn id store :=
  ⟨⟨rfl, rfl, rfl, rfl⟩, rfl, fun _ => rfl⟩

variable {store other : Store} {id : InstanceId}

theorem openStep (agree : store.AgreeOn id other) (given : NodeId) :
    other.openStep id given = store.openStep id given := by
  simp only [Store.openStep, agree.document, agree.processes]

theorem shownStep (agree : store.AgreeOn id other) : other.shownStep id = store.shownStep id := by
  simp only [Store.shownStep, agree.document, agree.processes, agree.forms]

theorem projectOf (agree : store.AgreeOn id other) (process : Process) :
    other.projectOf process = store.projectOf process := by
  simp only [Store.projectOf, agree.projects]

theorem shown (agree : store.AgreeOn id other) {step : OpenStep} (hown : step.document.id = id)
    (sandbox : Sandbox) (form : Form) (roles : List RoleId) (now : Timestamp) :
    other.shown sandbox step form roles now = store.shown sandbox step form roles now := by
  subst hown
  exact Store.shown_congr step step agree.projects agree.catalogs rfl rfl (agree.submissions _) rfl
    sandbox form roles now now

theorem withKnownId (agree : store.AgreeOn id other) {submission : Submission}
    (hown : submission.document = id) :
    other.withKnownId submission = store.withKnownId submission := by
  subst hown
  simp only [Store.withKnownId, agree.submissions]

end Store.AgreeOn

/-! ## What calls write -/

namespace Table

variable {α κ : Type} [Keyed α κ] [DecidableEq κ]

/-- Store a row, if there is one. -/
def amend (table : Table α) (row : Option α) : Table α :=
  row.elim table table.put

variable {table : Table α} {first second : Option α}

theorem get?_amend_of_ne {row : Option α} {key : κ}
    (hdifferent : ∀ new, row = some new → key ≠ Keyed.key new) :
    (table.amend row).get? key = table.get? key := by
  cases row with
  | none => rfl
  | some new => exact table.get?_put_of_ne new (hdifferent new rfl)

variable (hdifferent : ∀ one two, first = some one → second = some two →
  Keyed.key one ≠ Keyed.key two)
include hdifferent

theorem get?_amend_comm (key : κ) :
    ((table.amend first).amend second).get? key = ((table.amend second).amend first).get? key := by
  cases first with
  | none => rfl
  | some one =>
      cases second with
      | none => rfl
      | some two => exact table.get?_put_comm (hdifferent one two rfl rfl) key

theorem amend_perm :
    ((table.amend first).amend second).rows.Perm ((table.amend second).amend first).rows := by
  cases first with
  | none => exact .refl _
  | some one =>
      cases second with
      | none => exact .refl _
      | some two => exact table.put_put_perm (hdifferent one two rfl rfl)

theorem amend_comm (hknown : ∀ one, first = some one → (table.get? (Keyed.key one)).isSome) :
    (table.amend first).amend second = (table.amend second).amend first := by
  cases first with
  | none => rfl
  | some one =>
      cases second with
      | none => rfl
      | some two => exact table.put_comm (hdifferent one two rfl rfl) (hknown one rfl)

end Table

/-- What a call puts into a store. -/
structure Change where
  document : Option Instance
  submission : Option Submission
  /-- The number of a document that is entered. -/
  number : Option Nat

namespace Change

def nothing : Change := ⟨none, none, none⟩

/-- Nothing is put but a document of the given id and a submission for it. -/
structure On (change : Change) (id : InstanceId) : Prop where
  document : ∀ document, change.document = some document → document.id = id
  submission : ∀ submission, change.submission = some submission → submission.document = id

/-- No document is entered: if one is put, it is in the store. -/
structure Updates (change : Change) (store : Store) : Prop where
  number : change.number = none
  known : ∀ document, change.document = some document → (store.instances.get? document.id).isSome

theorem nothing_on (id : InstanceId) : nothing.On id := by
  constructor <;> exact fun _ hput => nomatch hput

theorem nothing_updates (store : Store) : nothing.Updates store := by
  constructor
  · rfl
  · exact fun _ hput => nomatch hput

end Change

namespace Store

def apply (store : Store) (change : Change) : Store :=
  { store with
    instances := store.instances.amend change.document
    submissions := store.submissions.amend change.submission
    lastNumber := change.number.getD store.lastNumber }

variable {store : Store} {change : Change} {id other : InstanceId}

/-- A change leaves other documents alone. -/
theorem get?_apply (on : change.On other) (hapart : id ≠ other) :
    (store.apply change).instances.get? id = store.instances.get? id := by
  apply Table.get?_amend_of_ne
  intro document hput
  rw [show Keyed.key document = other from on.document document hput]
  exact hapart

/-- A change leaves the submissions for other documents alone. -/
theorem submission?_apply (on : change.On other) (hapart : id ≠ other) (node : NodeId) :
    (store.apply change).submission? id node = store.submission? id node := by
  apply Table.get?_amend_of_ne
  intro submission hput hsame
  apply hapart
  calc
    id = submission.document := congrArg Prod.fst hsame
    _ = other := on.submission submission hput

theorem agreeOn_apply (on : change.On other) (hapart : id ≠ other) :
    store.AgreeOn id (store.apply change) :=
  ⟨⟨rfl, rfl, rfl, rfl⟩, get?_apply on hapart, submission?_apply on hapart⟩

/-- Two stores are the same but for the order in which submissions came to be stored. -/
structure Alike (store other : Store) : Prop extends store.SameDefinitions other where
  instances : other.instances = store.instances
  lastNumber : other.lastNumber = store.lastNumber
  submissions : ∀ key, other.submissions.get? key = store.submissions.get? key

section Two

variable {first second : Change} (hone : first.On id) (htwo : second.On other) (hapart : id ≠ other)
include hone htwo hapart

theorem submission_key_ne (a b : Submission) (ha : first.submission = some a)
    (hb : second.submission = some b) : Keyed.key a ≠ Keyed.key b := by
  intro hsame
  apply hapart
  calc
    id = a.document := (hone.submission a ha).symm
    _ = b.document := congrArg Prod.fst hsame
    _ = other := htwo.submission b hb

theorem document_key_ne (a b : Instance) (ha : first.document = some a)
    (hb : second.document = some b) : Keyed.key a ≠ Keyed.key b := by
  intro hsame
  apply hapart
  calc
    id = a.id := (hone.document a ha).symm
    _ = b.id := hsame
    _ = other := htwo.document b hb

/-- Changes of different documents can be applied in either order, if one enters none. -/
theorem apply_comm (updates : first.Updates store) :
    ((store.apply second).apply first).Alike ((store.apply first).apply second) := by
  constructor
  · exact ⟨rfl, rfl, rfl, rfl⟩
  · exact Table.amend_comm (document_key_ne hone htwo hapart) updates.known
  · simp only [apply, updates.number, Option.getD_none]
  · exact Table.get?_amend_comm (submission_key_ne hone htwo hapart)

theorem rows_apply_comm :
    ((store.apply first).apply second).submissions.rows.Perm
      ((store.apply second).apply first).submissions.rows :=
  Table.amend_perm (submission_key_ne hone htwo hapart)

end Two

end Store

/-! ## What calls do -/

/-- A call for a document does the same in every store that agrees on the document: it gives the
same answer and makes the same change, which is of that document. -/
def Operation.Local (operation : Operation) (id : InstanceId) (store : Store) (sandbox : Sandbox) :
    Prop :=
  ∃ (answer : Except ServiceFault operation.Result) (change : Change),
    change.On id ∧ change.Updates store ∧
      ∀ other, store.AgreeOn id other →
        (Session.mk other sandbox).perform operation = (answer, ⟨other.apply change, sandbox⟩)

namespace Operation

variable {id : InstanceId} {store : Store} {sandbox : Sandbox}

/-- A call that is refused, or has nothing to show, changes nothing. -/
theorem local_of_same {operation : Operation} (answer : Except ServiceFault operation.Result)
    (hsame : ∀ other, store.AgreeOn id other →
      (Session.mk other sandbox).perform operation = (answer, ⟨other, sandbox⟩)) :
    operation.Local id store sandbox :=
  ⟨answer, .nothing, Change.nothing_on id, Change.nothing_updates store, hsame⟩

theorem local_currentForm (roles : List RoleId) (now : Timestamp) :
    (Operation.currentForm id roles now).Local id store sandbox := by
  cases hshown : store.shownStep id with
  | error fault =>
      apply local_of_same (.error fault)
      intro other agree
      simp only [Session.perform, Session.call, runOn_currentForm, agree.shownStep, hshown]
  | ok shown =>
      cases shown with
      | none =>
          apply local_of_same (.ok none)
          intro other agree
          simp only [Session.perform, Session.call, runOn_currentForm, agree.shownStep, hshown]
      | some found =>
          obtain ⟨step, form⟩ := found
          obtain ⟨holds, hown⟩ := Store.holds_of_shownStep hshown
          have harrived : (step.arrived now).document.id = id :=
            (step.document.arrivedAt_id ..).trans hown
          refine ⟨.ok (some (store.shown sandbox (step.arrived now) form roles now)),
            ⟨some (step.arrived now).document, none, none⟩, ⟨?_, ?_⟩, ⟨rfl, ?_⟩, ?_⟩
          · rintro document ⟨⟩
            exact harrived
          · intro _ hput
            cases hput
          · rintro document ⟨⟩
            rw [harrived, ← hown, holds.stored]
            rfl
          · intro other agree
            simp only [Session.perform, Session.call, runOn_currentForm, agree.shownStep, hshown,
              agree.shown harrived]
            rfl

theorem local_save (node : NodeId) (data : Fields Value) (submission : SubmissionId)
    (now : Timestamp) : (Operation.save id node data submission now).Local id store sandbox := by
  cases hopen : store.openStep id node with
  | error fault =>
      apply local_of_same (.error fault)
      intro other agree
      simp only [Session.perform, Session.call, runOn_save, agree.openStep, hopen]
  | ok step =>
      obtain ⟨-, hown, -⟩ := Store.openStep_eq_ok_iff.mp hopen
      let stored : Submission := ⟨submission, step.document.id, step.node.id, step.form, data, now⟩
      refine ⟨.ok (), ⟨none, some (store.withKnownId stored), none⟩, ⟨?_, ?_⟩, ⟨rfl, ?_⟩, ?_⟩
      · intro _ hput
        cases hput
      · rintro submission ⟨⟩
        exact (congrArg Prod.fst (store.key_withKnownId stored)).trans hown
      · intro _ hput
        cases hput
      · intro other agree
        have hknown : other.withKnownId stored = store.withKnownId stored := agree.withKnownId hown
        simp only [Session.perform, Session.call, runOn_save, agree.openStep, hopen]
        rw [Store.upsert, hknown]
        rfl

theorem local_submit {request : SubmitRequest} (hown : request.document = id)
    (submission : SubmissionId) (now : Timestamp) :
    (Operation.submit request submission now).Local id store sandbox := by
  subst hown
  cases hopen : store.openStep request.document request.node with
  | error fault =>
      apply local_of_same (.error fault)
      intro other agree
      simp only [Session.perform, Session.call, runOn_submit, agree.openStep, hopen]
  | ok step =>
      obtain ⟨holds, hown, -⟩ := Store.openStep_eq_ok_iff.mp hopen
      cases hchoice : step.choice sandbox (store.projectOf step.process) request now with
      | error fault =>
          apply local_of_same (.error (.mismatch fault))
          intro other agree
          simp only [Session.perform, Session.call, runOn_submit, agree.openStep, hopen,
            agree.projectOf, hchoice, OpenStep.settle]
      | ok taken =>
          let left := step.leave request.data now taken
          let stored : Submission :=
            ⟨submission, step.document.id, step.node.id, step.form, request.data, now⟩
          have hleft : left.id = request.document := (step.leave_id ..).trans hown
          refine ⟨.ok (.of left), ⟨some left, some (store.withKnownId stored), none⟩, ⟨?_, ?_⟩,
            ⟨rfl, ?_⟩, ?_⟩
          · rintro document ⟨⟩
            exact hleft
          · rintro submission ⟨⟩
            exact (congrArg Prod.fst (store.key_withKnownId stored)).trans hown
          · rintro document ⟨⟩
            rw [hleft, ← hown, holds.stored]
            rfl
          · intro other agree
            have hknown : other.withKnownId stored = store.withKnownId stored :=
              agree.withKnownId hown
            have hfound := (agree.openStep request.node).trans hopen
            have hchosen : step.choice sandbox (other.projectOf step.process) request now =
                .ok taken := by
              rw [agree.projectOf, hchoice]
            rw [Session.perform_submit ⟨other, sandbox⟩ hfound hchosen, Store.upsert, hknown]
            rfl

/-- Every call for a document reads and writes nothing of other documents. -/
theorem isLocal {operation : Operation} (hon : operation.document? = some id) (store : Store)
    (sandbox : Sandbox) : operation.Local id store sandbox := by
  cases operation with
  | currentForm document roles now =>
      cases hon
      exact local_currentForm roles now
  | save document node data submission now =>
      cases hon
      exact local_save node data submission now
  | submit request submission now => exact local_submit (Option.some.inj hon) submission now
  | start | list | shutdown | define => cases hon

/-- A start does the same in every store with the same processes and the same last number. -/
theorem start_local (process : ProcessId) (id : InstanceId) (now : Timestamp) (store : Store)
    (sandbox : Sandbox) :
    ∃ (answer : Except ServiceFault Instance) (change : Change), change.On id ∧
      ∀ other : Store, other.processes = store.processes → other.lastNumber = store.lastNumber →
        (Session.mk other sandbox).perform (.start process id now) =
          (answer, ⟨other.apply change, sandbox⟩) := by
  cases hknown : store.processes.get? process with
  | none =>
      refine ⟨.error (.definition (.processNotFound process)), .nothing, Change.nothing_on id, ?_⟩
      intro other hprocesses _
      simp only [Session.perform, Session.call, runOn_start, hprocesses, hknown]
      rfl
  | some found =>
      cases hstart : found.start? with
      | none =>
          refine ⟨.error (.definition (.noStart found.id)), .nothing, Change.nothing_on id, ?_⟩
          intro other hprocesses _
          simp only [Session.perform, Session.call, runOn_start, hprocesses, hknown, hstart]
          rfl
      | some first =>
          let document := found.firstRecord first ⟨id, found.id, some first.id, .active, [], now⟩
            (store.lastNumber + 1)
          refine ⟨.ok document, ⟨some document, none, some document.documentNumber⟩, ⟨?_, ?_⟩, ?_⟩
          · rintro _ ⟨⟩
            exact found.firstRecord_id ..
          · intro _ hput
            cases hput
          · intro other hprocesses hlastNumber
            simp only [Session.perform, Session.call, runOn_start, hprocesses, hknown, hstart,
              hlastNumber]
            rfl

/-- A call for a document, or the start of one, does the same after any change of another document
that enters none. -/
theorem does_beside {operation : Operation} {id other : InstanceId}
    (hon : operation.document? = some id ∨ operation.started? = some id) (hapart : other ≠ id)
    (store : Store) (sandbox : Sandbox) :
    ∃ (answer : Except ServiceFault operation.Result) (change : Change), change.On id ∧
      ∀ beside : Change, beside.On other → beside.number = none →
        (Session.mk (store.apply beside) sandbox).perform operation =
          (answer, ⟨(store.apply beside).apply change, sandbox⟩) := by
  rcases hon with hon | hstarts
  · obtain ⟨answer, change, hown, -, hdoes⟩ := operation.isLocal hon store sandbox
    refine ⟨answer, change, hown, fun beside hof _ => hdoes _ ?_⟩
    exact Store.agreeOn_apply hof hapart.symm
  · cases operation with
    | start process started now =>
        cases hstarts
        obtain ⟨answer, change, hown, hdoes⟩ := start_local process id now store sandbox
        refine ⟨answer, change, hown, fun beside _ hnumber => hdoes _ rfl ?_⟩
        simp only [Store.apply, hnumber, Option.getD_none]
    | currentForm | save | submit | list | shutdown | define => cases hstarts

end Operation

/-! ## Sessions that are alike -/

/-- Two sessions are the same but for the order in which submissions came to be stored. -/
structure Session.Alike (session other : Session) : Prop where
  sandbox : other.sandbox = session.sandbox
  store : session.store.Alike other.store

namespace Store.Alike

variable {store other : Store}

theorem agreeOn (alike : store.Alike other) (id : InstanceId) : store.AgreeOn id other := by
  refine ⟨alike.toSameDefinitions, ?_, fun node => alike.submissions (id, node)⟩
  rw [alike.instances]

theorem apply (alike : store.Alike other) (change : Change) :
    (store.apply change).Alike (other.apply change) := by
  constructor
  · exact ⟨alike.processes, alike.forms, alike.projects, alike.catalogs⟩
  · simp only [Store.apply, alike.instances]
  · simp only [Store.apply, alike.lastNumber]
  · intro key
    obtain ⟨document, submission, number⟩ := change
    cases submission with
    | none => exact alike.submissions key
    | some submission =>
        simp only [Store.apply, Table.amend, Option.elim_some, Table.get?_put, alike.submissions]

theorem define (alike : store.Alike other) (definition : Definition) :
    (store.define definition).Alike (other.define definition) := by
  obtain ⟨⟨hprocesses, hforms, hprojects, hcatalogs⟩, hinstances, hlastNumber, hsubmissions⟩ :=
    alike
  constructor
  · constructor <;> cases definition <;>
      simp only [Store.define, putProcess, putForm, putProject, putCatalog, hprocesses, hforms,
        hprojects, hcatalogs]
  · rw [define_instances, define_instances, hinstances]
  · cases definition <;> exact hlastNumber
  · cases definition <;> exact hsubmissions

theorem summary (alike : store.Alike other) : other.summary = store.summary := by
  funext document
  simp only [Store.summary, alike.processes]

theorem listInstances (alike : store.Alike other) :
    other.listInstances = store.listInstances := by
  simp only [Store.listInstances, alike.instances]

theorem processesInProject (alike : store.Alike other) :
    other.processesInProject = store.processesInProject := by
  funext project
  simp only [Store.processesInProject, alike.processes]

end Store.Alike

namespace Session.Alike

variable {session other : Session}

/-- What does the same in both stores is answered alike and keeps sessions alike. -/
theorem of_does (alike : session.Alike other) {operation : Operation}
    {answer : Except ServiceFault operation.Result} {change : Change}
    (hhere : session.perform operation = (answer, ⟨session.store.apply change, session.sandbox⟩))
    (hthere : other.perform operation = (answer, ⟨other.store.apply change, other.sandbox⟩)) :
    (other.perform operation).1 = (session.perform operation).1 ∧
      (session.perform operation).2.Alike (other.perform operation).2 := by
  rw [hhere, hthere]
  exact ⟨rfl, alike.sandbox, alike.store.apply change⟩

/-- A call for a document does not tell alike sessions apart. -/
theorem perform_document (alike : session.Alike other) {operation : Operation} {id : InstanceId}
    (hon : operation.document? = some id) :
    (other.perform operation).1 = (session.perform operation).1 ∧
      (session.perform operation).2.Alike (other.perform operation).2 := by
  obtain ⟨answer, change, -, -, hdoes⟩ := operation.isLocal hon session.store session.sandbox
  apply alike.of_does (hdoes session.store (.refl id session.store))
  have hthere := hdoes other.store (alike.store.agreeOn id)
  rwa [← alike.sandbox] at hthere

/-- No operation tells alike sessions apart. -/
theorem perform (alike : session.Alike other) (operation : Operation) :
    (other.perform operation).1 = (session.perform operation).1 ∧
      (session.perform operation).2.Alike (other.perform operation).2 := by
  have hstores := alike.store
  cases operation with
  | start process id now =>
      obtain ⟨answer, change, -, hdoes⟩ :=
        Operation.start_local process id now session.store session.sandbox
      apply alike.of_does (hdoes session.store rfl rfl)
      have hthere := hdoes other.store hstores.processes hstores.lastNumber
      rwa [← alike.sandbox] at hthere
  | currentForm | save | submit => exact alike.perform_document rfl
  | list project =>
      simp only [Session.perform, call, runOn_listDocuments, hstores.listInstances,
        hstores.processesInProject, hstores.summary]
      exact ⟨trivial, alike.sandbox, hstores⟩
  | shutdown => exact ⟨rfl, congrArg Sandbox.shutdown alike.sandbox, hstores⟩
  | define definition => exact ⟨rfl, alike.sandbox, hstores.define definition⟩

theorem after (alike : session.Alike other) (operations : List Operation) :
    (session.after operations).Alike (other.after operations) := by
  induction operations generalizing session other with
  | nil => exact alike
  | cons operation rest ih =>
      apply ih
      exact (alike.perform operation).2

end Session.Alike

/-- Calls for two different documents, or for one while another one is started, may come in either
order: each is answered the same whether it comes first or second; the sessions they lead to are the
same, but for the order in which submissions came to be stored, which no later operation can tell;
and each call leaves the other document and its submissions as they were. -/
theorem documents_are_independent (session : Session) {a b : Operation} {i j : InstanceId}
    (hapart : i ≠ j) (hon : a.document? = some i)
    (hbeside : b.document? = some j ∨ b.started? = some j) :
    let first := session.perform a
    let second := session.perform b
    (second.2.perform a).1 = first.1 ∧ (first.2.perform b).1 = second.1 ∧
    (second.2.perform a).2.Alike (first.2.perform b).2 ∧
    (first.2.perform b).2.store.submissions.rows.Perm
      (second.2.perform a).2.store.submissions.rows ∧
    (∀ later operation, (((first.2.perform b).2.after later).perform operation).1 =
      (((second.2.perform a).2.after later).perform operation).1) ∧
    (first.2.store.instances.get? j = session.store.instances.get? j ∧
      ∀ node, first.2.store.submission? j node = session.store.submission? j node) ∧
    second.2.store.instances.get? i = session.store.instances.get? i ∧
      ∀ node, second.2.store.submission? i node = session.store.submission? i node := by
  intro first second
  obtain ⟨store, sandbox⟩ := session
  obtain ⟨answerA, changeA, onA, updates, hdoesA⟩ := a.isLocal hon store sandbox
  obtain ⟨answerB, changeB, onB, hdoesB⟩ := b.does_beside hbeside hapart store sandbox
  have hfirst : first = (answerA, ⟨store.apply changeA, sandbox⟩) := hdoesA store (.refl i store)
  have hsecond : second = (answerB, ⟨store.apply changeB, sandbox⟩) :=
    hdoesB .nothing (Change.nothing_on i) rfl
  have haAfterB : second.2.perform a =
      (answerA, ⟨(store.apply changeB).apply changeA, sandbox⟩) := by
    rw [hsecond]
    exact hdoesA _ (Store.agreeOn_apply onB hapart)
  have hbAfterA : first.2.perform b =
      (answerB, ⟨(store.apply changeA).apply changeB, sandbox⟩) := by
    rw [hfirst]
    exact hdoesB changeA onA updates.number
  have alike : (second.2.perform a).2.Alike (first.2.perform b).2 := by
    rw [haAfterB, hbAfterA]
    exact ⟨rfl, Store.apply_comm onA onB hapart updates⟩
  refine ⟨?_, ?_, alike, ?_, ?_, ⟨?_, ?_⟩, ?_, ?_⟩
  · rw [haAfterB, hfirst]
  · rw [hbAfterA, hsecond]
  · rw [haAfterB, hbAfterA]
    exact Store.rows_apply_comm onA onB hapart
  · exact fun later operation => ((alike.after later).perform operation).1
  · rw [hfirst]
    exact Store.get?_apply onA hapart.symm
  · rw [hfirst]
    exact Store.submission?_apply onA hapart.symm
  · rw [hsecond]
    exact Store.get?_apply onB hapart
  · rw [hsecond]
    exact Store.submission?_apply onB hapart

/-- A session in which two purchases have been started. -/
def Purchase.startedTwice : Session :=
  (started.perform (.start process.id ⟨⟨42⟩⟩ noon)).2

/-- Sending one purchase to approval, saving the other and starting a third do not disturb each
other. -/
theorem documents_are_independent_purchases :
    let session := Purchase.startedTwice
    let send : Operation := .submit Purchase.large ⟨⟨51⟩⟩ Purchase.noon
    let save : Operation := .save ⟨⟨42⟩⟩ Purchase.request.id [] ⟨⟨52⟩⟩ Purchase.noon
    let start : Operation := .start Purchase.process.id ⟨⟨43⟩⟩ Purchase.noon
    (session.perform send).1 = .ok ⟨Purchase.document, .active, some Purchase.approval.id, false⟩ ∧
      (session.perform save).1 = .ok () ∧
      ((session.perform save).2.perform send).1 = (session.perform send).1 ∧
      ((session.perform save).2.perform send).2.Alike ((session.perform send).2.perform save).2 ∧
      ((session.perform send).2.perform start).1 = (session.perform start).1 ∧
      ((session.perform start).2.perform send).2.Alike
        ((session.perform send).2.perform start).2 := by
  intro session send save start
  have hapart : Purchase.document ≠ ⟨⟨42⟩⟩ := by decide
  have hbeyond : Purchase.document ≠ ⟨⟨43⟩⟩ := by decide
  have hsent : send.document? = some Purchase.document := rfl
  obtain ⟨hanswer, -, alike, -⟩ := documents_are_independent session hapart hsent
    (show save.document? = some ⟨⟨42⟩⟩ ∨ save.started? = some ⟨⟨42⟩⟩ from .inl rfl)
  obtain ⟨-, hentered, hlater, -⟩ := documents_are_independent session hbeyond hsent
    (show start.document? = some ⟨⟨43⟩⟩ ∨ start.started? = some ⟨⟨43⟩⟩ from .inr rfl)
  exact ⟨by decide +kernel, by decide +kernel, hanswer, alike, hentered, hlater⟩

end FormFlow

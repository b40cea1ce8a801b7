import FormFlow.Proofs.OpenStep

/-!
# Sessions

A session is a store and a sandbox on which operations are performed one after the other: the
calls of the service, the shutdown of its sandbox, and the work of authors who insert definitions
or replace them. The id of a document that is started is an argument, and a run takes only ids
that no stored document has, as generated ones are.
-/

namespace FormFlow

/-- What authors put into the store. -/
inductive Definition where
  | process (process : Process)
  | form (form : Form)
  | project (project : Project)
  | catalog (catalog : Catalog)

def Store.define (store : Store) : Definition → Store
  | .process process => store.putProcess process
  | .form form => store.putForm form
  | .project project => store.putProject project
  | .catalog catalog => store.putCatalog catalog

@[simp] theorem Store.define_instances (store : Store) (definition : Definition) :
    (store.define definition).instances = store.instances := by
  cases definition <;> rfl

inductive Operation where
  | start (process : ProcessId) (id : InstanceId) (now : Timestamp)
  | currentForm (id : InstanceId) (roles : List RoleId) (now : Timestamp)
  | save (id : InstanceId) (node : NodeId) (data : Fields Value) (submission : SubmissionId)
      (now : Timestamp)
  | submit (request : SubmitRequest) (submission : SubmissionId) (now : Timestamp)
  | list (project : Option ProjectId)
  | shutdown
  | define (definition : Definition)

/-- What an operation answers when it does not fail. -/
abbrev Operation.Result : Operation → Type
  | .start _ _ _ => Instance
  | .currentForm _ _ _ => Option CurrentForm
  | .save _ _ _ _ _ => Unit
  | .submit _ _ _ => SubmitOutcome
  | .list _ => List DocumentSummary
  | .shutdown => Unit
  | .define _ => Unit

/-- A document is started under an id that no stored document has. -/
def Operation.Fresh (store : Store) : Operation → Prop
  | .start _ id _ => store.instances.get? id = none
  | _ => True

/-- The document that an operation works on, if it works on a single one that is stored. -/
def Operation.document? : Operation → Option InstanceId
  | .currentForm id _ _ | .save id _ _ _ _ => some id
  | .submit request _ _ => some request.document
  | .start _ _ _ | .list _ | .shutdown | .define _ => none

/-- The document that an operation starts. -/
def Operation.started? : Operation → Option InstanceId
  | .start _ id _ => some id
  | .currentForm _ _ _ | .save _ _ _ _ _ | .submit _ _ _ | .list _ | .shutdown | .define _ => none

/-- What an operation puts among the definitions. -/
def Operation.definition? : Operation → Option Definition
  | .define definition => some definition
  | .start _ _ _ | .currentForm _ _ _ | .save _ _ _ _ _ | .submit _ _ _ => none
  | .list _ | .shutdown => none

/-- Whether an answer is a given fault can be decided, whatever the answer might be otherwise;
whether it is a given result, where results can be told apart. -/
instance {α : Type} (answer : Except ServiceFault α) (fault : ServiceFault) :
    Decidable (answer = .error fault) :=
  match answer with
  | .error other => decidable_of_iff (other = fault) (by simp)
  | .ok _ => isFalse (by simp)

instance {α : Type} [DecidableEq α] (answer : Except ServiceFault α) (result : α) :
    Decidable (answer = .ok result) :=
  match answer with
  | .ok other => decidable_of_iff (other = result) (by simp)
  | .error _ => isFalse (by simp)

structure Session where
  store : Store
  sandbox : Sandbox

namespace Session

/-- Run a call to its end. -/
def call {α : Type} (session : Session) (request : ServiceCall α) :
    Except ServiceFault α × Session :=
  ((request.runOn session.store).1, ⟨(request.runOn session.store).2, session.sandbox⟩)

def perform (session : Session) :
    (operation : Operation) → Except ServiceFault operation.Result × Session
  | .start process id now => session.call (Service.start process id now)
  | .currentForm id roles now => session.call (Service.currentForm session.sandbox id roles now)
  | .save id node data submission now => session.call (Service.save id node data submission now)
  | .submit request submission now =>
      session.call (Service.submit session.sandbox request submission now)
  | .list project => session.call (Service.listDocuments project)
  | .shutdown => (.ok (), ⟨session.store, session.sandbox.shutdown⟩)
  | .define definition => (.ok (), ⟨session.store.define definition, session.sandbox⟩)

end Session

/-- An operation and its answer. -/
structure Event where
  operation : Operation
  answer : Except ServiceFault operation.Result

/-- Operations performed one after the other, with their answers. -/
inductive Runs : Session → List Event → Session → Prop
  | nil (session : Session) : Runs session [] session
  | cons {session last : Session} {operation : Operation} {rest : List Event}
      (fresh : operation.Fresh session.store)
      (run : Runs (session.perform operation).2 rest last) :
      Runs session (⟨operation, (session.perform operation).1⟩ :: rest) last

/-- What every operation of a kind keeps is kept by a run of such operations. -/
theorem Runs.invariant_of {P : Session → Prop} {kind : Operation → Prop}
    (hkeeps : ∀ session operation, operation.Fresh session.store → kind operation → P session →
      P (session.perform operation).2)
    {first last : Session} {events : List Event} (run : Runs first events last)
    (hall : ∀ event ∈ events, kind event.operation) (h : P first) : P last := by
  induction run with
  | nil session => exact h
  | cons fresh _ ih =>
      apply ih
      · exact fun event hevent => hall event (List.mem_cons_of_mem _ hevent)
      · exact hkeeps _ _ fresh (hall _ List.mem_cons_self) h

/-- What every operation keeps is kept by a run. -/
theorem Runs.invariant {P : Session → Prop}
    (hkeeps : ∀ session operation, operation.Fresh session.store → P session →
      P (session.perform operation).2)
    {first last : Session} {events : List Event} (run : Runs first events last) (h : P first) :
    P last :=
  run.invariant_of (fun session operation fresh (_ : True) => hkeeps session operation fresh)
    (fun _ _ => trivial) h

/-! ## What an operation does to a document -/

/-- What an operation can make of a stored document: fetching the form can move an active one to
the node of its step, and submitting a step keeps the data there and completes or moves it. -/
inductive Evolves : Operation → Instance → Instance → Prop
  | kept (operation : Operation) (document : Instance) : Evolves operation document document
  | arrived {document : Instance} (roles : List RoleId) (node : NodeId) (now : Timestamp)
      (hactive : document.isActive = true) :
      Evolves (.currentForm document.id roles now) document (document.moveTo node now)
  | completed {document : Instance} {request : SubmitRequest} (submission : SubmissionId)
      (now : Timestamp) (hactive : document.isActive = true)
      (hown : request.document = document.id) :
      Evolves (.submit request submission now) document
        ((document.record request.node request.data now).complete now)
  | moved {document : Instance} {request : SubmitRequest} (submission : SubmissionId)
      (node : NodeId) (now : Timestamp) (hactive : document.isActive = true)
      (hown : request.document = document.id) :
      Evolves (.submit request submission now) document
        ((document.record request.node request.data now).moveTo node now)

/-- How a document begins. -/
structure Begun (document : Instance) : Prop where
  active : document.status = .active
  located : document.current.isSome
  blank : document.context = []

theorem Process.firstRecord_begun (process : Process) (first : Node) (id : InstanceId)
    (now : Timestamp) (number : Nat) :
    Begun (process.firstRecord first ⟨id, process.id, some first.id, .active, [], now⟩ number) := by
  unfold firstRecord
  split
  · rename_i node _
    rcases Instance.arrivedAt_cases (Store.NewInstance.numbered _ number) node.id now with
      ⟨-, h⟩ | h <;> rw [h] <;> exact ⟨rfl, rfl, rfl⟩
  · exact ⟨rfl, rfl, rfl⟩

@[simp] theorem Process.firstRecord_id (process : Process) (first : Node)
    (new : Store.NewInstance) (number : Nat) :
    (process.firstRecord first new number).id = new.id := by
  unfold firstRecord
  split
  · rw [Instance.arrivedAt_id]
    rfl
  · rfl

theorem Table.get?_put_document (documents : Table Instance) (document : Instance)
    (id : InstanceId) :
    (documents.put document).get? id =
      if id = document.id then some document else documents.get? id :=
  documents.get?_put document id

namespace Session

variable (session : Session)

/-- A submit that finds its step and an edge to take, or no edge to choose from, stores the data and
the document that leaves the step. -/
theorem perform_submit {step : OpenStep} {request : SubmitRequest} {now : Timestamp}
    {taken : Option Edge} (hfound : session.store.openStep request.document request.node = .ok step)
    (hchoice : step.choice session.sandbox (session.store.projectOf step.process) request now =
      .ok taken) (submission : SubmissionId) :
    let left := step.leave request.data now taken
    session.perform (.submit request submission now) =
      (.ok (.of left), ⟨(session.store.upsert
        ⟨submission, step.document.id, step.node.id, step.form, request.data, now⟩).replace left,
        session.sandbox⟩) := by
  intro left
  have hown : left.id = step.document.id := step.leave_id ..
  rw [← hown]
  simp only [perform, call, runOn_submit, hfound, hchoice]
  rfl

/-- A submit succeeds only if it finds its step, and an edge to take or no edge to choose from. -/
theorem exists_of_submit_ok {request : SubmitRequest} {submission : SubmissionId} {now : Timestamp}
    {outcome : SubmitOutcome}
    (h : (session.perform (.submit request submission now)).1 = .ok outcome) :
    ∃ step taken, session.store.openStep request.document request.node = .ok step ∧
      step.choice session.sandbox (session.store.projectOf step.process) request now =
        .ok taken := by
  simp only [perform, call, runOn_submit] at h
  split at h
  · cases h
  · rename_i step hfound
    cases hchoice :
        step.choice session.sandbox (session.store.projectOf step.process) request now with
    | error fault => rw [hchoice] at h; cases h
    | ok taken => exact ⟨step, taken, hfound, hchoice⟩

/-- The documents that operations write: a start enters one, a call for the form moves one to the
node of its step, and a submit has one leave its step. -/
inductive Writes : Operation → Instance → Prop
  | begins {process : ProcessId} {found : Process} {first : Node}
      (hknown : session.store.processes.get? process = some found)
      (hstart : found.start? = some first) (id : InstanceId) (now : Timestamp) :
      Writes (.start process id now)
        (found.firstRecord first ⟨id, found.id, some first.id, .active, [], now⟩
          (session.store.lastNumber + 1))
  | arrives {step : OpenStep} (holds : step.Holds session.store) (roles : List RoleId)
      (now : Timestamp) :
      Writes (.currentForm step.document.id roles now) (step.arrived now).document
  | leaves {step : OpenStep} {request : SubmitRequest} {now : Timestamp} {taken : Option Edge}
      (holds : step.Holds session.store) (hown : request.document = step.document.id)
      (hthere : request.node = step.node.id)
      (hchoice : step.choice session.sandbox (session.store.projectOf step.process) request now =
        .ok taken)
      (submission : SubmissionId) :
      Writes (.submit request submission now) (step.leave request.data now taken)

/-- An operation leaves the documents alone, or writes one. -/
theorem perform_writes (operation : Operation) :
    (session.perform operation).2.store.instances = session.store.instances ∨
      ∃ document,
        (session.perform operation).2.store.instances = session.store.instances.put document ∧
        session.Writes operation document := by
  cases operation with
  | start process id now =>
      simp only [perform, call, runOn_start]
      split
      · exact .inl rfl
      · rename_i found hknown
        split
        · exact .inl rfl
        · rename_i first hstart
          exact .inr ⟨_, rfl, .begins hknown hstart id now⟩
  | currentForm id roles now =>
      simp only [perform, call, runOn_currentForm]
      split
      · exact .inl rfl
      · exact .inl rfl
      · rename_i step form h
        obtain ⟨hs, rfl⟩ := Store.holds_of_shownStep h
        exact .inr ⟨_, rfl, .arrives hs roles now⟩
  | save id node data submission now =>
      simp only [perform, call, runOn_save]
      split <;> exact .inl rfl
  | submit request submission now =>
      simp only [perform, call, runOn_submit]
      split
      · exact .inl rfl
      · rename_i step h
        obtain ⟨hs, hid, hnode⟩ := Store.openStep_eq_ok_iff.mp h
        cases hchoice : step.choice session.sandbox _ request now with
        | error fault => exact .inl rfl
        | ok taken => exact .inr ⟨_, rfl, .leaves hs hid.symm hnode.symm hchoice submission⟩
  | list project =>
      refine .inl ?_
      simp only [perform, call, runOn_listDocuments]
  | shutdown => exact .inl rfl
  | define definition => exact .inl (session.store.define_instances definition)

/-- Only authors change processes. -/
theorem perform_processes {operation : Operation} (hfixed : operation.definition? = none) :
    (session.perform operation).2.store.processes = session.store.processes := by
  cases operation with
  | start process id now =>
      simp only [perform, call, runOn_start]
      split
      · rfl
      · split <;> rfl
  | currentForm id roles now =>
      simp only [perform, call, runOn_currentForm]
      split <;> rfl
  | save id node data submission now =>
      simp only [perform, call, runOn_save]
      split <;> rfl
  | submit request submission now =>
      simp only [perform, call, runOn_submit]
      split
      · rfl
      · rename_i step _
        cases step.choice session.sandbox (session.store.projectOf step.process) request now <;> rfl
  | list project => simp only [perform, call, runOn_listDocuments]
  | shutdown => rfl
  | define => cases hfixed

/-- An operation leaves the documents alone, or writes one that begins or evolves by it. -/
theorem perform_instances (operation : Operation) :
    (session.perform operation).2.store.instances = session.store.instances ∨
      ∃ document,
        (session.perform operation).2.store.instances = session.store.instances.put document ∧
        ((∃ process now, operation = .start process document.id now ∧ Begun document) ∨
          ∃ old, session.store.instances.get? document.id = some old ∧
            Evolves operation old document) := by
  rcases session.perform_writes operation with hsame | ⟨document, hput, hwrites⟩
  · exact .inl hsame
  · refine .inr ⟨document, hput, ?_⟩
    cases hwrites with
    | @begins process found first hknown hstart id now =>
        exact .inl ⟨process, now, by simp, found.firstRecord_begun ..⟩
    | @arrives step holds roles now =>
        refine .inr ⟨step.document, ?_, ?_⟩
        · rw [OpenStep.arrived, Instance.arrivedAt_id]
          exact holds.stored
        · rcases step.document.arrivedAt_cases step.node.id now with ⟨-, h⟩ | h
          · exact (congrArg (Evolves _ step.document) h).mpr (.kept _ _)
          · exact (congrArg (Evolves _ step.document) h).mpr (.arrived _ _ _ holds.active)
    | @leaves step request now taken holds hown hthere _ submission =>
        refine .inr ⟨step.document, ?_, ?_⟩
        · rw [OpenStep.leave_id]
          exact holds.stored
        · rcases step.leave_cases request.data now taken with h | ⟨node, h⟩ <;> rw [h, ← hthere]
          · exact .completed _ _ holds.active hown
          · exact .moved _ _ _ holds.active hown

variable {session} {operation : Operation} {id : InstanceId} {document after : Instance}

/-- A stored document stays stored, and evolves. -/
theorem perform_evolves (fresh : operation.Fresh session.store)
    (h : session.store.instances.get? id = some document) :
    ∃ after, (session.perform operation).2.store.instances.get? id = some after ∧
      Evolves operation document after := by
  rcases session.perform_instances operation with hsame | ⟨written, hput, hwritten⟩
  · exact ⟨document, by rw [hsame, h], .kept _ _⟩
  · rw [hput, Table.get?_put_document]
    by_cases hid : id = written.id
    · subst hid
      rcases hwritten with ⟨process, now, rfl, -⟩ | ⟨old, hhold, hevolves⟩
      · exact absurd (h.symm.trans fresh) (by simp)
      · obtain rfl : old = document := Option.some.inj (hhold.symm.trans h)
        exact ⟨written, if_pos rfl, hevolves⟩
    · exact ⟨document, by rw [if_neg hid, h], .kept _ _⟩

/-- A document that was not stored before has just begun. -/
theorem perform_begins (h : session.store.instances.get? id = none)
    (hafter : (session.perform operation).2.store.instances.get? id = some after) :
    Begun after := by
  rcases session.perform_instances operation with hsame | ⟨written, hput, hwritten⟩
  · rw [hsame, h] at hafter
    cases hafter
  · rw [hput, Table.get?_put_document] at hafter
    by_cases hid : id = written.id
    · rw [if_pos hid] at hafter
      cases hafter
      rcases hwritten with ⟨process, now, -, hbegun⟩ | ⟨old, hhold, -⟩
      · exact hbegun
      · rw [← hid, h] at hhold
        cases hhold
    · rw [if_neg hid, h] at hafter
      cases hafter

end Session

/-! ## A small workflow

A purchase is requested and either approved or, without a clerk in between, done. The theorems
about calls are tried out on it.
-/

namespace Purchase

def requestForm : FormId := ⟨⟨11⟩⟩

def approvalForm : FormId := ⟨⟨12⟩⟩

def request : Node := .step ⟨"request"⟩ requestForm

def approval : Node := .step ⟨"approval"⟩ approvalForm

def project : Project :=
  { id := ⟨⟨21⟩⟩
    name := "Purchases"
    validators := [.make none "Clerk" .stepAccess "allow when 'clerk' in role_ids"] }

/-- Only large purchases are sent to approval, and only by clerks. -/
def send : Edge :=
  { Edge.between ⟨"send"⟩ request.id approval.id with
    condition := some "request.size == 'large'"
    gates := [⟨"clerk"⟩] }

def skip : Edge := .between ⟨"skip"⟩ request.id ⟨"done"⟩

def process : Process :=
  .ofGraph ⟨⟨31⟩⟩ "Purchase" (some project.id)
    [.bare ⟨"start"⟩ .start, request, approval, .bare ⟨"done"⟩ .finish]
    [.between ⟨"begin"⟩ ⟨"start"⟩ request.id, send, skip,
      .between ⟨"approve"⟩ approval.id ⟨"done"⟩]

/-- The store before any document; the form of the approval is missing. -/
def store : Store :=
  ((Store.empty.putProcess process).putProject project).putForm
    { id := requestForm, name := "Request", description := "", fields := [] }

def session : Session :=
  ⟨store, .create .standard .interpreting⟩

def document : InstanceId := ⟨⟨41⟩⟩

def noon : Timestamp := ⟨⟨2024, 2, 29⟩, 43200, 0⟩

/-- A session in which one purchase has been started. -/
def started : Session :=
  (session.perform (.start process.id document noon)).2

/-- A clerk's request for a large purchase. -/
def large : SubmitRequest :=
  { SubmitRequest.plain document request.id [("size", .string "large")] with
    roles := [⟨"clerk"⟩] }

/-- The step at which a purchase begins. -/
def atRequest : OpenStep :=
  { document :=
      { id := document, documentNumber := 1, process := process.id, current := some request.id,
        status := .active, context := [], createdAt := noon, updatedAt := noon }
    process := process
    node := request
    form := requestForm }

theorem atRequest_holds : atRequest.Holds started.store := by
  constructor
  · with_unfolding_all rfl
  · with_unfolding_all rfl
  · rfl
  · exact ⟨request.id, rfl, by decide +kernel⟩
  · rfl

/-- A session in which the purchase waits for approval. -/
def waiting : Session :=
  (started.perform (.submit large ⟨⟨51⟩⟩ noon)).2

def approve : Operation :=
  .submit (.plain document approval.id [("note", .string "fine")]) ⟨⟨52⟩⟩ noon

/-- A session in which the purchase is approved and completed. -/
def approved : Session :=
  (waiting.perform approve).2

/-- The calls that lead to an approved purchase. -/
theorem approved_runs : ∃ events, Runs session events approved := by
  have hlast : Runs waiting [⟨approve, _⟩] approved := .cons trivial (.nil _)
  have hlater : Runs started [⟨.submit large ⟨⟨51⟩⟩ noon, _⟩, ⟨approve, _⟩] approved :=
    .cons trivial hlast
  have fresh : (Operation.start process.id document noon).Fresh session.store := rfl
  exact ⟨_, .cons fresh hlater⟩

end Purchase

end FormFlow

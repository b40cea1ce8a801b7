import FormFlow.Proofs.Session

/-!
# Calls side by side

Calls that run side by side take turns, and in its turn a call asks the store once. A call that
moves a document writes the whole document as it has read it. So a start or a call for the form that
is overtaken by a submit of the document writes back what the submit has replaced. That cannot
happen to a document that is at the node of its step, where the walk from its node leads back to the
node: then nothing but the submit writes the document, and it stays as it was committed.
-/

namespace FormFlow

/-! ## Taking turns -/

namespace Call

variable {α : Type}

/-- One request of a call to the store, if the call is not done. -/
def step (call : Call α) (store : Store) : Call α × Store :=
  match call with
  | .done result => (.done result, store)
  | .ask request next => (next (store.answer request).1, (store.answer request).2)

/-- Steps lead to where a run to the end leads. -/
theorem run_step (call : Call α) (store : Store) :
    (call.step store).1.run (call.step store).2 = call.run store := by
  cases call <;> rfl

end Call

/-- A call that runs beside a submit. -/
inductive Visit where
  | start (process : ProcessId) (id : InstanceId) (now : Timestamp)
  | currentForm (sandbox : Sandbox) (id : InstanceId) (roles : List RoleId) (now : Timestamp)
  | save (id : InstanceId) (node : NodeId) (data : Fields Value) (submission : SubmissionId)
      (now : Timestamp)
  | list (project : Option ProjectId)

/-- A call whose answer nobody looks at. -/
def ServiceCall.unheard {α : Type} (call : ServiceCall α) : Call Unit :=
  call.run.bind fun _ => .done ()

namespace Visit

def call : Visit → Call Unit
  | .start process id now => (Service.start process id now).unheard
  | .currentForm sandbox id roles now => (Service.currentForm sandbox id roles now).unheard
  | .save id node data submission now => (Service.save id node data submission now).unheard
  | .list project => (Service.listDocuments project).unheard

/-- The document that a call starts. -/
def starts? : Visit → Option InstanceId
  | .start _ id _ => some id
  | .currentForm .. | .save .. | .list _ => none

end Visit

/-- A store, what is left of a submit, and what is left of the calls beside it. -/
structure Interleaved where
  store : Store
  submit : Call (Except ServiceFault SubmitOutcome)
  others : List (Call Unit)

inductive Turn where
  | submit
  | other (index : Nat)

namespace Interleaved

/-- A submit and other calls at their beginning. -/
def begin (store : Store) (sandbox : Sandbox) (request : SubmitRequest) (submission : SubmissionId)
    (now : Timestamp) (visits : List Visit) : Interleaved :=
  ⟨store, (Service.submit sandbox request submission now).run, visits.map Visit.call⟩

/-- One of the calls asks the store once. There is nothing to do for one that is done. -/
def turn (state : Interleaved) : Turn → Interleaved
  | .submit =>
      { state with
        store := (state.submit.step state.store).2
        submit := (state.submit.step state.store).1 }
  | .other index =>
      match state.others[index]? with
      | none => state
      | some call =>
          { state with
            store := (call.step state.store).2
            others := state.others.set index (call.step state.store).1 }

def run (state : Interleaved) (turns : List Turn) : Interleaved :=
  turns.foldl turn state

end Interleaved

/-! ## Documents at the node of their step -/

/-- An active document is where the walk from its node ends, if that is at a form. -/
def Instance.Arrived (document : Instance) (processes : Table Process) : Prop :=
  ∀ process current node, document.isActive = true →
    processes.get? document.process = some process → document.current = some current →
    process.resolveForward current = .form node → node.id = current

theorem Instance.arrived_complete (document : Instance) (now : Timestamp)
    (processes : Table Process) : (document.complete now).Arrived processes := by
  intro process current node hactive
  cases hactive

/-- A document that takes an edge comes to where the walk from its target ends. -/
theorem Process.arrived_advance {process : Process} {processes : Table Process}
    {document : Instance} (hknown : processes.get? document.process = some process) (edge : Edge)
    (now : Timestamp) : (process.advance document edge now).Arrived processes := by
  have hmoved : ∀ target : NodeId,
      (∀ node, process.resolveForward target = .form node → node.id = target) →
      (document.moveTo target now).Arrived processes := by
    intro target h other current node _ hprocess hcurrent hwalk
    obtain rfl : process = other := Option.some.inj (hknown.symm.trans hprocess)
    obtain rfl : target = current := Option.some.inj hcurrent
    exact h node hwalk
  obtain ⟨goal, hgoal, hadvance⟩ := process.advance_goal edge document now
  rw [hadvance]
  cases hgoal with
  | absent | finish | ended | lost => exact document.arrived_complete now processes
  | @form next _ hwalk =>
      apply hmoved
      intro node hnode
      rw [resolveForward_fixed hwalk] at hnode
      cases hnode
      rfl
  | deadEnd _ hwalk | cycle _ hwalk =>
      apply hmoved
      intro node hnode
      rw [hwalk] at hnode
      cases hnode

/-- A document at the node of its step has arrived. -/
theorem OpenStep.Holds.document_arrived {step : OpenStep} {store : Store} (hs : step.Holds store)
    (hthere : step.document.current = some step.node.id) :
    step.document.Arrived store.processes := by
  intro process current node _ hprocess hcurrent hwalk
  obtain rfl : step.process = process := Option.some.inj (hs.known.symm.trans hprocess)
  obtain rfl : step.node.id = current := Option.some.inj (hthere.symm.trans hcurrent)
  obtain ⟨resolved, hresolved, hnode⟩ := hs.resolved
  obtain rfl : resolved = step.node.id := Option.some.inj (hresolved.symm.trans hthere)
  rw [hnode] at hwalk
  cases hwalk
  rfl

/-! ## Guarded calls -/

namespace StoreRequest

/-- The document that a request commits. -/
def committed? : StoreRequest → Option Instance
  | .commit _ written => some written
  | _ => none

/-- Does a request write a document without a submission? -/
def overwrites (id : InstanceId) : StoreRequest → Bool
  | .create new => new.id = id
  | .update written => written.id = id
  | _ => false

end StoreRequest

/-- The document that a call is about to commit. -/
def Call.committing? {α : Type} : Call α → Option Instance
  | .done _ => none
  | .ask request _ => request.committed?

section Guarded

variable (processes : Table Process) (id : InstanceId)

/-- The processes are as they were, and the document is stored and has arrived. -/
structure Store.Steady (store : Store) : Prop where
  known : store.processes = processes
  arrived : ∃ document, store.instances.get? id = some document ∧ document.Arrived processes

/-- A request that commits, which it may do only if `may` is true, commits the document where it
has arrived; any other request leaves the document alone. -/
def StoreRequest.Fair (may : Bool) (request : StoreRequest) : Prop :=
  match request.committed? with
  | some written => may = true ∧ written.id = id ∧ written.Arrived processes
  | none => request.overwrites id = false

/-- A call writes the document at most once, by a commit, and only if `may` is true, as long as the
store is steady whenever it asks. Its result is as described. -/
def Call.Guarded {α : Type} (described : α → Prop) : Bool → Call α → Prop
  | _, .done result => described result
  | may, .ask request next =>
      request.Fair processes id may ∧ ∀ store : Store, store.Steady processes id →
        (next (store.answer request).1).Guarded described (may && request.committed?.isNone)

/-- A service call is guarded, and its result as described unless it fails. -/
def ServiceCall.Guarded {α : Type} (described : α → Prop) (may : Bool) (call : ServiceCall α) :
    Prop :=
  Call.Guarded processes id (fun answer => ∀ result, answer = .ok result → described result) may
    call.run

end Guarded

variable {processes : Table Process} {id : InstanceId}

namespace Store

theorem answer_processes (store : Store) (request : StoreRequest) :
    (store.answer request).2.processes = store.processes := by
  cases request with
  | update document =>
      simp only [answer, update]
      split <;> rfl
  | commit submission document =>
      simp only [answer, commit]
      split <;> rfl
  | _ => rfl

/-- A fair request writes the document that it commits, and no other over it. -/
theorem answer_document {store : Store} {request : StoreRequest} {may : Bool}
    (fair : request.Fair processes id may) (steady : store.Steady processes id) :
    (store.answer request).2.instances.get? id =
      request.committed?.or (store.instances.get? id) := by
  cases request with
  | create new =>
      have hne : ¬ new.id = id := of_decide_eq_false fair
      exact Table.get?_put_of_ne _ _ fun h => hne h.symm
  | update written =>
      have hne : ¬ written.id = id := of_decide_eq_false fair
      simp only [answer, update]
      split
      · exact Table.get?_put_of_ne _ _ fun h => hne h.symm
      · rfl
  | commit submission written =>
      obtain ⟨-, rfl, -⟩ := fair
      obtain ⟨old, hhold, -⟩ := steady.arrived
      simp only [answer, commit, hhold]
      exact Table.get?_put_self store.instances written
  | _ => rfl

/-- A store stays steady after a fair request. -/
theorem Steady.answer {store : Store} {request : StoreRequest} {may : Bool}
    (steady : store.Steady processes id) (fair : request.Fair processes id may) :
    (store.answer request).2.Steady processes id := by
  constructor
  · rw [answer_processes, steady.known]
  · rw [answer_document fair steady]
    unfold StoreRequest.Fair at fair
    split at fair
    next written h =>
      rw [h]
      exact ⟨written, rfl, fair.2.2⟩
    next h =>
      rw [h]
      exact steady.arrived

end Store

namespace Call.Guarded

variable {α β : Type} {described : α → Prop} {may : Bool} {call : Call α} {store : Store}

/-- A step keeps a call guarded and a store steady, and changes the document by a commit only. -/
theorem step (guarded : call.Guarded processes id described may)
    (steady : store.Steady processes id) :
    (call.step store).1.Guarded processes id described (may && call.committing?.isNone) ∧
      (call.step store).2.Steady processes id ∧
      (call.step store).2.instances.get? id = call.committing?.or (store.instances.get? id) := by
  cases call with
  | done result => exact ⟨guarded, steady, rfl⟩
  | ask request next =>
      obtain ⟨fair, hlater⟩ := guarded
      exact ⟨hlater store steady, steady.answer fair, Store.answer_document fair steady⟩

/-- A call that may not commit is not about to. -/
theorem committing?_eq_none (guarded : call.Guarded processes id described false) :
    call.committing? = none := by
  cases call with
  | done result => rfl
  | ask request next =>
      have fair := guarded.1
      unfold StoreRequest.Fair at fair
      split at fair
      next => cases fair.1
      next h => exact h

theorem mono {after : α → Prop} (guarded : call.Guarded processes id described may)
    (h : ∀ result, described result → after result) :
    call.Guarded processes id after may := by
  induction call generalizing may with
  | done result => exact h result guarded
  | ask request next ih => exact ⟨guarded.1, fun store steady => ih _ (guarded.2 store steady)⟩

/-- After a call that does not commit another may. -/
theorem bind {next : α → Call β} {after : β → Prop}
    (guarded : call.Guarded processes id described false)
    (hlater : ∀ result, described result → (next result).Guarded processes id after may) :
    (call.bind next).Guarded processes id after may := by
  induction call with
  | done result => exact hlater result guarded
  | ask request go ih =>
      have hquiet : request.committed? = none := guarded.committing?_eq_none
      obtain ⟨fair, hrest⟩ := guarded
      have fair' : request.Fair processes id may := by
        unfold StoreRequest.Fair at fair ⊢
        rwa [hquiet] at fair ⊢
      refine ⟨fair', fun store steady => ?_⟩
      have h := ih _ (hrest store steady)
      rw [hquiet]
      simpa using h

end Call.Guarded

/-! ## The calls are guarded -/

namespace ServiceCall

variable {α β : Type} {described : α → Prop} {may : Bool}

theorem Guarded.bind {call : ServiceCall α} {next : α → ServiceCall β} {after : β → Prop}
    (guarded : call.Guarded processes id described false)
    (hlater : ∀ result, described result → (next result).Guarded processes id after may) :
    (call >>= next).Guarded processes id after may := by
  refine Call.Guarded.bind guarded fun answer hanswer => ?_
  cases answer with
  | ok result => exact hlater result (hanswer result rfl)
  | error fault =>
      intro result h
      cases h

theorem guarded_pure {result : α} (h : described result) :
    (pure result : ServiceCall α).Guarded processes id described may := by
  intro other hother
  cases hother
  exact h

theorem guarded_throw (fault : ServiceFault) :
    (throw fault : ServiceCall α).Guarded processes id described may := by
  intro result h
  cases h

/-- A request that neither commits nor overwrites the document is guarded. -/
theorem guarded_ask {request : StoreRequest} {described : request.Answer → Prop}
    (fair : request.Fair processes id false)
    (h : ∀ store : Store, store.Steady processes id → described (store.answer request).1) :
    (ask request).Guarded processes id described false := by
  refine ⟨fair, fun store steady result hresult => ?_⟩
  cases hresult
  exact h store steady

/-- Any fair request will do when nothing is said about its answer. -/
theorem guarded_request (processes : Table Process) (id : InstanceId) (request : StoreRequest)
    (fair : request.Fair processes id false) :
    (ask request).Guarded processes id (fun _ => True) false :=
  guarded_ask fair fun _ _ => trivial

theorem guarded_require (answer : Option α) (fault : ServiceFault) :
    (require answer fault).Guarded processes id (fun found => answer = some found) may := by
  cases answer with
  | none => exact guarded_throw fault
  | some found => exact guarded_pure rfl

theorem guarded_accept (answer : Except StoreFault α) :
    (accept answer).Guarded processes id (fun _ => True) may := by
  cases answer with
  | ok result => exact guarded_pure trivial
  | error fault => exact guarded_throw _

/-- A call may end with the commit of a document that has arrived. -/
theorem guarded_commit {submission : Submission} {written : Instance}
    {next : Except StoreFault Unit → ServiceCall β} {after : β → Prop} (hid : written.id = id)
    (arrived : written.Arrived processes)
    (hlater : ∀ answer, (next answer).Guarded processes id after false) :
    (ask (.commit submission written) >>= next).Guarded processes id after true :=
  ⟨⟨rfl, hid, arrived⟩, fun _ _ => hlater _⟩

/-- What nobody looks at is guarded as it was before. -/
theorem Guarded.unheard {call : ServiceCall α}
    (guarded : call.Guarded processes id described false) :
    call.unheard.Guarded processes id (fun _ => True) false :=
  Call.Guarded.bind guarded fun _ _ => trivial

end ServiceCall

namespace Service

open ServiceCall

variable (processes id)

theorem guarded_fits {α : Type} {may : Bool} (check : Except StateMismatch α) :
    (fits check).Guarded processes id (fun result => check = .ok result) may := by
  cases check with
  | ok result => exact guarded_pure rfl
  | error fault => exact guarded_throw _

/-- The document is found where it has arrived, and other documents are other ones. -/
theorem guarded_loadDocument (other : InstanceId) :
    (loadDocument other).Guarded processes id
      (fun found => found.id = other ∧ (other = id → found.Arrived processes)) false := by
  have hask : (ask (.document other)).Guarded processes id
      (fun answer : Option Instance => ∀ found, answer = some found →
        found.id = other ∧ (other = id → found.Arrived processes)) false := by
    refine guarded_ask rfl fun store steady found h => ⟨Store.id_of_get? h, ?_⟩
    rintro rfl
    obtain ⟨document, hdocument, arrived⟩ := steady.arrived
    obtain rfl : document = found := Option.some.inj (hdocument.symm.trans h)
    exact arrived
  refine hask.bind fun answer hanswer => ?_
  cases answer with
  | none => exact guarded_throw _
  | some found => exact guarded_pure (hanswer found rfl)

theorem guarded_loadProcess (process : ProcessId) :
    (loadProcess process).Guarded processes id
      (fun found => processes.get? process = some found) false := by
  have hask : (ask (.process process)).Guarded processes id
      (fun answer : Option Process => processes.get? process = answer) false :=
    guarded_ask rfl fun store steady => by rw [← steady.known]; rfl
  refine hask.bind fun answer hanswer => ?_
  rw [hanswer]
  exact guarded_require _ _

theorem guarded_loadProject (process : Process) :
    (loadProject process).Guarded processes id (fun _ => True) false := by
  unfold loadProject
  cases process.project with
  | none => exact guarded_pure trivial
  | some project => exact guarded_request processes id _ rfl

theorem guarded_loadCatalogs (known : Table Catalog) (ids : List CatalogId) :
    (loadCatalogs known ids).Guarded processes id (fun _ => True) false := by
  induction ids generalizing known with
  | nil => exact guarded_pure trivial
  | cons first rest ih =>
      rw [loadCatalogs]
      split
      · exact ih known
      · refine (guarded_request processes id (.catalog first) rfl).bind fun answer _ => ?_
        cases answer with
        | none => exact ih known
        | some catalog => exact ih (known.put catalog)

theorem guarded_showForm (sandbox : Sandbox) (process : Process) (node : Node) (form : Form)
    (document : Instance) (roles : List RoleId) (now : Timestamp) :
    (showForm sandbox process node form document roles now).Guarded processes id (fun _ => True)
      false := by
  refine (guarded_request processes id (.submission document.id node.id) rfl).bind fun _ _ => ?_
  refine (guarded_loadProject processes id process).bind fun _ _ => ?_
  refine (guarded_loadCatalogs processes id _ _).bind fun _ _ => ?_
  exact guarded_pure trivial

theorem guarded_summaries (known : List (ProcessId × Option Process)) (documents : List Instance) :
    (summaries known documents).Guarded processes id (fun _ => True) false := by
  induction documents generalizing known with
  | nil => exact guarded_pure trivial
  | cons document rest ih =>
      rw [summaries]
      split
      · exact (ih known).bind fun _ _ => guarded_pure trivial
      · refine (guarded_request processes id (.process document.process) rfl).bind fun _ _ => ?_
        exact (ih _).bind fun _ _ => guarded_pure trivial

variable {processes id}

/-- A document is moved only if it is another one, or is at another node. -/
theorem guarded_arrive {document : Instance} {current : NodeId} {node : Node} (now : Timestamp)
    (h : document.id = id → node.id = current) :
    (arrive document current node now).Guarded processes id (fun _ => True) false := by
  unfold arrive
  split
  next => exact guarded_pure trivial
  next hne =>
    have fair : (StoreRequest.update (document.moveTo node.id now)).Fair processes id false :=
      decide_eq_false fun hid => hne (h hid)
    refine (guarded_request processes id _ fair).bind fun _ _ => ?_
    exact (guarded_accept _).bind fun _ _ => guarded_pure trivial

variable (processes id)

theorem guarded_start (process : ProcessId) {other : InstanceId} (now : Timestamp)
    (hne : other ≠ id) : (start process other now).Guarded processes id (fun _ => True) false := by
  refine (guarded_loadProcess processes id process).bind fun found _ => ?_
  refine (guarded_require found.start? _).bind fun first _ => ?_
  have hask : (ask (.create ⟨other, found.id, some first.id, .active, [], now⟩)).Guarded processes
      id (fun document : Instance => document.id = other) false :=
    guarded_ask (decide_eq_false hne) fun _ _ => rfl
  refine hask.bind fun document hdocument => ?_
  split
  · exact guarded_arrive now fun hid => absurd (hdocument.symm.trans hid) hne
  · exact guarded_pure trivial

theorem guarded_currentForm (sandbox : Sandbox) (other : InstanceId) (roles : List RoleId)
    (now : Timestamp) :
    (currentForm sandbox other roles now).Guarded processes id (fun _ => True) false := by
  refine (guarded_loadDocument processes id other).bind fun document hdocument => ?_
  split
  · exact guarded_pure trivial
  · rename_i current hcurrent
    split
    · exact guarded_pure trivial
    · rename_i hactive
      refine (guarded_loadProcess processes id document.process).bind fun process hprocess => ?_
      split
      · exact guarded_pure trivial
      · rename_i node hnode
        split
        · exact guarded_pure trivial
        · rename_i formId _
          refine (guarded_request processes id (.form formId) rfl).bind fun _ _ => ?_
          refine (guarded_require _ _).bind fun form _ => ?_
          -- for the guarded document the walk ends where it is, so there is nothing to move
          have hthere : document.id = id → node.id = current := fun hid =>
            hdocument.2 (hdocument.1.symm.trans hid) process current node (by simpa using hactive)
              hprocess hcurrent (Resolution.form?_eq_some_iff.mp hnode)
          refine (guarded_arrive now hthere).bind fun arrived _ => ?_
          exact (guarded_showForm processes id ..).bind fun _ _ => guarded_pure trivial

theorem guarded_save (other : InstanceId) (node : NodeId) (data : Fields Value)
    (submission : SubmissionId) (now : Timestamp) :
    (save other node data submission now).Guarded processes id (fun _ => True) false := by
  refine (guarded_loadDocument processes id other).bind fun document _ => ?_
  refine (guarded_loadProcess processes id document.process).bind fun process _ => ?_
  refine (guarded_fits processes id _).bind fun found _ => ?_
  exact guarded_request processes id (.upsert _) rfl

theorem guarded_listDocuments (project : Option ProjectId) :
    (listDocuments project).Guarded processes id (fun _ => True) false := by
  refine (guarded_request processes id .documents rfl).bind fun documents _ => ?_
  cases project with
  | none => exact guarded_summaries processes id [] documents
  | some project =>
      refine (guarded_request processes id (.processesInProject project) rfl).bind fun _ _ => ?_
      exact guarded_summaries processes id [] _

theorem guarded_submit (sandbox : Sandbox) (request : SubmitRequest) (submission : SubmissionId)
    (now : Timestamp) :
    (submit sandbox request submission now).Guarded processes request.document (fun _ => True)
      true := by
  refine (guarded_loadDocument processes _ request.document).bind fun document hdocument => ?_
  refine (guarded_loadProcess processes _ document.process).bind fun process hprocess => ?_
  refine (guarded_fits processes _ _).bind fun found _ => ?_
  refine (guarded_fits processes _ _).bind fun _ _ => ?_
  refine (guarded_loadProject processes _ process).bind fun project _ => ?_
  refine (guarded_fits processes _ _).bind fun taken _ => ?_
  -- the document that is committed is the one that leaves the step
  let step : OpenStep := ⟨document, process, found.1, found.2⟩
  have hid : (step.leave request.data now taken).id = request.document :=
    (step.leave_id ..).trans hdocument.1
  have arrived : (step.leave request.data now taken).Arrived processes := by
    cases taken with
    | none => exact Instance.arrived_complete _ now processes
    | some edge =>
        have hknown : processes.get? (document.record found.1.id request.data now).process =
            some process := hprocess
        exact Process.arrived_advance hknown edge now
  exact guarded_commit hid arrived fun answer =>
    (guarded_accept answer).bind fun _ _ => guarded_pure trivial

end Service

theorem Visit.guarded {visit : Visit} (processes : Table Process) (h : visit.starts? ≠ some id) :
    visit.call.Guarded processes id (fun _ => True) false := by
  cases visit with
  | start process other now =>
      have hne : other ≠ id := fun hid => h (congrArg some hid)
      exact (Service.guarded_start processes id process now hne).unheard
  | currentForm sandbox other roles now =>
      exact (Service.guarded_currentForm processes id sandbox other roles now).unheard
  | save other node data submission now =>
      exact (Service.guarded_save processes id other node data submission now).unheard
  | list project => exact (Service.guarded_listDocuments processes id project).unheard

/-! ## Interleaved runs -/

/-- The store is steady, and all calls are guarded; the submit may commit only if `may` is true. -/
structure Interleaved.Steady (processes : Table Process) (id : InstanceId) (may : Bool)
    (state : Interleaved) : Prop where
  store : state.store.Steady processes id
  submit : state.submit.Guarded processes id (fun _ => True) may
  others : ∀ call ∈ state.others, call.Guarded processes id (fun _ => True) false

namespace Interleaved

variable {state : Interleaved} {may : Bool}

theorem Steady.turn_submit (steady : state.Steady processes id may) :
    (state.turn .submit).Steady processes id (may && state.submit.committing?.isNone) ∧
      (state.turn .submit).store.instances.get? id =
        state.submit.committing?.or (state.store.instances.get? id) := by
  obtain ⟨guarded, hstore, hdocument⟩ := steady.submit.step steady.store
  exact ⟨⟨hstore, guarded, steady.others⟩, hdocument⟩

/-- The other calls leave the document alone. -/
theorem Steady.turn_other (steady : state.Steady processes id may) (index : Nat) :
    (state.turn (.other index)).Steady processes id may ∧
      (state.turn (.other index)).store.instances.get? id = state.store.instances.get? id := by
  unfold turn
  dsimp only
  split
  next => exact ⟨steady, rfl⟩
  next call hcall =>
    have hguarded := steady.others call (List.mem_of_getElem? hcall)
    obtain ⟨guarded, hstore, hdocument⟩ := hguarded.step steady.store
    rw [hguarded.committing?_eq_none] at guarded hdocument
    refine ⟨⟨hstore, steady.submit, fun other hother => ?_⟩, hdocument⟩
    rcases List.mem_or_eq_of_mem_set hother with hhold | rfl
    · exact steady.others other hhold
    · exact guarded

/-- An interleaving stays steady, and the document is not written any more when no commit is
left. -/
theorem Steady.run (steady : state.Steady processes id may) (turns : List Turn) :
    (∃ left, (state.run turns).Steady processes id left) ∧
      (may = false →
        (state.run turns).store.instances.get? id = state.store.instances.get? id) := by
  induction turns generalizing state may with
  | nil => exact ⟨⟨may, steady⟩, fun _ => rfl⟩
  | cons turn rest ih =>
      cases turn with
      | submit =>
          -- a commit uses up the permission, so afterwards no write is left
          obtain ⟨hlater, hdocument⟩ := steady.turn_submit
          refine ⟨(ih hlater).1, ?_⟩
          rintro rfl
          rw [steady.submit.committing?_eq_none] at hdocument
          exact ((ih hlater).2 rfl).trans hdocument
      | other index =>
          obtain ⟨hlater, hdocument⟩ := steady.turn_other index
          refine ⟨(ih hlater).1, fun hmay => ?_⟩
          exact ((ih hlater).2 hmay).trans hdocument

theorem run_append (state : Interleaved) (turns more : List Turn) :
    state.run (turns ++ more) = (state.run turns).run more :=
  List.foldl_append

theorem steady_begin {store : Store} {document : Instance} {request : SubmitRequest}
    (hstored : store.instances.get? request.document = some document)
    (arrived : document.Arrived store.processes) (sandbox : Sandbox) (submission : SubmissionId)
    (now : Timestamp) {visits : List Visit}
    (hapart : ∀ visit ∈ visits, visit.starts? ≠ some request.document) :
    (begin store sandbox request submission now visits).Steady store.processes request.document
      true := by
  refine ⟨⟨rfl, document, hstored, arrived⟩, ?_, ?_⟩
  · exact (Service.guarded_submit store.processes sandbox request submission now).mono
      fun _ _ => trivial
  · intro call hcall
    obtain ⟨visit, hvisit, rfl⟩ := List.mem_map.mp hcall
    exact Visit.guarded store.processes (hapart visit hvisit)

end Interleaved

/-- If the submitted document is at the node of its step when the calls begin, and none of the calls
beside the submit starts it, then whatever the turns of the calls before and after the commit, the
document stays as it was committed. -/
theorem committed_document_stays {store : Store} {document : Instance} {request : SubmitRequest}
    (hstored : store.instances.get? request.document = some document)
    (arrived : document.Arrived store.processes) (sandbox : Sandbox) (submission : SubmissionId)
    (now : Timestamp) {visits : List Visit}
    (hapart : ∀ visit ∈ visits, visit.starts? ≠ some request.document)
    {before : List Turn} {written : Instance}
    (hcommits : ((Interleaved.begin store sandbox request submission now visits).run
      before).submit.committing? = some written) (after : List Turn) :
    ((Interleaved.begin store sandbox request submission now visits).run
      (before ++ .submit :: after)).store.instances.get? request.document = some written := by
  have hbegins := Interleaved.steady_begin hstored arrived sandbox submission now hapart
  obtain ⟨left, hreached⟩ := (hbegins.run before).1
  obtain ⟨hcommitted, hwritten⟩ := hreached.turn_submit
  rw [hcommits] at hcommitted hwritten
  rw [Interleaved.run_append]
  exact ((hcommitted.run after).2 (Bool.and_false left)).trans hwritten

namespace Purchase

/-- While a large purchase is sent to approval, others fetch its form, save the request, list all
documents and start another purchase. -/
def sending : Interleaved :=
  .begin started.store started.sandbox large ⟨⟨51⟩⟩ noon
    [.currentForm started.sandbox document [] noon, .save document request.id [] ⟨⟨53⟩⟩ noon,
      .list none, .start process.id ⟨⟨42⟩⟩ noon]

/-- The turns up to the commit. -/
def turns : List Turn :=
  [.other 0, .submit, .other 3, .submit, .other 0, .submit, .other 1]

end Purchase

/-- The purchase stays at the approval, whatever the others still ask of the store. -/
theorem committed_document_stays_approval :
    (((Purchase.sending.run (Purchase.turns ++ .submit :: [.other 0, .other 3, .other 1, .other 2])
      ).store.instances.get? Purchase.document).map Instance.current) =
        some (some Purchase.approval.id) := by
  have holds := Purchase.atRequest_holds
  have hdecided : ((Purchase.sending.run Purchase.turns).submit.committing?).map Instance.current =
      some (some Purchase.approval.id) := by
    decide +kernel
  obtain ⟨written, hcommits, hcurrent⟩ := Option.map_eq_some_iff.mp hdecided
  have hstays := committed_document_stays holds.stored (holds.document_arrived rfl) _ _ _
    (by decide) hcommits [.other 0, .other 3, .other 1, .other 2]
  exact (congrArg (Option.map Instance.current) hstays).trans (congrArg some hcurrent)

/-- A start and a call for the form that have read the document before it is submitted take it back
to where it was, and what it keeps is gone. -/
theorem start_and_form_undo_submit :
    let begun := Interleaved.begin Purchase.store Purchase.session.sandbox Purchase.large ⟨⟨51⟩⟩
      Purchase.noon [.start Purchase.process.id Purchase.document Purchase.noon,
        .currentForm Purchase.session.sandbox Purchase.document [] Purchase.noon]
    let committed := begun.run [.other 0, .other 0, .other 1, .other 1, .other 1, .submit, .submit,
      .submit, .submit]
    let shown := fun state : Interleaved =>
      (state.store.instances.get? Purchase.document).map fun document =>
        (document.current, document.context.keys)
    shown committed = some (some Purchase.approval.id, [Purchase.request.id.text]) ∧
      shown (committed.turn (.other 0)) = some (some Purchase.request.id, []) ∧
      shown (committed.turn (.other 1)) = some (some Purchase.request.id, []) := by
  decide +kernel

end FormFlow

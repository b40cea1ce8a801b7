import FormFlow.Service.Fault

/-!
# Service calls

A service call is a sequence of requests to the store with pure work in between: it is done, or it
asks the store for something and goes on with the answer. The store answers each request at once,
so calls that run side by side can be interleaved between their requests and nowhere else.
-/

namespace FormFlow

/-- What a call asks of the store. -/
inductive StoreRequest where
  | process (id : ProcessId)
  | processesInProject (id : ProjectId)
  | form (id : FormId)
  | project (id : ProjectId)
  | catalog (id : CatalogId)
  | document (id : InstanceId)
  | documents
  | submission (document : InstanceId) (node : NodeId)
  | create (new : Store.NewInstance)
  | update (document : Instance)
  | upsert (submission : Submission)
  | commit (submission : Submission) (document : Instance)

/-- What the store answers to a request. -/
def StoreRequest.Answer : StoreRequest → Type
  | .process _ => Option Process
  | .processesInProject _ => List Process
  | .form _ => Option Form
  | .project _ => Option Project
  | .catalog _ => Option Catalog
  | .document _ => Option Instance
  | .documents => List Instance
  | .submission _ _ => Option Submission
  | .create _ => Instance
  | .update _ => Except StoreFault Unit
  | .upsert _ => Unit
  | .commit _ _ => Except StoreFault Unit

/-- The answer to a request, and the store afterwards. -/
def Store.answer (store : Store) : (request : StoreRequest) → request.Answer × Store
  | .process id => (store.processes.get? id, store)
  | .processesInProject id => (store.processesInProject id, store)
  | .form id => (store.forms.get? id, store)
  | .project id => (store.projects.get? id, store)
  | .catalog id => (store.catalogs.get? id, store)
  | .document id => (store.instances.get? id, store)
  | .documents => (store.listInstances, store)
  | .submission document node => (store.submission? document node, store)
  | .create new => store.create new
  | .update document => store.update document
  | .upsert submission => ((), store.upsert submission)
  | .commit submission document => store.commit submission document

/-- A computation that asks the store. -/
inductive Call (α : Type) where
  | done (result : α)
  | ask (request : StoreRequest) (next : request.Answer → Call α)

namespace Call

def bind {α β : Type} (call : Call α) (next : α → Call β) : Call β :=
  match call with
  | .done result => next result
  | .ask request go => .ask request fun answer => (go answer).bind next

instance : Monad Call where
  pure := .done
  bind := bind

/-- Run a call to its end with nothing in between. -/
def run {α : Type} (call : Call α) (store : Store) : α × Store :=
  match call with
  | .done result => (result, store)
  | .ask request next =>
      let (answer, store) := store.answer request
      (next answer).run store

theorem run_bind {α β : Type} (call : Call α) (next : α → Call β) (store : Store) :
    (call.bind next).run store = (next (call.run store).1).run (call.run store).2 := by
  induction call generalizing store with
  | done result => rfl
  | ask request go ih => exact ih _ _

end Call

/-- A call that may fail. -/
abbrev ServiceCall := ExceptT ServiceFault Call

namespace ServiceCall

/-- Ask the store. -/
def ask (request : StoreRequest) : ServiceCall request.Answer :=
  ExceptT.mk (.ask request fun answer => .done (.ok answer))

/-- The answer of the store, or a fault if there is none. -/
def require {α : Type} (answer : Option α) (fault : ServiceFault) : ServiceCall α :=
  match answer with
  | some found => pure found
  | none => throw fault

/-- Pass on what the store refuses. -/
def accept {α : Type} (answer : Except StoreFault α) : ServiceCall α :=
  match answer with
  | .ok result => pure result
  | .error fault => throw (.store fault)

/-- Run a call to its end with nothing in between. -/
def runOn {α : Type} (call : ServiceCall α) (store : Store) : Except ServiceFault α × Store :=
  Call.run call.run store

end ServiceCall

end FormFlow

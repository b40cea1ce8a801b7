import FormFlow.Form.Render
import FormFlow.Instance
import FormFlow.Process.Basic
import FormFlow.Project

/-!
# The store

Definitions are put in the store by their authors. Instances and submissions are written by the
service: an instance is created with the next document number and replaced only if it exists, and
there is one submission for every instance and node, which keeps its id when it is replaced.
-/

namespace FormFlow

instance : Keyed Process ProcessId := ⟨Process.id⟩

instance : Keyed Form FormId := ⟨Form.id⟩

instance : Keyed Project ProjectId := ⟨Project.id⟩

instance : Keyed Instance InstanceId := ⟨Instance.id⟩

instance : Keyed Submission (InstanceId × NodeId) :=
  ⟨fun submission => (submission.document, submission.node)⟩

/-- Why the store refuses an operation. -/
inductive StoreFault where
  | instanceNotFound (id : InstanceId)
  /-- Data cannot be written or read. -/
  | serialization (detail : String)
  | backend (detail : String)
deriving DecidableEq

def StoreFault.message : StoreFault → String
  | .instanceNotFound id => s!"instance not found: {id.uuid.text}"
  | .serialization detail => s!"serialization error: {detail}"
  | .backend detail => s!"store backend error: {detail}"

structure Store where
  processes : Table Process
  forms : Table Form
  projects : Table Project
  catalogs : Table Catalog
  instances : Table Instance
  submissions : Table Submission
  /-- The document number that was given last. -/
  lastNumber : Nat

namespace Store

def empty : Store :=
  { processes := .empty
    forms := .empty
    projects := .empty
    catalogs := .empty
    instances := .empty
    submissions := .empty
    lastNumber := 0 }

def putProcess (store : Store) (process : Process) : Store :=
  { store with processes := store.processes.put process }

def putForm (store : Store) (form : Form) : Store :=
  { store with forms := store.forms.put form }

def putProject (store : Store) (project : Project) : Store :=
  { store with projects := store.projects.put project }

def putCatalog (store : Store) (catalog : Catalog) : Store :=
  { store with catalogs := store.catalogs.put catalog }

def processesInProject (store : Store) (project : ProjectId) : List Process :=
  store.processes.rows.filter fun process => process.project = some project

/-- What a new instance is created from. -/
structure NewInstance where
  id : InstanceId
  process : ProcessId
  current : Option NodeId
  status : Status
  context : Fields Value
  now : Timestamp

/-- The instance that is created with a document number. -/
def NewInstance.numbered (new : NewInstance) (number : Nat) : Instance :=
  { id := new.id
    documentNumber := number
    process := new.process
    current := new.current
    status := new.status
    context := new.context
    createdAt := new.now
    updatedAt := new.now }

/-- Create an instance with the next document number. -/
def create (store : Store) (new : NewInstance) : Instance × Store :=
  let number := store.lastNumber + 1
  let document := new.numbered number
  (document, { store with instances := store.instances.put document, lastNumber := number })

/-- All instances by document number. -/
def listInstances (store : Store) : List Instance :=
  store.instances.rows.mergeSort fun a b => a.documentNumber ≤ b.documentNumber

/-- Replace an instance that exists. -/
def update (store : Store) (document : Instance) : Except StoreFault Unit × Store :=
  match store.instances.get? document.id with
  | some _ => (.ok (), { store with instances := store.instances.put document })
  | none => (.error (.instanceNotFound document.id), store)

/-- The submission for an instance and a node. -/
def submission? (store : Store) (document : InstanceId) (node : NodeId) : Option Submission :=
  store.submissions.get? (document, node)

/-- The submission under the id that its instance and node already have. -/
def withKnownId (store : Store) (submission : Submission) : Submission :=
  match store.submission? submission.document submission.node with
  | some old => { submission with id := old.id }
  | none => submission

/-- Store a submission in place of the one for the same instance and node. -/
def upsert (store : Store) (submission : Submission) : Store :=
  { store with submissions := store.submissions.put (store.withKnownId submission) }

/-- Store a submission and replace the instance, or do neither. -/
def commit (store : Store) (submission : Submission) (document : Instance) :
    Except StoreFault Unit × Store :=
  match store.instances.get? document.id with
  | some _ =>
      let written := store.upsert submission
      (.ok (), { written with instances := written.instances.put document })
  | none => (.error (.instanceNotFound document.id), store)

end Store

end FormFlow

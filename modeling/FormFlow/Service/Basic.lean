import FormFlow.Process.Walk
import FormFlow.Sandbox.Basic
import FormFlow.Service.Call

/-!
# The service

Documents are started, shown to a caller as a form, saved as drafts and submitted. The service
keeps nothing between calls: each call reads the instance, decides, and writes back. Every check
of a save or a submit comes before anything is written. The moment of a call and the ids of what
it creates are arguments, so a call is a function of what it is given and what the store answers.
-/

namespace FormFlow

open ServiceCall

/-- An edge that the caller may take. -/
structure Transition where
  edge : EdgeId
  key : EdgeKey
  label : String
  target : NodeId
deriving DecidableEq

def Transition.along (edge : Edge) : Transition :=
  ⟨edge.id, edge.key, edge.label, edge.target⟩

/-- What a caller needs to fill in the current step. -/
structure CurrentForm where
  form : RenderedForm
  node : NodeId
  /-- What was saved or submitted at the node before. -/
  data : Option (Fields Value)
  transitions : List Transition
  document : Instance

structure SubmitRequest where
  document : InstanceId
  node : NodeId
  /-- Checked against the form of the node when it is given. -/
  form : Option FormId
  data : Fields Value
  roles : List RoleId
  /-- The key of the edge to take, if the caller chooses. -/
  chosen : Option EdgeKey

/-- A request with nothing but the data for a node. -/
def SubmitRequest.plain (document : InstanceId) (node : NodeId) (data : Fields Value) :
    SubmitRequest :=
  { document, node, form := none, data, roles := [], chosen := none }

structure SubmitOutcome where
  document : InstanceId
  status : Status
  current : Option NodeId
  completed : Bool
deriving DecidableEq

def SubmitOutcome.of (document : Instance) : SubmitOutcome :=
  ⟨document.id, document.status, document.current, document.isCompleted⟩

/-- A document in a list. -/
structure DocumentSummary where
  id : InstanceId
  documentNumber : Nat
  process : ProcessId
  processName : String
  project : Option ProjectId
  status : Status
  current : Option NodeId
deriving DecidableEq

/-- The row of a document, whose process may be unknown. -/
def DocumentSummary.of (document : Instance) (process : Option Process) : DocumentSummary :=
  { id := document.id
    documentNumber := document.documentNumber
    process := document.process
    processName := process.elim "" Process.name
    project := process.bind Process.project
    status := document.status
    current := document.current }

/-- What conditions and validators see while a caller is at a node. -/
structure View where
  conditions : Fields Value
  flat : Fields Value

/-- The view of a document as if `data` had been submitted at a node. -/
def View.of (document : Instance) (node : NodeId) (roles : List RoleId) : View :=
  ⟨document.contextWithRoles roles, document.flatContext (some node) roles⟩

/-- The gates of an edge: the step validators of the project that it lists. -/
def Edge.gateValidators (edge : Edge) (project : Option Project) : List Validator :=
  project.elim [] fun project => project.select edge.gates .stepAccess

/-- Is an edge open? Its condition must hold and its gates must allow the step. -/
def Edge.isOpen (edge : Edge) (sandbox : Sandbox) (project : Option Project) (view : View) : Bool :=
  edge.condition.all (fun condition => evaluate condition view.conditions) &&
    sandbox.stepAllowed (edge.gateValidators project) view.flat edge.target

/-- The open edges out of a node, in the order of the definition. -/
def Process.openEdges (process : Process) (sandbox : Sandbox) (project : Option Project)
    (node : NodeId) (view : View) : List Edge :=
  (process.edgesFrom node).filter fun edge => edge.isOpen sandbox project view

/-- What a caller may do with a field: what the validators say or, if they say nothing, what its
access rules say. -/
def FieldDefinition.permission (field : FieldDefinition) (overrides : Fields Permission)
    (conditions : Fields Value) : Permission :=
  (overrides.get? field.name).getD (AccessRule.resolve field.rules conditions .write)

/-- The node with a form where a document is, which must be the one that the request names. -/
def Process.currentFormNode (process : Process) (document : Instance) (given : NodeId) :
    Except StateMismatch (Node × FormId) :=
  if !document.isActive then .error (.notActive document.id document.status)
  else
    match document.current.bind fun current => (process.resolveForward current).form? with
    | none => .error (.nodeMismatch given document.current)
    | some node =>
        if node.id = given then
          match node.form with
          | some form => .ok (node, form)
          | none => .error (.nodeMismatch given none)
        else .error (.nodeMismatch given (some node.id))

/-- A form that a request gives must be the one of its step. -/
def SubmitRequest.checkForm (request : SubmitRequest) (node : Node) (form : FormId) :
    Except StateMismatch Unit :=
  match request.form with
  | some given => if given = form then .ok () else .error (.formMismatch node.id given)
  | none => .ok ()

/-- The edge that a submit takes; none when the node has no edges at all. -/
def Process.chooseEdge (process : Process) (node : NodeId) (openEdges : List Edge)
    (chosen : Option EdgeKey) : Except StateMismatch (Option Edge) :=
  if process.hasOutgoing node then
    match chosen with
    | some key =>
        match openEdges.find? fun edge => edge.key = key with
        | some edge => .ok (some edge)
        | none => .error (.transitionNotAvailable node key)
    | none =>
        match openEdges with
        | edge :: _ => .ok (some edge)
        | [] => .error (.noTransition node)
  else .ok none

/-- Take an edge. A document is completed when the edge leads to an end node or to none, or when the
walk from its target ends so. -/
def Process.advance (process : Process) (document : Instance) (edge : Edge) (now : Timestamp) :
    Instance :=
  match process.node? edge.target with
  | none => document.complete now
  | some target =>
      if target.kind = .finish then document.complete now
      else
        match process.resolveForward edge.target with
        | .form next => document.moveTo next.id now
        | .finish _ | .missing _ => document.complete now
        | .deadEnd _ | .cycle _ => document.moveTo edge.target now

namespace Service

def loadDocument (id : InstanceId) : ServiceCall Instance := do
  require (← ask (.document id)) (.instanceNotFound id)

def loadProcess (id : ProcessId) : ServiceCall Process := do
  require (← ask (.process id)) (.definition (.processNotFound id))

/-- The project of a process, if it has one that the store knows. -/
def loadProject (process : Process) : ServiceCall (Option Project) :=
  match process.project with
  | some id => ask (.project id)
  | none => pure none

/-- Add the catalogs with the given ids to those that are known. -/
def loadCatalogs (known : Table Catalog) : List CatalogId → ServiceCall (Table Catalog)
  | [] => pure known
  | id :: rest =>
      match known.get? id with
      | some _ => loadCatalogs known rest
      | none => do
        match ← ask (.catalog id) with
        | some catalog => loadCatalogs (known.put catalog) rest
        | none => loadCatalogs known rest

/-- Pass on that the request does not fit. -/
def fits {α : Type} (check : Except StateMismatch α) : ServiceCall α :=
  match check with
  | .ok result => pure result
  | .error fault => throw (.mismatch fault)

/-- Move a document that is at the node `current` to another one, if it is another. -/
def arrive (document : Instance) (current : NodeId) (node : Node) (now : Timestamp) :
    ServiceCall Instance :=
  if node.id = current then return document
  else do
    let moved := document.moveTo node.id now
    accept (← ask (.update moved))
    return moved

/-- Start a document of a process. It begins at the first step that the walk from the start node
comes to, or at the start node if it comes to none. -/
def start (process : ProcessId) (id : InstanceId) (now : Timestamp) : ServiceCall Instance := do
  let process ← loadProcess process
  let first ← require process.start? (.definition (.noStart process.id))
  let document : Instance ← ask (.create
    { id, process := process.id, current := some first.id, status := .active, context := [], now })
  match (process.resolveForward first.id).form? with
  | some node => arrive document first.id node now
  | none => return document

def getDocument (id : InstanceId) : ServiceCall (Option Instance) :=
  ask (.document id)

/-- The form of a node as the caller sees it, for a document that has come to that node. -/
def showForm (sandbox : Sandbox) (process : Process) (node : Node) (form : Form)
    (document : Instance) (roles : List RoleId) (now : Timestamp) : ServiceCall CurrentForm := do
  let saved := (← ask (.submission document.id node.id)).map Submission.data
  let working := saved.elim document fun data => document.record node.id data now
  let view := View.of working node.id roles
  let project ← loadProject process
  let validators := project.elim [] fun project => project.select node.validators .fieldVisibility
  let overrides := sandbox.fieldPermissions validators view.flat
  let catalogs ← loadCatalogs .empty (form.fields.filterMap FieldDefinition.catalog)
  return {
    form := form.render catalogs fun field => field.permission overrides view.conditions
    node := node.id
    data := saved
    transitions := (process.openEdges sandbox project node.id view).map Transition.along
    document }

/-- The form to fill in next. A document whose node has no form moves forward to the one it resolves
to; there is none for a document that is not active or whose walk comes to none. -/
def currentForm (sandbox : Sandbox) (id : InstanceId) (roles : List RoleId) (now : Timestamp) :
    ServiceCall (Option CurrentForm) := do
  let document ← loadDocument id
  match document.current with
  | none => return none
  | some current =>
      if !document.isActive then return none
      else do
        let process ← loadProcess document.process
        match (process.resolveForward current).form? with
        | none => return none
        | some node =>
            match node.form with
            | none => return none
            | some formId => do
              let form ← require (← ask (.form formId)) (.definition (.formNotFound formId))
              let arrived ← arrive document current node now
              return some (← showForm sandbox process node form arrived roles now)

/-- Keep a draft of the data for the current step. -/
def save (id : InstanceId) (node : NodeId) (data : Fields Value) (submission : SubmissionId)
    (now : Timestamp) : ServiceCall Unit := do
  let document ← loadDocument id
  let process ← loadProcess document.process
  let (node, form) ← fits (process.currentFormNode document node)
  ask (.upsert ⟨submission, document.id, node.id, form, data, now⟩)

/-- Submit the current step and take an open edge, or complete the document if no edge leaves the
step. -/
def submit (sandbox : Sandbox) (request : SubmitRequest) (submission : SubmissionId)
    (now : Timestamp) : ServiceCall SubmitOutcome := do
  let document ← loadDocument request.document
  let process ← loadProcess document.process
  let (node, form) ← fits (process.currentFormNode document request.node)
  fits (request.checkForm node form)
  let working := document.record node.id request.data now
  let view := View.of working node.id request.roles
  let project ← loadProject process
  let openEdges := process.openEdges sandbox project node.id view
  let taken ← fits (process.chooseEdge node.id openEdges request.chosen)
  let moved := taken.elim (working.complete now) fun edge => process.advance working edge now
  accept (← ask (.commit ⟨submission, moved.id, node.id, form, request.data, now⟩ moved))
  return .of moved

/-- What was saved or submitted at a node. -/
def submissionData (id : InstanceId) (node : NodeId) : ServiceCall (Option (Fields Value)) := do
  return (← ask (.submission id node)).map Submission.data

/-- The rows of documents; `known` are the processes that have been looked up. -/
def summaries (known : List (ProcessId × Option Process)) :
    List Instance → ServiceCall (List DocumentSummary)
  | [] => pure []
  | document :: rest => do
    match known.lookup document.process with
    | some process => return .of document process :: (← summaries known rest)
    | none => do
      let process ← ask (.process document.process)
      return .of document process :: (← summaries ((document.process, process) :: known) rest)

/-- All documents, or those whose process belongs to a project. -/
def listDocuments (project : Option ProjectId) : ServiceCall (List DocumentSummary) := do
  let documents ← ask .documents
  match project with
  | none => summaries [] documents
  | some id => do
    let inProject := (← ask (.processesInProject id)).map Process.id
    summaries [] (documents.filter fun document => document.process ∈ inProject)

end Service

end FormFlow

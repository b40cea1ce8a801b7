import FormFlow.Proofs.Numbering

/-!
# Documents by project

The documents of a project are found the other way round: from the project to its processes and from
these to their documents. A list of all documents goes from each document to its process and on to
the project. Both ways lead to the same documents as long as no two processes share an id, also for
documents whose process is unknown by now or has been moved to another project.
-/

namespace FormFlow

namespace Table

variable {α κ : Type} [Keyed α κ] [DecidableEq κ] {table other : Table α} {key : κ} {row : α}

/-- A row is found under its key, if no other row has it. -/
theorem get?_eq_some_iff (distinct : table.Distinct) :
    table.get? key = some row ↔ row ∈ table.rows ∧ Keyed.key row = key := by
  constructor
  · intro h
    exact ⟨List.mem_of_find?_eq_some h, key_of_get? h⟩
  · rintro ⟨hmem, rfl⟩
    cases h : table.get? (Keyed.key row) with
    | none => simpa using List.find?_eq_none.mp h row hmem
    | some found =>
        have hsame : Keyed.key found = Keyed.key row := key_of_get? h
        rw [List.inj_on_of_nodup_map distinct (List.mem_of_find?_eq_some h) hmem hsame]

omit [DecidableEq κ] in
theorem Distinct.of_perm (distinct : table.Distinct) (hperm : other.rows.Perm table.rows) :
    other.Distinct :=
  (hperm.map Keyed.key).nodup_iff.mpr distinct

/-- What is found does not depend on the order of the rows. -/
theorem get?_of_perm (distinct : table.Distinct) (hperm : other.rows.Perm table.rows) (key : κ) :
    other.get? key = table.get? key := by
  apply Option.ext
  intro row
  rw [get?_eq_some_iff distinct, get?_eq_some_iff (distinct.of_perm hperm), hperm.mem_iff]

end Table

namespace Store

variable {store : Store} {project : ProjectId}

/-- A process is among those of a project exactly if the process that is found under its id belongs
to the project. -/
theorem mem_processesInProject_iff (hkeyed : store.processes.Distinct) {id : ProcessId} :
    id ∈ (store.processesInProject project).map Process.id ↔
      (store.processes.get? id).bind Process.project = some project := by
  simp only [processesInProject, List.mem_map, List.mem_filter, decide_eq_true_eq,
    Option.bind_eq_some_iff, Table.get?_eq_some_iff hkeyed]
  constructor
  · rintro ⟨process, ⟨hmem, hbelongs⟩, hown⟩
    exact ⟨process, ⟨hmem, hown⟩, hbelongs⟩
  · rintro ⟨process, ⟨hmem, hown⟩, hbelongs⟩
    exact ⟨process, ⟨hmem, hbelongs⟩, hown⟩

/-- A list for a project has the rows of that project out of the list of all documents. -/
theorem runOn_listDocuments_project (hkeyed : store.processes.Distinct) (project : ProjectId) :
    (Service.listDocuments (some project)).runOn store =
      (.ok ((store.listInstances.map store.summary).filter fun row => row.project = some project),
        store) := by
  have hselects : ∀ document ∈ store.listInstances,
      decide (document.process ∈ (store.processesInProject project).map Process.id) =
        ((fun row => decide (row.project = some project)) ∘ store.summary) document := by
    intro document _
    exact decide_eq_decide.mpr (mem_processesInProject_iff hkeyed)
  rw [runOn_listDocuments, List.filter_map, ← List.filter_congr hselects]
  rfl

/-- The order in which processes are stored makes no difference to a row. -/
theorem summary_of_perm {shelf : Table Process} (hkeyed : store.processes.Distinct)
    (hperm : shelf.rows.Perm store.processes.rows) :
    { store with processes := shelf }.summary = store.summary := by
  funext document
  simp only [summary, Table.get?_of_perm hkeyed hperm]

end Store

/-- No operation stores two processes under one id. -/
theorem Session.perform_keyed {session : Session} (operation : Operation)
    (hkeyed : session.store.processes.Distinct) :
    (session.perform operation).2.store.processes.Distinct := by
  cases hfixed : operation.definition? with
  | none => rwa [session.perform_processes hfixed]
  | some definition =>
      cases operation with
      | define inserted =>
          cases inserted with
          | process process => exact hkeyed.put process
          | _ => exact hkeyed
      | _ => cases hfixed

/-- After any run that begins with at most one process for each id, be it empty, that is still so.
Whatever order the processes are stored in, the list for a project is the list of all documents
without the rows that do not name this project, and neither call changes anything. -/
theorem project_list_selects_rows {first last : Session} {events : List Event}
    (run : Runs first events last) (hkeyed : first.store.processes.Distinct) :
    last.store.processes.Distinct ∧
    ∃ rows, last.call (Service.listDocuments none) = (.ok rows, last) ∧
      ∀ shelf : Table Process, shelf.rows.Perm last.store.processes.rows → ∀ project,
        let session : Session := ⟨{ last.store with processes := shelf }, last.sandbox⟩
        session.call (Service.listDocuments (some project)) =
          (.ok (rows.filter fun row => row.project = some project), session) := by
  have distinct : last.store.processes.Distinct := by
    apply run.invariant (P := fun session => session.store.processes.Distinct) _ hkeyed
    exact fun _ operation _ hkeyed => Session.perform_keyed operation hkeyed
  refine ⟨distinct, last.store.listInstances.map last.store.summary, ?_, ?_⟩
  · have hall : last.store.listInstances.filter (fun _ => true) = last.store.listInstances :=
      List.filter_eq_self.mpr fun _ _ => rfl
    simp only [Session.call, runOn_listDocuments, Option.elim_none, hall]
  · intro shelf hperm project session
    have hshelved : session.store.processes.Distinct := distinct.of_perm hperm
    have hrows : session.store.summary = last.store.summary := Store.summary_of_perm distinct hperm
    simp only [Session.call, Store.runOn_listDocuments_project hshelved, hrows]
    rfl

namespace Purchase

def otherProject : ProjectId := ⟨⟨22⟩⟩

/-- A document of a process that the store does not know. -/
def orphan : Instance :=
  { id := ⟨⟨44⟩⟩, documentNumber := 2, process := ⟨⟨39⟩⟩, current := some request.id,
    status := .active, context := [], createdAt := noon, updatedAt := noon }

def withOrphan : Session :=
  ⟨waiting.store.replace orphan, waiting.sandbox⟩

/-- The process of purchases is replaced by one of another project. -/
def transfer : Operation :=
  .define (.process { process with project := some otherProject })

def transferred : Session :=
  (withOrphan.perform transfer).2

/-- The rows of the purchase that waits for approval and of the document without a process. -/
def transferredRows : List DocumentSummary :=
  [{ id := document, documentNumber := 1, process := process.id, processName := "Purchase",
     project := some otherProject, status := .active, current := some approval.id },
   { id := orphan.id, documentNumber := 2, process := orphan.process, processName := "",
     project := none, status := .active, current := some request.id }]

end Purchase

/-- A purchase is listed for the project that its process belongs to now, and not for the one that
it was started in; the document without a process is listed for neither. -/
theorem project_list_selects_rows_transferred :
    Runs Purchase.withOrphan [⟨Purchase.transfer, .ok ()⟩] Purchase.transferred ∧
    Purchase.withOrphan.store.processes.Distinct ∧
    (Purchase.transferred.call (Service.listDocuments none)).1 = .ok Purchase.transferredRows ∧
    (Purchase.transferred.call (Service.listDocuments (some Purchase.project.id))).1 = .ok [] ∧
    (Purchase.transferred.call (Service.listDocuments (some Purchase.otherProject))).1 =
      .ok (Purchase.transferredRows.take 1) := by
  have run : Runs Purchase.withOrphan [⟨Purchase.transfer, .ok ()⟩] Purchase.transferred :=
    .cons trivial (.nil _)
  have hkeyed : Purchase.withOrphan.store.processes.Distinct := by
    unfold Table.Distinct
    decide +kernel
  have hall : (Purchase.transferred.call (Service.listDocuments none)).1 =
      .ok Purchase.transferredRows := by
    have hascending :
        (Purchase.transferred.store.instances.rows.map Instance.documentNumber).Pairwise
          (· < ·) := by
      decide +kernel
    have hrows : Purchase.transferred.store.instances.rows.map Purchase.transferred.store.summary =
        Purchase.transferredRows := by
      decide +kernel
    rw [Session.call_listDocuments hascending (.refl _), hrows]
  obtain ⟨-, rows, hrows, hselects⟩ := project_list_selects_rows run hkeyed
  obtain rfl : rows = Purchase.transferredRows := by
    rw [hrows] at hall
    exact Except.ok.inj hall
  refine ⟨run, hkeyed, hall, ?_, ?_⟩
  · exact congrArg Prod.fst (hselects _ (.refl _) Purchase.project.id)
  · exact congrArg Prod.fst (hselects _ (.refl _) Purchase.otherProject)

end FormFlow

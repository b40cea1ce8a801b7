import FormFlow.Proofs.History
import FormFlow.Proofs.Visibility

/-!
# Shown forms

The form that a caller is shown has the fields that are not hidden from the caller, in the order of
the definition, with the options of the catalogs that the store knows. Which fields those are
depends on the store, the roles and the sandbox, and not on the order in which the runs of the
validators end, for they are merged in the order in which they were started.
-/

namespace FormFlow

/-- Runs that have ended in some order, each with its place, in the order of the places. -/
def inOrder {α : Type} (ended : List (α × Nat)) : List α :=
  (List.range ended.length).filterMap fun place =>
    (ended.find? fun run => run.2 = place).map Prod.fst

theorem filterMap_range_getElem? {α : Type} (items : List α) :
    (List.range items.length).filterMap (fun place => items[place]?) = items := by
  induction items with
  | nil => rfl
  | cons item rest ih =>
      rw [List.length_cons, List.range_succ_eq_map, List.filterMap_cons, List.filterMap_map]
      exact congrArg (item :: ·) ih

/-- A run that has ended is found by its place. -/
theorem find?_place_of_perm {α : Type} {runs : List α} {ended : List (α × Nat)}
    (h : ended.Perm runs.zipIdx) (place : Nat) :
    (ended.find? fun run => run.2 = place).map Prod.fst = runs[place]? := by
  cases hfound : ended.find? fun run => run.2 = place with
  | some run =>
      have hmem := h.mem_iff.mp (List.mem_of_find?_eq_some hfound)
      have hrun : run.2 = place := by simpa using List.find?_some hfound
      rw [← hrun, List.mem_zipIdx_iff_getElem?.mp hmem]
      rfl
  | none =>
      cases hruns : runs[place]? with
      | none => rfl
      | some outcome =>
          have hmem := h.mem_iff.mpr (List.mk_mem_zipIdx_iff_getElem?.mpr hruns)
          simpa using List.find?_eq_none.mp hfound _ hmem

/-- Whatever the order in which runs have ended, they are told apart by their places. -/
theorem inOrder_of_perm {α : Type} {runs : List α} {ended : List (α × Nat)}
    (h : ended.Perm runs.zipIdx) : inOrder ended = runs := by
  have hlength : ended.length = runs.length := by rw [h.length_eq, List.length_zipIdx]
  rw [inOrder, hlength]
  simp only [find?_place_of_perm h]
  exact filterMap_range_getElem? runs

/-! ## Catalogs -/

/-- The catalogs that are picked are those with the given ids, besides the ones known before. -/
theorem pickCatalogs_get? (all known : Table Catalog) (ids : List CatalogId) (id : CatalogId) :
    (pickCatalogs all known ids).get? id =
      (known.get? id).or (if id ∈ ids then all.get? id else none) := by
  induction ids generalizing known with
  | nil => simp [pickCatalogs]
  | cons first rest ih =>
      rw [pickCatalogs]
      by_cases hid : id = first
      · subst hid
        cases hknown : known.get? id with
        | some catalog => simp [ih, hknown]
        | none =>
            cases hall : all.get? id with
            | none => simp [ih, hknown, hall]
            | some catalog =>
                have hkey : Keyed.key catalog = id := Table.key_of_get? hall
                simp [ih, Table.get?_put, hkey]
      · -- What happens to the first id makes no difference to another one.
        have hother : ∀ table : Table Catalog, table.get? id = known.get? id →
            (pickCatalogs all table rest).get? id =
              (known.get? id).or (if id ∈ first :: rest then all.get? id else none) := by
          intro table htable
          rw [ih, htable]
          simp only [List.mem_cons, hid, false_or]
        split
        · rename_i catalog _ hall
          have hkey : Keyed.key catalog = first := Table.key_of_get? hall
          exact hother _ (Table.get?_put_of_ne known catalog (hkey ▸ hid))
        · exact hother known rfl

/-- The catalog of a field is found among those that its form names if it is found at all. -/
theorem FieldDefinition.bind_pickCatalogs {form : Form} {field : FieldDefinition}
    (hmem : field ∈ form.fields) (all : Table Catalog) :
    field.catalog.bind
        (pickCatalogs all .empty (form.fields.filterMap FieldDefinition.catalog)).get? =
      field.catalog.bind all.get? := by
  cases hcatalog : field.catalog with
  | none => rfl
  | some id =>
      have hid : id ∈ form.fields.filterMap FieldDefinition.catalog :=
        List.mem_filterMap.mpr ⟨field, hmem, hcatalog⟩
      rw [Option.bind_some, Option.bind_some, pickCatalogs_get?, if_pos hid]
      rfl

/-! ## Forms -/

/-- A form is shown with exactly the fields that are not hidden, in their order. -/
theorem Form.render_eq (form : Form) (catalogs : Table Catalog)
    (permission : FieldDefinition → Permission) :
    form.render catalogs permission =
      { id := form.id
        name := form.name
        description := form.description
        fields := (form.fields.filter fun field => permission field ≠ .hidden).map fun field =>
          { name := field.name
            label := field.label
            type := field.type
            required := field.required
            readOnly := permission field = .read
            options := (field.catalog.bind catalogs.get?).elim field.options
              fun catalog => some catalog.items
            validations := field.validations } } := by
  rw [render, ← List.filterMap_eq_map', List.filterMap_filter]
  congr 2
  funext field
  have hoptions : field.optionsFrom catalogs =
      (field.catalog.bind catalogs.get?).elim field.options fun catalog => some catalog.items := by
    rw [FieldDefinition.optionsFrom]
    cases field.catalog.bind catalogs.get? <;> rfl
  rw [FieldDefinition.render, hoptions]
  by_cases hhidden : permission field = .hidden
  · simp [hhidden]
  · simp [hhidden]

theorem Form.render_pickCatalogs (form : Form) (all : Table Catalog)
    (permission : FieldDefinition → Permission) :
    form.render (pickCatalogs all .empty (form.fields.filterMap FieldDefinition.catalog))
        permission = form.render all permission := by
  rw [render_eq, render_eq]
  congr 1
  apply List.map_congr_left
  intro field hmem
  rw [FieldDefinition.bind_pickCatalogs (List.mem_filter.mp hmem).1]

/-! ## Shown forms -/

/-- The form of a step is shown under what the validators of its node have for the fields together,
and otherwise under their access rules. -/
theorem Store.shown_form (store : Store) (sandbox : Sandbox) (step : OpenStep) (form : Form)
    (roles : List RoleId) (now : Timestamp) :
    let saved := (store.submission? step.document.id step.node.id).map Submission.data
    let view := step.document.viewAt step.node.id saved roles now
    let validators := step.node.visibility (store.projectOf step.process)
    (store.shown sandbox step form roles now).form =
      form.render store.catalogs fun field =>
        field.permission (Sandbox.merge (validators.map (sandbox.permissionsOf view.flat)))
          view.conditions := by
  intro saved view validators
  rw [← form.render_pickCatalogs store.catalogs]
  simp only [shown, Sandbox.fieldPermissions_eq_merge, Node.filter_select]
  rfl

/-- To be moved to its step changes nothing of what a document shows there. -/
theorem Store.shown_form_arrived (store : Store) (sandbox : Sandbox) (step : OpenStep) (form : Form)
    (roles : List RoleId) (now : Timestamp) :
    (store.shown sandbox (step.arrived now) form roles now).form =
      (store.shown sandbox step form roles now).form := by
  have hid : (step.arrived now).document.id = step.document.id :=
    step.document.arrivedAt_id step.node.id now
  have hcontext := step.document.arrivedAt_context step.node.id now
  rw [shown_congr (step.arrived now) step rfl rfl rfl rfl
    (congrArg (store.submission? · step.node.id) hid) hcontext sandbox form roles now now]

/-- A form that is shown is that of the step which the document is at. -/
theorem Store.exists_of_currentForm {store after : Store} {sandbox : Sandbox} {id : InstanceId}
    {roles : List RoleId} {now : Timestamp} {shown : CurrentForm}
    (h : (Service.currentForm sandbox id roles now).runOn store = (.ok (some shown), after)) :
    ∃ (step : OpenStep) (form : Form), step.Holds store ∧ step.document.id = id ∧
      store.forms.get? step.form = some form ∧
      shown = store.shown sandbox (step.arrived now) form roles now := by
  have hstep : ∃ step form, store.shownStep id = .ok (some (step, form)) := by
    rw [runOn_currentForm] at h
    split at h
    · cases h
    · cases h
    · rename_i step form hfound
      exact ⟨step, form, hfound⟩
  obtain ⟨step, found, hfound⟩ := hstep
  obtain ⟨hs, rfl⟩ := holds_of_shownStep hfound
  rw [hs.runOn_currentForm] at h
  cases hform : store.forms.get? step.form with
  | none =>
      rw [hform] at h
      cases h
  | some form =>
      rw [hform] at h
      cases h
      exact ⟨step, form, hs, rfl, hform, rfl⟩

/-- A form that is shown follows the effective permissions. It is the form of the step which the
document is at, and its fields are, in the order of the definition, exactly those whose effective
permission is not hidden; each field has exactly one. A field is for reading only if the permission
is read, and has the items of its catalog for options if the store knows it, and otherwise its own.
The form is the same in whatever order the runs of the validators end, and in a sandbox that is
ready a validator fails only if its code does not compile or its run does not end well on the
fuel. -/
theorem shown_form_follows_permissions {store after : Store} {sandbox : Sandbox} {id : InstanceId}
    {roles : List RoleId} {now : Timestamp} {shown : CurrentForm}
    (h : (Service.currentForm sandbox id roles now).runOn store = (.ok (some shown), after)) :
    ∃ (step : OpenStep) (form : Form) (permission : FieldDefinition → Permission),
      step.Holds store ∧ step.document.id = id ∧ store.forms.get? step.form = some form ∧
      let saved := (store.submission? id step.node.id).map Submission.data
      let view := step.document.viewAt step.node.id saved roles now
      let validators := step.node.visibility (store.projectOf step.process)
      (∀ field granted, field.Effective sandbox validators roles view granted ↔
        permission field = granted) ∧
      shown.form =
        { id := form.id
          name := form.name
          description := form.description
          fields := (form.fields.filter fun field => permission field ≠ .hidden).map fun field =>
            { name := field.name
              label := field.label
              type := field.type
              required := field.required
              readOnly := permission field = .read
              options := (field.catalog.bind store.catalogs.get?).elim field.options
                fun catalog => some catalog.items
              validations := field.validations } } ∧
      (∀ ended, ended.Perm (validators.map (sandbox.permissionsOf view.flat)).zipIdx →
        shown.form = form.render store.catalogs fun field =>
          field.permission (Sandbox.merge (inOrder ended)) view.conditions) ∧
      (sandbox.Ready → ∀ validator permissions,
        sandbox.permissionsOf view.flat validator = .ok permissions ↔
          ∃ script, Script.compile .fieldVisibility validator.code = .ok script ∧
            ((script.fieldPermissions view.flat).runWith (.withFuel sandbox.fuel)).1 =
              .ok permissions) := by
  obtain ⟨step, form, hs, rfl, hform, rfl⟩ := Store.exists_of_currentForm h
  let saved := (store.submission? step.document.id step.node.id).map Submission.data
  let view := step.document.viewAt step.node.id saved roles now
  let validators := step.node.visibility (store.projectOf step.process)
  let permission := fun field : FieldDefinition =>
    field.permission (Sandbox.merge (validators.map (sandbox.permissionsOf view.flat)))
      view.conditions
  have hrendered : (store.shown sandbox (step.arrived now) form roles now).form =
      form.render store.catalogs permission := by
    rw [store.shown_form_arrived]
    exact store.shown_form sandbox step form roles now
  refine ⟨step, form, permission, hs, rfl, hform, ?_, ?_, ?_, ?_⟩
  · intro field granted
    exact FieldDefinition.effective_iff (step.document.viewAt_trusts ..)
  · rw [hrendered, Form.render_eq]
  · intro ended hended
    rw [inOrder_of_perm hended]
    exact hrendered
  · intro ready validator permissions
    exact ready.permissionsOf_eq_ok_iff

namespace Purchase

def colours : Catalog :=
  { id := ⟨⟨61⟩⟩, name := "Colours", items := [⟨"r", "Red"⟩] }

/-- Hides the budget and the note, and lets clerks read the budget. -/
def discreet : Validator :=
  .make none "Discreet" .fieldVisibility "hidden budget, note\nread budget when 'clerk' in role_ids"

/-- Fails in its second statement, after hiding the colour. -/
def failing : Validator :=
  .make none "Failing" .fieldVisibility "hidden colour\nwrite note when 1 < 'one'"

/-- A form whose fields are shown to some callers. -/
def guardedForm : Form :=
  { id := requestForm
    name := "Request"
    description := ""
    fields :=
      [{ FieldDefinition.named "colour" .select with
            options := some [], catalog := some colours.id },
        .named "budget" .number, .named "note" .text,
        { FieldDefinition.named "remark" .text with rules := [.forRole ⟨"clerk"⟩ .read] }] }

/-- The step at which a purchase begins, with validators. -/
def atGuardedRequest : OpenStep :=
  let node : Node := { request with validators := [⟨"discreet"⟩, ⟨"failing"⟩] }
  { atRequest with process := { process with nodes := [node] }, node }

def guardedStore : Store :=
  ((((Store.empty.putProcess atGuardedRequest.process).putProject
    { project with validators := [discreet, failing] }).putForm guardedForm).putCatalog
      colours).enter atGuardedRequest.document

theorem atGuardedRequest_holds : atGuardedRequest.Holds guardedStore := by
  constructor
  · with_unfolding_all rfl
  · with_unfolding_all rfl
  · rfl
  · exact ⟨request.id, rfl, by with_unfolding_all rfl⟩
  · rfl

end Purchase

/-- A clerk may choose the colour and read the budget and the remark, and does not see the note. -/
theorem shown_form_follows_permissions_clerk :
    let call := Service.currentForm Purchase.started.sandbox Purchase.document [⟨"clerk"⟩]
      Purchase.noon
    ∃ shown after, call.runOn Purchase.guardedStore = (.ok (some shown), after) ∧
      (shown.form.fields.map fun field => (field.name, field.readOnly, field.options)) =
        [("colour", false, some [⟨"r", "Red"⟩]), ("budget", true, none), ("remark", true, none)] ∧
      ∃ (step : OpenStep) (form : Form) (permission : FieldDefinition → Permission),
        step.Holds Purchase.guardedStore ∧
        Purchase.guardedStore.forms.get? step.form = some form ∧
        shown.form.fields.map RenderedField.name =
          (form.fields.filter fun field => permission field ≠ .hidden).map
            FieldDefinition.name := by
  intro call
  have hform : Purchase.guardedStore.forms.get? Purchase.atGuardedRequest.form =
      some Purchase.guardedForm := by with_unfolding_all rfl
  have hcall := Purchase.atGuardedRequest_holds.runOn_currentForm Purchase.started.sandbox
    [⟨"clerk"⟩] Purchase.noon
  simp only [hform] at hcall
  obtain ⟨step, form, permission, hs, -, hstep, -, hshown, -⟩ :=
    shown_form_follows_permissions hcall
  refine ⟨_, _, hcall, by decide +kernel, step, form, permission, hs, hstep, ?_⟩
  rw [hshown, List.map_map]
  rfl

end FormFlow

import FormFlow.Proofs.FailClosed
import FormFlow.Proofs.TrustedEntries

/-!
# Effective permissions

What a caller may do with a field is said at three levels, with opposite precedence: the last
statement of a script that applies and names the field, the last validator whose script gives
something, and, if none does, the first access rule that matches. A validator that fails gives
nothing, whatever its statements gave before the failure.
-/

namespace FormFlow

/-- The last of the items that give something gives this. -/
def LastGives {α β : Type} (gives : α → β → Prop) (items : List α) (value : β) : Prop :=
  ∃ before item after, items = before ++ item :: after ∧ gives item value ∧
    ∀ later ∈ after, ∀ other, ¬ gives later other

section LastGives

variable {α β σ : Type} {gives : α → β → Prop}

theorem not_lastGives_nil (value : β) : ¬ LastGives gives [] value := by
  rintro ⟨before, item, after, hitems, -⟩
  simp at hitems

/-- What the first item gives is given last only if the others give nothing. -/
theorem lastGives_cons_iff {item : α} {rest : List α} {value : β} :
    LastGives gives (item :: rest) value ↔
      LastGives gives rest value ∨
        gives item value ∧ ∀ later ∈ rest, ∀ other, ¬ gives later other := by
  constructor
  · rintro ⟨before, last, after, hitems, hlast, hafter⟩
    cases before with
    | nil =>
        cases hitems
        exact .inr ⟨hlast, hafter⟩
    | cons first before =>
        cases hitems
        exact .inl ⟨before, last, after, rfl, hlast, hafter⟩
  · rintro (⟨before, last, after, rfl, hlast, hafter⟩ | ⟨hitem, hrest⟩)
    · exact ⟨item :: before, last, after, rfl, hlast, hafter⟩
    · exact ⟨[], item, rest, rfl, hitem, hrest⟩

/-- Nothing is given last only if nothing is given at all. -/
theorem not_lastGives_iff {items : List α} :
    (∀ value, ¬ LastGives gives items value) ↔ ∀ item ∈ items, ∀ other, ¬ gives item other := by
  induction items with
  | nil => simp [not_lastGives_nil]
  | cons item rest ih =>
      rw [List.forall_mem_cons, ← ih]
      simp only [lastGives_cons_iff, not_or, forall_and, ← ih]
      constructor
      · rintro ⟨hrest, hitem⟩
        exact ⟨fun value hgives => hitem value ⟨hgives, hrest⟩, hrest⟩
      · rintro ⟨hitem, hrest⟩
        exact ⟨hrest, fun value hgives => hitem value hgives.1⟩

/-- Where each item overrides what is read, or leaves it, what is read in the end is what is given
last, and what was there before if nothing is given. -/
theorem foldl_reads_or {step : σ → α → σ} {read : σ → Option β}
    (hstep : ∀ state item value, read (step state item) = some value ↔
      gives item value ∨ (∀ other, ¬ gives item other) ∧ read state = some value)
    (items : List α) (start : σ) (value : β) :
    read (items.foldl step start) = some value ↔
      LastGives gives items value ∨
        (∀ item ∈ items, ∀ other, ¬ gives item other) ∧ read start = some value := by
  induction items generalizing start with
  | nil => simp [not_lastGives_nil]
  | cons item rest ih =>
      rw [List.foldl_cons, ih, hstep, lastGives_cons_iff, List.forall_mem_cons]
      simp only [or_and_right, or_assoc, and_assoc, and_comm]

theorem foldl_reads_lastGives (step : σ → α → σ) (read : σ → Option β)
    (hstep : ∀ state item value, read (step state item) = some value ↔
      gives item value ∨ (∀ other, ¬ gives item other) ∧ read state = some value)
    {start : σ} (hstart : read start = none) (items : List α) (value : β) :
    read (items.foldl step start) = some value ↔ LastGives gives items value := by
  rw [foldl_reads_or hstep, hstart]
  simp

end LastGives

/-! ## Scripts -/

namespace VisibilityStatement

variable (statement : VisibilityStatement) (context : Fields Value)

/-- Does a statement apply: is its guard missing, or does it hold? -/
def applies : Bool :=
  match ((Script.guardHolds statement.guardedBy context).runWith .unlimited).1 with
  | .ok holds => holds
  | .error _ => false

/-- A statement that applies names the field, and gives it the permission. -/
def Gives (name : String) (permission : Permission) : Prop :=
  statement.applies context = true ∧ name ∈ statement.fields.toList ∧
    statement.permission = permission

/-- The permissions after one more statement. -/
def write (context : Fields Value) (sofar : Fields Permission) (statement : VisibilityStatement) :
    Fields Permission :=
  if statement.applies context then
    statement.fields.toList.foldl (fun acc name => acc.insert name statement.permission) sofar
  else sofar

end VisibilityStatement

namespace Fields

variable {α : Type}

theorem get?_foldl_insert (names : List String) (value : α) (fields : Fields α) (name : String) :
    (names.foldl (fun acc name => acc.insert name value) fields).get? name =
      if name ∈ names then some value else fields.get? name := by
  induction names generalizing fields with
  | nil => rfl
  | cons first rest ih =>
      rw [List.foldl_cons, ih, get?_insert]
      by_cases hrest : name ∈ rest
      · rw [if_pos hrest, if_pos (List.mem_cons_of_mem _ hrest)]
      · simp only [hrest, if_false, List.mem_cons, or_false]

theorem Sorted.foldl_insert {fields : Fields α} (sorted : fields.Sorted) (names : List String)
    (value : α) : (names.foldl (fun acc name => acc.insert name value) fields).Sorted := by
  induction names generalizing fields with
  | nil => exact sorted
  | cons first rest ih => exact ih (sorted.insert first value)

end Fields

namespace VisibilityStatement

variable {statement : VisibilityStatement} {context : Fields Value}

theorem write_get?_iff {sofar : Fields Permission} {name : String} {permission : Permission} :
    (write context sofar statement).get? name = some permission ↔
      statement.Gives context name permission ∨
        (∀ other, ¬ statement.Gives context name other) ∧ sofar.get? name = some permission := by
  unfold write Gives
  by_cases happlies : statement.applies context = true
  · by_cases hname : name ∈ statement.fields.toList
    · simp [happlies, hname, Fields.get?_foldl_insert]
    · simp [happlies, hname, Fields.get?_foldl_insert]
  · simp [happlies]

/-- What statements have written for a field is what is given last. -/
theorem foldl_write_get?_iff {statements : List VisibilityStatement} {name : String}
    {permission : Permission} :
    Fields.get? (statements.foldl (write context) []) name = some permission ↔
      LastGives (fun statement => statement.Gives context name) statements permission :=
  foldl_reads_lastGives (write context) (fun sofar => Fields.get? sofar name)
    (fun _ _ _ => write_get?_iff) rfl statements permission

theorem write_sorted {sofar : Fields Permission} (sorted : sofar.Sorted) :
    (write context sofar statement).Sorted := by
  unfold write
  split
  · exact sorted.foldl_insert _ _
  · exact sorted

theorem foldl_write_sorted (statements : List VisibilityStatement) {sofar : Fields Permission}
    (sorted : sofar.Sorted) :
    Fields.Sorted (statements.foldl (write context) sofar) := by
  induction statements generalizing sofar with
  | nil => exact sorted
  | cons statement rest ih => exact ih (write_sorted sorted)

end VisibilityStatement

namespace Script

variable {context : Fields Value}

/-- A run that does not fail has written every statement, one after the other. -/
theorem runVisibility_eq_ok {statements : List VisibilityStatement}
    {sofar permissions : Fields Permission} {meter : Meter}
    (hrun : ((runVisibility context sofar statements).runWith meter).1 = .ok permissions) :
    permissions = statements.foldl (VisibilityStatement.write context) sofar := by
  induction statements generalizing sofar meter with
  | nil => exact (Except.ok.inj hrun).symm
  | cons statement rest ih =>
      rw [runVisibility, Metered.runWith_bind] at hrun
      rcases hguard : (guardHolds statement.guardedBy context).runWith meter with
        ⟨fault | holds, left⟩
      · rw [hguard] at hrun
        cases hrun
      · rw [hguard] at hrun
        -- What is left of the meter differs from one guard to the next; what a guard says does not.
        have hfree : ((guardHolds statement.guardedBy context).runWith .unlimited).1 = .ok holds :=
          (guardHolds_ends context _).runWith_unlimited (congrArg Prod.fst hguard)
        have happlies : statement.applies context = holds := by
          rw [VisibilityStatement.applies, hfree]
        rw [List.foldl_cons, VisibilityStatement.write, happlies]
        exact ih hrun

theorem compile_fieldVisibility {code : String} {script : Script}
    (h : compile .fieldVisibility code = .ok script) :
    ∃ statements, script = .visibility statements := by
  simp only [compile] at h
  cases hread : statementsFrom visibilityStatement 1 (Text.lines code.toList) with
  | error fault =>
      rw [hread] at h
      cases h
  | ok numbered =>
      rw [hread] at h
      exact ⟨_, (Except.ok.inj h).symm⟩

end Script

/-! ## Validators -/

/-- A validator gives a field a permission: it does not fail, and the last statement of its script
that gives the field something gives it this. -/
def Validator.Gives (validator : Validator) (sandbox : Sandbox) (context : Fields Value)
    (name : String) (permission : Permission) : Prop :=
  (∃ permissions, sandbox.permissionsOf context validator = .ok permissions) ∧
    ∃ statements, Script.compile .fieldVisibility validator.code = .ok (.visibility statements) ∧
      LastGives (fun statement => statement.Gives context name) statements permission

namespace Sandbox

variable {sandbox : Sandbox} {context : Fields Value} {validator : Validator}
  {permissions : Fields Permission}

/-- In a sandbox that is ready, a validator fails only if its code does not compile or its run does
not end well on the fuel. -/
theorem Ready.permissionsOf_eq_ok_iff (ready : sandbox.Ready) :
    sandbox.permissionsOf context validator = .ok permissions ↔
      ∃ script, Script.compile .fieldVisibility validator.code = .ok script ∧
        ((script.fieldPermissions context).runWith (.withFuel sandbox.fuel)).1 =
          .ok permissions := by
  rw [permissionsOf, ready.run_eq_ok_iff, Script.runCode_eq_ok_iff]

/-- The permissions of a validator that does not fail are those of its statements. -/
theorem permissionsOf_eq_ok (h : sandbox.permissionsOf context validator = .ok permissions) :
    ∃ statements, Script.compile .fieldVisibility validator.code = .ok (.visibility statements) ∧
      permissions = statements.foldl (VisibilityStatement.write context) [] := by
  have ready : sandbox.Ready := ready_of_run_ok h
  obtain ⟨script, hcompile, hrun⟩ := ready.permissionsOf_eq_ok_iff.mp h
  obtain ⟨statements, rfl⟩ := Script.compile_fieldVisibility hcompile
  exact ⟨statements, hcompile, Script.runVisibility_eq_ok hrun⟩

theorem permissionsOf_sorted (h : sandbox.permissionsOf context validator = .ok permissions) :
    permissions.Sorted := by
  obtain ⟨statements, -, rfl⟩ := permissionsOf_eq_ok h
  exact VisibilityStatement.foldl_write_sorted statements List.Pairwise.nil

/-- What a validator that does not fail has for a field is what it gives it. -/
theorem permissionsOf_get?_iff (h : sandbox.permissionsOf context validator = .ok permissions)
    {name : String} {permission : Permission} :
    permissions.get? name = some permission ↔ validator.Gives sandbox context name permission := by
  obtain ⟨statements, hcompile, rfl⟩ := permissionsOf_eq_ok h
  rw [VisibilityStatement.foldl_write_get?_iff]
  constructor
  · exact fun hgives => ⟨⟨_, h⟩, statements, hcompile, hgives⟩
  · rintro ⟨-, others, hothers, hgives⟩
    rw [hcompile] at hothers
    cases hothers
    exact hgives

/-- The permissions after the run of one more validator has ended. -/
def joined (merged : Fields Permission) :
    Except ValidatorFault (Fields Permission) → Fields Permission
  | .ok permissions => merged.extend permissions
  | .error _ => merged

theorem joined_get?_iff {merged : Fields Permission} {name : String} {permission : Permission} :
    (joined merged (sandbox.permissionsOf context validator)).get? name = some permission ↔
      validator.Gives sandbox context name permission ∨
        (∀ other, ¬ validator.Gives sandbox context name other) ∧
          merged.get? name = some permission := by
  cases h : sandbox.permissionsOf context validator with
  | error fault =>
      have hfails : ∀ other, ¬ validator.Gives sandbox context name other := by
        rintro other ⟨⟨permissions, hok⟩, -⟩
        cases h.symm.trans hok
      simp [joined, hfails]
  | ok permissions =>
      simp only [joined, ← permissionsOf_get?_iff h, Fields.get?_extend (permissionsOf_sorted h),
        Option.or_eq_some_iff, Option.eq_none_iff_forall_ne_some, ne_eq]

/-- The permissions of runs that have ended, later ones over earlier ones. -/
def merge (outcomes : List (Except ValidatorFault (Fields Permission))) : Fields Permission :=
  outcomes.foldl joined []

theorem fieldPermissions_eq_merge (sandbox : Sandbox) (validators : List Validator)
    (context : Fields Value) :
    sandbox.fieldPermissions validators context =
      merge ((validators.filter (isRun .fieldVisibility)).map (sandbox.permissionsOf context)) := by
  rw [merge, List.foldl_map]
  rfl

/-- What validators have for a field together is what the last one gives it that gives it
anything. -/
theorem merge_get?_iff {validators : List Validator} {name : String} {permission : Permission} :
    (merge (validators.map (sandbox.permissionsOf context))).get? name = some permission ↔
      LastGives (fun validator => validator.Gives sandbox context name) validators permission := by
  rw [merge, List.foldl_map]
  exact foldl_reads_lastGives (fun merged validator =>
      joined merged (sandbox.permissionsOf context validator))
    (fun merged => Fields.get? merged name) (fun _ _ _ => joined_get?_iff) rfl validators permission

theorem merge_get?_eq_none_iff {validators : List Validator} {name : String} :
    (merge (validators.map (sandbox.permissionsOf context))).get? name = none ↔
      ∀ validator ∈ validators, ∀ other, ¬ validator.Gives sandbox context name other := by
  simp only [Option.eq_none_iff_forall_ne_some, ne_eq, merge_get?_iff]
  exact not_lastGives_iff

end Sandbox

/-! ## Fields -/

namespace AccessRule

/-- A rule matches: the caller has its role, or its condition is not empty and holds. -/
def Matches (rule : AccessRule) (roles : List RoleId) (conditions : Fields Value) : Prop :=
  (∃ role ∈ roles, rule.role = some role) ∨
    ∃ condition, rule.condition = some condition ∧ condition ≠ "" ∧
      evaluate condition conditions = true

theorem applies_iff {rule : AccessRule} {roles : List RoleId} {conditions : Fields Value}
    (h : conditions.get? "role_ids" = some (Instance.roleList roles)) :
    rule.applies conditions = true ↔ rule.Matches roles conditions := by
  have hcondition : rule.matchesCondition conditions = true ↔
      ∃ condition, rule.condition = some condition ∧ condition ≠ "" ∧
        evaluate condition conditions = true := by
    unfold matchesCondition
    cases rule.condition <;> simp
  rw [applies, Bool.or_eq_true, matchesRole_iff h, hcondition, Matches]

end AccessRule

/-- The validators that decide about fields at a node, in the order of the project: those for fields
whose key the node lists, except for blank ones. -/
def Node.visibility (node : Node) (project : Option Project) : List Validator :=
  project.elim [] fun owner => owner.validators.filter fun validator =>
    validator.kind = .fieldVisibility && validator.key ∈ node.validators &&
      !Text.isBlank validator.code.toList

theorem Node.filter_select (node : Node) (project : Option Project) :
    (project.elim [] fun owner => owner.select node.validators .fieldVisibility).filter
      (Sandbox.isRun .fieldVisibility) = node.visibility project := by
  cases project with
  | none => rfl
  | some owner =>
      simp only [Option.elim_some, Project.select, visibility, List.filter_filter]
      apply List.filter_congr
      intro validator _
      rw [Bool.eq_iff_iff]
      simp only [Sandbox.isRun, Bool.and_eq_true]
      constructor
      · rintro ⟨⟨hkind, hwritten⟩, -, hlisted⟩
        exact ⟨⟨hkind, hlisted⟩, hwritten⟩
      · rintro ⟨⟨hkind, hlisted⟩, hwritten⟩
        exact ⟨⟨hkind, hwritten⟩, hkind, hlisted⟩

namespace FieldDefinition

/-- What a caller may effectively do with a field: what the last validator gives that gives
anything; without one, the permission of the first rule that matches; and without that, write. -/
inductive Effective (field : FieldDefinition) (sandbox : Sandbox) (validators : List Validator)
    (roles : List RoleId) (view : View) : Permission → Prop
  | validated {permission : Permission}
      (last : LastGives (fun validator => validator.Gives sandbox view.flat field.name) validators
        permission) :
      Effective field sandbox validators roles view permission
  | ruled {before after : List AccessRule} {rule : AccessRule}
      (hsilent : ∀ validator ∈ validators, ∀ other,
        ¬ validator.Gives sandbox view.flat field.name other)
      (hsplit : field.rules = before ++ rule :: after)
      (hfirst : ∀ earlier ∈ before, ¬ earlier.Matches roles view.conditions)
      (matched : rule.Matches roles view.conditions) :
      Effective field sandbox validators roles view rule.permission
  | free
      (hsilent : ∀ validator ∈ validators, ∀ other,
        ¬ validator.Gives sandbox view.flat field.name other)
      (hunmatched : ∀ rule ∈ field.rules, ¬ rule.Matches roles view.conditions) :
      Effective field sandbox validators roles view .write

variable {field : FieldDefinition} {sandbox : Sandbox} {validators : List Validator}
  {roles : List RoleId} {view : View} {permission : Permission}

/-- Every field has exactly one effective permission, that under which it is shown. -/
theorem effective_iff (trusts : view.Trusts roles) :
    field.Effective sandbox validators roles view permission ↔
      field.permission (Sandbox.merge (validators.map (sandbox.permissionsOf view.flat)))
        view.conditions = permission := by
  have happlies : ∀ rule : AccessRule, rule.applies view.conditions = true ↔
      rule.Matches roles view.conditions :=
    fun rule => AccessRule.applies_iff trusts.conditions
  have hfirst : ∀ rule, field.rules.find? (·.applies view.conditions) = some rule ↔
      rule.Matches roles view.conditions ∧ ∃ before after, field.rules = before ++ rule :: after ∧
        ∀ earlier ∈ before, ¬ earlier.Matches roles view.conditions := by
    intro rule
    simp only [List.find?_eq_some_iff_append, happlies, Bool.not_eq_true', Bool.eq_false_iff, ne_eq]
  have hnone : field.rules.find? (·.applies view.conditions) = none ↔
      ∀ rule ∈ field.rules, ¬ rule.Matches roles view.conditions := by
    simp only [List.find?_eq_none, happlies]
  unfold FieldDefinition.permission AccessRule.resolve
  constructor
  · intro heffective
    cases heffective with
    | validated last => rw [Sandbox.merge_get?_iff.mpr last, Option.getD_some]
    | ruled hsilent hsplit hrule matched =>
        rw [Sandbox.merge_get?_eq_none_iff.mpr hsilent,
          (hfirst _).mpr ⟨matched, _, _, hsplit, hrule⟩]
        rfl
    | free hsilent hunmatched =>
        rw [Sandbox.merge_get?_eq_none_iff.mpr hsilent, hnone.mpr hunmatched]
        rfl
  · rintro rfl
    cases hgiven : (Sandbox.merge (validators.map (sandbox.permissionsOf view.flat))).get?
        field.name with
    | some given => exact .validated (Sandbox.merge_get?_iff.mp hgiven)
    | none =>
        have hsilent := Sandbox.merge_get?_eq_none_iff.mp hgiven
        cases hfound : field.rules.find? (·.applies view.conditions) with
        | none => exact .free hsilent (hnone.mp hfound)
        | some rule =>
            obtain ⟨matched, before, after, hsplit, hrule⟩ := (hfirst rule).mp hfound
            exact .ruled hsilent hsplit hrule matched

end FieldDefinition

end FormFlow

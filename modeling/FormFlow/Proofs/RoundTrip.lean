import FormFlow.Proofs.UuidText
import FormFlow.Wire.Definition

/-!
# Definitions are read as they are written

What is written of a process, a form or a catalog is read back as it was: entries are found under
their names, an entry is left out only where its default says the same, and nothing that is there is
written as null. A validator is the exception, for its key is made anew when it is read: from the
key that was written or, when that is empty, from the name.
-/

namespace FormFlow

namespace Codec

variable {α : Type} {codec : Codec α}

/-- Nothing is written as null. -/
def NeverNull (codec : Codec α) : Prop :=
  ∀ x, codec.encode x ≠ .null

@[simp] theorem Lawful.decode?_encode (lawful : codec.Lawful) (x : α) :
    codec.decode? (codec.encode x) = some x := lawful x

/-- What is left out because there is none of it is read as none. -/
@[simp] theorem Lawful.decode?_optional (lawful : codec.Lawful) (hshown : codec.NeverNull)
    (x : Option α) : x.elim (some none) (codec.option.decode? ∘ codec.encode) = some x := by
  cases x with
  | none => rfl
  | some x => exact lawful.option hshown (some x)

attribute [simp] lawful_text lawful_fields lawful_bool Lawful.list

/-! ## Numbers, identifiers and names -/

@[simp] theorem lawful_word32 : word32.Lawful := by
  intro n
  have hfits : n.toNat < Nat.pow 2 32 := n.toNat_lt
  simp only [word32, via, decode?_natural hfits, Option.bind_some, UInt32.ofNat_toNat]

theorem lawful_uuid : uuid.Lawful := lawful_text.via Uuid.ofText?_text

@[simp] theorem lawful_processId : processId.Lawful := lawful_uuid.via fun _ => rfl

@[simp] theorem lawful_formId : formId.Lawful := lawful_uuid.via fun _ => rfl

@[simp] theorem lawful_projectId : projectId.Lawful := lawful_uuid.via fun _ => rfl

@[simp] theorem lawful_catalogId : catalogId.Lawful := lawful_uuid.via fun _ => rfl

@[simp] theorem lawful_nodeId : nodeId.Lawful := lawful_text.via fun _ => rfl

@[simp] theorem lawful_edgeId : edgeId.Lawful := lawful_text.via fun _ => rfl

@[simp] theorem lawful_edgeKey : edgeKey.Lawful := lawful_text.via fun _ => rfl

@[simp] theorem lawful_roleId : roleId.Lawful := lawful_text.via fun _ => rfl

@[simp] theorem lawful_validatorKey : validatorKey.Lawful := lawful_text.via fun _ => rfl

@[simp] theorem lawful_nodeKind : nodeKind.Lawful := lawful_enumeration NodeKind.ofName?_name

@[simp] theorem lawful_fieldType : fieldType.Lawful := lawful_enumeration FieldType.ofName?_name

@[simp] theorem lawful_permission : permission.Lawful := lawful_enumeration Permission.ofName?_name

@[simp] theorem lawful_scriptKind : scriptKind.Lawful := lawful_enumeration ScriptKind.ofName?_name

@[simp] theorem neverNull_text : text.NeverNull := fun _ => nofun

@[simp] theorem neverNull_fields : fields.NeverNull := fun _ => nofun

@[simp] theorem neverNull_list (codec : Codec α) : codec.list.NeverNull := fun _ => nofun

@[simp] theorem neverNull_formId : formId.NeverNull := fun _ => nofun

@[simp] theorem neverNull_projectId : projectId.NeverNull := fun _ => nofun

@[simp] theorem neverNull_catalogId : catalogId.NeverNull := fun _ => nofun

@[simp] theorem neverNull_roleId : roleId.NeverNull := fun _ => nofun

end Codec

/-! ## Entries of records -/

namespace Record

variable {α : Type} (fields : Fields Value) (index : Nat) (name : String) (codec : Codec α)

@[simp] theorem ofValue?_write (arity : Nat) (entries : List (String × Option Value)) :
    ofValue? arity (write entries) = some (.named (present entries)) := rfl

@[simp] theorem required_named :
    (named fields).required index name codec = (fields.get? name).bind codec.decode? := rfl

@[simp] theorem defaulted_named (default : α) :
    (named fields).defaulted index name codec default =
      (fields.get? name).elim (some default) codec.decode? := by
  rw [defaulted, entry?]
  cases fields.get? name <;> rfl

@[simp] theorem optional_named :
    (named fields).optional index name codec =
      (fields.get? name).elim (some none) codec.option.decode? :=
  defaulted_named fields index name codec.option none

@[simp] theorem get?_present_nil : (present []).get? name = none := rfl

attribute [simp] get?_present_cons

end Record

/-! ## Definitions without validators -/

namespace Codec

@[simp] theorem lawful_node : node.Lawful := by
  intro x
  -- each entry is looked up under its name and read by the law of its own codec
  simp [node]

@[simp] theorem lawful_edge : edge.Lawful := by
  intro x
  simp [edge]

theorem lawful_process : process.Lawful := by
  intro x
  simp [process]

@[simp] theorem lawful_accessRule : accessRule.Lawful := by
  intro x
  simp [accessRule]

@[simp] theorem lawful_selectOption : selectOption.Lawful := by
  intro x
  simp [selectOption]

@[simp] theorem lawful_field : field.Lawful := by
  intro x
  simp [field]

theorem lawful_form : form.Lawful := by
  intro x
  simp [form]

theorem lawful_catalog : catalog.Lawful := by
  intro x
  simp [catalog]

end Codec

/-! ## Validators and projects -/

namespace Validator

/-- The key of a validator is the one that was given or, where none was, that of the name. -/
def Made (validator : Validator) : Prop :=
  ∃ key name kind code, validator = make key name kind code

/-- The validator that is read where this one was written. -/
def reread (validator : Validator) : Validator :=
  make (some validator.key.text) validator.name validator.kind validator.code

/-- A key without white space around it is kept, if it is not empty or is that of the name. -/
theorem keyFor_of_trimmed {key : List Char} {name : String} (htrimmed : Text.trim key = key)
    (hown : key ≠ [] ∨ key = Text.slug name.toList) :
    keyFor (some (String.ofList key)) name = ⟨String.ofList key⟩ := by
  simp only [keyFor, Option.map_some, String.toList_ofList, htrimmed]
  cases key with
  | nil =>
      have hempty : Text.slug name.toList = [] := (hown.resolve_left fun h => h rfl).symm
      simp only [hempty]
  | cons => rfl

theorem isWhiteSpace_of_mem_slug {name : List Char} {c : Char} (hmem : c ∈ Text.slug name) :
    Unicode.isWhiteSpace c = false := by
  rcases Text.mem_slugFrom hmem with rfl | ⟨kept, hslug, rfl⟩
  · decide
  · have hall : ∀ n : Fin 128, Text.isSlugChar (Char.ofNat n) = true →
        Unicode.isWhiteSpace (Char.ofNat n).toLower = false := by decide
    exact Text.of_isSlugChar (P := fun c => Unicode.isWhiteSpace c.toLower = false) hall hslug

/-- A key has no white space around it, and is empty only where the slug of the name is. -/
theorem exists_keyFor (given : Option String) (name : String) :
    ∃ key, Text.trim key = key ∧ (key ≠ [] ∨ key = Text.slug name.toList) ∧
      keyFor given name = ⟨String.ofList key⟩ := by
  unfold keyFor
  split
  next c rest h =>
    obtain ⟨key, -, htrimmed⟩ := Option.map_eq_some_iff.mp h
    refine ⟨c :: rest, ?_, .inl (List.cons_ne_nil _ _), rfl⟩
    rw [← htrimmed, Text.trim_trim]
  next =>
    exact ⟨_, Text.trim_eq_self fun _ => isWhiteSpace_of_mem_slug, .inr rfl, rfl⟩

/-- The key that a validator was given or derived is not changed by giving it again. -/
theorem keyFor_keyFor (given : Option String) (name : String) :
    keyFor (some (keyFor given name).text) name = keyFor given name := by
  obtain ⟨key, htrimmed, hown, h⟩ := exists_keyFor given name
  rw [h]
  exact keyFor_of_trimmed htrimmed hown

theorem made_iff {validator : Validator} : validator.Made ↔ validator.reread = validator := by
  constructor
  · rintro ⟨key, name, kind, code, rfl⟩
    simp only [reread, make, keyFor_keyFor]
  · exact fun h => ⟨_, _, _, _, h.symm⟩

end Validator

namespace Codec

variable {α : Type} {codec : Codec α}

/-- Each item of a list that is read is read from a value. -/
theorem exists_of_decode?_list {v : Value} {items : List α} (h : codec.list.decode? v = some items)
    {x : α} (hmem : x ∈ items) : ∃ w, codec.decode? w = some x := by
  obtain ⟨values, -, hread⟩ := Option.bind_eq_some_iff.mp h
  clear h
  induction values generalizing items with
  | nil =>
      obtain rfl : items = [] := by simpa using hread.symm
      cases hmem
  | cons first rest ih =>
      simp only [List.mapM_cons, Option.bind_eq_bind, Option.bind_eq_some_iff, Option.pure_def,
        Option.some.injEq] at hread
      obtain ⟨item, hhere, others, hlater, rfl⟩ := hread
      rcases List.mem_cons.mp hmem with rfl | hmem
      · exact ⟨first, hhere⟩
      · exact ih hmem hlater

theorem decode?_validator (x : Validator) :
    validator.decode? (validator.encode x) = some x.reread := by
  have hkey : text.option.decode? (validatorKey.encode x.key) = some (some x.key.text) := rfl
  simp [validator, hkey, Validator.reread]

theorem made_of_decode? {v : Value} {x : Validator} (h : validator.decode? v = some x) :
    x.Made := by
  simp only [validator, Option.bind_eq_bind, Option.bind_eq_some_iff, Option.pure_def,
    Option.some.injEq] at h
  obtain ⟨record, -, key, -, name, -, kind, -, code, -, rfl⟩ := h
  exact ⟨key, name, kind, code, rfl⟩

theorem decode?_project (x : Project) :
    project.decode? (project.encode x) =
      some { x with validators := x.validators.map Validator.reread } := by
  simp [project, decode?_list decode?_validator]

/-- A project that is read, from whatever value, has validators that were made. -/
theorem made_of_decode?_project {v : Value} {x : Project} (h : project.decode? v = some x) :
    ∀ validator ∈ x.validators, validator.Made := by
  simp only [project, Option.bind_eq_bind, Option.bind_eq_some_iff, Option.pure_def,
    Option.some.injEq] at h
  obtain ⟨record, -, id, -, name, -, validators, hread, rfl⟩ := h
  intro x hmem
  rw [Record.defaulted] at hread
  split at hread
  · obtain ⟨w, hone⟩ := exists_of_decode?_list hread hmem
    exact made_of_decode? hone
  · obtain rfl := Option.some.inj hread
    cases hmem

/-- A project is read as it was written if and only if its validators were made. -/
theorem decode?_project_eq_some_iff {x : Project} :
    project.decode? (project.encode x) = some x ↔ ∀ validator ∈ x.validators, validator.Made := by
  constructor
  · exact made_of_decode?_project
  · intro hmade
    have hsame : x.validators.map Validator.reread = x.validators :=
      calc x.validators.map Validator.reread
        _ = x.validators.map id :=
          List.map_congr_left fun validator hmem => Validator.made_iff.mp (hmade validator hmem)
        _ = x.validators := List.map_id _
    rw [decode?_project, hsame]

/-- What has been read is read again when it is written. -/
def Stable (codec : Codec α) : Prop :=
  ∀ v x, codec.decode? v = some x → codec.decode? (codec.encode x) = some x

theorem Lawful.stable (lawful : codec.Lawful) : codec.Stable := fun _ x _ => lawful x

theorem stable_project : project.Stable :=
  fun _ _ h => decode?_project_eq_some_iff.mpr (made_of_decode?_project h)

end Codec

/-- Every process, form and catalog is read as it was written, and a project if and only if each of
its validators was made from a name and perhaps a key, whatever they are. What is read of any value
at all is such a project, so it is the same after it has been written and read again, as is every
process, form and catalog that is read. -/
theorem definitions_survive_save_and_load :
    Codec.process.Lawful ∧ Codec.form.Lawful ∧ Codec.catalog.Lawful ∧
    (∀ x, Codec.project.decode? (Codec.project.encode x) = some x ↔
      ∀ validator ∈ x.validators, validator.Made) ∧
    Codec.process.Stable ∧ Codec.form.Stable ∧ Codec.catalog.Stable ∧ Codec.project.Stable :=
  ⟨Codec.lawful_process, Codec.lawful_form, Codec.lawful_catalog,
    fun _ => Codec.decode?_project_eq_some_iff, Codec.lawful_process.stable,
    Codec.lawful_form.stable, Codec.lawful_catalog.stable, Codec.stable_project⟩

/-- A key with blanks around it, a name without letters and digits, and a blank key. -/
theorem definitions_survive_save_and_load_blank_keys :
    let validators : List Validator :=
      [.make (some "  clerk ") "Clerk" .stepAccess "deny", .make none "!!!" .fieldVisibility "",
        .make (some "   ") "Hide Salary" .fieldVisibility ""]
    let project : Project := { id := ⟨.zero⟩, name := "Purchases", validators }
    validators.map Validator.key = [⟨"clerk"⟩, ⟨""⟩, ⟨"hide_salary"⟩] ∧
      Codec.project.decode? (Codec.project.encode project) = some project := by
  intro validators project
  obtain ⟨-, -, -, hprojects, -⟩ := definitions_survive_save_and_load
  refine ⟨by decide, (hprojects project).mpr ?_⟩
  intro validator hmem
  simp only [project, validators, List.mem_cons, List.not_mem_nil, or_false] at hmem
  rcases hmem with rfl | rfl | rfl <;> exact ⟨_, _, _, _, rfl⟩

end FormFlow

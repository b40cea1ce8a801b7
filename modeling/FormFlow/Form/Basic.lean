import FormFlow.Access

/-!
# Forms

A form lists fields with a type, options and access rules. The options of a select field stand in
the field itself or in a catalog that it names.
-/

namespace FormFlow

inductive FieldType where
  | text | number | date | datetime | boolean | select | multiselect | textarea
deriving DecidableEq

namespace FieldType

def name : FieldType → String
  | .text => "text"
  | .number => "number"
  | .date => "date"
  | .datetime => "datetime"
  | .boolean => "boolean"
  | .select => "select"
  | .multiselect => "multiselect"
  | .textarea => "textarea"

def ofName? : String → Option FieldType
  | "text" => some .text
  | "number" => some .number
  | "date" => some .date
  | "datetime" => some .datetime
  | "boolean" => some .boolean
  | "select" => some .select
  | "multiselect" => some .multiselect
  | "textarea" => some .textarea
  | _ => none

@[simp] theorem ofName?_name (type : FieldType) : ofName? type.name = some type := by
  cases type <;> rfl

end FieldType

structure SelectOption where
  value : String
  label : String
deriving DecidableEq

structure FieldDefinition where
  name : String
  label : String
  type : FieldType
  required : Bool
  options : Option (List SelectOption)
  /-- A catalog whose items take the place of the options. -/
  catalog : Option CatalogId
  validations : Option (Fields Value)
  rules : List AccessRule

/-- A field with nothing but a name, which is also its label, and a type. -/
def FieldDefinition.named (name : String) (type : FieldType) : FieldDefinition :=
  { name, label := name, type, required := false, options := none, catalog := none,
    validations := none, rules := [] }

structure Form where
  id : FormId
  name : String
  description : String
  fields : List FieldDefinition

/-- The first field with a name. -/
def Form.field? (form : Form) (name : String) : Option FieldDefinition :=
  form.fields.find? fun field => field.name = name

/-- A list of options that several fields can draw on. -/
structure Catalog where
  id : CatalogId
  name : String
  items : List SelectOption
deriving DecidableEq

end FormFlow

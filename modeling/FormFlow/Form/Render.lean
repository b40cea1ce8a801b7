import FormFlow.Form.Basic
import FormFlow.Table

/-!
# Rendering forms

A form as one caller may see it: hidden fields are left out, fields that may only be read are
marked, and options are filled in from catalogs.
-/

namespace FormFlow

instance : Keyed Catalog CatalogId := ⟨Catalog.id⟩

structure RenderedField where
  name : String
  label : String
  type : FieldType
  required : Bool
  readOnly : Bool
  options : Option (List SelectOption)
  validations : Option (Fields Value)

structure RenderedForm where
  id : FormId
  name : String
  description : String
  fields : List RenderedField

/-- The options of a field: the items of its catalog if that is known, otherwise its own. -/
def FieldDefinition.optionsFrom (field : FieldDefinition) (catalogs : Table Catalog) :
    Option (List SelectOption) :=
  match field.catalog.bind catalogs.get? with
  | some catalog => some catalog.items
  | none => field.options

/-- A field under a permission. -/
def FieldDefinition.render (field : FieldDefinition) (catalogs : Table Catalog)
    (permission : Permission) : Option RenderedField :=
  if permission = .hidden then none
  else
    some
      { name := field.name
        label := field.label
        type := field.type
        required := field.required
        readOnly := permission = .read
        options := field.optionsFrom catalogs
        validations := field.validations }

/-- The form under the permissions of its fields. -/
def Form.render (form : Form) (catalogs : Table Catalog)
    (permission : FieldDefinition → Permission) : RenderedForm :=
  { id := form.id
    name := form.name
    description := form.description
    fields := form.fields.filterMap fun field => field.render catalogs (permission field) }

/-- The first field with a name. -/
def RenderedForm.field? (form : RenderedForm) (name : String) : Option RenderedField :=
  form.fields.find? fun field => field.name = name

end FormFlow

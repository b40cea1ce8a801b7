import FormFlow.Form.Basic
import FormFlow.Process.Check
import FormFlow.Project
import FormFlow.Wire.Record

/-!
# Definitions as values

The written form of what authors define: processes with their nodes and edges, forms with their
fields, catalogs and projects, and the issues a check finds in a process.
-/

namespace FormFlow.Codec

def nodeKind : Codec NodeKind := enumeration NodeKind.name NodeKind.ofName?

def fieldType : Codec FieldType := enumeration FieldType.name FieldType.ofName?

def permission : Codec Permission := enumeration Permission.name Permission.ofName?

def scriptKind : Codec ScriptKind := enumeration ScriptKind.name ScriptKind.ofName?

def node : Codec Node where
  encode node := Record.write [
    ("expression", node.condition.map text.encode),
    ("form_definition_id", node.form.map formId.encode),
    ("id", some (nodeId.encode node.id)),
    ("label", some (text.encode node.label)),
    ("type", some (nodeKind.encode node.kind)),
    ("validator_keys", some (validatorKey.list.encode node.validators))]
  decode? v := do
    let record ← Record.ofValue? 6 v
    return {
      id := ← record.required 0 "id" nodeId
      kind := ← record.required 1 "type" nodeKind
      label := ← record.defaulted 2 "label" text ""
      form := ← record.optional 3 "form_definition_id" formId
      condition := ← record.optional 4 "expression" text
      validators := ← record.defaulted 5 "validator_keys" validatorKey.list [] }

def edge : Codec Edge where
  encode edge := Record.write [
    ("condition_expression", edge.condition.map text.encode),
    ("id", some (edgeId.encode edge.id)),
    ("key", some (edgeKey.encode edge.key)),
    ("label", some (text.encode edge.label)),
    ("source_node_id", some (nodeId.encode edge.source)),
    ("target_node_id", some (nodeId.encode edge.target)),
    ("transition_validator_keys", some (validatorKey.list.encode edge.gates))]
  decode? v := do
    let record ← Record.ofValue? 7 v
    return {
      id := ← record.required 0 "id" edgeId
      source := ← record.required 1 "source_node_id" nodeId
      target := ← record.required 2 "target_node_id" nodeId
      key := ← record.defaulted 3 "key" edgeKey ⟨""⟩
      label := ← record.defaulted 4 "label" text ""
      condition := ← record.optional 5 "condition_expression" text
      gates := ← record.defaulted 6 "transition_validator_keys" validatorKey.list [] }

def process : Codec Process where
  encode process := Record.write [
    ("description", some (text.encode process.description)),
    ("edges", some (edge.list.encode process.edges)),
    ("id", some (processId.encode process.id)),
    ("name", some (text.encode process.name)),
    ("nodes", some (node.list.encode process.nodes)),
    ("project_id", process.project.map projectId.encode),
    ("version", some (word32.encode process.version))]
  decode? v := do
    let record ← Record.ofValue? 7 v
    return {
      id := ← record.required 0 "id" processId
      name := ← record.required 1 "name" text
      description := ← record.defaulted 2 "description" text ""
      version := ← record.defaulted 3 "version" word32 1
      project := ← record.optional 4 "project_id" projectId
      nodes := ← record.defaulted 5 "nodes" node.list []
      edges := ← record.defaulted 6 "edges" edge.list [] }

def accessRule : Codec AccessRule where
  encode rule := Record.write [
    ("expression", rule.condition.map text.encode),
    ("permission", some (permission.encode rule.permission)),
    ("role_id", rule.role.map roleId.encode)]
  decode? v := do
    let record ← Record.ofValue? 3 v
    return {
      role := ← record.optional 0 "role_id" roleId
      condition := ← record.optional 1 "expression" text
      permission := ← record.required 2 "permission" permission }

def selectOption : Codec SelectOption where
  encode option := Record.write [
    ("label", some (text.encode option.label)),
    ("value", some (text.encode option.value))]
  decode? v := do
    let record ← Record.ofValue? 2 v
    return {
      value := ← record.required 0 "value" text
      label := ← record.required 1 "label" text }

def field : Codec FieldDefinition where
  encode field := Record.write [
    ("access_rules", some (accessRule.list.encode field.rules)),
    ("catalog_id", field.catalog.map catalogId.encode),
    ("field_type", some (fieldType.encode field.type)),
    ("label", some (text.encode field.label)),
    ("name", some (text.encode field.name)),
    ("options", field.options.map selectOption.list.encode),
    ("required", some (bool.encode field.required)),
    ("validations", field.validations.map fields.encode)]
  decode? v := do
    let record ← Record.ofValue? 8 v
    return {
      name := ← record.required 0 "name" text
      label := ← record.defaulted 1 "label" text ""
      type := ← record.required 2 "field_type" fieldType
      required := ← record.defaulted 3 "required" bool false
      options := ← record.optional 4 "options" selectOption.list
      catalog := ← record.optional 5 "catalog_id" catalogId
      validations := ← record.optional 6 "validations" fields
      rules := ← record.defaulted 7 "access_rules" accessRule.list [] }

def form : Codec Form where
  encode form := Record.write [
    ("description", some (text.encode form.description)),
    ("fields", some (field.list.encode form.fields)),
    ("id", some (formId.encode form.id)),
    ("name", some (text.encode form.name))]
  decode? v := do
    let record ← Record.ofValue? 4 v
    return {
      id := ← record.required 0 "id" formId
      name := ← record.required 1 "name" text
      description := ← record.defaulted 2 "description" text ""
      fields := ← record.defaulted 3 "fields" field.list [] }

def catalog : Codec Catalog where
  encode catalog := Record.write [
    ("id", some (catalogId.encode catalog.id)),
    ("items", some (selectOption.list.encode catalog.items)),
    ("name", some (text.encode catalog.name))]
  decode? v := do
    let record ← Record.ofValue? 3 v
    return {
      id := ← record.required 0 "id" catalogId
      name := ← record.required 1 "name" text
      items := ← record.defaulted 2 "items" selectOption.list [] }

/-- A validator is read with the key that is given or derived from its name. -/
def validator : Codec Validator where
  encode validator := Record.write [
    ("code", some (text.encode validator.code)),
    ("key", some (validatorKey.encode validator.key)),
    ("name", some (text.encode validator.name)),
    ("type", some (scriptKind.encode validator.kind))]
  decode? v := do
    let record ← Record.ofValue? 4 v
    let key ← record.optional 0 "key" text
    let name ← record.required 1 "name" text
    let kind ← record.defaulted 2 "type" scriptKind .fieldVisibility
    let code ← record.defaulted 3 "code" text ""
    return .make key name kind code

def project : Codec Project where
  encode project := Record.write [
    ("id", some (projectId.encode project.id)),
    ("name", some (text.encode project.name)),
    ("validators", some (validator.list.encode project.validators))]
  decode? v := do
    let record ← Record.ofValue? 3 v
    return {
      id := ← record.required 0 "id" projectId
      name := ← record.required 1 "name" text
      validators := ← record.defaulted 2 "validators" validator.list [] }

/-- Write an issue: its sort under `issue`, and what it is about. -/
def encodeIssue : Issue → Value
  | .noStart => Record.write [("issue", some (.string "no_start_node"))]
  | .severalStarts nodes => Record.write [
    ("issue", some (.string "multiple_start_nodes")),
    ("nodes", some (nodeId.list.encode nodes))]
  | .duplicateNode node => Record.write [
    ("issue", some (.string "duplicate_node_id")),
    ("node", some (nodeId.encode node))]
  | .danglingEdge edge missing => Record.write [
    ("edge", some (edgeId.encode edge)),
    ("issue", some (.string "dangling_edge")),
    ("missing", some (nodeId.encode missing))]
  | .stepWithoutForm node => Record.write [
    ("issue", some (.string "step_without_form")),
    ("node", some (nodeId.encode node))]
  | .unreachable node => Record.write [
    ("issue", some (.string "unreachable_node")),
    ("node", some (nodeId.encode node))]

/-- Read an issue. The sort decides which entries there are. -/
def decodeIssue? (v : Value) : Option Issue := do
  let sort ← (← Record.ofValue? 3 v).required 0 "issue" text
  match sort with
  | "no_start_node" => do
    let _ ← Record.ofValue? 1 v
    return .noStart
  | "multiple_start_nodes" => do
    let record ← Record.ofValue? 2 v
    return .severalStarts (← record.required 1 "nodes" nodeId.list)
  | "duplicate_node_id" => do
    let record ← Record.ofValue? 2 v
    return .duplicateNode (← record.required 1 "node" nodeId)
  | "dangling_edge" => do
    let record ← Record.ofValue? 3 v
    return .danglingEdge (← record.required 1 "edge" edgeId) (← record.required 2 "missing" nodeId)
  | "step_without_form" => do
    let record ← Record.ofValue? 2 v
    return .stepWithoutForm (← record.required 1 "node" nodeId)
  | "unreachable_node" => do
    let record ← Record.ofValue? 2 v
    return .unreachable (← record.required 1 "node" nodeId)
  | _ => none

def issue : Codec Issue := ⟨encodeIssue, decodeIssue?⟩

end FormFlow.Codec

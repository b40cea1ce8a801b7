import FormFlow.Service.Basic
import FormFlow.Wire.Definition

/-!
# Documents as values

The written form of instances and submissions, and of what callers give to the service and get
from it.
-/

namespace FormFlow.Codec

def status : Codec Status := enumeration Status.name Status.ofName?

def document : Codec Instance where
  encode document := Record.write [
    ("context", some (fields.encode document.context)),
    ("created_at", some (timestamp.encode document.createdAt)),
    ("current_node_id", some (nodeId.option.encode document.current)),
    ("document_number", some ((natural 64).encode document.documentNumber)),
    ("id", some (instanceId.encode document.id)),
    ("process_definition_id", some (processId.encode document.process)),
    ("status", some (status.encode document.status)),
    ("updated_at", some (timestamp.encode document.updatedAt))]
  decode? v := do
    let record ← Record.ofValue? 8 v
    return {
      id := ← record.required 0 "id" instanceId
      documentNumber := ← record.required 1 "document_number" (natural 64)
      process := ← record.required 2 "process_definition_id" processId
      current := ← record.nullable 3 "current_node_id" nodeId
      status := ← record.required 4 "status" status
      context := ← record.defaulted 5 "context" fields []
      createdAt := ← record.required 6 "created_at" timestamp
      updatedAt := ← record.required 7 "updated_at" timestamp }

def submission : Codec Submission where
  encode submission := Record.write [
    ("data", some (fields.encode submission.data)),
    ("form_definition_id", some (formId.encode submission.form)),
    ("id", some (submissionId.encode submission.id)),
    ("node_id", some (nodeId.encode submission.node)),
    ("process_instance_id", some (instanceId.encode submission.document)),
    ("submitted_at", some (timestamp.encode submission.submittedAt))]
  decode? v := do
    let record ← Record.ofValue? 6 v
    return {
      id := ← record.required 0 "id" submissionId
      document := ← record.required 1 "process_instance_id" instanceId
      node := ← record.required 2 "node_id" nodeId
      form := ← record.required 3 "form_definition_id" formId
      data := ← record.required 4 "data" fields
      submittedAt := ← record.required 5 "submitted_at" timestamp }

def submitRequest : Codec SubmitRequest where
  encode request := Record.write [
    ("chosen_edge_key", some (edgeKey.option.encode request.chosen)),
    ("data", some (fields.encode request.data)),
    ("form_definition_id", some (formId.option.encode request.form)),
    ("instance_id", some (instanceId.encode request.document)),
    ("node_id", some (nodeId.encode request.node)),
    ("role_ids", some (roleId.list.encode request.roles))]
  decode? v := do
    let record ← Record.ofValue? 6 v
    return {
      document := ← record.required 0 "instance_id" instanceId
      node := ← record.required 1 "node_id" nodeId
      form := ← record.optional 2 "form_definition_id" formId
      data := ← record.defaulted 3 "data" fields []
      roles := ← record.defaulted 4 "role_ids" roleId.list []
      chosen := ← record.optional 5 "chosen_edge_key" edgeKey }

def submitOutcome : Codec SubmitOutcome where
  encode outcome := Record.write [
    ("completed", some (bool.encode outcome.completed)),
    ("current_node_id", some (nodeId.option.encode outcome.current)),
    ("instance_id", some (instanceId.encode outcome.document)),
    ("status", some (status.encode outcome.status))]
  decode? v := do
    let record ← Record.ofValue? 4 v
    return {
      document := ← record.required 0 "instance_id" instanceId
      status := ← record.required 1 "status" status
      current := ← record.nullable 2 "current_node_id" nodeId
      completed := ← record.required 3 "completed" bool }

def documentSummary : Codec DocumentSummary where
  encode summary := Record.write [
    ("current_node_id", some (nodeId.option.encode summary.current)),
    ("document_number", some ((natural 64).encode summary.documentNumber)),
    ("id", some (instanceId.encode summary.id)),
    ("process_definition_id", some (processId.encode summary.process)),
    ("process_name", some (text.encode summary.processName)),
    ("project_id", some (projectId.option.encode summary.project)),
    ("status", some (status.encode summary.status))]
  decode? v := do
    let record ← Record.ofValue? 7 v
    return {
      id := ← record.required 0 "id" instanceId
      documentNumber := ← record.required 1 "document_number" (natural 64)
      process := ← record.required 2 "process_definition_id" processId
      processName := ← record.required 3 "process_name" text
      project := ← record.nullable 4 "project_id" projectId
      status := ← record.required 5 "status" status
      current := ← record.nullable 6 "current_node_id" nodeId }

def renderedField : Codec RenderedField where
  encode field := Record.write [
    ("field_type", some (fieldType.encode field.type)),
    ("label", some (text.encode field.label)),
    ("name", some (text.encode field.name)),
    ("options", field.options.map selectOption.list.encode),
    ("read_only", some (bool.encode field.readOnly)),
    ("required", some (bool.encode field.required)),
    ("validations", field.validations.map fields.encode)]
  decode? v := do
    let record ← Record.ofValue? 7 v
    return {
      name := ← record.required 0 "name" text
      label := ← record.required 1 "label" text
      type := ← record.required 2 "field_type" fieldType
      required := ← record.required 3 "required" bool
      readOnly := ← record.required 4 "read_only" bool
      options := ← record.optional 5 "options" selectOption.list
      validations := ← record.optional 6 "validations" fields }

def renderedForm : Codec RenderedForm where
  encode form := Record.write [
    ("description", some (text.encode form.description)),
    ("fields", some (renderedField.list.encode form.fields)),
    ("id", some (formId.encode form.id)),
    ("name", some (text.encode form.name))]
  decode? v := do
    let record ← Record.ofValue? 4 v
    return {
      id := ← record.required 0 "id" formId
      name := ← record.required 1 "name" text
      description := ← record.required 2 "description" text
      fields := ← record.required 3 "fields" renderedField.list }

def transition : Codec Transition where
  encode transition := Record.write [
    ("edge_id", some (edgeId.encode transition.edge)),
    ("key", some (edgeKey.encode transition.key)),
    ("label", some (text.encode transition.label)),
    ("target_node_id", some (nodeId.encode transition.target))]
  decode? v := do
    let record ← Record.ofValue? 4 v
    return {
      edge := ← record.required 0 "edge_id" edgeId
      key := ← record.required 1 "key" edgeKey
      label := ← record.required 2 "label" text
      target := ← record.required 3 "target_node_id" nodeId }

end FormFlow.Codec

import FormFlow.Identifier.Uuid

/-!
# Identifiers

Records of the store are identified by generated identifiers, the parts of a definition by texts
that their authors chose. Every sort of identifier is a type of its own, so that none can stand
for another.
-/

namespace FormFlow

/-- Identifies a process definition. -/
structure ProcessId where
  uuid : Uuid
deriving DecidableEq

/-- Identifies a form definition. -/
structure FormId where
  uuid : Uuid
deriving DecidableEq

/-- Identifies a project. -/
structure ProjectId where
  uuid : Uuid
deriving DecidableEq

/-- Identifies a catalog of options. -/
structure CatalogId where
  uuid : Uuid
deriving DecidableEq

/-- Identifies a running document instance. -/
structure InstanceId where
  uuid : Uuid
deriving DecidableEq

/-- Identifies the data submitted at one node. -/
structure SubmissionId where
  uuid : Uuid
deriving DecidableEq

/-- Names a node, unique within one process. -/
structure NodeId where
  text : String
deriving DecidableEq

/-- Names an edge. -/
structure EdgeId where
  text : String
deriving DecidableEq

/-- Names an edge as callers choose it. -/
structure EdgeKey where
  text : String
deriving DecidableEq

/-- Names a role of callers. -/
structure RoleId where
  text : String
deriving DecidableEq

/-- Names a validator as nodes and edges refer to it. -/
structure ValidatorKey where
  text : String
deriving DecidableEq

end FormFlow

import FormFlow.Script.Statement
import FormFlow.Text.Lines

/-!
# Validator scripts

A script is compiled line by line; the first line that fails is the fault of the script. A
visibility script runs its statements in order, later ones overriding earlier ones on the same
field. A step access script is a list of rules, of which the first whose guard holds decides and
none denies, or a list of assignments, of which the last decides. A script without statements
decides nothing and allows.
-/

namespace FormFlow

inductive Script where
  | visibility (statements : List VisibilityStatement)
  | rules (rules : List StepRule)
  | assignments (results : List Expr)
deriving DecidableEq

namespace Script

/-- The statements of lines that are numbered from `number`, with their line numbers. -/
def statementsFrom {α : Type} (read : String → List Token → Except CompileFault α) (number : Nat) :
    List (List Char) → Except ScriptFault (List (Nat × α))
  | [] => .ok []
  | line :: rest =>
      match lineStatement read line with
      | .error fault => .error (.compile number fault)
      | .ok statement? =>
          match statementsFrom read (number + 1) rest with
          | .error fault => .error fault
          | .ok statements =>
              match statement? with
              | none => .ok statements
              | some statement => .ok ((number, statement) :: statements)

/-- The line of the first statement of a form. -/
def firstLine? {β : Type} (form : StepStatement → Option β)
    (statements : List (Nat × StepStatement)) : Option Nat :=
  (statements.find? fun statement => (form statement.2).isSome).map Prod.fst

/-- A step access script has rules or assignments. Having both is a fault of the line where the
second form first appears. -/
def ofStepStatements (statements : List (Nat × StepStatement)) : Except ScriptFault Script :=
  match firstLine? StepStatement.rule? statements, firstLine? StepStatement.result? statements with
  | some a, some b => .error (.compile (max a b) .mixedForms)
  | some _, none => .ok (.rules (statements.filterMap (·.2.rule?)))
  | none, _ => .ok (.assignments (statements.filterMap (·.2.result?)))

/-- Compile the text of a script. -/
def compile (kind : ScriptKind) (code : String) : Except ScriptFault Script :=
  let lines := Text.lines code.toList
  match kind with
  | .fieldVisibility =>
      (statementsFrom visibilityStatement 1 lines).map fun statements =>
        .visibility (statements.map Prod.snd)
  | .stepAccess => (statementsFrom stepStatement 1 lines).bind ofStepStatements

/-- Does a guard hold? A missing one does. -/
def guardHolds (guardedBy : Option Expr) (context : Fields Value) : Metered Bool :=
  match guardedBy with
  | some condition => condition.holds context
  | none => return true

/-- The permissions after more statements have been run. -/
def runVisibility (context : Fields Value) (sofar : Fields Permission) :
    List VisibilityStatement → Metered (Fields Permission)
  | [] => return sofar
  | statement :: rest => do
    let applies ← guardHolds statement.guardedBy context
    let next :=
      if applies then
        statement.fields.toList.foldl (fun acc name => acc.insert name statement.permission) sofar
      else sofar
    runVisibility context next rest

/-- The decision of the first rule whose guard holds; without one the step is denied. -/
def runRules (context : Fields Value) : List StepRule → Metered Bool
  | [] => return false
  | rule :: rest => do
    if ← guardHolds rule.guardedBy context then return rule.decision = .allow
    else runRules context rest

/-- The result of the last assignment; without one, the result so far. -/
def runAssignments (context : Fields Value) (sofar : Bool) : List Expr → Metered Bool
  | [] => return sofar
  | result :: rest => do
    let next ← result.holds context
    runAssignments context next rest

/-- The permissions a script gives to fields. A step access script gives none. -/
def fieldPermissions (script : Script) (context : Fields Value) : Metered (Fields Permission) :=
  match script with
  | .visibility statements => runVisibility context [] statements
  | _ => return []

/-- Does a script allow a step? A visibility script has no opinion and allows. -/
def allows (script : Script) (context : Fields Value) : Metered Bool :=
  match script with
  | .visibility _ => return true
  | .rules ordered => runRules context ordered
  | .assignments ordered => runAssignments context true ordered

end Script

end FormFlow

import FormFlow.NonEmpty
import FormFlow.Script.Fault

/-!
# Statements of validator scripts

Scripts are written in lines, with comments after `#` or `//` that stand outside quotes. A line of a
visibility script gives fields a permission:

    hidden salary, bonus when amount < 1000

A line of a step access script is a rule or an assignment:

    deny when node_id == 'payout'
    allowed = 'manager' in role_ids
-/

namespace FormFlow

/-- Gives fields a permission, if its guard holds. -/
structure VisibilityStatement where
  permission : Permission
  fields : NonEmpty String
  guardedBy : Option Expr
deriving DecidableEq

inductive Decision where
  | allow
  | deny
deriving DecidableEq

/-- Decides about a step, if its guard holds. -/
structure StepRule where
  decision : Decision
  guardedBy : Option Expr
deriving DecidableEq

/-- A line of a step access script. -/
inductive StepStatement where
  | rule (rule : StepRule)
  | assign (result : Expr)
deriving DecidableEq

/-- The rule a statement is, if it is one. -/
def StepStatement.rule? : StepStatement → Option StepRule
  | .rule stated => some stated
  | .assign _ => none

/-- The condition a statement assigns, if it does. -/
def StepStatement.result? : StepStatement → Option Expr
  | .rule _ => none
  | .assign result => some result

namespace Script

/-- Where in a line the text stands with respect to quotes. -/
inductive Quoting where
  | outside
  | inside (quote : Char) (escaped : Bool)

/-- The line up to its comment. -/
def stripCommentFrom : Quoting → List Char → List Char
  | _, [] => []
  | .inside quote escaped, c :: rest =>
      let next : Quoting :=
        if escaped then .inside quote false
        else if c = '\\' then .inside quote true
        else if c = quote then .outside
        else .inside quote false
      c :: stripCommentFrom next rest
  | .outside, c :: rest =>
      if c = '#' then []
      else if c = '/' ∧ rest.head? = some '/' then []
      else
        let next : Quoting := if c = '\'' ∨ c = '"' then .inside c false else .outside
        c :: stripCommentFrom next rest

def stripComment (line : List Char) : List Char :=
  stripCommentFrom .outside line

/-- Does the token begin a guard? -/
def isWhen (token : Token) : Bool :=
  token.word? = some "when"

/-- Nothing, or `when` and a condition. -/
def readGuard : List Token → Except CompileFault (Option Expr)
  | [] => .ok none
  | first :: rest =>
      if isWhen first then
        match Expr.ofTokens? rest with
        | .ok tree => .ok (some tree)
        | .error fault => .error (.badCondition fault)
      else .error (.expectedGuard first)

/-- A field name that is not among those `seen`, and the names joined to it by commas. -/
def readFields (seen : List String) :
    List Token → Except CompileFault (NonEmpty String × List Token)
  | [] => .error .danglingComma
  | token :: rest =>
      if isWhen token then .error .danglingComma
      else
        match token.word? with
        | none => .error (.expectedField token)
        | some name =>
            if name ∈ seen then .error (.repeatedField name)
            else
              match rest with
              | [] => .ok (⟨name, []⟩, [])
              | next :: after =>
                  if isWhen next then .ok (⟨name, []⟩, next :: after)
                  else if next.kind = .comma then
                    match readFields (name :: seen) after with
                    | .ok (others, rest) => .ok (⟨name, others.toList⟩, rest)
                    | .error fault => .error fault
                  else .error (.expectedSeparator name next)

/-- What follows the permission in a line: fields and a guard. -/
def readVisibility (permission : Permission) (tokens : List Token) :
    Except CompileFault VisibilityStatement :=
  if tokens.head?.all isWhen then .error (.noFields permission)
  else do
    let (fields, rest) ← readFields [] tokens
    return ⟨permission, fields, ← readGuard rest⟩

/-- What follows a result name in a line: an equals sign and a condition. -/
def readAssignment (keyword : String) : List Token → Except CompileFault StepStatement
  | ⟨.assign, _⟩ :: rest =>
      match Expr.ofTokens? rest with
      | .ok tree => .ok (.assign tree)
      | .error fault => .error (.unreadable fault)
  | _ => .error (.expectedAssign keyword)

/-- A line of a visibility script that begins with a word. -/
def visibilityStatement (keyword : String) (rest : List Token) :
    Except CompileFault VisibilityStatement :=
  match Permission.ofName? keyword with
  | some permission => readVisibility permission rest
  | none => .error (.foreignStatement keyword .fieldVisibility)

/-- A line of a step access script that begins with a word. -/
def stepStatement (keyword : String) (rest : List Token) : Except CompileFault StepStatement :=
  match keyword with
  | "allow" => do return .rule ⟨.allow, ← readGuard rest⟩
  | "deny" => do return .rule ⟨.deny, ← readGuard rest⟩
  | "result" | "allowed" => readAssignment keyword rest
  | _ => .error (.foreignStatement keyword .stepAccess)

/-- The statement in a line, if it is not blank: `read` gets its first word and the other tokens. -/
def lineStatement {α : Type} (read : String → List Token → Except CompileFault α)
    (line : List Char) : Except CompileFault (Option α) :=
  let code := stripComment line
  if Text.isBlank code then .ok none
  else
    match tokenize code with
    | .error fault => .error (.unreadable fault)
    | .ok [] => .ok none
    | .ok (first :: rest) =>
        match first.word? with
        | none => .error (.expectedStatement first)
        | some keyword => (read keyword rest).map some

end Script

end FormFlow

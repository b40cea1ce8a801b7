import FormFlow.Expression.Meter
import FormFlow.Expression.Parser

/-!
# Evaluating conditions

A tree is evaluated in a context of named values, one step per node. Both sides of `and` and `or`
are always evaluated, so a failure on either side fails the whole. A condition as text holds when
it is blank or evaluates to something that counts as true; whatever goes wrong, it does not hold.
-/

namespace FormFlow

def Literal.value : Literal → Value
  | .text content => .string content
  | .number value => .number value
  | .bool value => .bool value

/-- What an order says about a comparison by order. -/
def Comparison.accepts : Comparison → Ordering → Bool
  | .lt, order => order = .lt
  | .le, order => order ≠ .gt
  | .gt, order => order = .gt
  | .ge, order => order ≠ .lt
  | .eq, order => order = .eq
  | .ne, order => order ≠ .eq
  | .within, _ => false

namespace Value

/-- The outcome of comparing two values. Nothing is less or greater than null. -/
def compare (op : Comparison) (left right : Value) : Except TypeFault Bool :=
  match op with
  | .eq => .ok (looseEq left right)
  | .ne => .ok (!looseEq left right)
  | .within => contains right left
  | op =>
      if left.kind = .null ∨ right.kind = .null then .ok false
      else (order left right).map op.accepts

/-- What a path leads to in a context. -/
def lookup (context : Fields Value) (root : String) (fields : List String) : Value :=
  match context.get? root with
  | some value => value.follow fields
  | none => .null

end Value

namespace Expr

mutual

/-- The value of a tree in a context. -/
def eval (context : Fields Value) : Expr → Metered Value
  | .literal value => do
    Metered.tick
    return value.value
  | .list items => do
    Metered.tick
    return .list (← evalItems context items)
  | .path root fields => do
    Metered.tick
    return Value.lookup context root fields
  | .compare op left right => do
    Metered.tick
    let l ← eval context left
    let r ← eval context right
    match Value.compare op l r with
    | .ok outcome => return .bool outcome
    | .error fault => throw (.type fault)
  | .and left right => do
    Metered.tick
    let l ← eval context left
    let r ← eval context right
    return .bool (l.truthy && r.truthy)
  | .or left right => do
    Metered.tick
    let l ← eval context left
    let r ← eval context right
    return .bool (l.truthy || r.truthy)

/-- The values of list items, up to the first that fails. -/
def evalItems (context : Fields Value) : List Expr → Metered (List Value)
  | [] => return []
  | item :: rest => do
    let value ← eval context item
    return value :: (← evalItems context rest)

end

/-- Does the value of the tree count as true? -/
def holds (tree : Expr) (context : Fields Value) : Metered Bool := do
  return (← tree.eval context).truthy

end Expr

/-- Does a condition hold in a context? Blank conditions do; whatever cannot be read or evaluated
does not. -/
def evaluate (condition : String) (context : Fields Value) : Bool :=
  if Text.isBlank condition.toList then true
  else
    match Expr.parse condition with
    | .error _ => false
    | .ok tree =>
        match ((tree.holds context).runWith .unlimited).1 with
        | .ok outcome => outcome
        | .error _ => false

end FormFlow

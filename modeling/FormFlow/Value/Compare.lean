import FormFlow.Text.Search
import FormFlow.Value.Basic

/-!
# Comparison of values

Equality is loose on scalars, where a truth value equals the number one or zero, and goes through
lists and objects item by item. The order compares numbers and truth values as doubles, texts by
code points and lists by their first difference; all other pairs cannot be ordered. Every failure
names its cause.
-/

namespace FormFlow

/-- Why two values cannot be compared. -/
inductive TypeFault where
  /-- The two kinds have no common order. -/
  | unordered (left right : Value.Kind)
  /-- Only texts can be looked for in a text. -/
  | notText (needle : Value.Kind)
deriving DecidableEq

def TypeFault.message : TypeFault → String
  | .unordered left right => s!"cannot order {left.name} against {right.name}"
  | .notText needle => s!"'in <string>' requires a string, got {needle.name}"

namespace Value

mutual

/-- Equality as conditions see it. -/
def looseEq : Value → Value → Bool
  | .null, .null => true
  | .bool a, .bool b => a = b
  | .number a, .number b => a.sameValue b
  | .bool a, .number b => (Number.ofBool a).units = b.units
  | .number a, .bool b => a.units = (Number.ofBool b).units
  | .string a, .string b => a = b
  | .list a, .list b => looseEqItems a b
  | .object a, .object b => a.length = b.length && looseEqFields a b
  | _, _ => false

/-- Equal items in equal number. -/
def looseEqItems : List Value → List Value → Bool
  | [], [] => true
  | a :: as, b :: bs => looseEq a b && looseEqItems as bs
  | _, _ => false

/-- Every field has an equal counterpart of the same name in `other`. -/
def looseEqFields : List (String × Value) → List (String × Value) → Bool
  | [], _ => true
  | (name, value) :: rest, other =>
      (match Fields.get? other name with
        | some counterpart => looseEq value counterpart
        | none => false) && looseEqFields rest other

end

mutual

/-- The order of two values, if they have one. -/
def order : Value → Value → Except TypeFault Ordering
  | .number a, .number b => .ok (a.order b)
  | .number a, .bool b => .ok (a.order (.ofBool b))
  | .bool a, .number b => .ok (Number.order (.ofBool a) b)
  | .bool a, .bool b => .ok (Number.order (.ofBool a) (.ofBool b))
  | .string a, .string b => .ok (compare a b)
  | .list a, .list b => orderItems a b
  | a, b => .error (.unordered a.kind b.kind)

/-- Lists are ordered by their first pair of unequal items; if there is none, the shorter is less.
-/
def orderItems : List Value → List Value → Except TypeFault Ordering
  | [], [] => .ok .eq
  | [], _ :: _ => .ok .lt
  | _ :: _, [] => .ok .gt
  | a :: as, b :: bs => if looseEq a b then orderItems as bs else order a b

end

/-- Is `needle` an item of a list, or a part of a text? Nothing is in any other value. -/
def contains (haystack needle : Value) : Except TypeFault Bool :=
  match haystack with
  | .list items => .ok (items.any fun item => looseEq needle item)
  | .string text =>
      match needle with
      | .string part => .ok (Text.occursIn part.toList text.toList)
      | other => .error (.notText other.kind)
  | _ => .ok false

end Value

end FormFlow

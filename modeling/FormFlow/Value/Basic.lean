import FormFlow.Fields
import FormFlow.Number.Basic

/-!
# Values

The data of documents: nothing, truth values, numbers, texts, lists and objects. The fields of an
object are in ascending order of their names; `Value.WellFormed` says so for every object in a
value.
-/

namespace FormFlow

inductive Value where
  | null
  | bool (value : Bool)
  | number (value : Number)
  | string (value : String)
  | list (items : List Value)
  | object (fields : List (String × Value))

namespace Value

/-- What sort of value it is. -/
inductive Kind where
  | null | bool | number | string | list | mapping
deriving DecidableEq

/-- The name of a kind in messages. -/
def Kind.name : Kind → String
  | .null => "null"
  | .bool => "bool"
  | .number => "number"
  | .string => "string"
  | .list => "list"
  | .mapping => "mapping"

def kind : Value → Kind
  | .null => .null
  | .bool _ => .bool
  | .number _ => .number
  | .string _ => .string
  | .list _ => .list
  | .object _ => .mapping

/-- The fields of an object. -/
def fields? : Value → Option (Fields Value)
  | .object fields => some fields
  | _ => none

/-- The items of a list. -/
def items? : Value → Option (List Value)
  | .list items => some items
  | _ => none

/-- The characters of a text. -/
def text? : Value → Option String
  | .string text => some text
  | _ => none

mutual

/-- The fields of every object in the value are in ascending order. -/
def WellFormed : Value → Prop
  | .list items => WellFormedItems items
  | .object fields => Fields.Sorted fields ∧ WellFormedFields fields
  | _ => True

def WellFormedItems : List Value → Prop
  | [] => True
  | item :: rest => item.WellFormed ∧ WellFormedItems rest

def WellFormedFields : List (String × Value) → Prop
  | [] => True
  | (_, value) :: rest => value.WellFormed ∧ WellFormedFields rest

end

/-- What follows the names of a path, one field after the other; nothing where a name is missing. -/
def follow (value : Value) : List String → Value
  | [] => value
  | name :: rest =>
      match value.fields?.bind (·.get? name) with
      | some next => next.follow rest
      | none => .null

/-- A value counts as true unless it is null, false, zero or empty. -/
def truthy : Value → Bool
  | .null => false
  | .bool value => value
  | .number value => value.truthy
  | .string value => !value.isEmpty
  | .list items => !items.isEmpty
  | .object fields => !fields.isEmpty

end Value

end FormFlow

import FormFlow.NonEmpty
import FormFlow.Wire.Codec

/-!
# Records

A record is written as an object. It is read from an object, in which unknown names do not matter,
or from a list of its entries in the order of the definition, which may break off where the
entries that are left have defaults. Every entry is read by its place and its name.
-/

namespace FormFlow

/-- What a record is read from. -/
inductive Record where
  | named (fields : Fields Value)
  | positional (items : List Value)

namespace Record

/-- The entries of a record with `arity` of them. -/
def ofValue? (arity : Nat) : Value → Option Record
  | .object fields => some (.named fields)
  | .list items => if items.length ≤ arity then some (.positional items) else none
  | _ => none

def entry? (record : Record) (index : Nat) (name : String) : Option Value :=
  match record with
  | .named fields => fields.get? name
  | .positional items => items[index]?

variable {α : Type}

/-- An entry that must be there. -/
def required (record : Record) (index : Nat) (name : String) (codec : Codec α) : Option α :=
  (record.entry? index name).bind codec.decode?

/-- An entry that may be left out. -/
def defaulted (record : Record) (index : Nat) (name : String) (codec : Codec α) (default : α) :
    Option α :=
  match record.entry? index name with
  | some v => codec.decode? v
  | none => some default

/-- An entry that may be left out or null. -/
def optional (record : Record) (index : Nat) (name : String) (codec : Codec α) :
    Option (Option α) :=
  record.defaulted index name codec.option none

/-- An entry that may be null, and may be left out of an object. -/
def nullable (record : Record) (index : Nat) (name : String) (codec : Codec α) :
    Option (Option α) :=
  match record with
  | .named _ => record.optional index name codec
  | .positional _ => record.required index name codec.option

/-- The entries that are present. -/
def present : List (String × Option Value) → Fields Value
  | [] => []
  | (name, some v) :: rest => (name, v) :: present rest
  | (_, none) :: rest => present rest

/-- The first entry of a name that is present is found. -/
theorem get?_present_cons (name : String) (v : Option Value) (rest : List (String × Option Value))
    (other : String) :
    (present ((name, v) :: rest)).get? other =
      if name = other then v.or ((present rest).get? other) else (present rest).get? other := by
  cases v with
  | none => exact (ite_self _).symm
  | some v => rfl

/-- An object of the entries that are present, which are given in ascending order of their names. -/
def write (entries : List (String × Option Value)) : Value :=
  .object (present entries)

end Record

/-- Lists with at least one item, as their first item and the list of the others. -/
def Codec.nonEmpty {α : Type} (codec : Codec α) : Codec (NonEmpty α) where
  encode items := Record.write [
    ("head", some (codec.encode items.head)),
    ("tail", some (codec.list.encode items.tail))]
  decode? v := do
    let record ← Record.ofValue? 2 v
    return {
      head := ← record.required 0 "head" codec
      tail := ← record.required 1 "tail" codec.list }

end FormFlow

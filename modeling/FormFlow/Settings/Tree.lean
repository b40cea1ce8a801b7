import FormFlow.Fields
import FormFlow.Number.Basic
import FormFlow.Number.Extended

/-!
# Trees of settings

What files and variables set: nothing, truth values, integers, doubles of every kind, texts, lists
and tables. A setting is read as what is asked for wherever that makes sense: numbers may be
written as texts, truth values as numbers or words, and every single value as a text.
-/

namespace FormFlow

inductive Setting where
  | null
  | flag (value : Bool)
  | integer (value : Int)
  | double (value : ExtendedDouble)
  | text (value : String)
  | list (items : List Setting)
  | table (entries : List (String × Setting))

namespace Setting

/-- The small letter of an ASCII letter and of the Kelvin sign, the one other character whose small
letter is in ASCII. All names and words that mean something are in ASCII, so other letters may stay
as they are. -/
def lowerChar (c : Char) : Char :=
  if c = '\u212a' then 'k' else c.toLower

/-- A name or a word in small letters. -/
def lower (text : String) : String :=
  String.ofList (text.toList.map lowerChar)

/-- The entries of a table; anything else has none. -/
def entries : Setting → Fields Setting
  | .table entries => entries
  | _ => []

/-- The items of a list; anything else has none. -/
def items : Setting → List Setting
  | .list items => items
  | _ => []

def table? : Setting → Option (Fields Setting)
  | .table entries => some entries
  | _ => none

/-- What a word says about a truth value. -/
def ofWord? (word : String) : Option Bool :=
  match lower word with
  | "true" | "on" | "yes" => some true
  | "false" | "off" | "no" => some false
  | _ => none

/-- One more than the greatest natural number of 64 bits. -/
def naturalLimit : Nat := 0x10000000000000000

/-- A natural number of 64 bits in decimal, with or without a plus. -/
def naturalText? (text : String) : Option Nat := do
  let digits := match text.toList with
    | '+' :: digits => digits
    | digits => digits
  let n ← Text.natural? digits
  guard (n < naturalLimit)
  some n

/-- A setting that is a natural number of 64 bits. -/
def natural? : Setting → Option Nat
  | .integer n => if 0 ≤ n then some n.toNat else none
  | .double x => some (x.toNatural naturalLimit)
  | .flag b => some b.toNat
  | .text content =>
      match ofWord? content with
      | some b => some b.toNat
      | none => naturalText? content
  | _ => none

/-- A setting that is a truth value. -/
def flag? : Setting → Option Bool
  | .flag b => some b
  | .integer n => some (n ≠ 0)
  | .double x => some !x.isZero
  | .text "1" => some true
  | .text "0" => some false
  | .text content => ofWord? content
  | _ => none

/-- A setting that is a text. -/
def text? : Setting → Option String
  | .text content => some content
  | .flag b => some (if b then "true" else "false")
  | .integer n => some (toString n)
  | .double x => some x.text
  | _ => none

/-- A section is a table, or a list of settings in their order. -/
def isSection : Setting → Bool
  | .table _ | .list _ => true
  | _ => false

/-- A setting of a section, given by its place and its name. -/
def entry? (group : Setting) (index : Nat) (name : String) : Option Setting :=
  match group with
  | .table entries => Fields.get? entries name
  | .list items => items[index]?
  | _ => none

/-- Read a setting of a section, which may be left out. -/
def read {α : Type} (group : Setting) (index : Nat) (name : String)
    (read? : Setting → Option α) (default : α) : Option α :=
  match group.entry? index name with
  | some s => read? s
  | none => some default

end Setting

end FormFlow

import FormFlow.Settings.Tree
import FormFlow.Text.Digits

/-!
# Paths into settings

A key may name a path: a name, then any number of steps, each a dot and a name or an index in
brackets. Setting a value at the end of a path makes tables and lists of whatever stands in its way
and fills lists up with nothing.
-/

namespace FormFlow

/-- One step into a setting. Negative indices count from the end of a list. -/
inductive PathStep where
  | name (value : String)
  | index (value : Int)
deriving DecidableEq

namespace PathStep

/-- Characters that the names of a path consist of. -/
def isNameChar (c : Char) : Bool :=
  c.isAlphanum || c == '_' || c == '-' || c == ' '

/-- A name at the beginning of a text, and what follows it. -/
def readName? (text : List Char) : Option (String × List Char) :=
  let (first, rest) := text.span isNameChar
  if first.isEmpty then none else some (String.ofList first, rest)

def isIndent (c : Char) : Bool :=
  c == ' ' || c == '\t'

/-- The index written between brackets: an integer of 64 bits, perhaps with a minus, and perhaps
with spaces and tabs around it. -/
def readIndex? (text : List Char) : Option Int := do
  let text := ((text.dropWhile isIndent).reverse.dropWhile isIndent).reverse
  let value : Int ← match text with
    | '-' :: digits => (Text.natural? digits).map fun n => -(n : Int)
    | digits => (Text.natural? digits).map fun n => (n : Int)
  guard (Number.isExact value)
  some value

/-- The step at the beginning of a text, and what follows it. -/
def read? : List Char → Option (PathStep × List Char)
  | '.' :: rest => (readName? rest).map fun (next, rest) => (.name next, rest)
  | '[' :: rest =>
      let (content, rest) := rest.span (· ≠ ']')
      if rest.isEmpty then none
      else (readIndex? content).map fun place => (.index place, rest.drop 1)
  | _ => none

/-- A text read as nothing but steps. Every step takes at least one character, so a budget of as
many steps as there are characters is never short. -/
def readAll? : Nat → List Char → Option (List PathStep)
  | _, [] => some []
  | 0, _ => none
  | budget + 1, text => do
    let (step, rest) ← read? text
    let others ← readAll? budget rest
    some (step :: others)

/-- The path that a key names: its first name and the steps after it. -/
def ofKey? (key : String) : Option (String × List PathStep) := do
  let (first, rest) ← readName? key.toList
  let steps ← readAll? rest.length rest
  some (first, steps)

end PathStep

namespace Setting

mutual

/-- Write a setting at a name in a table. A table is merged into what is there entry by entry, and
one without entries leaves that as it was; anything else replaces it. -/
def write (target : Setting) (name : String) : Setting → Setting
  | .table newer =>
      let old := (target.entries.get? (lower name)).getD (.table [])
      .table (target.entries.insert (lower name) (merge old newer))
  | other => .table (target.entries.insert (lower name) other)

/-- Write entries one after the other. -/
def merge (target : Setting) : List (String × Setting) → Setting
  | [] => target
  | (name, entry) :: rest => merge (write target name entry) rest

end

/-- The place of an index in a list that is filled up until it has that place. -/
def locate (index : Int) (items : List Setting) : Nat × List Setting :=
  match index with
  | .ofNat n => (n, items ++ List.replicate (n + 1 - items.length) .null)
  | .negSucc n =>
      (items.length - (n + 1), List.replicate (n + 1 - items.length) .null ++ items)

/-- Write a setting at the end of a path that begins with a step. -/
def place (target : Setting) (step : PathStep) (steps : List PathStep) (s : Setting) : Setting :=
  match steps, step with
  | [], .name name => write target name s
  | [], .index index =>
      let (n, items) := locate index target.items
      .list (items.set n s)
  | next :: rest, .name name =>
      let old := (target.entries.get? (lower name)).getD .null
      .table (target.entries.insert (lower name) (place old next rest s))
  | next :: rest, .index index =>
      let (n, items) := locate index target.items
      .list (items.set n (place (items[n]?.getD .null) next rest s))

/-- Write a setting where a key says: at the path it names, or else at the key itself. -/
def writeKey (target : Setting) (key : String) (s : Setting) : Setting :=
  match PathStep.ofKey? key with
  | some (first, steps) => place target (.name first) steps s
  | none => write target key s

/-- The place of an index exists after filling up. -/
theorem locate_lt (index : Int) (items : List Setting) :
    (locate index items).1 < (locate index items).2.length := by
  cases index with
  | ofNat n =>
      simp only [locate, List.length_append, List.length_replicate]
      omega
  | negSucc n =>
      simp only [locate, List.length_append, List.length_replicate]
      omega

/-- Filling up leaves a list alone that has the place already. -/
theorem locate_of_lt {n : Nat} {items : List Setting} (hhas : n < items.length) :
    locate n items = (n, items) := by
  have hnone : n + 1 - items.length = 0 := by omega
  change (n, items ++ List.replicate (n + 1 - items.length) Setting.null) = (n, items)
  simp [hnone]

/-- A table without entries changes nothing that is there. -/
theorem write_empty (target : Setting) (name : String) (old : Setting)
    (hthere : target.entries.get? (lower name) = some old) :
    (write target name (.table [])).entries.get? (lower name) = some old := by
  rw [write, merge, hthere]
  exact Fields.get?_insert_self ..

end Setting

end FormFlow

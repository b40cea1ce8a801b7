import FormFlow.Settings.Path

/-!
# Layers of settings

Settings are a table, in which later layers are written over earlier ones. Names do not distinguish
the cases of letters. A file writes entries under its own names and the environment under the names
of variables; both may name paths.
-/

namespace FormFlow.Settings

/-- Write a layer of keys and settings. -/
def writeLayer (target : Setting) (layer : List (String × Setting)) : Setting :=
  layer.foldl (fun target entry => target.writeKey entry.1 entry.2) target

/-- What the names of environment variables with settings begin with. -/
def variableStart : String := "docflow_"

/-- Two underscores in a variable name stand for the dot of a path. -/
def joinNames : List Char → List Char
  | [] => []
  | '_' :: '_' :: rest => '.' :: joinNames rest
  | c :: rest => c :: joinNames rest

/-- The key that an environment variable sets, if it sets one. -/
def variableKey? (name : String) : Option String :=
  let lower := (Setting.lower name).toList
  let start := variableStart.toList
  if start.isPrefixOf lower then some (String.ofList (joinNames (lower.drop start.length)))
  else none

/-- The sign in front of a number, which may be left out, and what follows it. -/
def splitSign : List Char → Bool × List Char
  | '-' :: rest => (true, rest)
  | '+' :: rest => (false, rest)
  | text => (false, text)

/-- The integer of 64 bits with sign that is written by a text. -/
def integer? (text : List Char) : Option Int := do
  let (negative, digits) := splitSign text
  let size ← Text.natural? digits
  let value : Int := if negative then -size else size
  guard (Number.isExact value)
  some value

/-- The double that is written by a text: a numeral with at least one digit, or a word. -/
def double? (text : List Char) : Option ExtendedDouble :=
  let (negative, unsigned) := splitSign text
  let (numeral, rest) := Numeral.scan unsigned
  if rest.isEmpty && (!numeral.whole.isEmpty || numeral.fraction.any (!·.isEmpty)) then
    some (.ofNumeral negative numeral)
  else ExtendedDouble.ofWord? negative unsigned

/-- The setting in an environment variable: a truth value, an integer or a double if it reads as
one, and otherwise the text itself. -/
def variableSetting (text : String) : Setting :=
  match Setting.lower text with
  | "true" => .flag true
  | "false" => .flag false
  | _ =>
      match integer? text.toList, double? text.toList with
      | some n, _ => .integer n
      | none, some x => .double x
      | none, none => .text text

/-- The layer of environment variables. -/
def environmentLayer (environment : List (String × String)) : List (String × Setting) :=
  environment.filterMap fun (name, text) =>
    (variableKey? name).map fun key => (key, variableSetting text)

end FormFlow.Settings

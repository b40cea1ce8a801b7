import FormFlow.Number.Stepwise
import FormFlow.Settings.Tree

/-!
# Reading JSON

A JSON text is read as a setting, its objects as tables. Of several entries with one name the last
counts. Integers of 64 bits with sign stay integers, all other numbers are doubles read by steps.
Lists and objects may be nested 127 levels deep.
-/

namespace FormFlow.Json

/-- A reader takes a part from the front of a text and leaves the rest. -/
abbrev Reader (α : Type) := List Char → Option (α × List Char)

def isBlank (c : Char) : Bool :=
  c == ' ' || c == '\n' || c == '\t' || c == '\r'

def skipBlank (text : List Char) : List Char :=
  text.dropWhile isBlank

/-- The number of four hexadecimal digits. -/
def hex4? (text : List Char) : Option Nat :=
  let digits := text.take 4
  if digits.length = 4 then Text.hexFrom? 0 digits else none

/-- A character given by its code. Two codes from the ranges of surrogates make one character, and
neither stands alone. -/
def coded? (text : List Char) : Option (Char × Nat) := do
  let high ← hex4? text
  if 0xd800 ≤ high && high < 0xdc00 then
    match text.drop 4 with
    | '\\' :: 'u' :: rest => do
      let low ← hex4? rest
      guard (0xdc00 ≤ low ∧ low < 0xe000)
      some (Char.ofNat (0x10000 + (high - 0xd800) * 0x400 + (low - 0xdc00)), 10)
    | _ => none
  else if 0xdc00 ≤ high && high < 0xe000 then none
  else some (Char.ofNat high, 4)

/-- The character an escape stands for, and how many characters the escape takes after its
backslash. -/
def escape? : List Char → Option (Char × Nat)
  | '"' :: _ => some ('"', 1)
  | '\\' :: _ => some ('\\', 1)
  | '/' :: _ => some ('/', 1)
  | 'b' :: _ => some ('\x08', 1)
  | 'f' :: _ => some ('\x0c', 1)
  | 'n' :: _ => some ('\n', 1)
  | 'r' :: _ => some ('\r', 1)
  | 't' :: _ => some ('\t', 1)
  | 'u' :: rest => (coded? rest).map fun (c, used) => (c, used + 1)
  | _ => none

/-- The characters up to a closing quote. -/
def characters (text : List Char) : Option (List Char × List Char) :=
  match text with
  | [] => none
  | c :: rest =>
      if c = '"' then some ([], rest)
      else if c = '\\' then
        match escape? rest with
        | none => none
        | some (escaped, used) =>
            (characters (rest.drop used)).map fun (content, rest) => (escaped :: content, rest)
      else if c.toNat < 0x20 then none
      else (characters rest).map fun (content, rest) => (c :: content, rest)
termination_by text.length
decreasing_by all_goals simp only [List.length_cons, List.length_drop]; omega

/-- A number without its sign. It has no zeros in front, and digits on both sides of a point. -/
def unsignedNumber (negative : Bool) : Reader Setting := fun text => do
  let (numeral, rest) := Numeral.scan text
  guard (!numeral.whole.isEmpty && (numeral.whole.length = 1 || numeral.whole.head? ≠ some '0'))
  guard (numeral.fraction ≠ some [])
  let size : Int := Text.digitsValue numeral.whole
  let value := if negative then -size else size
  let isInteger := numeral.fraction = none && numeral.exponent = none && !(negative && size = 0) &&
    Number.isExact value
  if isInteger then some (.integer value, rest)
  else do
    let x ← numeral.stepwise? negative
    some (.double (.finite x), rest)

def number : Reader Setting
  | '-' :: rest => unsignedNumber true rest
  | text => unsignedNumber false text

/-- The items of a list up to its closing bracket, at least one. Every item takes at least one
character, so a budget of as many items as there are characters is never short. -/
def items (read : Reader Setting) : Nat → Reader (List Setting)
  | 0, _ => none
  | budget + 1, text => do
    let (item, rest) ← read text
    match skipBlank rest with
    | ']' :: rest => some ([item], rest)
    | ',' :: rest => do
      let (others, rest) ← items read budget rest
      some (item :: others, rest)
    | _ => none

/-- The entries of an object up to its closing brace, at least one. -/
def members (read : Reader Setting) : Nat → Reader (List (String × Setting))
  | 0, _ => none
  | budget + 1, text =>
      match skipBlank text with
      | '"' :: rest => do
        let (name, rest) ← characters rest
        match skipBlank rest with
        | ':' :: rest => do
          let (value, rest) ← read rest
          match skipBlank rest with
          | '\x7d' :: rest => some ([(String.ofList name, value)], rest)
          | ',' :: rest => do
            let (others, rest) ← members read budget rest
            some ((String.ofList name, value) :: others, rest)
          | _ => none
        | _ => none
      | _ => none

/-- A list after its opening bracket. -/
def listRest (read : Reader Setting) : Reader Setting := fun text =>
  match skipBlank text with
  | ']' :: rest => some (.list [], rest)
  | _ => (items read text.length text).map fun (items, rest) => (.list items, rest)

/-- An object after its opening brace. -/
def objectRest (read : Reader Setting) : Reader Setting := fun text =>
  match skipBlank text with
  | '\x7d' :: rest => some (.table [], rest)
  | _ =>
      (members read text.length text).map fun (entries, rest) =>
        (.table (Fields.ofList entries), rest)

/-- A setting, in which lists and objects are nested no more than so many levels deep. -/
def setting : Nat → Reader Setting
  | depth, text =>
      match skipBlank text with
      | '"' :: rest =>
          (characters rest).map fun (content, rest) => (.text (String.ofList content), rest)
      | 't' :: 'r' :: 'u' :: 'e' :: rest => some (.flag true, rest)
      | 'f' :: 'a' :: 'l' :: 's' :: 'e' :: rest => some (.flag false, rest)
      | 'n' :: 'u' :: 'l' :: 'l' :: rest => some (.null, rest)
      | '[' :: rest =>
          match depth with
          | 0 => none
          | depth + 1 => listRest (setting depth) rest
      | '\x7b' :: rest =>
          match depth with
          | 0 => none
          | depth + 1 => objectRest (setting depth) rest
      | text => number text

/-- The setting of a whole text. -/
def ofText? (text : List Char) : Option Setting :=
  match setting 127 text with
  | some (s, rest) => if skipBlank rest = [] then some s else none
  | none => none

end FormFlow.Json

import FormFlow.Text.Digits
import FormFlow.Text.Search

/-!
# Universally unique identifiers

An identifier is 128 bits. It is written as 32 lowercase hexadecimal digits in five groups joined by
hyphens, and read in that form, in braces, after `urn:uuid:`, or as 32 digits without hyphens, with
letters in either case.
-/

namespace FormFlow

structure Uuid where
  bits : BitVec 128
deriving DecidableEq

namespace Uuid

def zero : Uuid := ⟨0⟩

/-- Exactly 32 digits. -/
def ofDigits? (digits : List Char) : Option Uuid :=
  if digits.length = 32 then (Text.hexFrom? 0 digits).map fun n => ⟨BitVec.ofNat 128 n⟩ else none

/-- How many digits stand in each group of the hyphenated form. -/
def groupSizes : List Nat := [8, 4, 4, 4, 12]

/-- Five groups of digits joined by hyphens. -/
def ofHyphenated? (text : List Char) : Option Uuid :=
  let (first, others) := Text.pieces '-' text
  if (first :: others).map List.length = groupSizes then ofDigits? (first ++ others.flatten)
  else none

/-- What stands in front of the hyphenated form in its form as a name. -/
def urnLead : List Char := ['u', 'r', 'n', ':', 'u', 'u', 'i', 'd', ':']

/-- Read any of the four forms. -/
def ofText? (text : List Char) : Option Uuid :=
  if text.length = 32 then ofDigits? text
  else if text.length = 38 ∧ text.head? = some '\x7b' ∧ text.getLast? = some '\x7d' then
    ofHyphenated? ((text.drop 1).dropLast)
  else if (text.take urnLead.length).map Char.toLower = urnLead then
    ofHyphenated? (text.drop urnLead.length)
  else ofHyphenated? text

/-- The last `count` hexadecimal digits of a number. -/
def hexDigits : Nat → Nat → List Char
  | 0, _ => []
  | count + 1, n => hexDigits count (n / 16) ++ [Nat.digitChar (n % 16)]

/-- Digits cut into groups of the given sizes. -/
def cut : List Nat → List Char → List (List Char)
  | [], _ => []
  | size :: sizes, digits => digits.take size :: cut sizes (digits.drop size)

/-- The hyphenated form. -/
def toChars (id : Uuid) : List Char :=
  ['-'].intercalate (cut groupSizes (hexDigits 32 id.bits.toNat))

def text (id : Uuid) : String :=
  String.ofList id.toChars

end Uuid

end FormFlow

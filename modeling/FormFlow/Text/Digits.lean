/-!
# Digits

ASCII digits, decimal or hexadecimal, read as a number.
-/

namespace FormFlow.Text

def isDigit (c : Char) : Bool :=
  '0' ≤ c && c ≤ '9'

/-- The number that a row of digits continues, given the number read so far. -/
def digitsFrom (sofar : Nat) (digits : List Char) : Nat :=
  digits.foldl (fun n c => 10 * n + (c.toNat - '0'.toNat)) sofar

/-- The number written by a row of digits. -/
def digitsValue (digits : List Char) : Nat :=
  digitsFrom 0 digits

/-- The number written by a nonempty row of nothing but digits. -/
def natural? (text : List Char) : Option Nat :=
  if text.isEmpty || !text.all isDigit then none else some (digitsValue text)

/-- The value of a hexadecimal digit in either case. -/
def hexDigit? (c : Char) : Option Nat :=
  if isDigit c then some (c.toNat - '0'.toNat)
  else if 'a' ≤ c && c ≤ 'f' then some (c.toNat - 'a'.toNat + 10)
  else if 'A' ≤ c && c ≤ 'F' then some (c.toNat - 'A'.toNat + 10)
  else none

/-- The number that hexadecimal digits continue, given the number read so far. -/
def hexFrom? (sofar : Nat) : List Char → Option Nat
  | [] => some sofar
  | c :: rest => do hexFrom? (16 * sofar + (← hexDigit? c)) rest

end FormFlow.Text

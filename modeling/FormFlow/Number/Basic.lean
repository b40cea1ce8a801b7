import FormFlow.Number.Decimal

/-!
# Numbers

A number is an integer or a finite double, and stays what it was written as. Where the two meet they
are compared as doubles, an integer standing for the double nearest to it; two integers of 64 bits
with sign are compared exactly when equality is asked for. Orders always go through doubles.
-/

namespace FormFlow

inductive Number where
  | int (value : Int)
  | float (value : Binary64)
deriving DecidableEq

namespace Number

/-- The number a truth value is compared as. -/
def ofBool (b : Bool) : Number :=
  .int (if b then 1 else 0)

/-- The integers that are compared exactly. -/
def isExact (n : Int) : Bool :=
  -0x8000000000000000 ≤ n && n < 0x8000000000000000

/-- The value as a double, in units of 2^-1074. -/
def units : Number → Int
  | .int n => n.sign * Binary64.magnitudeAt (Binary64.nearestRank n.natAbs 1)
  | .float x => x.units

/-- Equality: exact on integers of 64 bits, otherwise of the doubles. -/
def sameValue : Number → Number → Bool
  | .int a, .int b => if isExact a && isExact b then a = b else units (.int a) = units (.int b)
  | a, b => a.units = b.units

/-- The order of the doubles. -/
def order (a b : Number) : Ordering :=
  compare a.units b.units

/-- Everything but zero counts as true. -/
def truthy (n : Number) : Bool :=
  n.units ≠ 0

/-- An integer in decimal, a double as messages write it. -/
def text : Number → String
  | .int n => toString n
  | .float x => x.text Decimal.messageLayout

end Number

end FormFlow

import FormFlow.Number.Decimal
import FormFlow.Number.Numeral

/-!
# Extended doubles

All 64-bit floats: the finite ones, the two infinities, and the float that stands for no number.
Numerals beyond all finite doubles read as infinities here.
-/

namespace FormFlow

inductive ExtendedDouble where
  | finite (value : Binary64)
  | infinite (negative : Bool)
  | notNumber
deriving DecidableEq

namespace ExtendedDouble

/-- The double nearest to a numeral, or the infinity that it overflows to. -/
def ofNumeral (negative : Bool) (numeral : Numeral) : ExtendedDouble :=
  match numeral.double? negative with
  | some x => .finite x
  | none => .infinite negative

/-- What the words for infinity and for no number mean, in letters of either case. -/
def ofWord? (negative : Bool) (word : List Char) : Option ExtendedDouble :=
  match String.ofList (word.map Char.toLower) with
  | "inf" | "infinity" => some (.infinite negative)
  | "nan" => some .notNumber
  | _ => none

/-- Plain text, without exponents. -/
def text : ExtendedDouble → String
  | .finite x => x.text Decimal.plainLayout
  | .infinite negative => if negative then "-inf" else "inf"
  | .notNumber => "NaN"

def isZero : ExtendedDouble → Bool
  | .finite x => x.units = 0
  | _ => false

/-- Rounded to a natural number below a limit: a half goes up, what lies outside goes to the nearest
end, and what is no number to zero. -/
def toNatural (limit : Nat) : ExtendedDouble → Nat
  | .finite x => min ((x.units + (Binary64.one / 2 : Nat)).toNat / Binary64.one) (limit - 1)
  | .infinite negative => if negative then 0 else limit - 1
  | .notNumber => 0

theorem toNatural_lt {limit : Nat} (hpositive : 0 < limit) (x : ExtendedDouble) :
    x.toNatural limit < limit := by
  unfold toNatural
  split
  · omega
  · split <;> omega
  · exact hpositive

end ExtendedDouble

end FormFlow

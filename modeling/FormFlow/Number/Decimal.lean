import FormFlow.Number.Binary64

/-!
# Decimal text of doubles

Two steps write a double: choose the shortest decimal that reads back to it, and of those the
nearest; then lay its digits out. The choice is exact arithmetic on the interval of reals that
round to the double, which ends halfway to its neighbours and includes its ends when the rank is
even. What a format decides is one record, `Decimal.Layout`.
-/

namespace FormFlow

/-- A positive decimal, `digits * 10 ^ exponent`. -/
structure Decimal where
  digits : Nat
  exponent : Int
deriving DecidableEq

namespace Decimal

/-- How a format writes doubles. -/
structure Layout where
  /-- Of two equally near decimals, is the greater one written? Otherwise it is the even one. -/
  halfUp : Bool
  /-- May a number be written without an exponent, given the exponent of its leading digit? -/
  positional : Int → Bool
  /-- Is a whole number written with `.0` behind it? -/
  marksWhole : Bool

/-- Numbers as they appear in messages: an exponent below 10^-5 and from 10^16, and always a
fraction in positional form. -/
def messageLayout : Layout :=
  { halfUp := false
    positional := fun exponent => -5 ≤ exponent && exponent < 16
    marksWhole := true }

/-- Numbers as plain text: never an exponent, and no fraction on whole numbers. -/
def plainLayout : Layout :=
  { halfUp := true
    positional := fun _ => true
    marksWhole := false }

/-- Digits in base ten, the leading one first. -/
def digitChars (n : Nat) : List Char :=
  Nat.toDigits 10 n

/-- Drop zeros at the end, at most `fuel` of them, moving each into the exponent. -/
def stripZeros : Nat → Decimal → Decimal
  | 0, d => d
  | fuel + 1, d =>
      if d.digits % 10 = 0 then stripZeros fuel ⟨d.digits / 10, d.exponent + 1⟩ else d

/-- On the grid of multiples of `10 ^ exponent`, the point nearest to the magnitude at `rank` among
those that read back to it. Only the two points next to the magnitude can be nearest. -/
def onGrid? (halfUp : Bool) (rank : Nat) (exponent : Int) : Option Decimal :=
  let value := Binary64.magnitudeAt rank
  let tens := Nat.pow 10 (-exponent).toNat
  let unit := 2 * Binary64.one * Nat.pow 10 exponent.toNat
  let low := (Binary64.magnitudeAt (rank - 1) + value) * tens
  let high := (value + Binary64.magnitudeAt (rank + 1)) * tens
  let readsBack (digits : Nat) : Bool :=
    if rank % 2 = 0 then low ≤ digits * unit && digits * unit ≤ high
    else low < digits * unit && digits * unit < high
  let below := 2 * value * tens / unit
  let above := below + 1
  let upper : Bool :=
    match compare (4 * value * tens) ((below + above) * unit) with
    | .lt => false
    | .gt => true
    | .eq => halfUp || below % 2 = 1
  match readsBack below, readsBack above with
  | true, true => some ⟨if upper then above else below, exponent⟩
  | true, false => some ⟨below, exponent⟩
  | false, true => some ⟨above, exponent⟩
  | false, false => none

/-- The least power of ten above the magnitude at a positive `rank`. Multiplied by `10 ^ 400`, every
positive magnitude exceeds one, so the digits before its point can be counted. -/
def scale (rank : Nat) : Int :=
  let shifted := Binary64.magnitudeAt rank * Nat.pow 10 400 / Binary64.one
  ((digitChars shifted).length : Int) - 400

/-- The fewest digits that read back to the magnitude at a positive `rank`. Seventeen always do; the
exact value stands in the place that is never reached. -/
def shortest (halfUp : Bool) (rank : Nat) : Decimal :=
  let top := scale rank
  let found := (List.range 17).findSome? fun n => onGrid? halfUp rank (top - (n + 1 : Nat))
  stripZeros 20 (found.getD ⟨Binary64.magnitudeAt rank * Nat.pow 5 1074, -1074⟩)

/-- Lay out the digits of a positive decimal. -/
def layOut (layout : Layout) (d : Decimal) : List Char :=
  let digits := digitChars d.digits
  let count := digits.length
  let leading : Int := d.exponent + count - 1
  if layout.positional leading then
    if 0 ≤ d.exponent then
      digits ++ List.replicate d.exponent.toNat '0' ++
        (if layout.marksWhole then ['.', '0'] else [])
    else if 0 ≤ leading then
      let whole := leading.toNat + 1
      digits.take whole ++ '.' :: digits.drop whole
    else
      ['0', '.'] ++ List.replicate (-leading - 1).toNat '0' ++ digits
  else
    let mantissa := match digits with
      | first :: [] => [first]
      | first :: rest => first :: '.' :: rest
      | [] => []
    mantissa ++ ['e', if leading < 0 then '-' else '+'] ++ digitChars leading.natAbs

end Decimal

/-- The text of a double in a layout. -/
def Binary64.text (layout : Decimal.Layout) (x : Binary64) : String :=
  let sign := if x.negative then ['-'] else []
  let body :=
    if x.rank.val = 0 then (if layout.marksWhole then ['0', '.', '0'] else ['0'])
    else Decimal.layOut layout (Decimal.shortest layout.halfUp x.rank)
  String.ofList (sign ++ body)

end FormFlow

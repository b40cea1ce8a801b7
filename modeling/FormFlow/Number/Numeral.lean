import FormFlow.Number.Binary64
import FormFlow.Text.Digits

/-!
# Numerals

A numeral is a number as it is written, without its sign: digits, perhaps a point and more digits,
perhaps an exponent of ten. It stands for the double nearest to it.
-/

namespace FormFlow

structure Numeral where
  whole : List Char
  /-- The digits after the point, if there is a point. -/
  fraction : Option (List Char)
  exponent : Option Int
deriving DecidableEq

namespace Numeral

/-- The digits at the beginning of a text, and what follows them. -/
def scanDigits (text : List Char) : List Char × List Char :=
  text.span Text.isDigit

/-- A point and the digits after it. -/
def scanFraction : List Char → Option (List Char) × List Char
  | '.' :: rest =>
      let (digits, rest) := scanDigits rest
      (some digits, rest)
  | text => (none, text)

/-- The number after an exponent sign, which needs at least one digit. -/
def scanSigned? : List Char → Option (Int × List Char)
  | '-' :: rest => unsigned? (-1) rest
  | '+' :: rest => unsigned? 1 rest
  | rest => unsigned? 1 rest
where
  unsigned? (sign : Int) (text : List Char) : Option (Int × List Char) :=
    let (digits, rest) := scanDigits text
    if digits.isEmpty then none else some (sign * Text.digitsValue digits, rest)

/-- An exponent. Without digits it is none, and what was taken for it is left. -/
def scanExponent (text : List Char) : Option Int × List Char :=
  match text with
  | 'e' :: rest | 'E' :: rest =>
      match scanSigned? rest with
      | some (exponent, rest) => (some exponent, rest)
      | none => (none, text)
  | _ => (none, text)

/-- The numeral at the beginning of a text, and what follows it. -/
def scan (text : List Char) : Numeral × List Char :=
  let (whole, text) := scanDigits text
  let (fraction, text) := scanFraction text
  let (exponent, text) := scanExponent text
  (⟨whole, fraction, exponent⟩, text)

/-- The double nearest to a numeral; nothing when that is beyond all finite doubles. Numerals below
`10 ^ -400` are nearest to zero and those from `10 ^ 400` on beyond all doubles, so no power of ten
grows with the exponent. -/
def double? (negative : Bool) (numeral : Numeral) : Option Binary64 :=
  let places := numeral.fraction.getD []
  let digits := numeral.whole ++ places
  let value := Text.digitsValue digits
  let exponent := numeral.exponent.getD 0 - places.length
  if value = 0 ∨ exponent + digits.length < -400 then some { Binary64.zero with negative }
  else if 400 < exponent then none
  else Binary64.ofRatio? negative (value * Nat.pow 10 exponent.toNat)
    (Nat.pow 10 (-exponent).toNat)

end Numeral

end FormFlow

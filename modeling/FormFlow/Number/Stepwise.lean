import FormFlow.Number.Numeral

/-!
# Doubles by steps

A quick way to read a numeral keeps only the leading digits that fit 64 bits and brings them to
their power of ten by one or two operations on doubles. Every step rounds, so the result may be a
neighbour of the nearest double. It does not depend on anything but the numeral, and a rule for it
is therefore part of what a text means.
-/

namespace FormFlow

namespace Binary64

/-- The rank of the double nearest to a power of ten. -/
def tenRank (exponent : Nat) : Nat :=
  nearestRank (Nat.pow 10 exponent) 1

/-- The rank of the rounded product of two magnitudes. -/
def timesRank (a b : Nat) : Nat :=
  nearestRank (magnitudeAt a * magnitudeAt b) (one * one)

/-- The rank of the rounded quotient of two magnitudes. -/
def overRank (a b : Nat) : Nat :=
  nearestRank (magnitudeAt a) (magnitudeAt b)

/-- The exponent of the greatest power of ten that has a double. -/
def maxTen : Nat := 308

/-- The rank of a magnitude times a power of ten; nothing where that is too large. A number of 64
bits divided twice by the greatest power is zero, so more divisions change nothing. -/
def scaleRank? (rank : Nat) : Int → Option Nat
  | .ofNat up =>
      if up ≤ maxTen then some (timesRank rank (tenRank up))
      else if rank = 0 then some 0 else none
  | .negSucc n =>
      let down := n + 1
      if down ≤ maxTen then some (overRank rank (tenRank down))
      else if down ≤ 2 * maxTen then
        some (overRank (overRank rank (tenRank maxTen)) (tenRank (down - maxTen)))
      else some 0

end Binary64

namespace Numeral

/-- The number that leading digits of a row continue as long as it fits 64 bits, and the digits
from the first one that does not fit. -/
def leadingDigits (sofar : Nat) : List Char → Nat × List Char
  | [] => (sofar, [])
  | c :: rest =>
      let next := Text.digitsFrom sofar [c]
      if next < 0x10000000000000000 then leadingDigits next rest else (sofar, c :: rest)

/-- The double of a numeral by steps; nothing when it is beyond all finite doubles. Digits in front
of the point that are cut off raise the exponent, digits behind it that are kept lower it. -/
def stepwise? (negative : Bool) (numeral : Numeral) : Option Binary64 :=
  let places := numeral.fraction.getD []
  let (whole, cutWhole) := leadingDigits 0 numeral.whole
  let (digits, cutPlaces) := leadingDigits whole places
  let kept : Int := places.length - cutPlaces.length
  let exponent := numeral.exponent.getD 0 + cutWhole.length - kept
  match Binary64.scaleRank? (Binary64.nearestRank digits 1) exponent with
  | none => none
  | some rank =>
      if h : rank < Binary64.rankCount then some ⟨negative, ⟨rank, h⟩⟩ else none

theorem leadingDigits_lt {sofar : Nat} (hfits : sofar < 0x10000000000000000) (digits : List Char) :
    (leadingDigits sofar digits).1 < 0x10000000000000000 := by
  induction digits generalizing sofar with
  | nil => exact hfits
  | cons c rest ih =>
      unfold leadingDigits
      dsimp only
      split
      next hfitsNext => exact ih hfitsNext
      next => exact hfits

end Numeral

end FormFlow

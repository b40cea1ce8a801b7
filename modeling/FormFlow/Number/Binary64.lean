/-!
# Finite doubles

The magnitudes of the finite 64-bit floats form an ascending list: zero, the subnormals, then 2046
binades of 2^52 values each. A finite double is a sign and a place in that list, its *rank*, which
is also what its bit pattern spells below the sign bit. Values are exact integers in units of
2^-1074, so rounding and comparison need no approximate arithmetic.
-/

namespace FormFlow

namespace Binary64

/-- How many magnitudes a binade has, 2^52. -/
def binade : Nat := 0x10000000000000

/-- How many magnitudes there are. -/
def rankCount : Nat := 2047 * binade

/-- The sign bit of a bit pattern, 2^63. -/
def signBit : Nat := 0x8000000000000000

/-- The number one in units of 2^-1074. -/
def one : Nat := 1 <<< 1074

/-- The magnitude at a rank, in units of 2^-1074. The formula goes on beyond the last finite rank as
if the exponent had no upper limit. -/
def magnitudeAt (rank : Nat) : Nat :=
  if rank < binade then rank else (binade + rank % binade) <<< (rank / binade - 1)

/-- `num / den` rounded to the nearest integer, a half to the even neighbour. -/
def roundToEven (num den : Nat) : Nat :=
  let floor := num / den
  match compare (2 * (num % den)) den with
  | .lt => floor
  | .gt => floor + 1
  | .eq => if floor % 2 = 0 then floor else floor + 1

/-- The rank of the magnitude nearest to `num / den`; of two equally near ones, the even rank. Above
the first two binades neighbours are `2 ^ shift` units apart, and moving up by a binade doubles a
magnitude. -/
def nearestRank (num den : Nat) : Nat :=
  let units := num * one
  let shift := (units / den).log2 - 52
  shift * binade + roundToEven units (den <<< shift)

end Binary64

/-- A finite 64-bit float. -/
structure Binary64 where
  negative : Bool
  rank : Fin Binary64.rankCount
deriving DecidableEq

namespace Binary64

def zero : Binary64 := ⟨false, ⟨0, by decide⟩⟩

/-- The exact value in units of 2^-1074. The two zeros have the same value. -/
def units (x : Binary64) : Int :=
  if x.negative then -(magnitudeAt x.rank : Int) else magnitudeAt x.rank

/-- The bit pattern: the sign bit above the rank. -/
def toBits (x : Binary64) : Nat :=
  (if x.negative then signBit else 0) + x.rank

/-- The finite double with a bit pattern, if there is one. -/
def ofBits? (bits : Nat) : Option Binary64 :=
  if h : bits % signBit < rankCount ∧ bits < 2 * signBit then
    some ⟨signBit ≤ bits, ⟨bits % signBit, h.1⟩⟩
  else none

/-- The double nearest to `num / den` with the given sign; nothing when that is beyond all finite
doubles. -/
def ofRatio? (negative : Bool) (num den : Nat) : Option Binary64 :=
  if h : nearestRank num den < rankCount then some ⟨negative, ⟨nearestRank num den, h⟩⟩ else none

theorem rank_lt (x : Binary64) : x.rank.val < signBit :=
  Nat.lt_trans x.rank.isLt (by decide)

theorem toBits_mod (x : Binary64) : x.toBits % signBit = x.rank := by
  have hbound := x.rank_lt
  unfold toBits signBit at *
  split <;> omega

theorem ofBits?_toBits (x : Binary64) : ofBits? x.toBits = some x := by
  have hbound := x.rank_lt
  have hfits : x.toBits < 2 * signBit := by
    unfold toBits signBit at *
    split <;> omega
  have hsign : decide (signBit ≤ x.toBits) = x.negative := by
    unfold toBits signBit at *
    cases x.negative <;> grind
  unfold ofBits?
  rw [dif_pos ⟨x.toBits_mod.symm ▸ x.rank.isLt, hfits⟩]
  obtain ⟨negative, rank⟩ := x
  congr 2
  exact Fin.ext (toBits_mod _)

end Binary64

end FormFlow

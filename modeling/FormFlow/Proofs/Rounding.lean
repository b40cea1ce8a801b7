import FormFlow.Number.Basic

/-!
# Rounding of integers

A number stands for the double nearest to it. Rounding never turns the order of two quotients
around, and a magnitude is rounded to itself. Integers up to 2^53 are doubles, so an integer below
that keeps apart from all other integers when both are rounded; two greater ones need not.
-/

namespace FormFlow

namespace Binary64

theorem binade_pos : 0 < binade := by decide

/-! ## Magnitudes -/

/-- In the binade above `shift` doublings, neighbours are `2 ^ shift` apart. -/
theorem magnitudeAt_add {count shift : Nat} (hcount : count ≤ 2 * binade)
    (hshift : shift = 0 ∨ binade ≤ count) :
    magnitudeAt (shift * binade + count) = count <<< shift := by
  rcases Nat.lt_or_ge count binade with hlow | hhigh
  · obtain rfl : shift = 0 := by omega
    simp [magnitudeAt, hlow]
  · obtain ⟨place, rfl⟩ := Nat.exists_eq_add_of_le hhigh
    have hrank : shift * binade + (binade + place) = place + binade * (shift + 1) := by
      rw [Nat.mul_add, Nat.mul_comm]
      omega
    have hnot : ¬ place + binade * (shift + 1) < binade := by
      rw [Nat.mul_add]
      omega
    rw [hrank, magnitudeAt, if_neg hnot, Nat.add_mul_mod_self_left,
      Nat.add_mul_div_left _ _ binade_pos]
    rcases Nat.lt_or_ge place binade with hinside | hend
    · rw [Nat.mod_eq_of_lt hinside, Nat.div_eq_of_lt hinside, Nat.zero_add, Nat.add_sub_cancel]
    · obtain rfl : place = binade := by omega
      rw [Nat.mod_self, Nat.div_self binade_pos, Nat.add_zero, Nat.add_comm 1,
        Nat.add_sub_cancel, Nat.shiftLeft_succ_inside, Nat.two_mul]

/-- Every rank has a place among the magnitudes with one distance between them. -/
theorem exists_shift (rank : Nat) : ∃ shift count,
    rank = shift * binade + count ∧ count < 2 * binade ∧ (shift = 0 ∨ binade ≤ count) := by
  have hdiv := Nat.div_add_mod' rank binade
  have hmod := Nat.mod_lt rank binade_pos
  cases hquot : rank / binade with
  | zero =>
      rw [hquot] at hdiv
      exact ⟨0, rank % binade, by omega, by omega, .inl rfl⟩
  | succ shift =>
      rw [hquot, Nat.succ_mul] at hdiv
      exact ⟨shift, binade + rank % binade, by omega, by omega, .inr (Nat.le_add_right ..)⟩

theorem magnitudeAt_lt_succ (rank : Nat) : magnitudeAt rank < magnitudeAt (rank + 1) := by
  obtain ⟨shift, count, rfl, hcount, hshift⟩ := exists_shift rank
  have hnext : shift = 0 ∨ binade ≤ count + 1 := hshift.imp_right fun h => Nat.le_succ_of_le h
  rw [Nat.add_assoc, magnitudeAt_add (Nat.le_of_lt hcount) hshift, magnitudeAt_add hcount hnext,
    Nat.shiftLeft_eq, Nat.shiftLeft_eq]
  exact Nat.mul_lt_mul_of_pos_right (Nat.lt_succ_self count) (Nat.two_pow_pos shift)

theorem magnitudeAt_mono {rank other : Nat} (h : rank ≤ other) :
    magnitudeAt rank ≤ magnitudeAt other := by
  induction h with
  | refl => exact Nat.le_refl _
  | step _ ih => exact Nat.le_trans ih (Nat.le_of_lt (magnitudeAt_lt_succ _))

/-! ## Rounding a quotient -/

/-- Is a quotient nearer to the integer above it, or as near, with an odd integer below it? -/
def roundsUp (num den : Nat) : Bool :=
  den < 2 * (num % den) || (2 * (num % den) = den && num / den % 2 = 1)

theorem roundToEven_eq (num den : Nat) :
    roundToEven num den = num / den + (roundsUp num den).toNat := by
  unfold roundToEven roundsUp
  dsimp only
  cases hcompare : compare (2 * (num % den)) den with
  | lt =>
      have h := Nat.compare_eq_lt.mp hcompare
      simp [Nat.not_lt.mpr (Nat.le_of_lt h), Nat.ne_of_lt h]
  | gt =>
      have h := Nat.compare_eq_gt.mp hcompare
      simp [h]
  | eq =>
      have h := Nat.compare_eq_eq.mp hcompare
      rcases Nat.mod_two_eq_zero_or_one (num / den) with hp | hp <;> simp [h, hp]

theorem roundToEven_mono {num other : Nat} (den : Nat) (h : num ≤ other) :
    roundToEven num den ≤ roundToEven other den := by
  rw [roundToEven_eq, roundToEven_eq]
  have hfloor : num / den ≤ other / den := Nat.div_le_div_right h
  have hbit := Bool.toNat_le (roundsUp num den)
  rcases Nat.lt_or_eq_of_le hfloor with hlt | heq
  · omega
  · rw [heq]
    have hmod : num % den ≤ other % den := by
      have h1 := Nat.div_add_mod num den
      have h2 := Nat.div_add_mod other den
      rw [heq] at h1
      omega
    have hup : roundsUp num den = true → roundsUp other den = true := by
      simp only [roundsUp, heq, Bool.or_eq_true, Bool.and_eq_true, decide_eq_true_eq]
      omega
    apply Nat.add_le_add_left
    cases hnum : roundsUp num den with
    | false => exact Nat.zero_le _
    | true => exact Nat.le_of_eq (congrArg Bool.toNat (hup hnum).symm)

theorem roundToEven_mul (count : Nat) {den : Nat} (h : 0 < den) :
    roundToEven (count * den) den = count := by
  rw [roundToEven_eq, Nat.mul_div_cancel _ h]
  simp [roundsUp, Nat.ne_of_lt h]

/-! ## The nearest rank -/

/-- How often the first two binades are doubled to come to the size of a quotient. -/
def doublings (num den : Nat) : Nat :=
  (num * one / den).log2 - 52

theorem nearestRank_eq (num den : Nat) :
    nearestRank num den = doublings num den * binade +
      roundToEven (num * one) (den <<< doublings num den) := rfl

theorem doublings_mono {num other : Nat} (den : Nat) (h : num ≤ other) :
    doublings num den ≤ doublings other den := by
  have hquot : num * one / den ≤ other * one / den :=
    Nat.div_le_div_right (Nat.mul_le_mul_right _ h)
  apply Nat.sub_le_sub_right
  by_cases hzero : num * one / den = 0
  · rw [hzero]
    exact Nat.zero_le _
  · rw [Nat.le_log2 (Nat.ne_of_gt (Nat.lt_of_lt_of_le (Nat.pos_of_ne_zero hzero) hquot))]
    exact Nat.le_trans (Nat.log2_self_le hzero) hquot

theorem lt_two_binades {num den : Nat} (h : 0 < den) :
    num * one < 2 * binade * (den <<< doublings num den) := by
  have hlog : (num * one / den).log2 + 1 ≤ 53 + doublings num den := by
    unfold doublings
    omega
  have hquot := Nat.lt_of_lt_of_le Nat.lt_log2_self (Nat.pow_le_pow_right (by decide) hlog)
  rw [Nat.div_lt_iff_lt_mul h, Nat.pow_add, Nat.mul_assoc, Nat.mul_comm _ den] at hquot
  rw [Nat.shiftLeft_eq]
  exact hquot

theorem binade_le {num den : Nat} (h : 0 < den) (hshift : doublings num den ≠ 0) :
    binade * (den <<< doublings num den) ≤ num * one := by
  have hlog : (num * one / den).log2 = 52 + doublings num den := by
    unfold doublings at hshift ⊢
    omega
  have hpos : num * one / den ≠ 0 := by
    intro hzero
    rw [hzero, Nat.log2_zero] at hlog
    omega
  have hquot := Nat.log2_self_le hpos
  rw [hlog, Nat.le_div_iff_mul_le h, Nat.pow_add, Nat.mul_assoc, Nat.mul_comm _ den] at hquot
  rw [Nat.shiftLeft_eq]
  exact hquot

theorem shifted_pos {den : Nat} (h : 0 < den) (shift : Nat) : 0 < den <<< shift := by
  rw [Nat.shiftLeft_eq]
  exact Nat.mul_pos h (Nat.two_pow_pos shift)

/-- A nearest rank lies in the binades of its size, or just above them. -/
theorem nearestRank_le {num den : Nat} (hden : 0 < den) :
    nearestRank num den ≤ (doublings num den + 2) * binade := by
  have hlt : num * one < 2 * binade * (den <<< doublings num den) := lt_two_binades hden
  have hle := roundToEven_mono (den <<< doublings num den) (Nat.le_of_lt hlt)
  rw [roundToEven_mul _ (shifted_pos hden _)] at hle
  rw [nearestRank_eq, Nat.add_mul]
  omega

theorem le_nearestRank {num den : Nat} (hden : 0 < den) (hshift : doublings num den ≠ 0) :
    (doublings num den + 1) * binade ≤ nearestRank num den := by
  have hle := roundToEven_mono (den <<< doublings num den) (binade_le hden hshift)
  rw [roundToEven_mul _ (shifted_pos hden _)] at hle
  rw [nearestRank_eq, Nat.add_mul]
  omega

/-- A greater quotient is rounded to no smaller a rank. -/
theorem nearestRank_mono {num other den : Nat} (hden : 0 < den) (h : num ≤ other) :
    nearestRank num den ≤ nearestRank other den := by
  rcases Nat.lt_or_eq_of_le (doublings_mono den h) with hlt | heq
  · calc nearestRank num den ≤ (doublings num den + 2) * binade := nearestRank_le hden
      _ ≤ (doublings other den + 1) * binade := Nat.mul_le_mul_right _ (by omega)
      _ ≤ nearestRank other den := le_nearestRank hden (by omega)
  · rw [nearestRank_eq, nearestRank_eq, heq]
    exact Nat.add_le_add_left (roundToEven_mono _ (Nat.mul_le_mul_right _ h)) _

/-! ## Numbers that are not rounded -/

/-- A quotient that is a magnitude is rounded to itself. -/
theorem magnitudeAt_nearestRank {num den count : Nat} (hden : 0 < den)
    (h : num * one = count * (den <<< doublings num den)) :
    magnitudeAt (nearestRank num den) * den = num * one := by
  have hpos := shifted_pos hden (doublings num den)
  have hcount : count ≤ 2 * binade := by
    have hlt : num * one < 2 * binade * (den <<< doublings num den) := lt_two_binades hden
    rw [h] at hlt
    exact Nat.le_of_lt (Nat.lt_of_mul_lt_mul_right hlt)
  have hshift : doublings num den = 0 ∨ binade ≤ count := by
    by_cases hzero : doublings num den = 0
    · exact .inl hzero
    · have hle := binade_le hden hzero
      rw [h] at hle
      exact .inr (Nat.le_of_mul_le_mul_right hle hpos)
  rw [nearestRank_eq, h, roundToEven_mul _ hpos, magnitudeAt_add hcount hshift, Nat.shiftLeft_eq,
    Nat.shiftLeft_eq, Nat.mul_assoc, Nat.mul_comm den]

theorem one_eq_mul {shift : Nat} (h : shift ≤ 1074) :
    one = 1 <<< (1074 - shift) * (1 <<< shift) := by
  rw [Nat.one_shiftLeft, Nat.one_shiftLeft, ← Nat.pow_add, Nat.sub_add_cancel h, one,
    Nat.one_shiftLeft]

/-- Integers up to 2^53 are doubles. -/
theorem magnitudeAt_of_small {n : Nat} (h : n ≤ 2 * binade) :
    magnitudeAt (nearestRank n 1) = n * one := by
  rcases Nat.lt_or_eq_of_le h with hlt | rfl
  · have hshift : doublings n 1 ≤ 1074 := by
      by_cases hzero : n * one = 0
      · simp [doublings, hzero]
      · have hlog : (n * one).log2 < 1127 := by
          rw [Nat.log2_lt hzero]
          have hunits : n * one < 2 * binade * one :=
            Nat.mul_lt_mul_of_pos_right hlt (by decide +kernel)
          exact Nat.lt_of_lt_of_le hunits (by decide +kernel)
        rw [doublings, Nat.div_one]
        omega
    have hmul : n * one = n * (1 <<< (1074 - doublings n 1)) * (1 <<< doublings n 1) := by
      rw [Nat.mul_assoc, ← one_eq_mul hshift]
    have hexact := magnitudeAt_nearestRank (by decide) hmul
    rwa [Nat.mul_one] at hexact
  · decide +kernel

end Binary64

namespace Number

theorem units_ofNat (n : Nat) :
    (int n).units = Binary64.magnitudeAt (Binary64.nearestRank n 1) := by
  rw [units, Int.natAbs_natCast]
  cases n with
  | zero => decide +kernel
  | succ n => rw [Int.sign_natCast_of_ne_zero (by omega), Int.one_mul]

theorem units_neg (n : Int) : (int (-n)).units = -(int n).units := by
  rw [units, units, Int.sign_neg, Int.natAbs_neg, Int.neg_mul]

theorem units_mono_nat {m n : Nat} (h : m ≤ n) : (int m).units ≤ (int n).units := by
  rw [units_ofNat, units_ofNat]
  exact Int.ofNat_le.mpr (Binary64.magnitudeAt_mono (Binary64.nearestRank_mono (by decide) h))

/-- Rounding keeps integers in order. -/
theorem units_mono {m n : Int} (h : m ≤ n) : (int m).units ≤ (int n).units := by
  obtain ⟨a, rfl | rfl⟩ := m.eq_nat_or_neg <;> obtain ⟨b, rfl | rfl⟩ := n.eq_nat_or_neg
  · exact units_mono_nat (by omega)
  · obtain ⟨rfl, rfl⟩ : a = 0 ∧ b = 0 := by omega
    exact Int.le_refl _
  · calc (int (-a)).units = -(int a).units := units_neg a
      _ ≤ 0 := by rw [units_ofNat]; omega
      _ ≤ (int b).units := by rw [units_ofNat]; omega
  · rw [units_neg, units_neg]
    exact Int.neg_le_neg (units_mono_nat (by omega))

/-- Integers up to 2^53 are not rounded. -/
theorem units_of_small {n : Int} (h : n.natAbs ≤ 2 * Binary64.binade) :
    (int n).units = n * Binary64.one := by
  rw [units, Binary64.magnitudeAt_of_small h, Int.natCast_mul, ← Int.mul_assoc,
    Int.sign_mul_natAbs]

/-- An integer below 2^53 keeps apart from every other integer. -/
theorem units_lt {m n : Int} (h : m < n)
    (hsmall : m.natAbs < 2 * Binary64.binade ∨ n.natAbs < 2 * Binary64.binade) :
    (int m).units < (int n).units := by
  have hone : (0 : Int) < Binary64.one := Int.ofNat_lt.mpr (by decide +kernel)
  rcases hsmall with hm | hn
  · calc (int m).units = m * Binary64.one := units_of_small (Nat.le_of_lt hm)
      _ < (m + 1) * Binary64.one := Int.mul_lt_mul_of_pos_right (Int.lt_succ m) hone
      _ = (int (m + 1)).units := (units_of_small (by omega)).symm
      _ ≤ (int n).units := units_mono h
  · calc (int m).units ≤ (int (n - 1)).units := units_mono (by omega)
      _ = (n - 1) * Binary64.one := units_of_small (by omega)
      _ < n * Binary64.one := Int.mul_lt_mul_of_pos_right (by omega) hone
      _ = (int n).units := (units_of_small (Nat.le_of_lt hn)).symm

/-! ## Collisions -/

/-- Two different integers of 64 bits that are rounded to one double. -/
inductive Collide : Number → Number → Prop
  | integers {m n : Int} (hm : isExact m) (hn : isExact n) (hdifferent : m ≠ n)
      (hdouble : (int m).units = (int n).units) : Collide (.int m) (.int n)

namespace Collide

variable {a b : Number}

theorem symm (h : Collide a b) : Collide b a := by
  obtain ⟨hm, hn, hdifferent, hdouble⟩ := h
  exact ⟨hn, hm, hdifferent.symm, hdouble.symm⟩

theorem irrefl (a : Number) : ¬ Collide a a := by
  rintro ⟨-, -, hdifferent, -⟩
  exact hdifferent rfl

/-- Integers collide only from 2^53 on. -/
theorem large {m n : Int} (h : Collide (.int m) (.int n)) :
    2 * Binary64.binade ≤ m.natAbs ∧ 2 * Binary64.binade ≤ n.natAbs := by
  obtain ⟨-, -, hdifferent, hdouble⟩ := h
  refine Decidable.byContradiction fun hlarge => ?_
  have hsmall : m.natAbs < 2 * Binary64.binade ∨ n.natAbs < 2 * Binary64.binade := by omega
  rcases Int.lt_or_gt_of_ne hdifferent with hlt | hgt
  · exact absurd hdouble (Int.ne_of_lt (units_lt hlt hsmall))
  · exact absurd hdouble.symm (Int.ne_of_lt (units_lt hgt hsmall.symm))

/-- What a truth value is compared as collides with nothing. -/
theorem not_ofBool (value : Bool) (b : Number) : ¬ Collide (.ofBool value) b := by
  have hsmall : (if value then 1 else 0 : Int).natAbs ≤ 1 := by cases value <;> decide
  rintro ⟨hm, hn, hdifferent, hdouble⟩
  have hlarge := large ⟨hm, hn, hdifferent, hdouble⟩
  exact absurd (Nat.le_trans hlarge.1 hsmall) (by decide)

end Collide

variable {a b c : Number}

/-- Two numbers are equal if they are the same doubles, unless they are integers that collide. -/
theorem sameValue_iff : a.sameValue b = true ↔ a.units = b.units ∧ ¬ Collide a b := by
  unfold sameValue
  split
  next m n =>
    split
    next hexact =>
      obtain ⟨hm, hn⟩ := Bool.and_eq_true_iff.mp hexact
      rw [decide_eq_true_eq]
      constructor
      · rintro rfl
        exact ⟨rfl, Collide.irrefl _⟩
      · rintro ⟨hunits, hcollide⟩
        exact Decidable.byContradiction fun hdifferent => hcollide ⟨hm, hn, hdifferent, hunits⟩
    next hexact =>
      rw [decide_eq_true_eq]
      refine ⟨fun hunits => ⟨hunits, ?_⟩, And.left⟩
      rintro ⟨hm, hn, -, -⟩
      exact hexact (Bool.and_eq_true_iff.mpr ⟨hm, hn⟩)
  next hints =>
    rw [decide_eq_true_eq]
    refine ⟨fun hunits => ⟨hunits, ?_⟩, And.left⟩
    rintro ⟨-, -, -, -⟩
    exact hints _ _ rfl rfl

/-- Numbers are the same doubles if they are equal or integers that collide. -/
theorem units_eq_iff : a.units = b.units ↔ a.sameValue b = true ∨ Collide a b := by
  rw [sameValue_iff]
  constructor
  · intro hunits
    rcases Classical.em (Collide a b) with h | h
    · exact .inr h
    · exact .inl ⟨hunits, h⟩
  · rintro (⟨hunits, -⟩ | ⟨-, -, -, hunits⟩)
    · exact hunits
    · exact hunits

theorem sameValue_comm : a.sameValue b = b.sameValue a := by
  rw [Bool.eq_iff_iff, sameValue_iff, sameValue_iff]
  exact and_congr eq_comm (not_congr ⟨Collide.symm, Collide.symm⟩)

theorem sameValue_self (a : Number) : a.sameValue a = true :=
  sameValue_iff.mpr ⟨rfl, Collide.irrefl a⟩

theorem order_eq_iff : a.order b = .eq ↔ a.units = b.units := by
  rw [order, Std.LawfulEqCmp.compare_eq_iff_eq]

theorem order_swap : (a.order b).swap = b.order a :=
  Int.compare_swap ..

end Number

end FormFlow

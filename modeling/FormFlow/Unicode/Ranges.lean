/-!
# Character classes as ranges

A class is a list of closed ranges of code points, ascending and apart. Looking a code point up
stops at the first range that lies above it, so ASCII characters are decided by the first few
ranges. The tables of this folder hold properties of Unicode 17.0.
-/

namespace FormFlow.Unicode

/-- Closed ranges of code points, each given by its first and last member. -/
abbrev Ranges := List (Nat × Nat)

namespace Ranges

/-- Every range is nonempty, and each one starts above the end of the one before it. -/
def Ascending : Ranges → Prop
  | [] => True
  | [r] => r.1 ≤ r.2
  | r :: s :: rest => r.1 ≤ r.2 ∧ r.2 < s.1 ∧ Ascending (s :: rest)

instance decidableAscending : (rs : Ranges) → Decidable (Ascending rs)
  | [] => isTrue trivial
  | [r] => inferInstanceAs (Decidable (r.1 ≤ r.2))
  | r :: s :: rest =>
      have := decidableAscending (s :: rest)
      inferInstanceAs (Decidable (r.1 ≤ r.2 ∧ r.2 < s.1 ∧ Ascending (s :: rest)))

/-- Is the code point in one of the ranges? -/
def covers : Ranges → Nat → Bool
  | [], _ => false
  | r :: rest, n => if n < r.1 then false else n ≤ r.2 || covers rest n

theorem Ascending.tail {r : Nat × Nat} {rest : Ranges} (h : Ascending (r :: rest)) :
    Ascending rest := by
  cases rest with
  | nil => trivial
  | cons s rest => exact h.2.2

theorem Ascending.head_le {r : Nat × Nat} {rest : Ranges} (h : Ascending (r :: rest)) :
    ∀ s ∈ r :: rest, r.1 ≤ s.1 := by
  induction rest generalizing r with
  | nil => simp
  | cons s rest ih =>
      intro t ht
      cases ht with
      | head => exact Nat.le_refl _
      | tail _ ht =>
          have := ih h.tail t ht
          have := h.1
          have := h.2.1
          omega

/-- On an ascending table the early stop loses nothing. -/
theorem covers_iff {rs : Ranges} (h : Ascending rs) (n : Nat) :
    covers rs n = true ↔ ∃ r ∈ rs, r.1 ≤ n ∧ n ≤ r.2 := by
  induction rs with
  | nil => simp [covers]
  | cons r rest ih =>
      by_cases hbelow : n < r.1
      · simp only [covers, hbelow, if_true, Bool.false_eq_true, false_iff, not_exists, not_and]
        intro s hs hlo
        have := h.head_le s hs
        omega
      · simp [covers, hbelow, ih h.tail, Nat.le_of_not_lt hbelow]

end Ranges

end FormFlow.Unicode

/-!
# Slugs

A slug is a plain form of a name: its ASCII letters and digits in lower case, with one underscore
where anything else separated two of them.
-/

namespace FormFlow.Text

/-- Characters of a name that are kept in its slug. -/
def isSlugChar (c : Char) : Bool :=
  ('a' ≤ c && c ≤ 'z') || ('A' ≤ c && c ≤ 'Z') || ('0' ≤ c && c ≤ '9')

/-- The slug of what is left of a name. `started` holds once a character has been kept, `gap` when
something has been skipped since the last one kept. -/
def slugFrom (started gap : Bool) : List Char → List Char
  | [] => []
  | c :: rest =>
      if isSlugChar c then
        if started && gap then '_' :: c.toLower :: slugFrom true false rest
        else c.toLower :: slugFrom true false rest
      else slugFrom started true rest

/-- The slug of a name. -/
def slug (name : List Char) : List Char :=
  slugFrom false false name

/-- Kept characters are ASCII: what is true of all of these can be checked one by one. -/
theorem of_isSlugChar {P : Char → Prop}
    (hall : ∀ n : Fin 128, isSlugChar (Char.ofNat n) = true → P (Char.ofNat n)) {c : Char}
    (hkept : isSlugChar c = true) : P c := by
  have hranges : (97 ≤ c.toNat ∧ c.toNat ≤ 122 ∨ 65 ≤ c.toNat ∧ c.toNat ≤ 90) ∨
      48 ≤ c.toNat ∧ c.toNat ≤ 57 := by
    simpa [isSlugChar, Char.le_def, UInt32.le_iff_toNat_le] using hkept
  have hascii : c.toNat < 128 := by omega
  have hhere := hall ⟨c.toNat, hascii⟩
  rw [Char.ofNat_toNat] at hhere
  exact hhere hkept

/-- A slug is made of underscores and kept characters in lower case. -/
theorem mem_slugFrom {started gap : Bool} {name : List Char} {c : Char}
    (hmem : c ∈ slugFrom started gap name) :
    c = '_' ∨ ∃ kept, isSlugChar kept = true ∧ c = kept.toLower := by
  induction name generalizing started gap with
  | nil => cases hmem
  | cons first rest ih =>
      rw [slugFrom] at hmem
      split at hmem
      next hkept =>
        split at hmem
        · rcases List.mem_cons.mp hmem with rfl | hmem
          · exact .inl rfl
          · rcases List.mem_cons.mp hmem with rfl | hlater
            · exact .inr ⟨first, hkept, rfl⟩
            · exact ih hlater
        · rcases List.mem_cons.mp hmem with rfl | hlater
          · exact .inr ⟨first, hkept, rfl⟩
          · exact ih hlater
      next => exact ih hmem

end FormFlow.Text

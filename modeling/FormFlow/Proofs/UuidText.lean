import FormFlow.Identifier.Uuid

/-!
# Identifiers are read as they are written

The text of an identifier is 32 digits in five groups. Hexadecimal digits are read as the number
whose digits they are, cutting them into groups and joining the groups by hyphens loses nothing,
and of the four forms that are read it is the hyphenated one that the text has.
-/

namespace FormFlow

namespace Text

theorem hexDigit?_digitChar {digit : Nat} (hsmall : digit < 16) :
    hexDigit? (Nat.digitChar digit) = some digit := by
  have hall : ∀ digit : Fin 16, hexDigit? (Nat.digitChar digit) = some digit.val := by decide
  exact hall ⟨digit, hsmall⟩

theorem hexFrom?_append (sofar : Nat) (front back : List Char) :
    hexFrom? sofar (front ++ back) =
      (hexFrom? sofar front).bind fun value => hexFrom? value back := by
  induction front generalizing sofar with
  | nil => rfl
  | cons c rest ih =>
      simp only [List.cons_append, hexFrom?]
      cases hexDigit? c with
      | none => rfl
      | some digit => exact ih _

end Text

namespace Uuid

@[simp] theorem length_hexDigits (count n : Nat) : (hexDigits count n).length = count := by
  induction count generalizing n with
  | zero => rfl
  | succ count ih => rw [hexDigits, List.length_append, ih, List.length_singleton]

theorem mem_hexDigits {count n : Nat} {c : Char} (hmem : c ∈ hexDigits count n) :
    ∃ digit < 16, c = Nat.digitChar digit := by
  induction count generalizing n with
  | zero => cases hmem
  | succ count ih =>
      rcases List.mem_append.mp hmem with hearlier | hlast
      · exact ih hearlier
      · exact ⟨n % 16, Nat.mod_lt n (by decide), List.mem_singleton.mp hlast⟩

/-- Digits are read as the number that ends with them. -/
theorem hexFrom?_hexDigits (count n sofar : Nat) :
    Text.hexFrom? sofar (hexDigits count n) =
      some (Nat.pow 16 count * sofar + n % Nat.pow 16 count) := by
  induction count generalizing n with
  | zero => simp [hexDigits, Text.hexFrom?, Nat.mod_one]
  | succ count ih =>
      have hlast : Text.hexDigit? (Nat.digitChar (n % 16)) = some (n % 16) :=
        Text.hexDigit?_digitChar (Nat.mod_lt n (by decide))
      have hpower : Nat.pow 16 (count + 1) = 16 * Nat.pow 16 count := Nat.pow_succ'
      have hvalue : 16 * (Nat.pow 16 count * sofar + n / 16 % Nat.pow 16 count) + n % 16 =
          Nat.pow 16 (count + 1) * sofar + n % Nat.pow 16 (count + 1) :=
        calc
          16 * (Nat.pow 16 count * sofar + n / 16 % Nat.pow 16 count) + n % 16
            = 16 * Nat.pow 16 count * sofar + (n % 16 + 16 * (n / 16 % Nat.pow 16 count)) := by
              rw [Nat.mul_add, Nat.mul_assoc, Nat.add_assoc, Nat.add_comm (n % 16)]
          _ = Nat.pow 16 (count + 1) * sofar + n % Nat.pow 16 (count + 1) := by
              rw [hpower, Nat.mod_mul]
      simp only [hexDigits, Text.hexFrom?_append, ih, Option.bind_some, Text.hexFrom?, hlast,
        Option.bind_eq_bind, hvalue]

theorem ofDigits?_hexDigits (id : Uuid) : ofDigits? (hexDigits 32 id.bits.toNat) = some id := by
  have hsmall : id.bits.toNat < Nat.pow 16 32 := id.bits.isLt
  rw [ofDigits?, if_pos (length_hexDigits ..), hexFrom?_hexDigits, Nat.mod_eq_of_lt hsmall]
  simp

/-! ## Groups of digits -/

variable {sizes : List Nat} {digits group : List Char}

theorem lengths_cut (hfits : digits.length = sizes.foldr (· + ·) 0) :
    (cut sizes digits).map List.length = sizes := by
  induction sizes generalizing digits with
  | nil => rfl
  | cons size sizes ih =>
      rw [List.foldr_cons] at hfits
      have hrest : (digits.drop size).length = sizes.foldr (· + ·) 0 := by
        rw [List.length_drop]
        omega
      rw [cut, List.map_cons, List.length_take, ih hrest, Nat.min_eq_left]
      omega

theorem flatten_cut (hfits : digits.length = sizes.foldr (· + ·) 0) :
    (cut sizes digits).flatten = digits := by
  induction sizes generalizing digits with
  | nil => exact (List.eq_nil_of_length_eq_zero hfits).symm
  | cons size sizes ih =>
      rw [List.foldr_cons] at hfits
      have hrest : (digits.drop size).length = sizes.foldr (· + ·) 0 := by
        rw [List.length_drop]
        omega
      rw [cut, List.flatten_cons, ih hrest, List.take_append_drop]

theorem mem_of_mem_cut {c : Char} (hmem : group ∈ cut sizes digits) (hinside : c ∈ group) :
    c ∈ digits := by
  induction sizes generalizing digits with
  | nil => cases hmem
  | cons size sizes ih =>
      rcases List.mem_cons.mp hmem with rfl | hlater
      · exact List.mem_of_mem_take hinside
      · exact List.mem_of_mem_drop (ih hlater)

/-! ## The hyphenated form -/

variable (id : Uuid)

theorem length_toChars : id.toChars.length = 36 := by
  simp [toChars, groupSizes, cut, List.intercalate_cons_cons]

theorem ofHyphenated?_toChars : ofHyphenated? id.toChars = some id := by
  let digits := hexDigits 32 id.bits.toNat
  have hplain : ∀ group ∈ cut groupSizes digits, '-' ∉ group := by
    intro group hmem hinside
    obtain ⟨digit, hsmall, h⟩ := mem_hexDigits (mem_of_mem_cut hmem hinside)
    have hall : ∀ digit : Fin 16, '-' ≠ Nat.digitChar digit := by decide
    exact hall ⟨digit, hsmall⟩ h
  have hgroups : (Text.pieces '-' id.toChars).1 :: (Text.pieces '-' id.toChars).2 =
      cut groupSizes digits := by
    rw [Text.pieces_eq_splitOn, toChars, List.splitOn_intercalate '-' hplain]
    exact List.cons_ne_nil _ _
  have hfits : digits.length = groupSizes.foldr (· + ·) 0 := length_hexDigits 32 _
  have hsizes : (cut groupSizes digits).map List.length = groupSizes := lengths_cut hfits
  have hjoined :
      (Text.pieces '-' id.toChars).1 ++ (Text.pieces '-' id.toChars).2.flatten = digits :=
    (congrArg List.flatten hgroups).trans (flatten_cut hfits)
  simp only [ofHyphenated?, hgroups, hsizes, if_true, hjoined]
  exact id.ofDigits?_hexDigits

/-- A hyphen stands where the form as a name has its second colon. -/
theorem take_toChars_ne : (id.toChars.take urnLead.length).map Char.toLower ≠ urnLead := by
  intro h
  have hninth := congrArg (fun lead => lead[8]?) h
  simp [toChars, groupSizes, cut, List.intercalate_cons_cons, urnLead] at hninth

/-- The text of an identifier is read as the identifier. -/
theorem ofText?_text : ofText? id.text.toList = some id := by
  rw [text, String.toList_ofList, ofText?, length_toChars, if_neg (by decide), if_neg (by simp),
    if_neg id.take_toChars_ne]
  exact id.ofHyphenated?_toChars

end Uuid

end FormFlow

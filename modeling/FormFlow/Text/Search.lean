/-!
# Parts of texts

Occurrence of one text in another, and the pieces of a text between separators.
-/

namespace FormFlow.Text

/-- Does `part` occur in `text`? The empty text occurs everywhere. -/
def occursIn (part : List Char) : List Char → Bool
  | [] => part.isEmpty
  | c :: rest => part.isPrefixOf (c :: rest) || occursIn part rest

theorem occursIn_iff {part text : List Char} : occursIn part text = true ↔ part <:+: text := by
  induction text with
  | nil => cases part <;> simp [occursIn]
  | cons c rest ih =>
      rw [occursIn, Bool.or_eq_true, ih, List.isPrefixOf_iff_prefix, List.infix_cons_iff]

/-- The first piece of a text and the pieces after it, cut at every `separator`. -/
def pieces (separator : Char) : List Char → List Char × List (List Char)
  | [] => ([], [])
  | c :: rest =>
      let (first, others) := pieces separator rest
      if c = separator then ([], first :: others) else (c :: first, others)

theorem pieces_eq_splitOn (separator : Char) (text : List Char) :
    (pieces separator text).1 :: (pieces separator text).2 = text.splitOn separator := by
  induction text with
  | nil => rfl
  | cons c rest ih =>
      rw [List.splitOn_cons_eq_if_modifyHead, ← ih]
      by_cases hsame : c = separator <;> simp [pieces, hsame]

theorem pieces_of_not_mem {separator : Char} {text : List Char} (h : separator ∉ text) :
    pieces separator text = (text, []) := by
  induction text with
  | nil => rfl
  | cons c rest ih =>
      rw [List.mem_cons, not_or] at h
      simp only [pieces, ih h.2, if_neg (Ne.symm h.1)]

/-- No piece holds a separator. -/
theorem not_mem_pieces {separator : Char} {text piece : List Char}
    (hmem : piece ∈ (pieces separator text).1 :: (pieces separator text).2) :
    separator ∉ piece := by
  induction text generalizing piece with
  | nil => simp_all [pieces]
  | cons c rest ih =>
      by_cases hsame : c = separator
      · simp only [pieces, hsame, if_true] at hmem
        rcases List.mem_cons.mp hmem with rfl | hlater
        · simp
        · exact ih hlater
      · simp only [pieces, hsame, if_false] at hmem
        rcases List.mem_cons.mp hmem with rfl | hlater
        · intro hinside
          rcases List.mem_cons.mp hinside with rfl | hinFirst
          · exact hsame rfl
          · exact ih (List.mem_cons_self ..) hinFirst
        · exact ih (List.mem_cons_of_mem _ hlater)

end FormFlow.Text

import FormFlow.Unicode.WhiteSpace

/-!
# Blank text

Text is worked on as a list of characters. A text is blank when it holds nothing but white space;
trimming takes the white space off both ends.
-/

namespace FormFlow.Text

open Unicode (isWhiteSpace)

/-- Nothing but white space. -/
def isBlank (text : List Char) : Bool :=
  text.all isWhiteSpace

def trimStart (text : List Char) : List Char :=
  text.dropWhile isWhiteSpace

def trimEnd (text : List Char) : List Char :=
  (trimStart text.reverse).reverse

def trim (text : List Char) : List Char :=
  trimEnd (trimStart text)

theorem trimStart_eq_self {text : List Char}
    (hplain : ∀ c, text.head? = some c → isWhiteSpace c = false) : trimStart text = text := by
  cases text with
  | nil => rfl
  | cons c rest => exact List.dropWhile_cons_of_neg (by simp [hplain c rfl])

theorem head?_trimStart {text : List Char} {c : Char} (h : (trimStart text).head? = some c) :
    isWhiteSpace c = false := by
  induction text with
  | nil => cases h
  | cons first rest ih =>
      by_cases hwhite : isWhiteSpace first
      · rw [trimStart, List.dropWhile_cons_of_pos hwhite] at h
        exact ih h
      · rw [trimStart, List.dropWhile_cons_of_neg hwhite] at h
        cases h
        simpa using hwhite

theorem trimStart_trimStart (text : List Char) : trimStart (trimStart text) = trimStart text :=
  trimStart_eq_self fun _ => head?_trimStart

/-- Taking white space off the end leaves the beginning. -/
theorem head?_trimEnd {text : List Char} {c : Char} (h : (trimEnd text).head? = some c) :
    text.head? = some c := by
  have hends : trimStart text.reverse <:+ text.reverse := List.dropWhile_suffix isWhiteSpace
  have hbegins : trimEnd text <+: text.reverse.reverse := List.reverse_prefix.mpr hends
  rw [List.reverse_reverse] at hbegins
  obtain ⟨rest, hwhole⟩ := hbegins
  rw [← hwhole, List.head?_append, h]
  rfl

/-- There is nothing to take off a text that has been trimmed. -/
theorem trim_trim (text : List Char) : trim (trim text) = trim text := by
  have hfront : trimStart (trim text) = trim text :=
    trimStart_eq_self fun _ h => head?_trimStart (head?_trimEnd h)
  rw [trim, hfront, trim, trimEnd, trimEnd, List.reverse_reverse, trimStart_trimStart]

theorem trim_eq_self {text : List Char} (hplain : ∀ c ∈ text, isWhiteSpace c = false) :
    trim text = text := by
  have hfront : trimStart text = text :=
    trimStart_eq_self fun c h => hplain c (List.mem_of_mem_head? h)
  have hback : trimStart text.reverse = text.reverse := by
    apply trimStart_eq_self
    exact fun c h => hplain c (List.mem_reverse.mp (List.mem_of_mem_head? h))
  rw [trim, hfront, trimEnd, hback, List.reverse_reverse]

end FormFlow.Text

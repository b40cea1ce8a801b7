import FormFlow.Proofs.Tokens

/-!
# Lexemes

How a text literal is written between its quotes, what the other lexemes are made of, and that a
lexeme ends before white space, so that white space after a source changes nothing.
-/

namespace FormFlow

open Unicode (isWhiteSpace isAlphabetic isNumeric)

/-! ## White space -/

/-- What holds of every code point in the ranges holds of what they cover. -/
theorem Unicode.Ranges.of_covers {rs : Ranges} {p : Nat → Bool} (ascending : Ascending rs)
    (h : (rs.all fun r => (List.range' r.1 (r.2 + 1 - r.1)).all p) = true) {n : Nat}
    (hcovered : rs.covers n = true) : p n = true := by
  obtain ⟨r, hr, hlow, hhigh⟩ := (covers_iff ascending n).mp hcovered
  apply List.all_eq_true.mp (List.all_eq_true.mp h r hr)
  rw [List.mem_range'_1]
  omega

namespace Lexeme

theorem isWordChar_of_isWhiteSpace {c : Char} (h : isWhiteSpace c = true) :
    isWordChar c = false := by
  have hletter : (!isAlphabetic c) = true :=
    Unicode.Ranges.of_covers (p := fun n => !Unicode.alphabeticRanges.covers n) (by decide)
      (by decide +kernel) h
  have hnumber : (!isNumeric c) = true :=
    Unicode.Ranges.of_covers (p := fun n => !Unicode.numericRanges.covers n) (by decide)
      (by decide +kernel) h
  have hunderscore : c ≠ '_' := by
    rintro rfl
    exact absurd h (by decide)
  have hpoint : c ≠ '.' := by
    rintro rfl
    exact absurd h (by decide)
  simp_all [isWordChar]

theorem isNumberChar_of_isWhiteSpace {c : Char} (h : isWhiteSpace c = true) :
    isNumberChar c = false := by
  have hpoint : c ≠ '.' := by
    rintro rfl
    exact absurd h (by decide)
  have hdigit : Text.isDigit c = false := by
    rw [Bool.eq_false_iff]
    intro hdigit
    exact absurd (Text.isWhiteSpace_of_isDigit hdigit) (by rw [h]; decide)
  simp [isNumberChar, hdigit, hpoint]

/-! ## Text literals -/

/-- How a text is written between quotes: a backslash goes with the character after it, whose
meaning it takes away if that is a quote or a backslash; no other character is the quote. -/
inductive TextBody (quote : Char) : List Char → List Char → Prop
  | done : TextBody quote [] []
  | escaped {c : Char} {raw content : List Char} (hspecial : c = '\'' ∨ c = '"' ∨ c = '\\')
      (rest : TextBody quote raw content) : TextBody quote ('\\' :: c :: raw) (c :: content)
  | kept {c : Char} {raw content : List Char} (hordinary : ¬ (c = '\'' ∨ c = '"' ∨ c = '\\'))
      (rest : TextBody quote raw content) :
      TextBody quote ('\\' :: c :: raw) ('\\' :: c :: content)
  | plain {c : Char} {raw content : List Char} (hother : c ≠ quote) (hunescaped : c ≠ '\\')
      (rest : TextBody quote raw content) : TextBody quote (c :: raw) (c :: content)

variable {quote : Char} {text content : List Char} {used : Nat}

/-- A text literal is what is written up to the first quote with its full meaning. -/
theorem textContent?_eq_some_iff (hquote : quote ≠ '\\') :
    textContent? quote text = some (content, used) ↔
      ∃ raw after, text = raw ++ quote :: after ∧ TextBody quote raw content ∧
        used = raw.length + 1 := by
  constructor
  · intro h
    fun_induction textContent? quote text generalizing content used with
    | case1 => cases h
    | case2 => cases h
    | case3 c rest ih =>
        obtain ⟨⟨inner, count⟩, hinner, h⟩ := Option.bind_eq_some_iff.mp h
        obtain ⟨raw, after, rfl, body, rfl⟩ := ih hinner
        by_cases hspecial : c = '\'' ∨ c = '"' ∨ c = '\\'
        · simp only [hspecial, if_true] at h
          cases h
          exact ⟨'\\' :: c :: raw, after, rfl, .escaped hspecial body, rfl⟩
        · simp only [hspecial, if_false] at h
          cases h
          exact ⟨'\\' :: c :: raw, after, rfl, .kept hspecial body, rfl⟩
    | case4 rest =>
        cases h
        exact ⟨[], rest, rfl, .done, rfl⟩
    | case5 c rest hlast hmore hopen ih =>
        obtain ⟨⟨inner, count⟩, hinner, h⟩ := Option.bind_eq_some_iff.mp h
        obtain ⟨raw, after, rfl, body, rfl⟩ := ih hinner
        cases h
        have hunescaped : c ≠ '\\' := by
          rintro rfl
          cases raw with
          | nil => exact hmore _ _ rfl rfl
          | cons d raw => exact hmore _ _ rfl rfl
        exact ⟨c :: raw, after, rfl, .plain hopen hunescaped body, rfl⟩
  · rintro ⟨raw, after, rfl, body, rfl⟩
    induction body with
    | done =>
        rw [List.nil_append, textContent?]
        · rw [if_pos rfl]; rfl
        · exact fun h _ => hquote h
        · exact fun _ _ h _ => hquote h
    | escaped hspecial _ ih =>
        rw [List.cons_append, List.cons_append, textContent?, ih]
        simp only [hspecial]
        rfl
    | kept hordinary _ ih =>
        rw [List.cons_append, List.cons_append, textContent?, ih]
        simp only [hordinary]
        rfl
    | plain hopen hunescaped _ ih =>
        rw [List.cons_append, textContent?, if_neg hopen, ih]
        · rfl
        · exact fun h _ => hunescaped h
        · exact fun _ _ h _ => hunescaped h

/-- What follows a text does not belong to it, and cannot end it without its quote. -/
theorem textContent?_append (hquote : quote ≠ '\\') {after : List Char} (h : quote ∉ after) :
    textContent? quote (text ++ after) = textContent? quote text := by
  apply Option.ext
  rintro ⟨content, used⟩
  rw [textContent?_eq_some_iff hquote, textContent?_eq_some_iff hquote]
  constructor
  · rintro ⟨raw, more, hsplit, body, rfl⟩
    rcases List.append_eq_append_iff.mp hsplit with ⟨left, -, hafter⟩ | ⟨left, htext, hmore⟩
    · exact absurd (hafter ▸ List.mem_append_right left List.mem_cons_self) h
    · cases left with
      | nil =>
          obtain rfl : quote :: more = after := hmore
          exact absurd List.mem_cons_self h
      | cons c left =>
          obtain ⟨rfl, -⟩ := List.cons.inj hmore
          exact ⟨raw, left, htext, body, rfl⟩
  · rintro ⟨raw, more, rfl, body, rfl⟩
    exact ⟨raw, more ++ after, by simp, body, rfl⟩

/-! ## What a lexeme takes up -/

/-- Neither a quote nor a character that may begin a comment. -/
def isPlain (c : Char) : Bool :=
  !(c == '\'' || c == '"' || c == '#' || c == '/')

/-- How a lexeme is written: as a text between quotes, or in plain characters. -/
inductive Written : List Char → Prop
  | quoted {quote : Char} {raw content : List Char} (hquote : quote = '\'' ∨ quote = '"')
      (body : TextBody quote raw content) : Written (quote :: (raw ++ [quote]))
  | bare {word : List Char} (hplain : ∀ c ∈ word, isPlain c = true) : Written word

variable {c : Char} {rest : List Char} {lexeme : Lexeme}

theorem isPlain_of_isWordChar (h : isWordChar c = true) : isPlain c = true := by
  by_contra hplain
  simp only [isPlain, Bool.not_eq_true, Bool.not_eq_false', Bool.or_eq_true, beq_iff_eq] at hplain
  rcases hplain with ((rfl | rfl) | rfl) | rfl
  all_goals exact absurd h (by decide +kernel)

theorem isPlain_of_isNumberChar (h : isNumberChar c = true) : isPlain c = true := by
  by_contra hplain
  simp only [isPlain, Bool.not_eq_true, Bool.not_eq_false', Bool.or_eq_true, beq_iff_eq] at hplain
  rcases hplain with ((rfl | rfl) | rfl) | rfl
  all_goals exact absurd h (by decide +kernel)

theorem isWordChar_of_isWordStart (h : isWordStart c = true) : isWordChar c = true := by
  rw [isWordStart, Bool.or_eq_true] at h
  rcases h with h | h
  · simp [isWordChar, h]
  · simp [isWordChar, h]

theorem isNumberChar_of_startsNumber (h : startsNumber c rest = true) : isNumberChar c = true := by
  rw [startsNumber, Bool.or_eq_true, Bool.and_eq_true] at h
  rcases h with h | ⟨h, -⟩
  · simp [isNumberChar, h]
  · simp [isNumberChar, h]

theorem Written.of_all {word : List Char} (h : word.all isPlain = true) : Written word :=
  .bare (List.all_eq_true.mp h)

/-- An operator or bracket takes up one plain character or two. -/
theorem operator?_takes (h : operator? c rest = some lexeme) :
    ∃ more after, rest = more ++ after ∧ lexeme.extra = more.length ∧ Written (c :: more) := by
  unfold operator? at h
  split at h
  case h_1 => cases h; exact ⟨['='], _, rfl, rfl, .of_all rfl⟩
  case h_2 => cases h; exact ⟨['='], _, rfl, rfl, .of_all rfl⟩
  case h_3 => cases h; exact ⟨['='], _, rfl, rfl, .of_all rfl⟩
  case h_4 => cases h; exact ⟨['='], _, rfl, rfl, .of_all rfl⟩
  case h_13 => cases h
  all_goals
    cases h
    exact ⟨[], rest, rfl, rfl, .of_all rfl⟩

/-- A run of characters is taken up whole. -/
theorem run_takes {p : Char → Bool} (hp : ∀ c, p c = true → isPlain c = true) (hc : p c = true) :
    ∃ more after, rest = more ++ after ∧ (rest.takeWhile p).length = more.length ∧
      Written (c :: more) := by
  refine ⟨rest.takeWhile p, rest.dropWhile p, (List.takeWhile_append_dropWhile).symm, rfl, ?_⟩
  apply Written.bare
  intro d hd
  rcases List.mem_cons.mp hd with rfl | hd
  · exact hp d hc
  · exact hp d (List.mem_takeWhile_imp hd)

/-- A lexeme takes up the characters that it is written in, and no others. -/
theorem read_takes (h : read c rest = .ok lexeme) :
    ∃ more after, rest = more ++ after ∧ lexeme.extra = more.length ∧ Written (c :: more) := by
  unfold read at h
  split at h
  next found hoperator =>
    cases h
    exact operator?_takes hoperator
  next =>
    split at h
    next hquote =>
      split at h
      next content used htext =>
        cases h
        have hescape : c ≠ '\\' := by rcases hquote with rfl | rfl <;> decide
        obtain ⟨raw, after, rfl, body, rfl⟩ := (textContent?_eq_some_iff hescape).mp htext
        exact ⟨raw ++ [c], after, by simp, by simp, .quoted hquote body⟩
      next => cases h
    next =>
      split at h
      next hnumber =>
        simp only at h
        split at h
        next value hvalue =>
          cases h
          exact run_takes (fun _ => isPlain_of_isNumberChar) (isNumberChar_of_startsNumber hnumber)
        next => cases h
      next =>
        split at h
        next hword =>
          cases h
          exact run_takes (fun _ => isPlain_of_isWordChar) (isWordChar_of_isWordStart hword)
        next => cases h

/-! ## White space after a lexeme -/

section White

variable {after : List Char}

theorem takeWhile_append_white {p : Char → Bool} (hp : ∀ c, isWhiteSpace c = true → p c = false)
    (h : ∀ d ∈ after.head?, isWhiteSpace d = true) :
    (rest ++ after).takeWhile p = rest.takeWhile p := by
  induction rest with
  | nil =>
      cases after with
      | nil => rfl
      | cons d after => exact List.takeWhile_cons_of_neg (by simp [hp d (h d rfl)])
  | cons d rest ih => rw [List.cons_append, List.takeWhile_cons, List.takeWhile_cons, ih]

theorem operator?_append_white (h : ∀ d ∈ after.head?, isWhiteSpace d = true) :
    operator? c (rest ++ after) = operator? c rest := by
  cases rest with
  | cons d rest =>
      rw [List.cons_append]
      unfold operator?
      split <;> simp_all
  | nil =>
      cases after with
      | nil => rfl
      | cons d after =>
          have hd : d ≠ '=' := by
            rintro rfl
            exact absurd (h '=' rfl) (by decide)
          rw [List.nil_append]
          unfold operator?
          split <;> simp_all

theorem startsNumber_append_white (h : ∀ d ∈ after.head?, isWhiteSpace d = true) :
    startsNumber c (rest ++ after) = startsNumber c rest := by
  cases rest with
  | cons d rest => rfl
  | nil =>
      cases after with
      | nil => rfl
      | cons d after =>
          have hd : Text.isDigit d = false := by
            rw [Bool.eq_false_iff]
            intro hdigit
            exact absurd (Text.isWhiteSpace_of_isDigit hdigit) (by simp [h d rfl])
          simp [startsNumber, hd]

end White

/-- A lexeme, or the fault in its place, is not changed by white space after the source. -/
theorem read_append_blank {blank : List Char} (h : Text.isBlank blank = true) :
    read c (rest ++ blank) = read c rest := by
  have hwhite : ∀ d ∈ blank.head?, isWhiteSpace d = true :=
    fun d hd => List.all_eq_true.mp h d (List.mem_of_mem_head? hd)
  unfold read
  rw [operator?_append_white hwhite, startsNumber_append_white hwhite,
    takeWhile_append_white (fun _ => isNumberChar_of_isWhiteSpace) hwhite,
    takeWhile_append_white (fun _ => isWordChar_of_isWhiteSpace) hwhite]
  cases operator? c rest with
  | some lexeme => rfl
  | none =>
      by_cases hquote : c = '\'' ∨ c = '"'
      · have hescape : c ≠ '\\' := by rcases hquote with rfl | rfl <;> decide
        have hblank : c ∉ blank := by
          intro hmem
          have hspace := List.all_eq_true.mp h c hmem
          rcases hquote with rfl | rfl <;> exact absurd hspace (by decide)
        simp only [hquote, if_true, textContent?_append hescape hblank]
      · simp only [hquote, if_false]

end Lexeme

end FormFlow

import FormFlow.Proofs.Spacing

/-!
# Lexemes next to each other

Whether a lexeme is read does not depend on the whole source after it, but on one character: the
first one that follows must not go on with the lexeme. So a lexeme that is read somewhere is read
alone, and wherever nothing goes on with it. White space and quotes go on with no lexeme, so a
source whose tokens can be read keeps them when a blank or a quote comes next.
-/

namespace FormFlow

open Unicode (isWhiteSpace isAlphabetic isNumeric)

/-- Does a token of this kind go on with a character that follows it without a blank? -/
def TokenKind.goesOn : TokenKind → Char → Bool
  | .assign, c | .comparison .lt, c | .comparison .gt, c => c == '='
  | .number _, c => Lexeme.isNumberChar c
  | .word _, c | .bool _, c | .and, c | .or, c | .comparison .within, c => Lexeme.isWordChar c
  | .comparison .eq, _ | .comparison .ne, _ | .comparison .le, _ | .comparison .ge, _ => false
  | .openParen, _ | .closeParen, _ | .openBracket, _ | .closeBracket, _ | .comma, _ => false
  | .text _, _ => false

/-- A token of this kind does not go on with what follows it. -/
def TokenKind.Stops (kind : TokenKind) (after : List Char) : Prop :=
  ∀ c ∈ after.head?, kind.goesOn c = false

/-- No token goes on with what follows it. -/
def Breaks (after : List Char) : Prop :=
  ∀ kind : TokenKind, kind.Stops after

namespace Lexeme

/-- How a token of a kind is spelled: by its first character and those that follow it. -/
inductive Spells : TokenKind → Char → List Char → Prop
  | symbol {kind : TokenKind} {first : Char} {more : List Char}
      (hknown : operator? first more = some ⟨kind, more.length⟩) : Spells kind first more
  | text {quote : Char} {raw content : List Char} (hquote : quote = '\'' ∨ quote = '"')
      (body : TextBody quote raw content) :
      Spells (.text (String.ofList content)) quote (raw ++ [quote])
  | number {first : Char} {more : List Char} {value : Number}
      (hstarts : startsNumber first more = true) (hrun : ∀ c ∈ more, isNumberChar c = true)
      (hvalued : number? (first :: more) = some value) :
      Spells (.number value) first more
  | word {first : Char} {more : List Char} (hstarts : isWordStart first = true)
      (hrun : ∀ c ∈ more, isWordChar c = true) : Spells (wordKind (first :: more)) first more

variable {c : Char} {more after : List Char} {kind : TokenKind}

/-! ## Symbols -/

def isSymbolStart (c : Char) : Bool :=
  c ∈ ['=', '!', '<', '>', '(', ')', '[', ']', ',']

theorem operator?_of_not_symbolStart (h : isSymbolStart c = false) (rest : List Char) :
    operator? c rest = none := by
  unfold operator?
  split
  case h_13 => rfl
  all_goals cases h

/-- At most one character after the first tells which symbol it is. -/
theorem operator?_cons (c d : Char) (rest : List Char) :
    operator? c (d :: rest) = operator? c [d] := by
  unfold operator?
  split <;> simp_all

/-- A symbol of one character is read before another character that does not make it longer. -/
theorem operator?_singleton_iff {d : Char} :
    operator? c [d] = some ⟨kind, 0⟩ ↔ operator? c [] = some ⟨kind, 0⟩ ∧ kind.goesOn d = false := by
  constructor
  · intro h
    unfold operator? at h
    split at h <;> cases h
    all_goals exact ⟨rfl, by simp_all [TokenKind.goesOn]⟩
  · rintro ⟨h, hd⟩
    unfold operator? at h
    split at h <;> cases h
    all_goals
      unfold operator?
      split <;> simp_all [TokenKind.goesOn]

theorem extra_le_of_operator? {rest : List Char} {lexeme : Lexeme}
    (h : operator? c rest = some lexeme) : lexeme.extra ≤ 1 := by
  unfold operator? at h
  split at h <;> cases h <;> decide

/-- A symbol of two characters is complete. -/
theorem goesOn_of_operator? {rest : List Char} {d : Char} (h : operator? c rest = some ⟨kind, 1⟩) :
    kind.goesOn d = false := by
  unfold operator? at h
  split at h <;> cases h <;> rfl

/-- A symbol is read if nothing goes on with it. -/
theorem operator?_append_iff :
    operator? c (more ++ after) = some ⟨kind, more.length⟩ ↔
      operator? c more = some ⟨kind, more.length⟩ ∧ kind.Stops after := by
  cases more with
  | nil =>
      cases after with
      | nil => simp [TokenKind.Stops]
      | cons d after =>
          rw [List.nil_append, operator?_cons, List.length_nil, operator?_singleton_iff]
          simp [TokenKind.Stops]
  | cons d more =>
      rw [List.cons_append, operator?_cons, operator?_cons c d more]
      constructor
      · intro h
        have hshort : (d :: more).length ≤ 1 := extra_le_of_operator? h
        obtain rfl : more = [] := by simpa using hshort
        exact ⟨h, fun _ _ => goesOn_of_operator? h⟩
      · exact And.left

/-! ## Words and numbers -/

theorem goesOn_wordKind (word : List Char) (d : Char) :
    (wordKind word).goesOn d = isWordChar d := by
  unfold wordKind
  split <;> rfl

/-- A run of characters ends before the first one that does not belong to it. -/
theorem takeWhile_append_eq_iff {p : Char → Bool} :
    (more ++ after).takeWhile p = more ↔
      (∀ d ∈ more, p d = true) ∧ ∀ d ∈ after.head?, p d = false := by
  constructor
  · intro h
    have hrun : ∀ d ∈ more, p d = true := by
      intro d hd
      rw [← h] at hd
      exact List.mem_takeWhile_imp hd
    rw [List.takeWhile_append_of_pos hrun, List.append_right_eq_self] at h
    refine ⟨hrun, fun d hd => ?_⟩
    obtain ⟨rest, rfl⟩ := List.head?_eq_some_iff.mp hd
    by_contra hp
    rw [List.takeWhile_cons_of_pos (by simpa using hp)] at h
    cases h
  · rintro ⟨hrun, hstops⟩
    rw [List.takeWhile_append_of_pos hrun, List.append_right_eq_self]
    cases after with
    | nil => rfl
    | cons d after => exact List.takeWhile_cons_of_neg (by simp [hstops d rfl])

theorem takeWhile_eq_of_length {p : Char → Bool}
    (h : ((more ++ after).takeWhile p).length = more.length) :
    (more ++ after).takeWhile p = more := by
  have hbegins : (more ++ after).takeWhile p <+: more :=
    List.prefix_of_prefix_length_le (List.takeWhile_prefix p) (List.prefix_append more after)
      (Nat.le_of_eq h)
  exact hbegins.eq_of_length h

theorem isDigit_of_isWordStart (h : isWordStart c = true) : Text.isDigit c = false := by
  have hnodigit : (List.range' 48 10).all (fun n => !Unicode.alphabeticRanges.covers n) = true := by
    decide +kernel
  rw [Bool.eq_false_iff]
  intro hdigit
  have hrange : 48 ≤ c.toNat ∧ c.toNat ≤ 57 := by
    rwa [Text.isDigit, Bool.and_eq_true, decide_eq_true_eq, decide_eq_true_eq] at hdigit
  have hletterless : isAlphabetic c = false := by
    have hmem := List.all_eq_true.mp hnodigit c.toNat (by rw [List.mem_range'_1]; omega)
    simpa [isAlphabetic] using hmem
  have hunderscore : c ≠ '_' := by
    rintro rfl
    exact absurd hdigit (by decide)
  simp [isWordStart, hletterless, hunderscore] at h

theorem startsNumber_of_isWordStart (h : isWordStart c = true) (rest : List Char) :
    startsNumber c rest = false := by
  have hpoint : c ≠ '.' := by
    rintro rfl
    exact absurd h (by decide +kernel)
  simp [startsNumber, isDigit_of_isWordStart h, hpoint]

/-- Whether a number begins can be told from the characters that belong to it. -/
theorem startsNumber_append_iff (hrun : (more ++ after).takeWhile isNumberChar = more) :
    startsNumber c (more ++ after) = startsNumber c more := by
  cases more with
  | cons d more => rfl
  | nil =>
      cases after with
      | nil => rfl
      | cons d after =>
          have hstops := (takeWhile_append_eq_iff.mp hrun).2 d rfl
          rw [isNumberChar, Bool.or_eq_false_iff] at hstops
          simp [startsNumber, hstops.1]

theorem isSymbolStart_of {p : Char → Bool} (hp : p c = true)
    (hnone : (['=', '!', '<', '>', '(', ')', '[', ']', ',', '\'', '"'].all fun d => !p d) = true) :
    isSymbolStart c = false ∧ ¬ (c = '\'' ∨ c = '"') := by
  have hother : ∀ d ∈ ['=', '!', '<', '>', '(', ')', '[', ']', ',', '\'', '"'], c ≠ d := by
    rintro d hd rfl
    have := List.all_eq_true.mp hnone c hd
    simp [hp] at this
  simp_all [isSymbolStart]

/-! ## Lexemes in a source -/

/-- A lexeme is read if it is spelled as one and what comes next does not go on with it, and only
then. -/
theorem read_append_eq_ok_iff :
    read c (more ++ after) = .ok ⟨kind, more.length⟩ ↔ Spells kind c more ∧ kind.Stops after := by
  constructor
  · intro h
    unfold read at h
    split at h
    next found hsymbol =>
      cases h
      obtain ⟨hknown, hstops⟩ := operator?_append_iff.mp hsymbol
      exact ⟨.symbol hknown, hstops⟩
    next =>
      split at h
      next hquote =>
        split at h
        next content used hfound =>
          obtain ⟨rfl, rfl⟩ : .text (String.ofList content) = kind ∧ used = more.length := by
            simpa using h
          have hescape : c ≠ '\\' := by rcases hquote with rfl | rfl <;> decide
          obtain ⟨raw, rest, hwhole, body, hused⟩ := (textContent?_eq_some_iff hescape).mp hfound
          have hsplit : more ++ after = (raw ++ [c]) ++ rest := by simpa using hwhole
          obtain ⟨rfl, -⟩ := List.append_inj hsplit (by simpa using hused)
          exact ⟨.text hquote body, fun _ _ => rfl⟩
        next => cases h
      next =>
        split at h
        next hstarts =>
          simp only at h
          split at h
          next value hvalued =>
            obtain ⟨rfl, hlength⟩ : .number value = kind ∧
                ((more ++ after).takeWhile isNumberChar).length = more.length := by
              simpa using h
            have hrun := takeWhile_eq_of_length hlength
            obtain ⟨hall, hstops⟩ := takeWhile_append_eq_iff.mp hrun
            rw [startsNumber_append_iff hrun] at hstarts
            rw [hrun] at hvalued
            exact ⟨.number hstarts hall hvalued, hstops⟩
          next => cases h
        next =>
          split at h
          next hstarts =>
            obtain ⟨rfl, hlength⟩ : wordKind (c :: (more ++ after).takeWhile isWordChar) = kind ∧
                ((more ++ after).takeWhile isWordChar).length = more.length := by
              simpa using h
            have hrun := takeWhile_eq_of_length hlength
            obtain ⟨hall, hstops⟩ := takeWhile_append_eq_iff.mp hrun
            rw [hrun]
            refine ⟨.word hstarts hall, fun d hd => ?_⟩
            rw [goesOn_wordKind]
            exact hstops d hd
          next => cases h
  · rintro ⟨spells, hstops⟩
    cases spells with
    | symbol hknown => rw [read, operator?_append_iff.mpr ⟨hknown, hstops⟩]
    | @text _ raw content hquote body =>
        have hescape : c ≠ '\\' := by rcases hquote with rfl | rfl <;> decide
        have hsymbolless : isSymbolStart c = false := by rcases hquote with rfl | rfl <;> rfl
        have hfound : textContent? c (raw ++ [c] ++ after) = some (content, (raw ++ [c]).length) :=
          (textContent?_eq_some_iff hescape).mpr ⟨raw, after, by simp, body, by simp⟩
        rw [read, operator?_of_not_symbolStart hsymbolless]
        simp only [hquote, if_true, hfound]
    | number hstarts hall hvalued =>
        have hrun := takeWhile_append_eq_iff.mpr ⟨hall, hstops⟩
        obtain ⟨hsymbolless, hquoteless⟩ :=
          isSymbolStart_of (isNumberChar_of_startsNumber hstarts) (by decide)
        rw [← startsNumber_append_iff hrun] at hstarts
        rw [read, operator?_of_not_symbolStart hsymbolless]
        simp only [hquoteless, if_false, hstarts, if_true, hrun, hvalued]
    | word hstarts hall =>
        have hrun : (more ++ after).takeWhile isWordChar = more := by
          refine takeWhile_append_eq_iff.mpr ⟨hall, fun d hd => ?_⟩
          rw [← goesOn_wordKind (c :: more)]
          exact hstops d hd
        obtain ⟨hsymbolless, hquoteless⟩ := isSymbolStart_of hstarts (by decide +kernel)
        rw [read, operator?_of_not_symbolStart hsymbolless]
        simp only [hquoteless, if_false, startsNumber_of_isWordStart hstarts, Bool.false_eq_true,
          hstarts, if_true, hrun]

/-! ## The ends of a lexeme -/

theorem isWhiteSpace_of_isSymbolStart (h : isSymbolStart c = true) : isWhiteSpace c = false := by
  have hplain : ['=', '!', '<', '>', '(', ')', '[', ']', ','].all
      (fun d => !isWhiteSpace d) = true := by
    decide +kernel
  simpa using List.all_eq_true.mp hplain c (by simpa [isSymbolStart] using h)

theorem isSymbolStart_of_operator? {rest : List Char} {lexeme : Lexeme}
    (h : operator? c rest = some lexeme) : isSymbolStart c = true := by
  by_contra hother
  rw [operator?_of_not_symbolStart (by simpa using hother)] at h
  cases h

/-- The second character of a symbol is an equals sign. -/
theorem second_of_operator? {d : Char} (h : operator? c [d] = some ⟨kind, 1⟩) : d = '=' := by
  unfold operator? at h
  split at h <;> cases h <;> simp_all

/-- A run of characters that are no white space neither begins nor ends with it. -/
theorem plain_ends_of_run {p : Char → Bool} (hblank : ∀ d, isWhiteSpace d = true → p d = false)
    (hfirst : p c = true) (hrun : ∀ d ∈ more, p d = true) :
    isWhiteSpace c = false ∧ ∀ d ∈ (c :: more).getLast?, isWhiteSpace d = false := by
  have hplain : ∀ d ∈ c :: more, isWhiteSpace d = false := by
    intro d hd
    rw [Bool.eq_false_iff]
    intro hwhite
    have hp : p d = true := (List.mem_cons.mp hd).elim (fun h => h ▸ hfirst) (hrun d)
    rw [hblank d hwhite] at hp
    cases hp
  exact ⟨hplain c List.mem_cons_self, fun d hd => hplain d (List.mem_of_getLast? hd)⟩

/-- A lexeme neither begins nor ends with white space. -/
theorem Spells.plain_ends (spells : Spells kind c more) :
    isWhiteSpace c = false ∧ ∀ d ∈ (c :: more).getLast?, isWhiteSpace d = false := by
  cases spells with
  | symbol hknown =>
      have hfirst := isWhiteSpace_of_isSymbolStart (isSymbolStart_of_operator? hknown)
      refine ⟨hfirst, ?_⟩
      match more, hknown, extra_le_of_operator? hknown with
      | [], _, _ => simpa using hfirst
      | [d], hknown, _ =>
          obtain rfl := second_of_operator? hknown
          intro d hd
          obtain rfl : '=' = d := by simpa using hd
          decide
  | text hquote =>
      have hquote : isWhiteSpace c = false := by rcases hquote with rfl | rfl <;> decide
      refine ⟨hquote, fun d hd => ?_⟩
      rw [← List.cons_append, List.getLast?_concat] at hd
      obtain rfl : c = d := by simpa using hd
      exact hquote
  | number hstarts hrun =>
      exact plain_ends_of_run (fun _ => isNumberChar_of_isWhiteSpace)
        (isNumberChar_of_startsNumber hstarts) hrun
  | word hstarts hrun =>
      exact plain_ends_of_run (fun _ => isWordChar_of_isWhiteSpace)
        (isWordChar_of_isWordStart hstarts) hrun

end Lexeme

/-! ## What goes on with no lexeme -/

namespace TokenKind

variable {kind : TokenKind} {before after : List Char}

theorem stops_nil (kind : TokenKind) : kind.Stops [] := by
  simp [Stops]

theorem goesOn_eq_false {c : Char} (hequals : c ≠ '=') (hdigit : Lexeme.isNumberChar c = false)
    (hletter : Lexeme.isWordChar c = false) (kind : TokenKind) : kind.goesOn c = false := by
  have hother : (c == '=') = false := by simpa using hequals
  cases kind with
  | comparison op => cases op <;> first | rfl | assumption
  | _ => first | rfl | assumption

/-- What comes next is the same in front of a part of what follows. -/
theorem Stops.of_append (stops : kind.Stops (before ++ after)) : kind.Stops before := by
  cases before with
  | nil => exact kind.stops_nil
  | cons c before => exact stops

theorem Stops.append (stops : kind.Stops before) (breaks : Breaks after) :
    kind.Stops (before ++ after) := by
  cases before with
  | nil => exact breaks kind
  | cons c before => exact stops

end TokenKind

theorem breaks_cons_of_isWhiteSpace {c : Char} {rest : List Char} (h : isWhiteSpace c = true) :
    Breaks (c :: rest) := by
  rintro kind d ⟨⟩
  apply TokenKind.goesOn_eq_false _ (Lexeme.isNumberChar_of_isWhiteSpace h)
    (Lexeme.isWordChar_of_isWhiteSpace h)
  rintro rfl
  exact absurd h (by decide)

theorem breaks_cons_of_isQuote {c : Char} {rest : List Char} (h : c = '\'' ∨ c = '"') :
    Breaks (c :: rest) := by
  rintro kind d ⟨⟩
  rcases h with rfl | rfl <;>
    exact TokenKind.goesOn_eq_false (by decide) (by decide) (by decide +kernel) kind

end FormFlow

import FormFlow.Access
import FormFlow.Proofs.Acceptance
import FormFlow.Proofs.Lexemes
import FormFlow.Proofs.Surfacing

/-!
# White space around conditions

White space before a source moves its tokens, white space after it does nothing, and what the tokens
derive does not depend on where they stand. So a condition means the same without the white space
around it. An access rule whose condition is white space and nothing else is the exception: a blank
condition holds, but an empty one is passed over.
-/

namespace FormFlow

open Unicode (isWhiteSpace)

/-! ## Lexeme by lexeme -/

section Lexemes

variable {column : Nat} {c : Char} {rest more after : List Char}

theorem tokensFrom_fault {fault : LexemeFault} (h : isWhiteSpace c = false)
    (hread : Lexeme.read c rest = .error fault) :
    tokensFrom column (c :: rest) = .error (fault.at column c) := by
  rw [tokensFrom, if_neg (by rw [h]; decide), hread]

/-- After a lexeme, what follows it is read. -/
theorem tokensFrom_read {lexeme : Lexeme} (h : isWhiteSpace c = false)
    (hread : Lexeme.read c (more ++ after) = .ok lexeme) (hextra : lexeme.extra = more.length) :
    tokensFrom column (c :: (more ++ after)) =
      (tokensFrom (column + 1 + more.length) after).map (⟨lexeme.kind, column⟩ :: ·) := by
  rw [tokensFrom, if_neg (by rw [h]; decide), hread]
  simp only [hextra, List.drop_left]
  cases tokensFrom (column + 1 + more.length) after <;> rfl

/-- Induction over the lexemes of a source and the white space between them. -/
@[elab_as_elim]
theorem byLexemes {motive : Nat → List Char → Prop} (nil : ∀ column, motive column [])
    (white : ∀ column c rest, isWhiteSpace c = true → motive (column + 1) rest →
      motive column (c :: rest))
    (fault : ∀ column c rest fault, isWhiteSpace c = false → Lexeme.read c rest = .error fault →
      motive column (c :: rest))
    (lexeme : ∀ column c more after lexeme, isWhiteSpace c = false →
      Lexeme.read c (more ++ after) = .ok lexeme → lexeme.extra = more.length →
      Lexeme.Written (c :: more) → motive (column + 1 + more.length) after →
      motive column (c :: (more ++ after)))
    (column : Nat) (source : List Char) : motive column source := by
  fun_induction tokensFrom column source with
  | case1 => exact nil _
  | case2 column c rest hwhite ih => exact white column c rest hwhite ih
  | case3 column c rest hplain found hread =>
      exact fault column c rest found (by simpa using hplain) hread
  | case4 column c rest hplain found hread _ _ ih | case5 column c rest hplain found hread _ _ ih =>
      obtain ⟨more, after, rfl, hextra, hwritten⟩ := Lexeme.read_takes hread
      rw [hextra, List.drop_left] at ih
      exact lexeme column c more after found (by simpa using hplain) hread hextra hwritten ih

end Lexemes

/-! ## Where tokens stand -/

/-- The token so many columns further on. -/
def Token.moved (columns : Nat) (token : Token) : Token :=
  { token with column := token.column + columns }

/-- The fault so many columns further on. -/
def SyntaxFault.moved (columns : Nat) : SyntaxFault → SyntaxFault
  | .empty => .empty
  | .unexpectedCharacter column character => .unexpectedCharacter (column + columns) character
  | .unterminatedText column => .unterminatedText (column + columns)
  | .invalidNumber digits => .invalidNumber digits
  | .unexpectedToken found expected => .unexpectedToken (found.moved columns) expected
  | .unexpectedEnd => .unexpectedEnd
  | .trailingInput found => .trailingInput (found.moved columns)
  | .tooDeep column => .tooDeep (column + columns)

/-- The tokens of a source, or its fault, so many columns further on. -/
def movedTokens (columns : Nat) : Except SyntaxFault (List Token) → Except SyntaxFault (List Token)
  | .ok tokens => .ok (tokens.map (Token.moved columns))
  | .error fault => .error (fault.moved columns)

theorem LexemeFault.at_add (fault : LexemeFault) (column columns : Nat) (first : Char) :
    fault.at (column + columns) first = (fault.at column first).moved columns := by
  cases fault <;> rfl

/-- Where a source begins makes a difference to columns only. -/
theorem tokensFrom_add (column columns : Nat) (source : List Char) :
    tokensFrom (column + columns) source = movedTokens columns (tokensFrom column source) := by
  induction column, source using byLexemes with
  | nil column =>
      rw [tokensFrom_nil, tokensFrom_nil]
      rfl
  | white column c rest hwhite ih =>
      rw [tokensFrom_white hwhite, tokensFrom_white hwhite, Nat.add_right_comm, ih]
  | fault column c rest fault hplain hread =>
      rw [tokensFrom_fault hplain hread, tokensFrom_fault hplain hread, fault.at_add]
      rfl
  | lexeme column c more after lexeme hplain hread hextra _ ih =>
      rw [tokensFrom_read hplain hread hextra, tokensFrom_read hplain hread hextra,
        Nat.add_right_comm column, Nat.add_right_comm _ columns, ih]
      cases tokensFrom (column + 1 + more.length) after <;> rfl

/-! ## White space before and after a source -/

variable {blank : List Char}

/-- White space before a source moves what is read. -/
theorem tokensFrom_blank_append (h : Text.isBlank blank = true) (column : Nat)
    (source : List Char) :
    tokensFrom column (blank ++ source) =
      movedTokens blank.length (tokensFrom column source) := by
  rw [← tokensFrom_add]
  induction blank generalizing column with
  | nil => rfl
  | cons c blank ih =>
      rw [Text.isBlank, List.all_cons, Bool.and_eq_true] at h
      rw [List.cons_append, tokensFrom_white h.1, ih h.2, List.length_cons, Nat.add_right_comm,
        Nat.add_assoc]

/-- There are no tokens in white space. -/
theorem tokensFrom_blank (h : Text.isBlank blank = true) (column : Nat) :
    tokensFrom column blank = .ok [] := by
  have hblank := tokensFrom_blank_append h column []
  rwa [List.append_nil, tokensFrom_nil] at hblank

/-- White space after a source changes neither its tokens nor its fault. -/
theorem tokensFrom_append_blank (h : Text.isBlank blank = true) (column : Nat)
    (source : List Char) : tokensFrom column (source ++ blank) = tokensFrom column source := by
  induction column, source using byLexemes with
  | nil column =>
      rw [List.nil_append, tokensFrom_nil, tokensFrom_blank h]
  | white column c rest hwhite ih =>
      rw [List.cons_append, tokensFrom_white hwhite, tokensFrom_white hwhite, ih]
  | fault column c rest fault hplain hread =>
      rw [List.cons_append, tokensFrom_fault hplain hread,
        tokensFrom_fault hplain ((Lexeme.read_append_blank h).trans hread)]
  | lexeme column c more after lexeme hplain hread hextra _ ih =>
      have hlonger : Lexeme.read c (more ++ (after ++ blank)) = .ok lexeme := by
        rw [← List.append_assoc, Lexeme.read_append_blank h, hread]
      rw [List.cons_append, List.append_assoc, tokensFrom_read hplain hlonger hextra,
        tokensFrom_read hplain hread hextra, ih]

/-! ## What tokens derive -/

/-- What tokens derive depends on their kinds and not on where they stand. -/
theorem Derivation.of_kinds {limit level : Nat} {phrase : Phrase} {tokens others : List Token}
    {tree : Expr} (derivation : Derivation limit phrase level tokens tree)
    (h : others.map Token.kind = tokens.map Token.kind) :
    Derives limit phrase level others tree := by
  induction derivation generalizing others with
  | chain _ _ sideIh linksIh =>
      rw [List.map_append] at h
      obtain ⟨ours, more, rfl, hours, hmore⟩ := List.map_eq_append_iff.mp h
      obtain ⟨side⟩ := sideIh hours
      obtain ⟨links⟩ := linksIh hmore
      exact ⟨.chain side links⟩
  | done =>
      obtain rfl := List.map_eq_nil_iff.mp h
      exact ⟨.done⟩
  | link column hwithin _ _ sideIh linksIh =>
      rw [List.map_cons, List.map_append] at h
      obtain ⟨⟨kind, place⟩, rest, rfl, rfl, hrest⟩ := List.map_eq_cons_iff.mp h
      obtain ⟨ours, more, rfl, hours, hmore⟩ := List.map_eq_append_iff.mp hrest
      obtain ⟨side⟩ := sideIh hours
      obtain ⟨links⟩ := linksIh hmore
      exact ⟨.link place hwithin side links⟩
  | bare _ ih =>
      obtain ⟨operand⟩ := ih h
      exact ⟨.bare operand⟩
  | compare _ op column _ firstIh secondIh =>
      rw [List.map_append, List.map_cons] at h
      obtain ⟨ours, rest, rfl, hours, hrest⟩ := List.map_eq_append_iff.mp h
      obtain ⟨⟨kind, place⟩, more, rfl, rfl, hmore⟩ := List.map_eq_cons_iff.mp hrest
      obtain ⟨first⟩ := firstIh hours
      obtain ⟨second⟩ := secondIh hmore
      exact ⟨.compare first op place second⟩
  | literal value column =>
      obtain ⟨⟨kind, place⟩, rest, rfl, rfl, hrest⟩ := List.map_eq_cons_iff.mp h
      obtain rfl := List.map_eq_nil_iff.mp hrest
      exact ⟨.literal value place⟩
  | path column hnames =>
      obtain ⟨⟨kind, place⟩, rest, rfl, rfl, hrest⟩ := List.map_eq_cons_iff.mp h
      obtain rfl := List.map_eq_nil_iff.mp hrest
      exact ⟨.path place hnames⟩
  | parens opening closing hwithin _ ih =>
      rw [List.map_cons, List.map_append] at h
      obtain ⟨⟨kind, place⟩, rest, rfl, rfl, hrest⟩ := List.map_eq_cons_iff.mp h
      obtain ⟨ours, close, rfl, hours, hclose⟩ := List.map_eq_append_iff.mp hrest
      obtain ⟨⟨kind, last⟩, none, rfl, rfl, hnone⟩ := List.map_eq_cons_iff.mp hclose
      obtain rfl := List.map_eq_nil_iff.mp hnone
      obtain ⟨inner⟩ := ih hours
      exact ⟨.parens place last hwithin inner⟩
  | list opening hwithin _ ih =>
      rw [List.map_cons] at h
      obtain ⟨⟨kind, place⟩, rest, rfl, rfl, hrest⟩ := List.map_eq_cons_iff.mp h
      obtain ⟨items⟩ := ih hrest
      exact ⟨.list place hwithin items⟩
  | close closing =>
      obtain ⟨⟨kind, place⟩, rest, rfl, rfl, hrest⟩ := List.map_eq_cons_iff.mp h
      obtain rfl := List.map_eq_nil_iff.mp hrest
      exact ⟨.close place⟩
  | item _ comma _ operandIh itemsIh =>
      rw [List.map_append, List.map_append] at h
      obtain ⟨ours, rest, rfl, hours, hrest⟩ := List.map_eq_append_iff.mp h
      obtain ⟨between, more, rfl, hbetween, hmore⟩ := List.map_eq_append_iff.mp hrest
      obtain ⟨operand⟩ := operandIh hours
      obtain ⟨items⟩ := itemsIh hmore
      cases comma with
      | none =>
          obtain rfl := List.map_eq_nil_iff.mp hbetween
          exact ⟨.item operand none items⟩
      | some column =>
          obtain ⟨⟨kind, place⟩, none, rfl, rfl, hnone⟩ := List.map_eq_cons_iff.mp hbetween
          obtain rfl := List.map_eq_nil_iff.mp hnone
          exact ⟨.item operand (some place) items⟩

theorem Except.map_eq_ok_iff {ε α β : Type} {first : Except ε α} {f : α → β} {result : β} :
    first.map f = .ok result ↔ ∃ found, first = .ok found ∧ f found = result := by
  cases first <;> simp [Except.map]

theorem Except.toOption_eq_some_iff {ε α : Type} {outcome : Except ε α} {value : α} :
    outcome.toOption = some value ↔ outcome = .ok value := by
  cases outcome <;> simp [Except.toOption]

/-- Tokens that have been moved are read as the same tree, or as none. -/
theorem Expr.ofTokens?_map_moved (columns : Nat) (tokens : List Token) :
    (Expr.ofTokens? (tokens.map (Token.moved columns))).toOption =
      (Expr.ofTokens? tokens).toOption := by
  have hkinds : (tokens.map (Token.moved columns)).map Token.kind = tokens.map Token.kind := by
    rw [List.map_map]
    rfl
  apply Option.ext
  intro tree
  rw [Except.toOption_eq_some_iff, Except.toOption_eq_some_iff, ofTokens?_eq_ok_iff,
    ofTokens?_eq_ok_iff]
  constructor
  · rintro ⟨derivation⟩
    exact derivation.of_kinds hkinds.symm
  · rintro ⟨derivation⟩
    exact derivation.of_kinds hkinds

/-! ## Trimmed conditions -/

namespace Text

theorem isBlank_takeWhile (text : List Char) : isBlank (text.takeWhile isWhiteSpace) = true :=
  List.all_eq_true.mpr fun _ => List.mem_takeWhile_imp

theorem isBlank_reverse (text : List Char) : isBlank text.reverse = isBlank text :=
  List.all_reverse

/-- Trimming takes white space off both ends and nothing else. -/
theorem exists_append_trim (text : List Char) : ∃ front back,
    isBlank front = true ∧ isBlank back = true ∧ text = front ++ (trim text ++ back) := by
  let body := trimStart text
  let front := text.takeWhile isWhiteSpace
  let back := (body.reverse.takeWhile isWhiteSpace).reverse
  refine ⟨front, back, isBlank_takeWhile text, ?_, ?_⟩
  · rw [isBlank_reverse]
    exact isBlank_takeWhile _
  · have hbody : body = trimEnd body ++ back := by
      rw [trimEnd, ← List.reverse_append, trimStart, List.takeWhile_append_dropWhile,
        List.reverse_reverse]
    calc
      text = front ++ body := (List.takeWhile_append_dropWhile).symm
      _ = front ++ (trim text ++ back) := congrArg (front ++ ·) hbody

theorem isBlank_trim (text : List Char) : isBlank (trim text) = isBlank text := by
  obtain ⟨front, back, hfront, hback, htext⟩ := exists_append_trim text
  have hsplit : isBlank text = isBlank (front ++ (trim text ++ back)) := congrArg isBlank htext
  rw [hsplit, isBlank, isBlank, List.all_append, List.all_append]
  rw [isBlank] at hfront hback
  rw [hfront, hback, Bool.true_and, Bool.and_true]

theorem trim_eq_nil_iff {text : List Char} : trim text = [] ↔ isBlank text = true := by
  rw [← isBlank_trim]
  constructor
  · intro h
    rw [h]
    rfl
  · intro h
    -- what has been trimmed does not begin with white space, so if it is blank it is empty
    cases htrim : trim text with
    | nil => rfl
    | cons c rest =>
        have hplain : isWhiteSpace c = false := by
          apply @head?_trimStart text
          apply head?_trimEnd
          rw [← trim, htrim]
          rfl
        rw [htrim, isBlank, List.all_cons, hplain] at h
        cases h

end Text

/-- The text without the white space at its ends. -/
def trimmed (text : String) : String :=
  String.ofList (Text.trim text.toList)

theorem trimmed_eq_empty_iff {text : String} :
    trimmed text = "" ↔ Text.isBlank text.toList = true := by
  rw [← Text.trim_eq_nil_iff, trimmed, ← String.toList_eq_nil_iff, String.toList_ofList]

theorem ne_empty_of_not_blank {text : String} (h : Text.isBlank text.toList = false) :
    text ≠ "" := by
  rintro rfl
  cases h

theorem tokenize_trim (source : List Char) :
    ∃ columns, tokenize source = movedTokens columns (tokenize (Text.trim source)) := by
  obtain ⟨front, back, hfront, hback, hsource⟩ := Text.exists_append_trim source
  refine ⟨front.length, ?_⟩
  calc
    tokenize source = tokenize (front ++ (Text.trim source ++ back)) := congrArg tokenize hsource
    _ = movedTokens front.length (tokensFrom 1 (Text.trim source ++ back)) :=
      tokensFrom_blank_append hfront 1 _
    _ = movedTokens front.length (tokenize (Text.trim source)) := by
      rw [tokensFrom_append_blank hback, tokenize]

/-- A source and what is left when it is trimmed are read as the same tree, or as none. -/
theorem Expr.parse_trimmed (source : String) :
    (Expr.parse (trimmed source)).toOption = (Expr.parse source).toOption := by
  obtain ⟨columns, hmoved⟩ := tokenize_trim source.toList
  unfold Expr.parse
  rw [hmoved, trimmed, String.toList_ofList]
  cases tokenize (Text.trim source.toList) with
  | error fault => rfl
  | ok tokens => exact (ofTokens?_map_moved columns tokens).symm

/-- A condition holds exactly if it holds without the white space around it. -/
theorem evaluate_trimmed (condition : String) (context : Fields Value) :
    evaluate (trimmed condition) context = evaluate condition context := by
  have hblank : Text.isBlank (trimmed condition).toList = Text.isBlank condition.toList := by
    rw [trimmed, String.toList_ofList, Text.isBlank_trim]
  cases hcondition : Text.isBlank condition.toList with
  | true => rw [evaluate, evaluate, hblank, hcondition, if_pos rfl, if_pos rfl]
  | false =>
      rw [evaluate_eq (hblank.trans hcondition), evaluate_eq hcondition, Expr.parse_trimmed]

/-! ## Access rules -/

namespace AccessRule

/-- The rule with its condition trimmed. -/
def trimmed (rule : AccessRule) : AccessRule :=
  { rule with condition := rule.condition.map FormFlow.trimmed }

/-- The rule without its condition, if that is blank. -/
def withoutBlank (rule : AccessRule) : AccessRule :=
  { rule with condition := rule.condition.filter fun condition => !Text.isBlank condition.toList }

/-- The condition of the rule is white space, at least one character of it. -/
def OnlySpace (rule : AccessRule) : Prop :=
  ∃ condition, rule.condition = some condition ∧ condition ≠ "" ∧
    Text.isBlank condition.toList = true

variable {rule : AccessRule} {context : Fields Value} {default : Permission}

theorem matchesCondition_iff : rule.matchesCondition context = true ↔
    ∃ condition, rule.condition = some condition ∧ condition ≠ "" ∧
      evaluate condition context = true := by
  unfold matchesCondition
  cases rule.condition <;> simp

/-- Without blank conditions, it takes a condition that is not blank. -/
theorem matchesCondition_withoutBlank_iff : rule.withoutBlank.matchesCondition context = true ↔
    ∃ condition, rule.condition = some condition ∧ Text.isBlank condition.toList = false ∧
      evaluate condition context = true := by
  rw [matchesCondition_iff]
  apply exists_congr
  intro condition
  rw [withoutBlank, Option.filter_eq_some_iff, and_assoc, Bool.not_eq_true']
  apply and_congr_right
  intro _
  apply and_congr_right
  intro hblank
  exact and_iff_right (ne_empty_of_not_blank hblank)

/-- Trimmed conditions match as conditions do that are not blank. -/
theorem matchesCondition_trimmed :
    rule.trimmed.matchesCondition context = rule.withoutBlank.matchesCondition context := by
  rw [Bool.eq_iff_iff, matchesCondition_iff, matchesCondition_withoutBlank_iff]
  constructor
  · rintro ⟨_, htrimmed, hempty, hholds⟩
    obtain ⟨condition, hcondition, rfl⟩ := Option.map_eq_some_iff.mp htrimmed
    rw [ne_eq, trimmed_eq_empty_iff, Bool.not_eq_true] at hempty
    exact ⟨condition, hcondition, hempty, evaluate_trimmed condition context ▸ hholds⟩
  · rintro ⟨condition, hcondition, hblank, hholds⟩
    refine ⟨FormFlow.trimmed condition, Option.map_eq_some_iff.mpr ⟨_, hcondition, rfl⟩, ?_, ?_⟩
    · rw [ne_eq, trimmed_eq_empty_iff, hblank]
      decide
    · rw [evaluate_trimmed, hholds]

theorem matchesCondition_withoutBlank (h : ¬ rule.OnlySpace) :
    rule.withoutBlank.matchesCondition context = rule.matchesCondition context := by
  rw [Bool.eq_iff_iff, matchesCondition_withoutBlank_iff, matchesCondition_iff]
  apply exists_congr
  intro condition
  apply and_congr_right
  intro hcondition
  apply and_congr_left
  intro _
  constructor
  · exact ne_empty_of_not_blank
  · intro hempty
    rw [← Bool.not_eq_true]
    exact fun hblank => h ⟨condition, hcondition, hempty, hblank⟩

/-- A blank condition matches exactly if it is not empty. -/
theorem matchesCondition_of_blank
    (h : ∀ condition, rule.condition = some condition → Text.isBlank condition.toList = true) :
    rule.matchesCondition context = true ↔ rule.OnlySpace := by
  rw [matchesCondition_iff, OnlySpace]
  apply exists_congr
  intro condition
  apply and_congr_right
  intro hcondition
  rw [evaluate, h condition hcondition]
  simp

theorem resolve_cons (rule : AccessRule) (rest : List AccessRule) :
    resolve (rule :: rest) context default =
      if rule.applies context then rule.permission else resolve rest context default := by
  rw [resolve, List.find?_cons]
  cases rule.applies context <;> rfl

/-- Rules that are changed without a difference to their roles, their permissions and whether their
conditions match decide as before. -/
theorem resolve_map_congr {f g : AccessRule → AccessRule} {rules : List AccessRule}
    (hrole : ∀ rule ∈ rules, (f rule).role = (g rule).role)
    (hpermission : ∀ rule ∈ rules, (f rule).permission = (g rule).permission)
    (hcondition : ∀ rule ∈ rules,
      (f rule).matchesCondition context = (g rule).matchesCondition context) :
    resolve (rules.map f) context default = resolve (rules.map g) context default := by
  induction rules with
  | nil => rfl
  | cons rule rest ih =>
      rw [List.forall_mem_cons] at hrole hpermission hcondition
      have happlies : (f rule).applies context = (g rule).applies context := by
        rw [applies, applies, hcondition.1, matchesRole, matchesRole, hrole.1]
      rw [List.map_cons, List.map_cons, resolve_cons, resolve_cons, happlies, hpermission.1,
        ih hrole.2 hpermission.2 hcondition.2]

/-- Whatever the rules, trimming their conditions does what leaving out the blank ones does. So the
white space around a condition decides nothing, as long as no condition is white space and nothing
else. A rule with a blank condition matches by it exactly if it is not empty. -/
theorem space_around_conditions_decides_nothing (rules : List AccessRule) (context : Fields Value)
    (default : Permission) :
    resolve (rules.map trimmed) context default = resolve (rules.map withoutBlank) context default ∧
    ((∀ rule ∈ rules, ¬ rule.OnlySpace) →
      resolve (rules.map trimmed) context default = resolve rules context default) ∧
    ∀ rule : AccessRule,
      (∀ condition, rule.condition = some condition → Text.isBlank condition.toList = true) →
      (rule.matchesCondition context = true ↔ rule.OnlySpace) := by
  have htrimmed : resolve (rules.map trimmed) context default =
      resolve (rules.map withoutBlank) context default := by
    apply resolve_map_congr
    · exact fun _ _ => rfl
    · exact fun _ _ => rfl
    · exact fun _ _ => matchesCondition_trimmed
  refine ⟨htrimmed, ?_, ?_⟩
  · intro hspace
    have hwritten : resolve (rules.map withoutBlank) context default =
        resolve (rules.map id) context default := by
      apply resolve_map_congr
      · exact fun _ _ => rfl
      · exact fun _ _ => rfl
      · exact fun rule hmem => matchesCondition_withoutBlank (hspace rule hmem)
    rw [htrimmed, hwritten, List.map_id]
  · exact fun rule => matchesCondition_of_blank

/-- The empty condition is passed over and the white space around the next one does not matter. -/
theorem space_around_conditions_decides_nothing_amount :
    let rules : List AccessRule := [.whenHolds "" .hidden, .whenHolds " amount < 100\t" .read]
    let context : Fields Value := [("amount", .number (.int 5))]
    (∀ rule ∈ rules, ¬ rule.OnlySpace) ∧
      resolve (rules.map trimmed) context .write = .read ∧
      (whenHolds "" .hidden).matchesCondition context = false := by
  intro rules context
  have hspace : ∀ rule ∈ rules, ¬ rule.OnlySpace := by
    simp [rules, OnlySpace, whenHolds, Text.isBlank]
    decide
  obtain ⟨-, hsame, hblank⟩ := space_around_conditions_decides_nothing rules context .write
  refine ⟨hspace, ?_, ?_⟩
  · rw [hsame hspace]
    decide +kernel
  · rw [← Bool.not_eq_true, hblank]
    · exact hspace _ (List.mem_cons_self)
    · rintro _ ⟨⟩
      rfl

/-- A condition of one space matches, and the same condition trimmed does not. -/
theorem only_space_decides :
    resolve [.whenHolds " " .hidden] [] .write = .hidden ∧
      resolve ([.whenHolds " " .hidden].map trimmed) [] .write = .write := by
  decide +kernel

end AccessRule

end FormFlow

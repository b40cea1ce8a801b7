import FormFlow.Proofs.Partition

/-!
# Where faults point

A fault of the lexer points at the lexeme that cannot be read. The parsers never leave the row of
tokens they are given: what they have not taken is an end of this row, and their faults point into
it. A chain that is too deep is reported at the link, and a bracket that is too deep at the token
after it. So if the bracket is the last token, the fault points at nothing.
-/

namespace FormFlow

open Unicode (isWhiteSpace)
open FormFlow.Parser (Level)

/-- The brackets that something one level deeper is expected after. -/
def TokenKind.opens : TokenKind → Bool
  | .openParen | .openBracket => true
  | _ => false

/-- What the faults of the parsers say about a row of tokens. A chain that is too deep has the
column of a link, and a bracket that is too deep has that of the token after it. -/
inductive PointsInto (row : List Token) : SyntaxFault → Prop
  | unexpectedToken {found : Token} (expected : Expected) (hmem : found ∈ row) :
      PointsInto row (.unexpectedToken found expected)
  | unexpectedEnd : PointsInto row .unexpectedEnd
  | trailingInput {found : Token} (hmem : found ∈ row) : PointsInto row (.trailingInput found)
  | link {link : Connective} {column : Nat} (hmem : ⟨link.kind, column⟩ ∈ row) :
      PointsInto row (.tooDeep column)
  | bracket {opening : Token} {rest : List Token} (hopens : opening.kind.opens = true)
      (hends : opening :: rest <:+ row) : PointsInto row (.tooDeep (rest.head?.elim 0 Token.column))

/-- A fault that points at a column points at a token, or at nothing after a bracket that opens at
the end of the row. -/
theorem PointsInto.column {row : List Token} {fault : SyntaxFault} {column : Nat}
    (points : PointsInto row fault) (hcarried : fault.column? = some column) :
    (∃ token ∈ row, token.column = column) ∨
      fault = .tooDeep 0 ∧ column = 0 ∧ ∃ opening ∈ row.getLast?, opening.kind.opens = true := by
  cases points with
  | unexpectedToken _ hmem => exact .inl ⟨_, hmem, Option.some.inj hcarried⟩
  | unexpectedEnd => cases hcarried
  | trailingInput hmem => exact .inl ⟨_, hmem, Option.some.inj hcarried⟩
  | link hmem => exact .inl ⟨_, hmem, Option.some.inj hcarried⟩
  | @bracket opening rest hopens hends =>
      obtain ⟨before, rfl⟩ := hends
      cases rest with
      | nil => exact .inr ⟨rfl, (Option.some.inj hcarried).symm, opening, by simp, hopens⟩
      | cons token rest => exact .inl ⟨token, by simp, Option.some.inj hcarried⟩

/-- What parsers make of the end of a row: a shorter end of it, or a fault that points into it. -/
def EndsIn {α : Type} (row : List Token) : Except SyntaxFault (α × List Token) → Prop
  | .ok found => found.2 <:+ row
  | .error fault => PointsInto row fault

theorem EndsIn.bind {α β : Type} {row : List Token} {outcome : Except SyntaxFault (α × List Token)}
    {next : α × List Token → Except SyntaxFault (β × List Token)} (ends : EndsIn row outcome)
    (hnext : ∀ found, found.2 <:+ row → EndsIn row (next found)) :
    EndsIn row (outcome >>= next) := by
  cases outcome with
  | error fault => exact ends
  | ok found => exact hnext found ends

namespace Parser

variable {row : List Token}

/-- The parsers of a level stay in a row if they begin in it. -/
structure Level.StaysIn (row : List Token) (level : Level) : Prop where
  operand : ∀ tokens, tokens <:+ row → EndsIn row (level.operand tokens)
  more : ∀ link left tokens, tokens <:+ row → EndsIn row (level.more link left tokens)

theorem pastComma_suffix (tokens : List Token) : pastComma tokens <:+ tokens := by
  unfold pastComma
  split
  next => exact List.suffix_cons ..
  next => exact List.suffix_rfl

theorem closing_endsIn (inner : Expr) {tokens : List Token} (h : tokens <:+ row) :
    EndsIn row (closing inner tokens) := by
  cases tokens with
  | nil => exact .unexpectedEnd
  | cons token rest =>
      rw [closing]
      split
      next => exact (List.suffix_cons ..).trans h
      next => exact .unexpectedToken _ (h.subset List.mem_cons_self)

namespace Level.StaysIn

variable {level : Level} {tokens : List Token}

theorem comparison (hstays : level.StaysIn row) (h : tokens <:+ row) :
    EndsIn row (level.comparison tokens) := by
  refine (hstays.operand tokens h).bind fun found hleft => ?_
  dsimp only
  split
  next rest hsame =>
    rw [hsame] at hleft
    exact (hstays.operand rest ((List.suffix_cons ..).trans hleft)).bind fun _ h => h
  next => exact hleft

theorem side (hstays : level.StaysIn row) (link : Connective) (h : tokens <:+ row) :
    EndsIn row (level.side link tokens) := by
  cases link with
  | and => exact hstays.comparison h
  | or => exact (hstays.comparison h).bind fun found hleft => hstays.more .and found.1 found.2 hleft

theorem disjunction (hstays : level.StaysIn row) (h : tokens <:+ row) :
    EndsIn row (level.disjunction tokens) :=
  (hstays.side .or h).bind fun found hleft => hstays.more .or found.1 found.2 hleft

theorem listItems (hstays : level.StaysIn row) (budget : Nat) (h : tokens <:+ row) :
    EndsIn row (listItems level.operand budget tokens) := by
  induction budget generalizing tokens with
  | zero => exact .unexpectedEnd
  | succ budget ih =>
      cases tokens with
      | nil => exact .unexpectedEnd
      | cons token rest =>
          rw [listItems_cons]
          split
          next => exact (List.suffix_cons ..).trans h
          next =>
            refine (hstays.operand _ h).bind fun found hleft => ?_
            exact (ih ((pastComma_suffix found.2).trans hleft)).bind fun _ h => h

end Level.StaysIn

section Above

variable {below : Option Level} (hstays : ∀ level ∈ below, level.StaysIn row)

include hstays

/-- Going down stays in a row if what is done below does, and if the fault for going too deep points
into it. -/
theorem descend_endsIn {α : Type} {next : Level → Except SyntaxFault (α × List Token)}
    {tokens : List Token} (hdeep : PointsInto row (.tooDeep (tokens.head?.elim 0 Token.column)))
    (hnext : ∀ level, level.StaysIn row → EndsIn row (next level)) :
    EndsIn row (descend below tokens >>= next) := by
  cases below with
  | none => exact hdeep
  | some level => exact hnext level (hstays level rfl)

theorem operandAbove_endsIn {tokens : List Token} (h : tokens <:+ row) :
    EndsIn row (operandAbove below tokens) := by
  cases tokens with
  | nil => exact .unexpectedEnd
  | cons token rest =>
      have hleft : rest <:+ row := (List.suffix_cons ..).trans h
      obtain ⟨kind, column⟩ := token
      cases kind with
      | openParen =>
          refine descend_endsIn hstays (.bracket rfl h) fun level hbelow => ?_
          exact (hbelow.disjunction hleft).bind fun found hleft => closing_endsIn found.1 hleft
      | openBracket =>
          refine descend_endsIn hstays (.bracket rfl h) fun level hbelow => ?_
          exact (hbelow.listItems rest.length hleft).bind fun _ hleft => hleft
      | text _ | number _ | bool _ | word _ => exact hleft
      | closeParen | closeBracket | comma | assign | comparison _ | and | or =>
          exact .unexpectedToken _ (h.subset List.mem_cons_self)

theorem more_endsIn (link : Connective) (left : Expr) {tokens : List Token}
    (h : tokens <:+ row) : EndsIn row ((Level.above below).more link left tokens) := by
  cases tokens with
  | nil =>
      rw [Level.more_nil]
      exact List.nil_suffix
  | cons token rest =>
      rw [Level.more_cons]
      split
      next hlink =>
        have hmem : ⟨link.kind, token.column⟩ ∈ row := by
          rw [← hlink]
          exact h.subset List.mem_cons_self
        refine descend_endsIn hstays (.link hmem) fun level hbelow => ?_
        exact (hbelow.side link ((List.suffix_cons ..).trans h)).bind fun found hleft =>
          hbelow.more link _ found.2 hleft
      next => exact h

theorem Level.above_staysIn : (Level.above below).StaysIn row where
  operand _ := operandAbove_endsIn hstays
  more link left _ := more_endsIn hstays link left

end Above

/-- The parsers of every level stay in the row they begin in. -/
theorem Level.ofDepth_staysIn (row : List Token) (n : Nat) : (Level.ofDepth n).StaysIn row := by
  induction n with
  | zero => exact Level.above_staysIn (by simp)
  | succ n ih =>
      refine Level.above_staysIn ?_
      rintro level ⟨⟩
      exact ih

end Parser

/-- A fault in a row of tokens points into it. -/
theorem Expr.pointsInto_of_ofTokens? {row : List Token} {fault : SyntaxFault} (hsome : row ≠ [])
    (hfailed : Expr.ofTokens? row = .error fault) : PointsInto row fault := by
  obtain ⟨first, others, rfl⟩ := List.exists_cons_of_ne_nil hsome
  have hstays := (Level.ofDepth_staysIn (first :: others) maxDepth).disjunction List.suffix_rfl
  rw [Expr.ofTokens?_cons] at hfailed
  generalize (Level.ofDepth maxDepth).disjunction _ = outcome at hstays hfailed
  obtain found | ⟨tree, rest⟩ := outcome
  · cases hfailed
    exact hstays
  · cases rest with
    | nil => cases hfailed
    | cons token rest =>
        cases hfailed
        exact .trailingInput (List.IsSuffix.subset hstays List.mem_cons_self)

/-- A fault of the lexer is about a character that is no white space. -/
theorem exists_of_tokensFrom_error {column : Nat} {source : List Char} {fault : SyntaxFault}
    (hfailed : tokensFrom column source = .error fault) :
    ∃ before c after cause, source = before ++ c :: after ∧ isWhiteSpace c = false ∧
      fault = LexemeFault.at (before.length + column) c cause := by
  induction column, source using byLexemes with
  | nil =>
      rw [tokensFrom_nil] at hfailed
      cases hfailed
  | white column d rest hspace ih =>
      rw [tokensFrom_white hspace] at hfailed
      obtain ⟨before, c, after, cause, rfl, hplain, rfl⟩ := ih hfailed
      refine ⟨d :: before, c, after, cause, rfl, hplain, ?_⟩
      rw [List.length_cons, Nat.add_right_comm, Nat.add_assoc]
  | fault column c rest cause hplain hread =>
      rw [tokensFrom_fault hplain hread] at hfailed
      cases hfailed
      exact ⟨[], c, rest, cause, rfl, hplain, by rw [List.length_nil, Nat.zero_add]⟩
  | lexeme column d more after lexeme hplain hread hextra _ ih =>
      rw [tokensFrom_read hplain hread hextra] at hfailed
      cases htail : tokensFrom (column + 1 + more.length) after with
      | ok tokens =>
          rw [htail] at hfailed
          cases hfailed
      | error found =>
          rw [htail] at hfailed
          cases hfailed
          obtain ⟨before, c, rest, cause, rfl, hplain, rfl⟩ := ih htail
          refine ⟨d :: (more ++ before), c, rest, cause, by simp, hplain, ?_⟩
          have hcolumns : before.length + (column + 1 + more.length) =
              (d :: (more ++ before)).length + column := by
            simp only [List.length_cons, List.length_append]
            omega
          rw [hcolumns]

/-! ## Faults in a source -/

/-- A column at which a source has something to show for a fault: no white space, but the character
at which the lexer gave up, or a token if the fault is about tokens. -/
def PointsAt (source : List Char) (fault : SyntaxFault) (column : Nat) : Prop :=
  Marks source column ∧
    ((∃ c cause, source[column - 1]? = some c ∧ fault = LexemeFault.at column c cause) ∨
      ∃ tokens, tokenize source = .ok tokens ∧ PointsInto tokens fault ∧
        ∃ token ∈ tokens, token.column = column)

/-- The column of a fault of the lexer is that of the character it is about. -/
theorem LexemeFault.column_eq {place column : Nat} {c : Char} {cause : LexemeFault}
    (hcarried : (cause.at place c).column? = some column) : column = place := by
  cases cause with
  | unexpectedCharacter => exact (Option.some.inj hcarried).symm
  | unterminatedText => exact (Option.some.inj hcarried).symm
  | invalidNumber => cases hcarried

/-- If the lexer reports a column, it is that of the character at which it gave up. -/
theorem pointsAt_of_tokenize_error {source : List Char} {fault : SyntaxFault} {column : Nat}
    (hfailed : tokenize source = .error fault) (hcarried : fault.column? = some column) :
    PointsAt source fault column := by
  obtain ⟨before, c, after, cause, rfl, hplain, rfl⟩ := exists_of_tokensFrom_error hfailed
  obtain rfl := LexemeFault.column_eq hcarried
  exact ⟨marks_append before hplain, .inl ⟨c, cause, by simp, rfl⟩⟩

/-- A fault that is reported at a column is reported at one where the source has something to show
for it. There is one exception: if a bracket is opened too deep and is the last token, then the
column is zero. -/
theorem faults_point_at_source {source : String} {fault : SyntaxFault} {column : Nat}
    (hfailed : Expr.parse source = .error fault) (hcarried : fault.column? = some column) :
    PointsAt source.toList fault column ∨
      (fault = .tooDeep 0 ∧ column = 0 ∧ ∃ tokens, tokenize source.toList = .ok tokens ∧
        ∃ opening ∈ tokens.getLast?, opening.kind.opens = true) := by
  rw [Expr.parse] at hfailed
  cases hread : tokenize source.toList with
  | error found =>
      rw [hread] at hfailed
      cases hfailed
      exact .inl (pointsAt_of_tokenize_error hread hcarried)
  | ok tokens =>
      rw [hread] at hfailed
      replace hfailed : Expr.ofTokens? tokens = .error fault := hfailed
      have hsome : tokens ≠ [] := by
        rintro rfl
        cases hfailed
        cases hcarried
      have points := Expr.pointsInto_of_ofTokens? hsome hfailed
      rcases points.column hcarried with ⟨token, hmem, rfl⟩ | ⟨hdeep, hzero, hopens⟩
      · exact .inl ⟨marks_of_mem hread hmem, .inr ⟨tokens, hread, points, token, hmem, rfl⟩⟩
      · exact .inr ⟨hdeep, hzero, tokens, rfl, hopens⟩

/-- One opening bracket more than there are levels, with a text after it. -/
def overDeep (after : String) : String :=
  String.ofList (List.replicate 129 '(' ++ after.toList)

/-- A name after the brackets is the token that is one level too deep. -/
theorem faults_point_at_source_name :
    Expr.parse (overDeep " x") = .error (.tooDeep 131) ∧
      PointsAt (overDeep " x").toList (.tooDeep 131) 131 := by
  have hfailed : Expr.parse (overDeep " x") = .error (.tooDeep 131) := by
    rw [Expr.parse, overDeep, String.toList_ofList]
    decide +kernel
  refine ⟨hfailed, ?_⟩
  rcases faults_point_at_source hfailed rfl with points | ⟨-, hzero, -⟩
  · exact points
  · cases hzero

/-- If nothing comes after the brackets, the fault is reported at column zero. -/
theorem overDeep_points_nowhere :
    Expr.parse (overDeep "") = .error (.tooDeep 0) ∧
      SyntaxFault.column? (.tooDeep 0) = some 0 ∧
      ¬ PointsAt (overDeep "").toList (.tooDeep 0) 0 := by
  refine ⟨?_, rfl, ?_⟩
  · rw [Expr.parse, overDeep, String.toList_ofList]
    decide +kernel
  · rintro ⟨⟨hfirst, -⟩, -⟩
    cases hfirst

end FormFlow

import FormFlow.Proofs.Adjacency

/-!
# Tokens in their source

A source that can be read is a row of lexemes with white space before, between and after them. The
lexemes are found again by cutting the source at the columns of its tokens. Each of them alone is
read as its token, and white space can be put in anywhere but inside a lexeme.
-/

namespace FormFlow

open Unicode (isWhiteSpace)

/-- A token and what is written for it. -/
structure Piece where
  token : Token
  text : List Char
deriving DecidableEq

/-- The column after what is written for a token. -/
def Piece.stop (piece : Piece) : Nat :=
  piece.token.column + piece.text.length

/-- A source cut at the columns of its tokens, each cut up to the next one or to the end and without
the white space that it ends with. -/
def cut (source : List Char) : List Token → List Piece
  | [] => []
  | token :: rest =>
      let next := rest.head?.elim (source.length + 1) Token.column
      ⟨token, Text.trimEnd ((source.drop (token.column - 1)).take (next - token.column))⟩ ::
        cut source rest

/-- A column of a source at which something other than white space stands. -/
def Marks (source : List Char) (column : Nat) : Prop :=
  1 ≤ column ∧ ∃ c, source[column - 1]? = some c ∧ isWhiteSpace c = false

/-- The columns of the characters that a piece takes up. -/
def Piece.Covers (piece : Piece) (column : Nat) : Prop :=
  piece.token.column ≤ column ∧ column < piece.stop

/-- A place in a source, counted from zero, before or after each of its lexemes. -/
def Boundary (source : List Char) (tokens : List Token) (place : Nat) : Prop :=
  place ≤ source.length ∧
    ∀ piece ∈ cut source tokens, piece.stop ≤ place + 1 ∨ place + 1 ≤ piece.token.column

/-- How a source whose first character stands at a column is made of lexemes and white space. -/
inductive Layout : Nat → List Char → List Piece → Prop
  | nil (column : Nat) : Layout column [] []
  | white {column : Nat} {c : Char} {rest : List Char} {pieces : List Piece}
      (hspace : isWhiteSpace c = true) (layout : Layout (column + 1) rest pieces) :
      Layout column (c :: rest) pieces
  | lexeme {column : Nat} {kind : TokenKind} {c : Char} {more after : List Char}
      {pieces : List Piece} (spells : Lexeme.Spells kind c more) (stops : kind.Stops after)
      (layout : Layout (column + 1 + more.length) after pieces) :
      Layout column (c :: (more ++ after)) (⟨⟨kind, column⟩, c :: more⟩ :: pieces)

theorem marks_append (before : List Char) {c : Char} {after : List Char}
    (hplain : isWhiteSpace c = false) : Marks (before ++ c :: after) (before.length + 1) := by
  refine ⟨Nat.le_add_left .., c, ?_, hplain⟩
  simp

theorem Text.trimEnd_append_blank {text blank : List Char} (hblank : isBlank blank = true)
    (hplain : ∀ c ∈ text.getLast?, isWhiteSpace c = false) : trimEnd (text ++ blank) = text := by
  have hreverse : ∀ c ∈ blank.reverse, isWhiteSpace c = true := by
    simpa [isBlank] using hblank
  have hself : trimStart text.reverse = text.reverse :=
    trimStart_eq_self fun c hc => hplain c (by rwa [← List.head?_reverse])
  rw [trimStart] at hself
  rw [trimEnd, trimStart, List.reverse_append, List.dropWhile_append_of_pos hreverse, hself,
    List.reverse_reverse]

namespace Layout

variable {column : Nat} {source : List Char} {pieces : List Piece}

/-! ## Layouts and tokens -/

/-- What follows a source that has been read is read next, unless its lexemes go on with it. -/
theorem tokensFrom_append (layout : Layout column source pieces) {after : List Char}
    (breaks : Breaks after) :
    tokensFrom column (source ++ after) =
      (tokensFrom (column + source.length) after).map (pieces.map Piece.token ++ ·) := by
  induction layout with
  | nil column =>
      rw [List.nil_append, List.length_nil, Nat.add_zero]
      cases tokensFrom column after <;> rfl
  | @white column c rest pieces hspace _ ih =>
      rw [List.cons_append, tokensFrom_white hspace, ih, List.length_cons, Nat.add_assoc,
        Nat.add_comm 1]
  | @lexeme column kind c more rest pieces spells stops _ ih =>
      have hread := Lexeme.read_append_eq_ok_iff.mpr ⟨spells, stops.append breaks⟩
      have hcolumns : column + 1 + more.length + rest.length =
          column + (c :: (more ++ rest)).length := by
        simp only [List.length_cons, List.length_append]
        omega
      rw [List.cons_append, List.append_assoc, tokensFrom_read spells.plain_ends.1 hread rfl, ih,
        hcolumns]
      cases tokensFrom (column + (c :: (more ++ rest)).length) after <;> rfl

theorem breaks_nil : Breaks [] :=
  fun kind => kind.stops_nil

/-- What is laid out is read as the tokens of the layout. -/
theorem tokensFrom_eq (layout : Layout column source pieces) :
    tokensFrom column source = .ok (pieces.map Piece.token) := by
  have h := layout.tokensFrom_append breaks_nil
  rw [tokensFrom_nil, List.append_nil] at h
  rw [h]
  simp [Except.map]

/-- What is read is laid out. -/
theorem exists_of_tokensFrom {tokens : List Token} (h : tokensFrom column source = .ok tokens) :
    ∃ pieces, Layout column source pieces ∧ pieces.map Piece.token = tokens := by
  induction column, source using byLexemes generalizing tokens with
  | nil column =>
      rw [tokensFrom_nil] at h
      cases h
      exact ⟨[], .nil column, rfl⟩
  | white column c rest hspace ih =>
      rw [tokensFrom_white hspace] at h
      obtain ⟨pieces, layout, rfl⟩ := ih h
      exact ⟨pieces, .white hspace layout, rfl⟩
  | fault column c rest fault hplain hread =>
      rw [tokensFrom_fault hplain hread] at h
      cases h
  | lexeme column c more after lexeme hplain hread hextra _ ih =>
      rw [tokensFrom_read hplain hread hextra] at h
      obtain ⟨others, hothers, rfl⟩ := Except.map_eq_ok_iff.mp h
      obtain ⟨pieces, layout, rfl⟩ := ih hothers
      obtain ⟨kind, count⟩ := lexeme
      obtain rfl : count = more.length := hextra
      obtain ⟨spells, stops⟩ := Lexeme.read_append_eq_ok_iff.mp hread
      exact ⟨_, .lexeme spells stops layout, rfl⟩

/-! ## Where the pieces stand -/

theorem column_le (layout : Layout column source pieces) {piece : Piece} (hmem : piece ∈ pieces) :
    column ≤ piece.token.column := by
  induction layout with
  | nil => cases hmem
  | white _ _ ih =>
      have := ih hmem
      omega
  | lexeme _ _ _ ih =>
      rcases List.mem_cons.mp hmem with rfl | hmem
      · exact Nat.le_refl _
      · have := ih hmem
        omega

/-- Each piece ends before the next one begins. -/
theorem ordered (layout : Layout column source pieces) :
    pieces.Pairwise fun earlier later => earlier.stop ≤ later.token.column := by
  induction layout with
  | nil => exact .nil
  | white _ _ ih => exact ih
  | @lexeme column kind c more _ _ _ _ layout ih =>
      refine .cons (fun later hmem => ?_) ih
      have := layout.column_le hmem
      simp only [Piece.stop, List.length_cons]
      omega

/-- What is written for each token is how a token of its kind is spelled. -/
theorem spelled (layout : Layout column source pieces) {piece : Piece} (hmem : piece ∈ pieces) :
    ∃ c more, piece.text = c :: more ∧ Lexeme.Spells piece.token.kind c more := by
  induction layout with
  | nil => cases hmem
  | white _ _ ih => exact ih hmem
  | lexeme spells _ _ ih =>
      rcases List.mem_cons.mp hmem with rfl | hmem
      · exact ⟨_, _, rfl, spells⟩
      · exact ih hmem

/-- What is no white space belongs to a piece. -/
theorem covers (layout : Layout column source pieces) {place : Nat} {c : Char}
    (hthere : source[place]? = some c) (hplain : isWhiteSpace c = false) :
    ∃ piece ∈ pieces, piece.Covers (column + place) := by
  induction layout generalizing place with
  | nil => cases hthere
  | @white column first rest _ hspace _ ih =>
      cases place with
      | zero =>
          obtain rfl : first = c := by simpa using hthere
          rw [hspace] at hplain
          cases hplain
      | succ place =>
          obtain ⟨piece, hmem, covers⟩ := ih (by simpa using hthere)
          exact ⟨piece, hmem, by rwa [← Nat.add_assoc, Nat.add_right_comm]⟩
  | @lexeme column kind first more after _ _ _ _ ih =>
      obtain hinside | houtside := Nat.lt_or_ge place (first :: more).length
      · refine ⟨_, List.mem_cons_self, Nat.le_add_right .., ?_⟩
        simp only [Piece.stop]
        omega
      · have hshifted : after[place - (first :: more).length]? = some c := by
          rwa [← List.cons_append, List.getElem?_append_right houtside] at hthere
        obtain ⟨piece, hmem, covers⟩ := ih hshifted
        refine ⟨piece, List.mem_cons_of_mem _ hmem, ?_⟩
        have hcolumns : column + 1 + more.length + (place - (first :: more).length) =
            column + place := by
          simp only [List.length_cons] at houtside ⊢
          omega
        rwa [hcolumns] at covers

/-- What stands before a piece and after it is laid out as well. -/
theorem around (layout : Layout column source pieces) {piece : Piece} (hmem : piece ∈ pieces) :
    ∃ before after earlier later, source = before ++ (piece.text ++ after) ∧
      piece.token.column = column + before.length ∧ pieces = earlier ++ piece :: later ∧
      Layout column before earlier ∧ Layout piece.stop after later := by
  induction layout with
  | nil => cases hmem
  | @white column c rest pieces hspace _ ih =>
      obtain ⟨before, after, earlier, later, rfl, hplace, rfl, hfront, hback⟩ := ih hmem
      refine ⟨c :: before, after, earlier, later, rfl, ?_, rfl, .white hspace hfront, hback⟩
      rw [hplace, List.length_cons, Nat.add_assoc, Nat.add_comm 1]
  | @lexeme column kind c more rest pieces spells stops layout ih =>
      rcases List.mem_cons.mp hmem with rfl | hmem
      · refine ⟨[], rest, [], pieces, rfl, rfl, rfl, .nil _, ?_⟩
        have hstop : Piece.stop ⟨⟨kind, column⟩, c :: more⟩ = column + 1 + more.length := by
          simp only [Piece.stop, List.length_cons]
          omega
        rwa [hstop]
      · obtain ⟨before, after, earlier, later, rfl, hplace, rfl, hfront, hback⟩ := ih hmem
        refine ⟨c :: (more ++ before), after, _ :: earlier, later, by simp, ?_, rfl,
          .lexeme spells stops.of_append hfront, hback⟩
        rw [hplace]
        simp only [List.length_cons, List.length_append]
        omega

/-- What is written for a token stands in the source at its column. -/
theorem written_at (layout : Layout column source pieces) {piece : Piece} (hmem : piece ∈ pieces) :
    ∃ before c more after, source = before ++ c :: (more ++ after) ∧ piece.text = c :: more ∧
      piece.token.column = column + before.length ∧ isWhiteSpace c = false := by
  obtain ⟨before, after, earlier, later, hwhole, hplace, -, -, -⟩ := layout.around hmem
  obtain ⟨c, more, htext, spells⟩ := layout.spelled hmem
  rw [htext] at hwhole
  exact ⟨before, c, more, after, hwhole, htext, hplace, spells.plain_ends.1⟩

theorem column_lt_stop (layout : Layout column source pieces) {piece : Piece}
    (hmem : piece ∈ pieces) : piece.token.column < piece.stop := by
  obtain ⟨c, more, htext, -⟩ := layout.spelled hmem
  rw [Piece.stop, htext, List.length_cons]
  omega

theorem stop_le (layout : Layout column source pieces) {piece : Piece} (hmem : piece ∈ pieces) :
    piece.stop ≤ column + source.length := by
  obtain ⟨before, c, more, after, rfl, htext, hplace, -⟩ := layout.written_at hmem
  rw [Piece.stop, htext, hplace]
  simp only [List.length_append, List.length_cons]
  omega

theorem columns_ascending (layout : Layout column source pieces) :
    ((pieces.map Piece.token).map Token.column).Pairwise (· < ·) := by
  rw [List.map_map, List.pairwise_map]
  refine layout.ordered.imp_of_mem fun hmem _ hapart => ?_
  exact Nat.lt_of_lt_of_le (layout.column_lt_stop hmem) hapart

theorem marks (layout : Layout 1 source pieces) {piece : Piece} (hmem : piece ∈ pieces) :
    Marks source piece.token.column := by
  obtain ⟨before, c, more, after, rfl, -, hplace, hplain⟩ := layout.written_at hmem
  rw [hplace, Nat.add_comm]
  exact marks_append before hplain

/-- Where there are no pieces there is white space. -/
theorem isBlank_of_nil (layout : Layout column source []) : Text.isBlank source = true := by
  rw [Text.isBlank, List.all_eq_true]
  intro c hmem
  by_contra hplain
  obtain ⟨place, hthere⟩ := List.mem_iff_getElem?.mp hmem
  obtain ⟨piece, hnone, -⟩ := layout.covers hthere (by simpa using hplain)
  cases hnone

/-- A piece is over before another one, or begins after it. -/
theorem apart (layout : Layout column source pieces) {piece other : Piece} (hmem : piece ∈ pieces)
    (hother : other ∈ pieces) :
    other = piece ∨ other.stop ≤ piece.token.column ∨ piece.stop ≤ other.token.column := by
  obtain ⟨before, after, earlier, later, -, hplace, rfl, hfront, hback⟩ := layout.around hmem
  rcases List.mem_append.mp hother with hearly | hother
  · exact .inr (.inl (hplace ▸ hfront.stop_le hearly))
  · rcases List.mem_cons.mp hother with rfl | hlate
    · exact .inl rfl
    · exact .inr (.inr (hback.column_le hlate))

/-- A source can be cut in two where no piece is, and both parts are laid out. -/
theorem split (layout : Layout column source pieces) {place : Nat} (hwithin : place ≤ source.length)
    (houtside : ∀ piece ∈ pieces,
      piece.stop ≤ column + place ∨ column + place ≤ piece.token.column) :
    ∃ earlier later, pieces = earlier ++ later ∧ Layout column (source.take place) earlier ∧
      Layout (column + place) (source.drop place) later := by
  induction layout generalizing place with
  | nil column =>
      obtain rfl : place = 0 := by simpa using hwithin
      exact ⟨[], [], rfl, .nil _, .nil _⟩
  | @white column c rest pieces hspace layout ih =>
      cases place with
      | zero => exact ⟨[], pieces, rfl, .nil _, .white hspace layout⟩
      | succ place =>
          have hcolumns : column + (place + 1) = column + 1 + place := by omega
          rw [hcolumns] at houtside ⊢
          obtain ⟨earlier, later, rfl, hfront, hback⟩ := ih (by simpa using hwithin) houtside
          exact ⟨earlier, later, rfl, .white hspace hfront, hback⟩
  | @lexeme column kind c more rest pieces spells stops layout ih =>
      obtain _ | place := place
      · exact ⟨[], _, rfl, .nil _, .lexeme spells stops layout⟩
      · -- the place is after the first piece, for it is neither in it nor before it
        have hafter : more.length ≤ place := by
          have := houtside _ List.mem_cons_self
          simp only [Piece.stop, List.length_cons] at this
          omega
        obtain ⟨place, rfl⟩ := Nat.exists_eq_add_of_le hafter
        have hcolumns : column + (more.length + place + 1) = column + 1 + more.length + place := by
          omega
        rw [hcolumns] at houtside ⊢
        obtain ⟨earlier, later, rfl, hfront, hback⟩ :=
          @ih place (by simp at hwithin; omega)
            fun piece hmem => houtside piece (List.mem_cons_of_mem _ hmem)
        refine ⟨_ :: earlier, later, rfl, ?_, ?_⟩
        · rw [List.take_succ_cons, List.take_length_add_append]
          have stopped : kind.Stops (rest.take place) := by
            rw [← List.take_append_drop place rest] at stops
            exact stops.of_append
          exact .lexeme spells stopped hfront
        · rwa [List.drop_succ_cons, List.drop_length_add_append]

/-! ## Cutting at the columns -/

/-- The next token, or the end of the source, comes after white space. -/
theorem exists_gap (layout : Layout column source pieces) :
    ∃ gap rest, source = gap ++ rest ∧ Text.isBlank gap = true ∧
      (pieces.map Piece.token).head?.elim (column + source.length) Token.column =
        column + gap.length := by
  induction layout with
  | nil column => exact ⟨[], [], rfl, rfl, rfl⟩
  | @white column c rest pieces hspace _ ih =>
      obtain ⟨gap, after, rfl, hblank, hnext⟩ := ih
      refine ⟨c :: gap, after, rfl, ?_, ?_⟩
      · rw [Text.isBlank, List.all_cons, hspace, Bool.true_and]
        exact hblank
      · have hcolumns : column + (c :: (gap ++ after)).length =
            column + 1 + (gap ++ after).length := by
          rw [List.length_cons]
          omega
        rw [hcolumns, hnext, List.length_cons]
        omega
  | lexeme => exact ⟨[], _, rfl, rfl, rfl⟩

/-- Cutting a source at the columns of its tokens gives the pieces that it is laid out in. -/
theorem cut_eq (layout : Layout column source pieces) {before : List Char}
    (hplace : before.length + 1 = column) :
    cut (before ++ source) (pieces.map Piece.token) = pieces := by
  induction layout generalizing before with
  | nil => rfl
  | @white column c rest pieces hspace _ ih =>
      rw [List.append_cons]
      exact ih (by simp [hplace])
  | @lexeme column kind c more rest pieces spells stops layout ih =>
      have htail := @ih (before ++ c :: more)
        (by simp only [List.length_append, List.length_cons]; omega)
      rw [List.append_assoc, List.cons_append] at htail
      obtain ⟨gap, after, rfl, hblank, hnext⟩ := layout.exists_gap
      have hstop : (before ++ c :: (more ++ (gap ++ after))).length + 1 =
          column + 1 + more.length + (gap ++ after).length := by
        simp only [List.length_append, List.length_cons]
        omega
      have hstart : column - 1 = before.length := by omega
      have hwidth : column + 1 + more.length + gap.length - column =
          (c :: more ++ gap).length := by
        simp only [List.length_append, List.length_cons]
        omega
      have hwritten : c :: (more ++ (gap ++ after)) = (c :: more ++ gap) ++ after := by simp
      rw [List.map_cons, cut, htail]
      simp only [hstop, hnext, hwidth, hstart, List.drop_left]
      rw [hwritten, List.take_left, Text.trimEnd_append_blank hblank spells.plain_ends.2]

end Layout

/-! ## Tokens of a source -/

theorem map_token_cut (source : List Char) (tokens : List Token) :
    (cut source tokens).map Piece.token = tokens := by
  induction tokens with
  | nil => rfl
  | cons token rest ih => rw [cut, List.map_cons, ih]

/-- A source that can be read is laid out in what it is cut into at its tokens. -/
theorem layout_of_tokenize {source : List Char} {tokens : List Token}
    (hread : tokenize source = .ok tokens) : Layout 1 source (cut source tokens) := by
  obtain ⟨pieces, layout, rfl⟩ := Layout.exists_of_tokensFrom hread
  have hpieced : cut ([] ++ source) (pieces.map Piece.token) = pieces := layout.cut_eq rfl
  rw [List.nil_append] at hpieced
  rwa [hpieced]

/-- A token stands where something other than white space is. -/
theorem marks_of_mem {source : List Char} {tokens : List Token}
    (hread : tokenize source = .ok tokens) {token : Token} (hmem : token ∈ tokens) :
    Marks source token.column := by
  rw [← map_token_cut source tokens] at hmem
  obtain ⟨piece, hpiece, rfl⟩ := List.mem_map.mp hmem
  exact (layout_of_tokenize hread).marks hpiece

/-- A lexeme alone is read as its token. -/
theorem Lexeme.Spells.tokenize {kind : TokenKind} {c : Char} {more : List Char}
    (spells : Lexeme.Spells kind c more) : tokenize (c :: more) = .ok [⟨kind, 1⟩] := by
  have layout : Layout 1 (c :: (more ++ [])) [⟨⟨kind, 1⟩, c :: more⟩] :=
    .lexeme spells kind.stops_nil (.nil _)
  rw [List.append_nil] at layout
  exact layout.tokensFrom_eq

/-- The tokens with those behind a place so many columns further on. -/
def movedBehind (place columns : Nat) (tokens : List Token) : List Token :=
  tokens.map fun token => if token.column ≤ place then token else token.moved columns

theorem map_kind_movedBehind (place columns : Nat) (tokens : List Token) :
    (movedBehind place columns tokens).map Token.kind = tokens.map Token.kind := by
  rw [movedBehind, List.map_map]
  apply List.map_congr_left
  intro token _
  rw [Function.comp_apply]
  split <;> rfl

theorem breaks_blank_append {blank rest : List Char} (hblank : Text.isBlank blank = true)
    (hsome : blank ≠ []) : Breaks (blank ++ rest) := by
  obtain ⟨c, blank, rfl⟩ := List.exists_cons_of_ne_nil hsome
  rw [Text.isBlank, List.all_cons, Bool.and_eq_true] at hblank
  exact breaks_cons_of_isWhiteSpace hblank.1

theorem movedBehind_zero (place : Nat) (tokens : List Token) :
    movedBehind place 0 tokens = tokens := by
  have hsame : ∀ token ∈ tokens,
      (if token.column ≤ place then token else token.moved 0) = token := by
    intro token _
    split <;> rfl
  exact (List.map_congr_left hsame).trans (List.map_id' tokens)

/-- Tokens in front of a place stay where they are. -/
theorem Layout.movedBehind_eq {source : List Char} {pieces : List Piece}
    (layout : Layout 1 source pieces) (columns : Nat) :
    movedBehind source.length columns (pieces.map Piece.token) = pieces.map Piece.token := by
  rw [movedBehind, List.map_map]
  apply List.map_congr_left
  intro piece hmem
  obtain ⟨before, c, more, after, rfl, -, hcolumn, -⟩ := layout.written_at hmem
  rw [Function.comp_apply, if_pos]
  rw [hcolumn, List.length_append, List.length_cons]
  omega

/-- Tokens behind a place are moved. -/
theorem Layout.movedBehind_eq_map {place : Nat} {source : List Char} {pieces : List Piece}
    (layout : Layout (1 + place) source pieces) (columns : Nat) :
    movedBehind place columns (pieces.map Piece.token) =
      (pieces.map Piece.token).map (Token.moved columns) := by
  rw [movedBehind, List.map_map, List.map_map]
  apply List.map_congr_left
  intro piece hmem
  have := layout.column_le hmem
  rw [Function.comp_apply, if_neg (by omega)]
  rfl

/-- White space that is put in at a boundary moves the tokens behind it, and nothing else. -/
theorem tokenize_insert_blank {source : List Char} {tokens : List Token}
    (hread : tokenize source = .ok tokens) {place : Nat} (boundary : Boundary source tokens place)
    {blank : List Char} (hblank : Text.isBlank blank = true) :
    tokenize (source.take place ++ (blank ++ source.drop place)) =
      .ok (movedBehind place blank.length tokens) := by
  by_cases hnone : blank = []
  · rw [hnone, List.nil_append, List.take_append_drop, hread, List.length_nil, movedBehind_zero]
  · obtain ⟨earlier, later, hpieced, hfront, hback⟩ :=
      (layout_of_tokenize hread).split boundary.1 (by simpa [Nat.add_comm 1] using boundary.2)
    have hwidth : (source.take place).length = place := by
      rw [List.length_take, Nat.min_eq_left boundary.1]
    have hwhole : tokens = earlier.map Piece.token ++ later.map Piece.token := by
      rw [← List.map_append, ← hpieced, map_token_cut]
    have hkept := hfront.movedBehind_eq blank.length
    have hmoved := hback.movedBehind_eq_map blank.length
    rw [hwidth] at hkept
    calc
      tokenize (source.take place ++ (blank ++ source.drop place))
      _ = (movedTokens blank.length (tokensFrom (1 + place) (source.drop place))).map
            (earlier.map Piece.token ++ ·) := by
        rw [tokenize, hfront.tokensFrom_append (breaks_blank_append hblank hnone),
          tokensFrom_blank_append hblank, hwidth]
      _ = .ok (earlier.map Piece.token ++
            (later.map Piece.token).map (Token.moved blank.length)) := by
        rw [hback.tokensFrom_eq]
        rfl
      _ = .ok (movedBehind place blank.length tokens) := by
        rw [hwhole, movedBehind, List.map_append, ← movedBehind, ← movedBehind, hkept, hmoved]

/-- A source with white space put in at a boundary, and then at another one, any number of times. -/
inductive Respaced (source : List Char) : List Char → Prop
  | same : Respaced source source
  | insert {spaced blank : List Char} {tokens : List Token} {place : Nat}
      (earlier : Respaced source spaced) (hread : tokenize spaced = .ok tokens)
      (boundary : Boundary spaced tokens place) (hblank : Text.isBlank blank = true) :
      Respaced source (spaced.take place ++ (blank ++ spaced.drop place))

/-- However often white space is put in, the kinds of the tokens stay the same. -/
theorem Respaced.tokenize {source other : List Char} (respaced : Respaced source other)
    {tokens : List Token} (hread : tokenize source = .ok tokens) :
    ∃ others, tokenize other = .ok others ∧ others.map Token.kind = tokens.map Token.kind := by
  induction respaced with
  | same => exact ⟨tokens, hread, rfl⟩
  | insert _ hcurrent boundary hblank ih =>
      obtain ⟨others, hothers, hkinds⟩ := ih
      obtain rfl := Except.ok.inj (hcurrent.symm.trans hothers)
      exact ⟨_, tokenize_insert_blank hcurrent boundary hblank,
        (map_kind_movedBehind ..).trans hkinds⟩

/-! ## The partition -/

/-- How the tokens of a source stand in it. -/
structure Partitioned (source : List Char) (tokens : List Token) : Prop where
  /-- Columns ascend, and each is that of a character that is no white space. -/
  ascending : (tokens.map Token.column).Pairwise (· < ·)
  marked : ∀ token ∈ tokens, Marks source token.column
  /-- Each token has a piece of the source, which stands at its column and is over before the next
  one begins. -/
  pieced : (cut source tokens).map Piece.token = tokens
  placed : ∀ piece ∈ cut source tokens, ∃ before after,
    source = before ++ (piece.text ++ after) ∧ piece.token.column = before.length + 1
  apart : (cut source tokens).Pairwise fun earlier later => earlier.stop ≤ later.token.column
  /-- A piece alone is read as its token and nothing else. -/
  alone : ∀ piece ∈ cut source tokens, tokenize piece.text = .ok [⟨piece.token.kind, 1⟩]
  /-- What is in no piece is white space. -/
  covered : ∀ place c, source[place]? = some c →
    isWhiteSpace c = true ∨ ∃ piece ∈ cut source tokens, piece.Covers (place + 1)
  /-- The beginning, the end, and both ends of every piece are boundaries. -/
  bounded : Boundary source tokens 0 ∧ Boundary source tokens source.length ∧
    ∀ piece ∈ cut source tokens, Boundary source tokens (piece.token.column - 1) ∧
      Boundary source tokens (piece.stop - 1)
  /-- White space at a boundary moves the tokens behind it and changes no kind. -/
  spaced : ∀ place blank, Boundary source tokens place → Text.isBlank blank = true →
    tokenize (source.take place ++ (blank ++ source.drop place)) =
        .ok (movedBehind place blank.length tokens) ∧
      (movedBehind place blank.length tokens).map Token.kind = tokens.map Token.kind
  respaced : ∀ other, Respaced source other →
    ∃ others, tokenize other = .ok others ∧ others.map Token.kind = tokens.map Token.kind
  /-- There are no tokens in white space, and only there. -/
  blank_iff : tokens = [] ↔ Text.isBlank source = true

/-- A place is a boundary if a piece begins or ends there. -/
theorem boundary_of_mem {source : List Char} {tokens : List Token}
    (layout : Layout 1 source (cut source tokens)) {piece : Piece}
    (hmem : piece ∈ cut source tokens) :
    Boundary source tokens (piece.token.column - 1) ∧ Boundary source tokens (piece.stop - 1) := by
  have hfirst := layout.column_le hmem
  have hbegins := layout.column_lt_stop hmem
  have hends := layout.stop_le hmem
  constructor
  · refine ⟨by omega, fun other hother => ?_⟩
    rcases layout.apart hmem hother with rfl | hbefore | hafter <;> omega
  · refine ⟨by omega, fun other hother => ?_⟩
    have := layout.column_lt_stop hother
    rcases layout.apart hmem hother with rfl | hbefore | hafter <;> omega

/-- The tokens of a source that can be read stand in it one after the other, each at its piece; only
white space is between them, and white space can be put in between them. -/
theorem tokens_partition_source {source : List Char} {tokens : List Token}
    (hread : tokenize source = .ok tokens) : Partitioned source tokens := by
  have layout := layout_of_tokenize hread
  have hpieced := map_token_cut source tokens
  constructor
  case ascending =>
    have hascending := layout.columns_ascending
    rwa [hpieced] at hascending
  case marked =>
    intro token hmem
    exact marks_of_mem hread hmem
  case pieced => exact hpieced
  case placed =>
    intro piece hmem
    obtain ⟨before, after, -, -, hwhole, hplace, -⟩ := layout.around hmem
    exact ⟨before, after, hwhole, hplace.trans (Nat.add_comm ..)⟩
  case apart => exact layout.ordered
  case alone =>
    intro piece hmem
    obtain ⟨c, more, htext, spells⟩ := layout.spelled hmem
    rw [htext]
    exact spells.tokenize
  case covered =>
    intro place c hthere
    cases hplain : isWhiteSpace c with
    | true => exact .inl rfl
    | false =>
        obtain ⟨piece, hmem, covers⟩ := layout.covers hthere hplain
        exact .inr ⟨piece, hmem, Nat.add_comm 1 place ▸ covers⟩
  case bounded =>
    refine ⟨⟨Nat.zero_le _, fun piece hmem => .inr (layout.column_le hmem)⟩, ⟨Nat.le_refl _, ?_⟩,
      fun piece hmem => boundary_of_mem layout hmem⟩
    exact fun piece hmem => .inl ((layout.stop_le hmem).trans (Nat.le_of_eq (Nat.add_comm ..)))
  case spaced =>
    intro place blank boundary hblank
    exact ⟨tokenize_insert_blank hread boundary hblank, map_kind_movedBehind ..⟩
  case respaced => exact fun other respaced => respaced.tokenize hread
  case blank_iff =>
    constructor
    · rintro rfl
      exact layout.isBlank_of_nil
    · intro hblank
      rw [tokenize, tokensFrom_blank hblank] at hread
      exact (Except.ok.inj hread).symm

/-- A number, a word, two symbols and a text, with a blank only before the text. -/
def crowded : List Char :=
  "1abc=== 'x y'".toList

def crowdedTokens : List Token :=
  [⟨.number (.int 1), 1⟩, ⟨.word "abc", 2⟩, ⟨.comparison .eq, 5⟩, ⟨.assign, 7⟩, ⟨.text "x y", 9⟩]

/-- The three equals signs are two symbols, and a blank can be put in between them. -/
theorem tokens_partition_source_crowded :
    tokenize crowded = .ok crowdedTokens ∧
    (cut crowded crowdedTokens).map Piece.text =
      ["1".toList, "abc".toList, "==".toList, "=".toList, "'x y'".toList] ∧
    tokenize "1abc== = 'x y'".toList = .ok (movedBehind 6 1 crowdedTokens) := by
  have hread : tokenize crowded = .ok crowdedTokens := by decide +kernel
  have partitioned := tokens_partition_source hread
  have hequals : (cut crowded crowdedTokens)[3]? = some ⟨⟨.assign, 7⟩, ['=']⟩ := by
    decide +kernel
  have boundary : Boundary crowded crowdedTokens 6 :=
    (partitioned.bounded.2.2 _ (List.mem_of_getElem? hequals)).1
  have hblank : Text.isBlank [' '] = true := by decide
  refine ⟨hread, by decide +kernel, ?_⟩
  exact (partitioned.spaced 6 [' '] boundary hblank).1

end FormFlow

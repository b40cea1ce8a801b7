import FormFlow.Proofs.Partition

/-!
# Writing texts as literals

Every text can be written between quotes of either kind, with a backslash before each such quote and
each backslash, and is read back from there. A text literal means its text wherever it stands: the
source before it is read as if it ended there, and the source after it as if it began there.
-/

namespace FormFlow

/-- The two kinds of quotes that a text can stand between. -/
def IsQuote (c : Char) : Prop :=
  c = '\'' ∨ c = '"'

/-- A text with a backslash before each quote of a kind and each backslash. -/
def escaped (quote : Char) (content : List Char) : List Char :=
  content.flatMap fun c => if c = quote ∨ c = '\\' then ['\\', c] else [c]

/-- A text written as a literal. -/
def literalOf (quote : Char) (content : String) : List Char :=
  quote :: (escaped quote content.toList ++ [quote])

/-- Wherever it stands behind a source that can be read, a literal is read as one token with a text,
and what follows is read as if it stood alone. -/
def MeansText (literal : List Char) (content : String) : Prop :=
  ∀ before tokens after, tokenize before = .ok tokens →
    tokenize (before ++ (literal ++ after)) =
      (movedTokens (before.length + literal.length) (tokenize after)).map
        (tokens ++ ⟨.text content, before.length + 1⟩ :: ·)

namespace Lexeme

variable {quote c : Char} {more : List Char} {content : String}

/-- Between its quotes an escaped text is the text. -/
theorem textBody_escaped (isQuote : IsQuote quote) (content : List Char) :
    TextBody quote (escaped quote content) content := by
  induction content with
  | nil => exact .done
  | cons c rest ih =>
      rw [escaped, List.flatMap_cons]
      by_cases hspecial : c = quote ∨ c = '\\'
      · rw [if_pos hspecial]
        refine .escaped ?_ ih
        rcases hspecial with rfl | rfl
        · exact isQuote.imp id .inl
        · exact .inr (.inr rfl)
      · rw [if_neg hspecial]
        obtain ⟨hother, hunescaped⟩ := not_or.mp hspecial
        exact .plain hother hunescaped ih

theorem spells_literalOf (isQuote : IsQuote quote) (content : String) :
    Spells (.text content) quote (escaped quote content.toList ++ [quote]) := by
  have spells := Spells.text isQuote (textBody_escaped isQuote content.toList)
  rwa [String.ofList_toList] at spells

/-- Only what begins with a quote is spelled as a text. -/
theorem Spells.isQuote (spells : Spells (.text content) c more) : IsQuote c := by
  generalize hsame : TokenKind.text content = kind at spells
  cases spells with
  | symbol hknown =>
      subst hsame
      unfold operator? at hknown
      split at hknown <;> cases hknown
  | text isQuote => exact isQuote
  | number => cases hsame
  | word =>
      unfold wordKind at hsame
      split at hsame <;> cases hsame

end Lexeme

/-- A text literal has its meaning wherever it stands. -/
theorem meansText_of_spells {c : Char} {more : List Char} {content : String}
    (spells : Lexeme.Spells (.text content) c more) : MeansText (c :: more) content := by
  intro before tokens after hread
  have layout := layout_of_tokenize hread
  have hliteral : Lexeme.read c (more ++ after) = .ok ⟨.text content, more.length⟩ :=
    Lexeme.read_append_eq_ok_iff.mpr ⟨spells, fun _ _ => rfl⟩
  have hcolumns : 1 + (before.length + (c :: more).length) =
      before.length + 1 + 1 + more.length := by
    rw [List.length_cons]
    omega
  rw [tokenize, List.cons_append,
    layout.tokensFrom_append (breaks_cons_of_isQuote spells.isQuote), Nat.add_comm 1,
    tokensFrom_read spells.plain_ends.1 hliteral rfl, map_token_cut, tokenize, ← tokensFrom_add,
    hcolumns]
  cases tokensFrom (before.length + 1 + 1 + more.length) after <;> rfl

/-- White space after a literal does not matter. -/
theorem MeansText.append_blank {literal blank : List Char} {content : String}
    (means : MeansText literal content) (hblank : Text.isBlank blank = true) :
    MeansText (literal ++ blank) content := by
  intro before tokens after hread
  have hmoved : movedTokens (before.length + literal.length) (tokenize (blank ++ after)) =
      movedTokens (before.length + (literal ++ blank).length) (tokenize after) := by
    have hcolumns : 1 + (before.length + literal.length) + blank.length =
        1 + (before.length + (literal ++ blank).length) := by
      rw [List.length_append]
      omega
    rw [tokenize, tokenize, ← tokensFrom_add, ← tokensFrom_add, tokensFrom_blank_append hblank,
      ← tokensFrom_add, hcolumns]
  rw [List.append_assoc, means before tokens (blank ++ after) hread, hmoved]

/-- What is read as a text alone means this text. -/
theorem meansText_of_tokenize {literal : List Char} {content : String}
    (hread : tokenize literal = .ok [⟨.text content, 1⟩]) : MeansText literal content := by
  obtain ⟨pieces, layout, htokens⟩ := Layout.exists_of_tokensFrom hread
  obtain ⟨piece, rfl, htoken⟩ := List.map_eq_singleton_iff.mp htokens
  obtain ⟨before, blank, earlier, later, rfl, hplace, hpieced, -, hback⟩ :=
    layout.around List.mem_cons_self
  obtain ⟨c, more, htext, spells⟩ := layout.spelled List.mem_cons_self
  -- the piece begins at the first column and is the only one, so only white space follows it
  rw [htoken] at hplace spells
  obtain rfl : before = [] := List.length_eq_zero_iff.mp (by simpa using hplace)
  obtain ⟨-, rfl⟩ : earlier = [] ∧ later = [] := by
    have hcount := congrArg List.length hpieced
    simp only [List.length_append, List.length_cons, List.length_nil] at hcount
    exact ⟨List.length_eq_zero_iff.mp (by omega), List.length_eq_zero_iff.mp (by omega)⟩
  rw [List.nil_append, htext]
  exact (meansText_of_spells spells).append_blank hback.isBlank_of_nil

/-! ## Literals and texts -/

theorem map_kind_moved (columns : Nat) (tokens : List Token) :
    (tokens.map (Token.moved columns)).map Token.kind = tokens.map Token.kind := by
  rw [List.map_map]
  rfl

/-- In a source that can be read, what means a text can be put in the place of another such. -/
theorem MeansText.replaced {literal other before after : List Char} {content : String}
    {front tokens : List Token} (means : MeansText literal content)
    (hsame : MeansText other content) (hbegins : tokenize before = .ok front)
    (hread : tokenize (before ++ (literal ++ after)) = .ok tokens) :
    ∃ others, tokenize (before ++ (other ++ after)) = .ok others ∧
      others.map Token.kind = tokens.map Token.kind := by
  rw [means before front after hbegins] at hread
  rw [hsame before front after hbegins]
  cases hrest : tokenize after with
  | error fault =>
      rw [hrest] at hread
      cases hread
  | ok back =>
      rw [hrest] at hread
      refine ⟨_, rfl, ?_⟩
      rw [← Except.ok.inj hread]
      simp only [List.map_append, List.map_cons, map_kind_moved]

/-- A literal in a source can be written anew from its text, between quotes of either kind. -/
theorem tokenize_rewritten {source : List Char} {tokens : List Token}
    (hread : tokenize source = .ok tokens) {piece : Piece} (hmem : piece ∈ cut source tokens)
    {content : String} (hkind : piece.token.kind = .text content) {quote : Char}
    (isQuote : IsQuote quote) :
    ∃ others, tokenize (source.take (piece.token.column - 1) ++
        (literalOf quote content ++ source.drop (piece.stop - 1))) = .ok others ∧
      others.map Token.kind = tokens.map Token.kind := by
  have layout := layout_of_tokenize hread
  obtain ⟨before, after, earlier, later, hwhole, hplace, -, hfront, -⟩ := layout.around hmem
  obtain ⟨c, more, htext, spells⟩ := layout.spelled hmem
  rw [hkind] at spells
  rw [htext] at hwhole
  have htaken : source.take (piece.token.column - 1) = before := by
    rw [hplace, Nat.add_sub_cancel_left, hwhole, List.take_left]
  have hdropped : source.drop (piece.stop - 1) = after := by
    have hstop : piece.stop - 1 = (before ++ c :: more).length := by
      rw [Piece.stop, htext, hplace]
      simp only [List.length_append, List.length_cons]
      omega
    rw [hstop, hwhole, ← List.append_assoc, List.drop_left]
  have means := meansText_of_spells spells
  have hsame := meansText_of_spells (Lexeme.spells_literalOf isQuote content)
  rw [hwhole] at hread
  rw [htaken, hdropped]
  exact means.replaced hsame hfront.tokensFrom_eq hread

/-- Every text can be written between quotes of either kind and is read back from there, alone and
wherever it stands. Whatever is read as a text means this text, so that it can be written anew from
it: alone, and at its place in a source that can be read. -/
theorem texts_survive_quoting {quote : Char} (isQuote : IsQuote quote) (content : String) :
    tokenize (literalOf quote content) = .ok [⟨.text content, 1⟩] ∧
    MeansText (literalOf quote content) content ∧
    (∀ literal, tokenize literal = .ok [⟨.text content, 1⟩] → MeansText literal content) ∧
    ∀ source tokens, tokenize source = .ok tokens → ∀ piece ∈ cut source tokens,
      piece.token.kind = .text content →
        ∃ others, tokenize (source.take (piece.token.column - 1) ++
            (literalOf quote content ++ source.drop (piece.stop - 1))) = .ok others ∧
          others.map Token.kind = tokens.map Token.kind := by
  have spells := Lexeme.spells_literalOf isQuote content
  refine ⟨spells.tokenize, meansText_of_spells spells, ?_, ?_⟩
  · intro literal hread
    exact meansText_of_tokenize hread
  · intro source tokens hread piece hmem hkind
    exact tokenize_rewritten hread hmem hkind isQuote

/-- A text of both quotes, a line break and backslashes, with one before a letter and two at the
end. -/
def thorny : String :=
  "'\"\n\\n\\\\"

/-- Behind a name and before a fault the text is read back, and the fault is where it would be. -/
theorem texts_survive_quoting_thorny :
    escaped '"' thorny.toList = "'\\\"\n\\\\n\\\\\\\\".toList ∧
    tokenize (literalOf '"' thorny) = .ok [⟨.text thorny, 1⟩] ∧
    tokenize ("x".toList ++ (literalOf '"' thorny ++ "]".toList)) =
      .ok [⟨.word "x", 1⟩, ⟨.text thorny, 2⟩, ⟨.closeBracket, 15⟩] ∧
    tokenize ("x".toList ++ (literalOf '"' thorny ++ "#".toList)) =
      .error (.unexpectedCharacter 15 '#') := by
  have hsurvives := texts_survive_quoting (.inr rfl : IsQuote '"') thorny
  have hread : tokenize "x".toList = .ok [⟨.word "x", 1⟩] := by decide +kernel
  refine ⟨by decide +kernel, hsurvives.1, ?_, ?_⟩
  · exact (hsurvives.2.1 _ _ "]".toList hread).trans (by decide +kernel)
  · exact (hsurvives.2.1 _ _ "#".toList hread).trans (by decide +kernel)

end FormFlow

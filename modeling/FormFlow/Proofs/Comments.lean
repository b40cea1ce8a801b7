import FormFlow.Proofs.LineByLine
import Mathlib.Order.MinMax

/-!
# Comments and blank lines

The scan for a comment and the lexer agree on what stands between quotes. So a comment can stand
after any line that the lexer reads, and it changes nothing. A line that holds a comment or nothing
can stand anywhere: only the numbers of later lines change.
-/

namespace FormFlow

namespace Lexeme

theorem isPlain_of_isWhiteSpace {c : Char} (h : Unicode.isWhiteSpace c = true) :
    isPlain c = true := by
  by_contra hplain
  simp only [isPlain, Bool.not_eq_true, Bool.not_eq_false', Bool.or_eq_true, beq_iff_eq] at hplain
  rcases hplain with ((rfl | rfl) | rfl) | rfl
  all_goals exact absurd h (by decide)

end Lexeme

namespace Script

/-! ## Comments -/

/-- What stands from a comment's sign to the end of its line. -/
inductive IsComment : List Char → Prop
  | hash (text : List Char) : IsComment ('#' :: text)
  | slashes (text : List Char) : IsComment ('/' :: '/' :: text)

theorem stripCommentFrom_nil (state : Quoting) : stripCommentFrom state [] = [] := by
  cases state <;> rfl

theorem stripComment_comment {comment : List Char} (h : IsComment comment) :
    stripComment comment = [] := by
  cases h <;> rfl

variable {line after blank comment : List Char} {c : Char}

theorem stripCommentFrom_plain (h : Lexeme.isPlain c = true) :
    stripCommentFrom .outside (c :: after) = c :: stripCommentFrom .outside after := by
  simp only [Lexeme.isPlain, Bool.not_eq_true', Bool.or_eq_false_iff, beq_eq_false_iff_ne] at h
  obtain ⟨⟨⟨hsingle, hdouble⟩, hhash⟩, hslash⟩ := h
  rw [stripCommentFrom, if_neg hhash, if_neg fun h => hslash h.1]
  simp only [hsingle, hdouble, or_self, if_false]

theorem stripCommentFrom_append_of_plain (h : ∀ c ∈ line, Lexeme.isPlain c = true) :
    stripCommentFrom .outside (line ++ after) = line ++ stripCommentFrom .outside after := by
  induction line with
  | nil => rfl
  | cons c rest ih =>
      rw [List.forall_mem_cons] at h
      rw [List.cons_append, stripCommentFrom_plain h.1, ih h.2, List.cons_append]

/-- Between quotes the scan steps as the lexer does, and comes out at the same quote. -/
theorem stripCommentFrom_textBody {quote : Char} {raw content : List Char}
    (hquote : quote ≠ '\\') (body : Lexeme.TextBody quote raw content) :
    stripCommentFrom (.inside quote false) (raw ++ quote :: after) =
      raw ++ quote :: stripCommentFrom .outside after := by
  induction body with
  | done =>
      rw [List.nil_append, List.nil_append, stripCommentFrom]
      simp [hquote]
  | escaped _ _ ih | kept _ _ ih => simp [stripCommentFrom, ih]
  | plain hother hunescaped _ ih =>
      rw [List.cons_append, stripCommentFrom]
      simp [hother, hunescaped, ih]

theorem stripCommentFrom_written (h : Lexeme.Written line) :
    stripCommentFrom .outside (line ++ after) = line ++ stripCommentFrom .outside after := by
  cases h with
  | bare hplain => exact stripCommentFrom_append_of_plain hplain
  | quoted hquote body =>
      rename_i quote raw content
      have hopen : quote ≠ '#' ∧ quote ≠ '/' ∧ quote ≠ '\\' := by
        rcases hquote with rfl | rfl <;> decide
      have hbody : stripCommentFrom (.inside quote false) (raw ++ quote :: after) =
          raw ++ quote :: stripCommentFrom .outside after :=
        stripCommentFrom_textBody hopen.2.2 body
      rw [List.cons_append, stripCommentFrom, if_neg hopen.1, if_neg fun h => hopen.2.1 h.1]
      simp [hquote, hbody]

/-- Nothing of what the lexer reads is taken for a comment. -/
theorem stripCommentFrom_append {column : Nat} {tokens : List Token}
    (h : tokensFrom column line = .ok tokens) :
    stripCommentFrom .outside (line ++ after) = line ++ stripCommentFrom .outside after := by
  induction column, line using byLexemes generalizing tokens with
  | nil => rfl
  | white column c rest hwhite ih =>
      rw [tokensFrom_white hwhite] at h
      rw [List.cons_append, stripCommentFrom_plain (Lexeme.isPlain_of_isWhiteSpace hwhite), ih h,
        List.cons_append]
  | fault column c rest fault hplain hread =>
      rw [tokensFrom_fault hplain hread] at h
      cases h
  | lexeme column c more rest lexeme hplain hread hextra hwritten ih =>
      rw [tokensFrom_read hplain hread hextra] at h
      obtain ⟨later, hlater, -⟩ := Except.map_eq_ok_iff.mp h
      calc
        stripCommentFrom .outside (c :: (more ++ rest) ++ after)
        _ = stripCommentFrom .outside ((c :: more) ++ (rest ++ after)) := by simp
        _ = (c :: more) ++ stripCommentFrom .outside (rest ++ after) :=
          stripCommentFrom_written hwritten
        _ = c :: (more ++ rest) ++ stripCommentFrom .outside after := by simp [ih hlater]

theorem stripComment_of_tokenize {tokens : List Token} (h : tokenize line = .ok tokens) :
    stripComment line = line := by
  have happend : stripCommentFrom .outside (line ++ []) = line ++ stripCommentFrom .outside [] :=
    stripCommentFrom_append h
  rwa [List.append_nil, stripCommentFrom_nil, List.append_nil] at happend

theorem stripComment_append_comment {tokens : List Token} (h : tokenize line = .ok tokens)
    (hcomment : IsComment comment) : stripComment (line ++ comment) = line := by
  rw [stripComment, stripCommentFrom_append h, ← stripComment, stripComment_comment hcomment,
    List.append_nil]

/-! ## What is cut off -/

/-- A line is cut whatever follows it, or it is kept before everything that is no slash. -/
theorem stripCommentFrom_cuts_or_keeps (state : Quoting) (line : List Char) :
    (∀ after, stripCommentFrom state (line ++ after) = stripCommentFrom state line) ∨
    ∃ next, ∀ after, after.head? ≠ some '/' →
      stripCommentFrom state (line ++ after) = line ++ stripCommentFrom next after := by
  induction line generalizing state with
  | nil => exact .inr ⟨state, fun _ _ => rfl⟩
  | cons c rest ih =>
      cases state with
      | inside quote escaped =>
          simp only [List.cons_append, stripCommentFrom, List.cons.injEq, true_and]
          exact ih _
      | outside =>
          by_cases hhash : c = '#'
          · left
            intro after
            simp only [List.cons_append, stripCommentFrom, hhash, if_true]
          · by_cases hslash : c = '/'
            · subst hslash
              cases rest with
              | nil =>
                  -- a slash at the end of the line begins a comment only with one after it
                  refine .inr ⟨.outside, ?_⟩
                  intro after hafter
                  simp [stripCommentFrom, hafter]
              | cons d more =>
                  by_cases hdouble : d = '/'
                  · left
                    intro after
                    simp [stripCommentFrom, hdouble]
                  · simp only [List.cons_append, stripCommentFrom, hhash, if_false, List.head?_cons,
                      Option.some.injEq, hdouble, and_false, List.cons.injEq, true_and]
                    exact ih _
            · simp only [List.cons_append, stripCommentFrom, hhash, hslash, false_and, if_false,
                List.cons.injEq, true_and]
              exact ih _

theorem stripComment_cuts_or_keeps (line : List Char) :
    (∀ after, stripComment (line ++ after) = stripComment line) ∨
    stripComment line = line ∧ ∃ next, ∀ after, after.head? ≠ some '/' →
      stripComment (line ++ after) = line ++ stripCommentFrom next after := by
  rcases stripCommentFrom_cuts_or_keeps .outside line with hcuts | ⟨next, hkeeps⟩
  · exact .inl hcuts
  · have hline := hkeeps [] (Option.some_ne_none _).symm
    rw [List.append_nil, stripCommentFrom_nil, List.append_nil] at hline
    exact .inr ⟨hline, next, hkeeps⟩

theorem stripCommentFrom_blank (state : Quoting) (h : Text.isBlank blank = true) :
    stripCommentFrom state blank = blank := by
  induction blank generalizing state with
  | nil => cases state <;> rfl
  | cons c rest ih =>
      rw [Text.isBlank, List.all_cons, Bool.and_eq_true] at h
      cases state with
      | inside quote escaped => rw [stripCommentFrom, ih _ h.2]
      | outside => rw [stripCommentFrom_plain (Lexeme.isPlain_of_isWhiteSpace h.1), ih _ h.2]

/-- Without their comments, the lines differ at most in white space at the end of the second. -/
def SaysSame (line edited : List Char) : Prop :=
  ∃ space, Text.isBlank space = true ∧ stripComment edited = stripComment line ++ space

theorem saysSame_of_stripComment_eq {edited : List Char}
    (h : stripComment edited = stripComment line) : SaysSame line edited :=
  ⟨[], rfl, by rw [h, List.append_nil]⟩

theorem saysSame_append_blank (line : List Char) (h : Text.isBlank blank = true) :
    SaysSame line (line ++ blank) := by
  rcases stripComment_cuts_or_keeps line with hcuts | ⟨hline, next, hkeeps⟩
  · exact saysSame_of_stripComment_eq (hcuts blank)
  · have hblank : blank.head? ≠ some '/' := by
      intro hslash
      have hwhite := List.all_eq_true.mp h '/' (List.mem_of_mem_head? hslash)
      exact absurd hwhite (by decide)
    exact ⟨blank, h, by rw [hkeeps blank hblank, stripCommentFrom_blank next h, hline]⟩

/-- A comment after a line that could be read up to its own comment is cut off. -/
theorem saysSame_append_comment {tokens : List Token}
    (h : tokenize (stripComment line) = .ok tokens) (hblank : Text.isBlank blank = true)
    (hcomment : IsComment comment) : SaysSame line (line ++ (blank ++ comment)) := by
  rcases stripComment_cuts_or_keeps line with hcuts | ⟨hline, -⟩
  · exact saysSame_of_stripComment_eq (hcuts _)
  · rw [hline] at h
    have htokens : tokenize (line ++ blank) = .ok tokens := by
      rw [tokenize, tokensFrom_append_blank hblank, ← tokenize, h]
    refine ⟨blank, hblank, ?_⟩
    rw [hline, ← List.append_assoc, stripComment_append_comment htokens hcomment]

/-! ## Lines with the same statement -/

section Reading

variable {α : Type} {read : String → List Token → Except CompileFault α}

theorem SaysSame.lineStatement_eq {edited : List Char} (h : SaysSame line edited) :
    lineStatement read edited = lineStatement read line := by
  obtain ⟨space, hspace, hedited⟩ := h
  have hblank : Text.isBlank (stripComment line ++ space) = Text.isBlank (stripComment line) := by
    rw [Text.isBlank, List.all_append, ← Text.isBlank, ← Text.isBlank, hspace, Bool.and_true]
  simp only [lineStatement, hedited, hblank, tokenize, tokensFrom_append_blank hspace]

/-- Lines with the same statements have them at the same places. -/
theorem statementsFrom_congr {lines others : List (List Char)}
    (h : lines.map (lineStatement read) = others.map (lineStatement read)) (number : Nat) :
    statementsFrom read number lines = statementsFrom read number others := by
  induction lines generalizing others number with
  | nil =>
      obtain rfl := List.map_eq_nil_iff.mp h.symm
      rfl
  | cons line rest ih =>
      obtain ⟨other, more, rfl, hline, hrest⟩ := List.map_eq_cons_iff.mp h.symm
      rw [statementsFrom, statementsFrom, hline, ih hrest.symm]

/-! ## Lines that say nothing -/

/-- The line is blank, or a comment stands alone in it. -/
def Idle (line : List Char) : Prop :=
  ∃ blank comment, line = blank ++ comment ∧ Text.isBlank blank = true ∧
    (comment = [] ∨ IsComment comment)

theorem Idle.lineStatement (h : Idle line) : lineStatement read line = .ok none := by
  obtain ⟨blank, comment, rfl, hblank, rfl | hcomment⟩ := h
  · rw [List.append_nil]
    exact (saysSame_append_blank [] hblank).lineStatement_eq
  · have hnothing : tokenize (stripComment []) = .ok [] := tokensFrom_nil
    exact (saysSame_append_comment hnothing hblank hcomment).lineStatement_eq

theorem statementsFrom_idle_append {idle : List (List Char)} (h : ∀ line ∈ idle, Idle line)
    (number : Nat) (lines : List (List Char)) :
    statementsFrom read number (idle ++ lines) =
      statementsFrom read (number + idle.length) lines := by
  induction idle generalizing number with
  | nil => rfl
  | cons line rest ih =>
      rw [List.forall_mem_cons] at h
      rw [List.cons_append, statementsFrom, h.1.lineStatement, ih h.2, List.length_cons,
        Nat.add_right_comm, Nat.add_assoc]
      cases statementsFrom read (number + (rest.length + 1)) lines <;> rfl

end Reading

/-! ## Inserted lines -/

/-- Lines with others between them: those of gap `k` come before the line at index `k`. -/
def inserted (gaps : Nat → List (List Char)) : List (List Char) → List (List Char)
  | [] => gaps 0
  | line :: rest => gaps 0 ++ line :: inserted (fun k => gaps (k + 1)) rest

/-- The number of a line when those of the gaps before it have been inserted. -/
def shifted (gaps : Nat → List (List Char)) (number : Nat) : Nat :=
  number + ((List.range number).flatMap gaps).length

variable {gaps : Nat → List (List Char)}

theorem shifted_zero : shifted gaps 0 = 0 := rfl

theorem shifted_succ (number : Nat) : shifted gaps (number + 1) =
    (gaps 0).length + 1 + shifted (fun k => gaps (k + 1)) number := by
  rw [shifted, shifted, List.range_succ_eq_map, List.flatMap_cons, List.flatMap_map,
    List.length_append]
  simp only [Nat.succ_eq_add_one]
  omega

theorem shifted_mono : Monotone (shifted gaps) := by
  apply monotone_nat_of_le_succ
  intro number
  rw [shifted, shifted, List.range_succ, List.flatMap_append, List.length_append]
  omega

end Script

/-- The fault with its line renumbered. -/
def ScriptFault.renumbered (f : Nat → Nat) : ScriptFault → ScriptFault
  | .compile line fault => .compile (f line) fault
  | .runtime fault => .runtime fault

namespace Script

section Reading

variable {α : Type} {read : String → List Token → Except CompileFault α}

/-- The statements, or the fault in their place, with their lines renumbered. -/
def renumbered (f : Nat → Nat) (outcome : Except ScriptFault (List (Nat × α))) :
    Except ScriptFault (List (Nat × α)) :=
  (outcome.mapError (ScriptFault.renumbered f)).map (List.map (Prod.map f id))

/-- Inserted lines that say nothing renumber the statements after them: `f` gives each of the lines
that are left its number among all. -/
theorem statementsFrom_inserted {f : Nat → Nat} {number start : Nat} {lines : List (List Char)}
    (hidle : ∀ k, ∀ line ∈ gaps k, Idle line)
    (hf : ∀ k, f (number + k) + 1 = start + shifted gaps (k + 1)) :
    statementsFrom read start (inserted gaps lines) =
      renumbered f (statementsFrom read number lines) := by
  induction lines generalizing gaps number start with
  | nil =>
      have hgap : statementsFrom read start (gaps 0 ++ []) =
          statementsFrom read (start + (gaps 0).length) [] :=
        statementsFrom_idle_append (hidle 0) start []
      rw [List.append_nil] at hgap
      rw [inserted, hgap]
      rfl
  | cons line rest ih =>
      have hplace : start + (gaps 0).length = f number := by
        have hfirst : f number + 1 = start + shifted gaps 1 := hf 0
        rw [shifted_succ, shifted_zero] at hfirst
        omega
      have hlater : ∀ k, f (number + 1 + k) + 1 =
          f number + 1 + shifted (fun k => gaps (k + 1)) (k + 1) := by
        intro k
        have hnext := hf (k + 1)
        rw [shifted_succ, ← Nat.add_assoc, Nat.add_right_comm] at hnext
        omega
      rw [inserted, statementsFrom_idle_append (hidle 0), hplace, statementsFrom_cons,
        statementsFrom_cons, ih (fun k => hidle (k + 1)) hlater]
      cases lineFault? read line with
      | some cause => rfl
      | none =>
          cases statementsFrom read (number + 1) rest with
          | error fault => rfl
          | ok statements => cases statement? read line <;> rfl

end Reading

theorem firstLine?_map {β : Type} (form : StepStatement → Option β) (f : Nat → Nat)
    (statements : List (Nat × StepStatement)) :
    firstLine? form (statements.map (Prod.map f id)) = (firstLine? form statements).map f := by
  rw [firstLine?, firstLine?, List.find?_map, Option.map_map, Option.map_map]
  rfl

theorem ofStepStatements_map {f : Nat → Nat} (hf : Monotone f)
    (statements : List (Nat × StepStatement)) :
    ofStepStatements (statements.map (Prod.map f id)) =
      (ofStepStatements statements).mapError (ScriptFault.renumbered f) := by
  rw [ofStepStatements, ofStepStatements, firstLine?_map, firstLine?_map, List.filterMap_map,
    List.filterMap_map]
  cases firstLine? StepStatement.rule? statements with
  | none => rfl
  | some a =>
      cases firstLine? StepStatement.result? statements with
      | none => rfl
      | some b =>
          change Except.error (ScriptFault.compile (max (f a) (f b)) _) =
            .error (.compile (f (max a b)) _)
          rw [hf.map_max]

/-- Inserted lines that say nothing renumber the fault of a script, and change nothing else. -/
theorem compile_inserted {kind : ScriptKind} {code edited : String}
    (hidle : ∀ k, ∀ line ∈ gaps k, Idle line)
    (hedited : Text.lines edited.toList = inserted gaps (Text.lines code.toList)) :
    compile kind edited =
      (compile kind code).mapError (ScriptFault.renumbered (shifted gaps)) := by
  have hshifted : ∀ k, shifted gaps (1 + k) + 1 = 1 + shifted gaps (k + 1) := by
    intro k
    rw [Nat.add_comm 1 k, Nat.add_comm]
  cases kind with
  | fieldVisibility =>
      simp only [compile]
      rw [hedited, statementsFrom_inserted hidle hshifted]
      cases statementsFrom visibilityStatement 1 (Text.lines code.toList) with
      | error fault => rfl
      | ok statements =>
          change Except.ok (Script.visibility ((statements.map (Prod.map _ id)).map Prod.snd)) = _
          rw [List.map_map]
          rfl
  | stepAccess =>
      simp only [compile]
      rw [hedited, statementsFrom_inserted hidle hshifted]
      cases statementsFrom stepStatement 1 (Text.lines code.toList) with
      | error fault => rfl
      | ok statements => exact ofStepStatements_map shifted_mono statements

theorem compile_congr {kind : ScriptKind} {code edited : String}
    (h : ∀ {α : Type} (read : String → List Token → Except CompileFault α),
      (Text.lines edited.toList).map (lineStatement read) =
        (Text.lines code.toList).map (lineStatement read)) :
    compile kind edited = compile kind code := by
  cases kind with
  | fieldVisibility => simp only [compile, statementsFrom_congr (h _)]
  | stepAccess => simp only [compile, statementsFrom_congr (h _)]

/-- Nothing of a line that the lexer reads is taken for a comment, and a comment after it is cut
off. So a comment after a line that can be read up to its own comment changes nothing, and lines
that are blank or hold only a comment can stand anywhere: the line of a fault counts them. -/
theorem comments_say_nothing :
    (∀ line tokens, tokenize line = .ok tokens → stripComment line = line ∧
      ∀ comment, IsComment comment → stripComment (line ++ comment) = line) ∧
    ∀ kind code edited,
      (∀ before line blank comment after tokens,
        Text.lines code.toList = before ++ line :: after →
        Text.lines edited.toList = before ++ (line ++ (blank ++ comment)) :: after →
        Text.isBlank blank = true → IsComment comment →
        tokenize (stripComment line) = .ok tokens →
        compile kind edited = compile kind code) ∧
      ∀ gaps, (∀ k, ∀ line ∈ gaps k, Idle line) →
        Text.lines edited.toList = inserted gaps (Text.lines code.toList) →
        compile kind edited =
          (compile kind code).mapError (ScriptFault.renumbered (shifted gaps)) := by
  refine ⟨?_, ?_⟩
  · intro line tokens htokens
    refine ⟨stripComment_of_tokenize htokens, ?_⟩
    intro comment hcomment
    exact stripComment_append_comment htokens hcomment
  · intro kind code edited
    refine ⟨?_, ?_⟩
    · intro before line blank comment after tokens hcode hedited hblank hcomment htokens
      apply compile_congr
      intro α read
      have hline : lineStatement read (line ++ (blank ++ comment)) = lineStatement read line :=
        (saysSame_append_comment htokens hblank hcomment).lineStatement_eq
      rw [hcode, hedited, List.map_append, List.map_append, List.map_cons, List.map_cons, hline]
    · intro gaps hidle hedited
      exact compile_inserted hidle hedited

/-- A number sign between quotes is kept, and the fault in the second line is found there, or in the
fourth below two lines that say nothing. -/
theorem comments_say_nothing_quoted :
    let guarded := "hidden pay when mark == '#'".toList
    let fault (line : Nat) : Except ScriptFault Script :=
      .error (.compile line (.foreignStatement "show" .fieldVisibility))
    stripComment (guarded ++ "// why".toList) = guarded ∧
      compile .fieldVisibility "hidden pay when mark == '#' // why\nshow pay" = fault 2 ∧
      compile .fieldVisibility "\n# first\nhidden pay when mark == '#'\nshow pay" = fault 4 := by
  intro guarded fault
  let code := "hidden pay when mark == '#'\nshow pay"
  let gaps : Nat → List (List Char)
    | 0 => [[], "# first".toList]
    | _ => []
  obtain ⟨hstrip, hcompile⟩ := comments_say_nothing
  have hread : (tokenize guarded).toOption.isSome = true := by decide +kernel
  obtain ⟨tokens, hsome⟩ := Option.isSome_iff_exists.mp hread
  have htokens : tokenize guarded = .ok tokens := Except.toOption_eq_some_iff.mp hsome
  have hcode : compile .fieldVisibility code = fault 2 := by decide +kernel
  have hidle : ∀ k, ∀ line ∈ gaps k, Idle line := by
    intro k line hmem
    cases k with
    | zero =>
        rcases List.mem_pair.mp hmem with rfl | rfl
        · exact ⟨[], [], rfl, rfl, .inl rfl⟩
        · exact ⟨[], _, rfl, rfl, .inr (.hash _)⟩
    | succ k => cases hmem
  obtain ⟨hkept, hcut⟩ := hstrip guarded tokens htokens
  have hend : compile .fieldVisibility _ = compile .fieldVisibility code :=
    (hcompile .fieldVisibility code "hidden pay when mark == '#' // why\nshow pay").1 [] guarded
      [' '] "// why".toList ["show pay".toList] tokens (by decide +kernel) (by decide +kernel) rfl
      (.slashes _) (hkept.symm ▸ htokens)
  have hmoved : compile .fieldVisibility _ = _ :=
    (hcompile .fieldVisibility code "\n# first\nhidden pay when mark == '#'\nshow pay").2 gaps hidle
      (by decide +kernel)
  refine ⟨hcut _ (.slashes _), ?_, ?_⟩
  · rw [hend, hcode]
  · rw [hmoved, hcode]
    rfl

end Script

end FormFlow

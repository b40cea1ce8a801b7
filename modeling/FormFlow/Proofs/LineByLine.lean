import FormFlow.Proofs.Spacing
import FormFlow.Script.Basic
import Mathlib.Data.List.Forall2

/-!
# Scripts are compiled line by line

A script compiles exactly if each of its lines does on its own, except that a step access script may
not mix rules and assignments, and it has the statements of its lines in their order. Its fault is
that of its first line that does not compile.
-/

namespace FormFlow

/-! ## Lines -/

namespace Text

theorem mem_consLine {c : Char} {lines : List (List Char)} {line : List Char}
    (h : line ∈ consLine c lines) : (∃ rest, line = c :: rest ∧ (rest = [] ∨ rest ∈ lines)) ∨
      line ∈ lines := by
  cases lines with
  | nil => exact .inl ⟨[], List.mem_singleton.mp h, .inl rfl⟩
  | cons first lines =>
      rcases List.mem_cons.mp h with rfl | h
      · exact .inl ⟨first, rfl, .inr List.mem_cons_self⟩
      · exact .inr (List.mem_cons_of_mem first h)

/-- No line holds a line feed. -/
theorem not_mem_of_mem_lines {text line : List Char} (h : line ∈ lines text) : '\n' ∉ line := by
  fun_induction lines text generalizing line with
  | case1 => cases h
  | case2 rest ih =>
      rcases List.mem_cons.mp h with rfl | h
      · exact List.not_mem_nil
      · exact ih h
  | case3 rest ih =>
      rcases List.mem_cons.mp h with rfl | h
      · exact List.not_mem_nil
      · exact ih h
  | case4 c rest hfeed _ ih =>
      rcases mem_consLine h with ⟨more, rfl, rfl | hmore⟩ | h
      · simpa using Ne.symm hfeed
      · simp [Ne.symm hfeed, ih hmore]
      · exact ih h

/-- A text without a line feed is one line, or none if it is empty. -/
theorem lines_of_not_mem {text : List Char} (h : '\n' ∉ text) :
    lines text = if text = [] then [] else [text] := by
  induction text with
  | nil => rfl
  | cons c rest ih =>
      rw [List.mem_cons, not_or] at h
      rw [lines, ih h.2, if_neg (List.cons_ne_nil c rest)]
      · cases rest <;> rfl
      · exact Ne.symm h.1
      · rintro after - rfl
        exact h.2 List.mem_cons_self

end Text

namespace Script

/-! ## Statements of lines -/

section Reading

variable {α : Type} (read : String → List Token → Except CompileFault α)

/-- Why a line is no statement, if it cannot be read. -/
def lineFault? (line : List Char) : Option CompileFault :=
  match lineStatement read line with
  | .error cause => some cause
  | .ok _ => none

/-- The statement in a line that can be read. -/
def statement? (line : List Char) : Option α :=
  match lineStatement read line with
  | .error _ => none
  | .ok found => found

/-- The statements of lines that are numbered from `number`. -/
def numbered (number : Nat) : List (List Char) → List (Nat × α)
  | [] => []
  | line :: rest =>
      ((statement? read line).map (number, ·)).toList ++ numbered (number + 1) rest

variable {read} {number : Nat}

theorem lineStatement_of_lineFault? {line : List Char} (h : lineFault? read line = none) :
    lineStatement read line = .ok (statement? read line) := by
  unfold lineFault? at h
  unfold statement?
  cases hline : lineStatement read line with
  | error cause =>
      rw [hline] at h
      cases h
  | ok found => rfl

theorem statementsFrom_cons (line : List Char) (rest : List (List Char)) :
    statementsFrom read number (line :: rest) =
      match lineFault? read line with
      | some cause => .error (.compile number cause)
      | none => (statementsFrom read (number + 1) rest).map
          (((statement? read line).map (number, ·)).toList ++ ·) := by
  rw [statementsFrom, lineFault?, statement?]
  cases lineStatement read line with
  | error cause => rfl
  | ok found =>
      cases statementsFrom read (number + 1) rest with
      | error fault => rfl
      | ok statements => cases found <;> rfl

/-- Lines that can be read have their statements in order. -/
theorem statementsFrom_of_readable {lines : List (List Char)}
    (h : ∀ line ∈ lines, lineFault? read line = none) :
    statementsFrom read number lines = .ok (numbered read number lines) := by
  induction lines generalizing number with
  | nil => rfl
  | cons line rest ih =>
      rw [List.forall_mem_cons] at h
      rw [statementsFrom_cons, h.1, ih h.2]
      rfl

/-- The first line that cannot be read is the fault. -/
theorem statementsFrom_of_fault {before after : List (List Char)} {line : List Char}
    {cause : CompileFault} (hbefore : ∀ earlier ∈ before, lineFault? read earlier = none)
    (hline : lineFault? read line = some cause) :
    statementsFrom read number (before ++ line :: after) =
      .error (.compile (number + before.length) cause) := by
  induction before generalizing number with
  | nil => rw [List.nil_append, statementsFrom_cons, hline]; rfl
  | cons earlier before ih =>
      rw [List.forall_mem_cons] at hbefore
      rw [List.cons_append, statementsFrom_cons, hbefore.1, ih hbefore.2, List.length_cons,
        Nat.add_right_comm, Nat.add_assoc]
      rfl

theorem map_numbered (lines : List (List Char)) :
    (numbered read number lines).map Prod.snd = lines.filterMap (statement? read) := by
  induction lines generalizing number with
  | nil => rfl
  | cons line rest ih =>
      rw [numbered, List.map_append, ih, List.filterMap_cons]
      cases statement? read line <;> rfl

end Reading

/-! ## One line alone -/

/-- Why a line of a script of this kind is no statement, if it cannot be read. -/
def fault? : ScriptKind → List Char → Option CompileFault
  | .fieldVisibility => lineFault? visibilityStatement
  | .stepAccess => lineFault? stepStatement

/-- The script that a line is on its own, if it can be read. -/
def ofLine (kind : ScriptKind) (line : List Char) : Script :=
  match kind with
  | .fieldVisibility => .visibility (statement? visibilityStatement line).toList
  | .stepAccess =>
      match statement? stepStatement line with
      | some (.rule stated) => .rules [stated]
      | some (.assign result) => .assignments [result]
      | none => .assignments []

theorem statementsFrom_line {α : Type} (read : String → List Token → Except CompileFault α)
    {line : List Char} (h : '\n' ∉ line) :
    statementsFrom read 1 (Text.lines line) =
      match lineFault? read line with
      | some cause => .error (.compile 1 cause)
      | none => .ok ((statement? read line).map (1, ·)).toList := by
  rw [Text.lines_of_not_mem h]
  by_cases hnil : line = []
  · subst hnil
    rfl
  · rw [if_neg hnil, statementsFrom_cons]
    cases lineFault? read line with
    | some cause => rfl
    | none => exact congrArg Except.ok (List.append_nil _)

theorem compile_line {kind : ScriptKind} {line : List Char} (h : '\n' ∉ line) :
    compile kind (String.ofList line) =
      match fault? kind line with
      | some cause => .error (.compile 1 cause)
      | none => .ok (ofLine kind line) := by
  cases kind with
  | fieldVisibility =>
      simp only [compile, String.toList_ofList, statementsFrom_line _ h, fault?, ofLine]
      cases lineFault? visibilityStatement line with
      | some cause => rfl
      | none => cases statement? visibilityStatement line <;> rfl
  | stepAccess =>
      simp only [compile, String.toList_ofList, statementsFrom_line _ h, fault?, ofLine]
      cases lineFault? stepStatement line with
      | some cause => rfl
      | none =>
          cases statement? stepStatement line with
          | none => rfl
          | some found => cases found <;> rfl

theorem compile_line_eq_ok_iff {kind : ScriptKind} {line : List Char} (h : '\n' ∉ line)
    {script : Script} : compile kind (String.ofList line) = .ok script ↔
      fault? kind line = none ∧ script = ofLine kind line := by
  rw [compile_line h]
  cases fault? kind line with
  | some cause => simp
  | none => simp [eq_comm]

/-! ## Rules and assignments -/

/-- The word that a line begins with. -/
def keyword? (line : List Char) : Option String :=
  match tokenize (stripComment line) with
  | .ok (first :: _) => first.word?
  | _ => none

def isRuleLine (line : List Char) : Bool :=
  keyword? line = some "allow" || keyword? line = some "deny"

def isAssignmentLine (line : List Char) : Bool :=
  keyword? line = some "result" || keyword? line = some "allowed"

/-- Both rules and assignments stand among the lines of a step access script. -/
def Mixed (kind : ScriptKind) (lines : List (List Char)) : Prop :=
  kind = .stepAccess ∧ lines.any isRuleLine = true ∧ lines.any isAssignmentLine = true

theorem readAssignment_eq_ok {keyword : String} {tokens : List Token} {statement : StepStatement}
    (h : readAssignment keyword tokens = .ok statement) : ∃ result, statement = .assign result := by
  unfold readAssignment at h
  split at h
  · split at h
    · cases h
      exact ⟨_, rfl⟩
    · cases h
  · cases h

/-- The first word of a statement says which form it has. -/
theorem stepStatement_form {keyword : String} {rest : List Token} {statement : StepStatement}
    (h : stepStatement keyword rest = .ok statement) :
    statement.rule?.isSome = (decide (keyword = "allow") || decide (keyword = "deny")) ∧
      statement.result?.isSome =
        (decide (keyword = "result") || decide (keyword = "allowed")) := by
  unfold stepStatement at h
  split at h
  case h_1 | h_2 =>
    obtain ⟨guardedBy, -, h⟩ := Except.bind_eq_ok_iff.mp h
    cases h
    exact ⟨rfl, rfl⟩
  case h_3 | h_4 =>
    obtain ⟨result, rfl⟩ := readAssignment_eq_ok h
    exact ⟨rfl, rfl⟩
  case h_5 => cases h

/-- A line that can be read is a rule or an assignment as its first word says. -/
theorem keyword_form {line : List Char} (h : lineFault? stepStatement line = none) :
    isRuleLine line = (statement? stepStatement line).any (·.rule?.isSome) ∧
      isAssignmentLine line = (statement? stepStatement line).any (·.result?.isSome) := by
  have hline := lineStatement_of_lineFault? h
  unfold lineStatement at hline
  unfold isRuleLine isAssignmentLine keyword?
  simp only at hline
  split at hline
  next hblank =>
    rw [tokenize, tokensFrom_blank hblank, ← Except.ok.inj hline]
    exact ⟨rfl, rfl⟩
  next =>
    split at hline
    next => cases hline
    next hnone =>
      rw [hnone, ← Except.ok.inj hline]
      exact ⟨rfl, rfl⟩
    next first rest htokens =>
      rw [htokens]
      split at hline
      next => cases hline
      next keyword hkeyword =>
        obtain ⟨statement, hstatement, hfound⟩ := Except.map_eq_ok_iff.mp hline
        rw [← hfound]
        simp only [hkeyword, Option.some.injEq]
        obtain ⟨hrule, hresult⟩ := stepStatement_form hstatement
        exact ⟨hrule.symm, hresult.symm⟩

theorem firstLine?_numbered {β : Type} {form : StepStatement → Option β} {p : List Char → Bool}
    {lines : List (List Char)}
    (h : ∀ line ∈ lines, p line = (statement? stepStatement line).any fun s => (form s).isSome)
    (number : Nat) :
    firstLine? form (numbered stepStatement number lines) =
      (lines.findIdx? p).map (number + ·) := by
  induction lines generalizing number with
  | nil => rfl
  | cons line rest ih =>
      rw [List.forall_mem_cons] at h
      have hrest := ih h.2 (number + 1)
      rw [firstLine?] at hrest
      rw [firstLine?, numbered, List.findIdx?_cons, h.1]
      cases statement? stepStatement line with
      | none =>
          rw [Option.map_none, Option.toList_none, List.nil_append, hrest]
          cases rest.findIdx? p with
          | none => rfl
          | some place =>
              change some (number + 1 + place) = some (number + (place + 1))
              rw [Nat.add_right_comm, Nat.add_assoc]
      | some statement =>
          rw [Option.map_some, Option.toList_some, List.singleton_append, List.find?_cons]
          cases hform : (form statement).isSome with
          | true => simp [hform]
          | false =>
              simp only [hform, hrest, Option.any_some]
              cases rest.findIdx? p with
              | none => rfl
              | some place =>
                  change some (number + 1 + place) = some (number + (place + 1))
                  rw [Nat.add_right_comm, Nat.add_assoc]

/-! ## Lines put together -/

/-- The visibility statements of a script. -/
def visibilities : Script → List VisibilityStatement
  | .visibility statements => statements
  | _ => []

def stepRules : Script → List StepRule
  | .rules ordered => ordered
  | _ => []

def results : Script → List Expr
  | .assignments ordered => ordered
  | _ => []

/-- The script of a kind with the statements of several scripts, one after the other. -/
def concat (kind : ScriptKind) (scripts : List Script) : Script :=
  match kind with
  | .fieldVisibility => .visibility (scripts.flatMap visibilities)
  | .stepAccess =>
      match scripts.flatMap stepRules with
      | [] => .assignments (scripts.flatMap results)
      | ordered => .rules ordered

theorem stepRules_ofLine (line : List Char) : (ofLine .stepAccess line).stepRules =
    ((statement? stepStatement line).bind StepStatement.rule?).toList := by
  rw [ofLine]
  cases statement? stepStatement line with
  | none => rfl
  | some statement => cases statement <;> rfl

theorem results_ofLine (line : List Char) : (ofLine .stepAccess line).results =
    ((statement? stepStatement line).bind StepStatement.result?).toList := by
  rw [ofLine]
  cases statement? stepStatement line with
  | none => rfl
  | some statement => cases statement <;> rfl

/-- What the statements of lines are, each in the form that is asked for. -/
theorem filterMap_numbered {β : Type} (form : StepStatement → Option β) (number : Nat)
    (lines : List (List Char)) :
    (numbered stepStatement number lines).filterMap (fun statement => form statement.2) =
      lines.flatMap fun line => ((statement? stepStatement line).bind form).toList := by
  rw [← List.filterMap_eq_flatMap_toList, ← List.filterMap_filterMap, ← map_numbered,
    List.filterMap_map]
  rfl

variable {lines : List (List Char)}

/-- Lines put together are rules if there is a rule among them. -/
theorem concat_stepAccess (h : ∀ line ∈ lines, lineFault? stepStatement line = none)
    (number : Nat) :
    concat .stepAccess (lines.map (ofLine .stepAccess)) =
      if lines.any isRuleLine then
        .rules ((numbered stepStatement number lines).filterMap (·.2.rule?))
      else .assignments ((numbered stepStatement number lines).filterMap (·.2.result?)) := by
  have hrules : (lines.map (ofLine .stepAccess)).flatMap stepRules =
      (numbered stepStatement number lines).filterMap (·.2.rule?) := by
    rw [filterMap_numbered, List.flatMap_map]
    exact congrArg (lines.flatMap ·) (funext stepRules_ofLine)
  have hresults : (lines.map (ofLine .stepAccess)).flatMap results =
      (numbered stepStatement number lines).filterMap (·.2.result?) := by
    rw [filterMap_numbered, List.flatMap_map]
    exact congrArg (lines.flatMap ·) (funext results_ofLine)
  have hempty : (numbered stepStatement number lines).filterMap (·.2.rule?) = [] ↔
      lines.any isRuleLine = false := by
    rw [filterMap_numbered, List.flatMap_eq_nil_iff, List.any_eq_false]
    apply forall₂_congr
    intro line hmem
    rw [(keyword_form (h line hmem)).1]
    cases hline : statement? stepStatement line with
    | none => simp
    | some statement => cases statement <;> simp [StepStatement.rule?]
  rw [concat, hrules, hresults]
  cases hany : lines.any isRuleLine with
  | false =>
      simp only [hempty.mpr hany]
      rfl
  | true =>
      cases hlist : (numbered stepStatement number lines).filterMap (·.2.rule?) with
      | nil => exact absurd (hempty.mp hlist) (by simp [hany])
      | cons rule rest => rfl

theorem concat_fieldVisibility (number : Nat) :
    concat .fieldVisibility (lines.map (ofLine .fieldVisibility)) =
      .visibility ((numbered visibilityStatement number lines).map Prod.snd) := by
  rw [map_numbered, List.filterMap_eq_flatMap_toList, concat, List.flatMap_map]
  rfl

section Whole

variable {kind : ScriptKind} {code : String}

/-- The first line that cannot be read is the fault of a script. -/
theorem compile_of_fault {before after : List (List Char)} {line : List Char}
    {cause : CompileFault} (hcode : Text.lines code.toList = before ++ line :: after)
    (hbefore : ∀ earlier ∈ before, fault? kind earlier = none)
    (hline : fault? kind line = some cause) :
    compile kind code = .error (.compile (before.length + 1) cause) := by
  rw [Nat.add_comm]
  cases kind with
  | fieldVisibility =>
      simp only [compile]
      rw [hcode, statementsFrom_of_fault hbefore hline]
      rfl
  | stepAccess =>
      simp only [compile]
      rw [hcode, statementsFrom_of_fault hbefore hline]
      rfl

/-- A step access script whose lines can all be read fails only if it mixes rules and
assignments. -/
theorem compile_stepAccess (h : ∀ line ∈ lines, lineFault? stepStatement line = none)
    (hcode : Text.lines code.toList = lines) :
    compile .stepAccess code =
      if lines.any isRuleLine && lines.any isAssignmentLine then
        .error (.compile (max (lines.findIdx isRuleLine + 1) (lines.findIdx isAssignmentLine + 1))
          .mixedForms)
      else .ok (concat .stepAccess (lines.map (ofLine .stepAccess))) := by
  have hrule : firstLine? StepStatement.rule? (numbered stepStatement 1 lines) =
      (lines.findIdx? isRuleLine).map (1 + ·) :=
    firstLine?_numbered (fun line hmem => (keyword_form (h line hmem)).1) 1
  have hresult : firstLine? StepStatement.result? (numbered stepStatement 1 lines) =
      (lines.findIdx? isAssignmentLine).map (1 + ·) :=
    firstLine?_numbered (fun line hmem => (keyword_form (h line hmem)).2) 1
  have hcompile : compile .stepAccess code = ofStepStatements (numbered stepStatement 1 lines) := by
    simp only [compile]
    rw [hcode, statementsFrom_of_readable h]
    rfl
  rw [hcompile, ofStepStatements, hrule, hresult, concat_stepAccess h 1,
    ← List.findIdx?_isSome, ← List.findIdx?_isSome]
  cases hfirst : lines.findIdx? isRuleLine with
  | none => rfl
  | some a =>
      cases hsecond : lines.findIdx? isAssignmentLine with
      | none => rfl
      | some b =>
          obtain ⟨-, rfl⟩ := List.findIdx?_eq_some_iff_findIdx_eq.mp hfirst
          obtain ⟨-, rfl⟩ := List.findIdx?_eq_some_iff_findIdx_eq.mp hsecond
          simp [Nat.add_comm 1]

theorem compile_fieldVisibility_lines
    (h : ∀ line ∈ lines, lineFault? visibilityStatement line = none)
    (hcode : Text.lines code.toList = lines) :
    compile .fieldVisibility code =
      .ok (concat .fieldVisibility (lines.map (ofLine .fieldVisibility))) := by
  simp only [compile]
  rw [hcode, statementsFrom_of_readable h, concat_fieldVisibility 1]
  rfl

/-- Lines that can all be read are a script, unless they mix rules and assignments. -/
theorem compile_of_readable (h : ∀ line ∈ lines, fault? kind line = none)
    (hcode : Text.lines code.toList = lines) (hmixed : ¬ Mixed kind lines) :
    compile kind code = .ok (concat kind (lines.map (ofLine kind))) := by
  cases kind with
  | fieldVisibility => exact compile_fieldVisibility_lines h hcode
  | stepAccess =>
      rw [compile_stepAccess h hcode, if_neg]
      rw [Bool.and_eq_true]
      exact fun hboth => hmixed ⟨rfl, hboth⟩

theorem compile_of_mixed (h : ∀ line ∈ lines, fault? kind line = none)
    (hcode : Text.lines code.toList = lines) (hmixed : Mixed kind lines) :
    compile kind code = .error (.compile
      (max (lines.findIdx isRuleLine + 1) (lines.findIdx isAssignmentLine + 1)) .mixedForms) := by
  obtain ⟨rfl, hrule, hresult⟩ := hmixed
  rw [compile_stepAccess h hcode, hrule, hresult]
  rfl

end Whole

/-- Either a first line cannot be read, or all can. -/
theorem exists_first_fault_or (kind : ScriptKind) (lines : List (List Char)) :
    (∃ before line after cause, lines = before ++ line :: after ∧
      (∀ earlier ∈ before, fault? kind earlier = none) ∧ fault? kind line = some cause) ∨
    ∀ line ∈ lines, fault? kind line = none := by
  induction lines with
  | nil => exact .inr nofun
  | cons first rest ih =>
      cases hfirst : fault? kind first with
      | some cause => exact .inl ⟨[], first, rest, cause, rfl, nofun, hfirst⟩
      | none =>
          rcases ih with ⟨before, line, after, cause, rfl, hbefore, hline⟩ | hall
          · refine .inl ⟨first :: before, line, after, cause, rfl, ?_, hline⟩
            exact List.forall_mem_cons.mpr ⟨hfirst, hbefore⟩
          · exact .inr (List.forall_mem_cons.mpr ⟨hfirst, hall⟩)

/-- A script compiles exactly if all its lines can be read and do not mix rules and assignments. -/
theorem compile_eq_ok_iff {kind : ScriptKind} {code : String} {script : Script} :
    compile kind code = .ok script ↔
      (∀ line ∈ Text.lines code.toList, fault? kind line = none) ∧
      ¬ Mixed kind (Text.lines code.toList) ∧
      script = concat kind ((Text.lines code.toList).map (ofLine kind)) := by
  constructor
  · intro hok
    rcases exists_first_fault_or kind (Text.lines code.toList) with
      ⟨before, line, after, cause, hcode, hbefore, hline⟩ | hall
    · rw [compile_of_fault hcode hbefore hline] at hok
      cases hok
    · by_cases hmixed : Mixed kind (Text.lines code.toList)
      · rw [compile_of_mixed hall rfl hmixed] at hok
        cases hok
      · rw [compile_of_readable hall rfl hmixed] at hok
        exact ⟨hall, hmixed, (Except.ok.inj hok).symm⟩
  · rintro ⟨hall, hmixed, rfl⟩
    exact compile_of_readable hall rfl hmixed

/-- The fault of a script is its first line that cannot be read, or that rules and assignments are
mixed. -/
theorem compile_eq_error_iff {kind : ScriptKind} {code : String} {fault : ScriptFault} :
    compile kind code = .error fault ↔
      (∃ before line after cause, Text.lines code.toList = before ++ line :: after ∧
        ((∀ earlier ∈ before, fault? kind earlier = none) ∧ fault? kind line = some cause) ∧
        fault = .compile (before.length + 1) cause) ∨
      ((∀ line ∈ Text.lines code.toList, fault? kind line = none) ∧
        Mixed kind (Text.lines code.toList) ∧
        fault = .compile (max ((Text.lines code.toList).findIdx isRuleLine + 1)
          ((Text.lines code.toList).findIdx isAssignmentLine + 1)) .mixedForms) := by
  constructor
  · intro herror
    rcases exists_first_fault_or kind (Text.lines code.toList) with
      ⟨before, line, after, cause, hcode, hbefore, hline⟩ | hall
    · rw [compile_of_fault hcode hbefore hline] at herror
      exact .inl ⟨before, line, after, cause, hcode, ⟨hbefore, hline⟩,
        (Except.error.inj herror).symm⟩
    · by_cases hmixed : Mixed kind (Text.lines code.toList)
      · rw [compile_of_mixed hall rfl hmixed] at herror
        exact .inr ⟨hall, hmixed, (Except.error.inj herror).symm⟩
      · rw [compile_of_readable hall rfl hmixed] at herror
        cases herror
  · rintro (⟨before, line, after, cause, hcode, ⟨hbefore, hline⟩, rfl⟩ | ⟨hall, hmixed, rfl⟩)
    · exact compile_of_fault hcode hbefore hline
    · exact compile_of_mixed hall rfl hmixed

/-- Lines that compile on their own are those that can be read. -/
theorem forall₂_compile_iff {kind : ScriptKind} {lines : List (List Char)}
    (hfeed : ∀ line ∈ lines, '\n' ∉ line) {alone : List Script} :
    List.Forall₂ (fun line script => compile kind (String.ofList line) = .ok script) lines alone ↔
      (∀ line ∈ lines, fault? kind line = none) ∧ alone = lines.map (ofLine kind) := by
  induction lines generalizing alone with
  | nil => simp [List.forall₂_nil_left_iff]
  | cons line rest ih =>
      rw [List.forall_mem_cons] at hfeed
      simp only [List.forall₂_cons_left_iff, ih hfeed.2, compile_line_eq_ok_iff hfeed.1,
        List.forall_mem_cons, List.map_cons]
      constructor
      · rintro ⟨_, _, ⟨hline, rfl⟩, ⟨hrest, rfl⟩, rfl⟩
        exact ⟨⟨hline, hrest⟩, rfl⟩
      · rintro ⟨⟨hline, hrest⟩, rfl⟩
        exact ⟨_, _, ⟨hline, rfl⟩, ⟨hrest, rfl⟩, rfl⟩

/-- A line that does not compile on its own cannot be read. -/
theorem compile_line_eq_error_iff {kind : ScriptKind} {line : List Char} (h : '\n' ∉ line)
    {cause : CompileFault} :
    compile kind (String.ofList line) = .error (.compile 1 cause) ↔
      fault? kind line = some cause := by
  rw [compile_line h]
  cases fault? kind line <;> simp

theorem exists_compile_line_iff {kind : ScriptKind} {line : List Char} (h : '\n' ∉ line) :
    (∃ each, compile kind (String.ofList line) = .ok each) ↔ fault? kind line = none := by
  simp [compile_line_eq_ok_iff h]

/-- A script compiles exactly if each of its lines does so on its own, unless it is a step access
script with both rules and assignments, and it has the statements of its lines in their order. The
fault of a script is that of its first line that does not compile on its own. If they all do, it is
on the line where the second form first appears. -/
theorem scripts_compile_line_by_line (kind : ScriptKind) (code : String) :
    (∀ script, compile kind code = .ok script ↔ ∃ alone,
      List.Forall₂ (fun line each => compile kind (String.ofList line) = .ok each)
        (Text.lines code.toList) alone ∧
      ¬ Mixed kind (Text.lines code.toList) ∧ script = concat kind alone) ∧
    ∀ fault, compile kind code = .error fault ↔
      (∃ before line after cause, Text.lines code.toList = before ++ line :: after ∧
        (∀ earlier ∈ before, ∃ each, compile kind (String.ofList earlier) = .ok each) ∧
        compile kind (String.ofList line) = .error (.compile 1 cause) ∧
        fault = .compile (before.length + 1) cause) ∨
      ((∀ line ∈ Text.lines code.toList, ∃ each, compile kind (String.ofList line) = .ok each) ∧
        Mixed kind (Text.lines code.toList) ∧
        fault = .compile (max ((Text.lines code.toList).findIdx isRuleLine + 1)
          ((Text.lines code.toList).findIdx isAssignmentLine + 1)) .mixedForms) := by
  have hfeed : ∀ line ∈ Text.lines code.toList, '\n' ∉ line :=
    fun line => Text.not_mem_of_mem_lines
  have halone : ∀ lines : List (List Char), (∀ line ∈ lines, '\n' ∉ line) →
      ((∀ line ∈ lines, ∃ each, compile kind (String.ofList line) = .ok each) ↔
        ∀ line ∈ lines, fault? kind line = none) :=
    fun lines h => forall₂_congr fun line hmem => exists_compile_line_iff (h line hmem)
  constructor
  · intro script
    rw [compile_eq_ok_iff]
    constructor
    · rintro ⟨hall, hmixed, hscript⟩
      exact ⟨_, (forall₂_compile_iff hfeed).mpr ⟨hall, rfl⟩, hmixed, hscript⟩
    · rintro ⟨alone, hscripts, hmixed, hscript⟩
      obtain ⟨hall, rfl⟩ := (forall₂_compile_iff hfeed).mp hscripts
      exact ⟨hall, hmixed, hscript⟩
  · intro fault
    rw [compile_eq_error_iff, halone _ hfeed]
    apply or_congr_left
    apply exists₄_congr
    intro before line after cause
    apply and_congr_right
    intro hcode
    rw [hcode, List.forall_mem_append, List.forall_mem_cons] at hfeed
    rw [halone before hfeed.1, compile_line_eq_error_iff hfeed.2.1, and_assoc]

end Script

end FormFlow

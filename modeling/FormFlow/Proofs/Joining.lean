import FormFlow.Proofs.Comments
import FormFlow.Proofs.LooseEquality
import FormFlow.Proofs.Visibility

/-!
# Merging validators and joining their codes

A text and another after a line feed have the lines of both, up to carriage returns and empty lines,
which no statement depends on. So the code of several scripts, joined by line feeds, has their
statements in order, and one validator with it gives what the validators give together.
-/

namespace FormFlow

/-! ## Lines of joined texts -/

namespace Text

variable {lines' closed : List (List Char)} {c : Char}

/-- How the lines of a text change when a line feed is put after it: there is an empty line more,
nothing changes, or the last line loses the carriage return at its end. -/
inductive Closed : List (List Char) → List (List Char) → Prop
  | ended (lines : List (List Char)) : Closed lines (lines ++ [[]])
  | same (front : List (List Char)) (last : List Char) :
      Closed (front ++ [last]) (front ++ [last])
  | cut (front : List (List Char)) (last : List Char) :
      Closed (front ++ [last ++ ['\r']]) (front ++ [last])

theorem Closed.cons (h : Closed lines' closed) (line : List Char) :
    Closed (line :: lines') (line :: closed) := by
  cases h with
  | ended => exact .ended (line :: lines')
  | same front last => exact .same (line :: front) last
  | cut front last => exact .cut (line :: front) last

theorem Closed.consLine (h : Closed lines' closed) (c : Char) (after : List (List Char)) :
    Closed (consLine c lines') (consLine c closed) ∧
      Text.consLine c (closed ++ after) = Text.consLine c closed ++ after := by
  cases h with
  | ended =>
      cases lines' with
      | nil => exact ⟨.same [] [c], rfl⟩
      | cons first rest => exact ⟨.ended ((c :: first) :: rest), rfl⟩
  | same front last =>
      cases front with
      | nil => exact ⟨.same [] (c :: last), rfl⟩
      | cons first front => exact ⟨.same ((c :: first) :: front) last, rfl⟩
  | cut front last =>
      cases front with
      | nil => exact ⟨.cut [] (c :: last), rfl⟩
      | cons first front => exact ⟨.cut ((c :: first) :: front) last, rfl⟩

theorem lines_cons {rest : List Char} (hfeed : c ≠ '\n')
    (hreturn : c = '\r' → rest.head? ≠ some '\n') :
    lines (c :: rest) = consLine c (lines rest) := by
  rw [lines]
  · exact hfeed
  · rintro after rfl rfl
    exact hreturn rfl rfl

/-- The lines of two texts with a line feed between them. -/
theorem lines_append_feed (text after : List Char) :
    ∃ closed, Closed (lines text) closed ∧
      lines (text ++ '\n' :: after) = closed ++ lines after := by
  fun_induction lines text with
  | case1 => exact ⟨[[]], .ended [], rfl⟩
  | case2 rest ih =>
      obtain ⟨closed, hclosed, hlines⟩ := ih
      exact ⟨[] :: closed, hclosed.cons [], congrArg ([] :: ·) hlines⟩
  | case3 rest ih =>
      obtain ⟨closed, hclosed, hlines⟩ := ih
      exact ⟨[] :: closed, hclosed.cons [], congrArg ([] :: ·) hlines⟩
  | case4 c rest hfeed hreturn ih =>
      obtain ⟨closed, hclosed, hlines⟩ := ih
      by_cases hcut : c = '\r' ∧ rest = []
      -- a carriage return at the end becomes part of a line end only when the line feed is there
      · obtain ⟨rfl, rfl⟩ := hcut
        exact ⟨[[]], .cut [] [], rfl⟩
      · obtain ⟨hcons, happend⟩ := hclosed.consLine c (lines after)
        refine ⟨consLine c closed, hcons, ?_⟩
        rw [List.cons_append, lines_cons hfeed, hlines, happend]
        rintro rfl hhead
        cases rest with
        | nil => exact hcut ⟨rfl, rfl⟩
        | cons d more =>
            obtain rfl : d = '\n' := Option.some.inj hhead
            exact hreturn more rfl rfl

/-- The lines of a blank text are blank. -/
theorem isBlank_of_mem_lines {text : List Char} (h : isBlank text = true) {line : List Char}
    (hmem : line ∈ lines text) : isBlank line = true := by
  fun_induction lines text generalizing line with
  | case1 => cases hmem
  | case2 rest ih =>
      rw [isBlank, List.all_cons, Bool.and_eq_true] at h
      rcases List.mem_cons.mp hmem with rfl | hmem
      · rfl
      · exact ih h.2 hmem
  | case3 rest ih =>
      rw [isBlank, List.all_cons, List.all_cons, Bool.and_eq_true, Bool.and_eq_true] at h
      rcases List.mem_cons.mp hmem with rfl | hmem
      · rfl
      · exact ih h.2.2 hmem
  | case4 c rest _ _ ih =>
      rw [isBlank, List.all_cons, Bool.and_eq_true] at h
      rcases mem_consLine hmem with ⟨more, rfl, rfl | hmore⟩ | hmem
      · rw [isBlank, List.all_cons, h.1]
        rfl
      · rw [isBlank, List.all_cons, h.1]
        exact ih h.2 hmore
      · exact ih h.2 hmem

end Text

namespace Script

/-! ## Statements of joined codes -/

/-- All the lines can be read, and these are their statements. -/
def Reads (lines : List (List Char)) (statements : List VisibilityStatement) : Prop :=
  (∀ line ∈ lines, fault? .fieldVisibility line = none) ∧
    statements = lines.filterMap (statement? visibilityStatement)

theorem compile_eq_ok_visibility_iff {code : String} {statements : List VisibilityStatement} :
    compile .fieldVisibility code = .ok (.visibility statements) ↔
      Reads (Text.lines code.toList) statements := by
  have hmixed : ¬ Mixed .fieldVisibility (Text.lines code.toList) :=
    fun mixed => nomatch mixed.1
  rw [compile_eq_ok_iff, and_iff_right hmixed, concat_fieldVisibility 1, map_numbered,
    visibility.injEq, Reads]

variable {lines others : List (List Char)} {statements : List VisibilityStatement}

theorem reads_append_iff : Reads (lines ++ others) statements ↔
    ∃ ours more, Reads lines ours ∧ Reads others more ∧ statements = ours ++ more := by
  simp only [Reads, List.forall_mem_append, List.filterMap_append]
  constructor
  · rintro ⟨⟨hlines, hothers⟩, rfl⟩
    exact ⟨_, _, ⟨hlines, rfl⟩, ⟨hothers, rfl⟩, rfl⟩
  · rintro ⟨_, _, ⟨hlines, rfl⟩, ⟨hothers, rfl⟩, rfl⟩
    exact ⟨⟨hlines, hothers⟩, rfl⟩

theorem reads_line_iff {line : List Char} : Reads [line] statements ↔
    fault? .fieldVisibility line = none ∧
      statements = (statement? visibilityStatement line).toList := by
  rw [Reads, List.forall_mem_singleton, List.filterMap_cons]
  cases statement? visibilityStatement line <;> rfl

/-- A line with a carriage return at its end reads as it does without. -/
theorem reads_line_return {line : List Char} :
    Reads [line ++ ['\r']] statements ↔ Reads [line] statements := by
  have hsame : lineStatement visibilityStatement (line ++ ['\r']) =
      lineStatement visibilityStatement line := (saysSame_append_blank line rfl).lineStatement_eq
  rw [reads_line_iff, reads_line_iff, fault?, lineFault?, statement?, hsame, ← lineFault?,
    ← statement?, ← fault?]

/-- A line feed after the lines does not change what they read. -/
theorem reads_of_closed {closed : List (List Char)} (hclosed : Text.Closed lines closed)
    (h : Reads lines statements) : Reads closed statements := by
  cases hclosed with
  | ended =>
      have hempty : Reads [[]] [] := reads_line_iff.mpr ⟨rfl, rfl⟩
      exact reads_append_iff.mpr ⟨_, _, h, hempty, (List.append_nil _).symm⟩
  | same => exact h
  | cut front last =>
      obtain ⟨ours, more, hfront, hlast, rfl⟩ := reads_append_iff.mp h
      exact reads_append_iff.mpr ⟨_, _, hfront, reads_line_return.mp hlast, rfl⟩

/-- Two codes with a line feed between them have the statements of both. -/
theorem compile_append_feed {code other : String} {more : List VisibilityStatement}
    (hcode : compile .fieldVisibility code = .ok (.visibility statements))
    (hother : compile .fieldVisibility other = .ok (.visibility more)) :
    compile .fieldVisibility (code ++ "\n" ++ other) = .ok (.visibility (statements ++ more)) := by
  rw [compile_eq_ok_visibility_iff] at hcode hother ⊢
  obtain ⟨closed, hclosed, hlines⟩ := Text.lines_append_feed code.toList other.toList
  have htext : (code ++ "\n" ++ other).toList = code.toList ++ '\n' :: other.toList := by simp
  rw [htext, hlines]
  exact reads_append_iff.mpr ⟨_, _, reads_of_closed hclosed hcode, hother, rfl⟩

/-- Codes joined by line feeds have the statements of all of them in order. -/
theorem compile_intercalate {codes : List String} {scripts : List (List VisibilityStatement)}
    (h : List.Forall₂ (fun code statements =>
      compile .fieldVisibility code = .ok (.visibility statements)) codes scripts) :
    compile .fieldVisibility ("\n".intercalate codes) = .ok (.visibility scripts.flatten) := by
  induction h with
  | nil => rfl
  | @cons code statements codes scripts hcode hrest ih =>
      cases hrest with
      | nil => simpa using hcode
      | cons =>
          rw [String.intercalate_cons_cons, List.flatten_cons]
          exact compile_append_feed hcode ih

/-- Blank code has no statements. -/
theorem compile_blank {code : String} (h : Text.isBlank code.toList = true) :
    compile .fieldVisibility code = .ok (.visibility []) := by
  have hnone : ∀ line ∈ Text.lines code.toList,
      lineStatement visibilityStatement line = .ok none := by
    intro line hmem
    have hline := Text.isBlank_of_mem_lines h hmem
    exact Idle.lineStatement ⟨line, [], (List.append_nil line).symm, hline, .inl rfl⟩
  rw [compile_eq_ok_visibility_iff]
  constructor
  · intro line hmem
    rw [fault?, lineFault?, hnone line hmem]
  · symm
    rw [List.filterMap_eq_nil_iff]
    intro line hmem
    rw [statement?, hnone line hmem]

/-! ## Runs of joined statements -/

variable {context : Fields Value}

open Metered

/-- From whatever permissions they start, the statements are run in so many steps without a fault
and each is written over those before it. -/
def Writes (context : Fields Value) (statements : List VisibilityStatement) (steps : Nat) : Prop :=
  ∀ sofar, (runVisibility context sofar statements).Takes
    (.ok (statements.foldl (VisibilityStatement.write context) sofar)) steps

theorem runVisibility_append (sofar : Fields Permission) (more : List VisibilityStatement) :
    runVisibility context sofar (statements ++ more) =
      runVisibility context sofar statements >>= fun next => runVisibility context next more := by
  induction statements generalizing sofar with
  | nil => exact (pure_bind sofar fun next => runVisibility context next more).symm
  | cons statement rest ih =>
      rw [List.cons_append, runVisibility, runVisibility, bind_assoc]
      exact congrArg (guardHolds statement.guardedBy context >>= ·) (funext fun applies => ih _)

theorem writes_nil : Writes context [] 0 :=
  fun sofar => takes_pure sofar

theorem Writes.append {more : List VisibilityStatement} {steps others : Nat}
    (h : Writes context statements steps) (hmore : Writes context more others) :
    Writes context (statements ++ more) (steps + others) := by
  intro sofar
  rw [runVisibility_append, List.foldl_append]
  have hnext := hmore (statements.foldl (VisibilityStatement.write context) sofar)
  exact (h sofar).bind hnext

/-- A statement whose guard does not fail is written before the others. -/
theorem Writes.cons {statement : VisibilityStatement} {holds : Bool} {first steps : Nat}
    (hguard : (guardHolds statement.guardedBy context).Takes (.ok holds) first)
    (h : Writes context statements steps) :
    Writes context (statement :: statements) (first + steps) := by
  have happlies : statement.applies context = holds := by
    rw [VisibilityStatement.applies, hguard.runWith_unlimited]
    rfl
  intro sofar
  rw [List.foldl_cons, VisibilityStatement.write, happlies]
  exact hguard.bind (h _)

theorem writes_unguarded (permission : Permission) (fields : NonEmpty String) :
    Writes context [⟨permission, fields, none⟩] 0 := by
  have hguard : (guardHolds none context).Takes (.ok true) 0 := takes_pure true
  exact writes_nil.cons hguard

/-- Statements that have once been run without a fault always are, in as many steps. -/
theorem exists_writes_of_run {sofar permissions : Fields Permission} {meter : Meter}
    (hrun : ((runVisibility context sofar statements).runWith meter).1 = .ok permissions) :
    ∃ steps, Writes context statements steps := by
  induction statements generalizing sofar meter with
  | nil => exact ⟨0, writes_nil⟩
  | cons statement rest ih =>
      rw [runVisibility, runWith_bind] at hrun
      rcases hguard : (guardHolds statement.guardedBy context).runWith meter with
        ⟨fault | holds, left⟩
      · rw [hguard] at hrun
        cases hrun
      · rw [hguard] at hrun
        obtain ⟨steps, hrest⟩ := ih hrun
        obtain ⟨outcome, first, htakes⟩ := guardHolds_ends context statement.guardedBy
        obtain rfl : outcome = .ok holds := htakes.outcome_of_run (congrArg Prod.fst hguard)
        exact ⟨_, hrest.cons htakes⟩

end Script

/-- A run that ends with a value takes no other number of steps. -/
theorem Metered.Takes.steps_eq {α : Type} {computation : Metered α} {value : α}
    {outcome : Except TypeFault α} {steps others : Nat} (h : computation.Takes (.ok value) steps)
    (hother : computation.Takes outcome others) : steps = others := by
  have hfree : (computation.runWith .unlimited).1 = .ok value := h.runWith_unlimited
  have hnever : ∀ fuel steps, Meter.InTime ⟨some fuel, none⟩ steps := fun _ _ _ h => nomatch h
  rcases Nat.lt_trichotomy steps others with hlt | heq | hgt
  · have henough := h.exact.enough steps none (Nat.le_refl _) (hnever _ _)
    rw [hother.exact.short steps none hlt (hnever _ _), hfree] at henough
    cases henough
  · exact heq
  · have henough := hother.exact.enough others none (Nat.le_refl _) (hnever _ _)
    rw [h.exact.short others none hgt (hnever _ _), hfree] at henough
    cases henough

/-! ## Maps of permissions -/

/-- Maps in order with the same values are the same. -/
theorem Fields.Sorted.ext {α : Type} {fields others : Fields α} (sorted : fields.Sorted)
    (sorted' : others.Sorted) (h : ∀ name, fields.get? name = others.get? name) :
    fields = others := by
  have hmem : ∀ entry, entry ∈ fields ↔ entry ∈ others := by
    rintro ⟨name, value⟩
    constructor
    · intro hentry
      exact mem_of_get? (h name ▸ sorted.get?_of_mem hentry)
    · intro hentry
      exact mem_of_get? (h name ▸ sorted'.get?_of_mem hentry)
  have hnodup : fields.Nodup := sorted.imp fun hlt heq => String.ne_of_lt hlt (congrArg _ heq)
  have hnodup' : others.Nodup := sorted'.imp fun hlt heq => String.ne_of_lt hlt (congrArg _ heq)
  have hperm : fields.Perm others := (List.perm_ext_iff_of_nodup hnodup hnodup').mpr hmem
  apply hperm.eq_of_pairwise _ sorted sorted'
  exact fun a b _ _ hab hba => absurd hab (String.lt_asymm hba)

namespace VisibilityStatement

variable {context : Fields Value} {statements : List VisibilityStatement} {name : String}

theorem foldl_write_get?_eq_none_iff :
    Fields.get? (statements.foldl (write context) []) name = none ↔
      ∀ statement ∈ statements, ∀ other, ¬ statement.Gives context name other := by
  simp only [Option.eq_none_iff_forall_ne_some, ne_eq, foldl_write_get?_iff]
  exact not_lastGives_iff

/-- What statements write by themselves can be written over other permissions. -/
theorem extend_foldl_write (statements : List VisibilityStatement) {sofar : Fields Permission}
    (sorted : sofar.Sorted) :
    sofar.extend (statements.foldl (write context) []) =
      statements.foldl (write context) sofar := by
  have hwritten : Fields.Sorted (statements.foldl (write context) []) :=
    foldl_write_sorted statements List.Pairwise.nil
  apply (sorted.extend _).ext (foldl_write_sorted statements sorted)
  intro name
  apply Option.ext
  intro permission
  have hover : Fields.get? (statements.foldl (write context) sofar) name = some permission ↔
      LastGives (fun statement => statement.Gives context name) statements permission ∨
        (∀ statement ∈ statements, ∀ other, ¬ statement.Gives context name other) ∧
          sofar.get? name = some permission :=
    @foldl_reads_or _ _ _ (fun statement => statement.Gives context name) (write context)
      (fun fields => Fields.get? fields name) (fun _ _ _ => write_get?_iff) statements sofar
      permission
  rw [Fields.get?_extend hwritten, Option.or_eq_some_iff, foldl_write_get?_iff,
    foldl_write_get?_eq_none_iff, hover]

end VisibilityStatement

/-! ## Validators -/

/-- A visibility validator whose code is these statements completes in so many steps: unless its
code is blank, its run in the sandbox does not fail. -/
structure Validator.Completes (validator : Validator) (sandbox : Sandbox) (context : Fields Value)
    (statements : List VisibilityStatement) (steps : Nat) : Prop where
  kind : validator.kind = .fieldVisibility
  compiles : Script.compile .fieldVisibility validator.code = .ok (.visibility statements)
  succeeds : Text.isBlank validator.code.toList = false →
    ∃ permissions, sandbox.permissionsOf context validator = .ok permissions
  takes : ∃ outcome, ((Script.visibility statements).fieldPermissions context).Takes outcome steps

section Completes

variable {validator : Validator} {sandbox : Sandbox} {context : Fields Value}
  {statements : List VisibilityStatement} {steps : Nat}

/-- A validator with blank code completes, having done nothing. -/
theorem Validator.Completes.of_blank (hkind : validator.kind = .fieldVisibility)
    (hblank : Text.isBlank validator.code.toList = true) :
    validator.Completes sandbox context [] 0 := by
  have hnothing : Script.Writes context [] 0 := Script.writes_nil
  refine ⟨hkind, Script.compile_blank hblank, ?_, _, hnothing []⟩
  intro hwritten
  rw [hblank] at hwritten
  cases hwritten

theorem Validator.Completes.statements_of_blank
    (h : validator.Completes sandbox context statements steps)
    (hblank : Text.isBlank validator.code.toList = true) : statements = [] := by
  have hcompile := h.compiles
  rw [Script.compile_blank hblank] at hcompile
  cases hcompile
  rfl

theorem Validator.Completes.permissionsOf
    (h : validator.Completes sandbox context statements steps)
    (hwritten : Text.isBlank validator.code.toList = false) :
    sandbox.permissionsOf context validator =
      .ok (statements.foldl (VisibilityStatement.write context) []) := by
  obtain ⟨permissions, hok⟩ := h.succeeds hwritten
  obtain ⟨others, hothers, hpermissions⟩ := Sandbox.permissionsOf_eq_ok hok
  rw [h.compiles] at hothers
  cases hothers
  rw [hok, hpermissions]

/-- What completes writes its statements from whatever permissions, in as many steps. -/
theorem Validator.Completes.writes (h : validator.Completes sandbox context statements steps) :
    Script.Writes context statements steps := by
  obtain ⟨others, hwrites⟩ : ∃ others, Script.Writes context statements others := by
    cases hblank : Text.isBlank validator.code.toList with
    | true =>
        rw [h.statements_of_blank hblank]
        exact ⟨0, Script.writes_nil⟩
    | false =>
        obtain ⟨permissions, hok⟩ := h.succeeds hblank
        have ready : sandbox.Ready := Sandbox.ready_of_run_ok hok
        obtain ⟨script, hcompile, hrun⟩ := ready.permissionsOf_eq_ok_iff.mp hok
        rw [h.compiles] at hcompile
        cases hcompile
        exact Script.exists_writes_of_run hrun
  obtain ⟨outcome, htakes⟩ := h.takes
  obtain rfl : others = steps := (hwrites []).steps_eq htakes
  exact hwrites

end Completes

namespace Sandbox

/-- The validators complete, each with its statements and in its number of steps. -/
def Completes (sandbox : Sandbox) (context : Fields Value) (validators : List Validator)
    (runs : List (List VisibilityStatement × Nat)) : Prop :=
  List.Forall₂ (fun validator run => validator.Completes sandbox context run.1 run.2)
    validators runs

/-- The steps of all the runs together. -/
def totalSteps : List (List VisibilityStatement × Nat) → Nat
  | [] => 0
  | run :: rest => run.2 + totalSteps rest

variable {sandbox : Sandbox} {context : Fields Value} {validators : List Validator}
  {runs : List (List VisibilityStatement × Nat)}

/-- Validators that complete write the statements of all of them, one after the other. -/
theorem foldl_joined_of_completes (h : sandbox.Completes context validators runs)
    {merged : Fields Permission} (sorted : merged.Sorted) :
    ((validators.filter (isRun .fieldVisibility)).map (sandbox.permissionsOf context)).foldl joined
        merged = (runs.flatMap Prod.fst).foldl (VisibilityStatement.write context) merged := by
  induction h generalizing merged with
  | nil => rfl
  | @cons validator run validators runs hfirst _ ih =>
      have hmore : Fields.Sorted (run.1.foldl (VisibilityStatement.write context) merged) :=
        VisibilityStatement.foldl_write_sorted run.1 sorted
      rw [List.flatMap_cons, List.foldl_append, ← ih hmore, List.filter_cons, isRun, hfirst.kind]
      cases hblank : Text.isBlank validator.code.toList with
      | true =>
          rw [hfirst.statements_of_blank hblank]
          rfl
      | false =>
          simp only [Bool.not_false, decide_true, Bool.and_self, if_true, List.map_cons,
            List.foldl_cons, hfirst.permissionsOf hblank, joined,
            VisibilityStatement.extend_foldl_write run.1 sorted]

theorem fieldPermissions_of_completes (h : sandbox.Completes context validators runs) :
    sandbox.fieldPermissions validators context =
      (runs.flatMap Prod.fst).foldl (VisibilityStatement.write context) [] := by
  rw [fieldPermissions_eq_merge, merge]
  exact foldl_joined_of_completes h List.Pairwise.nil

/-- The statements of all the validators are run in the sum of their steps. -/
theorem writes_of_completes (h : sandbox.Completes context validators runs) :
    Script.Writes context (runs.flatMap Prod.fst) (totalSteps runs) := by
  induction h with
  | nil => exact Script.writes_nil
  | cons hfirst _ ih =>
      rw [List.flatMap_cons]
      exact hfirst.writes.append ih

/-- Unless all the codes are blank, there is a validator whose run does not fail, so the sandbox is
ready. -/
theorem ready_of_completes (h : sandbox.Completes context validators runs)
    (hwritten : Text.isBlank ("\n".intercalate (validators.map (·.code))).toList = false) :
    sandbox.Ready := by
  induction h with
  | nil => cases hwritten
  | @cons validator run validators runs hfirst hrest ih =>
      cases hblank : Text.isBlank validator.code.toList with
      | false =>
          obtain ⟨permissions, hok⟩ := hfirst.succeeds hblank
          exact ready_of_run_ok hok
      | true =>
          apply ih
          cases hrest with
          | nil =>
              rw [List.map_cons, List.map_nil, String.intercalate_singleton, hblank] at hwritten
              cases hwritten
          | cons =>
              rw [List.map_cons, List.map_cons, String.intercalate_cons_cons, String.toList_append,
                String.toList_append, Text.isBlank, List.all_append, List.all_append,
                ← Text.isBlank, hblank] at hwritten
              exact hwritten

/-- One validator with the codes of validators that complete, joined by line feeds, completes. -/
theorem completes_of_joined (h : sandbox.Completes context validators runs)
    (hfuel : totalSteps runs ≤ sandbox.fuel) {whole : Validator}
    (hkind : whole.kind = .fieldVisibility)
    (hcode : whole.code = "\n".intercalate (validators.map (·.code))) :
    whole.Completes sandbox context (runs.flatMap Prod.fst) (totalSteps runs) := by
  have hcompile : Script.compile .fieldVisibility whole.code =
      .ok (.visibility (runs.flatMap Prod.fst)) := by
    rw [hcode]
    apply Script.compile_intercalate
    rw [List.forall₂_map_left_iff, List.forall₂_map_right_iff]
    exact h.imp fun validator run hcompletes => hcompletes.compiles
  have htakes := writes_of_completes h []
  refine ⟨hkind, hcompile, ?_, _, htakes⟩
  intro hwritten
  have ready : sandbox.Ready := ready_of_completes h (hcode ▸ hwritten)
  have hrun := htakes.exact.enough sandbox.fuel none hfuel nofun
  rw [htakes.runWith_unlimited] at hrun
  exact ⟨_, ready.permissionsOf_eq_ok_iff.mpr ⟨_, hcompile, congrArg Prod.fst hrun⟩⟩

/-- Visibility validators that complete, with fuel for the steps of all, give together what one
validator gives whose code is their codes joined by line feeds: for each field, what the last
statement gives that applies and names the field, and nothing for a field that no such statement
names. -/
theorem merging_is_joining (h : sandbox.Completes context validators runs)
    (hfuel : totalSteps runs ≤ sandbox.fuel) {whole : Validator}
    (hkind : whole.kind = .fieldVisibility)
    (hcode : whole.code = "\n".intercalate (validators.map (·.code))) :
    sandbox.fieldPermissions [whole] context = sandbox.fieldPermissions validators context ∧
    ∀ name,
      (∀ permission, (sandbox.fieldPermissions validators context).get? name = some permission ↔
        LastGives (fun statement => statement.Gives context name) (runs.flatMap Prod.fst)
          permission) ∧
      ((sandbox.fieldPermissions validators context).get? name = none ↔
        ∀ statement ∈ runs.flatMap Prod.fst, statement.applies context = true →
          name ∉ statement.fields.toList) := by
  have hmerged := fieldPermissions_of_completes h
  have hwhole : sandbox.fieldPermissions [whole] context =
      (runs.flatMap Prod.fst).foldl (VisibilityStatement.write context) [] := by
    have hcompletes : sandbox.Completes context [whole]
        [(runs.flatMap Prod.fst, totalSteps runs)] :=
      .cons (completes_of_joined h hfuel hkind hcode) .nil
    have hsingle := fieldPermissions_of_completes hcompletes
    rwa [List.flatMap_singleton] at hsingle
  refine ⟨hwhole.trans hmerged.symm, ?_⟩
  intro name
  rw [hmerged]
  refine ⟨fun permission => VisibilityStatement.foldl_write_get?_iff, ?_⟩
  rw [VisibilityStatement.foldl_write_get?_eq_none_iff]
  simp [VisibilityStatement.Gives]

/-- A blank validator stands between two others, the later of which overrides the earlier. -/
theorem merging_is_joining_pay :
    let sandbox := create { SandboxSettings.standard with fuel := 3 } .interpreting
    let context : Fields Value := [("amount", .number (.int 3))]
    let validator (code : String) : Validator := .make none "Pay" .fieldVisibility code
    sandbox.fieldPermissions
        [validator "hidden pay\n\t\nread pay when amount < 5\nwrite name"] context =
      [("name", .write), ("pay", .read)] := by
  intro sandbox context validator
  let condition : Expr := .compare .lt (.path "amount" []) (.literal (.number (.int 5)))
  let hides : List VisibilityStatement := [⟨.hidden, ⟨"pay", []⟩, none⟩]
  let shows : List VisibilityStatement :=
    [⟨.read, ⟨"pay", []⟩, some condition⟩, ⟨.write, ⟨"name", []⟩, none⟩]
  have hguard : (Script.guardHolds (some condition) context).Takes (.ok true) 3 := by
    obtain ⟨outcome, steps, htakes, hnodes⟩ := condition.holds_counts context
    have hholds : ((condition.holds context).runWith .unlimited).1 = .ok true := by
      decide +kernel
    obtain rfl : outcome = .ok true := htakes.outcome_of_run hholds
    have hthree : condition.nodes = 3 := by with_unfolding_all rfl
    rwa [hnodes true rfl, hthree] at htakes
  have hwrites : Script.Writes context shows 3 := (Script.writes_unguarded _ _).cons hguard
  have hhides : (validator "hidden pay").Completes sandbox context hides 0 :=
    ⟨rfl, by decide +kernel, fun _ => ⟨[("pay", .hidden)], by decide +kernel⟩, _,
      Script.writes_unguarded .hidden ⟨"pay", []⟩ []⟩
  have hblank : (validator "\t").Completes sandbox context [] 0 :=
    .of_blank rfl (by decide +kernel)
  have hshows : (validator "read pay when amount < 5\nwrite name").Completes sandbox context
      shows 3 :=
    ⟨rfl, by decide +kernel, fun _ => ⟨[("name", .write), ("pay", .read)], by decide +kernel⟩,
      _, hwrites []⟩
  have hruns : sandbox.Completes context _ [(hides, 0), ([], 0), (shows, 3)] :=
    .cons hhides (.cons hblank (.cons hshows .nil))
  let whole := validator "hidden pay\n\t\nread pay when amount < 5\nwrite name"
  have hkind : whole.kind = .fieldVisibility := rfl
  obtain ⟨hjoined, -⟩ := merging_is_joining hruns (Nat.le_refl 3) hkind (by decide +kernel)
  rw [hjoined]
  decide +kernel

end Sandbox

end FormFlow

import FormFlow.Proofs.Grammar
import FormFlow.Proofs.Metering

/-!
# Faults come to the surface

Every part of a condition is evaluated, whatever the others come to, so a fault of a part is a fault
of the whole. The only faults are comparisons of values that cannot be compared. Which of several
faults is met first depends on the order of the parts; that there is one does not, and neither does
the value.
-/

namespace FormFlow

namespace Metered

variable {α β : Type}

/-- The value a computation ends with when nothing limits it, unless it fails. -/
def value? (computation : Metered α) : Option α :=
  (computation.runWith .unlimited).1.toOption

theorem Ends.meter_unlimited {computation : Metered α} (h : computation.Ends) :
    (computation.runWith .unlimited).2 = .unlimited := by
  obtain ⟨outcome, steps, htakes⟩ := h
  rw [htakes, runWith_after_unlimited]

theorem value?_bind {computation : Metered α} (h : computation.Ends) (next : α → Metered β) :
    (computation >>= next).value? = computation.value?.bind fun value => (next value).value? := by
  have hmeter := h.meter_unlimited
  unfold value?
  rw [runWith_bind]
  rcases hrun : computation.runWith .unlimited with ⟨fault | value, left⟩
  · rfl
  · rw [hrun] at hmeter
    subst hmeter
    rfl

theorem value?_tick_bind (next : Metered β) : (tick >>= fun _ => next).value? = next.value? :=
  value?_bind counts_tick.ends fun _ => next

end Metered

/-- What a connective makes of two truth values. -/
def Connective.decides : Connective → Bool → Bool → Bool
  | .and, a, b => a && b
  | .or, a, b => a || b

theorem Connective.decides_comm (link : Connective) (a b : Bool) :
    link.decides a b = link.decides b a := by
  cases link
  · exact Bool.and_comm a b
  · exact Bool.or_comm a b

namespace Expr

open Metered

/-! ## One level of a tree -/

/-- The value of a tree in a context when nothing limits the evaluation, unless it fails. -/
def value? (context : Fields Value) (tree : Expr) : Option Value :=
  (tree.eval context).value?

section OneLevel

variable (context : Fields Value)

theorem value?_literal (value : Literal) : value? context (.literal value) = some value.value := by
  rw [value?, eval]
  rfl

theorem value?_path (root : String) (fields : List String) :
    value? context (.path root fields) = some (Value.lookup context root fields) := by
  rw [value?, eval]
  rfl

theorem value?_items (items : List Expr) :
    (evalItems context items).value? = items.mapM (value? context) := by
  induction items with
  | nil =>
      rw [evalItems]
      rfl
  | cons item rest ih =>
      rw [evalItems, value?_bind (item.eval_counts context).ends, List.mapM_cons, ← ih]
      simp only [value?_bind (evalItems_counts context rest).ends]
      rfl

theorem value?_list (items : List Expr) :
    value? context (.list items) = (items.mapM (value? context)).map .list := by
  rw [value?, eval, value?_tick_bind, value?_bind (evalItems_counts context items).ends,
    value?_items, Option.map_eq_bind]
  rfl

/-- Both sides are evaluated, and then something is made of them. -/
theorem value?_pair (left right : Expr) (finish : Value → Value → Metered Value) :
    Metered.value? (do tick; let l ← left.eval context; let r ← right.eval context; finish l r) =
      (left.value? context).bind fun l =>
        (right.value? context).bind fun r => (finish l r).value? := by
  rw [value?_tick_bind, value?_bind (left.eval_counts context).ends]
  simp only [value?_bind (right.eval_counts context).ends]
  rfl

theorem value?_compare (op : Comparison) (left right : Expr) :
    value? context (.compare op left right) =
      (left.value? context).bind fun l =>
        (right.value? context).bind fun r => (Value.compare op l r).toOption.map .bool := by
  rw [value?, eval, value?_pair]
  congr
  funext l
  congr
  funext r
  cases Value.compare op l r <;> rfl

theorem value?_join (link : Connective) (left right : Expr) :
    value? context (link.join left right) =
      (left.value? context).bind fun l =>
        (right.value? context).bind fun r => some (.bool (link.decides l.truthy r.truthy)) := by
  cases link
  · rw [Connective.join, value?, eval, value?_pair]
    rfl
  · rw [Connective.join, value?, eval, value?_pair]
    rfl

end OneLevel

/-! ## Parts -/

/-- The trees right below a tree. -/
def children : Expr → List Expr
  | .literal _ | .path _ _ => []
  | .list items => items
  | .compare _ left right | .and left right | .or left right => [left, right]

/-- A tree, or a tree somewhere below it. -/
inductive PartOf (part : Expr) : Expr → Prop
  | self : PartOf part part
  | deeper {child tree : Expr} (hmem : child ∈ tree.children) (h : PartOf part child) :
      PartOf part tree

theorem sizeOf_child {child tree : Expr} (h : child ∈ tree.children) :
    sizeOf child < sizeOf tree := by
  cases tree with
  | literal | path => cases h
  | list items =>
      have hlt : sizeOf child < sizeOf items := List.sizeOf_lt_of_mem h
      rw [list.sizeOf_spec]
      omega
  | compare | and | or =>
      simp only [children, List.mem_cons, List.not_mem_nil, or_false] at h
      rcases h with rfl | rfl
      all_goals
        simp only [compare.sizeOf_spec, and.sizeOf_spec, or.sizeOf_spec]
        omega

/-- Induction over the children of a tree. -/
@[elab_as_elim]
theorem byChildren {motive : Expr → Prop}
    (step : ∀ tree, (∀ child ∈ tree.children, motive child) → motive tree) (tree : Expr) :
    motive tree :=
  step tree fun child _ => byChildren step child
termination_by sizeOf tree
decreasing_by exact sizeOf_child ‹_›

/-! ## Faults -/

section Faults

variable {context : Fields Value}

/-- The tree is a comparison of two operands that have values, and the values cannot be compared. -/
inductive Clash (context : Fields Value) : Expr → Prop
  | compare {op : Comparison} {left right : Expr} {l r : Value} {fault : TypeFault}
      (hl : left.value? context = some l) (hr : right.value? context = some r)
      (h : Value.compare op l r = .error fault) : Clash context (.compare op left right)

theorem mapM_isSome_iff {α β : Type} {f : α → Option β} {items : List α} :
    (items.mapM f).isSome ↔ ∀ item ∈ items, (f item).isSome := by
  induction items with
  | nil => simp
  | cons item rest ih =>
      rw [List.mapM_cons, List.forall_mem_cons, ← ih]
      cases f item <;> cases rest.mapM f <;> simp

theorem value?_join_isSome_iff (link : Connective) (left right : Expr) :
    ((link.join left right).value? context).isSome ↔
      ∀ side ∈ [left, right], (side.value? context).isSome := by
  rw [value?_join, List.forall_mem_cons, List.forall_mem_singleton]
  cases left.value? context <;> cases right.value? context <;> simp

theorem value?_compare_isSome_iff (op : Comparison) (left right : Expr) :
    ((Expr.compare op left right).value? context).isSome ↔
      (∀ operand ∈ [left, right], (operand.value? context).isSome) ∧
        ¬ Clash context (.compare op left right) := by
  rw [value?_compare, List.forall_mem_cons, List.forall_mem_singleton]
  cases hl : left.value? context with
  | none => simp
  | some l =>
      cases hr : right.value? context with
      | none => simp
      | some r =>
          cases h : Value.compare op l r with
          | error fault =>
              refine iff_of_false (by simp [h, Except.toOption]) fun hboth => ?_
              exact hboth.2 (.compare hl hr h)
          | ok outcome =>
              refine iff_of_true (by simp [h, Except.toOption]) ⟨by simp, ?_⟩
              rintro ⟨hl', hr', hfault⟩
              cases hl.symm.trans hl'
              cases hr.symm.trans hr'
              cases h.symm.trans hfault

/-- A tree has a value exactly if its children have values and it is no clash itself. -/
theorem value?_isSome_iff {tree : Expr} : (tree.value? context).isSome ↔
    (∀ child ∈ tree.children, (child.value? context).isSome) ∧ ¬ Clash context tree := by
  cases tree with
  | literal value =>
      rw [value?_literal]
      exact iff_of_true rfl ⟨nofun, nofun⟩
  | path root fields =>
      rw [value?_path]
      exact iff_of_true rfl ⟨nofun, nofun⟩
  | list items =>
      rw [value?_list, Option.isSome_map, mapM_isSome_iff]
      exact (and_iff_left nofun).symm
  | compare op left right => exact value?_compare_isSome_iff op left right
  | and left right =>
      exact (value?_join_isSome_iff .and left right).trans (and_iff_left nofun).symm
  | or left right =>
      exact (value?_join_isSome_iff .or left right).trans (and_iff_left nofun).symm

/-- A tree has a value exactly if none of its parts is a clash. -/
theorem value?_isSome_iff_parts {tree : Expr} :
    (tree.value? context).isSome ↔ ∀ part, part.PartOf tree → ¬ Clash context part := by
  induction tree using byChildren with
  | step tree ih =>
      rw [value?_isSome_iff]
      constructor
      · rintro ⟨hchildren, hself⟩ part hpart
        cases hpart with
        | self => exact hself
        | deeper hmem h => exact (ih _ hmem).mp (hchildren _ hmem) part h
      · intro hparts
        refine ⟨fun child hmem => (ih child hmem).mpr fun part h => ?_, hparts tree .self⟩
        exact hparts part (.deeper hmem h)

/-- The parts of a tree with a value have values. -/
theorem PartOf.value?_isSome {part tree : Expr} (h : part.PartOf tree)
    (hvalue : (tree.value? context).isSome) : (part.value? context).isSome := by
  induction h with
  | self => exact hvalue
  | deeper hmem _ ih => exact ih ((value?_isSome_iff.mp hvalue).1 _ hmem)

theorem value?_eq_none_iff {tree : Expr} : tree.value? context = none ↔
    ∃ fault, ((tree.eval context).runWith .unlimited).1 = .error fault := by
  rw [value?, Metered.value?]
  cases ((tree.eval context).runWith .unlimited).1 <;> simp [Except.toOption]

end Faults

/-! ## Exchanged sides -/

/-- One tree is the other with the sides of one connective exchanged. -/
inductive Exchanged : Expr → Expr → Prop
  | sides (link : Connective) (left right : Expr) :
      Exchanged (link.join left right) (link.join right left)
  | item {a b : Expr} (before after : List Expr) (h : Exchanged a b) :
      Exchanged (.list (before ++ a :: after)) (.list (before ++ b :: after))
  | leftOperand {a b : Expr} (op : Comparison) (right : Expr) (h : Exchanged a b) :
      Exchanged (.compare op a right) (.compare op b right)
  | rightOperand {a b : Expr} (op : Comparison) (left : Expr) (h : Exchanged a b) :
      Exchanged (.compare op left a) (.compare op left b)
  | leftSide {a b : Expr} (link : Connective) (right : Expr) (h : Exchanged a b) :
      Exchanged (link.join a right) (link.join b right)
  | rightSide {a b : Expr} (link : Connective) (left : Expr) (h : Exchanged a b) :
      Exchanged (link.join left a) (link.join left b)

/-- An exchange changes neither whether there is a value nor which. -/
theorem Exchanged.value?_eq {tree other : Expr} (h : Exchanged tree other)
    (context : Fields Value) : tree.value? context = other.value? context := by
  induction h with
  | sides link left right =>
      rw [value?_join, value?_join, Option.bind_comm]
      simp only [link.decides_comm]
  | item before after _ ih => simp only [value?_list, List.mapM_append, List.mapM_cons, ih]
  | leftOperand op right _ ih => rw [value?_compare, value?_compare, ih]
  | rightOperand op left _ ih => rw [value?_compare, value?_compare, ih]
  | leftSide link right _ ih => rw [value?_join, value?_join, ih]
  | rightSide link left _ ih => rw [value?_join, value?_join, ih]

theorem value?_holds (context : Fields Value) (tree : Expr) :
    (tree.holds context).value? = (tree.value? context).map Value.truthy := by
  rw [holds, value?_bind (tree.eval_counts context).ends, Option.map_eq_bind]
  rfl

end Expr

open FormFlow.Expr

/-- A condition that is not blank holds if it can be read and has a value that counts as true. -/
theorem evaluate_eq {source : String} (hsource : Text.isBlank source.toList = false)
    (context : Fields Value) : evaluate source context =
      (parse source).toOption.any fun tree => (tree.value? context).any Value.truthy := by
  rw [evaluate, hsource]
  cases parse source with
  | error fault => rfl
  | ok tree =>
      have hany : (tree.value? context).any Value.truthy =
          ((tree.holds context).value?).any id := by
        rw [value?_holds, Option.any_map]
        rfl
      simp only [Except.toOption, Option.any_some, hany, Metered.value?]
      cases ((tree.holds context).runWith .unlimited).1 <;> rfl

/-- No fault is hidden, by `and`, by `or` or by its place. In every context, an evaluation without
limits fails exactly if somewhere in the tree two operands have values that cannot be compared. So
every part of a condition that holds has a value. And wherever the sides of a connective are
exchanged, the evaluation fails as before or has the same value as before. -/
theorem faults_surface (context : Fields Value) :
    (∀ tree : Expr, (∃ fault, ((tree.eval context).runWith .unlimited).1 = .error fault) ↔
      ∃ part : Expr, part.PartOf tree ∧ part.Clash context) ∧
    (∀ source : String, Text.isBlank source.toList = false → evaluate source context = true →
      ∃ tree, parse source = .ok tree ∧
        ∀ part : Expr, part.PartOf tree → ∃ value, part.value? context = some value) ∧
    ∀ tree other : Expr, tree.Exchanged other → tree.value? context = other.value? context := by
  refine ⟨?_, ?_, ?_⟩
  · intro tree
    rw [← value?_eq_none_iff, ← Option.not_isSome_iff_eq_none, value?_isSome_iff_parts]
    simp only [Classical.not_forall, Classical.not_not, exists_prop]
  · intro source hsource hholds
    rw [evaluate_eq hsource] at hholds
    cases hparse : parse source with
    | error fault =>
        rw [hparse] at hholds
        cases hholds
    | ok tree =>
        rw [hparse] at hholds
        have hvalue : (tree.value? context).isSome := Option.isSome_of_any hholds
        refine ⟨tree, rfl, fun part hpart => ?_⟩
        exact Option.isSome_iff_exists.mp (hpart.value?_isSome hvalue)
  · exact fun tree other h => h.value?_eq context

/-- A size cannot be compared with an amount: that the size is large does not hide it, on either
side of it. Where amounts are compared with amounts, every part has a value. -/
theorem faults_surface_size :
    let context : Fields Value := [("amount", .number (.int 250)), ("size", .string "large")]
    let large : Expr := .compare .eq (.path "size" []) (.literal (.text "large"))
    let clash : Expr := .compare .lt (.path "size" []) (.path "amount" [])
    (∃ fault, (((Expr.or large clash).eval context).runWith .unlimited).1 = .error fault) ∧
      (Expr.or large clash).value? context = (Expr.or clash large).value? context ∧
      ∃ tree, parse "size == 'large' or amount < 100" = .ok tree ∧
        ∀ part : Expr, part.PartOf tree → ∃ value, part.value? context = some value := by
  intro context large clash
  obtain ⟨hfails, hparts, hexchanged⟩ := faults_surface context
  have hclash : clash.Clash context := .compare (value?_path ..) (value?_path ..) rfl
  have hpart : clash.PartOf (.or large clash) := .deeper (List.mem_cons_of_mem _ (.head _)) .self
  refine ⟨(hfails _).mpr ⟨clash, hpart, hclash⟩, ?_, ?_⟩
  · exact hexchanged _ _ (.sides .or large clash)
  · exact hparts _ (by decide) (by decide +kernel)

end FormFlow

import FormFlow.Proofs.Gates
import FormFlow.Proofs.Session

/-!
# Entries that no data can forge

Conditions and validators see the data of a document and, among it, the roles of the caller and the
target of a step. Data may have fields of those names, and nodes may be called so; but the roles and
the target are written last. What looks up nothing else has one result whatever the data is, because
an evaluation depends on no entry but those that it names.
-/

namespace FormFlow

/-- Two contexts have the same value, or both none, at each of the names. -/
def AgreeOn (names : List String) (first second : Fields Value) : Prop :=
  ∀ name ∈ names, first.get? name = second.get? name

theorem AgreeOn.mono {names fewer : List String} {first second : Fields Value}
    (h : AgreeOn names first second) (hfewer : ∀ name ∈ fewer, name ∈ names) :
    AgreeOn fewer first second :=
  fun name hname => h name (hfewer name hname)

theorem agreeOn_append {names others : List String} {first second : Fields Value} :
    AgreeOn (names ++ others) first second ↔
      AgreeOn names first second ∧ AgreeOn others first second := by
  simp only [AgreeOn, List.forall_mem_append]

/-! ## Conditions -/

namespace Expr

mutual

/-- The names of the entries that a tree looks up. -/
def roots : Expr → List String
  | .literal _ => []
  | .path root _ => [root]
  | .list items => rootsOfItems items
  | .compare _ left right | .and left right | .or left right => roots left ++ roots right

def rootsOfItems : List Expr → List String
  | [] => []
  | item :: rest => roots item ++ rootsOfItems rest

end

variable {first second : Fields Value}

mutual

/-- Contexts that agree on what a tree looks up make for the same run, step by step. -/
theorem eval_congr : (tree : Expr) → AgreeOn tree.roots first second →
    tree.eval first = tree.eval second
  | .literal value, _ => by rw [eval, eval]
  | .path root fields, h => by
      have hroot : first.get? root = second.get? root := h root (by simp [roots])
      rw [eval, eval, Value.lookup, Value.lookup, hroot]
  | .list items, h => by
      rw [roots] at h
      rw [eval, eval, evalItems_congr items h]
  | .compare op left right, h => by
      rw [roots, agreeOn_append] at h
      rw [eval, eval, eval_congr left h.1, eval_congr right h.2]
  | .and left right, h => by
      rw [roots, agreeOn_append] at h
      rw [eval, eval, eval_congr left h.1, eval_congr right h.2]
  | .or left right, h => by
      rw [roots, agreeOn_append] at h
      rw [eval, eval, eval_congr left h.1, eval_congr right h.2]

theorem evalItems_congr : (items : List Expr) → AgreeOn (rootsOfItems items) first second →
    evalItems first items = evalItems second items
  | [], _ => by rw [evalItems, evalItems]
  | item :: rest, h => by
      rw [rootsOfItems, agreeOn_append] at h
      rw [evalItems, evalItems, eval_congr item h.1, evalItems_congr rest h.2]

end

theorem holds_congr {tree : Expr} (h : AgreeOn tree.roots first second) :
    tree.holds first = tree.holds second := by
  rw [holds, holds, eval_congr tree h]

end Expr

/-- A condition that can be read looks up no entry but those with the names. -/
def MentionsOnly (names : List String) (condition : String) : Prop :=
  ∀ tree, Expr.parse condition = .ok tree → ∀ root ∈ tree.roots, root ∈ names

theorem evaluate_congr {names : List String} {condition : String} {first second : Fields Value}
    (hnames : MentionsOnly names condition) (h : AgreeOn names first second) :
    evaluate condition first = evaluate condition second := by
  unfold evaluate
  cases hparse : Expr.parse condition with
  | error fault => rfl
  | ok tree => simp only [Expr.holds_congr (h.mono (hnames tree hparse))]

/-! ## Scripts -/

namespace Script

/-- The names of the entries that a script looks up. -/
def roots : Script → List String
  | .visibility statements => statements.flatMap fun statement => guardRoots statement.guardedBy
  | .rules ordered => ordered.flatMap fun rule => guardRoots rule.guardedBy
  | .assignments ordered => ordered.flatMap Expr.roots
where
  /-- The names of the entries that a guard looks up. -/
  guardRoots (guardedBy : Option Expr) : List String := guardedBy.elim [] Expr.roots

variable {first second : Fields Value}

theorem guardHolds_congr {guardedBy : Option Expr}
    (h : AgreeOn (roots.guardRoots guardedBy) first second) :
    guardHolds guardedBy first = guardHolds guardedBy second := by
  cases guardedBy with
  | none => rfl
  | some condition => exact Expr.holds_congr h

theorem runRules_congr {ordered : List StepRule}
    (h : AgreeOn (roots (.rules ordered)) first second) :
    runRules first ordered = runRules second ordered := by
  induction ordered with
  | nil => rfl
  | cons rule rest ih =>
      rw [roots, List.flatMap_cons, agreeOn_append] at h
      rw [runRules, runRules, guardHolds_congr h.1, ih h.2]

theorem runAssignments_congr {ordered : List Expr} (sofar : Bool)
    (h : AgreeOn (roots (.assignments ordered)) first second) :
    runAssignments first sofar ordered = runAssignments second sofar ordered := by
  induction ordered generalizing sofar with
  | nil => rfl
  | cons result rest ih =>
      rw [roots, List.flatMap_cons, agreeOn_append] at h
      rw [runAssignments, runAssignments, Expr.holds_congr h.1]
      exact congrArg _ (funext fun next => ih next h.2)

theorem allows_congr {script : Script} (h : AgreeOn script.roots first second) :
    script.allows first = script.allows second := by
  cases script with
  | visibility => rfl
  | rules ordered => exact runRules_congr h
  | assignments ordered => exact runAssignments_congr true h

end Script

/-- The script of a step validator looks up no entry but those with the names. -/
def Validator.MentionsOnly (names : List String) (validator : Validator) : Prop :=
  ∀ script, Script.compile .stepAccess validator.code = .ok script →
    ∀ root ∈ script.roots, root ∈ names

theorem Sandbox.allowedBy_congr {sandbox : Sandbox} {names : List String} {validator : Validator}
    {first second : Fields Value} (hnames : validator.MentionsOnly names)
    (h : AgreeOn names first second) :
    sandbox.allowedBy first validator = sandbox.allowedBy second validator := by
  unfold allowedBy Script.runCode
  cases hcompile : Script.compile .stepAccess validator.code with
  | error fault => rfl
  | ok script => simp only [Script.allows_congr (h.mono (hnames script hcompile))]

/-- Gates that look up no entry but those with the names decide the same. -/
theorem Sandbox.stepAllowed_congr {sandbox : Sandbox} {names : List String}
    {validators : List Validator} {first second : Fields Value} {target : NodeId}
    (hnames : ∀ validator ∈ validators.filter (isRun .stepAccess), validator.MentionsOnly names)
    (h : AgreeOn names (stepContext first target) (stepContext second target)) :
    sandbox.stepAllowed validators first target = sandbox.stepAllowed validators second target := by
  rw [Bool.eq_iff_iff, stepAllowed, stepAllowed, List.all_eq_true, List.all_eq_true]
  refine forall₂_congr fun validator hmem => ?_
  rw [allowedBy_congr (hnames validator hmem) h]

/-! ## What is written last -/

/-- What conditions and validators see of a document at a node, with the data that is saved or
handed in there, if there is any. -/
def Instance.viewAt (document : Instance) (node : NodeId) (data : Option (Fields Value))
    (roles : List RoleId) (now : Timestamp) : View :=
  .of (data.elim document fun data => document.record node data now) node roles

/-- In a view, the roles of the caller stand under their name. -/
structure View.Trusts (view : View) (roles : List RoleId) : Prop where
  conditions : view.conditions.get? "role_ids" = some (Instance.roleList roles)
  flat : view.flat.get? "role_ids" = some (Instance.roleList roles)

theorem Instance.viewAt_trusts (document : Instance) (node : NodeId) (data : Option (Fields Value))
    (roles : List RoleId) (now : Timestamp) :
    (document.viewAt node data roles now).Trusts roles :=
  ⟨Fields.get?_insert_self .., Fields.get?_insert_self ..⟩

theorem Sandbox.stepContext_target (flat : Fields Value) (target : NodeId) :
    (stepContext flat target).get? "node_id" = some (.string target.text) :=
  Fields.get?_insert_self ..

namespace View.Trusts

variable {view other : View} {roles : List RoleId}

theorem conditions_agree (h : view.Trusts roles) (hother : other.Trusts roles) :
    AgreeOn ["role_ids"] view.conditions other.conditions := by
  intro name hname
  obtain rfl := List.mem_singleton.mp hname
  rw [h.conditions, hother.conditions]

/-- The target of a step does not take the place of the roles. -/
theorem stepContext_roles (h : view.Trusts roles) (target : NodeId) :
    (Sandbox.stepContext view.flat target).get? "role_ids" = some (Instance.roleList roles) := by
  rw [Sandbox.stepContext, Fields.get?_insert_of_ne _ _ (by decide)]
  exact h.flat

theorem stepContext_agree (h : view.Trusts roles) (hother : other.Trusts roles)
    (target : NodeId) :
    AgreeOn ["role_ids", "node_id"] (Sandbox.stepContext view.flat target)
      (Sandbox.stepContext other.flat target) := by
  intro name hname
  simp only [List.mem_cons, List.not_mem_nil, or_false] at hname
  rcases hname with rfl | rfl
  · rw [h.stepContext_roles, hother.stepContext_roles]
  · rw [Sandbox.stepContext_target, Sandbox.stepContext_target]

end View.Trusts

theorem Value.lookup_of_get? {context : Fields Value} {root : String} {value : Value}
    (h : context.get? root = some value) : Value.lookup context root [] = value := by
  rw [Value.lookup, h]
  exact Value.follow.eq_1 value

/-- A rule for a role matches by it exactly if the caller has the role. -/
theorem AccessRule.matchesRole_iff {rule : AccessRule} {context : Fields Value}
    {roles : List RoleId} (h : context.get? "role_ids" = some (Instance.roleList roles)) :
    rule.matchesRole context = true ↔ ∃ role ∈ roles, rule.role = some role := by
  unfold matchesRole
  rw [h]
  cases rule.role with
  | none => simp
  | some given =>
      simp only [Instance.roleList, Option.bind_some, Value.items?, List.any_map, List.any_eq_true,
        Function.comp_apply, Value.text?, Option.some.injEq, decide_eq_true_eq]
      constructor
      · rintro ⟨role, hmem, htext⟩
        obtain rfl : role = given := by
          cases role
          cases given
          exact congrArg RoleId.mk htext
        exact ⟨role, hmem, rfl⟩
      · rintro ⟨role, hmem, rfl⟩
        exact ⟨given, hmem, rfl⟩

/-- A rule applies to the same callers, whatever the data, if its condition looks up nothing but the
roles. -/
theorem AccessRule.applies_congr {rule : AccessRule} {first second : Fields Value}
    (hnames : ∀ condition, rule.condition = some condition → MentionsOnly ["role_ids"] condition)
    (h : AgreeOn ["role_ids"] first second) : rule.applies first = rule.applies second := by
  have hroles : first.get? "role_ids" = second.get? "role_ids" := h _ (List.mem_singleton.mpr rfl)
  have hcondition : rule.matchesCondition first = rule.matchesCondition second := by
    unfold matchesCondition
    cases hrule : rule.condition with
    | none => rfl
    | some condition => simp only [evaluate_congr (hnames condition hrule) h]
  rw [applies, applies, hcondition, matchesRole, matchesRole, hroles]

/-- Data cannot forge the roles of the caller or the target of a step. Take any two documents with
any data, seen at one node by callers with the same roles. Gates that look up only the roles and the
target decide the same in both, each of them with the same outcome; conditions and access rules
that look up only the roles have the same result in both; and what is found under the names is the
list of the caller's roles, and the target of the edge. -/
theorem roles_and_target_cannot_be_forged (first second : Instance) (node : NodeId)
    (data others : Option (Fields Value)) (roles : List RoleId) (now later : Timestamp)
    (sandbox : Sandbox) (project : Option Project) :
    let here := first.viewAt node data roles now
    let there := second.viewAt node others roles later
    (∀ edge : Edge,
      (∀ validator, edge.GatedBy project validator →
        validator.MentionsOnly ["role_ids", "node_id"]) →
      (∀ validator, edge.GatedBy project validator →
        sandbox.allowedBy (Sandbox.stepContext here.flat edge.target) validator =
          sandbox.allowedBy (Sandbox.stepContext there.flat edge.target) validator) ∧
      sandbox.stepAllowed (edge.gateValidators project) here.flat edge.target =
        sandbox.stepAllowed (edge.gateValidators project) there.flat edge.target) ∧
    (∀ condition, MentionsOnly ["role_ids"] condition →
      evaluate condition here.conditions = evaluate condition there.conditions) ∧
    (∀ rule : AccessRule,
      (rule.matchesRole here.conditions = true ↔ ∃ role ∈ roles, rule.role = some role) ∧
      ((∀ condition, rule.condition = some condition → MentionsOnly ["role_ids"] condition) →
        rule.applies here.conditions = rule.applies there.conditions)) ∧
    Value.lookup here.conditions "role_ids" [] = Instance.roleList roles ∧
    ∀ target : NodeId,
      let gates := Sandbox.stepContext here.flat target
      Value.lookup gates "role_ids" [] = Instance.roleList roles ∧
        Value.lookup gates "node_id" [] = .string target.text := by
  intro here there
  have hhere : here.Trusts roles := first.viewAt_trusts ..
  have hthere : there.Trusts roles := second.viewAt_trusts ..
  refine ⟨?_, ?_, ?_, ?_, ?_⟩
  · intro edge hedge
    have hagree := hhere.stepContext_agree hthere edge.target
    constructor
    · intro validator hgated
      exact Sandbox.allowedBy_congr (hedge validator hgated) hagree
    · apply Sandbox.stepAllowed_congr _ hagree
      exact fun validator hmem => hedge validator (Edge.mem_runs_iff.mp hmem)
  · intro condition hnames
    exact evaluate_congr hnames (hhere.conditions_agree hthere)
  · intro rule
    constructor
    · exact AccessRule.matchesRole_iff hhere.conditions
    · exact fun hnames => AccessRule.applies_congr hnames (hhere.conditions_agree hthere)
  · exact Value.lookup_of_get? hhere.conditions
  · intro target gates
    constructor
    · exact Value.lookup_of_get? (hhere.stepContext_roles target)
    · exact Value.lookup_of_get? (Sandbox.stepContext_target here.flat target)

/-- Someone who is no clerk is not let through to approval by data that claims otherwise. -/
theorem roles_and_target_cannot_be_forged_purchase :
    let document := Purchase.atRequest.document
    let forged : Fields Value :=
      [("node_id", .string "done"), ("role_ids", .list [.string "clerk"])]
    let seen := fun data => document.viewAt Purchase.request.id data [] Purchase.noon
    let verdict := fun data =>
      Purchase.started.sandbox.stepAllowed (Purchase.send.gateValidators (some Purchase.project))
        (seen data).flat Purchase.send.target
    verdict (some forged) = verdict none ∧ verdict none = false ∧
      evaluate "'clerk' in role_ids" (seen (some forged)).conditions =
        evaluate "'clerk' in role_ids" (seen none).conditions ∧
      Value.lookup (seen (some forged)).conditions "role_ids" [] = .list [] := by
  intro document forged seen verdict
  have hcondition : MentionsOnly ["role_ids"] "'clerk' in role_ids" := by
    intro tree htree
    have hparse : Expr.parse "'clerk' in role_ids" =
        .ok (.compare .within (.literal (.text "clerk")) (.path "role_ids" [])) := by
      with_unfolding_all rfl
    obtain rfl := Except.ok.inj (hparse.symm.trans htree)
    exact fun root hroot => hroot
  have hgates : ∀ validator, Purchase.send.GatedBy (some Purchase.project) validator →
      validator.MentionsOnly ["role_ids", "node_id"] := by
    intro validator hgated script hscript root hroot
    obtain ⟨owner, ⟨⟩, howned⟩ := hgated.owned
    obtain rfl := List.mem_singleton.mp howned
    have hcompile : Script.compile .stepAccess "allow when 'clerk' in role_ids" =
        .ok (.rules [⟨.allow,
          some (.compare .within (.literal (.text "clerk")) (.path "role_ids" []))⟩]) := by
      with_unfolding_all rfl
    obtain rfl := Except.ok.inj (hcompile.symm.trans hscript)
    obtain rfl := List.mem_singleton.mp hroot
    exact List.mem_cons_self ..
  obtain ⟨hedges, hconditions, -, hlookup, -⟩ :=
    roles_and_target_cannot_be_forged document document Purchase.request.id (some forged) none []
      Purchase.noon Purchase.noon Purchase.started.sandbox (some Purchase.project)
  refine ⟨(hedges Purchase.send hgates).2, by decide +kernel, hconditions _ hcondition, hlookup⟩

end FormFlow

import FormFlow.Service.Basic

/-!
# Gates

The gates of an edge are step validators of the project, which the edge lists by key. They all run
in the sandbox, each with a budget of its own, and the edge is closed unless every one of them
allows the step. In a sandbox that is ready this comes down to what the scripts answer, and to
nothing else: not to the room in the pool, and not to the order in which the runs end.
-/

namespace FormFlow

/-- A sandbox interprets scripts: its pool takes jobs, and each job has some time. -/
structure Sandbox.Ready (sandbox : Sandbox) : Prop where
  interpreting : sandbox.engine = .interpreting
  accepting : sandbox.pool.closed = false
  room : 0 < sandbox.pool.free
  time : 0 < sandbox.pool.timeout

/-- The code of a validator compiles, and its run on a context ends within the given fuel and
answers that the step is allowed. -/
def Validator.Permits (validator : Validator) (fuel : Nat) (context : Fields Value) : Prop :=
  ∃ script, Script.compile .stepAccess validator.code = .ok script ∧
    ((script.allows context).runWith (.withFuel fuel)).1 = .ok true

/-- A run of code has an outcome if the code compiles and the run ends well on the fuel. -/
theorem Script.runCode_eq_ok_iff {α : Type} {kind : ScriptKind} {code : String} {fuel : Nat}
    {run : Script → Metered α} {outcome : α} :
    runCode kind code fuel run = .ok outcome ↔
      ∃ script, compile kind code = .ok script ∧
        ((run script).runWith (.withFuel fuel)).1 = .ok outcome := by
  unfold runCode
  cases compile kind code with
  | error fault => simp
  | ok script =>
      simp only [Except.ok.injEq, exists_eq_left']
      cases ((run script).runWith (.withFuel fuel)).1 <;> simp

namespace Sandbox

variable {sandbox : Sandbox}

theorem ready_create (settings : SandboxSettings) (h : 0 < settings.timeout) :
    (create settings .interpreting).Ready := by
  constructor
  · rfl
  · rfl
  · exact Nat.lt_of_lt_of_le Nat.one_pos (Nat.le_max_left ..)
  · exact h

/-- A run in a sandbox that is ready ends as the script does. -/
theorem Ready.run_eq {α : Type} (ready : sandbox.Ready) (script : Except ScriptFault α) :
    sandbox.run script =
      match script with
      | .error fault => .error (.script fault)
      | .ok outcome => .ok outcome := by
  have hpool : (sandbox.pool.run (sandbox.engine.job script)).1 = .ok script := by
    obtain ⟨others, hroom⟩ := Nat.exists_eq_succ_of_ne_zero (Nat.ne_of_gt ready.room)
    rw [ready.interpreting, Pool.run, ready.accepting, hroom]
    exact if_neg (Nat.ne_of_gt ready.time)
  rw [run, hpool]
  cases script <;> rfl

theorem Ready.run_eq_ok_iff {α : Type} (ready : sandbox.Ready) {script : Except ScriptFault α}
    {outcome : α} : sandbox.run script = .ok outcome ↔ script = .ok outcome := by
  rw [ready.run_eq]
  cases script <;> simp

theorem Ready.allowedBy_eq_ok_true_iff (ready : sandbox.Ready) {context : Fields Value}
    {validator : Validator} :
    sandbox.allowedBy context validator = .ok true ↔
      validator.Permits sandbox.fuel context := by
  rw [allowedBy, ready.run_eq_ok_iff, Script.runCode_eq_ok_iff, Validator.Permits]

/-- What the gates have decided when one more run has ended: one that denies or fails decides
against the step. -/
def tallied (allowed : Bool) : Except ValidatorFault Bool → Bool
  | .ok true => allowed
  | _ => false

/-- What the gates decide when their runs end one after the other. -/
def tally (outcomes : List (Except ValidatorFault Bool)) : Bool :=
  outcomes.foldl tallied true

theorem foldl_tallied_iff {outcomes : List (Except ValidatorFault Bool)} {allowed : Bool} :
    outcomes.foldl tallied allowed = true ↔
      allowed = true ∧ ∀ outcome ∈ outcomes, outcome = .ok true := by
  induction outcomes generalizing allowed with
  | nil => simp
  | cons outcome rest ih =>
      rw [List.foldl_cons, ih]
      rcases outcome with fault | (_ | _) <;> simp [tallied]

theorem tally_eq_true_iff {outcomes : List (Except ValidatorFault Bool)} :
    tally outcomes = true ↔ ∀ outcome ∈ outcomes, outcome = .ok true := by
  rw [tally, foldl_tallied_iff]
  exact and_iff_right rfl

/-- The order in which runs end does not matter. -/
theorem tally_perm {outcomes others : List (Except ValidatorFault Bool)}
    (h : outcomes.Perm others) : tally outcomes = tally others := by
  rw [Bool.eq_iff_iff, tally_eq_true_iff, tally_eq_true_iff]
  exact forall_congr' fun outcome => by rw [h.mem_iff]

end Sandbox

namespace Edge

/-- A validator decides about a step along an edge: it is a step validator of the project with
some code, and the edge lists its key. -/
structure GatedBy (edge : Edge) (project : Option Project) (validator : Validator) : Prop where
  owned : ∃ owner, project = some owner ∧ validator ∈ owner.validators
  kind : validator.kind = .stepAccess
  written : Text.isBlank validator.code.toList = false
  listed : validator.key ∈ edge.gates

/-- The condition of an edge holds, and every gate permits the step on its own fuel. -/
structure Open (edge : Edge) (fuel : Nat) (project : Option Project) (view : View) : Prop where
  condition : ∀ condition, edge.condition = some condition →
    evaluate condition view.conditions = true
  gates : ∀ validator, edge.GatedBy project validator →
    validator.Permits fuel (Sandbox.stepContext view.flat edge.target)

/-- The validators that run for a step along an edge. -/
def runs (edge : Edge) (project : Option Project) : List Validator :=
  (edge.gateValidators project).filter (Sandbox.isRun .stepAccess)

/-- Is an edge open, when the runs of its gates end in the given order? -/
def isOpenAfter (edge : Edge) (sandbox : Sandbox) (ended : List Validator) (view : View) : Bool :=
  edge.condition.all (fun condition => evaluate condition view.conditions) &&
    Sandbox.tally (ended.map (sandbox.allowedBy (Sandbox.stepContext view.flat edge.target)))

variable {edge : Edge} {sandbox : Sandbox} {project : Option Project} {view : View}

/-- The order of the validators in the project does not matter. -/
theorem GatedBy.shuffled {owner other : Project} {validator : Validator}
    (hg : edge.GatedBy (some owner) validator) (h : owner.validators.Perm other.validators) :
    edge.GatedBy (some other) validator := by
  obtain ⟨⟨_, ⟨⟩, howned⟩, hkind, hwritten, hlisted⟩ := hg
  exact ⟨⟨other, rfl, h.mem_iff.mp howned⟩, hkind, hwritten, hlisted⟩

theorem Open.shuffled {owner other : Project} {fuel : Nat}
    (ho : edge.Open fuel (some owner) view) (h : owner.validators.Perm other.validators) :
    edge.Open fuel (some other) view := by
  constructor
  · exact ho.condition
  · intro validator hg
    exact ho.gates validator (hg.shuffled h.symm)

theorem mem_runs_iff {validator : Validator} :
    validator ∈ edge.runs project ↔ edge.GatedBy project validator := by
  constructor
  · intro h
    obtain ⟨hgate, hrun⟩ := List.mem_filter.mp h
    cases project with
    | none => cases hgate
    | some owner =>
        obtain ⟨howned, hkind, hlisted⟩ : validator ∈ owner.validators ∧
            validator.kind = .stepAccess ∧ validator.key ∈ edge.gates := by
          simpa [gateValidators, Project.select] using hgate
        exact ⟨⟨owner, rfl, howned⟩, hkind, by simpa [Sandbox.isRun, hkind] using hrun, hlisted⟩
  · rintro ⟨⟨owner, rfl, howned⟩, hkind, hwritten, hlisted⟩
    simp [runs, gateValidators, Project.select, Sandbox.isRun, howned, hkind, hwritten, hlisted]

/-- An edge is open whatever the order in which the runs of its gates end. -/
theorem isOpen_eq_isOpenAfter {ended : List Validator} (h : ended.Perm (edge.runs project)) :
    edge.isOpen sandbox project view = edge.isOpenAfter sandbox ended view := by
  have hall : sandbox.stepAllowed (edge.gateValidators project) view.flat edge.target =
      Sandbox.tally ((edge.runs project).map
        (sandbox.allowedBy (Sandbox.stepContext view.flat edge.target))) := by
    rw [Bool.eq_iff_iff, Sandbox.tally_eq_true_iff, Sandbox.stepAllowed, List.all_eq_true,
      List.forall_mem_map]
    refine forall₂_congr fun validator _ => ?_
    rcases sandbox.allowedBy _ validator with fault | allowed <;> simp
  rw [isOpen, isOpenAfter, hall, Sandbox.tally_perm (h.map _)]

theorem isOpen_iff (ready : sandbox.Ready) :
    edge.isOpen sandbox project view = true ↔ edge.Open sandbox.fuel project view := by
  have hgates : Sandbox.tally ((edge.runs project).map
      (sandbox.allowedBy (Sandbox.stepContext view.flat edge.target))) = true ↔
      ∀ validator, edge.GatedBy project validator →
        validator.Permits sandbox.fuel (Sandbox.stepContext view.flat edge.target) := by
    rw [Sandbox.tally_eq_true_iff, List.forall_mem_map]
    refine forall_congr' fun validator => ?_
    rw [mem_runs_iff, ready.allowedBy_eq_ok_true_iff]
  rw [isOpen_eq_isOpenAfter (.refl _), isOpenAfter, Bool.and_eq_true, hgates, Option.all_eq_true]
  exact ⟨fun h => ⟨h.1, h.2⟩, fun h => ⟨h.condition, h.gates⟩⟩

end Edge

end FormFlow

import FormFlow.Project
import FormFlow.Sandbox.Pool
import FormFlow.Script.Basic

/-!
# The sandbox of validators

Validators are code of authors who are not trusted. Each run has a budget of steps and a place in a
pool with a time limit, and sees only the context it is given. A validator that fails in any way is
left out where permissions are merged, and denies where a step is asked for.
-/

namespace FormFlow

/-- How a sandbox runs code. -/
inductive Engine where
  /-- It interprets the code as a script. -/
  | interpreting
  /-- Every run crashes. -/
  | crashing
  /-- No run ever finishes. -/
  | stalling
deriving DecidableEq

/-- What an engine does when it is told to run `script`. -/
def Engine.job {α : Type} (engine : Engine) (script : α) : Job α :=
  match engine with
  | .interpreting => .returns fun _ => script
  | .crashing => .crashes
  | .stalling => .stalls

/-- The limits of a sandbox. -/
structure SandboxSettings where
  /-- How many validators run at once. -/
  maxConcurrency : Nat
  /-- The time limit of a run, in milliseconds. -/
  timeout : Nat
  /-- The steps a run may take. -/
  fuel : Nat
deriving DecidableEq

def SandboxSettings.standard : SandboxSettings :=
  { maxConcurrency := 4
    timeout := 2000
    fuel := 10000 }

structure Sandbox where
  engine : Engine
  fuel : Nat
  pool : Pool
deriving DecidableEq

/-- Why a validator has no outcome. -/
inductive ValidatorFault where
  | pool (fault : PoolFault)
  | script (fault : ScriptFault)
deriving DecidableEq

namespace Script

/-- Compile code and run it with a budget of steps. -/
def runCode {α : Type} (kind : ScriptKind) (code : String) (fuel : Nat)
    (run : Script → Metered α) : Except ScriptFault α :=
  match compile kind code with
  | .error fault => .error fault
  | .ok script =>
      match ((run script).runWith (.withFuel fuel)).1 with
      | .error fault => .error (.runtime fault)
      | .ok outcome => .ok outcome

end Script

namespace Sandbox

def create (settings : SandboxSettings) (engine : Engine) : Sandbox :=
  ⟨engine, settings.fuel, .create settings.maxConcurrency settings.timeout⟩

/-- The outcome of one run in the pool. The pool is the same for every run: only a stalling engine
takes permits away, and its runs time out with or without one (`run_of_used`). -/
def run {α : Type} (sandbox : Sandbox) (script : Except ScriptFault α) : Except ValidatorFault α :=
  match (sandbox.pool.run (sandbox.engine.job script)).1 with
  | .error fault => .error (.pool fault)
  | .ok (.error fault) => .error (.script fault)
  | .ok (.ok outcome) => .ok outcome

/-- What has become of a pool in which an engine runs code. The first pool is the one that is only
ever shut down; the second is also what every run has left. -/
inductive Used (engine : Engine) : Pool → Pool → Prop
  | fresh (pool : Pool) : Used engine pool pool
  | run {pool used : Pool} {α : Type} (earlier : Used engine pool used) (script : α) :
      Used engine pool (used.run (engine.job script)).2
  | shutdown {pool used : Pool} (earlier : Used engine pool used) :
      Used engine pool.shutdown used.shutdown

/-- Runs leave the pool as it is, but for the permits that runs of a stalling engine keep. -/
theorem Used.cases {engine : Engine} {pool left : Pool} (used : Used engine pool left) :
    left = pool ∨ engine = .stalling ∧ ∃ free, left = { pool with free } := by
  induction used with
  | fresh => exact .inl rfl
  | @run pool left _ _ script ih =>
      rcases left.run_snd (engine.job script) with hsame | ⟨hjob, others, hkept⟩
      · rwa [hsame]
      · have hstalling : engine = .stalling := by
          cases engine with
          | interpreting | crashing => cases hjob
          | stalling => rfl
        refine .inr ⟨hstalling, others, hkept.trans ?_⟩
        rcases ih with rfl | ⟨-, free, rfl⟩ <;> rfl
  | shutdown _ ih =>
      rcases ih with rfl | ⟨hstalling, free, rfl⟩
      · exact .inl rfl
      · exact .inr ⟨hstalling, free, rfl⟩

/-- The outcome of a run is the same in the pool that runs before have left. -/
theorem run_of_used {α : Type} {sandbox : Sandbox} {left : Pool}
    (used : Used sandbox.engine sandbox.pool left) (script : Except ScriptFault α) :
    run { sandbox with pool := left } script = sandbox.run script := by
  rcases used.cases with rfl | ⟨hstalling, free, rfl⟩
  · rfl
  · have hrun : (Pool.run { sandbox.pool with free } (sandbox.engine.job script)).1 =
        (sandbox.pool.run (sandbox.engine.job script)).1 := by
      rw [hstalling]
      exact Pool.run_stalls_fst free
    simp only [run, hrun]

/-- The permissions one validator gives to fields. -/
def permissionsOf (sandbox : Sandbox) (context : Fields Value) (validator : Validator) :
    Except ValidatorFault (Fields Permission) :=
  sandbox.run
    (Script.runCode .fieldVisibility validator.code sandbox.fuel (·.fieldPermissions context))

/-- Does one validator allow a step? -/
def allowedBy (sandbox : Sandbox) (context : Fields Value) (validator : Validator) :
    Except ValidatorFault Bool :=
  sandbox.run (Script.runCode .stepAccess validator.code sandbox.fuel (·.allows context))

/-- Is the validator of the kind, and is there code in it? -/
def isRun (kind : ScriptKind) (validator : Validator) : Bool :=
  validator.kind = kind && !Text.isBlank validator.code.toList

/-- The permissions of all validators, later ones over earlier ones. Those that fail give none. -/
def fieldPermissions (sandbox : Sandbox) (validators : List Validator) (context : Fields Value) :
    Fields Permission :=
  (validators.filter (isRun .fieldVisibility)).foldl (fun merged validator =>
    match sandbox.permissionsOf context validator with
    | .ok permissions => merged.extend permissions
    | .error _ => merged) []

/-- The context in which a step to `target` is judged. -/
def stepContext (context : Fields Value) (target : NodeId) : Fields Value :=
  context.insert "node_id" (.string target.text)

/-- Do all validators allow the step to `target`? One that fails does not. -/
def stepAllowed (sandbox : Sandbox) (validators : List Validator) (context : Fields Value)
    (target : NodeId) : Bool :=
  (validators.filter (isRun .stepAccess)).all fun validator =>
    match sandbox.allowedBy (stepContext context target) validator with
    | .ok allowed => allowed
    | .error _ => false

/-- Let every later run fail. -/
def shutdown (sandbox : Sandbox) : Sandbox :=
  { sandbox with pool := sandbox.pool.shutdown }

end Sandbox

end FormFlow
